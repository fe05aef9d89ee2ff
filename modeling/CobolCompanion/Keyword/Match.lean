import CobolCompanion.Diagnostic
import CobolCompanion.Keyword.Similarity
import CobolCompanion.Text.Casing
import CobolCompanion.Token.Basic

namespace CobolCompanion

/-- The outcome of comparing a word with a keyword. -/
inductive KeywordMatch where
  | exact
  | similar (score : Float)
  | mismatch

def KeywordMatch.isAccepted : KeywordMatch → Bool
  | mismatch => false
  | _ => true

def KeywordMatch.isExact : KeywordMatch → Bool
  | exact => true
  | _ => false

namespace Keyword

/-- A word counts as a misspelt keyword when its score lies above this. -/
def threshold : Float :=
  0.85

/-- Compares a word with a keyword. The empty word never matches. -/
def compare (score : Similarity) (actual expected : String) : KeywordMatch :=
  if actual.isEmpty || expected.isEmpty then .mismatch
  else if upper actual = upper expected then .exact
  else
    let s := score (upper actual) (upper expected)
    if s > threshold then .similar s else .mismatch

def accepts (score : Similarity) (t : Token) (expected : String) : Bool :=
  (compare score t.lexeme expected).isAccepted

def misspelling (t : Token) (expected : String) : Diagnostic :=
  .warning t.range "similar-keyword"
    s!"Possible misspelling: '{t.lexeme}' was accepted as '{expected}'"

/-- What is reported when a token is accepted as a keyword. -/
def warnings (score : Similarity) (t : Token) (expected : String) : List Diagnostic :=
  match compare score t.lexeme expected with
  | .similar _ => [misspelling t expected]
  | _ => []

end Keyword

end CobolCompanion
