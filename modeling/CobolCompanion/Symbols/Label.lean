import CobolCompanion.Symbols.Basic

namespace CobolCompanion

/-- The verbs that may be a sentence of their own, and so are no labels. -/
def standaloneVerbs : List String :=
  ["EXIT", "GOBACK", "CONTINUE", "STOP"]

def isStandaloneVerb (lexeme : String) : Bool :=
  "END-".toList.isPrefixOf (upper lexeme).toList || standaloneVerbs.contains (upper lexeme)

def labelKind? : List Token → Option LabelKind
  | [] => none
  | t :: ts =>
    if t.isTerminator then some .paragraph
    else if sameIgnoringCase t.lexeme "SECTION" &&
      ts.head?.any Token.isTerminator then some .section
    else none

/-- The labels among significant tokens, given the line of the token before them. -/
def labelsAfter (program : Option Nat) (previousLine : Option Nat) :
    List Token → List LabelSymbol
  | [] => []
  | t :: ts =>
    let rest := labelsAfter program (some t.position.line) ts
    if t.isWord && previousLine != some t.position.line && !isStandaloneVerb t.lexeme then
      match labelKind? ts with
      | some kind => ⟨t.lexeme, kind, t.range, program⟩ :: rest
      | none => rest
    else rest

/--
The labels of a procedure division, in the order of the text. They are found by their form
alone: a word that is the first on its line, with a period, or the word SECTION and a period,
after it.
-/
def labels (program : Option Nat) (tokens : List Token) : List LabelSymbol :=
  labelsAfter program none (tokens.filter Token.isSignificant)

end CobolCompanion
