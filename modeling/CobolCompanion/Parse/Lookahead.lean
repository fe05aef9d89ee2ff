import CobolCompanion.Keyword.Match
import CobolCompanion.Token.Stream
import CobolCompanion.Tree.Basic

namespace CobolCompanion.Parse

/-- The divisions that may follow the identification division, in their order. -/
inductive Division where
  | environment
  | data
  | procedure
  deriving DecidableEq, Inhabited

namespace Division

/-- All divisions, in the order in which a program unit may hold them. -/
def all : List Division :=
  [environment, data, procedure]

def kind : Division → NodeKind
  | environment => .environmentDivision
  | data => .dataDivision
  | procedure => .procedureDivision

def opener : Division → String
  | environment => "ENVIRONMENT"
  | data => "DATA"
  | procedure => "PROCEDURE"

end Division

def identificationOpeners : List String :=
  ["ID", "IDENTIFICATION"]

def qualifiers : List String :=
  ["RECURSIVE", "INITIAL"]

/-- What is asked of one token ahead. -/
inductive Ahead where
  /-- The token would be accepted as a keyword. -/
  | keyword (expected : String)
  /-- The token is this word, in any case of its ASCII letters. -/
  | exactly (expected : String)
  | anyWord

def Ahead.test (score : Similarity) (t : Token) : Ahead → Bool
  | keyword expected => Keyword.accepts score t expected
  | exactly expected => sameIgnoringCase t.lexeme expected
  | anyWord => t.isWord

section
variable (score : Similarity)

/-- Whether the next significant tokens are, one by one, what is asked for. -/
def looksLike (pattern : List Ahead) (unread : List Token) : Bool :=
  let ahead := firstSignificant pattern.length unread
  ahead.length == pattern.length && (ahead.zip pattern).all fun (t, expected) =>
    expected.test score t

/-- The header of a division whose period counts as part of the header. -/
def atPeriodHeader (opener : String) (unread : List Token) : Bool :=
  looksLike score [.keyword opener, .keyword "DIVISION", .keyword "."] unread

/--
The header of a division. Between that of the procedure division and its period more may stand.
-/
def atDivisionHeader (d : Division) (unread : List Token) : Bool :=
  match d with
  | .procedure => looksLike score [.keyword d.opener, .keyword "DIVISION"] unread
  | _ => atPeriodHeader score d.opener unread

def atIdentificationHeader (unread : List Token) : Bool :=
  identificationOpeners.any (atPeriodHeader score · unread)

/--
The header of any division: of a known one, or, at the start of a statement, of an unknown one
that is spelt out with its period.
-/
def atAnyHeader (statementStart : Bool) (unread : List Token) : Bool :=
  Division.all.any (atDivisionHeader score · unread) || atIdentificationHeader score unread ||
    statementStart && looksLike score [.anyWord, .exactly "DIVISION", .exactly "."] unread

def atEndProgram (unread : List Token) : Bool :=
  looksLike score [.keyword "END", .keyword "PROGRAM"] unread

/--
Whether a statement starts after a token. Trivia change nothing, a period starts a statement.
-/
def statementStartAfter (statementStart : Bool) (t : Token) : Bool :=
  if t.isTrivia || t.isEndOfInput then statementStart else t.isTerminator

/-- The number of tokens up to the next boundary between divisions. -/
def contentLength (statementStart : Bool) : List Token → Nat
  | [] => 0
  | t :: ts =>
    if t.isEndOfInput || atAnyHeader score statementStart (t :: ts) ||
      atEndProgram score (t :: ts)
    then 0
    else contentLength (statementStartAfter statementStart t) ts + 1

end

def triviaLength (unread : List Token) : Nat :=
  (unread.takeWhile Token.isTrivia).length

/--
The number of tokens up to the end of the statement; an end of input ends a statement too.
-/
def statementLength : List Token → Nat
  | [] => 0
  | t :: ts => if t.isEndOfInput || t.isTerminator then 1 else statementLength ts + 1

/--
The name of a program as it is written at a token. The quotes of a literal do not belong to it.
-/
def programNameOf (t : Token) : String :=
  let quoteless := t.lexeme.toList.dropWhile isQuote
  String.ofList (quoteless.reverse.dropWhile isQuote).reverse

end CobolCompanion.Parse
