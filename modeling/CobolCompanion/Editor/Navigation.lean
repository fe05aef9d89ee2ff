import CobolCompanion.Analysis

namespace CobolCompanion

/-- Whether a name is declared at a place or only used there. -/
inductive HighlightKind where
  | read
  | write
  deriving DecidableEq, Inhabited

/-- The number of a kind in the language server protocol. -/
def HighlightKind.code : HighlightKind → Nat
  | read => 2
  | write => 3

namespace Analysis

def definitionsAt (a : Analysis) (p : Position) : List Range :=
  match a.wordAt? p with
  | some word => a.index.definitions word.lexeme
  | none => []

/-- The places where the word at a position occurs, with or without its declarations. -/
def referencesAt (a : Analysis) (p : Position) (declarations : Bool) : List Range :=
  match a.wordAt? p with
  | some word =>
    let all := a.index.occurrencesOf word.lexeme
    if declarations then all
    else all.filter fun r => !(a.index.definitions word.lexeme).contains r
  | none => []

/-- The places where the word at a position occurs; declarations count as writing. -/
def highlightsAt (a : Analysis) (p : Position) : List (Range × HighlightKind) :=
  match a.wordAt? p with
  | some word =>
    (a.index.occurrencesOf word.lexeme).map fun r =>
      (r, if (a.index.definitions word.lexeme).contains r then .write else .read)
  | none => []

end Analysis

end CobolCompanion
