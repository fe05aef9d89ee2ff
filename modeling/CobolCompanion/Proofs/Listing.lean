import CobolCompanion.Proofs.Significance

namespace CobolCompanion

open Parse

namespace Listing

/-- Trivia between two tokens. None of them passes for a period. -/
structure Gap (score : Similarity) where
  tokens : List Token
  isTrivia : ∀ t ∈ tokens, t.isTrivia
  not_period : ∀ t ∈ tokens, Keyword.accepts score t "." = false

/-- A token that spells a keyword, in any case. -/
structure Spelling (keyword : String) where
  token : Token
  not_trivia : token.isTrivia = false
  not_endOfInput : token.isEndOfInput = false
  upper_lexeme : upper token.lexeme = keyword

/-- A keyword with the trivia before it. -/
structure Written (score : Similarity) (keyword : String) extends Spelling keyword where
  before : Gap score

/-- The name of a program with the trivia before it. It is a word without quotes. -/
structure Name (score : Similarity) where
  before : Gap score
  token : Token
  isWord : token.isWord
  not_quote : ∀ c ∈ token.lexeme.toList, isQuote c = false

/--
The body of a division. Nothing in it passes for the words that headers and trailers need.
-/
structure Body (score : Similarity) where
  tokens : List Token
  not_endOfInput : ∀ t ∈ tokens, t.isEndOfInput = false
  not_division : ∀ t ∈ tokens, Keyword.accepts score t "DIVISION" = false
  not_program : ∀ t ∈ tokens, Keyword.accepts score t "PROGRAM" = false

/-- An identification division. The period after `PROGRAM-ID` follows it directly. -/
structure Identification (score : Similarity) where
  opening : String
  opening_mem : opening ∈ identificationOpeners
  opener : Written score opening
  division : Written score "DIVISION"
  period : Written score "."
  programId : Written score "PROGRAM-ID"
  namePeriod : Spelling "."
  name : Name score
  lastPeriod : Written score "."

structure Part (score : Similarity) (d : Division) where
  opener : Written score d.opener
  division : Written score "DIVISION"
  period : Written score "."
  beforeBody : Gap score
  body : Body score

structure Trailer (score : Similarity) where
  ending : Written score "END"
  program : Written score "PROGRAM"
  name : Name score
  period : Written score "."

/-- A program unit: its divisions, the units nested in it, and the trailer with its own name. -/
inductive Program (score : Similarity) where
  | mk (identification : Identification score) (parts : (d : Division) → Option (Part score d))
    (nested : List (Program score)) (trailer : Trailer score)
    (sameName : trailer.name.token.lexeme = identification.name.token.lexeme)

variable {score : Similarity}

def Written.tokens {keyword : String} (w : Written score keyword) : List Token :=
  w.before.tokens ++ [w.token]

def Name.tokens (n : Name score) : List Token :=
  n.before.tokens ++ [n.token]

namespace Identification

def text (i : Identification score) : List Token :=
  i.opener.token :: i.division.tokens ++ i.period.tokens ++ i.programId.tokens ++
    [i.namePeriod.token] ++ i.name.tokens ++ i.lastPeriod.tokens

def element (i : Identification score) : Element :=
  .node { kind := .identificationDivision } <| List.map .token
    [i.opener.token, i.division.token, i.period.token, i.programId.token, i.namePeriod.token,
      i.name.token, i.lastPeriod.token]

end Identification

namespace Part

variable {d : Division}

def tokens (p : Part score d) : List Token :=
  p.opener.tokens ++ p.division.tokens ++ p.period.tokens ++
    p.beforeBody.tokens ++ p.body.tokens

def element (p : Part score d) : Element :=
  .node { kind := d.kind } <| List.map .token <|
    [p.opener.token, p.division.token, p.period.token] ++ significantTokens p.body.tokens

end Part

namespace Trailer

def tokens (r : Trailer score) : List Token :=
  r.ending.tokens ++ r.program.tokens ++ r.name.tokens ++ r.period.tokens

def elements (r : Trailer score) : List Element :=
  List.map .token [r.ending.token, r.program.token, r.name.token, r.period.token]

end Trailer

def partTokens (parts : (d : Division) → Option (Part score d)) (ds : List Division) :
    List Token :=
  ds.flatMap fun d => (parts d).elim [] Part.tokens

def partElements (parts : (d : Division) → Option (Part score d)) (ds : List Division) :
    List Element :=
  ds.filterMap fun d => (parts d).map Part.element

section
variable {parts : (d : Division) → Option (Part score d)} {d : Division} (ds : List Division)

theorem partTokens_cons_of_none (h : parts d = none) :
    partTokens parts (d :: ds) = partTokens parts ds := by
  simp [partTokens, h]

theorem partTokens_cons_of_some {p : Part score d} (h : parts d = some p) :
    partTokens parts (d :: ds) = p.tokens ++ partTokens parts ds := by
  simp [partTokens, h]

theorem partElements_cons_of_none (h : parts d = none) :
    partElements parts (d :: ds) = partElements parts ds := by
  simp [partElements, h]

theorem partElements_cons_of_some {p : Part score d} (h : parts d = some p) :
    partElements parts (d :: ds) = p.element :: partElements parts ds := by
  simp [partElements, h]

end

namespace Program

def identification : Program score → Identification score
  | mk identification .. => identification

mutual
/-- The tokens of a unit without the trivia before them. -/
def text : Program score → List Token
  | mk identification parts nested trailer _ =>
    identification.text ++ partTokens parts Division.all ++ tokensAll nested ++ trailer.tokens

def tokensAll : List (Program score) → List Token
  | [] => []
  | u :: us => u.identification.opener.before.tokens ++ text u ++ tokensAll us
end

mutual
def element : Program score → Element
  | mk identification parts nested trailer _ =>
    .node { kind := .programUnit, name := some identification.name.token.lexeme } <|
      identification.element :: partElements parts Division.all ++ elements nested ++
        trailer.elements

def elements : List (Program score) → List Element
  | [] => []
  | u :: us => element u :: elements us
end

end Program

end Listing

end CobolCompanion
