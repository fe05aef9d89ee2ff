import CobolCompanion.Parse.Failure
import CobolCompanion.Parse.State

namespace CobolCompanion

open Parse in
/--
A production: it changes the state, and yields a value or gives up. What it has read before it
gives up stays where it is.
-/
abbrev Production (α : Type) :=
  EStateM Failure State α

namespace Production

open Parse

def fail {α : Type} (f : Failure) : Production α := do
  modify (·.report [f.diagnostic])
  throw f

def next : Production Token :=
  return (← get).peek

def spaces : Production Unit :=
  modify State.shiftTrivia

/-- Runs a production inside a new node, which is closed whether it succeeds or not. -/
def inNode {α : Type} (kind : NodeKind) (p : Production α) : Production α := fun s =>
  match p (s.openNode kind) with
  | .ok a s => .ok a s.closeNode
  | .error f s => .error f s.closeNode

/-- The name of a program: any token but a period. -/
def programName : Production Token := do
  let t ← next
  if t.isEndOfInput then fail (.unexpectedEndOfInput "program name" t.range)
  else if t.isTerminator then fail (.unexpectedToken t.lexeme "program name" t.range)
  else
    modify (·.shift 1)
    return t

section
variable (score : Similarity)

/-- Reads the next token as a keyword. A misspelling is reported. -/
def accept (t : Token) (keyword : String) : Production Unit :=
  modify fun s => (s.report (Keyword.warnings score t keyword)).shift 1

def sees (keywords : List String) : Production Bool := do
  let t ← next
  return !t.isEndOfInput && keywords.any (Keyword.accepts score t)

def expect (keyword : String) : Production Unit := do
  let t ← next
  if t.isEndOfInput then fail (.unexpectedEndOfInput (quoteAll [keyword]) t.range)
  else if Keyword.accepts score t keyword then accept score t keyword
  else fail (.unexpectedToken t.lexeme keyword t.range)

/--
The keyword that a token is read as: one that it is exactly, or else the first it resembles.
-/
def choose? (t : Token) (keywords : List String) : Option String :=
  (keywords.find? fun keyword => (Keyword.compare score t.lexeme keyword).isExact).or
    (keywords.find? (Keyword.accepts score t))

/-- Reads the next token as the keyword chosen among some, and gives up if none was. -/
def acceptChosen (t : Token) (keywords : List String) : Option String → Production Unit
  | some keyword => accept score t keyword
  | none => fail (.noAlternative t.lexeme keywords t.range)

def expectOneOf (keywords : List String) : Production Unit := do
  let t ← next
  if t.isEndOfInput then fail (.unexpectedEndOfInput (quoteAll keywords) t.range)
  else acceptChosen score t keywords (choose? score t keywords)

def allow (keyword : String) : Production Unit := do
  let t ← next
  if !t.isEndOfInput && Keyword.accepts score t keyword then accept score t keyword

/-- Reads the body of a division as it is, up to the next boundary. -/
def content : Production Unit :=
  modify fun s => s.shift (contentLength score s.statementStart s.unread)

/-- The qualification of a program, with or without the word that introduces it. -/
def qualification : Production Unit := do
  if ← sees score ["IS"] then
    expect score "IS"
    spaces
    expectOneOf score qualifiers
    spaces
    allow score "PROGRAM"
  else if ← sees score qualifiers then
    expectOneOf score qualifiers
    spaces
    allow score "PROGRAM"

/-- The header of an identification division up to the name of the program, which it yields. -/
def identificationHeader : Production Token := do
  expectOneOf score identificationOpeners
  spaces
  expect score "DIVISION"
  spaces
  expect score "."
  spaces
  expect score "PROGRAM-ID"
  allow score "."
  spaces
  programName

/-- The identification division. It yields the token that names the program. -/
def identificationDivision : Production Token :=
  inNode .identificationDivision do
    let name ← identificationHeader score
    spaces
    qualification score
    spaces
    allow score "."
    content score
    return name

/--
The header of any other division. The period of the procedure division is left to its body.
-/
def divisionHeader (d : Division) : Production Unit := do
  expect score d.opener
  spaces
  expect score "DIVISION"
  match d with
  | .procedure => allow score "."
  | _ =>
    spaces
    expect score "."

def division (d : Division) : Production Unit := do
  spaces
  inNode d.kind do
    divisionHeader score d
    content score

/-- The words of a trailer. They yield the token that names the program. -/
def endProgramWords : Production Token := do
  spaces
  expect score "END"
  spaces
  expect score "PROGRAM"
  spaces
  let name ← programName
  spaces
  expect score "."
  return name

/-- The warning about a trailer that names another program than the unit it closes. -/
def trailerMismatch (name : Token) (declared : String) : Diagnostic :=
  .warning name.range "end-program-mismatch"
    s!"END PROGRAM '{programNameOf name}' does not match PROGRAM-ID '{declared}'"

/-- Compares the name in a trailer with that of the unit that it closes. -/
def checkTrailer (name : Token) (s : State) : State :=
  match s.openNames with
  | [] => s
  | own :: _ =>
    if own = upper (programNameOf name) then s
    else s.report [trailerMismatch name (s.context.current.name.getD "")]

def endProgram : Production Unit := do
  let name ← endProgramWords score
  modify (checkTrailer name)

end

end Production

end CobolCompanion
