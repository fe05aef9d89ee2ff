import CobolCompanion.Parse.Production

namespace CobolCompanion.Parse

/-- What the machine is about to read. -/
inductive Phase where
  /-- The next item of the source unit. No program unit is open. -/
  | sourceUnit
  /-- The rest of the innermost program unit, with the divisions that may still come. -/
  | programUnit (divisions : List Division)
  deriving DecidableEq

/--
A phase and the state in it. Program units nest to any depth, so the machine makes one step for
each division, each unit that is opened and each unit that is closed; the open units lie on the
stack of the context.
-/
structure Configuration where
  phase : Phase
  state : State

namespace State

/--
Recovers from a failure: all open units are given up, and the rest of the statement is skipped.
-/
def recover (s : State) : State :=
  let s := { s with context := s.context.abandon, openNames := [] }
  let s := s.skip 1
  s.skip (statementLength s.unread)

def leaveUnit (s : State) : State :=
  { s with context := s.context.close, openNames := s.openNames.tail }

/-- The first significant token ahead, or else the next token. -/
def nextSignificant (s : State) : Token :=
  (firstSignificant 1 s.unread).headD s.peek

/-- Whether the trailer ahead names a unit around the innermost one, and not that one itself. -/
def trailerClosesEnclosing (s : State) : Bool :=
  match (firstSignificant 3 s.unread)[2]?, s.openNames with
  | some t, own :: enclosing =>
    own != upper (programNameOf t) && enclosing.contains (upper (programNameOf t))
  | _, _ => false

end State

/-- The divisions that come after all those that are present. -/
def divisionsAfter (present : List NodeKind) : List Division :=
  (Division.all.reverse.takeWhile fun d => !present.contains d.kind).reverse

/-- The keywords with which a division header could begin after what a unit already has. -/
def expectedOpeners (unit : Node) : List String :=
  let present := unit.childNodes.map (·.kind)
  let divisions := if present.contains .programUnit then [] else divisionsAfter present
  divisions.map Division.opener ++ identificationOpeners

/-- A division header at a place where it cannot stand. -/
def unexpectedHeader : Production Unit := do
  let s ← get
  let t := s.nextSignificant
  Production.fail (.noAlternative t.lexeme (expectedOpeners s.context.current) t.range)

/-- The complaint about a token that begins no program unit. -/
def unknownInput (t : Token) : Diagnostic :=
  .error t.range "unknown-input" s!"Unknown input: '{t.lexeme}'"

/-- Goes on in a phase after a production, or recovers where it gave up. -/
def Configuration.after (p : Production Unit) (phase : Phase) (s : State) : Configuration :=
  match p s with
  | .ok _ s => ⟨phase, s⟩
  | .error _ s => ⟨.sourceUnit, s.recover⟩

section
variable (score : Similarity)

/-- Opens a program unit: reads its identification division and notes its name. -/
def openUnit : Production Unit := do
  modify (·.openNode .programUnit)
  let name ← Production.identificationDivision score
  modify fun s =>
    { s with
      openNames := upper (programNameOf name) :: s.openNames
      context := s.context.modify ({ · with name := some (programNameOf name) }) }

/--
Closes the innermost program unit and goes on in the unit around it, or in the source unit.
-/
def closeUnit (s : State) : Configuration :=
  if s.leaveUnit.context.frames.isEmpty then ⟨.sourceUnit, s.leaveUnit.shiftTrivia⟩
  else ⟨.programUnit [], s.leaveUnit⟩

def sourceUnitStep (s : State) : Configuration :=
  let s := s.shiftTrivia
  if s.unread.isEmpty then ⟨.sourceUnit, s⟩
  else if !s.peek.isEndOfInput && identificationOpeners.any (Keyword.accepts score s.peek) then
    .after (openUnit score) (.programUnit Division.all) s
  else ⟨.sourceUnit, ((s.report [unknownInput s.peek]).skip 1).shiftTrivia⟩

/-- Reads what comes after the divisions of a program unit: nested units, then the trailer. -/
def programUnitStep (s : State) : Configuration :=
  if atIdentificationHeader score s.unread then
    .after (openUnit score) (.programUnit Division.all) s.shiftTrivia
  else if atAnyHeader score s.statementStart s.unread then
    .after unexpectedHeader .sourceUnit s
  else if atEndProgram score s.unread && !s.trailerClosesEnclosing then
    match Production.endProgram score s with
    | .ok _ s => closeUnit s
    | .error _ s => ⟨.sourceUnit, s.recover⟩
  else closeUnit s

def step (c : Configuration) : Configuration :=
  match c.phase with
  | .sourceUnit => sourceUnitStep score c.state
  | .programUnit [] => programUnitStep score c.state
  | .programUnit (d :: divisions) =>
    if atDivisionHeader score d c.state.unread then
      .after (Production.division score d) (.programUnit divisions) c.state
    else ⟨.programUnit divisions, c.state⟩

end

namespace Configuration

/-- The machine stops before an item of the source unit when nothing is left to read. -/
def isFinal (c : Configuration) : Bool :=
  c.phase == .sourceUnit && c.state.unread.isEmpty

/-- How much of a program unit is still to come, if nothing more is read. -/
def rank (c : Configuration) : Nat :=
  match c.phase with
  | .sourceUnit => 0
  | .programUnit divisions => divisions.length + 1

/-- What every step makes smaller: the unread tokens, then the open units, then the rank. -/
def Precedes (c d : Configuration) : Prop :=
  c.state.unread.length < d.state.unread.length ∨
    c.state.unread.length = d.state.unread.length ∧
      (c.state.context.frames.length < d.state.context.frames.length ∨
        c.state.context.frames.length = d.state.context.frames.length ∧ c.rank < d.rank)

end Configuration

end CobolCompanion.Parse
