import CobolCompanion.Parse.Context
import CobolCompanion.Parse.Lookahead

namespace CobolCompanion.Parse

/--
What a parser knows. Tokens leave the stream in two ways only: they are shifted to the node that
is being built, or they are skipped.
-/
structure State where
  stream : TokenStream
  context : Context
  diagnostics : List Diagnostic
  /-- The names of the program units that are open, in upper case, the innermost first. -/
  openNames : List String
  /-- Nothing significant was read since the last period, or since the start. -/
  statementStart : Bool
  /-- The productions under which tokens were read, the latest first. -/
  rules : List Rule

namespace State

def initial (stream : TokenStream) : State where
  stream
  context := .ofRoot (.ofKind .sourceUnit)
  diagnostics := []
  openNames := []
  statementStart := true
  rules := []

def unread (s : State) : List Token :=
  s.stream.unread

def peek (s : State) : Token :=
  s.stream.peek

/-- Reads tokens, without a word on what becomes of them. -/
def read (s : State) (n : Nat) : State :=
  let tokens := s.unread.take n
  { s with
    stream := { s.stream with unread := s.unread.drop n }
    statementStart := tokens.foldl statementStartAfter s.statementStart
    rules := List.replicate tokens.length s.context.rule ++ s.rules }

def shift (s : State) (n : Nat) : State :=
  { s.read n with context := s.context.modify (·.pushTokens (s.unread.take n)) }

/-- Reads tokens that could not be placed. An end of input leaves no trace. -/
def skip (s : State) (n : Nat) : State :=
  let kept := (s.unread.take n).filter (!·.isEndOfInput)
  { s.read n with context := s.context.modify (·.pushSkipped (kept.map .token)) }

def shiftTrivia (s : State) : State :=
  s.shift (triviaLength s.unread)

def report (s : State) (found : List Diagnostic) : State :=
  { s with diagnostics := s.diagnostics ++ found }

def openNode (s : State) (kind : NodeKind) : State :=
  { s with context := s.context.push (.ofKind kind) }

def closeNode (s : State) : State :=
  { s with context := s.context.close }

@[simp] theorem unread_read (s : State) (n : Nat) : (s.read n).unread = s.unread.drop n := rfl

@[simp] theorem unread_shift (s : State) (n : Nat) : (s.shift n).unread = s.unread.drop n := rfl

@[simp] theorem unread_skip (s : State) (n : Nat) : (s.skip n).unread = s.unread.drop n := rfl

@[simp] theorem unread_report (s : State) (ds : List Diagnostic) :
    (s.report ds).unread = s.unread :=
  rfl

@[simp] theorem unread_openNode (s : State) (kind : NodeKind) :
    (s.openNode kind).unread = s.unread := rfl

@[simp] theorem unread_closeNode (s : State) : s.closeNode.unread = s.unread := rfl

end State

end CobolCompanion.Parse
