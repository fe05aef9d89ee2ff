import CobolCompanion.Server.Session

namespace CobolCompanion.Rehearsal

/-- How the analysis of a text goes. -/
inductive Course where
  | plain
  /-- It waits until a label is released. -/
  | hold (label : String)
  | fail (message : String)
  | crash (message : Option String)
  deriving DecidableEq

def after? (opening : String) (text : List Char) : Option String :=
  if opening.toList.isPrefixOf text then some (String.ofList (text.drop opening.length))
  else none

def firstLine (text : String) : List Char :=
  let line := text.toList.takeWhile (· ≠ '\n')
  match line.reverse with
  | '\r' :: before => before.reverse
  | _ => line

/-- The course that the first line of a text asks for. -/
def course (text : String) : Course :=
  let line := firstLine text
  match after? "*> hold " line with
  | some label => .hold label
  | none =>
    match after? "*> fail " line with
    | some message => .fail message
    | none =>
      if line = "*> panic-any".toList then .crash none
      else if line = "*> panic".toList then .crash (some "engine exploded")
      else
        match after? "*> panic " line with
        | some message => .crash (some message)
        | none => .plain

/-- An engine that goes as the text asks. -/
def engine : Engine := fun stamp text =>
  match course text with
  | .fail message => .error (.failed message)
  | .crash message => .error (.crashed message)
  | _ => Engine.standard stamp text

/-- Whether an analysis goes on when a label, or none, is released. -/
def isReady (released : Option String) (task : Task) : Bool :=
  match course task.text with
  | .hold label => released == some label
  | _ => true

/-- Events of the client, and then every analysis that does not wait. -/
def perform (settings : Settings) (s : Session) (events : List Event) : Session × List Output :=
  s.perform settings engine (isReady none) events

def release (settings : Settings) (s : Session) (label : String) : Session × List Output :=
  s.perform settings engine (isReady (some label)) []

end CobolCompanion.Rehearsal
