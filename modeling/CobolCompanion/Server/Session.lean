import CobolCompanion.Documents.Classification
import CobolCompanion.Documents.Store
import CobolCompanion.Protocol.Position
import CobolCompanion.Server.Log

namespace CobolCompanion

inductive Notice where
  | extensionUnsupported (extension : String)
  | engineNotFound (language : String)
  | loading (uri : Uri)
  | loadingEnded (uri : Uri)
  | diagnostics (uri : Uri) (found : List Protocol.Diagnostic)
  | analysed (uri : Uri)
  deriving DecidableEq

/-- What a step brings about outside the session. -/
inductive Output where
  | notice (n : Notice)
  | log (e : LogEvent)
  deriving DecidableEq

inductive Trigger where
  | opened
  | changed
  deriving DecidableEq

/-- How far an analysis has come. -/
inductive Stage where
  /-- The document is registered, and the client does not know yet that it is being loaded. -/
  | accepted
  | running
  /-- The result is dealt with, and these notices are still to be sent. -/
  | reporting (notices : List Notice)
  deriving DecidableEq

/-- An analysis under way. Its stamp identifies it. -/
structure Task where
  uri : Uri
  text : String
  trigger : Trigger
  stage : Stage
  deriving DecidableEq

/--
The open documents and the analyses under way. Analyses run on their own, so every order in
which they end is a list of events.
-/
structure Session where
  store : Store := {}
  tasks : Keyed Nat Task := []

inductive Event where
  | opened (uri : Uri) (language : String) (text : String)
  | changed (uri : Uri) (text : String)
  | closed (uri : Uri)
  /-- The client is told that a document is being loaded, and its analysis starts. -/
  | announced (stamp : Nat)
  /-- An analysis ends, and its result is committed or dropped. -/
  | finished (stamp : Nat)
  /-- The next notice of an analysis that has ended is sent. -/
  | reported (stamp : Nat)
  deriving DecidableEq

namespace Task

def published (analysis : Analysis) : List Protocol.Diagnostic :=
  analysis.diagnostics.map .ofDiagnostic

/-- The notice about a finished analysis of an opened document. -/
def finding (uri : Uri) (found : List Protocol.Diagnostic) : Notice :=
  if found.isEmpty then .analysed uri else .diagnostics uri found

/-- The notices that an analysis sends after its result was dealt with. -/
def notices (task : Task) (analysis : Analysis) : Store.Outcome → List Notice
  | .committed =>
    match task.trigger with
    | .opened => [.loadingEnded task.uri, finding task.uri (published analysis)]
    | .changed => [.diagnostics task.uri (published analysis)]
  | _ =>
    match task.trigger with
    | .opened => [.loadingEnded task.uri]
    | .changed => []

def logged (task : Task) (stamp : Nat) : Store.Outcome → List Output
  | .closed => [.log (.finishedAfterClose task.uri stamp)]
  | _ => []

end Task

namespace Session

/-- Moves a task to a stage. It is over when it has nothing left to report. -/
def moveTo (s : Session) (stamp : Nat) (task : Task) (stage : Stage) : Session :=
  match stage with
  | .reporting [] => { s with tasks := s.tasks.erase stamp }
  | stage => { s with tasks := s.tasks.put stamp { task with stage } }

/-- Opens a document, if its extension and its language allow it. -/
def openDocument (settings : Settings) (s : Session) (uri : Uri) (language text : String) :
    Session × List Output :=
  match classify settings uri language with
  | .unsupportedExtension extension => (s, [.notice (.extensionUnsupported extension)])
  | .engineNotFound => (s, [.notice (.engineNotFound language)])
  | .recognized =>
    let task : Task := ⟨uri, text, .opened, .accepted⟩
    ({ store := s.store.register uri text, tasks := s.tasks.put s.store.next task }, [])

def changeDocument (s : Session) (uri : Uri) (text : String) : Session :=
  { store := s.store.begin uri
    tasks := s.tasks.put s.store.next ⟨uri, text, .changed, .running⟩ }

def announce (s : Session) (stamp : Nat) : Session × List Output :=
  match s.tasks.find? stamp with
  | some task =>
    match task.stage with
    | .accepted => (s.moveTo stamp task .running, [.notice (.loading task.uri)])
    | _ => (s, [])
  | none => (s, [])

/-- Deals with the result of an analysis. A failed analysis leaves only a line in the log. -/
def conclude (s : Session) (stamp : Nat) (task : Task) :
    Except AnalysisFault Analysis → Session × List Output
  | .error fault =>
    (s.moveTo stamp task (.reporting []), [.log (.analysisFailed task.uri fault)])
  | .ok analysis =>
    let outcome := s.store.outcome task.uri stamp
    let store := s.store.commit task.uri stamp (.analysed task.text analysis)
    (({ s with store }).moveTo stamp task (.reporting (task.notices analysis outcome)),
      task.logged stamp outcome)

def finish (engine : Engine) (s : Session) (stamp : Nat) : Session × List Output :=
  match s.tasks.find? stamp with
  | some task =>
    match task.stage with
    | .running => s.conclude stamp task (engine stamp task.text)
    | _ => (s, [])
  | none => (s, [])

def report (s : Session) (stamp : Nat) : Session × List Output :=
  match s.tasks.find? stamp with
  | some task =>
    match task.stage with
    | .reporting (notice :: rest) => (s.moveTo stamp task (.reporting rest), [.notice notice])
    | _ => (s, [])
  | none => (s, [])

/-- One event. An event of an analysis that is not at that point changes nothing. -/
def step (settings : Settings) (engine : Engine) (s : Session) : Event → Session × List Output
  | .opened uri language text => s.openDocument settings uri language text
  | .changed uri text => (s.changeDocument uri text, [])
  | .closed uri => ({ s with store := s.store.remove uri }, [])
  | .announced stamp => s.announce stamp
  | .finished stamp => s.finish engine stamp
  | .reported stamp => s.report stamp

def run (settings : Settings) (engine : Engine) (s : Session) :
    List Event → Session × List Output
  | [] => (s, [])
  | event :: rest =>
    let (s, first) := s.step settings engine event
    let (s, more) := run settings engine s rest
    (s, first ++ more)

/-- The events that take an analysis to its end: no analysis sends more than two notices. -/
def completion (stamp : Nat) : List Event :=
  [.announced stamp, .finished stamp, .reported stamp, .reported stamp]

/--
Announces all documents and takes the analyses that are ready to their ends, oldest first.
-/
def settle (settings : Settings) (engine : Engine) (isReady : Task → Bool) (s : Session) :
    Session × List Output :=
  s.run settings engine <| s.tasks.flatMap fun (stamp, task) =>
    if isReady task then completion stamp else [.announced stamp]

/-- An event, and all the analyses that are then ready. -/
def perform (settings : Settings) (engine : Engine) (isReady : Task → Bool) (s : Session)
    (events : List Event) : Session × List Output :=
  let (s, first) := s.run settings engine events
  let (s, more) := s.settle settings engine isReady
  (s, first ++ more)

theorem run_append (settings : Settings) (engine : Engine) (s : Session) (es fs : List Event) :
    s.run settings engine (es ++ fs) =
      (((s.run settings engine es).1.run settings engine fs).1,
        (s.run settings engine es).2 ++
          ((s.run settings engine es).1.run settings engine fs).2) := by
  induction es generalizing s with
  | nil => rfl
  | cons e es ih => simp only [List.cons_append, run, ih, List.append_assoc]

end Session

end CobolCompanion
