import CobolCompanion.Documents.Store
import CobolCompanion.Editor.Completion
import CobolCompanion.Editor.Hover
import CobolCompanion.Editor.Navigation
import CobolCompanion.Editor.Outline
import CobolCompanion.Protocol.Value
import CobolCompanion.Settings.Basic
import CobolCompanion.Tree.Dump

namespace CobolCompanion

inductive Request where
  /-- What the server can do. -/
  | capabilities
  | shutdown
  | hover (uri : Uri) (p : Position)
  | completion (uri : Uri) (p : Position)
  | definition (uri : Uri) (p : Position)
  | references (uri : Uri) (p : Position) (declarations : Bool)
  | highlights (uri : Uri) (p : Position)
  | symbols (uri : Uri)
  | command (name : String) (arguments : List Protocol.Value)

inductive Answer where
  | nothing
  | capabilities
  | hover (h : Hover)
  | candidates (cs : List Candidate)
  | locations (uri : Uri) (ranges : List Range)
  | highlights (hs : List (Range × HighlightKind))
  | symbols (ss : List OutlineSymbol)
  | dump (text : String)

inductive RequestFault where
  /-- The command needs the identifier of a document. -/
  | uriExpected
  | badUri (text : String) (fault : Uri.Fault)
  | unknownCommand

namespace RequestFault

def code : RequestFault → Int
  | uriExpected => -32602
  | badUri _ _ => -32602
  | unknownCommand => -32600

def message : RequestFault → String
  | uriExpected => "expected a document uri"
  | badUri text fault => "invalid uri '" ++ text ++ "': " ++ fault.message
  | unknownCommand => "Invalid request"

end RequestFault

def showTreeCommand : String :=
  "cobol.showSyntaxTree"

namespace Store

def analysis? (s : Store) (uri : Uri) : Option Analysis :=
  (s.find? uri).bind Model.analysis?

/-- The tree of the document that the first argument of a command names. -/
def showTree (s : Store) (arguments : List Protocol.Value) : Except RequestFault Answer :=
  match arguments.head?.bind Protocol.Value.text? with
  | none => .error .uriExpected
  | some text =>
    match Uri.parse text with
    | .error fault => .error (.badUri text fault)
    | .ok uri => .ok ((s.analysis? uri).elim .nothing fun a => .dump a.root.dump)

/-- The completions at a position. They look at the text that belongs to the analysis. -/
def complete (s : Store) (keywords : List String) (uri : Uri) (p : Position) : Answer :=
  match s.find? uri with
  | some (.analysed text analysis) => .candidates (analysis.completions text p keywords)
  | _ => .nothing

/-- The definitions at a position. An empty list is no answer. -/
def define (s : Store) (uri : Uri) (p : Position) : Answer :=
  match (s.analysis? uri).map (·.definitionsAt p) with
  | none | some [] => .nothing
  | some ranges => .locations uri ranges

/-- Answers a request from the models that are there. No request waits for an analysis. -/
def answer (s : Store) (settings : Settings) : Request → Except RequestFault Answer
  | .capabilities => .ok .capabilities
  | .shutdown => .ok .nothing
  | .hover uri p => .ok (((s.analysis? uri).bind (·.hover? p)).elim .nothing .hover)
  | .completion uri p => .ok (s.complete settings.keywords uri p)
  | .definition uri p => .ok (s.define uri p)
  | .references uri p declarations =>
    .ok ((s.analysis? uri).elim .nothing fun a =>
      .locations uri (a.referencesAt p declarations))
  | .highlights uri p =>
    .ok ((s.analysis? uri).elim .nothing fun a => .highlights (a.highlightsAt p))
  | .symbols uri => .ok ((s.analysis? uri).elim .nothing fun a => .symbols a.outline)
  | .command name arguments =>
    if name = showTreeCommand then s.showTree arguments else .error .unknownCommand

end Store

end CobolCompanion
