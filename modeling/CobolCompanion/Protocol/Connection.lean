import CobolCompanion.Protocol.Encode

namespace CobolCompanion

/-- Where a connection is in its life. -/
inductive Lifecycle where
  | fresh
  | ready
  | shutDown
  deriving DecidableEq

/--
A connection: what the server holds, and how many requests it has sent to the client. A message
is answered after all the analyses that it starts have ended.
-/
structure Connection where
  settings : Settings
  session : Session := {}
  lifecycle : Lifecycle := .fresh
  /-- Whether the client wants to be told about progress. -/
  wantsProgress : Bool := true
  requestCount : Nat := 0

/-- What comes of a message: a response, messages to the client, and events of the log. -/
structure Reply where
  response : Option Protocol.Value := none
  messages : List Protocol.Value := []
  log : List LogEvent := []

namespace Connection

def notification (method : String) (params : Protocol.Value) : Protocol.Value :=
  .object [("jsonrpc", .text "2.0"), ("method", .text method), ("params", params)]

def showMessage (kind : Nat) (text : String) : Protocol.Value :=
  notification "window/showMessage" (.object [("type", .natural kind), ("message", .text text)])

def progressToken (uri : Uri) : Protocol.Value :=
  .text ("cobol-analysis:" ++ uri.text)

def progress (uri : Uri) (value : Protocol.Value) : Protocol.Value :=
  notification "$/progress" (.object [("token", progressToken uri), ("value", value)])

def createProgress (id : Nat) (uri : Uri) : Protocol.Value :=
  .object
    [("jsonrpc", .text "2.0"), ("id", .natural id),
      ("method", .text "window/workDoneProgress/create"),
      ("params", .object [("token", progressToken uri)])]

def progressBegin (uri : Uri) : Protocol.Value :=
  progress uri (.object
    [("kind", .text "begin"), ("title", .text "Analysing COBOL source"),
      ("cancellable", .boolean false), ("message", .text uri.text)])

/-- The messages of a notice. A request for a token takes the next number. -/
def messages (requestCount : Nat) (wantsProgress : Bool) : Notice → List Protocol.Value
  | .extensionUnsupported extension =>
    [showMessage 2 ("Files with extension '" ++ extension ++
      "' are not supported by the COBOL language server")]
  | .engineNotFound language =>
    [showMessage 1 ("No analysis engine is available for language '" ++ language ++ "'")]
  | .loading uri =>
    createProgress requestCount uri :: if wantsProgress then [progressBegin uri] else []
  | .loadingEnded uri => [progress uri (.object [("kind", .text "end")])]
  | .diagnostics uri found =>
    [notification "textDocument/publishDiagnostics" (.object
      [("uri", .text uri.text), ("diagnostics", .list (found.map Protocol.Diagnostic.encode))])]
  | .analysed uri => [notification "cobol/documentAnalysed" (.object [("uri", .text uri.text)])]

def send (c : Connection) (reply : Reply) : List Output → Connection × Reply
  | [] => (c, reply)
  | .log e :: rest => send c { reply with log := reply.log ++ [e] } rest
  | .notice n :: rest =>
    let sent := messages c.requestCount c.wantsProgress n
    let isRequest := match n with
      | .loading _ => true
      | _ => false
    let c := if isRequest then { c with requestCount := c.requestCount + 1 } else c
    send c { reply with messages := reply.messages ++ sent } rest

def perform (c : Connection) (events : List Event) : Connection × Reply :=
  let (session, outputs) :=
    c.session.perform c.settings Engine.standard (fun _ => true) events
  send { c with session } {} outputs

def respond (id : Protocol.Value) (outcome : String × Protocol.Value) : Protocol.Value :=
  .object [("jsonrpc", .text "2.0"), ("id", id), outcome]

def refusal (id : Protocol.Value) (code : Int) (message : String) : Protocol.Value :=
  respond id ("error", .object [("code", .number code 0), ("message", .text message)])

def document? (params : Protocol.Value) : Option Uri :=
  ((params.at? ["textDocument", "uri"]).bind Protocol.Value.text?).bind fun text =>
    (Uri.parse text).toOption

def number32? (v : Protocol.Value) : Option UInt32 :=
  v.natural?.bind fun n => if n < UInt32.size then some (UInt32.ofNat n) else none

def position? (params : Protocol.Value) : Option Position := do
  let line ← (params.at? ["position", "line"]).bind number32?
  let character ← (params.at? ["position", "character"]).bind number32?
  return (Protocol.Position.mk line character).toPosition

/-- The request that a method and its parameters stand for. -/
def request? (method : String) (params : Protocol.Value) : Option (Option Request) :=
  let placed (make : Uri → Position → Request) : Option (Option Request) :=
    some (do return make (← document? params) (← position? params))
  match method with
  | "initialize" => some (some .capabilities)
  | "shutdown" => some (some .shutdown)
  | "textDocument/hover" => placed .hover
  | "textDocument/completion" => placed .completion
  | "textDocument/definition" => placed .definition
  | "textDocument/documentHighlight" => placed .highlights
  | "textDocument/references" =>
    let declarations :=
      (params.at? ["context", "includeDeclaration"]).bind Protocol.Value.boolean?
    placed fun uri p => .references uri p (declarations.getD false)
  | "textDocument/documentSymbol" => some ((document? params).map .symbols)
  | "workspace/executeCommand" =>
    let arguments := ((params.field? "arguments").bind Protocol.Value.list?).getD []
    some (((params.field? "command").bind Protocol.Value.text?).map (.command · arguments))
  | _ => none

/-- The events of a change: only the last of its texts counts. -/
def changes (uri : Uri) (texts : List String) : List Event :=
  texts.getLast?.toList.map (.changed uri)

def events (method : String) (params : Protocol.Value) : List Event :=
  match method, document? params with
  | "textDocument/didOpen", some uri =>
    let item (name : String) :=
      ((params.at? ["textDocument", name]).bind Protocol.Value.text?).getD ""
    [.opened uri (item "languageId") (item "text")]
  | "textDocument/didChange", some uri =>
    let contents := ((params.field? "contentChanges").bind Protocol.Value.list?).getD []
    changes uri (contents.filterMap fun change =>
      (change.field? "text").bind Protocol.Value.text?)
  | "textDocument/didClose", some uri => [.closed uri]
  | _, _ => []

/-- Why a request is refused because of where the connection is in its life. -/
def refused? (c : Connection) (method : String) : Option (Int × String) :=
  match c.lifecycle with
  | .fresh => if method = "initialize" then none else some (-32002, "Server not initialized")
  | .ready => if method = "initialize" then some (-32600, "Invalid request") else none
  | .shutDown => some (-32600, "Invalid request")

def nextLifecycle (c : Connection) (method : String) : Lifecycle :=
  if method = "initialize" then .ready
  else if method = "shutdown" then .shutDown
  else c.lifecycle

def response (c : Connection) (id : Protocol.Value) (method : String)
    (params : Protocol.Value) : Protocol.Value :=
  match request? method params with
  | none => refusal id (-32601) "Method not found"
  | some none => refusal id (-32602) "Invalid params"
  | some (some request) =>
    match c.session.store.answer c.settings request with
    | .ok answer => respond id ("result", answer.encode)
    | .error fault => refusal id fault.code fault.message

/-- Takes in a message of the client. One with a number of its own is a request. -/
def receive (c : Connection) (message : Protocol.Value) : Connection × Reply :=
  let method := ((message.field? "method").bind Protocol.Value.text?).getD ""
  let params := (message.field? "params").getD .null
  match message.field? "id" with
  | some id =>
    match c.refused? method with
    | some (code, text) => (c, { response := some (refusal id code text) })
    | none =>
      ({ c with lifecycle := c.nextLifecycle method },
        { response := some (c.response id method params) })
  | none => if c.lifecycle = .ready then c.perform (events method params) else (c, {})

end Connection

end CobolCompanion
