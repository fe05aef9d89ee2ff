import CobolCompanion.Settings.Basic
import CobolCompanion.Settings.Path
import CobolCompanion.Toml.Document

namespace CobolCompanion.Settings

/--
A source of settings. A later one wins key by key over those before it, and single settings win
over all of them.
-/
inductive Layer where
  /-- A file that has to be there; its text, if it is. -/
  | file (text : Option String)
  /-- A file that may be missing. -/
  | optionalFile (text : Option String)
  /-- The variables of the environment. -/
  | environment
  /-- A single setting. -/
  | setting (key : String) (value : Value)

namespace Environment

def separated : List Char → List Char
  | '_' :: '_' :: rest => '.' :: separated rest
  | c :: rest => c :: separated rest
  | [] => []

/-- How the names of variables that are settings start. -/
def opening : List Char :=
  "cobol_lsp_".toList

def key? (name : String) : Option String :=
  let name := name.toList.map lowerChar
  if opening.isPrefixOf name then some (String.ofList (separated (name.drop opening.length)))
  else none

def listKeys : List String :=
  ["documents.language_ids", "completion.keywords"]

/--
The value of a variable: a truth value, a number, a list at commas under a list key, or text.
-/
def value (key : String) (text : String) : Value :=
  let lower := String.ofList (text.toList.map Char.toLower)
  if lower = "true" then .boolean true
  else if lower = "false" then .boolean false
  else
    match Numeral.integer? text.toList with
    | some n => .integer n
    | none =>
      match Numeral.float? text.toList with
      | some x => .float x
      | none =>
        if listKeys.contains key then .list ((text.splitOn ",").map .text) else .text text

def entries (bindings : List (String × String)) : List (String × Value) :=
  bindings.filterMap fun (name, text) => (key? name).map fun key => (key, value key text)

end Environment

/-- Puts an entry of a source into the root. A key that is no path is a name. -/
def addEntry (root : Value) (entry : String × Value) : Except Fault Value :=
  Value.set entry.2 ((Path.parse? entry.1).getD [.child entry.1]) root

def fileEntries (text : String) : Except Fault (List (String × Value)) :=
  match Toml.document? text with
  | none => .error .malformedFile
  | some entries => .ok (Value.ofTomlEntries entries)

/-- The entries of a layer. Single settings are not among them, since they come last. -/
def Layer.entries (bindings : List (String × String)) :
    Layer → Except Fault (List (String × Value))
  | file none => .error .missingFile
  | file (some text) => fileEntries text
  | optionalFile none => .ok []
  | optionalFile (some text) => fileEntries text
  | environment => .ok (Environment.entries bindings)
  | setting _ _ => .ok []

def singleSettings : List Layer → Except Fault (List (Path × Value))
  | [] => .ok []
  | .setting key value :: rest =>
    match Path.parse? key with
    | none => .error .malformedKey
    | some path => (singleSettings rest).map ((path, value) :: ·)
  | _ :: rest => singleSettings rest

/--
The settings from the layers, with the variables of the environment. A malformed key of a single
setting is noticed before any layer is read.
-/
def load (bindings : List (String × String)) (layers : List Layer) : Except Fault Settings := do
  let singles ← singleSettings layers
  let root ← layers.foldlM
    (fun root layer => do (← layer.entries bindings).foldlM addEntry root) defaults.toValue
  let root ← singles.foldlM (fun root (path, value) => Value.set value path root) root
  ofValue root

theorem load_nil (bindings : List (String × String)) : load bindings [] = .ok defaults := by
  simp only [load, singleSettings, List.foldlM_nil, bind, Except.bind, pure, Except.pure]
  exact ofValue_toValue defaults

end CobolCompanion.Settings
