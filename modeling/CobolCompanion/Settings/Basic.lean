import CobolCompanion.Settings.Fault
import CobolCompanion.Settings.Value

namespace CobolCompanion

structure Settings where
  /-- The language identifiers of the documents to analyse, which are file extensions too. -/
  languageIds : List String
  /-- Which events are logged. -/
  filter : String
  /-- The reserved words that completion offers. -/
  keywords : List String
  deriving DecidableEq

namespace Settings

def defaults : Settings where
  languageIds := ["cobol", "cbl", "cob", "COBOL"]
  filter := "info"
  keywords :=
    ["ACCEPT", "ADD", "CALL", "CANCEL", "CLOSE", "COMPUTE", "CONTINUE", "DELETE",
      "DISPLAY", "DIVIDE", "ELSE", "END-IF", "END-PERFORM", "EVALUATE", "EXIT",
      "GO", "GOBACK", "IF", "INITIALIZE", "INSPECT", "MOVE", "MULTIPLY", "OPEN",
      "PERFORM", "READ", "RETURN", "REWRITE", "SEARCH", "SET", "SORT", "START",
      "STOP", "STRING", "SUBTRACT", "UNSTRING", "UNTIL", "VARYING", "WHEN", "WRITE",
      "PIC", "PICTURE", "VALUE", "OCCURS", "REDEFINES", "USAGE", "COMP", "COMP-3",
      "FILLER", "SECTION", "DIVISION", "WORKING-STORAGE", "LINKAGE", "FILE"]

def acceptsLanguage (settings : Settings) (language : String) : Bool :=
  settings.languageIds.contains language

/--
Whether files with an extension are analysed. Extensions are checked against the languages.
-/
def acceptsExtension (settings : Settings) (extension : String) : Bool :=
  settings.acceptsLanguage extension

def toValue (settings : Settings) : Value :=
  .table
    [("documents", .table [("language_ids", .list (settings.languageIds.map .text))]),
      ("logging", .table [("filter", .text settings.filter)]),
      ("completion", .table [("keywords", .list (settings.keywords.map .text))])]

/--
The field of a section. A section may be a table, or a list that starts with its one field.
-/
def field (name : String) : Value → Except Fault Value
  | .table entries => (Keyed.find? entries name).elim (.error .wrongShape) .ok
  | .list (first :: _) => .ok first
  | _ => .error .wrongShape

def asText (v : Value) : Except Fault String :=
  v.text?.elim (.error .notText) .ok

def asTexts : Value → Except Fault (List String)
  | .list members => members.mapM asText
  | _ => .error .wrongShape

def entry (root : Value) (sectionName name : String) : Except Fault Value :=
  field sectionName root >>= field name

/-- The settings in a configured value. Unknown keys do no harm. -/
def ofValue (root : Value) : Except Fault Settings := do
  let languageIds ← entry root "documents" "language_ids" >>= asTexts
  let filter ← entry root "logging" "filter" >>= asText
  let keywords ← entry root "completion" "keywords" >>= asTexts
  return { languageIds, filter, keywords }

theorem mapM_asText (texts : List String) : (texts.map Value.text).mapM asText = .ok texts := by
  induction texts with
  | nil => rfl
  | cons s rest ih =>
    simp only [List.map_cons, List.mapM_cons, ih]
    rfl

theorem asTexts_texts (texts : List String) :
    asTexts (.list (texts.map Value.text)) = .ok texts :=
  mapM_asText texts

/-- Settings survive being written as a configured value. -/
theorem ofValue_toValue (settings : Settings) : ofValue settings.toValue = .ok settings := by
  simp [ofValue, toValue, entry, field, Keyed.find?, asTexts_texts, asText, Value.text?, bind,
    Except.bind, pure, Except.pure]

end Settings

end CobolCompanion
