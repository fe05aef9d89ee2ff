import CobolCompanion.Settings.Basic
import CobolCompanion.Uri.Basic

namespace CobolCompanion

/-- What the server does with a document that is opened. -/
inductive Classification where
  | unsupportedExtension (extension : String)
  | recognized
  | engineNotFound
  deriving DecidableEq

def Classification.ofLanguage (settings : Settings) (language : String) : Classification :=
  if settings.acceptsLanguage language then .recognized else .engineNotFound

/-- Classifies a document by its identifier and its declared language. -/
def classify (settings : Settings) (uri : Uri) (language : String) : Classification :=
  match uri.extension? with
  | none => .ofLanguage settings language
  | some extension =>
    if settings.acceptsExtension extension then .ofLanguage settings language
    else .unsupportedExtension extension

end CobolCompanion
