import CobolCompanion.Text.Position

namespace CobolCompanion

/-- How grave a finding is. -/
inductive Severity where
  | error
  | warning
  | information
  | hint
  deriving DecidableEq, Inhabited

def Severity.render : Severity → String
  | error => "error"
  | warning => "warning"
  | information => "info"
  | hint => "hint"

/-- A finding at a range, with a code for its kind and the part of the program that made it. -/
@[ext]
structure Diagnostic where
  range : Range
  severity : Severity
  message : String
  code : Option String := none
  source : String := "cobol-parser"
  deriving DecidableEq, Inhabited

namespace Diagnostic

def error (range : Range) (code message : String) : Diagnostic :=
  { range, severity := .error, message, code := some code }

def warning (range : Range) (code message : String) : Diagnostic :=
  { range, severity := .warning, message, code := some code }

def isError (d : Diagnostic) : Bool :=
  d.severity == .error

def render (d : Diagnostic) : String :=
  s!"{d.severity.render} [{d.source}]: {d.message} at {d.range.start.render}"

end Diagnostic

end CobolCompanion
