import CobolCompanion.Diagnostic

namespace CobolCompanion.Parse

def quoteAll (texts : List String) : String :=
  ", ".intercalate (texts.map fun text => "'" ++ text ++ "'")

/-- The reasons for which a production gives up, each with the place where it did. -/
inductive Failure where
  /-- Another token than the one expected. -/
  | unexpectedToken (found expected : String) (range : Range)
  /-- A token that is none of the keywords possible here. -/
  | noAlternative (found : String) (expected : List String) (range : Range)
  /-- The text ends too early. -/
  | unexpectedEndOfInput (expected : String) (range : Range)
  deriving DecidableEq

namespace Failure

def range : Failure → Range
  | unexpectedToken _ _ range | noAlternative _ _ range | unexpectedEndOfInput _ range => range

def message : Failure → String
  | unexpectedToken found expected _ => s!"Unexpected token '{found}'. Expect: '{expected}'"
  | noAlternative found expected _ =>
    s!"Unexpected token '{found}'. Expected: {quoteAll expected}"
  | unexpectedEndOfInput expected _ => s!"Unexpected end of input. Expect: {expected}"

def diagnostic (f : Failure) : Diagnostic :=
  .error f.range "syntax-error" f.message

end Failure

end CobolCompanion.Parse
