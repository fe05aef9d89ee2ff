import CobolCompanion.Diagnostic

namespace CobolCompanion

namespace Protocol

/--
A line and a character in it, both from zero. The numbers have 32 bits, and larger ones are
taken modulo 2^32.
-/
structure Position where
  line : UInt32
  character : UInt32
  deriving DecidableEq

structure Range where
  start : Position
  stop : Position
  deriving DecidableEq

structure Diagnostic where
  range : Range
  severity : Severity
  code : Option String
  source : String
  message : String
  deriving DecidableEq

def Position.ofPosition (p : CobolCompanion.Position) : Position :=
  ⟨UInt32.ofNat p.line, UInt32.ofNat p.column⟩

def Position.toPosition (p : Position) : CobolCompanion.Position :=
  ⟨p.line.toNat, p.character.toNat⟩

def Range.ofRange (r : CobolCompanion.Range) : Range :=
  ⟨.ofPosition r.start, .ofPosition r.stop⟩

def Diagnostic.ofDiagnostic (d : CobolCompanion.Diagnostic) : Diagnostic :=
  ⟨.ofRange d.range, d.severity, d.code, d.source, d.message⟩

/-- A position of the protocol survives the way through the library. -/
theorem Position.ofPosition_toPosition (p : Position) : .ofPosition p.toPosition = p := by
  simp [ofPosition, toPosition]

end Protocol

def Severity.code : Severity → Nat
  | error => 1
  | warning => 2
  | information => 3
  | hint => 4

end CobolCompanion
