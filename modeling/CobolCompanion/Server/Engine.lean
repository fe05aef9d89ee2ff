import CobolCompanion.Analysis

namespace CobolCompanion

inductive AnalysisFault where
  | failed (message : String)
  /-- The task broke down, perhaps with a text that says why. -/
  | crashed (message : Option String)
  | cancelled
  deriving DecidableEq

def AnalysisFault.message : AnalysisFault → String
  | failed message => "analysis engine failed: " ++ message
  | crashed message => "analysis task panicked: " ++ message.getD "non-string panic payload"
  | cancelled => "analysis task was cancelled"

/--
An engine at work: what comes of the run with a stamp on a text. A run may break down or be
cancelled by itself, so that two runs on one text need not end alike.
-/
abbrev Engine :=
  Nat → String → Except AnalysisFault Analysis

-- The engine that parses and indexes every text, and whose runs never fail.
def Engine.standard : Engine :=
  fun _ text => .ok (Analysis.ofText text)

end CobolCompanion
