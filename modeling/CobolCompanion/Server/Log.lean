import CobolCompanion.Server.Engine
import CobolCompanion.Uri.Basic

namespace CobolCompanion

inductive LogEvent where
  | analysisFailed (uri : Uri) (fault : AnalysisFault)
  | finishedAfterClose (uri : Uri) (stamp : Nat)
  deriving DecidableEq

namespace LogEvent

def level : LogEvent → String
  | analysisFailed _ _ => "ERROR"
  | finishedAfterClose _ _ => "WARN"

def message : LogEvent → String
  | analysisFailed uri _ => "failed while applying analysis for " ++ uri.text
  | finishedAfterClose _ _ => "analysis finished after the document was closed"

def fields : LogEvent → List (String × String)
  | analysisFailed uri fault =>
    [("action", "analysis"), ("uri", uri.text), ("error", fault.message)]
  | finishedAfterClose uri stamp => [("uri", uri.text), ("stamp", toString stamp)]

end LogEvent

end CobolCompanion
