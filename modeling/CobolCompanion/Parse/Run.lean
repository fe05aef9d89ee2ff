import CobolCompanion.Parse.Progress

namespace CobolCompanion

/-- A tree and what was found on the way to it. -/
structure Parsed where
  root : Node
  diagnostics : List Diagnostic

namespace Parsed

def hasErrors (p : Parsed) : Bool :=
  p.diagnostics.any Diagnostic.isError

/-- The program units of a tree, nested ones included, in the order of the text. -/
def programs (p : Parsed) : List Node :=
  (p.root.walk.map (·.1)).filter (·.kind == .programUnit)

end Parsed

namespace Parse

def run (score : Similarity) (c : Configuration) : State :=
  if c.isFinal then c.state else run score (step score c)
termination_by (c.state.unread.length, c.state.context.frames.length, c.rank)
decreasing_by
  next h =>
    simp only [Prod.lex_def]
    exact Configuration.precedes_step (Bool.eq_false_iff.2 h)

def finalState (score : Similarity) (stream : TokenStream) : State :=
  run score ⟨.sourceUnit, .initial stream⟩

/-- The productions under which the tokens of a stream are read, in the order of the tokens. -/
def readingRules (score : Similarity) (stream : TokenStream) : List Rule :=
  (finalState score stream).rules.reverse

end Parse

def parseStream (score : Similarity) (stream : TokenStream) : Parsed :=
  let s := Parse.finalState score stream
  ⟨s.context.finish, s.diagnostics⟩

def parse (text : String) : Parsed :=
  parseStream Similarity.jaroWinkler (.ofText text)

end CobolCompanion
