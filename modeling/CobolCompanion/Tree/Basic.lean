import CobolCompanion.Token.Basic

namespace CobolCompanion

/-- The constructs that a tree can hold. -/
inductive NodeKind where
  | sourceUnit
  | programUnit
  | identificationDivision
  | environmentDivision
  | dataDivision
  | procedureDivision
  /-- What could not be placed. -/
  | skipped
  /-- A block of an embedded dialect. -/
  | custom
  deriving DecidableEq, Inhabited

inductive Rule where
  | sourceUnit
  | programUnit
  | identificationDivision
  | environmentDivision
  | dataDivision
  | procedureDivision
  | skipped
  | custom
  deriving DecidableEq, Inhabited

namespace NodeKind

def rule : NodeKind → Rule
  | sourceUnit => .sourceUnit
  | programUnit => .programUnit
  | identificationDivision => .identificationDivision
  | environmentDivision => .environmentDivision
  | dataDivision => .dataDivision
  | procedureDivision => .procedureDivision
  | skipped => .skipped
  | custom => .custom

def isDivision : NodeKind → Bool
  | identificationDivision | environmentDivision | dataDivision | procedureDivision => true
  | _ => false

def render : NodeKind → String
  | sourceUnit => "SourceUnit"
  | programUnit => "ProgramUnit"
  | identificationDivision => "IdentificationDivision"
  | environmentDivision => "EnvironmentDivision"
  | dataDivision => "DataDivision"
  | procedureDivision => "ProcedureDivision"
  | skipped => "Skipped"
  | custom => "Custom"

end NodeKind

/--
What a node says about itself: its kind, and the dialect or the program name that it bears.
-/
@[ext]
structure Heading where
  kind : NodeKind
  dialect : Option String := none
  name : Option String := none
  deriving DecidableEq, Inhabited

/-- A child of a node: a token, or a node with children of its own. -/
inductive Element where
  | token (token : Token)
  | node (heading : Heading) (children : List Element)
  deriving Inhabited

/--
A heading with the elements under it, in the order of the text. The range of a node is not
stored; it is the bounding box of its leaves.
-/
@[ext]
structure Node extends Heading where
  children : List Element := []
  deriving Inhabited

namespace Element

mutual
def leaves : Element → List Token
  | token t => [t]
  | node _ children => leavesAll children

def leavesAll : List Element → List Token
  | [] => []
  | e :: es => leaves e ++ leavesAll es
end

mutual
def walk (depth : Nat) : Element → List (Node × Nat)
  | token _ => []
  | node heading children => (⟨heading, children⟩, depth) :: walkAll (depth + 1) children

def walkAll (depth : Nat) : List Element → List (Node × Nat)
  | [] => []
  | e :: es => walk depth e ++ walkAll depth es
end

def asNode? : Element → Option Node
  | token _ => none
  | node heading children => some ⟨heading, children⟩

def asToken? : Element → Option Token
  | token t => some t
  | node _ _ => none

def isNode (e : Element) : Bool :=
  e.asNode?.isSome

def isSkipped : Element → Bool
  | token _ => false
  | node heading _ => heading.kind == .skipped

def range? (e : Element) : Option Range :=
  Range.boundingBox (e.leaves.map Token.range)

end Element

namespace Node

def ofKind (kind : NodeKind) : Node :=
  { kind }

def toElement (n : Node) : Element :=
  .node n.toHeading n.children

def push (n : Node) (e : Element) : Node :=
  { n with children := n.children ++ [e] }

def pushTokens (n : Node) (tokens : List Token) : Node :=
  { n with children := n.children ++ tokens.map .token }

def childNodes (n : Node) : List Node :=
  n.children.filterMap Element.asNode?

def leaves (n : Node) : List Token :=
  Element.leavesAll n.children

def text (n : Node) : String :=
  lexemes n.leaves

/-- The bounding box of the leaves of a node; a node without leaves has none. -/
def range? (n : Node) : Option Range :=
  Range.boundingBox (n.leaves.map Token.range)

/-- A node and all nodes below it, each before those below it, with their depths. -/
def walk (n : Node) : List (Node × Nat) :=
  (n, 0) :: Element.walkAll 1 n.children

def kindsAtDepth (n : Node) (depth : Nat) : List NodeKind :=
  (n.walk.filter (·.2 == depth)).map (·.1.kind)

/-- The number of neighbours in a list that both hold what could not be placed. -/
def adjacentSkippedCount : List Element → Nat
  | e :: f :: rest =>
    (if e.isSkipped && f.isSkipped then 1 else 0) + adjacentSkippedCount (f :: rest)
  | _ => 0

/--
The kind of the parent for every pair of neighbours that both hold what could not be placed.
-/
def adjacentSkipped (n : Node) : List NodeKind :=
  n.walk.flatMap fun (m, _) => List.replicate (adjacentSkippedCount m.children) m.kind

def firstOfKind? (n : Node) (kind : NodeKind) : Option Node :=
  (n.walk.find? (·.1.kind == kind)).map (·.1)

end Node

end CobolCompanion
