import CobolCompanion.Parse.Run
import CobolCompanion.Symbols.Build

namespace CobolCompanion

structure Analysis where
  parsed : Parsed
  index : SymbolIndex

namespace Analysis

def ofParsed (parsed : Parsed) : Analysis :=
  ⟨parsed, .ofTree parsed.root⟩

def ofText (text : String) : Analysis :=
  ofParsed (parse text)

def root (a : Analysis) : Node :=
  a.parsed.root

def diagnostics (a : Analysis) : List Diagnostic :=
  a.parsed.diagnostics

/-- The word at a position. It counts as long as the position is at most right after its end. -/
def wordAt? (a : Analysis) (p : Position) : Option Token :=
  a.root.leaves.find? fun t => t.isWord && t.range.contains p

def encloses (p : Position) (n : Node) : Bool :=
  n.kind != .skipped && n.range?.any (·.contains p)

mutual
/-- The nodes of an element around a position; none if the element itself is not around it. -/
def enclosingIn (p : Position) : Element → List Node
  | .token _ => []
  | .node heading children =>
    if encloses p ⟨heading, children⟩ then ⟨heading, children⟩ :: enclosingAmong p children
    else []

/-- The nodes around a position under the first of some elements that is around it. -/
def enclosingAmong (p : Position) : List Element → List Node
  | [] => []
  | e :: es =>
    match enclosingIn p e with
    | [] => enclosingAmong p es
    | nodes => nodes
end

/--
The nodes below the root around a position, the outermost first, outside of what is skipped.
-/
def enclosingNodes (a : Analysis) (p : Position) : List Node :=
  enclosingAmong p a.root.children

end Analysis

end CobolCompanion
