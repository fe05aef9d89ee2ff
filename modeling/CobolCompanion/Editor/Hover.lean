import CobolCompanion.Editor.Outline

namespace CobolCompanion

structure Hover where
  range : Range
  contents : String

namespace Hover

def staircase (lines : List String) : List String :=
  lines.mapIdx fun i line => String.ofList (List.replicate (2 * i) ' ') ++ line

/-- The lines of a data item: the groups around it, the item, and its members side by side. -/
def dataItemLines (index : SymbolIndex) (i : Nat) : List String :=
  let above := (index.dataLineage i).map (·.line)
  let members := match index.dataItems[i]? with
    | some d => (d.children.filterMap (index.dataItems[·]?)).map DataItem.line
    | none => []
  let indent := String.ofList (List.replicate (2 * above.length) ' ')
  staircase above ++ members.map (indent ++ ·)

/-- The lines of a program: the programs around it and the program. -/
def programLines (index : SymbolIndex) (i : Nat) : List String :=
  staircase ((index.programLineage i).map fun p => s!"PROGRAM-ID. {p.name}.")

def sourceBlock (lines : List String) : String :=
  "```cobol\n" ++ "\n".intercalate lines ++ "\n```"

def labelText (index : SymbolIndex) (l : LabelSymbol) : String :=
  let kind := match l.kind with
    | .section => "Section"
    | .paragraph => "Paragraph"
  let owner := match l.program.bind (index.programs[·]?) with
    | some p => s!" in program `{p.name}`"
    | none => ""
  s!"**{kind}** `{l.name}`{owner}"

def pathPart? (n : Node) : Option String :=
  match n.kind with
  | .programUnit => n.name.map fun name => s!"`{name}`"
  | .custom => n.dialect
  | .sourceUnit | .skipped => none
  | division => some division.divisionName

/-- The way to a position, unless nothing with a name is around it. -/
def contextPath? (a : Analysis) (p : Position) : Option String :=
  match (a.enclosingNodes p).filterMap pathPart? with
  | [] => none
  | parts => some (" > ".intercalate parts)

/--
What is known about a word at a position: a data item goes before a program, a label comes last.
-/
def contents? (a : Analysis) (p : Position) (word : String) : Option String :=
  match a.index.dataItemNamed? word with
  | some i => some (sourceBlock (dataItemLines a.index i))
  | none =>
    match a.index.programNamed? word with
    | some i => some (sourceBlock (programLines a.index i))
    | none =>
      match a.index.labelNamed? word with
      | some l => some (labelText a.index l)
      | none => contextPath? a p

end Hover

def Analysis.hover? (a : Analysis) (p : Position) : Option Hover :=
  (a.wordAt? p).bind fun word => (Hover.contents? a p word.lexeme).map (⟨word.range, ·⟩)

end CobolCompanion
