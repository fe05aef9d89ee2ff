import CobolCompanion.Analysis

namespace CobolCompanion

inductive SymbolKind where
  | program
  /-- A division or a section. -/
  | region
  | field
  | paragraph
  | dialect
  | condition
  | group
  deriving DecidableEq, Inhabited

/-- The number of a kind in the language server protocol. -/
def SymbolKind.code : SymbolKind → Nat
  | program => 2
  | region => 3
  | field => 8
  | paragraph => 12
  | dialect => 19
  | condition => 22
  | group => 23

/-- An entry of an outline, with the range to show and the range to select. -/
structure OutlineSymbol where
  name : String
  detail : Option String
  kind : SymbolKind
  range : Range
  selection : Range
  children : List OutlineSymbol

def NodeKind.divisionName : NodeKind → String
  | identificationDivision => "IDENTIFICATION DIVISION"
  | environmentDivision => "ENVIRONMENT DIVISION"
  | dataDivision => "DATA DIVISION"
  | _ => "PROCEDURE DIVISION"

def LabelKind.word : LabelKind → String
  | .section => "section"
  | .paragraph => "paragraph"

namespace Outline

/-- The kind of a data item: a condition, a group of items other than conditions, or a field. -/
def dataKind (items : List DataItem) (d : DataItem) : SymbolKind :=
  if d.isCondition then .condition
  else if d.children.any fun c => items[c]?.any (!·.isCondition) then .group
  else .field

/-- A data item with everything below it, as deep as the fuel reaches. -/
def dataSymbol (items : List DataItem) : Nat → DataItem → OutlineSymbol
  | 0, d => ⟨d.name, some d.line, dataKind items d, d.extent, d.range, []⟩
  | fuel + 1, d =>
    let children := d.children.filterMap (items[·]?)
    ⟨d.name, some d.line, dataKind items d, d.extent, d.range,
      children.map (dataSymbol items fuel)⟩

/-- The items of a data division that belong to no group, with their members. -/
def dataSymbols (index : SymbolIndex) (division : Range) : List OutlineSymbol :=
  let items := index.dataItems
  let outer := items.filter fun d => d.parent.isNone && d.extent.within division
  outer.map (dataSymbol items items.length)

def labelSymbol (l : LabelSymbol) : OutlineSymbol :=
  let kind := match l.kind with
    | .section => SymbolKind.region
    | .paragraph => SymbolKind.paragraph
  ⟨l.name, some l.kind.word, kind, l.range, l.range, []⟩

def labelSymbols (index : SymbolIndex) (division : Range) : List OutlineSymbol :=
  (index.labels.filter (·.range.within division)).map labelSymbol

/--
What is selected for a program unit: the range of its symbol, which is found by its extent.
-/
def unitSelection (index : SymbolIndex) (unit : Range) : Range :=
  ((index.programs.find? (·.extent == unit)).map (·.range)).getD unit

/-- A division. What is selected is the first word of its header. -/
def divisionSymbol (division : Node) (range : Range) (children : List OutlineSymbol) :
    OutlineSymbol :=
  let selection := ((division.leaves.find? Token.isSignificant).map Token.range).getD range
  ⟨division.kind.divisionName, none, .region, range, selection, children⟩

mutual
def symbolsOf (index : SymbolIndex) : Element → List OutlineSymbol
  | .token _ => []
  | .node heading children =>
    let n : Node := ⟨heading, children⟩
    match n.range? with
    | none => []
    | some range =>
      match heading.kind with
      | .programUnit =>
        [⟨heading.name.getD "<program>", some "program", .program, range,
          unitSelection index range, symbolsAmong index children⟩]
      | .identificationDivision | .environmentDivision => [divisionSymbol n range []]
      | .dataDivision => [divisionSymbol n range (dataSymbols index range)]
      | .procedureDivision => [divisionSymbol n range (labelSymbols index range)]
      | .custom =>
        [⟨heading.dialect.getD "dialect", some "dialect block", .dialect, range, range,
          symbolsAmong index children⟩]
      | .sourceUnit | .skipped => []

def symbolsAmong (index : SymbolIndex) : List Element → List OutlineSymbol
  | [] => []
  | e :: es => symbolsOf index e ++ symbolsAmong index es
end

end Outline

def Analysis.outline (a : Analysis) : List OutlineSymbol :=
  Outline.symbolsAmong a.index a.root.children

end CobolCompanion
