import CobolCompanion.Text.Casing
import CobolCompanion.Token.Basic

namespace CobolCompanion

/-- A program: its name, where the name stands, and what the unit covers. -/
structure ProgramSymbol where
  name : String
  range : Range
  extent : Range
  /-- The program that encloses this one. -/
  parent : Option Nat
  deriving DecidableEq, Inhabited

inductive LabelKind where
  | section
  | paragraph
  deriving DecidableEq, Inhabited

/-- A header of a section or a paragraph in a procedure division. -/
structure LabelSymbol where
  name : String
  kind : LabelKind
  range : Range
  program : Option Nat
  deriving DecidableEq, Inhabited

/-- An entry with a level number in a data division. -/
structure DataItem where
  level : Nat
  name : String
  range : Range
  extent : Range
  /-- The entry as it is written, on one line and without its period. -/
  line : String
  parent : Option Nat
  children : List Nat
  program : Option Nat
  deriving DecidableEq, Inhabited

namespace DataItem

/-- A filler has a place in the hierarchy, but no name to refer to. -/
def isFiller (d : DataItem) : Bool :=
  sameIgnoringCase d.name "FILLER"

/-- A condition names values of the item above it. -/
def isCondition (d : DataItem) : Bool :=
  d.level == 88

end DataItem

/-- The ranges at which words occur, by word in upper case; the words are in ascending order. -/
abbrev Occurrences :=
  List (String × List Range)

namespace Occurrences

def insert (name : String) (range : Range) : Occurrences → Occurrences
  | [] => [(name, [range])]
  | (other, ranges) :: rest =>
    if name < other then (name, [range]) :: (other, ranges) :: rest
    else if name = other then (other, ranges ++ [range]) :: rest
    else (other, ranges) :: insert name range rest

def ofTokens (tokens : List Token) : Occurrences :=
  (tokens.filter Token.isWord).foldl (fun found t => insert (upper t.lexeme) t.range found) []

end Occurrences

structure SymbolIndex where
  programs : List ProgramSymbol := []
  labels : List LabelSymbol := []
  dataItems : List DataItem := []
  occurrences : Occurrences := []
  deriving Inhabited

/--
A member of a list after all its ancestors, the outermost first; each member names its parent.
-/
def lineage {α : Type} (members : List α) (parent : α → Option Nat) : Nat → Nat → List α
  | 0, _ => []
  | fuel + 1, i =>
    match members[i]? with
    | none => []
    | some member =>
      match parent member with
      | none => [member]
      | some p => lineage members parent fuel p ++ [member]

namespace SymbolIndex

def occurrencesOf (index : SymbolIndex) (name : String) : List Range :=
  (index.occurrences.lookup (upper name)).getD []

/-- The ranges at which a name is declared, in the order of the text. -/
def definitions (index : SymbolIndex) (name : String) : List Range :=
  let programs := (index.programs.filter (sameIgnoringCase ·.name name)).map (·.range)
  let labels := (index.labels.filter (sameIgnoringCase ·.name name)).map (·.range)
  let items :=
    (index.dataItems.filter fun d => !d.isFiller && sameIgnoringCase d.name name).map (·.range)
  (programs ++ labels ++ items).mergeSort fun r s => r.span.start ≤ s.span.start

def programNamed? (index : SymbolIndex) (name : String) : Option Nat :=
  index.programs.findIdx? (sameIgnoringCase ·.name name)

def labelNamed? (index : SymbolIndex) (name : String) : Option LabelSymbol :=
  index.labels.find? (sameIgnoringCase ·.name name)

/-- The number of the first data item of a name. Fillers have none. -/
def dataItemNamed? (index : SymbolIndex) (name : String) : Option Nat :=
  index.dataItems.findIdx? fun d => !d.isFiller && sameIgnoringCase d.name name

/--
A data item after all groups around it, the outermost first. Groups come before their members.
-/
def dataLineage (index : SymbolIndex) (i : Nat) : List DataItem :=
  lineage index.dataItems DataItem.parent (i + 1) i

/-- A program after all programs around it, the outermost first. -/
def programLineage (index : SymbolIndex) (i : Nat) : List ProgramSymbol :=
  lineage index.programs ProgramSymbol.parent (i + 1) i

end SymbolIndex

end CobolCompanion
