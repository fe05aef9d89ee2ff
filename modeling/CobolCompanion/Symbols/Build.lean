import CobolCompanion.Symbols.Data
import CobolCompanion.Symbols.Label
import CobolCompanion.Tree.Basic

namespace CobolCompanion

/-- The token after the first PROGRAM-ID of an identification division that can be a name. -/
def declaredName? (identification : Node) : Option Token :=
  match identification.leaves.dropWhile (!sameIgnoringCase ·.lexeme "PROGRAM-ID") with
  | [] => none
  | _ :: after => after.find? fun t => t.isSignificant && !t.isTerminator

/--
The symbol of a program unit. A unit in which no name is found stands for its name as a whole.
-/
def ProgramSymbol.ofUnit (unit : Node) (parent : Option Nat) : ProgramSymbol :=
  let extent := unit.range?.getD .origin
  let name? := (unit.childNodes.find? (·.kind == .identificationDivision)).bind declaredName?
  { name := (unit.name.or (name?.map (·.lexeme))).getD ""
    range := (name?.map Token.range).getD extent
    extent
    parent }

namespace SymbolIndex

mutual
/--
Adds the symbols of an element that lies in a given program. A node is visited before the nodes
below it, also inside what could not be placed.
-/
def visit (index : SymbolIndex) (program : Option Nat) : Element → SymbolIndex
  | .token _ => index
  | .node heading children =>
    let n : Node := ⟨heading, children⟩
    match heading.kind with
    | .programUnit =>
      visitAll { index with programs := index.programs ++ [.ofUnit n program] }
        (some index.programs.length) children
    | .dataDivision =>
      visitAll
        { index with
          dataItems := addDataEntries program index.dataItems (dataEntries n.leaves) }
        program children
    | .procedureDivision =>
      visitAll { index with labels := index.labels ++ CobolCompanion.labels program n.leaves }
        program children
    | _ => visitAll index program children

def visitAll (index : SymbolIndex) (program : Option Nat) : List Element → SymbolIndex
  | [] => index
  | e :: es => visitAll (visit index program e) program es
end

def ofTree (root : Node) : SymbolIndex :=
  visit { occurrences := .ofTokens root.leaves } none root.toElement

end SymbolIndex

end CobolCompanion
