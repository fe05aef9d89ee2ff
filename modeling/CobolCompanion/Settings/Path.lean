import CobolCompanion.Settings.Fault
import CobolCompanion.Settings.Value
import CobolCompanion.Text.Numeral

namespace CobolCompanion.Settings

/-- A step from a value to one inside it. A negative place counts from the end. -/
inductive Step where
  | child (name : String)
  | member (place : Int)
  deriving DecidableEq

abbrev Path :=
  List Step

namespace Path

def isNameChar (c : Char) : Bool :=
  c.isAlphanum || c == ' ' || c == '_' || c == '-'

def name? (text : List Char) : Option (String × List Char) :=
  let name := text.takeWhile isNameChar
  if name.isEmpty then none else some (String.ofList name, text.dropWhile isNameChar)

def isPlaceBlank (c : Char) : Bool :=
  c == ' ' || c == '\t'

/-- The place between two brackets: digits, perhaps with a minus, between blanks. -/
def place? (text : List Char) : Option Int :=
  let digits := ((text.dropWhile isPlaceBlank).reverse.dropWhile isPlaceBlank).reverse
  match digits with
  | '+' :: _ => none
  | _ => Numeral.integer? digits

def steps? (text : List Char) : Option Path :=
  match text with
  | [] => some []
  | '.' :: rest =>
    let name := rest.takeWhile isNameChar
    if name.isEmpty then none
    else (steps? (rest.dropWhile isNameChar)).map (.child (String.ofList name) :: ·)
  | '[' :: rest =>
    match place? (rest.takeWhile (· ≠ ']')) with
    | none => none
    | some place =>
      if (rest.dropWhile (· ≠ ']')).isEmpty then none
      else (steps? ((rest.dropWhile (· ≠ ']')).drop 1)).map (.member place :: ·)
  | _ => none
termination_by text.length
decreasing_by
  · have := (List.dropWhile_sublist isNameChar (l := rest)).length_le
    simp only [List.length_cons]
    omega
  · have := (List.dropWhile_sublist (· ≠ ']') (l := rest)).length_le
    simp only [List.length_cons, List.length_drop]
    omega

/-- Reads a path: a name, and then names after points and places in brackets. -/
def parse? (text : String) : Option Path :=
  (name? text.toList).bind fun (first, rest) => (steps? rest).map (.child first :: ·)

end Path

/-- No list has this many members. -/
def reach : Nat :=
  100000000000000000

def place (length : Nat) (place : Int) : Except Fault Nat :=
  if 0 ≤ place then if place.toNat < reach then .ok place.toNat else .error .beyondReach
  else if place.natAbs ≤ length then .ok (length - place.natAbs)
  else .error .beforeStart

/--
Puts a value at the end of a path. What stands on the way becomes a table or a list as the steps
need it, and a list is extended up to the place that is asked for.
-/
def Value.set (value : Value) : Path → Value → Except Fault Value
  | [], _ => .ok value
  | [.child name], root => .ok (root.put name value)
  | .child name :: rest, root =>
    (set value rest ((root.entries.find? (lowerName name)).getD .nothing)).map fun inner =>
      .table (root.entries.put (lowerName name) inner)
  | .member n :: rest, root => do
    let i ← place root.members.length n
    let inner ← set value rest (root.members[i]?.getD .nothing)
    let extended := root.members ++ List.replicate (i + 1 - root.members.length) .nothing
    return .list (extended.set i inner)

end CobolCompanion.Settings
