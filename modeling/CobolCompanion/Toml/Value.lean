import CobolCompanion.Keyed

namespace CobolCompanion.Toml

/-- A value. Dates and times are kept as their text. -/
inductive Value where
  | text (value : String)
  | integer (value : Int)
  | float (value : Float)
  | boolean (value : Bool)
  | moment (value : String)
  | list (members : List Value)
  | table (entries : List (String × Value))

/-- How a table came about. -/
inductive Origin where
  /-- By its own header, or as a value. -/
  | explicit
  /-- On the way to a table further down. -/
  | implicit
  /-- By a dotted key. -/
  | dotted
  deriving DecidableEq

/-- What stands under a key while a document is read. -/
inductive Item where
  | value (v : Value)
  | table (origin : Origin) (entries : List (String × Item))
  /-- Tables with headers of one name, the latest first. -/
  | tables (latest : List (String × Item)) (earlier : List (List (String × Item)))

abbrev Entries :=
  Keyed String Item

namespace Entries

def add? (key : String) (v : Value) (entries : Entries) : Option Entries :=
  if entries.contains key then none else some (entries.put key (.value v))

/--
Changes the table at the end of a path of headers; tables on the way arise where there are none.
-/
def below? (change : Entries → Option Entries) : List String → Entries → Option Entries
  | [], entries => change entries
  | key :: path, entries =>
    match entries.find? key with
    | none => (below? change path []).map fun inner => entries.put key (.table .implicit inner)
    | some (.value _) => none
    | some (.table origin inner) =>
      (below? change path inner).map fun inner => entries.put key (.table origin inner)
    | some (.tables latest earlier) =>
      (below? change path latest).map fun latest => entries.put key (.tables latest earlier)

/--
Adds a value under a dotted key. A table with a header of its own is not entered this way, and
the last table on the way has to come from dotted keys alone.
-/
def addDotted? (v : Value) : List String → String → Entries → Option Entries
  | [], key, entries => add? key v entries
  | first :: path, key, entries =>
    match entries.find? first with
    | none => (addDotted? v path key []).map fun inner =>
      entries.put first (.table .dotted inner)
    | some (.value _) => none
    | some (.table origin inner) =>
      if origin = .explicit ∨ path = [] ∧ origin ≠ .dotted then none
      else (addDotted? v path key inner).map fun inner =>
        entries.put first (.table origin inner)
    | some (.tables latest earlier) =>
      if path = [] then none
      else (addDotted? v path key latest).map fun latest =>
        entries.put first (.tables latest earlier)

/-- Opens the table of a header. A table on the way to another may get its own header once. -/
def openTable? (key : String) (entries : Entries) : Option Entries :=
  match entries.find? key with
  | none => some (entries.put key (.table .explicit []))
  | some (.table .implicit inner) => some (entries.put key (.table .explicit inner))
  | _ => none

def openListed? (key : String) (entries : Entries) : Option Entries :=
  match entries.find? key with
  | none => some (entries.put key (.tables [] []))
  | some (.tables latest earlier) => some (entries.put key (.tables [] (latest :: earlier)))
  | _ => none

end Entries

mutual
def Item.toValue : Item → Value
  | .value v => v
  | .table _ entries => .table (Entries.toValues entries)
  | .tables latest earlier =>
    .list (Entries.toTables earlier [.table (Entries.toValues latest)])

def Entries.toValues : List (String × Item) → List (String × Value)
  | [] => []
  | (key, item) :: rest => (key, item.toValue) :: Entries.toValues rest

def Entries.toTables : List (List (String × Item)) → List Value → List Value
  | [], after => after
  | entries :: rest, after => Entries.toTables rest (.table (Entries.toValues entries) :: after)
end

end CobolCompanion.Toml
