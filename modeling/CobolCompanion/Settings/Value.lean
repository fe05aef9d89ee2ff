import CobolCompanion.Keyed
import CobolCompanion.Text.Decimal
import CobolCompanion.Toml.Value

namespace CobolCompanion.Settings

/-- Lower case for keys. The sign for kelvin is one of the letters K. -/
def lowerChar (c : Char) : Char :=
  if c = '\u212A' then 'k' else c.toLower

def lowerName (name : String) : String :=
  String.ofList (name.toList.map lowerChar)

/--
A configured value. Tables merge key by key when one is put over another; everything else is
replaced.
-/
inductive Value where
  /-- What stands where a list was extended beyond its end. -/
  | nothing
  | boolean (value : Bool)
  | integer (value : Int)
  | float (value : Float)
  | text (value : String)
  | list (members : List Value)
  | table (entries : List (String × Value))

namespace Value

/-- The entries of a table. Anything else has none. -/
def entries : Value → Keyed String Value
  | table entries => entries
  | _ => []

/-- The members of a list. Anything else has none. -/
def members : Value → List Value
  | list members => members
  | _ => []

mutual
/-- The value that a file gives. Dates and times are text. -/
def ofToml : Toml.Value → Value
  | .text s => text s
  | .integer n => integer n
  | .float x => float x
  | .boolean b => boolean b
  | .moment s => text s
  | .list members => list (ofTomlMembers members)
  | .table entries => table (ofTomlEntries entries)

def ofTomlMembers : List Toml.Value → List Value
  | [] => []
  | v :: rest => ofToml v :: ofTomlMembers rest

def ofTomlEntries : List (String × Toml.Value) → List (String × Value)
  | [] => []
  | (key, v) :: rest => (key, ofToml v) :: ofTomlEntries rest
end

mutual
/-- Puts a value under a key of a table, and makes a table of anything else. Tables merge. -/
def put (root : Value) (key : String) : Value → Value
  | table incoming =>
    let target := (root.entries.find? (lowerName key)).getD (table [])
    table (root.entries.put (lowerName key) (putAll target incoming))
  | v => table (root.entries.put (lowerName key) v)

def putAll (root : Value) : List (String × Value) → Value
  | [] => root
  | (key, v) :: rest => putAll (root.put key v) rest
end

def text? : Value → Option String
  | text s => some s
  | boolean b => some (if b then "true" else "false")
  | integer n => some (toString n)
  | float x => some (Decimal.plain x)
  | _ => none

end Value

end CobolCompanion.Settings
