import CobolCompanion.Text.Blank
import CobolCompanion.Text.Numeral
import CobolCompanion.Text.Pieces

namespace CobolCompanion

/--
A row of a table of characters: a code point or a range of them, for instance `300-314`; after a
slash may stand the distance between its members, and after a colon the values that go with it,
separated by commas. All numbers are hexadecimal, and blanks separate rows.
-/
structure CharRow where
  first : Nat
  last : Nat
  step : Nat
  values : List Nat

namespace CharRow

def covers (row : CharRow) (c : Char) : Bool :=
  row.first ≤ c.toNat && c.toNat ≤ row.last && (c.toNat - row.first) % row.step == 0

/--
What a character is replaced by. A single value is that of the first, and the others follow it.
-/
def image (row : CharRow) (c : Char) : List Char :=
  match row.values with
  | [value] => [Char.ofNat (value + (c.toNat - row.first))]
  | values => values.map Char.ofNat

def number (digits : List Char) : Nat :=
  (Numeral.natural? 16 digits).getD 0

def ofText (text : List Char) : CharRow :=
  let (members, values) := match pieces ':' text with
    | members :: values :: _ => (members, (pieces ',' values).map number)
    | _ => (text, [])
  let (range, step) := match pieces '/' members with
    | range :: step :: _ => (range, number step)
    | _ => (members, 1)
  match pieces '-' range with
  | first :: last :: _ => ⟨number first, number last, step, values⟩
  | _ => ⟨number range, number range, step, values⟩

end CharRow

abbrev CharTable :=
  List CharRow

namespace CharTable

def ofText (text : String) : CharTable :=
  (blankSeparated text.toList).map CharRow.ofText

def row? (table : CharTable) (c : Char) : Option CharRow :=
  table.find? (·.covers c)

def covers (table : CharTable) (c : Char) : Bool :=
  table.any (·.covers c)

end CharTable

end CobolCompanion
