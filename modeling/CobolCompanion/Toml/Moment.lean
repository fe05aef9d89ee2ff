import CobolCompanion.Text.Decimal
import CobolCompanion.Toml.Text

namespace CobolCompanion.Toml

/-- Reads a number of exactly so many digits that lies between two bounds. -/
def boundedNumber? (digits lower upper : Nat) (text : List Char) : Reading Nat :=
  (Numeral.natural? 10 (text.take digits)).bind fun n =>
    if (text.take digits).length = digits ∧ lower ≤ n ∧ n ≤ upper then
      some (n, text.drop digits)
    else none

def char? (c : Char) : List Char → Option (List Char)
  | [] => none
  | d :: rest => if d = c then some rest else none

def isLeapYear (year : Nat) : Bool :=
  year % 4 == 0 && year % 100 != 0 || year % 400 == 0

def daysInMonth (year month : Nat) : Nat :=
  if month = 2 then if isLeapYear year then 29 else 28
  else if month = 4 ∨ month = 6 ∨ month = 9 ∨ month = 11 then 30
  else 31

def date? (text : List Char) : Option (String × List Char) := do
  let (year, text) ← boundedNumber? 4 0 9999 text
  let text ← char? '-' text
  let (month, text) ← boundedNumber? 2 1 12 text
  let text ← char? '-' text
  let (day, text) ← boundedNumber? 2 1 (daysInMonth year month) text
  let pad := Decimal.padded
  return (pad 4 year ++ "-" ++ pad 2 month ++ "-" ++ pad 2 day, text)

/-- Reads a fraction of a second, if there is one. Only nine digits count. -/
def fraction? : List Char → Reading String
  | '.' :: rest =>
    let digits := rest.takeWhile Char.isDigit
    if digits.isEmpty then none
    else
      let kept := ((digits.take 9).reverse.dropWhile (· == '0')).reverse
      some (if kept.isEmpty then "" else "." ++ String.ofList kept, rest.dropWhile Char.isDigit)
  | text => some ("", text)

def time? (text : List Char) : Option (String × List Char) := do
  let (hour, text) ← boundedNumber? 2 0 23 text
  let text ← char? ':' text
  let (minute, text) ← boundedNumber? 2 0 59 text
  let text ← char? ':' text
  let (second, text) ← boundedNumber? 2 0 60 text
  let (fraction, text) ← fraction? text
  let pad := Decimal.padded 2
  return (pad hour ++ ":" ++ pad minute ++ ":" ++ pad second ++ fraction, text)

/-- Reads the distance from universal time, if it is given. -/
def offset? : List Char → Option (String × List Char)
  | 'Z' :: rest => some ("Z", rest)
  | 'z' :: rest => some ("Z", rest)
  | text =>
    match text with
    | c :: rest =>
      if c = '+' ∨ c = '-' then do
        let (hours, rest) ← boundedNumber? 2 0 23 rest
        let rest ← char? ':' rest
        let (minutes, rest) ← boundedNumber? 2 0 59 rest
        let sign := if c = '-' ∧ 0 < 60 * hours + minutes then "-" else "+"
        return (sign ++ Decimal.padded 2 hours ++ ":" ++ Decimal.padded 2 minutes, rest)
      else some ("", text)
    | [] => some ("", [])

/-- Whether a character may stand between a date and a time. -/
def isTimeMark (c : Char) : Bool :=
  c == 'T' || c == 't' || c == ' '

/--
Reads a date, a time, or both, checked against the calendar and kept in one form. A blank after
a date counts only if a time follows it.
-/
def moment? (text : List Char) : Reading String :=
  match date? text with
  | none => time? text
  | some (date, rest) =>
    match rest with
    | [] => some (date, [])
    | c :: after =>
      if isTimeMark c then
        match (time? after).bind fun (time, rest) =>
            (offset? rest).map fun (offset, rest) => (time ++ offset, rest) with
        | some (time, rest) => some (date ++ "T" ++ time, rest)
        | none => some (date, rest)
      else some (date, rest)

end CobolCompanion.Toml
