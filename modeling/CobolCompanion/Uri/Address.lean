import CobolCompanion.Text.Numeral
import CobolCompanion.Text.Pieces

namespace CobolCompanion.Address

/-- A number in an address: octal after a zero, hexadecimal after a zero and an x. -/
def number? (text : List Char) : Option Nat :=
  match text with
  | ['0', 'x'] | ['0', 'X'] => some 0
  | '0' :: 'x' :: digits | '0' :: 'X' :: digits => Numeral.natural? 16 digits
  | '0' :: d :: digits => Numeral.natural? 8 (d :: digits)
  | digits => Numeral.natural? 10 digits

/-- The parts of an address. A point at its end does not count. -/
def parts (text : List Char) : List (List Char) :=
  match (pieces '.' text).reverse with
  | [] :: before :: more => (before :: more).reverse
  | backwards => backwards.reverse

/-- Whether a name ends in a number, so that it has to be an address. -/
def endsInNumber (text : List Char) : Bool :=
  match (parts text).getLast? with
  | none | some [] => false
  | some last => last.all Char.isDigit || (number? last).isSome

/-- The number of an address. The last part fills all the bytes that the others leave. -/
def short? (text : List Char) : Option Nat := do
  let numbers ← (parts text).mapM number?
  let (last, others) ← match numbers.reverse with
    | [] => none
    | last :: others => some (last, others.reverse)
  if 3 < others.length || others.any (255 < ·) then none
  else if Nat.pow 256 (4 - others.length) ≤ last then none
  else
    let high := others.foldl (fun n part => 256 * n + part) 0
    return high * Nat.pow 256 (4 - others.length) + last

/-- A number of 32 bits as four decimal numbers. -/
def shortText (n : Nat) : List Char :=
  joined '.' ([n / 16777216 % 256, n / 65536 % 256, n / 256 % 256, n % 256].map fun part =>
    (toString part).toList)

/-- A decimal number of one byte, without leading zeros. -/
def byte? (text : List Char) : Option Nat :=
  match text with
  | '0' :: _ :: _ => none
  | digits => if digits.all Char.isDigit then (Numeral.natural? 10 digits).filter (· < 256)
    else none

/-- The two groups at the end of a long address that is written like a short one. -/
def shortTail? (text : List Char) : Option (List Nat) :=
  match (pieces '.' text).map byte? with
  | [some a, some b, some c, some d] => some [256 * a + b, 256 * c + d]
  | _ => none

/-- The groups of an address read so far, and how many of them stand before the gap. -/
structure Groups where
  values : List Nat
  gap : Option Nat

/-- How many groups are taken. A gap stands for one at least. -/
def Groups.count (g : Groups) : Nat :=
  g.values.length + if g.gap.isSome then 1 else 0

def isHexDigit (c : Char) : Bool :=
  (Numeral.digit? c).isSome

def groups? (g : Groups) (text : List Char) : Option Groups :=
  match text with
  | [] => some g
  | c :: rest =>
    if g.count = 8 then none
    else if c = ':' then
      if g.gap.isSome then none else groups? { g with gap := some g.values.length } rest
    else
      let digits := ((c :: rest).take 4).takeWhile isHexDigit
      match Numeral.natural? 16 digits with
      | none => none
      | some value =>
        let next := { g with values := g.values ++ [value] }
        match (c :: rest).drop digits.length with
        | [] => some next
        | ':' :: more =>
          if more.isEmpty ∨ (c :: rest).length ≤ more.length then none else groups? next more
        | '.' :: _ =>
          if 6 < g.count then none
          else (shortTail? (c :: rest)).map fun tail => { g with values := g.values ++ tail }
        | _ => none
termination_by text.length
decreasing_by
  · simp
  · simp only [List.length_cons] at *
    omega

def Groups.filled? (g : Groups) : Option (List Nat) :=
  match g.gap with
  | none => if g.values.length = 8 then some g.values else none
  | some before =>
    some (g.values.take before ++ List.replicate (8 - g.values.length) 0 ++
      g.values.drop before)

def long? (text : List Char) : Option (List Nat) :=
  let groups := match text with
    | ':' :: ':' :: rest => groups? ⟨[], some 0⟩ rest
    | ':' :: _ => none
    | text => groups? ⟨[], none⟩ text
  groups.bind Groups.filled?

def zerosAhead (values : List Nat) : Nat :=
  (values.takeWhile (· == 0)).length

/-- The longest run of zeros: its place and its length. The first of several counts. -/
def longestGap (place : Nat) : List Nat → Nat × Nat
  | [] => (place, 0)
  | value :: rest =>
    let here := zerosAhead (value :: rest)
    let later := longestGap (place + 1) rest
    if later.2 ≤ here then (place, here) else later

def hexText (n : Nat) : List Char :=
  Nat.toDigits 16 n

/--
The text of a long address. The longest run of zeros is left out if there are two at least.
-/
def longText (values : List Nat) : List Char :=
  let (place, length) := longestGap 0 values
  let text := fun values => joined ':' (values.map hexText)
  if length < 2 then text values
  else text (values.take place) ++ [':', ':'] ++ text (values.drop (place + length))

end CobolCompanion.Address
