namespace CobolCompanion.Numeral

def digit? (c : Char) : Option Nat :=
  if c.isDigit then some (c.toNat - '0'.toNat)
  else if 'a' ≤ c && c ≤ 'f' then some (c.toNat - 'a'.toNat + 10)
  else if 'A' ≤ c && c ≤ 'F' then some (c.toNat - 'A'.toNat + 10)
  else none

/-- The value of digits in a base. There has to be one, and all have to be below the base. -/
def natural? (base : Nat) : List Char → Option Nat
  | [] => none
  | digits =>
    digits.foldl
      (fun value c =>
        match value, digit? c with
        | some n, some d => if d < base then some (base * n + d) else none
        | _, _ => none)
      (some 0)

def signed : List Char → Bool × List Char
  | '-' :: rest => (true, rest)
  | '+' :: rest => (false, rest)
  | rest => (false, rest)

def fitting? (n : Int) : Option Int :=
  if -9223372036854775808 ≤ n && n ≤ 9223372036854775807 then some n else none

def integer? (text : List Char) : Option Int :=
  let (negative, digits) := signed text
  (natural? 10 digits).bind fun n => fitting? (if negative then -(n : Int) else n)

/-- The float nearest to some digits times a power of ten. -/
def scaled (digits : List Char) (exponent : Int) : Float :=
  match natural? 10 digits with
  | none | some 0 => 0.0
  | some n =>
    let magnitude := exponent + digits.length
    if magnitude < -400 then 0.0
    else if 400 + Int.ofNat digits.length < magnitude then 1.0 / 0.0
    else Float.ofScientific n (exponent < 0) exponent.natAbs

/-- The exponent at the end of a float: nothing, or an e and an integer. -/
def exponent? : List Char → Option Int
  | [] => some 0
  | c :: rest =>
    if c = 'e' ∨ c = 'E' then
      let (negative, digits) := signed rest
      (natural? 10 digits).map fun n => if negative then -(n : Int) else n
    else none

/-- A float without its sign: digits with or without a point, and perhaps an exponent. -/
def unsignedFloat? (text : List Char) : Option Float :=
  let whole := text.takeWhile Char.isDigit
  let (fraction, rest) := match text.dropWhile Char.isDigit with
    | '.' :: rest => (rest.takeWhile Char.isDigit, rest.dropWhile Char.isDigit)
    | rest => ([], rest)
  if whole.isEmpty && fraction.isEmpty then none
  else (exponent? rest).map fun e => scaled (whole ++ fraction) (e - fraction.length)

/-- A float in decimal digits, or one of the words for infinity and for what is no number. -/
def float? (text : List Char) : Option Float :=
  let (negative, rest) := signed text
  let word := String.ofList (rest.map Char.toLower)
  let magnitude :=
    if word = "inf" ∨ word = "infinity" then some (1.0 / 0.0)
    else if word = "nan" then some (0.0 / 0.0)
    else unsignedFloat? rest
  magnitude.map fun x => if negative then -x else x

end CobolCompanion.Numeral
