namespace CobolCompanion.Decimal

/-- A floating point number taken apart. -/
inductive Parts where
  | nan
  | infinite (negative : Bool)
  /-- A mantissa times a power of two. -/
  | finite (negative : Bool) (mantissa : Nat) (exponent : Int)

def twoTo (n : Nat) : Nat :=
  Nat.pow 2 n

def tenTo (n : Nat) : Nat :=
  Nat.pow 10 n

/-- Takes a number apart at the bits of its format: a sign, eleven exponent bits, a fraction. -/
def parts (x : Float) : Parts :=
  let bits := x.toBits.toNat
  let negative := decide (twoTo 63 ≤ bits)
  let biased : Nat := bits / twoTo 52 % twoTo 11
  let fraction : Nat := bits % twoTo 52
  if biased = 2047 then if fraction = 0 then .infinite negative else .nan
  else if biased = 0 then .finite negative fraction (-1074)
  else .finite negative (fraction + twoTo 52) ((biased : Int) - 1075)

/-- A quotient rounded to the nearest natural number, a half to the even one. -/
def roundDiv (numerator denominator : Nat) : Nat :=
  let quotient := numerator / denominator
  let twice := 2 * (numerator % denominator)
  if twice < denominator || twice = denominator && quotient % 2 = 0 then quotient
  else quotient + 1

/-- A quotient rounded to the nearest natural number, a half upwards. -/
def roundDivUp (numerator denominator : Nat) : Nat :=
  (2 * numerator + denominator) / (2 * denominator)

def padded (length n : Nat) : String :=
  let digits := toString n
  String.ofList (List.replicate (length - digits.length) '0') ++ digits

/-- A natural number of units of the given place, written with that many places. -/
def withPlaces (places n : Nat) : String :=
  if places = 0 then toString n
  else toString (n / tenTo places) ++ "." ++ padded places (n % tenTo places)

def sign (negative : Bool) : String :=
  if negative then "-" else ""

/--
A number with a fixed number of places, rounded to the nearest; a half goes to the even digit.
-/
def fixed (places : Nat) (x : Float) : String :=
  match parts x with
  | .nan => "NaN"
  | .infinite negative => sign negative ++ "inf"
  | .finite negative mantissa exponent =>
    let numerator := mantissa * twoTo exponent.toNat * tenTo places
    sign negative ++ withPlaces places (roundDiv numerator (twoTo (-exponent).toNat))

/--
The neighbour of a number on the grid of a power of ten that reads back as the number, the
nearer one if both do, and the upper one if they are equally near. What reads back lies between
two bounds, in quarters of the unit of the mantissa; the bounds themselves read back if the
mantissa is even.
-/
def nearestOnGrid? (mantissa : Nat) (exponent : Int) (place : Int) : Option Nat :=
  let scale := twoTo (exponent - 2).toNat * tenTo (-place).toNat
  let unit := twoTo (2 - exponent).toNat * tenTo place.toNat
  let lower := if mantissa = twoTo 52 && exponent ≠ -1074 then 4 * mantissa - 1
    else 4 * mantissa - 2
  let upper := 4 * mantissa + 2
  let readsBack := fun digits =>
    if mantissa % 2 = 0 then lower * scale ≤ digits * unit && digits * unit ≤ upper * scale
    else lower * scale < digits * unit && digits * unit < upper * scale
  let below := 4 * mantissa * scale / unit
  let nearer := roundDivUp (4 * mantissa * scale) unit
  [nearer, below, below + 1].find? readsBack

/-- The places from which the digits of a number can start, from the highest down. -/
def placesDown : List Int :=
  (List.range 660).map fun i : Nat => 310 - Int.ofNat i

/--
The fewest digits that identify a number that is not zero, and the place of the last of them.
-/
def shortest? (mantissa : Nat) (exponent : Int) : Option (Nat × Int) :=
  placesDown.findSome? fun place => (nearestOnGrid? mantissa exponent place).map (·, place)

/-- A number with the fewest digits that identify it, always written without an exponent. -/
def plain (x : Float) : String :=
  match parts x with
  | .nan => "NaN"
  | .infinite negative => sign negative ++ "inf"
  | .finite negative mantissa exponent =>
    match if mantissa = 0 then none else shortest? mantissa exponent with
    | none => sign negative ++ "0"
    | some (digits, place) =>
      sign negative ++
        if 0 ≤ place then toString (digits * tenTo place.toNat)
        else withPlaces (-place).toNat digits

end CobolCompanion.Decimal
