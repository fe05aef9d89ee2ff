namespace CobolCompanion.Domain.Punycode

/-- A digit: the letters stand for 0 to 25, the decimal digits for 26 to 35. -/
def digit (n : Nat) : Char :=
  if n < 26 then Char.ofNat ('a'.toNat + n) else Char.ofNat ('0'.toNat + (n - 26))

def digitValue? (c : Char) : Option Nat :=
  if 'a' ≤ c && c ≤ 'z' then some (c.toNat - 'a'.toNat)
  else if 'A' ≤ c && c ≤ 'Z' then some (c.toNat - 'A'.toNat)
  else if c.isDigit then some (c.toNat - '0'.toNat + 26)
  else none

/-- The least value of a digit after which another one follows, by its place. -/
def threshold (bias place : Nat) : Nat :=
  min 26 (max 1 (place - bias))

theorem threshold_pos (bias place : Nat) : 0 < threshold bias place := by
  unfold threshold
  omega

/-- The bias for numbers about as large as a scaled one. -/
def biasFor (n place : Nat) : Nat :=
  if 455 < n then biasFor (n / 35) (place + 36) else place + 36 * n / (n + 38)
termination_by n
decreasing_by exact Nat.div_lt_self (by omega) (by omega)

/--
The bias after a number, with the count of characters then. The first number counts for less.
-/
def adapted (isFirst : Bool) (number count : Nat) : Nat :=
  let scaled := if isFirst then number / 700 else number / 2
  biasFor (scaled + scaled / count) 0

def digits (bias place n : Nat) : List Char :=
  let t := threshold bias place
  if n < t then [digit n]
  else digit (t + (n - t) % (36 - t)) :: digits bias (place + 36) ((n - t) / (36 - t))
termination_by n
decreasing_by
  have ht := threshold_pos bias place
  exact Nat.lt_of_le_of_lt (Nat.div_le_self _ _) (by omega)

/-- A writer between two characters. -/
structure Writer where
  /-- The next number so far. -/
  number : Nat
  bias : Nat
  /-- How many characters are written. -/
  count : Nat

/-- Writes where a character stands in a label, with the writer after it. -/
def places (basic : Nat) (code : Nat) (w : Writer) : List Char → List Char × Writer
  | [] => ([], w)
  | c :: rest =>
    if c.toNat < code then places basic code { w with number := w.number + 1 } rest
    else if c.toNat = code then
      let bias := adapted (w.count == basic) w.number (w.count + 1)
      let (written, after) := places basic code ⟨0, bias, w.count + 1⟩ rest
      (digits w.bias 36 w.number ++ written, after)
    else places basic code w rest

/-- Writes the characters with the given codes, in ascending order. -/
def allPlaces (label : List Char) (basic next : Nat) (w : Writer) : List Nat → List Char
  | [] => []
  | code :: rest =>
    let (written, after) :=
      places basic code { w with number := w.number + (code - next) * (w.count + 1) } label
    written ++ allPlaces label basic (code + 1) { after with number := after.number + 1 } rest

def isAscii (c : Char) : Bool :=
  c.toNat < 0x80

/--
The written form of a label. The ASCII characters come first; the others follow as numbers that
say which character is next and where it goes in. Each number is written with digits of varying
weight, the least significant first, and the weights adapt to the numbers before.
-/
def encode (label : List Char) : List Char :=
  let basic := label.filter isAscii
  let codes := ((label.filter fun c => !isAscii c).map Char.toNat).mergeSort.eraseDups
  let separator := if basic.isEmpty then [] else ['-']
  basic ++ separator ++ allPlaces label basic.length 0x80 ⟨0, 72, basic.length⟩ codes

/-- Reads a number, added to one, and gives the text after it. -/
def number? (bias place weight n : Nat) : List Char → Option (Nat × List Char)
  | [] => none
  | c :: rest =>
    (digitValue? c).bind fun d =>
      if d < threshold bias place then some (n + d * weight, rest)
      else number? bias (place + 36) (weight * (36 - threshold bias place))
        (n + d * weight) rest

theorem number?_length {bias place weight n : Nat} {text : List Char} {found : Nat × List Char}
    (h : number? bias place weight n text = some found) : found.2.length < text.length := by
  induction text generalizing place weight n with
  | nil => simp [number?] at h
  | cons c rest ih =>
    rw [number?] at h
    obtain ⟨d, -, h⟩ := Option.bind_eq_some_iff.1 h
    split at h
    · obtain rfl := Option.some.inj h
      simp
    · have := ih h
      simp only [List.length_cons]
      omega

def insertAll (bias code place : Nat) (label : List Char) (text : List Char) :
    Option (List Char) :=
  match _h : number? bias 36 1 place text with
  | none => if text.isEmpty then some label else none
  | some (number, rest) =>
    let count := label.length + 1
    let code := code + number / count
    let spot := number % count
    if code.isValidChar then
      insertAll (adapted (place == 0) (number - place) count) code (spot + 1)
        (label.take spot ++ Char.ofNat code :: label.drop spot) rest
    else none
termination_by text.length
decreasing_by exact number?_length _h

/-- The label of a written form. What is before the last separator is ASCII. -/
def decode? (text : List Char) : Option (List Char) :=
  let tail := (text.reverse.takeWhile (· ≠ '-')).reverse
  let basic := text.take (text.length - tail.length - 1)
  if !text.all isAscii then none
  else if basic.isEmpty then insertAll 72 0x80 0 [] text
  else insertAll 72 0x80 0 basic tail

end CobolCompanion.Domain.Punycode
