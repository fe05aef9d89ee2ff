import CobolCompanion.Text.Normal.Tables

namespace CobolCompanion.NormalForm

/--
The first Korean syllable and the first of each kind of its letters; no final letter counts too.
-/
def firstSyllable : Nat :=
  0xAC00

def firstInitial : Nat :=
  0x1100

def firstVowel : Nat :=
  0x1161

def noFinal : Nat :=
  0x11A7

def syllableLetters? (c : Char) : Option (List Char) :=
  let n := c.toNat - firstSyllable
  if c.toNat < firstSyllable || 11172 ≤ n then none
  else
    let letters := [Char.ofNat (firstInitial + n / 588), Char.ofNat (firstVowel + n % 588 / 28)]
    some (if n % 28 = 0 then letters else letters ++ [Char.ofNat (noFinal + n % 28)])

/-- A Korean syllable from two letters, or from a syllable without a final letter and one. -/
def syllable? (first second : Char) : Option Char :=
  let initial := first.toNat - firstInitial
  let vowel := second.toNat - firstVowel
  let bare := first.toNat - firstSyllable
  let final := second.toNat - noFinal
  if firstInitial ≤ first.toNat && initial < 19 && firstVowel ≤ second.toNat && vowel < 21 then
    some (Char.ofNat (firstSyllable + (initial * 21 + vowel) * 28))
  else if firstSyllable ≤ first.toNat && bare < 11172 && bare % 28 == 0 &&
      noFinal < second.toNat && final < 28 then
    some (Char.ofNat (first.toNat + final))
  else none

def decomposed (c : Char) : List Char :=
  match syllableLetters? c with
  | some letters => letters
  | none => ((decompositions.row? c).map fun row => row.values.map Char.ofNat).getD [c]

/-- The class of a mark. What is no mark has the class zero. -/
def markClass (c : Char) : Nat :=
  (classes.row? c).elim 0 fun row => row.values.headD 0

/-- Puts a mark after those of a lower class. -/
def insertMark (c : Char) : List Char → List Char
  | [] => [c]
  | d :: rest =>
    if 0 < markClass d && markClass d < markClass c then d :: insertMark c rest
    else c :: d :: rest

/-- Brings marks into the order of their classes. Marks of one class stay in their order. -/
def ordered : List Char → List Char
  | [] => []
  | c :: rest => insertMark c (ordered rest)

def valueAfter? (key : Nat) : List Nat → Option Nat
  | k :: value :: rest => if k = key then some value else valueAfter? key rest
  | _ => none

/-- The character that two characters make together. -/
def composed? (first second : Char) : Option Char :=
  match syllable? first second with
  | some c => some c
  | none =>
    (compositions.findSome? fun row =>
      if row.covers first then valueAfter? second.toNat row.values else none).map Char.ofNat

/--
Composes what comes after a letter. The marks between them that were not taken up are kept with
the latest first; a mark is out of reach if one of its own class or a higher one stands before
it.
-/
def composeAfter (letter : Char) (kept : List Char) : List Char → List Char
  | [] => letter :: kept.reverse
  | c :: rest =>
    let inReach := kept.head?.all fun last => markClass last < markClass c
    match if inReach then composed? letter c else none with
    | some both => composeAfter both kept rest
    | none =>
      if markClass c = 0 then letter :: kept.reverse ++ composeAfter c [] rest
      else composeAfter letter (c :: kept) rest

def composed (text : List Char) : List Char :=
  match ordered (text.flatMap decomposed) with
  | [] => []
  | c :: rest => composeAfter c [] rest

end CobolCompanion.NormalForm
