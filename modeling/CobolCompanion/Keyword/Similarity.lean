namespace CobolCompanion

/-- A measure of how alike two words are, between zero and one. -/
abbrev Similarity :=
  String → String → Float

namespace Similarity

/--
Takes the first unused character equal to the given one out of those at the places from the
lower bound up to, not including, the upper bound. Characters in use are marked.
-/
def claim (c : Char) (lower upper : Nat) : Nat → List (Char × Bool) →
    Option (List (Char × Bool))
  | _, [] => none
  | j, (d, used) :: rest =>
    if upper ≤ j then none
    else if lower ≤ j && d == c && !used then some ((d, true) :: rest)
    else (claim c lower upper (j + 1) rest).map ((d, used) :: ·)

/--
The characters of the first word that find a partner in the second, in order, and the second
word with the partners marked. A partner stands at most the given distance away.
-/
def partners (reach : Nat) : Nat → List Char → List (Char × Bool) →
    List Char × List (Char × Bool)
  | _, [], marked => ([], marked)
  | i, c :: word, marked =>
    match claim c (i - reach) (i + reach + 1) 0 marked with
    | some marked =>
      let (found, marked) := partners reach (i + 1) word marked
      (c :: found, marked)
    | none => partners reach (i + 1) word marked

/--
The score of Jaro: how many characters two words share at nearby places, and how many of these
are out of order. The arithmetic is in floating point, in the order in which it is written here.
-/
def jaro (a b : List Char) : Float :=
  if a.isEmpty && b.isEmpty then 1.0
  else
    let reach := max a.length b.length / 2 - 1
    let (found, marked) := partners reach 0 a (b.map (·, false))
    let partner := (marked.filter (·.2)).map (·.1)
    let matched := found.length
    let transposed := ((found.zip partner).countP fun (c, d) => c != d) / 2
    if matched = 0 then 0.0
    else
      let m := Float.ofNat matched
      (m / Float.ofNat a.length + m / Float.ofNat b.length +
        Float.ofNat (matched - transposed) / m) / 3.0

/-- The number of characters that two words have in common at their beginnings. -/
def commonLength : List Char → List Char → Nat
  | c :: a, d :: b => if c = d then commonLength a b + 1 else 0
  | _, _ => 0

/-- The score of Jaro with Winkler's addition for up to four common first characters. -/
def jaroWinkler : Similarity := fun a b =>
  let score := jaro a.toList b.toList
  if score > 0.7 then
    let shared := Float.ofNat (min 4 (commonLength a.toList b.toList))
    score + 0.1 * shared * (1.0 - score)
  else score

end Similarity

end CobolCompanion
