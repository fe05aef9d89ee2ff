import CobolCompanion.Parse.Lookahead

namespace CobolCompanion

theorem toNat_toLower (c : Char) :
    c.toLower.toNat = if 65 ≤ c.toNat ∧ c.toNat ≤ 90 then c.toNat + 32 else c.toNat := by
  unfold Char.toLower
  split <;> grind [UInt32.toNat_add, UInt32.le_iff_toNat_le, Char.toNat_val, Char.toNat_mk]

theorem toNat_toUpper (c : Char) :
    c.toUpper.toNat = if 97 ≤ c.toNat ∧ c.toNat ≤ 122 then c.toNat - 32 else c.toNat := by
  unfold Char.toUpper
  split <;> grind [UInt32.toNat_add, UInt32.le_iff_toNat_le, Char.toNat_val, Char.toNat_mk]

theorem eq_or_toUpper_eq_of_toLower_eq {c d : Char} (h : c.toLower = d.toLower) :
    c = d ∨ c.toNat < 0x80 ∧ d.toNat < 0x80 ∧ c.toUpper = d.toUpper := by
  have hlower := congrArg Char.toNat h
  rw [toNat_toLower, toNat_toLower] at hlower
  simp only [← Char.toNat_inj, toNat_toUpper]
  split at hlower <;> split at hlower <;> split <;> split <;> omega

theorem upperChar_eq_of_toLower_eq {c d : Char} (h : c.toLower = d.toLower) :
    upperChar c = upperChar d := by
  rcases eq_or_toUpper_eq_of_toLower_eq h with rfl | ⟨hc, hd, hupper⟩
  · rfl
  · simp only [upperChar, if_pos hc, if_pos hd, hupper]

theorem upper_eq_of_sameIgnoringCase {s t : String} (h : sameIgnoringCase s t) :
    upper s = upper t := by
  have hflat : ∀ {cs ds : List Char}, cs.map Char.toLower = ds.map Char.toLower →
      cs.flatMap upperChar = ds.flatMap upperChar := by
    intro cs
    induction cs with
    | nil =>
      intro ds hds
      rw [List.map_nil, eq_comm, List.map_eq_nil_iff] at hds
      rw [hds]
    | cons c cs ih =>
      intro ds hds
      cases ds with
      | nil => simp at hds
      | cons d ds =>
        simp only [List.map_cons, List.cons.injEq] at hds
        rw [List.flatMap_cons, List.flatMap_cons, upperChar_eq_of_toLower_eq hds.1, ih hds.2]
  unfold sameIgnoringCase at h
  rw [upper, upper, hflat (eq_of_beq h)]

/--
The words and the mark that the grammar looks for. `PROGRAM-ID` is not among them: it passes for
`PROGRAM`, and it is looked for at one place only, where nothing else can stand.
-/
def reservedWords : List String :=
  ["ID", "IDENTIFICATION", "DIVISION", ".", "PROGRAM", "END", "ENVIRONMENT", "DATA",
    "PROCEDURE", "IS", "RECURSIVE", "INITIAL"]

/-- A measure of similarity by which no reserved word passes for another one. -/
def Similarity.TellsApart (score : Similarity) : Prop :=
  ∀ actual ∈ reservedWords, ∀ expected ∈ reservedWords, actual ≠ expected →
    (Keyword.compare score actual expected).isAccepted = false

instance (score : Similarity) : Decidable score.TellsApart :=
  inferInstanceAs (Decidable (∀ actual ∈ reservedWords, _))

/-- The score of Jaro and Winkler tells the reserved words apart. -/
theorem Similarity.tellsApart_jaroWinkler : jaroWinkler.TellsApart := by
  decide +kernel

namespace Keyword

variable {score : Similarity} {t : Token} {word expected : String}

theorem upper_of_mem_reservedWords (h : word ∈ reservedWords) : upper word = word := by
  have hall : ∀ w ∈ reservedWords, upper w = w := by decide +kernel
  exact hall word h

theorem isEmpty_eq_false_of_upper_eq {actual : String} (h : upper actual = word)
    (hne : word ≠ "") :
    actual.isEmpty = false := by
  refine Bool.eq_false_iff.2 fun hempty => hne ?_
  rw [String.isEmpty_iff.1 hempty] at h
  exact h.symm

theorem compare_eq_exact {actual : String} (h : upper actual = upper expected)
    (hne : expected ≠ "") (hupper : upper expected ≠ "") :
    compare score actual expected = .exact := by
  have hactual := isEmpty_eq_false_of_upper_eq h hupper
  have hexpected : expected.isEmpty = false :=
    Bool.eq_false_iff.2 fun hempty => hne (String.isEmpty_iff.1 hempty)
  simp [compare, hactual, hexpected, h]

/-- How a word compares with a keyword depends on nothing but its upper case. -/
theorem compare_congr {actual other : String} (h : upper actual = upper other)
    (hne : upper other ≠ "") :
    compare score actual expected = compare score other expected := by
  have hactual := isEmpty_eq_false_of_upper_eq h hne
  have hother := isEmpty_eq_false_of_upper_eq (rfl : upper other = _) hne
  simp [compare, hactual, hother, h]

theorem ne_empty_of_mem_reservedWords (h : word ∈ reservedWords) : word ≠ "" := by
  rintro rfl
  simp [reservedWords] at h

/-- A token that is a keyword but for its case is accepted as that keyword. -/
theorem accepts_of_sameIgnoringCase (h : sameIgnoringCase t.lexeme word)
    (hword : word ∈ reservedWords) : accepts score t word := by
  have hne := ne_empty_of_mem_reservedWords hword
  have hupper := upper_of_mem_reservedWords hword
  rw [accepts, compare_eq_exact (upper_eq_of_sameIgnoringCase h) hne (by rwa [hupper])]
  rfl

/-- A token that spells a reserved word is accepted as no other one. -/
theorem not_accepts_of_spells (hscore : score.TellsApart) (ht : upper t.lexeme = word)
    (hword : word ∈ reservedWords) (hexpected : expected ∈ reservedWords)
    (hne : word ≠ expected) :
    accepts score t expected = false := by
  have hupper := upper_of_mem_reservedWords hword
  have hne' : upper word ≠ "" := by
    rw [hupper]
    exact ne_empty_of_mem_reservedWords hword
  rw [accepts, compare_congr (ht.trans hupper.symm) hne']
  exact hscore word hword expected hexpected hne

end Keyword

end CobolCompanion
