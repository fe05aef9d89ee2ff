import CobolCompanion.Proofs.Segmentation

namespace CobolCompanion

/-- An offset at which a character of the text starts, or at which the text ends. -/
def IsBoundary (text : List Char) (offset : Nat) : Prop :=
  ∃ before, before <+: text ∧ byteLength before = offset

/-- The characters of a text that end at an offset or before it. -/
def charsBefore : Nat → List Char → List Char
  | _, [] => []
  | n, c :: text => if c.utf8Size ≤ n then c :: charsBefore (n - c.utf8Size) text else []

section
variable {n : Nat} {text : List Char}

theorem charsBefore_of_le (h : byteLength text ≤ n) : charsBefore n text = text := by
  induction text generalizing n with
  | nil => rfl
  | cons c text ih =>
    rw [byteLength] at h
    rw [charsBefore, if_pos (by omega), ih (by omega)]

theorem charsBefore_min (n : Nat) (text : List Char) :
    charsBefore (min n (byteLength text)) text = charsBefore n text := by
  rcases Nat.le_total n (byteLength text) with h | h
  · rw [Nat.min_eq_left h]
  · rw [Nat.min_eq_right h, charsBefore_of_le h, charsBefore_of_le (Nat.le_refl _)]

theorem countP_lineStartsFrom_eq_zero {offset bound : Nat} (h : bound ≤ offset) :
    (lineStartsFrom offset text).countP (· ≤ bound) = 0 := by
  apply countP_le_eq_zero
  intro start hstart
  exact Nat.lt_of_le_of_lt h (lineStartsFrom_bounds start hstart).1

theorem countP_lineStartsFrom (offset n : Nat) (text : List Char) :
    (lineStartsFrom offset text).countP (· ≤ offset + n) = (charsBefore n text).count '\n' := by
  induction text generalizing offset n with
  | nil => rfl
  | cons c text ih =>
    rw [charsBefore]
    -- A line feed is one byte long, so an offset never falls inside one.
    by_cases hsize : c.utf8Size ≤ n
    · have hrest := ih (offset + c.utf8Size) (n - c.utf8Size)
      rw [show offset + c.utf8Size + (n - c.utf8Size) = offset + n by omega] at hrest
      rw [if_pos hsize, lineStartsFrom]
      by_cases hc : c = '\n'
      · subst hc
        have hone : '\n'.utf8Size = 1 := rfl
        rw [hone] at hrest hsize
        rw [if_pos rfl, List.countP_cons_of_pos (by simpa using hsize), hone, hrest,
          List.count_cons_self]
      · rw [if_neg hc, hrest, List.count_cons_of_ne hc]
    · rw [if_neg hsize, lineStartsFrom, List.count_nil]
      split
      · next hc =>
        have hone : c.utf8Size = 1 := by
          rw [hc]
          rfl
        rw [List.countP_cons_of_neg (by simp only [decide_eq_true_eq]; omega)]
        apply countP_lineStartsFrom_eq_zero
        omega
      · apply countP_lineStartsFrom_eq_zero
        omega

theorem exists_getElem?_of_lt_countP {numbers : List Nat} {i : Nat}
    (h : numbers.Pairwise (· < ·)) (hi : i < numbers.countP (· ≤ n)) :
    ∃ a, numbers[i]? = some a ∧ a ≤ n := by
  induction numbers generalizing i with
  | nil => cases hi
  | cons a numbers ih =>
    obtain ⟨ha, hnumbers⟩ := List.pairwise_cons.1 h
    by_cases hle : a ≤ n
    · cases i with
      | zero => exact ⟨a, rfl, hle⟩
      | succ i =>
        rw [List.countP_cons_of_pos (by simpa using hle)] at hi
        exact ih hnumbers (Nat.lt_of_succ_lt_succ hi)
    · have hnone : numbers.countP (· ≤ n) = 0 := by
        apply countP_le_eq_zero
        intro b hb
        exact Nat.lt_trans (Nat.lt_of_not_le hle) (ha b hb)
      rw [List.countP_cons_of_neg (by simpa using hle), hnone] at hi
      cases hi

end

namespace Place

theorem position_lt_next (p : Place) (c : Char) : p.position < (p.next c).position := by
  rw [Position.lt_def, next]
  split
  · exact .inl (Nat.lt_succ_self _)
  · exact .inr ⟨rfl, Nat.lt_succ_self _⟩

theorem position_lt_after (p : Place) {text : List Char} (h : text ≠ []) :
    p.position < (p.after text).position := by
  induction text generalizing p with
  | nil => exact absurd rfl h
  | cons c text ih =>
    have hfirst := p.position_lt_next c
    by_cases hrest : text = []
    · rw [hrest]
      exact hfirst
    · exact Position.lt_of_lt_of_le hfirst (Position.le_of_lt (ih (p.next c) hrest))

end Place

namespace LineMap

variable {text before further : List Char}

theorem position_boundary (h : before <+: text) :
    (ofText text).position (byteLength before) = (Place.start.after before).position := by
  obtain ⟨after, rfl⟩ := h
  exact position_append before after

theorem position_lt_position (hbefore : before <+: text) (hfurther : further <+: text)
    (h : byteLength before < byteLength further) :
    (ofText text).position (byteLength before) <
      (ofText text).position (byteLength further) := by
  rw [position_boundary hbefore, position_boundary hfurther]
  rcases List.prefix_or_prefix_of_prefix hbefore hfurther with ⟨more, rfl⟩ | ⟨more, rfl⟩
  · rw [byteLength_append] at h
    rw [Place.after_append]
    apply Place.position_lt_after
    rintro rfl
    exact absurd h (Nat.lt_irrefl _)
  · rw [byteLength_append] at h
    omega

theorem position_of_size_le {offset : Nat} (h : byteLength text ≤ offset) :
    (ofText text).position offset = (ofText text).position (byteLength text) := by
  simp only [position, ofText, Nat.min_eq_right h, Nat.min_self]

theorem lineAt_eq_count (text : List Char) (offset : Nat) :
    (ofText text).lineAt offset = (charsBefore offset text).count '\n' := by
  have hcount := countP_lineStartsFrom 0 offset text
  rw [Nat.zero_add] at hcount
  rw [lineAt_ofText, ofText, List.countP_cons_of_pos (by simp), hcount, Nat.add_sub_cancel]

theorem line_position (text : List Char) (offset : Nat) :
    ((ofText text).position offset).line = (charsBefore offset text).count '\n' := by
  rw [position, lineAt_eq_count]
  exact congrArg (List.count '\n') (charsBefore_min offset text)

theorem exists_start (text : List Char) (offset : Nat) :
    ∃ start, (ofText text).starts[((ofText text).position offset).line]? = some start ∧
      start ≤ min offset (byteLength text) := by
  apply exists_getElem?_of_lt_countP (pairwise_starts text)
  have hpos : 0 < (ofText text).starts.countP (· ≤ min offset (byteLength text)) :=
    List.countP_pos_iff.2 ⟨0, List.mem_cons_self, decide_eq_true (Nat.zero_le _)⟩
  have hline : ((ofText text).position offset).line =
      (ofText text).starts.countP (· ≤ min offset (byteLength text)) - 1 :=
    lineAt_ofText text _
  omega

theorem missing_bounds {offset next : Nat}
    (h : search (ofText text).starts offset = .missing next) :
    0 < next ∧ next ≤ (ofText text).starts.length := by
  rw [search] at h
  split at h
  · cases h
  · next hnone =>
    obtain rfl := Search.missing.inj h
    have hnotMem : offset ∉ (ofText text).starts := List.idxOf?_eq_none_iff.1 hnone
    have hoffset : offset ≠ 0 := by
      rintro rfl
      exact hnotMem List.mem_cons_self
    constructor
    · apply List.countP_pos_iff.2
      exact ⟨0, List.mem_cons_self, decide_eq_true (by omega)⟩
    · exact List.countP_le_length

end LineMap

/--
Positions are exact. Between two characters, the line is the number of line feeds before the
offset, and the column that of the characters since the last of them; so positions increase with
the boundaries, and no two boundaries share one. What lies beyond the end has the position of
the end. At every offset whatever, the search for the line stays among the starts of lines, and
the line is the number of line feeds before.
-/
theorem position_exact (text : List Char) :
    let map := LineMap.ofText text
    let size := byteLength text
    (∀ before, before <+: text →
      map.position (byteLength before) =
        ⟨before.count '\n', (before.rtakeWhile (· != '\n')).length⟩) ∧
    (∀ o p, IsBoundary text o → IsBoundary text p → o < p → map.position o < map.position p) ∧
    (∀ o p, IsBoundary text o → IsBoundary text p → map.position o = map.position p → o = p) ∧
    (∀ offset, size ≤ offset → map.position offset = map.position size) ∧
    ∀ offset,
      (∀ next, search map.starts (min offset size) = .missing next →
        0 < next ∧ next ≤ map.starts.length) ∧
      (∃ start, map.starts[(map.position offset).line]? = some start ∧
        start ≤ min offset size) ∧
      (map.position offset).line = (charsBefore offset text).count '\n' := by
  intro map size
  have hincreasing {o p : Nat} (ho : IsBoundary text o) (hp : IsBoundary text p) (h : o < p) :
      map.position o < map.position p := by
    obtain ⟨before, hbefore, rfl⟩ := ho
    obtain ⟨further, hfurther, rfl⟩ := hp
    exact LineMap.position_lt_position hbefore hfurther h
  refine ⟨?_, fun o p => hincreasing, ?_, ?_, ?_⟩
  · intro before hbefore
    rw [LineMap.position_boundary hbefore, Place.position_start_after]
  · intro o p ho hp hsame
    rcases Nat.lt_trichotomy o p with h | h | h
    · have hlt := hincreasing ho hp h
      rw [hsame] at hlt
      exact absurd hlt (Position.not_lt_of_lt hlt)
    · exact h
    · have hlt := hincreasing hp ho h
      rw [hsame] at hlt
      exact absurd hlt (Position.not_lt_of_lt hlt)
  · intro offset h
    exact LineMap.position_of_size_le h
  · intro offset
    refine ⟨?_, LineMap.exists_start text offset, LineMap.line_position text offset⟩
    intro next h
    exact LineMap.missing_bounds h

theorem position_exact_accented :
    let text := ['é', '\n', '\n', 'X']
    let map := LineMap.ofText text
    (['é', '\n'] <+: text ∧ map.position 3 = ⟨1, 0⟩) ∧
    (IsBoundary text 3 ∧ IsBoundary text 5 ∧ map.position 3 < map.position 5) ∧
    search map.starts 1 = .missing 1 ∧ (map.position 1).line = 0 := by
  intro text map
  obtain ⟨hexact, hincreasing, -, -, hevery⟩ := position_exact text
  have hbefore : ['é', '\n'] <+: text := ⟨['\n', 'X'], rfl⟩
  have hthree : IsBoundary text 3 := ⟨_, hbefore, rfl⟩
  have hfive : IsBoundary text 5 := ⟨text, List.prefix_rfl, rfl⟩
  exact ⟨⟨hbefore, hexact _ hbefore⟩,
    ⟨hthree, hfive, hincreasing 3 5 hthree hfive (by decide)⟩, rfl,
    (hevery 1).2.2⟩

end CobolCompanion
