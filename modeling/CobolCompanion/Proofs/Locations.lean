import CobolCompanion.Text.Location
import Mathlib.Data.List.Induction

namespace CobolCompanion

@[simp] theorem byteLength_append (s t : List Char) :
    byteLength (s ++ t) = byteLength s + byteLength t := by
  induction s with
  | nil => simp [byteLength]
  | cons c s ih => simp [byteLength, ih, Nat.add_assoc]

theorem byteLength_pos {text : List Char} (h : text ≠ []) : 0 < byteLength text := by
  obtain ⟨c, rest, rfl⟩ := List.exists_cons_of_ne_nil h
  have hc := c.utf8Size_pos
  rw [byteLength]
  omega

theorem dropBytes?_cons (n : Nat) (c : Char) (text : List Char) :
    dropBytes? (c.utf8Size + n) (c :: text) = dropBytes? n text := by
  obtain ⟨k, hk⟩ := Nat.exists_eq_add_of_lt c.utf8Size_pos
  have hsum : c.utf8Size + n = (k + n) + 1 := by omega
  rw [hsum, dropBytes?, if_pos (by omega), show k + n + 1 - c.utf8Size = n by omega]

theorem takeBytes?_cons (n : Nat) (c : Char) (text : List Char) :
    takeBytes? (c.utf8Size + n) (c :: text) = (takeBytes? n text).map (c :: ·) := by
  obtain ⟨k, hk⟩ := Nat.exists_eq_add_of_lt c.utf8Size_pos
  have hsum : c.utf8Size + n = (k + n) + 1 := by omega
  rw [hsum, takeBytes?, if_pos (by omega), show k + n + 1 - c.utf8Size = n by omega]

theorem dropBytes?_append (s t : List Char) : dropBytes? (byteLength s) (s ++ t) = some t := by
  induction s with
  | nil => cases t <;> rfl
  | cons c s ih => rw [byteLength, List.cons_append, dropBytes?_cons, ih]

theorem takeBytes?_append (s t : List Char) : takeBytes? (byteLength s) (s ++ t) = some s := by
  induction s with
  | nil => cases t <;> rfl
  | cons c s ih => rw [byteLength, List.cons_append, takeBytes?_cons, ih, Option.map_some]

theorem slice?_append (before inside after : List Char) :
    slice? (before ++ (inside ++ after))
      ⟨byteLength before, byteLength before + byteLength inside⟩ = some inside := by
  rw [slice?, if_pos (Nat.le_add_right _ _), dropBytes?_append, Option.bind_some,
    Nat.add_sub_cancel_left, takeBytes?_append]

section
variable {offset : Nat} {text line : List Char}

theorem lineStartsFrom_append (offset : Nat) (s t : List Char) :
    lineStartsFrom offset (s ++ t) =
      lineStartsFrom offset s ++ lineStartsFrom (offset + byteLength s) t := by
  induction s generalizing offset with
  | nil => rfl
  | cons c s ih =>
    rw [List.cons_append, lineStartsFrom, lineStartsFrom, byteLength, ih, ih]
    split
    · next hc =>
      have hsize : c.utf8Size = 1 := by
        rw [hc]
        rfl
      rw [hsize, List.cons_append, Nat.add_assoc offset]
    · rw [Nat.add_assoc offset]

theorem lineStartsFrom_bounds :
    ∀ start ∈ lineStartsFrom offset text, offset < start ∧
      start ≤ offset + byteLength text := by
  induction text generalizing offset with
  | nil => simp [lineStartsFrom]
  | cons c text ih =>
    intro start hstart
    rw [lineStartsFrom] at hstart
    have hc := c.utf8Size_pos
    rw [byteLength]
    split at hstart
    · rcases List.mem_cons.1 hstart with rfl | hstart
      · omega
      · have hbounds := ih start hstart
        omega
    · have hbounds := ih start hstart
      omega

theorem pairwise_lineStartsFrom (offset : Nat) (text : List Char) :
    (lineStartsFrom offset text).Pairwise (· < ·) := by
  induction text generalizing offset with
  | nil => exact .nil
  | cons c text ih =>
    rw [lineStartsFrom]
    split
    · exact List.pairwise_cons.2 ⟨fun start hstart => (lineStartsFrom_bounds start hstart).1,
        ih _⟩
    · exact ih _

theorem lineStartsFrom_line (h : '\n' ∉ line) : lineStartsFrom offset line = [] := by
  induction line generalizing offset with
  | nil => rfl
  | cons c line ih =>
    rw [List.mem_cons, not_or] at h
    rw [lineStartsFrom, if_neg (Ne.symm h.1), ih h.2]

end

namespace Place

theorem offset_after (p : Place) (text : List Char) :
    (p.after text).offset = p.offset + byteLength text := by
  induction text generalizing p with
  | nil => rfl
  | cons c text ih => rw [after_cons, ih, byteLength, next, Nat.add_assoc]

theorem offset_start_after (text : List Char) :
    (start.after text).offset = byteLength text := by
  rw [offset_after]
  exact Nat.zero_add _

theorem line_after (p : Place) (offset : Nat) (text : List Char) :
    (p.after text).position.line = p.position.line + (lineStartsFrom offset text).length := by
  induction text generalizing p offset with
  | nil => rfl
  | cons c text ih =>
    rw [after_cons, lineStartsFrom]
    split
    · next hc =>
      rw [ih _ (offset + 1), next, if_pos hc, List.length_cons, Nat.add_right_comm,
        Nat.add_assoc]
    · next hc => rw [ih _ (offset + c.utf8Size), next, if_neg hc]

theorem position_after_line (p : Place) {line : List Char} (h : '\n' ∉ line) :
    (p.after line).position = ⟨p.position.line, p.position.column + line.length⟩ := by
  induction line generalizing p with
  | nil => rfl
  | cons c line ih =>
    rw [List.mem_cons, not_or] at h
    rw [after_cons, ih _ h.2, next, if_neg (Ne.symm h.1), List.length_cons, Nat.add_assoc,
      Nat.add_comm 1]

end Place

def EndsAtLine (text : List Char) : Prop :=
  text = [] ∨ ∃ before, text = before ++ ['\n']

theorem exists_lines (text : List Char) :
    ∃ lines line, text = lines ++ line ∧ EndsAtLine lines ∧ '\n' ∉ line := by
  induction text using List.reverseRecOn with
  | nil => exact ⟨[], [], rfl, .inl rfl, by simp⟩
  | append_singleton text c ih =>
    obtain ⟨lines, line, rfl, hlines, hline⟩ := ih
    by_cases hc : c = '\n'
    · exact ⟨lines ++ line ++ ['\n'], [], by simp [hc], .inr ⟨_, rfl⟩, by simp⟩
    · refine ⟨lines, line ++ [c], by simp, hlines, ?_⟩
      simp [hline, Ne.symm hc]

namespace EndsAtLine

variable {lines : List Char}

theorem position_after (h : EndsAtLine lines) :
    (Place.start.after lines).position = ⟨(lineStartsFrom 0 lines).length, 0⟩ := by
  have hline : (Place.start.after lines).position.line = (lineStartsFrom 0 lines).length := by
    rw [Place.line_after _ 0]
    exact Nat.zero_add _
  have hcolumn : (Place.start.after lines).position.column = 0 := by
    rcases h with rfl | ⟨before, rfl⟩
    · rfl
    · rw [Place.after_append]
      rfl
  exact Position.ext hline hcolumn

theorem lineStart (h : EndsAtLine lines) (later : List Nat) :
    (0 :: (lineStartsFrom 0 lines ++ later)).getD (lineStartsFrom 0 lines).length 0 =
      byteLength lines := by
  rcases h with rfl | ⟨before, rfl⟩
  · rfl
  · have hsize : byteLength ['\n'] = 1 := rfl
    rw [lineStartsFrom_append, byteLength_append, hsize]
    simp [lineStartsFrom]

end EndsAtLine

section
variable {numbers : List Nat} {n : Nat}

theorem countP_le_eq_zero (h : ∀ a ∈ numbers, n < a) : numbers.countP (· ≤ n) = 0 := by
  apply List.countP_eq_zero.2
  intro a ha
  simpa using h a ha

theorem countP_le_of_idxOf? (h : numbers.Pairwise (· < ·)) {index : Nat}
    (hindex : numbers.idxOf? n = some index) : numbers.countP (· ≤ n) = index + 1 := by
  induction numbers generalizing index with
  | nil => cases hindex
  | cons a numbers ih =>
    obtain ⟨ha, hnumbers⟩ := List.pairwise_cons.1 h
    rw [List.idxOf?_cons] at hindex
    by_cases heq : a = n
    · subst heq
      rw [if_pos (by simp), Option.some.injEq] at hindex
      rw [List.countP_cons_of_pos (by simp), countP_le_eq_zero ha, ← hindex]
    · rw [if_neg (by simpa using heq), Option.map_eq_some_iff] at hindex
      obtain ⟨rest, hrest, rfl⟩ := hindex
      have hmem : n ∈ numbers := List.isSome_idxOf?.1 (by rw [hrest]; rfl)
      have hlt := ha n hmem
      rw [List.countP_cons_of_pos (by simpa using Nat.le_of_lt hlt), ih hnumbers hrest]

theorem countP_lt_of_notMem (h : n ∉ numbers) :
    numbers.countP (· < n) = numbers.countP (· ≤ n) := by
  apply List.countP_congr
  intro a ha
  have hne : a ≠ n := by
    rintro rfl
    exact h ha
  simp only [decide_eq_true_eq]
  omega

end

namespace LineMap

theorem pairwise_starts (text : List Char) : (ofText text).starts.Pairwise (· < ·) :=
  List.pairwise_cons.2
    ⟨fun start hstart => (lineStartsFrom_bounds start hstart).1, pairwise_lineStartsFrom 0 text⟩

/-- Whether a line starts at an offset or not, its line is the last that has started. -/
theorem lineAt_ofText (text : List Char) (offset : Nat) :
    (ofText text).lineAt offset = (ofText text).starts.countP (· ≤ offset) - 1 := by
  rw [lineAt, search]
  cases hindex : (ofText text).starts.idxOf? offset with
  | none => exact congrArg (· - 1) (countP_lt_of_notMem (List.idxOf?_eq_none_iff.1 hindex))
  | some index => rw [countP_le_of_idxOf? (pairwise_starts text) hindex, Nat.add_sub_cancel]

theorem lineAt_append (before after : List Char) :
    (ofText (before ++ after)).lineAt (byteLength before) =
      (lineStartsFrom 0 before).length := by
  have hbefore : (lineStartsFrom 0 before).countP (· ≤ byteLength before) =
      (lineStartsFrom 0 before).length := by
    apply List.countP_eq_length.2
    intro start hstart
    have hbounds := lineStartsFrom_bounds start hstart
    exact decide_eq_true (by omega)
  have hafter : (lineStartsFrom (0 + byteLength before) after).countP (· ≤ byteLength before) =
      0 := by
    apply countP_le_eq_zero
    intro start hstart
    have hbounds := lineStartsFrom_bounds start hstart
    omega
  rw [lineAt_ofText, ofText, List.countP_cons_of_pos (by simp), lineStartsFrom_append,
    List.countP_append, hbefore, hafter]
  omega

theorem position_of_le {m : LineMap} {offset : Nat} (h : offset ≤ byteLength m.text) :
    m.position offset =
      let start := m.starts.getD (m.lineAt offset) 0
      ⟨m.lineAt offset, (slice? m.text ⟨start, offset⟩).elim (offset - start) List.length⟩ := by
  rw [position, Nat.min_eq_left h]

theorem position_append (before after : List Char) :
    (ofText (before ++ after)).position (byteLength before) =
      (Place.start.after before).position := by
  obtain ⟨lines, line, rfl, hlines, hline⟩ := exists_lines before
  have hinside : byteLength (lines ++ line) ≤ byteLength (lines ++ line ++ after) := by
    rw [byteLength_append (lines ++ line)]
    omega
  have hstarts : (ofText (lines ++ line ++ after)).starts =
      0 :: (lineStartsFrom 0 lines ++ lineStartsFrom (byteLength (lines ++ line)) after) := by
    rw [ofText, lineStartsFrom_append, lineStartsFrom_append, lineStartsFrom_line hline,
      List.append_nil, Nat.zero_add]
  have hnumber : (lineStartsFrom 0 (lines ++ line)).length =
      (lineStartsFrom 0 lines).length := by
    rw [lineStartsFrom_append, lineStartsFrom_line hline, List.append_nil]
  have hslice : slice? (lines ++ line ++ after) ⟨byteLength lines, byteLength (lines ++ line)⟩ =
      some line := by
    rw [byteLength_append, List.append_assoc]
    exact slice?_append lines line after
  rw [Place.after_append, Place.position_after_line _ hline,
    hlines.position_after, Nat.zero_add]
  rw [position_of_le hinside, lineAt_append, hnumber, hstarts, hlines.lineStart]
  change (⟨_, (slice? (lines ++ line ++ after) _).elim _ _⟩ : Position) = _
  rw [hslice, Option.elim_some]

/-- The line map knows every place that a scan passes. -/
theorem position_offset (before after : List Char) :
    (ofText (before ++ after)).position (Place.start.after before).offset =
      (Place.start.after before).position := by
  rw [Place.offset_start_after, position_append]

end LineMap

theorem slice?_after (before inside after : List Char) :
    slice? (before ++ (inside ++ after))
      ⟨(Place.start.after before).offset, ((Place.start.after before).after inside).offset⟩ =
        some inside := by
  rw [Place.offset_after _ inside, Place.offset_start_after, slice?_append]

end CobolCompanion
