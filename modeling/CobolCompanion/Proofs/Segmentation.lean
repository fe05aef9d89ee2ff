import CobolCompanion.Proofs.LongestMatch
import Mathlib.Data.List.Chain
import Mathlib.Data.List.DropRight

namespace CobolCompanion

open TokenPattern

/--
Spans that cover the bytes from one offset to another, each directly behind the one before.
-/
def Span.Tile (start stop : Nat) : List Span → Prop
  | [] => start = stop
  | s :: spans => s.start = start ∧ s.start < s.stop ∧ Tile s.stop stop spans

theorem Laid.tile {p : Place} {tokens : List Token} (h : Laid p tokens) :
    Span.Tile p.offset (p.after (spelling tokens)).offset (tokens.map Token.span) := by
  induction tokens generalizing p with
  | nil => rfl
  | cons t tokens ih =>
    obtain ⟨hfirst, hrest⟩ := h
    have hlength := byteLength_pos hfirst.nonempty
    rw [List.map_cons, Span.Tile, hfirst.span, spelling_cons, Place.after_append]
    refine ⟨rfl, ?_, ih hrest⟩
    rw [Place.offset_after]
    exact Nat.lt_add_of_pos_right hlength

theorem Place.position_start_after (text : List Char) :
    (start.after text).position = ⟨text.count '\n', (text.rtakeWhile (· != '\n')).length⟩ := by
  induction text using List.reverseRecOn with
  | nil => rfl
  | append_singleton text c ih =>
    rw [after_append, after_cons, after_nil, next, ih, List.count_append]
    by_cases hc : c = '\n'
    · rw [if_pos hc, List.rtakeWhile_concat_neg _ _ _ (by simp [hc]), hc]
      rfl
    · rw [if_neg hc, List.rtakeWhile_concat_pos _ _ _ (by simp [hc]), List.length_append,
        List.count_singleton, if_neg (by simpa using hc)]
      rfl

/-- Every token is the longest piece of what was left of the text. -/
theorem longest_of_scanFrom (place : Place) (text : List Char) :
    ∀ earlier t later, scanFrom place text = earlier ++ t :: later →
      ∃ p, p.kind = t.kind ∧ Longest (spelling (t :: later)) t.lexeme.toList p := by
  fun_induction scanFrom place text with
  | case1 => simp
  | case2 place c text cut after ih =>
    intro earlier t later h
    cases earlier with
    | nil =>
      obtain ⟨rfl, rfl⟩ := List.cons.inj h
      have hrest : spelling (scanFrom after cut.rest) = cut.rest :=
        flatMap_lexeme_scanFrom after cut.rest
      rw [spelling_cons, String.toList_ofList, hrest, (Cut.first_splits c text).append_eq]
      exact Cut.longest_first c text
    | cons u earlier => exact ih earlier t later (List.cons.inj h).2

theorem TokenPattern.Fits.append_word {piece more : List Char} (h : Fits .word piece)
    (hmore : Fits .word more) : Fits .word (piece ++ more) := by
  obtain ⟨c, rest, rfl, hc, hrest⟩ := h
  obtain ⟨d, others, rfl, hd, hothers⟩ := hmore
  refine ⟨c, rest ++ d :: others, rfl, hc, ?_⟩
  rw [List.forall_mem_append, List.forall_mem_cons]
  exact ⟨hrest, isWordPart_of_isWordStart hd, hothers⟩

theorem TokenPattern.eq_word_of_kind {p : TokenPattern} (h : p.kind = .word) : p = .word := by
  cases p with
  | word => rfl
  | _ => cases h

theorem isChain_word_scan (text : String) :
    (scan text).IsChain fun t u => ¬ (t.isWord ∧ u.isWord) := by
  rw [List.isChain_iff_forall_rel_of_append_cons_cons]
  rintro t u earlier later hscan ⟨ht, hu⟩
  obtain ⟨p, hp, htlongest⟩ := longest_of_scanFrom _ _ _ _ _ hscan
  obtain ⟨q, hq, hulongest⟩ :=
    longest_of_scanFrom _ _ _ _ _ (hscan.trans (List.append_cons earlier t (u :: later)))
  obtain rfl := eq_word_of_kind (hp.trans (by simpa [Token.isWord] using ht))
  obtain rfl := eq_word_of_kind (hq.trans (by simpa [Token.isWord] using hu))
  have hleads : t.lexeme.toList ++ u.lexeme.toList <+: spelling (t :: u :: later) :=
    ⟨spelling later, by simp⟩
  have hlength := htlongest.longest _ _ hleads (htlongest.fits.append_word hulongest.fits)
  obtain ⟨c, rest, hu, -⟩ := hulongest.fits
  rw [List.length_append, hu, List.length_cons] at hlength
  omega

theorem EndsAtLine.of_append {text more : List Char} (h : EndsAtLine (text ++ more)) :
    EndsAtLine more := by
  rcases List.eq_nil_or_concat more with rfl | ⟨before, c, rfl⟩
  · exact .inl rfl
  · rcases h with h | ⟨lines, h⟩
    · simp at h
    · rw [List.concat_eq_append, ← List.append_assoc] at h
      obtain ⟨-, hc⟩ := List.append_inj' h rfl
      exact .inr ⟨before, by rw [List.concat_eq_append, hc]⟩

theorem EndsAtLine.lineFeed_mem {c : Char} {text : List Char} (h : EndsAtLine (c :: text)) :
    '\n' ∈ c :: text := by
  rcases h with h | ⟨before, h⟩
  · cases h
  · simp [h]

theorem span_append_of_mem {test : Char → Bool} {d : Char} {text : List Char} (hd : d ∈ text)
    (htest : test d = false) (more : List Char) :
    (text ++ more).takeWhile test = text.takeWhile test ∧
      (text ++ more).dropWhile test = text.dropWhile test ++ more := by
  induction text with
  | nil => cases hd
  | cons c text ih =>
    cases hc : test c with
    | false => simp [hc]
    | true =>
      have hmem : d ∈ text := by
        rcases List.mem_cons.1 hd with rfl | hd
        · simp [hc] at htest
        · exact hd
      simpa [hc] using ih hmem

namespace Cut

def followedBy (cut : Cut) (more : List Char) : Cut :=
  { cut with rest := cut.rest ++ more }

theorem run_append {kind : TokenKind} {test : Char → Bool} {c : Char} {text : List Char}
    (h : '\n' ∈ text) (htest : test '\n' = false) (more : List Char) :
    run kind test c (text ++ more) = (run kind test c text).followedBy more := by
  obtain ⟨htake, hdrop⟩ := span_append_of_mem h htest more
  simp only [run, followedBy, htake, hdrop]

theorem lineBreak_append {c : Char} {text : List Char} (h : '\n' ∈ c :: text)
    (more : List Char) :
    lineBreak c (text ++ more) = (lineBreak c text).followedBy more := by
  cases text with
  | nil =>
    obtain rfl : '\n' = c := by simpa using h
    unfold lineBreak followedBy
    split <;> simp
  | cons d text =>
    by_cases hd : d = '\n'
    · by_cases hc : c = '\r' <;> simp [lineBreak, followedBy, hd, hc]
    · simp [lineBreak, followedBy, hd]

theorem literal_append {quote : Char} {text : List Char} (h : '\n' ∈ text) (more : List Char) :
    literal quote (text ++ more) = (literal quote text).followedBy more := by
  have hline : isInsideLiteral quote '\n' = false := by simp [isInsideLiteral, isLineBreak]
  obtain ⟨htake, hdrop⟩ := span_append_of_mem h hline more
  have hne : text.dropWhile (isInsideLiteral quote) ≠ [] := by
    intro hnil
    rw [List.dropWhile_eq_nil_iff] at hnil
    simp [hnil _ h] at hline
  obtain ⟨c, rest, hrest⟩ := List.exists_cons_of_ne_nil hne
  rw [hrest] at hdrop
  by_cases hc : c = quote <;> simp [literal, followedBy, htake, hdrop, hrest, hc]

theorem first_append {c : Char} {text : List Char} (h : '\n' ∈ c :: text) (more : List Char) :
    first c (text ++ more) = (first c text).followedBy more := by
  have hmem (hc : c ≠ '\n') : '\n' ∈ text := by
    rcases List.mem_cons.1 h with h | h
    · exact absurd h.symm hc
    · exact h
  unfold first
  split
  · next hspacing =>
    exact run_append (hmem (by rintro rfl; cases hspacing)) rfl more
  split
  · exact lineBreak_append h more
  next hbreak =>
  have hline := hmem (by rintro rfl; exact hbreak rfl)
  have hhead : (text ++ more).head? = text.head? :=
    List.head?_append_of_ne_nil _ (List.ne_nil_of_mem hline)
  rw [hhead]
  split
  · exact run_append hline rfl more
  split
  · exact literal_append hline more
  split
  · exact run_append hline rfl more
  · rfl

end Cut

/-- What follows a line is scanned from where the line ends. -/
theorem scanFrom_append {place : Place} {line : List Char} (h : EndsAtLine line)
    (more : List Char) :
    scanFrom place (line ++ more) =
      scanFrom place line ++ scanFrom (place.after line) more := by
  fun_induction scanFrom place line with
  | case1 => rfl
  | case2 place c text cut after ih =>
    have hsplits := Cut.first_splits c text
    have hrest : EndsAtLine cut.rest := by
      rw [← hsplits.append_eq] at h
      exact h.of_append
    have hline : after.after cut.rest = place.after (c :: text) := by
      rw [← Place.after_append, hsplits.append_eq]
    rw [List.cons_append, scanFrom, Cut.first_append h.lineFeed_mem, List.cons_append,
      ← hline, ← ih hrest]
    rfl

def Place.shift (lines bytes : Nat) (p : Place) : Place :=
  ⟨⟨p.position.line + lines, p.position.column⟩, p.offset + bytes⟩

def Token.shift (lines bytes : Nat) (t : Token) : Token :=
  { t with
    position := ⟨t.position.line + lines, t.position.column⟩
    span := ⟨t.span.start + bytes, t.span.stop + bytes⟩ }

theorem Place.after_shift (lines bytes : Nat) (p : Place) (text : List Char) :
    (p.shift lines bytes).after text = (p.after text).shift lines bytes := by
  induction text generalizing p with
  | nil => rfl
  | cons c text ih =>
    have hnext : (p.shift lines bytes).next c = (p.next c).shift lines bytes := by
      by_cases hc : c = '\n' <;> simp [next, shift, hc, Nat.add_right_comm]
    rw [after_cons, after_cons, hnext, ih]

theorem scanFrom_shift (lines bytes : Nat) (place : Place) (text : List Char) :
    scanFrom (place.shift lines bytes) text =
      (scanFrom place text).map (Token.shift lines bytes) := by
  fun_induction scanFrom place text with
  | case1 => rw [scanFrom, List.map_nil]
  | case2 place c text cut after ih =>
    rw [scanFrom, Place.after_shift, ih]
    rfl

theorem Place.start_after_line (text : List Char) :
    start.after (text ++ ['\n']) = start.shift (text.count '\n' + 1) (byteLength text + 1) := by
  have hposition : (start.after (text ++ ['\n'])).position = ⟨text.count '\n' + 1, 0⟩ := by
    rw [position_start_after, List.rtakeWhile_concat_neg _ _ _ (by simp), List.count_append]
    rfl
  have hoffset : (start.after (text ++ ['\n'])).offset = byteLength text + 1 := by
    rw [offset_start_after, byteLength_append]
    rfl
  ext1
  · rw [hposition, shift]
    simp [start]
  · rw [hoffset, shift]
    simp [start]

theorem scan_append_line (a b : String) :
    scan (a ++ "\n" ++ b) = scan (a ++ "\n") ++
      (scan b).map (Token.shift (a.toList.count '\n' + 1) (byteLength a.toList + 1)) := by
  have hline : (a ++ "\n").toList = a.toList ++ ['\n'] := by simp
  rw [scan, scan, scan, String.toList_append, hline, scanFrom_append (.inr ⟨_, rfl⟩),
    Place.start_after_line, scanFrom_shift]

theorem exists_split_of_mem_scan {text : String} {t : Token} (ht : t ∈ scan text) :
    ∃ before after, text.toList = before ++ after ∧ t.LiesAt (Place.start.after before) ∧
      ∃ p, p.kind = t.kind ∧ Longest after t.lexeme.toList p := by
  obtain ⟨earlier, later, hscan⟩ := List.append_of_mem ht
  have htext : spelling (scan text) = text.toList := flatMap_lexeme_scanFrom .start text.toList
  have hlaid : Laid .start (scan text) := laid_scanFrom .start text.toList
  rw [hscan] at htext hlaid
  refine ⟨spelling earlier, spelling (t :: later), ?_, (laid_append.1 hlaid).2.1, ?_⟩
  · rw [← htext, spelling_append]
  · exact longest_of_scanFrom _ _ _ _ _ hscan

/--
The tokens of a text divide it up: their spans cover its bytes, each of them is the text at its
span, its position counts the lines and the characters before it, as a line map of the text
does, and it is the longest piece there that fits a pattern. Two words never touch. What follows
a line feed has the tokens that it has alone, so many lines and bytes further on.
-/
theorem scan_segments (text a b : String) :
    Span.Tile 0 (byteLength text.toList) ((scan text).map Token.span) ∧
    (∀ t ∈ scan text, t.lexeme ≠ "" ∧ slice? text.toList t.span = some t.lexeme.toList ∧
      t.position = (LineMap.ofText text.toList).position t.span.start ∧
      ∃ before after, text.toList = before ++ after ∧ byteLength before = t.span.start ∧
        t.position = ⟨before.count '\n', (before.rtakeWhile (· != '\n')).length⟩ ∧
        ∃ p, p.kind = t.kind ∧ Longest after t.lexeme.toList p) ∧
    (scan text).IsChain (fun t u => ¬ (t.isWord ∧ u.isWord)) ∧
    scan (a ++ "\n" ++ b) = scan (a ++ "\n") ++
      (scan b).map (Token.shift (a.toList.count '\n' + 1) (byteLength a.toList + 1)) := by
  refine ⟨?_, ?_, isChain_word_scan text, scan_append_line a b⟩
  · have htile := (laid_scanFrom .start text.toList).tile
    rw [spelling, flatMap_lexeme_scanFrom, Place.offset_start_after] at htile
    exact htile
  · intro t ht
    obtain ⟨before, after, htext, hlies, hlongest⟩ := exists_split_of_mem_scan ht
    refine ⟨?_, ?_, ?_, before, after, htext, ?_, ?_, hlongest⟩
    · rintro hempty
      exact hlies.nonempty (by rw [hempty]; rfl)
    · obtain ⟨p, -, hleads⟩ := hlongest
      obtain ⟨rest, hrest⟩ := hleads.leads
      rw [htext, ← hrest, hlies.span]
      exact slice?_after before _ rest
    · rw [htext, hlies.span, hlies.position]
      exact (LineMap.position_offset before after).symm
    · rw [hlies.span, Place.offset_start_after]
    · rw [hlies.position, Place.position_start_after]

def accentedText : String := "*>é\nMOVE 'é"

theorem scan_segments_accentedText :
    let t : Token := ⟨.other, "'é", ⟨1, 5⟩, ⟨10, 13⟩⟩
    t ∈ scan accentedText ∧ slice? accentedText.toList t.span = some t.lexeme.toList ∧
      (LineMap.ofText accentedText.toList).position 10 = ⟨1, 5⟩ ∧
      ∃ before after, accentedText.toList = before ++ after ∧ byteLength before = 10 ∧
        before.count '\n' = 1 ∧ (before.rtakeWhile (· != '\n')).length = 5 ∧
        ∃ p, p.kind = .other ∧ Longest after t.lexeme.toList p := by
  intro t
  have ht : t ∈ scan accentedText := by decide +kernel
  obtain ⟨-, htokens, -⟩ := scan_segments accentedText "" ""
  obtain ⟨-, hslice, hmap, before, after, htext, hstart, hposition, p, hkind, hlongest⟩ :=
    htokens t ht
  obtain ⟨hline, hcolumn⟩ := Position.mk.inj hposition
  exact ⟨ht, hslice, hmap.symm, before, after, htext, hstart, hline.symm,
    hcolumn.symm, p, hkind, hlongest⟩

end CobolCompanion
