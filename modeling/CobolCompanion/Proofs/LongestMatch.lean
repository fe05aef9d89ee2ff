import CobolCompanion.Proofs.TokenSeams

namespace CobolCompanion

/-- The ways in which a piece of text can be a token. -/
inductive TokenPattern where
  | whitespace
  | comment
  | newLine
  | word
  | literal
  | punctuation
  deriving DecidableEq

namespace TokenPattern

def kind : TokenPattern → TokenKind
  | whitespace | comment => .whitespace
  | newLine => .newLine
  | word => .word
  | literal | punctuation => .other

/-- A piece of text fits a pattern. The quote that closes a literal may be missing. -/
def Fits : TokenPattern → List Char → Prop
  | whitespace, piece => piece ≠ [] ∧ ∀ c ∈ piece, isSpacing c
  | comment, piece => ∃ rest, piece = '*' :: '>' :: rest ∧ ∀ c ∈ rest, isLineBreak c = false
  | newLine, piece => piece ∈ [['\r', '\n'], ['\n'], ['\r']]
  | word, piece => ∃ c rest, piece = c :: rest ∧ isWordStart c ∧ ∀ d ∈ rest, isWordPart d
  | literal, piece => ∃ quote inside, isQuote quote ∧ (∀ c ∈ inside, isInsideLiteral quote c) ∧
      (piece = quote :: inside ∨ piece = quote :: (inside ++ [quote]))
  | punctuation, piece => ∃ c, piece = [c] ∧ isSpacing c = false ∧ isLineBreak c = false ∧
      isWordStart c = false ∧ isQuote c = false

def ofFirst (c : Char) : TokenPattern :=
  if isSpacing c then whitespace
  else if isLineBreak c then newLine
  else if isWordStart c then word
  else if isQuote c then literal
  else punctuation

theorem Fits.exists_cons {p : TokenPattern} {piece : List Char} (h : p.Fits piece) :
    ∃ c rest, piece = c :: rest ∧ (p = ofFirst c ∨ p = comment ∧ c = '*') := by
  cases p with
  | whitespace =>
    obtain ⟨c, rest, rfl⟩ := List.exists_cons_of_ne_nil h.1
    exact ⟨c, rest, rfl, .inl (if_pos (h.2 c List.mem_cons_self)).symm⟩
  | comment =>
    obtain ⟨rest, rfl, -⟩ := h
    exact ⟨_, _, rfl, .inr ⟨rfl, rfl⟩⟩
  | newLine =>
    simp only [Fits, List.mem_cons, List.not_mem_nil, or_false] at h
    rcases h with rfl | rfl | rfl <;> exact ⟨_, _, rfl, .inl rfl⟩
  | word =>
    obtain ⟨c, rest, rfl, hstart, -⟩ := h
    have hpart := isWordPart_of_isWordStart hstart
    have hspacing : ¬ isSpacing c := fun h => by simp [not_isWordPart_of_isSpacing h] at hpart
    have hbreak : ¬ isLineBreak c := fun h => by simp [not_isWordPart_of_isLineBreak h] at hpart
    exact ⟨c, rest, rfl, .inl (by rw [ofFirst, if_neg hspacing, if_neg hbreak, if_pos hstart])⟩
  | literal =>
    obtain ⟨quote, inside, hquote, -, hpiece⟩ := h
    have hfirst : literal = ofFirst quote := by
      simp only [isQuote, Bool.or_eq_true, beq_iff_eq] at hquote
      rcases hquote with rfl | rfl <;> rfl
    rcases hpiece with rfl | rfl <;> exact ⟨quote, _, rfl, .inl hfirst⟩
  | punctuation =>
    obtain ⟨c, rfl, hspacing, hbreak, hstart, hquote⟩ := h
    exact ⟨c, [], rfl, .inl (by simp [ofFirst, hspacing, hbreak, hstart, hquote])⟩

/--
A piece is the longest of a text that fits a pattern: it fits one, no piece from the beginning
of the text that fits any pattern is longer, and the piece itself fits no other pattern.
-/
structure Longest (text piece : List Char) (p : TokenPattern) : Prop where
  leads : piece <+: text
  fits : p.Fits piece
  longest : ∀ q other, other <+: text → Fits q other → other.length ≤ piece.length
  unique : ∀ q, Fits q piece → q = p

theorem Fits.eq_ofFirst {q : TokenPattern} {c : Char} {text other : List Char}
    (h : q.Fits other) (hleads : other <+: c :: text) :
    q = ofFirst c ∨ q = comment ∧ c = '*' := by
  obtain ⟨d, rest, rfl, hq⟩ := h.exists_cons
  obtain ⟨rfl, -⟩ := List.cons_prefix_cons.1 hleads
  exact hq

theorem Longest.of_sole {p : TokenPattern} {text piece : List Char}
    (hsole : ∀ q other, other <+: text → Fits q other → q = p) (hleads : piece <+: text)
    (hfits : p.Fits piece)
    (hlongest : ∀ other, other <+: text → p.Fits other → other.length ≤ piece.length) :
    Longest text piece p := by
  refine ⟨hleads, hfits, ?_, fun q hq => hsole q piece hleads hq⟩
  intro q other hother hq
  obtain rfl := hsole q other hother hq
  exact hlongest other hother hq

theorem eq_of_fits {p q : TokenPattern} {c : Char} {text other : List Char} (hp : ofFirst c = p)
    (hc : c ≠ '*') (hleads : other <+: c :: text) (hq : q.Fits other) : q = p := by
  rcases hq.eq_ofFirst hleads with rfl | ⟨-, hstar⟩
  · exact hp
  · exact absurd hstar hc

theorem length_le_takeWhile (test : Char → Bool) {piece text : List Char} (h : piece <+: text)
    (hpiece : ∀ c ∈ piece, test c) : piece.length ≤ (text.takeWhile test).length := by
  obtain ⟨rest, rfl⟩ := h
  rw [List.takeWhile_append_of_pos hpiece, List.length_append]
  exact Nat.le_add_right _ _

end TokenPattern

namespace Cut

open TokenPattern

/--
A run is the longest piece for a pattern that asks the same of every character behind the first.
-/
theorem longest_run {p : TokenPattern} (kind : TokenKind) {test : Char → Bool} {c : Char}
    (text : List Char) (hp : ofFirst c = p) (hc : c ≠ '*')
    (hfits : ∀ rest, p.Fits (c :: rest) ↔ ∀ d ∈ rest, test d) :
    Longest (c :: text) (run kind test c text).lexeme p := by
  refine .of_sole (fun q other => eq_of_fits hp hc) ?_ ?_ ?_
  · exact List.cons_prefix_cons.2 ⟨rfl, List.takeWhile_prefix _⟩
  · exact (hfits _).2 (List.all_eq_true.1 List.all_takeWhile)
  · intro other hleads hother
    obtain ⟨d, rest, rfl, -⟩ := hother.exists_cons
    obtain ⟨rfl, hrest⟩ := List.cons_prefix_cons.1 hleads
    exact Nat.succ_le_succ (length_le_takeWhile test hrest ((hfits rest).1 hother))

theorem longest_lineBreak {c : Char} (text : List Char) (hc : isLineBreak c) :
    Longest (c :: text) (lineBreak c text).lexeme .newLine := by
  have hsplits := lineBreak_splits c text
  have hchar : c = '\r' ∨ c = '\n' := by simpa [isLineBreak] using hc
  have hfirst : ofFirst c = .newLine := by rcases hchar with rfl | rfl <;> rfl
  have hstar : c ≠ '*' := by rcases hchar with rfl | rfl <;> decide
  refine .of_sole (fun q other => eq_of_fits hfirst hstar) ⟨_, hsplits.append_eq⟩ ?_ ?_
  · rcases breaksLine_lineBreak text hc with ⟨-, hlexeme⟩ | ⟨hkind, -⟩
    · simpa [Fits, or_comm, or_left_comm] using hlexeme
    · exact absurd (kind_lineBreak c text) hkind
  · intro other hleads hother
    have hpos := List.length_pos_iff.2 hsplits.lexeme_ne_nil
    simp only [Fits, List.mem_cons, List.not_mem_nil, or_false] at hother
    rcases hother with rfl | rfl | rfl
    · -- a line feed behind a carriage return is taken along
      obtain ⟨rest, hrest⟩ := hleads
      simp only [List.cons_append, List.nil_append, List.cons.injEq] at hrest
      obtain ⟨rfl, rfl⟩ := hrest
      exact Nat.le_refl 2
    · exact hpos
    · exact hpos

theorem longest_literal {quote : Char} (text : List Char) (hquote : isQuote quote) :
    Longest (quote :: text) (literal quote text).lexeme .literal := by
  have hchar : quote = '\'' ∨ quote = '"' := by simpa [isQuote] using hquote
  have hsplit := List.takeWhile_append_dropWhile (p := isInsideLiteral quote) (l := text)
  have hinside : ∀ c ∈ text.takeWhile (isInsideLiteral quote), isInsideLiteral quote c :=
    List.all_eq_true.1 List.all_takeWhile
  have hfirst : ofFirst quote = .literal := by rcases hchar with rfl | rfl <;> rfl
  have hstar : quote ≠ '*' := by rcases hchar with rfl | rfl <;> decide
  refine .of_sole (fun q other => eq_of_fits hfirst hstar)
    ⟨_, (literal_splits quote text).append_eq⟩ ?_ ?_
  · unfold literal
    split
    · next hnone =>
      rw [hnone, List.append_nil] at hsplit
      rw [hsplit] at hinside
      exact ⟨quote, text, hquote, hinside, .inl rfl⟩
    · dsimp only
      split
      · next hclose => exact ⟨quote, _, hquote, hinside, .inr (by rw [hclose])⟩
      · exact ⟨quote, _, hquote, hinside, .inl rfl⟩
  · rintro other hleads ⟨quote', inside, -, hall, hother⟩
    unfold literal
    split
    · exact hleads.length_le
    · next c rest hrest =>
      dsimp only
      rcases hother with rfl | rfl
      · obtain ⟨rfl, hbehind⟩ := List.cons_prefix_cons.1 hleads
        have hlength := length_le_takeWhile _ hbehind hall
        split <;> simp only [List.length_cons, List.length_append] <;> omega
      · obtain ⟨rfl, after, htext⟩ := List.cons_prefix_cons.1 hleads
        have hlength :=
          length_le_takeWhile _ ((List.prefix_append _ _).trans ⟨after, htext⟩) hall
        -- the quote behind the inside is the first character that cannot stand there
        rw [← htext, List.append_assoc, List.dropWhile_append_of_pos hall,
          List.singleton_append, List.dropWhile_cons_of_neg (by simp [isInsideLiteral]),
          List.cons.injEq] at hrest
        rw [if_pos hrest.1.symm]
        simpa using hlength

theorem longest_comment {text : List Char} (htext : text.head? = some '>') :
    Longest ('*' :: text) (run .whitespace (!isLineBreak ·) '*' text).lexeme .comment := by
  obtain ⟨text, rfl⟩ : ∃ rest, text = '>' :: rest :=
    ⟨text.tail, List.eq_cons_of_mem_head? htext⟩
  have hlexeme : (run .whitespace (!isLineBreak ·) '*' ('>' :: text)).lexeme =
      '*' :: '>' :: text.takeWhile (!isLineBreak ·) := rfl
  rw [hlexeme]
  refine ⟨?_, ⟨_, rfl, ?_⟩, ?_, ?_⟩
  · simpa using List.takeWhile_prefix _
  · intro c hc
    simpa using List.all_eq_true.1 List.all_takeWhile c hc
  · intro q other hleads hother
    rcases hother.eq_ofFirst hleads with rfl | ⟨rfl, -⟩
    · obtain ⟨c, rfl, -⟩ : Fits .punctuation other := hother
      simp
    · obtain ⟨rest, rfl, hrest⟩ := hother
      simp only [List.cons_prefix_cons, true_and] at hleads
      have hlength := length_le_takeWhile (!isLineBreak ·) hleads fun c hc =>
        by simp [hrest c hc]
      simpa using hlength
  · intro q hq
    rcases hq.eq_ofFirst (List.prefix_append _ []) with rfl | ⟨rfl, -⟩
    · obtain ⟨c, hpiece, -⟩ : Fits .punctuation _ := hq
      cases hpiece
    · rfl

theorem longest_single {c : Char} {text : List Char} (hfits : Fits .punctuation [c])
    (hcomment : ¬ (c = '*' ∧ text.head? = some '>')) :
    Longest (c :: text) [c] .punctuation := by
  have hleads : [c] <+: c :: text := ⟨text, rfl⟩
  have hfirst : ofFirst c = .punctuation := by
    rcases hfits.eq_ofFirst hleads with h | ⟨h, -⟩
    · exact h.symm
    · cases h
  refine .of_sole ?_ hleads hfits ?_
  · intro q other hother hq
    rcases hq.eq_ofFirst hother with rfl | ⟨rfl, rfl⟩
    · exact hfirst
    · obtain ⟨rest, rfl, -⟩ := hq
      obtain ⟨-, after, rfl⟩ := List.cons_prefix_cons.1 hother
      exact absurd ⟨rfl, rfl⟩ hcomment
  · rintro other - ⟨d, rfl, -⟩
    exact Nat.le_refl 1

/-- The longest piece that fits a pattern is cut off. -/
theorem longest_first (c : Char) (text : List Char) :
    ∃ p, p.kind = (first c text).kind ∧ Longest (c :: text) (first c text).lexeme p := by
  unfold first
  split
  · next hspacing =>
    refine ⟨.whitespace, rfl, longest_run _ text (if_pos hspacing) ?_ ?_⟩
    · rintro rfl
      cases hspacing
    · simp [Fits, hspacing]
  next hspacing =>
  split
  · next hbreak => exact ⟨.newLine, (kind_lineBreak c text).symm, longest_lineBreak text hbreak⟩
  next hbreak =>
  split
  · next hstart =>
    refine ⟨.word, rfl, longest_run _ text ?_ ?_ ?_⟩
    · simp [ofFirst, hspacing, hbreak, hstart]
    · rintro rfl
      cases hstart
    · simp [Fits, hstart]
  next hstart =>
  split
  · next hquote => exact ⟨.literal, (kind_literal c text).symm, longest_literal text hquote⟩
  next hquote =>
  split
  · next hcomment =>
    obtain ⟨rfl, htext⟩ := hcomment
    exact ⟨.comment, rfl, longest_comment htext⟩
  · next hcomment =>
    exact ⟨.punctuation, rfl,
      longest_single (by simp [Fits, hspacing, hbreak, hstart, hquote]) hcomment⟩

end Cut

end CobolCompanion
