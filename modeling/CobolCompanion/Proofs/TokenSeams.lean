import CobolCompanion.Proofs.SourceMapping
import Mathlib.Data.List.Chain
import Mathlib.Data.List.DropRight

namespace CobolCompanion

def Token.isJoint (t : Token) : Bool :=
  t.lexeme == "-" || t.lexeme == "_"

theorem Token.exists_of_isJoint {t : Token} (h : t.isJoint) :
    ∃ c, t.lexeme.toList = [c] ∧ isWordPart c := by
  simp only [isJoint, Bool.or_eq_true, beq_iff_eq] at h
  rcases h with h | h
  · exact ⟨'-', by rw [h]; rfl, rfl⟩
  · exact ⟨'_', by rw [h]; rfl, rfl⟩

/--
Where the second of two tokens begins like the inside of a word, the first is a joint or ends
unlike it.
-/
def Seam (u v : Token) : Prop :=
  ∀ c ∈ v.lexeme.toList.head?, isWordPart c →
    u.isJoint ∨ ∀ d ∈ u.lexeme.toList.getLast?, isWordPart d = false

theorem not_isWordPart_of_isSpacing {c : Char} (h : isSpacing c) : isWordPart c = false := by
  simp only [isSpacing, Bool.or_eq_true, beq_iff_eq] at h
  rcases h with (rfl | rfl) | rfl <;> rfl

theorem not_isWordPart_of_isLineBreak {c : Char} (h : isLineBreak c) :
    isWordPart c = false := by
  simp only [isLineBreak, Bool.or_eq_true, beq_iff_eq] at h
  rcases h with rfl | rfl <;> rfl

theorem not_isWordPart_of_isQuote {c : Char} (h : isQuote c) : isWordPart c = false := by
  simp only [isQuote, Bool.or_eq_true, beq_iff_eq] at h
  rcases h with rfl | rfl <;> rfl

theorem isWordPart_of_isWordStart {c : Char} (h : isWordStart c) : isWordPart c := by
  rw [isWordPart, Bool.or_assoc, Bool.or_eq_true]
  exact .inl h

namespace Cut

/-- Where the text goes on like the inside of a word, the cut is a joint or ends unlike it. -/
def EndsWord (cut : Cut) : Prop :=
  ∀ c ∈ cut.rest.head?, isWordPart c →
    cut.lexeme ∈ [['-'], ['_']] ∨ ∀ d ∈ cut.lexeme.getLast?, isWordPart d = false

theorem endsWord_run_of_other {kind : TokenKind} {test : Char → Bool} {c : Char}
    (text : List Char) (hc : isWordPart c = false)
    (htest : ∀ d, test d → isWordPart d = false) :
    (run kind test c text).EndsWord := by
  intro e he hpart
  right
  intro d hd
  rcases List.mem_cons.1 (List.mem_of_getLast? hd) with rfl | hd
  · exact hc
  · exact htest d (List.all_eq_true.1 List.all_takeWhile d hd)

theorem endsWord_run_of_longest {kind : TokenKind} {test : Char → Bool} {c : Char}
    (text : List Char) (htest : ∀ d, isWordPart d → test d) :
    (run kind test c text).EndsWord := by
  intro e he hpart
  have hstop := List.head?_dropWhile_not test text
  rw [run, Option.mem_def] at he
  dsimp only at he
  rw [he] at hstop
  exact absurd (htest e hpart) (by simpa using hstop)

theorem endsWord_lineBreak {c : Char} (text : List Char) (hc : isLineBreak c) :
    (lineBreak c text).EndsWord := by
  have hlast : ∀ d ∈ (lineBreak c text).lexeme.getLast?, isWordPart d = false := by
    have hchar := not_isWordPart_of_isLineBreak hc
    unfold lineBreak
    split
    · split
      · simp [show isWordPart '\n' = false from rfl]
      · simpa using hchar
    · simpa using hchar
  intro e he hpart
  exact .inr hlast

theorem endsWord_literal {quote : Char} (text : List Char) (hquote : isQuote quote) :
    (literal quote text).EndsWord := by
  have hquote' := not_isWordPart_of_isQuote hquote
  have hstop := List.head?_dropWhile_not (isInsideLiteral quote) text
  unfold literal
  split
  · intro e he
    cases he
  · next c rest hrest =>
    dsimp only
    split
    · next hc =>
      intro e he hpart
      right
      rw [hc, ← List.cons_append, List.getLast?_concat]
      simpa using hquote'
    · next hc =>
      intro e he hpart
      rw [hrest] at hstop
      obtain rfl : c = e := by simpa using he
      have hbreak : isLineBreak c := by simpa [isInsideLiteral, hc] using hstop
      rw [not_isWordPart_of_isLineBreak hbreak] at hpart
      cases hpart

theorem endsWord_single {c : Char} (text : List Char) (hc : isWordStart c = false) :
    EndsWord ⟨.other, [c], text⟩ := by
  intro e he hpart
  cases hjoint : isWordPart c with
  | false =>
    right
    simpa using hjoint
  | true =>
    left
    unfold isWordPart at hjoint
    unfold isWordStart at hc
    simpa [hc, or_comm] using hjoint

theorem endsWord_first (c : Char) (text : List Char) : (first c text).EndsWord := by
  unfold first
  split
  · next hspacing =>
    exact endsWord_run_of_other text (not_isWordPart_of_isSpacing hspacing) fun d =>
      not_isWordPart_of_isSpacing
  split
  · next hbreak => exact endsWord_lineBreak text hbreak
  split
  · exact endsWord_run_of_longest text fun d hd => hd
  next hstart =>
  split
  · next hquote => exact endsWord_literal text hquote
  split
  · apply endsWord_run_of_longest
    intro d hd
    cases hbreak : isLineBreak d with
    | false => rfl
    | true =>
      rw [not_isWordPart_of_isLineBreak hbreak] at hd
      cases hd
  · exact endsWord_single text (by simpa using hstart)

theorem kind_lineBreak (c : Char) (text : List Char) : (lineBreak c text).kind = .newLine := by
  unfold lineBreak
  split
  · split <;> rfl
  · rfl

theorem kind_literal (quote : Char) (text : List Char) :
    (literal quote text).kind = .other := by
  unfold literal
  split
  · rfl
  · dsimp only
    split <;> rfl

theorem isWordPart_of_kind {c : Char} {text : List Char} (h : (first c text).kind = .word) :
    ∀ d ∈ (first c text).lexeme, isWordPart d := by
  unfold first at h ⊢
  split at h
  · cases h
  next hspacing =>
  split at h
  · rw [kind_lineBreak] at h
    cases h
  next hbreak =>
  split at h
  · next hstart =>
    rw [if_neg hspacing, if_neg hbreak, if_pos hstart]
    intro d hd
    rcases List.mem_cons.1 hd with rfl | hd
    · exact isWordPart_of_isWordStart hstart
    · exact List.all_eq_true.1 List.all_takeWhile d hd
  split at h
  · rw [kind_literal] at h
    cases h
  split at h <;> cases h

end Cut

theorem Cut.EndsWord.seam {cut : Cut} (h : cut.EndsWord) {u v : Token}
    (hu : u.lexeme.toList = cut.lexeme) (hv : v.lexeme.toList.head? = cut.rest.head?) :
    Seam u v := by
  intro c hc hpart
  rw [hv] at hc
  rw [hu]
  rcases h c hc hpart with hjoint | hlast
  · left
    rw [← hu] at hjoint
    simpa [Token.isJoint, ← String.toList_inj] using hjoint
  · exact .inr hlast

theorem isChain_seam_scanFrom (place : Place) (text : List Char) :
    List.IsChain Seam (scanFrom place text) := by
  fun_induction scanFrom place text with
  | case1 => exact .nil
  | case2 place c text cut after ih =>
    rw [List.isChain_cons]
    refine ⟨?_, ih⟩
    intro v hv
    apply (Cut.endsWord_first c text).seam String.toList_ofList
    cases hrest : cut.rest with
    | nil =>
      rw [hrest, scanFrom] at hv
      cases hv
    | cons d rest =>
      rw [hrest, scanFrom] at hv
      obtain rfl := Option.some.inj hv
      have hsplits := Cut.first_splits d rest
      have hhead := congrArg List.head? hsplits.append_eq
      rw [List.head?_append_of_ne_nil _ hsplits.lexeme_ne_nil] at hhead
      rw [String.toList_ofList, hhead]

theorem isWordPart_of_mem_scanFrom {place : Place} {text : List Char} {t : Token}
    (ht : t ∈ scanFrom place text) (hword : t.isWord) :
    ∀ c ∈ t.lexeme.toList, isWordPart c := by
  fun_induction scanFrom place text with
  | case1 => cases ht
  | case2 place c text cut after ih =>
    rcases List.mem_cons.1 ht with rfl | ht
    · rw [String.toList_ofList]
      exact Cut.isWordPart_of_kind (by simpa [Token.isWord] using hword)
    · exact ih ht

/--
Before a token that begins like the inside of a word, what a word may hold are the joints.
-/
theorem rtakeWhile_spelling {earlier : List Token} {v : Token} {c : Char}
    (hchain : List.IsChain Seam (earlier ++ [v])) (hv : v.lexeme.toList.head? = some c)
    (hc : isWordPart c) (hsolid : ∀ u ∈ earlier, u.lexeme.toList ≠ []) :
    (spelling earlier).rtakeWhile isWordPart = spelling (earlier.rtakeWhile Token.isJoint) := by
  induction earlier using List.reverseRecOn generalizing v c with
  | nil => simp
  | append_singleton earlier u ih =>
    rw [List.append_assoc, List.singleton_append, List.isChain_append_cons_cons] at hchain
    obtain ⟨hearlier, hseam, -⟩ := hchain
    rw [List.forall_mem_append] at hsolid
    rw [spelling_append, spelling_cons, spelling_nil, List.append_nil]
    cases hjoint : u.isJoint with
    | true =>
      obtain ⟨d, hd, hpart⟩ := Token.exists_of_isJoint hjoint
      have hrest := ih hearlier (by rw [hd]; rfl) hpart hsolid.1
      rw [List.rtakeWhile_concat_pos _ _ _ hjoint, spelling_append, spelling_cons, spelling_nil,
        List.append_nil, ← hrest, hd]
      exact List.rtakeWhile_concat_pos _ _ _ hpart
    | false =>
      have hne := hsolid.2 u (by simp)
      have hlast := List.getLast_mem_getLast? hne
      have hother := (hseam c hv hc).resolve_left (by simp [hjoint]) _ hlast
      obtain ⟨before, hbefore⟩ := List.getLast?_eq_some_iff.1 hlast
      rw [List.rtakeWhile_concat_neg _ _ _ (by simp [hjoint]), spelling_nil, hbefore,
        ← List.append_assoc]
      exact List.rtakeWhile_concat_neg _ _ _ (by simp [hother])

end CobolCompanion
