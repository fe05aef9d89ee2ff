import CobolCompanion.Proofs.Significance

namespace CobolCompanion

open Parse

def Token.unplaced (t : Token) : Token :=
  { t with position := ⟨0, 0⟩, span := ⟨0, 0⟩ }

@[simp] theorem Token.isTrivia_unplaced (t : Token) : t.unplaced.isTrivia = t.isTrivia := rfl

@[simp] theorem Token.isTerminator_unplaced (t : Token) :
    t.unplaced.isTerminator = t.isTerminator := rfl

@[simp] theorem Token.isEndOfInput_unplaced (t : Token) :
    t.unplaced.isEndOfInput = t.isEndOfInput := rfl

theorem Token.unplaced_eq_iff {t u : Token} :
    t.unplaced = u.unplaced ↔ t.kind = u.kind ∧ t.lexeme = u.lexeme := by
  simp [unplaced]

def wording (tokens : List Token) : List Token :=
  (significantTokens tokens).map Token.unplaced

@[simp] theorem wording_nil : wording [] = [] := rfl

theorem wording_cons_of_trivia {t : Token} (h : t.isTrivia) (ts : List Token) :
    wording (t :: ts) = wording ts := by
  simp [wording, significantTokens, Token.isSignificant, h]

theorem wording_cons_of_significant {t : Token} (h : t.isTrivia = false) (ts : List Token) :
    wording (t :: ts) = t.unplaced :: wording ts := by
  rw [wording, significantTokens_cons_of_significant h, List.map_cons]
  rfl

theorem wording_eq_nil {ts : List Token} (h : ∀ t ∈ ts, t.isTrivia) : wording ts = [] := by
  rw [wording, significantTokens_eq_nil h, List.map_nil]

theorem length_wording (ts : List Token) :
    (wording ts).length = (significantTokens ts).length :=
  List.length_map ..

theorem significantTokens_wording (ts : List Token) :
    significantTokens (wording ts) = wording ts := by
  apply List.filter_eq_self.2
  intro t ht
  obtain ⟨u, hu, rfl⟩ := List.mem_map.1 ht
  simp [Token.isSignificant, (mem_of_mem_significantTokens hu).2]

namespace Parse

section
variable {score : Similarity}

theorem looksLike_wording (pattern : List Ahead) (ts : List Token) :
    looksLike score pattern (wording ts) = looksLike score pattern ts := by
  have hagrees : ∀ (pattern : List Ahead) (ts : List Token),
      agrees score pattern (ts.map Token.unplaced) = agrees score pattern ts := by
    intro pattern
    induction pattern with
    | nil => intro ts; rfl
    | cons expected pattern ih =>
      intro ts
      cases ts with
      | nil => rfl
      | cons t ts =>
        rw [List.map_cons, agrees, agrees, ih]
        cases expected <;> rfl
  rw [looksLike_eq_agrees, looksLike_eq_agrees, significantTokens_wording, wording, hagrees]

theorem atDivisionHeader_wording (d : Division) (ts : List Token) :
    atDivisionHeader score d (wording ts) = atDivisionHeader score d ts := by
  cases d <;> exact looksLike_wording _ ts

theorem atIdentificationHeader_wording (ts : List Token) :
    atIdentificationHeader score (wording ts) = atIdentificationHeader score ts := by
  simp only [atIdentificationHeader, atPeriodHeader, looksLike_wording]

theorem atAnyHeader_wording (start : Bool) (ts : List Token) :
    atAnyHeader score start (wording ts) = atAnyHeader score start ts := by
  simp only [atAnyHeader, atDivisionHeader_wording, atIdentificationHeader_wording,
    looksLike_wording]

theorem atEndProgram_wording (ts : List Token) :
    atEndProgram score (wording ts) = atEndProgram score ts :=
  looksLike_wording _ ts

end

theorem foldl_statementStartAfter (start : Bool) (ts : List Token) :
    (wording ts).foldl statementStartAfter start = ts.foldl statementStartAfter start := by
  induction ts generalizing start with
  | nil => rfl
  | cons t ts ih =>
    cases ht : t.isTrivia with
    | true =>
      rw [wording_cons_of_trivia ht, ih, List.foldl_cons]
      simp [statementStartAfter, ht]
    | false =>
      rw [wording_cons_of_significant ht, List.foldl_cons, List.foldl_cons, ih]
      rfl

theorem wording_take_contentLength {score : Similarity} (start : Bool) {ts : List Token}
    (h : ∀ t ∈ ts, t.isEndOfInput = false) :
    wording (ts.take (contentLength score start ts)) =
      (wording ts).take (contentLength score start (wording ts)) := by
  induction ts generalizing start with
  | nil => rfl
  | cons t ts ih =>
    rw [List.forall_mem_cons] at h
    have hany := @atAnyHeader_wording score start (t :: ts)
    have hend := @atEndProgram_wording score (t :: ts)
    by_cases hboundary : atAnyHeader score start (t :: ts) ∨ atEndProgram score (t :: ts)
    · have hzero : contentLength score start (t :: ts) = 0 := by
        rw [contentLength, if_pos (by simpa [h.1] using hboundary)]
      have hzero' : contentLength score start (wording (t :: ts)) = 0 := by
        rw [← hany, ← hend] at hboundary
        cases hw : wording (t :: ts) with
        | nil => rfl
        | cons u us =>
          rw [hw] at hboundary
          rw [contentLength, if_pos]
          simpa [or_assoc] using Or.inr hboundary
      rw [hzero, hzero', List.take_zero, List.take_zero, wording_nil]
    · have hsucc : contentLength score start (t :: ts) =
          contentLength score (statementStartAfter start t) ts + 1 := by
        rw [contentLength, if_neg (by simpa [h.1] using hboundary)]
      rw [hsucc, List.take_succ_cons]
      cases ht : t.isTrivia with
      | true =>
        have hstart : statementStartAfter start t = start := by simp [statementStartAfter, ht]
        rw [wording_cons_of_trivia ht, wording_cons_of_trivia ht, hstart, ih start h.2]
      | false =>
        rw [wording_cons_of_significant ht] at hany hend
        rw [wording_cons_of_significant ht, wording_cons_of_significant ht, ih _ h.2]
        rw [← hany, ← hend] at hboundary
        rw [contentLength.eq_def score start (t.unplaced :: _)]
        dsimp only
        rw [if_neg (by simpa [h.1] using hboundary), List.take_succ_cons]
        rfl

theorem wording_take_statementLength {ts : List Token} (h : ∀ t ∈ ts, t.isEndOfInput = false) :
    wording (ts.take (statementLength ts)) =
      (wording ts).take (statementLength (wording ts)) := by
  induction ts with
  | nil => rfl
  | cons t ts ih =>
    rw [List.forall_mem_cons] at h
    cases ht : t.isTrivia with
    | true =>
      have hperiod : t.isTerminator = false := by
        cases hkind : t.kind <;> simp [Token.isTrivia, Token.isTerminator, hkind] at ht ⊢
      simp [statementLength, h.1, hperiod, wording_cons_of_trivia ht, ih h.2]
    | false =>
      rw [wording_cons_of_significant ht, statementLength, statementLength]
      cases hperiod : t.isTerminator with
      | true => simp [hperiod, wording_cons_of_significant ht]
      | false => simp [h.1, hperiod, wording_cons_of_significant ht, ih h.2]

end Parse

end CobolCompanion
