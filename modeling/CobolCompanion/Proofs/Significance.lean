import CobolCompanion.Proofs.Keywords

namespace CobolCompanion

open Parse

/-- A trivia is never the end of input. -/
theorem Token.isEndOfInput_of_isTrivia {t : Token} (h : t.isTrivia) :
    t.isEndOfInput = false := by
  unfold Token.isTrivia at h
  unfold Token.isEndOfInput
  cases hk : t.kind <;> simp [hk] at h ⊢

def significantTokens (tokens : List Token) : List Token :=
  tokens.filter Token.isSignificant

@[simp] theorem significantTokens_nil : significantTokens [] = [] := rfl

@[simp] theorem significantTokens_append (ts us : List Token) :
    significantTokens (ts ++ us) = significantTokens ts ++ significantTokens us :=
  List.filter_append ..

theorem significantTokens_cons_of_significant {t : Token} (h : t.isTrivia = false)
    (ts : List Token) :
    significantTokens (t :: ts) = t :: significantTokens ts :=
  List.filter_cons_of_pos (by simp [Token.isSignificant, h])

theorem significantTokens_eq_nil {ts : List Token} (h : ∀ t ∈ ts, t.isTrivia) :
    significantTokens ts = [] :=
  List.filter_eq_nil_iff.2 fun t ht => by simp [Token.isSignificant, h t ht]

theorem mem_of_mem_significantTokens {t : Token} {ts : List Token}
    (h : t ∈ significantTokens ts) :
    t ∈ ts ∧ t.isTrivia = false := by
  simpa [significantTokens, Token.isSignificant] using h

/-- What stands first behind trivia is significant. -/
theorem isTrivia_of_dropWhile_eq_cons {t : Token} {ts rest : List Token}
    (h : ts.dropWhile Token.isTrivia = t :: rest) : t.isTrivia = false := by
  simpa [h] using List.head?_dropWhile_not Token.isTrivia ts

theorem significantTokens_dropWhile (ts : List Token) :
    significantTokens (ts.dropWhile Token.isTrivia) = significantTokens ts := by
  have htrivia : significantTokens (ts.takeWhile Token.isTrivia) = [] :=
    significantTokens_eq_nil fun t ht => List.all_eq_true.1 List.all_takeWhile t ht
  have hsplit := significantTokens_append (ts.takeWhile Token.isTrivia)
    (ts.dropWhile Token.isTrivia)
  rw [List.takeWhile_append_dropWhile, htrivia, List.nil_append] at hsplit
  exact hsplit.symm

namespace Parse

theorem isTrivia_of_mem_take_triviaLength {unread : List Token} :
    ∀ t ∈ unread.take (triviaLength unread), t.isTrivia := by
  intro t ht
  have hprefix := List.takeWhile_prefix Token.isTrivia (l := unread)
  rw [triviaLength, ← List.prefix_iff_eq_take.1 hprefix] at ht
  exact List.all_eq_true.1 List.all_takeWhile t ht

theorem firstKept_eq_take_filter (skip : Token → Bool) (n : Nat) (ts : List Token) :
    firstKept skip n ts = (ts.filter (!skip ·)).take n := by
  fun_induction firstKept skip n ts with
  | case1 => rfl
  | case2 n h => simp
  | case3 n t ts hskip ih => simp [hskip, ih]
  | case4 n t ts hskip ih => simp [hskip, ih]

theorem firstSignificant_eq_take (n : Nat) (ts : List Token) :
    firstSignificant n ts = (significantTokens ts).take n :=
  firstKept_eq_take_filter Token.isTrivia n ts

section
variable {score : Similarity}

/-- Whether tokens begin with what is asked for, one by one. -/
def agrees (score : Similarity) : List Ahead → List Token → Bool
  | [], _ => true
  | _ :: _, [] => false
  | expected :: pattern, t :: ts => expected.test score t && agrees score pattern ts

/-- Lookahead compares a pattern with the significant tokens. -/
theorem looksLike_eq_agrees (pattern : List Ahead) (unread : List Token) :
    looksLike score pattern unread = agrees score pattern (significantTokens unread) := by
  unfold looksLike
  rw [firstSignificant_eq_take]
  dsimp only
  generalize significantTokens unread = ts
  induction pattern generalizing ts with
  | nil => simp [agrees]
  | cons expected pattern ih =>
    cases ts with
    | nil => simp [agrees]
    | cons t ts =>
      rw [agrees, ← ih ts]
      simp only [List.length_cons, List.take_succ_cons, List.zip_cons_cons, List.all_cons]
      cases expected.test score t <;> simp

section
variable {ts us : List Token} (h : significantTokens ts = significantTokens us)
include h

theorem looksLike_congr (pattern : List Ahead) :
    looksLike score pattern ts = looksLike score pattern us := by
  rw [looksLike_eq_agrees, looksLike_eq_agrees, h]

theorem atDivisionHeader_congr (d : Division) :
    atDivisionHeader score d ts = atDivisionHeader score d us := by
  cases d <;> exact looksLike_congr h _

theorem atIdentificationHeader_congr :
    atIdentificationHeader score ts = atIdentificationHeader score us := by
  simp only [atIdentificationHeader, atPeriodHeader, looksLike_congr h]

theorem atAnyHeader_congr (start : Bool) :
    atAnyHeader score start ts = atAnyHeader score start us := by
  simp only [atAnyHeader, atDivisionHeader_congr h, atIdentificationHeader_congr h,
    looksLike_congr h]

theorem atEndProgram_congr : atEndProgram score ts = atEndProgram score us :=
  looksLike_congr h _

end

variable {ts : List Token}

theorem not_looksLike_of_head {expected : Ahead} {pattern : List Ahead}
    (h : ∀ t, (significantTokens ts)[0]? = some t → expected.test score t = false) :
    looksLike score (expected :: pattern) ts = false := by
  rw [looksLike_eq_agrees]
  cases hts : significantTokens ts with
  | nil => rfl
  | cons t rest => simp [agrees, h t (by simp [hts])]

theorem not_looksLike_of_second {first second : Ahead} {pattern : List Ahead}
    (h : ∀ t, (significantTokens ts)[1]? = some t → second.test score t = false) :
    looksLike score (first :: second :: pattern) ts = false := by
  rw [looksLike_eq_agrees]
  cases hts : significantTokens ts with
  | nil => rfl
  | cons t rest =>
    cases rest with
    | nil => simp [agrees]
    | cons u rest => simp [agrees, h u (by simp [hts])]

theorem not_atAnyHeader
    (h : ∀ t, (significantTokens ts)[1]? = some t → Keyword.accepts score t "DIVISION" = false)
    (start : Bool) : atAnyHeader score start ts = false := by
  have hknown (opener : String) (pattern : List Ahead) :
      looksLike score (.keyword opener :: .keyword "DIVISION" :: pattern) ts = false :=
    not_looksLike_of_second h
  have hunknown : looksLike score [.anyWord, .exactly "DIVISION", .exactly "."] ts = false := by
    refine not_looksLike_of_second fun t ht => Bool.eq_false_iff.2 fun hexact => ?_
    have haccepts : Keyword.accepts score t "DIVISION" :=
      Keyword.accepts_of_sameIgnoringCase hexact (by simp [reservedWords])
    simp [h t ht] at haccepts
  simp [atAnyHeader, atIdentificationHeader, atDivisionHeader, atPeriodHeader, Division.all,
    identificationOpeners, hknown, hunknown]

theorem not_atIdentificationHeader
    (h : ∀ t, (significantTokens ts)[1]? = some t →
      Keyword.accepts score t "DIVISION" = false) :
    atIdentificationHeader score ts = false := by
  have hheader := not_atAnyHeader h false
  simp only [atAnyHeader, Bool.or_eq_false_iff] at hheader
  exact hheader.1.2

theorem not_atEndProgram
    (h : ∀ t, (significantTokens ts)[1]? = some t → Keyword.accepts score t "PROGRAM" = false) :
    atEndProgram score ts = false :=
  not_looksLike_of_second h

end

end Parse

namespace Element

mutual
/-- An element without the trivia under it. Of a trivia nothing remains. -/
def withoutTrivia : Element → List Element
  | token t => if t.isTrivia then [] else [token t]
  | node heading children => [node heading (withoutTriviaAll children)]

def withoutTriviaAll : List Element → List Element
  | [] => []
  | e :: es => withoutTrivia e ++ withoutTriviaAll es
end

@[simp] theorem withoutTriviaAll_nil : withoutTriviaAll [] = [] := by
  simp [withoutTriviaAll]

@[simp] theorem withoutTriviaAll_append (es fs : List Element) :
    withoutTriviaAll (es ++ fs) = withoutTriviaAll es ++ withoutTriviaAll fs := by
  induction es with
  | nil => simp
  | cons e es ih => simp [withoutTriviaAll, ih]

@[simp] theorem withoutTriviaAll_node (heading : Heading) (children : List Element) :
    withoutTriviaAll [node heading children] = [node heading (withoutTriviaAll children)] := by
  simp [withoutTriviaAll, withoutTrivia]

@[simp] theorem withoutTriviaAll_map_token (ts : List Token) :
    withoutTriviaAll (ts.map .token) = (significantTokens ts).map .token := by
  induction ts with
  | nil => simp
  | cons t ts ih =>
    have hcons : significantTokens (t :: ts) = significantTokens [t] ++ significantTokens ts :=
      significantTokens_append [t] ts
    rw [List.map_cons, withoutTriviaAll, ih, hcons, List.map_append]
    cases ht : t.isTrivia <;> simp [withoutTrivia, significantTokens, Token.isSignificant, ht]

end Element

def Node.withoutTrivia (n : Node) : Node :=
  { n with children := Element.withoutTriviaAll n.children }

end CobolCompanion
