import CobolCompanion.Proofs.Respelling

namespace CobolCompanion

open Parse

namespace Parse

namespace Respelling

variable {e : Respelling} {score : Similarity}

/--
A production that does the same on both sides, where it leaves the token unread and a condition
holds of what it leaves, or where it gives up before it has come to the token.
-/
structure Blind {α : Type} (e : Respelling) (guard : Bool → List Token → Prop)
    (p : Production α) :
    Prop where
  performs : p.Performs
  ok : ∀ {before s t a s'}, e.Twins before s t → p s = .ok a s' →
    guard s'.statementStart s'.unread →
    ∃ before' t', p t = .ok a t' ∧ e.Twins before' s' t'
  error : ∀ {before s t f s'}, e.Twins before s t → p s = .error f s' →
    e.Awaits (s'.unread.drop 1) →
    ∃ before' t', p t = .error f t' ∧ e.Twins before' s' t'

namespace Blind

open Production

variable {α β : Type} {guard : Bool → List Token → Prop} {p q : Production α}

theorem pure (a : α) : e.Blind guard (pure a : Production α) where
  performs := .pure a
  ok := by
    intro before s t a' s' h hrun _
    cases hrun
    exact ⟨before, t, rfl, h⟩
  error := by
    intro _ _ _ _ _ _ hrun
    cases hrun

theorem bind {f : α → Production β} (hguard : ∀ {start u}, guard start u → e.Awaits u)
    (hp : e.Blind (fun _ => e.Awaits) p) (hf : ∀ a, e.Blind guard (f a)) :
    e.Blind guard (p >>= f) where
  performs := hp.performs.bind fun a => (hf a).performs
  ok := by
    intro before s t b s'' h hrun hg
    obtain ⟨a, s', hrun₁, hrun₂⟩ := exists_ok_of_bind hrun
    have hmoves := ((hf a).performs s').unread_suffix
    rw [final, hrun₂] at hmoves
    obtain ⟨before', t', hrun₁', h'⟩ := hp.ok h hrun₁ ((hguard hg).trans hmoves)
    obtain ⟨before'', t'', hrun₂', h''⟩ := (hf a).ok h' hrun₂ hg
    exact ⟨before'', t'', (bind_eq_of_ok hrun₁' f).trans hrun₂', h''⟩
  error := by
    intro before s t g s'' h hrun hawaits
    rw [bind_eq] at hrun
    cases hrun₁ : p s with
    | error g' s' =>
      rw [hrun₁] at hrun
      cases hrun
      obtain ⟨before', t', hrun₁', h'⟩ := hp.error h hrun₁ hawaits
      exact ⟨before', t', bind_eq_of_error hrun₁' f, h'⟩
    | ok a s' =>
      rw [hrun₁] at hrun
      have hrun₂ : f a s' = .error g s'' := hrun
      have hmoves := ((hf a).performs s').unread_suffix
      rw [final, hrun₂] at hmoves
      obtain ⟨before', t', hrun₁', h'⟩ :=
        hp.ok h hrun₁ ((hawaits.trans (List.drop_suffix 1 _)).trans hmoves)
      obtain ⟨before'', t'', hrun₂', h''⟩ := (hf a).error h' hrun₂ hawaits
      exact ⟨before'', t'', (bind_eq_of_ok hrun₁' f).trans hrun₂', h''⟩

theorem of_decides {verdict : Token → Verdict} {value : Token → α} (hp : p.Performs)
    (hdecides : Decides p verdict value) : e.Blind (fun _ => e.Awaits) p where
  performs := hp
  ok := by
    intro before s t a s' h hrun hg
    rw [hdecides.run] at hrun ⊢
    cases hverdict : verdict s.peek with
    | refuse c =>
      rw [hverdict] at hrun
      cases hrun
    | take keyword =>
      rw [hverdict] at hrun
      cases hrun
      cases before with
      | nil =>
        rw [State.unread_takeNext, h.left] at hg
        exact absurd hg (not_awaits_of_length_le (Nat.le_refl _))
      | cons x before =>
        rw [h.peek_eq, hverdict]
        exact ⟨before, _, rfl, h.takeNext keyword⟩
  error := by
    intro before s t f s' h hrun hawaits
    rw [hdecides.run] at hrun ⊢
    cases hverdict : verdict s.peek with
    | take keyword =>
      rw [hverdict] at hrun
      cases hrun
    | refuse c =>
      rw [hverdict] at hrun
      cases hrun
      cases before with
      | nil =>
        rw [State.unread_report, h.left] at hawaits
        exact absurd hawaits (not_awaits_of_length_le (Nat.le_refl _))
      | cons x before =>
        have hpeek := h.peek_eq
        rw [hpeek, hverdict, ← hpeek]
        exact ⟨x :: before, _, rfl, h.report _ _⟩

theorem inNode (kind : NodeKind) (hp : e.Blind guard p) :
    e.Blind guard (Production.inNode kind p) where
  performs := .inNode kind hp.performs
  ok := by
    intro before s t a s' h hrun hg
    unfold Production.inNode at hrun ⊢
    cases hrun₁ : p (s.openNode kind) with
    | error f s₁ => simp [hrun₁] at hrun
    | ok a s₁ =>
      rw [hrun₁] at hrun
      cases hrun
      obtain ⟨before', t₁, hrun₁', h'⟩ := hp.ok (h.openNode kind) hrun₁ hg
      rw [hrun₁']
      exact ⟨before', _, rfl, h'.closeNode⟩
  error := by
    intro before s t f s' h hrun hawaits
    unfold Production.inNode at hrun ⊢
    cases hrun₁ : p (s.openNode kind) with
    | ok a s₁ => simp [hrun₁] at hrun
    | error f s₁ =>
      rw [hrun₁] at hrun
      cases hrun
      obtain ⟨before', t₁, hrun₁', h'⟩ := hp.error (h.openNode kind) hrun₁ hawaits
      rw [hrun₁']
      exact ⟨before', _, rfl, h'.closeNode⟩

theorem seq {p : Production Unit} {q : Unit → Production β} (hp : e.Blind (fun _ => e.Awaits) p)
    (hq : e.Blind (fun _ => e.Awaits) (q ())) : e.Blind (fun _ => e.Awaits) (p >>= q) :=
  hp.bind (fun h => h) fun _ => hq

theorem yield (hp : e.Blind guard p) (b : β) : e.Blind guard (p >>= fun _ => Pure.pure b) where
  performs := hp.performs.bind fun _ => .pure b
  ok := by
    intro before s t b' s' h hrun hg
    obtain ⟨a, s₁, hrun₁, hrun₂⟩ := exists_ok_of_bind hrun
    cases hrun₂
    obtain ⟨before', t', hrun₁', h'⟩ := hp.ok h hrun₁ hg
    exact ⟨before', t', bind_eq_of_ok hrun₁' _, h'⟩
  error := by
    intro before s t f s' h hrun hawaits
    have hrun₁ : p s = .error f s' := by
      apply error_of_bind _ hrun
      intro a s₁ hpure
      cases hpure
    obtain ⟨before', t', hrun₁', h'⟩ := hp.error h hrun₁ hawaits
    exact ⟨before', t', bind_eq_of_error hrun₁' _, h'⟩

/--
What is chosen on account of the next token is the same, if nothing is chosen for the new one.
-/
theorem choice {keywords : List String} {p q : Production Unit}
    (hnew : ∀ keyword ∈ keywords, Keyword.accepts score e.new keyword = false)
    (hp : e.Blind (fun _ => e.Awaits) p) (hsome : p.ReadsSome)
    (hq : e.Blind (fun _ => e.Awaits) q) :
    e.Blind (fun _ => e.Awaits) (do if ← sees score keywords then p else q) := by
  let chosen (s : State) : Bool :=
    !s.peek.isEndOfInput && keywords.any (Keyword.accepts score s.peek)
  have hrun (s : State) : (do if ← sees score keywords then p else q : Production Unit) s =
      if chosen s then p s else q s := by
    rw [bind_eq, sees_run]
    dsimp only [chosen]
    split <;> rfl
  -- Only the token itself can be chosen for on one side and not on the other.
  have hsame {before : List Token} {s t : State} (hst : e.Twins before s t) :
      before = [] ∧ chosen s ∨ chosen t = chosen s := by
    cases before with
    | nil =>
      have hnone : chosen t = false := by
        dsimp only [chosen]
        rw [State.peek_eq hst.right, Bool.and_eq_false_iff, List.any_eq_false]
        right
        intro keyword hkeyword
        rw [hnew keyword hkeyword]
        exact Bool.false_ne_true
      cases hs : chosen s with
      | true => exact .inl ⟨rfl, rfl⟩
      | false => exact .inr hnone
    | cons x before =>
      right
      dsimp only [chosen]
      rw [hst.peek_eq]
  refine ⟨performs_sees.bind fun b => .ite hp.performs hq.performs, ?_, ?_⟩
  · intro before s t a s' hst hok hawaits
    rw [hrun] at hok ⊢
    rcases hsame hst with ⟨rfl, hs⟩ | ht
    · rw [if_pos hs] at hok
      have hshorter := hsome s a s' (by simp [hst.left]) hok
      rw [hst.left] at hshorter
      exact absurd hawaits (not_awaits_of_length_le (Nat.le_of_lt_succ hshorter))
    · rw [ht]
      cases hs : chosen s with
      | true =>
        rw [hs] at hok
        exact hp.ok hst hok hawaits
      | false =>
        rw [hs] at hok
        exact hq.ok hst hok hawaits
  · intro before s t f s' hst herror hawaits
    rw [hrun] at herror ⊢
    rcases hsame hst with ⟨rfl, hs⟩ | ht
    · rw [if_pos hs] at herror
      have hmoves := (hp.performs s).unread_suffix
      rw [final, herror, hst.left] at hmoves
      refine absurd hawaits (not_awaits_of_length_le ?_)
      rw [List.length_drop]
      exact Nat.sub_le_of_le_add hmoves.length_le
    · rw [ht]
      cases hs : chosen s with
      | true =>
        rw [hs] at herror
        exact hp.error hst herror hawaits
      | false =>
        rw [hs] at herror
        exact hq.error hst herror hawaits

theorem expect (score : Similarity) (keyword : String) :
    e.Blind (fun _ => e.Awaits) (Production.expect score keyword) :=
  .of_decides performs_expect decides_expect

theorem expectOneOf (score : Similarity) (keywords : List String) :
    e.Blind (fun _ => e.Awaits) (Production.expectOneOf score keywords) :=
  .of_decides performs_expectOneOf decides_expectOneOf

theorem programName : e.Blind (fun _ => e.Awaits) Production.programName :=
  .of_decides performs_programName decides_programName

end Blind

namespace Fits

open Production

variable (h : e.Fits score)
include h

theorem blind_spaces : e.Blind (fun _ => e.Awaits) spaces where
  performs := performs_spaces
  ok := by
    intro before s t a s' hst hrun _
    cases hrun
    exact ⟨_, t.shiftTrivia, rfl, hst.shiftTrivia h.significant⟩
  error := by
    intro _ _ _ _ _ _ hrun
    cases hrun

theorem blind_allow {keyword : String} (hkeyword : keyword ∈ innerWords) :
    e.Blind (fun _ => e.Awaits) (allow score keyword) where
  performs := performs_allow
  ok := by
    intro before s t a s' hst hrun hawaits
    rw [allow_run] at hrun ⊢
    cases before with
    | nil =>
      rw [State.peek_eq hst.right, h.not_accepts_inner hkeyword, Bool.and_false]
      split at hrun
      · -- The token would be read.
        cases hrun
        change e.Awaits (s.unread.drop 1) at hawaits
        rw [hst.left] at hawaits
        exact absurd hawaits (not_awaits_of_length_le (Nat.le_refl _))
      · cases hrun
        exact ⟨[], t, rfl, hst⟩
    | cons x before =>
      rw [hst.peek_eq]
      split at hrun
      · next haccepts =>
        cases hrun
        rw [if_pos haccepts]
        exact ⟨before, _, rfl, hst.takeNext (some (score, keyword))⟩
      · next hrejects =>
        cases hrun
        rw [if_neg hrejects]
        exact ⟨x :: before, t, rfl, hst⟩
  error := fun _ hrun _ => absurd hrun allow_ne_error

theorem blind_qualification : e.Blind (fun _ => e.Awaits) (qualification score) := by
  have hnew {keywords : List String} (hkeywords : ∀ keyword ∈ keywords, keyword ∈ innerWords) :
      ∀ keyword ∈ keywords, Keyword.accepts score e.new keyword = false :=
    fun keyword hkeyword => h.not_accepts_inner (hkeywords keyword hkeyword)
  have hrest : e.Blind (fun _ => e.Awaits) (do
      expectOneOf score qualifiers
      spaces
      allow score "PROGRAM") :=
    (Blind.expectOneOf score _).seq (h.blind_spaces.seq (h.blind_allow (by decide)))
  have hsome : ReadsSome (do
      expectOneOf score qualifiers
      spaces
      allow score "PROGRAM") :=
    readsSome_expectOneOf.bind fun _ => readsOn_spaces.bind fun _ => readsOn_allow
  have hword : ReadsSome (expect score "IS") := decides_expect.readsSome
  apply Blind.choice (hnew (by decide))
  · exact (Blind.expect score _).seq (h.blind_spaces.seq hrest)
  · exact hword.bind fun _ => readsOn_spaces.bind fun _ => readsOn_expectOneOf.bind fun _ =>
      readsOn_spaces.bind fun _ => readsOn_allow
  · exact Blind.choice (hnew (by decide)) hrest hsome (.pure ())

theorem blind_content : e.Blind (e.Clear score) (content score) where
  performs := performs_content
  ok := by
    intro before s t a s' hst hrun hclear
    cases hrun
    have hlength := @contentLength_eq e score s.statementStart before h
      (by rw [← hst.left]; exact hclear)
    have hle : contentLength score s.statementStart s.unread ≤ before.length := by
      have hawaits := hclear.awaits.length_le
      simp only [State.unread_shift, List.length_drop, hst.left, List.length_append,
        List.length_cons]
        at hawaits
      rw [hst.left]
      omega
    rw [← hst.left, ← hst.right, ← hst.statementStart] at hlength
    refine ⟨_, t.shift (contentLength score s.statementStart s.unread), ?_, hst.shift hle⟩
    rw [← hst.statementStart, ← hlength]
    rfl
  error := by
    intro _ _ _ _ _ _ hrun
    cases hrun

theorem blind_identificationHeader : e.Blind (fun _ => e.Awaits) (identificationHeader score) :=
  (Blind.expectOneOf score _).seq <| h.blind_spaces.seq <| (Blind.expect score _).seq <|
    h.blind_spaces.seq <| (Blind.expect score _).seq <| h.blind_spaces.seq <|
    (Blind.expect score _).seq <| (h.blind_allow (by decide)).seq <| h.blind_spaces.seq <|
    Blind.programName

theorem blind_identificationDivision :
    e.Blind (e.Clear score) (identificationDivision score) := by
  apply Blind.inNode
  refine h.blind_identificationHeader.bind Clear.awaits fun name => ?_
  refine h.blind_spaces.bind Clear.awaits fun _ =>
    h.blind_qualification.bind Clear.awaits fun _ => ?_
  refine h.blind_spaces.bind Clear.awaits fun _ =>
    (h.blind_allow (by decide)).bind Clear.awaits fun _ => ?_
  exact h.blind_content.yield name

theorem blind_division (d : Division) : e.Blind (e.Clear score) (division score d) := by
  refine h.blind_spaces.bind Clear.awaits fun _ => .inNode _ ?_
  refine Blind.bind Clear.awaits ?_ fun _ => h.blind_content
  rw [divisionHeader_eq]
  apply (Blind.expect score _).seq
  apply h.blind_spaces.seq
  apply (Blind.expect score _).seq
  unfold divisionPeriod
  split
  · exact h.blind_allow (by decide)
  · exact h.blind_spaces.seq (Blind.expect score _)

theorem blind_endProgramWords : e.Blind (fun _ => e.Awaits) (endProgramWords score) := by
  refine h.blind_spaces.seq
    ((Blind.expect score _).seq (h.blind_spaces.seq ((Blind.expect score _).seq ?_)))
  refine h.blind_spaces.seq (Blind.programName.bind (fun h => h) fun name => ?_)
  exact h.blind_spaces.seq ((Blind.expect score _).seq (.pure name))

theorem blind_endProgram : e.Blind (fun _ => e.Awaits) (endProgram score) where
  performs := performs_endProgram
  ok := by
    intro before s t a s' hst hrun hawaits
    obtain ⟨name, s₁, hwords, hcheck⟩ := exists_ok_of_bind hrun
    cases hcheck
    rw [State.unread, checkTrailer_stream] at hawaits
    obtain ⟨before', t₁, hwords', hst'⟩ := h.blind_endProgramWords.ok hst hwords hawaits
    exact ⟨before', checkTrailer name t₁, bind_eq_of_ok hwords' _, hst'.checkTrailer name⟩
  error := by
    intro before s t f s' hst hrun hawaits
    have hwords := endProgramWords_of_error hrun
    obtain ⟨before', t', hwords', hst'⟩ := h.blind_endProgramWords.error hst hwords hawaits
    exact ⟨before', t', bind_eq_of_error hwords' _, hst'⟩

theorem blind_openUnit : e.Blind (e.Clear score) (openUnit score) where
  performs := performs_openUnit
  ok := by
    intro before s t a s' hst hrun hclear
    rw [openUnit_run] at hrun ⊢
    cases hdivision : identificationDivision score (s.openNode .programUnit) with
    | error f s₁ => simp [hdivision] at hrun
    | ok name s₁ =>
      rw [hdivision] at hrun
      cases hrun
      obtain ⟨before', t₁, hdivision', hst'⟩ :=
        h.blind_identificationDivision.ok (hst.openNode .programUnit) hdivision hclear
      rw [hdivision']
      exact ⟨before', _, rfl, hst'.named name⟩
  error := by
    intro before s t f s' hst hrun hawaits
    rw [openUnit_run] at hrun ⊢
    cases hdivision : identificationDivision score (s.openNode .programUnit) with
    | ok name s₁ => simp [hdivision] at hrun
    | error f s₁ =>
      rw [hdivision] at hrun
      cases hrun
      obtain ⟨before', t₁, hdivision', hst'⟩ :=
        h.blind_identificationDivision.error (hst.openNode .programUnit) hdivision hawaits
      rw [hdivision']
      exact ⟨before', _, rfl, hst'⟩

end Fits

end Respelling

end Parse

end CobolCompanion
