import CobolCompanion.Proofs.CoupledRuns
import CobolCompanion.Proofs.Findings
import CobolCompanion.Proofs.HeaderLookahead
import CobolCompanion.Proofs.RecoveryPoints

namespace CobolCompanion

open Parse

/-- A significant token, or the end of the text, is next. -/
def Parse.State.Settled (s : State) : Prop :=
  s.peek.isTrivia = false

namespace Production

variable {α β : Type} {score : Similarity} {keyword : String} {keywords : List String}
  {entry : State → Prop}

/-- Wherever a production that starts in such a state gives up, a significant token is next. -/
def Settles (entry : State → Prop) (p : Production α) : Prop :=
  ∀ s f s', s.stream.sentinel.isEndOfInput → entry s → p s = .error f s' → s'.Settled

def anywhere (_ : State) : Prop :=
  True

namespace Settles

theorem of_infallible {p : Production α} (h : ∀ s f s', p s ≠ .error f s') :
    Settles entry p := by
  intro s f s' _ _ hrun
  exact absurd hrun (h s f s')

theorem bind {p : Production α} {q : α → Production β} (hperforms : p.Performs)
    (hp : Settles entry p) (hq : ∀ a, Settles anywhere (q a)) : Settles entry (p >>= q) := by
  intro s f s' hs hentry hrun
  rw [bind_eq] at hrun
  cases hrun₁ : p s with
  | error g s₁ =>
    rw [hrun₁] at hrun
    cases hrun
    exact hp s f s' hs hentry hrun₁
  | ok a s₁ =>
    rw [hrun₁] at hrun
    have hsentinel := (hperforms s).sentinel_eq
    rw [final, hrun₁] at hsentinel
    exact hq a s₁ f s' (by rwa [hsentinel]) trivial hrun

theorem behindTrivia {q : Unit → Production β} (hq : Settles State.Settled (q ())) :
    Settles entry (spaces >>= q) := by
  intro s f s' hs _ hrun
  rw [spaces_bind] at hrun
  exact hq s.shiftTrivia f s' hs (s.isTrivia_peek_shiftTrivia hs) hrun

theorem inNode {p : Production α} (kind : NodeKind) (hp : Settles State.Settled p) :
    Settles State.Settled (Production.inNode kind p) := by
  intro s f s' hs hentry hrun
  unfold Production.inNode at hrun
  cases hrun₁ : p (s.openNode kind) with
  | ok a s₁ => simp [hrun₁] at hrun
  | error g s₁ =>
    rw [hrun₁] at hrun
    cases hrun
    exact hp (s.openNode kind) f s₁ hs hentry hrun₁

theorem of_decides {p : Production α} {verdict : Token → Verdict} {value : Token → α}
    (h : Decides p verdict value) : Settles State.Settled p := by
  intro s f s' _ hentry hrun
  rw [h.run] at hrun
  cases hverdict : verdict s.peek with
  | take keyword =>
    rw [hverdict] at hrun
    cases hrun
  | refuse c =>
    rw [hverdict] at hrun
    cases hrun
    exact hentry

theorem choice {p q : Production Unit} (hp : Settles entry p) (hq : Settles entry q) :
    Settles entry (do if ← sees score keywords then p else q) := by
  intro s f s' hs hentry hrun
  rw [bind_eq, sees_run] at hrun
  dsimp only at hrun
  split at hrun
  · exact hp s f s' hs hentry hrun
  · exact hq s f s' hs hentry hrun

end Settles

theorem settles_expect : Settles State.Settled (expect score keyword) :=
  .of_decides decides_expect

theorem settles_expectOneOf : Settles State.Settled (expectOneOf score keywords) :=
  .of_decides decides_expectOneOf

theorem settles_programName : Settles State.Settled programName :=
  .of_decides decides_programName

theorem settles_allow : Settles entry (allow score keyword) :=
  .of_infallible fun _ _ _ => allow_ne_error

theorem settles_content : Settles entry (content score) :=
  .of_infallible fun _ _ _ hrun => by cases hrun

theorem settles_pure (a : α) : Settles entry (pure a : Production α) :=
  .of_infallible fun _ _ _ hrun => by cases hrun

theorem settles_word {q : Production α} (hq : Settles anywhere q) :
    Settles entry (do
      spaces
      expect score keyword
      q) :=
  (settles_expect.bind performs_expect fun _ => hq).behindTrivia

theorem settles_qualification : Settles State.Settled (qualification score) := by
  have hrest : Settles State.Settled (do
      expectOneOf score qualifiers
      spaces
      allow score "PROGRAM") :=
    settles_expectOneOf.bind performs_expectOneOf fun _ => settles_allow.behindTrivia
  apply Settles.choice
  · exact settles_expect.bind performs_expect fun _ => hrest.behindTrivia
  · exact hrest.choice (settles_pure ())

theorem settles_identificationHeader : Settles State.Settled (identificationHeader score) := by
  have hname : Settles anywhere (do
      allow score "."
      spaces
      programName) :=
    settles_allow.bind performs_allow fun _ => settles_programName.behindTrivia
  exact settles_expectOneOf.bind performs_expectOneOf fun _ =>
    settles_word (settles_word (settles_word hname))

theorem settles_identificationDivision :
    Settles State.Settled (identificationDivision score) := by
  apply Settles.inNode
  apply settles_identificationHeader.bind performs_identificationHeader
  intro name
  apply Settles.behindTrivia
  apply settles_qualification.bind performs_qualification
  intro _
  apply Settles.behindTrivia
  apply settles_allow.bind performs_allow
  intro _
  exact settles_content.bind performs_content fun _ => settles_pure name

theorem settles_division (d : Division) : Settles entry (division score d) := by
  have hperiod : Settles anywhere (divisionPeriod score d) := by
    unfold divisionPeriod
    split
    · exact settles_allow
    · exact settles_expect.behindTrivia
  apply Settles.behindTrivia
  apply Settles.inNode
  apply Settles.bind (performs_divisionHeader d)
  · rw [divisionHeader_eq]
    exact settles_expect.bind performs_expect fun _ => settles_word hperiod
  · intro _
    exact settles_content

theorem settles_endProgramWords : Settles entry (endProgramWords score) := by
  have hname (name : Token) : Settles anywhere (do
      spaces
      expect score "."
      pure name) :=
    settles_word (settles_pure name)
  exact settles_word
    (settles_word (settles_programName.bind performs_programName hname).behindTrivia)

end Production

namespace Parse

/-- Between two states findings are added, but no syntax errors among them. -/
def Spares (s s' : State) : Prop :=
  ∃ ds, s'.diagnostics = s.diagnostics ++ ds ∧ ∀ d ∈ ds, d.code ≠ some "syntax-error"

namespace Spares

variable {s s' s'' : State}

theorem of_eq (h : s'.diagnostics = s.diagnostics) : Spares s s' :=
  ⟨[], by rw [h, List.append_nil], by simp⟩

theorem of_report {d : Diagnostic} (h : s'.diagnostics = s.diagnostics ++ [d])
    (hd : d.code ≠ some "syntax-error") : Spares s s' :=
  ⟨[d], h, by simpa using hd⟩

theorem trans (h : Spares s s') (h' : Spares s' s'') : Spares s s'' := by
  obtain ⟨ds, hds, hother⟩ := h
  obtain ⟨es, hes, hother'⟩ := h'
  refine ⟨ds ++ es, by rw [hes, hds, List.append_assoc], ?_⟩
  rw [List.forall_mem_append]
  exact ⟨hother, hother'⟩

theorem mem_iff (h : Spares s s') {d : Diagnostic} (hd : d.code = some "syntax-error") :
    d ∈ s'.diagnostics ↔ d ∈ s.diagnostics := by
  obtain ⟨ds, hds, hother⟩ := h
  rw [hds, List.mem_append, or_iff_left_iff_imp]
  intro hmem
  exact absurd hd (hother d hmem)

theorem of_reads {es : List Element} (h : Reads s es s') : Spares s s' := by
  obtain ⟨ds, hds, hwarned⟩ := h.diagnostics
  refine ⟨ds, hds, ?_⟩
  intro d hd
  obtain ⟨t, -, keyword, rfl⟩ := hwarned.exists_mem hd
  simp [Keyword.misspelling, Diagnostic.warning]

theorem checkTrailer (name : Token) (s : State) :
    Spares s (Production.checkTrailer name s) := by
  unfold Production.checkTrailer
  split
  · exact .of_eq rfl
  · split
    · exact .of_eq rfl
    · exact .of_report rfl (by simp [Production.trailerMismatch, Diagnostic.warning])

theorem closeUnit (s : State) : Spares s (Parse.closeUnit s).state := by
  unfold Parse.closeUnit
  split <;> exact .of_eq rfl

end Spares

theorem Complaint.range_failure (k : Complaint) (t : Token) :
    (k.failure t).range = t.range := by
  cases k <;> rfl

theorem State.Settled.shiftTrivia_eq {s : State} (h : s.Settled) : s.shiftTrivia = s := by
  apply State.shiftTrivia_of_none
  cases hunread : s.unread with
  | nil => rfl
  | cons t rest =>
    unfold Settled at h
    rw [State.peek_eq hunread] at h
    simp [triviaLength, h]

variable {score : Similarity} {c : Configuration} {f : Failure} {s' : State}

/-- A production that gives up raises one syntax error, at the next significant token. -/
structure Raises (c : Configuration) (f : Failure) (s' : State) : Prop where
  last : ∃ s₁, Spares c.state s₁ ∧ s' = s₁.report [f.diagnostic]
  place : f.range = s'.shiftTrivia.peek.range

theorem Raises.of_givesUp {s₁ : State} (hspares : Spares c.state s₁) (hgives : GivesUp s₁ f s')
    (hsettled : s'.Settled) : Raises c f s' := by
  obtain ⟨⟨k, -, rfl⟩, rfl⟩ := hgives
  refine ⟨⟨s₁, hspares, rfl⟩, ?_⟩
  rw [hsettled.shiftTrivia_eq, k.range_failure]
  rfl

theorem Fails.raises (h : Fails score c f s') (hc : Orderly c) : Raises c f s' := by
  have hs := hc.sentinel
  cases h with
  | @opening phase s f s' hfaces hopen =>
    obtain ⟨ts, s₁, hreads, hgives⟩ := exists_givesUp_of_openUnit hopen hs
    have hstart : Spares s (s.shiftTrivia.openNode .programUnit) := .of_eq rfl
    apply Raises.of_givesUp (hstart.trans (.of_reads hreads)) hgives
    have hdivision :
        Production.identificationDivision score (s.shiftTrivia.openNode .programUnit) =
        .error f s' := by
      rw [openUnit_run] at hopen
      cases hrun : Production.identificationDivision score (s.shiftTrivia.openNode .programUnit)
        with
      | ok name s₂ => simp [hrun] at hopen
      | error g s₂ =>
        rw [hrun] at hopen
        cases hopen
        rfl
    exact Production.settles_identificationDivision
      (s.shiftTrivia.openNode .programUnit) f s' hs
      (s.isTrivia_peek_shiftTrivia hs) hdivision
  | @division d ds s f s' hheader hdivision =>
    obtain ⟨gap, ts, s₁, -, hreads, hgives⟩ := exists_givesUp_of_division hdivision hs
    have hsettles : (Production.division score d).Settles Production.anywhere :=
      Production.settles_division d
    exact .of_givesUp (.of_reads hreads) hgives (hsettles s f s' hs trivial hdivision)
  | @header s f s' hunit hheader hrun =>
    obtain ⟨t, rest, hnext⟩ := exists_significant_of_atAnyHeader hheader
    rw [unexpectedHeader_run] at hrun
    cases hrun
    refine ⟨⟨s, .of_eq rfl, rfl⟩, ?_⟩
    have hshift : s.complainOfHeader.shiftTrivia.unread = t :: rest := by
      rw [State.unread_shiftTrivia]
      exact hnext
    rw [State.peek_eq hshift, Complaint.range_failure, State.nextSignificant_eq hnext]
  | @trailer s f s' hend htrailer hown hwords =>
    obtain ⟨ts, s₁, hreads, hgives⟩ := exists_givesUp_of_endProgram hwords hs
    have hsettles : (Production.endProgramWords score).Settles Production.anywhere :=
      Production.settles_endProgramWords
    exact .of_givesUp (.of_reads hreads) hgives
      (hsettles s f s' hs trivial (Production.endProgramWords_of_error hwords))

theorem spares_step (hc : Orderly c) :
    Spares c.state (step score c).state ∨ ∃ f s', Fails score c f s' := by
  have hs := hc.sentinel
  have hadvance := advance_step score c
  generalize Parse.step score c = c' at hadvance
  cases hadvance with
  | finishes hend => exact .inl (.of_eq rfl)
  | @skips s hmore hother =>
    exact .inl (.of_report (d := unknownInput s.shiftTrivia.peek) rfl
      (by simp [unknownInput, Diagnostic.error]))
  | @opens phase s s' hfaces hopen =>
    obtain ⟨ts, name, s₁, hreads, rfl⟩ := exists_reads_of_openUnit hopen hs
    have hstart : Spares s (s.shiftTrivia.openNode .programUnit) := .of_eq rfl
    have hnamed : Spares s₁ (s₁.named name) := .of_eq rfl
    exact .inl ((hstart.trans (.of_reads hreads)).trans hnamed)
  | passes hheader => exact .inl (.of_eq rfl)
  | reads hheader hdivision =>
    obtain ⟨gap, ts, -, hreads⟩ := exists_reads_of_division hdivision hs
    exact .inl (.of_reads hreads)
  | @leaves s hend htrailer => exact .inl (.closeUnit s)
  | @ends s s' hend htrailer hown hwords =>
    obtain ⟨ts, _, _, name, _, s₁, hreads, -, rfl⟩ := exists_reads_of_endProgram hwords hs
    exact .inl (((Spares.of_reads hreads).trans (.checkTrailer name s₁)).trans (.closeUnit _))
  | @fails _ f s' hfails => exact .inr ⟨f, s', hfails⟩

theorem mem_diagnostics_step_iff (hc : Orderly c) {d : Diagnostic}
    (hd : d.code = some "syntax-error") :
    d ∈ (step score c).state.diagnostics ↔
      d ∈ c.state.diagnostics ∨ ∃ f s', Fails score c f s' ∧ d = f.diagnostic := by
  have hfailed {f : Failure} {s' : State} (h : Fails score c f s') :
      d ∈ (step score c).state.diagnostics ↔ d ∈ c.state.diagnostics ∨ d = f.diagnostic := by
    obtain ⟨s₁, hspares, rfl⟩ := (h.raises hc).last
    rw [h.step_eq, ← hspares.mem_iff hd]
    change d ∈ s₁.diagnostics ++ [f.diagnostic] ↔ _
    rw [List.mem_append, List.mem_singleton]
  constructor
  · intro hmem
    rcases @spares_step score c hc with hspares | ⟨f, s', h⟩
    · exact .inl ((hspares.mem_iff hd).1 hmem)
    · exact ((hfailed h).1 hmem).imp_right fun heq => ⟨f, s', h, heq⟩
  · rintro (hmem | ⟨f, s', h, rfl⟩)
    · rcases @spares_step score c hc with hspares | ⟨f, s', h⟩
      · exact (hspares.mem_iff hd).2 hmem
      · exact (hfailed h).2 (.inl hmem)
    · exact (hfailed h).2 (.inr rfl)

theorem mem_diagnostics_iterate_iff (hc : Orderly c) {d : Diagnostic}
    (hd : d.code = some "syntax-error") (n : Nat) :
    d ∈ ((step score)^[n] c).state.diagnostics ↔ d ∈ c.state.diagnostics ∨
      ∃ i < n, ∃ f s', Fails score ((step score)^[i] c) f s' ∧ d = f.diagnostic := by
  induction n with
  | zero => simp
  | succ n ih =>
    rw [Function.iterate_succ_apply', mem_diagnostics_step_iff (hc.iterate n) hd, ih, or_assoc]
    simp only [Nat.lt_succ_iff_lt_or_eq, or_and_right, exists_or, exists_eq_left]

end Parse

/-- The syntax errors of a parse are those of the productions that give up in its course. -/
theorem mem_diagnostics_parseStream_iff (score : Similarity) (tokens : List Token)
    (position : Position) (offset : Nat) {d : Diagnostic} (hd : d.code = some "syntax-error") :
    d ∈ (parseStream score (.ofTokens tokens (.endOfInput position offset))).diagnostics ↔
      ∃ n f s', Fails score ((step score)^[n]
        ⟨.sourceUnit, .initial (.ofTokens tokens (.endOfInput position offset))⟩) f s' ∧
        d = f.diagnostic := by
  let c : Configuration :=
    ⟨.sourceUnit, .initial (.ofTokens tokens (.endOfInput position offset))⟩
  have hc : Orderly c := .initial tokens position offset
  change d ∈ (run score c).diagnostics ↔ ∃ n f s', Fails score ((step score)^[n] c) f s' ∧ _
  constructor
  · intro hmem
    obtain ⟨n, -, hrun⟩ := @exists_iterate_isFinal score c
    rw [← hrun, mem_diagnostics_iterate_iff hc hd] at hmem
    obtain ⟨i, -, hfails⟩ := hmem.resolve_left (by simp [c, State.initial])
    exact ⟨i, hfails⟩
  · rintro ⟨i, f, s', hfails, heq⟩
    obtain ⟨n, -, hrun⟩ := @exists_iterate_isFinal score ((step score)^[i + 1] c)
    rw [run_iterate, ← Function.iterate_add_apply] at hrun
    rw [← hrun, mem_diagnostics_iterate_iff hc hd]
    exact .inr ⟨i, by omega, f, s', hfails, heq⟩

end CobolCompanion
