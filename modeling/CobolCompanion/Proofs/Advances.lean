import CobolCompanion.Proofs.Exhaustion
import CobolCompanion.Proofs.Stretches
import CobolCompanion.Proofs.TreeNodes

namespace CobolCompanion

open Parse

namespace Parse

/-- Notes the name of the unit whose identification division was read. -/
def State.named (s : State) (name : Token) : State :=
  { s with
    openNames := upper (programNameOf name) :: s.openNames
    context := s.context.modify ({ · with name := some (programNameOf name) }) }

theorem openUnit_run (score : Similarity) (s : State) :
    openUnit score s =
      match Production.identificationDivision score (s.openNode .programUnit) with
      | .ok name s' => .ok () (s'.named name)
      | .error f s' => .error f s' := by
  have hrun : openUnit score s =
      (Production.identificationDivision score >>= fun name => modify (State.named · name))
        (s.openNode .programUnit) := rfl
  rw [hrun, Production.bind_eq]
  cases Production.identificationDivision score (s.openNode .programUnit) <;> rfl

section
variable {score : Similarity} {s s' : State} {f : Failure}

/-- A unit that is opened has its identification division, which names it. -/
theorem exists_reads_of_openUnit (h : openUnit score s = .ok () s')
    (hs : s.stream.sentinel.isEndOfInput) :
    ∃ (ts : List Token) (name : Token) (s₁ : State),
      Reads (s.openNode .programUnit)
        [.node { kind := .identificationDivision } (ts.map .token)] s₁ ∧
        s' = s₁.named name := by
  have hreads := @Production.encloses_identificationDivision score (s.openNode .programUnit) hs
  rw [openUnit_run] at h
  cases hrun : Production.identificationDivision score (s.openNode .programUnit) with
  | ok name s₁ =>
    rw [hrun] at h hreads
    obtain ⟨ts, hreads⟩ := hreads
    cases h
    exact ⟨ts, name, s₁, hreads, rfl⟩
  | error e s₁ => simp [hrun] at h

theorem exists_givesUp_of_openUnit (h : openUnit score s = .error f s')
    (hs : s.stream.sentinel.isEndOfInput) :
    ∃ (ts : List Token) (s₁ : State),
      Reads (s.openNode .programUnit)
        [.node { kind := .identificationDivision } (ts.map .token)] s₁ ∧
        GivesUp s₁ f s' := by
  have hreads := @Production.encloses_identificationDivision score (s.openNode .programUnit) hs
  rw [openUnit_run] at h
  cases hrun : Production.identificationDivision score (s.openNode .programUnit) with
  | ok name s₁ => simp [hrun] at h
  | error e s₁ =>
    rw [hrun] at h hreads
    cases h
    exact hreads

/-- A division stands in a node, behind the trivia before it. -/
theorem exists_reads_of_division {d : Division} (h : Production.division score d s = .ok () s')
    (hs : s.stream.sentinel.isEndOfInput) :
    ∃ gap ts : List Token, (∀ t ∈ gap, t.isTrivia) ∧
      Reads s (gap.map .token ++ [.node { kind := d.kind } (ts.map .token)]) s' := by
  obtain ⟨gap, hgap, hspaces⟩ := s.exists_reads_shiftTrivia
  have hreads := @Production.encloses_division score d s.shiftTrivia hs
  rw [Production.division, Production.spaces_bind] at h
  rw [h] at hreads
  obtain ⟨ts, hreads⟩ := hreads
  exact ⟨gap, ts, hgap, hspaces.trans hreads⟩

theorem exists_givesUp_of_division {d : Division}
    (h : Production.division score d s = .error f s') (hs : s.stream.sentinel.isEndOfInput) :
    ∃ (gap ts : List Token) (s₁ : State), (∀ t ∈ gap, t.isTrivia) ∧
      Reads s (gap.map .token ++ [.node { kind := d.kind } (ts.map .token)]) s₁ ∧
        GivesUp s₁ f s' := by
  obtain ⟨gap, hgap, hspaces⟩ := s.exists_reads_shiftTrivia
  have hreads := @Production.encloses_division score d s.shiftTrivia hs
  rw [Production.division, Production.spaces_bind] at h
  rw [h] at hreads
  obtain ⟨ts, s₁, hreads, hgives⟩ := hreads
  exact ⟨gap, ts, s₁, hgap, hspaces.trans hreads, hgives⟩

/-- A trailer is read into the unit that it ends, and then compared with its name. -/
theorem exists_reads_of_endProgram (h : Production.endProgram score s = .ok () s')
    (hs : s.stream.sentinel.isEndOfInput) :
    ∃ (ts : List Token) (ending program name period : Token) (s₁ : State),
      Reads s (ts.map .token) s₁ ∧ significantTokens ts = [ending, program, name, period] ∧
        s' = Production.checkTrailer name s₁ := by
  obtain ⟨name, s₁, hwords, h⟩ := Production.exists_ok_of_bind h
  obtain ⟨ts, ending, program, period, hreads, hts, -⟩ :=
    Production.exists_reads_of_endProgramWords hs hwords
  cases h
  exact ⟨ts, ending, program, name, period, s₁, hreads, hts, rfl⟩

theorem exists_givesUp_of_endProgram (h : Production.endProgram score s = .error f s')
    (hs : s.stream.sentinel.isEndOfInput) :
    ∃ (ts : List Token) (s₁ : State), Reads s (ts.map .token) s₁ ∧ GivesUp s₁ f s' := by
  have hreads := @Production.shifts_endProgramWords score s hs
  rw [Production.endProgramWords_of_error h] at hreads
  exact hreads

end

section
variable (score : Similarity)

/-- A program unit is next, past the trivia that stand before it. -/
def FacesUnit : Phase → State → Prop
  | .sourceUnit, s =>
    s.shiftTrivia.unread ≠ [] ∧ s.shiftTrivia.peek.isEndOfInput = false ∧
      identificationOpeners.any (Keyword.accepts score s.shiftTrivia.peek)
  | .programUnit [], s => atIdentificationHeader score s.unread
  | .programUnit (_ :: _), _ => False

/-- A unit has all its divisions and nested units: no header of a division is next. -/
structure FacesEnd (s : State) : Prop where
  noUnit : atIdentificationHeader score s.unread = false
  noHeader : atAnyHeader score s.statementStart s.unread = false

/-- A production that the machine has started gives up. -/
inductive Fails : Configuration → Failure → State → Prop where
  | opening {phase : Phase} {s : State} {f : Failure} {s' : State}
    (hfaces : FacesUnit score phase s)
      (h : openUnit score s.shiftTrivia = .error f s') : Fails ⟨phase, s⟩ f s'
  | division {d : Division} {ds : List Division} {s : State} {f : Failure} {s' : State}
      (hheader : atDivisionHeader score d s.unread)
      (h : Production.division score d s = .error f s') : Fails ⟨.programUnit (d :: ds), s⟩ f s'
  | header {s : State} {f : Failure} {s' : State}
      (hunit : atIdentificationHeader score s.unread = false)
      (hheader : atAnyHeader score s.statementStart s.unread)
      (h : unexpectedHeader s = .error f s') : Fails ⟨.programUnit [], s⟩ f s'
  | trailer {s : State} {f : Failure} {s' : State} (hend : FacesEnd score s)
      (htrailer : atEndProgram score s.unread) (hown : s.trailerClosesEnclosing = false)
      (h : Production.endProgram score s = .error f s') : Fails ⟨.programUnit [], s⟩ f s'

/-- One step of the machine. -/
inductive Advance : Configuration → Configuration → Prop where
  /-- Nothing is left but trivia. -/
  | finishes {s : State} (h : s.shiftTrivia.unread = []) :
      Advance ⟨.sourceUnit, s⟩ ⟨.sourceUnit, s.shiftTrivia⟩
  /-- A token that begins no unit is skipped. -/
  | skips {s : State} (hmore : s.shiftTrivia.unread ≠ [])
    (hother : ¬FacesUnit score .sourceUnit s) :
      Advance ⟨.sourceUnit, s⟩
        ⟨.sourceUnit,
          ((s.shiftTrivia.report [unknownInput s.shiftTrivia.peek]).skip 1).shiftTrivia⟩
  /-- A unit is opened. -/
  | opens {phase : Phase} {s s' : State} (hfaces : FacesUnit score phase s)
      (h : openUnit score s.shiftTrivia = .ok () s') :
      Advance ⟨phase, s⟩ ⟨.programUnit Division.all, s'⟩
  /-- A division is not there. -/
  | passes {d : Division} {ds : List Division} {s : State}
      (hheader : atDivisionHeader score d s.unread = false) :
      Advance ⟨.programUnit (d :: ds), s⟩ ⟨.programUnit ds, s⟩
  /-- A division is read. -/
  | reads {d : Division} {ds : List Division} {s s' : State}
      (hheader : atDivisionHeader score d s.unread)
      (h : Production.division score d s = .ok () s') :
      Advance ⟨.programUnit (d :: ds), s⟩ ⟨.programUnit ds, s'⟩
  /-- A unit ends without a trailer of its own. -/
  | leaves {s : State} (hend : FacesEnd score s)
      (htrailer : atEndProgram score s.unread → s.trailerClosesEnclosing) :
      Advance ⟨.programUnit [], s⟩ (closeUnit s)
  /-- A unit ends with its trailer. -/
  | ends {s s' : State} (hend : FacesEnd score s) (htrailer : atEndProgram score s.unread)
      (hown : s.trailerClosesEnclosing = false)
        (h : Production.endProgram score s = .ok () s') :
      Advance ⟨.programUnit [], s⟩ (closeUnit s')
  /-- A production gives up, and the machine recovers. -/
  | fails {c : Configuration} {f : Failure} {s' : State} (h : Fails score c f s') :
      Advance c ⟨.sourceUnit, s'.recover⟩

end

variable {score : Similarity}

theorem advance_after {p : Production Unit} {phase phase' : Phase} {s r : State}
    (hok : ∀ s', p r = .ok () s' → Advance score ⟨phase, s⟩ ⟨phase', s'⟩)
    (herror : ∀ f s', p r = .error f s' → Fails score ⟨phase, s⟩ f s') :
    Advance score ⟨phase, s⟩ (.after p phase' r) := by
  unfold Configuration.after
  cases hrun : p r with
  | ok a s' => exact hok s' hrun
  | error f s' => exact .fails (herror f s' hrun)

theorem advance_sourceUnitStep (s : State) :
    Advance score ⟨.sourceUnit, s⟩ (sourceUnitStep score s) := by
  unfold sourceUnitStep
  dsimp only
  split
  · next hempty => exact .finishes (List.isEmpty_iff.1 hempty)
  · next hmore =>
    have hmore' := mt List.isEmpty_iff.2 hmore
    split
    · next hopener =>
      simp only [Bool.and_eq_true, Bool.not_eq_true'] at hopener
      have hfaces : FacesUnit score .sourceUnit s := ⟨hmore', hopener.1, hopener.2⟩
      exact advance_after (fun _ => .opens hfaces) fun _ _ => .opening hfaces
    · next hopener =>
      refine .skips hmore' fun hfaces => hopener ?_
      simp only [Bool.and_eq_true, Bool.not_eq_true']
      exact hfaces.2

theorem advance_programUnitStep (s : State) :
    Advance score ⟨.programUnit [], s⟩ (programUnitStep score s) := by
  unfold programUnitStep
  split
  · next hunit => exact advance_after (fun _ => .opens hunit) fun _ _ => .opening hunit
  · next hunit =>
    have hunit' := Bool.eq_false_iff.2 hunit
    split
    · next hheader =>
      exact advance_after (fun _ h => nomatch h) fun _ _ => .header hunit' hheader
    · next hheader =>
      have hend : FacesEnd score s := ⟨hunit', Bool.eq_false_iff.2 hheader⟩
      split
      · next htrailer =>
        simp only [Bool.and_eq_true, Bool.not_eq_true'] at htrailer
        split
        · next hrun => exact .ends hend htrailer.1 htrailer.2 hrun
        · next hrun => exact .fails (.trailer hend htrailer.1 htrailer.2 hrun)
      · next htrailer =>
        refine .leaves hend fun hahead => ?_
        simpa [hahead] using htrailer

/-- Every step of the machine is one of the list. -/
theorem advance_step (score : Similarity) (c : Configuration) :
    Advance score c (step score c) := by
  obtain ⟨phase, s⟩ := c
  match phase with
  | .sourceUnit => exact advance_sourceUnitStep s
  | .programUnit [] => exact advance_programUnitStep s
  | .programUnit (d :: ds) =>
    simp only [step]
    split
    · next hheader => exact advance_after (fun _ => .reads hheader) fun _ _ => .division hheader
    · next hheader => exact .passes (Bool.eq_false_iff.2 hheader)

/-- What every step keeps holds where the machine stops. -/
theorem run_preserves {P : Configuration → Prop} (hstep : ∀ c, P c → P (step score c))
    {c : Configuration} (h : P c) : P ⟨.sourceUnit, run score c⟩ := by
  fun_induction run score c with
  | case1 c hfinal => rwa [← (Configuration.isFinal_iff.1 hfinal).1]
  | case2 c _ ih => exact ih (hstep c h)

theorem State.shiftTrivia_of_none {s : State} (h : triviaLength s.unread = 0) :
    s.shiftTrivia = s := by
  have hcontext : s.context.modify (·.pushTokens []) = s.context := s.context.modify_pushAll_nil
  rw [shiftTrivia, h]
  change { s with context := s.context.modify (·.pushTokens []) } = s
  rw [hcontext]

theorem State.shiftTrivia_of_exhausted {s : State} (h : s.unread = []) : s.shiftTrivia = s :=
  shiftTrivia_of_none (by simp [h, triviaLength])

theorem step_of_exhausted {s : State} (h : s.unread = []) :
    step score ⟨.sourceUnit, s⟩ = ⟨.sourceUnit, s⟩ := by
  have hshift := State.shiftTrivia_of_exhausted h
  simp [step, sourceUnitStep, hshift, h]

theorem run_of_isFinal {c : Configuration} (h : c.isFinal) : run score c = c.state := by
  rw [run.eq_def, if_pos h]

theorem step_of_isFinal {c : Configuration} (h : c.isFinal) : step score c = c := by
  obtain ⟨phase, s⟩ := c
  obtain ⟨rfl, hend⟩ := Configuration.isFinal_iff.1 h
  exact step_of_exhausted hend

theorem run_step (c : Configuration) : run score (step score c) = run score c := by
  cases hfinal : c.isFinal with
  | true => rw [step_of_isFinal hfinal]
  | false => rw [run.eq_def score c, if_neg (by simp [hfinal])]

theorem run_iterate (n : Nat) (c : Configuration) :
    run score ((step score)^[n] c) = run score c := by
  induction n generalizing c with
  | zero => rfl
  | succ n ih => rw [Function.iterate_succ_apply, ih, run_step]

theorem exists_iterate_isFinal_both (score : Similarity) (c d : Configuration) :
    ∃ n, ((step score)^[n] c).isFinal ∧ ((step score)^[n] d).isFinal := by
  have hstays (c : Configuration) (hc : c.isFinal) (n : Nat) :
      ((step score)^[n] c).isFinal := by
    rwa [Function.iterate_fixed (step_of_isFinal hc)]
  obtain ⟨m, hm, -⟩ := @exists_iterate_isFinal score c
  obtain ⟨n, hn, -⟩ := @exists_iterate_isFinal score d
  refine ⟨n + m, ?_, ?_⟩
  · rw [Function.iterate_add_apply]
    exact hstays _ hm n
  · rw [Nat.add_comm, Function.iterate_add_apply]
    exact hstays _ hn m

/-- Where a program unit is next, a step of the machine is to open it. -/
theorem step_of_facesUnit {phase : Phase} {s : State} (h : FacesUnit score phase s) :
    step score ⟨phase, s⟩ =
      .after (openUnit score) (.programUnit Division.all) s.shiftTrivia := by
  match phase with
  | .sourceUnit =>
    obtain ⟨hmore, hpeek, hopener⟩ := h
    simp [step, sourceUnitStep, hmore, hpeek, hopener]
  | .programUnit [] => exact if_pos h
  | .programUnit (_ :: _) => exact h.elim

end Parse

theorem root_parseStream_of_isFinal (score : Similarity) (stream : TokenStream) (n : Nat)
    (h : ((step score)^[n] ⟨.sourceUnit, .initial stream⟩).isFinal) :
    (parseStream score stream).root =
      ((step score)^[n] ⟨.sourceUnit, .initial stream⟩).state.context.finish := by
  change (run score ⟨.sourceUnit, .initial stream⟩).context.finish = _
  rw [← run_iterate n, run_of_isFinal h]

end CobolCompanion
