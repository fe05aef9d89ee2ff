import CobolCompanion.Proofs.Coupling

namespace CobolCompanion

open Parse

namespace Parse

namespace Coupling.Sound

variable {r : Coupling} {score : Similarity} (hr : r.Sound score) {s t s' : State}
include hr

theorem follows_opens (hst : r.loose s t) (hunit : atIdentificationHeader score s.unread)
    (hrun : openUnit score s.shiftTrivia = .ok () s') (hu : r.ample s'.unread) :
    ∃ t', step score ⟨.programUnit [], t⟩ = ⟨.programUnit Division.all, t'⟩ ∧
      r.loose s' t' := by
  have hspaces : r.ample s.shiftTrivia.unread := by
    have hsuffix := (@performs_openUnit score s.shiftTrivia).unread_suffix
    rw [Production.final, hrun] at hsuffix
    exact hr.ample.of_suffix hu hsuffix
  have hst₁ := (hr.settle hst (hr.live_of_ample' hspaces)).2
  obtain ⟨_, t', hrun', -, hst'⟩ := hr.mirrors_openUnit.ok (hr.openNode _ hst₁) hrun hu
  have hahead := hr.ahead hst (hr.ample.of_suffix hspaces (moves_shiftTrivia s).unread_suffix)
  rw [hahead.identification] at hunit
  refine ⟨t', ?_, hst'⟩
  have hfaces : FacesUnit score (.programUnit []) t := hunit
  rw [step_of_facesUnit hfaces, Configuration.after, hrun']

theorem follows_passes {d : Division} {ds : List Division} (hst : r.loose s t)
    (hheader : atDivisionHeader score d s.unread = false) (hu : r.ample s.unread) :
    step score ⟨.programUnit (d :: ds), t⟩ = ⟨.programUnit ds, t⟩ := by
  rw [(hr.ahead hst hu).division] at hheader
  simp [step, hheader]

theorem follows_reads {d : Division} (ds : List Division) (hst : r.loose s t)
    (hheader : atDivisionHeader score d s.unread)
    (hrun : Production.division score d s = .ok () s') (hu : r.ample s'.unread) :
    ∃ t', step score ⟨.programUnit (d :: ds), t⟩ = ⟨.programUnit ds, t'⟩ ∧ r.loose s' t' := by
  have hs : r.ample s.unread := by
    have hsuffix := (@Production.performs_division score d s).unread_suffix
    rw [Production.final, hrun] at hsuffix
    exact hr.ample.of_suffix hu hsuffix
  obtain ⟨_, t', hrun', -, hst'⟩ := (hr.mirrors_division d).ok hst hrun hu
  rw [(hr.ahead hst hs).division] at hheader
  refine ⟨t', ?_, hst'⟩
  simp only [step, hheader, if_true, Configuration.after, hrun']

theorem facesEnd (hst : r.loose s t) (hu : r.ample s.unread) (hend : FacesEnd score s) :
    FacesEnd score t := by
  have hahead := hr.ahead hst hu
  exact ⟨hahead.identification ▸ hend.noUnit, hahead.header ▸ hend.noHeader⟩

theorem follows_leaves (hst : r.loose s t) (hend : FacesEnd score s) (hu : r.ample s.unread)
    (htrailer : atEndProgram score s.unread → t.trailerClosesEnclosing) :
    step score ⟨.programUnit [], t⟩ = closeUnit t := by
  have hend' := hr.facesEnd hst hu hend
  rw [(hr.ahead hst hu).trailer] at htrailer
  have hnone : (atEndProgram score t.unread && !t.trailerClosesEnclosing) = false := by
    cases h : atEndProgram score t.unread with
    | false => rfl
    | true => simp [htrailer h]
  simp [step, programUnitStep, hend'.noUnit, hend'.noHeader, hnone]

theorem follows_ends (hst : r.loose s t) (hend : FacesEnd score s) (hu : r.ample s.unread)
    (htrailer : atEndProgram score s.unread) (hown : t.trailerClosesEnclosing = false)
    (hrun : Production.endProgram score s = .ok () s') (hlive : r.live s'.unread)
    (hopen : t.openNames ≠ []) (hsentinel : t.stream.sentinel.isEndOfInput) :
    ∃ t', Production.endProgram score t = .ok () t' ∧
      step score ⟨.programUnit [], t⟩ = closeUnit t' ∧ r.loose s' t' := by
  have hend' := hr.facesEnd hst hu hend
  obtain ⟨_, t', hrun', -, hst'⟩ := hr.mirrors_endProgram.ok ⟨hst, hopen, hsentinel⟩ hrun hlive
  rw [(hr.ahead hst hu).trailer] at htrailer
  refine ⟨t', hrun', ?_, hst'⟩
  simp [step, programUnitStep, hend'.noUnit, hend'.noHeader, htrailer, hown, hrun']

end Coupling.Sound

/-- The state after the complaint about a header at a place where it cannot stand. -/
def State.complainOfHeader (s : State) : State :=
  s.report [((Complaint.alternatives (expectedOpeners s.context.current)).failure
    s.nextSignificant).diagnostic]

theorem unexpectedHeader_run (s : State) :
    unexpectedHeader s =
      .error ((Complaint.alternatives (expectedOpeners s.context.current)).failure
      s.nextSignificant) s.complainOfHeader :=
  rfl

/-- What a coupling has to keep outside units, too, so that the machine keeps it. -/
structure Coupling.Outer (r : Coupling) (score : Similarity) (between : State → State → Prop) :
    Prop where
  tolerant : r.tolerant
  settle : ∀ {s t}, between s t → between s.shiftTrivia t.shiftTrivia
  ended : ∀ {s t}, between s t → (s.shiftTrivia.unread = [] ↔ t.shiftTrivia.unread = [])
  peek : ∀ {s t}, between s t → r.pair s.shiftTrivia.peek t.shiftTrivia.peek
  enter : ∀ {s t}, between s t →
    r.fresh (s.shiftTrivia.openNode .programUnit) (t.shiftTrivia.openNode .programUnit)
  skip : ∀ {s t}, between s t → s.shiftTrivia.unread ≠ [] →
    between ((s.shiftTrivia.report [unknownInput s.shiftTrivia.peek]).skip 1)
      ((t.shiftTrivia.report [unknownInput t.shiftTrivia.peek]).skip 1)
  names : ∀ {s t}, r.loose s t → s.trailerClosesEnclosing = t.trailerClosesEnclosing
  header : ∀ {s t}, r.loose s t → atAnyHeader score s.statementStart s.unread →
    r.failed s.complainOfHeader t.complainOfHeader
  recover : ∀ {s t}, r.failed s t → s.context.Founded → t.context.Founded →
    between s.recover t.recover
  depth : ∀ {s t}, r.loose s t → s.context.frames.length = t.context.frames.length
  leaveNested : ∀ {s t}, r.loose s t → 1 < s.context.frames.length →
    r.loose s.leaveUnit t.leaveUnit
  leaveLast : ∀ {s t f}, r.loose s t → s.context.frames = [f] → f.node.kind = .programUnit →
    s.openNames.length = 1 → between s.leaveUnit t.leaveUnit

/-- Configurations that correspond. -/
inductive Coupling.Related (r : Coupling) (between : State → State → Prop) :
    Configuration → Configuration → Prop where
  | outside {s t : State} (h : between s t) :
    Related r between ⟨.sourceUnit, s⟩ ⟨.sourceUnit, t⟩
  | inside (ds : List Division) {s t : State} (h : r.loose s t) :
      Related r between ⟨.programUnit ds, s⟩ ⟨.programUnit ds, t⟩

namespace Coupling

variable {r : Coupling} {score : Similarity} {between : State → State → Prop}

theorem Outer.related_closeUnit (ho : r.Outer score between) {s t : State} {f : Frame}
    {fs : List Frame} (hst : r.loose s t) (hframes : s.context.frames = f :: fs)
    (hkind : f.node.kind = .programUnit)
    (hnames : s.openNames.length = s.context.frames.length) :
    r.Related between (closeUnit s) (closeUnit t) := by
  have hlength (s : State) : s.leaveUnit.context.frames.length = s.context.frames.length - 1 :=
    s.context.frames_length_close
  have hdepth := ho.depth hst
  cases fs with
  | nil =>
    have hone : s.context.frames.length = 1 := by simp [hframes]
    rw [closeUnit_of_outermost (List.length_eq_zero_iff.1 (by rw [hlength, hone])),
      closeUnit_of_outermost (List.length_eq_zero_iff.1 (by rw [hlength, ← hdepth, hone]))]
    exact .outside (ho.settle (ho.leaveLast hst hframes hkind (hnames.trans hone)))
  | cons g gs =>
    have hmany : 1 < s.context.frames.length := by simp [hframes]
    rw [closeUnit_of_nested (List.length_pos_iff.1 (by rw [hlength]; omega)),
      closeUnit_of_nested (List.length_pos_iff.1 (by rw [hlength]; omega))]
    exact .inside [] (ho.leaveNested hst hmany)

theorem Outer.follows_finishes (ho : r.Outer score between) {s t : State} (hst : between s t)
    (hend : s.shiftTrivia.unread = []) :
    Parse.step score ⟨.sourceUnit, t⟩ = ⟨.sourceUnit, t.shiftTrivia⟩ := by
  have hend' := (ho.ended hst).1 hend
  simp [Parse.step, sourceUnitStep, hend']

theorem Outer.follows_skips (ho : r.Outer score between) (hr : r.Sound score) {s t : State}
    (hst : between s t) (hmore : s.shiftTrivia.unread ≠ [])
    (hother : ¬FacesUnit score .sourceUnit s) :
    Parse.step score ⟨.sourceUnit, t⟩ = ⟨.sourceUnit,
      ((t.shiftTrivia.report [unknownInput t.shiftTrivia.peek]).skip 1).shiftTrivia⟩ := by
  have hmore' := mt (ho.ended hst).2 hmore
  have halike := hr.alike (ho.peek hst)
  have hother' : ¬(t.shiftTrivia.peek.isEndOfInput = false ∧
      identificationOpeners.any (Keyword.accepts score t.shiftTrivia.peek)) := by
    rw [← halike.isEndOfInput_eq, ← halike.any_accepts_eq]
    exact fun hopener => hother ⟨hmore, hopener⟩
  simp only [Parse.step, sourceUnitStep, Bool.and_eq_true, Bool.not_eq_true']
  rw [if_neg (by simpa using hmore'), if_neg hother']

theorem Outer.follows_faces (ho : r.Outer score between) (hr : r.Sound score) {phase : Phase}
    {s : State} {d : Configuration} (h : r.Related between ⟨phase, s⟩ d)
    (hfaces : FacesUnit score phase s) :
    ∃ t, d = ⟨phase, t⟩ ∧ FacesUnit score phase t ∧
      r.fresh (s.shiftTrivia.openNode .programUnit) (t.shiftTrivia.openNode .programUnit) := by
  cases h with
  | @outside _ t hst =>
    obtain ⟨hmore, hpeek, hopener⟩ := hfaces
    have halike := hr.alike (ho.peek hst)
    rw [halike.isEndOfInput_eq] at hpeek
    rw [halike.any_accepts_eq] at hopener
    exact ⟨t, rfl, ⟨mt (ho.ended hst).2 hmore, hpeek, hopener⟩, ho.enter hst⟩
  | @inside ds _ t hst =>
    cases ds with
    | cons d ds => exact hfaces.elim
    | nil =>
      have hahead := hr.ahead hst (hr.ample.of_tolerant ho.tolerant _)
      have hst₁ := (hr.settle hst (hr.live.of_tolerant ho.tolerant _)).2
      exact ⟨t, rfl, hahead.identification.symm.trans hfaces, hr.openNode _ hst₁⟩

theorem Outer.follows_fails (ho : r.Outer score between) (hr : r.Sound score)
    {c d : Configuration} {f : Failure} {s' : State} (h : r.Related between c d)
    (hc : Orderly c) (hd : Orderly d) (hfails : Fails score c f s') :
    r.Related between ⟨.sourceUnit, s'.recover⟩ (step score d) := by
  have hample (u : List Token) : r.ample u := hr.ample.of_tolerant ho.tolerant u
  have hlive (u : List Token) : r.live u := hr.live.of_tolerant ho.tolerant u
  have hrecover {t' : State} {g : Failure} (hfailed : r.failed s' t')
      (hfails' : Fails score d g t')
      (hstep : step score d = ⟨.sourceUnit, t'.recover⟩) :
      r.Related between ⟨.sourceUnit, s'.recover⟩ (step score d) := by
    rw [hstep]
    exact .outside (ho.recover hfailed (hfails.founded hc) (hfails'.founded hd))
  cases hfails with
  | @opening phase s f s' hfaces hopen =>
    obtain ⟨t, rfl, hfaces', hst⟩ := ho.follows_faces hr h hfaces
    obtain ⟨g, t', hopen', hfailed⟩ := hr.mirrors_openUnit.error hst hopen ho.tolerant
    refine hrecover hfailed (.opening hfaces' hopen') ?_
    rw [step_of_facesUnit hfaces', Configuration.after, hopen']
  | @division d ds s f s' hheader hdivision =>
    cases h with
    | @inside _ _ t hst =>
      obtain ⟨g, t', hdivision', hfailed⟩ :=
        (hr.mirrors_division d).error hst hdivision ho.tolerant
      rw [(hr.ahead hst (hample _)).division] at hheader
      refine hrecover hfailed (.division hheader hdivision') ?_
      simp only [step, hheader, if_true, Configuration.after, hdivision']
  | @header s f s' hunit hheader hrun =>
    cases h with
    | @inside _ _ t hst =>
      have hfailed := ho.header hst hheader
      have hahead := hr.ahead hst (hample _)
      rw [unexpectedHeader_run] at hrun
      cases hrun
      rw [hahead.identification] at hunit
      rw [hahead.header] at hheader
      refine hrecover hfailed (.header hunit hheader (unexpectedHeader_run t)) ?_
      simp [step, programUnitStep, hunit, hheader, Configuration.after, unexpectedHeader_run]
  | @trailer s f s' hend htrailer hown hwords =>
    cases h with
    | @inside _ _ t hst =>
      obtain ⟨g, t', hwords', hfailed⟩ := hr.mirrors_endProgram.error
        ⟨hst, hd.openNames_ne_nil, hd.sentinel⟩ hwords ho.tolerant
      have hend' := hr.facesEnd hst (hample _) hend
      rw [(hr.ahead hst (hample _)).trailer] at htrailer
      rw [ho.names hst] at hown
      refine hrecover hfailed (.trailer hend' htrailer hown hwords') ?_
      simp [step, programUnitStep, hend'.noUnit, hend'.noHeader, htrailer, hown, hwords']

/-- A step on one side is followed by a step on the other. -/
theorem Related.step (hr : r.Sound score) (ho : r.Outer score between) {c d : Configuration}
    (h : r.Related between c d) (hc : Orderly c) (hd : Orderly d) :
    r.Related between (step score c) (step score d) := by
  have hample (u : List Token) : r.ample u := hr.ample.of_tolerant ho.tolerant u
  have hlive (u : List Token) : r.live u := hr.live.of_tolerant ho.tolerant u
  have hadvance := advance_step score c
  generalize Parse.step score c = c' at hadvance
  cases hadvance with
  | @finishes s hend =>
    cases h with
    | @outside _ t hst =>
      rw [ho.follows_finishes hst hend]
      exact .outside (ho.settle hst)
  | @skips s hmore hother =>
    cases h with
    | @outside _ t hst =>
      rw [ho.follows_skips hr hst hmore hother]
      exact .outside (ho.settle (ho.skip hst hmore))
  | @opens phase s s' hfaces hopen =>
    obtain ⟨t, rfl, hfaces', hst⟩ := ho.follows_faces hr h hfaces
    obtain ⟨_, t', hopen', -, hst'⟩ := hr.mirrors_openUnit.ok hst hopen (hample _)
    rw [step_of_facesUnit hfaces', Configuration.after, hopen']
    exact .inside _ hst'
  | @passes d ds s hheader =>
    cases h with
    | @inside _ _ t hst =>
      rw [hr.follows_passes hst hheader (hample _)]
      exact .inside ds hst
  | @reads d ds s s' hheader hdivision =>
    cases h with
    | @inside _ _ t hst =>
      obtain ⟨t', hstep, hst'⟩ := hr.follows_reads ds hst hheader hdivision (hample _)
      rw [hstep]
      exact .inside ds hst'
  | @leaves s hend htrailer =>
    cases h with
    | @inside _ _ t hst =>
      obtain ⟨f, fs, hframes, hf, -⟩ := hc.exists_unit
      rw [ho.names hst] at htrailer
      rw [hr.follows_leaves hst hend (hample _) htrailer]
      exact ho.related_closeUnit hst hframes hf.kind hc.names
  | @ends s s' hend htrailer hown hwords =>
    cases h with
    | @inside _ _ t hst =>
      obtain ⟨f, fs, hframes, hf, -⟩ := hc.exists_unit
      rw [ho.names hst] at hown
      obtain ⟨t', -, hstep, hst'⟩ :=
        hr.follows_ends hst hend (hample _) htrailer hown hwords (hlive _)
        hd.openNames_ne_nil hd.sentinel
      obtain ⟨ts, _, _, name, _, s₁, hreads, -, rfl⟩ :=
        exists_reads_of_endProgram hwords hc.sentinel
      have hframes₁ := hreads.frames_eq_cons hframes
      rw [← checkTrailer_context name] at hframes₁
      rw [hstep]
      refine ho.related_closeUnit hst' hframes₁ hf.kind ?_
      rw [checkTrailer_openNames, checkTrailer_context, hreads.openNames, hreads.frames_length]
      exact hc.names
  | fails hfails => exact ho.follows_fails hr h hc hd hfails

/-- Runs from corresponding configurations end in corresponding states. -/
theorem Related.run (hr : r.Sound score) (ho : r.Outer score between) {c d : Configuration}
    (h : r.Related between c d) (hc : Orderly c) (hd : Orderly d) :
    between (run score c) (run score d) := by
  have hiterate (n : Nat) :
      r.Related between ((Parse.step score)^[n] c) ((Parse.step score)^[n] d) ∧
      Orderly ((Parse.step score)^[n] c) ∧ Orderly ((Parse.step score)^[n] d) := by
    induction n with
    | zero => exact ⟨h, hc, hd⟩
    | succ n ih =>
      obtain ⟨h', hc', hd'⟩ := ih
      simp only [Function.iterate_succ_apply']
      exact ⟨h'.step hr ho hc' hd', hc'.step, hd'.step⟩
  obtain ⟨n, hfinal, hfinal'⟩ := exists_iterate_isFinal_both score c d
  rw [← run_iterate n c, ← run_iterate n d, run_of_isFinal hfinal, run_of_isFinal hfinal']
  have hphase := (Configuration.isFinal_iff.1 hfinal).1
  have hrelated := (hiterate n).1
  generalize (Parse.step score)^[n] c = c' at hphase hrelated
  generalize (Parse.step score)^[n] d = d' at hrelated
  cases hrelated with
  | outside hst => exact hst
  | inside ds hst => cases hphase

end Coupling

end Parse

end CobolCompanion
