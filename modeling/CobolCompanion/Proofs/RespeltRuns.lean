import CobolCompanion.Proofs.Overruns
import CobolCompanion.Proofs.CoupledRuns

namespace CobolCompanion

open Parse

namespace Parse

section
variable {score : Similarity} {ts us : List Token}

theorem statementLength_append_of_le {x : Token}
    (h : statementLength (ts ++ x :: us) ≤ ts.length) (vs : List Token) :
    statementLength (ts ++ vs) = statementLength (ts ++ x :: us) := by
  induction ts with
  | nil =>
    have hpos := statementLength_pos x us
    rw [List.nil_append, List.length_nil] at h
    omega
  | cons t ts ih =>
    simp only [List.cons_append, statementLength] at h ⊢
    split
    · rfl
    · next hplain =>
      rw [if_neg hplain, List.length_cons] at h
      rw [ih (Nat.le_of_succ_le_succ h)]

theorem step_of_leaves {s : State} (hend : FacesEnd score s)
    (htrailer : atEndProgram score s.unread → s.trailerClosesEnclosing) :
    step score ⟨.programUnit [], s⟩ = closeUnit s := by
  have hnone : (atEndProgram score s.unread && !s.trailerClosesEnclosing) = false := by
    cases hahead : atEndProgram score s.unread with
    | false => rfl
    | true => simp [htrailer hahead]
  simp [step, programUnitStep, hend.noUnit, hend.noHeader, hnone]

theorem step_of_ends {s s' : State} (hend : FacesEnd score s)
    (htrailer : atEndProgram score s.unread) (hown : s.trailerClosesEnclosing = false)
    (h : Production.endProgram score s = .ok () s') :
    step score ⟨.programUnit [], s⟩ = closeUnit s' := by
  simp [step, programUnitStep, hend.noUnit, hend.noHeader, htrailer, hown, h]

end

namespace Respelling

variable {e : Respelling} {score : Similarity} {start : Bool} {before gap : List Token}
  {s t s' : State}

/-- Configurations of two machines that have not come to the token. -/
structure Abreast (e : Respelling) (c d : Configuration) : Prop where
  phase : d.phase = c.phase
  state : ∃ before, e.Twins before c.state d.state

theorem Twins.closeUnit (hfit : e.Fits score) (h : e.Twins before s t) :
    e.Abreast (Parse.closeUnit s) (Parse.closeUnit t) := by
  have hframes : t.leaveUnit.context.frames = s.leaveUnit.context.frames :=
    congrArg Context.frames h.leaveUnit.context
  by_cases hnone : s.leaveUnit.context.frames = []
  · rw [closeUnit_of_outermost hnone, closeUnit_of_outermost (hframes.trans hnone)]
    exact ⟨rfl, _, h.leaveUnit.shiftTrivia hfit.significant⟩
  · rw [closeUnit_of_nested hnone, closeUnit_of_nested (by rwa [hframes])]
    exact ⟨rfl, _, h.leaveUnit⟩

/-- Both machines recover to the same place, if it is before the token. -/
theorem Twins.recover (h : e.Twins before s t) (hawaits : e.Awaits s.recover.unread) :
    ∃ before', e.Twins before' s.recover t.recover := by
  let abandoned (s : State) : State := { s with context := s.context.abandon, openNames := [] }
  have habandoned : e.Twins before (abandoned s) (abandoned t) :=
    { h with context := congrArg Context.abandon h.context, openNames := rfl }
  cases before with
  | nil =>
    have hlater := hawaits.of_recover
    rw [h.left] at hlater
    exact absurd hlater (not_awaits_of_length_le (Nat.le_refl _))
  | cons x before =>
    have hskip : e.Twins before ((abandoned s).skip 1) ((abandoned t).skip 1) :=
      habandoned.skip (n := 1) (by simp)
    have hle : statementLength (before ++ e.old :: e.rest) ≤ before.length := by
      have hlength := hawaits.length_le
      rw [State.unread_recover, h.left] at hlength
      simp only [List.cons_append, List.drop_succ_cons, List.drop_zero, List.length_drop,
        List.length_append, List.length_cons] at hlength
      omega
    have hlength : statementLength ((abandoned t).skip 1).unread =
        statementLength ((abandoned s).skip 1).unread := by
      rw [hskip.left, hskip.right]
      exact statementLength_append_of_le hle _
    have hrest := hskip.skip hle
    rw [← hskip.left] at hrest
    have ht : t.recover =
        ((abandoned t).skip 1).skip (statementLength ((abandoned s).skip 1).unread) := by
      rw [← hlength]
      rfl
    rw [ht]
    exact ⟨_, hrest⟩

section
variable (hfit : e.Fits score) (hbefore : significantTokens before ≠ [])
include hfit hbefore

theorem Fits.looksLike_old {pattern : List Ahead} (hpattern : pattern ∈ headerPatterns start)
    (h : looksLike score pattern (before ++ e.new :: e.rest)) :
    looksLike score pattern (before ++ e.old :: e.rest) :=
  looksLike_append_right (hfit.looksLike_before (List.mem_cons_of_mem _ hpattern) hbefore h) _

theorem Fits.atDivisionHeader_old {d : Division}
    (h : atDivisionHeader score d (before ++ e.new :: e.rest)) :
    atDivisionHeader score d (before ++ e.old :: e.rest) := by
  rw [atDivisionHeader_eq] at h ⊢
  exact hfit.looksLike_old hbefore (@mem_headerPatterns_division true d) h

theorem Fits.atIdentificationHeader_old
    (h : atIdentificationHeader score (before ++ e.new :: e.rest)) :
    atIdentificationHeader score (before ++ e.old :: e.rest) := by
  rw [atIdentificationHeader_iff] at h ⊢
  obtain ⟨opener, hopener, hahead⟩ := h
  exact ⟨opener, hopener,
    hfit.looksLike_old hbefore (@mem_headerPatterns_unit true opener hopener) hahead⟩

theorem Fits.atAnyHeader_old (h : atAnyHeader score start (before ++ e.new :: e.rest)) :
    atAnyHeader score start (before ++ e.old :: e.rest) := by
  rw [atAnyHeader_iff] at h ⊢
  obtain ⟨pattern, hpattern, hahead⟩ := h
  exact ⟨pattern, hpattern, hfit.looksLike_old hbefore hpattern hahead⟩

theorem Fits.facesEnd (hst : e.Twins before s t) (hend : FacesEnd score s) :
    FacesEnd score t := by
  obtain ⟨hunit, hheader⟩ := hend
  rw [hst.left] at hunit hheader
  constructor
  · rw [hst.right]
    exact Bool.eq_false_iff.2
      (mt (hfit.atIdentificationHeader_old hbefore) (Bool.eq_false_iff.1 hunit))
  · rw [hst.right, hst.statementStart]
    exact Bool.eq_false_iff.2 (mt (hfit.atAnyHeader_old hbefore) (Bool.eq_false_iff.1 hheader))

end

theorem Twins.trailerClosesEnclosing_eq (h : e.Twins before s t)
    (hcount : 3 ≤ (significantTokens before).length) :
    t.trailerClosesEnclosing = s.trailerClosesEnclosing := by
  have hthree (x : Token) : firstSignificant 3 (before ++ x :: e.rest) =
      (significantTokens before).take 3 := by
    rw [firstSignificant_eq_take, significantTokens_append,
      List.take_append_of_le_length hcount]
  rw [State.trailerClosesEnclosing, State.trailerClosesEnclosing, h.left, h.right, hthree,
    hthree, h.openNames]

theorem Twins.atEndProgram_of_count (h : e.Twins before s t)
    (hcount : 2 ≤ (significantTokens before).length) (htrailer : atEndProgram score s.unread) :
    atEndProgram score t.unread := by
  unfold atEndProgram at htrailer ⊢
  rw [h.left] at htrailer
  rw [h.right]
  have hwithin : looksLike score trailerPattern before := looksLike_of_length_le hcount htrailer
  exact looksLike_append_right hwithin _

theorem Twins.facesUnit {phase : Phase} (hfit : e.Fits score) (hc : Underway ⟨phase, s⟩)
    (h : e.Twins before s t) (hfaces : FacesUnit score phase s)
    (hnext : s.shiftTrivia.unread ≠ e.old :: e.rest)
    (hawaits : e.Awaits ((openUnit score).final s.shiftTrivia).unread) :
    FacesUnit score phase t := by
  cases phase with
  | sourceUnit =>
    have hst := h.shiftTrivia hfit.significant
    cases hrest : before.dropWhile Token.isTrivia with
    | nil =>
      rw [hrest] at hst
      exact absurd hst.left hnext
    | cons x rest =>
      rw [hrest] at hst
      obtain ⟨-, hfaces⟩ := hfaces
      rw [← hst.peek_eq] at hfaces
      exact ⟨by simp [hst.right], hfaces⟩
  | programUnit ds =>
    obtain ⟨opener, hopener, hahead⟩ :=
      hc.looksLike_of_openUnit (programUnit_ne_sourceUnit _) hfaces h.left hawaits
    cases ds with
    | cons d ds => exact hfaces.elim
    | nil =>
      have hunit : atIdentificationHeader score t.unread := by
        rw [h.right]
        exact atIdentificationHeader_iff.2 ⟨opener, hopener, looksLike_append_right hahead _⟩
      exact hunit

theorem Twins.preceded {phase : Phase} (h : e.Twins before s t) (hphase : phase ≠ .sourceUnit)
    (hfar : ¬e.Arrived ⟨phase, s⟩) : significantTokens before ≠ [] :=
  fun hgap => hfar ⟨hphase, before, hgap, h.left⟩

/-- The second machine gives up where the first does, if that goes on before the token. -/
theorem Abreast.fails (hfit : e.Fits score) {c d : Configuration} {f : Failure}
    (hc : Underway c) (h : e.Abreast c d) (hfar : ¬e.Arrived c) (hfails : Fails score c f s')
    (hawaits : e.Awaits s'.recover.unread) :
    ∃ before' g t', Fails score d g t' ∧ e.Twins before' s' t' := by
  obtain ⟨phase', t⟩ := d
  obtain ⟨rfl, before, hst⟩ := h
  have hlater := hawaits.of_recover
  cases hfails with
  | @opening phase s f s' hfaces hopen =>
    have hmoves := (performs_openUnit.moves_of_error hopen).unread_suffix
    have hnext : s.shiftTrivia.unread ≠ e.old :: e.rest := by
      intro hnext
      have hlength := hmoves.length_le
      rw [hnext] at hlength
      refine not_awaits_of_length_le ?_ hlater
      rw [List.length_drop]
      exact Nat.sub_le_of_le_add hlength
    have hfinal : (openUnit score).final s.shiftTrivia = s' := by rw [Production.final, hopen]
    have hfaces' := hst.facesUnit hfit hc hfaces hnext (by
      rw [hfinal]
      exact hlater.trans (List.drop_suffix 1 _))
    obtain ⟨before', t', hopen', hst'⟩ :=
      hfit.blind_openUnit.error (hst.shiftTrivia hfit.significant) hopen hlater
    exact ⟨before', f, t', .opening hfaces' hopen', hst'⟩
  | division hheader hdivision => exact absurd hdivision (hc.division_ne_error hheader)
  | @header s f s' hunit hheader hrun =>
    have hbefore := hst.preceded (programUnit_ne_sourceUnit _) hfar
    rw [unexpectedHeader_run] at hrun
    cases hrun
    obtain ⟨pattern, hpattern, hahead⟩ := atAnyHeader_iff.1 hheader
    have hwithin : looksLike score pattern before := by
      by_contra hincomplete
      exact hfit.not_awaits_recover_of_header hpattern hst.left hc.endless hahead
        hincomplete hawaits
    have hunit' : atIdentificationHeader score t.unread = false := by
      dsimp only at hst
      rw [hst.left] at hunit
      rw [hst.right]
      exact Bool.eq_false_iff.2
        (mt (hfit.atIdentificationHeader_old hbefore) (Bool.eq_false_iff.1 hunit))
    have hheader' : atAnyHeader score t.statementStart t.unread := by
      rw [hst.statementStart, hst.right]
      exact atAnyHeader_iff.2 ⟨pattern, hpattern, looksLike_append_right hwithin _⟩
    exact ⟨before, _, t.complainOfHeader, .header hunit' hheader' (unexpectedHeader_run t),
      hst.report _ _⟩
  | @trailer s f s' hend htrailer hown hwords =>
    have hbefore := hst.preceded (programUnit_ne_sourceUnit _) hfar
    have hcount := hc.count_of_endProgram_error hst.left htrailer hwords hlater
    have htrailer' := hst.atEndProgram_of_count (Nat.le_of_succ_le hcount) htrailer
    obtain ⟨before', t', hwords', hst'⟩ := hfit.blind_endProgram.error hst hwords hlater
    refine ⟨before', f, t',
      .trailer (hfit.facesEnd hbefore hst hend) htrailer' ?_ hwords', hst'⟩
    rw [hst.trailerClosesEnclosing_eq hcount]
    exact hown

theorem clear_of_not_overruns {ds : List Division} (hawaits : e.Awaits s.unread)
    (h : ¬e.Overruns score ⟨.programUnit ds, s⟩) : e.Clear score s.statementStart s.unread := by
  obtain ⟨before, hbefore⟩ := hawaits
  refine ⟨before, hbefore.symm, ?_⟩
  intro hhinges
  exact h (.boundary (programUnit_ne_sourceUnit _) hbefore.symm hhinges)

theorem Abreast.skips (hfit : e.Fits score) (hst : e.Twins before s t)
    (hother : ¬FacesUnit score .sourceUnit s)
    (hawaits : e.Awaits
      ((s.shiftTrivia.report [unknownInput s.shiftTrivia.peek]).skip 1).shiftTrivia.unread) :
    e.Abreast ⟨.sourceUnit,
      ((s.shiftTrivia.report [unknownInput s.shiftTrivia.peek]).skip 1).shiftTrivia⟩
      (Parse.step score ⟨.sourceUnit, t⟩) := by
  have hshift := hst.shiftTrivia hfit.significant
  cases hrest : before.dropWhile Token.isTrivia with
  | nil =>
    rw [hrest] at hshift
    have hlater := hawaits.trans (moves_shiftTrivia _).unread_suffix
    refine absurd hlater (not_awaits_of_length_le ?_)
    simp [hshift.left]
  | cons x rest =>
    rw [hrest] at hshift
    have hmore : t.shiftTrivia.unread ≠ [] := by simp [hshift.right]
    have hother' : ¬FacesUnit score .sourceUnit t := by
      intro hfaces
      obtain ⟨-, hfaces⟩ := hfaces
      rw [hshift.peek_eq] at hfaces
      exact hother ⟨by simp [hshift.left], hfaces⟩
    have hskip := ((hshift.report [unknownInput s.shiftTrivia.peek]
      [unknownInput t.shiftTrivia.peek]).skip (n := 1) (by simp)).shiftTrivia hfit.significant
    have hadvance := advance_step score ⟨.sourceUnit, t⟩
    generalize Parse.step score ⟨.sourceUnit, t⟩ = d at hadvance
    cases hadvance with
    | finishes hend => exact absurd hend hmore
    | skips => exact ⟨rfl, _, hskip⟩
    | opens hfaces => exact absurd hfaces hother'
    | fails hfails =>
      cases hfails with
      | opening hfaces => exact absurd hfaces hother'

/-- Two machines stay abreast, as long as the token is not read and not going to be overrun. -/
theorem Abreast.step (hfit : e.Fits score) {c d : Configuration} (hc : Underway c)
    (h : e.Abreast c d) (hfar : ¬e.Arrived c)
    (hawaits : e.Awaits (Parse.step score c).state.unread)
    (hclear : ¬e.Overruns score (Parse.step score c)) :
    e.Abreast (Parse.step score c) (Parse.step score d) := by
  have hadvance := advance_step score c
  generalize Parse.step score c = c' at hadvance hawaits hclear
  obtain ⟨phase', t⟩ := d
  obtain ⟨hphase, before, hst⟩ := id h
  cases hphase
  cases hadvance with
  | @finishes s hend =>
    rw [hend] at hawaits
    exact absurd hawaits (not_awaits_of_length_le (Nat.zero_le _))
  | @skips s hmore hother => exact Abreast.skips hfit hst hother hawaits
  | @opens phase s s' hfaces hopen =>
    have hnext : s.shiftTrivia.unread ≠ e.old :: e.rest := by
      intro hnext
      have hshorter := readsSome_openUnit s.shiftTrivia () s' (by simp [hnext]) hopen
      rw [hnext] at hshorter
      exact not_awaits_of_length_le (Nat.le_of_lt_succ hshorter) hawaits
    have hfinal : (openUnit score).final s.shiftTrivia = s' := by rw [Production.final, hopen]
    have hfaces' := hst.facesUnit hfit hc hfaces hnext (by rwa [hfinal])
    obtain ⟨before', t', hopen', hst'⟩ :=
      hfit.blind_openUnit.ok (hst.shiftTrivia hfit.significant) hopen
      (clear_of_not_overruns hawaits hclear)
    rw [step_of_facesUnit hfaces', Configuration.after, hopen']
    exact ⟨rfl, before', hst'⟩
  | @passes d ds s hheader =>
    have hbefore := hst.preceded (programUnit_ne_sourceUnit _) hfar
    have hheader' : atDivisionHeader score d t.unread = false := by
      dsimp only at hst
      rw [hst.left] at hheader
      rw [hst.right]
      exact Bool.eq_false_iff.2
        (mt (hfit.atDivisionHeader_old hbefore) (Bool.eq_false_iff.1 hheader))
    simp only [Parse.step, hheader']
    exact ⟨rfl, before, hst⟩
  | @reads d ds s s' hheader hdivision =>
    have hheader' : atDivisionHeader score d t.unread := by
      rw [hst.right, atDivisionHeader_eq]
      exact looksLike_append_right
        (hc.looksLike_of_division hheader hst.left hdivision hawaits) _
    obtain ⟨before', t', hdivision', hst'⟩ := (hfit.blind_division d).ok hst hdivision
      (clear_of_not_overruns hawaits hclear)
    simp only [Parse.step, hheader', if_true, Configuration.after, hdivision']
    exact ⟨rfl, before', hst'⟩
  | @leaves s hend htrailer =>
    have hbefore := hst.preceded (programUnit_ne_sourceUnit _) hfar
    have htrailer' : atEndProgram score t.unread → t.trailerClosesEnclosing := by
      intro hahead
      rw [hst.right] at hahead
      have hwithin : looksLike score trailerPattern before :=
        looksLike_of_foreign rfl
          (@Fits.foreign e score true hfit trailerPattern List.mem_cons_self) hbefore hahead
      have hcloses : s.trailerClosesEnclosing := by
        apply htrailer
        rw [hst.left]
        exact looksLike_append_right hwithin _
      have hcount : 2 ≤ (significantTokens before).length := by
        rw [looksLike_eq_agrees] at hwithin
        exact length_le_of_agrees hwithin
      rcases Nat.lt_or_ge 2 (significantTokens before).length with hmany | hfew
      · rw [hst.trailerClosesEnclosing_eq hmany]
        exact hcloses
      · -- The trailer would name the unit by the token.
        rw [hc.closeUnit_eq hcloses] at hclear
        exact absurd (.name hst.left ⟨hend.noUnit, hend.noHeader⟩ hwithin
          (Nat.le_antisymm hfew hcount)) hclear
    rw [step_of_leaves (hfit.facesEnd hbefore hst hend) htrailer']
    exact hst.closeUnit hfit
  | @ends s s' hend htrailer hown hwords =>
    have hbefore := hst.preceded (programUnit_ne_sourceUnit _) hfar
    have hlater := hawaits.trans (moves_closeUnit s').unread_suffix
    have hcount := hc.count_of_endProgram hst.left hwords hlater
    have htrailer' := hst.atEndProgram_of_count (Nat.le_trans (by decide) hcount) htrailer
    have hown' := hst.trailerClosesEnclosing_eq (Nat.le_of_succ_le hcount)
    rw [hown] at hown'
    obtain ⟨before', t', hwords', hst'⟩ := hfit.blind_endProgram.ok hst hwords hlater
    rw [step_of_ends (hfit.facesEnd hbefore hst hend) htrailer' hown' hwords']
    exact hst'.closeUnit hfit
  | fails hfails =>
    obtain ⟨before', g, t', hfails', hst'⟩ := h.fails hfit hc hfar hfails hawaits
    rw [hfails'.step_eq]
    obtain ⟨before'', hst''⟩ := hst'.recover hawaits
    exact ⟨rfl, before'', hst''⟩

theorem Arrived.awaits {c : Configuration} (h : e.Arrived c) : e.Awaits c.state.unread := by
  obtain ⟨-, gap, -, hs⟩ := h
  exact ⟨gap, hs.symm⟩

theorem Arrived.not_overruns {c : Configuration} (h : e.Arrived c) : ¬e.Overruns score c := by
  obtain ⟨hinside, gap, hgap, hunread⟩ := h
  intro hover
  cases hover with
  | boundary hphase hs hhinges =>
    obtain rfl := List.append_cancel_right (hs.symm.trans hunread)
    exact hhinges.preceded hgap
  | name hs hend htrailer hcount =>
    obtain rfl := List.append_cancel_right (hs.symm.trans hunread)
    simp [hgap] at hcount
  | outside hs hgap => exact hinside rfl

theorem not_looksLike_of_gap (hgap : significantTokens gap = []) (expected : Ahead)
    (pattern : List Ahead) :
    ¬looksLike score (expected :: pattern) gap := by
  rw [looksLike_eq_agrees, hgap]
  exact Bool.false_ne_true

/-- From where the token is next, the machine goes on without reading, or reads it. -/
theorem Arrived.step (hfit : e.Fits score) {c : Configuration} (hc : Underway c)
    (h : e.Arrived c) (hawaits : e.Awaits (Parse.step score c).state.unread)
    (hclear : ¬e.Overruns score (Parse.step score c)) :
    (∃ d ds, c.phase = .programUnit (d :: ds) ∧
      Parse.step score c = ⟨.programUnit ds, c.state⟩) ∨
      FacesEnd score c.state ∧ Parse.step score c = ⟨.programUnit [], c.state.leaveUnit⟩ := by
  obtain ⟨hinside, gap, hgap, hs⟩ := h
  have hadvance := advance_step score c
  generalize Parse.step score c = c' at hadvance hawaits hclear
  cases hadvance with
  | finishes hend => exact absurd rfl hinside
  | skips hmore hother => exact absurd rfl hinside
  | @opens phase s s' hfaces hopen =>
    have hfinal : (openUnit score).final s.shiftTrivia = s' := by rw [Production.final, hopen]
    obtain ⟨opener, hopener, hahead⟩ :=
      hc.looksLike_of_openUnit hinside hfaces hs (by rwa [hfinal])
    exact absurd hahead (not_looksLike_of_gap hgap _ _)
  | @passes d ds s hheader => exact .inl ⟨d, ds, rfl, rfl⟩
  | reads hheader hdivision =>
    exact absurd (hc.looksLike_of_division hheader hs hdivision hawaits)
      (not_looksLike_of_gap hgap _ _)
  | @leaves s hend htrailer =>
    right
    by_cases hnone : s.leaveUnit.context.frames = []
    · -- Outside of all units the token would be overrun.
      rw [closeUnit_of_outermost hnone] at hclear
      have hnext : s.leaveUnit.shiftTrivia.unread = e.old :: e.rest :=
        (State.Faces.of_eq hs).unread_shiftTrivia (significantTokens_eq_nil_iff.1 hgap)
          hfit.significant
      exact absurd (@Overruns.outside e score _ [] hnext rfl) hclear
    · exact ⟨hend, closeUnit_of_nested hnone⟩
  | @ends s s' hend htrailer hown hwords =>
    have hcount := hc.count_of_endProgram hs hwords
      (hawaits.trans (moves_closeUnit s').unread_suffix)
    simp [hgap] at hcount
  | @fails _ f s' hfails =>
    obtain ⟨before, hbefore⟩ := hawaits.of_recover.trans (List.drop_suffix 1 _)
    have hsuffix : before <:+ gap := by
      obtain ⟨read, hread⟩ := hfails.moves.unread_suffix
      have hsplit : (read ++ before) ++ e.old :: e.rest = gap ++ e.old :: e.rest := by
        rw [← hs, ← hread, ← hbefore, List.append_assoc]
      exact ⟨read, List.append_cancel_right hsplit⟩
    refine absurd hawaits (not_awaits_recover hbefore.symm ?_)
    intro t ht
    have htrivia := significantTokens_eq_nil_iff.1 hgap t (hsuffix.mem ht)
    exact ⟨Token.isTerminator_of_isTrivia htrivia, Token.isEndOfInput_of_isTrivia htrivia⟩

theorem Underway.iterate {c : Configuration} (h : Underway c) (n : Nat) :
    Underway ((Parse.step score)^[n] c) := by
  induction n with
  | zero => exact h
  | succ n ih =>
    rw [Function.iterate_succ_apply']
    exact ih.step

theorem Overruns.iterate (hfit : e.Fits score) {c : Configuration} (hc : Underway c)
    (h : e.Overruns score c) {n : Nat}
    (hawaits : e.Awaits ((Parse.step score)^[n] c).state.unread) :
    e.Overruns score ((Parse.step score)^[n] c) := by
  induction n with
  | zero => exact h
  | succ n ih =>
    rw [Function.iterate_succ_apply'] at hawaits ⊢
    exact (ih (hawaits.trans (moves_step _).unread_suffix)).step hfit (hc.iterate n) hawaits

theorem Arrived.clear_before (hfit : e.Fits score) {c : Configuration}
    (hc : Underway c) {n i : Nat} (hn : e.Arrived ((Parse.step score)^[n] c)) (hi : i ≤ n) :
    e.Awaits ((Parse.step score)^[i] c).state.unread ∧
      ¬e.Overruns score ((Parse.step score)^[i] c) := by
  obtain ⟨k, rfl⟩ := Nat.exists_eq_add_of_le' hi
  rw [Function.iterate_add_apply] at hn
  constructor
  · exact hn.awaits.trans (moves_iterate k _).unread_suffix
  · intro hover
    exact hn.not_overruns (hover.iterate hfit (hc.iterate i) hn.awaits)

/-- Both machines arrive at the token at the same time. -/
theorem exists_first_arrival (hfit : e.Fits score) {c d : Configuration} (hc : Underway c)
    (h : e.Abreast c d) (houtside : c.phase = .sourceUnit) {n : Nat}
    (hn : e.Arrived ((Parse.step score)^[n] c)) :
    ∃ m < n, ¬e.Arrived ((Parse.step score)^[m] c) ∧ e.Arrived ((Parse.step score)^[m + 1] c) ∧
      e.Abreast ((Parse.step score)^[m + 1] c) ((Parse.step score)^[m + 1] d) := by
  have hall : ∀ i ≤ n, (∃ m < i, ¬e.Arrived ((Parse.step score)^[m] c) ∧
      e.Arrived ((Parse.step score)^[m + 1] c) ∧
      e.Abreast ((Parse.step score)^[m + 1] c) ((Parse.step score)^[m + 1] d)) ∨
      ¬e.Arrived ((Parse.step score)^[i] c) ∧
        e.Abreast ((Parse.step score)^[i] c) ((Parse.step score)^[i] d) := by
    intro i hi
    induction i with
    | zero => exact .inr ⟨fun harrived => harrived.inside houtside, h⟩
    | succ i ih =>
      rcases ih (Nat.le_of_succ_le hi) with ⟨m, hm, hfirst⟩ | ⟨hfar, habreast⟩
      · exact .inl ⟨m, Nat.lt_succ_of_lt hm, hfirst⟩
      · obtain ⟨hawaits, hclear⟩ := hn.clear_before hfit hc hi
        have hnext : e.Abreast ((Parse.step score)^[i + 1] c)
            ((Parse.step score)^[i + 1] d) := by
          rw [Function.iterate_succ_apply'] at hawaits hclear
          rw [Function.iterate_succ_apply', Function.iterate_succ_apply']
          exact habreast.step hfit (hc.iterate i) hfar hawaits hclear
        by_cases harrived : e.Arrived ((Parse.step score)^[i + 1] c)
        · exact .inl ⟨i, Nat.lt_succ_self i, hfar, harrived, hnext⟩
        · exact .inr ⟨harrived, hnext⟩
  exact (hall n (Nat.le_refl n)).resolve_right fun hfar => hfar.1 hn

/-- Where the token is next and looks like a header, only divisions are passed over. -/
theorem Arrived.passes (hfit : e.Fits score) {c : Configuration} (hc : Underway c)
    (h : e.Arrived c) {k : Nat} (hk : e.Arrived ((Parse.step score)^[k] c))
    (hheader : atAnyHeader score ((Parse.step score)^[k] c).state.statementStart
      ((Parse.step score)^[k] c).state.unread) :
    ∃ ds, c.phase = .programUnit ds ∧
      (Parse.step score)^[k] c = ⟨.programUnit (ds.drop k), c.state⟩ := by
  induction k generalizing c with
  | zero =>
    obtain ⟨phase, s⟩ := c
    cases phase with
    | sourceUnit => exact absurd rfl h.inside
    | programUnit ds => exact ⟨ds, rfl, rfl⟩
  | succ k ih =>
    obtain ⟨hawaits, hclear⟩ := hk.clear_before hfit hc (Nat.succ_le_succ (Nat.zero_le k))
    rw [Function.iterate_succ_apply] at hk hheader ⊢
    obtain ⟨-, gap, hgap, hs⟩ := id h
    rcases h.step hfit hc hawaits hclear with ⟨d, ds, hphase, hstep⟩ | ⟨hend, hstep⟩
    · have hc' : Underway ⟨.programUnit ds, c.state⟩ := by
        rw [← hstep]
        exact hc.step
      rw [hstep] at hk hheader ⊢
      obtain ⟨ds', hds, hrest⟩ :=
        ih hc' ⟨programUnit_ne_sourceUnit ds, gap, hgap, hs⟩ hk hheader
      cases hds
      exact ⟨d :: ds, hphase, hrest⟩
    · -- A unit that was left would have no header before it.
      have hc' : Underway ⟨.programUnit [], c.state.leaveUnit⟩ := by
        rw [← hstep]
        exact hc.step
      rw [hstep] at hk hheader
      obtain ⟨ds', -, hrest⟩ := ih hc' ⟨programUnit_ne_sourceUnit [], gap, hgap, hs⟩ hk hheader
      rw [hrest] at hheader
      exact absurd (hend.noHeader.symm.trans hheader) Bool.false_ne_true

end Respelling

end Parse

end CobolCompanion
