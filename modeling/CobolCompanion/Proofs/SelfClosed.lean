import CobolCompanion.Proofs.CoupledRuns
import CobolCompanion.Proofs.Findings
import CobolCompanion.Proofs.Surroundings
import CobolCompanion.Proofs.UnitOrigins

namespace CobolCompanion

open Parse

namespace Parse

/--
The trailer ahead closes a unit outside: it names one of the given units and none within them.
-/
structure Doomed (score : Similarity) (names : List String) (s : State) : Prop where
  facesEnd : FacesEnd score s
  trailer : atEndProgram score s.unread
  naming : ∃ own t, s.openNames = own ++ names ∧ (firstSignificant 3 s.unread)[2]? = some t ∧
    upper (programNameOf t) ∉ own ∧ upper (programNameOf t) ∈ names

namespace Doomed

variable {score : Similarity} {names : List String} {s : State}

theorem closesEnclosing (h : Doomed score names s)
    (hdepth : names.length < s.openNames.length) :
    s.trailerClosesEnclosing := by
  obtain ⟨own, t, hnames, ht, hown, hin⟩ := h.naming
  cases own with
  | nil => simp [hnames] at hdepth
  | cons name own =>
    have hne : name ≠ upper (programNameOf t) := by
      intro heq
      exact hown (heq ▸ List.mem_cons_self)
    simp [State.trailerClosesEnclosing, ht, hnames, hne, hin]

theorem leaveUnit (h : Doomed score names s) (hdepth : names.length < s.openNames.length) :
    Doomed score names s.leaveUnit := by
  obtain ⟨own, t, hnames, ht, hown, hin⟩ := h.naming
  cases own with
  | nil => simp [hnames] at hdepth
  | cons name own =>
    refine ⟨⟨h.facesEnd.noUnit, h.facesEnd.noHeader⟩, h.trailer, own, t, ?_, ht, ?_, hin⟩
    · simp [State.leaveUnit, hnames]
    · intro hmem
      exact hown (List.mem_cons_of_mem name hmem)

theorem step_eq (h : Doomed score names s) (hdepth : names.length < s.openNames.length) :
    step score ⟨.programUnit [], s⟩ = closeUnit s := by
  simp [step, programUnitStep, h.facesEnd.noUnit, h.facesEnd.noHeader, h.closesEnclosing hdepth]

theorem not_ends (h : Doomed score names s) (hs : Orderly ⟨.programUnit [], s⟩) {n : Nat}
    (hdeep : ∀ i ≤ n, names.length <
      ((step score)^[i] ⟨.programUnit [], s⟩).state.context.frames.length)
    {s' : State} {unit : Node} :
    ¬Ends score ((step score)^[n] ⟨.programUnit [], s⟩) s' unit := by
  induction n generalizing s with
  | zero =>
    have hdepth : names.length < s.openNames.length := by
      rw [hs.names]
      exact hdeep 0 (Nat.le_refl 0)
    intro hends
    cases hends with
    | intro hend htrailer hown hwords hframes => simp [h.closesEnclosing hdepth] at hown
  | succ n ih =>
    have hdepth : names.length < s.openNames.length := by
      rw [hs.names]
      exact hdeep 0 (Nat.zero_le _)
    have hstep := h.step_eq hdepth
    have hnext := hdeep 1 (by omega)
    rw [Function.iterate_one, hstep, frames_length_closeUnit] at hnext
    have hnested : s.leaveUnit.context.frames ≠ [] := by
      apply List.length_pos_iff.1
      rw [State.leaveUnit, Context.frames_length_close]
      omega
    rw [closeUnit_of_nested hnested] at hstep
    have hs' : Orderly ⟨.programUnit [], s.leaveUnit⟩ := by
      rw [← hstep]
      exact hs.step
    rw [Function.iterate_succ_apply, hstep]
    apply ih (h.leaveUnit hdepth) hs'
    intro i hi
    have hlater := hdeep (i + 1) (by omega)
    rwa [Function.iterate_succ_apply, hstep] at hlater

end Doomed

namespace Surroundings

variable {e : Surroundings} {score : Similarity} {s t : State}

theorem Embeds.firstSignificant_eq (h : e.Embeds s t) (hample : e.coupling.ample s.unread) :
    firstSignificant 3 s.unread = firstSignificant 3 t.unread := by
  rw [firstSignificant_eq_take, firstSignificant_eq_take, h.unread, significantTokens_append]
  rcases h.ample_iff hample with hrest | hmany
  · rw [hrest, significantTokens_nil, List.append_nil]
  · exact List.take_append_of_le_length hmany

theorem Embeds.ownTrailer (h : e.Embeds s t) (hample : e.coupling.ample s.unread)
    (hown : s.trailerClosesEnclosing = false) : t.trailerClosesEnclosing = false := by
  unfold State.trailerClosesEnclosing at hown ⊢
  rw [h.firstSignificant_eq hample, h.openNames] at hown
  cases hname : (firstSignificant 3 t.unread)[2]? with
  | none => rfl
  | some x =>
    cases hnames : t.openNames with
    | nil => rfl
    | cons own names =>
      rw [hname, hnames] at hown
      simp only [List.cons_append, Bool.and_eq_false_iff, List.contains_eq_mem,
        decide_eq_false_iff_not, List.mem_append, not_or] at hown ⊢
      exact hown.imp_right And.left

theorem Embeds.enclosingTrailer (h : e.Embeds s t) (hample : e.coupling.ample s.unread)
    (hnames : t.openNames ≠ []) (hend : FacesEnd score s)
    (htrailer : atEndProgram score s.unread) (hclosing : s.trailerClosesEnclosing)
    (hfate : ¬Doomed score e.names s) :
    t.trailerClosesEnclosing := by
  obtain ⟨own, names, hown⟩ := List.exists_cons_of_ne_nil hnames
  have hahead := h.firstSignificant_eq hample
  unfold State.trailerClosesEnclosing at hclosing ⊢
  rw [h.openNames, hown, List.cons_append] at hclosing
  rw [← hahead, hown]
  cases hname : (firstSignificant 3 s.unread)[2]? with
  | none => simp [hname] at hclosing
  | some x =>
    rw [hname] at hclosing
    simp only [Bool.and_eq_true, bne_iff_ne, ne_eq, List.contains_eq_mem, decide_eq_true_eq,
      List.mem_append] at hclosing ⊢
    obtain ⟨hne, hmem⟩ := hclosing
    refine ⟨hne, ?_⟩
    by_contra hnot
    apply hfate
    refine ⟨hend, htrailer, own :: names, x, ?_, hname, ?_, hmem.resolve_left hnot⟩
    · rw [h.openNames, hown]
    · rw [List.mem_cons, not_or]
      exact ⟨fun heq => hne heq.symm, hnot⟩

/-- Configurations that correspond inside a unit. -/
structure Follows (e : Surroundings) (c d : Configuration) : Prop where
  phase : c.phase = d.phase
  states : e.coupling.loose c.state d.state

theorem depth_lt (h : e.Embeds s t) : e.frames.length < s.context.frames.length := by
  have hpos := List.length_pos_iff.2 h.inside
  rw [h.frames, List.length_append]
  omega

theorem follows_closeUnit (h : e.coupling.loose s t) (hnames : t.openNames ≠ [])
    (hdeep : e.frames.length < (closeUnit s).state.context.frames.length) :
    e.Follows (closeUnit s) (closeUnit t) := by
  have hlength := congrArg List.length h.1.frames
  rw [List.length_append] at hlength
  rw [frames_length_closeUnit] at hdeep
  have hnested (s : State) (hs : 1 < s.context.frames.length) :
      s.leaveUnit.context.frames ≠ [] := by
    apply List.length_pos_iff.1
    rw [State.leaveUnit, Context.frames_length_close]
    omega
  rw [closeUnit_of_nested (hnested s (by omega)), closeUnit_of_nested (hnested t (by omega))]
  exact ⟨rfl, h.1.leaveUnit (by omega) (.inr hnames), h.2⟩

/-- The second machine follows a step of the first that leaves it inside the part. -/
theorem Follows.step {c d : Configuration} (h : e.Follows c d) (hc : Orderly c) (hd : Orderly d)
    (hdeep : e.frames.length < (step score c).state.context.frames.length)
    (hample : e.coupling.ample (step score c).state.unread)
    (hfate : c.phase = .programUnit [] → ¬Doomed score e.names c.state) :
    e.Follows (step score c) (step score d) := by
  have hsound := @sound_coupling e score
  have hc_ample : e.coupling.ample c.state.unread :=
    isGuard_ample.of_suffix hample (moves_step c).unread_suffix
  obtain ⟨phase, t⟩ := d
  obtain ⟨rfl, hst⟩ := h
  have hinside : c.phase ≠ .sourceUnit := by
    intro hphase
    have hdepth := depth_lt hst.1
    rw [hc.outside.1 hphase] at hdepth
    exact absurd hdepth (Nat.not_lt_zero _)
  have hadvance := advance_step score c
  generalize Parse.step score c = c' at hadvance hdeep hample
  cases hadvance with
  | finishes hend => exact absurd rfl hinside
  | skips hmore hother => exact absurd rfl hinside
  | @opens phase s s' hfaces hopen =>
    match phase, hfaces with
    | .sourceUnit, _ => exact absurd rfl hinside
    | .programUnit [], hfaces =>
      obtain ⟨t', hstep, hst'⟩ := hsound.follows_opens hst hfaces hopen hample
      rw [hstep]
      exact ⟨rfl, hst'⟩
  | @passes d ds s hheader =>
    rw [hsound.follows_passes hst hheader hample]
    exact ⟨rfl, hst⟩
  | @reads d ds s s' hheader hdivision =>
    obtain ⟨t', hstep, hst'⟩ := hsound.follows_reads ds hst hheader hdivision hample
    rw [hstep]
    exact ⟨rfl, hst'⟩
  | @leaves s hend htrailer =>
    have hnames : t.openNames ≠ [] := hd.openNames_ne_nil
    rw [hsound.follows_leaves hst hend hc_ample fun hahead =>
      hst.1.enclosingTrailer hc_ample hnames hend hahead (htrailer hahead) (hfate rfl)]
    exact follows_closeUnit hst hnames hdeep
  | @ends s s' hend htrailer hown hwords =>
    have hlive : e.coupling.live s'.unread :=
      isGuard_live.of_suffix ((@keeps_coupling e score).live_of_ample' hample)
        (moves_closeUnit s').unread_suffix
    obtain ⟨t', hwords', hstep, hst'⟩ := hsound.follows_ends hst hend hc_ample htrailer
      (hst.1.ownTrailer hc_ample hown) hwords hlive hd.openNames_ne_nil hd.sentinel
    have hnames : t'.openNames ≠ [] := by
      obtain ⟨_, _, _, name, _, t₁, hreads, -, rfl⟩ :=
        exists_reads_of_endProgram hwords' hd.sentinel
      rw [checkTrailer_openNames, hreads.openNames]
      exact hd.openNames_ne_nil
    rw [hstep]
    exact follows_closeUnit hst' hnames hdeep
  | fails hfails => simp [State.frames_recover] at hdeep

/-- The second machine follows the first to the trailer of the part. -/
theorem Follows.iterate (hnames : e.names.length = e.frames.length) {c d : Configuration}
    (h : e.Follows c d) (hc : Orderly c) (hd : Orderly d) {n : Nat}
    (hdeep : ∀ i ≤ n, e.frames.length < ((Parse.step score)^[i] c).state.context.frames.length)
    (hample : e.coupling.ample ((Parse.step score)^[n] c).state.unread)
    {s' : State} {unit : Node} (hends : Ends score ((Parse.step score)^[n] c) s' unit) :
    e.Follows ((Parse.step score)^[n] c) ((Parse.step score)^[n] d) := by
  induction n generalizing c d with
  | zero => exact h
  | succ n ih =>
    have hfate : c.phase = .programUnit [] → ¬Doomed score e.names c.state := by
      intro hphase hdoomed
      obtain ⟨phase, s⟩ := c
      cases hphase
      exact hdoomed.not_ends hc (hnames ▸ hdeep) hends
    have hdeep' (i : Nat) (hi : i ≤ n) : e.frames.length <
        ((Parse.step score)^[i] (Parse.step score c)).state.context.frames.length := by
      rw [← Function.iterate_succ_apply]
      exact hdeep (i + 1) (by omega)
    rw [Function.iterate_succ_apply] at hample hends ⊢
    rw [Function.iterate_succ_apply]
    have hfirst := h.step hc hd (hdeep' 0 (Nat.zero_le n))
      (isGuard_ample.of_suffix hample (moves_iterate n _).unread_suffix) hfate
    exact ih hfirst hc.step hd.step hdeep' hample hends

end Surroundings

/-- A unit that is next inside another one would be next in a source unit, too. -/
theorem FacesUnit.outermost {score : Similarity} {phase : Phase} {s : State}
    (h : FacesUnit score phase s) (hwords : ∀ u ∈ s.unread, u.isEndOfInput = false) :
    FacesUnit score .sourceUnit s := by
  match phase, h with
  | .sourceUnit, h => exact h
  | .programUnit [], h =>
    obtain ⟨t, rest, hnext⟩ :=
      List.exists_cons_of_ne_nil (dropWhile_ne_nil_of_atIdentificationHeader h)
    have hunread : s.shiftTrivia.unread = t :: rest := by rw [State.unread_shiftTrivia, hnext]
    have htrivia := isTrivia_of_dropWhile_eq_cons hnext
    obtain ⟨opener, hopener, hheader⟩ := List.any_eq_true.1 h
    rw [atPeriodHeader, looksLike_eq_agrees, ← significantTokens_dropWhile, hnext,
      significantTokens_cons_of_significant htrivia, agrees, Bool.and_eq_true] at hheader
    refine ⟨by simp [hunread], ?_, ?_⟩ <;> rw [State.peek_eq hunread]
    · apply hwords
      apply (List.dropWhile_sublist Token.isTrivia).subset
      simp [hnext]
    · exact List.any_eq_true.2 ⟨opener, hopener, hheader.1⟩

/-- A place in a text, seen from a part that is read alone from there on. -/
def Surroundings.ofPlace (s : State) (rest : List Token) : Surroundings where
  rest
  frames := s.context.frames
  names := s.openNames
  findings := s.diagnostics
  roots _ root := root = .ofNode (.ofKind .sourceUnit)
  final := False
  rest_eq_nil := False.elim

theorem Surroundings.fresh_ofPlace {s : State} {part rest : List Token}
    (h : s.unread = part ++ rest) (htrivia : s.peek.isTrivia = false)
    (hsentinel : s.stream.sentinel.isEndOfInput) {sentinel : Token}
    (hsentinels : s.stream.sentinel.Alike sentinel) :
    (ofPlace s rest).coupling.fresh (s.openNode .programUnit)
      ((State.initial (.ofTokens part sentinel)).openNode .programUnit) := by
  refine ⟨⟨h, hsentinel, hsentinels, False.elim, rfl, ?_, rfl, rfl, ?_⟩, .inl htrivia⟩
  · exact List.cons_ne_nil _ _
  · exact (List.append_nil _).symm

/-- At the trailer that ends the part, the second machine has nothing more to read. -/
theorem Surroundings.Follows.ends {score : Similarity} {s s' : State}
    {c d : Configuration} {unit : Node} (h : (ofPlace s s'.unread).Follows c d) (hc : Orderly c)
    (hd : Orderly d) (hample : (ofPlace s s'.unread).coupling.ample c.state.unread)
    (hends : Ends score c s' unit)
    (hdepth : s'.context.frames.length = s.context.frames.length + 1) :
    ∃ t', Parse.step score d = ⟨.sourceUnit, t'⟩ ∧ t'.unread = [] ∧
      t'.context = .ofRoot { kind := .sourceUnit, children := [unit.toElement] } ∧
      s'.diagnostics = s.diagnostics ++ t'.diagnostics := by
  obtain ⟨phase, t⟩ := d
  obtain ⟨hphase, hst⟩ := h
  cases hends with
  | @intro s₁ _ f fs hend htrailer hown hwords hframes =>
    cases hphase
    obtain ⟨t', -, hstep, hst'⟩ := sound_coupling.follows_ends hst hend hample htrailer
      (hst.1.ownTrailer hample hown) hwords List.suffix_rfl hd.openNames_ne_nil hd.sentinel
    have hdone : t'.unread = [] := by
      have hunread : s'.unread = t'.unread ++ s'.unread := hst'.1.unread
      exact List.self_eq_append_left.1 hunread
    have hframes' : t'.context.frames = [f] := by
      have happend : s'.context.frames = t'.context.frames ++ s.context.frames := hst'.1.frames
      obtain ⟨g, hg⟩ : ∃ g, t'.context.frames = [g] := by
        apply List.length_eq_one_iff.1
        rw [happend, List.length_append] at hdepth
        omega
      rw [hframes, hg, List.singleton_append, List.cons.injEq] at happend
      rw [hg, ← happend.1]
    have hcontext : t'.leaveUnit.context =
      .ofRoot { kind := .sourceUnit, children := [f.node.toElement] } := by
      have hroot : t'.context.root = .ofNode (.ofKind .sourceUnit) := hst'.1.roots
      simp [State.leaveUnit, Context.close, Context.pop?, hframes', Context.modify, hroot,
        Context.ofRoot, Frame.modify, Frame.ofNode, Node.ofKind, Node.push]
    refine ⟨t'.leaveUnit, ?_, hdone, hcontext, hst'.1.diagnostics⟩
    have hsettled : t'.leaveUnit.shiftTrivia = t'.leaveUnit :=
      State.shiftTrivia_of_exhausted hdone
    rw [hstep, closeUnit_of_outermost (by rw [hcontext]; rfl), hsettled]

namespace Lifetime

variable {score : Similarity} {c : Configuration} {n : Nat} {s' : State} {unit : Node}

theorem exists_part (h : Lifetime score c n s' unit) (hc : Orderly c) :
    ∃ part, c.state.shiftTrivia.unread = part ++ s'.unread ∧ part ≠ [] ∧
      (Surroundings.ofPlace c.state.shiftTrivia s'.unread).coupling.ample
        ((step score)^[n] (step score c)).state.unread := by
  obtain ⟨s₁, hopen, hstep⟩ := h.opened
  obtain ⟨ts, hts, hmany⟩ := h.ended.exists_trailer (hc.step.iterate n)
  obtain ⟨before, hbefore⟩ : ts ++ s'.unread <:+ c.state.shiftTrivia.unread := by
    have hopened := (@performs_openUnit score c.state.shiftTrivia).unread_suffix
    rw [Production.final, hopen] at hopened
    have hlater := (@moves_iterate score n (step score c)).unread_suffix
    rw [hts, hstep] at hlater
    exact hlater.trans hopened
  refine ⟨before ++ ts, ?_, ?_, ts, hts, .inr hmany⟩
  · rw [← hbefore, List.append_assoc]
  · intro hnil
    rw [(List.append_eq_nil_iff.1 hnil).2] at hmany
    simp at hmany

section
variable (h : Lifetime score c n s' unit) (hc : Orderly c)
  (hwords : ∀ u ∈ c.state.unread, u.isEndOfInput = false) {part : List Token}
  (hpart : c.state.shiftTrivia.unread = part ++ s'.unread) (hne : part ≠ [])
  (hample : (Surroundings.ofPlace c.state.shiftTrivia s'.unread).coupling.ample
    ((step score)^[n] (step score c)).state.unread)
  {sentinel : Token} (hsentinels : c.state.stream.sentinel.Alike sentinel)
include h hc hwords hpart hne hample hsentinels

theorem follows_opened :
    (Surroundings.ofPlace c.state.shiftTrivia s'.unread).Follows (step score c)
      (step score ⟨.sourceUnit, .initial (.ofTokens part sentinel)⟩) := by
  obtain ⟨x, rest, rfl⟩ := List.exists_cons_of_ne_nil hne
  let alone : State := .initial (.ofTokens (x :: rest) sentinel)
  have hpeek : c.state.shiftTrivia.peek = x := State.peek_eq hpart
  have htrivia : x.isTrivia = false := hpeek ▸ c.state.isTrivia_peek_shiftTrivia hc.sentinel
  have hsettled : alone.shiftTrivia = alone := by
    apply State.shiftTrivia_of_none
    change triviaLength (x :: rest) = 0
    simp [triviaLength, htrivia]
  have hfaces : FacesUnit score .sourceUnit alone := by
    obtain ⟨-, hword, hopener⟩ := h.faces.outermost hwords
    rw [hpeek] at hword hopener
    refine ⟨?_, ?_, ?_⟩ <;> rw [hsettled]
    · exact List.cons_ne_nil x rest
    · exact hword
    · exact hopener
  obtain ⟨s₁, hopen, hstep⟩ := h.opened
  have hs₁ : (Surroundings.ofPlace c.state.shiftTrivia s'.unread).coupling.ample s₁.unread := by
    apply Surroundings.isGuard_ample.of_suffix hample
    have hlater := (@moves_iterate score n (step score c)).unread_suffix
    rwa [hstep] at hlater ⊢
  have hfresh := Surroundings.fresh_ofPlace hpart (hpeek ▸ htrivia) hc.sentinel hsentinels
  obtain ⟨_, t₁, hopen', -, hst⟩ :=
    Surroundings.sound_coupling.mirrors_openUnit.ok hfresh hopen hs₁
  have hopen'' : openUnit score alone = .ok () t₁ := hopen'
  rw [hstep, step_of_facesUnit hfaces, Configuration.after, hsettled, hopen'']
  exact ⟨rfl, hst⟩

/-- A unit that is read alone is all that is read, and what is found is what was found in it. -/
theorem finalState_part (hsentinel : sentinel.isEndOfInput) :
    (finalState score (.ofTokens part sentinel)).context =
        .ofRoot { kind := .sourceUnit, children := [unit.toElement] } ∧
      s'.diagnostics =
        c.state.diagnostics ++ (finalState score (.ofTokens part sentinel)).diagnostics := by
  let start : Configuration := ⟨.sourceUnit, .initial (.ofTokens part sentinel)⟩
  have hstart : Orderly start := .of_outside hsentinel rfl rfl
  have hnames : c.state.shiftTrivia.openNames.length =
      c.state.shiftTrivia.context.frames.length := by
    rw [State.frames_length_shiftTrivia]
    exact hc.names
  have hinside (i : Nat) (hi : i ≤ n) : c.state.shiftTrivia.context.frames.length <
      ((step score)^[i] (step score c)).state.context.frames.length := by
    rw [State.frames_length_shiftTrivia]
    exact h.inside i hi
  have hfollows :=
    (h.follows_opened hc hwords hpart hne hample hsentinels).iterate hnames hc.step
    hstart.step hinside hample h.ended
  obtain ⟨t', hstep, hdone, hcontext, hdiagnostics⟩ := hfollows.ends (hc.step.iterate n)
    (hstart.step.iterate n) hample h.ended
      (by rw [State.frames_length_shiftTrivia]; exact h.depth)
  have hrun : finalState score (.ofTokens part sentinel) = t' := by
    change run score start = t'
    rw [← run_iterate (n + 1 + 1), Function.iterate_succ_apply',
      Function.iterate_succ_apply, hstep]
    apply run_of_isFinal
    simp [Configuration.isFinal, hdone]
  rw [hrun]
  exact ⟨hcontext, hdiagnostics⟩

end

theorem exists_tells_after (h : Lifetime score c n s' unit) (hc : Orderly c)
    (hwords : ∀ u ∈ s'.unread, u.isEndOfInput = false) :
    ∃ after, Tells s' (run score c) s'.unread after := by
  have hstep := h.ended.step_eq
  have hrun : run score (closeUnit s') = run score c := by
    rw [← hstep, run_step, run_iterate, run_step]
  have hclosed : Orderly (closeUnit s') := by
    rw [← hstep]
    exact (hc.step.iterate n).step
  obtain ⟨gap, hgap⟩ := tells_closeUnit s'
  obtain ⟨after, hafter⟩ := exists_tells_run score hclosed (hgap.forall_unread hwords)
  refine ⟨after, ?_⟩
  have htells := hgap.trans hafter
  rwa [← hgap.unread, hrun, List.nil_append] at htells

end Lifetime

theorem exists_holds_of_mem_programs {score : Similarity} {tokens : List Token}
    {position : Position} {offset : Nat} {unit : Node}
    (hunit :
      unit ∈ (parseStream score (.ofTokens tokens (.endOfInput position offset))).programs) :
    unit.kind = .programUnit ∧ ∃ i, ((step score)^[i]
      ⟨.sourceUnit, .initial
        (.ofTokens tokens (.endOfInput position offset))⟩).state.context.Holds unit := by
  let start : Configuration :=
    ⟨.sourceUnit, .initial (.ofTokens tokens (.endOfInput position offset))⟩
  obtain ⟨i, hfinal, hrun⟩ := @exists_iterate_isFinal score start
  rw [Parsed.programs, List.mem_filter, Node.map_fst_walk, beq_iff_eq] at hunit
  obtain ⟨hmem, hkind⟩ := hunit
  refine ⟨hkind, i, ?_⟩
  have hframes : (run score start).context.frames = [] := by
    rw [← hrun]
    exact ((Orderly.initial tokens position offset).iterate i).outside.1
      (Configuration.isFinal_iff.1 hfinal).1
  have hroot : (parseStream score (.ofTokens tokens (.endOfInput position offset))).root =
      (run score start).context.root.node := Context.finish_of_outside hframes
  rw [hroot] at hmem
  rcases List.mem_cons.1 hmem with rfl | hmem
  · have hsource := (kind_root_finalState score _).symm.trans hkind
    cases hsource
  · change ((step score)^[i] start).state.context.Holds unit
    rw [hrun]
    exact .inl hmem

/--
A program unit of a finished tree that has a trailer has a lifetime in the run that built it.
-/
theorem exists_lifetime_of_mem_programs {score : Similarity} {tokens : List Token}
    {position : Position} {offset : Nat} {unit : Node}
    (hunit :
      unit ∈ (parseStream score (.ofTokens tokens (.endOfInput position offset))).programs)
    (htrailer : unit.trailer ≠ []) :
    ∃ k n s', Lifetime score ((step score)^[k]
      ⟨.sourceUnit, .initial (.ofTokens tokens (.endOfInput position offset))⟩) n s' unit := by
  let start : Configuration :=
    ⟨.sourceUnit, .initial (.ofTokens tokens (.endOfInput position offset))⟩
  have hstart : Orderly start := .initial tokens position offset
  obtain ⟨hkind, i, hholds⟩ := exists_holds_of_mem_programs hunit
  have hnone : ¬start.state.context.Holds unit := by
    rintro (hmem | ⟨f, hf, -⟩)
    · cases hmem
    · cases hf
  obtain ⟨m, -, s', hends⟩ := exists_ends_of_holds hstart hnone hkind htrailer i hholds
  obtain ⟨k, n, -, hlife⟩ := exists_lifetime hstart rfl hends
  exact ⟨k, n, s', hlife⟩

theorem eq_leaves_of_single {score : Similarity} {tokens : List Token}
    (hwords : ∀ t ∈ tokens, t.isEndOfInput = false) {sentinel : Token} {unit : Node}
    (hcontext : (finalState score (.ofTokens tokens sentinel)).context =
      .ofRoot { kind := .sourceUnit, children := [unit.toElement] }) :
    tokens = unit.leaves := by
  have hleaves := leaves_root_parseStream score (.ofTokens tokens sentinel)
  have hkept : tokens.filter (!·.isEndOfInput) = tokens := by
    apply List.filter_eq_self.2
    intro t ht
    simp [hwords t ht]
  have hroot : (parseStream score (.ofTokens tokens sentinel)).root =
      { kind := .sourceUnit, children := [unit.toElement] } :=
    congrArg Context.finish hcontext
  rw [hroot] at hleaves
  change Element.leavesAll [unit.toElement] = tokens.filter (!·.isEndOfInput) at hleaves
  rw [hkept, Element.leavesAll_singleton, Node.leaves_toElement] at hleaves
  exact hleaves.symm

theorem concerns_of_single {score : Similarity} {tokens : List Token}
    (hwords : ∀ t ∈ tokens, t.isEndOfInput = false) {position : Position}
    {offset : Nat} {unit : Node} (hkind : unit.kind = .programUnit)
    (hcontext : (finalState score (.ofTokens tokens (.endOfInput position offset))).context =
      .ofRoot { kind := .sourceUnit, children := [unit.toElement] }) :
    ∀ d ∈ (finalState score (.ofTokens tokens (.endOfInput position offset))).diagnostics,
      d.Concerns tokens := by
  intro d hd
  obtain ⟨-, haccounted⟩ := accounted_finalState score hwords position offset
  obtain ⟨ds, htells⟩ := exists_tells_run score (.initial tokens position offset) hwords
  have hds : (finalState score (.ofTokens tokens (.endOfInput position offset))).diagnostics =
      ds :=
    htells.diagnostics
  rcases htells.concerns d (hds ▸ hd) with hconcerns | ⟨-, hend⟩
  · exact hconcerns
  -- The text would have ended too early only in a skipped region.
  · rw [htells.sentinel] at hend
    obtain ⟨e, he, hskipped⟩ := haccounted.ended d hd hend
    rw [State.items, hcontext] at he
    rw [List.mem_singleton.1 he] at hskipped
    simp [Node.toElement, Element.isSkipped, hkind] at hskipped

end Parse

/--
A unit with a trailer of its own is read alone as it is read in the midst of a text. Its tokens
make a source unit with nothing else in it, and what is found is what is found about them in the
whole text.
-/
theorem parseStream_unit_alone (score : Similarity) (tokens : List Token)
    (hwords : ∀ t ∈ tokens, t.isEndOfInput = false) (position position' : Position)
    (offset offset' : Nat) (unit : Node) :
    let sentinel := Token.endOfInput position offset
    let whole := parseStream score (.ofTokens tokens sentinel)
    let alone := parseStream score (.ofTokens unit.leaves (.endOfInput position' offset'))
    unit ∈ whole.programs → unit.trailer ≠ [] →
      alone.root = { kind := .sourceUnit, children := [unit.toElement] } ∧
      (∃ pre post before after,
        tokens = pre ++ (unit.leaves ++ post) ∧
        whole.diagnostics = before ++ (alone.diagnostics ++ after) ∧
        (∀ d ∈ before, d.Concerns pre) ∧ (∀ d ∈ alone.diagnostics, d.Concerns unit.leaves) ∧
        ∀ d ∈ after, d.Concerns post ∨ d.BlamesEnd sentinel) ∧
      (((tokens ++ [sentinel]).map Token.range).Nodup →
        alone.diagnostics = whole.diagnostics.filter (·.Concerns unit.leaves)) := by
  intro sentinel whole alone hunit htrailer
  let start : Configuration := ⟨.sourceUnit, .initial (.ofTokens tokens sentinel)⟩
  have hstart : Orderly start := .initial tokens position offset
  obtain ⟨k, n, s', hlife⟩ := exists_lifetime_of_mem_programs hunit htrailer
  have hkind : unit.kind = .programUnit := by simpa using (List.mem_filter.1 hunit).2
  obtain ⟨read, before, hbefore⟩ := @tells_iterate score start hstart hwords k
  have hc : Orderly ((step score)^[k] start) := hstart.iterate k
  have hc_words := hbefore.forall_unread hwords
  obtain ⟨gap, hgap⟩ := tells_shiftTrivia ((step score)^[k] start).state
  -- Alone, the unit is built again, and so its tokens are those of the part.
  obtain ⟨part, hpart, hne, hample⟩ := hlife.exists_part hc
  have hsentinels : ((step score)^[k] start).state.stream.sentinel.Alike
      (.endOfInput position' offset') := by
    rw [hbefore.sentinel]
    exact .of_lexeme rfl rfl
  obtain ⟨hcontext, hfound⟩ := hlife.finalState_part hc hc_words hpart hne hample hsentinels rfl
  obtain ⟨hpart_words, hrest_words⟩ :=
    List.forall_mem_append.1 (hpart ▸ hgap.forall_unread hc_words)
  obtain rfl : part = unit.leaves := eq_leaves_of_single hpart_words hcontext
  obtain ⟨after, hafter⟩ := hlife.exists_tells_after hc hrest_words
  have htokens : tokens = (read ++ gap) ++ (unit.leaves ++ s'.unread) := by
    have hread := (hbefore.trans hgap).unread
    rwa [hpart] at hread
  have hfindings : whole.diagnostics = before ++ (alone.diagnostics ++ after) := by
    have hearlier : ((step score)^[k] start).state.diagnostics = before := hbefore.diagnostics
    have hlater := hafter.diagnostics
    rw [run_iterate, hfound, hearlier, List.append_assoc] at hlater
    exact hlater
  have hbefore_concerns : ∀ d ∈ before, d.Concerns (read ++ gap) := by
    intro d hd
    apply (hbefore.trans hgap).concerns_read
    · rw [hpart]
      exact List.append_ne_nil_of_left_ne_nil hne _
    · exact List.mem_append_left [] hd
  have halone_concerns : ∀ d ∈ alone.diagnostics, d.Concerns unit.leaves :=
    concerns_of_single hpart_words hkind hcontext
  have hafter_concerns : ∀ d ∈ after, d.Concerns s'.unread ∨ d.BlamesEnd sentinel := by
    intro d hd
    have hsentinel : (run score ((step score)^[k] start)).stream.sentinel = sentinel := by
      rw [run_iterate]
      exact (moves_finalState _).sentinel_eq
    refine (hafter.concerns d hd).imp_right fun hend => ?_
    rw [← hsentinel]
    exact hend.2
  refine ⟨congrArg Context.finish hcontext,
    ⟨read ++ gap, s'.unread, before, after, htokens, hfindings,
    hbefore_concerns, halone_concerns, hafter_concerns⟩, ?_⟩
  intro hdistinct
  rw [htokens, List.append_assoc, List.append_assoc unit.leaves] at hdistinct
  rw [hfindings]
  refine (filter_concerns hdistinct hbefore_concerns halone_concerns fun d hd => ?_).symm
  rcases hafter_concerns d hd with hconcerns | hend
  · exact hconcerns.mono fun t ht => List.mem_append_left _ ht
  · exact ⟨sentinel, by simp, hend.range_eq⟩

/-- Words and periods on one line, one directly behind the other. -/
def lineTokens (offset : Nat) : List String → List Token
  | [] => []
  | lexeme :: lexemes =>
    ⟨if lexeme = "." then .other else .word, lexeme, ⟨0, offset⟩,
      ⟨offset, offset + lexeme.length⟩⟩ ::
      lineTokens (offset + lexeme.length) lexemes

/-- A unit with a misspelt word, inside a unit that breaks down behind it. -/
def enclosedUnit : List Token :=
  lineTokens 0 ["ID", "DIVISION", ".", "PROGRAM-ID", ".", "OUTER", ".",
    "ID", "DIVISIN", ".", "PROGRAM-ID", ".", "INNER", ".", "END", "PROGRAM", "INNER", ".",
    "DATA", "DIVISION", "."]

theorem parseStream_unit_alone_enclosed :
    let sentinel := Token.endOfInput ⟨0, 84⟩ 84
    let whole := parseStream .jaroWinkler (.ofTokens enclosedUnit sentinel)
    ∃ unit ∈ whole.programs, unit.trailer ≠ [] ∧
      let alone := parseStream .jaroWinkler (.ofTokens unit.leaves (.endOfInput ⟨0, 0⟩ 0))
      alone.root = { kind := .sourceUnit, children := [unit.toElement] } ∧
        alone.diagnostics = whole.diagnostics.filter (·.Concerns unit.leaves) := by
  intro sentinel whole
  have hany : whole.programs.any (fun unit => !unit.trailer.isEmpty) := by
    change Parsed.programs ⟨(run Similarity.jaroWinkler
      ⟨.sourceUnit, .initial (.ofTokens enclosedUnit (.endOfInput ⟨0, 84⟩ 84))⟩).context.finish,
      _⟩ |>.any _
    rw [← run_iterate 10, run_of_isFinal (by decide +kernel)]
    decide +kernel
  obtain ⟨unit, hunit, htrailer⟩ := List.any_eq_true.1 hany
  have htrailer' : unit.trailer ≠ [] := by simpa using htrailer
  obtain ⟨hroot, -, hfindings⟩ :=
    parseStream_unit_alone .jaroWinkler enclosedUnit (by decide +kernel)
    ⟨0, 84⟩ ⟨0, 0⟩ 84 0 unit hunit htrailer'
  exact ⟨unit, hunit, htrailer', hroot, hfindings (by decide +kernel)⟩

end CobolCompanion
