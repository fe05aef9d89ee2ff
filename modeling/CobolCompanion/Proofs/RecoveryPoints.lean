import CobolCompanion.Proofs.Growth
import CobolCompanion.Proofs.UnitOrigins

namespace CobolCompanion

open Parse

theorem Node.exists_skipped_suffix (n : Node) {elements : List Element} (h : elements ≠ []) :
    ∃ before region, (n.pushSkipped elements).children = before ++ [region] ∧ region.isSkipped ∧
      Element.leavesAll elements <:+ region.leaves := by
  obtain ⟨before, heading, held, hkind, -, hpush⟩ | ⟨-, hpush⟩ := n.pushSkipped_cases h
  · refine ⟨before, .node heading (held ++ elements), by rw [hpush],
      by simp [Element.isSkipped, hkind], ?_⟩
    rw [Element.leaves, Element.leavesAll_append]
    exact List.suffix_append _ _
  · exact ⟨n.children, .node { kind := .skipped } elements, by rw [hpush, push], rfl,
      List.suffix_rfl⟩

theorem Production.Performs.moves_of_error {p : Production Unit} (hp : p.Performs)
    {s s' : State} {f : Failure} (h : p s = .error f s') : Moves s s' := by
  have hfinal := hp s
  rwa [Production.final, h] at hfinal

namespace Parse

theorem Context.leaves_of_outside {c : Context} (h : c.frames = []) :
    c.leaves = c.root.node.leaves := by
  rw [leaves, h, spineLeaves, List.append_nil]

def State.cursor (s : State) : Nat :=
  s.stream.tokens.length - s.unread.length

/-- Of some tokens the first ones have become leaves, and the others are still to be read. -/
structure Halfway (tokens : List Token) (s : State) : Prop where
  whole : s.stream.tokens = tokens
  split : s.context.leaves ++ s.unread = tokens

theorem Move.tokens_eq {s s' : State} (h : Move s s') : s'.stream.tokens = s.stream.tokens := by
  cases h <;> rfl

theorem Halfway.of_moves {tokens : List Token} {sentinel : Token} {s : State}
    (hend : ∀ t ∈ tokens, t.isEndOfInput = false)
    (h : Moves (.initial (.ofTokens tokens sentinel)) s) : Halfway tokens s := by
  have hall {ts : List Token} (hts : ts <:+ tokens) : ts.filter (!·.isEndOfInput) = ts := by
    apply List.filter_eq_self.2
    intro t ht
    simp [hend t (hts.mem ht)]
  constructor
  · exact h.preserves (f := fun s => s.stream.tokens) Move.tokens_eq
  · have hmaterial := h.preserves (f := State.material) Move.material
    rw [State.material_initial, State.material, hall h.unread_suffix] at hmaterial
    exact hmaterial.trans (hall List.suffix_rfl)

namespace Halfway

variable {tokens : List Token} {s : State}

theorem cursor_eq (h : Halfway tokens s) : s.cursor = s.context.leaves.length := by
  rw [State.cursor, h.whole, ← h.split, List.length_append, Nat.add_sub_cancel]

theorem leaves_eq_take (h : Halfway tokens s) : s.context.leaves = tokens.take s.cursor := by
  rw [h.cursor_eq, ← h.split, List.take_left]

theorem between_eq {s' : State} {ts : List Token} (h : Halfway tokens s)
    (h' : Halfway tokens s') (hleaves : s'.context.leaves = s.context.leaves ++ ts) :
    (tokens.take s'.cursor).drop s.cursor = ts := by
  rw [← h'.leaves_eq_take, hleaves, h.cursor_eq, List.drop_left]

theorem between_eq_of_unread {s' : State} {ts : List Token} (h : Halfway tokens s)
    (h' : Halfway tokens s') (hread : s.unread = ts ++ s'.unread) :
    (tokens.take s'.cursor).drop s.cursor = ts := by
  have hsplit : s'.context.leaves ++ s'.unread = s.context.leaves ++ ts ++ s'.unread := by
    rw [h'.split, List.append_assoc, ← hread, h.split]
  exact h.between_eq h' (List.append_cancel_right hsplit)

end Halfway

/-- The place one past the first period behind an index, or the end where there is none. -/
def PastPeriod (tokens : List Token) (k place : Nat) : Prop :=
  (∃ i t, k < i ∧ tokens[i]? = some t ∧ t.isTerminator ∧ place = i + 1 ∧
      ∀ j u, k < j → j < i → tokens[j]? = some u → u.isTerminator = false) ∨
    (∀ j u, k < j → tokens[j]? = some u → u.isTerminator = false) ∧ place = tokens.length

theorem pastPeriod_statementLength {k : Nat} {before ts : List Token} (hk : k < before.length)
    (hplain : ∀ j u, k < j → before[j]? = some u → u.isTerminator = false)
    (hend : ∀ t ∈ ts, t.isEndOfInput = false) :
    PastPeriod (before ++ ts) k (before.length + statementLength ts) := by
  induction ts generalizing before with
  | nil =>
    right
    rw [List.append_nil]
    exact ⟨hplain, rfl⟩
  | cons t ts ih =>
    rw [List.forall_mem_cons] at hend
    cases hperiod : t.isTerminator with
    | true =>
      left
      refine ⟨before.length, t, hk, by simp, hperiod, by simp [statementLength, hperiod], ?_⟩
      intro j u hkj hj hu
      rw [List.getElem?_append_left hj] at hu
      exact hplain j u hkj hu
    | false =>
      have hlength : before.length + statementLength (t :: ts) =
          (before ++ [t]).length + statementLength ts := by
        simp [statementLength, hperiod, hend.1]
        omega
      rw [hlength, List.append_cons]
      apply ih
      · simp
        omega
      · intro j u hkj hu
        rw [List.getElem?_append] at hu
        split at hu
        · exact hplain j u hkj hu
        · rw [List.mem_singleton.1 (List.mem_of_getElem? hu)]
          exact hperiod
      · exact hend.2

theorem statementLength_le_length (ts : List Token) : statementLength ts ≤ ts.length := by
  induction ts with
  | nil => exact Nat.le_refl 0
  | cons t ts ih =>
    rw [statementLength, List.length_cons]
    split <;> omega

/--
Recovery skips the token at which the machine stands, whatever it is, and then goes past a
period.
-/
theorem Halfway.pastPeriod_recover {tokens : List Token} {s : State} (h : Halfway tokens s)
    (hend : ∀ t ∈ tokens, t.isEndOfInput = false) :
    PastPeriod tokens s.cursor s.recover.cursor := by
  have hplace : s.recover.cursor = tokens.length - s.recover.unread.length := by
    rw [← h.whole]
    rfl
  rw [hplace, State.unread_recover_eq]
  have hsplit := h.split
  have hcursor := h.cursor_eq
  cases hunread : s.unread with
  | nil =>
    rw [hunread, List.append_nil] at hsplit
    right
    constructor
    · intro j u hj hu
      rw [hcursor, hsplit] at hj
      rw [List.getElem?_eq_none (Nat.le_of_lt hj)] at hu
      cases hu
    · simp
  | cons t rest =>
    rw [hunread, List.append_cons] at hsplit
    have hle := statementLength_le_length rest
    have hpast : tokens.length - ((t :: rest).drop (1 + statementLength rest)).length =
        (s.context.leaves ++ [t]).length + statementLength rest := by
      simp only [← hsplit, List.length_append, List.length_drop, List.length_cons]
      omega
    rw [List.drop_one, List.tail_cons, hpast]
    nth_rewrite 1 [← hsplit]
    apply pastPeriod_statementLength
    · simp [hcursor]
    · intro j u hj hu
      rw [hcursor] at hj
      rw [List.getElem?_eq_none (by simp; omega)] at hu
      cases hu
    · intro u hu
      apply hend
      rw [← hsplit]
      exact List.mem_append_right _ hu

variable {score : Similarity}

theorem Fails.step_eq {c : Configuration} {f : Failure} {s' : State} (h : Fails score c f s') :
    step score c = ⟨.sourceUnit, s'.recover⟩ := by
  cases h with
  | opening hfaces hopen => rw [step_of_facesUnit hfaces, Configuration.after, hopen]
  | division hheader hdivision => simp [step, hheader, Configuration.after, hdivision]
  | header hunit hheader hrun =>
    simp [step, programUnitStep, hunit, hheader, Configuration.after, hrun]
  | trailer hend htrailer hown hwords =>
    simp [step, programUnitStep, hend.noUnit, hend.noHeader, htrailer, hown, hwords]

theorem Orderly.rootNode_shiftTrivia {c : Configuration} (h : Orderly c)
    (hphase : c.phase ≠ .sourceUnit) :
    c.state.shiftTrivia.rootNode = c.state.rootNode := by
  obtain ⟨gap, -, hreads⟩ := c.state.exists_reads_shiftTrivia
  exact hreads.rootNode_eq (mt h.outside.2 hphase)

theorem rootNode_closeUnit {s : State} (h : (closeUnit s).phase ≠ .sourceUnit) :
    (closeUnit s).state.rootNode = s.rootNode := by
  by_cases hnone : s.leaveUnit.context.frames = []
  · rw [closeUnit_of_outermost hnone] at h
    exact absurd rfl h
  rw [closeUnit_of_nested hnone]
  cases hframes : s.context.frames with
  | nil =>
    have hlength : s.leaveUnit.context.frames.length = 0 := by
      rw [State.leaveUnit, Context.frames_length_close, hframes, List.length_nil]
    exact absurd (List.length_eq_zero_iff.1 hlength) hnone
  | cons f fs =>
    rw [State.context_leaveUnit hframes] at hnone
    rw [State.rootNode, State.context_leaveUnit hframes, Context.root_modify, State.rootNode]
    intro hfs
    exact hnone (Context.frames_modify_eq_nil hfs _)

/--
Until the machine is outside all units again, nothing goes to the root but trivia before a unit.
-/
theorem Orderly.rootNode_step {c : Configuration} (h : Orderly c)
    (hinside : (Parse.step score c).phase ≠ .sourceUnit) :
    (Parse.step score c).state.rootNode = c.state.shiftTrivia.rootNode := by
  have hadvance := advance_step score c
  generalize Parse.step score c = c' at hadvance hinside
  cases hadvance with
  | finishes hend => exact absurd rfl hinside
  | skips hmore hother => exact absurd rfl hinside
  | opens hfaces hopen =>
    obtain ⟨f, -, hcontext, -⟩ := frames_of_openUnit hopen h.sentinel
    rw [State.rootNode, hcontext, State.rootNode]
  | passes hheader => exact (h.rootNode_shiftTrivia (by simp)).symm
  | reads hheader hdivision =>
    obtain ⟨gap, ts, -, hreads⟩ := exists_reads_of_division hdivision h.sentinel
    rw [h.rootNode_shiftTrivia (by simp)]
    exact hreads.rootNode_eq (mt h.outside.2 (by simp))
  | leaves hend htrailer =>
    rw [h.rootNode_shiftTrivia (by simp)]
    exact rootNode_closeUnit hinside
  | ends hend htrailer hown hwords =>
    obtain ⟨ts, _, _, name, _, s₁, hreads, -, rfl⟩ :=
      exists_reads_of_endProgram hwords h.sentinel
    rw [h.rootNode_shiftTrivia (by simp), rootNode_closeUnit hinside, State.rootNode,
      checkTrailer_context]
    exact hreads.rootNode_eq (mt h.outside.2 (by simp))
  | fails hfails => exact absurd rfl hinside

/--
What a failure comes to: the production that gave up had read some tokens in a unit, with
warnings about misspellings among them, and complained once.
-/
structure Collapse (s : State) (f : Failure) (s' : State) (read : List Token) : Prop where
  unread : s.unread = read ++ s'.unread
  reported : ∃ ds, Misspellings read ds ∧ s'.diagnostics = s.diagnostics ++ ds ++ [f.diagnostic]
  rootNode : s'.rootNode = s.shiftTrivia.rootNode

theorem Collapse.of_reads {s s₁ : State} {es : List Element} {f : Failure}
    (hopen : s.context.frames ≠ []) (h : Reads s es s₁) :
    Collapse s f (s₁.report [f.diagnostic]) (Element.leavesAll es) := by
  obtain ⟨ds, hds, hwarned⟩ := h.diagnostics
  obtain ⟨gap, -, htrivia⟩ := s.exists_reads_shiftTrivia
  refine ⟨h.unread, ⟨ds, hwarned, ?_⟩, ?_⟩
  · exact congrArg (· ++ [f.diagnostic]) hds
  · exact (h.rootNode_eq hopen).trans (htrivia.rootNode_eq hopen).symm

theorem Collapse.of_entry {s s₁ : State} {es : List Element} {f : Failure}
    (h : Reads (s.shiftTrivia.openNode .programUnit) es s₁) :
    ∃ read, Collapse s f (s₁.report [f.diagnostic]) read := by
  obtain ⟨gap, -, htrivia⟩ := s.exists_reads_shiftTrivia
  obtain ⟨ds, hds, hwarned⟩ := h.diagnostics
  have hunread := htrivia.unread
  rw [Element.leavesAll_map_token] at hunread
  refine ⟨gap ++ Element.leavesAll es, ?_, ⟨ds, ?_, ?_⟩, ?_⟩
  · rw [hunread, List.append_assoc]
    exact congrArg (gap ++ ·) h.unread
  · exact (Misspellings.none gap).append hwarned
  · exact congrArg (· ++ [f.diagnostic]) hds
  · exact h.rootNode_eq (List.cons_ne_nil _ _)

theorem Fails.exists_collapse {c : Configuration} {f : Failure} {s' : State}
    (h : Fails score c f s') (hc : Orderly c) : ∃ read, Collapse c.state f s' read := by
  cases h with
  | opening hfaces hopen =>
    obtain ⟨ts, s₁, hreads, -, rfl⟩ := exists_givesUp_of_openUnit hopen hc.sentinel
    exact Collapse.of_entry hreads
  | division hheader hdivision =>
    obtain ⟨gap, ts, s₁, -, hreads, -, rfl⟩ := exists_givesUp_of_division hdivision hc.sentinel
    exact ⟨_, .of_reads (mt hc.outside.2 (by simp)) hreads⟩
  | header hunit hheader hrun =>
    cases hrun
    exact ⟨_, .of_reads (mt hc.outside.2 (by simp)) (.refl _)⟩
  | trailer hend htrailer hown hwords =>
    obtain ⟨ts, s₁, hreads, -, rfl⟩ := exists_givesUp_of_endProgram hwords hc.sentinel
    exact ⟨_, .of_reads (mt hc.outside.2 (by simp)) hreads⟩

theorem Fails.moves {c : Configuration} {f : Failure} {s' : State} (h : Fails score c f s') :
    Moves c.state s' := by
  cases h with
  | opening hfaces hopen =>
    exact (moves_shiftTrivia _).trans (performs_openUnit.moves_of_error hopen)
  | division hheader hdivision =>
    exact (Production.performs_division _).moves_of_error hdivision
  | header hunit hheader hrun => exact performs_unexpectedHeader.moves_of_error hrun
  | trailer hend htrailer hown hwords =>
    exact Production.performs_endProgram.moves_of_error hwords

section
variable (score)

/--
Of the units that are open after so many steps the outermost was entered in a certain step.
-/
structure Entered (start : Configuration) (i n : Nat) : Prop where
  before : i ≤ n
  outside : ((step score)^[i] start).phase = .sourceUnit
  faces : FacesUnit score .sourceUnit ((step score)^[i] start).state
  inside : ∀ j, i < j → j ≤ n → ((step score)^[j] start).phase ≠ .sourceUnit

end

theorem Fails.facesUnit {c : Configuration} {f : Failure} {s' : State} (h : Fails score c f s')
    (hphase : c.phase = .sourceUnit) : FacesUnit score .sourceUnit c.state := by
  cases h with
  | opening hfaces hopen =>
    cases hphase
    exact hfaces
  | division => cases hphase
  | header => cases hphase
  | trailer => cases hphase

/-- A failure happens in a unit that was entered from outside. -/
theorem Fails.exists_entered {start : Configuration} (hstart : Orderly start)
    (hphase : start.phase = .sourceUnit) {n : Nat} {f : Failure} {s' : State}
    (h : Fails score ((step score)^[n] start) f s') : ∃ i, Entered score start i n := by
  have hlow (j : Nat) : ((step score)^[j] start).phase = .sourceUnit ↔
      ((step score)^[j] start).state.context.frames.length ≤ 0 := by
    rw [(hstart.iterate j).outside, Nat.le_zero, List.length_eq_zero_iff]
  by_cases hn : ((step score)^[n] start).phase = .sourceUnit
  · refine ⟨n, Nat.le_refl n, hn, h.facesUnit hn, ?_⟩
    intro j hj hjn
    omega
  · obtain ⟨i, hin, hi, hsince⟩ :=
      @exists_last_low (fun j => ((step score)^[j] start).state.context.frames.length) 0
        ((hlow 0).1 hphase) n (Nat.lt_of_not_le (mt (hlow n).2 hn))
    have hdeeper := hsince (i + 1) (by omega) (by omega)
    rw [Function.iterate_succ_apply'] at hdeeper
    obtain ⟨s₁, hfaces, -⟩ :=
      exists_opens_of_depth (hstart.iterate i) (Nat.lt_of_le_of_lt hi hdeeper)
    have houtside := (hlow i).2 hi
    rw [houtside] at hfaces
    refine ⟨i, Nat.le_of_lt hin, houtside, hfaces, ?_⟩
    intro j hj hjn
    exact mt (hlow j).1 (Nat.not_le_of_lt (hsince j hj hjn))

theorem Entered.rootNode_eq {start : Configuration} (hstart : Orderly start) {i n : Nat}
    (h : Entered score start i n) :
    ((step score)^[n] start).state.shiftTrivia.rootNode =
      ((step score)^[i] start).state.shiftTrivia.rootNode := by
  obtain ⟨hin, -, -, hinside⟩ := h
  induction n, hin using Nat.le_induction with
  | base => rfl
  | succ n hin ih =>
    have hn := hinside (n + 1) (by omega) (by omega)
    rw [(hstart.iterate (n + 1)).rootNode_shiftTrivia hn]
    rw [Function.iterate_succ_apply'] at hn ⊢
    rw [(hstart.iterate n).rootNode_step hn]
    apply ih
    intro j hj hjn
    exact hinside j hj (by omega)

/--
What a failure comes to after one more step, for a machine that has made so many steps and then
raised it: the machine is outside all units and past the next period, and the skipped node at
the end of the root ends with all that was read since the outermost unit was entered.
-/
structure Recovery (score : Similarity) (tokens : List Token) (start : Configuration) (n : Nat)
    (f : Failure) (raised : State) : Prop where
  outside : ((step score)^[n + 1] start).phase = .sourceUnit
  frames : ((step score)^[n + 1] start).state.context.frames = []
  openNames : ((step score)^[n + 1] start).state.openNames = []
  place : PastPeriod tokens raised.cursor ((step score)^[n + 1] start).state.cursor
  diagnostics : ∃ ds,
    Misspellings ((tokens.take raised.cursor).drop ((step score)^[n] start).state.cursor) ds ∧
      ((step score)^[n + 1] start).state.diagnostics =
        ((step score)^[n] start).state.diagnostics ++ ds ++ [f.diagnostic]
  skipped : ∃ i before region, Entered score start i n ∧
    ((step score)^[n + 1] start).state.items = before ++ [region] ∧ region.isSkipped ∧
      (tokens.take ((step score)^[n + 1] start).state.cursor).drop
        ((step score)^[i] start).state.shiftTrivia.cursor <:+ region.leaves

end Parse

/-- Every failure is recovered from in the step in which it is raised, wherever that is. -/
theorem recovery_of_fails (score : Similarity) (tokens : List Token)
    (hend : ∀ t ∈ tokens, t.isEndOfInput = false) (position : Position) (offset : Nat)
    (start : Configuration)
    (hstart : start = ⟨.sourceUnit, .initial (.ofTokens tokens (.endOfInput position offset))⟩)
    (n : Nat) (f : Failure) (raised : State)
    (hfails : Fails score ((step score)^[n] start) f raised) :
    Recovery score tokens start n f raised := by
  have horderly : Orderly start := hstart ▸ Orderly.initial tokens position offset
  have hhalfway {s : State} (h : Moves start.state s) : Halfway tokens s := by
    rw [hstart] at h
    exact .of_moves hend h
  have hmoves := @moves_iterate score n start
  have hraised := hhalfway (hmoves.trans hfails.moves)
  have hnext := hhalfway (hmoves.trans (hfails.moves.trans (moves_recover raised)))
  have hstep : (step score)^[n + 1] start = ⟨.sourceUnit, raised.recover⟩ := by
    rw [Function.iterate_succ_apply', hfails.step_eq]
  obtain ⟨read, hunread, ⟨ds, hwarned, hds⟩, hroot⟩ :=
    hfails.exists_collapse (horderly.iterate n)
  obtain ⟨i, hentered⟩ := hfails.exists_entered horderly (by rw [hstart])
  have hremnants := (hfails.founded (horderly.iterate n)).beginsWithDivision_remnants.ne_nil
  obtain ⟨before, region, hitems, hskipped, hsuffix⟩ := raised.rootNode.exists_skipped_suffix
    (List.append_ne_nil_of_left_ne_nil hremnants
      ((raised.spoilt.filter (!·.isEndOfInput)).map .token))
  constructor <;> rw [hstep]
  case frames => exact State.frames_recover raised
  case openNames => rfl
  case place => exact hraised.pastPeriod_recover hend
  case diagnostics =>
    exact ⟨ds, (hhalfway hmoves).between_eq_of_unread hraised hunread ▸ hwarned, hds⟩
  case skipped =>
    refine ⟨i, before, region, hentered, ?_, hskipped, ?_⟩
    · rw [State.items, State.context_recover]
      exact hitems
    · have hentry := hhalfway ((@moves_iterate score i start).trans (moves_shiftTrivia _))
      have hnone := State.frames_shiftTrivia_eq_nil_iff.2
        ((horderly.iterate i).outside.1 hentered.outside)
      have hleaves : raised.recover.context.leaves =
          ((step score)^[i] start).state.shiftTrivia.context.leaves ++ Element.leavesAll
            (raised.context.remnants ++
              (raised.spoilt.filter (!·.isEndOfInput)).map .token) := by
        rw [State.context_recover, Context.leaves_of_outside rfl,
          Context.leaves_of_outside hnone]
        change (raised.rootNode.pushSkipped _).leaves = _
        rw [hroot, hentered.rootNode_eq horderly, Node.leaves_pushSkipped]
        rfl
      rw [hentry.between_eq hnext hleaves]
      exact hsuffix

/-- A unit in which another one begins and has no name. -/
def namelessInner : String :=
  "ID DIVISION. PROGRAM-ID. OUTER. ID DIVISION. AUTHOR X. DATA DIVISION."

theorem recovery_of_fails_namelessInner :
    let start : Configuration :=
      ⟨.sourceUnit, .initial (.ofTokens (scan namelessInner) (.endOfInput ⟨0, 69⟩ 69))⟩
    ∃ f raised, Fails .jaroWinkler ((step .jaroWinkler)^[4] start) f raised ∧
      Recovery .jaroWinkler (scan namelessInner) start 4 f raised := by
  intro start
  have hend : ∀ t ∈ scan namelessInner, t.isEndOfInput = false := by decide +kernel
  obtain ⟨hphase, hunit, hgivesUp⟩ :
      ((step .jaroWinkler)^[4] start).phase = .programUnit [] ∧
      atIdentificationHeader .jaroWinkler ((step .jaroWinkler)^[4] start).state.unread ∧
      (step .jaroWinkler ((step .jaroWinkler)^[4] start)).phase = .sourceUnit := by
    decide +kernel
  have hfaces : FacesUnit .jaroWinkler ((step .jaroWinkler)^[4] start).phase
      ((step .jaroWinkler)^[4] start).state := by
    rw [hphase]
    exact hunit
  rw [step_of_facesUnit hfaces, Configuration.after] at hgivesUp
  cases hrun : openUnit .jaroWinkler ((step .jaroWinkler)^[4] start).state.shiftTrivia with
  | ok u s' =>
    rw [hrun] at hgivesUp
    cases hgivesUp
  | error f raised =>
    have hfails : Fails .jaroWinkler ((step .jaroWinkler)^[4] start) f raised :=
      .opening hfaces hrun
    exact ⟨f, raised, hfails, recovery_of_fails _ _ hend _ _ start rfl 4 f raised hfails⟩

end CobolCompanion
