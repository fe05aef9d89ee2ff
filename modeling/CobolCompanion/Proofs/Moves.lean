import CobolCompanion.Parse.Run
import CobolCompanion.Proofs.Significance
import Mathlib.Logic.Relation

namespace CobolCompanion

open Parse

namespace Parse

/-- One move of a parser. The end of input is never read into the node that is being built. -/
inductive Move : State → State → Prop where
  | report (s : State) (found : List Diagnostic) : Move s (s.report found)
  | shift (s : State) (n : Nat) (h : ∀ t ∈ s.unread.take n, t.isEndOfInput = false) :
      Move s (s.shift n)
  | skip (s : State) (n : Nat) : Move s (s.skip n)
  | openNode (s : State) (kind : NodeKind) : Move s (s.openNode kind)
  | closeNode (s : State) : Move s s.closeNode
  | nameUnit (s : State) (name : String) :
      Move s
        { s with
          openNames := upper name :: s.openNames
          context := s.context.modify ({ · with name := some name }) }
  | leaveUnit (s : State) : Move s s.leaveUnit
  | abandon (s : State) : Move s { s with context := s.context.abandon, openNames := [] }

abbrev Moves : State → State → Prop :=
  Relation.ReflTransGen Move

namespace Moves

variable {s s' : State}

/-- What no move changes, no sequence of moves changes. -/
theorem preserves {α : Type} {f : State → α} (hf : ∀ {s s'}, Move s s' → f s' = f s)
    (h : Moves s s') : f s' = f s := by
  induction h with
  | refl => rfl
  | tail _ hm ih => exact (hf hm).trans ih

end Moves

theorem isEndOfInput_of_mem_take_one {s : State} (h : s.peek.isEndOfInput = false) :
    ∀ t ∈ s.unread.take 1, t.isEndOfInput = false := by
  intro t ht
  unfold State.peek TokenStream.peek at h
  unfold State.unread at ht
  cases hu : s.stream.unread with
  | nil => simp [hu] at ht
  | cons u rest =>
    simp only [hu, List.take_succ_cons, List.take_zero, List.mem_singleton] at ht
    subst t
    simpa [hu] using h

theorem isEndOfInput_of_mem_take_contentLength {score : Similarity} {start : Bool}
    {unread : List Token} :
    ∀ t ∈ unread.take (contentLength score start unread), t.isEndOfInput = false := by
  intro t ht
  induction unread generalizing start with
  | nil => simp at ht
  | cons u rest ih =>
    unfold contentLength at ht
    split at ht
    · simp at ht
    · next hboundary =>
      simp only [List.take_succ_cons, List.mem_cons] at ht
      rcases ht with rfl | ht
      · exact Bool.eq_false_iff.2 fun he => hboundary (by simp [he])
      · exact ih ht

end Parse

namespace Production

variable {α β : Type} {score : Similarity} {keyword : String}
  {keywords : List String} {t : Token}

/-- A production does nothing but moves, whether it succeeds or not. -/
def Performs (p : Production α) : Prop :=
  ∀ s, Moves s (p.final s)

namespace Performs

theorem pure (a : α) : Performs (pure a : Production α) :=
  fun _ => .refl

theorem fail (f : Failure) : Performs (fail f : Production α) :=
  fun s => .single (.report s _)

theorem bind {p : Production α} {f : α → Production β} (hp : Performs p)
    (hf : ∀ a, Performs (f a)) :
    Performs (p >>= f) := by
  intro s
  have hs := hp s
  rw [final_bind]
  unfold final at hs
  cases h : p s with
  | ok a s' =>
    rw [h] at hs
    exact hs.trans (hf a s')
  | error e s' =>
    rw [h] at hs
    exact hs

theorem next_bind {f : Token → Production α} (hf : ∀ s, Moves s ((f s.peek).final s)) :
    Performs (next >>= f) :=
  fun s => hf s

theorem ite {c : Prop} [Decidable c] {p q : Production α} (hp : Performs p) (hq : Performs q) :
    Performs (if c then p else q) := by
  split
  · exact hp
  · exact hq

theorem inNode (kind : NodeKind) {p : Production α} (hp : Performs p) :
    Performs (Production.inNode kind p) := by
  intro s
  have hs := hp (s.openNode kind)
  have hopen : Moves s (s.openNode kind) := .single (.openNode s kind)
  unfold final at hs
  unfold final Production.inNode
  cases h : p (s.openNode kind) with
  | ok a s' =>
    rw [h] at hs
    exact (hopen.trans hs).tail (.closeNode s')
  | error e s' =>
    rw [h] at hs
    exact (hopen.trans hs).tail (.closeNode s')

end Performs

theorem moves_accept {s : State} (h : s.peek.isEndOfInput = false) :
    Moves s ((accept score t keyword).final s) := by
  have hreport : Moves s (s.report (Keyword.warnings score t keyword)) := .single (.report s _)
  exact hreport.tail (.shift _ 1 (isEndOfInput_of_mem_take_one (s := s) h))

theorem performs_spaces : Performs spaces := by
  intro s
  refine .single (.shift s _ fun t ht => ?_)
  exact t.isEndOfInput_of_isTrivia (isTrivia_of_mem_take_triviaLength t ht)

theorem performs_content : Performs (content score) :=
  fun s => .single (.shift s _ isEndOfInput_of_mem_take_contentLength)

theorem performs_sees : Performs (sees score keywords) :=
  .next_bind fun _ => .refl

theorem performs_programName : Performs programName := by
  refine .next_bind fun s => ?_
  split
  · exact Performs.fail _ s
  · next hend =>
    split
    · exact Performs.fail _ s
    · exact .single (.shift s 1 (isEndOfInput_of_mem_take_one (by simpa using hend)))

theorem performs_expect : Performs (expect score keyword) := by
  refine .next_bind fun s => ?_
  split
  · exact Performs.fail _ s
  · next hend =>
    split
    · exact moves_accept (by simpa using hend)
    · exact Performs.fail _ s

theorem performs_expectOneOf : Performs (expectOneOf score keywords) := by
  refine .next_bind fun s => ?_
  split
  · exact Performs.fail _ s
  · next hend =>
    cases choose? score s.peek keywords with
    | none => exact Performs.fail _ s
    | some keyword => exact moves_accept (by simpa using hend)

theorem performs_allow : Performs (allow score keyword) := by
  refine .next_bind fun s => ?_
  split
  · next h =>
    simp only [Bool.and_eq_true, Bool.not_eq_true'] at h
    exact moves_accept h.1
  · exact .refl

theorem performs_qualification : Performs (qualification score) := by
  have hrest : Performs (do
      expectOneOf score qualifiers
      spaces
      allow score "PROGRAM") :=
    performs_expectOneOf.bind fun _ => performs_spaces.bind fun _ => performs_allow
  refine performs_sees.bind fun _ => .ite ?_ (performs_sees.bind fun _ => .ite hrest (.pure _))
  exact performs_expect.bind fun _ => performs_spaces.bind fun _ => hrest

theorem performs_identificationHeader : Performs (identificationHeader score) :=
  performs_expectOneOf.bind fun _ => performs_spaces.bind fun _ => performs_expect.bind fun _ =>
    performs_spaces.bind fun _ => performs_expect.bind fun _ =>
    performs_spaces.bind fun _ => performs_expect.bind fun _ => performs_allow.bind fun _ =>
    performs_spaces.bind fun _ => performs_programName

theorem performs_identificationDivision : Performs (identificationDivision score) :=
  .inNode _ (performs_identificationHeader.bind fun _ =>
    performs_spaces.bind fun _ => performs_qualification.bind fun _ =>
    performs_spaces.bind fun _ => performs_allow.bind fun _ => performs_content.bind
      fun _ => .pure _)

theorem performs_divisionHeader (d : Division) : Performs (divisionHeader score d) := by
  have hperiod : Performs (do
      spaces
      expect score ".") :=
    performs_spaces.bind fun _ => performs_expect
  refine performs_expect.bind fun _ => performs_spaces.bind fun _ =>
    performs_expect.bind fun _ => ?_
  cases d with
  | environment => exact hperiod
  | data => exact hperiod
  | procedure => exact performs_allow

theorem performs_division (d : Division) : Performs (division score d) :=
  performs_spaces.bind fun _ =>
    .inNode _ ((performs_divisionHeader d).bind fun _ => performs_content)

theorem performs_endProgramWords : Performs (endProgramWords score) :=
  performs_spaces.bind fun _ => performs_expect.bind fun _ =>
    performs_spaces.bind fun _ => performs_expect.bind fun _ =>
    performs_spaces.bind fun _ => performs_programName.bind fun _ =>
    performs_spaces.bind fun _ => performs_expect.bind fun _ => .pure _

theorem performs_endProgram : Performs (endProgram score) := by
  refine performs_endProgramWords.bind fun name s => ?_
  rw [final_modify]
  unfold checkTrailer
  split
  · exact .refl
  · split
    · exact .refl
    · exact .single (.report s _)

end Production

namespace Parse

variable {score : Similarity}

theorem performs_openUnit : (openUnit score).Performs := by
  refine Production.Performs.bind (fun s => .single (.openNode s _)) fun _ => ?_
  refine Production.performs_identificationDivision.bind fun name s => ?_
  exact .single (.nameUnit s (programNameOf name))

theorem performs_unexpectedHeader : unexpectedHeader.Performs :=
  fun s => .single (.report s _)

theorem moves_shiftTrivia (s : State) : Moves s s.shiftTrivia :=
  Production.performs_spaces s

theorem moves_recover (s : State) : Moves s s.recover := by
  have habandon : Moves s { s with context := s.context.abandon, openNames := [] } :=
    .single (.abandon s)
  exact (habandon.tail (.skip _ 1)).tail (.skip _ _)

theorem moves_after {p : Production Unit} (hp : p.Performs) (phase : Phase) (s : State) :
    Moves s (Configuration.after p phase s).state := by
  have hs := hp s
  unfold Production.final at hs
  unfold Configuration.after
  cases h : p s with
  | ok a s' =>
    rw [h] at hs
    exact hs
  | error e s' =>
    rw [h] at hs
    exact hs.trans (moves_recover s')

theorem moves_closeUnit (s : State) : Moves s (closeUnit s).state := by
  have hleave : Moves s s.leaveUnit := .single (.leaveUnit s)
  unfold closeUnit
  split
  · exact hleave.trans (moves_shiftTrivia _)
  · exact hleave

theorem moves_sourceUnitStep (s : State) : Moves s (sourceUnitStep score s).state := by
  have hspaces := moves_shiftTrivia s
  unfold sourceUnitStep
  dsimp only
  split
  · exact hspaces
  · split
    · exact hspaces.trans (moves_after performs_openUnit _ _)
    · have hreport := hspaces.tail (.report _ [unknownInput s.shiftTrivia.peek])
      exact (hreport.tail (.skip _ 1)).trans (moves_shiftTrivia _)

theorem moves_programUnitStep (s : State) : Moves s (programUnitStep score s).state := by
  unfold programUnitStep
  split
  · exact (moves_shiftTrivia s).trans (moves_after performs_openUnit _ _)
  · split
    · exact moves_after performs_unexpectedHeader _ _
    · split
      · have hs := (@Production.performs_endProgram score) s
        unfold Production.final at hs
        split <;> next hrun =>
          rw [hrun] at hs
          first
          | exact hs.trans (moves_closeUnit _)
          | exact hs.trans (moves_recover _)
      · exact moves_closeUnit s

/-- A step of the machine is made of moves. -/
theorem moves_step (c : Configuration) : Moves c.state (step score c).state := by
  obtain ⟨phase, s⟩ := c
  match phase with
  | .sourceUnit => exact moves_sourceUnitStep s
  | .programUnit [] => exact moves_programUnitStep s
  | .programUnit (d :: divisions) =>
    simp only [step]
    split
    · exact moves_after (Production.performs_division d) _ _
    · exact .refl

/-- A run of the machine is made of moves. -/
theorem moves_run (c : Configuration) : Moves c.state (run score c) := by
  fun_induction run score c with
  | case1 c _ => exact .refl
  | case2 c _ ih => exact (moves_step c).trans ih

theorem Configuration.isFinal_iff {c : Configuration} :
    c.isFinal ↔ c.phase = .sourceUnit ∧ c.state.unread = [] := by
  simp [isFinal]

/-- A run ends where nothing is left to read. -/
theorem unread_run (c : Configuration) : (run score c).unread = [] := by
  fun_induction run score c with
  | case1 c hfinal => exact (Configuration.isFinal_iff.1 hfinal).2
  | case2 c _ ih => exact ih

theorem moves_finalState (stream : TokenStream) :
    Moves (.initial stream) (finalState score stream) :=
  moves_run ⟨.sourceUnit, .initial stream⟩

end Parse

end CobolCompanion
