import CobolCompanion.Parse.Machine

namespace CobolCompanion

open Parse

namespace Production

variable {α β : Type} {score : Similarity} {keyword : String}
  {keywords : List String} {t : Token}

def final (p : Production α) (s : State) : State :=
  match p s with
  | .ok _ s => s
  | .error _ s => s

/-- A production reads on and leaves as many open nodes as it found. -/
structure ReadsOn (p : Production α) : Prop where
  unread_le : ∀ s, (p.final s).unread.length ≤ s.unread.length
  frames_eq : ∀ s, (p.final s).context.frames.length = s.context.frames.length

theorem final_modify (change : State → State) (s : State) :
    (modify change : Production PUnit).final s = change s :=
  rfl

theorem final_bind (p : Production α) (f : α → Production β) (s : State) :
    (p >>= f).final s = match p s with
      | .ok a s => (f a).final s
      | .error _ s => s := by
  change (match EStateM.bind p f s with | .ok _ s => s | .error _ s => s) = _
  unfold EStateM.bind
  cases p s <;> rfl

namespace ReadsOn

theorem pure (a : α) : ReadsOn (pure a : Production α) :=
  ⟨fun _ => Nat.le_refl _, fun _ => rfl⟩

theorem fail (f : Failure) : ReadsOn (fail f : Production α) :=
  ⟨fun _ => Nat.le_refl _, fun _ => rfl⟩

theorem bind {p : Production α} {f : α → Production β} (hp : ReadsOn p)
    (hf : ∀ a, ReadsOn (f a)) :
    ReadsOn (p >>= f) := by
  constructor <;> intro s <;> rw [final_bind]
  · have hs := hp.unread_le s
    unfold final at hs
    cases h : p s with
    | ok a s' =>
      rw [h] at hs
      exact Nat.le_trans ((hf a).unread_le s') hs
    | error e s' =>
      rw [h] at hs
      exact hs
  · have hs := hp.frames_eq s
    unfold final at hs
    cases h : p s with
    | ok a s' =>
      rw [h] at hs
      exact ((hf a).frames_eq s').trans hs
    | error e s' =>
      rw [h] at hs
      exact hs

theorem ite {c : Prop} [Decidable c] {p q : Production α} (hp : ReadsOn p) (hq : ReadsOn q) :
    ReadsOn (if c then p else q) := by
  split
  · exact hp
  · exact hq

theorem inNode (kind : NodeKind) {p : Production α} (hp : ReadsOn p) :
    ReadsOn (Production.inNode kind p) := by
  constructor <;> intro s <;> unfold final Production.inNode
  · have hs := hp.unread_le (s.openNode kind)
    unfold final at hs
    cases h : p (s.openNode kind) <;> rw [h] at hs <;> exact hs
  · have hs := hp.frames_eq (s.openNode kind)
    unfold final at hs
    cases h : p (s.openNode kind) <;> rw [h] at hs <;>
      simp only [State.openNode, State.closeNode, Context.frames_length_push,
        Context.frames_length_close] at hs ⊢ <;> omega

/-- Shifting reads on, whatever else is changed but the open nodes. -/
theorem shift (f : State → Nat) : ReadsOn (modify fun s => s.shift (f s) : Production PUnit) :=
  ⟨fun s => by simp [final_modify], fun s => by simp [final_modify, State.shift, State.read]⟩

end ReadsOn

theorem readsOn_next : ReadsOn next :=
  ⟨fun _ => Nat.le_refl _, fun _ => rfl⟩

theorem readsOn_spaces : ReadsOn spaces :=
  .shift fun s => triviaLength s.unread

theorem readsOn_programName : ReadsOn programName :=
  readsOn_next.bind fun _ =>
    .ite (.fail _) (.ite (.fail _) ((ReadsOn.shift _).bind fun _ => .pure _))

theorem readsOn_accept : ReadsOn (accept score t keyword) :=
  ⟨fun s => by simp [accept, final_modify],
   fun s => by simp [accept, final_modify, State.shift, State.read, State.report]⟩

theorem readsOn_sees : ReadsOn (sees score keywords) :=
  readsOn_next.bind fun _ => .pure _

theorem readsOn_expect : ReadsOn (expect score keyword) :=
  readsOn_next.bind fun _ => .ite (.fail _) (.ite readsOn_accept (.fail _))

theorem readsOn_acceptChosen (choice : Option String) :
    ReadsOn (acceptChosen score t keywords choice) := by
  cases choice with
  | none => exact .fail _
  | some => exact readsOn_accept

theorem readsOn_expectOneOf : ReadsOn (expectOneOf score keywords) :=
  readsOn_next.bind fun _ => .ite (.fail _) (readsOn_acceptChosen _)

theorem readsOn_allow : ReadsOn (allow score keyword) :=
  readsOn_next.bind fun _ => .ite readsOn_accept (.pure _)

theorem readsOn_content : ReadsOn (content score) :=
  .shift fun s => contentLength score s.statementStart s.unread

theorem readsOn_qualification : ReadsOn (qualification score) := by
  have hrest : ReadsOn (do
      expectOneOf score qualifiers
      spaces
      allow score "PROGRAM") :=
    readsOn_expectOneOf.bind fun _ => readsOn_spaces.bind fun _ => readsOn_allow
  refine readsOn_sees.bind fun _ => .ite ?_ (readsOn_sees.bind fun _ => .ite hrest (.pure _))
  exact readsOn_expect.bind fun _ => readsOn_spaces.bind fun _ => hrest

theorem readsOn_divisionHeader (d : Division) : ReadsOn (divisionHeader score d) := by
  refine readsOn_expect.bind fun _ => readsOn_spaces.bind fun _ =>
    readsOn_expect.bind fun _ => ?_
  have hperiod : ReadsOn (do
      spaces
      expect score ".") :=
    readsOn_spaces.bind fun _ => readsOn_expect
  cases d with
  | environment => exact hperiod
  | data => exact hperiod
  | procedure => exact readsOn_allow

theorem readsOn_division (d : Division) : ReadsOn (division score d) :=
  readsOn_spaces.bind fun _ =>
    .inNode _ ((readsOn_divisionHeader d).bind fun _ => readsOn_content)

theorem readsOn_endProgramWords : ReadsOn (endProgramWords score) :=
  readsOn_spaces.bind fun _ => readsOn_expect.bind fun _ =>
    readsOn_spaces.bind fun _ => readsOn_expect.bind fun _ =>
    readsOn_spaces.bind fun _ => readsOn_programName.bind fun _ =>
    readsOn_spaces.bind fun _ => readsOn_expect.bind fun _ => .pure _

theorem readsOn_endProgram : ReadsOn (endProgram score) := by
  refine readsOn_endProgramWords.bind fun name => ⟨fun s => ?_, fun s => ?_⟩ <;>
    simp only [final_modify, checkTrailer] <;>
    split <;> try split
  all_goals first | exact Nat.le_refl _ | rfl

theorem readsOn_identificationHeader : ReadsOn (identificationHeader score) :=
  readsOn_expectOneOf.bind fun _ => readsOn_spaces.bind fun _ => readsOn_expect.bind fun _ =>
    readsOn_spaces.bind fun _ => readsOn_expect.bind fun _ =>
    readsOn_spaces.bind fun _ => readsOn_expect.bind fun _ => readsOn_allow.bind fun _ =>
    readsOn_spaces.bind fun _ => readsOn_programName

/-- A production that succeeds where something is left to read has read some of it. -/
def ReadsSome (p : Production α) : Prop :=
  ∀ s a s', s.unread ≠ [] → p s = .ok a s' → s'.unread.length < s.unread.length

theorem ReadsSome.bind {p : Production α} {f : α → Production β} (hp : ReadsSome p)
    (hf : ∀ a, ReadsOn (f a)) : ReadsSome (p >>= f) := by
  intro s b s' hne h
  change EStateM.bind p f s = _ at h
  unfold EStateM.bind at h
  cases hps : p s with
  | ok a s₁ =>
    rw [hps] at h
    have hf₁ := (hf a).unread_le s₁
    simp only [final, h] at hf₁
    exact Nat.lt_of_le_of_lt hf₁ (hp s a s₁ hne hps)
  | error e s₁ => simp [hps] at h

theorem ReadsSome.inNode (kind : NodeKind) {p : Production α} (hp : ReadsSome p) :
    ReadsSome (Production.inNode kind p) := by
  intro s a s' hne h
  unfold Production.inNode at h
  cases hps : p (s.openNode kind) with
  | ok b s₁ =>
    simp only [hps, EStateM.Result.ok.injEq] at h
    obtain ⟨rfl, rfl⟩ := h
    exact hp (s.openNode kind) b s₁ hne hps
  | error e s₁ => simp [hps] at h

theorem readsSome_expectOneOf : ReadsSome (expectOneOf score keywords) := by
  intro s a s' hne h
  have hpos := List.length_pos_iff.2 hne
  have hrun : expectOneOf score keywords s =
      (if s.peek.isEndOfInput then
        Production.fail (.unexpectedEndOfInput (quoteAll keywords) s.peek.range)
      else acceptChosen score s.peek keywords (choose? score s.peek keywords)) s := rfl
  rw [hrun] at h
  by_cases heof : s.peek.isEndOfInput
  · rw [if_pos heof] at h
    cases h
  · rw [if_neg heof] at h
    cases hchoice : choose? score s.peek keywords with
    | none =>
      rw [hchoice] at h
      cases h
    | some keyword =>
      rw [hchoice] at h
      cases h
      simp only [State.unread_shift, State.unread_report, List.length_drop]
      omega

theorem readsSome_identificationDivision : ReadsSome (identificationDivision score) := by
  refine .inNode _ (.bind ?_ fun name => ?_)
  · exact readsSome_expectOneOf.bind fun _ => readsOn_spaces.bind fun _ =>
      readsOn_expect.bind fun _ =>
      readsOn_spaces.bind fun _ => readsOn_expect.bind fun _ =>
      readsOn_spaces.bind fun _ => readsOn_expect.bind fun _ => readsOn_allow.bind fun _ =>
      readsOn_spaces.bind fun _ => readsOn_programName
  · exact readsOn_spaces.bind fun _ => readsOn_qualification.bind fun _ =>
      readsOn_spaces.bind fun _ => readsOn_allow.bind fun _ => readsOn_content.bind
        fun _ => .pure _

theorem readsOn_identificationDivision : ReadsOn (identificationDivision score) :=
  .inNode _ (readsOn_identificationHeader.bind fun _ =>
    readsOn_spaces.bind fun _ => readsOn_qualification.bind fun _ =>
    readsOn_spaces.bind fun _ => readsOn_allow.bind fun _ => readsOn_content.bind
      fun _ => .pure _)

end Production

namespace Parse

variable {score : Similarity}

theorem unread_final_openUnit_le (s : State) :
    ((openUnit score).final s).unread.length ≤ s.unread.length := by
  have h := (@Production.readsOn_identificationDivision score).unread_le
    (s.openNode .programUnit)
  unfold openUnit
  rw [Production.final_bind]
  change (Production.final (Production.identificationDivision score >>= _)
    (s.openNode .programUnit)).unread.length ≤ _
  rw [Production.final_bind]
  unfold Production.final at h
  cases hp : Production.identificationDivision score (s.openNode .programUnit) <;>
    rw [hp] at h <;>
    exact h

theorem readsSome_openUnit : (openUnit score).ReadsSome := by
  intro s a s' hne h
  change EStateM.bind (Production.identificationDivision score) _ (s.openNode .programUnit) = _
    at h
  unfold EStateM.bind at h
  cases hp : Production.identificationDivision score (s.openNode .programUnit) with
  | ok name s₁ =>
    rw [hp] at h
    cases h
    exact Production.readsSome_identificationDivision (s.openNode .programUnit) name s₁ hne hp
  | error e s₁ => simp [hp] at h

theorem State.unread_recover (s : State) :
    s.recover.unread = (s.unread.drop 1).drop (statementLength (s.unread.drop 1)) := rfl

theorem State.frames_recover (s : State) : s.recover.context.frames = [] := by
  have h : s.recover.context.frames.length = 0 := by
    simp [State.recover, State.skip, State.read]
  exact List.length_eq_zero_iff.1 h

theorem State.unread_recover_length_le (s : State) :
    s.recover.unread.length ≤ s.unread.length := by
  rw [State.unread_recover]
  simp only [List.length_drop]
  omega

theorem State.unread_recover_length_lt {s : State} (h : s.unread ≠ []) :
    s.recover.unread.length < s.unread.length := by
  have hpos := List.length_pos_iff.2 h
  rw [State.unread_recover]
  simp only [List.length_drop]
  omega

theorem State.unread_shiftTrivia_length_le (s : State) :
    s.shiftTrivia.unread.length ≤ s.unread.length := by
  simp [State.shiftTrivia]

@[simp] theorem State.frames_length_shiftTrivia (s : State) :
    s.shiftTrivia.context.frames.length = s.context.frames.length := by
  simp [State.shiftTrivia, State.shift, State.read]

theorem unread_shiftTrivia_eq (s : State) :
    s.shiftTrivia.unread = s.unread.dropWhile Token.isTrivia := by
  have h : ∀ ts : List Token,
      ts.drop (ts.takeWhile Token.isTrivia).length = ts.dropWhile Token.isTrivia := by
    intro ts
    induction ts with
    | nil => rfl
    | cons t ts ih => by_cases ht : t.isTrivia <;> simp [ht, ih]
  exact h s.unread

theorem firstKept_eq_nil {skip : Token → Bool} {n : Nat} {ts : List Token}
    (h : ts.dropWhile skip = []) : firstKept skip n ts = [] := by
  induction ts with
  | nil => cases n <;> rfl
  | cons t ts ih =>
    by_cases ht : skip t
    · cases n with
      | zero => rfl
      | succ n => simpa [firstKept, ht] using ih (by simpa [ht] using h)
    · simp [ht] at h

theorem dropWhile_ne_nil_of_looksLike {pattern : List Ahead} {unread : List Token}
    (hpattern : pattern ≠ []) (h : looksLike score pattern unread) :
    unread.dropWhile Token.isTrivia ≠ [] := by
  intro hnil
  have hlength := List.length_pos_iff.2 hpattern
  simp only [looksLike, firstSignificant, firstKept_eq_nil hnil, Bool.and_eq_true,
    beq_iff_eq] at h
  simp at h
  omega

theorem dropWhile_ne_nil_of_atIdentificationHeader {unread : List Token}
    (h : atIdentificationHeader score unread) : unread.dropWhile Token.isTrivia ≠ [] := by
  simp only [atIdentificationHeader, List.any_eq_true] at h
  obtain ⟨opener, _, hopener⟩ := h
  exact dropWhile_ne_nil_of_looksLike (by simp) hopener

namespace Configuration

theorem precedes_after_openUnit {s : State} {c : Configuration} (hne : s.unread ≠ [])
    (hle : s.unread.length ≤ c.state.unread.length) (divisions : List Division) :
    (after (openUnit score) (.programUnit divisions) s).Precedes c := by
  left
  unfold after
  have hfinal := @unread_final_openUnit_le score s
  unfold Production.final at hfinal
  cases h : openUnit score s with
  | ok a s' =>
    have := readsSome_openUnit s a s' hne h
    simp only
    omega
  | error e s' =>
    rw [h] at hfinal
    simp only at hfinal ⊢
    by_cases hs' : s'.unread = []
    · have hpos := List.length_pos_iff.2 hne
      have := s'.unread_recover_length_le
      rw [hs'] at this
      simp only [List.length_nil] at this
      omega
    · have := State.unread_recover_length_lt hs'
      omega

theorem precedes_of_recover {s : State} {c : Configuration}
    (hle : s.unread.length ≤ c.state.unread.length) (hrank : 0 < c.rank) :
    Precedes ⟨.sourceUnit, s.recover⟩ c := by
  have := s.unread_recover_length_le
  have hframes : s.recover.context.frames.length = 0 := by rw [s.frames_recover]; rfl
  unfold Precedes
  simp only [hframes]
  change s.recover.unread.length < _ ∨ s.recover.unread.length = _ ∧ (_ ∨ _ ∧ 0 < c.rank)
  omega

theorem precedes_closeUnit {s : State} {c : Configuration}
    (hle : s.unread.length ≤ c.state.unread.length)
    (hframes : s.context.frames.length = c.state.context.frames.length) (hrank : c.rank = 1) :
    (closeUnit s).Precedes c := by
  have hleave : s.leaveUnit.context.frames.length = s.context.frames.length - 1 := by
    simp [State.leaveUnit]
  have hunread : s.leaveUnit.unread.length = s.unread.length := rfl
  unfold closeUnit
  split
  · next hempty =>
    have hzero := List.length_eq_zero_iff.2 (List.isEmpty_iff.1 hempty)
    have hle' := s.leaveUnit.unread_shiftTrivia_length_le
    have hframes' := s.leaveUnit.frames_length_shiftTrivia
    have hrank' : rank ⟨.sourceUnit, s.leaveUnit.shiftTrivia⟩ = 0 := rfl
    simp only [Precedes, hframes', hrank']
    omega
  · next hempty =>
    have hpos := List.length_pos_iff.2 (mt List.isEmpty_iff.2 hempty)
    simp only [Precedes]
    omega

/-- A step that starts before the end makes the configuration smaller. -/
theorem precedes_step {c : Configuration} (h : c.isFinal = false) :
    (step score c).Precedes c := by
  obtain ⟨phase, s⟩ := c
  match phase with
  | .sourceUnit =>
    have hne : s.unread ≠ [] := by
      intro hnil
      simp [isFinal, hnil] at h
    have hpos := List.length_pos_iff.2 hne
    have hle := s.unread_shiftTrivia_length_le
    change (sourceUnitStep score s).Precedes _
    unfold sourceUnitStep
    dsimp only
    split
    · next hempty =>
      left
      have hzero := List.length_eq_zero_iff.2 (List.isEmpty_iff.1 hempty)
      simp only
      omega
    · next hmore =>
      have hmore' := mt List.isEmpty_iff.2 hmore
      have hpos' := List.length_pos_iff.2 hmore'
      split
      · exact precedes_after_openUnit hmore' hle _
      · left
        refine Nat.lt_of_le_of_lt (State.unread_shiftTrivia_length_le _) ?_
        simp only [State.unread_skip, State.unread_report, List.length_drop]
        omega
  | .programUnit [] =>
    change (programUnitStep score s).Precedes _
    unfold programUnitStep
    split
    · next hheader =>
      have hne := dropWhile_ne_nil_of_atIdentificationHeader hheader
      rw [← unread_shiftTrivia_eq] at hne
      exact precedes_after_openUnit hne s.unread_shiftTrivia_length_le _
    · split
      · exact precedes_of_recover (s := s.report [_]) (Nat.le_refl _) (Nat.succ_pos _)
      · split
        · have hle := (@Production.readsOn_endProgram score).unread_le s
          have hframes := (@Production.readsOn_endProgram score).frames_eq s
          unfold Production.final at hle hframes
          split <;> next hrun => 
            rw [hrun] at hle hframes
            first
            | exact precedes_closeUnit hle hframes rfl
            | exact precedes_of_recover hle (Nat.succ_pos _)
        · exact precedes_closeUnit (Nat.le_refl _) rfl rfl
  | .programUnit (d :: divisions) =>
    simp only [step]
    split
    · have hle := (@Production.readsOn_division score d).unread_le s
      have hframes := (@Production.readsOn_division score d).frames_eq s
      unfold Production.final at hle hframes
      unfold after
      cases hrun : Production.division score d s with
      | ok a s' =>
        rw [hrun] at hle hframes
        simp only at hle hframes
        simp only [Precedes, rank, List.length_cons]
        omega
      | error e s' =>
        rw [hrun] at hle
        exact precedes_of_recover hle (Nat.succ_pos _)
    · right
      simp [rank]

end Configuration

end Parse

end CobolCompanion
