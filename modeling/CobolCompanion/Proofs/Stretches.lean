import CobolCompanion.Proofs.Conservation
import CobolCompanion.Proofs.Reading

namespace CobolCompanion

open Parse

namespace Element

mutual
/--
The productions under which the tokens of an element are read, a bare token under the given one.
-/
def readings (rule : Rule) : Element → List Rule
  | token _ => [rule]
  | node heading children => readingsAll heading.kind.rule children

/-- The productions under which the tokens of a list of elements are read. -/
def readingsAll (rule : Rule) : List Element → List Rule
  | [] => []
  | e :: es => readings rule e ++ readingsAll rule es
end

@[simp] theorem readingsAll_append (rule : Rule) (es fs : List Element) :
    readingsAll rule (es ++ fs) = readingsAll rule es ++ readingsAll rule fs := by
  induction es with
  | nil => rfl
  | cons e es ih => simp [readingsAll, ih]

@[simp] theorem readingsAll_map_token (rule : Rule) (ts : List Token) :
    readingsAll rule (ts.map .token) = List.replicate ts.length rule := by
  induction ts with
  | nil => rfl
  | cons t ts ih => simp [readingsAll, readings, ih, List.replicate_succ]

end Element

namespace Parse

@[simp] theorem Context.rule_modify (c : Context) (change : Node → Node) :
    (c.modify change).rule = c.rule := by
  obtain ⟨root, frames⟩ := c
  cases frames <;> rfl

/--
Warnings about misspelt keywords among tokens, in their order, at most one for each of them.
-/
inductive Misspellings : List Token → List Diagnostic → Prop where
  | nil : Misspellings [] []
  | skip (t : Token) {ts : List Token} {ds : List Diagnostic} (h : Misspellings ts ds) :
      Misspellings (t :: ts) ds
  | found (t : Token) (keyword : String) {ts : List Token} {ds : List Diagnostic}
      (h : Misspellings ts ds) : Misspellings (t :: ts) (Keyword.misspelling t keyword :: ds)

namespace Misspellings

variable {ts us : List Token} {ds es : List Diagnostic}

theorem none (ts : List Token) : Misspellings ts [] := by
  induction ts with
  | nil => exact .nil
  | cons t ts ih => exact .skip t ih

theorem append (h : Misspellings ts ds) (h' : Misspellings us es) :
    Misspellings (ts ++ us) (ds ++ es) := by
  induction h with
  | nil => exact h'
  | skip t _ ih => exact .skip t ih
  | found t keyword _ ih => exact .found t keyword ih

theorem exists_mem (h : Misspellings ts ds) {d : Diagnostic} (hd : d ∈ ds) :
    ∃ t ∈ ts, ∃ keyword, d = Keyword.misspelling t keyword := by
  induction h with
  | nil => simp at hd
  | skip t _ ih =>
    obtain ⟨u, hu, hkeyword⟩ := ih hd
    exact ⟨u, List.mem_cons_of_mem t hu, hkeyword⟩
  | found t keyword _ ih =>
    rcases List.mem_cons.1 hd with rfl | hd
    · exact ⟨t, List.mem_cons_self, keyword, rfl⟩
    · obtain ⟨u, hu, hkeyword⟩ := ih hd
      exact ⟨u, List.mem_cons_of_mem t hu, hkeyword⟩

theorem warnings (score : Similarity) (t : Token) (keyword : String) :
    Misspellings [t] (Keyword.warnings score t keyword) := by
  unfold Keyword.warnings
  split
  · exact .found t keyword .nil
  · exact .skip t .nil

end Misspellings

/--
Between two states a stretch of tokens is read, arranged as elements behind the children of the
node that is being built, each token under the production of its node, and nothing is reported
but misspellings in it.
-/
structure Reads (s : State) (es : List Element) (s' : State) : Prop where
  unread : s.unread = Element.leavesAll es ++ s'.unread
  sentinel : s'.stream.sentinel = s.stream.sentinel
  context : s'.context = s.context.modify (·.pushAll es)
  diagnostics : ∃ ds, s'.diagnostics = s.diagnostics ++ ds ∧
    Misspellings (Element.leavesAll es) ds
  openNames : s'.openNames = s.openNames
  rules : s'.rules = (Element.readingsAll s.context.rule es).reverse ++ s.rules

namespace Reads

variable {s s' s'' : State} {es fs : List Element} {t : Token} {rest : List Token}

theorem refl (s : State) : Reads s [] s :=
  ⟨rfl, rfl, (s.context.modify_pushAll_nil).symm, ⟨[], by simp, .nil⟩, rfl, rfl⟩

theorem trans (h : Reads s es s') (h' : Reads s' fs s'') : Reads s (es ++ fs) s'' := by
  obtain ⟨ds, hds, hwarned⟩ := h.diagnostics
  obtain ⟨ds', hds', hwarned'⟩ := h'.diagnostics
  refine ⟨?_, h'.sentinel.trans h.sentinel, ?_, ⟨ds ++ ds', ?_, ?_⟩,
    h'.openNames.trans h.openNames, ?_⟩
  · rw [h.unread, h'.unread, Element.leavesAll_append, List.append_assoc]
  · rw [h'.context, h.context, Context.modify_pushAll_pushAll]
  · rw [hds', hds, List.append_assoc]
  · rw [Element.leavesAll_append]
    exact hwarned.append hwarned'
  · rw [h'.rules, h.rules, h.context, Context.rule_modify, Element.readingsAll_append,
      List.reverse_append, List.append_assoc]

theorem shift (s : State) (n : Nat) : Reads s ((s.unread.take n).map .token) (s.shift n) := by
  refine ⟨?_, rfl, rfl, ⟨[], by simp [State.shift, State.read], ?_⟩, rfl, ?_⟩
  · rw [Element.leavesAll_map_token, State.unread_shift, List.take_append_drop]
  · exact .none _
  · rw [Element.readingsAll_map_token, List.reverse_replicate]
    rfl

theorem shiftOne (h : s.unread = t :: rest) : Reads s [.token t] (s.shift 1) := by
  have hshift := Reads.shift s 1
  rwa [h] at hshift

/-- What is read into a new node becomes one element of the node around it. -/
theorem closeNode {kind : NodeKind} (h : Reads (s.openNode kind) es s') :
    Reads s [.node { kind } es] s'.closeNode := by
  obtain ⟨hunread, hsentinel, hcontext, hdiagnostics, hnames, hrules⟩ := h
  refine ⟨by simpa [Element.leaves] using hunread, hsentinel, ?_, ?_, hnames, ?_⟩
  · change s'.context.close = _
    rw [hcontext]
    exact Context.close_modify_push s.context (.ofKind kind) (·.pushAll es)
  · obtain ⟨ds, hds, hwarned⟩ := hdiagnostics
    exact ⟨ds, hds, by simpa [Element.leaves] using hwarned⟩
  · rw [Element.readingsAll, Element.readings, Element.readingsAll, List.append_nil]
    exact hrules

theorem frames_length (h : Reads s es s') :
    s'.context.frames.length = s.context.frames.length := by
  rw [h.context, Context.frames_length_modify]

end Reads

/-- What can be said against a token: the text ends at it, or another one is expected. -/
inductive Complaint where
  | endOfInput (expected : String)
  | token (expected : String)
  | alternatives (expected : List String)

namespace Complaint

def failure (t : Token) : Complaint → Failure
  | endOfInput expected => .unexpectedEndOfInput expected t.range
  | token expected => .unexpectedToken t.lexeme expected t.range
  | alternatives expected => .noAlternative t.lexeme expected t.range

def isEndOfInput : Complaint → Bool
  | endOfInput _ => true
  | _ => false

end Complaint

namespace State

/-- The outcome of a production that complains of the next token. -/
def refuse {α : Type} (s : State) (c : Complaint) : EStateM.Result Failure State α :=
  .error (c.failure s.peek) (s.report [(c.failure s.peek).diagnostic])

def acceptNext (s : State) (score : Similarity) (keyword : String) : State :=
  (s.report (Keyword.warnings score s.peek keyword)).shift 1

end State

/-- A production gives up: it complains of the next token. -/
structure GivesUp (s : State) (f : Failure) (s' : State) : Prop where
  complaint : ∃ c : Complaint, c.isEndOfInput = s.peek.isEndOfInput ∧ f = c.failure s.peek
  reported : s' = s.report [f.diagnostic]

theorem GivesUp.refuse {s : State} (c : Complaint) (h : c.isEndOfInput = s.peek.isEndOfInput) :
    GivesUp s (c.failure s.peek) (s.report [(c.failure s.peek).diagnostic]) :=
  ⟨⟨c, h, rfl⟩, rfl⟩

/-- A token that is not the end of input is there to be read. -/
theorem State.unread_eq_cons {s : State} (hsentinel : s.stream.sentinel.isEndOfInput)
    (h : s.peek.isEndOfInput = false) : ∃ rest, s.unread = s.peek :: rest := by
  unfold peek TokenStream.peek at h ⊢
  unfold unread
  cases hu : s.stream.unread with
  | nil => simp [hu, hsentinel] at h
  | cons t rest => exact ⟨rest, rfl⟩

namespace State

/-- The trivia that stand next are read, and the token after them is significant. -/
theorem exists_reads_shiftTrivia (s : State) :
    ∃ gap : List Token, (∀ t ∈ gap, t.isTrivia) ∧ Reads s (gap.map .token) s.shiftTrivia :=
  ⟨_, isTrivia_of_mem_take_triviaLength, .shift s _⟩

theorem isTrivia_peek_shiftTrivia (s : State) (hs : s.stream.sentinel.isEndOfInput) :
    s.shiftTrivia.peek.isTrivia = false := by
  have hunread := s.unread_shiftTrivia
  cases hrest : s.unread.dropWhile Token.isTrivia with
  | nil =>
    rw [hrest] at hunread
    rw [peek_of_exhausted hunread]
    change s.stream.sentinel.isTrivia = false
    exact Bool.eq_false_iff.2 fun htrivia =>
      absurd hs (by simp [Token.isEndOfInput_of_isTrivia htrivia])
  | cons t rest =>
    rw [hrest] at hunread
    rw [peek_eq hunread]
    exact isTrivia_of_dropWhile_eq_cons hrest

end State

theorem Reads.acceptNext {s : State} {rest : List Token} (score : Similarity) (keyword : String)
    (h : s.unread = s.peek :: rest) : Reads s [.token s.peek] (s.acceptNext score keyword) := by
  refine ⟨by simp [h, Element.leaves, State.acceptNext], rfl, ?_,
    ⟨Keyword.warnings score s.peek keyword, rfl, .warnings score s.peek keyword⟩, rfl, ?_⟩
  · change s.context.modify (·.pushTokens (s.unread.take 1)) = _
    rw [h]
    rfl
  · change List.replicate (s.unread.take 1).length s.context.rule ++ s.rules = _
    rw [h]
    rfl

theorem Reads.exists_word {s s' : State} {t : Token} (h : Reads s.shiftTrivia [.token t] s')
    (ht : t = s.shiftTrivia.peek) (hs : s.stream.sentinel.isEndOfInput) :
    ∃ ts : List Token, Reads s (ts.map .token) s' ∧ significantTokens ts = [t] := by
  obtain ⟨gap, hgap, hreads⟩ := s.exists_reads_shiftTrivia
  refine ⟨gap ++ [t], by simpa using hreads.trans h, ?_⟩
  rw [significantTokens_append, significantTokens_eq_nil hgap, ht]
  exact significantTokens_cons_of_significant (s.isTrivia_peek_shiftTrivia hs) []

end Parse

namespace Production

variable {α β : Type} {score : Similarity} {keyword : String}
  {keywords : List String} {s : State}

theorem bind_eq (p : Production α) (f : α → Production β) (s : State) :
    (p >>= f) s = match p s with
      | .ok a s' => f a s'
      | .error e s' => .error e s' := by
  change EStateM.bind p f s = _
  unfold EStateM.bind
  cases p s <;> rfl

/-- A production reads tokens into the node that is being built, and may then give up. -/
def Shifts (p : Production α) : Prop :=
  ∀ s, s.stream.sentinel.isEndOfInput → match p s with
    | .ok _ s' => ∃ ts : List Token, Reads s (ts.map .token) s'
    | .error f s' =>
      ∃ (ts : List Token) (s₁ : State), Reads s (ts.map .token) s₁ ∧ GivesUp s₁ f s'

namespace Shifts

theorem pure (a : α) : Shifts (pure a : Production α) :=
  fun s _ => ⟨[], .refl s⟩

theorem bind {p : Production α} {f : α → Production β} (hp : Shifts p)
    (hf : ∀ a, Shifts (f a)) :
    Shifts (p >>= f) := by
  intro s hs
  have hps := hp s hs
  rw [bind_eq]
  cases hrun : p s with
  | error e s' =>
    rw [hrun] at hps
    exact hps
  | ok a s' =>
    rw [hrun] at hps
    obtain ⟨ts, hreads⟩ := hps
    have hfs := hf a s' (by rwa [hreads.sentinel])
    dsimp only
    cases hrun' : f a s' with
    | ok b s'' =>
      rw [hrun'] at hfs
      obtain ⟨us, hreads'⟩ := hfs
      exact ⟨ts ++ us, by simpa using hreads.trans hreads'⟩
    | error e s'' =>
      rw [hrun'] at hfs
      obtain ⟨us, s₁, hreads', hgives⟩ := hfs
      exact ⟨ts ++ us, s₁, by simpa using hreads.trans hreads', hgives⟩

theorem ite {c : Prop} [Decidable c] {p q : Production α} (hp : Shifts p) (hq : Shifts q) :
    Shifts (if c then p else q) := by
  split
  · exact hp
  · exact hq

theorem shift (f : State → Nat) : Shifts (modify fun s => s.shift (f s) : Production PUnit) :=
  fun s _ => ⟨s.unread.take (f s), .shift s (f s)⟩

end Shifts

theorem shifts_spaces : Shifts spaces :=
  .shift fun s => triviaLength s.unread

theorem shifts_content : Shifts (content score) :=
  .shift fun s => contentLength score s.statementStart s.unread

theorem shifts_sees : Shifts (sees score keywords) :=
  fun s _ => ⟨[], .refl s⟩

theorem expect_run (s : State) :
    expect score keyword s =
      if s.peek.isEndOfInput then s.refuse (.endOfInput (quoteAll [keyword]))
      else if Keyword.accepts score s.peek keyword then .ok () (s.acceptNext score keyword)
      else s.refuse (.token keyword) := by
  change (if s.peek.isEndOfInput then _
    else if Keyword.accepts score s.peek keyword then _ else _ :
    Production Unit) s = _
  split
  · rfl
  · split <;> rfl

theorem expectOneOf_run (s : State) :
    expectOneOf score keywords s =
      if s.peek.isEndOfInput then s.refuse (.endOfInput (quoteAll keywords))
      else match choose? score s.peek keywords with
        | some keyword => .ok () (s.acceptNext score keyword)
        | none => s.refuse (.alternatives keywords) := by
  change (if s.peek.isEndOfInput then _ else
    acceptChosen score s.peek keywords (choose? score s.peek keywords) : Production Unit) s = _
  split
  · rfl
  · cases choose? score s.peek keywords <;> rfl

theorem allow_run (s : State) :
    allow score keyword s =
      if !s.peek.isEndOfInput && Keyword.accepts score s.peek keyword then
        .ok () (s.acceptNext score keyword)
      else .ok () s := by
  change (if !s.peek.isEndOfInput && Keyword.accepts score s.peek keyword then _ else _ :
    Production Unit) s = _
  split <;> rfl

theorem sees_run (s : State) :
    sees score keywords s =
      .ok (!s.peek.isEndOfInput && keywords.any (Keyword.accepts score s.peek)) s :=
  rfl

theorem programName_run (s : State) :
    programName s =
      if s.peek.isEndOfInput then s.refuse (.endOfInput "program name")
      else if s.peek.isTerminator then s.refuse (.token "program name")
      else .ok s.peek (s.shift 1) := by
  change (if s.peek.isEndOfInput then _ else if s.peek.isTerminator then _ else _ :
    Production Token) s = _
  split
  · rfl
  · split <;> rfl

theorem shifts_expect : Shifts (expect score keyword) := by
  intro s hs
  rw [expect_run]
  cases hend : s.peek.isEndOfInput with
  | true => exact ⟨[], s, .refl s, .refuse (.endOfInput _) hend.symm⟩
  | false =>
    cases haccepts : Keyword.accepts score s.peek keyword with
    | true =>
      obtain ⟨rest, hrest⟩ := s.unread_eq_cons hs hend
      exact ⟨[s.peek], .acceptNext score keyword hrest⟩
    | false => exact ⟨[], s, .refl s, .refuse (.token _) hend.symm⟩

theorem shifts_expectOneOf : Shifts (expectOneOf score keywords) := by
  intro s hs
  rw [expectOneOf_run]
  cases hend : s.peek.isEndOfInput with
  | true => exact ⟨[], s, .refl s, .refuse (.endOfInput _) hend.symm⟩
  | false =>
    cases hchoice : choose? score s.peek keywords with
    | some keyword =>
      obtain ⟨rest, hrest⟩ := s.unread_eq_cons hs hend
      exact ⟨[s.peek], .acceptNext score keyword hrest⟩
    | none => exact ⟨[], s, .refl s, .refuse (.alternatives _) hend.symm⟩

theorem shifts_allow : Shifts (allow score keyword) := by
  intro s hs
  rw [allow_run]
  cases hend : s.peek.isEndOfInput with
  | true => exact ⟨[], .refl s⟩
  | false =>
    cases haccepts : Keyword.accepts score s.peek keyword with
    | true =>
      obtain ⟨rest, hrest⟩ := s.unread_eq_cons hs hend
      exact ⟨[s.peek], .acceptNext score keyword hrest⟩
    | false => exact ⟨[], .refl s⟩

theorem shifts_programName : Shifts programName := by
  intro s hs
  rw [programName_run]
  cases hend : s.peek.isEndOfInput with
  | true => exact ⟨[], s, .refl s, .refuse (.endOfInput _) hend.symm⟩
  | false =>
    cases s.peek.isTerminator with
    | true => exact ⟨[], s, .refl s, .refuse (.token _) hend.symm⟩
    | false =>
      obtain ⟨rest, hrest⟩ := s.unread_eq_cons hs hend
      exact ⟨[s.peek], .shiftOne hrest⟩

theorem shifts_qualification : Shifts (qualification score) := by
  have hrest : Shifts (do
      expectOneOf score qualifiers
      spaces
      allow score "PROGRAM") :=
    shifts_expectOneOf.bind fun _ => shifts_spaces.bind fun _ => shifts_allow
  refine shifts_sees.bind fun _ => .ite ?_ (shifts_sees.bind fun _ => .ite hrest (.pure _))
  exact shifts_expect.bind fun _ => shifts_spaces.bind fun _ => hrest

theorem shifts_identificationHeader : Shifts (identificationHeader score) :=
  shifts_expectOneOf.bind fun _ => shifts_spaces.bind fun _ => shifts_expect.bind fun _ =>
    shifts_spaces.bind fun _ => shifts_expect.bind fun _ =>
    shifts_spaces.bind fun _ => shifts_expect.bind fun _ => shifts_allow.bind fun _ =>
    shifts_spaces.bind fun _ => shifts_programName

theorem shifts_divisionHeader (d : Division) : Shifts (divisionHeader score d) := by
  have hperiod : Shifts (do
      spaces
      expect score ".") :=
    shifts_spaces.bind fun _ => shifts_expect
  refine shifts_expect.bind fun _ => shifts_spaces.bind fun _ => shifts_expect.bind fun _ => ?_
  cases d with
  | environment => exact hperiod
  | data => exact hperiod
  | procedure => exact shifts_allow

theorem shifts_endProgramWords : Shifts (endProgramWords score) :=
  shifts_spaces.bind fun _ => shifts_expect.bind fun _ =>
    shifts_spaces.bind fun _ => shifts_expect.bind fun _ =>
    shifts_spaces.bind fun _ => shifts_programName.bind fun _ =>
    shifts_spaces.bind fun _ => shifts_expect.bind fun _ => .pure _

/--
A production that reads one division: its tokens end up in a node, whether it succeeds or not.
-/
def Encloses (p : Production α) (kind : NodeKind) : Prop :=
  ∀ s, s.stream.sentinel.isEndOfInput → match p s with
    | .ok _ s' => ∃ ts : List Token, Reads s [.node { kind } (ts.map .token)] s'
    | .error f s' => ∃ (ts : List Token) (s₁ : State),
        Reads s [.node { kind } (ts.map .token)] s₁ ∧ GivesUp s₁ f s'

theorem Shifts.inNode {p : Production α} (hp : Shifts p) (kind : NodeKind) :
    Encloses (inNode kind p) kind := by
  intro s hs
  have hps := hp (s.openNode kind) hs
  unfold Production.inNode
  cases hrun : p (s.openNode kind) with
  | ok a s' =>
    rw [hrun] at hps
    obtain ⟨ts, hreads⟩ := hps
    exact ⟨ts, hreads.closeNode⟩
  | error f s' =>
    rw [hrun] at hps
    obtain ⟨ts, s₁, hreads, hcomplaint, rfl⟩ := hps
    exact ⟨ts, s₁.closeNode, hreads.closeNode, hcomplaint, rfl⟩

theorem encloses_identificationDivision :
    Encloses (identificationDivision score) .identificationDivision :=
  Shifts.inNode (shifts_identificationHeader.bind fun _ => shifts_spaces.bind fun _ =>
    shifts_qualification.bind fun _ => shifts_spaces.bind fun _ => shifts_allow.bind fun _ =>
    shifts_content.bind fun _ => .pure _) _

theorem encloses_division (d : Division) :
    Encloses (inNode d.kind do
      divisionHeader score d
      content score) d.kind :=
  Shifts.inNode ((shifts_divisionHeader d).bind fun _ => shifts_content) _

theorem exists_ok_of_bind {p : Production α} {f : α → Production β} {b : β} {s'' : State}
    (h : (p >>= f) s = .ok b s'') : ∃ a s', p s = .ok a s' ∧ f a s' = .ok b s'' := by
  rw [bind_eq] at h
  cases hp : p s with
  | ok a s' =>
    rw [hp] at h
    exact ⟨a, s', rfl, h⟩
  | error e s' => simp [hp] at h

theorem bind_eq_of_error {p : Production α} {e : Failure} {s' : State} (h : p s = .error e s')
    (f : α → Production β) : (p >>= f) s = .error e s' := by
  rw [bind_eq, h]

/-- What cannot fail in its second part has failed in its first. -/
theorem error_of_bind {p : Production α} {f : α → Production β} {e : Failure} {s'' : State}
    (hf : ∀ a s', f a s' ≠ .error e s'') (h : (p >>= f) s = .error e s'') :
    p s = .error e s'' := by
  rw [bind_eq] at h
  cases hp : p s with
  | ok a s' =>
    rw [hp] at h
    exact absurd h (hf a s')
  | error e' s' =>
    rw [hp] at h
    cases h
    rfl

theorem endProgramWords_of_error {e : Failure} {s' : State}
    (h : endProgram score s = .error e s') :
    endProgramWords score s = .error e s' := by
  apply error_of_bind _ h
  intro name s₁ hcheck
  cases hcheck

theorem allow_ne_error {e : Failure} {s' : State} : allow score keyword s ≠ .error e s' := by
  rw [allow_run]
  split <;> exact nofun

theorem spaces_bind (f : Unit → Production β) (s : State) :
    (spaces >>= f) s = f () s.shiftTrivia :=
  rfl

/-- A keyword that has to be there was there, if the production went on. -/
theorem exists_reads_of_expect {u : Unit} {s' : State} (h : expect score keyword s = .ok u s')
    (hs : s.stream.sentinel.isEndOfInput) :
    ∃ t, t = s.peek ∧ Keyword.accepts score t keyword ∧ Reads s [.token t] s' := by
  rw [expect_run] at h
  cases hend : s.peek.isEndOfInput with
  | true =>
    rw [if_pos hend] at h
    cases h
  | false =>
    rw [if_neg (by simp [hend])] at h
    obtain ⟨rest, hrest⟩ := s.unread_eq_cons hs hend
    cases haccepts : Keyword.accepts score s.peek keyword with
    | true =>
      rw [if_pos haccepts] at h
      cases h
      exact ⟨s.peek, rfl, haccepts, .acceptNext score keyword hrest⟩
    | false =>
      rw [if_neg (by simp [haccepts])] at h
      cases h

theorem exists_reads_of_programName {t : Token} {s' : State} (h : programName s = .ok t s')
    (hs : s.stream.sentinel.isEndOfInput) :
    t = s.peek ∧ Reads s [.token t] s' ∧ t.isTerminator = false := by
  rw [programName_run] at h
  cases hend : s.peek.isEndOfInput with
  | true =>
    rw [if_pos hend] at h
    cases h
  | false =>
    rw [if_neg (by simp [hend])] at h
    obtain ⟨rest, hrest⟩ := s.unread_eq_cons hs hend
    cases hperiod : s.peek.isTerminator with
    | true =>
      rw [if_pos hperiod] at h
      cases h
    | false =>
      rw [if_neg (by simp [hperiod])] at h
      cases h
      exact ⟨rfl, .shiftOne hrest, hperiod⟩

/-- The words of a trailer are four significant tokens, of which the third names the program. -/
theorem exists_reads_of_endProgramWords {name : Token} {s' : State}
    (hs : s.stream.sentinel.isEndOfInput) (h : endProgramWords score s = .ok name s') :
    ∃ (ts : List Token) (ending program period : Token), Reads s (ts.map .token) s' ∧
      significantTokens ts = [ending, program, name, period] ∧
      Keyword.accepts score ending "END" ∧ Keyword.accepts score program "PROGRAM" ∧
      Keyword.accepts score period "." ∧ name.isTerminator = false := by
  rw [endProgramWords, spaces_bind] at h
  obtain ⟨_, s₁, hending, h⟩ := exists_ok_of_bind h
  rw [spaces_bind] at h
  obtain ⟨_, s₂, hprogram, h⟩ := exists_ok_of_bind h
  rw [spaces_bind] at h
  obtain ⟨_, s₃, hname, h⟩ := exists_ok_of_bind h
  rw [spaces_bind] at h
  obtain ⟨_, s₄, hperiod, h⟩ := exists_ok_of_bind h
  cases h
  obtain ⟨ending, hpeek, hEnd, hreads⟩ := exists_reads_of_expect hending hs
  obtain ⟨ts₁, hreads₁, hts₁⟩ := hreads.exists_word hpeek hs
  have hs₁ : s₁.stream.sentinel.isEndOfInput := by rwa [hreads₁.sentinel]
  obtain ⟨program, hpeek, hProgram, hreads⟩ := exists_reads_of_expect hprogram hs₁
  obtain ⟨ts₂, hreads₂, hts₂⟩ := hreads.exists_word hpeek hs₁
  have hs₂ : s₂.stream.sentinel.isEndOfInput := by rwa [hreads₂.sentinel]
  obtain ⟨hpeek, hreads, hName⟩ := exists_reads_of_programName hname hs₂
  obtain ⟨ts₃, hreads₃, hts₃⟩ := hreads.exists_word hpeek hs₂
  have hs₃ : s₃.stream.sentinel.isEndOfInput := by rwa [hreads₃.sentinel]
  obtain ⟨period, hpeek, hPeriod, hreads⟩ := exists_reads_of_expect hperiod hs₃
  obtain ⟨ts₄, hreads₄, hts₄⟩ := hreads.exists_word hpeek hs₃
  refine ⟨ts₁ ++ ts₂ ++ ts₃ ++ ts₄, ending, program, period, ?_, ?_, hEnd, hProgram,
    hPeriod, hName⟩
  · simpa using ((hreads₁.trans hreads₂).trans hreads₃).trans hreads₄
  · simp [hts₁, hts₂, hts₃, hts₄]

end Production

end CobolCompanion
