import CobolCompanion.Proofs.OpenUnits
import Mathlib.Data.List.Forall2

namespace CobolCompanion

open Parse

namespace Parse

section
variable (score : Similarity)

/-- The significant ones among some tokens are, one by one, what is asked for. -/
def Spells (pattern : List Ahead) (words : List Token) : Prop :=
  List.Forall₂ (fun expected t => expected.test score t = true) pattern
    (significantTokens words)

/-- Between two states the tokens that a pattern asks for are read, and no others but trivia. -/
def Takes (pattern : List Ahead) (s s' : State) : Prop :=
  ∃ words, s.unread = words ++ s'.unread ∧ Spells score pattern words

/--
Between two states the tokens that a pattern asks for are read, and perhaps more behind them.
-/
def ReadsPast (pattern : List Ahead) (s s' : State) : Prop :=
  ∃ words rest, s.unread = words ++ rest ∧ Spells score pattern words ∧ s'.unread <:+ rest

/-- A pattern is ahead, in a text that has no end of input but behind it. -/
structure Announces (s : State) (pattern : List Ahead) : Prop where
  ahead : looksLike score pattern s.unread
  endless : ∀ t ∈ s.unread, t.isEndOfInput = false
  sentinel : s.stream.sentinel.isEndOfInput

end

variable {score : Similarity} {pattern more : List Ahead} {s s' s'' r : State}

theorem Takes.trans (h : Takes score pattern s s') (h' : Takes score more s' s'') :
    Takes score (pattern ++ more) s s'' := by
  obtain ⟨words, hsplit, hspells⟩ := h
  obtain ⟨others, hsplit', hspells'⟩ := h'
  refine ⟨words ++ others, by rw [hsplit, hsplit', List.append_assoc], ?_⟩
  rw [Spells, significantTokens_append]
  exact List.rel_append hspells hspells'

theorem Takes.readsPast (h : Takes score pattern s s') (hsuffix : s''.unread <:+ s'.unread) :
    ReadsPast score pattern s s'' := by
  obtain ⟨words, hsplit, hspells⟩ := h
  exact ⟨words, s'.unread, hsplit, hspells, hsuffix⟩

theorem exists_next_of_looksLike {expected : Ahead} {unread : List Token}
    (h : looksLike score (expected :: pattern) unread) :
    ∃ t rest, unread.dropWhile Token.isTrivia = t :: rest ∧ t.isTrivia = false ∧
      expected.test score t ∧ looksLike score pattern rest := by
  obtain ⟨t, rest, hnext⟩ :=
    List.exists_cons_of_ne_nil (dropWhile_ne_nil_of_looksLike (List.cons_ne_nil _ _) h)
  have ht := isTrivia_of_dropWhile_eq_cons hnext
  rw [looksLike_eq_agrees, ← significantTokens_dropWhile, hnext,
    significantTokens_cons_of_significant ht, agrees, Bool.and_eq_true,
    ← looksLike_eq_agrees] at h
  exact ⟨t, rest, hnext, ht, h⟩

theorem significantTokens_gap {unread rest : List Token} {t : Token}
    (h : unread.dropWhile Token.isTrivia = t :: rest) (ht : t.isTrivia = false) :
    unread = (unread.takeWhile Token.isTrivia ++ [t]) ++ rest ∧
      significantTokens (unread.takeWhile Token.isTrivia ++ [t]) = [t] := by
  constructor
  · rw [List.append_assoc, List.singleton_append, ← h, List.takeWhile_append_dropWhile]
  · have hgap : significantTokens (unread.takeWhile Token.isTrivia) = [] := by
      apply significantTokens_eq_nil
      intro u hu
      exact List.all_eq_true.1 List.all_takeWhile u hu
    rw [significantTokens_append, hgap, List.nil_append,
      significantTokens_cons_of_significant ht, significantTokens_nil]

namespace Announces

/--
The next word of what is ahead can be accepted by any state that has read the trivia before it,
and the rest of it is then ahead.
-/
theorem accept {keyword : String} (h : Announces score s (.keyword keyword :: pattern))
    (hr : r.stream = s.shiftTrivia.stream) :
    r.peek.isEndOfInput = false ∧ Keyword.accepts score r.peek keyword ∧
      ∀ chosen, Takes score [.keyword keyword] s (r.acceptNext score chosen) ∧
        Announces score (r.acceptNext score chosen) pattern := by
  obtain ⟨t, rest, hnext, ht, htest, hrest⟩ := exists_next_of_looksLike h.ahead
  obtain ⟨hsplit, hword⟩ := significantTokens_gap hnext ht
  have hunread : r.unread = t :: rest := by
    rw [← hnext, ← s.unread_shiftTrivia]
    exact congrArg TokenStream.unread hr
  rw [State.peek_eq hunread]
  refine ⟨?_, htest, ?_⟩
  · apply h.endless
    rw [hsplit]
    simp
  intro chosen
  have hleft : (r.acceptNext score chosen).unread = rest := by
    change r.unread.drop 1 = rest
    rw [hunread, List.drop_one, List.tail_cons]
  constructor
  · refine ⟨s.unread.takeWhile Token.isTrivia ++ [t], by rwa [hleft], ?_⟩
    rw [Spells, hword]
    exact .cons htest .nil
  · refine ⟨by rwa [hleft], ?_, ?_⟩
    · intro u hu
      apply h.endless
      rw [hsplit, ← hleft]
      exact List.mem_append_right _ hu
    · change r.stream.sentinel.isEndOfInput
      rw [hr]
      exact h.sentinel

theorem exists_expect {keyword : String} (h : Announces score s (.keyword keyword :: pattern))
    (hr : r.stream = s.shiftTrivia.stream) :
    ∃ s', Production.expect score keyword r = .ok () s' ∧ Takes score [.keyword keyword] s s' ∧
      Announces score s' pattern := by
  obtain ⟨hend, haccepts, hrest⟩ := h.accept hr
  refine ⟨r.acceptNext score keyword, ?_, hrest keyword⟩
  rw [Production.expect_run, hend, haccepts]
  rfl

/--
Where a choice is ahead something is chosen, though it need not be the word that was looked for.
-/
theorem exists_expectOneOf {keyword : String} {keywords : List String}
    (h : Announces score s (.keyword keyword :: pattern)) (hmem : keyword ∈ keywords)
    (hr : r.stream = s.shiftTrivia.stream) :
    ∃ s', Production.expectOneOf score keywords r = .ok () s' ∧
      Takes score [.keyword keyword] s s' ∧ Announces score s' pattern := by
  obtain ⟨hend, haccepts, hrest⟩ := h.accept hr
  have hsome : (Production.choose? score r.peek keywords).isSome := by
    rw [Production.choose?, Option.isSome_or, Bool.or_eq_true,
      List.find?_isSome (p := Keyword.accepts _ _)]
    exact .inr ⟨keyword, hmem, haccepts⟩
  obtain ⟨chosen, hchosen⟩ := Option.isSome_iff_exists.1 hsome
  refine ⟨r.acceptNext score chosen, ?_, hrest chosen⟩
  rw [Production.expectOneOf_run, hend, hchosen]
  rfl

end Announces

/--
The words of the header of a division. That of the procedure division has no period of its own.
-/
def Division.header (d : Division) : List Ahead :=
  [.keyword d.opener, .keyword "DIVISION"] ++ if d = .procedure then [] else [.keyword "."]

theorem atDivisionHeader_eq (d : Division) (unread : List Token) :
    atDivisionHeader score d unread = looksLike score d.header unread := by
  cases d <;> rfl

end Parse

namespace Production

variable {α : Type} {score : Similarity} {s s' r : State}

def divisionPeriod (score : Similarity) (d : Division) : Production Unit :=
  if d = .procedure then allow score "."
  else do
    spaces
    expect score "."

theorem divisionHeader_eq (d : Division) :
    divisionHeader score d = (do
      expect score d.opener
      spaces
      expect score "DIVISION"
      divisionPeriod score d) := by
  cases d <;> rfl

theorem exists_divisionHeader {d : Division} (h : Announces score s d.header)
    (hr : r.stream = s.shiftTrivia.stream) :
    ∃ s', divisionHeader score d r = .ok () s' ∧ ReadsPast score d.header s s' := by
  obtain ⟨s₁, hopener, htakes₁, h₁⟩ := Announces.exists_expect h hr
  obtain ⟨s₂, hdivision, htakes₂, h₂⟩ := h₁.exists_expect rfl
  have htakes := htakes₁.trans htakes₂
  rw [divisionHeader_eq, bind_eq_of_ok hopener, spaces_bind, bind_eq_of_ok hdivision]
  by_cases hd : d = .procedure
  · -- A period may be read along, but it is not asked for.
    have hsuffix := (@performs_allow score "." s₂).unread_suffix
    refine ⟨(allow score ".").final s₂, ?_, ?_⟩
    · rw [divisionPeriod, if_pos hd, final]
      cases hallow : allow score "." s₂ with
      | ok u s' => rfl
      | error f s' => exact absurd hallow allow_ne_error
    · rw [Division.header, if_pos hd, List.append_nil]
      exact htakes.readsPast hsuffix
  · have hahead : Announces score s₂ [.keyword "."] := by
      rwa [if_neg hd] at h₂
    obtain ⟨s₃, hperiod, htakes₃, -⟩ := hahead.exists_expect rfl
    refine ⟨s₃, ?_, ?_⟩
    · rwa [divisionPeriod, if_neg hd]
    · rw [Division.header, if_neg hd]
      exact (htakes.trans htakes₃).readsPast (List.suffix_refl _)

theorem exists_division {d : Division} (h : Announces score s d.header) :
    ∃ s', division score d s = .ok () s' ∧ ReadsPast score d.header s s' := by
  obtain ⟨s₁, hheader, words, rest, hsplit, hspells, hsuffix⟩ :=
    exists_divisionHeader (r := s.shiftTrivia.openNode d.kind) h rfl
  have hcontent := (@performs_content score s₁).unread_suffix
  refine ⟨((content score).final s₁).closeNode, ?_, words, rest, hsplit, hspells,
    hcontent.trans hsuffix⟩
  rw [division, spaces_bind, inNode, bind_eq_of_ok hheader]
  rfl

section
variable (score)

/--
What follows the first sentence of an identification division, up to the name of the program.
-/
def identificationClause : Production Token := do
  spaces
  expect score "PROGRAM-ID"
  allow score "."
  spaces
  programName

def identificationHeaderWords (opener : String) : List Ahead :=
  [.keyword opener, .keyword "DIVISION", .keyword "."]

end

theorem exists_identificationClause {opener : String} (hmem : opener ∈ identificationOpeners)
    (h : Announces score s (identificationHeaderWords opener))
    (hr : r.stream = s.shiftTrivia.stream) :
    ∃ s', identificationHeader score r = identificationClause score s' ∧
      Takes score (identificationHeaderWords opener) s s' := by
  obtain ⟨s₁, hopener, htakes₁, h₁⟩ := Announces.exists_expectOneOf h hmem hr
  obtain ⟨s₂, hdivision, htakes₂, h₂⟩ := h₁.exists_expect rfl
  obtain ⟨s₃, hperiod, htakes₃, -⟩ := h₂.exists_expect rfl
  refine ⟨s₃, ?_, htakes₁.trans (htakes₂.trans htakes₃)⟩
  rw [identificationHeader, bind_eq_of_ok hopener, spaces_bind,
    bind_eq_of_ok hdivision, spaces_bind, bind_eq_of_ok hperiod]
  rfl

theorem unread_final_inNode (kind : NodeKind) (p : Production α) (s : State) :
    ((inNode kind p).final s).unread = (p.final (s.openNode kind)).unread := by
  unfold final inNode
  cases p (s.openNode kind) <;> rfl

/-- Whether an identification division is read or given up, its first sentence was read. -/
theorem readsPast_identificationDivision {opener : String}
    (hmem : opener ∈ identificationOpeners)
    (h : Announces score s (identificationHeaderWords opener))
    (hr : r.stream = s.shiftTrivia.stream) :
    ReadsPast score (identificationHeaderWords opener) s
      ((identificationDivision score).final r) := by
  obtain ⟨s₁, hheader, htakes⟩ :=
    exists_identificationClause (r := r.openNode .identificationDivision) hmem h hr
  have hclause : Performs (identificationClause score) :=
    performs_spaces.bind fun _ => performs_expect.bind fun _ => performs_allow.bind fun _ =>
      performs_spaces.bind fun _ => performs_programName
  apply htakes.readsPast
  rw [identificationDivision, unread_final_inNode, final_bind, hheader, ← final_bind]
  apply Moves.unread_suffix
  exact hclause.bind
    (fun _ => performs_spaces.bind fun _ => performs_qualification.bind fun _ =>
    performs_spaces.bind fun _ => performs_allow.bind fun _ => performs_content.bind
      fun _ => .pure _) s₁

theorem readsPast_openUnit {opener : String} (hmem : opener ∈ identificationOpeners)
    (h : Announces score s (identificationHeaderWords opener)) :
    ReadsPast score (identificationHeaderWords opener) s
      ((openUnit score).final s.shiftTrivia) := by
  have hfinal : ((openUnit score).final s.shiftTrivia).unread =
      ((identificationDivision score).final (s.shiftTrivia.openNode .programUnit)).unread := by
    unfold final
    rw [openUnit_run]
    cases identificationDivision score (s.shiftTrivia.openNode .programUnit) <;> rfl
  unfold ReadsPast
  rw [hfinal]
  exact readsPast_identificationDivision hmem h rfl

theorem expect_fails {keyword : String} {f : Failure}
    (h : expect score keyword s = .error f s') :
    s'.stream = s.stream ∧ f ∈ [(Complaint.endOfInput (quoteAll [keyword])).failure s.peek,
      (Complaint.token keyword).failure s.peek] := by
  rw [expect_run] at h
  split at h
  · cases h
    exact ⟨rfl, List.mem_cons_self⟩
  · split at h
    · cases h
    · cases h
      exact ⟨rfl, List.mem_cons_of_mem _ List.mem_cons_self⟩

theorem programName_fails {f : Failure} (h : programName s = .error f s') :
    s'.stream = s.stream ∧ f ∈ [(Complaint.endOfInput "program name").failure s.peek,
      (Complaint.token "program name").failure s.peek] := by
  rw [programName_run] at h
  split at h
  · cases h
    exact ⟨rfl, List.mem_cons_self⟩
  · split at h
    · cases h
      exact ⟨rfl, List.mem_cons_of_mem _ List.mem_cons_self⟩
    · cases h

/-- A trailer breaks off before a token: its name should stand there and does not. -/
structure LacksName (s s' : State) (f : Failure) : Prop where
  place : s'.stream = s.shiftTrivia.stream
  blamed : f ∈ [(Complaint.endOfInput "program name").failure s'.peek,
    (Complaint.token "program name").failure s'.peek]

/-- A trailer breaks off behind its name: its period should stand there and does not. -/
structure LacksPeriod (s s' : State) (f : Failure) : Prop where
  place : ∃ name rest, s.shiftTrivia.unread = name :: rest ∧ name.isTerminator = false ∧
    s'.unread = rest.dropWhile Token.isTrivia
  blamed : f ∈ [(Complaint.endOfInput (quoteAll ["."])).failure s'.peek,
    (Complaint.token ".").failure s'.peek]

theorem endProgramWords_fails {f : Failure}
    (h : Announces score s [.keyword "END", .keyword "PROGRAM"])
    (hfails : endProgramWords score s = .error f s') :
    ∃ s₁, Takes score [.keyword "END", .keyword "PROGRAM"] s s₁ ∧
      (LacksName s₁ s' f ∨ LacksPeriod s₁ s' f) := by
  obtain ⟨s₁, hend, htakes₁, h₁⟩ := h.exists_expect rfl
  obtain ⟨s₂, hprogram, htakes₂, h₂⟩ := h₁.exists_expect rfl
  refine ⟨s₂, htakes₁.trans htakes₂, ?_⟩
  rw [endProgramWords, spaces_bind, bind_eq_of_ok hend, spaces_bind, bind_eq_of_ok hprogram,
    spaces_bind] at hfails
  cases hname : programName s₂.shiftTrivia with
  | error e s₃ =>
    rw [bind_eq_of_error hname] at hfails
    cases hfails
    obtain ⟨hplace, hblamed⟩ := programName_fails hname
    left
    refine ⟨hplace, ?_⟩
    rwa [State.peek, hplace]
  | ok name s₃ =>
    rw [bind_eq_of_ok hname, spaces_bind] at hfails
    have hperiod : expect score "." s₃.shiftTrivia = .error f s' := by
      apply error_of_bind _ hfails
      intro _ _ hpure
      cases hpure
    obtain ⟨-, hreads, hplain⟩ := exists_reads_of_programName hname h₂.sentinel
    obtain ⟨hplace, hblamed⟩ := expect_fails hperiod
    right
    refine ⟨⟨name, s₃.unread, hreads.unread, hplain, ?_⟩, ?_⟩
    · rw [← s₃.unread_shiftTrivia]
      exact congrArg TokenStream.unread hplace
    · rwa [State.peek, hplace]

end Production

open Production in
/--
What the machine sees ahead between two steps is what it then reads. Of a division no header
fails, of a unit not the first sentence, and of a trailer nothing but the name and the period.
-/
theorem lookahead_kept (score : Similarity) (tokens : List Token)
    (hend : ∀ t ∈ tokens, t.isEndOfInput = false) (position : Position) (offset n : Nat)
    (s : State)
    (hs : s = ((step score)^[n]
      ⟨.sourceUnit, .initial (.ofTokens tokens (.endOfInput position offset))⟩).state) :
    (∀ d, atDivisionHeader score d s.unread →
      ∃ s', division score d s = .ok () s' ∧ ReadsPast score d.header s s') ∧
    (atIdentificationHeader score s.unread → ∃ opener ∈ identificationOpeners,
      ReadsPast score (identificationHeaderWords opener) s
        ((openUnit score).final s.shiftTrivia)) ∧
    (atEndProgram score s.unread → ∀ f s', endProgram score s = .error f s' →
      ∃ s₁, Takes score [.keyword "END", .keyword "PROGRAM"] s s₁ ∧
        (LacksName s₁ s' f ∨ LacksPeriod s₁ s' f)) := by
  have hmoves := @moves_iterate score n
    ⟨.sourceUnit, .initial (.ofTokens tokens (.endOfInput position offset))⟩
  rw [← hs] at hmoves
  have hannounces {pattern : List Ahead} (h : looksLike score pattern s.unread) :
      Announces score s pattern := by
    refine ⟨h, ?_, ?_⟩
    · intro t ht
      exact hend t (hmoves.unread_suffix.mem ht)
    · rw [hmoves.sentinel_eq]
      rfl
  refine ⟨?_, ?_, ?_⟩
  · intro d hd
    rw [atDivisionHeader_eq] at hd
    exact exists_division (hannounces hd)
  · intro hunit
    obtain ⟨opener, hmem, hahead⟩ := List.any_eq_true.1 hunit
    exact ⟨opener, hmem, readsPast_openUnit hmem (hannounces hahead)⟩
  · intro htrailer f s' hfails
    exact endProgramWords_fails (hannounces htrailer) (endProgramWords_of_error hfails)

/-- A unit with a division and a nested unit, whose trailer lacks a name. -/
def namelessTrailer : String :=
  "ID DIVISION. PROGRAM-ID. P. DATA DIVISION. ID DIVISION. PROGRAM-ID. Q. END PROGRAM ."

open Production in
theorem lookahead_kept_namelessTrailer :
    let s (n : Nat) := ((step .jaroWinkler)^[n]
      ⟨.sourceUnit, .initial (.ofTokens (scan namelessTrailer) (.endOfInput ⟨0, 83⟩ 83))⟩).state
    (∃ s', division .jaroWinkler .data (s 2) = .ok () s' ∧
      ReadsPast .jaroWinkler Division.data.header (s 2) s') ∧
    (∃ opener ∈ identificationOpeners,
      ReadsPast .jaroWinkler (identificationHeaderWords opener) (s 4)
      ((openUnit .jaroWinkler).final (s 4).shiftTrivia)) ∧
    ∃ f s' s₁, endProgram .jaroWinkler (s 8) = .error f s' ∧
      Takes .jaroWinkler [.keyword "END", .keyword "PROGRAM"] (s 8) s₁ ∧
      (LacksName s₁ s' f ∨ LacksPeriod s₁ s' f) := by
  intro s
  have hend : ∀ t ∈ scan namelessTrailer, t.isEndOfInput = false := by decide +kernel
  have hkept (n : Nat) := lookahead_kept .jaroWinkler _ hend ⟨0, 83⟩ 83 n (s n) rfl
  obtain ⟨hdivision, hunit, htrailer, hgivesUp⟩ :
      atDivisionHeader .jaroWinkler .data (s 2).unread ∧
      atIdentificationHeader .jaroWinkler (s 4).unread ∧
      atEndProgram .jaroWinkler (s 8).unread ∧
      (Configuration.after (endProgram .jaroWinkler) (.programUnit []) (s 8)).phase =
        .sourceUnit := by
    decide +kernel
  refine ⟨(hkept 2).1 .data hdivision, (hkept 4).2.1 hunit, ?_⟩
  cases hrun : endProgram .jaroWinkler (s 8) with
  | ok u s' =>
    rw [Configuration.after, hrun] at hgivesUp
    cases hgivesUp
  | error f s' =>
    obtain ⟨s₁, hlacks⟩ := (hkept 8).2.2 htrailer f s' hrun
    exact ⟨f, s', s₁, rfl, hlacks⟩

end CobolCompanion
