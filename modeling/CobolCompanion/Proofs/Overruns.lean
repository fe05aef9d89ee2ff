import CobolCompanion.Proofs.BlindProductions
import CobolCompanion.Proofs.ErrorRegions
import CobolCompanion.Proofs.Layouts
import CobolCompanion.Proofs.RecoveryPoints

namespace CobolCompanion

open Parse

namespace Parse

section
variable {score : Similarity} {start : Bool} {pattern : List Ahead} {ts us : List Token}

theorem Spells.looksLike (h : Spells score pattern ts) : looksLike score pattern ts := by
  rw [looksLike_eq_agrees]
  unfold Spells at h
  generalize significantTokens ts = words at h
  induction h with
  | nil => rfl
  | cons htest _ ih =>
    rw [agrees, htest, ih]
    rfl

theorem exists_expected_of_agrees (h : agrees score pattern (ts ++ us))
    (hlength : ts.length < pattern.length) :
    ∀ t ∈ ts, ∃ expected ∈ pattern.dropLast, expected.test score t := by
  induction ts generalizing pattern with
  | nil => simp
  | cons t ts ih =>
    cases pattern with
    | nil => cases hlength
    | cons expected pattern =>
      have hmore : ts.length < pattern.length := Nat.lt_of_succ_lt_succ hlength
      have hpattern : pattern ≠ [] := List.ne_nil_of_length_pos (Nat.zero_lt_of_lt hmore)
      rw [List.cons_append, agrees, Bool.and_eq_true] at h
      rw [List.dropLast_cons_of_ne_nil hpattern, List.forall_mem_cons]
      constructor
      · exact ⟨expected, List.mem_cons_self, h.1⟩
      · intro u hu
        obtain ⟨asked, hasked, htest⟩ := ih h.2 hmore u hu
        exact ⟨asked, List.mem_cons_of_mem _ hasked, htest⟩

theorem isTerminator_eq_false_of_headerPatterns (hscore : score.TellsApart)
    (hpattern : pattern ∈ headerPatterns start) {expected : Ahead}
    (hexpected : expected ∈ pattern.dropLast) {t : Token} (htest : expected.test score t) :
    t.isTerminator = false := by
  have hcases : expected = .anyWord ∨ ∃ keyword ∈ reservedWords, keyword ≠ "." ∧
      (expected = .keyword keyword ∨ expected = .exactly keyword) := by
    clear htest
    revert expected pattern
    cases start <;>
      simp [headerPatterns, Division.all, Division.header, Division.opener,
        identificationOpeners, Production.identificationHeaderWords, reservedWords]
  apply Bool.eq_false_iff.2
  intro hperiod
  simp only [Token.isTerminator, Bool.and_eq_true, beq_iff_eq] at hperiod
  have hnone {keyword : String} (hkeyword : keyword ∈ reservedWords) (hne : keyword ≠ ".") :
      Keyword.accepts score t keyword = false := by
    apply Keyword.not_accepts_of_spells hscore _ (by decide : "." ∈ reservedWords)
      hkeyword hne.symm
    rw [hperiod.2]
    decide +kernel
  obtain rfl | ⟨keyword, hkeyword, hne, rfl | rfl⟩ := hcases
  · simp [Ahead.test, Token.isWord, hperiod.1] at htest
  · have haccepts : Keyword.accepts score t keyword := htest
    rw [hnone hkeyword hne] at haccepts
    cases haccepts
  · have haccepts : Keyword.accepts score t keyword :=
      Keyword.accepts_of_sameIgnoringCase htest hkeyword
    rw [hnone hkeyword hne] at haccepts
    cases haccepts

theorem statementLength_append_of_plain
    (hts : ∀ t ∈ ts, t.isTerminator = false ∧ t.isEndOfInput = false) (us : List Token) :
    statementLength (ts ++ us) = ts.length + statementLength us := by
  induction ts with
  | nil => simp
  | cons t ts ih =>
    rw [List.forall_mem_cons] at hts
    rw [List.cons_append, statementLength, hts.1.1, hts.1.2, ih hts.2, List.length_cons]
    simp
    omega

end

namespace Respelling

variable {e : Respelling} {score : Similarity} {start : Bool} {before gap : List Token}
  {s t s' : State}

theorem looksLike_of_readsPast {pattern : List Ahead} (hreads : ReadsPast score pattern s s')
    (hs : s.unread = before ++ e.old :: e.rest) (hawaits : e.Awaits s'.unread) :
    looksLike score pattern before := by
  obtain ⟨words, rest, hsplit, hspells, hsuffix⟩ := hreads
  obtain ⟨others, hothers⟩ := hawaits.trans hsuffix
  have hbefore : before = words ++ others := by
    apply List.append_cancel_right
    rw [← hs, hsplit, ← hothers, List.append_assoc]
  rw [hbefore]
  exact looksLike_append_right hspells.looksLike others

theorem not_awaits_recover (hs : s.unread = before ++ e.old :: e.rest)
    (hplain : ∀ t ∈ before, t.isTerminator = false ∧ t.isEndOfInput = false) :
    ¬e.Awaits s.recover.unread := by
  apply not_awaits_of_length_le
  rw [State.unread_recover, hs]
  cases before with
  | nil =>
    simp
  | cons x before =>
    rw [List.forall_mem_cons] at hplain
    have hpos := statementLength_pos e.old e.rest
    have hlength := statementLength_append_of_plain hplain.2 (e.old :: e.rest)
    rw [List.cons_append, List.drop_one, List.tail_cons, hlength, List.length_drop,
      List.length_append, List.length_cons]
    omega

theorem Awaits.of_recover (h : e.Awaits s.recover.unread) : e.Awaits (s.unread.drop 1) := by
  rw [State.unread_recover] at h
  exact h.trans (List.drop_suffix _ _)

theorem Fits.not_awaits_recover_of_header (h : e.Fits score) {pattern : List Ahead}
    (hpattern : pattern ∈ headerPatterns start) (hs : s.unread = before ++ e.old :: e.rest)
    (hend : ∀ t ∈ s.unread, t.isEndOfInput = false) (hahead : looksLike score pattern s.unread)
    (hincomplete : ¬looksLike score pattern before) : ¬e.Awaits s.recover.unread := by
  apply not_awaits_recover hs
  intro t ht
  have hpresent := hend t (by rw [hs]; exact List.mem_append_left _ ht)
  cases htrivia : t.isTrivia with
  | true => exact ⟨Token.isTerminator_of_isTrivia htrivia, hpresent⟩
  | false =>
    have hshort : (significantTokens before).length < pattern.length := by
      by_contra hlong
      rw [hs] at hahead
      exact hincomplete (looksLike_of_length_le (Nat.le_of_not_lt hlong) hahead)
    rw [looksLike_eq_agrees, hs, significantTokens_append] at hahead
    have hmem : t ∈ significantTokens before :=
      List.mem_filter.2 ⟨ht, by simp [Token.isSignificant, htrivia]⟩
    obtain ⟨expected, hexpected, htest⟩ := exists_expected_of_agrees hahead hshort t hmem
    exact ⟨isTerminator_eq_false_of_headerPatterns h.apart hpattern hexpected htest, hpresent⟩

theorem programUnit_ne_sourceUnit (ds : List Division) :
    Phase.programUnit ds ≠ .sourceUnit := by
  intro h
  cases h

/-- The token is the next significant one, and a unit is open. -/
structure Arrived (e : Respelling) (c : Configuration) : Prop where
  inside : c.phase ≠ .sourceUnit
  place : ∃ gap, significantTokens gap = [] ∧ c.state.unread = gap ++ e.old :: e.rest

/-- The machine is going to read the token, and not as the next significant one in a unit. -/
inductive Overruns (e : Respelling) (score : Similarity) : Configuration → Prop where
  | boundary {phase : Phase} {s : State} {before : List Token} (hphase : phase ≠ .sourceUnit)
      (hs : s.unread = before ++ e.old :: e.rest) (h : e.Hinges score s.statementStart before) :
      Overruns e score ⟨phase, s⟩
  /-- The token is the name in a trailer. -/
  | name {s : State} {before : List Token} (hs : s.unread = before ++ e.old :: e.rest)
      (hend : FacesEnd score s) (htrailer : looksLike score trailerPattern before)
      (hcount : (significantTokens before).length = 2) : Overruns e score ⟨.programUnit [], s⟩
  | outside {s : State} {gap : List Token} (hs : s.unread = gap ++ e.old :: e.rest)
      (hgap : significantTokens gap = []) : Overruns e score ⟨.sourceUnit, s⟩

/-- A configuration on the way through a text that has no end of input but behind it. -/
structure Underway (c : Configuration) : Prop where
  orderly : Orderly c
  endless : ∀ t ∈ c.state.unread, t.isEndOfInput = false

namespace Underway

variable {c : Configuration} {phase : Phase}

theorem step (h : Underway c) : Underway (step score c) where
  orderly := h.orderly.step
  endless := by
    intro t ht
    exact h.endless t ((moves_step c).unread_suffix.mem ht)

theorem announces {pattern : List Ahead} (h : Underway ⟨phase, s⟩)
    (hahead : looksLike score pattern s.unread) :
    Announces score s pattern :=
  ⟨hahead, h.endless, h.orderly.sentinel⟩

/--
A unit that is opened in another one, be it given up then, begins with the header that was seen.
-/
theorem looksLike_of_openUnit (h : Underway ⟨phase, s⟩) (hphase : phase ≠ .sourceUnit)
    (hfaces : FacesUnit score phase s) (hs : s.unread = before ++ e.old :: e.rest)
    (hawaits : e.Awaits ((openUnit score).final s.shiftTrivia).unread) :
    ∃ opener ∈ identificationOpeners,
      looksLike score (Production.identificationHeaderWords opener) before := by
  cases phase with
  | sourceUnit => exact absurd rfl hphase
  | programUnit ds =>
    cases ds with
    | cons d ds => exact hfaces.elim
    | nil =>
      obtain ⟨opener, hopener, hahead⟩ := atIdentificationHeader_iff.1 hfaces
      have hreads := Production.readsPast_openUnit hopener (h.announces hahead)
      exact ⟨opener, hopener, looksLike_of_readsPast hreads hs hawaits⟩

theorem looksLike_of_division {d : Division} {ds : List Division}
    (h : Underway ⟨.programUnit (d :: ds), s⟩) (hheader : atDivisionHeader score d s.unread)
    (hs : s.unread = before ++ e.old :: e.rest)
    (hrun : Production.division score d s = .ok () s') (hawaits : e.Awaits s'.unread) :
    looksLike score d.header before := by
  rw [atDivisionHeader_eq] at hheader
  obtain ⟨s₁, hrun₁, hreads⟩ := Production.exists_division (h.announces hheader)
  rw [hrun] at hrun₁
  cases hrun₁
  exact looksLike_of_readsPast hreads hs hawaits

theorem division_ne_error {d : Division} {ds : List Division} {f : Failure}
    (h : Underway ⟨.programUnit (d :: ds), s⟩) (hheader : atDivisionHeader score d s.unread) :
    Production.division score d s ≠ .error f s' := by
  rw [atDivisionHeader_eq] at hheader
  obtain ⟨s₁, hrun, -⟩ := Production.exists_division (h.announces hheader)
  rw [hrun]
  intro herror
  cases herror

theorem count_of_endProgram (h : Underway ⟨phase, s⟩)
    (hs : s.unread = before ++ e.old :: e.rest)
    (hrun : Production.endProgram score s = .ok () s') (hawaits : e.Awaits s'.unread) :
    4 ≤ (significantTokens before).length := by
  obtain ⟨ts, _, _, name, _, s₁, hreads, hts, rfl⟩ :=
    exists_reads_of_endProgram hrun h.orderly.sentinel
  rw [State.unread, checkTrailer_stream] at hawaits
  obtain ⟨others, hothers⟩ := hawaits
  have hbefore : before = ts ++ others := by
    apply List.append_cancel_right
    rw [← hs, hreads.unread, Element.leavesAll_map_token, List.append_assoc, hothers]
    rfl
  rw [hbefore, significantTokens_append, hts]
  simp

theorem count_of_endProgram_error {f : Failure} (h : Underway ⟨phase, s⟩)
    (hs : s.unread = before ++ e.old :: e.rest) (htrailer : atEndProgram score s.unread)
    (hrun : Production.endProgram score s = .error f s')
    (hawaits : e.Awaits (s'.unread.drop 1)) :
    3 ≤ (significantTokens before).length := by
  obtain ⟨s₁, ⟨words, hsplit, hspells⟩, hlacks⟩ :=
    Production.endProgramWords_fails (h.announces htrailer)
    (Production.endProgramWords_of_error hrun)
  -- Whatever is missing, the token behind the first two words has been passed.
  obtain ⟨x, rest, hnext, others, hothers⟩ : ∃ x rest,
      s₁.unread.dropWhile Token.isTrivia = x :: rest ∧
      e.old :: e.rest <:+ rest := by
    rcases hlacks with ⟨hplace, -⟩ | ⟨⟨name, rest, hname, -, hplace⟩, -⟩
    · have hunread : s'.unread = s₁.unread.dropWhile Token.isTrivia := by
        rw [← s₁.unread_shiftTrivia]
        exact congrArg TokenStream.unread hplace
      rw [hunread] at hawaits
      cases hrest : s₁.unread.dropWhile Token.isTrivia with
      | nil =>
        rw [hrest] at hawaits
        exact absurd hawaits (not_awaits_of_length_le (Nat.zero_le _))
      | cons x rest =>
        rw [hrest] at hawaits
        exact ⟨x, rest, rfl, hawaits⟩
    · rw [s₁.unread_shiftTrivia] at hname
      rw [hplace] at hawaits
      exact ⟨name, rest, hname,
        (hawaits.trans (List.drop_suffix 1 _)).trans (List.dropWhile_suffix _)⟩
  have hx := isTrivia_of_dropWhile_eq_cons hnext
  obtain ⟨hgap, hword⟩ := significantTokens_gap hnext hx
  have hbefore : before = words ++ (s₁.unread.takeWhile Token.isTrivia ++ [x]) ++ others := by
    apply List.append_cancel_right
    rw [← hs, hsplit, List.append_assoc, List.append_assoc, hothers, ← hgap]
  have hcount : 2 = (significantTokens words).length := hspells.length_eq
  rw [hbefore, significantTokens_append, significantTokens_append, hword, List.length_append,
    List.length_append, ← hcount, List.length_singleton]
  omega

end Underway

theorem Underway.closeUnit_eq (h : Underway ⟨.programUnit [], s⟩)
    (hcloses : s.trailerClosesEnclosing) :
    closeUnit s = ⟨.programUnit [], s.leaveUnit⟩ := by
  have hnames : 1 < s.openNames.length := by
    unfold State.trailerClosesEnclosing at hcloses
    split at hcloses
    · next name own enclosing _ hopen =>
      simp only [Bool.and_eq_true, List.contains_iff_mem] at hcloses
      rw [hopen, List.length_cons]
      exact Nat.succ_lt_succ (List.length_pos_of_mem hcloses.2)
    · cases hcloses
  apply closeUnit_of_nested
  apply List.ne_nil_of_length_pos
  rw [State.leaveUnit, Context.frames_length_close, ← h.orderly.names]
  exact Nat.sub_pos_of_lt hnames

theorem mem_headerPatterns_division (d : Division) : d.header ∈ headerPatterns start := by
  cases start <;> cases d <;> simp [headerPatterns, Division.all]

theorem mem_headerPatterns_unit {opener : String} (h : opener ∈ identificationOpeners) :
    Production.identificationHeaderWords opener ∈ headerPatterns start := by
  unfold headerPatterns
  exact List.mem_append_left _ (List.mem_append_right _ (List.mem_map_of_mem h))

theorem Hinges.not_header (h : e.Hinges score start before) {pattern : List Ahead}
    (hpattern : pattern ∈ headerPatterns start) : ¬looksLike score pattern before :=
  fun hahead => h.incomplete ⟨pattern, List.mem_cons_of_mem _ hpattern, hahead⟩

theorem Hinges.not_atEndProgram (h : e.Hinges score start before)
    (hs : s.unread = before ++ e.old :: e.rest)
    (hcount : 2 ≤ (significantTokens before).length) :
    ¬atEndProgram score s.unread := by
  intro htrailer
  unfold atEndProgram at htrailer
  rw [hs] at htrailer
  have hahead : looksLike score trailerPattern before := looksLike_of_length_le hcount htrailer
  exact h.incomplete ⟨trailerPattern, List.mem_cons_self, hahead⟩

/-- Where something is given up before the token, recovery goes past it. -/
theorem Hinges.not_awaits_of_fails (hfit : e.Fits score) {phase : Phase} {f : Failure}
    (hc : Underway ⟨phase, s⟩) (hphase : phase ≠ .sourceUnit)
    (hs : s.unread = before ++ e.old :: e.rest) (h : e.Hinges score s.statementStart before)
    (hfails : Fails score ⟨phase, s⟩ f s') :
    ¬e.Awaits s'.recover.unread := by
  intro hawaits
  have hlater := hawaits.of_recover
  cases hfails with
  | opening hfaces hopen =>
    have hfinal : (openUnit score).final s.shiftTrivia = s' := by rw [Production.final, hopen]
    obtain ⟨opener, hopener, hahead⟩ := hc.looksLike_of_openUnit hphase hfaces hs (by
      rw [hfinal]
      exact hlater.trans (List.drop_suffix 1 _))
    exact h.not_header (mem_headerPatterns_unit hopener) hahead
  | division hheader hdivision => exact hc.division_ne_error hheader hdivision
  | header hunit hheader hrun =>
    cases hrun
    obtain ⟨pattern, hpattern, hahead⟩ := atAnyHeader_iff.1 hheader
    exact hfit.not_awaits_recover_of_header hpattern hs hc.endless hahead
      (h.not_header hpattern) hawaits
  | trailer hend htrailer hown hwords =>
    have hcount := hc.count_of_endProgram_error hs htrailer hwords hlater
    exact h.not_atEndProgram hs (Nat.le_trans (by decide) hcount) htrailer

theorem Hinges.overruns_step (hfit : e.Fits score) {phase : Phase} (hc : Underway ⟨phase, s⟩)
    (hphase : phase ≠ .sourceUnit) (hs : s.unread = before ++ e.old :: e.rest)
    (h : e.Hinges score s.statementStart before)
    (hawaits : e.Awaits (Parse.step score ⟨phase, s⟩).state.unread) :
    e.Overruns score (Parse.step score ⟨phase, s⟩) := by
  have hadvance := advance_step score ⟨phase, s⟩
  generalize Parse.step score ⟨phase, s⟩ = c at hadvance hawaits
  cases hadvance with
  | finishes hend => exact absurd rfl hphase
  | skips hmore hother => exact absurd rfl hphase
  | @opens _ _ s' hfaces hopen =>
    have hfinal : (openUnit score).final s.shiftTrivia = s' := by rw [Production.final, hopen]
    obtain ⟨opener, hopener, hahead⟩ :=
      hc.looksLike_of_openUnit hphase hfaces hs (by rwa [hfinal])
    exact absurd hahead (h.not_header (mem_headerPatterns_unit hopener))
  | passes hheader => exact .boundary (programUnit_ne_sourceUnit _) hs h
  | reads hheader hdivision =>
    exact absurd (hc.looksLike_of_division hheader hs hdivision hawaits)
      (h.not_header (mem_headerPatterns_division _))
  | leaves hend htrailer =>
    have hahead : atEndProgram score s.unread := by
      have hboundary := showsBoundary_iff.1 h.boundary
      rw [← hs, hend.noHeader] at hboundary
      exact hboundary.resolve_left Bool.false_ne_true
    rw [hc.closeUnit_eq (htrailer hahead)]
    exact .boundary (programUnit_ne_sourceUnit _) hs h
  | @ends _ s' hend htrailer hown hwords =>
    have hcount := hc.count_of_endProgram hs hwords
      (hawaits.trans (moves_closeUnit s').unread_suffix)
    exact absurd htrailer (h.not_atEndProgram hs (Nat.le_trans (by decide) hcount))
  | fails hfails => exact absurd hawaits (h.not_awaits_of_fails hfit hc hphase hs hfails)

/-- A machine that is going to read the token keeps to that until it has read it. -/
theorem Overruns.step (hfit : e.Fits score) {c : Configuration} (hc : Underway c)
    (h : e.Overruns score c) (hawaits : e.Awaits (Parse.step score c).state.unread) :
    e.Overruns score (Parse.step score c) := by
  cases h with
  | boundary hphase hs hhinges => exact hhinges.overruns_step hfit hc hphase hs hawaits
  | @name s before hs hend htrailer hcount =>
    have hadvance := advance_step score ⟨.programUnit [], s⟩
    generalize Parse.step score ⟨.programUnit [], s⟩ = c at hadvance hawaits
    have hahead : atEndProgram score s.unread := by
      unfold atEndProgram
      rw [hs]
      exact looksLike_append_right htrailer _
    cases hadvance with
    | opens hfaces hopen =>
      have hunit : atIdentificationHeader score s.unread := hfaces
      rw [hend.noUnit] at hunit
      cases hunit
    | leaves _ hcloses =>
      rw [hc.closeUnit_eq (hcloses hahead)]
      exact .name hs ⟨hend.noUnit, hend.noHeader⟩ htrailer hcount
    | @ends _ s' _ _ hown hwords =>
      have hmany := hc.count_of_endProgram hs hwords
        (hawaits.trans (moves_closeUnit s').unread_suffix)
      omega
    | fails hfails =>
      cases hfails with
      | opening hfaces hopen =>
        have hunit : atIdentificationHeader score s.unread := hfaces
        rw [hend.noUnit] at hunit
        cases hunit
      | header hunit hheader hrun =>
        rw [hend.noHeader] at hheader
        cases hheader
      | trailer _ _ hown hwords =>
        have hmany := hc.count_of_endProgram_error hs hahead hwords hawaits.of_recover
        omega
  | @outside s gap hs hgap =>
    have hnext : s.shiftTrivia.unread = e.old :: e.rest :=
      (State.Faces.of_eq hs).unread_shiftTrivia (significantTokens_eq_nil_iff.1 hgap)
        hfit.significant
    have hadvance := advance_step score ⟨.sourceUnit, s⟩
    generalize Parse.step score ⟨.sourceUnit, s⟩ = c at hadvance hawaits
    exfalso
    cases hadvance with
    | finishes hend =>
      rw [hnext] at hend
      cases hend
    | skips hmore hother =>
      refine not_awaits_of_length_le ?_ (hawaits.trans (moves_shiftTrivia _).unread_suffix)
      simp [hnext]
    | @opens _ _ s' hfaces hopen =>
      have hshorter := readsSome_openUnit s.shiftTrivia () s' (by simp [hnext]) hopen
      rw [hnext] at hshorter
      exact not_awaits_of_length_le (Nat.le_of_lt_succ hshorter) hawaits
    | @fails _ _ s' hfails =>
      cases hfails with
      | opening hfaces hopen =>
        have hmoves := (performs_openUnit.moves_of_error hopen).unread_suffix.length_le
        rw [hnext] at hmoves
        refine not_awaits_of_length_le ?_ hawaits.of_recover
        rw [List.length_drop]
        exact Nat.sub_le_of_le_add hmoves

end Respelling

end Parse

end CobolCompanion
