import CobolCompanion.Parse.Run
import CobolCompanion.Proofs.ListingProductions

namespace CobolCompanion

open Parse Production

namespace Parse

variable {score : Similarity} {s s' s'' : State} {name : String} {words more : List Element}

theorem run_of_not_isFinal {c : Configuration} (h : c.isFinal = false) :
    run score c = run score (step score c) := by
  rw [run.eq_def score c, h]
  rfl

theorem run_division (d : Division) (ds : List Division) (s : State) :
    run score ⟨.programUnit (d :: ds), s⟩ =
      run score (if atDivisionHeader score d s.unread then
        .after (division score d) (.programUnit ds) s
      else ⟨.programUnit ds, s⟩) :=
  run_of_not_isFinal rfl

theorem run_afterDivisions (s : State) :
    run score ⟨.programUnit [], s⟩ = run score (programUnitStep score s) :=
  run_of_not_isFinal rfl

theorem run_sourceUnit (h : s.unread ≠ []) :
    run score ⟨.sourceUnit, s⟩ = run score (sourceUnitStep score s) :=
  run_of_not_isFinal (by simp [Configuration.isFinal, h])

theorem run_exhausted (h : s.unread = []) : run score ⟨.sourceUnit, s⟩ = s := by
  rw [run, if_pos (by simp [Configuration.isFinal, h])]

/-- A program unit was opened between two states, and its node has got the given elements. -/
structure Opens (s : State) (name : String) (words : List Element) (s' : State) : Prop where
  context : ∃ es, s'.context =
    s.context.push ⟨{ kind := .programUnit, name := some name }, es⟩ ∧
    Element.withoutTriviaAll es = words
  diagnostics : s'.diagnostics = s.diagnostics
  openNames : s'.openNames = upper name :: s.openNames

namespace Opens

theorem adds (h : Opens s name words s') (h' : Adds s' more s'') :
    Opens s name (words ++ more) s'' := by
  obtain ⟨es, hes, hwords⟩ := h.context
  obtain ⟨fs, hfs, hmore⟩ := h'.context
  refine ⟨⟨es ++ fs, ?_, ?_⟩, h'.diagnostics.trans h.diagnostics,
    h'.openNames.trans h.openNames⟩
  · rw [hfs, hes]
    rfl
  · rw [Element.withoutTriviaAll_append, hwords, hmore]

theorem frames_length (h : Opens s name words s') :
    s'.context.frames.length = s.context.frames.length + 1 := by
  obtain ⟨es, hes, _⟩ := h.context
  rw [hes, Context.frames_length_push]

/-- When a unit is left, its node is added to the node around it. -/
theorem leaveUnit (h : Opens s name words s') :
    Adds s [.node { kind := .programUnit, name := some name } words] s'.leaveUnit := by
  obtain ⟨es, hes, hwords⟩ := h.context
  refine ⟨⟨[.node { kind := .programUnit, name := some name } es], ?_, ?_⟩, h.diagnostics, ?_⟩
  · change s'.context.close = _
    rw [hes]
    exact Context.close_modify_push s.context
      ⟨{ kind := .programUnit, name := some name }, es⟩ id
  · rw [Element.withoutTriviaAll_node, hwords]
  · change s'.openNames.tail = _
    rw [h.openNames, List.tail_cons]

end Opens

theorem after_of_ok {p : Production Unit} (h : p s = .ok () s') (phase : Phase) :
    Configuration.after p phase s = ⟨phase, s'⟩ := by
  simp only [Configuration.after, h]

end Parse

namespace Listing

variable {score : Similarity} {s s' : State} {ts : List Token}

/-- An identification division opens a unit with the name that it gives. -/
theorem Identification.opens (i : Identification score) (hscore : score.TellsApart)
    (h : Boundary score Division.all ts) (hs : s.unread = i.text ++ ts) :
    ∃ s', openUnit score s = .ok () s' ∧ Opens s i.name.token.lexeme [i.element] s' ∧
      s'.unread = ts := by
  obtain ⟨s₁, hrun, hadds, hrest⟩ := i.yields (s := s.openNode .programUnit) hscore h hs
  obtain ⟨es, hes, hwords⟩ := hadds.context
  have hname := i.name.programNameOf_token
  refine ⟨{ s₁ with
    openNames := upper (programNameOf i.name.token) :: s₁.openNames
    context := s₁.context.modify ({ · with name := some (programNameOf i.name.token) }) }, ?_,
    ?_, hrest⟩
  · exact bind_eq_of_ok hrun _
  · refine ⟨⟨es, ?_, hwords⟩, hadds.diagnostics, ?_⟩
    · simp only [hes, hname]
      rfl
    · simp only [hname, hadds.openNames]
      rfl

theorem Boundary.not_atDivisionHeader {ds : List Division} {d : Division}
    (h : Boundary score ds ts) (hscore : score.TellsApart) (hd : d ∉ ds) :
    atDivisionHeader score d ts = false := by
  obtain ⟨t, rest, hts, hword⟩ := h.head
  have hne : upper t.lexeme ≠ d.opener := by
    intro heq
    rw [heq, openings, List.mem_append] at hword
    rcases hword with hword | hword
    · obtain ⟨d', hd', hopener⟩ := List.mem_map.1 hword
      have hsame : d' = d := by cases d <;> cases d' <;>
        first | rfl | simp [Division.opener] at hopener
      exact hd (hsame ▸ hd')
    · cases d <;> simp [Division.opener] at hword
  have hreject : Keyword.accepts score t d.opener = false :=
    Keyword.not_accepts_of_spells hscore rfl (mem_openings hword).1
      (opener_mem_reservedWords d) hne
  have hlooks (pattern : List Ahead) :
      looksLike score (.keyword d.opener :: pattern) ts = false := by
    apply not_looksLike_of_head
    intro u hu
    rw [hts, List.getElem?_cons_zero, Option.some.injEq] at hu
    exact hu ▸ hreject
  cases d <;> exact hlooks _

theorem run_divisions (parts : (d : Division) → Option (Part score d))
    (hscore : score.TellsApart) (h : Boundary score [] ts) {ds : List Division} (hds : ds.Nodup)
    (hs : s.Faces (partTokens parts ds ++ ts)) :
    ∃ s', run score ⟨.programUnit ds, s⟩ = run score ⟨.programUnit [], s'⟩ ∧
      Adds s (partElements parts ds) s' ∧ s'.Faces ts := by
  induction ds generalizing s with
  | nil => exact ⟨s, rfl, .refl s, hs⟩
  | cons d ds ih =>
    obtain ⟨hd, hds⟩ := List.nodup_cons.1 hds
    have hboundary : Boundary score ds (partTokens parts ds ++ ts) := .partTokens parts h
    rw [run_division]
    cases hpart : parts d with
    | none =>
      -- What comes next is the opener of a later division, or of what follows all divisions.
      rw [partTokens_cons_of_none ds hpart] at hs
      rw [partElements_cons_of_none ds hpart]
      have habsent := hboundary.not_atDivisionHeader hscore hd
      rw [← atDivisionHeader_congr hs.significantTokens] at habsent
      rw [if_neg (by simp [habsent])]
      exact ih hds hs
    | some p =>
      rw [partTokens_cons_of_some ds hpart, List.append_assoc] at hs
      rw [partElements_cons_of_some ds hpart]
      have hpresent := p.atDivisionHeader (partTokens parts ds ++ ts)
      rw [← atDivisionHeader_congr hs.significantTokens] at hpresent
      obtain ⟨s₁, hrun, hadds, hfaces⟩ := p.yields hscore hboundary hs
      obtain ⟨s', hsteps, hadds', hs'⟩ := ih hds hfaces
      rw [if_pos hpresent, after_of_ok hrun]
      exact ⟨s', hsteps, hadds.trans hadds', hs'⟩

/-- At the trailer with its own name a unit is closed. -/
theorem Trailer.closes (r : Trailer score) (hscore : score.TellsApart)
    {names : List String} (hnames : s.openNames = upper r.name.token.lexeme :: names)
    (hs : s.Faces (r.tokens ++ ts)) :
    ∃ s', programUnitStep score s = closeUnit s' ∧ Adds s r.elements s' ∧ s'.unread = ts := by
  have hahead := hs.significantTokens.trans (r.significantTokens_append ts)
  have hsecond : ∀ t, (significantTokens s.unread)[1]? = some t →
      Keyword.accepts score t "DIVISION" = false := by
    intro t ht
    rw [hahead, List.getElem?_cons_succ, List.getElem?_cons_zero, Option.some.injEq] at ht
    exact ht ▸ r.program.not_accepts hscore (by decide) (by decide) (by decide)
  have htrailer := r.atEndProgram ts
  rw [← atEndProgram_congr hs.significantTokens] at htrailer
  have hown : s.trailerClosesEnclosing = false := by
    simp [State.trailerClosesEnclosing, firstSignificant_eq_take, hahead, hnames,
      r.name.programNameOf_token]
  obtain ⟨s', hrun, hadds, hs'⟩ := r.yields hnames hs
  refine ⟨s', ?_, hadds, hs'⟩
  simp [programUnitStep, not_atIdentificationHeader hsecond, not_atAnyHeader hsecond, htrailer,
    hown, hrun]

namespace Program

theorem text_eq_cons (u : Program score) :
    ∃ more, u.text = u.identification.opener.token :: more := by
  obtain ⟨i, parts, nested, trailer, sameName⟩ := u
  exact ⟨_, rfl⟩

theorem tokensAll_cons_append (u : Program score) (us : List (Program score))
    (ts : List Token) :
    tokensAll (u :: us) ++ ts =
      u.identification.opener.before.tokens ++ (u.text ++ (tokensAll us ++ ts)) := by
  simp [tokensAll]

theorem atIdentificationHeader (u : Program score) (ts : List Token) :
    atIdentificationHeader score (u.text ++ ts) := by
  obtain ⟨i, parts, nested, trailer, sameName⟩ := u
  simp only [text, List.append_assoc]
  exact i.atIdentificationHeader _

/-- After the trivia before it a unit is what is read next. -/
theorem unread_shiftTrivia (u : Program score)
    (hs : s.Faces (u.identification.opener.before.tokens ++ (u.text ++ ts))) :
    s.shiftTrivia.unread = u.text ++ ts := by
  obtain ⟨more, hmore⟩ := u.text_eq_cons
  rw [hmore] at hs ⊢
  exact hs.unread_shiftTrivia u.identification.opener.before.isTrivia
    u.identification.opener.not_trivia

end Program

mutual
/--
The machine comes from the header of a unit to its end, and has added the node of the unit.
-/
theorem run_unit (hscore : score.TellsApart) (u : Program score) (s : State) (ts : List Token)
    (hs : s.unread = u.text ++ ts) :
    ∃ s', run score (.after (openUnit score) (.programUnit Division.all) s) =
        run score (closeUnit s') ∧
      Adds s [u.element] s'.leaveUnit ∧ s'.unread = ts := by
  cases u with
  | mk i parts nested trailer sameName =>
    simp only [Program.text, List.append_assoc] at hs
    have hboundary : Boundary score [] (Program.tokensAll nested ++ (trailer.tokens ++ ts)) :=
      .tokensAll nested trailer ts
    obtain ⟨s₁, hopen, hopens, hs₁⟩ := i.opens hscore (.partTokens parts hboundary) hs
    obtain ⟨s₂, hdivisions, hadds, hs₂⟩ :=
      run_divisions parts hscore hboundary (by decide) (.of_eq hs₁)
    replace hopens := hopens.adds hadds
    -- The node of the unit lies on the stack, so what is closed inside it is closed as nested.
    have hframes : s₂.context.frames ≠ [] :=
      List.ne_nil_of_length_eq_add_one hopens.frames_length
    obtain ⟨s₃, hnested, hadds, hs₃⟩ := run_nested hscore nested s₂ _ hframes hs₂
    replace hopens := hopens.adds hadds
    have hnames : s₃.openNames = upper trailer.name.token.lexeme :: s.openNames := by
      rw [sameName]
      exact hopens.openNames
    obtain ⟨s', hstep, hadds, hs'⟩ := trailer.closes hscore hnames hs₃
    refine ⟨s', ?_, ?_, hs'⟩
    · rw [after_of_ok hopen, hdivisions, hnested, run_afterDivisions, hstep]
    · simpa [Program.element] using (hopens.adds hadds).leaveUnit

theorem run_nested (hscore : score.TellsApart) (us : List (Program score)) (s : State)
    (ts : List Token) (hframes : s.context.frames ≠ [])
    (hs : s.Faces (Program.tokensAll us ++ ts)) :
    ∃ s', run score ⟨.programUnit [], s⟩ = run score ⟨.programUnit [], s'⟩ ∧
      Adds s (Program.elements us) s' ∧ s'.Faces ts := by
  cases us with
  | nil => exact ⟨s, rfl, .refl s, hs⟩
  | cons u us =>
    rw [u.tokensAll_cons_append] at hs
    have hunread := u.unread_shiftTrivia hs
    have hheader := u.atIdentificationHeader (Program.tokensAll us ++ ts)
    rw [← hunread, s.unread_shiftTrivia,
      atIdentificationHeader_congr (significantTokens_dropWhile s.unread)] at hheader
    obtain ⟨s₁, hunit, hadds, hs₁⟩ := run_unit hscore u s.shiftTrivia _ hunread
    replace hadds := (Adds.shiftTrivia s).trans hadds
    have hframes₁ : s₁.leaveUnit.context.frames ≠ [] := mt hadds.frames_eq_nil_iff.1 hframes
    obtain ⟨s', hnested, hadds', hs'⟩ :=
      run_nested hscore us s₁.leaveUnit ts hframes₁ (.of_eq hs₁)
    refine ⟨s', ?_, hadds.trans hadds', hs'⟩
    rw [run_afterDivisions, programUnitStep, if_pos hheader, hunit,
      closeUnit_of_nested hframes₁, hnested]
end

/-- Outside all units a unit is opened where one stands next. -/
theorem Program.sourceUnitStep (u : Program score)
    (hs : s.Faces (u.identification.opener.before.tokens ++ (u.text ++ ts))) :
    sourceUnitStep score s =
      .after (openUnit score) (.programUnit Division.all) s.shiftTrivia := by
  obtain ⟨more, hmore⟩ := u.text_eq_cons
  have hunread := u.unread_shiftTrivia hs
  rw [hmore, List.cons_append] at hunread
  have hopener : identificationOpeners.any
      (Keyword.accepts score u.identification.opener.token) :=
    List.any_eq_true.2 ⟨_, u.identification.opening_mem,
      u.identification.opener.accepts score
        (identificationOpeners_subset u.identification.opening_mem)⟩
  simp [Parse.sourceUnitStep, State.peek_eq hunread, hunread, hopener,
    u.identification.opener.not_endOfInput]

theorem run_units (hscore : score.TellsApart) (us : List (Program score)) (last : Gap score)
    (hframes : s.context.frames = []) (hs : s.Faces (Program.tokensAll us ++ last.tokens)) :
    Adds s (Program.elements us) (run score ⟨.sourceUnit, s⟩) := by
  induction us generalizing s with
  | nil =>
    by_cases hunread : s.unread = []
    · rw [run_exhausted hunread]
      exact .refl s
    · have hrest : s.shiftTrivia.unread = [] := by
        rw [s.unread_shiftTrivia, hs]
        exact List.dropWhile_eq_nil_iff.2 last.isTrivia
      rw [run_sourceUnit hunread, sourceUnitStep, if_pos (by simp [hrest]), run_exhausted hrest]
      exact .shiftTrivia s
  | cons u us ih =>
    rw [u.tokensAll_cons_append] at hs
    have hnext := u.unread_shiftTrivia hs
    have hunread : s.unread ≠ [] := by
      intro hempty
      obtain ⟨more, hmore⟩ := u.text_eq_cons
      simp [s.unread_shiftTrivia, hempty, hmore] at hnext
    obtain ⟨s₁, hunit, hadds, hs₁⟩ := run_unit hscore u s.shiftTrivia _ hnext
    replace hadds := (Adds.shiftTrivia s).trans hadds
    have hframes₁ := hadds.frames_eq_nil_iff.2 hframes
    replace hadds := hadds.trans (Adds.shiftTrivia s₁.leaveUnit)
    have hrest := ih (s := s₁.leaveUnit.shiftTrivia) (hadds.frames_eq_nil_iff.2 hframes)
      (State.Faces.shiftTrivia (.of_eq hs₁))
    rw [run_sourceUnit hunread, u.sourceUnitStep hs, hunit, closeUnit_of_outermost hframes₁]
    exact hadds.trans hrest

end Listing

/--
Parsing the tokens of a listing finds nothing to complain about, and gives a tree that, but for
trivia, is the listing: its units with their names, their divisions, and the units nested in
them.
-/
theorem parseStream_listing (score : Similarity) (hscore : score.TellsApart)
    (units : List (Listing.Program score)) (last : Listing.Gap score) (sentinel : Token) :
    let parsed := parseStream score
      (.ofTokens (Listing.Program.tokensAll units ++ last.tokens) sentinel)
    parsed.diagnostics = [] ∧
      parsed.root.withoutTrivia =
        { kind := .sourceUnit, children := Listing.Program.elements units } := by
  have hadds := Listing.run_units (s := .initial (.ofTokens _ sentinel)) hscore units last rfl
    (.of_eq rfl)
  obtain ⟨es, hes, hwords⟩ := hadds.context
  refine ⟨hadds.diagnostics, ?_⟩
  have hroot : (finalState score _).context.finish = ⟨{ kind := .sourceUnit }, es⟩ :=
    congrArg Context.finish hes
  change (finalState score _).context.finish.withoutTrivia = _
  rw [hroot, Node.withoutTrivia, hwords]

namespace Listing

def blank : Gap Similarity.jaroWinkler :=
  ⟨[⟨.whitespace, " ", default, default⟩], by decide, by decide +kernel⟩

def fullStop : Written Similarity.jaroWinkler "." :=
  ⟨⟨⟨.other, ".", default, default⟩, rfl, rfl, by decide +kernel⟩, ⟨[], by simp, by simp⟩⟩

def spelt {keyword : String} (lexeme : String) (h : upper lexeme = keyword) :
    Written Similarity.jaroWinkler keyword :=
  ⟨⟨⟨.word, lexeme, default, default⟩, rfl, rfl, h⟩, blank⟩

def ledger : Name Similarity.jaroWinkler :=
  ⟨blank, ⟨.word, "Ledger", default, default⟩, rfl, by simp [isQuote]⟩

def ledgerTokens : List Token :=
  ["end", "data", "."].map fun lexeme => ⟨.word, lexeme, default, default⟩

theorem ledgerTokens_ordinary :
    ∀ t ∈ ledgerTokens, t.isEndOfInput = false ∧
      Keyword.accepts Similarity.jaroWinkler t "DIVISION" = false ∧
      Keyword.accepts Similarity.jaroWinkler t "PROGRAM" = false := by
  decide +kernel

def ledgerProcedure : Part Similarity.jaroWinkler .procedure where
  opener := spelt "procedure" (by decide +kernel)
  division := spelt "division" (by decide +kernel)
  period := fullStop
  beforeBody := blank
  body :=
    { tokens := ledgerTokens
      not_endOfInput := fun t ht => (ledgerTokens_ordinary t ht).1
      not_division := fun t ht => (ledgerTokens_ordinary t ht).2.1
      not_program := fun t ht => (ledgerTokens_ordinary t ht).2.2 }

def ledgerUnit (nested : List (Program Similarity.jaroWinkler)) :
    Program Similarity.jaroWinkler :=
  .mk
    { opening := "ID"
      opening_mem := by decide
      opener := spelt "Id" (by decide +kernel)
      division := spelt "Division" (by decide +kernel)
      period := fullStop
      programId := spelt "Program-Id" (by decide +kernel)
      namePeriod := fullStop.toSpelling
      name := ledger
      lastPeriod := fullStop }
    (fun d => if h : d = .procedure then some (h ▸ ledgerProcedure) else none)
    nested
    { ending := spelt "END" (by decide +kernel)
      program := spelt "PROGRAM" (by decide +kernel)
      name := ledger
      period := fullStop }
    rfl

end Listing

theorem parseStream_ledgerUnit :
    Similarity.jaroWinkler.TellsApart ∧
      let units := [Listing.ledgerUnit [Listing.ledgerUnit []], Listing.ledgerUnit []]
      let parsed := parseStream Similarity.jaroWinkler
        (.ofTokens (Listing.Program.tokensAll units ++ Listing.blank.tokens)
          (.endOfInput default 0))
      parsed.diagnostics = [] ∧
        parsed.root.withoutTrivia =
          { kind := .sourceUnit, children := Listing.Program.elements units } :=
  ⟨Similarity.tellsApart_jaroWinkler,
    parseStream_listing _ Similarity.tellsApart_jaroWinkler _ _ _⟩

end CobolCompanion
