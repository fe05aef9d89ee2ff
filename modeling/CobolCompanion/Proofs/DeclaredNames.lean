import CobolCompanion.Proofs.IndexWalk
import CobolCompanion.Proofs.SelfClosed
import CobolCompanion.Proofs.UnitShapes

namespace CobolCompanion

open Parse

/-- The tokens of an identification division, by what the parser has read them as. -/
structure Identification where
  header : List Token
  /-- What stands for PROGRAM-ID. -/
  word : Token
  between : List Token
  name : Token
  rest : List Token

namespace Identification

def tokens (d : Identification) : List Token :=
  d.header ++ d.word :: (d.between ++ d.name :: d.rest)

/-- The tokens are accepted as what they were read as. -/
structure Accepted (score : Similarity) (d : Identification) : Prop where
  header : ∃ opener division period, significantTokens d.header = [opener, division, period] ∧
    identificationOpeners.any (Keyword.accepts score opener) ∧
    Keyword.accepts score division "DIVISION" ∧ Keyword.accepts score period "."
  word : Keyword.accepts score d.word "PROGRAM-ID"
  between : ∃ period gap, d.between = period ++ gap ∧ (∀ t ∈ gap, t.isTrivia) ∧
    (period = [] ∨ ∃ t, period = [t] ∧ Keyword.accepts score t ".")
  name : d.name.isTrivia = false ∧ d.name.isTerminator = false

/--
The word that stands for PROGRAM-ID is the first that is spelt so, and the name is next to it.
-/
structure Plain (d : Identification) : Prop where
  header : ∀ t ∈ d.header, sameIgnoringCase t.lexeme "PROGRAM-ID" = false
  word : sameIgnoringCase d.word.lexeme "PROGRAM-ID"
  between : ∀ t ∈ d.between, t.isSignificant → t.isTerminator

def node (d : Identification) : Node :=
  ⟨{ kind := .identificationDivision }, d.tokens.map .token⟩

@[simp] theorem leaves_node (d : Identification) : d.node.leaves = d.tokens :=
  Element.leavesAll_map_token d.tokens

theorem find?_childNodes {d : Identification} {unit : Node} {others : List Element}
    (h : unit.children = d.node.toElement :: others) :
    unit.childNodes.find? (·.kind == .identificationDivision) = some d.node := by
  rw [Node.childNodes, h]
  rfl

variable {score : Similarity} {d : Identification}

/-- In a plain division the index finds the token that the parser has taken for the name. -/
theorem Accepted.declaredName?_node (h : d.Accepted score) (hplain : d.Plain) :
    declaredName? d.node = some d.name := by
  have hword : d.node.leaves.dropWhile (!sameIgnoringCase ·.lexeme "PROGRAM-ID") =
      d.word :: (d.between ++ d.name :: d.rest) := by
    rw [leaves_node, tokens,
      List.dropWhile_append_of_pos fun t ht => by simp [hplain.header t ht]]
    simp [hplain.word]
  have hbetween : d.between.find? (fun t => t.isSignificant && !t.isTerminator) = none := by
    rw [List.find?_eq_none]
    intro t ht
    simpa using hplain.between t ht
  have hname : (d.name.isSignificant && !d.name.isTerminator) = true := by
    simp [Token.isSignificant, h.name]
  rw [declaredName?, hword]
  dsimp only
  rw [List.find?_append, hbetween, Option.none_or]
  exact List.find?_cons_of_pos hname

theorem declaredName?_node_eq_none
    (h : ∀ t ∈ d.tokens, sameIgnoringCase t.lexeme "PROGRAM-ID" = false) :
    declaredName? d.node = none := by
  have hnone : d.node.leaves.dropWhile (!sameIgnoringCase ·.lexeme "PROGRAM-ID") = [] := by
    rw [leaves_node, List.dropWhile_eq_nil_iff]
    intro t ht
    simp [h t ht]
  rw [declaredName?, hnone]

end Identification

namespace Production

variable {score : Similarity} {s s' : State}

theorem accepts_of_choose? {t : Token} {keywords : List String} {keyword : String}
    (h : choose? score t keywords = some keyword) : keywords.any (Keyword.accepts score t) := by
  rw [choose?, Option.or_eq_some_iff] at h
  rcases h with h | ⟨-, h⟩
  · have hexact := List.find?_some h
    refine List.any_eq_true.2 ⟨keyword, List.mem_of_find?_eq_some h, ?_⟩
    rw [Keyword.accepts]
    cases hcompare : Keyword.compare score t.lexeme keyword with
    | exact => rfl
    | similar x => rfl
    | mismatch => simp [hcompare, KeywordMatch.isExact] at hexact
  · exact List.any_eq_true.2 ⟨keyword, List.mem_of_find?_eq_some h,
      by simpa using List.find?_some h⟩

theorem exists_reads_of_expectOneOf {keywords : List String} {u : Unit}
    (h : expectOneOf score keywords s = .ok u s') (hs : s.stream.sentinel.isEndOfInput) :
    ∃ t, t = s.peek ∧ keywords.any (Keyword.accepts score t) ∧ Reads s [.token t] s' := by
  rw [expectOneOf_run] at h
  cases hend : s.peek.isEndOfInput with
  | true =>
    rw [if_pos hend] at h
    cases h
  | false =>
    rw [if_neg (by simp [hend])] at h
    obtain ⟨rest, hrest⟩ := s.unread_eq_cons hs hend
    cases hchosen : choose? score s.peek keywords with
    | none =>
      rw [hchosen] at h
      cases h
    | some keyword =>
      rw [hchosen] at h
      cases h
      exact ⟨s.peek, rfl, accepts_of_choose? hchosen, .acceptNext score keyword hrest⟩

theorem exists_reads_of_allow {keyword : String} {u : Unit}
    (h : allow score keyword s = .ok u s') (hs : s.stream.sentinel.isEndOfInput) :
    ∃ ts, Reads s (ts.map .token) s' ∧
      (ts = [] ∨ ∃ t, ts = [t] ∧ Keyword.accepts score t keyword) := by
  rw [allow_run] at h
  split at h
  · next hallowed =>
    simp only [Bool.and_eq_true, Bool.not_eq_true'] at hallowed
    obtain ⟨rest, hrest⟩ := s.unread_eq_cons hs hallowed.1
    cases h
    exact ⟨[s.peek], .acceptNext score keyword hrest, .inr ⟨s.peek, rfl, hallowed.2⟩⟩
  · cases h
    exact ⟨[], .refl s, .inl rfl⟩

theorem exists_reads_of_identificationHeader {name : Token}
    (h : identificationHeader score s = .ok name s') (hs : s.stream.sentinel.isEndOfInput)
    (hpeek : s.peek.isTrivia = false) :
    ∃ header word between, Reads s ((header ++ word :: (between ++ [name])).map .token) s' ∧
      ∀ rest, Identification.Accepted score ⟨header, word, between, name, rest⟩ := by
  obtain ⟨_, s₁, hopener, h⟩ := exists_ok_of_bind h
  rw [spaces_bind] at h
  obtain ⟨_, s₂, hdivision, h⟩ := exists_ok_of_bind h
  rw [spaces_bind] at h
  obtain ⟨_, s₃, hperiod, h⟩ := exists_ok_of_bind h
  rw [spaces_bind] at h
  obtain ⟨_, s₄, hword, h⟩ := exists_ok_of_bind h
  obtain ⟨_, s₅, hallow, h⟩ := exists_ok_of_bind h
  rw [spaces_bind] at h
  obtain ⟨opener, hfirst, hOpener, hreads₁⟩ := exists_reads_of_expectOneOf hopener hs
  have hs₁ : s₁.stream.sentinel.isEndOfInput := by rwa [hreads₁.sentinel]
  obtain ⟨division, hnext, hDivision, hreads⟩ := exists_reads_of_expect hdivision hs₁
  obtain ⟨ts₂, hreads₂, hts₂⟩ := hreads.exists_word hnext hs₁
  have hs₂ : s₂.stream.sentinel.isEndOfInput := by rwa [hreads₂.sentinel]
  obtain ⟨period, hnext, hPeriod, hreads⟩ := exists_reads_of_expect hperiod hs₂
  obtain ⟨ts₃, hreads₃, hts₃⟩ := hreads.exists_word hnext hs₂
  have hs₃ : s₃.stream.sentinel.isEndOfInput := by rwa [hreads₃.sentinel]
  obtain ⟨gap₃, hgap₃, hspaces₃⟩ := s₃.exists_reads_shiftTrivia
  obtain ⟨word, -, hWord, hreads₄⟩ := exists_reads_of_expect hword hs₃
  have hs₄ : s₄.stream.sentinel.isEndOfInput := by rwa [hreads₄.sentinel]
  obtain ⟨dot, hreads₅, hdot⟩ := exists_reads_of_allow hallow hs₄
  have hs₅ : s₅.stream.sentinel.isEndOfInput := by rwa [hreads₅.sentinel]
  obtain ⟨gap₅, hgap₅, hspaces₅⟩ := s₅.exists_reads_shiftTrivia
  obtain ⟨rfl, hreads₆, hName⟩ := exists_reads_of_programName h hs₅
  refine ⟨opener :: (ts₂ ++ ts₃ ++ gap₃), word, dot ++ gap₅, ?_, fun rest => ?_⟩
  · simpa using (((((hreads₁.trans hreads₂).trans hreads₃).trans hspaces₃).trans hreads₄).trans
      hreads₅).trans (hspaces₅.trans hreads₆)
  · refine ⟨⟨opener, division, period, ?_, hOpener, hDivision, hPeriod⟩, hWord,
      ⟨dot, gap₅, rfl, hgap₅, hdot⟩, s₅.isTrivia_peek_shiftTrivia hs₅, hName⟩
    rw [significantTokens_cons_of_significant (hfirst ▸ hpeek)]
    simp [hts₂, hts₃, significantTokens_eq_nil hgap₃]

theorem exists_reads_of_identificationDivision {name : Token}
    (h : identificationDivision score s = .ok name s') (hs : s.stream.sentinel.isEndOfInput)
    (hpeek : s.peek.isTrivia = false) :
    ∃ d : Identification, d.name = name ∧ d.Accepted score ∧ Reads s [d.node.toElement] s' := by
  rw [identificationDivision, inNode] at h
  split at h
  · next name' s₁ hrun =>
    cases h
    obtain ⟨name', s₂, hheader, hrun⟩ := exists_ok_of_bind hrun
    obtain ⟨header, word, between, hreads, haccepted⟩ :=
      exists_reads_of_identificationHeader hheader hs hpeek
    have hs₂ : s₂.stream.sentinel.isEndOfInput := by rwa [hreads.sentinel]
    have hshifts : Shifts (do
        spaces
        qualification score
        spaces
        allow score "."
        content score
        return name') :=
      shifts_spaces.bind fun _ => shifts_qualification.bind fun _ => shifts_spaces.bind fun _ =>
        shifts_allow.bind fun _ => shifts_content.bind fun _ => .pure name'
    have hrest := hshifts s₂ hs₂
    rw [hrun] at hrest
    obtain ⟨rest, hreads'⟩ := hrest
    have hname : name' = name := by
      rw [spaces_bind] at hrun
      obtain ⟨_, _, -, hrun⟩ := exists_ok_of_bind hrun
      rw [spaces_bind] at hrun
      obtain ⟨_, _, -, hrun⟩ := exists_ok_of_bind hrun
      obtain ⟨_, _, -, hrun⟩ := exists_ok_of_bind hrun
      cases hrun
      rfl
    refine ⟨⟨header, word, between, name', rest⟩, hname, haccepted rest, ?_⟩
    have hall := (hreads.trans hreads').closeNode
    simpa [Identification.node, Identification.tokens, Node.toElement] using hall
  · cases h

end Production

namespace Parse

/--
The opening of a unit: in a configuration that faces a unit an identification division is read,
which yields the token that names the unit. It is the first part of the unit.
-/
structure Opening (score : Similarity) (c : Configuration) (unit : Node)
    (d : Identification) : Prop where
  faces : FacesUnit score c.phase c.state
  taken : ∃ s', Production.identificationDivision score
    (c.state.shiftTrivia.openNode .programUnit) =
      .ok d.name s' ∧ c.state.shiftTrivia.unread = d.tokens ++ s'.unread
  accepted : d.Accepted score
  named : unit.name = some (programNameOf d.name)
  division : ∃ others, unit.children = d.node.toElement :: others

namespace Opening

variable {score : Similarity} {c : Configuration} {unit : Node} {d : Identification}

theorem pushAll (h : Opening score c unit d) (es : List Element) :
    Opening score c (unit.pushAll es) d where
  faces := h.faces
  taken := h.taken
  accepted := h.accepted
  named := h.named
  division := by
    obtain ⟨others, hothers⟩ := h.division
    exact ⟨others ++ es, by rw [Node.pushAll, hothers, List.cons_append]⟩

theorem tokens_prefix (h : Opening score c unit d) : d.tokens <+: unit.leaves := by
  obtain ⟨others, hothers⟩ := h.division
  rw [Node.leaves, hothers, Element.leavesAll, Node.leaves_toElement,
    Identification.leaves_node]
  exact List.prefix_append _ _

end Opening

variable {score : Similarity} {c : Configuration}

theorem exists_opening_of_openUnit (hc : Orderly c)
    (hfaces : FacesUnit score c.phase c.state) {s' : State}
    (h : openUnit score c.state.shiftTrivia = .ok () s') {f : Frame}
    (hframes : s'.context.frames = f :: c.state.shiftTrivia.context.frames) :
    ∃ d, Opening score c f.node d := by
  rw [openUnit_run] at h
  split at h
  · next name s₁ hrun =>
    cases h
    obtain ⟨d, rfl, haccepted, hreads⟩ :=
      Production.exists_reads_of_identificationDivision hrun hc.sentinel
      (c.state.isTrivia_peek_shiftTrivia hc.sentinel)
    have hunread : c.state.shiftTrivia.unread = d.tokens ++ s₁.unread := by
      simpa using hreads.unread
    have hnamed := Context.frames_modify_eq_cons
      (hreads.frames_eq_cons (f := .ofNode (.ofKind .programUnit)) rfl)
      ({ · with name := some (programNameOf d.name) })
    obtain ⟨rfl, -⟩ := List.cons.inj (hnamed.symm.trans hframes)
    exact ⟨d, hfaces, ⟨s₁, hrun, hunread⟩, haccepted, rfl, [], rfl⟩
  · cases h

theorem Reads.exists_mem_frames {s s' : State} {es : List Element}
    (h : Reads s es s') {f : Frame} (hf : f ∈ s'.context.frames) :
    ∃ g ∈ s.context.frames, ∃ fs, f.node = g.node.pushAll fs := by
  cases hframes : s.context.frames with
  | nil =>
    rw [h.context, Context.frames_modify_eq_nil hframes] at hf
    cases hf
  | cons g gs =>
    rw [h.frames_eq_cons hframes] at hf
    rcases List.mem_cons.1 hf with rfl | hf
    · exact ⟨g, List.mem_cons_self, es, rfl⟩
    · exact ⟨f, List.mem_cons_of_mem g hf, [], by simp [Node.pushAll]⟩

theorem exists_mem_frames_of_closeUnit {s : State} {f : Frame}
    (hf : f ∈ (closeUnit s).state.context.frames) (hs : s.context.frames ≠ []) :
    ∃ g ∈ s.context.frames, ∃ es, f.node = g.node.pushAll es := by
  obtain ⟨g, gs, hframes⟩ := List.exists_cons_of_ne_nil hs
  rw [frames_closeUnit hframes] at hf
  rw [hframes]
  cases gs with
  | nil => cases hf
  | cons g' gs =>
    rcases List.mem_cons.1 hf with rfl | hf
    · exact ⟨g', by simp, [g.node.toElement], rfl⟩
    · exact ⟨f, by simp [hf], [], by simp [Node.pushAll]⟩

/--
A unit that is open after a step was open before, perhaps with less in it, or the step opens it.
-/
theorem mem_frames_step (hc : Orderly c) {f : Frame}
    (hf : f ∈ (step score c).state.context.frames) :
    (∃ g ∈ c.state.context.frames, ∃ es, f.node = g.node.pushAll es) ∨
      ∃ d, Opening score c f.node d := by
  have hadvance := advance_step score c
  generalize Parse.step score c = c' at hf hadvance
  cases hadvance with
  | finishes hend =>
    rw [State.frames_shiftTrivia_eq_nil_iff.2 (hc.outside.1 rfl)] at hf
    cases hf
  | @skips s hmore hother =>
    have hnone : s.shiftTrivia.context.frames = [] :=
      State.frames_shiftTrivia_eq_nil_iff.2 (hc.outside.1 rfl)
    rw [State.frames_shiftTrivia_eq_nil_iff.2 (Context.frames_modify_eq_nil hnone _)] at hf
    cases hf
  | @opens phase s s' hfaces hopen =>
    obtain ⟨g, -, hcontext, -⟩ := frames_of_openUnit hopen hc.sentinel
    rw [hcontext] at hf
    rcases List.mem_cons.1 hf with rfl | hf
    · exact .inr (exists_opening_of_openUnit hc hfaces hopen (by rw [hcontext]))
    · obtain ⟨gap, -, hreads⟩ := s.exists_reads_shiftTrivia
      exact .inl (hreads.exists_mem_frames hf)
  | passes hheader => exact .inl ⟨f, hf, [], by simp [Node.pushAll]⟩
  | reads hheader hdivision =>
    obtain ⟨gap, ts, -, hreads⟩ := exists_reads_of_division hdivision hc.sentinel
    exact .inl (hreads.exists_mem_frames hf)
  | @leaves s hend htrailer =>
    obtain ⟨g, gs, hframes, -⟩ := hc.exists_unit
    exact .inl (exists_mem_frames_of_closeUnit hf (by simp [hframes]))
  | @ends s s' hend htrailer hown hwords =>
    obtain ⟨g, gs, hframes, -⟩ := hc.exists_unit
    obtain ⟨ts, _, _, name, _, s₁, hreads, -, rfl⟩ :=
      exists_reads_of_endProgram hwords hc.sentinel
    have hopen := hreads.frames_eq_cons hframes
    obtain ⟨g', hg', es, hnode⟩ :=
      exists_mem_frames_of_closeUnit hf (by simp [checkTrailer_context, hopen])
    rw [checkTrailer_context] at hg'
    obtain ⟨g, hg, fs, hnode'⟩ := hreads.exists_mem_frames hg'
    refine .inl ⟨g, hg, fs ++ es, ?_⟩
    rw [hnode, hnode']
    simp [Node.pushAll]
  | fails hfails => simp [State.frames_recover] at hf

theorem Ends.exists_mem_frames {s' : State} {unit : Node} (h : Ends score c s' unit)
    (hc : Orderly c) :
    ∃ f ∈ c.state.context.frames, ∃ es, unit = f.node.pushAll es := by
  cases h with
  | intro hend htrailer hown hwords hframes =>
    obtain ⟨ts, _, _, name, _, s₁, hreads, -, rfl⟩ :=
      exists_reads_of_endProgram hwords hc.sentinel
    rw [checkTrailer_context] at hframes
    exact hreads.exists_mem_frames (hframes ▸ List.mem_cons_self)

/--
All units of a context, those that are open and those that are closed, have been opened in a
run.
-/
structure Opened (score : Similarity) (start : Configuration) (c : Context) : Prop where
  frames : ∀ f ∈ c.frames, ∃ i d, Opening score ((step score)^[i] start) f.node d
  held : ∀ n, c.Holds n → n.kind = .programUnit →
    ∃ i d, Opening score ((step score)^[i] start) n d

namespace Opened

variable {start : Configuration}

theorem step (hstart : Orderly start) {i : Nat}
    (h : Opened score start ((step score)^[i] start).state.context) :
    Opened score start ((Parse.step score)^[i + 1] start).state.context := by
  rw [Function.iterate_succ_apply']
  constructor
  case frames =>
    intro f hf
    rcases mem_frames_step (hstart.iterate i) hf with ⟨g, hg, es, hnode⟩ | ⟨d, hd⟩
    · obtain ⟨j, d, hd⟩ := h.frames g hg
      exact ⟨j, d, hnode ▸ hd.pushAll es⟩
    · exact ⟨i, d, hd⟩
  case held =>
    intro n hn hkind
    rcases holds_step_cases (hstart.iterate i) hn hkind with hn | ⟨f, hf, rfl⟩ | ⟨s', hends⟩
    · exact h.held n hn hkind
    · exact h.frames f hf
    · obtain ⟨f, hf, es, rfl⟩ := hends.exists_mem_frames (hstart.iterate i)
      obtain ⟨j, d, hd⟩ := h.frames f hf
      exact ⟨j, d, hd.pushAll es⟩

theorem iterate (hstart : Orderly start)
    (h : Opened score start start.state.context) (i : Nat) :
    Opened score start ((Parse.step score)^[i] start).state.context := by
  induction i with
  | zero => exact h
  | succ i ih => exact ih.step hstart

end Opened

/-- Every program unit of a finished tree has been opened in the run that built it. -/
theorem exists_opening_of_mem_programs {tokens : List Token} {position : Position}
    {offset : Nat} {unit : Node}
    (hunit :
      unit ∈ (parseStream score (.ofTokens tokens (.endOfInput position offset))).programs) :
    ∃ i d, Opening score ((step score)^[i]
      ⟨.sourceUnit, .initial (.ofTokens tokens (.endOfInput position offset))⟩) unit d := by
  obtain ⟨hkind, i, hholds⟩ := exists_holds_of_mem_programs hunit
  refine (Opened.iterate (.initial tokens position offset) ⟨?_, ?_⟩ i).held unit hholds hkind
  · intro f hf
    cases hf
  · rintro n (hmem | ⟨f, hf, -⟩)
    · cases hmem
    · cases hf

end Parse

namespace SymbolIndex

theorem exists_program_of_getElem? {root unit : Node} {k : Nat}
    (h : ((root.walk.map Prod.fst).filter (·.kind == .programUnit))[k]? = some unit) :
    ∃ parent, (ofTree root).programs[k]? = some (.ofUnit unit parent) := by
  rw [root.filter_walk_eq, List.getElem?_map, Option.map_eq_some_iff] at h
  obtain ⟨⟨n, parent⟩, hvisited, rfl⟩ := h
  refine ⟨parent, ?_⟩
  rw [programs_ofTree, List.getElem?_map, hvisited]
  rfl

theorem length_programs_ofTree (root : Node) :
    (ofTree root).programs.length =
      ((root.walk.map Prod.fst).filter (·.kind == .programUnit)).length := by
  rw [programs_ofTree, root.filter_walk_eq, List.length_map, List.length_map]

end SymbolIndex

theorem Parse.Opening.range_ofUnit {score : Similarity} {c : Configuration} {unit : Node}
    {d : Identification} (h : Opening score c unit d) (parent : Option Nat) :
    (ProgramSymbol.ofUnit unit parent).range =
      ((declaredName? d.node).map Token.range).getD (unit.range?.getD .origin) := by
  obtain ⟨others, hothers⟩ := h.division
  rw [ProgramSymbol.ofUnit, Identification.find?_childNodes hothers]
  rfl

/--
The symbols of programs and the tokens that were read as their names. There is one symbol for
each unit, in the order of the text, and each unit was opened in some step of the parser, in
which a token was taken for its name. If the division is plain, the symbol stands at that token.
If no word in the division is spelt PROGRAM-ID, though one was accepted for it, the symbol
stands for the unit as a whole.
-/
theorem programs_ofTree_range (score : Similarity) (tokens : List Token) (position : Position)
    (offset : Nat) :
    let start : Configuration :=
      ⟨.sourceUnit, .initial (.ofTokens tokens (.endOfInput position offset))⟩
    let parsed := parseStream score (.ofTokens tokens (.endOfInput position offset))
    let programs := (SymbolIndex.ofTree parsed.root).programs
    programs.length = parsed.programs.length ∧
      ∀ (k : Nat) (unit : Node), parsed.programs[k]? = some unit →
        ∃ (symbol : ProgramSymbol) (i : Nat) (d : Identification), programs[k]? = some symbol ∧
        Opening score ((step score)^[i] start) unit d ∧
        symbol.extent = unit.range?.getD .origin ∧
        (d.Plain → symbol.range = d.name.range) ∧
        ((∀ t ∈ d.tokens, sameIgnoringCase t.lexeme "PROGRAM-ID" = false) →
          symbol.range = symbol.extent) := by
  intro start parsed programs
  refine ⟨SymbolIndex.length_programs_ofTree parsed.root, ?_⟩
  intro k unit hunit
  obtain ⟨parent, hsymbol⟩ := SymbolIndex.exists_program_of_getElem? hunit
  obtain ⟨i, d, hopening⟩ := exists_opening_of_mem_programs (List.mem_of_getElem? hunit)
  refine ⟨_, i, d, hsymbol, hopening, rfl, ?_, ?_⟩
  · intro hplain
    rw [hopening.range_ofUnit, hopening.accepted.declaredName?_node hplain]
    rfl
  · intro hmisspelt
    rw [hopening.range_ofUnit, d.declaredName?_node_eq_none hmisspelt]
    rfl

def plainUnit : List Token :=
  lineTokens 0 ["ID", "DIVISIN", ".", "PROGRAM-ID", ".", "P", "."]

theorem programs_ofTree_range_plain :
    let stream := TokenStream.ofTokens plainUnit (.endOfInput ⟨0, 26⟩ 26)
    let parsed := parseStream .jaroWinkler stream
    ∃ unit symbol i d, parsed.programs[0]? = some unit ∧
      (SymbolIndex.ofTree parsed.root).programs[0]? = some symbol ∧
      Opening .jaroWinkler ((step .jaroWinkler)^[i] ⟨.sourceUnit, .initial stream⟩) unit d ∧
      d.Plain ∧ symbol.range = d.name.range := by
  intro stream parsed
  have hroot := root_parseStream_of_isFinal .jaroWinkler stream 7 (by decide +kernel)
  have hunits : parsed.programs.map (·.leaves) = [plainUnit] := by
    rw [Parsed.programs, hroot]
    decide +kernel
  obtain ⟨unit, hprograms, hleaves⟩ := List.map_eq_singleton_iff.1 hunits
  have hunit : parsed.programs[0]? = some unit := by rw [hprograms, List.getElem?_cons_zero]
  obtain ⟨-, hnames⟩ := programs_ofTree_range .jaroWinkler plainUnit ⟨0, 26⟩ 26
  obtain ⟨symbol, i, d, hsymbol, hopening, -, hrange, -⟩ := hnames 0 unit hunit
  obtain ⟨after, hafter⟩ : d.tokens <+: plainUnit := hleaves ▸ hopening.tokens_prefix
  have hsignificant : ∀ t ∈ plainUnit, t.isTrivia = false := by decide +kernel
  have hplain : d.Plain := by
    obtain ⟨⟨opener, division, period, hheader, -⟩, -, ⟨dot, gap, hbetween, hgap, hdot⟩, -⟩ :=
      hopening.accepted
    have hheader' : d.header = [opener, division, period] := by
      rw [← hheader]
      refine (List.filter_eq_self.2 fun t ht => ?_).symm
      simp [Token.isSignificant, hsignificant t (hafter ▸ by simp [Identification.tokens, ht])]
    simp only [Identification.tokens, hheader', plainUnit, lineTokens, List.cons_append,
      List.nil_append, List.cons.injEq] at hafter
    obtain ⟨rfl, rfl, rfl, hword, hafter⟩ := hafter
    refine ⟨?_, ?_, ?_⟩
    · rw [hheader']
      decide +kernel
    · rw [hword]
      decide +kernel
    · intro t ht hsig
      rw [hbetween, List.mem_append] at ht
      rcases ht with ht | ht
      · rcases hdot with rfl | ⟨t, rfl, -⟩
        · cases ht
        · obtain rfl := List.mem_singleton.1 ht
          rw [hbetween, List.append_assoc, List.append_assoc, List.singleton_append,
            List.cons.injEq] at hafter
          rw [hafter.1]
          decide +kernel
      · simp [Token.isSignificant, hgap t ht] at hsig
  exact ⟨unit, symbol, i, d, hunit, hsymbol, hopening, hplain, hrange hplain⟩

/-- A unit in which PROGRAM-ID is misspelt, and spelt well behind the name. -/
def misspeltUnit : List Token :=
  lineTokens 0 ["ID", "DIVISION", ".", "PROGRAM-IDD", ".", "P", ".", "PROGRAM-ID",
    ".", "Q", "."]

/--
Where PROGRAM-ID is misspelt, the symbol of a program need not stand at the name that was read.
-/
theorem programs_range_ne_name :
    let stream := TokenStream.ofTokens misspeltUnit (.endOfInput ⟨0, 38⟩ 38)
    let parsed := parseStream .jaroWinkler stream
    ∃ unit symbol i d, parsed.programs = [unit] ∧
      (SymbolIndex.ofTree parsed.root).programs = [symbol] ∧
      Opening .jaroWinkler ((step .jaroWinkler)^[i] ⟨.sourceUnit, .initial stream⟩) unit d ∧
      d.name.lexeme = "P" ∧ symbol.range ≠ d.name.range := by
  intro stream parsed
  have hroot := root_parseStream_of_isFinal .jaroWinkler stream 7 (by decide +kernel)
  have hunits : parsed.programs.map (fun n => (n.name, n.leaves)) =
      [(some "P", misspeltUnit)] := by
    rw [Parsed.programs, hroot]
    decide +kernel
  have hsymbols : (SymbolIndex.ofTree parsed.root).programs.map (·.range.span.start) =
      [36] := by
    rw [hroot]
    decide +kernel
  obtain ⟨unit, hunit, hfacts⟩ := List.map_eq_singleton_iff.1 hunits
  obtain ⟨symbol, hsymbol, hstart⟩ := List.map_eq_singleton_iff.1 hsymbols
  obtain ⟨hname, hleaves⟩ := Prod.mk.inj hfacts
  have hparsed : unit ∈ parsed.programs := by simp [hunit]
  obtain ⟨i, d, hopening⟩ := exists_opening_of_mem_programs hparsed
  refine ⟨unit, symbol, i, d, hunit, hsymbol, hopening, ?_⟩
  have hmem : d.name ∈ misspeltUnit := by
    rw [← hleaves]
    exact hopening.tokens_prefix.subset (by simp [Identification.tokens])
  have hP : programNameOf d.name = "P" := Option.some.inj (hopening.named.symm.trans hname)
  have hplaced : ∀ t ∈ misspeltUnit, programNameOf t = "P" →
      t.lexeme = "P" ∧ t.range.span.start = 23 := by
    decide +kernel
  obtain ⟨hlexeme, hspan⟩ := hplaced d.name hmem hP
  refine ⟨hlexeme, ?_⟩
  intro hrange
  rw [hrange, hspan] at hstart
  cases hstart

end CobolCompanion
