import CobolCompanion.Proofs.Trailers

namespace CobolCompanion

open Parse

/-- A unit with the name in its trailer, if that is not the name of the unit. -/
def Node.misnaming (n : Node) : List (Node × Token) :=
  n.misnamed?.toList.map (n, ·)

theorem Node.misnaming_of_kind {n : Node} (h : n.kind ≠ .programUnit) : n.misnaming = [] := by
  rw [misnaming, misnamed?, if_neg h]
  rfl

namespace Element

mutual
/--
The units of an element that have the wrong name in their trailers, each behind those inside it.
-/
def misnamings : Element → List (Node × Token)
  | token _ => []
  | node heading children => misnamingsAll children ++ Node.misnaming ⟨heading, children⟩

def misnamingsAll : List Element → List (Node × Token)
  | [] => []
  | e :: es => misnamings e ++ misnamingsAll es
end

@[simp] theorem misnamingsAll_append (es fs : List Element) :
    misnamingsAll (es ++ fs) = misnamingsAll es ++ misnamingsAll fs := by
  induction es with
  | nil => rfl
  | cons e es ih => simp [misnamingsAll, ih]

@[simp] theorem misnamingsAll_map_token (ts : List Token) :
    misnamingsAll (ts.map .token) = [] := by
  induction ts with
  | nil => rfl
  | cons t ts ih => exact ih

theorem misnamingsAll_singleton_node (heading : Heading) (children : List Element) :
    misnamingsAll [.node heading children] =
      misnamingsAll children ++ Node.misnaming ⟨heading, children⟩ := by
  simp [misnamingsAll, misnamings]

mutual
theorem misnamings_eq_nil (e : Element) (h : ∀ m ∈ nodes e, m.kind ≠ .programUnit) :
    misnamings e = [] := by
  cases e with
  | token t => rfl
  | node heading children =>
    rw [nodes, List.forall_mem_cons] at h
    rw [misnamings, misnamingsAll_eq_nil children h.2, Node.misnaming_of_kind h.1,
      List.append_nil]

theorem misnamingsAll_eq_nil (es : List Element)
    (h : ∀ m ∈ nodesAll es, m.kind ≠ .programUnit) :
    misnamingsAll es = [] := by
  cases es with
  | nil => rfl
  | cons e es =>
    rw [nodesAll, List.forall_mem_append] at h
    rw [misnamingsAll, misnamings_eq_nil e h.1, misnamingsAll_eq_nil es h.2, List.append_nil]
end

end Element

/-- The units of a tree that have the wrong name in their trailers. -/
def Node.misnamings (root : Node) : List (Node × Token) :=
  Element.misnamingsAll root.children

theorem Node.misnamings_pushSkipped (n : Node) (elements : List Element) :
    (n.pushSkipped elements).misnamings = n.misnamings ++ Element.misnamingsAll elements := by
  by_cases helements : elements = []
  · rw [helements, pushSkipped_nil]
    exact (List.append_nil _).symm
  have hnone (heading : Heading) (hkind : heading.kind = .skipped) (held : List Element) :
      Node.misnaming ⟨heading, held⟩ = [] := by
    apply misnaming_of_kind
    simp [hkind]
  obtain ⟨before, heading, held, hkind, hchildren, hpush⟩ | ⟨-, hpush⟩ :=
    n.pushSkipped_cases helements
  · rw [hpush, misnamings, misnamings, hchildren]
    simp [Element.misnamingsAll_singleton_node, hnone heading hkind]
  · rw [hpush, misnamings, misnamings, push, Element.misnamingsAll_append,
      Element.misnamingsAll_singleton_node, hnone _ rfl, List.append_nil]

namespace Parse

namespace Context

def spineMisnamings : List Frame → List (Node × Token)
  | [] => []
  | frame :: frames => spineMisnamings frames ++ frame.node.misnamings

/-- The units with the wrong name in their trailers in what is under construction. -/
def misnamings (c : Context) : List (Node × Token) :=
  c.root.node.misnamings ++ spineMisnamings c.frames

theorem misnamings_modify {change : Node → Node} {added : List (Node × Token)}
    (h : ∀ n : Node, (change n).misnamings = n.misnamings ++ added) (c : Context) :
    (c.modify change).misnamings = c.misnamings ++ added := by
  obtain ⟨root, frames⟩ := c
  cases frames with
  | nil =>
    change (change root.node).misnamings ++ [] = root.node.misnamings ++ [] ++ added
    rw [h, List.append_nil, List.append_nil]
  | cons frame frames =>
    change _ ++ (_ ++ (change frame.node).misnamings) = _ ++
      (_ ++ frame.node.misnamings) ++ added
    rw [h, List.append_assoc, List.append_assoc]
    rfl

theorem misnamings_pushAll (c : Context) (es : List Element) :
    (c.modify (·.pushAll es)).misnamings = c.misnamings ++ Element.misnamingsAll es := by
  apply misnamings_modify
  intro n
  exact Element.misnamingsAll_append n.children es

theorem misnamings_close {c : Context} {f : Frame} {fs : List Frame} (h : c.frames = f :: fs) :
    c.close.misnamings = c.misnamings ++ f.node.misnaming := by
  have hclose : c.close =
      ({ c with frames := fs } : Context).modify (·.pushAll [f.node.toElement]) := by
    simp only [close, pop?, h]
    rfl
  rw [hclose, misnamings_pushAll, Node.toElement, Element.misnamingsAll_singleton_node]
  simp [misnamings, h, spineMisnamings, Node.misnamings]

theorem misnamingsAll_spill (elements : List Element) (frames : List Frame) :
    Element.misnamingsAll (spill elements frames) =
      spineMisnamings frames ++ Element.misnamingsAll elements := by
  induction frames generalizing elements with
  | nil => rfl
  | cons frame frames ih =>
    rw [spill, ih, ← Node.misnamings, Node.misnamings_pushSkipped, spineMisnamings,
      List.append_assoc]

theorem misnamingsAll_remnants (c : Context) :
    Element.misnamingsAll c.remnants = spineMisnamings c.frames := by
  obtain ⟨root, frames⟩ := c
  cases frames with
  | nil => rfl
  | cons frame frames => exact misnamingsAll_spill frame.node.children frames

end Context

def isTrailerWarning (d : Diagnostic) : Bool :=
  d.code == some "end-program-mismatch"

def State.trailerWarnings (s : State) : List Diagnostic :=
  s.diagnostics.filter isTrailerWarning

def trailerWarning (misnaming : Node × Token) : Diagnostic :=
  Production.trailerMismatch misnaming.2 (misnaming.1.name.getD "")

/-- Between two states no trailers are read and none are warned of. -/
structure SparesTrailers (s s' : State) : Prop where
  warnings : s'.trailerWarnings = s.trailerWarnings
  misnamings : s'.context.misnamings = s.context.misnamings

namespace SparesTrailers

variable {s s' s'' : State}

theorem trans (h : SparesTrailers s s') (h' : SparesTrailers s' s'') : SparesTrailers s s'' :=
  ⟨h'.warnings.trans h.warnings, h'.misnamings.trans h.misnamings⟩

theorem reads {es : List Element} (h : Reads s es s')
    (hunits : ∀ m ∈ Element.nodesAll es, m.kind ≠ .programUnit) : SparesTrailers s s' := by
  constructor
  · obtain ⟨ds, hds, hwarned⟩ := h.diagnostics
    have hother : ds.filter isTrailerWarning = [] := by
      apply List.filter_eq_nil_iff.2
      intro d hd
      obtain ⟨t, -, keyword, rfl⟩ := hwarned.exists_mem hd
      exact Bool.false_ne_true
    rw [State.trailerWarnings, hds, List.filter_append, hother, List.append_nil]
    rfl
  · rw [h.context, Context.misnamings_pushAll, Element.misnamingsAll_eq_nil es hunits,
      List.append_nil]

theorem shiftTrivia (s : State) : SparesTrailers s s.shiftTrivia := by
  obtain ⟨gap, -, hreads⟩ := s.exists_reads_shiftTrivia
  apply reads hreads
  simp

theorem report (s : State) {d : Diagnostic} (h : isTrailerWarning d = false) :
    SparesTrailers s (s.report [d]) := by
  refine ⟨?_, rfl⟩
  rw [State.trailerWarnings, State.report, List.filter_append, List.filter_singleton, h]
  exact List.append_nil _

theorem openNode (s : State) (kind : NodeKind) : SparesTrailers s (s.openNode kind) := by
  refine ⟨rfl, ?_⟩
  change _ ++ (Context.spineMisnamings s.context.frames ++ []) = _
  rw [List.append_nil]
  rfl

theorem named (s : State) (name : Token) : SparesTrailers s (s.named name) := by
  refine ⟨rfl, ?_⟩
  have hname := @Context.misnamings_modify ({ · with name := some (programNameOf name) }) []
  exact (hname (fun n => (List.append_nil _).symm) s.context).trans (List.append_nil _)

theorem skip (s : State) (n : Nat) : SparesTrailers s (s.skip n) := by
  refine ⟨rfl, ?_⟩
  have hskip (m : Node) (ts : List Token) :
      (m.pushSkipped (ts.map .token)).misnamings = m.misnamings ++ [] := by
    rw [Node.misnamings_pushSkipped, Element.misnamingsAll_map_token]
  exact (Context.misnamings_modify (hskip · _) s.context).trans (List.append_nil _)

theorem abandon (s : State) :
    SparesTrailers s { s with context := s.context.abandon, openNames := [] } := by
  refine ⟨rfl, ?_⟩
  change s.context.abandon.misnamings = s.context.misnamings
  rw [Context.abandon_eq]
  change (s.context.root.node.pushSkipped s.context.remnants).misnamings ++ [] = _
  rw [Node.misnamings_pushSkipped, Context.misnamingsAll_remnants, List.append_nil]
  rfl

theorem recover (s : State) : SparesTrailers s s.recover :=
  (abandon s).trans ((skip _ 1).trans (skip _ _))

theorem breakdown {c : Configuration} {t : Token} {k : Complaint} (h : Breakdown c s t k) :
    SparesTrailers c.state (s.report [(k.failure t).diagnostic]).recover := by
  obtain ⟨s₀, es, hentry, hreads, hkinds⟩ := h.entry
  have hs : SparesTrailers s₀ s := by
    apply reads hreads
    intro m hm
    exact NodeKind.ne_programUnit_of_isDivision (hkinds m hm)
  have hs₀ : SparesTrailers c.state s₀ := by
    rcases hentry with ⟨rfl, -⟩ | rfl
    · exact ⟨rfl, rfl⟩
    · exact (shiftTrivia c.state).trans (openNode _ _)
  exact hs₀.trans (hs.trans ((report s rfl).trans (recover _)))

end SparesTrailers

variable {score : Similarity} {s s' : State}

theorem trailerWarnings_closeUnit (s : State) :
    (closeUnit s).state.trailerWarnings = s.trailerWarnings := by
  unfold closeUnit
  split
  · exact (SparesTrailers.shiftTrivia s.leaveUnit).warnings
  · rfl

theorem misnamings_closeUnit {f : Frame} {fs : List Frame} (h : s.context.frames = f :: fs) :
    (closeUnit s).state.context.misnamings = s.context.misnamings ++ f.node.misnaming := by
  have hleave : s.leaveUnit.context.misnamings = s.context.misnamings ++ f.node.misnaming :=
    Context.misnamings_close h
  unfold closeUnit
  split
  · exact (SparesTrailers.shiftTrivia s.leaveUnit).misnamings.trans hleave
  · exact hleave

theorem trailerWarnings_checkTrailer {f : Frame} {fs : List Frame} {name : Token}
    (hframes : s.context.frames = f :: fs) (hkind : f.node.kind = .programUnit)
    (hnames : s.openNames = s.context.titles) (hname : f.node.trailer[2]? = some name) :
    (Production.checkTrailer name s).trailerWarnings =
      s.trailerWarnings ++ f.node.misnaming.map trailerWarning := by
  have hcurrent : s.context.current = f.node := by
    rw [Context.current, Context.top, hframes]
    rfl
  rw [Production.checkTrailer, hnames, Context.titles_eq_cons hframes]
  dsimp only
  by_cases hown : f.node.programName = upper (programNameOf name)
  · have hnone : f.node.misnamed? = none := by
      simp [Node.misnamed?, hkind, hname, hown]
    rw [if_pos hown, Node.misnaming, hnone]
    exact (List.append_nil _).symm
  · have hmisnamed : f.node.misnamed? = some name :=
      Node.mem_misnamed?.2 ⟨hkind, hname, Ne.symm hown⟩
    rw [if_neg hown, Node.misnaming, hmisnamed, hcurrent, State.trailerWarnings, State.report,
      List.filter_append]
    rfl

/-- There is a warning for each of the units with the wrong name in their trailers. -/
structure Warned (c : Configuration) : Prop where
  titled : Titled c
  warnings : c.state.trailerWarnings = c.state.context.misnamings.map trailerWarning

theorem Warned.spare {c c' : Configuration} (h : Warned c) (htitled : Titled c')
    (hspares : SparesTrailers c.state c'.state) : Warned c' := by
  refine ⟨htitled, ?_⟩
  rw [hspares.warnings, hspares.misnamings]
  exact h.warnings

theorem Warned.step {c : Configuration} (h : Warned c) : Warned (step score c) := by
  have hadvance := advance_step score c
  have htitled : Titled (Parse.step score c) := h.titled.step
  have hs := h.titled.orderly.sentinel
  generalize Parse.step score c = c' at hadvance htitled
  cases hadvance with
  | @finishes s hend => exact h.spare htitled (.shiftTrivia s)
  | @skips s hmore hother =>
    apply h.spare htitled
    have hreport : SparesTrailers s.shiftTrivia
        (s.shiftTrivia.report [unknownInput s.shiftTrivia.peek]) := .report _ rfl
    exact (SparesTrailers.shiftTrivia s).trans
      (hreport.trans (.trans (.skip _ 1) (.shiftTrivia _)))
  | @opens phase s s' hfaces hopen =>
    apply h.spare htitled
    obtain ⟨ts, name, s₁, hreads, rfl⟩ := exists_reads_of_openUnit hopen hs
    have hdivision : SparesTrailers (s.shiftTrivia.openNode .programUnit) s₁ := by
      apply SparesTrailers.reads hreads
      simp
    exact (SparesTrailers.shiftTrivia s).trans
      ((SparesTrailers.openNode _ _).trans (hdivision.trans (.named s₁ name)))
  | passes hheader => exact h.spare htitled ⟨rfl, rfl⟩
  | @reads d ds s s' hheader hdivision =>
    apply h.spare htitled
    obtain ⟨gap, ts, -, hreads⟩ := exists_reads_of_division hdivision hs
    apply SparesTrailers.reads hreads
    cases d <;> simp [Division.kind]
  | @leaves s hend htrailer =>
    obtain ⟨f, fs, hframes, hf, -⟩ := h.titled.orderly.exists_unit
    apply h.spare htitled
    refine ⟨trailerWarnings_closeUnit s, ?_⟩
    have hnone : f.node.misnaming = [] := by
      simp [Node.misnaming, Node.misnamed?, hf.trailer_eq_nil]
    rw [misnamings_closeUnit hframes, hnone, List.append_nil]
  | @ends s s' hend htrailer hown hwords =>
    obtain ⟨f, fs, hframes, hf, -⟩ := h.titled.orderly.exists_unit
    obtain ⟨ts, name, s₁, hreads, hname, rfl⟩ := exists_trailer_of_endProgram hwords hs
    have hspares : SparesTrailers s s₁ := by
      apply SparesTrailers.reads hreads
      simp
    have hframes₁ : s₁.context.frames = f.modify (·.pushAll (ts.map .token)) :: fs :=
      hreads.frames_eq_cons hframes
    have hnames₁ : s₁.openNames = s₁.context.titles := by
      rw [hreads.openNames, hreads.titles]
      exact h.titled.names
    have hthird : (f.node.pushAll (ts.map .token)).trailer[2]? = some name := by
      rw [hf.trailer_pushAll]
      exact hname.third
    -- The warning is given while the unit is open, and the unit is attached with its trailer
    -- right after.
    have hchecked := trailerWarnings_checkTrailer hframes₁ hf.kind hnames₁ hthird
    refine ⟨htitled, ?_⟩
    rw [← checkTrailer_context name] at hframes₁
    rw [trailerWarnings_closeUnit, hchecked, misnamings_closeUnit hframes₁,
      checkTrailer_context, hspares.warnings, hspares.misnamings, List.map_append]
    exact congrArg (· ++ _) h.warnings
  | fails hfails =>
    obtain ⟨s₁, t, k, hb, rfl⟩ := hfails.breakdown h.titled.orderly
    exact h.spare htitled (.breakdown hb)

theorem warned_finalState (score : Similarity) (tokens : List Token) (position : Position)
    (offset : Nat) :
    Warned ⟨.sourceUnit,
      finalState score (.ofTokens tokens (.endOfInput position offset))⟩ := by
  apply run_preserves
  · intro c hc
    exact hc.step
  · exact ⟨.of_outside (.initial tokens position offset), rfl⟩

end Parse

/--
In a text without ends of input every unit that lies in nothing but units has the trailer that
belongs to it, or stands where it needs none; and for each trailer in the tree that does not
name its own unit there is one warning, at the name in it.
-/
theorem parseStream_trailers (score : Similarity) (tokens : List Token)
    (h : ∀ t ∈ tokens, t.isEndOfInput = false) (position : Position) (offset : Nat) :
    let parsed := parseStream score (.ofTokens tokens (.endOfInput position offset))
    (∀ site ∈ parsed.root.sites,
      site.unit.leaves ++ site.after <:+ tokens ∧ site.Sound score) ∧
    parsed.diagnostics.filter (·.code == some "end-program-mismatch") =
      parsed.root.misnamings.map fun (unit, name) =>
        Production.trailerMismatch name (unit.name.getD "") := by
  intro parsed
  have hposted := posted_finalState score h position offset
  have hwarned := warned_finalState score tokens position offset
  have hframes := hposted.titled.orderly.outside.1 rfl
  have hroot : parsed.root = (finalState score _).context.root.node :=
    Context.finish_of_outside hframes
  constructor
  · intro site hsite
    constructor
    · have hsuffix := Element.suffix_of_mem_sitesAll parsed.root.children hsite
      have hleaves : parsed.root.leaves = tokens := by
        rw [leaves_root_parseStream]
        exact List.filter_eq_self.2 fun t ht => by simp [h t ht]
      rwa [List.append_nil, ← Node.leaves, hleaves] at hsuffix
    · apply hposted.sound
      rw [State.sites, finalState, unread_run, ← finalState, Context.sites, hframes, ← hroot]
      exact List.mem_append_left _ hsite
  · have hwarnings := hwarned.warnings
    rw [Context.misnamings, hframes, ← hroot] at hwarnings
    rw [Context.spineMisnamings, List.append_nil] at hwarnings
    exact hwarnings

/-- A unit that is ended under another name, and one that ends with the unit around it. -/
def looseTrailers : List Token :=
  ["ID", "DIVISION", ".", "PROGRAM-ID", ".", "OUTER", ".",
    "ID", "DIVISION", ".", "PROGRAM-ID", ".", "INNER", ".", "END", "PROGRAM", "OTHER", ".",
    "ID", "DIVISION", ".", "PROGRAM-ID", ".", "LAST", ".", "END", "PROGRAM", "OUTER", "."].map
    fun lexeme => ⟨.word, lexeme, default, default⟩

theorem parseStream_trailers_loose :
    let parsed := parseStream .jaroWinkler (.ofTokens looseTrailers (.endOfInput default 0))
    (∀ t ∈ looseTrailers, t.isEndOfInput = false) ∧
      parsed.root.sites.map (·.unit.name) = [some "OUTER", some "INNER", some "LAST"] ∧
      parsed.root.misnamings.map (·.2.lexeme) = ["OTHER"] ∧
      (∀ site ∈ parsed.root.sites,
        site.unit.leaves ++ site.after <:+ looseTrailers ∧ site.Sound .jaroWinkler) ∧
      (parsed.diagnostics.filter (·.code == some "end-program-mismatch")).length = 1 := by
  intro parsed
  have htokens : ∀ t ∈ looseTrailers, t.isEndOfInput = false := by decide
  obtain ⟨hsites, hwarnings⟩ :=
    parseStream_trailers .jaroWinkler looseTrailers htokens default 0
  have hnames : parsed.root.sites.map (·.unit.name) =
      [some "OUTER", some "INNER", some "LAST"] ∧
      parsed.root.misnamings.map (·.2.lexeme) = ["OTHER"] := by
    unfold parsed parseStream finalState
    rw [← run_iterate 15, run_of_isFinal (by decide +kernel)]
    decide +kernel
  refine ⟨htokens, hnames.1, hnames.2, hsites, ?_⟩
  rw [hwarnings, List.length_map]
  simpa using congrArg List.length hnames.2

end CobolCompanion
