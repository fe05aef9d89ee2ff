import CobolCompanion.Proofs.ErrorRegions
import Mathlib.Data.List.Forall2

namespace CobolCompanion

open Parse

namespace Element

mutual
/--
The tokens under an element, each with the kind of its parent, which is given for the element.
-/
def placed (parent : NodeKind) : Element → List (Token × NodeKind)
  | token t => [(t, parent)]
  | node heading children => placedAll heading.kind children

/--
The tokens under the children of a node of the given kind, each with the kind of its parent.
-/
def placedAll (parent : NodeKind) : List Element → List (Token × NodeKind)
  | [] => []
  | e :: es => placed parent e ++ placedAll parent es
end

section
variable {parent : NodeKind}

@[simp] theorem placedAll_append (es fs : List Element) :
    placedAll parent (es ++ fs) = placedAll parent es ++ placedAll parent fs := by
  induction es with
  | nil => rfl
  | cons e es ih => simp [placedAll, ih]

theorem placedAll_map_token (ts : List Token) :
    placedAll parent (ts.map .token) = ts.map (·, parent) := by
  induction ts with
  | nil => rfl
  | cons t ts ih => simp [placedAll, placed, ih]

theorem placedAll_singleton_node (heading : Heading) (children : List Element) :
    placedAll parent [.node heading children] = placedAll heading.kind children := by
  simp [placedAll, placed]

mutual
theorem map_fst_placed (parent : NodeKind) (e : Element) :
    (placed parent e).map Prod.fst = leaves e := by
  cases e with
  | token t => rfl
  | node heading children => exact map_fst_placedAll heading.kind children

theorem map_fst_placedAll (parent : NodeKind) (es : List Element) :
    (placedAll parent es).map Prod.fst = leavesAll es := by
  cases es with
  | nil => rfl
  | cons e es =>
    simp only [placedAll, leavesAll, List.map_append, map_fst_placed parent e,
      map_fst_placedAll parent es]
end

end

end Element

def Node.placed (n : Node) : List (Token × NodeKind) :=
  Element.placedAll n.kind n.children

theorem Node.map_fst_placed (n : Node) : n.placed.map Prod.fst = n.leaves :=
  Element.map_fst_placedAll n.kind n.children

/-- A token that was read under a production may have a parent of a kind. -/
structure Rule.Fits (rule : Rule) (parent : NodeKind) : Prop where
  own : parent ≠ .skipped → rule = parent.rule
  skipped : parent = .skipped → rule = .sourceUnit ∨ rule = .programUnit

/-- The productions under which tokens were read fit the parents of the tokens, one by one. -/
abbrev Rule.FitAll : List Rule → List (Token × NodeKind) → Prop :=
  List.Forall₂ fun rule place => rule.Fits place.2

namespace Rule

theorem fits_rule {parent : NodeKind} (h : parent ≠ .skipped) : parent.rule.Fits parent :=
  ⟨fun _ => rfl, fun hskipped => absurd hskipped h⟩

theorem fits_skipped {rule : Rule} (h : rule = .sourceUnit ∨ rule = .programUnit) :
    rule.Fits .skipped :=
  ⟨fun hother => absurd rfl hother, fun _ => h⟩

theorem fitAll_skipped (ts : List Token) :
    FitAll (List.replicate ts.length .sourceUnit)
      (Element.placedAll .skipped (ts.map .token)) := by
  rw [Element.placedAll_map_token]
  induction ts with
  | nil => exact .nil
  | cons t ts ih => exact .cons (fits_skipped (.inl rfl)) ih

end Rule

namespace Element

mutual
theorem fitAll_readings {parent : NodeKind} (hparent : parent ≠ .skipped) (e : Element)
    (h : ∀ m ∈ nodes e, m.kind ≠ .skipped) :
    Rule.FitAll (readings parent.rule e) (placed parent e) := by
  cases e with
  | token t => exact .cons (Rule.fits_rule hparent) .nil
  | node heading children =>
    rw [nodes, List.forall_mem_cons] at h
    exact fitAll_readingsAll h.1 children h.2

theorem fitAll_readingsAll {parent : NodeKind} (hparent : parent ≠ .skipped) (es : List Element)
    (h : ∀ m ∈ nodesAll es, m.kind ≠ .skipped) :
    Rule.FitAll (readingsAll parent.rule es) (placedAll parent es) := by
  cases es with
  | nil => exact .nil
  | cons e es =>
    rw [nodesAll, List.forall_mem_append] at h
    exact List.rel_append (fitAll_readings hparent e h.1) (fitAll_readingsAll hparent es h.2)
end

end Element

theorem Node.placedAll_pushSkipped (parent : NodeKind) (n : Node) (elements : List Element) :
    Element.placedAll parent (n.pushSkipped elements).children =
      Element.placedAll parent n.children ++ Element.placedAll .skipped elements := by
  by_cases helements : elements = []
  · rw [helements, pushSkipped_nil]
    simp [Element.placedAll]
  obtain ⟨before, heading, held, hkind, hchildren, hpush⟩ | ⟨-, hpush⟩ :=
    n.pushSkipped_cases helements
  · rw [hpush, hchildren]
    simp [Element.placedAll_singleton_node, hkind]
  · rw [hpush, Node.push, Element.placedAll_append, Element.placedAll_singleton_node]

theorem Node.placed_pushSkipped (n : Node) (elements : List Element) :
    (n.pushSkipped elements).placed = n.placed ++ Element.placedAll .skipped elements := by
  rw [placed, kind_pushSkipped, placedAll_pushSkipped, placed]

namespace Parse

namespace Context

/-- The tokens in open nodes that lie one inside the other, the innermost given first. -/
def spinePlaced : List Frame → List (Token × NodeKind)
  | [] => []
  | frame :: frames => spinePlaced frames ++ frame.node.placed

/--
The tokens under construction, in the order of the text, each with the kind of its parent.
-/
def placed (c : Context) : List (Token × NodeKind) :=
  c.root.node.placed ++ spinePlaced c.frames

theorem placed_modify (c : Context) {change : Node → Node} (more : List (Token × NodeKind))
    (h : (change c.current).placed = c.current.placed ++ more) :
    (c.modify change).placed = c.placed ++ more := by
  obtain ⟨root, frames⟩ := c
  cases frames with
  | nil =>
    have h' : (change root.node).placed = root.node.placed ++ more := h
    simp [placed, modify, spinePlaced, Frame.modify, h']
  | cons frame frames =>
    have h' : (change frame.node).placed = frame.node.placed ++ more := h
    simp [placed, modify, spinePlaced, Frame.modify, h']

theorem placed_openNode (c : Context) (kind : NodeKind) :
    (c.push (.ofKind kind)).placed = c.placed := by
  simp [push, placed, spinePlaced, Frame.ofNode, Node.placed, Node.ofKind, Element.placedAll]

theorem placed_close (c : Context) : c.close.placed = c.placed := by
  obtain ⟨root, frames⟩ := c
  cases frames with
  | nil => rfl
  | cons frame frames =>
    have hpush (n : Node) : (n.push frame.node.toElement).placed =
        n.placed ++ frame.node.placed := by
      simp [Node.placed, Node.push, Node.toElement, Element.placedAll_singleton_node]
    refine (placed_modify _ frame.node.placed (hpush _)).trans ?_
    simp [placed, spinePlaced]

end Context

/-- What becomes of the parent of a token when units are given up. -/
def Demotes (place place' : Token × NodeKind) : Prop :=
  place' = place ∨ place.2 = .programUnit ∧ place' = (place.1, .skipped)

end Parse

namespace Element

mutual
/--
The tokens directly in a unit are skipped when it is given up, those in its nodes stay there.
-/
theorem demotes_placed (e : Element) :
    List.Forall₂ Demotes (placed .programUnit e) (placed .skipped e) := by
  cases e with
  | token t => exact .cons (.inr ⟨rfl, rfl⟩) .nil
  | node heading children => exact List.forall₂_same.2 fun _ _ => .inl rfl

theorem demotes_placedAll (es : List Element) :
    List.Forall₂ Demotes (placedAll .programUnit es) (placedAll .skipped es) := by
  cases es with
  | nil => exact .nil
  | cons e es => exact List.rel_append (demotes_placed e) (demotes_placedAll es)
end

end Element

theorem Rule.FitAll.demote {rules : List Rule} {places places' : List (Token × NodeKind)}
    (h : FitAll rules places) (hdemotes : List.Forall₂ Demotes places places') :
    FitAll rules places' := by
  induction h generalizing places' with
  | nil =>
    cases hdemotes
    exact .nil
  | @cons rule place rules places hfits _ ih =>
    cases hdemotes with
    | cons hdemote hrest =>
      refine .cons ?_ (ih hrest)
      rcases hdemote with rfl | ⟨hunit, rfl⟩
      · exact hfits
      · rw [hunit] at hfits
        exact fits_skipped (.inr (hfits.own nofun))

namespace Parse

namespace Context

variable {rules : List Rule}

theorem fitAll_spill {elements : List Element} {frames : List Frame}
    (hunits : ∀ f ∈ frames, f.node.kind = .programUnit) {before : List (Token × NodeKind)}
    (h :
      Rule.FitAll rules
        (before ++ (spinePlaced frames ++ Element.placedAll .skipped elements))) :
    Rule.FitAll rules (before ++ Element.placedAll .skipped (spill elements frames)) := by
  have hsame (places : List (Token × NodeKind)) : List.Forall₂ Demotes places places :=
    List.forall₂_same.2 fun _ _ => .inl rfl
  induction frames generalizing elements with
  | nil => exact h
  | cons frame frames ih =>
    rw [List.forall_mem_cons] at hunits
    apply ih hunits.2
    rw [Node.placedAll_pushSkipped]
    rw [spinePlaced, Node.placed, hunits.1, List.append_assoc] at h
    -- The tokens directly in the innermost frame lose their parent, and no others do.
    apply h.demote
    apply List.rel_append (hsame before)
    apply List.rel_append (hsame _)
    exact List.rel_append (Element.demotes_placedAll _) (hsame _)

end Context

/--
The root is a source unit, all open nodes are program units, and each has its own production.
-/
structure Context.Ruled (c : Context) : Prop where
  root : c.root.node.kind = .sourceUnit ∧ c.root.rule = .sourceUnit
  units : ∀ f ∈ c.frames, f.node.kind = .programUnit ∧ f.rule = .programUnit

namespace Context.Ruled

variable {c : Context}

theorem current (h : c.Ruled) : c.rule = c.current.kind.rule ∧ c.current.kind ≠ .skipped := by
  obtain ⟨root, frames⟩ := c
  cases frames with
  | nil =>
    obtain ⟨hkind, hrule⟩ : root.node.kind = .sourceUnit ∧ root.rule = .sourceUnit := h.root
    change root.rule = root.node.kind.rule ∧ root.node.kind ≠ .skipped
    rw [hkind, hrule]
    exact ⟨rfl, nofun⟩
  | cons frame frames =>
    obtain ⟨hkind, hrule⟩ := h.units frame List.mem_cons_self
    change frame.rule = frame.node.kind.rule ∧ frame.node.kind ≠ .skipped
    rw [hkind, hrule]
    exact ⟨rfl, nofun⟩

theorem modify (h : c.Ruled) {change : Node → Node} (hkind : ∀ n, (change n).kind = n.kind) :
    (c.modify change).Ruled := by
  obtain ⟨root, frames⟩ := c
  cases frames with
  | nil => exact ⟨⟨(hkind root.node).trans h.root.1, h.root.2⟩, h.units⟩
  | cons frame frames =>
    have hunits := h.units
    rw [List.forall_mem_cons] at hunits
    refine ⟨h.root, List.forall_mem_cons.2 ⟨⟨?_, hunits.1.2⟩, hunits.2⟩⟩
    exact (hkind frame.node).trans hunits.1.1

theorem openUnit (h : c.Ruled) : (c.push (.ofKind .programUnit)).Ruled :=
  ⟨h.root, List.forall_mem_cons.2 ⟨⟨rfl, rfl⟩, h.units⟩⟩

theorem close (h : c.Ruled) : c.close.Ruled := by
  obtain ⟨root, frames⟩ := c
  cases frames with
  | nil => exact h
  | cons frame frames =>
    have hrest : Ruled ⟨root, frames⟩ := ⟨h.root, (List.forall_mem_cons.1 h.units).2⟩
    exact hrest.modify fun _ => rfl

end Context.Ruled

/-- The tokens read so far fit the nodes that they are in. -/
structure InScope (s : State) : Prop where
  ruled : s.context.Ruled
  fits : Rule.FitAll s.rules.reverse s.context.placed

namespace InScope

variable {score : Similarity} {s s' : State} {es : List Element}

theorem initial (stream : TokenStream) : InScope (.initial stream) :=
  ⟨⟨⟨rfl, rfl⟩, nofun⟩, .nil⟩

theorem reads (h : InScope s) (hreads : Reads s es s')
    (hplaced : ∀ m ∈ Element.nodesAll es, m.kind ≠ .skipped) : InScope s' := by
  obtain ⟨hrule, hkind⟩ := h.ruled.current
  have hpush (n : Node) : (n.pushAll es).placed = n.placed ++ Element.placedAll n.kind es :=
    Element.placedAll_append ..
  constructor
  · rw [hreads.context]
    exact h.ruled.modify fun _ => rfl
  · rw [hreads.context, Context.placed_modify _ _ (hpush _), hreads.rules, List.reverse_append,
      List.reverse_reverse, hrule]
    exact List.rel_append h.fits (Element.fitAll_readingsAll hkind es hplaced)

theorem readsTokens (h : InScope s) {ts : List Token} (hreads : Reads s (ts.map .token) s') :
    InScope s' :=
  h.reads hreads (by simp)

theorem shiftTrivia (h : InScope s) : InScope s.shiftTrivia := by
  obtain ⟨gap, -, hreads⟩ := s.exists_reads_shiftTrivia
  exact h.readsTokens hreads

theorem openUnit (h : InScope s) : InScope (s.openNode .programUnit) := by
  refine ⟨h.ruled.openUnit, ?_⟩
  change Rule.FitAll s.rules.reverse (s.context.push (.ofKind .programUnit)).placed
  rw [Context.placed_openNode]
  exact h.fits

theorem named (h : InScope s) (name : Token) : InScope (s.named name) := by
  refine ⟨h.ruled.modify fun _ => rfl, ?_⟩
  change Rule.FitAll s.rules.reverse (s.context.modify _).placed
  rw [Context.placed_modify _ [] (List.append_nil _).symm, List.append_nil]
  exact h.fits

theorem leaveUnit (h : InScope s) : InScope s.leaveUnit := by
  refine ⟨h.ruled.close, ?_⟩
  change Rule.FitAll s.rules.reverse s.context.close.placed
  rw [Context.placed_close]
  exact h.fits

theorem closeUnit (h : InScope s) : InScope (Parse.closeUnit s).state := by
  unfold Parse.closeUnit
  split
  · exact h.leaveUnit.shiftTrivia
  · exact h.leaveUnit

theorem report (h : InScope s) (found : List Diagnostic) : InScope (s.report found) :=
  ⟨h.ruled, h.fits⟩

theorem checkTrailer (h : InScope s) (name : Token) :
    InScope (Production.checkTrailer name s) := by
  unfold Production.checkTrailer
  split
  · exact h
  · split
    · exact h
    · exact h.report _

/-- Outside all units, what is read to be skipped is read under the production of the root. -/
theorem skip (h : InScope s) (hframes : s.context.frames = [])
    (hunread : ∀ t ∈ s.unread, t.isEndOfInput = false) (n : Nat) : InScope (s.skip n) := by
  have hcontext := State.context_skip hunread n
  have hrule : s.context.rule = .sourceUnit := by
    rw [Context.rule, Context.top, hframes]
    exact h.ruled.root.2
  have hrules : (s.skip n).rules =
      List.replicate (s.unread.take n).length .sourceUnit ++ s.rules := by
    rw [← hrule]
    rfl
  constructor
  · rw [hcontext]
    exact h.ruled.modify fun m => m.kind_pushSkipped _
  · rw [hcontext, Context.placed_modify _ _ (Node.placed_pushSkipped _ _), hrules,
      List.reverse_append, List.reverse_replicate]
    exact List.rel_append h.fits (Rule.fitAll_skipped _)

/-- Units that are given up leave their tokens to the root as skipped. -/
theorem abandon (h : InScope s) :
    InScope { s with context := s.context.abandon, openNames := [] } := by
  have hremnants : s.context.remnants = Context.spill [] s.context.frames := by
    rw [Context.remnants]
    cases s.context.frames <;> rfl
  constructor
  · dsimp only
    rw [Context.abandon_eq]
    exact ⟨⟨(Node.kind_pushSkipped _ _).trans h.ruled.root.1, h.ruled.root.2⟩, by simp⟩
  · dsimp only
    rw [Context.abandon_eq, Context.placed, Context.spinePlaced, List.append_nil, hremnants]
    have hfits : Rule.FitAll s.rules.reverse (s.context.root.node.placed ++
        (Context.spinePlaced s.context.frames ++ Element.placedAll .skipped [])) := by
      rw [Element.placedAll, List.append_nil]
      exact h.fits
    have hspilt := Context.fitAll_spill (fun f hf => (h.ruled.units f hf).1) hfits
    rwa [← Node.placed_pushSkipped] at hspilt

theorem recover (h : InScope s) (hunread : ∀ t ∈ s.unread, t.isEndOfInput = false) :
    InScope s.recover := by
  have hskip := h.abandon.skip (Context.frames_abandon _) hunread 1
  apply hskip.skip
  · exact Context.frames_modify_eq_nil (Context.frames_abandon _) _
  · intro t ht
    exact hunread t (List.mem_of_mem_drop ht)

theorem of_openUnit (h : InScope s) (hs : s.stream.sentinel.isEndOfInput)
    (hopen : Parse.openUnit score s = .ok () s') : InScope s' := by
  obtain ⟨ts, name, s₁, hreads, rfl⟩ := exists_reads_of_openUnit hopen hs
  exact (h.openUnit.reads hreads (by simp)).named name

theorem of_division (h : InScope s) (hs : s.stream.sentinel.isEndOfInput) {d : Division}
    (hdivision : Production.division score d s = .ok () s') : InScope s' := by
  obtain ⟨gap, ts, -, hreads⟩ := exists_reads_of_division hdivision hs
  apply h.reads hreads
  cases d <;> simp [Division.kind]

theorem of_fails {c : Configuration} {f : Failure} (h : InScope c.state) (hc : Orderly c)
    (hunread : ∀ t ∈ c.state.unread, t.isEndOfInput = false) (hfails : Fails score c f s') :
    InScope s'.recover := by
  obtain ⟨s₁, t, k, hb, rfl⟩ := hfails.breakdown hc
  obtain ⟨s₀, es, hentry, hreads, hkinds⟩ := hb.entry
  have hplaced : ∀ m ∈ Element.nodesAll es, m.kind ≠ .skipped := by
    intro m hm hskipped
    have hdivision := hkinds m hm
    rw [hskipped] at hdivision
    cases hdivision
  have h₀ : InScope s₀ := by
    rcases hentry with ⟨rfl, -⟩ | rfl
    · exact h
    · exact h.shiftTrivia.openUnit
  apply ((h₀.reads hreads hplaced).report _).recover
  intro u hu
  exact hunread u (hb.mem_unread hu)

/--
Every step of the machine reads tokens under the productions of the nodes it puts them in.
-/
theorem step {c : Configuration} (h : InScope c.state) (hc : Orderly c)
    (hunread : ∀ t ∈ c.state.unread, t.isEndOfInput = false) :
    InScope (step score c).state := by
  have hadvance := advance_step score c
  generalize Parse.step score c = c' at hadvance
  cases hadvance with
  | finishes hend => exact h.shiftTrivia
  | @skips s hmore hother =>
    apply shiftTrivia
    apply (h.shiftTrivia.report _).skip
    · exact State.frames_shiftTrivia_eq_nil_iff.2 (hc.outside.1 rfl)
    · intro t ht
      apply hunread
      exact (moves_shiftTrivia s).unread_suffix.subset ht
  | opens hfaces hopen => exact h.shiftTrivia.of_openUnit hc.sentinel hopen
  | passes hheader => exact h
  | reads hheader hdivision => exact h.of_division hc.sentinel hdivision
  | leaves hend htrailer => exact h.closeUnit
  | ends hend htrailer hown hwords =>
    obtain ⟨ts, _, _, name, _, s₁, hreads, -, rfl⟩ :=
      exists_reads_of_endProgram hwords hc.sentinel
    exact ((h.readsTokens hreads).checkTrailer name).closeUnit
  | fails hfails => exact h.of_fails hc hunread hfails

end InScope

/-- What holds of a configuration when a text without ends of input is read. -/
structure Scoped (c : Configuration) : Prop where
  orderly : Orderly c
  unread : ∀ t ∈ c.state.unread, t.isEndOfInput = false
  inScope : InScope c.state

theorem Scoped.step {score : Similarity} {c : Configuration} (h : Scoped c) :
    Scoped (step score c) := by
  refine ⟨h.orderly.step, ?_, h.inScope.step h.orderly h.unread⟩
  intro t ht
  exact h.unread t ((moves_step c).unread_suffix.subset ht)

theorem scoped_finalState (score : Similarity) {tokens : List Token}
    (h : ∀ t ∈ tokens, t.isEndOfInput = false) (position : Position) (offset : Nat) :
    Scoped ⟨.sourceUnit,
      finalState score (.ofTokens tokens (.endOfInput position offset))⟩ := by
  apply run_preserves
  · intro c hc
    exact hc.step
  · exact ⟨.initial tokens position offset, h, .initial _⟩

end Parse

/--
The tokens of a text without ends of input are the leaves of its tree. Each was read under the
production of its parent, if that is not a skipped node; what has a skipped parent was read in a
source unit or in a program unit.
-/
theorem readingRules_fit_parents (score : Similarity) (tokens : List Token)
    (h : ∀ t ∈ tokens, t.isEndOfInput = false) (position : Position) (offset : Nat) :
    let stream := TokenStream.ofTokens tokens (.endOfInput position offset)
    let root := (parseStream score stream).root
    root.placed.map Prod.fst = tokens ∧
      Rule.FitAll (readingRules score stream) root.placed := by
  intro stream root
  have hscoped := scoped_finalState score h position offset
  constructor
  · have hkept : tokens.filter (!·.isEndOfInput) = tokens :=
      List.filter_eq_self.2 fun t ht => by simp [h t ht]
    rw [Node.map_fst_placed, leaves_root_parseStream]
    exact hkept
  · have hframes : (finalState score stream).context.frames = [] :=
      hscoped.orderly.outside.1 rfl
    have hfits := hscoped.inScope.fits
    rwa [Context.placed, hframes, Context.spinePlaced, List.append_nil,
      ← Context.finish_of_outside hframes] at hfits

theorem readingRules_fit_parents_stray :
    let stream := TokenStream.ofTokens strayTokens (.endOfInput ⟨0, 9⟩ 9)
    (∀ t ∈ strayTokens, t.isEndOfInput = false) ∧
      Rule.FitAll (readingRules Similarity.jaroWinkler stream)
        (parseStream Similarity.jaroWinkler stream).root.placed := by
  have htokens : ∀ t ∈ strayTokens, t.isEndOfInput = false := by decide
  exact ⟨htokens, (readingRules_fit_parents _ strayTokens htokens ⟨0, 9⟩ 9).2⟩

end CobolCompanion
