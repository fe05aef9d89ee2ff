import CobolCompanion.Proofs.UnitShapes

namespace CobolCompanion

open Parse

def Node.programName (n : Node) : String :=
  upper (n.name.getD "")

/--
A program unit with the names of the units around it, the innermost first, and all tokens after
it.
-/
structure Site where
  unit : Node
  enclosing : List String
  after : List Token

namespace Element

mutual
def sites (enclosing : List String) (after : List Token) : Element → List Site
  | token _ => []
  | node heading children =>
    if heading.kind = .programUnit then
      ⟨⟨heading, children⟩, enclosing, after⟩ ::
        sitesAll (Node.programName ⟨heading, children⟩ :: enclosing) after children
    else []

/-- The units among some elements, and those under them that lie in nothing but units. -/
def sitesAll (enclosing : List String) (after : List Token) : List Element → List Site
  | [] => []
  | e :: es => sites enclosing (leavesAll es ++ after) e ++ sitesAll enclosing after es
end

section
variable {enclosing : List String} {after : List Token} {es : List Element} {site : Site}

theorem sitesAll_append (es fs : List Element) :
    sitesAll enclosing after (es ++ fs) =
      sitesAll enclosing (leavesAll fs ++ after) es ++ sitesAll enclosing after fs := by
  induction es with
  | nil => rfl
  | cons e es ih => simp [sitesAll, ih]

theorem sitesAll_singleton (e : Element) :
    sitesAll enclosing after [e] = sites enclosing after e := by
  simp [sitesAll, leavesAll]

theorem sitesAll_eq_nil (h : ∀ m ∈ nodesAll es, m.kind ≠ .programUnit) :
    sitesAll enclosing after es = [] := by
  induction es with
  | nil => rfl
  | cons e es ih =>
    rw [nodesAll, List.forall_mem_append] at h
    have hnone : sites enclosing (leavesAll es ++ after) e = [] := by
      cases e with
      | token t => rfl
      | node heading children =>
        rw [nodes, List.forall_mem_cons] at h
        exact if_neg h.1.1
    rw [sitesAll, hnone, ih h.2, List.append_nil]

theorem sites_of_unit {heading : Heading} (h : heading.kind = .programUnit)
    (children : List Element) :
    sites enclosing after (.node heading children) =
      ⟨⟨heading, children⟩, enclosing, after⟩ ::
        sitesAll (Node.programName ⟨heading, children⟩ :: enclosing) after children := by
  rw [sites, if_pos h]

theorem sites_of_skipped {heading : Heading} (h : heading.kind = .skipped)
    (children : List Element) :
    sites enclosing after (.node heading children) = [] := by
  rw [sites, if_neg (by simp [h])]

mutual
theorem suffix_of_mem_sites {enclosing : List String} {after : List Token} (e : Element)
    (h : site ∈ sites enclosing after e) :
    site.unit.leaves ++ site.after <:+ leaves e ++ after := by
  cases e with
  | token t => cases h
  | node heading children =>
    by_cases hkind : heading.kind = .programUnit
    · rw [sites_of_unit hkind] at h
      rcases List.mem_cons.1 h with rfl | h
      · exact List.suffix_rfl
      · exact suffix_of_mem_sitesAll children h
    · rw [sites, if_neg hkind] at h
      cases h

theorem suffix_of_mem_sitesAll {enclosing : List String} {after : List Token}
    (es : List Element) (h : site ∈ sitesAll enclosing after es) :
    site.unit.leaves ++ site.after <:+ leavesAll es ++ after := by
  cases es with
  | nil => cases h
  | cons e es =>
    rw [leavesAll, List.append_assoc]
    rcases List.mem_append.1 h with h | h
    · exact suffix_of_mem_sites e h
    · exact (suffix_of_mem_sitesAll es h).trans (List.suffix_append _ _)
end

end

end Element

namespace Node

/-- The units of a tree that lie in nothing but units. -/
def sites (root : Node) : List Site :=
  Element.sitesAll [] [] root.children

theorem sitesAll_push {enclosing : List String} {after : List Token} {u : Node}
    (h : u.kind = .programUnit) (n : Node) :
    Element.sitesAll enclosing after (n.push u.toElement).children =
      Element.sitesAll enclosing (u.leaves ++ after) n.children ++
        ⟨u, enclosing, after⟩ ::
          Element.sitesAll (u.programName :: enclosing) after u.children := by
  rw [push, Element.sitesAll_append, Element.sitesAll_singleton, Element.leavesAll_singleton,
    leaves_toElement]
  exact congrArg _ (Element.sites_of_unit h u.children)

theorem sitesAll_pushSkipped {enclosing : List String} {after : List Token} (n : Node)
    (elements : List Element) :
    Element.sitesAll enclosing after (n.pushSkipped elements).children =
      Element.sitesAll enclosing (Element.leavesAll elements ++ after) n.children := by
  by_cases helements : elements = []
  · rw [helements, pushSkipped_nil]
    rfl
  obtain ⟨before, heading, held, hkind, hchildren, hpush⟩ | ⟨-, hpush⟩ :=
    n.pushSkipped_cases helements
  · rw [hpush, hchildren]
    simp only [Element.sitesAll_append, Element.sitesAll_singleton,
      Element.sites_of_skipped hkind]
    simp [Element.leaves]
  · rw [hpush, Node.push, Element.sitesAll_append, Element.sitesAll_singleton,
      Element.sites_of_skipped rfl]
    simp [Element.leaves]

end Node

namespace Parse

namespace Context

/-- The sites in open units that lie one inside the other, the innermost given first. -/
def spineSites (after : List Token) : List Frame → List Site
  | [] => []
  | frame :: frames =>
    spineSites (frame.node.leaves ++ after) frames ++
      Element.sitesAll ((frame :: frames).map (·.node.programName)) after frame.node.children

def sites (c : Context) (after : List Token) : List Site :=
  Element.sitesAll [] (spineLeaves c.frames ++ after) c.root.node.children ++
    spineSites after c.frames

theorem sites_pushAll (c : Context) {es : List Element}
    (h : ∀ m ∈ Element.nodesAll es, m.kind ≠ .programUnit) (after : List Token) :
    (c.modify (·.pushAll es)).sites after = c.sites (Element.leavesAll es ++ after) := by
  obtain ⟨root, frames⟩ := c
  cases frames with
  | nil =>
    change Element.sitesAll [] ([] ++ after) (root.node.children ++ es) ++ [] = _
    rw [Element.sitesAll_append, Element.sitesAll_eq_nil h, List.append_nil]
    rfl
  | cons frame frames =>
    have hleaves : (frame.node.pushAll es).leaves = frame.node.leaves ++ Element.leavesAll es :=
      Element.leavesAll_append ..
    change Element.sitesAll [] (spineLeaves frames ++ (frame.node.pushAll es).leaves ++ after)
        root.node.children ++
      (spineSites ((frame.node.pushAll es).leaves ++ after) frames ++
        Element.sitesAll ((frame :: frames).map (·.node.programName)) after
          (frame.node.children ++ es)) = _
    rw [hleaves, Element.sitesAll_append, Element.sitesAll_eq_nil h]
    simp [sites, spineSites, spineLeaves]

theorem mem_sites_close {c : Context} {f : Frame} {fs : List Frame}
    (hframes : c.frames = f :: fs) (hkind : f.node.kind = .programUnit)
    {after : List Token} {site : Site} (h : site ∈ c.close.sites after) :
    site ∈ c.sites after ∨ site = ⟨f.node, fs.map (·.node.programName), after⟩ := by
  obtain ⟨root, frames⟩ := c
  subst hframes
  cases fs with
  | nil =>
    change site ∈ Element.sitesAll [] after (root.node.push f.node.toElement).children ++ []
      at h
    rw [Node.sitesAll_push hkind, List.append_nil, List.mem_append, List.mem_cons] at h
    change site ∈ Element.sitesAll [] (f.node.leaves ++ after) root.node.children ++
      Element.sitesAll [f.node.programName] after f.node.children ∨ _
    rw [List.mem_append]
    rcases h with h | h | h
    · exact .inl (.inl h)
    · exact .inr h
    · exact .inl (.inr h)
  | cons g gs =>
    change site ∈ Element.sitesAll []
        (spineLeaves gs ++ (g.node.push f.node.toElement).leaves ++ after) root.node.children ++
      (spineSites ((g.node.push f.node.toElement).leaves ++ after) gs ++
        Element.sitesAll ((g :: gs).map (·.node.programName)) after
          (g.node.push f.node.toElement).children) at h
    rw [Node.sitesAll_push hkind] at h
    -- The unit goes from the spine to the end of its parent, so the same tokens follow
    -- everything else.
    simp only [Node.leaves_push, Node.leaves_toElement, List.append_assoc, List.mem_append,
      List.mem_cons] at h
    simp only [sites, spineSites, spineLeaves, List.append_assoc, List.mem_append]
    rcases h with h | h | h | h | h
    · exact .inl (.inl h)
    · exact .inl (.inr (.inl h))
    · exact .inl (.inr (.inr (.inl h)))
    · exact .inr h
    · exact .inl (.inr (.inr (.inr h)))

theorem mem_sites_abandon {c : Context} {after : List Token} {site : Site}
    (h : site ∈ c.abandon.sites after) : site ∈ c.sites after := by
  have hremnants : Element.leavesAll c.remnants = spineLeaves c.frames := by
    obtain ⟨root, frames⟩ := c
    cases frames with
    | nil => rfl
    | cons f fs => exact leaves_spill f.node.children fs
  rw [abandon_eq, sites, spineSites, List.append_nil] at h
  change site ∈ Element.sitesAll [] ([] ++ after) (c.root.node.pushSkipped c.remnants).children
    at h
  rw [Node.sitesAll_pushSkipped, hremnants] at h
  exact List.mem_append_left _ h

end Context

namespace State

/-- The sites in what has been built, before the tokens that are unread. -/
def sites (s : State) : List Site :=
  s.context.sites s.unread

theorem sites_of_reads {s s' : State} {es : List Element} (h : Reads s es s')
    (hunits : ∀ m ∈ Element.nodesAll es, m.kind ≠ .programUnit) : s'.sites = s.sites := by
  rw [sites, sites, h.context, h.unread, Context.sites_pushAll _ hunits]

theorem sites_shiftTrivia (s : State) : s.shiftTrivia.sites = s.sites := by
  obtain ⟨gap, -, hreads⟩ := s.exists_reads_shiftTrivia
  exact sites_of_reads hreads (by simp)

theorem sites_openNode (s : State) (kind : NodeKind) : (s.openNode kind).sites = s.sites := by
  change Context.sites ⟨s.context.root, .ofNode (.ofKind kind) :: s.context.frames⟩ s.unread = _
  simp [Context.sites, Context.spineSites, Context.spineLeaves, Frame.ofNode,
    Node.ofKind, Node.leaves, Element.sitesAll, Element.leavesAll, sites]

theorem sites_of_openUnit {score : Similarity} {s s' : State} (h : openUnit score s = .ok () s')
    (hs : s.stream.sentinel.isEndOfInput) : s'.sites = s.sites := by
  obtain ⟨held, name, hcontext, hunread, -⟩ := exists_unitNode_of_openUnit h hs
  have hleaves : (unitNode name held).leaves = held := by
    simp [unitNode, Node.leaves, Element.leaves]
  have hnone (enclosing : List String) (after : List Token) :
      Element.sitesAll enclosing after (unitNode name held).children = [] :=
    Element.sitesAll_eq_nil (by simp [unitNode])
  rw [sites, sites, hcontext, hunread]
  simp only [Context.sites, Context.spineSites, Context.spineLeaves, hnone, hleaves,
    List.append_nil, List.append_assoc]

theorem sites_skip {s : State} (hframes : s.context.frames = [])
    (hunread : ∀ t ∈ s.unread, t.isEndOfInput = false) (n : Nat) :
    (s.skip n).sites = s.sites := by
  have hcontext : (s.skip n).context =
      ⟨s.context.root.modify (·.pushSkipped ((s.unread.take n).map .token)), []⟩ := by
    rw [context_skip hunread, Context.modify, hframes]
  rw [sites, sites, hcontext, unread_skip, Context.sites, Context.sites, hframes]
  change Element.sitesAll [] (s.unread.drop n) (Node.pushSkipped _ _).children ++ [] =
    Element.sitesAll [] s.unread _ ++ []
  rw [Node.sitesAll_pushSkipped, Element.leavesAll_map_token, List.take_append_drop]

theorem mem_sites_recover {s : State}
    (hunread : ∀ t ∈ s.unread, t.isEndOfInput = false) {site : Site}
    (h : site ∈ s.recover.sites) : site ∈ s.sites := by
  have hframes : s.context.abandon.frames = [] := Context.frames_abandon _
  rw [recover, sites_skip, sites_skip] at h
  · exact Context.mem_sites_abandon h
  · exact hframes
  · exact hunread
  · exact Context.frames_modify_eq_nil hframes _
  · intro t ht
    exact hunread t (List.mem_of_mem_drop ht)

theorem mem_sites_closeUnit {s : State} {f : Frame} {fs : List Frame}
    (hframes : s.context.frames = f :: fs) (hkind : f.node.kind = .programUnit) {site : Site}
    (h : site ∈ (closeUnit s).state.sites) :
    site ∈ s.sites ∨ site = ⟨f.node, fs.map (·.node.programName), s.unread⟩ := by
  apply Context.mem_sites_close hframes hkind
  unfold closeUnit at h
  split at h
  · rwa [sites_shiftTrivia] at h
  · exact h

end State

end Parse

end CobolCompanion
