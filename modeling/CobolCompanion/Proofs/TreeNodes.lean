import CobolCompanion.Proofs.Conservation

namespace CobolCompanion

open Parse

namespace Element

mutual
def nodes : Element → List Node
  | token _ => []
  | node heading children => ⟨heading, children⟩ :: nodesAll children

def nodesAll : List Element → List Node
  | [] => []
  | e :: es => nodes e ++ nodesAll es
end

@[simp] theorem nodesAll_nil : nodesAll [] = [] := by
  simp [nodesAll]

@[simp] theorem nodesAll_append (es fs : List Element) :
    nodesAll (es ++ fs) = nodesAll es ++ nodesAll fs := by
  induction es with
  | nil => simp
  | cons e es ih => simp [nodesAll, ih]

@[simp] theorem nodesAll_map_token (ts : List Token) : nodesAll (ts.map .token) = [] := by
  induction ts with
  | nil => simp
  | cons t ts ih => simp [nodesAll, nodes, ih]

@[simp] theorem nodesAll_singleton_node (heading : Heading) (children : List Element) :
    nodesAll [.node heading children] = ⟨heading, children⟩ :: nodesAll children := by
  simp [nodesAll, nodes]

theorem mem_nodesAll {es : List Element} {n : Node} :
    n ∈ nodesAll es ↔ ∃ e ∈ es, n ∈ e.nodes := by
  induction es with
  | nil => simp
  | cons e es ih => simp [nodesAll, ih]

mutual
theorem map_fst_walk (depth : Nat) (e : Element) : (walk depth e).map Prod.fst = nodes e := by
  cases e with
  | token t => simp [walk, nodes]
  | node heading children =>
    simp only [walk, nodes, List.map_cons, map_fst_walkAll (depth + 1) children]

theorem map_fst_walkAll (depth : Nat) (es : List Element) :
    (walkAll depth es).map Prod.fst = nodesAll es := by
  cases es with
  | nil => simp [walkAll]
  | cons e es =>
    simp only [walkAll, nodesAll, List.map_append, map_fst_walk depth e,
      map_fst_walkAll depth es]
end

end Element

theorem NodeKind.ne_programUnit_of_isDivision {kind : NodeKind} (h : kind.isDivision) :
    kind ≠ .programUnit := by
  rintro rfl
  cases h

def Element.BeginsWithDivision (es : List Element) : Prop :=
  ∃ heading held rest, es = .node heading held :: rest ∧ heading.kind.isDivision

theorem Element.BeginsWithDivision.append {es : List Element} (h : BeginsWithDivision es)
    (fs : List Element) : BeginsWithDivision (es ++ fs) := by
  obtain ⟨heading, held, rest, rfl, hdivision⟩ := h
  exact ⟨heading, held, rest ++ fs, rfl, hdivision⟩

theorem Element.BeginsWithDivision.ne_nil {es : List Element}
    (h : BeginsWithDivision es) : es ≠ [] := by
  obtain ⟨heading, held, rest, rfl, -⟩ := h
  exact List.cons_ne_nil _ _

namespace Node

variable {n : Node} {elements more : List Element}

theorem map_fst_walk (n : Node) : n.walk.map Prod.fst = n :: Element.nodesAll n.children := by
  simp [walk, Element.map_fst_walkAll]

theorem pushSkipped_nil (n : Node) : n.pushSkipped [] = n := rfl

/-- Skipped elements join the skipped node that stands last, or else stand in a new one. -/
theorem pushSkipped_cases (n : Node) (h : elements ≠ []) :
    (∃ before heading held, heading.kind = .skipped ∧
      n.children = before ++ [.node heading held] ∧
        n.pushSkipped elements =
          { n with children := before ++ [.node heading (held ++ elements)] }) ∨
      (∀ e ∈ n.children.getLast?, e.isSkipped = false) ∧
        n.pushSkipped elements = n.push (.node { kind := .skipped } elements) := by
  unfold pushSkipped
  rw [if_neg (by simpa using h)]
  cases hlast : n.children.getLast? with
  | none => exact .inr ⟨by simp, rfl⟩
  | some e =>
    cases e with
    | token t => exact .inr ⟨by simp [Element.isSkipped], rfl⟩
    | node heading held =>
      by_cases hkind : heading.kind = .skipped
      · obtain ⟨before, hbefore⟩ := List.getLast?_eq_some_iff.1 hlast
        refine .inl ⟨before, heading, held, hkind, hbefore, ?_⟩
        simp [hkind, hbefore]
      · exact .inr ⟨by simp [Element.isSkipped, hkind], by simp [hkind]⟩

theorem kind_pushSkipped (n : Node) (elements : List Element) :
    (n.pushSkipped elements).kind = n.kind := by
  by_cases helements : elements = []
  · rw [helements, pushSkipped_nil]
  · obtain ⟨_, _, _, -, -, hpush⟩ | ⟨-, hpush⟩ := n.pushSkipped_cases helements <;> rw [hpush]
    rfl

theorem exists_region (n : Node) (h : elements ≠ []) :
    ∃ before region, (n.pushSkipped elements).children = before ++ [region] ∧ region.isSkipped ∧
      (∀ t ∈ Element.leavesAll elements, t ∈ region.leaves) ∧ (∀ e ∈ before, e ∈ n.children) ∧
      ∀ e ∈ n.children, e ∈ before ∨ e.isSkipped ∧ ∀ t ∈ e.leaves, t ∈ region.leaves := by
  obtain ⟨before, heading, held, hkind, hchildren, hpush⟩ | ⟨-, hpush⟩ := n.pushSkipped_cases h
  · refine ⟨before, .node heading (held ++ elements), by rw [hpush], ?_, ?_, ?_, ?_⟩
    · simp [Element.isSkipped, hkind]
    · simp only [Element.leaves, Element.leavesAll_append, List.mem_append]
      exact fun t ht => .inr ht
    · simp only [hchildren, List.mem_append]
      exact fun e he => .inl he
    · rw [hchildren]
      intro e he
      rcases List.mem_append.1 he with he | he
      · exact .inl he
      · rw [List.mem_singleton.1 he]
        simp only [Element.isSkipped, hkind, Element.leaves, Element.leavesAll_append,
          List.mem_append]
        exact .inr ⟨rfl, fun t ht => .inl ht⟩
  · refine ⟨n.children, .node { kind := .skipped } elements, by rw [hpush, push],
      rfl, ?_, ?_, ?_⟩
    · simp [Element.leaves]
    · exact fun e he => he
    · exact fun e he => .inl he

theorem pushSkipped_pushSkipped (n : Node) (elements more : List Element) :
    (n.pushSkipped elements).pushSkipped more = n.pushSkipped (elements ++ more) := by
  by_cases hmore : more = []
  · simp [hmore, pushSkipped_nil]
  by_cases helements : elements = []
  · simp [helements, pushSkipped_nil]
  obtain ⟨before, heading, held, hkind, hchildren, hpush⟩ | ⟨hlast, hpush⟩ :=
    n.pushSkipped_cases helements
  · rw [hpush]
    simp [pushSkipped, hkind, hchildren, helements, hmore]
  · rw [hpush]
    obtain ⟨before, heading, held, hkind, hchildren, -⟩ | ⟨-, hpush'⟩ :=
      n.pushSkipped_cases (List.append_ne_nil_of_left_ne_nil helements more)
    · simp [hchildren, Element.isSkipped, hkind] at hlast
    · rw [hpush']
      simp [pushSkipped, push, hmore]

theorem beginsWithDivision_pushSkipped (h : Element.BeginsWithDivision n.children)
    (elements : List Element) :
    Element.BeginsWithDivision (n.pushSkipped elements).children := by
  obtain ⟨heading, held, rest, hchildren, hdivision⟩ := h
  by_cases helements : elements = []
  · rw [helements, pushSkipped_nil]
    exact ⟨heading, held, rest, hchildren, hdivision⟩
  obtain ⟨before, heading', held', hkind, hchildren', hpush⟩ | ⟨-, hpush⟩ :=
    n.pushSkipped_cases helements
  · rw [hpush]
    rw [hchildren] at hchildren'
    cases before with
    | nil =>
      simp only [List.nil_append, List.cons.injEq, Element.node.injEq] at hchildren'
      rw [hchildren'.1.1, hkind] at hdivision
      cases hdivision
    | cons e before =>
      rw [List.cons_append, List.cons.injEq] at hchildren'
      exact ⟨heading, held, _, congrArg (· :: _) hchildren'.1.symm, hdivision⟩
  · rw [hpush, push, hchildren]
    exact ⟨heading, held, _, rfl, hdivision⟩

theorem mem_nodesAll_pushSkipped {m : Node}
    (h : m ∈ Element.nodesAll (n.pushSkipped elements).children) :
    m ∈ Element.nodesAll n.children ∨ m ∈ Element.nodesAll elements ∨ m.kind = .skipped := by
  by_cases helements : elements = []
  · rw [helements, pushSkipped_nil] at h
    exact .inl h
  obtain ⟨before, heading, held, hkind, hchildren, hpush⟩ | ⟨-, hpush⟩ :=
    n.pushSkipped_cases helements
  · rw [hpush] at h
    rw [hchildren]
    simp only [Element.nodesAll_append, Element.nodesAll_singleton_node, List.mem_append,
      List.mem_cons] at h ⊢
    rcases h with h | rfl | h | h
    · exact .inl (.inl h)
    · exact .inr (.inr hkind)
    · exact .inl (.inr (.inr h))
    · exact .inr (.inl h)
  · rw [hpush] at h
    simp only [push, Element.nodesAll_append, Element.nodesAll_singleton_node, List.mem_append,
      List.mem_cons] at h
    rcases h with h | rfl | h
    · exact .inl h
    · exact .inr (.inr rfl)
    · exact .inr (.inl h)

end Node

namespace Parse

namespace Context

/-- What the open nodes leave behind when all of them are given up. -/
def remnants (c : Context) : List Element :=
  match c.frames with
  | [] => []
  | frame :: frames => spill frame.node.children frames

theorem abandon_eq (c : Context) :
    c.abandon = ⟨c.root.modify (·.pushSkipped c.remnants), []⟩ := by
  obtain ⟨root, frames⟩ := c
  cases frames <;> rfl

/-- Nodes are open, and each of them begins with a division. -/
structure Founded (c : Context) : Prop where
  frames_ne_nil : c.frames ≠ []
  divisions : ∀ f ∈ c.frames, Element.BeginsWithDivision f.node.children

theorem beginsWithDivision_spill {elements : List Element} {frames : List Frame}
    (h : Element.BeginsWithDivision elements)
    (hframes : ∀ f ∈ frames, Element.BeginsWithDivision f.node.children) :
    Element.BeginsWithDivision (spill elements frames) := by
  induction frames generalizing elements with
  | nil => exact h
  | cons frame frames ih =>
    apply ih
    · exact Node.beginsWithDivision_pushSkipped (hframes frame List.mem_cons_self) elements
    · intro f hf
      exact hframes f (List.mem_cons_of_mem frame hf)

theorem Founded.beginsWithDivision_remnants {c : Context} (h : c.Founded) :
    Element.BeginsWithDivision c.remnants := by
  obtain ⟨f, fs, hframes⟩ := List.exists_cons_of_ne_nil h.frames_ne_nil
  have hdivisions := h.divisions
  rw [hframes] at hdivisions
  rw [remnants, hframes]
  apply beginsWithDivision_spill (hdivisions f List.mem_cons_self)
  intro g hg
  exact hdivisions g (List.mem_cons_of_mem f hg)

theorem mem_nodesAll_spill {elements : List Element} {frames : List Frame} {m : Node}
    (h : m ∈ Element.nodesAll (spill elements frames)) :
    m ∈ Element.nodesAll elements ∨ (∃ f ∈ frames, m ∈ Element.nodesAll f.node.children) ∨
      m.kind = .skipped := by
  induction frames generalizing elements with
  | nil => exact .inl h
  | cons frame frames ih =>
    rcases ih h with h | ⟨f, hf, h⟩ | h
    · rcases Node.mem_nodesAll_pushSkipped h with h | h | h
      · exact .inr (.inl ⟨frame, List.mem_cons_self, h⟩)
      · exact .inl h
      · exact .inr (.inr h)
    · exact .inr (.inl ⟨f, List.mem_cons_of_mem _ hf, h⟩)
    · exact .inr (.inr h)

end Context

namespace State

theorem context_skip {s : State} (h : ∀ t ∈ s.unread, t.isEndOfInput = false) (n : Nat) :
    (s.skip n).context = s.context.modify (·.pushSkipped ((s.unread.take n).map .token)) := by
  have hkept : (s.unread.take n).filter (!·.isEndOfInput) = s.unread.take n :=
    List.filter_eq_self.2 fun t ht => by simp [h t (List.mem_of_mem_take ht)]
  rw [skip, hkept]

/-- The tokens that recovery skips: the next one, and then all up to the end of a statement. -/
def spoilt (s : State) : List Token :=
  s.unread.take (1 + statementLength (s.unread.drop 1))

theorem unread_recover_eq (s : State) :
    s.recover.unread = s.unread.drop (1 + statementLength (s.unread.drop 1)) := by
  rw [unread_recover, List.drop_drop]

theorem spoilt_append_unread_recover (s : State) : s.spoilt ++ s.recover.unread = s.unread := by
  rw [unread_recover_eq, spoilt, List.take_append_drop]

/--
Recovery puts what is left of the open nodes and the skipped tokens under one skipped node.
-/
theorem context_recover (s : State) :
    s.recover.context =
      ⟨s.context.root.modify (·.pushSkipped
        (s.context.remnants ++ (s.spoilt.filter (!·.isEndOfInput)).map .token)), []⟩ := by
  have hspoilt : s.spoilt =
      s.unread.take 1 ++ (s.unread.drop 1).take (statementLength (s.unread.drop 1)) := by
    rw [spoilt, List.take_add]
  rw [hspoilt, List.filter_append, List.map_append, ← List.append_assoc]
  simp only [← Node.pushSkipped_pushSkipped]
  change ((s.context.abandon.modify _).modify _) = _
  rw [Context.abandon_eq]
  rfl

end State

end Parse

end CobolCompanion
