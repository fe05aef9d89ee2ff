import CobolCompanion.Proofs.TextOrder
import CobolCompanion.Proofs.UnitShapes

namespace CobolCompanion

namespace Element

/-- Of two nodes one is in the other, or they follow each other among some tokens. -/
inductive Settled (tokens : List Token) (m n : Node) : Prop where
  | around (h : n ∈ m.toElement.nodes)
  | inside (h : m ∈ n.toElement.nodes)
  | before (h : (m.leaves ++ n.leaves).Sublist tokens)
  | behind (h : (n.leaves ++ m.leaves).Sublist tokens)

theorem Settled.mono {tokens more : List Token} {m n : Node} (h : Settled tokens m n)
    (hmore : tokens.Sublist more) : Settled more m n := by
  cases h with
  | around h => exact .around h
  | inside h => exact .inside h
  | before h => exact .before (h.trans hmore)
  | behind h => exact .behind (h.trans hmore)

mutual
theorem settled_of_mem_nodes {e : Element} {m n : Node} (hm : m ∈ e.nodes) (hn : n ∈ e.nodes) :
    Settled e.leaves m n := by
  cases e with
  | token t => simp [nodes] at hm
  | node heading children =>
    rw [nodes] at hm hn
    rcases List.mem_cons.1 hm with rfl | hm'
    · exact .around (by rwa [Node.toElement, nodes])
    rcases List.mem_cons.1 hn with rfl | hn'
    · exact .inside (by rwa [Node.toElement, nodes])
    exact settled_of_mem_nodesAll hm' hn'

theorem settled_of_mem_nodesAll {es : List Element} {m n : Node} (hm : m ∈ nodesAll es)
    (hn : n ∈ nodesAll es) : Settled (leavesAll es) m n := by
  cases es with
  | nil => simp at hm
  | cons e es =>
    rw [nodesAll, List.mem_append] at hm hn
    rw [leavesAll]
    rcases hm with hm | hm <;> rcases hn with hn | hn
    · exact (settled_of_mem_nodes hm hn).mono (List.sublist_append_left _ _)
    · exact .before ((leaves_infix_of_mem_nodes hm).sublist.append
        (leaves_infix_of_mem_nodesAll hn).sublist)
    · exact .behind ((leaves_infix_of_mem_nodes hn).sublist.append
        (leaves_infix_of_mem_nodesAll hm).sublist)
    · exact (settled_of_mem_nodesAll hm hn).mono (List.sublist_append_right _ _)
end

mutual
/--
The nodes of an element in the order of a walk, each with whether it lies in what was skipped.
-/
def sightings (hidden : Bool) : Element → List (Node × Bool)
  | token _ => []
  | node heading children =>
    let hidden := hidden || heading.kind == .skipped
    (⟨heading, children⟩, hidden) :: sightingsAll hidden children

/-- The nodes among some elements and under them, with whether they lie in what was skipped. -/
def sightingsAll (hidden : Bool) : List Element → List (Node × Bool)
  | [] => []
  | e :: es => sightings hidden e ++ sightingsAll hidden es
end

theorem sightings_of_skipped {heading : Heading} (h : heading.kind = .skipped) (hidden : Bool)
    (children : List Element) :
    sightings hidden (.node heading children) =
      (⟨heading, children⟩, true) :: sightingsAll true children := by
  rw [sightings, h, beq_self_eq_true, Bool.or_true]

theorem sightings_of_placed {heading : Heading} (h : heading.kind ≠ .skipped) (hidden : Bool)
    (children : List Element) :
    sightings hidden (.node heading children) =
      (⟨heading, children⟩, hidden) :: sightingsAll hidden children := by
  rw [sightings, beq_eq_false_iff_ne.2 h, Bool.or_false]

mutual
theorem map_fst_sightings (hidden : Bool) (e : Element) :
    (sightings hidden e).map Prod.fst = nodes e := by
  cases e with
  | token t => simp [sightings, nodes]
  | node heading children => simp only [sightings, nodes, List.map_cons, map_fst_sightingsAll]

theorem map_fst_sightingsAll (hidden : Bool) (es : List Element) :
    (sightingsAll hidden es).map Prod.fst = nodesAll es := by
  cases es with
  | nil => simp [sightingsAll]
  | cons e es => simp only [sightingsAll, nodesAll, List.map_append, map_fst_sightings,
    map_fst_sightingsAll]
end

mutual
theorem hidden_of_mem_sightings {e : Element} : ∀ v ∈ sightings true e, v.2 := by
  cases e with
  | token t => simp [sightings]
  | node heading children =>
    rw [sightings, Bool.true_or, List.forall_mem_cons]
    exact ⟨rfl, hidden_of_mem_sightingsAll⟩

theorem hidden_of_mem_sightingsAll {es : List Element} : ∀ v ∈ sightingsAll true es, v.2 := by
  cases es with
  | nil => simp [sightingsAll]
  | cons e es =>
    rw [sightingsAll, List.forall_mem_append]
    exact ⟨hidden_of_mem_sightings, hidden_of_mem_sightingsAll⟩
end

end Element

namespace Node

/--
The nodes of a tree in the order of a walk, each with whether it lies in what was skipped.
-/
def sightings (root : Node) : List (Node × Bool) :=
  root.toElement.sightings false

theorem map_fst_sightings (root : Node) : root.sightings.map Prod.fst = root.toElement.nodes :=
  Element.map_fst_sightings false root.toElement

theorem mem_nodes_toElement {m n : Node} :
    n ∈ m.toElement.nodes ↔ n = m ∨ n ∈ Element.nodesAll m.children := by
  rw [toElement, Element.nodes, List.mem_cons]

theorem nodesAll_children_eq_nil {n : Node} (h : n.childNodes = []) :
    Element.nodesAll n.children = [] := by
  rw [childNodes, List.filterMap_eq_nil_iff] at h
  apply List.eq_nil_iff_forall_not_mem.2
  intro m hm
  obtain ⟨e, he, hm⟩ := Element.mem_nodesAll.1 hm
  cases e with
  | token t => simp [Element.nodes] at hm
  | node heading children => cases h _ he

end Node

def Node.divisionLeaves (n : Node) : List Token :=
  if n.kind.isDivision then n.leaves else []

mutual
theorem Element.flatMap_divisionLeaves_nodes {e : Element} (h : ∀ n ∈ e.nodes, n.Proper) :
    (e.nodes.flatMap Node.divisionLeaves).Sublist e.leaves := by
  cases e with
  | token t => simp [nodes]
  | node heading children =>
    rw [nodes, List.forall_mem_cons] at h
    have hchildren := flatMap_divisionLeaves_nodesAll h.2
    rw [nodes, List.flatMap_cons, leaves, Node.divisionLeaves]
    split
    · next hdivision =>
      have hnone : nodesAll children = [] :=
        Node.nodesAll_children_eq_nil (h.1.division hdivision)
      rw [hnone, List.flatMap_nil, List.append_nil]
      exact .refl _
    · exact hchildren

theorem Element.flatMap_divisionLeaves_nodesAll {es : List Element}
    (h : ∀ n ∈ nodesAll es, n.Proper) :
    ((nodesAll es).flatMap Node.divisionLeaves).Sublist (leavesAll es) := by
  cases es with
  | nil => simp
  | cons e es =>
    rw [nodesAll, List.forall_mem_append] at h
    rw [nodesAll, List.flatMap_append, leavesAll]
    exact (flatMap_divisionLeaves_nodes h.1).append (flatMap_divisionLeaves_nodesAll h.2)
end

end CobolCompanion
