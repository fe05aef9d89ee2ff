import CobolCompanion.Proofs.TreeNodes
import CobolCompanion.Symbols.Build

namespace CobolCompanion

namespace Element

mutual
/--
The nodes of an element, each before those under it, with the number of the program around it.
The programs are numbered as they come.
-/
def owned (program : Option Nat) (next : Nat) : Element → List (Node × Option Nat)
  | token _ => []
  | node heading children =>
    if heading.kind = .programUnit then
      (⟨heading, children⟩, program) :: ownedAll (some next) (next + 1) children
    else (⟨heading, children⟩, program) :: ownedAll program next children

/--
The nodes among some elements and under them, with the numbers of the programs around them.
-/
def ownedAll (program : Option Nat) (next : Nat) : List Element → List (Node × Option Nat)
  | [] => []
  | e :: es =>
    owned program next e ++
      ownedAll program (next + (nodes e).countP (·.kind == .programUnit)) es
end

mutual
theorem map_fst_owned (program : Option Nat) (next : Nat) (e : Element) :
    (owned program next e).map Prod.fst = nodes e := by
  cases e with
  | token t => simp [owned, nodes]
  | node heading children =>
    rw [owned, nodes]
    split <;> rw [List.map_cons, map_fst_ownedAll]

theorem map_fst_ownedAll (program : Option Nat) (next : Nat) (es : List Element) :
    (ownedAll program next es).map Prod.fst = nodesAll es := by
  cases es with
  | nil => simp [ownedAll]
  | cons e es => rw [ownedAll, nodesAll, List.map_append, map_fst_owned, map_fst_ownedAll]
end

end Element

theorem Node.map_fst_walk_eq_nodes (root : Node) :
    root.walk.map Prod.fst = root.toElement.nodes := by
  rw [map_fst_walk, toElement, Element.nodes]

def addDivision (items : List DataItem) (visited : Node × Option Nat) : List DataItem :=
  addDataEntries visited.2 items (dataEntries visited.1.leaves)

namespace SymbolIndex

/-- Adds the symbols of a node itself, but not those of the nodes under it. -/
def addNode (index : SymbolIndex) (visited : Node × Option Nat) : SymbolIndex :=
  let (n, program) := visited
  match n.kind with
  | .programUnit => { index with programs := index.programs ++ [.ofUnit n program] }
  | .dataDivision => { index with dataItems := addDivision index.dataItems visited }
  | .procedureDivision =>
    { index with labels := index.labels ++ CobolCompanion.labels program n.leaves }
  | _ => index

variable (index : SymbolIndex) (visited : List (Node × Option Nat))

theorem programs_foldl_addNode :
    (visited.foldl addNode index).programs =
      index.programs ++ (visited.filter (·.1.kind == .programUnit)).map fun v =>
        .ofUnit v.1 v.2 := by
  induction visited generalizing index with
  | nil => simp
  | cons v visited ih =>
    obtain ⟨n, program⟩ := v
    rw [List.foldl_cons, ih]
    cases hkind : n.kind <;> simp [addNode, hkind]

theorem labels_foldl_addNode :
    (visited.foldl addNode index).labels =
      index.labels ++ (visited.filter (·.1.kind == .procedureDivision)).flatMap fun v =>
        CobolCompanion.labels v.2 v.1.leaves := by
  induction visited generalizing index with
  | nil => simp
  | cons v visited ih =>
    obtain ⟨n, program⟩ := v
    rw [List.foldl_cons, ih]
    cases hkind : n.kind <;> simp [addNode, hkind]

theorem dataItems_foldl_addNode :
    (visited.foldl addNode index).dataItems =
      (visited.filter (·.1.kind == .dataDivision)).foldl addDivision index.dataItems := by
  induction visited generalizing index with
  | nil => simp
  | cons v visited ih =>
    obtain ⟨n, program⟩ := v
    rw [List.foldl_cons, ih]
    cases hkind : n.kind <;> simp [addNode, hkind]

mutual
theorem visit_eq_foldl (index : SymbolIndex) (program : Option Nat) (e : Element) :
    visit index program e = (e.owned program index.programs.length).foldl addNode index := by
  cases e with
  | token t => rw [visit, Element.owned, List.foldl_nil]
  | node heading children =>
    rw [visit, Element.owned]
    cases hkind : heading.kind with
    | programUnit =>
      dsimp only
      rw [if_pos rfl, List.foldl_cons, visitAll_eq_foldl]
      simp [addNode, hkind]
    | _ =>
      dsimp only
      rw [if_neg (by simp), List.foldl_cons, visitAll_eq_foldl]
      simp [addNode, addDivision, hkind]

theorem visitAll_eq_foldl (index : SymbolIndex) (program : Option Nat) (es : List Element) :
    visitAll index program es =
      (Element.ownedAll program index.programs.length es).foldl addNode index := by
  cases es with
  | nil => rw [visitAll, Element.ownedAll, List.foldl_nil]
  | cons e es =>
    have hcount : (visit index program e).programs.length =
        index.programs.length + e.nodes.countP (·.kind == .programUnit) := by
      rw [visit_eq_foldl index program e, programs_foldl_addNode, List.length_append,
        List.length_map, ← List.countP_eq_length_filter,
        ← Element.map_fst_owned program index.programs.length e, List.countP_map]
      rfl
    rw [visitAll, visitAll_eq_foldl, hcount, visit_eq_foldl index program e, Element.ownedAll,
      List.foldl_append]
end

end SymbolIndex

/-- The nodes of a tree in the order of a walk, with the numbers of the programs around them. -/
def Node.owned (root : Node) : List (Node × Option Nat) :=
  root.toElement.owned none 0

theorem Node.map_fst_owned (root : Node) :
    root.owned.map Prod.fst = root.walk.map Prod.fst := by
  rw [owned, Element.map_fst_owned, map_fst_walk_eq_nodes]

/-- The nodes of a kind in the order of a walk, with the numbers of the programs around them. -/
theorem Node.filter_walk_eq (root : Node) (kind : NodeKind) :
    (root.walk.map Prod.fst).filter (·.kind == kind) =
      (root.owned.filter (·.1.kind == kind)).map Prod.fst := by
  rw [← map_fst_owned, List.filter_map]
  rfl

namespace SymbolIndex

variable (root : Node)

theorem programs_ofTree :
    (ofTree root).programs =
      (root.owned.filter (·.1.kind == .programUnit)).map fun v => .ofUnit v.1 v.2 := by
  rw [ofTree, visit_eq_foldl, programs_foldl_addNode]
  rfl

theorem labels_ofTree :
    (ofTree root).labels = (root.owned.filter (·.1.kind == .procedureDivision)).flatMap fun v =>
      CobolCompanion.labels v.2 v.1.leaves := by
  rw [ofTree, visit_eq_foldl, labels_foldl_addNode]
  rfl

theorem dataItems_ofTree :
    (ofTree root).dataItems =
      (root.owned.filter (·.1.kind == .dataDivision)).foldl addDivision [] := by
  rw [ofTree, visit_eq_foldl, dataItems_foldl_addNode]
  rfl

end SymbolIndex

end CobolCompanion
