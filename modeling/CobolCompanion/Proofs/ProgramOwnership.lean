import CobolCompanion.Proofs.DataHierarchy

namespace CobolCompanion

/-- A node at its address in a tree: the numbers of the children on the way down to it. -/
structure Addressed where
  address : List Nat
  node : Node

namespace Element

mutual
def addressed (address : List Nat) : Element → List Addressed
  | token _ => []
  | node heading children => ⟨address, ⟨heading, children⟩⟩ :: addressedAll address 0 children

/-- The nodes of the children of an address, from the child of a number on. -/
def addressedAll (address : List Nat) (number : Nat) : List Element → List Addressed
  | [] => []
  | e :: es => addressed (address ++ [number]) e ++ addressedAll address (number + 1) es
end

mutual
theorem map_addressed (address : List Nat) (e : Element) :
    (e.addressed address).map (fun a => (a.node, a.address.length)) =
      e.walk address.length := by
  cases e with
  | token t => rw [addressed, walk, List.map_nil]
  | node heading children => rw [addressed, walk, List.map_cons, map_addressedAll]

theorem map_addressedAll (address : List Nat) (number : Nat) (es : List Element) :
    (addressedAll address number es).map (fun a => (a.node, a.address.length)) =
      walkAll (address.length + 1) es := by
  cases es with
  | nil => rw [addressedAll, walkAll, List.map_nil]
  | cons e es =>
    rw [addressedAll, walkAll, List.map_append, map_addressed, map_addressedAll,
      List.length_append]
    rfl
end

mutual
theorem prefix_of_mem_addressed {address : List Nat} {a : Addressed} (e : Element)
    (h : a ∈ e.addressed address) : address <+: a.address := by
  cases e with
  | token t =>
    rw [addressed] at h
    cases h
  | node heading children =>
    rw [addressed] at h
    rcases List.mem_cons.1 h with rfl | h
    · exact List.prefix_rfl
    · obtain ⟨k, -, hk⟩ := exists_of_mem_addressedAll children h
      exact (List.prefix_append address [k]).trans hk

theorem exists_of_mem_addressedAll {address : List Nat} {number : Nat} {a : Addressed}
    (es : List Element) (h : a ∈ addressedAll address number es) :
    ∃ k ≥ number, address ++ [k] <+: a.address := by
  cases es with
  | nil =>
    rw [addressedAll] at h
    cases h
  | cons e es =>
    rw [addressedAll] at h
    rcases List.mem_append.1 h with h | h
    · exact ⟨number, Nat.le_refl number, prefix_of_mem_addressed e h⟩
    · obtain ⟨k, hk, hprefix⟩ := exists_of_mem_addressedAll es h
      exact ⟨k, by omega, hprefix⟩
end

end Element

theorem not_prefix_of_siblings {address under other : List Nat} {i j : Nat} (hij : i ≠ j)
    (hunder : address ++ [i] <+: under) (hother : address ++ [j] <+: other) :
    ¬under <+: other := by
  intro h
  have hsame := List.prefix_of_prefix_length_le (hunder.trans h) hother (by simp)
  have heq := hsame.eq_of_length (by simp)
  exact hij (by simpa using heq)

/-- A node stands around an address if it is passed on the way down to what is there. -/
def Addressed.Encloses (a : Addressed) (address : List Nat) : Prop :=
  a.address <+: address ∧ a.address ≠ address

instance (a : Addressed) (address : List Nat) : Decidable (a.Encloses address) :=
  inferInstanceAs (Decidable (_ ∧ _))

theorem Element.encloses_of_mem_addressedAll {address : List Nat} {number : Nat}
    {es : List Element} {a : Addressed} {n : Node} (h : a ∈ addressedAll address number es) :
    Addressed.Encloses ⟨address, n⟩ a.address := by
  obtain ⟨k, -, hk⟩ := exists_of_mem_addressedAll es h
  refine ⟨(List.prefix_append address [k]).trans hk, ?_⟩
  intro heq
  have hlength := hk.length_le
  rw [← heq, List.length_append, List.length_singleton] at hlength
  dsimp only at hlength
  omega

/-- The number of the last of some nodes that stands around an address. -/
def innermost? (address : List Nat) : List Addressed → Option Nat
  | [] => none
  | a :: rest =>
    ((innermost? address rest).map (· + 1)).or (if a.Encloses address then some 0 else none)

section innermost
variable {address : List Nat} {a : Addressed} {before after : List Addressed}

theorem innermost?_eq_none_iff :
    innermost? address after = none ↔ ∀ a ∈ after, ¬a.Encloses address := by
  induction after with
  | nil => simp [innermost?]
  | cons a after ih => simp [innermost?, ih, and_comm]

theorem exists_of_innermost?_eq_some {nodes : List Addressed} {i : Nat}
    (h : innermost? address nodes = some i) :
    ∃ before a after, nodes = before ++ a :: after ∧ before.length = i ∧ a.Encloses address ∧
      ∀ b ∈ after, ¬b.Encloses address := by
  induction nodes generalizing i with
  | nil => cases h
  | cons a nodes ih =>
    rw [innermost?] at h
    cases hrest : innermost? address nodes with
    | none =>
      rw [hrest, Option.map_none, Option.none_or, Option.ite_none_right_eq_some] at h
      obtain ⟨henc, hi⟩ := h
      exact ⟨[], a, nodes, rfl, Option.some.inj hi, henc, innermost?_eq_none_iff.1 hrest⟩
    | some k =>
      obtain ⟨before, b, after, rfl, rfl, henc, hafter⟩ := ih hrest
      rw [hrest, Option.map_some, Option.some_or] at h
      exact ⟨a :: before, b, after, rfl, Option.some.inj h, henc, hafter⟩

theorem innermost?_append_of_after (h : ∀ a ∈ after, ¬a.Encloses address) :
    innermost? address (before ++ after) = innermost? address before := by
  induction before with
  | nil => exact innermost?_eq_none_iff.2 h
  | cons b before ih => rw [List.cons_append, innermost?, innermost?, ih]

theorem innermost?_append_of_before (h : ∀ b ∈ before, ¬b.Encloses address) :
    innermost? address (before ++ after) =
      (innermost? address after).map (before.length + ·) := by
  induction before with
  | nil => simp
  | cons b before ih =>
    rw [List.forall_mem_cons] at h
    rw [List.cons_append, innermost?, ih h.2, if_neg h.1, Option.or_none, Option.map_map]
    congr 1
    funext i
    simp only [Function.comp_apply, List.length_cons]
    omega

end innermost

def unitsAmong (nodes : List Addressed) : List Addressed :=
  nodes.filter (·.node.kind == .programUnit)

theorem mem_of_mem_unitsAmong {nodes : List Addressed} {u : Addressed}
    (h : u ∈ unitsAmong nodes) :
    u ∈ nodes :=
  List.mem_of_mem_filter h

theorem unitsAmong_append (before after : List Addressed) :
    unitsAmong (before ++ after) = unitsAmong before ++ unitsAmong after :=
  List.filter_append before after

/--
The owner of an address among some units: the innermost around it, where the units are numbered
from `next` on, or else the program around them all.
-/
def ownerFrom (program : Option Nat) (next : Nat) (units : List Addressed)
    (address : List Nat) :
    Option Nat :=
  ((innermost? address units).map (next + ·)).or program

section ownerFrom
variable {program : Option Nat} {next : Nat} {address : List Nat} {u : Addressed}
  {units before after : List Addressed}

theorem ownerFrom_eq_program (h : ∀ u ∈ units, ¬u.Encloses address) :
    ownerFrom program next units address = program := by
  rw [ownerFrom, innermost?_eq_none_iff.2 h]
  rfl

theorem ownerFrom_cons (h : u.Encloses address) :
    ownerFrom program next (u :: units) address =
      ownerFrom (some next) (next + 1) units address := by
  rw [ownerFrom, ownerFrom, innermost?, if_pos h]
  cases innermost? address units with
  | none => rfl
  | some i =>
    simp only [Option.map_some, Option.some_or, Option.some.injEq]
    omega

theorem ownerFrom_append_of_after (h : ∀ u ∈ after, ¬u.Encloses address) :
    ownerFrom program next (before ++ after) address =
      ownerFrom program next before address := by
  rw [ownerFrom, ownerFrom, innermost?_append_of_after h]

theorem ownerFrom_append_of_before (h : ∀ u ∈ before, ¬u.Encloses address) :
    ownerFrom program next (before ++ after) address =
      ownerFrom program (next + before.length) after address := by
  rw [ownerFrom, ownerFrom, innermost?_append_of_before h, Option.map_map]
  congr 2
  funext i
  simp only [Function.comp_apply]
  omega

end ownerFrom

namespace Element

theorem length_unitsAmong_addressed (address : List Nat) (e : Element) :
    (unitsAmong (e.addressed address)).length = e.nodes.countP (·.kind == .programUnit) := by
  rw [unitsAmong, ← List.countP_eq_length_filter, ← map_fst_walk address.length,
    ← map_addressed, List.map_map, List.countP_map]
  rfl

mutual
theorem owned_eq_addressed (program : Option Nat) (next : Nat) (address : List Nat)
    (e : Element) :
    e.owned program next = (e.addressed address).map fun a =>
      (a.node, ownerFrom program next (unitsAmong (e.addressed address)) a.address) := by
  cases e with
  | token t => rw [owned, addressed, List.map_nil]
  | node heading children =>
    -- nothing at the node or under it stands around it
    have htop : ∀ u ∈ unitsAmong (addressed address (node heading children)),
        ¬u.Encloses address := by
      intro u hu henc
      have hbelow := prefix_of_mem_addressed _ (mem_of_mem_unitsAmong hu)
      exact henc.2 (henc.1.eq_of_length (Nat.le_antisymm henc.1.length_le hbelow.length_le))
    have hhead : ownerFrom program next _ address = program := ownerFrom_eq_program htop
    rw [addressed] at hhead ⊢
    rw [owned, List.map_cons, hhead]
    split
    · next hkind =>
      rw [ownedAll_eq_addressed (some next) (next + 1) address 0 children]
      congr 1
      apply List.map_congr_left
      intro a ha
      have hunits : unitsAmong
          (⟨address, ⟨heading, children⟩⟩ :: addressedAll address 0 children) =
          ⟨address, ⟨heading, children⟩⟩ :: unitsAmong (addressedAll address 0 children) :=
        List.filter_cons_of_pos (by simpa using hkind)
      rw [hunits, ownerFrom_cons (encloses_of_mem_addressedAll ha)]
    · next hkind =>
      have hunits : unitsAmong
          (⟨address, ⟨heading, children⟩⟩ :: addressedAll address 0 children) =
          unitsAmong (addressedAll address 0 children) :=
        List.filter_cons_of_neg (by simpa using hkind)
      rw [hunits, ownedAll_eq_addressed program next address 0 children]

theorem ownedAll_eq_addressed (program : Option Nat) (next : Nat) (address : List Nat)
    (number : Nat) (es : List Element) :
    ownedAll program next es = (addressedAll address number es).map fun a =>
      (a.node, ownerFrom program next (unitsAmong (addressedAll address number es))
        a.address) := by
  cases es with
  | nil => rw [ownedAll, addressedAll, List.map_nil]
  | cons e es =>
    rw [ownedAll, addressedAll, List.map_append, unitsAmong_append,
      owned_eq_addressed program next (address ++ [number]) e,
      ownedAll_eq_addressed program _ address (number + 1) es]
    congr 1
    · apply List.map_congr_left
      intro a ha
      rw [ownerFrom_append_of_after]
      intro u hu henc
      obtain ⟨k, hk, hprefix⟩ := exists_of_mem_addressedAll es (mem_of_mem_unitsAmong hu)
      exact not_prefix_of_siblings (by omega) hprefix (prefix_of_mem_addressed e ha) henc.1
    · apply List.map_congr_left
      intro a ha
      rw [ownerFrom_append_of_before, length_unitsAmong_addressed]
      intro u hu henc
      obtain ⟨k, hk, hprefix⟩ := exists_of_mem_addressedAll es ha
      have hunder := prefix_of_mem_addressed e (mem_of_mem_unitsAmong hu)
      exact not_prefix_of_siblings (by omega) hunder hprefix henc.1
end

end Element

/-- The second of two nodes does not stand around the first, nor where the first does. -/
def Addressed.ComesBefore (a b : Addressed) : Prop :=
  ¬b.address <+: a.address

mutual
theorem Element.pairwise_addressed (address : List Nat) (e : Element) :
    (e.addressed address).Pairwise Addressed.ComesBefore := by
  cases e with
  | token t =>
    rw [addressed]
    exact .nil
  | node heading children =>
    rw [addressed, List.pairwise_cons]
    refine ⟨?_, pairwise_addressedAll address 0 children⟩
    intro a ha hprefix
    have henc : Addressed.Encloses ⟨address, ⟨heading, children⟩⟩ a.address :=
      encloses_of_mem_addressedAll ha
    exact henc.2 (henc.1.eq_of_length (Nat.le_antisymm henc.1.length_le hprefix.length_le))

theorem Element.pairwise_addressedAll (address : List Nat) (number : Nat) (es : List Element) :
    (addressedAll address number es).Pairwise Addressed.ComesBefore := by
  cases es with
  | nil =>
    rw [addressedAll]
    exact .nil
  | cons e es =>
    rw [addressedAll, List.pairwise_append]
    refine ⟨pairwise_addressed _ e, pairwise_addressedAll address (number + 1) es, ?_⟩
    intro a ha b hb
    obtain ⟨k, hk, hprefix⟩ := exists_of_mem_addressedAll es hb
    exact not_prefix_of_siblings (by omega) hprefix (prefix_of_mem_addressed e ha)
end

/--
The unit of a number is the innermost around an address: the others around it are on the way to
it.
-/
def IsInnermost (units : List Addressed) (address : List Nat) (i : Nat) : Prop :=
  ∃ u, units[i]? = some u ∧ u.Encloses address ∧
    ∀ v ∈ units, v.Encloses address → v.address <+: u.address

section
variable {units : List Addressed} {address : List Nat} {i : Nat}

theorem isInnermost_of_innermost? (hunits : units.Pairwise Addressed.ComesBefore)
    (h : innermost? address units = some i) : IsInnermost units address i := by
  obtain ⟨before, u, after, rfl, rfl, henc, hafter⟩ := exists_of_innermost?_eq_some h
  refine ⟨u, by simp, henc, ?_⟩
  intro v hv hvenc
  rcases List.mem_append.1 hv with hv | hv
  · have hbefore := (List.pairwise_append.1 hunits).2.2 v hv u (List.mem_cons_self ..)
    exact (List.prefix_or_prefix_of_prefix hvenc.1 henc.1).resolve_right hbefore
  · rcases List.mem_cons.1 hv with rfl | hv
    · exact List.prefix_rfl
    · exact absurd hvenc (hafter v hv)

theorem number_le_of_prefix (hunits : units.Pairwise Addressed.ComesBefore) {j : Nat}
    {u v : Addressed} (hi : units[i]? = some u) (hj : units[j]? = some v)
    (h : u.address <+: v.address) : i ≤ j := by
  obtain ⟨hilt, rfl⟩ := List.getElem?_eq_some_iff.1 hi
  obtain ⟨hjlt, rfl⟩ := List.getElem?_eq_some_iff.1 hj
  by_contra hlt
  exact List.pairwise_iff_getElem.1 hunits j i hjlt hilt (by omega) h

theorem innermost?_eq_some_iff (hunits : units.Pairwise Addressed.ComesBefore) :
    innermost? address units = some i ↔ IsInnermost units address i := by
  refine ⟨isInnermost_of_innermost? hunits, ?_⟩
  rintro ⟨u, hu, henc, hinner⟩
  cases h : innermost? address units with
  | none => exact absurd henc (innermost?_eq_none_iff.1 h u (List.mem_of_getElem? hu))
  | some k =>
    obtain ⟨v, hv, hvenc, hvinner⟩ := isInnermost_of_innermost? hunits h
    have hle := number_le_of_prefix hunits hu hv (hvinner u (List.mem_of_getElem? hu) henc)
    have hge := number_le_of_prefix hunits hv hu (hinner v (List.mem_of_getElem? hv) hvenc)
    rw [Nat.le_antisymm hge hle]

theorem lt_of_innermost? (hunits : units.Pairwise Addressed.ComesBefore)
    {u : Addressed} {p : Nat} (hu : units[i]? = some u)
    (h : innermost? u.address units = some p) : p < i := by
  obtain ⟨v, hv, henc, -⟩ := isInnermost_of_innermost? hunits h
  have hle := number_le_of_prefix hunits hv hu henc.1
  have hne : p ≠ i := by
    rintro rfl
    rw [hu] at hv
    exact henc.2 (by rw [Option.some.inj hv])
  omega

def unitsDownTo (address : List Nat) (units : List Addressed) : List Addressed :=
  units.filter fun u => u.address <+: address

theorem prefix_iff_of_mem_take (hunits : units.Pairwise Addressed.ComesBefore) {a u : Addressed}
    (hu : units[i]? = some u) (ha : a ∈ units.take i) : a.address <+: u.address ↔
      a.Encloses u.address := by
  refine ⟨fun h => ⟨h, ?_⟩, fun h => h.1⟩
  intro heq
  obtain ⟨j, hj⟩ := List.getElem?_of_mem ha
  rw [List.getElem?_take, Option.ite_none_right_eq_some] at hj
  have hsame : u.address <+: a.address := heq ▸ List.prefix_rfl
  have hle := number_le_of_prefix hunits hu hj.2 hsame
  omega

theorem not_prefix_of_mem_drop (hunits : units.Pairwise Addressed.ComesBefore)
    {a v : Addressed} {p : Nat} (hv : units[p]? = some v) (hp : p < i) (ha : a ∈ units.drop i) :
    ¬a.address <+: v.address := by
  intro h
  obtain ⟨j, hj⟩ := List.getElem?_of_mem ha
  rw [List.getElem?_drop] at hj
  have hle := number_le_of_prefix hunits hj hv h
  omega

/-- The way down to a unit ends with it, behind those that stand around it. -/
theorem unitsDownTo_eq (hunits : units.Pairwise Addressed.ComesBefore) {u : Addressed}
    (hu : units[i]? = some u) :
    unitsDownTo u.address units =
      (units.take i).filter (fun a => a.Encloses u.address) ++ [u] := by
  have haround : unitsDownTo u.address (units.take i) =
      (units.take i).filter fun a => a.Encloses u.address := by
    apply List.filter_congr
    intro a ha
    rw [decide_eq_decide]
    exact prefix_iff_of_mem_take hunits hu ha
  have hbehind : unitsDownTo u.address (units.drop (i + 1)) = [] := by
    rw [unitsDownTo, List.filter_eq_nil_iff]
    intro a ha
    simpa using not_prefix_of_mem_drop hunits hu (Nat.lt_succ_self i) ha
  obtain ⟨hlt, hget⟩ := List.getElem?_eq_some_iff.1 hu
  have hsplit : units = units.take i ++ u :: units.drop (i + 1) := by
    rw [← hget, ← List.drop_eq_getElem_cons hlt, List.take_append_drop]
  calc unitsDownTo u.address units
      = unitsDownTo u.address (units.take i) ++
        u :: unitsDownTo u.address (units.drop (i + 1)) := by
        conv_lhs => rw [hsplit, unitsDownTo, List.filter_append,
          List.filter_cons_of_pos (by simp)]
        rfl
    _ = _ := by rw [haround, hbehind]

theorem unitsDownTo_of_outermost (hunits : units.Pairwise Addressed.ComesBefore) {u : Addressed}
    (hu : units[i]? = some u) (h : innermost? u.address units = none) :
    unitsDownTo u.address units = [u] := by
  have hnone : (units.take i).filter (fun a => a.Encloses u.address) = [] := by
    rw [List.filter_eq_nil_iff]
    intro a ha
    simpa using innermost?_eq_none_iff.1 h a (List.mem_of_mem_take ha)
  rw [unitsDownTo_eq hunits hu, hnone, List.nil_append]

theorem unitsDownTo_of_innermost (hunits : units.Pairwise Addressed.ComesBefore)
    {u : Addressed} {p : Nat} (hu : units[i]? = some u)
    (h : innermost? u.address units = some p) :
    ∃ v, units[p]? = some v ∧ unitsDownTo u.address units =
      unitsDownTo v.address units ++ [u] := by
  obtain ⟨v, hv, henc, hinner⟩ := isInnermost_of_innermost? hunits h
  have hp := lt_of_innermost? hunits hu h
  refine ⟨v, hv, ?_⟩
  have hbehind : unitsDownTo v.address (units.drop i) = [] := by
    rw [unitsDownTo, List.filter_eq_nil_iff]
    intro a ha
    simpa using not_prefix_of_mem_drop hunits hv hp ha
  have haround : unitsDownTo v.address (units.take i) =
      (units.take i).filter fun a => a.Encloses u.address := by
    apply List.filter_congr
    intro a ha
    rw [decide_eq_decide, ← prefix_iff_of_mem_take hunits hu ha]
    refine ⟨fun h => h.trans henc.1, fun h => ?_⟩
    exact hinner a (List.mem_of_mem_take ha) ((prefix_iff_of_mem_take hunits hu ha).1 h)
  have hdown : unitsDownTo v.address units = unitsDownTo v.address (units.take i) := by
    conv_lhs => rw [← List.take_append_drop i units, unitsDownTo, List.filter_append]
    rw [unitsDownTo] at hbehind
    rw [hbehind, List.append_nil, unitsDownTo]
  rw [unitsDownTo_eq hunits hu, hdown, haround]

/--
Where each unit has a symbol that knows the innermost unit around it, the lineage of a symbol
holds those of the units on the way down, the outermost first.
-/
theorem lineage_eq_unitsDownTo {α : Type} {parent : α → Option Nat} {symbol : Addressed → α}
    (hunits : units.Pairwise Addressed.ComesBefore)
    (hparent : ∀ u ∈ units, parent (symbol u) = innermost? u.address units) {fuel : Nat}
    {u : Addressed} (hu : units[i]? = some u) (hfuel : i < fuel) :
    lineage (units.map symbol) parent fuel i = (unitsDownTo u.address units).map symbol := by
  induction fuel generalizing i u with
  | zero => omega
  | succ fuel ih =>
    have hmember : (units.map symbol)[i]? = some (symbol u) := by
      rw [List.getElem?_map, hu, Option.map_some]
    rw [lineage, hmember]
    dsimp only
    rw [hparent u (List.mem_of_getElem? hu)]
    cases h : innermost? u.address units with
    | none => rw [unitsDownTo_of_outermost hunits hu h, List.map_singleton]
    | some p =>
      obtain ⟨v, hv, hdown⟩ := unitsDownTo_of_innermost hunits hu h
      have hp := lt_of_innermost? hunits hu h
      dsimp only
      rw [ih hv (by omega), hdown, List.map_append, List.map_singleton]

end

namespace Node

def addressed (root : Node) : List Addressed :=
  root.toElement.addressed []

/-- The program units of a tree at their addresses, in the order of a walk. -/
def units (root : Node) : List Addressed :=
  unitsAmong root.addressed

def owner? (root : Node) (address : List Nat) : Option Nat :=
  innermost? address root.units

variable (root : Node)

theorem map_addressed : root.addressed.map (fun a => (a.node, a.address.length)) =
    root.walk := by
  rw [addressed, Element.map_addressed, toElement, Element.walk]
  rfl

theorem pairwise_units : root.units.Pairwise Addressed.ComesBefore := by
  unfold units unitsAmong
  exact (Element.pairwise_addressed [] root.toElement).filter _

theorem owned_eq_addressed :
    root.owned = root.addressed.map fun a => (a.node, root.owner? a.address) := by
  rw [owned, Element.owned_eq_addressed none 0 []]
  apply List.map_congr_left
  intro a _
  rw [ownerFrom, Option.or_none, owner?]
  simp only [Nat.zero_add, Option.map_id']
  rfl

theorem filter_owned_eq (kind : NodeKind) :
    root.owned.filter (·.1.kind == kind) =
      (root.addressed.filter (·.node.kind == kind)).map fun a =>
        (a.node, root.owner? a.address) := by
  rw [owned_eq_addressed, List.filter_map]
  rfl

end Node

theorem labelsAfter_eq_map (program previousLine : Option Nat) (tokens : List Token) :
    labelsAfter program previousLine tokens =
      (labelsAfter none previousLine tokens).map fun l => { l with program } := by
  induction tokens generalizing previousLine with
  | nil => rfl
  | cons t tokens ih =>
    rw [labelsAfter, labelsAfter, ih]
    split
    · split <;> rfl
    · rfl

theorem labels_eq_map (program : Option Nat) (tokens : List Token) :
    labels program tokens = (labels none tokens).map fun l => { l with program } :=
  labelsAfter_eq_map program none _

/-- What a data item is called, where its name stands and which program it belongs to. -/
def DataItem.ownership (d : DataItem) : String × Range × Option Nat :=
  (d.name, d.range, d.program)

theorem map_ownership_heldItems (program : Option Nat) (number : Nat)
    (earlier : List (Nat × Nat)) (entries : List DataEntry) :
    (heldItems program number earlier entries).map DataItem.ownership =
      entries.map fun e => (e.name.lexeme, e.name.range, program) := by
  induction entries generalizing number earlier with
  | nil => rfl
  | cons e entries ih =>
    rw [heldItems, List.map_cons, List.map_cons, ih]
    rfl

theorem map_ownership_addDivision (items : List DataItem) (v : Node × Option Nat) :
    (addDivision items v).map DataItem.ownership = items.map DataItem.ownership ++
      (dataEntries v.1.leaves).map fun e => (e.name.lexeme, e.name.range, v.2) := by
  have hbare (items : List DataItem) :
      items.map DataItem.ownership = (items.map DataItem.bare).map DataItem.ownership := by
    rw [List.map_map]
    rfl
  rw [hbare, addDivision, map_bare_addDataEntries, List.map_append, ← hbare,
    map_ownership_heldItems]

theorem map_ownership_foldl_addDivision (items : List DataItem)
    (visited : List (Node × Option Nat)) :
    (visited.foldl addDivision items).map DataItem.ownership = items.map DataItem.ownership ++
      visited.flatMap fun v => (dataEntries v.1.leaves).map fun e =>
        (e.name.lexeme, e.name.range, v.2) := by
  induction visited generalizing items with
  | nil => simp
  | cons v visited ih =>
    rw [List.foldl_cons, ih, map_ownership_addDivision, List.flatMap_cons, List.append_assoc]

/--
Symbols belong to the nearest program around them. The programs of the index are those of the
units of the tree, in the order of a walk; the parent of each, and the program of what a
division declares, is the number of the innermost unit around it; and the lineage of a program
leads down to it from the outermost unit, however many steps it is given.
-/
theorem programs_ownership (root : Node) :
    let index := SymbolIndex.ofTree root
    let symbol := fun u : Addressed => ProgramSymbol.ofUnit u.node (root.owner? u.address)
    root.addressed.map (fun a => (a.node, a.address.length)) = root.walk ∧
    root.units.map Addressed.node = (root.walk.map Prod.fst).filter (·.kind == .programUnit) ∧
    index.programs = root.units.map symbol ∧
    (∀ address i, root.owner? address = some i ↔ IsInnermost root.units address i) ∧
    (∀ i symbol, index.programs[i]? = some symbol →
      ∀ parent ∈ ProgramSymbol.parent symbol, parent < i) ∧
    index.labels = (root.addressed.filter (·.node.kind == .procedureDivision)).flatMap (fun a =>
      (labels none a.node.leaves).map fun l => { l with program := root.owner? a.address }) ∧
    index.dataItems.map DataItem.ownership =
      (root.addressed.filter (·.node.kind == .dataDivision)).flatMap (fun a =>
        (dataEntries a.node.leaves).map fun e =>
          (e.name.lexeme, e.name.range, root.owner? a.address)) ∧
    ∀ i u, root.units[i]? = some u →
      index.programLineage i = (unitsDownTo u.address root.units).map symbol ∧
        ∀ fuel > i, lineage index.programs ProgramSymbol.parent fuel i =
          index.programLineage i := by
  intro index symbol
  have hunits := root.pairwise_units
  have hprograms : index.programs = root.units.map symbol := by
    rw [SymbolIndex.programs_ofTree, root.filter_owned_eq, List.map_map]
    rfl
  have hlineage {fuel i : Nat} {u : Addressed} (hu : root.units[i]? = some u)
      (hfuel : i < fuel) :
      lineage index.programs ProgramSymbol.parent fuel i =
        (unitsDownTo u.address root.units).map symbol := by
    rw [hprograms]
    exact lineage_eq_unitsDownTo hunits (fun _ _ => rfl) hu hfuel
  refine ⟨root.map_addressed, ?_, hprograms, fun _ _ => innermost?_eq_some_iff hunits,
    ?_, ?_, ?_, ?_⟩
  · rw [root.filter_walk_eq, root.filter_owned_eq, List.map_map]
    rfl
  · intro i p hp parent hparent
    rw [hprograms, List.getElem?_map, Option.map_eq_some_iff] at hp
    obtain ⟨u, hu, rfl⟩ := hp
    exact lt_of_innermost? hunits hu hparent
  · rw [SymbolIndex.labels_ofTree, root.filter_owned_eq, List.flatMap_map]
    simp only [labels_eq_map (root.owner? _)]
  · rw [SymbolIndex.dataItems_ofTree, map_ownership_foldl_addDivision, root.filter_owned_eq,
      List.flatMap_map]
    rfl
  · intro i u hu
    have hwhole : index.programLineage i = _ := hlineage hu (Nat.lt_succ_self i)
    exact ⟨hwhole, fun fuel hfuel => (hlineage hu hfuel).trans hwhole.symm⟩

end CobolCompanion
