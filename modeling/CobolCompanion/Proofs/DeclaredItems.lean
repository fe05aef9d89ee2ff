import CobolCompanion.Proofs.DataHierarchy
import CobolCompanion.Proofs.TextOrder
import Mathlib.Data.List.Flatten

namespace CobolCompanion

theorem flatten_splitOnP {α : Type} (p : α → Bool) (l : List α) :
    (l.splitOnP p).flatten = l.filter (!p ·) := by
  induction l with
  | nil => rfl
  | cons a l ih =>
    rw [List.splitOnP_cons_eq_if_modifyHead]
    by_cases ha : p a
    · simp [ha, ih]
    · cases hrest : l.splitOnP p with
      | nil => exact absurd hrest (List.splitOnP_ne_nil p l)
      | cons first rest =>
        rw [hrest] at ih
        simp [ha, ← ih]

theorem Node.flatten_declarations_sublist (n : Node) :
    n.declarations.flatten.Sublist n.leaves := by
  have hall : ((n.leaves.splitOnP Token.isTerminator).flatten).Sublist n.leaves := by
    rw [flatten_splitOnP]
    exact List.filter_sublist
  exact (List.Sublist.flatten List.filter_sublist).trans hall

section
variable {α β γ : Type} {R : α → β → Prop}

theorem exists_of_mem_forall₂ {as : List α} {bs : List β} (h : List.Forall₂ R as bs) {b : β}
    (hb : b ∈ bs) :
    ∃ a ∈ as, R a b := by
  induction h with
  | nil => cases hb
  | cons hab h ih =>
    rcases List.mem_cons.1 hb with rfl | hb
    · exact ⟨_, List.mem_cons_self, hab⟩
    · obtain ⟨a, ha, hR⟩ := ih hb
      exact ⟨a, List.mem_cons_of_mem _ ha, hR⟩

theorem exists_batches_of_forall₂ {f : γ → List α} {cs : List γ} {bs : List β}
    (h : List.Forall₂ R (cs.flatMap f) bs) :
    ∃ batches : List (List β), bs = batches.flatten ∧
      List.Forall₂ (fun c batch => List.Forall₂ R (f c) batch) cs batches := by
  induction cs generalizing bs with
  | nil =>
    rw [List.flatMap_nil, List.forall₂_nil_left_iff] at h
    exact ⟨[], h, .nil⟩
  | cons c cs ih =>
    rw [List.flatMap_cons] at h
    have hfirst := List.forall₂_take (f c).length h
    have hrest := List.forall₂_drop (f c).length h
    rw [List.take_left] at hfirst
    rw [List.drop_left] at hrest
    obtain ⟨batches, hbatches, hR⟩ := ih hrest
    refine ⟨bs.take (f c).length :: batches, ?_, .cons hfirst hR⟩
    rw [List.flatten_cons, ← hbatches, List.take_append_drop]

theorem length_flatten_of_forall₂ {f : γ → List α} {cs : List γ} {batches : List (List β)}
    (h : List.Forall₂ (fun c batch => List.Forall₂ R (f c) batch) cs batches) :
    batches.flatten.length = (cs.flatMap f).length := by
  induction h with
  | nil => rfl
  | cons hc h ih =>
    rw [List.flatten_cons, List.flatMap_cons, List.length_append, List.length_append,
      ih, hc.length_eq]

end

theorem exists_mem_of_holder? {level p : Nat} {earlier : List (Nat × Nat)}
    (h : holder? level earlier = some p) : ∃ e ∈ earlier, e.2 = p := by
  unfold holder? at h
  split at h
  · cases h
  split at h
  · obtain ⟨e, he, rfl⟩ := Option.map_eq_some_iff.1 h
    exact ⟨e, List.mem_of_find?_eq_some he, rfl⟩
  · obtain ⟨e, he, rfl⟩ := Option.map_eq_some_iff.1 h
    exact ⟨e, (List.takeWhile_sublist _).subset (List.mem_of_find?_eq_some he), rfl⟩

theorem le_parent_of_heldItems {program : Option Nat} {number k p : Nat}
    {entries : List DataEntry} {d : DataItem}
    (hd : (heldItems program number [] entries)[k]? = some d) (hp : d.parent = some p) :
    number ≤ p := by
  rw [getElem?_heldItems, Option.map_eq_some_iff] at hd
  obtain ⟨e, -, rfl⟩ := hd
  obtain ⟨holder, hholder, rfl⟩ := exists_mem_of_holder? hp
  rw [List.append_nil, List.mem_reverse] at hholder
  exact (List.mem_zipIdx (List.mem_of_mem_take hholder)).1

theorem le_parent_of_foldl_addDivision (divisions : List (Node × Option Nat))
    {items : List DataItem} {i p : Nat} (hi : items.length ≤ i)
    (hp : parentOf? (divisions.foldl addDivision items) i = some p) :
    items.length ≤ p := by
  induction divisions generalizing items with
  | nil =>
    have hlt := lt_length_of_parentOf? hp
    rw [List.foldl_nil] at hlt
    omega
  | cons v divisions ih =>
    rw [List.foldl_cons] at hp
    have hbare : (addDivision items v).map DataItem.bare =
        items.map DataItem.bare ++ heldItems v.2 items.length [] (dataEntries v.1.leaves) :=
      map_bare_addDataEntries v.2 items v.1.leaves
    have hlength := congrArg List.length hbare
    rw [List.length_map, List.length_append, List.length_map] at hlength
    rcases Nat.lt_or_ge i (addDivision items v).length with hlt | hge
    · obtain ⟨rest, hrest⟩ := map_bare_prefix_foldl_addDivision divisions (addDivision items v)
      rw [← parentOf?_map_bare, parentOf?, ← hrest,
        List.getElem?_append_left (by simpa using hlt), hbare,
        List.getElem?_append_right (by simpa using hi), Option.bind_eq_some_iff] at hp
      obtain ⟨d, hd, hp⟩ := hp
      exact le_parent_of_heldItems hd hp
    · have hle := ih hge hp
      omega

/-- The items of an index in batches, one for each data division, in the order of a walk. -/
structure Batches (root : Node) (batches : List (List DataItem)) : Prop where
  items : (SymbolIndex.ofTree root).dataItems = batches.flatten
  declared : List.Forall₂ (fun n batch => List.Forall₂ (fun sentence d => d.DeclaredBy sentence)
    n.declarations batch) ((root.walk.map Prod.fst).filter (·.kind == .dataDivision)) batches
  apart : ∀ earlier later, batches = earlier ++ later → ∀ {i p}, earlier.flatten.length ≤ i →
    parentOf? (SymbolIndex.ofTree root).dataItems i = some p → earlier.flatten.length ≤ p

theorem exists_batches (root : Node) : ∃ batches, Batches root batches := by
  let visited := root.owned.filter (·.1.kind == .dataDivision)
  have hdivisions := root.filter_walk_eq .dataDivision
  have hitems : (SymbolIndex.ofTree root).dataItems = visited.foldl addDivision [] :=
    SymbolIndex.dataItems_ofTree root
  obtain ⟨batches, hbatches, hdeclared⟩ :=
    exists_batches_of_forall₂ (forall₂_foldl_addDivision visited .nil)
  refine ⟨batches, hitems.trans hbatches, hdivisions ▸ hdeclared, ?_⟩
  intro earlier later hsplit i p hi hp
  have hearlier := List.forall₂_take earlier.length hdeclared
  rw [hsplit, List.take_left, ← List.map_take] at hearlier
  have hlength : earlier.flatten.length =
      ((visited.take earlier.length).foldl addDivision []).length := by
    rw [length_flatten_of_forall₂ hearlier]
    exact (forall₂_foldl_addDivision _ .nil).length_eq
  rw [hlength] at hi ⊢
  rw [hitems, ← List.take_append_drop earlier.length visited, List.foldl_append] at hp
  exact le_parent_of_foldl_addDivision _ hi hp

namespace DataItem.DeclaredBy

variable {d : DataItem} {sentence : List Token} {tokens : List Token}

theorem exists_name (h : d.DeclaredBy sentence) : ∃ t ∈ sentence, d.range = t.range := by
  obtain ⟨level, name, rest, htokens, -, -, -, hrange, -⟩ := h
  refine ⟨name, ?_, hrange⟩
  have hname : name ∈ sentence.filter Token.isSignificant := by simp [htokens]
  exact (List.mem_filter.1 hname).1

theorem exists_extent (h : d.DeclaredBy sentence) :
    ∃ parts : List Token, parts.Sublist sentence ∧
      Range.boundingBox (parts.map Token.range) = some d.extent ∧
      d.range ∈ parts.map Token.range := by
  obtain ⟨level, name, rest, htokens, -, -, -, hrange, hextent, -⟩ := h
  exact ⟨level :: name :: rest, htokens ▸ List.filter_sublist, hextent, by simp [hrange]⟩

theorem covers_range (h : d.DeclaredBy sentence)
    (hordered : Range.Ordered (sentence.map Token.range)) :
    d.extent.Covers d.range := by
  obtain ⟨parts, hparts, hextent, hrange⟩ := h.exists_extent
  exact (hordered.sublist (hparts.map Token.range)).covers_of_mem hextent hrange

end DataItem.DeclaredBy

end CobolCompanion
