import CobolCompanion.Proofs.ItemForest
import CobolCompanion.Proofs.OutlineRanges

namespace CobolCompanion

open Parse

def Range.LiesIn (r : Range) (n : Node) : Prop :=
  ∃ parts : List Token, parts.Sublist n.leaves ∧
    Range.boundingBox (parts.map Token.range) = some r

theorem Token.liesIn {t : Token} {n : Node} (h : t ∈ n.leaves) : t.range.LiesIn n :=
  ⟨[t], List.singleton_sublist.2 h, rfl⟩

/-- The tokens of a node come before those of another, among the tokens of a tree. -/
def Node.Before (root m n : Node) : Prop :=
  (m.leaves ++ n.leaves).Sublist root.leaves

theorem pairwise_of_flatMap_sublist {α β : Type} {f : α → List β} {l : List α} {tokens : List β}
    (h : (l.flatMap f).Sublist tokens) : l.Pairwise fun a b => (f a ++ f b).Sublist tokens := by
  induction l with
  | nil => exact .nil
  | cons a l ih =>
    rw [List.flatMap_cons] at h
    refine List.pairwise_cons.2 ⟨?_, ih ((List.sublist_append_right _ _).trans h)⟩
    intro b hb
    have hpart : (f b).Sublist (l.flatMap f) :=
      List.sublist_flatten_of_mem (List.mem_map_of_mem hb)
    exact (hpart.append_left (f a)).trans h

namespace Node.Textual

variable {root m n : Node} {r x : Range}

theorem within_of_liesIn (h : root.Textual) (hn : n ∈ Element.nodesAll root.children)
    (hr : n.range? = some r) (hx : x.LiesIn n) : x.within r := by
  obtain ⟨parts, hparts, hbox⟩ := hx
  exact ((h.ordered_of_mem hn).covers_boundingBox (hparts.map _) hr hbox).within

theorem not_within_of_before (h : root.Textual) (hbefore : root.Before m n ∨ root.Before n m)
    (hr : n.range? = some r) (hx : x.LiesIn m) : x.within r = false := by
  obtain ⟨parts, hparts, hbox⟩ := hx
  rcases hbefore with hbefore | hbefore
  · have hordered :=
      h.ordered.sublist (((hparts.append_right n.leaves).trans hbefore).map Token.range)
    rw [List.map_append] at hordered
    have hsolid := (hordered.sublist (List.sublist_append_left _ _)).solid_boundingBox hbox
    exact (hordered.precedes_boundingBox hbox hr).not_within hsolid
  · have hordered :=
      h.ordered.sublist (((hparts.append_left n.leaves).trans hbefore).map Token.range)
    rw [List.map_append] at hordered
    have hsolid := (hordered.sublist (List.sublist_append_right _ _)).solid_boundingBox hbox
    exact (hordered.precedes_boundingBox hr hbox).not_within_of_solid hsolid

theorem start_ne_of_before (h : root.Textual)
    (hbefore : root.Before m n ∨ root.Before n m) {t u : Token}
    (ht : t ∈ m.leaves) (hu : u ∈ n.leaves) : t.range.span.start ≠ u.range.span.start := by
  have hlt {m n : Node} (hbefore : root.Before m n) {t u : Token} (ht : t ∈ m.leaves)
      (hu : u ∈ n.leaves) :
      t.range.span.start < u.range.span.start := by
    have hordered := h.ordered.sublist (hbefore.map Token.range)
    rw [List.map_append] at hordered
    have hprecedes :=
      (List.pairwise_append.1 hordered.pairwise).2.2 t.range (List.mem_map_of_mem ht)
      u.range (List.mem_map_of_mem hu)
    exact hprecedes.span_start_lt
      (hordered.solid _ (List.mem_append_left _ (List.mem_map_of_mem ht)))
  rcases hbefore with hbefore | hbefore
  · exact Nat.ne_of_lt (hlt hbefore ht hu)
  · exact Nat.ne_of_gt (hlt hbefore hu ht)

theorem sightings_eq (h : root.Textual) :
    root.sightings = (root, false) :: Element.sightingsAll false root.children := by
  rw [sightings, toElement, Element.sightings_of_placed (by simp [h.kind])]

theorem mem_nodesAll_of_mem_sightings (h : root.Textual) {w : Node × Bool}
    (hw : w ∈ root.sightings) (hkind : w.1.kind ≠ .sourceUnit) :
    w.1 ∈ Element.nodesAll root.children := by
  have hmem : w.1 ∈ root.toElement.nodes := by
    rw [← map_fst_sightings]
    exact List.mem_map_of_mem hw
  rcases mem_nodes_toElement.1 hmem with hroot | hmem
  · rw [hroot] at hkind
    exact absurd h.kind hkind
  · exact hmem

theorem pairwise_divisions (h : root.Textual) :
    (root.sightings.filter (·.1.kind.isDivision)).Pairwise fun v w => root.Before v.1 w.1 := by
  have hsublist := Element.flatMap_divisionLeaves_nodesAll h.proper
  rw [← Element.map_fst_sightingsAll false, List.flatMap_map] at hsublist
  rw [h.sightings_eq, List.filter_cons_of_neg (by simp [h.kind, NodeKind.isDivision])]
  refine ((pairwise_of_flatMap_sublist hsublist).filter _).imp_of_mem ?_
  intro v w hv hw hbefore
  rwa [divisionLeaves, if_pos (List.mem_filter.1 hv).2, divisionLeaves,
    if_pos (List.mem_filter.1 hw).2]
    at hbefore

end Node.Textual

/--
The divisions of a kind in a tree, in the order of a walk, each with what was indexed from it.
Everything lies in its division, and what is selected for it are tokens of the division, in
their order.
-/
structure Catalogue {α : Type} (root : Node) (kind : NodeKind) (extent : α → Range)
    (key : α → Range × Option String) (entries : List ((Node × Bool) × List α)) : Prop where
  divisions : entries.map Prod.fst = root.sightings.filter (·.1.kind == kind)
  placed : ∀ v ∈ entries, ∀ x ∈ v.2, (extent x).LiesIn v.1.1
  selected : ∀ v ∈ entries, (v.2.map fun x => (key x).1).Sublist (v.1.1.leaves.map Token.range)

namespace Catalogue

variable {α : Type} {root n : Node} {kind : NodeKind} {extent : α → Range}
  {key : α → Range × Option String}
  {entries before after : List ((Node × Bool) × List α)}
    {v : (Node × Bool) × List α} {r : Range}

theorem mem_nodesAll (hc : Catalogue root kind extent key entries) (h : root.Textual)
    (hkind : kind.isDivision) (hv : v ∈ entries) :
    v.1 ∈ root.sightings ∧ v.1.1 ∈ Element.nodesAll root.children ∧ v.1.1.kind = kind := by
  have hmem : v.1 ∈ root.sightings.filter (·.1.kind == kind) := by
    rw [← hc.divisions]
    exact List.mem_map_of_mem hv
  rw [List.mem_filter, beq_iff_eq] at hmem
  refine ⟨hmem.1, h.mem_nodesAll_of_mem_sightings hmem.1 ?_, hmem.2⟩
  rw [hmem.2]
  rintro rfl
  cases hkind

theorem pairwise (hc : Catalogue root kind extent key entries) (h : root.Textual)
    (hkind : kind.isDivision) : entries.Pairwise fun v w => root.Before v.1.1 w.1.1 := by
  have hsublist : (root.sightings.filter (·.1.kind == kind)).Sublist
      (root.sightings.filter (·.1.kind.isDivision)) := by
    apply List.monotone_filter_right
    intro v hv
    rw [beq_iff_eq] at hv
    rwa [hv]
  have hpairwise := h.pairwise_divisions.sublist hsublist
  rw [← hc.divisions, List.pairwise_map] at hpairwise
  exact hpairwise

/-- What lies in the range of a division is what was indexed from it. -/
theorem filter_within (hc : Catalogue root kind extent key (before ++ v :: after))
    (h : root.Textual) (hkind : kind.isDivision) (hr : v.1.1.range? = some r) :
    ((before ++ v :: after).flatMap Prod.snd).filter (fun x => (extent x).within r) = v.2 := by
  have hpairwise := hc.pairwise h hkind
  -- What was indexed from another division lies before this one or behind it.
  have hnone (entries : List ((Node × Bool) × List α))
      (hplaced : ∀ w ∈ entries, ∀ x ∈ w.2, (extent x).LiesIn w.1.1)
      (hapart : ∀ w ∈ entries, root.Before w.1.1 v.1.1 ∨ root.Before v.1.1 w.1.1) :
      (entries.flatMap Prod.snd).filter (fun x => (extent x).within r) = [] := by
    rw [List.filter_eq_nil_iff]
    intro x hx
    obtain ⟨w, hw, hx⟩ := List.mem_flatMap.1 hx
    simp [h.not_within_of_before (hapart w hw) hr (hplaced w hw x hx)]
  have hown : v.2.filter (fun x => (extent x).within r) = v.2 := by
    rw [List.filter_eq_self]
    intro x hx
    have hv : v ∈ before ++ v :: after := by simp
    exact h.within_of_liesIn (hc.mem_nodesAll h hkind hv).2.1 hr (hc.placed v hv x hx)
  obtain ⟨-, hbehind, hbefore⟩ := List.pairwise_append.1 hpairwise
  rw [List.flatMap_append, List.flatMap_cons, List.filter_append, List.filter_append, hown,
    hnone before (fun w hw => hc.placed w (by simp [hw]))
      (fun w hw => .inl (hbefore w hw v List.mem_cons_self)),
    hnone after (fun w hw => hc.placed w (by simp [hw]))
      (fun w hw => .inr ((List.pairwise_cons.1 hbehind).1 w hw)), List.nil_append,
      List.append_nil]

theorem exists_mem (hc : Catalogue root kind extent key entries)
    (hn : n ∈ Element.nodesAll root.children) (hkind : n.kind = kind) :
    ∃ v ∈ entries, v.1.1 = n := by
  have hmem : n ∈ root.sightings.map Prod.fst := by
    rw [Node.map_fst_sightings, Node.mem_nodes_toElement]
    exact .inr hn
  obtain ⟨w, hw, rfl⟩ := List.mem_map.1 hmem
  have hdivision : w ∈ entries.map Prod.fst := by
    rw [hc.divisions, List.mem_filter, beq_iff_eq]
    exact ⟨hw, hkind⟩
  obtain ⟨v, hv, rfl⟩ := List.mem_map.1 hdivision
  exact ⟨v, hv, rfl⟩

theorem selection_sublist (hc : Catalogue root kind extent key entries) (hv : v ∈ entries)
    {symbols : List OutlineSymbol} (hkeys : symbols.map OutlineSymbol.key = v.2.map key) :
    (symbols.map OutlineSymbol.selection).Sublist (v.1.1.leaves.map Token.range) := by
  have hselection : symbols.map OutlineSymbol.selection =
      (symbols.map OutlineSymbol.key).map Prod.fst := by
    rw [List.map_map]
    rfl
  rw [hselection, hkeys, List.map_map]
  exact hc.selected v hv

end Catalogue

theorem exists_entries {α : Type} {R : Node → List α → Prop} {root : Node} {kind : NodeKind}
    {batches : List (List α)}
    (h : List.Forall₂ R ((root.walk.map Prod.fst).filter (·.kind == kind)) batches) :
    ∃ entries : List ((Node × Bool) × List α),
      entries.map Prod.fst = root.sightings.filter (·.1.kind == kind) ∧
      entries.map Prod.snd = batches ∧ ∀ v ∈ entries, R v.1.1 v.2 := by
  have hnodes : (root.walk.map Prod.fst).filter (·.kind == kind) =
      (root.sightings.filter (·.1.kind == kind)).map Prod.fst := by
    rw [Node.map_fst_walk_eq_nodes, ← Node.map_fst_sightings, List.filter_map]
    rfl
  rw [hnodes, List.forall₂_map_left_iff] at h
  refine ⟨(root.sightings.filter (·.1.kind == kind)).zip batches, ?_, ?_, ?_⟩
  · exact List.map_fst_zip (Nat.le_of_eq h.length_eq)
  · exact List.map_snd_zip (Nat.le_of_eq h.length_eq.symm)
  · intro v hv
    exact List.forall₂_zip h hv

theorem map_range_sublist_of_declared {sentences : List (List Token)} {batch : List DataItem}
    (h : List.Forall₂ (fun sentence d => d.DeclaredBy sentence) sentences batch) :
    (batch.map DataItem.range).Sublist (sentences.flatten.map Token.range) := by
  induction h with
  | nil => exact .refl _
  | @cons sentence d sentences batch hd h ih =>
    rw [List.map_cons, List.flatten_cons, List.map_append]
    obtain ⟨t, ht, hrange⟩ := hd.exists_name
    have hname : [d.range].Sublist (sentence.map Token.range) := by
      rw [hrange]
      exact List.singleton_sublist.2 (List.mem_map_of_mem ht)
    exact hname.append ih

theorem exists_items (root : Node) :
    ∃ entries, Batches root (entries.map Prod.snd) ∧
      Catalogue root .dataDivision DataItem.extent DataItem.key entries ∧
      ∀ v ∈ entries, List.Forall₂ (fun sentence d => d.DeclaredBy sentence)
        v.1.1.declarations v.2 := by
  obtain ⟨batches, hbatches⟩ := exists_batches root
  obtain ⟨entries, hdivisions, rfl, hdeclared⟩ := exists_entries hbatches.declared
  refine ⟨entries, hbatches, ⟨hdivisions, ?_, ?_⟩, hdeclared⟩
  · intro v hv d hd
    obtain ⟨sentence, hsentence, hd⟩ := exists_of_mem_forall₂ (hdeclared v hv) hd
    obtain ⟨parts, hparts, hextent, -⟩ := hd.exists_extent
    have hleaves :=
      (List.sublist_flatten_of_mem hsentence).trans v.1.1.flatten_declarations_sublist
    exact ⟨parts, hparts.trans hleaves, hextent⟩
  · intro v hv
    exact (map_range_sublist_of_declared (hdeclared v hv)).trans
      (v.1.1.flatten_declarations_sublist.map Token.range)

theorem map_range_labelsAfter_sublist (program previousLine : Option Nat)
    (tokens : List Token) :
    ((labelsAfter program previousLine tokens).map LabelSymbol.range).Sublist
      (tokens.map Token.range) := by
  induction tokens generalizing previousLine with
  | nil => exact .refl _
  | cons t tokens ih =>
    rw [labelsAfter, List.map_cons]
    have hrest := ih (some t.position.line)
    split
    · split
      · exact hrest.cons_cons t.range
      · exact hrest.cons t.range
    · exact hrest.cons t.range

theorem map_range_labels_sublist (program : Option Nat) (tokens : List Token) :
    ((labels program tokens).map LabelSymbol.range).Sublist (tokens.map Token.range) :=
  (map_range_labelsAfter_sublist program none _).trans (List.filter_sublist.map Token.range)

theorem exists_labels (root : Node) :
    ∃ entries : List ((Node × Bool) × List LabelSymbol),
      entries.flatMap Prod.snd = (SymbolIndex.ofTree root).labels ∧
      Catalogue root .procedureDivision LabelSymbol.range LabelSymbol.key entries ∧
      ∀ v ∈ entries, ∃ program, v.2 = labels program v.1.1.leaves := by
  let visited := root.owned.filter (·.1.kind == .procedureDivision)
  have hdivisions := root.filter_walk_eq .procedureDivision
  have hlabels : List.Forall₂ (fun n batch => ∃ program, batch = labels program n.leaves)
      ((root.walk.map Prod.fst).filter (·.kind == .procedureDivision))
      (visited.map fun v => labels v.2 v.1.leaves) := by
    rw [hdivisions, List.forall₂_map_left_iff, List.forall₂_map_right_iff, List.forall₂_same]
    intro v hv
    exact ⟨v.2, rfl⟩
  obtain ⟨entries, hentries, hbatches, hown⟩ := exists_entries hlabels
  have hsublist : ∀ v ∈ entries,
      (v.2.map LabelSymbol.range).Sublist (v.1.1.leaves.map Token.range) := by
    intro v hv
    obtain ⟨program, hlabels⟩ := hown v hv
    rw [hlabels]
    exact map_range_labels_sublist program _
  refine ⟨entries, ?_, ⟨hentries, ?_, hsublist⟩, hown⟩
  · rw [SymbolIndex.labels_ofTree, List.flatMap_def, hbatches, List.flatMap_def]
  · intro v hv l hl
    obtain ⟨t, ht, hrange⟩ := List.mem_map.1 ((hsublist v hv).subset (List.mem_map_of_mem hl))
    rw [← hrange]
    exact Token.liesIn ht

namespace Batches

variable {root : Node} {before after : List (List DataItem)} {batch : List DataItem}

theorem items_eq (h : Batches root (before ++ batch :: after)) :
    (SymbolIndex.ofTree root).dataItems = before.flatten ++ (batch ++ after.flatten) := by
  rw [h.items, List.flatten_append, List.flatten_cons]

/-- Nothing behind a batch belongs to an item of the batch. -/
theorem closed (h : Batches root (before ++ batch :: after)) :
    Linked.Closed (SymbolIndex.ofTree root).dataItems before.flatten.length batch.length := by
  intro c i hp hi hlt
  by_contra hge
  have hbehind := h.apart (before ++ [batch]) after (by simp) (i := c) (p := i)
  rw [List.flatten_append, List.length_append, List.flatten_singleton] at hbehind
  have hle := hbehind (Nat.le_of_not_lt hge) hp
  omega

/--
As nothing in a batch belongs to what comes before it, its outer items are those that belong to
none.
-/
theorem filterMap_outerItems (h : Batches root (before ++ batch :: after)) :
    (outerItems (SymbolIndex.ofTree root).dataItems before.flatten.length
      batch.length).filterMap
      ((SymbolIndex.ofTree root).dataItems[·]?) = batch.filter (·.parent.isNone) := by
  have hown {i p : Nat} (hi : before.flatten.length ≤ i)
      (hp : parentOf? (SymbolIndex.ofTree root).dataItems i = some p) :
        before.flatten.length ≤ p :=
    h.apart before (batch :: after) rfl hi hp
  rw [h.items_eq] at hown ⊢
  apply filterMap_filter_range'
  intro i d hi hlt hd
  have hparent : parentOf? (before.flatten ++ (batch ++ after.flatten)) i = d.parent := by
    rw [parentOf?, hd, Option.bind_some]
  cases hp : d.parent with
  | none => simp [isOuter, hparent, hp]
  | some p =>
    rw [isOuter_eq_false_iff.2 ⟨p, hparent.trans hp, hown hi (hparent.trans hp)⟩]
    rfl

theorem map_key_preorderAll (h : Batches root (before ++ batch :: after)) :
    let items := (SymbolIndex.ofTree root).dataItems
    (OutlineSymbol.preorderAll ((batch.filter (·.parent.isNone)).map
      (Outline.dataSymbol items items.length))).map OutlineSymbol.key =
        batch.map DataItem.key := by
  intro items
  have hlength : before.flatten.length + batch.length ≤ items.length := by
    change _ ≤ (SymbolIndex.ofTree root).dataItems.length
    rw [h.items_eq, List.length_append, List.length_append]
    omega
  have hbatch : (List.range' before.flatten.length batch.length).filterMap (items[·]?) =
      batch := by
    have hfilter := @filterMap_filter_range' _ before.flatten batch after.flatten
      (fun _ => true) (fun _ => true) (fun _ _ _ => rfl)
    rwa [← h.items_eq, List.filter_true, List.filter_true] at hfilter
  have hkeys := Outline.map_key_outerItems (linked_ofTree root) h.closed hlength
    (Nat.le_of_add_left_le hlength)
  rwa [h.filterMap_outerItems, hbatch] at hkeys

end Batches

theorem map_key_dataSymbols {root : Node} {r : Range} (h : root.Textual)
    {entries : List ((Node × Bool) × List DataItem)}
    (hbatches : Batches root (entries.map Prod.snd))
    (hc : Catalogue root .dataDivision DataItem.extent DataItem.key entries)
    {v : (Node × Bool) × List DataItem} (hv : v ∈ entries) (hr : v.1.1.range? = some r) :
    (OutlineSymbol.preorderAll (Outline.dataSymbols (SymbolIndex.ofTree root) r)).map
      OutlineSymbol.key =
      v.2.map DataItem.key := by
  obtain ⟨before, after, rfl⟩ := List.append_of_mem hv
  have hwithin := hc.filter_within h rfl hr
  rw [List.flatMap_def, ← hbatches.items] at hwithin
  have hlisted : (SymbolIndex.ofTree root).dataItems.filter
      (fun d => d.parent.isNone && d.extent.within r) = v.2.filter (·.parent.isNone) := by
    rw [← List.filter_filter, hwithin]
  rw [Outline.dataSymbols, hlisted]
  rw [List.map_append, List.map_cons] at hbatches
  exact hbatches.map_key_preorderAll

theorem labelSymbols_eq_map {root : Node} {r : Range} (h : root.Textual)
    {entries : List ((Node × Bool) × List LabelSymbol)}
    (hlabels : entries.flatMap Prod.snd = (SymbolIndex.ofTree root).labels)
    (hc : Catalogue root .procedureDivision LabelSymbol.range LabelSymbol.key entries)
    {v : (Node × Bool) × List LabelSymbol} (hv : v ∈ entries) (hr : v.1.1.range? = some r) :
    Outline.labelSymbols (SymbolIndex.ofTree root) r = v.2.map Outline.labelSymbol := by
  obtain ⟨before, after, rfl⟩ := List.append_of_mem hv
  rw [Outline.labelSymbols, ← hlabels, hc.filter_within h rfl hr]

theorem map_key_labelSymbol (labels : List LabelSymbol) :
    (labels.map Outline.labelSymbol).map OutlineSymbol.key = labels.map LabelSymbol.key := by
  rw [List.map_map]
  rfl

end CobolCompanion
