import CobolCompanion.Proofs.DivisionContents
import Mathlib.Data.List.Nodup

namespace CobolCompanion

open Parse OutlineSymbol

def OutlineSymbol.heads (s : OutlineSymbol) (kind : NodeKind) : Bool :=
  s.detail.isNone && s.name == kind.divisionName

theorem NodeKind.divisionName_inj {kind kind' : NodeKind} (h : kind.isDivision)
    (h' : kind'.isDivision) :
    kind.divisionName = kind'.divisionName ↔ kind = kind' := by
  cases kind <;> cases kind' <;> simp [NodeKind.isDivision, NodeKind.divisionName] at h h' ⊢

namespace Node.Textual

variable {root n : Node} {r : Range} {s : OutlineSymbol}

theorem selection_declared_sublist (h : root.Textual) (hn : n ∈ Element.nodesAll root.children)
    (hr : n.range? = some r) :
    ((preorderAll (Outline.declared (SymbolIndex.ofTree root) n.kind r)).map
      OutlineSymbol.selection).Sublist (n.leaves.map Token.range) := by
  unfold Outline.declared
  split
  · next hkind =>
    obtain ⟨entries, hbatches, hc, -⟩ := exists_items root
    obtain ⟨v, hv, rfl⟩ := hc.exists_mem hn hkind
    exact hc.selection_sublist hv (map_key_dataSymbols h hbatches hc hv hr)
  · next hkind =>
    obtain ⟨entries, hlabels, hc, -⟩ := exists_labels root
    obtain ⟨v, hv, rfl⟩ := hc.exists_mem hn hkind
    apply hc.selection_sublist hv
    rw [labelSymbols_eq_map h hlabels hc hv hr, Outline.preorderAll_map_labelSymbol,
      map_key_labelSymbol]
  · rw [preorderAll, List.map_nil]
    exact List.nil_sublist _

/--
What is selected for an entry begins with a token of a division, if the entry is not that of a
division: a division that declares it, or the identification division of a unit.
-/
theorem exists_start_of_mem_entriesOf (h : root.Textual)
    (hn : n ∈ Element.nodesAll root.children)
    (hs : s ∈ Outline.entriesOf (SymbolIndex.ofTree root) n) (hdetail : s.detail.isSome) :
    ∃ m ∈ Element.nodesAll root.children, m.kind.isDivision ∧
      (m = n ∨ m.kind = .identificationDivision) ∧
      ∃ t ∈ m.leaves, s.selection.span.start = t.range.span.start := by
  have hentry := Outline.entryOf_of_mem_entriesOf _ (h.proper n hn).known.2 hs
  cases hentry with
  | unit hunit hr =>
    obtain ⟨d, others, hchildren⟩ := h.founded n hn hunit
    obtain ⟨-, t, ht, hstart⟩ := h.exists_start_unitSelection hn hunit hchildren hr
    have hmem : d.node ∈ Element.nodesAll n.children := by
      simp [hchildren, Element.nodesAll, Node.mem_nodes_toElement]
    refine ⟨d.node, Element.mem_nodesAll_of_below hn hmem, rfl, .inr rfl, t, ?_, hstart⟩
    rwa [Identification.leaves_node]
  | division hdivision hr => cases hdetail
  | declared hdivision hr hs =>
    have hselection := (h.selection_declared_sublist hn hr).subset (List.mem_map_of_mem hs)
    obtain ⟨t, ht, hrange⟩ := List.mem_map.1 hselection
    exact ⟨n, hn, hdivision, .inl rfl, t, ht, by rw [hrange]⟩

theorem before_of_kind_ne (h : root.Textual) {m : Node}
    (hm : m ∈ Element.nodesAll root.children) (hn : n ∈ Element.nodesAll root.children)
    (hmkind : m.kind.isDivision) (hnkind : n.kind.isDivision) (hne : m.kind ≠ n.kind) :
    root.Before m n ∨ root.Before n m := by
  -- A division has no nodes in it, so none of the two is in the other one.
  have hown {m n : Node} (hm : m ∈ Element.nodesAll root.children) (hmkind : m.kind.isDivision)
      (hmem : n ∈ m.toElement.nodes) : n = m := by
    rw [mem_nodes_toElement, nodesAll_children_eq_nil ((h.proper m hm).division hmkind)] at hmem
    exact hmem.resolve_right List.not_mem_nil
  cases Element.settled_of_mem_nodesAll hm hn with
  | around hmem => exact absurd (by rw [hown hm hmkind hmem]) hne
  | inside hmem => exact absurd (by rw [hown hn hnkind hmem]) hne
  | before hbefore => exact .inl hbefore
  | behind hbehind => exact .inr hbehind

theorem before_of_split (h : root.Textual) {earlier later : List (Node × Bool)}
    {v w : Node × Bool} (hsplit : root.sightings = earlier ++ v :: later)
    (hw : w ∈ earlier ++ later) (hv : v.1.kind.isDivision) (hkind : w.1.kind.isDivision) :
    root.Before w.1 v.1 ∨ root.Before v.1 w.1 := by
  have hpairwise := List.pairwise_filter.1 h.pairwise_divisions
  rw [hsplit] at hpairwise
  obtain ⟨-, hbehind, hbefore⟩ := List.pairwise_append.1 hpairwise
  rcases List.mem_append.1 hw with hw | hw
  · exact .inl (hbefore w hw v List.mem_cons_self hkind hv)
  · exact .inr ((List.pairwise_cons.1 hbehind).1 w hw hv hkind)

theorem entriesOf_root (h : root.Textual) (index : SymbolIndex) :
    Outline.entriesOf index root = [] :=
  Outline.entriesOf_other (by simp [h.kind]) (by simp [h.kind, NodeKind.isDivision])
    (by simp [h.kind])

theorem preorderAll_outline (h : root.Textual) (index : SymbolIndex) :
    preorderAll (Outline.symbolsAmong index root.children) =
      (root.sightings.filter (!·.2)).flatMap fun v => Outline.entriesOf index v.1 := by
  rw [Outline.preorderAll_symbolsAmong index h.proper, h.sightings_eq,
    List.filter_cons_of_pos rfl, List.flatMap_cons, h.entriesOf_root, List.nil_append]

/--
What is selected for something that a division declares begins at no place at which something
that is selected for the entries of other nodes begins, the entries of divisions apart.
-/
theorem start_ne_of_mem_entriesOf (h : root.Textual) {earlier later : List (Node × Bool)}
    {v w : Node × Bool} (hsplit : root.sightings = earlier ++ v :: later)
    (hw : w ∈ earlier ++ later) (hdivision : v.1.kind.isDivision)
    (hkind : v.1.kind ≠ .identificationDivision) {t : Token} (ht : t ∈ v.1.leaves)
    (hs : s ∈ Outline.entriesOf (SymbolIndex.ofTree root) w.1)
    (hdetail : s.detail.isSome) : s.selection.span.start ≠ t.range.span.start := by
  have hsightings : v ∈ root.sightings ∧ w ∈ root.sightings := by
    rw [hsplit]
    exact ⟨by simp, ((List.sublist_cons_self v later).append_left earlier).subset hw⟩
  have hv : v.1 ∈ Element.nodesAll root.children := by
    apply h.mem_nodesAll_of_mem_sightings hsightings.1
    intro hroot
    rw [hroot] at hdivision
    cases hdivision
  have hn : w.1 ∈ Element.nodesAll root.children := by
    apply h.mem_nodesAll_of_mem_sightings hsightings.2
    intro hroot
    rw [Outline.entriesOf_other (by simp [hroot]) (by simp [hroot, NodeKind.isDivision])
      (by simp [hroot])] at hs
    cases hs
  obtain ⟨m, hm, hmkind, hown, u, hu, hstart⟩ := h.exists_start_of_mem_entriesOf hn hs hdetail
  rw [hstart]
  -- The token is in the other division itself, or in the identification division of a unit.
  rcases hown with rfl | hidentification
  · exact h.start_ne_of_before (h.before_of_split hsplit hw hdivision hmkind) hu ht
  · have hne : m.kind ≠ v.1.kind := by
      rw [hidentification]
      exact hkind.symm
    exact h.start_ne_of_before (h.before_of_kind_ne hm hv hmkind hdivision hne) hu ht

end Node.Textual

/--
The entries of divisions of a kind among those that a node adds: its own, if it is such a
division.
-/
theorem Outline.filter_heads_entriesOf {index : SymbolIndex} {n : Node} {kind : NodeKind}
    (hcustom : n.kind ≠ .custom) (hkind : kind.isDivision) :
    (entriesOf index n).filter (·.heads kind) =
      (if n.kind == kind then n.range?.map fun r => divisionSymbol n r (declared index kind r)
        else none).toList := by
  have hdeclared (range : Range) :
      (preorderAll (declared index n.kind range)).filter (·.heads kind) = [] := by
    rw [List.filter_eq_nil_iff]
    intro s hs
    have hdetail := isSome_detail_of_mem_declared hs
    simp [OutlineSymbol.heads, Option.isNone_eq_false_iff.2 hdetail]
  cases hrange : n.range? with
  | none => simp [entriesOf_of_empty hrange]
  | some range =>
    by_cases hunit : n.kind = .programUnit
    · have hne : n.kind ≠ kind := by
        rintro rfl
        rw [hunit] at hkind
        cases hkind
      simp [entriesOf_unit hunit hrange, OutlineSymbol.heads, hne]
    cases hdivision : n.kind.isDivision with
    | false =>
      have hne : n.kind ≠ kind := by
        rintro rfl
        simp [hkind] at hdivision
      simp [entriesOf_other hunit hdivision hcustom, hne]
    | true =>
      have hown : (divisionSymbol n range (declared index n.kind range)).heads kind =
          (n.kind == kind) := by
        simp [OutlineSymbol.heads, divisionSymbol, beq_eq_decide,
          ← NodeKind.divisionName_inj hdivision hkind]
      rw [entriesOf_division hdivision hrange, List.filter_cons, hdeclared, hown]
      cases heq : n.kind == kind with
      | false => rfl
      | true =>
        rw [beq_iff_eq.1 heq]
        rfl

theorem forall₂_filterMap {α β : Type} {R : α → β → Prop} {f : α → Option β} {l : List α}
    (h : ∀ a ∈ l, ∀ b, f a = some b → R a b) :
    List.Forall₂ R (l.filter fun a => (f a).isSome) (l.filterMap f) := by
  induction l with
  | nil => exact .nil
  | cons a l ih =>
    rw [List.forall_mem_cons] at h
    have hrest := ih h.2
    cases hf : f a with
    | none => simpa [hf] using hrest
    | some b => simpa [hf] using ⟨h.1 b hf, hrest⟩

/--
An outline shows what was indexed from the divisions of a kind, in the order of a walk. The
divisions outside of what was skipped have entries, unless they are empty, and below the entry
of a division comes what was indexed from it, in the same order. In the whole outline everything
has one entry that selects its name and shows its line, and none if its division was skipped.
-/
structure Shown {α : Type} (root : Node) (outline : List OutlineSymbol) (kind : NodeKind)
    (below : OutlineSymbol → List OutlineSymbol) (key : α → Range × Option String)
    (entries : List ((Node × Bool) × List α)) : Prop where
  divisions : entries.map Prod.fst = root.sightings.filter (·.1.kind == kind)
  listed : List.Forall₂
    (fun v s => v.1.1.range? = some s.range ∧ (below s).map OutlineSymbol.key = v.2.map key)
    (entries.filter fun v => v.1.1.range?.isSome && !v.1.2)
      ((preorderAll outline).filter (·.heads kind))
  once : ∀ v ∈ entries, ∀ x ∈ v.2,
    ((preorderAll outline).map OutlineSymbol.key).count (key x) = if v.1.2 then 0 else 1

namespace Catalogue

variable {α : Type} {root : Node} {kind : NodeKind} {extent : α → Range}
  {key : α → Range × Option String} {entries : List ((Node × Bool) × List α)}

theorem filter_heads (hc : Catalogue root kind extent key entries) (h : root.Textual)
    (hkind : kind.isDivision) (index : SymbolIndex) :
    (preorderAll (Outline.symbolsAmong index root.children)).filter (·.heads kind) =
      (entries.filter (!·.1.2)).filterMap fun v =>
        v.1.1.range?.map fun r =>
          Outline.divisionSymbol v.1.1 r (Outline.declared index kind r) := by
  let head? (n : Node) : Option OutlineSymbol :=
    n.range?.map fun r => Outline.divisionSymbol n r (Outline.declared index kind r)
  have hcustom : ∀ v ∈ root.sightings, v.1.kind ≠ .custom := by
    intro v hv hcustom
    have hn := h.mem_nodesAll_of_mem_sightings hv (by simp [hcustom])
    exact (h.proper v.1 hn).known.2 hcustom
  calc (preorderAll (Outline.symbolsAmong index root.children)).filter (·.heads kind)
    _ = (root.sightings.filter (!·.2)).flatMap fun v =>
          (if v.1.kind == kind then head? v.1 else none).toList := by
      rw [h.preorderAll_outline, List.filter_flatMap]
      apply List.flatMap_congr
      intro v hv
      exact Outline.filter_heads_entriesOf (hcustom v (List.mem_filter.1 hv).1) hkind
    _ = ((root.sightings.filter (!·.2)).filter (·.1.kind == kind)).filterMap (head? ·.1) := by
      rw [← List.filterMap_eq_flatMap_toList]
      exact List.filterMap_filter.symm
    _ = ((entries.map Prod.fst).filter (!·.2)).filterMap (head? ·.1) := by
      rw [List.filter_comm, hc.divisions]
    _ = (entries.filter (!·.1.2)).filterMap (head? ·.1.1) := by
      rw [List.filter_map, List.filterMap_map]
      rfl

theorem count_key (hc : Catalogue root kind extent key entries) (h : root.Textual)
    (hkind : kind.isDivision) (hother : kind ≠ .identificationDivision)
    (hlisted : ∀ v ∈ entries, ∀ r, v.1.1.range? = some r →
      (preorderAll (Outline.declared (SymbolIndex.ofTree root) kind r)).map OutlineSymbol.key =
        v.2.map key)
    (hdetail : ∀ x, (key x).2.isSome) {v : (Node × Bool) × List α} (hv : v ∈ entries) {x : α}
    (hx : x ∈ v.2) :
    ((preorderAll (Outline.symbolsAmong (SymbolIndex.ofTree root) root.children)).map
      OutlineSymbol.key).count (key x) = if v.1.2 then 0 else 1 := by
  obtain ⟨hsighting, hn, hvkind⟩ := hc.mem_nodesAll h hkind hv
  obtain ⟨earlier, later, hsplit⟩ := List.append_of_mem hsighting
  have hselected := (hc.selected v hv).subset (List.mem_map_of_mem hx)
  obtain ⟨t, ht, hrange⟩ := List.mem_map.1 hselected
  -- No other node adds an entry that begins where this one does.
  have hnone (visited : List (Node × Bool)) (hvisited : ∀ w ∈ visited, w ∈ earlier ++ later) :
      (((visited.filter (!·.2)).flatMap fun w =>
        Outline.entriesOf (SymbolIndex.ofTree root) w.1).map
        OutlineSymbol.key).count (key x) = 0 := by
    rw [List.count_eq_zero]
    intro hmem
    obtain ⟨s, hs, hskey⟩ := List.mem_map.1 hmem
    obtain ⟨w, hw, hs⟩ := List.mem_flatMap.1 hs
    have hsome : s.key.2.isSome := hskey ▸ hdetail x
    have hstart := h.start_ne_of_mem_entriesOf hsplit (hvisited w (List.mem_filter.1 hw).1)
      (hvkind ▸ hkind) (hvkind ▸ hother) ht hs hsome
    rw [hrange, ← hskey] at hstart
    exact hstart rfl
  have hown :
      ((Outline.entriesOf (SymbolIndex.ofTree root) v.1.1).map OutlineSymbol.key).count
        (key x) = 1 := by
    obtain ⟨r, hr⟩ := v.1.1.exists_range? (List.ne_nil_of_mem ht)
    have hkeys : (v.2.map key).Nodup := by
      have hranges : ((v.2.map key).map Prod.fst).Nodup := by
        rw [List.map_map]
        exact ((h.ordered_of_mem hn).sublist (hc.selected v hv)).nodup
      exact hranges.of_map
    rw [Outline.entriesOf_division (hvkind ▸ hkind) hr, List.map_cons, hvkind,
      hlisted v hv r hr, List.count_cons_of_ne,
      List.nodup_iff_count_eq_one.1 hkeys _ (List.mem_map_of_mem hx)]
    intro heq
    have hsome := hdetail x
    rw [← heq] at hsome
    cases hsome
  rw [h.preorderAll_outline, hsplit, List.filter_append, List.flatMap_append, List.map_append,
    List.count_append, hnone earlier (by simp +contextual), List.filter_cons]
  have hlater := hnone later (by simp +contextual)
  cases hhidden : v.1.2 with
  | true =>
    rw [if_neg (by simp), hlater]
    rfl
  | false =>
    rw [if_pos (by simp), List.flatMap_cons, List.map_append, List.count_append, hown, hlater]
    rfl

/-- Divisions with what was indexed from them are shown, if it is listed below their entries. -/
theorem shown (hc : Catalogue root kind extent key entries) (h : root.Textual)
    (hkind : kind.isDivision) (hother : kind ≠ .identificationDivision)
    (hdetail : ∀ x, (key x).2.isSome) {below : OutlineSymbol → List OutlineSymbol}
    (hlisted : ∀ v ∈ entries, ∀ r, v.1.1.range? = some r →
      let declared := Outline.declared (SymbolIndex.ofTree root) kind r
      (preorderAll declared).map OutlineSymbol.key = v.2.map key ∧
      (below (Outline.divisionSymbol v.1.1 r declared)).map OutlineSymbol.key = v.2.map key) :
    Shown root (Outline.symbolsAmong (SymbolIndex.ofTree root) root.children) kind below
      key entries where
  divisions := hc.divisions
  listed := by
    rw [hc.filter_heads h hkind, ← List.filter_filter]
    have hhead : ∀ v ∈ entries.filter (!·.1.2), ∀ s,
        (v.1.1.range?.map fun r => Outline.divisionSymbol v.1.1 r
          (Outline.declared (SymbolIndex.ofTree root) kind r)) = some s →
        v.1.1.range? = some s.range ∧ (below s).map OutlineSymbol.key = v.2.map key := by
      intro v hv s hs
      obtain ⟨r, hr, rfl⟩ := Option.map_eq_some_iff.1 hs
      exact ⟨hr, (hlisted v (List.mem_filter.1 hv).1 r hr).2⟩
    simpa only [Option.isSome_map] using forall₂_filterMap hhead
  once v hv x hx :=
    hc.count_key h hkind hother (fun v hv r hr => (hlisted v hv r hr).1) hdetail hv hx

end Catalogue

/--
The outline of a text is complete. Below the entry of each data division come, in the order of
the index, the items that its sentences declare, and the entry of each procedure division has
the labels of the division. Everything that is declared outside of what was skipped has exactly
one entry in the outline, and what is declared in it has none.
-/
theorem outline_complete (score : Similarity) (text : String) :
    let a := Analysis.ofParsed (parseStream score (.ofText text))
    (∃ items : List ((Node × Bool) × List DataItem),
      items.flatMap Prod.snd = a.index.dataItems ∧
      (∀ v ∈ items, List.Forall₂ (fun sentence d => d.DeclaredBy sentence)
        v.1.1.declarations v.2) ∧
      Shown a.root a.outline .dataDivision
        (fun s => preorderAll s.children) DataItem.key items) ∧
    ∃ labelled : List ((Node × Bool) × List LabelSymbol),
      labelled.flatMap Prod.snd = a.index.labels ∧
      (∀ v ∈ labelled, ∃ program, v.2 = labels program v.1.1.leaves) ∧
      Shown a.root a.outline .procedureDivision OutlineSymbol.children LabelSymbol.key
        labelled := by
  intro a
  have h : a.root.Textual := textual_root_ofText score text
  refine ⟨?_, ?_⟩
  · obtain ⟨items, hbatches, hc, hdeclared⟩ := exists_items a.root
    refine ⟨items, ?_, hdeclared, hc.shown h rfl (by simp) (fun _ => rfl) ?_⟩
    · exact hbatches.items.symm
    · intro v hv r hr
      have hkeys := map_key_dataSymbols h hbatches hc hv hr
      exact ⟨hkeys, hkeys⟩
  · obtain ⟨labelled, hlabels, hc, hown⟩ := exists_labels a.root
    refine ⟨labelled, hlabels, hown, hc.shown h rfl (by simp) (fun _ => rfl) ?_⟩
    intro v hv r hr
    have hsymbols : Outline.declared (SymbolIndex.ofTree a.root) .procedureDivision r =
        v.2.map Outline.labelSymbol := labelSymbols_eq_map h hlabels hc hv hr
    rw [hsymbols]
    refine ⟨?_, map_key_labelSymbol v.2⟩
    rw [Outline.preorderAll_map_labelSymbol, map_key_labelSymbol]

end CobolCompanion
