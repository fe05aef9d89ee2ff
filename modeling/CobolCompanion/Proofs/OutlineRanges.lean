import CobolCompanion.Proofs.DeclaredItems
import CobolCompanion.Proofs.DeclaredNames
import CobolCompanion.Proofs.OutlineListing
import CobolCompanion.Proofs.TreeShape

namespace CobolCompanion

open Parse

/-- What holds of the tree of every text. -/
structure Node.Textual (root : Node) : Prop where
  kind : root.kind = .sourceUnit
  ordered : Range.Ordered (root.leaves.map Token.range)
  proper : ∀ n ∈ Element.nodesAll root.children, n.Proper
  founded : ∀ n ∈ Element.nodesAll root.children, n.kind = .programUnit →
    ∃ (d : Identification) (others : List Element), n.children = d.node.toElement :: others

theorem sourceShape_root_ofText (score : Similarity) (text : String) :
    (parseStream score (.ofText text)).root.SourceShape :=
  sourceShape_root_parseStream score (scan text) _ _

theorem Node.mem_units {root n : Node} (h : root.kind = .sourceUnit) :
    n ∈ (root.walk.map Prod.fst).filter (·.kind == .programUnit) ↔
      n ∈ Element.nodesAll root.children ∧ n.kind = .programUnit := by
  rw [List.mem_filter, root.map_fst_walk, List.mem_cons, beq_iff_eq]
  refine and_congr_left fun hkind => or_iff_right ?_
  rintro rfl
  rw [h] at hkind
  cases hkind

theorem mem_programs_ofText {score : Similarity} {text : String} {n : Node} :
    let parsed := parseStream score (.ofText text)
    n ∈ parsed.programs ↔ n ∈ Element.nodesAll parsed.root.children ∧ n.kind = .programUnit :=
  Node.mem_units (sourceShape_root_ofText score text).kind

theorem textual_root_ofText (score : Similarity) (text : String) :
    (parseStream score (.ofText text)).root.Textual := by
  have hshape := sourceShape_root_ofText score text
  refine ⟨hshape.kind, ?_, hshape.proper, ?_⟩
  · rw [leaves_root_ofText]
    exact ordered_scan text
  · intro n hn hkind
    obtain ⟨i, d, hopening⟩ :=
      exists_opening_of_mem_programs (mem_programs_ofText.2 ⟨hn, hkind⟩)
    exact ⟨d, hopening.division⟩

theorem mem_of_declaredName? {n : Node} {t : Token} (h : declaredName? n = some t) :
    t ∈ n.leaves := by
  rw [declaredName?] at h
  split at h
  · cases h
  · next word after hafter =>
    have hmem := List.mem_of_find?_eq_some h
    exact (List.dropWhile_sublist _).subset (hafter ▸ List.mem_cons_of_mem word hmem)

theorem Node.exists_range? {n : Node} (h : n.leaves ≠ []) : ∃ r, n.range? = some r := by
  obtain ⟨t, ts, hleaves⟩ := List.exists_cons_of_ne_nil h
  exact ⟨_, by rw [range?, hleaves, List.map_cons, Range.boundingBox]⟩

namespace Node.Textual

variable {root m n : Node} {r : Range} {d : Identification} {others : List Element}

theorem ordered_of_mem (h : root.Textual) (hn : n ∈ Element.nodesAll root.children) :
    Range.Ordered (n.leaves.map Token.range) :=
  h.ordered.sublist ((Element.leaves_infix_of_mem_nodesAll hn).sublist.map _)

theorem leaves_eq (hchildren : n.children = d.node.toElement :: others) :
    n.leaves = d.tokens ++ Element.leavesAll others := by
  rw [leaves, hchildren, Element.leavesAll, leaves_toElement, Identification.leaves_node]

theorem sublist_of_inner (hchildren : n.children = d.node.toElement :: others)
    (hm : m ∈ Element.nodesAll n.children) (hkind : m.kind = .programUnit) :
    (d.tokens ++ m.leaves).Sublist n.leaves := by
  rw [leaves_eq hchildren]
  refine (List.Sublist.refl d.tokens).append (Element.leaves_infix_of_mem_nodesAll ?_).sublist
  rw [hchildren, Element.nodesAll, List.mem_append, mem_nodes_toElement] at hm
  rcases hm with (rfl | hm) | hm
  · cases hkind
  · simp [Identification.node] at hm
  · exact hm

theorem exists_range?_of_unit (hchildren : n.children = d.node.toElement :: others) :
    ∃ r, n.range? = some r := by
  apply exists_range?
  simp [leaves_eq hchildren, Identification.tokens]

theorem exists_first (h : root.Textual) (hn : n ∈ Element.nodesAll root.children)
    (hchildren : n.children = d.node.toElement :: others) (hr : n.range? = some r) :
    ∃ t ∈ d.tokens, r.span.start = t.range.span.start := by
  obtain ⟨first, last, hfirst, -, rfl⟩ := (h.ordered_of_mem hn).exists_hull hr
  have hne : d.tokens ≠ [] := by simp [Identification.tokens]
  obtain ⟨t, ts, htokens⟩ := List.exists_cons_of_ne_nil hne
  refine ⟨t, by simp [htokens], ?_⟩
  rw [leaves_eq hchildren, htokens, List.cons_append, List.map_cons, List.head?_cons] at hfirst
  cases hfirst
  rfl

/--
What begins with a token of its identification division begins before every unit inside a unit.
-/
theorem not_covers_of_inner (h : root.Textual) (hn : n ∈ Element.nodesAll root.children)
    (hchildren : n.children = d.node.toElement :: others) (hm : m ∈ Element.nodesAll n.children)
    (hkind : m.kind = .programUnit) (hr : m.range? = some r) {t : Token}
    (ht : t ∈ d.tokens) {s : Range} (hs : s.span.start = t.range.span.start) : ¬r.Covers s := by
  intro hcovers
  have hordered :=
    (h.ordered_of_mem hn).sublist ((sublist_of_inner hchildren hm hkind).map Token.range)
  rw [List.map_append] at hordered
  obtain ⟨box, hbox⟩ : ∃ box, Range.boundingBox (d.tokens.map Token.range) = some box := by
    rw [← Identification.leaves_node]
    exact exists_range? (by simp [Identification.tokens])
  have hprecedes := hordered.precedes_boundingBox hbox hr
  have hbox_covers := (hordered.sublist (List.sublist_append_left _ _)).covers_of_mem hbox
    (List.mem_map_of_mem ht)
  have hsolid := hordered.solid t.range (List.mem_append_left _ (List.mem_map_of_mem ht))
  have hfrom := hcovers.bytes.1
  have hto := hbox_covers.bytes.2
  have hbehind := hprecedes.bytes
  have hbytes := hsolid.bytes
  omega

/--
Something in a unit that begins in its identification division lies in no other unit, except in
those around that one.
-/
theorem mem_nodes_of_covers (h : root.Textual) (hn : n ∈ Element.nodesAll root.children)
    (hchildren : n.children = d.node.toElement :: others) (hr : n.range? = some r)
    (hm : m ∈ Element.nodesAll root.children) (hkind : m.kind = .programUnit) {r' : Range}
    (hr' : m.range? = some r') {s : Range} (hinside : r.Covers s) (hsolid : s.Solid) {t : Token}
    (ht : t ∈ d.tokens) (hs : s.span.start = t.range.span.start) (hcovers : r'.Covers s) :
    n ∈ m.toElement.nodes := by
  have hfrom := hinside.bytes
  have hfrom' := hcovers.bytes
  have hbytes := hsolid.bytes
  cases Element.settled_of_mem_nodesAll hm hn with
  | around h => exact h
  | inside hinner =>
    rcases mem_nodes_toElement.1 hinner with rfl | hinner
    · exact hinner
    · exact absurd hcovers (h.not_covers_of_inner hn hchildren hinner hkind hr' ht hs)
  | before happart =>
    have hordered := h.ordered.sublist (happart.map Token.range)
    rw [List.map_append] at hordered
    have hprecedes := (hordered.precedes_boundingBox hr' hr).bytes
    omega
  | behind happart =>
    have hordered := h.ordered.sublist (happart.map Token.range)
    rw [List.map_append] at hordered
    have hprecedes := (hordered.precedes_boundingBox hr hr').bytes
    omega

theorem solid_of_range? (h : root.Textual) (hn : n ∈ Element.nodesAll root.children)
    (hr : n.range? = some r) : r.Solid :=
  (h.ordered_of_mem hn).solid_boundingBox hr

/-- No two units have the same range. -/
theorem eq_of_range?_eq (h : root.Textual) (hn : n ∈ Element.nodesAll root.children)
    (hnkind : n.kind = .programUnit) (hm : m ∈ Element.nodesAll root.children)
    (hmkind : m.kind = .programUnit) (hr : n.range? = some r) (hr' : m.range? = some r) :
    m = n := by
  obtain ⟨d, others, hchildren⟩ := h.founded n hn hnkind
  obtain ⟨d', others', hchildren'⟩ := h.founded m hm hmkind
  obtain ⟨t, ht, hstart⟩ := h.exists_first hn hchildren hr
  obtain ⟨t', ht', hstart'⟩ := h.exists_first hm hchildren' hr'
  have hinside := h.mem_nodes_of_covers hn hchildren hr hm hmkind hr' (.refl r)
    (h.solid_of_range? hn hr)
    ht hstart (.refl r)
  rcases mem_nodes_toElement.1 hinside with rfl | hinner
  · rfl
  · exact absurd (.refl r) (h.not_covers_of_inner hm hchildren' hinner hnkind hr ht' hstart')

theorem exists_find?_programs (h : root.Textual) (hn : n ∈ Element.nodesAll root.children)
    (hkind : n.kind = .programUnit) (hr : n.range? = some r) :
    ∃ parent, (SymbolIndex.ofTree root).programs.find? (·.extent == r) =
      some (ProgramSymbol.ofUnit n parent) := by
  have hunits {m : Node} : m ∈ (root.owned.filter (·.1.kind == .programUnit)).map Prod.fst ↔
      m ∈ Element.nodesAll root.children ∧ m.kind = .programUnit := by
    rw [← root.filter_walk_eq, Node.mem_units h.kind]
  rw [SymbolIndex.programs_ofTree]
  obtain ⟨⟨_, parent⟩, hown, rfl⟩ := List.mem_map.1 (hunits.2 ⟨hn, hkind⟩)
  cases hfound : (((root.owned.filter (·.1.kind == .programUnit)).map fun v =>
      ProgramSymbol.ofUnit v.1 v.2).find? (·.extent == r)) with
  | none =>
    have hother := List.find?_eq_none.1 hfound _ (List.mem_map_of_mem hown)
    simp [ProgramSymbol.ofUnit, hr] at hother
  | some symbol =>
    obtain ⟨⟨m, parent'⟩, hm, rfl⟩ := List.mem_map.1 (List.mem_of_find?_eq_some hfound)
    obtain ⟨hmem, hmkind⟩ := hunits.1 (List.mem_map_of_mem hm)
    obtain ⟨d, others, hchildren⟩ := h.founded m hmem hmkind
    obtain ⟨r', hr'⟩ := exists_range?_of_unit hchildren
    have hextent := List.find?_some hfound
    simp only [ProgramSymbol.ofUnit, hr', Option.getD_some, beq_iff_eq] at hextent
    rw [h.eq_of_range?_eq hn hkind hmem hmkind hr (hextent ▸ hr')]
    exact ⟨parent', rfl⟩

theorem unitSelection_cases (h : root.Textual) (hn : n ∈ Element.nodesAll root.children)
    (hkind : n.kind = .programUnit) (hchildren : n.children = d.node.toElement :: others)
    (hr : n.range? = some r) :
    Outline.unitSelection (SymbolIndex.ofTree root) r = r ∨
      ∃ t ∈ d.tokens, Outline.unitSelection (SymbolIndex.ofTree root) r = t.range := by
  obtain ⟨parent, hfound⟩ := h.exists_find?_programs hn hkind hr
  rw [Outline.unitSelection, hfound, Option.map_some, Option.getD_some, ProgramSymbol.ofUnit,
    Identification.find?_childNodes hchildren, hr, Option.bind_some]
  cases hname : declaredName? d.node with
  | none => exact .inl rfl
  | some t => exact .inr ⟨t, by simpa using mem_of_declaredName? hname, rfl⟩

theorem exists_start_unitSelection (h : root.Textual) (hn : n ∈ Element.nodesAll root.children)
    (hkind : n.kind = .programUnit) (hchildren : n.children = d.node.toElement :: others)
    (hr : n.range? = some r) :
    (Outline.unitSelection (SymbolIndex.ofTree root) r).Solid ∧
      ∃ t ∈ d.tokens,
        (Outline.unitSelection (SymbolIndex.ofTree root) r).span.start =
          t.range.span.start := by
  rcases h.unitSelection_cases hn hkind hchildren hr with hwhole | ⟨t, ht, hname⟩
  · rw [hwhole]
    exact ⟨h.solid_of_range? hn hr, h.exists_first hn hchildren hr⟩
  · rw [hname]
    refine ⟨(h.ordered_of_mem hn).solid t.range ?_, t, ht, rfl⟩
    rw [leaves_eq hchildren]
    exact List.mem_map_of_mem (List.mem_append_left _ ht)

theorem covers_of_mem_dataItems (h : root.Textual) :
    ∀ d ∈ (SymbolIndex.ofTree root).dataItems, d.extent.Covers d.range := by
  intro d hd
  obtain ⟨batches, hbatches⟩ := exists_batches root
  rw [hbatches.items, List.mem_flatten] at hd
  obtain ⟨batch, hbatch, hd⟩ := hd
  obtain ⟨n, hn, hdeclared⟩ := exists_of_mem_forall₂ hbatches.declared hbatch
  obtain ⟨sentence, hsentence, hd⟩ := exists_of_mem_forall₂ hdeclared hd
  apply hd.covers_range
  have hleaves : sentence.Sublist n.leaves :=
    (List.sublist_flatten_of_mem hsentence).trans n.flatten_declarations_sublist
  have hinfix := Node.leaves_infix_of_mem_walk (List.mem_filter.1 hn).1
  exact h.ordered.sublist ((hleaves.trans hinfix.sublist).map Token.range)

theorem covers_divisionSymbol (h : root.Textual) (hn : n ∈ Element.nodesAll root.children)
    (hr : n.range? = some r) (children : List OutlineSymbol) :
    (Outline.divisionSymbol n r children).range.Covers
      (Outline.divisionSymbol n r children).selection := by
  rw [Outline.divisionSymbol]
  cases hfirst : n.leaves.find? Token.isSignificant with
  | none => exact .refl r
  | some t =>
    have hmem : t ∈ n.leaves := List.mem_of_find?_eq_some hfirst
    exact (h.ordered_of_mem hn).covers_of_mem hr (List.mem_map_of_mem hmem)

theorem covers_unitSelection (h : root.Textual) (hn : n ∈ Element.nodesAll root.children)
    (hkind : n.kind = .programUnit) (hr : n.range? = some r) :
    r.Covers (Outline.unitSelection (SymbolIndex.ofTree root) r) := by
  obtain ⟨d, others, hchildren⟩ := h.founded n hn hkind
  rcases h.unitSelection_cases hn hkind hchildren hr with hwhole | ⟨t, ht, hname⟩
  · rw [hwhole]
    exact .refl r
  · rw [hname]
    apply (h.ordered_of_mem hn).covers_of_mem hr
    rw [leaves_eq hchildren]
    exact List.mem_map_of_mem (List.mem_append_left _ ht)

/--
The entries that a node adds: selections lie in ranges, and only units add entries of programs.
-/
theorem selection_of_mem_entriesOf (h : root.Textual) (hn : n ∈ Element.nodesAll root.children)
    {s : OutlineSymbol} (hs : s ∈ Outline.entriesOf (SymbolIndex.ofTree root) n) :
    s.range.Covers s.selection ∧
      (s.kind = .program → n.kind = .programUnit ∧ n.range? = some s.range ∧
        s.selection = Outline.unitSelection (SymbolIndex.ofTree root) s.range) := by
  have hentry := Outline.entryOf_of_mem_entriesOf _ (h.proper n hn).known.2 hs
  cases hentry with
  | unit hunit hr => exact ⟨h.covers_unitSelection hn hunit hr, fun _ => ⟨hunit, hr, rfl⟩⟩
  | division hdivision hr =>
    refine ⟨h.covers_divisionSymbol hn hr _, ?_⟩
    intro hkind
    cases hkind
  | declared hdivision hr hs =>
    refine ⟨?_, fun hkind => absurd hkind (Outline.kind_ne_program_of_mem_declared hs)⟩
    rcases Outline.exists_of_mem_declared hs with ⟨d, hd, hstands⟩ | ⟨l, -, rfl⟩
    · rw [hstands.range, hstands.selection]
      exact h.covers_of_mem_dataItems d hd
    · exact .refl _

end Node.Textual

theorem Analysis.exists_node_of_mem_outline {score : Similarity} {text : String}
    {s : OutlineSymbol} :
    let a := ofParsed (parseStream score (.ofText text))
    s ∈ OutlineSymbol.preorderAll a.outline →
      ∃ n ∈ Element.nodesAll a.root.children, s ∈ Outline.entriesOf a.index n := by
  intro a hs
  have htextual : a.root.Textual := textual_root_ofText score text
  change s ∈ OutlineSymbol.preorderAll (Outline.symbolsAmong a.index a.root.children) at hs
  rw [Outline.preorderAll_symbolsAmong _ htextual.proper, List.mem_flatMap] at hs
  obtain ⟨v, hv, hs⟩ := hs
  refine ⟨v.1, ?_, hs⟩
  rw [← Element.map_fst_sightingsAll false]
  exact List.mem_map_of_mem (List.mem_filter.1 hv).1

/--
In the outline of a text, what is selected for an entry lies in the range of the entry. What is
selected for a program lies in the identification division of its unit, or is the unit as a
whole, and it lies in no other unit but those around that one.
-/
theorem outline_selection (score : Similarity) (text : String) :
    let a := Analysis.ofParsed (parseStream score (.ofText text))
    ∀ s ∈ OutlineSymbol.preorderAll a.outline,
      s.range.Covers s.selection ∧
      (s.kind = .program → ∃ unit ∈ a.parsed.programs, unit.range? = some s.range ∧
        (s.selection = s.range ∨ ∃ n ∈ unit.childNodes, n.kind = .identificationDivision ∧
          ∃ r, n.range? = some r ∧ r.Covers s.selection) ∧
        ∀ other ∈ a.parsed.programs, ∀ r, other.range? = some r → r.Covers s.selection →
          unit ∈ other.toElement.nodes) := by
  intro a s hs
  obtain ⟨n, hn, hs⟩ := Analysis.exists_node_of_mem_outline hs
  have htextual := textual_root_ofText score text
  obtain ⟨hcovers, hprogram⟩ := htextual.selection_of_mem_entriesOf hn hs
  refine ⟨hcovers, ?_⟩
  intro hkind
  obtain ⟨hunit, hr, hselection⟩ := hprogram hkind
  obtain ⟨d, others, hchildren⟩ := htextual.founded n hn hunit
  refine ⟨n, mem_programs_ofText.2 ⟨hn, hunit⟩, hr, ?_, ?_⟩
  · rw [hselection]
    refine (htextual.unitSelection_cases hn hunit hchildren hr).imp_right ?_
    rintro ⟨t, ht, hname⟩
    obtain ⟨r, hrange⟩ := d.node.exists_range? (by simp [Identification.tokens])
    have hdivision : d.node ∈ Element.nodesAll n.children := by
      simp [hchildren, Element.nodesAll, Node.mem_nodes_toElement]
    have hordered := htextual.ordered_of_mem (Element.mem_nodesAll_of_below hn hdivision)
    refine ⟨d.node, ?_, rfl, r, hrange, ?_⟩
    · simp [Node.childNodes, hchildren, Node.toElement, Element.asNode?]
    · rw [hname]
      exact hordered.covers_of_mem hrange (List.mem_map_of_mem (by simpa using ht))
  · intro other hother r hrange hinside
    obtain ⟨hmem, hother⟩ := mem_programs_ofText.1 hother
    obtain ⟨hsolid, t, ht, hstart⟩ := htextual.exists_start_unitSelection hn hunit hchildren hr
    rw [← hselection] at hsolid hstart
    exact htextual.mem_nodes_of_covers hn hchildren hr hmem hother hrange hcovers hsolid ht
      hstart hinside

def nestedText : String :=
  "ID DIVISION.PROGRAM-ID.A.ID DIVISION.PROGRAM-ID.B."

theorem outline_selection_nested :
    let a := Analysis.ofText nestedText
    ∃ s ∈ OutlineSymbol.preorderAll a.outline, s.name = "B" ∧ s.kind = .program ∧
      s.range.Covers s.selection ∧
      ∃ unit ∈ a.parsed.programs, unit.range? = some s.range ∧
        ∀ other ∈ a.parsed.programs, ∀ r, other.range? = some r → r.Covers s.selection →
          unit ∈ other.toElement.nodes := by
  intro a
  have hany : (OutlineSymbol.preorderAll a.outline).any fun s =>
      s.name == "B" && s.kind == .program := by
    change (OutlineSymbol.preorderAll (Outline.symbolsAmong
      (SymbolIndex.ofTree (parseStream .jaroWinkler (.ofText nestedText)).root)
      (parseStream .jaroWinkler (.ofText nestedText)).root.children)).any _
    rw [root_parseStream_of_isFinal .jaroWinkler (.ofText nestedText) 11 (by decide +kernel)]
    decide +kernel
  obtain ⟨s, hs, hentry⟩ := List.any_eq_true.1 hany
  rw [Bool.and_eq_true, beq_iff_eq, beq_iff_eq] at hentry
  obtain ⟨hcovers, hprogram⟩ := outline_selection .jaroWinkler nestedText s hs
  obtain ⟨unit, hunit, hrange, -, hother⟩ := hprogram hentry.2
  exact ⟨s, hs, hentry.1, hentry.2, hcovers, unit, hunit, hrange, hother⟩

end CobolCompanion
