import CobolCompanion.Editor.Outline
import CobolCompanion.Proofs.TreeRegions

namespace CobolCompanion

namespace OutlineSymbol

mutual
/-- An entry and all entries below it, each before those below it. -/
def preorder : OutlineSymbol → List OutlineSymbol
  | ⟨name, detail, kind, range, selection, children⟩ =>
    ⟨name, detail, kind, range, selection, children⟩ :: preorderAll children

def preorderAll : List OutlineSymbol → List OutlineSymbol
  | [] => []
  | s :: symbols => preorder s ++ preorderAll symbols
end

theorem preorder_eq (s : OutlineSymbol) : s.preorder = s :: preorderAll s.children := by
  obtain ⟨name, detail, kind, range, selection, children⟩ := s
  rw [preorder]

theorem preorderAll_eq_flatMap (symbols : List OutlineSymbol) :
    preorderAll symbols = symbols.flatMap preorder := by
  induction symbols with
  | nil => rw [preorderAll, List.flatMap_nil]
  | cons s symbols ih => rw [preorderAll, List.flatMap_cons, ih]

theorem preorderAll_append (symbols more : List OutlineSymbol) :
    preorderAll (symbols ++ more) = preorderAll symbols ++ preorderAll more := by
  simp only [preorderAll_eq_flatMap, List.flatMap_append]

theorem preorderAll_singleton (s : OutlineSymbol) :
    preorderAll [s] = s :: preorderAll s.children := by
  rw [preorderAll, preorderAll, List.append_nil, preorder_eq]

/--
What tells an entry from the others: what is selected for it, and the line that is shown with
it.
-/
def key (s : OutlineSymbol) : Range × Option String :=
  (s.selection, s.detail)

end OutlineSymbol

/-- The entry of a data item selects its name and shows the sentence that declares it. -/
def DataItem.key (d : DataItem) : Range × Option String :=
  (d.range, some d.line)

/-- The entry of a label selects its name and shows what kind of label it is. -/
def LabelSymbol.key (l : LabelSymbol) : Range × Option String :=
  (l.range, some l.kind.word)

namespace Outline

open OutlineSymbol

variable (index : SymbolIndex)

/-- The entries that a node adds to an outline, without those of the nodes below it. -/
def entriesOf (n : Node) : List OutlineSymbol :=
  if n.kind.isDivision then preorderAll (symbolsOf index n.toElement)
  else symbolsOf index n.toElement

theorem range?_eq_none {heading : Heading} {children : List Element}
    (h : Element.leavesAll children = []) : Node.range? ⟨heading, children⟩ = none := by
  rw [Node.range?, Node.leaves, h]
  rfl

theorem symbolsAmong_eq_nil {es : List Element} (h : Element.leavesAll es = []) :
    symbolsAmong index es = [] := by
  induction es with
  | nil => rw [symbolsAmong]
  | cons e es ih =>
    rw [Element.leavesAll, List.append_eq_nil_iff] at h
    rw [symbolsAmong, ih h.2, List.append_nil]
    cases e with
    | token t => rw [symbolsOf]
    | node heading children =>
      rw [Element.leaves] at h
      rw [symbolsOf, range?_eq_none h.1]

theorem symbolsOf_unit {heading : Heading} {children : List Element}
    (hkind : heading.kind = .programUnit) :
    preorderAll (symbolsOf index (.node heading children)) =
      symbolsOf index (.node heading children) ++
        preorderAll (symbolsAmong index children) := by
  rw [symbolsOf]
  cases hrange : Node.range? ⟨heading, children⟩ with
  | none =>
    have hleaves : Element.leavesAll children = [] := by
      rw [Node.range?, Node.leaves] at hrange
      cases hleaves : Element.leavesAll children with
      | nil => rfl
      | cons t ts => simp [hleaves, Range.boundingBox] at hrange
    rw [symbolsAmong_eq_nil index hleaves]
    rfl
  | some range =>
    rw [hkind]
    exact preorderAll_singleton _

theorem symbolsOf_skipped {heading : Heading} {children : List Element}
    (hkind : heading.kind = .skipped) :
    symbolsOf index (.node heading children) = [] := by
  rw [symbolsOf]
  cases Node.range? ⟨heading, children⟩ with
  | none => rfl
  | some range => rw [hkind]

mutual
/-- The entries come from the nodes that are not hidden, in the order of a walk. -/
theorem preorderAll_symbolsOf {e : Element} (h : ∀ n ∈ e.nodes, n.Proper) :
    preorderAll (symbolsOf index e) =
      ((e.sightings false).filter (!·.2)).flatMap fun v => entriesOf index v.1 := by
  cases e with
  | token t => rw [symbolsOf, preorderAll, Element.sightings, List.filter_nil, List.flatMap_nil]
  | node heading children =>
    rw [Element.nodes, List.forall_mem_cons] at h
    obtain ⟨hproper, hchildren⟩ := h
    cases hkind : heading.kind with
    | skipped =>
      have hhidden : (Element.sightingsAll true children).filter (!·.2) = [] := by
        rw [List.filter_eq_nil_iff]
        intro v hv
        simp [Element.hidden_of_mem_sightingsAll v hv]
      rw [symbolsOf_skipped index hkind, preorderAll, Element.sightings_of_skipped hkind]
      simp [hhidden]
    | programUnit =>
      have hown : entriesOf index ⟨heading, children⟩ =
          symbolsOf index (.node heading children) := by
        rw [entriesOf, hkind]
        rfl
      rw [symbolsOf_unit index hkind, preorderAll_symbolsAmong hchildren,
        Element.sightings_of_placed (by simp [hkind])]
      simp [hown]
    | sourceUnit => exact absurd hkind hproper.known.1
    | custom => exact absurd hkind hproper.known.2
    | _ =>
      have hdivision : heading.kind.isDivision := by rw [hkind]; rfl
      have hown : entriesOf index ⟨heading, children⟩ =
          preorderAll (symbolsOf index (.node heading children)) := if_pos hdivision
      have hnone : Element.sightingsAll false children = [] := by
        apply List.map_eq_nil_iff.1
        rw [Element.map_fst_sightingsAll]
        exact Node.nodesAll_children_eq_nil (hproper.division hdivision)
      rw [Element.sightings_of_placed (by simp [hkind])]
      simp [hown, hnone]

theorem preorderAll_symbolsAmong {es : List Element} (h : ∀ n ∈ Element.nodesAll es, n.Proper) :
    preorderAll (symbolsAmong index es) =
      ((Element.sightingsAll false es).filter (!·.2)).flatMap fun v => entriesOf index v.1 := by
  cases es with
  | nil => rw [symbolsAmong, preorderAll, Element.sightingsAll, List.filter_nil,
    List.flatMap_nil]
  | cons e es =>
    rw [Element.nodesAll, List.forall_mem_append] at h
    rw [symbolsAmong, preorderAll_append, preorderAll_symbolsOf h.1,
      preorderAll_symbolsAmong h.2, Element.sightingsAll, List.filter_append,
      List.flatMap_append]
end

def declared (kind : NodeKind) (division : Range) : List OutlineSymbol :=
  match kind with
  | .dataDivision => dataSymbols index division
  | .procedureDivision => labelSymbols index division
  | _ => []

section
variable {index} {n : Node} {range : Range}

theorem entriesOf_of_empty (h : n.range? = none) : entriesOf index n = [] := by
  have hnone : symbolsOf index n.toElement = [] := by rw [Node.toElement, symbolsOf, h]
  rw [entriesOf, hnone, preorderAll, ite_self]

theorem entriesOf_unit (hkind : n.kind = .programUnit) (hrange : n.range? = some range) :
    entriesOf index n = [⟨n.name.getD "<program>", some "program", .program, range,
      unitSelection index range, symbolsAmong index n.children⟩] := by
  rw [entriesOf, hkind, Node.toElement, symbolsOf, hrange, hkind]
  rfl

theorem entriesOf_division (hkind : n.kind.isDivision) (hrange : n.range? = some range) :
    entriesOf index n =
      divisionSymbol n range (declared index n.kind range) ::
        preorderAll (declared index n.kind range) := by
  have hone : symbolsOf index n.toElement =
      [divisionSymbol n range (declared index n.kind range)] := by
    rw [Node.toElement, symbolsOf, hrange]
    dsimp only
    cases hn : n.kind <;> simp [hn, NodeKind.isDivision] at hkind <;> rfl
  rw [entriesOf, if_pos hkind, hone]
  exact preorderAll_singleton _

theorem entriesOf_other (hunit : n.kind ≠ .programUnit) (hdivision : n.kind.isDivision = false)
    (hcustom : n.kind ≠ .custom) : entriesOf index n = [] := by
  cases hrange : n.range? with
  | none => exact entriesOf_of_empty hrange
  | some range =>
    rw [entriesOf, hdivision, Node.toElement, symbolsOf, hrange]
    cases hn : n.kind <;> simp [hn, NodeKind.isDivision] at hunit hdivision hcustom <;> rfl

structure StandsFor (s : OutlineSymbol) (d : DataItem) : Prop where
  range : s.range = d.extent
  selection : s.selection = d.range
  detail : s.detail = some d.line
  kind : s.kind ≠ .program

theorem dataKind_ne_program (items : List DataItem) (d : DataItem) :
    dataKind items d ≠ .program := by
  unfold dataKind
  split
  · simp
  split <;> simp

theorem exists_item_of_mem_preorder {items : List DataItem} {fuel : Nat} {d : DataItem}
    (hd : d ∈ items) {s : OutlineSymbol} (hs : s ∈ (dataSymbol items fuel d).preorder) :
    ∃ d ∈ items, StandsFor s d := by
  induction fuel generalizing d with
  | zero =>
    rw [dataSymbol, preorder, preorderAll, List.mem_singleton] at hs
    rw [hs]
    exact ⟨d, hd, rfl, rfl, rfl, dataKind_ne_program items d⟩
  | succ fuel ih =>
    rw [dataSymbol, preorder] at hs
    rcases List.mem_cons.1 hs with rfl | hs
    · exact ⟨d, hd, rfl, rfl, rfl, dataKind_ne_program items d⟩
    · rw [preorderAll_eq_flatMap, List.mem_flatMap] at hs
      obtain ⟨child, hchild, hs⟩ := hs
      obtain ⟨c, hc, rfl⟩ := List.mem_map.1 hchild
      obtain ⟨i, -, hi⟩ := List.mem_filterMap.1 hc
      exact ih (List.mem_of_getElem? hi) hs

theorem exists_item_of_mem_dataSymbols {s : OutlineSymbol}
    (hs : s ∈ preorderAll (dataSymbols index range)) :
    ∃ d ∈ index.dataItems, StandsFor s d := by
  rw [preorderAll_eq_flatMap, List.mem_flatMap] at hs
  obtain ⟨outer, houter, hs⟩ := hs
  obtain ⟨d, hd, rfl⟩ := List.mem_map.1 houter
  exact exists_item_of_mem_preorder (List.mem_filter.1 hd).1 hs

theorem preorderAll_map_labelSymbol (labels : List LabelSymbol) :
    preorderAll (labels.map labelSymbol) = labels.map labelSymbol := by
  induction labels with
  | nil => rw [List.map_nil, preorderAll]
  | cons l labels ih =>
    rw [List.map_cons, preorderAll, ih, preorder_eq]
    change labelSymbol l :: preorderAll [] ++ _ = _
    rw [preorderAll, List.singleton_append]

theorem exists_of_mem_declared {kind : NodeKind} {s : OutlineSymbol}
    (hs : s ∈ preorderAll (declared index kind range)) :
    (∃ d ∈ index.dataItems, StandsFor s d) ∨ ∃ l ∈ index.labels, s = labelSymbol l := by
  unfold declared at hs
  split at hs
  · exact .inl (exists_item_of_mem_dataSymbols hs)
  · rw [labelSymbols, preorderAll_map_labelSymbol] at hs
    obtain ⟨l, hl, rfl⟩ := List.mem_map.1 hs
    exact .inr ⟨l, (List.mem_filter.1 hl).1, rfl⟩
  · rw [preorderAll] at hs
    cases hs

theorem kind_ne_program_of_mem_declared {kind : NodeKind} {s : OutlineSymbol}
    (hs : s ∈ preorderAll (declared index kind range)) : s.kind ≠ .program := by
  rcases exists_of_mem_declared hs with ⟨d, -, hstands⟩ | ⟨l, -, rfl⟩
  · exact hstands.kind
  · unfold labelSymbol
    cases l.kind <;> simp

theorem isSome_detail_of_mem_declared {kind : NodeKind} {s : OutlineSymbol}
    (hs : s ∈ preorderAll (declared index kind range)) : s.detail.isSome := by
  rcases exists_of_mem_declared hs with ⟨d, -, hstands⟩ | ⟨l, -, rfl⟩
  · rw [hstands.detail, Option.isSome_some]
  · rfl

end

/--
The entries that a node adds: that of a unit, or that of a division and those of what it
declares.
-/
inductive EntryOf (n : Node) : OutlineSymbol → Prop where
  | unit {range : Range} (hkind : n.kind = .programUnit) (hrange : n.range? = some range) :
    EntryOf n ⟨n.name.getD "<program>", some "program", .program, range,
      unitSelection index range, symbolsAmong index n.children⟩
  | division {range : Range} (hkind : n.kind.isDivision) (hrange : n.range? = some range) :
    EntryOf n (divisionSymbol n range (declared index n.kind range))
  | declared {range : Range} {s : OutlineSymbol} (hkind : n.kind.isDivision)
    (hrange : n.range? = some range) (hs : s ∈ preorderAll (declared index n.kind range)) :
      EntryOf n s

theorem entryOf_of_mem_entriesOf {n : Node} (hcustom : n.kind ≠ .custom) {s : OutlineSymbol}
    (hs : s ∈ entriesOf index n) : EntryOf index n s := by
  cases hrange : n.range? with
  | none =>
    rw [entriesOf_of_empty hrange] at hs
    cases hs
  | some range =>
    by_cases hunit : n.kind = .programUnit
    · rw [entriesOf_unit hunit hrange, List.mem_singleton] at hs
      rw [hs]
      exact .unit hunit hrange
    cases hdivision : n.kind.isDivision with
    | false =>
      rw [entriesOf_other hunit hdivision hcustom] at hs
      cases hs
    | true =>
      rw [entriesOf_division hdivision hrange] at hs
      rcases List.mem_cons.1 hs with rfl | hs
      · exact .division hdivision hrange
      · exact .declared hdivision hrange hs

end Outline

end CobolCompanion
