import CobolCompanion.Proofs.Growth
import Mathlib.Data.List.Chain

namespace CobolCompanion

open Parse

/-- The root of a tree, as it is from the start of the parse on. -/
structure Node.SourceShape (n : Node) : Prop where
  kind : n.kind = .sourceUnit
  trivia : ∀ t, .token t ∈ n.children → t.isTrivia
  regions : ∀ kind ∈ Element.kinds n.children, kind = .programUnit ∨ kind = .skipped
  proper : ∀ m ∈ Element.nodesAll n.children, m.Proper

namespace Node.SourceShape

variable {n : Node} {elements : List Element}

theorem pushTrivia (h : n.SourceShape) {gap : List Token} (hgap : ∀ t ∈ gap, t.isTrivia) :
    (n.pushAll (gap.map .token)).SourceShape where
  kind := h.kind
  trivia := by
    intro t ht
    rcases List.mem_append.1 ht with ht | ht
    · exact h.trivia t ht
    · exact hgap t (by simpa using ht)
  regions := by simpa [Node.pushAll] using h.regions
  proper := by simpa [Node.pushAll] using h.proper

theorem pushUnit (h : n.SourceShape) {u : Node} (hu : u.Growing [])
    (hkind : u.kind = .programUnit) :
    (n.push u.toElement).SourceShape where
  kind := h.kind
  trivia := by simpa [Node.push, Node.toElement] using h.trivia
  regions := by
    intro kind hmem
    simp only [Node.push, Node.toElement, Element.kinds_append, Element.kinds_singleton_node,
      List.mem_append, List.mem_singleton] at hmem
    rcases hmem with hmem | rfl
    · exact h.regions kind hmem
    · exact .inl hkind
  proper := by
    simp only [Node.push, Node.toElement, Element.nodesAll_append,
      Element.nodesAll_singleton_node, List.forall_mem_append, List.forall_mem_cons]
    exact ⟨h.proper, hu.toProper hkind, hu.proper⟩

theorem pushSkipped (h : n.SourceShape)
    (helements : ∀ m ∈ Element.nodesAll elements, m.Proper) :
    (n.pushSkipped elements).SourceShape := by
  by_cases hnil : elements = []
  · rwa [hnil, Node.pushSkipped_nil]
  have hproper : ∀ m ∈ Element.nodesAll (n.pushSkipped elements).children, m.Proper := by
    intro m hm
    rcases Node.mem_nodesAll_pushSkipped hm with hm | hm | hm
    · exact h.proper m hm
    · exact helements m hm
    · exact .of_skipped hm
  obtain ⟨before, heading, held, hkind, hchildren, hpush⟩ | ⟨-, hpush⟩ :=
    n.pushSkipped_cases hnil
  · have htrivia := h.trivia
    have hregions := h.regions
    rw [hchildren] at htrivia hregions
    rw [hpush] at hproper ⊢
    exact ⟨h.kind, by simpa using htrivia, by simpa using hregions, hproper⟩
  · rw [hpush] at hproper ⊢
    refine ⟨h.kind, by simpa [Node.push] using h.trivia, ?_, hproper⟩
    rw [Node.push, Element.kinds_append, List.forall_mem_append]
    exact ⟨h.regions, by simp⟩

end Node.SourceShape

namespace Parse

theorem Wreck.proper {es : List Element} (h : Wreck es) :
    ∀ m ∈ Element.nodesAll es, m.Proper := by
  induction h with
  | innermost h => exact h.proper
  | enclosing h hinner ih =>
    simp only [Element.nodesAll_append, Element.nodesAll_singleton_node, List.forall_mem_append,
      List.forall_mem_cons]
    exact ⟨h.proper, .of_skipped rfl, ih⟩

theorem Grows.sourceShape {n n' : Node} (h : Grows n n') (hn : n.SourceShape) :
    n'.SourceShape := by
  cases h with
  | trivia hgap => exact hn.pushTrivia hgap
  | unit hu hkind => exact hn.pushUnit hu hkind
  | skips ts => exact hn.pushSkipped (by simp)
  | wreck hwreck ts => exact hn.pushSkipped (by simpa using hwreck.proper)

theorem Grown.sourceShape {n n' : Node} (h : Grown n n') (hn : n.SourceShape) :
    n'.SourceShape := by
  induction h with
  | refl => exact hn
  | tail _ hgrows ih => exact hgrows.sourceShape ih

theorem sourceShape_root_parseStream (score : Similarity) (tokens : List Token)
    (position : Position) (offset : Nat) :
    (parseStream score (.ofTokens tokens (.endOfInput position offset))).root.SourceShape := by
  apply (grown_root_parseStream score tokens position offset).sourceShape
  refine ⟨rfl, ?_, ?_, ?_⟩ <;> simp [Node.ofKind, Element.kinds]

end Parse

/--
The shape of a tree, whatever the tokens are. At the root there are trivia, units and regions of
what was skipped. A division holds tokens only. A unit has a name and begins with its
identification division; what follows are at most one environment, one data and one procedure
division, in this order, and then nested units. Nothing inside a unit was skipped.
-/
theorem parseStream_shape (score : Similarity) (tokens : List Token) (position : Position)
    (offset : Nat) :
    let root := (parseStream score (.ofTokens tokens (.endOfInput position offset))).root
    root.kind = .sourceUnit ∧
      (∀ t, .token t ∈ root.children → t.isTrivia) ∧
      (∀ m ∈ root.childNodes, m.kind = .programUnit ∨ m.kind = .skipped) ∧
      ∀ n ∈ root.walk.map Prod.fst, n.kind ≠ .custom ∧
        (n.kind.isDivision → n.childNodes = []) ∧
        (n.kind = .programUnit → n.name.isSome ∧
          (∃ held rest, n.children = .node { kind := .identificationDivision } held :: rest ∧
            ∃ (divisions : List Division) (nested : Nat), divisions.Sublist Division.all ∧
              Element.kinds rest =
                divisions.map Division.kind ++ List.replicate nested .programUnit) ∧
          ∀ m ∈ Element.nodesAll n.children, m.kind ≠ .skipped) := by
  intro root
  have hroot : root.SourceShape := sourceShape_root_parseStream score tokens position offset
  refine ⟨hroot.kind, hroot.trivia, ?_, ?_⟩
  · intro m hm
    exact hroot.regions m.kind (List.mem_map_of_mem hm)
  · intro n hn
    rw [Node.map_fst_walk] at hn
    rcases List.mem_cons.1 hn with rfl | hn
    · simp [hroot.kind, NodeKind.isDivision]
    · have hproper := hroot.proper n hn
      refine ⟨hproper.known.2, hproper.division, ?_⟩
      intro hkind
      have hunit := hproper.unit hkind
      obtain ⟨held, rest, hchildren, divisions, nested, hkinds, hsublist, -⟩ := hunit.ordered
      rw [List.append_nil] at hsublist
      exact ⟨hunit.named,
        ⟨held, rest, hchildren, divisions, nested, hsublist, hkinds⟩, hunit.placed⟩

namespace Element

/-- No two neighbours are both regions of what was skipped. -/
def Apart (es : List Element) : Prop :=
  es.IsChain fun e f => ¬(e.isSkipped ∧ f.isSkipped)

/-- No two regions are neighbours, among some elements or anywhere below them. -/
structure Tidy (es : List Element) : Prop where
  apart : Apart es
  below : ∀ m ∈ nodesAll es, Apart m.children

mutual
theorem mem_nodes_of_below {e : Element} {n m : Node} (hn : n ∈ e.nodes)
    (hm : m ∈ nodesAll n.children) : m ∈ e.nodes := by
  cases e with
  | token t => simp [nodes] at hn
  | node heading children =>
    rw [nodes] at hn ⊢
    rcases List.mem_cons.1 hn with rfl | hn
    · exact List.mem_cons_of_mem _ hm
    · exact List.mem_cons_of_mem _ (mem_nodesAll_of_below hn hm)

theorem mem_nodesAll_of_below {es : List Element} {n m : Node} (hn : n ∈ nodesAll es)
    (hm : m ∈ nodesAll n.children) : m ∈ nodesAll es := by
  cases es with
  | nil => simp at hn
  | cons e es =>
    rw [nodesAll] at hn ⊢
    rcases List.mem_append.1 hn with hn | hn
    · exact List.mem_append_left _ (mem_nodes_of_below hn hm)
    · exact List.mem_append_right _ (mem_nodesAll_of_below hn hm)
end

variable {es fs : List Element}

theorem isSkipped_of_placed (h : ∀ m ∈ nodesAll es, m.kind ≠ .skipped) {e : Element}
    (he : e ∈ es) :
    e.isSkipped = false := by
  cases e with
  | token t => rfl
  | node heading children =>
    have hkind := h ⟨heading, children⟩ (mem_nodesAll.2 ⟨_, he, by simp [nodes]⟩)
    simpa [isSkipped] using hkind

theorem Apart.of_placed (h : ∀ m ∈ nodesAll es, m.kind ≠ .skipped) : Apart es := by
  apply List.isChain_iff_forall_rel_of_append_cons_cons.2
  intro e f before after hes
  have he : e ∈ es := by simp [hes]
  simp [isSkipped_of_placed h he]

theorem Tidy.of_placed (h : ∀ m ∈ nodesAll es, m.kind ≠ .skipped) : Tidy es where
  apart := .of_placed h
  below := by
    intro n hn
    apply Apart.of_placed
    intro m hm
    exact h m (mem_nodesAll_of_below hn hm)

theorem tidy_append : Tidy (es ++ fs) ↔
    Tidy es ∧ Tidy fs ∧ ∀ e ∈ es.getLast?, ∀ f ∈ fs.head?, ¬(e.isSkipped ∧ f.isSkipped) := by
  constructor
  · rintro ⟨hapart, hbelow⟩
    rw [nodesAll_append, List.forall_mem_append] at hbelow
    obtain ⟨hes, hfs, hseam⟩ := List.isChain_append.1 hapart
    exact ⟨⟨hes, hbelow.1⟩, ⟨hfs, hbelow.2⟩, hseam⟩
  · rintro ⟨hes, hfs, hseam⟩
    refine ⟨List.isChain_append.2 ⟨hes.apart, hfs.apart, hseam⟩, ?_⟩
    rw [nodesAll_append, List.forall_mem_append]
    exact ⟨hes.below, hfs.below⟩

theorem tidy_singleton {heading : Heading} : Tidy [.node heading es] ↔ Tidy es := by
  constructor
  · rintro ⟨-, hbelow⟩
    rw [nodesAll_singleton_node, List.forall_mem_cons] at hbelow
    exact ⟨hbelow.1, hbelow.2⟩
  · rintro ⟨hapart, hbelow⟩
    refine ⟨List.isChain_singleton _, ?_⟩
    rw [nodesAll_singleton_node, List.forall_mem_cons]
    exact ⟨hapart, hbelow⟩

theorem Tidy.append_placed (hes : Tidy es) (hfs : ∀ m ∈ nodesAll fs, m.kind ≠ .skipped) :
    Tidy (es ++ fs) := by
  apply tidy_append.2
  refine ⟨hes, .of_placed hfs, ?_⟩
  intro e _ f hf
  simp [isSkipped_of_placed hfs (List.mem_of_head? hf)]

/-- What is skipped may join a region, if it does not itself begin with one. -/
theorem Tidy.pushSkipped {n : Node} (hn : Tidy n.children) (hes : Tidy es)
    (hhead : ∀ e ∈ es.head?, e.isSkipped = false) : Tidy (n.pushSkipped es).children := by
  by_cases hnil : es = []
  · rwa [hnil, Node.pushSkipped_nil]
  obtain ⟨before, heading, held, hkind, hchildren, hpush⟩ | ⟨hlast, hpush⟩ :=
    n.pushSkipped_cases hnil
  · rw [hchildren] at hn
    obtain ⟨hbefore, hheld, hseam⟩ := tidy_append.1 hn
    have hjoined : Tidy (held ++ es) := by
      apply tidy_append.2
      refine ⟨tidy_singleton.1 hheld, hes, ?_⟩
      intro e _ f hf
      simp [hhead f hf]
    rw [hpush]
    apply tidy_append.2
    refine ⟨hbefore, tidy_singleton.2 hjoined, ?_⟩
    simpa [isSkipped] using hseam
  · rw [hpush]
    apply tidy_append.2
    refine ⟨hn, tidy_singleton.2 hes, ?_⟩
    intro e he f _
    simp [hlast e he]

theorem adjacentSkippedCount_eq_zero (h : Apart es) : Node.adjacentSkippedCount es = 0 := by
  fun_induction Node.adjacentSkippedCount es with
  | case1 e f rest ih =>
    obtain ⟨hpair, hrest⟩ := List.isChain_cons_cons.1 h
    simp [ih hrest, hpair]
  | case2 => rfl

end Element

namespace Parse

theorem Wreck.tidy {es : List Element} (h : Wreck es) : Element.Tidy es := by
  induction h with
  | innermost h => exact .of_placed h.placed
  | @enclosing es inner h hinner ih =>
    apply Element.tidy_append.2
    refine ⟨.of_placed h.placed, Element.tidy_singleton.2 ih, ?_⟩
    intro e he f _
    simp [Element.isSkipped_of_placed h.placed (List.mem_of_getLast? he)]

theorem Grows.tidy {n n' : Node} (h : Grows n n') (hn : Element.Tidy n.children) :
    Element.Tidy n'.children := by
  cases h with
  | trivia hgap => exact hn.append_placed (by simp)
  | @unit u hu hkind =>
    apply hn.append_placed
    simp only [Node.toElement, Element.nodesAll_singleton_node, List.forall_mem_cons]
    exact ⟨by simp [hkind], hu.shape.placed⟩
  | skips ts =>
    apply hn.pushSkipped (.of_placed (by simp))
    simp [Element.isSkipped]
  | @wreck es hwreck ts =>
    apply hn.pushSkipped (hwreck.tidy.append_placed (by simp))
    exact (hwreck.founded.append _).isSkipped_head

theorem Grown.tidy {n n' : Node} (h : Grown n n') (hn : Element.Tidy n.children) :
    Element.Tidy n'.children := by
  induction h with
  | refl => exact hn
  | tail _ hgrows ih => exact hgrows.tidy ih

end Parse

/--
In no tree, whatever the tokens are, do two regions of what was skipped stand side by side.
-/
theorem parseStream_regions_apart (score : Similarity) (tokens : List Token)
    (position : Position) (offset : Nat) :
    let root := (parseStream score (.ofTokens tokens (.endOfInput position offset))).root
    root.adjacentSkipped = [] ∧
      ∀ n ∈ root.walk.map Prod.fst, ∀ e f before after, n.children = before ++ e :: f :: after →
        ¬(e.isSkipped ∧ f.isSkipped) := by
  intro root
  have htidy : Element.Tidy root.children := by
    apply (grown_root_parseStream score tokens position offset).tidy
    exact .of_placed (by simp [Node.ofKind])
  have hapart : ∀ n ∈ root.walk.map Prod.fst, Element.Apart n.children := by
    rw [Node.map_fst_walk, List.forall_mem_cons]
    exact ⟨htidy.apart, htidy.below⟩
  constructor
  · apply List.flatMap_eq_nil_iff.2
    rintro ⟨n, depth⟩ hn
    have hcount := Element.adjacentSkippedCount_eq_zero (hapart n (List.mem_map_of_mem hn))
    simp [hcount]
  · intro n hn e f before after hchildren
    exact List.isChain_iff_forall_rel_of_append_cons_cons.1 (hapart n hn) hchildren

end CobolCompanion
