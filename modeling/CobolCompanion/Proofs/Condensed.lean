import CobolCompanion.Proofs.Splicing
import CobolCompanion.Proofs.Wording

namespace CobolCompanion

open Parse

namespace Element

mutual
def condense : Element → List Element
  | token t => if t.isTrivia then [] else [token t.unplaced]
  | node heading children => [node heading (condenseAll children)]

/-- What remains of elements that stand one behind the other. -/
def condenseAll : List Element → List Element
  | [] => []
  | e :: es => splice (condense e) (condenseAll es)
end

@[simp] theorem condenseAll_nil : condenseAll [] = [] := by
  simp [condenseAll]

theorem condenseAll_append (es fs : List Element) :
    condenseAll (es ++ fs) = splice (condenseAll es) (condenseAll fs) := by
  induction es with
  | nil => simp [splice]
  | cons e es ih => rw [List.cons_append, condenseAll, condenseAll, ih, splice_assoc]

@[simp] theorem condenseAll_singleton_node (heading : Heading) (children : List Element) :
    condenseAll [node heading children] = [node heading (condenseAll children)] := by
  simp [condenseAll, condense, splice_nil]

theorem condenseAll_map_token (ts : List Token) :
    condenseAll (ts.map .token) = (wording ts).map .token := by
  induction ts with
  | nil => simp
  | cons t ts ih =>
    rw [List.map_cons, condenseAll, ih]
    cases ht : t.isTrivia with
    | true =>
      rw [wording_cons_of_trivia ht]
      simp [condense, ht, splice]
    | false =>
      rw [wording_cons_of_significant ht]
      simp only [condense, ht, Bool.false_eq_true, if_false, splice, List.map_cons]
      apply join_eq_cons
      intro f hf
      rfl

theorem BeginsWithDivision.isSkipped_head {es : List Element} (h : BeginsWithDivision es) :
    ∀ e ∈ es.head?, e.isSkipped = false := by
  obtain ⟨heading, held, rest, rfl, hdivision⟩ := h
  cases hkind : heading.kind <;> simp [isSkipped, hkind, NodeKind.isDivision] at hdivision ⊢

theorem BeginsWithDivision.condenseAll {es : List Element} (h : BeginsWithDivision es) :
    BeginsWithDivision (condenseAll es) := by
  obtain ⟨heading, held, rest, rfl, hdivision⟩ := h
  have hfirst : BeginsWithDivision [node heading (Element.condenseAll held)] :=
    ⟨heading, _, [], rfl, hdivision⟩
  have hplain : (node heading (Element.condenseAll held)).isSkipped = false :=
    hfirst.isSkipped_head _ rfl
  have hcons : Element.condenseAll (node heading held :: rest) =
      node heading (Element.condenseAll held) :: Element.condenseAll rest := by
    rw [Element.condenseAll, condense, splice]
    apply join_eq_cons
    intro f hf
    exact merge?_eq_none (.inl hplain)
  rw [hcons]
  exact ⟨heading, _, _, rfl, hdivision⟩

def kinds (es : List Element) : List NodeKind :=
  (es.filterMap asNode?).map (·.kind)

theorem mem_kinds_splice {kind : NodeKind} (es fs : List Element) :
    kind ∈ kinds (splice es fs) ↔ kind ∈ kinds es ∨ kind ∈ kinds fs := by
  have hcons (e : Element) (es : List Element) : kinds (e :: es) = kinds [e] ++ kinds es := by
    rw [kinds, kinds, kinds, ← List.map_append, ← List.filterMap_append]
    rfl
  fun_induction splice es fs with
  | case1 fs => simp [kinds]
  | case2 e fs =>
    cases fs with
    | nil => simp [join, kinds]
    | cons f fs =>
      obtain ⟨heading, held, heading', held', rfl, rfl, h, h', hmerge⟩ | ⟨-, hmerge⟩ :=
        merge?_cases e f
      · rw [join_of_merge? hmerge]
        simp [kinds, asNode?, h, h']
      · rw [join_eq_cons (by simpa using hmerge), hcons e, List.mem_append]
  | case3 e e' before fs ih =>
    rw [hcons e (splice _ _), hcons e (e' :: before), List.mem_append,
      List.mem_append, or_assoc]
    exact or_congr_right ih

theorem mem_kinds_condenseAll {kind : NodeKind} (es : List Element) :
    kind ∈ kinds (condenseAll es) ↔ kind ∈ kinds es := by
  induction es with
  | nil => simp
  | cons e es ih =>
    rw [condenseAll, mem_kinds_splice, ih]
    cases e with
    | token t => cases ht : t.isTrivia <;> simp [condense, ht, kinds, asNode?]
    | node heading children => simp [condense, kinds, asNode?]

end Element

namespace Node

def condensed (n : Node) : Node :=
  { n with children := Element.condenseAll n.children }

variable {n m : Node}

theorem condensed_eq_iff : n.condensed = m.condensed ↔
    n.toHeading = m.toHeading ∧ Element.condenseAll n.children =
      Element.condenseAll m.children := by
  simp [condensed]

section
variable (h : n.condensed = m.condensed)
include h

theorem condensed_pushTokens {ts us : List Token}
    (hwords : wording ts = wording us) :
    (n.pushTokens ts).condensed = (m.pushTokens us).condensed := by
  obtain ⟨hheading, hchildren⟩ := condensed_eq_iff.1 h
  refine condensed_eq_iff.2 ⟨hheading, ?_⟩
  rw [pushTokens, pushTokens, Element.condenseAll_append, Element.condenseAll_append,
    Element.condenseAll_map_token, Element.condenseAll_map_token, hchildren, hwords]

theorem condensed_push {k l : Node} (hinner : k.condensed = l.condensed) :
    (n.push k.toElement).condensed = (m.push l.toElement).condensed := by
  obtain ⟨hheading, hchildren⟩ := condensed_eq_iff.1 h
  obtain ⟨hheading', hchildren'⟩ := condensed_eq_iff.1 hinner
  refine condensed_eq_iff.2 ⟨hheading, ?_⟩
  rw [push, push, Element.condenseAll_append, Element.condenseAll_append, toElement, toElement,
    Element.condenseAll_singleton_node, Element.condenseAll_singleton_node,
    hchildren, hheading', hchildren']

theorem condensed_setName (name : Option String) :
    ({ n with name } : Node).condensed = ({ m with name } : Node).condensed := by
  obtain ⟨hheading, hchildren⟩ := condensed_eq_iff.1 h
  exact condensed_eq_iff.2 ⟨congrArg ({ · with name }) hheading, hchildren⟩

theorem mem_kinds_of_condensed {kind : NodeKind} :
    kind ∈ n.childNodes.map (·.kind) ↔ kind ∈ m.childNodes.map (·.kind) := by
  have hmem := @Element.mem_kinds_condenseAll kind n.children
  rw [(condensed_eq_iff.1 h).2, Element.mem_kinds_condenseAll] at hmem
  exact hmem.symm

end

theorem condenseAll_pushSkipped (n : Node) {es : List Element} (hes : es ≠ [])
    (hhead : ∀ e ∈ (Element.condenseAll es).head?, e.isSkipped = false) :
    Element.condenseAll (n.pushSkipped es).children =
      Element.splice (Element.condenseAll n.children)
        [.node { kind := .skipped } (Element.condenseAll es)] := by
  obtain ⟨before, heading, held, hkind, hchildren, hpush⟩ | ⟨-, hpush⟩ :=
    n.pushSkipped_cases hes
  · have hmerge : Element.merge? (.node heading (Element.condenseAll held))
        (.node { kind := .skipped } (Element.condenseAll es)) =
        some (.node heading (Element.condenseAll held ++ Element.condenseAll es)) := by
      simp [Element.merge?, hkind]
    rw [hpush, hchildren, Element.condenseAll_append, Element.condenseAll_append,
      Element.splice_assoc, Element.condenseAll_singleton_node,
      Element.condenseAll_singleton_node, Element.condenseAll_append,
      Element.splice_eq_append hhead]
    change _ = Element.splice _ (Element.join _ _)
    rw [Element.join_of_merge? hmerge]
  · rw [hpush, push, Element.condenseAll_append, Element.condenseAll_singleton_node]

theorem condensed_pushSkipped (h : n.condensed = m.condensed) {es fs : List Element}
    (hes : es ≠ []) (hfs : fs ≠ []) (hsame : Element.condenseAll es = Element.condenseAll fs)
    (hhead : ∀ e ∈ (Element.condenseAll es).head?, e.isSkipped = false) :
    (n.pushSkipped es).condensed = (m.pushSkipped fs).condensed := by
  have hheading (n : Node) (es : List Element) : (n.pushSkipped es).toHeading =
      n.toHeading := by
    unfold pushSkipped
    repeat' split
    all_goals rfl
  obtain ⟨hheadings, hchildren⟩ := condensed_eq_iff.1 h
  refine condensed_eq_iff.2 ⟨?_, ?_⟩
  · rw [hheading, hheading, hheadings]
  · rw [condenseAll_pushSkipped n hes hhead,
      condenseAll_pushSkipped m hfs (hsame ▸ hhead), hchildren, hsame]

end Node

namespace Parse

/-- Contexts that condense to the same. -/
structure Context.Resembles (c d : Context) : Prop where
  root : c.root.node.condensed = d.root.node.condensed
  frames : c.frames.map (·.node.condensed) = d.frames.map (·.node.condensed)

namespace Context.Resembles

variable {c d : Context} (h : c.Resembles d)
include h

theorem frames_length : c.frames.length = d.frames.length := by
  simpa using congrArg List.length h.frames

/-- The open nodes correspond one by one. -/
theorem frames_eq_cons {f : Frame} {fs : List Frame} (hframes : c.frames = f :: fs) :
    ∃ g gs, d.frames = g :: gs ∧ f.node.condensed = g.node.condensed ∧
      fs.map (·.node.condensed) = gs.map (·.node.condensed) := by
  have hmap := h.frames
  rw [hframes] at hmap
  cases hd : d.frames with
  | nil => simp [hd] at hmap
  | cons g gs =>
    rw [hd, List.map_cons, List.map_cons, List.cons.injEq] at hmap
    exact ⟨g, gs, rfl, hmap⟩

theorem frames_eq_nil (hframes : c.frames = []) : d.frames = [] := by
  apply List.length_eq_zero_iff.1
  rw [← h.frames_length, hframes, List.length_nil]

theorem modify {change change' : Node → Node}
    (hchange : ∀ {n m : Node}, n.condensed = m.condensed →
      (change n).condensed = (change' m).condensed) :
    (c.modify change).Resembles (d.modify change') := by
  cases hframes : c.frames with
  | nil =>
    have hframes' := h.frames_eq_nil hframes
    simp only [Context.modify, hframes, hframes']
    exact ⟨hchange h.root, rfl⟩
  | cons f fs =>
    obtain ⟨g, gs, hframes', hnode, hrest⟩ := h.frames_eq_cons hframes
    simp only [Context.modify, hframes, hframes']
    refine ⟨h.root, ?_⟩
    rw [List.map_cons, List.map_cons, hrest]
    exact congrArg (· :: _) (hchange hnode)

theorem push (n : Node) : (c.push n).Resembles (d.push n) :=
  ⟨h.root, congrArg (n.condensed :: ·) h.frames⟩

theorem close : c.close.Resembles d.close := by
  cases hframes : c.frames with
  | nil => simpa [Context.close, Context.pop?, hframes, h.frames_eq_nil hframes] using h
  | cons f fs =>
    obtain ⟨g, gs, hframes', hnode, hrest⟩ := h.frames_eq_cons hframes
    simp only [Context.close, Context.pop?, hframes, hframes']
    have hinner : Context.Resembles { c with frames := fs } { d with frames := gs } :=
      ⟨h.root, hrest⟩
    exact hinner.modify fun hnodes => Node.condensed_push hnodes hnode

theorem current : c.current.condensed = d.current.condensed := by
  cases hframes : c.frames with
  | nil => simpa [Context.current, top, hframes, h.frames_eq_nil hframes] using h.root
  | cons f fs =>
    obtain ⟨g, gs, hframes', hnode, -⟩ := h.frames_eq_cons hframes
    simpa [Context.current, top, hframes, hframes'] using hnode

end Context.Resembles

theorem Context.condenseAll_spill {es es' : List Element} {fs gs : List Frame}
    (hes : Element.BeginsWithDivision es) (hes' : Element.BeginsWithDivision es')
    (hsame : Element.condenseAll es = Element.condenseAll es')
    (hfs : ∀ f ∈ fs, Element.BeginsWithDivision f.node.children)
    (hgs : ∀ g ∈ gs, Element.BeginsWithDivision g.node.children)
    (hframes : fs.map (·.node.condensed) = gs.map (·.node.condensed)) :
    Element.condenseAll (spill es fs) = Element.condenseAll (spill es' gs) := by
  induction fs generalizing es es' gs with
  | nil =>
    obtain rfl : gs = [] := by simpa using hframes.symm
    exact hsame
  | cons f fs ih =>
    cases gs with
    | nil => simp at hframes
    | cons g gs =>
      simp only [List.map_cons, List.cons.injEq, List.forall_mem_cons] at hframes hfs hgs
      have hpush := Node.condensed_pushSkipped hframes.1 hes.ne_nil hes'.ne_nil hsame
        hes.condenseAll.isSkipped_head
      apply ih (Node.beginsWithDivision_pushSkipped hfs.1 es)
        (Node.beginsWithDivision_pushSkipped hgs.1 es')
      · exact (Node.condensed_eq_iff.1 hpush).2
      · exact hfs.2
      · exact hgs.2
      · exact hframes.2

theorem Context.Resembles.remnants {c d : Context} (h : c.Resembles d) (hc : c.Founded)
    (hd : d.Founded) : Element.condenseAll c.remnants = Element.condenseAll d.remnants := by
  obtain ⟨f, fs, hframes⟩ := List.exists_cons_of_ne_nil hc.frames_ne_nil
  obtain ⟨g, gs, hframes', hnode, hrest⟩ := h.frames_eq_cons hframes
  have hfs := hc.divisions
  have hgs := hd.divisions
  rw [hframes, List.forall_mem_cons] at hfs
  rw [hframes', List.forall_mem_cons] at hgs
  rw [Context.remnants, Context.remnants, hframes, hframes']
  exact condenseAll_spill hfs.1 hgs.1 (Node.condensed_eq_iff.1 hnode).2 hfs.2 hgs.2 hrest

end Parse

end CobolCompanion
