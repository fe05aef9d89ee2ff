import CobolCompanion.Proofs.Condensed
import CobolCompanion.Proofs.OpenUnits

namespace CobolCompanion

open Parse

namespace Element

@[simp] theorem kinds_append (es fs : List Element) :
    kinds (es ++ fs) = kinds es ++ kinds fs := by
  simp [kinds]

@[simp] theorem kinds_map_token (ts : List Token) : kinds (ts.map .token) = [] := by
  induction ts with
  | nil => rfl
  | cons t ts ih => exact ih

@[simp] theorem kinds_singleton_node (heading : Heading) (children : List Element) :
    kinds [.node heading children] = [heading.kind] := rfl

end Element

namespace Parse

/--
The kinds of the nodes behind an identification division, if the given divisions may still come:
divisions in their order, each at most once, and nested units only when no more divisions may
come.
-/
def InOrder (coming : List Division) (kinds : List NodeKind) : Prop :=
  ∃ (present : List Division) (nested : Nat),
    kinds = present.map Division.kind ++ List.replicate nested .programUnit ∧
      (present ++ coming).Sublist Division.all ∧ (nested = 0 ∨ coming = [])

namespace InOrder

variable {d : Division} {ds : List Division} {kinds : List NodeKind}

theorem start : InOrder Division.all [] :=
  ⟨[], 0, rfl, .refl _, .inl rfl⟩

theorem pass (h : InOrder (d :: ds) kinds) : InOrder ds kinds := by
  obtain ⟨present, nested, rfl, hsublist, hnested⟩ := h
  have hnone := hnested.resolve_right (List.cons_ne_nil d ds)
  have hfewer := (List.sublist_cons_self d ds).append_left present
  exact ⟨present, nested, rfl, hfewer.trans hsublist, .inl hnone⟩

theorem division (h : InOrder (d :: ds) kinds) : InOrder ds (kinds ++ [d.kind]) := by
  obtain ⟨present, nested, rfl, hsublist, hnested⟩ := h
  obtain rfl := hnested.resolve_right (List.cons_ne_nil d ds)
  exact ⟨present ++ [d], 0, by simp, by simpa using hsublist, .inl rfl⟩

theorem unit (h : InOrder [] kinds) : InOrder [] (kinds ++ [.programUnit]) := by
  obtain ⟨present, nested, rfl, hsublist, -⟩ := h
  refine ⟨present, nested + 1, ?_, hsublist, .inr rfl⟩
  rw [List.replicate_succ', List.append_assoc]

end InOrder

end Parse

/--
A program unit in which the given divisions may still come: it has a name, its identification
division stands before everything else, what follows is in order, and nothing in it was skipped.
-/
structure Node.UnitShape (coming : List Division) (n : Node) : Prop where
  named : n.name.isSome
  ordered : ∃ held rest, n.children = .node { kind := .identificationDivision } held :: rest ∧
    InOrder coming (Element.kinds rest)
  placed : ∀ m ∈ Element.nodesAll n.children, m.kind ≠ .skipped

/-- What every node below the root keeps to. -/
structure Node.Proper (n : Node) : Prop where
  known : n.kind ≠ .sourceUnit ∧ n.kind ≠ .custom
  division : n.kind.isDivision → n.childNodes = []
  unit : n.kind = .programUnit → n.UnitShape []

theorem Node.Proper.of_skipped {n : Node} (h : n.kind = .skipped) : n.Proper := by
  refine ⟨by simp [h], ?_, ?_⟩ <;> simp [h, NodeKind.isDivision]

theorem Node.proper_division {heading : Heading} (h : heading.kind.isDivision)
    (ts : List Token) :
    Node.Proper ⟨heading, ts.map .token⟩ := by
  have hother (kind : NodeKind) (hkind : ¬ kind.isDivision) : heading.kind ≠ kind := by
    rintro rfl
    exact hkind h
  refine ⟨⟨hother _ (by decide), hother _ (by decide)⟩, fun _ => ?_, fun hunit => ?_⟩
  · have hnone : (ts.map Element.token).filterMap Element.asNode? = [] := by
      simp [Element.asNode?]
    exact hnone
  · exact absurd hunit (hother _ (by decide))

/-- A unit under construction, with all that has been attached to it. -/
structure Node.Growing (coming : List Division) (n : Node) : Prop where
  shape : n.UnitShape coming
  proper : ∀ m ∈ Element.nodesAll n.children, m.Proper

namespace Node.Growing

variable {n : Node} {ds ds' : List Division} {es : List Element}

/-- What is added to a unit has to fit behind what it has. -/
theorem pushAll (h : n.Growing ds) (hproper : ∀ m ∈ Element.nodesAll es, m.Proper)
    (hplaced : ∀ m ∈ Element.nodesAll es, m.kind ≠ .skipped)
    (horder : ∀ {kinds}, InOrder ds kinds → InOrder ds' (kinds ++ Element.kinds es)) :
    (n.pushAll es).Growing ds' := by
  obtain ⟨held, rest, hchildren, hrest⟩ := h.shape.ordered
  refine ⟨⟨h.shape.named, ⟨held, rest ++ es, ?_, ?_⟩, ?_⟩, ?_⟩
  · rw [Node.pushAll, hchildren, List.cons_append]
  · rw [Element.kinds_append]
    exact horder hrest
  · rw [Node.pushAll, Element.nodesAll_append, List.forall_mem_append]
    exact ⟨h.shape.placed, hplaced⟩
  · rw [Node.pushAll, Element.nodesAll_append, List.forall_mem_append]
    exact ⟨h.proper, hproper⟩

theorem pushTokens (h : n.Growing ds) (ts : List Token) :
    (n.pushAll (ts.map .token)).Growing ds := by
  apply h.pushAll
  · simp
  · simp
  · simp

theorem pass {d : Division} (h : n.Growing (d :: ds)) : n.Growing ds := by
  obtain ⟨held, rest, hchildren, hrest⟩ := h.shape.ordered
  exact ⟨⟨h.shape.named, ⟨held, rest, hchildren, hrest.pass⟩, h.shape.placed⟩, h.proper⟩

theorem pushDivision {d : Division} (h : n.Growing (d :: ds)) (gap ts : List Token) :
    (n.pushAll (gap.map .token ++ [.node { kind := d.kind } (ts.map .token)])).Growing ds := by
  have hkind : d.kind.isDivision := by cases d <;> rfl
  apply h.pushAll
  · have hproper : Node.Proper ⟨{ kind := d.kind }, ts.map .token⟩ := proper_division hkind ts
    simpa using hproper
  · cases d <;> simp [Division.kind]
  · intro kinds hkinds
    simpa using hkinds.division

theorem toProper (h : n.Growing []) (hkind : n.kind = .programUnit) : n.Proper := by
  refine ⟨by simp [hkind], ?_, fun _ => h.shape⟩
  simp [hkind, NodeKind.isDivision]

theorem pushUnit {u : Node} (h : n.Growing []) (hu : u.Growing [])
    (hkind : u.kind = .programUnit) :
    (n.push u.toElement).Growing [] := by
  show (n.pushAll [u.toElement]).Growing []
  apply h.pushAll
  · simp only [Node.toElement, Element.nodesAll_singleton_node, List.forall_mem_cons]
    exact ⟨hu.toProper hkind, hu.proper⟩
  · simp only [Node.toElement, Element.nodesAll_singleton_node, List.forall_mem_cons]
    exact ⟨by simp [hkind], hu.shape.placed⟩
  · intro kinds hkinds
    simpa [Node.toElement, hkind] using hkinds.unit

end Node.Growing

namespace Parse

/-- The divisions that may still come in the innermost unit. -/
def Phase.coming : Phase → List Division
  | .sourceUnit => []
  | .programUnit divisions => divisions

/-- Open units, the innermost first. Only in the innermost divisions may still come. -/
def Shapes : List Division → List Frame → Prop
  | _, [] => True
  | coming, f :: fs => f.node.Growing coming ∧ Shapes [] fs

namespace Shapes

variable {ds ds' : List Division} {frames : List Frame}

theorem proper (h : Shapes ds frames) :
    ∀ f ∈ frames, ∀ m ∈ Element.nodesAll f.node.children, m.Proper := by
  induction frames generalizing ds with
  | nil => simp
  | cons f fs ih =>
    intro g hg
    rcases List.mem_cons.1 hg with rfl | hg
    · exact h.1.proper
    · exact ih h.2 g hg

/-- What is read in a unit leaves the units around it as they are. -/
theorem reads {s s' : State} {es : List Element} (h : Shapes ds s.context.frames)
    (hreads : Reads s es s')
    (hgrows : ∀ {n : Node}, n.Growing ds → (n.pushAll es).Growing ds') :
    Shapes ds' s'.context.frames := by
  rw [hreads.context]
  cases hframes : s.context.frames with
  | nil =>
    rw [Context.frames_modify_eq_nil hframes]
    trivial
  | cons f fs =>
    rw [hframes] at h
    rw [Context.frames_modify_eq_cons hframes]
    exact ⟨hgrows h.1, h.2⟩

theorem shiftTrivia {s : State} (h : Shapes ds s.context.frames) :
    Shapes ds s.shiftTrivia.context.frames := by
  obtain ⟨gap, -, hreads⟩ := s.exists_reads_shiftTrivia
  apply h.reads hreads
  intro n hn
  exact hn.pushTokens gap

end Shapes

/-- What holds of the open units between two steps. -/
structure Shapely (c : Configuration) : Prop where
  orderly : Orderly c
  shapes : Shapes c.phase.coming c.state.context.frames

variable {score : Similarity}

theorem Shapely.of_outside {s : State} (h : Orderly ⟨.sourceUnit, s⟩) :
    Shapely ⟨.sourceUnit, s⟩ := by
  refine ⟨h, ?_⟩
  have hframes : s.context.frames = [] := h.outside.1 rfl
  rw [hframes]
  trivial

theorem Shapely.initial (tokens : List Token) (position : Position) (offset : Nat) :
    Shapely ⟨.sourceUnit, .initial (.ofTokens tokens (.endOfInput position offset))⟩ :=
  .of_outside (.initial tokens position offset)

theorem FacesUnit.coming_eq_nil {phase : Phase} {s : State} (h : FacesUnit score phase s) :
    phase.coming = [] := by
  match phase with
  | .sourceUnit => rfl
  | .programUnit [] => rfl
  | .programUnit (_ :: _) => exact h.elim

def unitNode (name : String) (held : List Token) : Node :=
  { kind := .programUnit
    name := some name
    children := [.node { kind := .identificationDivision } (held.map .token)] }

theorem growing_unitNode (name : String) (held : List Token) :
    (unitNode name held).Growing Division.all := by
  have hdivision : Node.Proper ⟨{ kind := .identificationDivision }, held.map .token⟩ :=
    Node.proper_division rfl held
  refine ⟨⟨rfl, ⟨held.map .token, [], rfl, .start⟩, ?_⟩, ?_⟩
  · simp [unitNode]
  · simpa [unitNode] using hdivision

theorem exists_unitNode_of_openUnit {s s' : State} (h : openUnit score s = .ok () s')
    (hs : s.stream.sentinel.isEndOfInput) :
    ∃ held name, s'.context =
        { s.context with frames := ⟨unitNode name held, .programUnit⟩ :: s.context.frames } ∧
      s.unread = held ++ s'.unread ∧ s'.openNames = upper name :: s.openNames := by
  obtain ⟨held, name, s₁, hreads, rfl⟩ := exists_reads_of_openUnit h hs
  refine ⟨held, programNameOf name, ?_, ?_, ?_⟩
  · exact congrArg (Context.modify · ({ · with name := some (programNameOf name) }))
      hreads.context
  · change s.unread = held ++ s₁.unread
    simpa [Element.leaves] using hreads.unread
  · exact congrArg (upper (programNameOf name) :: ·) hreads.openNames

theorem context_of_openUnit {s s' : State} (h : openUnit score s = .ok () s')
    (hs : s.stream.sentinel.isEndOfInput) :
    ∃ held name, s'.context =
      { s.context with frames := ⟨unitNode name held, .programUnit⟩ :: s.context.frames } := by
  obtain ⟨held, name, hcontext, -⟩ := exists_unitNode_of_openUnit h hs
  exact ⟨held, name, hcontext⟩

/-- A unit that is closed goes to the unit around it. -/
theorem frames_closeUnit {s : State} {f : Frame} {fs : List Frame}
    (hframes : s.context.frames = f :: fs) :
    (closeUnit s).state.context.frames =
      match fs with
      | [] => []
      | g :: gs => g.modify (·.push f.node.toElement) :: gs := by
  have hleave := State.context_leaveUnit hframes
  cases fs with
  | nil =>
    have hnone : s.leaveUnit.context.frames = [] := by
      rw [hleave]
      rfl
    rw [closeUnit_of_outermost hnone]
    exact State.frames_shiftTrivia_eq_nil_iff.2 hnone
  | cons g gs =>
    have hsome : s.leaveUnit.context.frames = g.modify (·.push f.node.toElement) :: gs := by
      rw [hleave]
      rfl
    rw [closeUnit_of_nested (by simp [hsome])]
    exact hsome

theorem coming_closeUnit (s : State) : (closeUnit s).phase.coming = [] := by
  unfold closeUnit
  split <;> rfl

theorem Shapely.closeUnit {s : State} {f : Frame} {fs : List Frame}
    (h : Orderly (Parse.closeUnit s)) (hframes : s.context.frames = f :: fs)
    (hkind : f.node.kind = .programUnit) (hshapes : Shapes [] s.context.frames) :
    Shapely (Parse.closeUnit s) := by
  refine ⟨h, ?_⟩
  rw [hframes] at hshapes
  rw [coming_closeUnit, frames_closeUnit hframes]
  cases fs with
  | nil => trivial
  | cons g gs => exact ⟨hshapes.2.1.pushUnit hshapes.1 hkind, hshapes.2.2⟩

theorem Shapely.exists_unit_of_endProgram {s s' : State} (h : Shapely ⟨.programUnit [], s⟩)
    (hwords : Production.endProgram score s = .ok () s') :
    ∃ f fs, s'.context.frames = f :: fs ∧ f.node.kind = .programUnit ∧
      Shapes [] s'.context.frames ∧ s'.context.root = s.context.root := by
  obtain ⟨f, fs, hframes, hf, -⟩ := h.orderly.exists_unit
  obtain ⟨ts, _, _, name, _, s₁, hreads, -, rfl⟩ :=
    exists_reads_of_endProgram hwords h.orderly.sentinel
  rw [checkTrailer_context]
  refine ⟨_, fs, hreads.frames_eq_cons hframes, hf.kind, ?_, ?_⟩
  · apply h.shapes.reads hreads
    intro n hn
    exact hn.pushTokens ts
  · rw [hreads.context, Context.root_modify (by simp [hframes])]

/-- The machine keeps the shape of the units that it builds. -/
theorem Shapely.step {c : Configuration} (h : Shapely c) : Shapely (step score c) := by
  have hadvance := advance_step score c
  have horderly : Orderly (Parse.step score c) := h.orderly.step
  have hs := h.orderly.sentinel
  have hshapes := h.shapes
  generalize Parse.step score c = c' at hadvance horderly
  cases hadvance with
  | finishes hend => exact .of_outside horderly
  | skips hmore hother => exact .of_outside horderly
  | @opens phase s s' hfaces hopen =>
    obtain ⟨held, name, hcontext⟩ := context_of_openUnit hopen hs
    refine ⟨horderly, ?_⟩
    rw [hfaces.coming_eq_nil] at hshapes
    rw [hcontext]
    exact ⟨growing_unitNode name held, hshapes.shiftTrivia⟩
  | @passes d ds s hheader =>
    refine ⟨horderly, ?_⟩
    obtain ⟨f, fs, hframes, -⟩ := h.orderly.exists_unit
    rw [hframes] at hshapes ⊢
    obtain ⟨hgrowing, hrest⟩ := hshapes
    exact ⟨hgrowing.pass, hrest⟩
  | @reads d ds s s' hheader hdivision =>
    obtain ⟨gap, ts, -, hreads⟩ := exists_reads_of_division hdivision hs
    refine ⟨horderly, hshapes.reads hreads ?_⟩
    intro n hn
    exact hn.pushDivision gap ts
  | @leaves s hend htrailer =>
    obtain ⟨f, fs, hframes, hf, -⟩ := h.orderly.exists_unit
    exact .closeUnit horderly hframes hf.kind hshapes
  | @ends s s' hend htrailer hown hwords =>
    obtain ⟨f, fs, hframes, hkind, hended, -⟩ := h.exists_unit_of_endProgram hwords
    exact .closeUnit horderly hframes hkind hended
  | fails hfails => exact .of_outside horderly

end Parse

end CobolCompanion
