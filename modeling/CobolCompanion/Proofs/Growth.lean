import CobolCompanion.Proofs.UnitShapes

namespace CobolCompanion

open Parse

namespace Parse

/-- What is in a unit that was given up, as far as it was read. -/
structure Torso (es : List Element) : Prop where
  founded : Element.BeginsWithDivision es
  placed : ∀ m ∈ Element.nodesAll es, m.kind ≠ .skipped
  proper : ∀ m ∈ Element.nodesAll es, m.Proper

/-- What is left of units that were given up: each holds what is left of the one in it. -/
inductive Wreck : List Element → Prop where
  | innermost {es : List Element} (h : Torso es) : Wreck es
  | enclosing {es inner : List Element} (h : Torso es) (hinner : Wreck inner) :
      Wreck (es ++ [.node { kind := .skipped } inner])

theorem Torso.append {es fs : List Element} (h : Torso es)
    (hplaced : ∀ m ∈ Element.nodesAll fs, m.kind ≠ .skipped)
    (hproper : ∀ m ∈ Element.nodesAll fs, m.Proper) : Torso (es ++ fs) where
  founded := h.founded.append fs
  placed := by
    rw [Element.nodesAll_append, List.forall_mem_append]
    exact ⟨h.placed, hplaced⟩
  proper := by
    rw [Element.nodesAll_append, List.forall_mem_append]
    exact ⟨h.proper, hproper⟩

theorem Wreck.founded {es : List Element} (h : Wreck es) : Element.BeginsWithDivision es := by
  cases h with
  | innermost h => exact h.founded
  | enclosing h hinner => exact h.founded.append _

theorem Wreck.ne_nil {es : List Element} (h : Wreck es) : es ≠ [] := h.founded.ne_nil

/-- Nothing was skipped in a unit before it was given up: there is no region to be joined. -/
theorem Torso.pushSkipped {n : Node} {inner : List Element} (h : Torso n.children)
    (hinner : inner ≠ []) :
    (n.pushSkipped inner).children = n.children ++ [.node { kind := .skipped } inner] := by
  obtain ⟨before, heading, held, hkind, hchildren, -⟩ | ⟨-, hpush⟩ := n.pushSkipped_cases hinner
  · have hplaced := h.placed ⟨heading, held⟩
    rw [hchildren] at hplaced
    exact absurd hkind (hplaced (by simp))
  · rw [hpush, Node.push]

theorem Wreck.spill {es : List Element} {frames : List Frame} (h : Wreck es)
    (hframes : ∀ f ∈ frames, Torso f.node.children) : Wreck (Context.spill es frames) := by
  induction frames generalizing es with
  | nil => exact h
  | cons f fs ih =>
    rw [List.forall_mem_cons] at hframes
    apply ih
    · rw [hframes.1.pushSkipped h.ne_nil]
      exact .enclosing hframes.1 h
    · exact hframes.2

theorem Wreck.remnants {c : Context} (hopen : c.frames ≠ [])
    (hframes : ∀ f ∈ c.frames, Torso f.node.children) : Wreck c.remnants := by
  obtain ⟨f, fs, hf⟩ := List.exists_cons_of_ne_nil hopen
  rw [hf, List.forall_mem_cons] at hframes
  rw [Context.remnants, hf]
  exact (Wreck.innermost hframes.1).spill hframes.2

/-- What is attached to the root at once. -/
inductive Grows : Node → Node → Prop where
  | trivia (n : Node) {gap : List Token} (hgap : ∀ t ∈ gap, t.isTrivia) :
      Grows n (n.pushAll (gap.map .token))
  | unit (n : Node) {u : Node} (hu : u.Growing []) (hkind : u.kind = .programUnit) :
      Grows n (n.push u.toElement)
  | skips (n : Node) (ts : List Token) : Grows n (n.pushSkipped (ts.map .token))
  | wreck (n : Node) {es : List Element} (h : Wreck es) (ts : List Token) :
      Grows n (n.pushSkipped (es ++ ts.map .token))

/-- What the machine attaches to the root in any number of steps. -/
abbrev Grown : Node → Node → Prop := Relation.ReflTransGen Grows

def State.rootNode (s : State) : Node := s.context.root.node

theorem Shapes.torsos {ds : List Division} {s : State} (h : Shapes ds s.context.frames)
    (hunits : ∀ f ∈ s.context.frames, OpenUnit f) :
    ∀ f ∈ s.context.frames, Torso f.node.children := by
  intro f hf
  exact ⟨(hunits f hf).founded, (hunits f hf).placed, h.proper f hf⟩

theorem Shapely.torsos {c : Configuration} (h : Shapely c) :
    ∀ f ∈ c.state.context.frames, Torso f.node.children :=
  h.shapes.torsos h.orderly.units

theorem Reads.rootNode_eq {s s' : State} {es : List Element} (h : Reads s es s')
    (hopen : s.context.frames ≠ []) : s'.rootNode = s.rootNode := by
  rw [State.rootNode, h.context, Context.root_modify hopen, State.rootNode]

theorem grown_shiftTrivia (s : State) : Grown s.rootNode s.shiftTrivia.rootNode := by
  obtain ⟨gap, hgap, hreads⟩ := s.exists_reads_shiftTrivia
  by_cases hopen : s.context.frames = []
  · have hroot : s.shiftTrivia.rootNode = s.rootNode.pushAll (gap.map .token) := by
      rw [State.rootNode, hreads.context, Context.modify, hopen]
      rfl
    rw [hroot]
    exact .single (.trivia _ hgap)
  · rw [hreads.rootNode_eq hopen]

theorem grown_skip {s : State} (h : s.context.frames = []) (n : Nat) :
    Grown s.rootNode (s.skip n).rootNode := by
  have hroot : (s.skip n).rootNode =
      s.rootNode.pushSkipped (((s.unread.take n).filter (!·.isEndOfInput)).map .token) := by
    simp only [State.rootNode, State.skip, Context.modify, h]
    rfl
  rw [hroot]
  exact .single (.skips _ _)

theorem grown_closeUnit {s : State} {f : Frame} {fs : List Frame}
    (hframes : s.context.frames = f :: fs) (hkind : f.node.kind = .programUnit)
    (hshapes : Shapes [] s.context.frames) :
    Grown s.rootNode (closeUnit s).state.rootNode := by
  rw [hframes] at hshapes
  have hleave := State.context_leaveUnit hframes
  cases fs with
  | nil =>
    have hroot : s.leaveUnit.rootNode = s.rootNode.push f.node.toElement := by
      rw [State.rootNode, hleave]
      rfl
    have hunit : Grown s.rootNode s.leaveUnit.rootNode := by
      rw [hroot]
      exact .single (.unit _ hshapes.1 hkind)
    rw [closeUnit_of_outermost (by rw [hleave]; rfl)]
    exact hunit.trans (grown_shiftTrivia _)
  | cons g gs =>
    have hroot : s.leaveUnit.rootNode = s.rootNode := by
      rw [State.rootNode, hleave]
      rfl
    rw [closeUnit_of_nested (by rw [hleave]; exact List.cons_ne_nil _ _)]
    change Grown s.rootNode s.leaveUnit.rootNode
    rw [hroot]

variable {score : Similarity}

/-- A unit whose construction goes on is a torso should it be given up. -/
theorem Torso.reads {s s' : State} {es : List Element} (hreads : Reads s es s')
    (h : ∀ f ∈ s.context.frames, Torso f.node.children)
    (hplaced : ∀ m ∈ Element.nodesAll es, m.kind ≠ .skipped)
    (hproper : ∀ m ∈ Element.nodesAll es, m.Proper) :
    ∀ f ∈ s'.context.frames, Torso f.node.children := by
  rw [hreads.context]
  cases hframes : s.context.frames with
  | nil => simp [Context.frames_modify_eq_nil hframes]
  | cons f fs =>
    rw [hframes, List.forall_mem_cons] at h
    rw [Context.frames_modify_eq_cons hframes, List.forall_mem_cons]
    exact ⟨h.1.append hplaced hproper, h.2⟩

/-- When a production gives up, units are open, and each of them is a torso. -/
structure Adrift (root : Node) (s : State) : Prop where
  grown : Grown root s.rootNode
  inside : s.context.frames ≠ []
  torsos : ∀ f ∈ s.context.frames, Torso f.node.children

theorem Adrift.of_reads {s s₁ : State} {es : List Element} (hopen : s.context.frames ≠ [])
    (htorsos : ∀ f ∈ s.context.frames, Torso f.node.children) (hreads : Reads s es s₁)
    (hplaced : ∀ m ∈ Element.nodesAll es, m.kind ≠ .skipped)
    (hproper : ∀ m ∈ Element.nodesAll es, m.Proper) : Adrift s.rootNode s₁ where
  grown := by rw [hreads.rootNode_eq hopen]
  inside := by
    obtain ⟨f, fs, hframes⟩ := List.exists_cons_of_ne_nil hopen
    simp [hreads.frames_eq_cons hframes]
  torsos := Torso.reads hreads htorsos hplaced hproper

theorem Fails.adrift {c : Configuration} {f : Failure} {s' : State} (h : Fails score c f s')
    (hc : Shapely c) : Adrift c.state.rootNode s' := by
  have hs := hc.orderly.sentinel
  have htorsos := hc.torsos
  cases h with
  | @opening phase s f s' hfaces hopen =>
    obtain ⟨ts, s₁, hreads, -, rfl⟩ := exists_givesUp_of_openUnit hopen hs
    have hframes := hreads.frames_eq_cons rfl
    have hroot : s₁.rootNode = s.shiftTrivia.rootNode :=
      hreads.rootNode_eq (List.cons_ne_nil _ _)
    have hproper : Node.Proper ⟨{ kind := .identificationDivision }, ts.map .token⟩ :=
      Node.proper_division rfl ts
    have hshift := (hc.shapes.shiftTrivia).torsos (State.units_shiftTrivia hc.orderly.units)
    have hnew : Torso [.node { kind := .identificationDivision } (ts.map .token)] :=
      ⟨⟨_, _, [], rfl, rfl⟩, by simp, by simpa using hproper⟩
    refine ⟨?_, by simp [State.report, hframes], ?_⟩
    · change Grown s.rootNode s₁.rootNode
      rw [hroot]
      exact grown_shiftTrivia s
    · change ∀ f ∈ s₁.context.frames, _
      rw [hframes, List.forall_mem_cons]
      exact ⟨hnew, hshift⟩
  | @division d ds s f s' hheader hdivision =>
    obtain ⟨g, gs, hframes, -⟩ := hc.orderly.exists_unit
    obtain ⟨gap, ts, s₁, -, hreads, -, rfl⟩ := exists_givesUp_of_division hdivision hs
    have hproper : Node.Proper ⟨{ kind := d.kind }, ts.map .token⟩ :=
      Node.proper_division (by cases d <;> rfl) ts
    have hadrift := Adrift.of_reads (by simp [hframes]) htorsos hreads
      (by cases d <;> simp [Division.kind]) (by simpa using hproper)
    exact ⟨hadrift.grown, hadrift.inside, hadrift.torsos⟩
  | @header s f s' hunit hheader hrun =>
    obtain ⟨g, gs, hframes, -⟩ := hc.orderly.exists_unit
    cases hrun
    exact ⟨.refl, by simp [State.report, hframes], htorsos⟩
  | @trailer s f s' hend htrailer hown hwords =>
    obtain ⟨g, gs, hframes, -⟩ := hc.orderly.exists_unit
    obtain ⟨ts, s₁, hreads, -, rfl⟩ := exists_givesUp_of_endProgram hwords hs
    have hadrift := Adrift.of_reads (by simp [hframes]) htorsos hreads (by simp) (by simp)
    exact ⟨hadrift.grown, hadrift.inside, hadrift.torsos⟩

theorem Adrift.recover {root : Node} {s : State} (h : Adrift root s) :
    Grown root s.recover.rootNode := by
  rw [State.rootNode, s.context_recover]
  exact h.grown.tail (.wreck _ (.remnants h.inside h.torsos) _)

/-- A step attaches to the root what is on the list. -/
theorem grown_step {c : Configuration} (h : Shapely c) :
    Grown c.state.rootNode (step score c).state.rootNode := by
  have hadvance := advance_step score c
  have hs := h.orderly.sentinel
  have hshapes := h.shapes
  generalize Parse.step score c = c' at hadvance
  cases hadvance with
  | @finishes s hend => exact grown_shiftTrivia s
  | @skips s hmore hother =>
    have hframes := State.frames_shiftTrivia_eq_nil_iff.2 (h.orderly.outside.1 rfl)
    have hskip : Grown s.shiftTrivia.rootNode
        ((s.shiftTrivia.report [unknownInput s.shiftTrivia.peek]).skip 1).rootNode :=
      grown_skip hframes 1
    exact (grown_shiftTrivia s).trans (hskip.trans (grown_shiftTrivia _))
  | @opens phase s s' hfaces hopen =>
    obtain ⟨held, name, hcontext⟩ := context_of_openUnit hopen hs
    have hroot : s'.rootNode = s.shiftTrivia.rootNode := by
      rw [State.rootNode, hcontext, State.rootNode]
    rw [hroot]
    exact grown_shiftTrivia s
  | passes hheader => exact .refl
  | @reads d ds s s' hheader hdivision =>
    obtain ⟨f, fs, hframes, -⟩ := h.orderly.exists_unit
    obtain ⟨gap, ts, -, hreads⟩ := exists_reads_of_division hdivision hs
    rw [hreads.rootNode_eq (by simp [hframes])]
  | @leaves s hend htrailer =>
    obtain ⟨f, fs, hframes, hf, -⟩ := h.orderly.exists_unit
    exact grown_closeUnit hframes hf.kind hshapes
  | @ends s s' hend htrailer hown hwords =>
    obtain ⟨f, fs, hframes, hkind, hended, hroot⟩ := h.exists_unit_of_endProgram hwords
    have hclose := grown_closeUnit hframes hkind hended
    rwa [State.rootNode, hroot] at hclose
  | fails hfails => exact (hfails.adrift h).recover

/-- What is grown from the root when the machine starts, and what it keeps on the way. -/
def Sprouts (c : Configuration) : Prop :=
  Shapely c ∧ Grown (.ofKind .sourceUnit) c.state.rootNode

theorem Sprouts.step {c : Configuration} (h : Sprouts c) : Sprouts (step score c) :=
  ⟨h.1.step, h.2.trans (grown_step h.1)⟩

theorem grown_root_parseStream (score : Similarity) (tokens : List Token) (position : Position)
    (offset : Nat) :
    Grown (.ofKind .sourceUnit)
      (parseStream score (.ofTokens tokens (.endOfInput position offset))).root := by
  let stream : TokenStream := .ofTokens tokens (.endOfInput position offset)
  have hrun : Sprouts ⟨.sourceUnit, finalState score stream⟩ := by
    apply run_preserves
    · intro c hc
      exact hc.step
    · exact ⟨.initial tokens position offset, .refl⟩
  have houtside := hrun.1.orderly.outside.1 rfl
  change Grown _ (finalState score stream).context.finish
  rw [Context.finish_of_outside houtside]
  exact hrun.2

end Parse

end CobolCompanion
