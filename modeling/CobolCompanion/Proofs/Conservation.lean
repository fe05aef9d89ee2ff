import CobolCompanion.Proofs.Moves

namespace CobolCompanion

open Parse

namespace Element

@[simp] theorem leavesAll_append (es fs : List Element) :
    leavesAll (es ++ fs) = leavesAll es ++ leavesAll fs := by
  induction es with
  | nil => rfl
  | cons e es ih => simp [leavesAll, ih]

@[simp] theorem leavesAll_map_token (tokens : List Token) :
    leavesAll (tokens.map .token) = tokens := by
  induction tokens with
  | nil => rfl
  | cons t tokens ih => simp [leavesAll, leaves, ih]

@[simp] theorem leavesAll_singleton (e : Element) : leavesAll [e] = e.leaves := by
  simp [leavesAll]

end Element

namespace Node

@[simp] theorem leaves_ofKind (kind : NodeKind) : (ofKind kind).leaves = [] := rfl

@[simp] theorem leaves_toElement (n : Node) : n.toElement.leaves = n.leaves := by
  simp [toElement, Element.leaves, leaves]

@[simp] theorem leaves_push (n : Node) (e : Element) :
    (n.push e).leaves = n.leaves ++ e.leaves := by
  simp [push, leaves]

@[simp] theorem leaves_pushTokens (n : Node) (tokens : List Token) :
    (n.pushTokens tokens).leaves = n.leaves ++ tokens := by
  simp [pushTokens, leaves]

@[simp] theorem leaves_pushSkipped (n : Node) (elements : List Element) :
    (n.pushSkipped elements).leaves = n.leaves ++ Element.leavesAll elements := by
  unfold pushSkipped
  split
  · next hempty =>
    rw [List.isEmpty_iff.1 hempty]
    simp [Element.leavesAll]
  · split
    · next heading children hlast =>
      split
      · obtain ⟨before, hbefore⟩ := List.getLast?_eq_some_iff.1 hlast
        simp [leaves, hbefore, Element.leaves]
      · simp [Element.leaves]
    · simp [Element.leaves]

end Node

namespace Parse

namespace Context

/-- The leaves of open nodes that lie one inside the other, the innermost given first. -/
def spineLeaves : List Frame → List Token
  | [] => []
  | frame :: frames => spineLeaves frames ++ frame.node.leaves

/-- The leaves under construction, in the order of the text. -/
def leaves (c : Context) : List Token :=
  c.root.node.leaves ++ spineLeaves c.frames

@[simp] theorem spineLeaves_append (frames more : List Frame) :
    spineLeaves (frames ++ more) = spineLeaves more ++ spineLeaves frames := by
  induction frames with
  | nil => simp [spineLeaves]
  | cons frame frames ih => simp [spineLeaves, ih]

theorem leaves_modify (c : Context) {change : Node → Node} (tokens : List Token)
    (h : ∀ n, (change n).leaves = n.leaves ++ tokens) :
    (c.modify change).leaves = c.leaves ++ tokens := by
  unfold modify leaves
  cases hf : c.frames with
  | nil => simp [spineLeaves, Frame.modify, h]
  | cons frame frames => simp [spineLeaves, Frame.modify, h]

theorem leaves_openNode (c : Context) (kind : NodeKind) :
    (c.push (.ofKind kind)).leaves = c.leaves := by
  simp [push, leaves, spineLeaves, Frame.ofNode]

theorem leaves_close (c : Context) : c.close.leaves = c.leaves := by
  unfold close pop?
  cases hf : c.frames with
  | nil => rfl
  | cons frame frames =>
    dsimp only
    rw [leaves_modify _ frame.node.leaves (fun n => by simp)]
    simp [leaves, hf, spineLeaves]

theorem leaves_spill (elements : List Element) (frames : List Frame) :
    Element.leavesAll (spill elements frames) =
      spineLeaves frames ++ Element.leavesAll elements := by
  induction frames generalizing elements with
  | nil => rfl
  | cons frame frames ih =>
    have hframe := frame.node.leaves_pushSkipped elements
    rw [Node.leaves] at hframe
    simp [spill, spineLeaves, ih, hframe]

theorem leaves_abandon (c : Context) : c.abandon.leaves = c.leaves := by
  unfold abandon
  cases hf : c.frames with
  | nil => rfl
  | cons frame frames =>
    simp only [leaves, hf, Frame.modify, Node.leaves_pushSkipped, leaves_spill, spineLeaves]
    simp [Node.leaves]

theorem leaves_attachAll (n : Node) (frames : List Frame) :
    (attachAll n frames).leaves = spineLeaves frames ++ n.leaves := by
  induction frames generalizing n with
  | nil => rfl
  | cons frame frames ih => simp [attachAll, ih, spineLeaves]

theorem leaves_finish (c : Context) : c.finish.leaves = c.leaves := by
  unfold finish
  cases hf : c.frames with
  | nil => simp [leaves, hf, spineLeaves]
  | cons frame frames => simp [leaves_attachAll, leaves, hf, spineLeaves]

end Context

namespace State

/-- The leaves under construction and then all that is still to become a leaf. -/
def material (s : State) : List Token :=
  s.context.leaves ++ s.unread.filter (!·.isEndOfInput)

theorem material_initial (stream : TokenStream) :
    (initial stream).material = stream.unread.filter (!·.isEndOfInput) := by
  simp [material, initial, Context.leaves, Context.ofRoot, Frame.ofNode,
    Context.spineLeaves, unread]

theorem material_of_read {s s' : State} {n : Nat} (hunread : s'.unread = s.unread.drop n)
    (hleaves : s'.context.leaves =
      s.context.leaves ++ (s.unread.take n).filter (!·.isEndOfInput)) :
    s'.material = s.material := by
  have hsplit := congrArg (List.filter (!·.isEndOfInput)) (List.take_append_drop n s.unread)
  rw [List.filter_append] at hsplit
  rw [material, material, hunread, hleaves, List.append_assoc, hsplit]

theorem material_of_leaves {s s' : State} (hunread : s'.unread = s.unread)
    (hleaves : s'.context.leaves = s.context.leaves) : s'.material = s.material := by
  rw [material, material, hunread, hleaves]

end State

theorem Move.material {s s' : State} (h : Move s s') : s'.material = s.material := by
  cases h with
  | report found => rfl
  | shift n hn =>
    refine State.material_of_read (n := n) rfl ?_
    have hkept : (s.unread.take n).filter (!·.isEndOfInput) = s.unread.take n :=
      List.filter_eq_self.2 fun t ht => by simp [hn t ht]
    rw [hkept]
    exact s.context.leaves_modify _ fun node => node.leaves_pushTokens _
  | skip n =>
    refine State.material_of_read (n := n) rfl ?_
    exact s.context.leaves_modify _ fun node => by simp
  | openNode kind => exact State.material_of_leaves rfl (s.context.leaves_openNode kind)
  | closeNode => exact State.material_of_leaves rfl s.context.leaves_close
  | nameUnit name =>
    refine State.material_of_leaves rfl ?_
    simpa using s.context.leaves_modify [] fun node => by simp [Node.leaves]
  | leaveUnit => exact State.material_of_leaves rfl s.context.leaves_close
  | abandon => exact State.material_of_leaves rfl s.context.leaves_abandon

/-- The leaves of a tree are the tokens of the stream that it was built from. -/
theorem leaves_root_parseStream (score : Similarity) (stream : TokenStream) :
    (parseStream score stream).root.leaves = stream.unread.filter (!·.isEndOfInput) := by
  have hmaterial := (@moves_finalState score stream).preserves (f := State.material)
    Move.material
  have hunread : (finalState score stream).unread = [] := unread_run _
  rw [State.material_initial, State.material, hunread] at hmaterial
  simpa [parseStream, Context.leaves_finish] using hmaterial

end Parse

theorem Cut.kind_first_ne_endOfInput (c : Char) (text : List Char) :
    (Cut.first c text).kind ≠ .endOfInput := by
  unfold first run lineBreak literal
  repeat' split
  all_goals simp

/-- The tokens of a text are the text, cut at some places. -/
theorem flatMap_lexeme_scanFrom (place : Place) (text : List Char) :
    (scanFrom place text).flatMap (·.lexeme.toList) = text := by
  fun_induction scanFrom place text with
  | case1 => rfl
  | case2 place c text cut after ih =>
    rw [List.flatMap_cons, ih]
    simpa using (Cut.first_splits c text).append_eq

theorem isEndOfInput_of_mem_scanFrom {place : Place} {text : List Char} :
    ∀ t ∈ scanFrom place text, t.isEndOfInput = false := by
  fun_induction scanFrom place text with
  | case1 => simp
  | case2 place c text cut after ih =>
    intro t ht
    rcases List.mem_cons.1 ht with rfl | ht
    · simpa [Token.isEndOfInput] using Cut.kind_first_ne_endOfInput c text
    · exact ih t ht

theorem lexemes_scan (text : String) : lexemes (scan text) = text := by
  have h := flatMap_lexeme_scanFrom .start text.toList
  rw [← String.toList_inj]
  simpa [lexemes, scan, List.flatMap_map] using h

theorem leaves_root_ofText (score : Similarity) (text : String) :
    (parseStream score (.ofText text)).root.leaves = scan text := by
  rw [leaves_root_parseStream]
  exact List.filter_eq_self.2 fun t ht => by simp [isEndOfInput_of_mem_scanFrom t ht]

/--
The leaves of a tree are the tokens that were parsed, in their order, without ends of input; and
the tree of a text spells that text.
-/
theorem leaves_parse :
    (∀ (score : Similarity) (tokens : List Token) (position : Position) (offset : Nat),
      (parseStream score (.ofTokens tokens (.endOfInput position offset))).root.leaves =
        tokens.filter (!·.isEndOfInput)) ∧
    ∀ (score : Similarity) (text : String),
      (parseStream score (.ofText text)).root.text = text := by
  refine ⟨fun score tokens position offset => ?_, fun score text => ?_⟩
  · exact leaves_root_parseStream score _
  · rw [Node.text, leaves_root_ofText, lexemes_scan]

end CobolCompanion
