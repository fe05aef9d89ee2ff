import CobolCompanion.Proofs.Caseless
import CobolCompanion.Proofs.Stretches

namespace CobolCompanion

open Parse

def Heading.caseless (h : Heading) : Heading :=
  { h with name := h.name.map lower }

@[simp] theorem Heading.kind_caseless (h : Heading) : h.caseless.kind = h.kind := rfl

namespace Element

mutual
/-- An element whose lexemes and names are written in lower case. -/
def caseless : Element → Element
  | token t => token t.caseless
  | node heading children => node heading.caseless (caselessAll children)

def caselessAll : List Element → List Element
  | [] => []
  | e :: es => caseless e :: caselessAll es
end

theorem caselessAll_eq_map (es : List Element) : caselessAll es = es.map caseless := by
  induction es with
  | nil => rfl
  | cons e es ih => rw [caselessAll, ih, List.map_cons]

@[simp] theorem caseless_token (t : Token) : (token t).caseless = token t.caseless := by
  rw [caseless]

@[simp] theorem caseless_node (heading : Heading) (children : List Element) :
    (node heading children).caseless = node heading.caseless (children.map caseless) := by
  rw [caseless, caselessAll_eq_map]

mutual
theorem leaves_caseless (e : Element) : e.caseless.leaves = e.leaves.map Token.caseless := by
  cases e with
  | token t => simp [leaves]
  | node heading children => rw [caseless_node, leaves, leaves, leavesAll_caseless children]

theorem leavesAll_caseless (es : List Element) :
    leavesAll (es.map caseless) = (leavesAll es).map Token.caseless := by
  cases es with
  | nil => rfl
  | cons e es =>
    rw [List.map_cons, leavesAll, leavesAll, leaves_caseless e, leavesAll_caseless es,
      List.map_append]
end

theorem map_caseless_token (ts : List Token) :
    (ts.map token).map caseless = (ts.map Token.caseless).map token := by
  simp

end Element

namespace Node

/--
A node whose lexemes and names are written in lower case. Kinds, nesting and places are kept.
-/
def caseless (n : Node) : Node :=
  ⟨n.toHeading.caseless, n.children.map Element.caseless⟩

variable (n : Node)

@[simp] theorem kind_caseless : n.caseless.kind = n.kind := rfl

@[simp] theorem name_caseless : n.caseless.name = n.name.map lower := rfl

@[simp] theorem children_caseless : n.caseless.children = n.children.map Element.caseless := rfl

@[simp] theorem leaves_caseless : n.caseless.leaves = n.leaves.map Token.caseless :=
  Element.leavesAll_caseless n.children

@[simp] theorem range?_caseless : n.caseless.range? = n.range? := by
  simp [range?, Function.comp_def]

theorem caseless_toElement : n.toElement.caseless = n.caseless.toElement := by
  simp [toElement, caseless]

theorem caseless_push (e : Element) : (n.push e).caseless = n.caseless.push e.caseless := by
  simp [push, caseless]

theorem caseless_pushTokens (ts : List Token) :
    (n.pushTokens ts).caseless = n.caseless.pushTokens (ts.map Token.caseless) := by
  simp [pushTokens, caseless]

theorem caseless_pushSkipped (es : List Element) :
    (n.pushSkipped es).caseless = n.caseless.pushSkipped (es.map Element.caseless) := by
  simp only [pushSkipped, children_caseless, List.isEmpty_map, List.getLast?_map]
  split
  · rfl
  cases n.children.getLast? with
  | none => simp [caseless_push, Heading.caseless]
  | some e =>
    cases e with
    | token t => simp [caseless_push, Heading.caseless]
    | node heading held =>
      by_cases hkind : heading.kind = .skipped
      · simp [hkind, caseless]
      · simp [hkind, caseless_push, Heading.caseless]

theorem childNodes_caseless : n.caseless.childNodes = n.childNodes.map caseless := by
  have hnode : Element.asNode? ∘ Element.caseless = fun e => e.asNode?.map caseless := by
    funext e
    cases e with
    | token t => simp [Element.asNode?]
    | node heading children => simp [Element.asNode?, caseless]
  rw [childNodes, children_caseless, List.filterMap_map, hnode, childNodes, List.map_filterMap]

end Node

def Diagnostic.caseless (d : Diagnostic) : Diagnostic :=
  { d with message := lower d.message }

namespace Parse

/-- A frame around a node whose lexemes and names are written in lower case. -/
def Frame.caseless (f : Frame) : Frame :=
  { f with node := f.node.caseless }

namespace Context

/-- Nodes under construction whose lexemes and names are written in lower case. -/
def caseless (c : Context) : Context :=
  ⟨c.root.caseless, c.frames.map Frame.caseless⟩

variable (c : Context)

@[simp] theorem frames_caseless : c.caseless.frames = c.frames.map Frame.caseless := rfl

theorem top_caseless : c.caseless.top = c.top.caseless := by
  simp [top, caseless, List.headD_eq_head?_getD, Option.getD_map]

@[simp] theorem rule_caseless : c.caseless.rule = c.rule := by
  rw [rule, top_caseless, rule, Frame.caseless]

@[simp] theorem current_caseless : c.caseless.current = c.current.caseless := by
  rw [current, top_caseless, current, Frame.caseless]

theorem caseless_modify {change change' : Node → Node}
    (h : ∀ n, (change n).caseless = change' n.caseless) :
    (c.modify change).caseless = c.caseless.modify change' := by
  obtain ⟨root, frames⟩ := c
  cases frames with
  | nil => simp [modify, caseless, Frame.modify, Frame.caseless, h]
  | cons f fs => simp [modify, caseless, Frame.modify, Frame.caseless, h]

theorem caseless_push (kind : NodeKind) :
    (c.push (.ofKind kind)).caseless = c.caseless.push (.ofKind kind) := rfl

theorem caseless_close : c.close.caseless = c.caseless.close := by
  obtain ⟨root, frames⟩ := c
  cases frames with
  | nil => rfl
  | cons f fs =>
    change (Context.modify _ _).caseless = Context.modify _ _
    apply caseless_modify
    intro n
    rw [Node.caseless_push, Node.caseless_toElement]
    rfl

theorem caseless_spill (es : List Element) (frames : List Frame) :
    (spill es frames).map Element.caseless =
      spill (es.map Element.caseless) (frames.map Frame.caseless) := by
  induction frames generalizing es with
  | nil => rfl
  | cons f fs ih =>
    rw [spill, ih, List.map_cons, spill, ← Node.children_caseless, Node.caseless_pushSkipped]
    rfl

theorem caseless_abandon : c.abandon.caseless = c.caseless.abandon := by
  obtain ⟨root, frames⟩ := c
  cases frames with
  | nil => rfl
  | cons f fs =>
    have hroot := root.node.caseless_pushSkipped (spill f.node.children fs)
    rw [caseless_spill] at hroot
    simp only [abandon, caseless, Frame.modify, Frame.caseless, List.map_cons, hroot]
    rfl

theorem caseless_attachAll (n : Node) (frames : List Frame) :
    (attachAll n frames).caseless = attachAll n.caseless (frames.map Frame.caseless) := by
  induction frames generalizing n with
  | nil => rfl
  | cons f fs ih =>
    rw [attachAll, ih, List.map_cons, attachAll, Node.caseless_push, Node.caseless_toElement]
    rfl

theorem caseless_finish : c.finish.caseless = c.caseless.finish := by
  obtain ⟨root, frames⟩ := c
  cases frames with
  | nil => rfl
  | cons f fs =>
    rw [finish, caseless_attachAll, List.map_append]
    rfl

end Context

namespace State

/-- A parser of which all that it has read and is to read is written in lower case. -/
def caseless (s : State) : State :=
  { s with
    stream := ⟨s.stream.tokens.map Token.caseless, s.stream.unread.map Token.caseless,
      s.stream.sentinel.caseless⟩
    context := s.context.caseless
    diagnostics := s.diagnostics.map Diagnostic.caseless }

variable (s : State)

@[simp] theorem unread_caseless : s.caseless.unread = s.unread.map Token.caseless := rfl

@[simp] theorem context_caseless : s.caseless.context = s.context.caseless := rfl

@[simp] theorem openNames_caseless : s.caseless.openNames = s.openNames := rfl

@[simp] theorem statementStart_caseless : s.caseless.statementStart = s.statementStart := rfl

@[simp] theorem peek_caseless : s.caseless.peek = s.peek.caseless := by
  simp [peek, TokenStream.peek, caseless, List.headD_eq_head?_getD, Option.getD_map]

theorem caseless_read (n : Nat) : (s.read n).caseless = s.caseless.read n := by
  simp only [read, caseless, unread, List.map_drop, ← List.map_take, List.length_map,
    Context.rule_caseless, List.foldl_map, statementStartAfter_caseless]

theorem caseless_readInto (n : Nat) {change change' : Node → Node}
    (h : ∀ m, (change m).caseless = change' m.caseless) :
    ({ s.read n with context := s.context.modify change } : State).caseless =
      { s.caseless.read n with context := s.caseless.context.modify change' } := by
  rw [← caseless_read, context_caseless, ← s.context.caseless_modify h]
  rfl

theorem caseless_shift (n : Nat) : (s.shift n).caseless = s.caseless.shift n := by
  apply caseless_readInto
  intro m
  rw [Node.caseless_pushTokens, unread_caseless, List.map_take]

theorem caseless_skip (n : Nat) : (s.skip n).caseless = s.caseless.skip n := by
  apply caseless_readInto
  intro m
  rw [Node.caseless_pushSkipped, Element.map_caseless_token, unread_caseless, ← List.map_take,
    List.filter_map]
  rfl

theorem caseless_shiftTrivia : s.shiftTrivia.caseless = s.caseless.shiftTrivia := by
  rw [shiftTrivia, caseless_shift, shiftTrivia, unread_caseless, triviaLength_caseless]

theorem caseless_report (ds : List Diagnostic) :
    (s.report ds).caseless = s.caseless.report (ds.map Diagnostic.caseless) := by
  simp [report, caseless]

theorem caseless_openNode (kind : NodeKind) :
    (s.openNode kind).caseless = s.caseless.openNode kind :=
  rfl

theorem caseless_closeNode : s.closeNode.caseless = s.caseless.closeNode := by
  simp only [closeNode, caseless, Context.caseless_close]

theorem caseless_leaveUnit : s.leaveUnit.caseless = s.caseless.leaveUnit := by
  simp only [leaveUnit, caseless, Context.caseless_close]

theorem caseless_recover : s.recover.caseless = s.caseless.recover := by
  have habandon : ({ s with context := s.context.abandon, openNames := [] } : State).caseless =
      { s.caseless with context := s.caseless.context.abandon, openNames := [] } := by
    rw [context_caseless, ← Context.caseless_abandon]
    rfl
  rw [recover, recover, ← habandon, caseless_skip, ← caseless_skip _ 1, unread_caseless,
    statementLength_caseless]

end State

end Parse

end CobolCompanion
