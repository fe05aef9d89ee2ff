import CobolCompanion.Tree.Basic

namespace CobolCompanion

/--
Adds elements to what could not be placed at the end of a node, which is opened if need be.
-/
def Node.pushSkipped (n : Node) (elements : List Element) : Node :=
  if elements.isEmpty then n
  else
    match n.children.getLast? with
    | some (.node heading children) =>
      if heading.kind = .skipped then
        { n with children := n.children.dropLast ++ [.node heading (children ++ elements)] }
      else n.push (.node { kind := .skipped } elements)
    | _ => n.push (.node { kind := .skipped } elements)

namespace Parse

/-- A node under construction and the production that builds it. -/
structure Frame where
  node : Node
  rule : Rule

def Frame.ofNode (n : Node) : Frame :=
  ⟨n, n.kind.rule⟩

def Frame.modify (f : Frame) (change : Node → Node) : Frame :=
  { f with node := change f.node }

/-- The root and the open nodes above it, the innermost first. -/
structure Context where
  root : Frame
  frames : List Frame

namespace Context

def ofRoot (n : Node) : Context :=
  ⟨.ofNode n, []⟩

def top (c : Context) : Frame :=
  c.frames.headD c.root

def current (c : Context) : Node :=
  c.top.node

def rule (c : Context) : Rule :=
  c.top.rule

def depth (c : Context) : Nat :=
  c.frames.length + 1

def modify (c : Context) (change : Node → Node) : Context :=
  match c.frames with
  | [] => { c with root := c.root.modify change }
  | frame :: frames => { c with frames := frame.modify change :: frames }

def push (c : Context) (n : Node) : Context :=
  { c with frames := .ofNode n :: c.frames }

/-- Takes the innermost node away without attaching it. The root stays. -/
def pop? (c : Context) : Option (Node × Context) :=
  match c.frames with
  | [] => none
  | frame :: frames => some (frame.node, { c with frames })

/-- Closes the innermost node: it becomes the last child of the node around it. -/
def close (c : Context) : Context :=
  match c.pop? with
  | none => c
  | some (n, c) => c.modify (·.push n.toElement)

/-- Attaches a node to the first of the frames around it, that one to the next, and so on. -/
def attachAll (n : Node) : List Frame → Node
  | [] => n
  | frame :: frames => attachAll (frame.node.push n.toElement) frames

def finish (c : Context) : Node :=
  match c.frames with
  | [] => c.root.node
  | frame :: frames => attachAll frame.node (frames ++ [c.root])

/-- What remains of failed nodes: the children of each go to the node around it as skipped. -/
def spill (elements : List Element) : List Frame → List Element
  | [] => elements
  | frame :: frames => spill (frame.node.pushSkipped elements).children frames

/-- Gives up all open nodes; what they hold ends as skipped under the root. -/
def abandon (c : Context) : Context :=
  match c.frames with
  | [] => c
  | frame :: frames => ⟨c.root.modify (·.pushSkipped (spill frame.node.children frames)), []⟩

@[simp] theorem frames_length_modify (c : Context) (change : Node → Node) :
    (c.modify change).frames.length = c.frames.length := by
  unfold modify
  split <;> simp [*]

@[simp] theorem frames_length_push (c : Context) (n : Node) :
    (c.push n).frames.length = c.frames.length + 1 := by
  simp [push]

@[simp] theorem frames_length_close (c : Context) :
    c.close.frames.length = c.frames.length - 1 := by
  unfold close pop?
  cases h : c.frames with
  | nil => simp [h]
  | cons frame frames => simp

@[simp] theorem frames_abandon (c : Context) : c.abandon.frames = [] := by
  unfold abandon
  split
  · assumption
  · rfl

end Context

end Parse

end CobolCompanion
