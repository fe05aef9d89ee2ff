import CobolCompanion.Proofs.Conservation
import Mathlib.Data.List.Basic
import Mathlib.Data.List.Induction

namespace CobolCompanion

theorem Element.leavesAll_map_toElement (nodes : List Node) :
    leavesAll (nodes.map Node.toElement) = nodes.flatMap Node.leaves := by
  induction nodes with
  | nil => rfl
  | cons n nodes ih =>
    rw [List.map_cons, leavesAll, ih, Node.leaves_toElement, List.flatMap_cons]

namespace Parse

namespace Context

/-- What can be done to the nodes under construction. A node is opened without children. -/
inductive Action where
  | push (heading : Heading)
  | pop
  | close
  | token (t : Token)
  deriving DecidableEq

def perform (c : Context) : Action → Context
  | .push heading => c.push ⟨heading, []⟩
  | .pop => (c.pop?.map Prod.snd).getD c
  | .close => c.close
  | .token t => c.modify (·.push (.token t))

/-- What was done to the nodes under construction, in order. -/
abbrev History :=
  List Action

/-- The nodes under construction after a history that begins with a root without children. -/
def replay (root : Heading) (history : History) : Context :=
  history.foldl perform (.ofRoot ⟨root, []⟩)

/--
An element that was added by the action at an index. Its holder opened the node to which it was
added; the root has no holder.
-/
structure Addition where
  index : Nat
  holder : Option Nat
  element : Element

def Action.addition? (index : Nat) (holder : Option Nat) : Action → Option Addition
  | push heading => some ⟨index, holder, .node heading []⟩
  | token t => some ⟨index, holder, .token t⟩
  | pop | close => none

theorem Action.index_of_mem_addition? {action : Action} {index : Nat} {holder : Option Nat}
    {x : Addition} (h : action.addition? index holder = some x) : x.index = index := by
  cases action with
  | push heading =>
    cases h
    rfl
  | token t =>
    cases h
    rfl
  | pop => cases h
  | close => cases h

namespace History

/--
The open nodes after an action, by the indices of the actions that opened them, the innermost
first.
-/
def advance (index : Nat) (stack : List Nat) : Action → List Nat
  | .push _ => index :: stack
  | .pop | .close => stack.tail
  | .token _ => stack

section
variable (history : History)

def opened : List Nat :=
  history.zipIdx.foldl (fun stack (action, index) => advance index stack action) []

/--
The node to which the action at an index adds, by the action that opened it; the root has none.
-/
def holder (index : Nat) : Option Nat :=
  (opened (history.take index)).head?

def additions : List Addition :=
  history.zipIdx.filterMap fun (action, index) => action.addition? index (holder history index)

/--
Whether an action removes what another added: it pops a node that was open right after that.
-/
def takes (action index : Nat) : Bool :=
  index < action && history[action]? = some .pop &&
    (holder history action).any fun node => node ∈ opened (history.take (index + 1))

def taker? (index : Nat) : Option Nat :=
  (List.range history.length).find? fun action => takes history action index

/--
What a removed node holds, given the action that removed it; without one, what was never
removed.
-/
def share (taker : Option Nat) : List Addition :=
  (additions history).filter fun x => taker? history x.index = taker

end

section
variable {history : History} {action : Action} {index : Nat}

theorem opened_concat (history : History) (action : Action) :
    opened (history ++ [action]) = advance history.length (opened history) action := by
  rw [opened, List.zipIdx_append, List.foldl_append]
  simp [opened]

theorem holder_append (h : index ≤ history.length) (more : History) :
    holder (history ++ more) index = holder history index := by
  rw [holder, List.take_append_of_le_length h, holder]

theorem holder_length (history more : History) :
    holder (history ++ more) history.length = (opened history).head? := by
  rw [holder_append (Nat.le_refl _), holder, List.take_length]

theorem additions_concat (history : History) (action : Action) :
    additions (history ++ [action]) =
      additions history ++ (action.addition? history.length (opened history).head?).toList := by
  rw [additions, List.zipIdx_append, List.filterMap_append]
  congr 1
  · apply List.filterMap_congr
    rintro ⟨earlier, index⟩ hmem
    have hlt := (List.mem_zipIdx' hmem).1
    dsimp only
    rw [holder_append (Nat.le_of_lt hlt)]
  · have hholder := holder_length history [action]
    cases haddition : action.addition? history.length (opened history).head? <;>
      simp [haddition, hholder]

theorem exists_action_of_mem_additions {x : Addition} (h : x ∈ additions history) :
    ∃ action, history[x.index]? = some action ∧
      action.addition? x.index (holder history x.index) = some x := by
  obtain ⟨⟨action, index⟩, hmem, haddition⟩ := List.mem_filterMap.1 h
  obtain rfl := Action.index_of_mem_addition? haddition
  exact ⟨action, List.mk_mem_zipIdx_iff_getElem?.1 hmem, haddition⟩

theorem index_lt_of_mem_additions {x : Addition} (h : x ∈ additions history) :
    x.index < history.length := by
  obtain ⟨action, hat, -⟩ := exists_action_of_mem_additions h
  exact (List.getElem?_eq_some_iff.1 hat).1

theorem pairwise_additions (history : History) :
    (additions history).Pairwise fun x y => x.index < y.index := by
  induction history using List.reverseRecOn with
  | nil => exact .nil
  | append_singleton history action ih =>
    rw [additions_concat, List.pairwise_append]
    refine ⟨ih, ?_, ?_⟩
    · cases action.addition? history.length (opened history).head? <;> simp
    · intro x hx y hy
      rw [Action.index_of_mem_addition? (Option.mem_toList.1 hy)]
      exact index_lt_of_mem_additions hx

theorem lt_of_mem_opened {node : Nat} (h : node ∈ opened history) : node < history.length := by
  induction history using List.reverseRecOn with
  | nil => cases h
  | append_singleton history action ih =>
    rw [opened_concat] at h
    rw [List.length_append, List.length_singleton]
    cases action with
    | push heading =>
      rcases List.mem_cons.1 h with rfl | h
      · exact Nat.lt_succ_self _
      · exact Nat.lt_succ_of_lt (ih h)
    | pop => exact Nat.lt_succ_of_lt (ih (List.mem_of_mem_tail h))
    | close => exact Nat.lt_succ_of_lt (ih (List.mem_of_mem_tail h))
    | token t => exact Nat.lt_succ_of_lt (ih h)

theorem mem_opened_of_append {more : History} {node : Nat} (h : node ∈ opened (history ++ more))
    (hnode : node < history.length) : node ∈ opened history := by
  induction more using List.reverseRecOn with
  | nil => rwa [List.append_nil] at h
  | append_singleton more action ih =>
    rw [← List.append_assoc, opened_concat] at h
    apply ih
    cases action with
    | push heading =>
      rcases List.mem_cons.1 h with rfl | h
      · rw [List.length_append] at hnode
        omega
      · exact h
    | pop => exact List.mem_of_mem_tail h
    | close => exact List.mem_of_mem_tail h
    | token t => exact h

/-- What was added since a node was opened that is still open was added while it was open. -/
theorem mem_opened_take_iff {node : Nat} (hnode : node ∈ opened history)
    (hindex : index < history.length) :
    node ∈ opened (history.take (index + 1)) ↔ node ≤ index := by
  have hlength : (history.take (index + 1)).length = index + 1 := List.length_take_of_le hindex
  constructor
  · intro h
    have hlt := lt_of_mem_opened h
    omega
  · intro h
    rw [← List.take_append_drop (index + 1) history] at hnode
    apply mem_opened_of_append hnode
    omega

theorem takes_append {taker : Nat} (h : taker < history.length) (more : History) (index : Nat) :
    takes (history ++ more) taker index = takes history taker index := by
  rw [takes, takes]
  by_cases hlt : index < taker
  · rw [List.getElem?_append_left h, holder_append (Nat.le_of_lt h),
      List.take_append_of_le_length (Nat.succ_le_of_lt (Nat.lt_trans hlt h))]
  · simp [hlt]

theorem takes_length (hindex : index < history.length) (action : Action) :
    takes (history ++ [action]) history.length index =
      (decide (action = .pop) && (opened history).head?.any (· ≤ index)) := by
  have hat : (history ++ [action])[history.length]? = some action := List.getElem?_concat_length
  rw [takes, hat, holder_length, List.take_append_of_le_length (Nat.succ_le_of_lt hindex),
    decide_eq_true hindex, Bool.true_and]
  congr 1
  · simp
  · cases hhead : (opened history).head? with
    | none => rfl
    | some node =>
      have hiff := mem_opened_take_iff (List.mem_of_mem_head? hhead) hindex
      simp only [Option.any_some, hiff]

theorem taker?_concat (hindex : index < history.length) (action : Action) :
    taker? (history ++ [action]) index =
      (taker? history index).or
        (if action = .pop ∧ (opened history).head?.any (· ≤ index) then some history.length
          else none) := by
  have hearlier : (List.range history.length).filter (takes (history ++ [action]) · index) =
      (List.range history.length).filter (takes history · index) := by
    apply List.filter_congr
    intro taker htaker
    exact takes_append (List.mem_range.1 htaker) [action] index
  rw [taker?, List.length_append, List.length_singleton, List.range_succ, List.find?_append,
    ← List.head?_filter, hearlier, List.head?_filter, List.find?_singleton, takes_length hindex]
  simp [taker?]

theorem taker?_length (history : History) (action : Action) :
    taker? (history ++ [action]) history.length = none := by
  apply List.find?_eq_none.2
  intro taker htaker
  rw [List.mem_range, List.length_append, List.length_singleton] at htaker
  have hlt : ¬ history.length < taker := by omega
  simp [takes, hlt]

theorem share_none_concat (history : History) (hpop : action ≠ .pop) :
    share (history ++ [action]) none =
      share history none ++
        (action.addition? history.length (opened history).head?).toList := by
  rw [share, additions_concat, List.filter_append]
  congr 1
  · apply List.filter_congr
    intro x hx
    simp [taker?_concat (index_lt_of_mem_additions hx), hpop]
  · apply List.filter_eq_self.2
    intro x hx
    simp [Action.index_of_mem_addition? (Option.mem_toList.1 hx), taker?_length]

theorem share_some_concat {taker : Nat} (h : taker < history.length) (action : Action) :
    share (history ++ [action]) (some taker) = share history (some taker) := by
  have hearlier : (additions history).filter
      (taker? (history ++ [action]) ·.index = some taker) =
      (additions history).filter (taker? history ·.index = some taker) := by
    have hlater : history.length ≠ taker := Nat.ne_of_gt h
    apply List.filter_congr
    intro x hx
    rw [taker?_concat (index_lt_of_mem_additions hx)]
    cases taker? history x.index with
    | none => simp [hlater]
    | some earlier => rfl
  have hlast : ((action.addition? history.length (opened history).head?).toList).filter
      (taker? (history ++ [action]) ·.index = some taker) = [] := by
    apply List.filter_eq_nil_iff.2
    intro x hx
    simp [Action.index_of_mem_addition? (Option.mem_toList.1 hx), taker?_length]
  rw [share, additions_concat, List.filter_append, hearlier, hlast, List.append_nil, share]

theorem share_some_append {taker : Nat} (h : taker < history.length) (more : History) :
    share (history ++ more) (some taker) = share history (some taker) := by
  induction more using List.reverseRecOn with
  | nil => rw [List.append_nil]
  | append_singleton more action ih =>
    rw [← List.append_assoc, share_some_concat, ih]
    rw [List.length_append]
    omega

/--
A removal takes what was added since the innermost open node was opened, as far as it was still
there.
-/
theorem share_pop (history : History) :
    share (history ++ [.pop]) none =
        (share history none).filter (fun x => !(opened history).head?.any (· ≤ x.index)) ∧
      share (history ++ [.pop]) (some history.length) =
        (share history none).filter fun x => (opened history).head?.any (· ≤ x.index) := by
  have hadditions : additions (history ++ [.pop]) = additions history := by
    rw [additions_concat]
    exact List.append_nil _
  rw [share, share, share, hadditions, List.filter_filter, List.filter_filter]
  constructor
  · apply List.filter_congr
    intro x hx
    rw [taker?_concat (index_lt_of_mem_additions hx)]
    cases taker? history x.index <;> simp
  · apply List.filter_congr
    intro x hx
    have hlt := index_lt_of_mem_additions hx
    rw [taker?_concat hlt]
    cases htaker : taker? history x.index with
    | none => simp
    | some earlier =>
      have hearlier : earlier < history.length :=
        List.mem_range.1 (List.mem_of_find?_eq_some htaker)
      simp [Nat.ne_of_lt hearlier]

end

end History

/--
Additions tell of elements, and of what is under them, in the order of the text. Each names as
its holder the one that tells of the node right above.
-/
inductive Lists : Option Nat → List Element → List Addition → Prop where
  | nil {holder : Option Nat} : Lists holder [] []
  | token {holder : Option Nat} {index : Nat} {t : Token} {es : List Element}
    {xs : List Addition} :
      Lists holder es xs → Lists holder (.token t :: es) (⟨index, holder, .token t⟩ :: xs)
  | node {holder : Option Nat} {index : Nat} {heading : Heading} {children es : List Element}
      {inner xs : List Addition} :
      Lists (some index) children inner → Lists holder es xs →
        Lists holder (.node heading children :: es)
          (⟨index, holder, .node heading []⟩ :: (inner ++ xs))

namespace Lists

variable {holder : Option Nat} {es fs : List Element} {xs ys : List Addition}

theorem append (h : Lists holder es xs) (h' : Lists holder fs ys) :
    Lists holder (es ++ fs) (xs ++ ys) := by
  induction h with
  | nil => exact h'
  | token _ ih => exact .token (ih h')
  | node hinner _ _ ih =>
    rw [List.cons_append, List.cons_append, List.append_assoc]
    exact .node hinner (ih h')

theorem leavesAll_eq (h : Lists holder es xs) :
    Element.leavesAll es = xs.filterMap (·.element.asToken?) := by
  induction h with
  | nil => rfl
  | token _ ih =>
    rw [Element.leavesAll, ih]
    rfl
  | node _ _ ihinner ih =>
    rw [Element.leavesAll, Element.leaves, ihinner, ih, ← List.filterMap_append]
    rfl

theorem singleton_node {index : Nat} {n : Node} (h : Lists (some index) n.children xs) :
    Lists holder [n.toElement] (⟨index, holder, .node n.toHeading []⟩ :: xs) := by
  have hnode : Lists holder [n.toElement]
      (⟨index, holder, .node n.toHeading []⟩ :: (xs ++ [])) :=
    .node h .nil
  rwa [List.append_nil] at hnode

end Lists

/--
The nodes under construction are told from the root inwards, each with what it holds so far,
given the actions that opened them.
-/
inductive Spine (heading : Heading) : Context → List Nat → List Addition → Prop where
  | root {f : Frame} {xs : List Addition} :
      f.node.toHeading = heading → f.rule = f.node.kind.rule → Lists none f.node.children xs →
        Spine heading ⟨f, []⟩ [] xs
  | frame {root f : Frame} {frames : List Frame} {index : Nat} {stack : List Nat}
      {xs inner : List Addition} :
      Spine heading ⟨root, frames⟩ stack xs → f.rule = f.node.kind.rule →
        Lists (some index) f.node.children inner →
          Spine heading ⟨root, f :: frames⟩ (index :: stack)
            (xs ++ ⟨index, stack.head?, .node f.node.toHeading []⟩ :: inner)

namespace Spine

variable {heading : Heading} {c : Context} {stack : List Nat} {xs : List Addition}

theorem length_eq (h : Spine heading c stack xs) : c.frames.length = stack.length := by
  induction h with
  | root => rfl
  | frame _ _ _ ih => exact congrArg (· + 1) ih

theorem rule_eq (h : Spine heading c stack xs) : c.rule = c.current.kind.rule := by
  cases h with
  | root _ hrule _ => exact hrule
  | frame _ hrule _ => exact hrule

theorem current_told (h : Spine heading c stack xs) :
    (stack = [] → c.current.toHeading = heading) ∧
      ∀ node ∈ stack.head?, ∃ holder, ⟨node, holder, .node c.current.toHeading []⟩ ∈ xs := by
  cases h with
  | root hheading _ _ => exact ⟨fun _ => hheading, by simp⟩
  | frame _ _ _ =>
    refine ⟨by simp, ?_⟩
    intro node hnode
    obtain rfl := Option.some.inj hnode
    exact ⟨_, List.mem_append_right _ List.mem_cons_self⟩

theorem push_element {e : Element} {ys : List Addition} (h : Spine heading c stack xs)
    (he : Lists stack.head? [e] ys) : Spine heading (c.modify (·.push e)) stack (xs ++ ys) := by
  cases h with
  | root hheading hrule hlists => exact .root hheading hrule (hlists.append he)
  | frame hrest hrule hlists =>
    rw [List.append_assoc, List.cons_append]
    exact .frame hrest hrule (hlists.append he)

theorem openNode (h : Spine heading c stack xs) (index : Nat) (inner : Heading) :
    Spine heading (c.push ⟨inner, []⟩) (index :: stack)
      (xs ++ [⟨index, stack.head?, .node inner []⟩]) :=
  .frame h rfl .nil

theorem close (h : Spine heading c stack xs) : Spine heading c.close stack.tail xs := by
  cases h with
  | root hheading hrule hlists => exact .root hheading hrule hlists
  | frame hrest _ hlists => exact hrest.push_element hlists.singleton_node

end Spine

theorem filter_of_ascending {before after : List Addition} {x : Addition}
    (h : (before ++ x :: after).Pairwise fun y z => y.index < z.index) :
    (before ++ x :: after).filter (fun y => !decide (x.index ≤ y.index)) = before ∧
      (before ++ x :: after).filter (fun y => decide (x.index ≤ y.index)) = x :: after := by
  obtain ⟨-, hafter, hbefore⟩ := List.pairwise_append.1 h
  have hearlier : ∀ y ∈ before, ¬ x.index ≤ y.index := by
    intro y hy
    exact Nat.not_le_of_lt (hbefore y hy x List.mem_cons_self)
  have hlater : ∀ y ∈ x :: after, x.index ≤ y.index :=
    List.forall_mem_cons.2 ⟨Nat.le_refl _,
      fun y hy => Nat.le_of_lt ((List.pairwise_cons.1 hafter).1 y hy)⟩
  rw [List.filter_append, List.filter_append]
  constructor
  · rw [List.filter_eq_self.2 (by simpa using hearlier),
      List.filter_eq_nil_iff.2 (by simpa using hlater), List.append_nil]
  · rw [List.filter_eq_nil_iff.2 (by simpa using hearlier),
      List.filter_eq_self.2 (by simpa using hlater), List.nil_append]

theorem Spine.pop {heading : Heading} {c : Context} {stack : List Nat} {xs : List Addition}
    (h : Spine heading c stack xs) (hascending : xs.Pairwise fun x y => x.index < y.index) :
    Spine heading (c.perform .pop) stack.tail
      (xs.filter fun x => !stack.head?.any (· ≤ x.index)) ∧
      Lists stack.tail.head? ((c.pop?.map Prod.fst).toList.map Node.toElement)
        (xs.filter fun x => stack.head?.any (· ≤ x.index)) := by
  cases h with
  | root hheading hrule hlists =>
    simp only [List.head?_nil, Option.any_none, Bool.not_false, List.filter_true,
      List.filter_false]
    exact ⟨.root hheading hrule hlists, .nil⟩
  | frame hrest _ hlists =>
    obtain ⟨hkept, htaken⟩ := filter_of_ascending hascending
    simp only [List.head?_cons, Option.any_some]
    rw [hkept, htaken]
    exact ⟨hrest, hlists.singleton_node⟩

theorem finish_close (c : Context) : c.close.finish = c.finish := by
  obtain ⟨root, frames⟩ := c
  cases frames with
  | nil => rfl
  | cons frame frames => cases frames <;> rfl

/-- The finished tree is told as the nodes under construction were. -/
theorem Spine.finish {heading : Heading} {c : Context} {stack : List Nat} {xs : List Addition}
    (h : Spine heading c stack xs) :
    c.finish.toHeading = heading ∧ Lists none c.finish.children xs := by
  induction stack generalizing c with
  | nil =>
    cases h with
    | root hheading _ hlists => exact ⟨hheading, hlists⟩
  | cons index stack ih =>
    -- Closing the innermost node changes neither the finished tree nor what is told of it.
    rw [← finish_close]
    exact ih h.close

open History

theorem replay_concat (root : Heading) (history : History) (action : Action) :
    replay root (history ++ [action]) = (replay root history).perform action := by
  rw [replay, List.foldl_append]
  rfl

theorem ascending_share (history : History) (taker : Option Nat) :
    (share history taker).Pairwise fun x y => x.index < y.index :=
  (pairwise_additions history).filter _

theorem spine_replay (root : Heading) (history : History) :
    Spine root (replay root history) (opened history) (share history none) := by
  induction history using List.reverseRecOn with
  | nil => exact .root rfl rfl .nil
  | append_singleton history action ih =>
    rw [replay_concat, opened_concat]
    cases action with
    | push heading =>
      rw [share_none_concat _ (by simp)]
      exact ih.openNode history.length heading
    | pop =>
      -- The innermost node has been open since its opening, so all later additions are under
      -- it.
      rw [(share_pop history).1]
      exact (ih.pop (ascending_share history none)).1
    | close =>
      have hshare : share (history ++ [.close]) none = share history none :=
        (share_none_concat history (by simp)).trans (List.append_nil _)
      rw [hshare]
      exact ih.close
    | token t =>
      rw [share_none_concat _ (by simp)]
      exact ih.push_element (.token .nil)

theorem lists_removed (root : Heading) (before after : History) :
    Lists (opened (before ++ [.pop])).head?
      (((replay root before).pop?.map Prod.fst).toList.map Node.toElement)
      (share (before ++ .pop :: after) (some before.length)) := by
  have hshare : share (before ++ .pop :: after) (some before.length) =
      share (before ++ [.pop]) (some before.length) := by
    rw [List.append_cons]
    exact share_some_append (by simp) after
  rw [hshare, (share_pop before).2, opened_concat]
  exact ((spine_replay root before).pop (ascending_share before none)).2

theorem current_replay (root : Heading) (history : History) :
    (opened history = [] → (replay root history).current.toHeading = root) ∧
      ∀ node ∈ (opened history).head?,
        history[node]? = some (.push (replay root history).current.toHeading) := by
  obtain ⟨hroot, hnodes⟩ := (spine_replay root history).current_told
  refine ⟨hroot, ?_⟩
  intro node hnode
  obtain ⟨holder, hmem⟩ := hnodes node hnode
  obtain ⟨action, hat, haddition⟩ :=
    exists_action_of_mem_additions (List.mem_of_mem_filter hmem)
  dsimp only at hat haddition
  rw [hat]
  cases action with
  | push heading =>
    have hheading : heading = (replay root history).current.toHeading := by
      simp only [Action.addition?, Option.some.injEq, Addition.mk.injEq,
        Element.node.injEq] at haddition
      exact haddition.2.2.1
    rw [hheading]
  | token t => simp [Action.addition?] at haddition
  | pop => cases haddition
  | close => cases haddition

/--
A context is told by its history. The finished tree holds, once and in order, whatever was added
and not removed, each under the node that was open when it was added; so its leaves are the
tokens that did not go with a removed node. A removed node holds what went with it, in the same
way. The nodes under construction are as many as the history leaves open, and one more for the
root; the innermost of them is the one that was opened last, and the production at work is the
one for its kind.
-/
theorem replay_told (root : Heading) (history : History) :
    let c := replay root history
    (c.finish.toHeading = root ∧ Lists none c.finish.children (share history none) ∧
      c.finish.leaves = (share history none).filterMap (·.element.asToken?)) ∧
    (∀ before after, history = before ++ .pop :: after →
      let removed := ((replay root before).pop?.map Prod.fst).toList
      let taken := share history (some before.length)
      Lists (opened (before ++ [.pop])).head? (removed.map Node.toElement) taken ∧
        removed.flatMap Node.leaves = taken.filterMap (·.element.asToken?)) ∧
    c.depth = (opened history).length + 1 ∧
    ((opened history = [] → c.current.toHeading = root) ∧
      ∀ node ∈ (opened history).head?, history[node]? = some (.push c.current.toHeading)) ∧
    c.rule = c.current.kind.rule := by
  intro c
  have hspine := spine_replay root history
  obtain ⟨hheading, hlists⟩ := hspine.finish
  refine ⟨⟨hheading, hlists, hlists.leavesAll_eq⟩, ?_, ?_, current_replay root history,
    hspine.rule_eq⟩
  · rintro before after rfl
    have hremoved := lists_removed root before after
    refine ⟨hremoved, ?_⟩
    rw [← hremoved.leavesAll_eq, Element.leavesAll_map_toElement]
  · rw [depth, hspine.length_eq]

theorem replay_told_unitWithRemoval :
    let t : Token := ⟨.word, "A", ⟨0, 0⟩, ⟨0, 1⟩⟩
    let before : History :=
      [.push ⟨.programUnit, none, none⟩, .token t, .push ⟨.dataDivision, none, none⟩, .token t]
    let history := before ++ .pop :: [.close, .token t]
    (replay ⟨.sourceUnit, none, none⟩ history).finish.leaves = [t, t] ∧
      ((replay ⟨.sourceUnit, none, none⟩ before).pop?.map Prod.fst).toList.flatMap Node.leaves =
        [t] := by
  intro t before history
  obtain ⟨⟨-, -, hleaves⟩, hremovals, -⟩ := replay_told ⟨.sourceUnit, none, none⟩ history
  exact ⟨hleaves, (hremovals before [.close, .token t] rfl).2⟩

end Context

end Parse

end CobolCompanion
