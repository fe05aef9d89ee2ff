import CobolCompanion.Proofs.DataHierarchy
import CobolCompanion.Proofs.OutlineListing

namespace CobolCompanion

/-- An item and all items below it, as deep as the fuel reaches, each before those below it. -/
def descent (items : List DataItem) : Nat → Nat → List Nat
  | 0, i => [i]
  | fuel + 1, i => i :: (membersOf items i).flatMap (descent items fuel)

/-- Whether an item does not belong to one of those from a given number on. -/
def isOuter (items : List DataItem) (start i : Nat) : Bool :=
  (parentOf? items i).all (· < start)

/-- The items in a stretch that belong to none in it. -/
def outerItems (items : List DataItem) (start length : Nat) : List Nat :=
  (List.range' start length).filter (isOuter items start)

section
variable {items : List DataItem} {start i : Nat}

theorem isOuter_eq_true_iff :
    isOuter items start i = true ↔ ∀ p, parentOf? items i = some p → p < start := by
  rw [isOuter]
  cases parentOf? items i <;> simp

theorem isOuter_eq_false_iff :
    isOuter items start i = false ↔ ∃ p, parentOf? items i = some p ∧ start ≤ p := by
  rw [isOuter]
  cases parentOf? items i <;> simp

end

theorem range'_eq_append (start : Nat) {first length : Nat} (h : first ≤ length) :
    List.range' start length =
      List.range' start first ++ List.range' (start + first) (length - first) := by
  rw [List.range'_append_1, Nat.add_sub_cancel' h]

namespace Linked

variable {items : List DataItem} {start length : Nat}

/-- The items of a stretch are closed: what belongs to one of them is in it, too. -/
def Closed (items : List DataItem) (start length : Nat) : Prop :=
  ∀ ⦃c i⦄, parentOf? items c = some i → start ≤ i → i < start + length → c < start + length

theorem exists_below (items : List DataItem) (start length : Nat) :
    ∃ below ≤ length, (∀ m, start < m → m ≤ start + below → isOuter items start m = false) ∧
      (below = length ∨ isOuter items start (start + below + 1)) := by
  induction length with
  | zero => exact ⟨0, Nat.le_refl 0, fun m _ _ => by omega, .inl rfl⟩
  | succ length ih =>
    obtain ⟨below, hle, hbelow, hnext⟩ := ih
    rcases hnext with rfl | hnext
    · cases hlast : isOuter items start (start + below + 1) with
      | true => exact ⟨below, Nat.le_succ below, hbelow, .inr hlast⟩
      | false =>
        refine ⟨below + 1, Nat.le_refl _, ?_, .inl rfl⟩
        intro m hm hle
        rcases Nat.lt_or_eq_of_le hle with hlt | rfl
        · exact hbelow m hm (by omega)
        · exact hlast
    · exact ⟨below, by omega, hbelow, .inr hnext⟩

theorem closed_below (h : Linked items) {below : Nat} (hle : below ≤ length)
    (hclosed : Closed items start (length + 1))
    (hnext : below = length ∨ isOuter items start (start + below + 1)) :
    Closed items start (below + 1) := by
  intro c i hc hstart hi
  rcases hnext with rfl | hnext
  · exact hclosed hc hstart hi
  by_contra hbehind
  -- The item that is next would lie below the one that the other belongs to.
  obtain ⟨q, hq, hiq⟩ : ∃ q, parentOf? items (start + below + 1) = some q ∧ i ≤ q := by
    by_cases hsame : c = start + below + 1
    · exact ⟨i, hsame ▸ hc, Nat.le_refl i⟩
    · exact h.between hc (by omega) (by omega)
  have hlow := isOuter_eq_true_iff.1 hnext q hq
  omega

theorem Closed.behind {below : Nat} (hclosed : Closed items start (length + 1))
    (hle : below ≤ length) :
    Closed items (start + (below + 1)) (length - below) := by
  intro c i hc hstart hi
  have hend := hclosed hc (by omega) (by omega)
  omega

theorem Closed.inside {below : Nat} (hclosed : Closed items start (below + 1)) :
    Closed items (start + 1) below := by
  intro c i hc hstart hi
  have hend := hclosed hc (by omega) (by omega)
  omega

theorem membersOf_eq_outerItems (h : Linked items) {below : Nat}
    (hclosed : Closed items start (below + 1))
    (hbelow : ∀ m, start < m → m ≤ start + below → isOuter items start m = false)
    (hlength : start + (below + 1) ≤ items.length) :
    membersOf items start = outerItems items (start + 1) below := by
  have hsplit : List.range items.length = List.range' 0 (start + 1) ++
      (List.range' (start + 1) below ++
        List.range' (start + 1 + below) (items.length - (start + 1) - below)) := by
    rw [← range'_eq_append (start + 1) (by omega), List.range_eq_range',
      range'_eq_append 0 (show start + 1 ≤ items.length by omega), Nat.zero_add]
  have hbefore : (List.range' 0 (start + 1)).filter (fun c => parentOf? items c = some start) =
      [] := by
    rw [List.filter_eq_nil_iff]
    intro c hc
    rw [List.mem_range'_1] at hc
    simp only [decide_eq_true_eq]
    intro hparent
    have hlt := h.parent_lt hparent
    omega
  have hbehind : (List.range' (start + 1 + below) (items.length - (start + 1) - below)).filter
      (fun c => parentOf? items c = some start) = [] := by
    rw [List.filter_eq_nil_iff]
    intro c hc
    rw [List.mem_range'_1] at hc
    simp only [decide_eq_true_eq]
    intro hparent
    have hlt := hclosed hparent (Nat.le_refl start) (by omega)
    omega
  rw [membersOf, hsplit, List.filter_append, List.filter_append, hbefore, hbehind,
    List.nil_append, List.append_nil, outerItems]
  apply List.filter_congr
  intro m hm
  rw [List.mem_range'_1] at hm
  obtain ⟨q, hq, hle⟩ := isOuter_eq_false_iff.1 (hbelow m (by omega) (by omega))
  rw [isOuter, hq, Option.all_some, decide_eq_decide, Option.some.injEq]
  omega

/--
The outer items of a stretch are its first one and the outer ones behind what is below that one.
-/
theorem outerItems_eq_cons (h : Linked items) {below : Nat} (hle : below ≤ length)
    (hclosed : Closed items start (below + 1))
    (hbelow : ∀ m, start < m → m ≤ start + below → isOuter items start m = false) :
    outerItems items start (length + 1) =
      start :: outerItems items (start + (below + 1)) (length - below) := by
  have hsplit : List.range' start (length + 1) =
      start :: (List.range' (start + 1) below ++
        List.range' (start + (below + 1)) (length - below)) := by
    rw [List.range'_succ, range'_eq_append (start + 1) hle, Nat.add_assoc, Nat.add_comm 1]
  have hfirst : isOuter items start start = true :=
    isOuter_eq_true_iff.2 fun p hp => h.parent_lt hp
  have hnone : (List.range' (start + 1) below).filter (isOuter items start) = [] := by
    rw [List.filter_eq_nil_iff]
    intro m hm
    rw [List.mem_range'_1] at hm
    simp [hbelow m (by omega) (by omega)]
  rw [outerItems, hsplit, List.filter_cons_of_pos hfirst, List.filter_append, hnone,
    List.nil_append, outerItems]
  congr 1
  apply List.filter_congr
  intro m hm
  rw [List.mem_range'_1] at hm
  rw [Bool.eq_iff_iff, isOuter_eq_true_iff, isOuter_eq_true_iff]
  refine forall₂_congr fun p hp => ⟨fun hlt => by omega, fun hlt => ?_⟩
  by_contra hge
  have hinside := hclosed hp (by omega) hlt
  omega

/--
Going through the outer items of a stretch, each with all that is below it, is going through it.
-/
theorem flatMap_descent (h : Linked items) {fuel : Nat} (hclosed : Closed items start length)
    (hlength : start + length ≤ items.length) (hfuel : length ≤ fuel) :
    (outerItems items start length).flatMap (descent items fuel) =
      List.range' start length := by
  induction length using Nat.strong_induction_on generalizing start fuel with
  | _ length ih =>
    cases length with
    | zero => rfl
    | succ length =>
      obtain ⟨fuel, rfl⟩ :=
        Nat.exists_eq_add_of_le' (Nat.lt_of_lt_of_le (Nat.succ_pos length) hfuel)
      obtain ⟨below, hle, hbelow, hnext⟩ := exists_below items start length
      have hfirst := h.closed_below hle hclosed hnext
      have hmembers := ih below (by omega) hfirst.inside (by omega) (show below ≤ fuel by omega)
      have hrest := ih (length - below) (by omega) (hclosed.behind hle) (by omega)
        (show length - below ≤ fuel + 1 by omega)
      rw [h.outerItems_eq_cons hle hfirst hbelow, List.flatMap_cons, hrest, descent,
        h.membersOf_eq_outerItems hfirst hbelow (by omega), hmembers, List.range'_succ,
        range'_eq_append (start + 1) hle, List.cons_append, Nat.add_assoc, Nat.add_comm 1]

end Linked

namespace Outline

open OutlineSymbol

variable {items : List DataItem}

theorem map_key_preorderAll {fuel : Nat} {numbers : List Nat}
    (hnumbers : ∀ i ∈ numbers, i < items.length)
    (h : ∀ {i d}, items[i]? = some d → (dataSymbol items fuel d).preorder.map key =
      ((descent items fuel i).filterMap (items[·]?)).map DataItem.key) :
    (preorderAll ((numbers.filterMap (items[·]?)).map (dataSymbol items fuel))).map key =
      ((numbers.flatMap (descent items fuel)).filterMap (items[·]?)).map DataItem.key := by
  induction numbers with
  | nil => rfl
  | cons i numbers ih =>
    rw [List.forall_mem_cons] at hnumbers
    have hd := List.getElem?_eq_getElem hnumbers.1
    rw [List.filterMap_cons_some hd, List.map_cons, preorderAll, List.map_append,
      ih hnumbers.2, h hd, List.flatMap_cons, List.filterMap_append, List.map_append]

/--
The entries of an item and of all below it are those of the items that are met on the way down.
-/
theorem map_key_preorder_dataSymbol (h : Linked items) {fuel i : Nat} {d : DataItem}
    (hd : items[i]? = some d) :
    (dataSymbol items fuel d).preorder.map key =
      ((descent items fuel i).filterMap (items[·]?)).map DataItem.key := by
  induction fuel generalizing i d with
  | zero =>
    rw [dataSymbol, preorder, preorderAll, descent, List.filterMap_cons_some hd]
    rfl
  | succ fuel ih =>
    have hmembers : ∀ c ∈ membersOf items i, c < items.length := by
      intro c hc
      exact lt_length_of_parentOf? (mem_membersOf.1 hc)
    have hbelow := map_key_preorderAll hmembers ih
    rw [dataSymbol, preorder, descent, List.filterMap_cons_some hd, List.map_cons,
      List.map_cons, ← hbelow, h.children hd]
    rfl

/--
The entries of the outer items of a closed stretch, with all below them, are those of the
stretch.
-/
theorem map_key_outerItems (h : Linked items) {start length fuel : Nat}
    (hclosed : Linked.Closed items start length) (hlength : start + length ≤ items.length)
    (hfuel : length ≤ fuel) :
    (preorderAll (((outerItems items start length).filterMap (items[·]?)).map
      (dataSymbol items fuel))).map key =
      ((List.range' start length).filterMap (items[·]?)).map DataItem.key := by
  rw [map_key_preorderAll ?_ (map_key_preorder_dataSymbol h),
    h.flatMap_descent hclosed hlength hfuel]
  intro i hi
  have hrange := List.mem_range'_1.1 (List.mem_filter.1 hi).1
  omega

end Outline

theorem filterMap_filter_range' {α : Type} {before batch after : List α} {p : Nat → Bool}
    {q : α → Bool} (h : ∀ {i a}, before.length ≤ i → i < before.length + batch.length →
      (before ++ (batch ++ after))[i]? = some a → p i = q a) :
    ((List.range' before.length batch.length).filter p).filterMap
      ((before ++ (batch ++ after))[·]?) =
      batch.filter q := by
  induction batch generalizing before with
  | nil => rfl
  | cons a batch ih =>
    have hfirst : (before ++ (a :: batch ++ after))[before.length]? = some a := by simp
    have htest : p before.length = q a := h (Nat.le_refl _) (by simp) hfirst
    have hsame : before ++ [a] ++ (batch ++ after) = before ++ (a :: batch ++ after) := by simp
    have hrest : ((List.range' (before.length + 1) batch.length).filter p).filterMap
        ((before ++ (a :: batch ++ after))[·]?) = batch.filter q := by
      have hlength : (before ++ [a]).length = before.length + 1 := by simp
      rw [← hsame, ← hlength]
      apply ih
      intro i b hle hlt hb
      rw [hlength] at hle hlt
      exact h (by omega) (by rw [List.length_cons]; omega) (hsame ▸ hb)
    rw [List.length_cons, List.range'_succ, List.filter_cons, List.filter_cons, htest]
    cases hq : q a with
    | true => rw [if_pos rfl, if_pos rfl, List.filterMap_cons_some hfirst, hrest]
    | false => exact hrest

end CobolCompanion
