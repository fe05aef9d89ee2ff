import CobolCompanion.Tree.Basic
import Mathlib.Data.Prod.Lex
import Mathlib.Order.MinMax

namespace CobolCompanion

/-- A position with a byte offset, ordered by lines, then by columns, then by offsets. -/
def Position.corner (p : Position) (offset : Nat) : ℕ ×ₗ ℕ ×ₗ ℕ :=
  toLex (p.line, toLex (p.column, offset))

namespace Position

variable {p q : Position} {m n : Nat}

theorem corner_le_corner : p.corner m ≤ q.corner n ↔ p < q ∨ p = q ∧ m ≤ n := by
  rw [corner, corner, Prod.Lex.toLex_le_toLex, Prod.Lex.toLex_le_toLex, lt_def,
    Position.ext_iff]
  dsimp only
  omega

theorem corner_inj : p.corner m = q.corner n ↔ p = q ∧ m = n := by
  rw [corner, corner, toLex_inj, Prod.mk.injEq, toLex_inj, Prod.mk.injEq,
    Position.ext_iff, and_assoc]

theorem monotone_corner (p : Position) : Monotone p.corner := by
  intro m n h
  exact corner_le_corner.2 (.inr ⟨rfl, h⟩)

theorem lt_of_not_lt_of_ne (h : ¬ p < q) (hne : p ≠ q) : q < p := by
  rw [lt_def] at h ⊢
  rw [Ne, Position.ext_iff] at hne
  omega

end Position

namespace Range

variable {r s : Range}

def first (r : Range) : ℕ ×ₗ ℕ ×ₗ ℕ :=
  r.start.corner r.span.start

def last (r : Range) : ℕ ×ₗ ℕ ×ₗ ℕ :=
  r.stop.corner r.span.stop

theorem eq_of_ends (hfirst : r.first = s.first) (hlast : r.last = s.last) : r = s := by
  obtain ⟨hstart, hspanStart⟩ := Position.corner_inj.1 hfirst
  obtain ⟨hstop, hspanStop⟩ := Position.corner_inj.1 hlast
  exact Range.ext (Span.ext hspanStart hspanStop) hstart hstop

theorem first_join (r s : Range) : (r.join s).first = min r.first s.first := by
  by_cases hlt : s.start < r.start
  · have hle : s.first ≤ r.first := Position.corner_le_corner.2 (.inl hlt)
    rw [min_eq_right hle, first, join, if_pos hlt, if_pos hlt, first]
  · by_cases heq : s.start = r.start
    -- Starts that tie leave the choice to the offsets, and the corners of one position keep
    -- their order.
    · rw [first, join, if_neg hlt, if_neg hlt, if_pos heq,
        (Position.monotone_corner _).map_min, first, first, heq]
    · have hle : r.first ≤ s.first :=
        Position.corner_le_corner.2 (.inl (Position.lt_of_not_lt_of_ne hlt heq))
      rw [min_eq_left hle, first, join, if_neg hlt, if_neg hlt, if_neg heq, first]

theorem last_join (r s : Range) : (r.join s).last = max r.last s.last := by
  by_cases hlt : r.stop < s.stop
  · have hle : r.last ≤ s.last := Position.corner_le_corner.2 (.inl hlt)
    rw [max_eq_right hle, last, join, if_pos hlt, if_pos hlt, last]
  · by_cases heq : s.stop = r.stop
    · rw [last, join, if_neg hlt, if_neg hlt, if_pos heq,
        (Position.monotone_corner _).map_max, last, last, heq]
    · have hle : s.last ≤ r.last :=
        Position.corner_le_corner.2 (.inl (Position.lt_of_not_lt_of_ne hlt (Ne.symm heq)))
      rw [max_eq_left hle, last, join, if_neg hlt, if_neg hlt, if_neg heq, last]

theorem join_comm (r s : Range) : r.join s = s.join r := by
  apply eq_of_ends
  · rw [first_join, first_join, min_comm]
  · rw [last_join, last_join, max_comm]

theorem join_assoc (r s t : Range) : (r.join s).join t = r.join (s.join t) := by
  apply eq_of_ends
  · rw [first_join, first_join, first_join, first_join, min_assoc]
  · rw [last_join, last_join, last_join, last_join, max_assoc]

instance : Std.Commutative join := ⟨join_comm⟩

instance : Std.Associative join := ⟨join_assoc⟩

theorem boundingBox_cons (r : Range) (rs : List Range) :
    boundingBox (r :: rs) = (some r).merge join (boundingBox rs) := by
  cases rs with
  | nil => rfl
  | cons s rs => exact congrArg some List.foldl_assoc

theorem boundingBox_append (rs ss : List Range) :
    boundingBox (rs ++ ss) = (boundingBox rs).merge join (boundingBox ss) := by
  induction rs with
  | nil => exact Option.merge_none_left.symm
  | cons r rs ih =>
    rw [List.cons_append, boundingBox_cons, ih, boundingBox_cons]
    exact (Std.Associative.assoc _ _ _).symm

theorem boundingBox_eq_of_perm {rs ss : List Range} (h : rs.Perm ss) :
    boundingBox rs = boundingBox ss := by
  induction h with
  | nil => rfl
  | cons r h ih => rw [boundingBox_cons, boundingBox_cons, ih]
  | swap r s rs =>
    have hassoc (a b c : Option Range) :
        (a.merge join b).merge join c = a.merge join (b.merge join c) :=
          Std.Associative.assoc a b c
    have hswap : (some s).merge join (some r) = (some r).merge join (some s) :=
      congrArg some (join_comm s r)
    rw [boundingBox_cons, boundingBox_cons, boundingBox_cons, boundingBox_cons, ← hassoc,
      hswap, hassoc]
  | trans h h' ih ih' => exact ih.trans ih'

theorem exists_boundingBox {rs : List Range} (h : rs ≠ []) : ∃ r, boundingBox rs = some r := by
  obtain ⟨r, rest, rfl⟩ := List.exists_cons_of_ne_nil h
  exact ⟨_, rfl⟩

end Range

theorem Element.boundingBox_leavesAll (es : List Element) :
    Range.boundingBox ((leavesAll es).map Token.range) =
      Range.boundingBox (es.filterMap range?) := by
  induction es with
  | nil => rfl
  | cons e es ih =>
    rw [leavesAll, List.map_append, Range.boundingBox_append, ih, ← range?]
    cases hrange : e.range? with
    | none => rw [List.filterMap_cons_none hrange, Option.merge_none_left]
    | some r => rw [List.filterMap_cons_some hrange, Range.boundingBox_cons]

/--
Bounding boxes compose. The box of some ranges does not depend on their order, and that of two
lists is the box of the boxes of the two. The box of a node, which is that of all its leaves, is
the box of the boxes of its children, as far as these have one.
-/
theorem boundingBox_composes :
    (∀ rs ss : List Range, rs.Perm ss → Range.boundingBox rs = Range.boundingBox ss) ∧
    (∀ rs ss : List Range, rs ≠ [] → ss ≠ [] →
      ∃ r s, Range.boundingBox rs = some r ∧ Range.boundingBox ss = some s ∧
        Range.boundingBox (rs ++ ss) = Range.boundingBox [r, s]) ∧
    ∀ n : Node, n.range? = Range.boundingBox (n.children.filterMap Element.range?) := by
  refine ⟨fun rs ss => Range.boundingBox_eq_of_perm, ?_,
    fun n => Element.boundingBox_leavesAll n.children⟩
  intro rs ss hrs hss
  obtain ⟨r, hr⟩ := Range.exists_boundingBox hrs
  obtain ⟨s, hs⟩ := Range.exists_boundingBox hss
  refine ⟨r, s, hr, hs, ?_⟩
  rw [Range.boundingBox_append, hr, hs]
  rfl

theorem boundingBox_composes_tied :
    let r : Range := ⟨⟨5, 2⟩, ⟨1, 0⟩, ⟨0, 3⟩⟩
    let s : Range := ⟨⟨3, 9⟩, ⟨1, 0⟩, ⟨0, 3⟩⟩
    let t : Range := ⟨⟨7, 8⟩, ⟨0, 4⟩, ⟨0, 3⟩⟩
    ([r, s, t].Perm [t, s, r] ∧ Range.boundingBox [r, s, t] = Range.boundingBox [t, s, r]) ∧
    [r, s] ≠ [] ∧ [t] ≠ [] ∧
      ∃ box other, Range.boundingBox [r, s] = some box ∧ Range.boundingBox [t] = some other ∧
        Range.boundingBox [r, s, t] = Range.boundingBox [box, other] := by
  intro r s t
  obtain ⟨horder, happend, -⟩ := boundingBox_composes
  have hperm : [r, s, t].Perm [t, s, r] := (List.reverse_perm [r, s, t]).symm
  have hpair : [r, s] ≠ [] := by simp
  have hsingle : [t] ≠ [] := by simp
  exact ⟨⟨hperm, horder _ _ hperm⟩, hpair, hsingle, happend _ _ hpair hsingle⟩

end CobolCompanion
