namespace CobolCompanion

/-- A line and a column, both counted from zero. Columns count characters. -/
@[ext]
structure Position where
  line : Nat
  column : Nat
  deriving DecidableEq, Inhabited

namespace Position

instance : LE Position where
  le p q := p.line < q.line ∨ p.line = q.line ∧ p.column ≤ q.column

instance : LT Position where
  lt p q := p.line < q.line ∨ p.line = q.line ∧ p.column < q.column

instance (p q : Position) : Decidable (p ≤ q) :=
  inferInstanceAs (Decidable (_ ∨ _))

instance (p q : Position) : Decidable (p < q) :=
  inferInstanceAs (Decidable (_ ∨ _))

theorem le_def {p q : Position} :
    p ≤ q ↔ p.line < q.line ∨ p.line = q.line ∧ p.column ≤ q.column := .rfl

theorem lt_def {p q : Position} :
    p < q ↔ p.line < q.line ∨ p.line = q.line ∧ p.column < q.column := .rfl

def render (p : Position) : String :=
  s!"{p.line}:{p.column}"

end Position

/-- A stretch of bytes: the offset of its first byte and the offset after its last. -/
@[ext]
structure Span where
  start : Nat
  stop : Nat
  deriving DecidableEq, Inhabited

/-- A stretch of text by bytes and by positions. Neither side constrains the other. -/
@[ext]
structure Range where
  span : Span
  start : Position
  stop : Position
  deriving DecidableEq

namespace Range

def origin : Range :=
  ⟨⟨0, 0⟩, ⟨0, 0⟩, ⟨0, 0⟩⟩

instance : Inhabited Range := ⟨origin⟩

/-- Whether a position lies in a range, both ends included. -/
def contains (r : Range) (p : Position) : Bool :=
  r.start ≤ p && p ≤ r.stop

/-- Whether an end of one of the two ranges lies in the other. -/
def overlaps (r s : Range) : Bool :=
  r.contains s.start || r.contains s.stop || s.contains r.start || s.contains r.stop

/-- Whether the bytes of the first range lie within the bytes of the second. -/
def within (r s : Range) : Bool :=
  s.span.start ≤ r.span.start && r.span.stop ≤ s.span.stop

/--
The least range around two ranges. Positions decide which byte offset is taken; where the
positions agree, the offset that makes the span larger is.
-/
def join (r s : Range) : Range where
  start := if s.start < r.start then s.start else r.start
  stop := if r.stop < s.stop then s.stop else r.stop
  span :=
    { start :=
        if s.start < r.start then s.span.start
        else if s.start = r.start then min r.span.start s.span.start
        else r.span.start
      stop :=
        if r.stop < s.stop then s.span.stop
        else if s.stop = r.stop then max r.span.stop s.span.stop
        else r.span.stop }

/-- The least range around all the given ranges, if there is any. -/
def boundingBox : List Range → Option Range
  | [] => none
  | r :: rs => some (rs.foldl join r)

/-- A range is written as its two positions with two dots between them. -/
def render (r : Range) : String :=
  r.start.render ++ ".." ++ r.stop.render

end Range

end CobolCompanion
