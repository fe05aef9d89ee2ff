import CobolCompanion.Proofs.SourceMapping

namespace CobolCompanion

namespace Position

variable {p q r : Position}

theorem le_refl (p : Position) : p ≤ p := .inr ⟨rfl, Nat.le_refl _⟩

theorem le_trans (h : p ≤ q) (h' : q ≤ r) : p ≤ r := by
  rw [le_def] at h h' ⊢
  omega

end Position

namespace Range

/-- A range that is not empty, neither by positions nor by bytes. -/
structure Solid (r : Range) : Prop where
  positions : r.start < r.stop
  bytes : r.span.start < r.span.stop

/-- A range ends before another begins. -/
structure Precedes (r s : Range) : Prop where
  positions : r.stop ≤ s.start
  bytes : r.span.stop ≤ s.span.start

/-- A range lies around another, by positions and by bytes. -/
structure Covers (r s : Range) : Prop where
  start : r.start ≤ s.start
  stop : s.stop ≤ r.stop
  bytes : r.span.start ≤ s.span.start ∧ s.span.stop ≤ r.span.stop

def hull (first last : Range) : Range :=
  ⟨⟨first.span.start, last.span.stop⟩, first.start, last.stop⟩

variable {r s t first last : Range} {p : Position}

theorem contains_iff : r.contains p ↔ r.start ≤ p ∧ p ≤ r.stop := by
  simp [contains]

theorem Covers.refl (r : Range) : r.Covers r :=
  ⟨Position.le_refl _, Position.le_refl _, Nat.le_refl _, Nat.le_refl _⟩

theorem Covers.trans (h : r.Covers s) (h' : s.Covers t) : r.Covers t :=
  ⟨Position.le_trans h.start h'.start, Position.le_trans h'.stop h.stop,
    Nat.le_trans h.bytes.1 h'.bytes.1, Nat.le_trans h'.bytes.2 h.bytes.2⟩

theorem Covers.hull (hfirst : r.Covers first) (hlast : r.Covers last) :
    r.Covers (first.hull last) :=
  ⟨hfirst.start, hlast.stop, hfirst.bytes.1, hlast.bytes.2⟩

theorem Covers.within (h : r.Covers s) : s.within r := by
  simp [Range.within, h.bytes]

theorem Precedes.trans (h : r.Precedes s) (hs : s.Solid) (h' : s.Precedes t) :
    r.Precedes t := by
  refine ⟨Position.le_trans h.positions
    (Position.le_trans (Position.le_of_lt hs.positions) h'.positions), ?_⟩
  have hbytes := hs.bytes
  have hfirst := h.bytes
  have hlast := h'.bytes
  omega

theorem Precedes.span_start_lt (h : r.Precedes s) (hr : r.Solid) :
    r.span.start < s.span.start :=
  Nat.lt_of_lt_of_le hr.bytes h.bytes

theorem Precedes.not_within (h : r.Precedes s) (hr : r.Solid) : r.within s = false := by
  have hbytes := hr.bytes
  have hfollows := h.bytes
  simp only [Range.within, Bool.and_eq_false_iff, decide_eq_false_iff_not]
  omega

theorem Precedes.not_within_of_solid (h : r.Precedes s) (hs : s.Solid) :
    s.within r = false := by
  have hbytes := hs.bytes
  have hfollows := h.bytes
  simp only [Range.within, Bool.and_eq_false_iff, decide_eq_false_iff_not]
  omega

theorem Precedes.ends_of_contains (h : r.Precedes s) (hr : p ≤ r.stop) (hs : s.start ≤ p) :
    r.stop = p ∧ s.start = p := by
  have hbetween := h.positions
  rw [Position.le_def] at hr hs hbetween
  constructor <;> (apply Position.ext <;> omega)

theorem Precedes.not_contains_of_between (h : r.Precedes s) (hs : s.Solid) (h' : s.Precedes t) :
    ¬(p ≤ r.stop ∧ t.start ≤ p) := by
  rintro ⟨hr, ht⟩
  have hfirst := h.positions
  have hsecond := hs.positions
  have hthird := h'.positions
  rw [Position.le_def] at hr ht hfirst hthird
  rw [Position.lt_def] at hsecond
  omega

/-- The ranges come one behind the other, and none is empty. -/
structure Ordered (ranges : List Range) : Prop where
  solid : ∀ r ∈ ranges, r.Solid
  pairwise : ranges.Pairwise Precedes

namespace Ordered

variable {ranges others : List Range}

theorem sublist (h : Ordered ranges) (hothers : others.Sublist ranges) : Ordered others where
  solid r hr := h.solid r (hothers.subset hr)
  pairwise := h.pairwise.sublist hothers

/-- Ranges that come one behind the other are different. -/
theorem nodup (h : Ordered ranges) : ranges.Nodup := by
  refine h.pairwise.imp_of_mem ?_
  intro r s hr _ hprecedes heq
  have hlt := hprecedes.span_start_lt (h.solid r hr)
  rw [heq] at hlt
  exact Nat.lt_irrefl _ hlt

theorem foldl_join (h : Ordered (r :: ranges)) :
    ranges.foldl join r = r.hull ((r :: ranges).getLast (List.cons_ne_nil r ranges)) := by
  induction ranges generalizing r with
  | nil => rfl
  | cons s ranges ih =>
    obtain ⟨hsolid, hpairwise⟩ := h
    rw [List.forall_mem_cons, List.forall_mem_cons] at hsolid
    obtain ⟨hr, hs, hranges⟩ := hsolid
    obtain ⟨hfirst, hpairwise⟩ := List.pairwise_cons.1 hpairwise
    obtain ⟨hsecond, hpairwise⟩ := List.pairwise_cons.1 hpairwise
    have hrs : r.Precedes s := hfirst s List.mem_cons_self
    have hjoin : r.join s = r.hull s :=
      join_of_lt (Position.lt_of_lt_of_le hr.positions hrs.positions)
        (Position.lt_of_le_of_lt hrs.positions hs.positions)
    have hhull : (r.hull s).Solid :=
      ⟨Position.lt_of_lt_of_le hr.positions
          (Position.le_trans hrs.positions (Position.le_of_lt hs.positions)),
        Nat.lt_trans (Nat.lt_of_lt_of_le hr.bytes hrs.bytes) hs.bytes⟩
    have hordered : Ordered (r.hull s :: ranges) := by
      refine ⟨List.forall_mem_cons.2 ⟨hhull, hranges⟩, List.pairwise_cons.2 ⟨?_, hpairwise⟩⟩
      intro t ht
      exact ⟨(hsecond t ht).positions, (hsecond t ht).bytes⟩
    rw [List.foldl_cons, hjoin, ih hordered]
    cases ranges with
    | nil => rfl
    | cons t ranges => simp [hull]

theorem exists_hull (h : Ordered ranges) {box : Range} (hbox : boundingBox ranges = some box) :
    ∃ first last, ranges.head? = some first ∧ ranges.getLast? = some last ∧
      box = first.hull last := by
  cases ranges with
  | nil => cases hbox
  | cons r ranges =>
    refine ⟨r, _, rfl, List.getLast?_eq_some_getLast (List.cons_ne_nil r ranges), ?_⟩
    rw [boundingBox, h.foldl_join, Option.some.injEq] at hbox
    exact hbox.symm

theorem covers_of_mem (h : Ordered ranges) {box : Range} (hbox : boundingBox ranges = some box)
    (hr : r ∈ ranges) : box.Covers r := by
  obtain ⟨first, last, hfirst, hlast, rfl⟩ := h.exists_hull hbox
  have hstart : first = r ∨ first.Precedes r := by
    obtain ⟨rest, rfl⟩ := List.head?_eq_some_iff.1 hfirst
    rcases List.mem_cons.1 hr with rfl | hr
    · exact .inl rfl
    · exact .inr ((List.pairwise_cons.1 h.pairwise).1 r hr)
  have hstop : r = last ∨ r.Precedes last := by
    obtain ⟨rest, rfl⟩ := List.getLast?_eq_some_iff.1 hlast
    rcases List.mem_append.1 hr with hr | hr
    · exact .inr ((List.pairwise_append.1 h.pairwise).2.2 r hr last (by simp))
    · exact .inl (List.mem_singleton.1 hr)
  have hfirst := h.solid first (List.mem_of_head? hfirst)
  have hlast := h.solid last (List.mem_of_getLast? hlast)
  have hfrom : first.start ≤ r.start ∧ first.span.start ≤ r.span.start := by
    rcases hstart with rfl | hstart
    · exact ⟨Position.le_refl _, Nat.le_refl _⟩
    · exact ⟨Position.le_trans (Position.le_of_lt hfirst.positions) hstart.positions,
        Nat.le_of_lt (hstart.span_start_lt hfirst)⟩
  have hto : r.stop ≤ last.stop ∧ r.span.stop ≤ last.span.stop := by
    rcases hstop with rfl | hstop
    · exact ⟨Position.le_refl _, Nat.le_refl _⟩
    · exact ⟨Position.le_trans hstop.positions (Position.le_of_lt hlast.positions),
        Nat.le_trans hstop.bytes (Nat.le_of_lt hlast.bytes)⟩
  exact ⟨hfrom.1, hto.1, hfrom.2, hto.2⟩

theorem covers_boundingBox (h : Ordered ranges) (hothers : others.Sublist ranges)
    {box inner : Range} (hbox : boundingBox ranges = some box)
    (hinner : boundingBox others = some inner) :
    box.Covers inner := by
  obtain ⟨first, last, hfirst, hlast, rfl⟩ := (h.sublist hothers).exists_hull hinner
  exact (h.covers_of_mem hbox (hothers.subset (List.mem_of_head? hfirst))).hull
    (h.covers_of_mem hbox (hothers.subset (List.mem_of_getLast? hlast)))

theorem solid_boundingBox (h : Ordered ranges) {box : Range}
    (hbox : boundingBox ranges = some box) :
    box.Solid := by
  obtain ⟨first, last, hfirst, -, -⟩ := h.exists_hull hbox
  have hcovers := h.covers_of_mem hbox (List.mem_of_head? hfirst)
  have hsolid := h.solid first (List.mem_of_head? hfirst)
  exact ⟨Position.lt_of_le_of_lt hcovers.start
    (Position.lt_of_lt_of_le hsolid.positions hcovers.stop),
    Nat.lt_of_le_of_lt hcovers.bytes.1 (Nat.lt_of_lt_of_le hsolid.bytes hcovers.bytes.2)⟩

theorem precedes_boundingBox (h : Ordered (ranges ++ others)) {box box' : Range}
    (hbox : boundingBox ranges = some box) (hbox' : boundingBox others = some box') :
    box.Precedes box' := by
  obtain ⟨_, last, -, hlast, rfl⟩ := (h.sublist (List.sublist_append_left _ _)).exists_hull hbox
  obtain ⟨first, _, hfirst, -, rfl⟩ :=
    (h.sublist (List.sublist_append_right _ _)).exists_hull hbox'
  have hprecedes :=
    (List.pairwise_append.1 h.pairwise).2.2 last (List.mem_of_getLast? hlast) first
    (List.mem_of_head? hfirst)
  exact ⟨hprecedes.positions, hprecedes.bytes⟩

/--
Where a range of a text meets the box of a part, it is in the part or meets it at one of its
ends.
-/
theorem exists_contains_of_hull (h : Ordered ranges) (hothers : others <:+: ranges)
    (hfirst : first ∈ others) (hlast : last ∈ others) (hbox : (first.hull last).contains p)
    (hr : r ∈ ranges) (hp : r.contains p) : ∃ s ∈ others, s.contains p := by
  have hsolid := (h.sublist hothers.sublist).solid
  obtain ⟨hstart, hstop⟩ := contains_iff.1 hbox
  obtain ⟨before, after, rfl⟩ := hothers
  obtain ⟨hpairs, -, hafter⟩ := List.pairwise_append.1 h.pairwise
  obtain ⟨-, -, hbefore⟩ := List.pairwise_append.1 hpairs
  rcases List.mem_append.1 hr with hr | hr
  · rcases List.mem_append.1 hr with hr | hr
    · obtain ⟨-, hends⟩ :=
        (hbefore r hr first hfirst).ends_of_contains (contains_iff.1 hp).2 hstart
      refine ⟨first, hfirst, contains_iff.2 ⟨hstart, ?_⟩⟩
      rw [← hends]
      exact Position.le_of_lt (hsolid first hfirst).positions
    · exact ⟨r, hr, hp⟩
  · obtain ⟨hends, -⟩ :=
      (hafter last (List.mem_append_right _ hlast) r hr).ends_of_contains hstop
      (contains_iff.1 hp).1
    refine ⟨last, hlast, contains_iff.2 ⟨?_, hstop⟩⟩
    rw [← hends]
    exact Position.le_of_lt (hsolid last hlast).positions

/-- In a text, a position that lies in the box of a part lies in one of its ranges. -/
theorem any_boundingBox (h : Ordered ranges) (hothers : others <:+: ranges) (hr : r ∈ ranges)
    (hp : r.contains p) :
    (boundingBox others).any (·.contains p) = others.any (·.contains p) := by
  have hordered : Ordered others := h.sublist hothers.sublist
  rw [Bool.eq_iff_iff, List.any_eq_true]
  cases hbox : boundingBox others with
  | none =>
    cases others with
    | nil => simp
    | cons s others => cases hbox
  | some box =>
    rw [Option.any_some]
    constructor
    · intro hcontains
      obtain ⟨first, last, hfirst, hlast, rfl⟩ := hordered.exists_hull hbox
      exact h.exists_contains_of_hull hothers (List.mem_of_head? hfirst)
        (List.mem_of_getLast? hlast)
        hcontains hr hp
    · rintro ⟨s, hs, hcontains⟩
      have hcovers := hordered.covers_of_mem hbox hs
      obtain ⟨hstart, hstop⟩ := contains_iff.1 hcontains
      exact contains_iff.2 ⟨Position.le_trans hcovers.start hstart,
        Position.le_trans hstop hcovers.stop⟩

end Ordered

end Range

/-- Tokens that are laid out come one behind the other. -/
theorem Laid.ordered {p : Place} {tokens : List Token} (h : Laid p tokens) :
    Range.Ordered (tokens.map Token.range) := by
  have hbehind {p : Place} {tokens : List Token} (h : Laid p tokens) :
      ∀ t ∈ tokens, p.position ≤ t.range.start ∧ p.offset ≤ t.range.span.start := by
    induction tokens generalizing p with
    | nil => simp
    | cons t tokens ih =>
      obtain ⟨ht, htokens⟩ := h
      rw [List.forall_mem_cons]
      refine ⟨?_, fun u hu => ?_⟩
      · rw [Token.range, ht.position, ht.span]
        exact ⟨Position.le_refl _, Nat.le_refl _⟩
      · obtain ⟨hposition, hoffset⟩ := ih htokens u hu
        rw [Place.offset_after] at hoffset
        exact ⟨Position.le_trans (Position.le_of_lt ht.position_lt) hposition, by omega⟩
  induction tokens generalizing p with
  | nil => exact ⟨by simp, .nil⟩
  | cons t tokens ih =>
    obtain ⟨ht, htokens⟩ := h
    obtain ⟨hsolid, hpairwise⟩ := ih htokens
    have hstart : t.range.start = p.position := ht.position
    have hspan : t.range.span = ⟨p.offset, (p.after t.lexeme.toList).offset⟩ := ht.span
    constructor
    · rw [List.map_cons, List.forall_mem_cons]
      refine ⟨⟨hstart ▸ ht.start_lt_stop, ?_⟩, hsolid⟩
      have hbytes := byteLength_pos ht.nonempty
      rw [hspan, Place.offset_after]
      exact Nat.lt_add_of_pos_right hbytes
    · rw [List.map_cons, List.pairwise_cons]
      refine ⟨?_, hpairwise⟩
      intro r hr
      obtain ⟨u, hu, rfl⟩ := List.mem_map.1 hr
      obtain ⟨hposition, hoffset⟩ := hbehind htokens u hu
      refine ⟨Position.le_trans ht.stop_le hposition, ?_⟩
      rw [hspan]
      exact hoffset

theorem ordered_scan (text : String) : Range.Ordered ((scan text).map Token.range) :=
  (laid_scanFrom .start text.toList).ordered

end CobolCompanion
