import CobolCompanion.Analysis
import CobolCompanion.Proofs.Advances
import CobolCompanion.Proofs.TextOrder

namespace CobolCompanion

open Parse

/--
A token of a tree with the nodes around it, the outermost first. The root is not among them.
-/
structure Spot where
  ancestors : List Node
  token : Token

namespace Spot

def under (n : Node) (s : Spot) : Spot :=
  { s with ancestors := n :: s.ancestors }

/-- The nodes around a token, cut off before the first that was skipped. -/
def visible (s : Spot) : List Node :=
  s.ancestors.takeWhile (·.kind != .skipped)

def range (s : Spot) : Range :=
  s.token.range

def touches (p : Position) (s : Spot) : Bool :=
  s.range.contains p

theorem visible_under_of_skipped {n : Node} (h : n.kind = .skipped) (s : Spot) :
    (s.under n).visible = [] := by
  simp [visible, under, h]

theorem visible_under_of_placed {n : Node} (h : n.kind ≠ .skipped) (s : Spot) :
    (s.under n).visible = n :: s.visible := by
  simp [visible, under, h]

end Spot

namespace Element

mutual
/-- The tokens of an element with the nodes around them, in the order of the text. -/
def spots : Element → List Spot
  | token t => [⟨[], t⟩]
  | node heading children => (spotsAll children).map (.under ⟨heading, children⟩)

def spotsAll : List Element → List Spot
  | [] => []
  | e :: es => spots e ++ spotsAll es
end

mutual
theorem map_token_spots (e : Element) : (spots e).map Spot.token = leaves e := by
  cases e with
  | token t => rfl
  | node heading children =>
    rw [spots, leaves, List.map_map]
    exact map_token_spotsAll children

theorem map_token_spotsAll (es : List Element) :
    (spotsAll es).map Spot.token = leavesAll es := by
  cases es with
  | nil => rfl
  | cons e es => rw [spotsAll, leavesAll, List.map_append, map_token_spots e,
    map_token_spotsAll es]
end

end Element

def Node.spots (root : Node) : List Spot :=
  Element.spotsAll root.children

/-- Of two ways down a tree the first, unless it ends on the second. -/
noncomputable def deeper (first second : List Node) : List Node :=
  open Classical in if first <+: second then second else first

section
variable {us vs : List Node} {ways : List (List Node)} {n : Node}

theorem deeper_eq_second (h : us <+: vs) : deeper us vs = vs :=
  if_pos h

theorem deeper_eq_first (h : ¬us <+: vs) : deeper us vs = us :=
  if_neg h

theorem nil_deeper (vs : List Node) : deeper [] vs = vs :=
  deeper_eq_second List.nil_prefix

theorem deeper_nil (us : List Node) : deeper us [] = us := by
  cases us with
  | nil => exact nil_deeper []
  | cons n us => exact deeper_eq_first (by simp)

theorem deeper_cons_cons (n : Node) (us vs : List Node) :
    deeper (n :: us) (n :: vs) = n :: deeper us vs := by
  by_cases h : us <+: vs
  · rw [deeper_eq_second h, deeper_eq_second ((List.prefix_cons_inj n).2 h)]
  · rw [deeper_eq_first h, deeper_eq_first (mt (List.prefix_cons_inj n).1 h)]

theorem deeper_eq_nil (h : deeper us vs = []) : us = [] ∧ vs = [] := by
  by_cases hends : us <+: vs
  · rw [deeper_eq_second hends] at h
    rw [h] at hends
    exact ⟨List.prefix_nil.1 hends, h⟩
  · rw [deeper_eq_first hends] at h
    rw [h] at hends
    exact absurd List.nil_prefix hends

theorem foldr_deeper_of_nil (h : ∀ us ∈ ways, us = []) (vs : List Node) :
    ways.foldr deeper vs = vs := by
  induction ways with
  | nil => rfl
  | cons us ways ih =>
    rw [List.forall_mem_cons] at h
    rw [List.foldr_cons, ih h.2, h.1, nil_deeper]

theorem eq_nil_of_foldr_deeper (h : ways.foldr deeper [] = []) : ∀ us ∈ ways, us = [] := by
  induction ways with
  | nil => simp
  | cons us ways ih =>
    obtain ⟨hfirst, hrest⟩ := deeper_eq_nil h
    rw [List.forall_mem_cons]
    exact ⟨hfirst, ih hrest⟩

theorem foldr_deeper_map_cons (hways : ways ≠ []) (hvs : ∀ us, vs ≠ n :: us) :
    (ways.map (n :: ·)).foldr deeper vs = n :: ways.foldr deeper [] := by
  induction ways with
  | nil => exact absurd rfl hways
  | cons us ways ih =>
    cases ways with
    | nil =>
      have hends : ¬n :: us <+: vs := by
        rintro ⟨rest, hrest⟩
        exact hvs _ hrest.symm
      change deeper (n :: us) vs = n :: deeper us []
      rw [deeper_eq_first hends, deeper_nil]
    | cons us' ways =>
      rw [List.map_cons, List.foldr_cons, ih (List.cons_ne_nil _ _), deeper_cons_cons]
      rfl

end

namespace Analysis

variable {p : Position}

/-- A position lies in a node where it lies in one of its tokens. -/
def Fits (p : Position) (n : Node) : Prop :=
  n.range?.any (·.contains p) = n.leaves.any (·.range.contains p)

theorem eq_of_enclosingIn {e : Element} {n : Node} {rest : List Node}
    (h : enclosingIn p e = n :: rest) :
    e = n.toElement ∧ encloses p n := by
  cases e with
  | token t => simp [enclosingIn] at h
  | node heading children =>
    rw [enclosingIn] at h
    split at h
    · next hencloses =>
      cases h
      exact ⟨rfl, hencloses⟩
    · cases h

theorem mem_of_enclosingAmong {es : List Element} {n : Node} {rest : List Node}
    (h : enclosingAmong p es = n :: rest) : n.toElement ∈ es := by
  induction es with
  | nil => simp [enclosingAmong] at h
  | cons e es ih =>
    rw [enclosingAmong] at h
    split at h
    · exact List.mem_cons_of_mem e (ih h)
    · rw [(eq_of_enclosingIn h).1]
      exact List.mem_cons_self

theorem leaves_ne_nil_of_encloses {n : Node} (h : encloses p n) : n.leaves ≠ [] := by
  intro hnone
  simp [encloses, Node.range?, hnone, Range.boundingBox] at h

def waysTo (p : Position) (spots : List Spot) : List (List Node) :=
  (spots.filter (Spot.touches p)).map Spot.visible

theorem waysTo_append (spots more : List Spot) :
    waysTo p (spots ++ more) = waysTo p spots ++ waysTo p more := by
  rw [waysTo, List.filter_append, List.map_append, waysTo, waysTo]

theorem waysTo_map_under_of_skipped {n : Node} (h : n.kind = .skipped) (spots : List Spot) :
    ∀ us ∈ waysTo p (spots.map (.under n)), us = [] := by
  intro us hus
  obtain ⟨s, hs, rfl⟩ := List.mem_map.1 hus
  obtain ⟨s', -, rfl⟩ := List.mem_map.1 (List.mem_filter.1 hs).1
  exact s'.visible_under_of_skipped h

theorem waysTo_map_under_of_placed {n : Node} (h : n.kind ≠ .skipped) (spots : List Spot) :
    waysTo p (spots.map (.under n)) = (waysTo p spots).map (n :: ·) := by
  have htouches : Spot.touches p ∘ Spot.under n = Spot.touches p := rfl
  have hvisible : Spot.visible ∘ Spot.under n = (n :: ·) ∘ Spot.visible :=
    funext fun s => s.visible_under_of_placed h
  rw [waysTo, List.filter_map, htouches, List.map_map, hvisible, ← List.map_map, waysTo]

theorem waysTo_eq_nil_iff {es : List Element} :
    waysTo p (Element.spotsAll es) = [] ↔
      (Element.leavesAll es).any (·.range.contains p) = false := by
  rw [waysTo, List.map_eq_nil_iff, List.filter_eq_nil_iff,
    ← Element.map_token_spotsAll, List.any_map, List.any_eq_false]
  rfl

mutual
/-- The nodes of an element around a position are the way to the tokens in which it lies. -/
theorem enclosingIn_eq {e : Element} (hfits : ∀ n ∈ e.nodes, Fits p n)
    (hnodup : e.leaves.Nodup) :
    enclosingIn p e = (waysTo p e.spots).foldr deeper [] := by
  cases e with
  | token t =>
    rw [Element.spots, enclosingIn, foldr_deeper_of_nil]
    intro us hus
    obtain ⟨s, hs, rfl⟩ := List.mem_map.1 hus
    rw [List.mem_singleton.1 (List.mem_filter.1 hs).1]
    rfl
  | node heading children =>
    rw [Element.nodes, List.forall_mem_cons] at hfits
    rw [Element.leaves] at hnodup
    have hchildren := enclosingAmong_eq hfits.2 hnodup
    rw [Element.spots, enclosingIn, encloses]
    by_cases hkind : heading.kind = .skipped
    · rw [foldr_deeper_of_nil (waysTo_map_under_of_skipped (p := p) hkind _)]
      simp [hkind]
    · have htouched : Option.any (·.contains p) (Node.range? ⟨heading, children⟩) =
          (Element.leavesAll children).any (·.range.contains p) := hfits.1
      rw [waysTo_map_under_of_placed (n := ⟨heading, children⟩) hkind, htouched]
      cases hany : (Element.leavesAll children).any (·.range.contains p) with
      | false =>
        rw [waysTo_eq_nil_iff.2 hany]
        simp
      | true =>
        have hways : waysTo p (Element.spotsAll children) ≠ [] := by
          rw [Ne, waysTo_eq_nil_iff, hany]
          simp
        rw [foldr_deeper_map_cons hways (by simp), ← hchildren]
        simp [hkind]

theorem enclosingAmong_eq {es : List Element} (hfits : ∀ n ∈ Element.nodesAll es, Fits p n)
    (hnodup : (Element.leavesAll es).Nodup) :
    enclosingAmong p es = (waysTo p (Element.spotsAll es)).foldr deeper [] := by
  cases es with
  | nil => simp [enclosingAmong, Element.spotsAll, waysTo]
  | cons e es =>
    rw [Element.nodesAll, List.forall_mem_append] at hfits
    rw [Element.leavesAll] at hnodup
    obtain ⟨hnodup₁, hnodup₂, hdisjoint⟩ := List.nodup_append.1 hnodup
    have hfirst := enclosingIn_eq hfits.1 hnodup₁
    have hrest := enclosingAmong_eq hfits.2 hnodup₂
    rw [Element.spotsAll, waysTo_append, List.foldr_append, ← hrest, enclosingAmong]
    cases hway : enclosingIn p e with
    | nil =>
      rw [hway] at hfirst
      exact (foldr_deeper_of_nil (eq_nil_of_foldr_deeper hfirst.symm) _).symm
    | cons n rest =>
      obtain ⟨rfl, hencloses⟩ := eq_of_enclosingIn hway
      -- No element that follows is the same node: it would have the same tokens.
      have hother : ∀ us, enclosingAmong p es ≠ n :: us := by
        intro us hus
        obtain ⟨t, ht⟩ := List.exists_mem_of_ne_nil _ (leaves_ne_nil_of_encloses hencloses)
        have hn : n ∈ Element.nodesAll es :=
          Element.mem_nodesAll.2 ⟨_, mem_of_enclosingAmong hus,
            by simp [Node.toElement, Element.nodes]⟩
        exact hdisjoint t (by simpa using ht) t
          ((Element.leaves_infix_of_mem_nodesAll hn).mem ht) rfl
      have hkind : n.kind ≠ .skipped := by
        simp only [encloses, Bool.and_eq_true, bne_iff_ne] at hencloses
        exact hencloses.1
      have hspots : waysTo p n.toElement.spots =
          (waysTo p (Element.spotsAll n.children)).map (n :: ·) :=
        waysTo_map_under_of_placed hkind _
      have hways : waysTo p (Element.spotsAll n.children) ≠ [] := by
        intro hnone
        rw [hway, hspots, hnone] at hfirst
        cases hfirst
      rw [hway, hspots, foldr_deeper_map_cons hways (by simp)] at hfirst
      rw [hspots, foldr_deeper_map_cons hways hother]
      exact hfirst
end

end Analysis

namespace Spot

variable {p : Position} {s u : Spot} {earlier later : List Spot}

theorem touches_iff : s.touches p ↔ s.range.start ≤ p ∧ p ≤ s.range.stop :=
  Range.contains_iff

theorem filter_earlier (h : Range.Ordered ((earlier ++ s :: later).map range))
    (hs : s.touches p) :
    earlier.filter (touches p) = earlier.getLast?.toList.filter (·.range.stop = p) := by
  have hpairs := List.pairwise_map.1 h.pairwise
  rcases List.eq_nil_or_concat earlier with rfl | ⟨before, u, rfl⟩
  · rfl
  rw [List.concat_eq_append, List.append_assoc, List.pairwise_append] at hpairs
  obtain ⟨-, hlast, hbefore⟩ := hpairs
  have hus : u.range.Precedes s.range := (List.pairwise_cons.1 hlast).1 s (by simp)
  have hsolid : u.range.Solid := h.solid _ (List.mem_map_of_mem (by simp))
  have hnone : before.filter (touches p) = [] := by
    apply List.filter_eq_nil_iff.2
    intro x hx htouches
    exact (hbefore x hx u (by simp)).not_contains_of_between hsolid hus
      ⟨(touches_iff.1 htouches).2, (touches_iff.1 hs).1⟩
  rw [List.concat_eq_append, List.filter_append, hnone, List.getLast?_concat, List.nil_append]
  apply List.filter_congr
  intro x hx
  rw [List.mem_singleton.1 hx, Bool.eq_iff_iff, decide_eq_true_iff, touches_iff]
  constructor
  · rintro ⟨-, hstop⟩
    exact (hus.ends_of_contains hstop (touches_iff.1 hs).1).1
  · rintro rfl
    exact ⟨Position.le_of_lt hsolid.positions, Position.le_refl _⟩

theorem filter_later (h : Range.Ordered ((earlier ++ s :: later).map range))
    (hs : s.touches p) :
    later.filter (touches p) = later.head?.toList.filter (·.range.start = p) := by
  have hpairs := (List.pairwise_append.1 (List.pairwise_map.1 h.pairwise)).2.1
  cases later with
  | nil => rfl
  | cons u after =>
    obtain ⟨hs', hafter⟩ := List.pairwise_cons.1 hpairs
    have hsu : s.range.Precedes u.range := hs' u (by simp)
    have hsolid : u.range.Solid := h.solid _ (List.mem_map_of_mem (by simp))
    have hnone : after.filter (touches p) = [] := by
      apply List.filter_eq_nil_iff.2
      intro x hx htouches
      exact hsu.not_contains_of_between hsolid ((List.pairwise_cons.1 hafter).1 x hx)
        ⟨(touches_iff.1 hs).2, (touches_iff.1 htouches).1⟩
    rw [← List.singleton_append, List.filter_append, hnone, List.append_nil]
    apply List.filter_congr
    intro x hx
    rw [List.mem_singleton.1 hx, Bool.eq_iff_iff, decide_eq_true_iff, touches_iff]
    constructor
    · rintro ⟨hstart, -⟩
      exact (hsu.ends_of_contains (touches_iff.1 hs).2 hstart).2
    · rintro rfl
      exact ⟨Position.le_refl _, Position.le_of_lt hsolid.positions⟩

theorem not_touched_twice {v : Spot} (h : Range.Ordered ((earlier ++ s :: later).map range))
    (hu : u ∈ earlier.getLast?) (hstop : u.range.stop = p) (hv : v ∈ later.head?) :
    v.range.start ≠ p := by
  obtain ⟨before, rfl⟩ := List.getLast?_eq_some_iff.1 hu
  obtain ⟨after, rfl⟩ := List.head?_eq_some_iff.1 hv
  have hpairs := List.pairwise_map.1 h.pairwise
  rw [List.append_assoc, List.pairwise_append] at hpairs
  obtain ⟨hu', hlater⟩ := List.pairwise_cons.1 hpairs.2.1
  have hus : u.range.Precedes s.range := hu' s (by simp)
  have hsv : s.range.Precedes v.range := (List.pairwise_cons.1 hlater).1 v (by simp)
  rintro rfl
  apply hus.not_contains_of_between (h.solid _ (List.mem_map_of_mem (by simp))) hsv
  rw [hstop]
  exact ⟨Position.le_refl _, Position.le_refl _⟩

end Spot

namespace Analysis

theorem enclosingNodes_eq (score : Similarity) {text : String} {p : Position} {t : Token}
    (ht : t ∈ scan text) (hp : t.range.contains p) :
    let a := ofParsed (parseStream score (.ofText text))
    a.enclosingNodes p = (waysTo p a.root.spots).foldr deeper [] := by
  intro a
  have hordered := ordered_scan text
  rw [← leaves_root_ofText score] at hordered ht
  apply enclosingAmong_eq
  · intro n hn
    have hslice : n.leaves <:+: a.root.leaves := Element.leaves_infix_of_mem_nodesAll hn
    rw [Fits, Node.range?,
      hordered.any_boundingBox (hslice.map _) (List.mem_map_of_mem ht) hp, List.any_map]
    rfl
  · apply List.Pairwise.of_map Token.range _ hordered.nodup
    intro t u hne heq
    exact hne (congrArg Token.range heq)

end Analysis

/--
The nodes around a position in a token are those around the token, cut off before the first that
was skipped, unless the token touches another one there. Then the way to the first of the two
goes before, unless it ends on the way to the second.
-/
theorem enclosingNodes_at_token (score : Similarity) (text : String) :
    let a := Analysis.ofParsed (parseStream score (.ofText text))
    a.root.spots.map Spot.token = scan text ∧
    ∀ (earlier later : List Spot) (s : Spot) (p : Position),
      a.root.spots = earlier ++ s :: later → s.range.contains p →
        let nodes := a.enclosingNodes p
        ((∀ u ∈ earlier.getLast?, u.range.stop ≠ p) → (∀ u ∈ later.head?, u.range.start ≠ p) →
          nodes = s.visible) ∧
        (∀ u ∈ earlier.getLast?, u.range.stop = p → nodes = deeper u.visible s.visible) ∧
        (∀ u ∈ later.head?, u.range.start = p → nodes = deeper s.visible u.visible) := by
  intro a
  have htokens : a.root.spots.map Spot.token = scan text := by
    rw [← leaves_root_ofText score]
    exact Element.map_token_spotsAll _
  refine ⟨htokens, ?_⟩
  intro earlier later s p hsplit hs nodes
  have hordered : Range.Ordered ((earlier ++ s :: later).map Spot.range) := by
    have hscan := ordered_scan text
    rwa [← htokens, hsplit, List.map_map] at hscan
  have hmem : s.token ∈ scan text := by
    rw [← htokens, hsplit]
    exact List.mem_map_of_mem (by simp)
  have hnodes : nodes = ((earlier.getLast?.toList.filter (·.range.stop = p)).map Spot.visible ++
      s.visible :: (later.head?.toList.filter (·.range.start = p)).map Spot.visible).foldr
        deeper [] := by
    have hways : nodes = (Analysis.waysTo p a.root.spots).foldr deeper [] :=
      Analysis.enclosingNodes_eq score hmem hs
    rwa [hsplit, Analysis.waysTo, List.filter_append,
      @List.filter_cons_of_pos _ (Spot.touches p) s _ hs, Spot.filter_earlier hordered hs,
      Spot.filter_later hordered hs, List.map_append, List.map_cons] at hways
  refine ⟨?_, ?_, ?_⟩
  · intro hbefore hbehind
    have hnear : earlier.getLast?.toList.filter (·.range.stop = p) = [] := by
      simpa [List.filter_eq_nil_iff] using hbefore
    have hfar : later.head?.toList.filter (·.range.start = p) = [] := by
      simpa [List.filter_eq_nil_iff] using hbehind
    rw [hnodes, hnear, hfar]
    exact deeper_nil s.visible
  · intro u hu hstop
    have hfar : later.head?.toList.filter (·.range.start = p) = [] := by
      simpa [List.filter_eq_nil_iff]
        using fun v hv => Spot.not_touched_twice hordered hu hstop hv
    have hnear : earlier.getLast?.toList.filter (·.range.stop = p) = [u] := by
      rw [Option.mem_def.1 hu, Option.toList_some]
      exact List.filter_cons_of_pos (decide_eq_true hstop)
    rw [hnodes, hnear, hfar]
    exact congrArg (deeper u.visible) (deeper_nil s.visible)
  · intro u hu hstart
    have hnear : earlier.getLast?.toList.filter (·.range.stop = p) = [] := by
      simpa [List.filter_eq_nil_iff] using
        fun v hv hstop => Spot.not_touched_twice hordered hv hstop hu hstart
    have hfar : later.head?.toList.filter (·.range.start = p) = [u] := by
      rw [Option.mem_def.1 hu, Option.toList_some]
      exact List.filter_cons_of_pos (decide_eq_true hstart)
    rw [hnodes, hnear, hfar]
    exact congrArg (deeper s.visible) (deeper_nil u.visible)

def adjoiningDivisions : String :=
  "ID DIVISION. PROGRAM-ID. P.DATA DIVISION."

theorem root_adjoiningDivisions :
    (parse adjoiningDivisions).root =
      ((step .jaroWinkler)^[5] ⟨.sourceUnit,
        .initial (.ofText adjoiningDivisions)⟩).state.context.finish :=
  root_parseStream_of_isFinal .jaroWinkler (.ofText adjoiningDivisions) 5 (by decide +kernel)

theorem enclosingNodes_at_token_adjoining :
    ∃ earlier s later u, (parse adjoiningDivisions).root.spots = earlier ++ s :: later ∧
      s.token.lexeme = "DATA" ∧ earlier.getLast? = some u ∧ u.token.lexeme = "." ∧
      (Analysis.ofText adjoiningDivisions).enclosingNodes ⟨0, 28⟩ = s.visible ∧
      (Analysis.ofText adjoiningDivisions).enclosingNodes ⟨0, 27⟩ =
        deeper u.visible s.visible := by
  have htail : ((parse adjoiningDivisions).root.spots.drop 9).map
      (fun s => (s.token.lexeme, s.range.start, s.range.stop)) =
      [(".", ⟨0, 26⟩, ⟨0, 27⟩), ("DATA", ⟨0, 27⟩, ⟨0, 31⟩), (" ", ⟨0, 31⟩, ⟨0, 32⟩),
        ("DIVISION", ⟨0, 32⟩, ⟨0, 40⟩), (".", ⟨0, 40⟩, ⟨0, 41⟩)] := by
    rw [root_adjoiningDivisions]
    decide +kernel
  obtain ⟨u, tail, hdrop, hu, htail⟩ := List.map_eq_cons_iff.1 htail
  obtain ⟨s, tail, rfl, hs, htail⟩ := List.map_eq_cons_iff.1 htail
  obtain ⟨v, later, rfl, hv, -⟩ := List.map_eq_cons_iff.1 htail
  simp only [Prod.mk.injEq] at hu hs hv
  have hsplit : (parse adjoiningDivisions).root.spots =
      ((parse adjoiningDivisions).root.spots.take 9 ++ [u]) ++ s :: v :: later := by
    rw [List.append_assoc, List.singleton_append, ← hdrop, List.take_append_drop]
  have hlast : ((parse adjoiningDivisions).root.spots.take 9 ++ [u]).getLast? = some u :=
    List.getLast?_concat
  have hat (p : Position) (hp : s.range.contains p) :=
    (enclosingNodes_at_token .jaroWinkler adjoiningDivisions).2 _ _ s p hsplit hp
  refine ⟨_, s, _, u, hsplit, hs.1, hlast, hu.1, (hat ⟨0, 28⟩ ?_).1 ?_ ?_,
    (hat ⟨0, 27⟩ ?_).2.1 u hlast hu.2.2⟩
  · rw [Range.contains_iff, hs.2.1, hs.2.2]
    decide
  · intro w hw
    rw [hlast, Option.mem_some_iff] at hw
    rw [← hw, hu.2.2]
    decide
  · intro w hw
    rw [List.head?_cons, Option.mem_some_iff] at hw
    rw [← hw, hv.2.1]
    decide
  · rw [Range.contains_iff, hs.2.1, hs.2.2]
    decide

/-- At the first character of a word, the nodes need not be those around the word. -/
theorem enclosingNodes_ne_visible :
    ∃ s ∈ (parse adjoiningDivisions).root.spots, s.token.isWord ∧ s.range.contains ⟨0, 27⟩ ∧
      s.visible.map (·.kind) = [.programUnit, .dataDivision] ∧
      ((Analysis.ofText adjoiningDivisions).enclosingNodes ⟨0, 27⟩).map (·.kind) =
        [.programUnit, .identificationDivision] := by
  have hspot : ((parse adjoiningDivisions).root.spots.map fun s =>
      (s.token.isWord, s.range.contains ⟨0, 27⟩, s.visible.map (·.kind)))[10]? =
      some (true, true, [.programUnit, .dataDivision]) := by
    rw [root_adjoiningDivisions]
    decide +kernel
  have hnodes : ((Analysis.ofText adjoiningDivisions).enclosingNodes ⟨0, 27⟩).map (·.kind) =
      [.programUnit, .identificationDivision] := by
    change (Analysis.enclosingAmong ⟨0, 27⟩ (parse adjoiningDivisions).root.children).map
      (·.kind) = _
    rw [root_adjoiningDivisions]
    decide +kernel
  rw [List.getElem?_map] at hspot
  obtain ⟨s, hs, hfacts⟩ := Option.map_eq_some_iff.1 hspot
  simp only [Prod.mk.injEq] at hfacts
  exact ⟨s, List.mem_of_getElem? hs, hfacts.1, hfacts.2.1, hfacts.2.2, hnodes⟩

end CobolCompanion
