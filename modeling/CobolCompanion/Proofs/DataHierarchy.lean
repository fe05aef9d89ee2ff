import CobolCompanion.Proofs.IndexWalk
import Mathlib.Data.List.Forall2

namespace CobolCompanion

/--
The number of the item that an entry of a level belongs to. The items before it in its division
are given with their levels, the nearest first. A record (1) or a single item (77) belongs to
none; a renaming (66) or a condition (88) belongs to the nearest item that is neither; any other
entry belongs to the nearest item of a lower level that can have members, if no single item
stands between them.
-/
def holder? (level : Nat) (earlier : List (Nat × Nat)) : Option Nat :=
  if level = 1 ∨ level = 77 then none
  else if level = 66 ∨ level = 88 then (earlier.find? fun e => e.1 ≠ 66 ∧ e.1 ≠ 88).map (·.2)
  else
    ((earlier.takeWhile (·.1 ≠ 77)).find? fun e => e.1 < level ∧ e.1 ∉ [66, 77, 88]).map (·.2)

def IsLevel (level : Nat) : Prop :=
  1 ≤ level ∧ level ≤ 49 ∨ level = 66 ∨ level = 77 ∨ level = 88

instance (level : Nat) : Decidable (IsLevel level) :=
  inferInstanceAs (Decidable (_ ∨ _))

/-- The ways to write a level: a single digit may have a zero before it. -/
def levelSpellings (level : Nat) : List String :=
  if level < 10 then [toString level, "0" ++ toString level] else [toString level]

theorem exists_digitChar {c : Char} (h : c.isDigit) : ∃ n < 10, Nat.digitChar n = c := by
  obtain ⟨hlow, hhigh⟩ : 48 ≤ c.toNat ∧ c.toNat ≤ 57 := Char.isDigit_iff_toNat.1 h
  have hdigits : ∀ n < 10, Nat.digitChar n = Char.ofNat (48 + n) := by decide
  refine ⟨c.toNat - 48, by omega, ?_⟩
  rw [hdigits _ (by omega), Nat.add_sub_cancel' hlow, Char.ofNat_toNat]

theorem ofList_mem_levelSpellings {digits : List Char} (hne : digits ≠ [])
    (hlength : digits.length ≤ 2) (hall : ∀ c ∈ digits, c.isDigit) :
    String.ofList digits ∈
      levelSpellings (digits.foldl (fun n c => 10 * n + (c.toNat - '0'.toNat)) 0) := by
  have hone : ∀ m < 10, String.ofList [m.digitChar] ∈
      levelSpellings ([m.digitChar].foldl (fun n c => 10 * n + (c.toNat - '0'.toNat)) 0) := by
    decide +kernel
  have htwo : ∀ m < 10, ∀ n < 10, String.ofList [m.digitChar, n.digitChar] ∈
      levelSpellings ([m.digitChar, n.digitChar].foldl
        (fun n c => 10 * n + (c.toNat - '0'.toNat)) 0) := by
    decide +kernel
  obtain _ | ⟨c, _ | ⟨d, _ | ⟨e, rest⟩⟩⟩ := digits
  · exact absurd rfl hne
  · obtain ⟨m, hm, rfl⟩ := exists_digitChar (hall c (by simp))
    exact hone m hm
  · obtain ⟨m, hm, rfl⟩ := exists_digitChar (hall c (by simp))
    obtain ⟨n, hn, rfl⟩ := exists_digitChar (hall d (by simp))
    exact htwo m hm n hn
  · simp at hlength

/-- The words that are level numbers are those that write a level. -/
theorem levelNumber?_eq_some_iff {t : Token} {level : Nat} :
    levelNumber? t = some level ↔
      t.isWord ∧ IsLevel level ∧ t.lexeme ∈ levelSpellings level := by
  constructor
  · intro h
    simp only [levelNumber?, Option.ite_none_right_eq_some, Option.some.injEq] at h
    obtain ⟨hdigits, hlevel, rfl⟩ := h
    simp only [Bool.and_eq_true, Bool.not_eq_true', List.isEmpty_eq_false_iff,
      decide_eq_true_iff, List.all_eq_true] at hdigits
    obtain ⟨⟨⟨hword, hne⟩, hlength⟩, hall⟩ := hdigits
    have hspelt := ofList_mem_levelSpellings hne hlength hall
    rw [String.ofList_toList] at hspelt
    exact ⟨hword, by simpa [IsLevel, or_assoc] using hlevel, hspelt⟩
  · rintro ⟨hword, hlevel, hlexeme⟩
    have hall : ∀ level < 89, IsLevel level → ∀ w ∈ levelSpellings level,
        levelNumber? ⟨.word, w, default, default⟩ = some level := by decide +kernel
    have hlt : level < 89 := by
      unfold IsLevel at hlevel
      omega
    rw [← hall level hlt hlevel t.lexeme hlexeme, levelNumber?, levelNumber?, hword]
    rfl

namespace OpenGroups

/-- The groups that are open after some items, each with its level, the nearest first. -/
def ofEarlier : List (Nat × Nat) → OpenGroups
  | [] => []
  | (level, number) :: earlier => ((ofEarlier earlier).before level).after level number

theorem before_of_outer {level : Nat} (h : level = 1 ∨ level = 77) (groups : OpenGroups) :
    groups.before level = [] := if_pos h

theorem before_of_rider {level : Nat} (h : level = 66 ∨ level = 88) (groups : OpenGroups) :
    groups.before level = groups := by
  rw [before, if_neg (by omega), if_pos h]

theorem before_of_inner {level : Nat} (houter : ¬(level = 1 ∨ level = 77))
    (hrider : ¬(level = 66 ∨ level = 88)) (groups : OpenGroups) :
    groups.before level = groups.dropWhile (level ≤ ·.1) := by
  rw [before, if_neg houter, if_neg hrider]

theorem ofEarlier_of_rider {level : Nat} (h : level = 66 ∨ level = 88) (number : Nat)
    (earlier : List (Nat × Nat)) :
    ofEarlier ((level, number) :: earlier) = ofEarlier earlier := by
  rw [ofEarlier, before_of_rider h, after, if_pos h]

theorem ofEarlier_of_holder {level : Nat} (h : ¬(level = 66 ∨ level = 88)) (number : Nat)
    (earlier : List (Nat × Nat)) :
    ofEarlier ((level, number) :: earlier) =
      (level, number) :: (ofEarlier earlier).before level := by
  rw [ofEarlier, after, if_neg h]

theorem head?_ofEarlier (earlier : List (Nat × Nat)) :
    (ofEarlier earlier).head? = earlier.find? fun e => e.1 ≠ 66 ∧ e.1 ≠ 88 := by
  induction earlier with
  | nil => rfl
  | cons e earlier ih =>
    obtain ⟨level, number⟩ := e
    by_cases h : level = 66 ∨ level = 88
    · rw [ofEarlier_of_rider h, ih, List.find?_cons_of_neg (by simp; omega)]
    · rw [ofEarlier_of_holder h, List.find?_cons_of_pos (by simp; omega), List.head?_cons]

theorem head?_dropWhile_ofEarlier {level : Nat} (hmin : 2 ≤ level) (hmax : level ≤ 49)
    (earlier : List (Nat × Nat)) :
    ((ofEarlier earlier).dropWhile (level ≤ ·.1)).head? =
      (earlier.takeWhile (·.1 ≠ 77)).find? fun e => e.1 < level ∧ e.1 ∉ [66, 77, 88] := by
  induction earlier with
  | nil => rfl
  | cons e earlier ih =>
    obtain ⟨other, number⟩ := e
    by_cases hrider : other = 66 ∨ other = 88
    · rw [ofEarlier_of_rider hrider, ih, List.takeWhile_cons_of_pos (by simp; omega),
        List.find?_cons_of_neg (by simp; omega)]
    rw [ofEarlier_of_holder hrider]
    by_cases hlast : other = 77
    · rw [before_of_outer (.inr hlast), List.takeWhile_cons_of_neg (by simp [hlast]),
        List.dropWhile_cons_of_pos (by simp; omega)]
      rfl
    rw [List.takeWhile_cons_of_pos (by simp [hlast])]
    by_cases hlower : other < level
    · rw [List.dropWhile_cons_of_neg (by simp [hlower]),
        List.find?_cons_of_pos (by simp; omega), List.head?_cons]
    -- What the other entry has closed, an entry of a level that is not higher closes, too.
    · have hagain : ((ofEarlier earlier).dropWhile (other ≤ ·.1)).dropWhile (level ≤ ·.1) =
          (ofEarlier earlier).dropWhile (level ≤ ·.1) := by
        induction ofEarlier earlier with
        | nil => rfl
        | cons g groups ih =>
          by_cases hg : other ≤ g.1
          · rw [List.dropWhile_cons_of_pos (by simpa using hg), ih,
              List.dropWhile_cons_of_pos (by simp; omega)]
          · rw [List.dropWhile_cons_of_neg (by simpa using hg)]
      rw [List.dropWhile_cons_of_pos (by simp; omega),
        List.find?_cons_of_neg (by simp [hlower]),
        before_of_inner (by omega) hrider, hagain, ih]

/-- The open groups lead to the nearest item that can hold an entry. -/
theorem innermost?_before_ofEarlier {level : Nat} (h : IsLevel level)
    (earlier : List (Nat × Nat)) :
    ((ofEarlier earlier).before level).innermost? = holder? level earlier := by
  unfold holder? innermost?
  split
  · next houter => rw [before_of_outer houter]; rfl
  split
  · next hrider => rw [before_of_rider hrider, head?_ofEarlier]
  · next houter hrider =>
    have hrange : 2 ≤ level ∧ level ≤ 49 := by
      unfold IsLevel at h
      omega
    rw [before_of_inner houter hrider, head?_dropWhile_ofEarlier hrange.1 hrange.2]

theorem before_suffix (groups : OpenGroups) (level : Nat) : groups.before level <:+ groups := by
  unfold before
  split
  · exact List.nil_suffix
  split
  · exact List.suffix_refl groups
  · exact List.dropWhile_suffix _

end OpenGroups

/-- The item of an entry, before anything belongs to it. -/
def DataEntry.item (e : DataEntry) (program parent : Option Nat) : DataItem where
  level := e.level
  name := e.name.lexeme
  range := e.name.range
  extent := e.extent
  line := sentenceLine e.sentence
  parent
  children := []
  program

def DataItem.bare (d : DataItem) : DataItem :=
  { d with children := [] }

/-- The items of some entries without their children, each with the item that it belongs to. -/
def heldItems (program : Option Nat) (number : Nat) (earlier : List (Nat × Nat)) :
    List DataEntry → List DataItem
  | [] => []
  | e :: entries =>
    e.item program (holder? e.level earlier) ::
      heldItems program (number + 1) ((e.level, number) :: earlier) entries

section
variable (program : Option Nat)

theorem map_bare_addDataEntry (groups : OpenGroups) (items : List DataItem) (e : DataEntry) :
    (addDataEntry program (groups, items) e).2.map DataItem.bare =
      items.map DataItem.bare ++ [e.item program (groups.before e.level).innermost?] := by
  have hmodify (p : Nat) :
      (items.modify p fun d => { d with children := d.children ++ [items.length] }).map
      DataItem.bare = items.map DataItem.bare := by
    apply List.ext_getElem?
    intro i
    rw [List.getElem?_map, List.getElem?_modify, List.getElem?_map]
    cases items[i]? with
    | none => rfl
    | some d =>
      simp only [Option.map_eq_map, Option.map_some]
      split <;> rfl
  rw [addDataEntry]
  cases hparent : (groups.before e.level).innermost? with
  | none => simp [DataItem.bare, DataEntry.item]
  | some p => simp [hmodify, DataItem.bare, DataEntry.item]

theorem length_addDataEntry (groups : OpenGroups) (items : List DataItem) (e : DataEntry) :
    (addDataEntry program (groups, items) e).2.length = items.length + 1 := by
  have hbare := congrArg List.length (map_bare_addDataEntry program groups items e)
  simpa using hbare

theorem map_bare_foldl_addDataEntry {entries : List DataEntry}
    (h : ∀ e ∈ entries, IsLevel e.level) (earlier : List (Nat × Nat)) (items : List DataItem) :
    (entries.foldl (addDataEntry program) (.ofEarlier earlier, items)).2.map DataItem.bare =
      items.map DataItem.bare ++ heldItems program items.length earlier entries := by
  induction entries generalizing earlier items with
  | nil => simp [heldItems]
  | cons e entries ih =>
    rw [List.forall_mem_cons] at h
    have hlength := length_addDataEntry program (.ofEarlier earlier) items e
    have hbare := map_bare_addDataEntry program (.ofEarlier earlier) items e
    rw [OpenGroups.innermost?_before_ofEarlier h.1] at hbare
    rw [List.foldl_cons, heldItems]
    have hrun := ih h.2 ((e.level, items.length) :: earlier)
      (addDataEntry program (.ofEarlier earlier, items) e).2
    rw [hbare, hlength, List.append_assoc, List.singleton_append] at hrun
    exact hrun

theorem isLevel_of_mem_dataEntries {tokens : List Token} :
    ∀ e ∈ dataEntries tokens, IsLevel e.level := by
  intro e he
  obtain ⟨sentence, -, he⟩ := List.mem_filterMap.1 he
  unfold DataEntry.ofSentence? at he
  split at he
  · split at he
    · next hlevel =>
      split at he
      · cases he
        exact (levelNumber?_eq_some_iff.1 hlevel).2.1
      · cases he
    · cases he
  · cases he

theorem map_bare_addDataEntries (items : List DataItem) (tokens : List Token) :
    (addDataEntries program items (dataEntries tokens)).map DataItem.bare =
      items.map DataItem.bare ++ heldItems program items.length [] (dataEntries tokens) :=
  map_bare_foldl_addDataEntry program isLevel_of_mem_dataEntries [] items

theorem length_heldItems (number : Nat) (earlier : List (Nat × Nat))
    (entries : List DataEntry) :
    (heldItems program number earlier entries).length = entries.length := by
  induction entries generalizing number earlier with
  | nil => rfl
  | cons e entries ih => rw [heldItems, List.length_cons, ih, List.length_cons]

theorem getElem?_heldItems (number : Nat) (earlier : List (Nat × Nat))
    (entries : List DataEntry) (k : Nat) :
    (heldItems program number earlier entries)[k]? = entries[k]?.map fun e =>
      e.item program (holder? e.level
        ((((entries.map DataEntry.level).zipIdx number).take k).reverse ++ earlier)) := by
  induction entries generalizing number earlier k with
  | nil => simp [heldItems]
  | cons e entries ih =>
    cases k with
    | zero => simp [heldItems]
    | succ k => simp [heldItems, ih]

end

def parentOf? (items : List DataItem) (i : Nat) : Option Nat :=
  items[i]?.bind DataItem.parent

/-- The numbers of the items that belong to an item, in ascending order. -/
def membersOf (items : List DataItem) (i : Nat) : List Nat :=
  (List.range items.length).filter fun c => parentOf? items c = some i

/--
Parents come before their children and the children are known to their parents. What stands
between an item and its parent lies below that parent, too.
-/
structure Linked (items : List DataItem) : Prop where
  parent_lt : ∀ {i p}, parentOf? items i = some p → p < i
  children : ∀ {i d}, items[i]? = some d → d.children = membersOf items i
  between : ∀ {i p m}, parentOf? items i = some p → p < m → m < i →
    ∃ q, parentOf? items m = some q ∧ p ≤ q

/-- The open groups of some linked items: every item behind a group lies below it. -/
structure Grouped (groups : OpenGroups) (items : List DataItem) : Prop where
  linked : Linked items
  descending : groups.Pairwise fun g h => h.2 < g.2
  known : ∀ g ∈ groups, g.2 < items.length
  below : ∀ g ∈ groups, ∀ {m}, g.2 < m → m < items.length →
    ∃ q, parentOf? items m = some q ∧ g.2 ≤ q

theorem parentOf?_map_bare (items : List DataItem) (i : Nat) :
    parentOf? (items.map DataItem.bare) i = parentOf? items i := by
  rw [parentOf?, List.getElem?_map, parentOf?]
  cases items[i]? <;> rfl

theorem lt_length_of_parentOf? {items : List DataItem} {i p : Nat}
    (h : parentOf? items i = some p) :
    i < items.length := by
  obtain ⟨d, hd, -⟩ := Option.bind_eq_some_iff.1 h
  exact (List.getElem?_eq_some_iff.1 hd).1

theorem mem_membersOf {items : List DataItem} {i c : Nat} :
    c ∈ membersOf items i ↔ parentOf? items c = some i := by
  rw [membersOf, List.mem_filter, List.mem_range, decide_eq_true_eq]
  exact and_iff_right_of_imp lt_length_of_parentOf?

section
variable {program : Option Nat} {groups : OpenGroups} {items : List DataItem} {e : DataEntry}

theorem parentOf?_addDataEntry (i : Nat) :
    parentOf? (addDataEntry program (groups, items) e).2 i =
      if i = items.length then (groups.before e.level).innermost? else parentOf? items i := by
  rw [← parentOf?_map_bare, map_bare_addDataEntry, ← parentOf?_map_bare items,
    parentOf?, parentOf?]
  split
  · next h => simp [h, DataEntry.item]
  · next h =>
    rcases Nat.lt_or_gt_of_ne h with h | h
    · rw [List.getElem?_append_left (by simpa using h)]
    · rw [List.getElem?_eq_none (by simp; omega), List.getElem?_eq_none (by simp; omega)]

theorem membersOf_addDataEntry (i : Nat) :
    membersOf (addDataEntry program (groups, items) e).2 i =
      membersOf items i ++
        if (groups.before e.level).innermost? = some i then [items.length] else [] := by
  have hold : (List.range items.length).filter
      (fun c => parentOf? (addDataEntry program (groups, items) e).2 c = some i) =
        membersOf items i := by
    apply List.filter_congr
    intro c hc
    rw [parentOf?_addDataEntry, if_neg (Nat.ne_of_lt (List.mem_range.1 hc))]
  rw [membersOf, length_addDataEntry, List.range_succ, List.filter_append, hold,
    List.filter_cons, parentOf?_addDataEntry, if_pos rfl, List.filter_nil]
  simp only [decide_eq_true_eq]

theorem getElem?_addDataEntry {i : Nat} {d : DataItem}
    (h : (addDataEntry program (groups, items) e).2[i]? = some d) :
    i = items.length ∧ d.children = [] ∨
      ∃ d', items[i]? = some d' ∧ d.children = d'.children ++
        if (groups.before e.level).innermost? = some i then [items.length] else [] := by
  -- The new item comes last, and of the items before it at most its parent is changed.
  have hcases {others : List DataItem} {item : DataItem}
      (hlength : others.length = items.length)
      (hitem : item.children = []) (h : (others ++ [item])[i]? = some d) :
      i = items.length ∧ d.children = [] ∨ others[i]? = some d := by
    rcases Nat.lt_or_ge i others.length with hi | hi
    · rw [List.getElem?_append_left hi] at h
      exact .inr h
    · rw [List.getElem?_append_right hi, List.getElem?_singleton] at h
      split at h
      · cases h
        exact .inl ⟨by omega, hitem⟩
      · cases h
  rw [addDataEntry] at h
  cases hparent : (groups.before e.level).innermost? with
  | none =>
    simp only [hparent] at h
    refine (hcases rfl rfl h).imp_right fun hd => ⟨d, hd, ?_⟩
    simp
  | some p =>
    simp only [hparent] at h
    refine (hcases (List.length_modify _ _ _) rfl h).imp_right fun hd => ?_
    rw [List.getElem?_modify] at hd
    obtain ⟨d', hd', rfl⟩ := Option.map_eq_some_iff.1 hd
    refine ⟨d', hd', ?_⟩
    simp only [Option.some.injEq]
    split <;> simp

theorem Linked.addEntry (h : Linked items)
    (hknown : ∀ p, (groups.before e.level).innermost? = some p → p < items.length)
    (hbelow : ∀ p, (groups.before e.level).innermost? = some p → ∀ {m}, p < m →
      m < items.length →
      ∃ q, parentOf? items m = some q ∧ p ≤ q) :
    Linked (addDataEntry program (groups, items) e).2 where
  parent_lt := by
    intro i p hp
    rw [parentOf?_addDataEntry] at hp
    split at hp
    · next hi => exact hi ▸ hknown p hp
    · exact h.parent_lt hp
  children := by
    intro i d hd
    rw [membersOf_addDataEntry]
    rcases getElem?_addDataEntry hd with ⟨rfl, hchildren⟩ | ⟨d', hd', hchildren⟩
    · have hnone : membersOf items items.length = [] := by
        apply List.eq_nil_iff_forall_not_mem.2
        intro c hc
        have hlt := h.parent_lt (mem_membersOf.1 hc)
        have hlength := lt_length_of_parentOf? (mem_membersOf.1 hc)
        omega
      have hself : (groups.before e.level).innermost? ≠ some items.length :=
        fun hself => Nat.lt_irrefl _ (hknown _ hself)
      rw [hchildren, hnone, if_neg hself, List.append_nil]
    · rw [hchildren, h.children hd']
  between := by
    intro i p m hp hpm hmi
    rw [parentOf?_addDataEntry] at hp
    split at hp
    · next hi =>
      rw [parentOf?_addDataEntry, if_neg (by omega)]
      exact hbelow p hp hpm (by omega)
    · have hi := lt_length_of_parentOf? hp
      rw [parentOf?_addDataEntry, if_neg (by omega)]
      exact h.between hp hpm hmi

theorem Grouped.of_suffix {fewer : OpenGroups} (h : Grouped groups items)
    (hfewer : fewer <:+ groups) :
    Grouped fewer items where
  linked := h.linked
  descending := h.descending.sublist hfewer.sublist
  known := fun g hg => h.known g (hfewer.subset hg)
  below := fun g hg => h.below g (hfewer.subset hg)

theorem Grouped.le_innermost (h : Grouped groups items) {g : Nat × Nat} (hg : g ∈ groups) :
    ∃ p, groups.innermost? = some p ∧ g.2 ≤ p := by
  cases groups with
  | nil => cases hg
  | cons g' groups =>
    refine ⟨g'.2, rfl, ?_⟩
    rcases List.mem_cons.1 hg with rfl | hg
    · exact Nat.le_refl _
    · exact Nat.le_of_lt ((List.pairwise_cons.1 h.descending).1 g hg)

theorem Grouped.exists_innermost {p : Nat} (h : groups.innermost? = some p) :
    ∃ g ∈ groups, g.2 = p := by
  obtain ⟨g, hg, rfl⟩ := Option.map_eq_some_iff.1 h
  exact ⟨g, List.mem_of_head? hg, rfl⟩

theorem Grouped.addEntry (h : Grouped groups items) :
    Grouped (addDataEntry program (groups, items) e).1
      (addDataEntry program (groups, items) e).2 := by
  have hstay := h.of_suffix (groups.before_suffix e.level)
  have hlinked : Linked (addDataEntry program (groups, items) e).2 := by
    apply h.linked.addEntry
    · intro p hp
      obtain ⟨g, hg, rfl⟩ := Grouped.exists_innermost hp
      exact hstay.known g hg
    · intro p hp
      obtain ⟨g, hg, rfl⟩ := Grouped.exists_innermost hp
      exact hstay.below g hg
  -- The groups that stay open hold the new item, too.
  have hfewer : Grouped (groups.before e.level) (addDataEntry program (groups, items) e).2 := by
    refine ⟨hlinked, hstay.descending, ?_, ?_⟩
    · intro g hg
      have hknown := hstay.known g hg
      rw [length_addDataEntry]
      omega
    · intro g hg m hgm hm
      rw [length_addDataEntry] at hm
      rw [parentOf?_addDataEntry]
      split
      · exact hstay.le_innermost hg
      · exact hstay.below g hg hgm (by omega)
  change Grouped ((groups.before e.level).after e.level items.length) _
  rw [OpenGroups.after]
  split
  · exact hfewer
  · refine ⟨hlinked, List.pairwise_cons.2 ⟨hstay.known, hfewer.descending⟩, ?_, ?_⟩
    · rw [List.forall_mem_cons, length_addDataEntry]
      refine ⟨Nat.lt_succ_self _, fun g hg => ?_⟩
      have hknown := hfewer.known g hg
      rwa [length_addDataEntry] at hknown
    · rw [List.forall_mem_cons]
      refine ⟨?_, fun g hg => hfewer.below g hg⟩
      intro m hgm hm
      rw [length_addDataEntry] at hm
      omega

end

theorem Linked.addEntries {items : List DataItem} (h : Linked items) (program : Option Nat)
    (entries : List DataEntry) : Linked (addDataEntries program items entries) := by
  have hrun (groups : OpenGroups) (hgroups : Grouped groups items) :
      Linked (entries.foldl (addDataEntry program) (groups, items)).2 := by
    clear h
    induction entries generalizing groups items with
    | nil => exact hgroups.linked
    | cons e entries ih => exact ih _ hgroups.addEntry
  exact hrun [] ⟨h, .nil, by simp, by simp⟩

theorem linked_ofTree (root : Node) : Linked (SymbolIndex.ofTree root).dataItems := by
  rw [SymbolIndex.dataItems_ofTree]
  have hnone : Linked [] := ⟨by simp [parentOf?], by simp, by simp [parentOf?]⟩
  generalize root.owned.filter (·.1.kind == .dataDivision) = divisions
  generalize ([] : List DataItem) = items at hnone ⊢
  induction divisions generalizing items with
  | nil => exact hnone
  | cons v divisions ih => exact ih _ (hnone.addEntries v.2 _)

def declaresItem (sentence : List Token) : Bool :=
  match sentence.filter Token.isSignificant with
  | level :: name :: _ => (levelNumber? level).isSome && name.isWord
  | _ => false

def Node.declarations (division : Node) : List (List Token) :=
  (division.leaves.splitOnP Token.isTerminator).filter declaresItem

def DataItem.DeclaredBy (d : DataItem) (sentence : List Token) : Prop :=
  ∃ level name rest, sentence.filter Token.isSignificant = level :: name :: rest ∧
    levelNumber? level = some d.level ∧ name.isWord ∧ d.name = name.lexeme ∧
    d.range = name.range ∧
    Range.boundingBox ((level :: name :: rest).map Token.range) = some d.extent ∧
    d.line = sentenceLine sentence

theorem ofSentence?_eq_some {sentence : List Token} {e : DataEntry}
    (h : DataEntry.ofSentence? sentence = some e) :
    ∃ level name rest, sentence.filter Token.isSignificant = level :: name :: rest ∧
      levelNumber? level = some e.level ∧ name.isWord ∧ e.name = name ∧
      e.sentence = sentence := by
  unfold DataEntry.ofSentence? at h
  split at h
  · next first second rest htokens =>
    split at h
    · next level hlevel =>
      split at h
      · next hword =>
        cases h
        exact ⟨first, second, rest, htokens, hlevel, hword, rfl, rfl⟩
      · cases h
    · cases h
  · cases h

theorem declaresItem_eq_isSome (sentence : List Token) :
    declaresItem sentence = (DataEntry.ofSentence? sentence).isSome := by
  unfold declaresItem DataEntry.ofSentence?
  cases sentence.filter Token.isSignificant with
  | nil => rfl
  | cons first tokens =>
    cases tokens with
    | nil => rfl
    | cons second tokens =>
      cases hlevel : levelNumber? first with
      | none => simp [hlevel]
      | some level => by_cases hword : second.isWord <;> simp [hlevel, hword]

theorem declaredBy_item {sentence : List Token} {e : DataEntry}
    (h : DataEntry.ofSentence? sentence = some e) (program parent : Option Nat) :
    (e.item program parent).DeclaredBy sentence := by
  obtain ⟨level, name, rest, htokens, hlevel, hword, hname, hsentence⟩ := ofSentence?_eq_some h
  refine ⟨level, name, rest, htokens, hlevel, hword, ?_, ?_, ?_, ?_⟩
  · rw [DataEntry.item, hname]
  · rw [DataEntry.item, hname]
  · rw [DataEntry.item, DataEntry.extent, hsentence, htokens]
    rfl
  · rw [DataEntry.item, hsentence]

theorem splitOnP_eq_sentences (tokens : List Token) :
    tokens.splitOnP Token.isTerminator = sentences tokens ∧ sentences tokens ≠ [] ∨
      tokens.splitOnP Token.isTerminator = sentences tokens ++ [[]] := by
  induction tokens with
  | nil => exact .inr rfl
  | cons t tokens ih =>
    rw [List.splitOnP_cons_eq_if_modifyHead, sentences]
    split
    · rcases ih with ⟨ih, -⟩ | ih
      · exact .inl ⟨by rw [ih], by simp⟩
      · exact .inr (by rw [ih]; rfl)
    · cases hrest : sentences tokens with
      | nil =>
        rw [hrest] at ih
        rcases ih with ⟨-, ih⟩ | ih
        · exact absurd rfl ih
        · exact .inl ⟨by rw [ih]; rfl, by simp⟩
      | cons sentence rest =>
        rw [hrest] at ih
        rcases ih with ⟨ih, -⟩ | ih
        · exact .inl ⟨by rw [ih]; rfl, by simp⟩
        · exact .inr (by rw [ih]; rfl)

theorem dataEntries_eq (tokens : List Token) :
    dataEntries tokens =
      (tokens.splitOnP Token.isTerminator).filterMap DataEntry.ofSentence? := by
  rcases splitOnP_eq_sentences tokens with ⟨h, -⟩ | h
  · rw [h, dataEntries]
  · rw [h, List.filterMap_append, dataEntries]
    exact (List.append_nil _).symm

theorem forall₂_dataEntries (n : Node) :
    List.Forall₂ (fun sentence e => DataEntry.ofSentence? sentence = some e) n.declarations
      (dataEntries n.leaves) := by
  rw [Node.declarations, dataEntries_eq]
  induction n.leaves.splitOnP Token.isTerminator with
  | nil => exact .nil
  | cons sentence rest ih =>
    cases hentry : DataEntry.ofSentence? sentence with
    | none =>
      rwa [List.filterMap_cons_none hentry,
        List.filter_cons_of_neg (by simp [declaresItem_eq_isSome, hentry])]
    | some e =>
      rw [List.filterMap_cons_some hentry,
        List.filter_cons_of_pos (by simp [declaresItem_eq_isSome, hentry])]
      exact .cons hentry ih

theorem length_declarations (n : Node) :
    n.declarations.length = (dataEntries n.leaves).length :=
  (forall₂_dataEntries n).length_eq

theorem forall₂_heldItems {declarations : List (List Token)} {entries : List DataEntry}
    (h : List.Forall₂ (fun sentence e => DataEntry.ofSentence? sentence = some e)
      declarations entries)
    (program : Option Nat) (number : Nat) (earlier : List (Nat × Nat)) :
    List.Forall₂ (fun sentence d => d.DeclaredBy sentence) declarations
      (heldItems program number earlier entries) := by
  induction h generalizing number earlier with
  | nil => exact .nil
  | cons hentry _ ih => exact .cons (declaredBy_item hentry program _) (ih _ _)

theorem forall₂_map_bare {declarations : List (List Token)} {items : List DataItem} :
    List.Forall₂ (fun sentence d => d.DeclaredBy sentence) declarations
      (items.map DataItem.bare) ↔
      List.Forall₂ (fun sentence d => d.DeclaredBy sentence) declarations items :=
  List.forall₂_map_right_iff (R := fun sentence (d : DataItem) => d.DeclaredBy sentence)

theorem map_level_heldItems (program : Option Nat) (number : Nat) (earlier : List (Nat × Nat))
    (entries : List DataEntry) :
    (heldItems program number earlier entries).map DataItem.level =
      entries.map DataEntry.level := by
  induction entries generalizing number earlier with
  | nil => rfl
  | cons e entries ih => rw [heldItems, List.map_cons, ih, List.map_cons]; rfl

section
variable (divisions : List (Node × Option Nat)) (items : List DataItem)

theorem map_bare_prefix_foldl_addDivision :
    items.map DataItem.bare <+: (divisions.foldl addDivision items).map DataItem.bare := by
  induction divisions generalizing items with
  | nil => exact List.prefix_rfl
  | cons v divisions ih =>
    refine List.IsPrefix.trans ?_ (ih (addDivision items v))
    rw [addDivision, map_bare_addDataEntries]
    exact List.prefix_append _ _

theorem forall₂_foldl_addDivision {declarations : List (List Token)} {items : List DataItem}
    (h : List.Forall₂ (fun sentence d => d.DeclaredBy sentence) declarations items) :
    List.Forall₂ (fun sentence d => d.DeclaredBy sentence)
      (declarations ++ (divisions.map Prod.fst).flatMap Node.declarations)
      (divisions.foldl addDivision items) := by
  induction divisions generalizing declarations items with
  | nil => simpa using h
  | cons v divisions ih =>
    rw [List.map_cons, List.flatMap_cons, ← List.append_assoc, List.foldl_cons]
    apply ih
    have hbare := forall₂_heldItems (forall₂_dataEntries v.1) v.2 items.length []
    apply forall₂_map_bare.1
    rw [addDivision, map_bare_addDataEntries]
    exact List.rel_append (forall₂_map_bare.2 h) hbare

theorem getElem?_foldl_addDivision {before after : List (Node × Option Nat)}
    {v : Node × Option Nat} {k : Nat} (hk : k < v.1.declarations.length) :
    let items := (before ++ v :: after).foldl addDivision []
    let start := ((before.map Prod.fst).flatMap Node.declarations).length
    ∃ d, items[start + k]? = some d ∧
      d.parent = holder? d.level
        (((items.map DataItem.level).zipIdx.drop start).take k).reverse := by
  intro items start
  obtain ⟨rest, hrest⟩ := map_bare_prefix_foldl_addDivision after
    (addDivision (before.foldl addDivision []) v)
  have hstart : (before.foldl addDivision []).length = start :=
    (forall₂_foldl_addDivision before .nil).length_eq.symm
  rw [length_declarations] at hk
  set entries := dataEntries v.1.leaves with hentries
  have hbare : items.map DataItem.bare =
      (before.foldl addDivision []).map DataItem.bare ++
        (heldItems v.2 start [] entries ++ rest) := by
    have hdivision := map_bare_addDataEntries v.2 (before.foldl addDivision []) v.1.leaves
    rw [hstart] at hdivision
    rw [← List.append_assoc, ← hdivision]
    change ((before ++ v :: after).foldl addDivision []).map DataItem.bare = _
    rw [List.foldl_append, List.foldl_cons]
    exact hrest.symm
  have hlevels : ((items.map DataItem.level).zipIdx.drop start).take k =
      ((entries.map DataEntry.level).zipIdx start).take k := by
    have hmap : items.map DataItem.level = (items.map DataItem.bare).map DataItem.level := by
      rw [List.map_map]
      rfl
    rw [hmap, hbare, List.map_append, List.map_append, map_level_heldItems, List.zipIdx_append,
      List.drop_append_of_le_length (by simp [hstart]),
      List.drop_of_length_le (by simp [hstart]), List.nil_append, List.length_map,
      List.length_map, hstart, Nat.zero_add, List.zipIdx_append,
      List.take_append_of_le_length (by simpa using Nat.le_of_lt hk)]
  have hitem : (items.map DataItem.bare)[start + k]? = some (entries[k].item v.2
      (holder? entries[k].level
        (((entries.map DataEntry.level).zipIdx start).take k).reverse)) := by
    rw [hbare, List.getElem?_append_right (by simp [hstart]), List.length_map, hstart,
      Nat.add_sub_cancel_left, List.getElem?_append_left (by rwa [length_heldItems]),
      getElem?_heldItems, List.getElem?_eq_getElem hk, Option.map_some, List.append_nil]
  rw [List.getElem?_map] at hitem
  obtain ⟨d, hd, hequal⟩ := Option.map_eq_some_iff.1 hitem
  refine ⟨d, hd, ?_⟩
  have hlevel : d.level = entries[k].level := congrArg DataItem.level hequal
  rw [hlevels, hlevel]
  exact congrArg DataItem.parent hequal

end

/-- The members of a list from one that has no parent down to the one of a number. -/
inductive Ancestry {α : Type} (members : List α) (parent : α → Option Nat) :
    Nat → List α → Prop where
  | outermost {i : Nat} {member : α} (h : members[i]? = some member)
    (hparent : parent member = none) :
      Ancestry members parent i [member]
  | inside {i p : Nat} {member : α} {chain : List α} (h : members[i]? = some member)
      (hparent : parent member = some p) (hchain : Ancestry members parent p chain) :
      Ancestry members parent i (chain ++ [member])

/-- Where parents come before their children, the way through the parents ends. -/
theorem ancestry_lineage {α : Type} {members : List α} {parent : α → Option Nat}
    (h : ∀ {i p}, members[i]?.bind parent = some p → p < i) {fuel i : Nat} (hfuel : i < fuel)
    (hi : i < members.length) : Ancestry members parent i (lineage members parent fuel i) := by
  induction fuel generalizing i with
  | zero => omega
  | succ fuel ih =>
    have hmember := List.getElem?_eq_getElem hi
    rw [lineage, hmember]
    dsimp only
    cases hparent : parent members[i] with
    | none => exact .outermost hmember hparent
    | some p =>
      have hp : p < i := h (by rw [hmember, Option.bind_some, hparent])
      exact .inside hmember hparent (ih (by omega) (by omega))

/--
The data items of a tree come from its data divisions in the order of a walk, one for each
sentence that begins with a level number and a word. An item belongs to the nearest item before
it in its division that can hold it. Parents come before their children, children know their
parents and parents their children, in ascending order, and the lineage of an item leads to it
from an item that belongs to none.
-/
theorem dataItems_hierarchy (root : Node) :
    let index := SymbolIndex.ofTree root
    let items := index.dataItems
    let divisions := (root.walk.map Prod.fst).filter (·.kind == .dataDivision)
    List.Forall₂ (fun sentence d => d.DeclaredBy sentence) (divisions.flatMap Node.declarations)
      items ∧
    (∀ before n after, divisions = before ++ n :: after →
      let start := (before.flatMap Node.declarations).length
      ∀ k < n.declarations.length, ∃ d, items[start + k]? = some d ∧
        d.parent = holder? d.level
          (((items.map DataItem.level).zipIdx.drop start).take k).reverse) ∧
    ∀ i d, items[i]? = some d →
      (∀ p, d.parent = some p → p < i) ∧ d.children.Pairwise (· < ·) ∧
        (∀ c, c ∈ d.children ↔ ∃ e, items[c]? = some e ∧ e.parent = some i) ∧
        Ancestry items DataItem.parent i (index.dataLineage i) := by
  intro index items divisions
  have hitems : items = (root.owned.filter (·.1.kind == .dataDivision)).foldl addDivision [] :=
    SymbolIndex.dataItems_ofTree root
  have hdivisions : divisions = (root.owned.filter (·.1.kind == .dataDivision)).map Prod.fst :=
    root.filter_walk_eq .dataDivision
  have hlinked : Linked items := linked_ofTree root
  refine ⟨?_, ?_, ?_⟩
  · rw [hitems, hdivisions]
    exact forall₂_foldl_addDivision _ .nil
  · intro before n after hsplit
    rw [hdivisions] at hsplit
    obtain ⟨before, v, hvisited, rfl, hv⟩ := List.map_eq_append_iff.1 hsplit
    obtain ⟨v, after, rfl, rfl, rfl⟩ := List.map_eq_cons_iff.1 hv
    intro start k hk
    rw [hitems, hvisited]
    exact getElem?_foldl_addDivision hk
  · intro i d hd
    have hi := (List.getElem?_eq_some_iff.1 hd).1
    refine ⟨?_, ?_, ?_, ?_⟩
    · intro p hp
      exact hlinked.parent_lt (by rw [parentOf?, hd, Option.bind_some, hp])
    · rw [hlinked.children hd]
      exact List.pairwise_lt_range.sublist List.filter_sublist
    · intro c
      rw [hlinked.children hd, mem_membersOf, parentOf?, Option.bind_eq_some_iff]
    · exact ancestry_lineage hlinked.parent_lt (Nat.lt_succ_self i) hi

end CobolCompanion
