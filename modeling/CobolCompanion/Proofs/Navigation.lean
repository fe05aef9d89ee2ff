import CobolCompanion.Editor.Navigation
import CobolCompanion.Proofs.Advances
import CobolCompanion.Proofs.Caseless
import CobolCompanion.Proofs.DeclaredItems
import CobolCompanion.Proofs.TokenSeams

namespace CobolCompanion

theorem toNat_lt_of_isWordPart {c : Char} (h : isWordPart c) : c.toNat < 128 := by
  simp only [isWordPart, Bool.or_eq_true, beq_iff_eq] at h
  rcases h with (h | rfl) | rfl
  · delta Char.isAlphanum Char.isAlpha Char.isUpper Char.isLower Char.isDigit at h
    simp [UInt32.le_iff_toNat_le] at h
    omega
  · decide
  · decide

theorem toLower_toUpper (c : Char) : c.toUpper.toLower = c.toLower := by
  rw [← Char.toNat_inj, toNat_toLower, toNat_toLower, toNat_toUpper]
  grind

theorem toList_upper {word : String} (h : ∀ c ∈ word.toList, isWordPart c) :
    (upper word).toList = word.toList.map Char.toUpper := by
  rw [upper, String.toList_ofList]
  generalize word.toList = cs at h
  induction cs with
  | nil => rfl
  | cons c cs ih =>
    rw [List.forall_mem_cons] at h
    rw [List.flatMap_cons, ih h.2, upperChar, if_pos (toNat_lt_of_isWordPart h.1)]
    rfl

theorem upper_eq_iff {word other : String} (hword : ∀ c ∈ word.toList, isWordPart c)
    (hother : ∀ c ∈ other.toList, isWordPart c) :
    upper word = upper other ↔ sameIgnoringCase word other := by
  refine ⟨fun h => ?_, upper_eq_of_sameIgnoringCase⟩
  have hupper : (upper word).toList.map Char.toLower =
    (upper other).toList.map Char.toLower := by rw [h]
  have hlower (cs : List Char) : (cs.map Char.toUpper).map Char.toLower =
      cs.map Char.toLower := by
    rw [List.map_map]
    exact List.map_congr_left fun c _ => toLower_toUpper c
  rw [toList_upper hword, toList_upper hother, hlower, hlower] at hupper
  rw [sameIgnoringCase, hupper]
  exact beq_self_eq_true _

theorem Cut.isWordStart_of_kind {c : Char} {text : List Char}
    (h : (first c text).kind = .word) :
    isWordStart c := by
  unfold first at h
  split at h
  · cases h
  split at h
  · rw [kind_lineBreak] at h
    cases h
  split at h
  · next hstart => exact hstart
  split at h
  · rw [kind_literal] at h
    cases h
  split at h <;> cases h

theorem not_isJoint_of_mem_scanFrom {place : Place} {text : List Char} {t : Token}
    (ht : t ∈ scanFrom place text) (hword : t.isWord) : t.isJoint = false := by
  fun_induction scanFrom place text with
  | case1 => cases ht
  | case2 place c text cut after ih =>
    rcases List.mem_cons.1 ht with rfl | ht
    · have hstart : isWordStart c :=
        Cut.isWordStart_of_kind (by simpa [Token.isWord] using hword)
      have hsplits := Cut.first_splits c text
      have hhead := congrArg List.head? hsplits.append_eq
      rw [List.head?_append_of_ne_nil _ hsplits.lexeme_ne_nil] at hhead
      rw [Bool.eq_false_iff, Token.isJoint]
      intro hjoint
      simp only [Bool.or_eq_true, beq_iff_eq, ← String.toList_inj,
        String.toList_ofList] at hjoint
      rcases hjoint with hjoint | hjoint
      · rw [hjoint] at hhead
        cases hhead
        cases hstart
      · rw [hjoint] at hhead
        cases hhead
        cases hstart
    · exact ih ht

theorem lexeme_ne_nil_of_mem_scan {text : String} {t : Token} (h : t ∈ scan text) :
    t.lexeme.toList ≠ [] := by
  obtain ⟨before, after, -, hlaid, -⟩ :=
    exists_laid_of_infix ((List.singleton_infix_iff t _).2 h)
  exact hlaid.nonempty

theorem not_isWord_of_neighbours {text : String} {before after : List Token} {v w : Token}
    (h : scan text = before ++ v :: w :: after) (hw : w.isWord) : v.isWord = false := by
  have hvmem : v ∈ scan text := by simp [h]
  have hwmem : w ∈ scan text := by simp [h]
  have hchain : List.IsChain Seam (scan text) := isChain_seam_scanFrom .start text.toList
  rw [h, List.isChain_append_cons_cons] at hchain
  obtain ⟨c, hc⟩ :=
    Option.ne_none_iff_exists'.1 (mt List.head?_eq_none_iff.1 (lexeme_ne_nil_of_mem_scan hwmem))
  obtain ⟨d, hd⟩ :=
    Option.ne_none_iff_exists'.1
      (mt List.getLast?_eq_none_iff.1 (lexeme_ne_nil_of_mem_scan hvmem))
  rw [Bool.eq_false_iff]
  intro hv
  rcases hchain.2.1 c hc (isWordPart_of_mem_scanFrom hwmem hw c (List.mem_of_head? hc))
    with hjoint | hlast
  · rw [not_isJoint_of_mem_scanFrom hvmem hv] at hjoint
    cases hjoint
  · have hpart := isWordPart_of_mem_scanFrom hvmem hv d (List.mem_of_getLast? hd)
    rw [hlast d hd] at hpart
    cases hpart

namespace Analysis

theorem wordAt?_ofText (score : Similarity) {text : String} {w : Token} {p : Position}
    (hw : w ∈ scan text) (hword : w.isWord) (hp : w.range.contains p) :
    (ofParsed (parseStream score (.ofText text))).wordAt? p = some w := by
  have hleaves : (ofParsed (parseStream score (.ofText text))).root.leaves = scan text :=
    leaves_root_ofText score text
  obtain ⟨before, after, hscan⟩ := List.append_of_mem hw
  rw [wordAt?, hleaves, List.find?_eq_some_iff_append]
  refine ⟨by simp [hword, hp], before, after, hscan, ?_⟩
  intro v hv
  rw [Bool.not_eq_true', Bool.eq_false_iff]
  intro hfound
  obtain ⟨hvword, hvp⟩ := Bool.and_eq_true_iff.1 hfound
  obtain ⟨hsolid, hpairs⟩ := ordered_scan text
  rw [hscan] at hsolid hpairs
  -- the token before the word is none, and what stands before that does not reach so far
  rcases List.eq_nil_or_concat before with rfl | ⟨earlier, u, rfl⟩
  · cases hv
  rw [List.concat_eq_append] at hv hscan hpairs hsolid
  rcases List.mem_append.1 hv with hv | hv
  · rw [List.pairwise_map, List.append_assoc, List.pairwise_append] at hpairs
    obtain ⟨-, hlast, hearlier⟩ := hpairs
    have hvu : v.range.Precedes u.range := hearlier v hv u (by simp)
    have huw : u.range.Precedes w.range := (List.pairwise_cons.1 hlast).1 w (by simp)
    exact hvu.not_contains_of_between (hsolid _ (List.mem_map_of_mem (by simp))) huw
      ⟨(Range.contains_iff.1 hvp).2, (Range.contains_iff.1 hp).1⟩
  · rw [List.mem_singleton.1 hv] at hvword
    rw [List.append_assoc, List.singleton_append] at hscan
    rw [not_isWord_of_neighbours hscan hword] at hvword
    cases hvword

end Analysis

namespace Occurrences

def Ascending (found : Occurrences) : Prop :=
  (found.map Prod.fst).Pairwise (· < ·)

variable {name word : String} {range : Range} {found : Occurrences}

theorem lookup_eq_none (h : word ∉ found.map Prod.fst) : found.lookup word = none := by
  rw [List.lookup_eq_none_iff]
  intro entry hentry
  rw [bne_iff_ne]
  rintro rfl
  exact h (List.mem_map_of_mem hentry)

theorem mem_keys_insert :
    word ∈ (insert name range found).map Prod.fst ↔
      word = name ∨ word ∈ found.map Prod.fst := by
  induction found with
  | nil => simp [insert]
  | cons entry found ih =>
    obtain ⟨other, ranges⟩ := entry
    rw [insert]
    split
    · simp
    split
    · next hname => simp [hname]
    · rw [List.map_cons, List.mem_cons, ih, List.map_cons, List.mem_cons]
      exact or_left_comm

theorem Ascending.insert (h : Ascending found) : Ascending (insert name range found) := by
  induction found with
  | nil => simp [Ascending, Occurrences.insert]
  | cons entry found ih =>
    obtain ⟨other, ranges⟩ := entry
    obtain ⟨hfirst, hrest⟩ := List.pairwise_cons.1 h
    rw [Occurrences.insert]
    split
    · next hlt =>
      refine List.pairwise_cons.2 ⟨?_, h⟩
      intro word hword
      rcases List.mem_cons.1 hword with rfl | hword
      · exact hlt
      · exact String.lt_trans hlt (hfirst word hword)
    split
    · exact h
    · next hlt hne =>
      refine List.pairwise_cons.2 ⟨?_, ih hrest⟩
      intro word hword
      rcases mem_keys_insert.1 hword with rfl | hword
      · exact Std.lt_of_le_of_ne hlt (Ne.symm hne)
      · exact hfirst word hword

theorem getD_lookup_insert (h : Ascending found) :
    ((insert name range found).lookup word).getD [] =
      (found.lookup word).getD [] ++ if name = word then [range] else [] := by
  induction found with
  | nil =>
    by_cases hword : name = word
    · simp [insert, hword]
    · simp [insert, hword, List.lookup_cons, beq_eq_false_iff_ne.2 (Ne.symm hword)]
  | cons entry found ih =>
    obtain ⟨other, ranges⟩ := entry
    obtain ⟨hfirst, hrest⟩ := List.pairwise_cons.1 h
    rw [insert]
    split
    · next hlt =>
      by_cases hword : name = word
      · have hnew : word ∉ ((other, ranges) :: found).map Prod.fst := by
          rw [← hword, List.map_cons, List.mem_cons]
          rintro (rfl | hmem)
          · exact String.lt_irrefl _ hlt
          · exact String.lt_asymm hlt (hfirst name hmem)
        rw [lookup_eq_none hnew, hword, List.lookup_cons_self, if_pos rfl]
        rfl
      · rw [List.lookup_cons, beq_eq_false_iff_ne.2 (Ne.symm hword), if_neg hword,
          List.append_nil]
    split
    · next hname =>
      subst hname
      by_cases hword : name = word
      · simp [hword]
      · simp [hword, List.lookup_cons, beq_eq_false_iff_ne.2 (Ne.symm hword)]
    · next hname =>
      by_cases hword : word = other
      · simp [hword, hname]
      · rw [List.lookup_cons, List.lookup_cons, beq_eq_false_iff_ne.2 hword]
        exact ih hrest

/--
Every word is found with the ranges of the tokens that have its upper case, behind those known
before.
-/
theorem getD_lookup_foldl_insert (h : Ascending found) (words : List Token) (word : String) :
    ((words.foldl (fun found t => insert (upper t.lexeme) t.range found) found).lookup
      word).getD [] =
      (found.lookup word).getD [] ++
        (words.filter (upper ·.lexeme = word)).map Token.range := by
  induction words generalizing found with
  | nil => simp
  | cons t words ih =>
    rw [List.foldl_cons, ih h.insert, getD_lookup_insert h, List.append_assoc]
    by_cases hword : upper t.lexeme = word
    · rw [if_pos hword, List.filter_cons_of_pos (by simpa using hword)]
      rfl
    · rw [if_neg hword, List.filter_cons_of_neg (by simpa using hword)]
      rfl

theorem getD_lookup_ofTokens (tokens : List Token) (word : String) :
    ((ofTokens tokens).lookup word).getD [] =
      ((tokens.filter Token.isWord).filter (upper ·.lexeme = word)).map Token.range := by
  have hnone : Ascending [] := List.Pairwise.nil
  exact getD_lookup_foldl_insert hnone _ word

end Occurrences

namespace SymbolIndex

theorem occurrences_foldl_addNode (index : SymbolIndex) (visited : List (Node × Option Nat)) :
    (visited.foldl addNode index).occurrences = index.occurrences := by
  induction visited generalizing index with
  | nil => rfl
  | cons v visited ih =>
    obtain ⟨n, program⟩ := v
    rw [List.foldl_cons, ih]
    cases hkind : n.kind <;> simp [addNode, hkind]

/-- The index finds a name at the words that have its upper case. -/
theorem occurrencesOf_ofTree (root : Node) (name : String) :
    (ofTree root).occurrencesOf name =
      ((root.leaves.filter Token.isWord).filter (upper ·.lexeme = upper name)).map
        Token.range := by
  rw [occurrencesOf, ofTree, visit_eq_foldl, occurrences_foldl_addNode]
  exact Occurrences.getD_lookup_ofTokens root.leaves (upper name)

theorem mem_occurrencesOf {root : Node} {t : Token} (ht : t ∈ root.leaves) (hword : t.isWord) :
    t.range ∈ (ofTree root).occurrencesOf t.lexeme := by
  rw [occurrencesOf_ofTree]
  apply List.mem_map_of_mem
  simp [ht, hword]

theorem definitions_congr (index : SymbolIndex) {name other : String}
    (h : sameIgnoringCase name other) :
    index.definitions name = index.definitions other := by
  have hlower : name.toList.map Char.toLower = other.toList.map Char.toLower := by
    simpa [sameIgnoringCase] using h
  simp only [definitions, sameIgnoringCase, hlower]

theorem pairwise_definitions (index : SymbolIndex) (name : String) :
    (index.definitions name).Pairwise (·.span.start ≤ ·.span.start) := by
  unfold definitions
  apply (List.pairwise_mergeSort _ _ _).imp
  · intro r s h
    exact decide_eq_true_iff.1 h
  · intro r s t hrs hst
    exact decide_eq_true_iff.2
      (Nat.le_trans (decide_eq_true_iff.1 hrs) (decide_eq_true_iff.1 hst))
  · intro r s
    simpa using Nat.le_total r.span.start s.span.start

theorem exists_word_of_mem_labelsAfter {program previousLine : Option Nat} {tokens : List Token}
    {l : LabelSymbol} (h : l ∈ labelsAfter program previousLine tokens) :
    ∃ t ∈ tokens, t.isWord ∧ l.name = t.lexeme ∧ l.range = t.range := by
  induction tokens generalizing previousLine with
  | nil => cases h
  | cons t tokens ih =>
    have hlater (h : l ∈ labelsAfter program (some t.position.line) tokens) :
        ∃ u ∈ t :: tokens, u.isWord ∧ l.name = u.lexeme ∧ l.range = u.range := by
      obtain ⟨u, hu, hrest⟩ := ih h
      exact ⟨u, List.mem_cons_of_mem t hu, hrest⟩
    rw [labelsAfter] at h
    split at h
    · next hlabel =>
      split at h
      · rcases List.mem_cons.1 h with rfl | h
        · simp only [Bool.and_eq_true] at hlabel
          exact ⟨t, List.mem_cons_self, hlabel.1.1, rfl, rfl⟩
        · exact hlater h
      · exact hlater h
    · exact hlater h

theorem exists_word_of_mem_labels {root : Node} {l : LabelSymbol}
    (h : l ∈ (ofTree root).labels) :
    ∃ t ∈ root.leaves, t.isWord ∧ l.name = t.lexeme ∧ l.range = t.range := by
  rw [labels_ofTree] at h
  obtain ⟨v, hv, hl⟩ := List.mem_flatMap.1 h
  obtain ⟨t, ht, hword⟩ := exists_word_of_mem_labelsAfter hl
  have hnode : v.1 ∈ root.walk.map Prod.fst := by
    rw [← root.map_fst_owned]
    exact List.mem_map_of_mem (List.mem_filter.1 hv).1
  exact ⟨t, (Node.leaves_infix_of_mem_walk hnode).subset (List.mem_filter.1 ht).1, hword⟩

theorem exists_word_of_mem_dataItems {root : Node} {d : DataItem}
    (h : d ∈ (ofTree root).dataItems) :
    ∃ t ∈ root.leaves, t.isWord ∧ d.name = t.lexeme ∧ d.range = t.range := by
  obtain ⟨batches, hbatches⟩ := exists_batches root
  rw [hbatches.items] at h
  obtain ⟨batch, hbatch, hd⟩ := List.mem_flatten.1 h
  obtain ⟨n, hn, hdeclared⟩ := exists_of_mem_forall₂ hbatches.declared hbatch
  obtain ⟨sentence, hsentence, level, name, rest, htokens, -, hword, hname, hrange, -⟩ :=
    exists_of_mem_forall₂ hdeclared hd
  have hmem : name ∈ sentence := by
    have hsignificant : name ∈ sentence.filter Token.isSignificant := by simp [htokens]
    exact (List.mem_filter.1 hsignificant).1
  have hleaf : name ∈ n.leaves :=
    n.flatten_declarations_sublist.subset (List.mem_flatten.2 ⟨sentence, hsentence, hmem⟩)
  exact ⟨name, (Node.leaves_infix_of_mem_walk (List.mem_filter.1 hn).1).subset hleaf, hword,
    hname, hrange⟩

theorem mem_definitions_of_label {index : SymbolIndex} {l : LabelSymbol}
    (h : l ∈ index.labels) :
    l.range ∈ index.definitions l.name := by
  have hsame : sameIgnoringCase l.name l.name := by simp [sameIgnoringCase]
  rw [definitions, List.mem_mergeSort]
  exact List.mem_append_left _ (List.mem_append_right _
    (List.mem_map_of_mem (List.mem_filter.2 ⟨h, hsame⟩)))

theorem mem_definitions_of_dataItem {index : SymbolIndex} {d : DataItem}
    (h : d ∈ index.dataItems) (hnamed : d.isFiller = false) :
    d.range ∈ index.definitions d.name := by
  have hsame : (!d.isFiller && sameIgnoringCase d.name d.name) = true := by
    simp [sameIgnoringCase, hnamed]
  rw [definitions, List.mem_mergeSort]
  exact List.mem_append_right _ (List.mem_map_of_mem (List.mem_filter.2 ⟨h, hsame⟩))

end SymbolIndex

namespace Analysis

/--
The places of a word in a text: the ranges of the words that are the same but for ASCII case.
-/
def placesOf (text : String) (w : Token) : List Range :=
  ((scan text).filter fun t => t.isWord && sameIgnoringCase t.lexeme w.lexeme).map Token.range

theorem occurrencesOf_ofText (score : Similarity) {text : String} {w : Token}
    (hw : w ∈ scan text) (hword : w.isWord) :
    (ofParsed (parseStream score (.ofText text))).index.occurrencesOf w.lexeme =
      placesOf text w := by
  rw [ofParsed, SymbolIndex.occurrencesOf_ofTree, leaves_root_ofText,
    List.filter_filter, placesOf]
  congr 1
  apply List.filter_congr
  intro t ht
  cases htword : t.isWord with
  | false => simp
  | true =>
    have hiff := upper_eq_iff (isWordPart_of_mem_scanFrom ht htword)
      (isWordPart_of_mem_scanFrom hw hword)
    rw [Bool.and_true, Bool.true_and, Bool.eq_iff_iff, decide_eq_true_iff, hiff]

end Analysis

/--
The ways between the places of a word agree. From any position in a word of a text, the
references with declarations are all its places, in their order and each once; those without are
what is left without the definitions; the highlights are all places, and the definitions among
them count as written; and it makes no difference from which place of the word one starts.
Definitions are in the order of the text. What the index declares by name, other than programs,
is found under that name among the definitions and the places.
-/
theorem navigation_consistent (score : Similarity) (text : String) :
    let a := Analysis.ofParsed (parseStream score (.ofText text))
    (∀ w ∈ scan text, w.isWord → ∀ p, w.range.contains p →
      let places := Analysis.placesOf text w
      a.referencesAt p true = places ∧ places.Pairwise (·.span.start < ·.span.start) ∧
        places.Nodup ∧
      a.referencesAt p false = places.filter (· ∉ a.definitionsAt p) ∧
      a.highlightsAt p =
        places.map (fun r => (r, if r ∈ a.definitionsAt p then .write else .read)) ∧
      (a.definitionsAt p).Pairwise (·.span.start ≤ ·.span.start) ∧
      ∀ v ∈ scan text, v.isWord → sameIgnoringCase v.lexeme w.lexeme → ∀ q, v.range.contains q →
        a.referencesAt q = a.referencesAt p ∧ a.highlightsAt q = a.highlightsAt p ∧
          a.definitionsAt q = a.definitionsAt p) ∧
    (∀ l ∈ a.index.labels,
      l.range ∈ a.index.definitions l.name ∧ l.range ∈ a.index.occurrencesOf l.name) ∧
    ∀ d ∈ a.index.dataItems, d.isFiller = false →
      d.range ∈ a.index.definitions d.name ∧ d.range ∈ a.index.occurrencesOf d.name := by
  intro a
  refine ⟨?_, ?_, ?_⟩
  · intro w hw hword p hp places
    have hat := Analysis.wordAt?_ofText score hw hword hp
    have hplaces := Analysis.occurrencesOf_ofText score hw hword
    have hdefinitions : a.definitionsAt p = a.index.definitions w.lexeme := by
      rw [Analysis.definitionsAt, hat]
    have hordered : Range.Ordered places :=
      (ordered_scan text).sublist (List.filter_sublist.map _)
    refine ⟨?_, ?_, hordered.nodup, ?_, ?_, ?_, ?_⟩
    · rw [Analysis.referencesAt, hat]
      exact hplaces
    · apply hordered.pairwise.imp_of_mem
      intro r s hr _ hprecedes
      exact hprecedes.span_start_lt (hordered.solid r hr)
    · rw [hdefinitions, Analysis.referencesAt, hat]
      dsimp only
      rw [if_neg Bool.false_ne_true, hplaces]
      apply List.filter_congr
      intro r _
      simp
    · rw [hdefinitions, Analysis.highlightsAt, hat]
      dsimp only
      rw [hplaces]
      apply List.map_congr_left
      intro r _
      simp
    · rw [hdefinitions]
      exact a.index.pairwise_definitions _
    · intro v hv hvword hsame q hq
      have hat' := Analysis.wordAt?_ofText score hv hvword hq
      have hdeclared := a.index.definitions_congr hsame
      have hfound : a.index.occurrencesOf v.lexeme = a.index.occurrencesOf w.lexeme := by
        rw [SymbolIndex.occurrencesOf, upper_eq_of_sameIgnoringCase hsame]
        rfl
      refine ⟨?_, ?_, ?_⟩
      · funext declarations
        rw [Analysis.referencesAt, Analysis.referencesAt, hat, hat']
        dsimp only
        rw [hfound, hdeclared]
      · rw [Analysis.highlightsAt, Analysis.highlightsAt, hat, hat']
        dsimp only
        rw [hfound, hdeclared]
      · rw [hdefinitions, Analysis.definitionsAt, hat']
        exact hdeclared
  · intro l hl
    refine ⟨SymbolIndex.mem_definitions_of_label hl, ?_⟩
    obtain ⟨t, ht, hword, hname, hrange⟩ := SymbolIndex.exists_word_of_mem_labels hl
    rw [hname, hrange]
    exact SymbolIndex.mem_occurrencesOf ht hword
  · intro d hd hnamed
    refine ⟨SymbolIndex.mem_definitions_of_dataItem hd hnamed, ?_⟩
    obtain ⟨t, ht, hword, hname, hrange⟩ := SymbolIndex.exists_word_of_mem_dataItems hd
    rw [hname, hrange]
    exact SymbolIndex.mem_occurrencesOf ht hword

/-- A data item that is mentioned in another case than it is declared in. -/
def sumText : String :=
  "ID DIVISION. PROGRAM-ID. P. DATA DIVISION. 1 SUM. X sum."

open Parse in
theorem root_sumText :
    (parse sumText).root =
      ((step .jaroWinkler)^[5] ⟨.sourceUnit,
        .initial (.ofText sumText)⟩).state.context.finish :=
  root_parseStream_of_isFinal .jaroWinkler (.ofText sumText) 5 (by decide +kernel)

theorem navigation_consistent_sumText :
    let a := Analysis.ofText sumText
    let declared : Range := ⟨⟨45, 48⟩, ⟨0, 45⟩, ⟨0, 48⟩⟩
    let used : Range := ⟨⟨52, 55⟩, ⟨0, 52⟩, ⟨0, 55⟩⟩
    (∃ w ∈ scan sumText, w.isWord ∧ w.lexeme = "sum" ∧ w.range.contains ⟨0, 55⟩ ∧
      a.definitionsAt ⟨0, 55⟩ = [declared] ∧
      a.referencesAt ⟨0, 55⟩ true = [declared, used] ∧ a.referencesAt ⟨0, 55⟩ false = [used] ∧
      a.highlightsAt ⟨0, 55⟩ = [(declared, .write), (used, .read)]) ∧
    ∃ d ∈ a.index.dataItems, d.name = "SUM" ∧ d.isFiller = false ∧
      d.range ∈ a.index.definitions d.name ∧ d.range ∈ a.index.occurrencesOf d.name := by
  intro a declared used
  let w : Token := ⟨.word, "sum", ⟨0, 52⟩, ⟨52, 55⟩⟩
  have hw : w ∈ scan sumText := by decide +kernel
  have hplaces : Analysis.placesOf sumText w = [declared, used] := by decide +kernel
  have hdefinitions :
      (Analysis.ofParsed (parseStream .jaroWinkler (.ofText sumText))).definitionsAt
      ⟨0, 55⟩ = [declared] := by
    rw [Analysis.definitionsAt, Analysis.wordAt?_ofText .jaroWinkler hw rfl (by decide)]
    change (SymbolIndex.ofTree (parse sumText).root).definitions "sum" = _
    rw [root_sumText]
    decide +kernel
  have hitem : ∃ d ∈ a.index.dataItems, d.name = "SUM" ∧ d.isFiller = false := by
    change ∃ d ∈ (SymbolIndex.ofTree (parse sumText).root).dataItems, _
    rw [root_sumText]
    decide +kernel
  obtain ⟨hall, -, -, hother, hmarked, -⟩ :=
    (navigation_consistent .jaroWinkler sumText).1 w hw rfl ⟨0, 55⟩ (by decide)
  rw [hplaces] at hall hother hmarked
  rw [hdefinitions] at hother hmarked
  obtain ⟨d, hd, hname, hnamed⟩ := hitem
  refine ⟨⟨w, hw, rfl, rfl, by decide, hdefinitions, hall, ?_, ?_⟩, d, hd, hname, hnamed, ?_⟩
  · exact hother.trans (by decide)
  · exact hmarked.trans (by decide)
  · exact (navigation_consistent .jaroWinkler sumText).2.2 d hd hnamed

end CobolCompanion
