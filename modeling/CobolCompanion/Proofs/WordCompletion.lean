import CobolCompanion.Editor.Completion
import CobolCompanion.Proofs.Advances
import CobolCompanion.Proofs.TextOrder
import CobolCompanion.Proofs.TokenSeams

namespace CobolCompanion

section
variable {test : Char → Bool} {text more : List Char}

theorem rtakeWhile_append_of_all (h : ∀ c ∈ more, test c) :
    (text ++ more).rtakeWhile test = text.rtakeWhile test ++ more := by
  have hmore : ∀ c ∈ more.reverse, test c := by simpa using h
  rw [List.rtakeWhile, List.reverse_append, List.takeWhile_append_of_pos hmore,
    List.reverse_append, List.reverse_reverse, List.rtakeWhile]

theorem rtakeWhile_append_of_last (h : ∀ c ∈ text.getLast?, test c = false) :
    (text ++ more).rtakeWhile test = more.rtakeWhile test := by
  induction more using List.reverseRecOn with
  | nil =>
    rw [List.append_nil, List.rtakeWhile_nil, List.rtakeWhile_eq_nil_iff]
    intro hne
    simpa using h _ (List.getLast_mem_getLast? hne)
  | append_singleton more c ih =>
    cases hc : test c with
    | true =>
      rw [← List.append_assoc, List.rtakeWhile_concat_pos _ _ _ hc,
        List.rtakeWhile_concat_pos _ _ _ hc, ih]
    | false =>
      have hc' : ¬test c := by simp [hc]
      rw [← List.append_assoc, List.rtakeWhile_concat_neg _ _ _ hc',
        List.rtakeWhile_concat_neg _ _ _ hc']

theorem rdropWhile_append_of_last (h : ∀ c ∈ text.getLast?, test c = false) :
    (text ++ more).rdropWhile test = text ++ more.rdropWhile test := by
  induction more using List.reverseRecOn with
  | nil =>
    rw [List.append_nil, List.rdropWhile_nil, List.append_nil, List.rdropWhile_eq_self_iff]
    intro hne
    simpa using h _ (List.getLast_mem_getLast? hne)
  | append_singleton more c ih =>
    cases hc : test c with
    | true =>
      rw [← List.append_assoc, List.rdropWhile_concat_pos _ _ _ hc,
        List.rdropWhile_concat_pos _ _ _ hc, ih]
    | false =>
      have hc' : ¬test c := by simp [hc]
      rw [← List.append_assoc, List.rdropWhile_concat_neg _ _ _ hc',
        List.rdropWhile_concat_neg _ _ _ hc', List.append_assoc]

end

namespace Completion

theorem splitLines_ne_nil (text : List Char) : splitLines text ≠ [] := by
  unfold splitLines
  split
  · simp
  · split
    · simp
    · split <;> simp

theorem splitLines_append (text more : List Char) :
    splitLines (text ++ '\n' :: more) = splitLines text ++ splitLines more := by
  induction text with
  | nil => simp [splitLines]
  | cons c text ih =>
    rw [List.cons_append, splitLines, splitLines, ih]
    split
    · rfl
    · obtain ⟨line, lines, hlines⟩ := List.exists_cons_of_ne_nil (splitLines_ne_nil text)
      rw [hlines]
      rfl

theorem length_splitLines (offset : Nat) (text : List Char) :
    (splitLines text).length = (lineStartsFrom offset text).length + 1 := by
  induction text generalizing offset with
  | nil => rfl
  | cons c text ih =>
    rw [splitLines, lineStartsFrom]
    split
    · rw [List.length_cons, ih (offset + 1), List.length_cons]
    · have hlength := ih (offset + c.utf8Size)
      obtain ⟨line, lines, hlines⟩ := List.exists_cons_of_ne_nil (splitLines_ne_nil text)
      rw [hlines] at hlength ⊢
      exact hlength

theorem head?_splitLines (text : List Char) :
    (splitLines text).head? = some (text.takeWhile (· != '\n')) := by
  induction text with
  | nil => rfl
  | cons c text ih =>
    rw [splitLines]
    split
    · next hc => simp [hc]
    · next hc =>
      obtain ⟨line, lines, hlines⟩ := List.exists_cons_of_ne_nil (splitLines_ne_nil text)
      rw [hlines, List.head?_cons, Option.some.injEq] at ih
      rw [hlines, List.takeWhile_cons_of_pos (by simpa using hc), ← ih]
      rfl

theorem getElem?_splitLines {lines : List Char} (h : EndsAtLine lines) (more : List Char) :
    (splitLines (lines ++ more))[(lineStartsFrom 0 lines).length]? =
      some (more.takeWhile (· != '\n')) := by
  rw [← head?_splitLines]
  rcases h with rfl | ⟨before, rfl⟩
  · exact List.head?_eq_getElem?.symm
  · have hcount : (lineStartsFrom 0 (before ++ ['\n'])).length =
        (splitLines before).length := by
      rw [length_splitLines 0, lineStartsFrom_append, List.length_append]
      rfl
    rw [hcount, List.append_assoc, List.singleton_append, splitLines_append,
      List.getElem?_append_right (Nat.le_refl _), Nat.sub_self]
    exact List.head?_eq_getElem?.symm

theorem rtakeWhile_line {lines : List Char} (h : EndsAtLine lines) (line : List Char) :
    (lines ++ line).rtakeWhile isWordPart = line.rtakeWhile isWordPart := by
  apply rtakeWhile_append_of_last
  intro c hc
  rcases h with rfl | ⟨before, rfl⟩
  · cases hc
  · rw [List.getLast?_concat, Option.mem_some_iff] at hc
    rw [← hc]
    rfl

theorem typedWord_of_line {text : String} {lines line word rest : List Char}
    (hlines : EndsAtLine lines) (htext : text.toList = lines ++ (line ++ word ++ rest))
    (hline : '\n' ∉ line) (hne : word ≠ []) (hword : ∀ c ∈ word, isWordPart c) {k : Nat}
    (hk : k ≤ word.length) :
    typedWord text ⟨(lineStartsFrom 0 lines).length, line.length + k⟩ =
      String.ofList ((lines ++ line).rtakeWhile isWordPart ++ word.take k) := by
  have hplain : ∀ c ∈ line ++ word, (c != '\n') = true := by
    intro c hc
    rw [bne_iff_ne]
    rintro rfl
    rcases List.mem_append.1 hc with hc | hc
    · exact hline hc
    · cases hword _ hc
  have hlast : ∀ c ∈ (line ++ word).getLast?, (c == '\r') = false := by
    intro c hc
    rw [List.getLast?_append_of_ne_nil _ hne] at hc
    rw [beq_eq_false_iff_ne]
    rintro rfl
    cases hword _ (List.mem_of_getLast? hc)
  have hbefore : (dropLastWhile (· == '\r') ((line ++ word ++ rest).takeWhile (· != '\n'))).take
      (line.length + k) = line ++ word.take k := by
    rw [List.takeWhile_append_of_pos hplain]
    change (List.rdropWhile (· == '\r') _).take (line.length + k) = _
    rw [rdropWhile_append_of_last hlast, List.append_assoc, List.take_length_add_append,
      List.take_append_of_le_length hk]
  rw [typedWord, htext, getElem?_splitLines hlines]
  dsimp only
  rw [hbefore, rtakeWhile_line hlines]
  apply congrArg String.ofList
  apply rtakeWhile_append_of_all
  intro c hc
  exact hword c (List.mem_of_mem_take hc)

end Completion

theorem Token.column_of_contains {t : Token} {p : Position} (hword : t.isWord)
    (hp : t.range.contains p) :
    ∃ k ≤ t.lexeme.toList.length, p = ⟨t.position.line, t.position.column + k⟩ := by
  have hkind : t.kind ≠ .newLine := by
    intro hkind
    simp [isWord, hkind] at hword
  obtain ⟨hstart, hstop⟩ := Range.contains_iff.1 hp
  rw [Position.le_def] at hstart hstop
  rw [range, width, if_neg hkind, ← String.length_toList] at hstop
  dsimp only [range] at hstart hstop
  refine ⟨p.column - t.position.column, by omega, ?_⟩
  apply Position.ext <;> (dsimp only; omega)

theorem typedWord_at_token {text : String} {earlier later : List Token} {t : Token}
    {p : Position} (hsplit : scan text = earlier ++ t :: later) (hword : t.isWord)
    (hp : t.range.contains p) :
    Completion.typedWord text p = lexemes (earlier.rtakeWhile Token.isJoint) ++
      String.ofList (t.lexeme.toList.take (p.column - t.position.column)) := by
  obtain ⟨k, hk, rfl⟩ := Token.column_of_contains hword hp
  have hspelling : spelling (scan text) = text.toList :=
    flatMap_lexeme_scanFrom .start text.toList
  have hlaid : Laid .start (scan text) := laid_scanFrom .start text.toList
  have hchain : List.IsChain Seam (scan text) := isChain_seam_scanFrom .start text.toList
  have hmem : t ∈ scan text := by simp [hsplit]
  have hparts : ∀ c ∈ t.lexeme.toList, isWordPart c := isWordPart_of_mem_scanFrom hmem hword
  rw [hsplit] at hspelling hlaid hchain
  obtain ⟨hearlier, hlies, -⟩ := laid_append.1 hlaid
  obtain ⟨lines, line, hlines, hends, hline⟩ := exists_lines (spelling earlier)
  have hposition : t.position = ⟨(lineStartsFrom 0 lines).length, line.length⟩ := by
    rw [hlies.position, hlines, Place.after_append, Place.position_after_line _ hline,
      hends.position_after, Nat.zero_add]
  have htext : text.toList = lines ++ (line ++ t.lexeme.toList ++ spelling later) := by
    rw [← hspelling, spelling_append, spelling_cons, hlines]
    simp only [List.append_assoc]
  have hjoints : (lines ++ line).rtakeWhile isWordPart =
      spelling (earlier.rtakeWhile Token.isJoint) := by
    obtain ⟨c, others, hlexeme⟩ := List.exists_cons_of_ne_nil hlies.nonempty
    have hc : t.lexeme.toList.head? = some c := by rw [hlexeme, List.head?_cons]
    rw [← hlines]
    apply rtakeWhile_spelling (v := t) (c := c) _ hc (hparts c (List.mem_of_head? hc))
    · intro u hu
      obtain ⟨_, _, -, hu', -⟩ :=
        exists_laid_of_infix ((List.singleton_infix_iff u (scan text)).2 (by simp [hsplit, hu]))
      exact hu'.nonempty
    · rw [List.append_cons] at hchain
      exact hchain.left_of_append
  have hcolumn : t.position.column + k - t.position.column = k := by omega
  rw [hcolumn, hposition]
  dsimp only
  rw [Completion.typedWord_of_line hends htext hline hlies.nonempty hparts hk, hjoints,
    ← String.toList_inj]
  simp [toList_lexemes]

namespace Completion

/-- The suggestions before which none has the same label, in any case. -/
def leading (cs : List Candidate) : List Candidate :=
  (cs.zipIdx.filter fun v => (cs.take v.2).all fun d => upper d.label !=
    upper v.1.label).map Prod.fst

theorem firstPerLabel_eq {seen : List String} {before : List Candidate}
    (hseen : ∀ label, seen.contains label = before.any (upper ·.label == label))
    (cs : List Candidate) :
    firstPerLabel seen cs = ((cs.zipIdx before.length).filter fun v =>
      ((before ++ cs).take v.2).all fun d => upper d.label !=
        upper v.1.label).map Prod.fst := by
  induction cs generalizing seen before with
  | nil => rfl
  | cons c cs ih =>
    have hfresh : ((before ++ c :: cs).take before.length).all
        (fun d => upper d.label != upper c.label) =
        !seen.contains (upper c.label) := by
      rw [List.take_left, hseen, List.not_any_eq_all_not]
      rfl
    rw [firstPerLabel, List.zipIdx_cons, List.filter_cons, hfresh, List.append_cons]
    cases hknown : seen.contains (upper c.label) with
    | true =>
      have hrest := @ih seen (before ++ [c]) ?_
      · simpa using hrest
      · intro label
        rw [List.any_append, ← hseen, List.any_cons, List.any_nil, Bool.or_false]
        by_cases hlabel : upper c.label = label
        · rw [← hlabel, hknown, Bool.true_or]
        · rw [beq_eq_false_iff_ne.2 hlabel, Bool.or_false]
    | false =>
      have hrest := @ih (upper c.label :: seen) (before ++ [c]) ?_
      · simpa using hrest
      · intro label
        rw [List.any_append, ← hseen, List.any_cons, List.any_nil, Bool.or_false,
          List.contains_cons, Bool.or_comm, BEq.comm]

/-- A test of labels may be made before or after repeated labels are left out. -/
theorem firstPerLabel_filter {test : String → Bool} {seen known : List String}
    (h : ∀ label, test label → seen.contains label = known.contains label)
    (cs : List Candidate) :
    firstPerLabel seen (cs.filter (test <| upper ·.label)) =
      (firstPerLabel known cs).filter (test <| upper ·.label) := by
  induction cs generalizing seen known with
  | nil => rfl
  | cons c cs ih =>
    have hcons (label : String) (hlabel : test label) :
        (upper c.label :: seen).contains label = (upper c.label :: known).contains label := by
      rw [List.contains_cons, List.contains_cons, h label hlabel]
    rw [firstPerLabel]
    cases htest : test (upper c.label) with
    | true =>
      have hkept (cs : List Candidate) : (c :: cs).filter (test <| upper ·.label) =
          c :: cs.filter (test <| upper ·.label) := List.filter_cons_of_pos htest
      rw [hkept, firstPerLabel, h _ htest]
      split
      · exact ih h
      · rw [hkept, ih hcons]
    | false =>
      have hdropped (cs : List Candidate) : (c :: cs).filter (test <| upper ·.label) =
          cs.filter (test <| upper ·.label) := List.filter_cons_of_neg (by simp [htest])
      rw [hdropped]
      split
      · exact ih h
      · rw [hdropped]
        apply ih
        intro label hlabel
        have hne : label ≠ upper c.label := by
          rintro rfl
          rw [htest] at hlabel
          cases hlabel
        rw [List.contains_cons, beq_eq_false_iff_ne.2 hne, Bool.false_or, h label hlabel]

theorem nodup_firstPerLabel (seen : List String) (cs : List Candidate) :
    ((firstPerLabel seen cs).map (upper ·.label)).Nodup ∧
      ∀ c ∈ firstPerLabel seen cs, upper c.label ∉ seen := by
  induction cs generalizing seen with
  | nil => simp [firstPerLabel]
  | cons c cs ih =>
    rw [firstPerLabel]
    split
    · exact ih seen
    · next hfresh =>
      obtain ⟨hnodup, hnew⟩ := ih (upper c.label :: seen)
      rw [List.map_cons, List.nodup_cons, List.forall_mem_cons]
      refine ⟨⟨?_, hnodup⟩, by simpa using hfresh, ?_⟩
      · intro hmem
        obtain ⟨d, hd, hlabel⟩ := List.mem_map.1 hmem
        apply hnew d hd
        rw [hlabel]
        exact List.mem_cons_self
      · intro d hd hmem
        exact hnew d hd (List.mem_cons_of_mem _ hmem)

theorem completions_eq (a : Analysis) (text : String) (p : Position) (keywords : List String) :
    a.completions text p keywords =
      (leading (symbolCandidates a.index ++ keywordCandidates keywords)).filter
        (begins (typedWord text p) ·.label) := by
  have hleading : leading (symbolCandidates a.index ++ keywordCandidates keywords) =
      firstPerLabel [] (symbolCandidates a.index ++ keywordCandidates keywords) :=
    (@firstPerLabel_eq [] [] (by simp) _).symm
  rw [hleading]
  exact @firstPerLabel_filter
    (fun label => (upper (typedWord text p)).toList.isPrefixOf label.toList)
    [] [] (by simp) _

end Completion

open Completion in
/--
Completion at a word of a scan. What is typed is the part of the word left of the position,
behind the joints that stand directly before the word. Suggested are those of the names of the
document and then of the keywords that begin with it, in their order, each label once and where
it stands first.
-/
theorem completions_at_word (text : String) (earlier later : List Token) (t : Token)
    (p : Position) (hsplit : scan text = earlier ++ t :: later) (hword : t.isWord)
    (hp : t.range.contains p) :
    let typed := lexemes (earlier.rtakeWhile Token.isJoint) ++
      String.ofList (t.lexeme.toList.take (p.column - t.position.column))
    typedWord text p = typed ∧
    ∀ (a : Analysis) (keywords : List String),
      a.completions text p keywords =
        (leading (symbolCandidates a.index ++ keywordCandidates keywords)).filter
          (begins typed ·.label) ∧
      ((a.completions text p keywords).map (upper ·.label)).Nodup := by
  intro typed
  have htyped : typedWord text p = typed := typedWord_at_token hsplit hword hp
  refine ⟨htyped, ?_⟩
  intro a keywords
  rw [← htyped]
  exact ⟨completions_eq a text p keywords, (nodup_firstPerLabel [] _).1⟩

/-- A word behind two hyphens, on the second line of a text. -/
def hyphenated : String :=
  "X\r\nMOVE --WS-TO"

open Completion in
theorem completions_at_word_hyphenated :
    ∃ earlier t, scan hyphenated = earlier ++ [t] ∧ t.isWord ∧ t.lexeme = "WS-TO" ∧
      t.range.contains ⟨1, 9⟩ ∧ typedWord hyphenated ⟨1, 9⟩ = "--WS" ∧
      ∀ (a : Analysis) (keywords : List String),
        a.completions hyphenated ⟨1, 9⟩ keywords =
          (leading (symbolCandidates a.index ++ keywordCandidates keywords)).filter
            (begins "--WS" ·.label) ∧
        ((a.completions hyphenated ⟨1, 9⟩ keywords).map (upper ·.label)).Nodup := by
  have hsplit : scan hyphenated =
      (scan hyphenated).take 6 ++ [⟨.word, "WS-TO", ⟨1, 7⟩, ⟨10, 15⟩⟩] := by decide +kernel
  have htyped : lexemes (((scan hyphenated).take 6).rtakeWhile Token.isJoint) ++
      String.ofList ("WS-TO".toList.take 2) = "--WS" := by decide +kernel
  obtain ⟨hword, hcompletions⟩ := completions_at_word hyphenated _ [] _ ⟨1, 9⟩ hsplit rfl rfl
  exact ⟨_, _, hsplit, rfl, rfl, rfl, hword.trans htyped, htyped ▸ hcompletions⟩

open Parse Completion in
/--
A hyphen that is no part of a word counts as typed all the same, and nothing is suggested for
it.
-/
theorem typedWord_ne_part :
    ∃ joint t, scan "-A" = [joint, t] ∧ t.isWord ∧ t.range.contains ⟨0, 2⟩ ∧
      String.ofList (t.lexeme.toList.take (2 - t.position.column)) = "A" ∧
      typedWord "-A" ⟨0, 2⟩ = "-A" ∧
      (Analysis.ofText "-A").completions "-A" ⟨0, 2⟩ ["ADD"] = [] := by
  have hroot := root_parseStream_of_isFinal .jaroWinkler (.ofText "-A") 2 (by decide +kernel)
  have hcompletions : (Analysis.ofText "-A").completions "-A" ⟨0, 2⟩ ["ADD"] = [] := by
    rw [completions_eq]
    change (leading (symbolCandidates (.ofTree (parseStream _ _).root) ++ _)).filter _ = []
    rw [hroot]
    decide +kernel
  have hscan : scan "-A" = [⟨.other, "-", ⟨0, 0⟩, ⟨0, 1⟩⟩, ⟨.word, "A", ⟨0, 1⟩, ⟨1, 2⟩⟩] := by
    decide +kernel
  exact ⟨_, _, hscan, rfl, rfl, by decide +kernel, by decide +kernel, hcompletions⟩

end CobolCompanion
