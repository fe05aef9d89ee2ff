import CobolCompanion.Analysis
import CobolCompanion.Proofs.CaselessRuns

namespace CobolCompanion

open Parse

theorem isBlank_toLower (c : Char) : isBlank c.toLower = isBlank c := by
  rw [Bool.eq_iff_iff]
  simp only [isBlank, toNat_toLower, Bool.or_eq_true, Bool.and_eq_true,
    decide_eq_true_eq, beq_iff_eq]
  split <;> omega

theorem blankSeparated_map_toLower (text : List Char) :
    blankSeparated (text.map Char.toLower) =
      (blankSeparated text).map (·.map Char.toLower) := by
  fun_induction blankSeparated text with
  | case1 => rfl
  | case2 c hblank => simp [blankSeparated, isBlank_toLower, hblank]
  | case3 c hblank => simp [blankSeparated, isBlank_toLower, hblank]
  | case4 c d text hblank ih =>
    simp only [List.map_cons] at ih ⊢
    rw [blankSeparated, isBlank_toLower, if_pos hblank, ih]
  | case5 c d text hblank hnext ih =>
    simp only [List.map_cons] at ih ⊢
    rw [blankSeparated, isBlank_toLower, if_neg hblank, isBlank_toLower, if_pos hnext, ih]
    rfl
  | case6 c d text hblank hnext hnone ih =>
    simp only [List.map_cons] at ih ⊢
    rw [blankSeparated, isBlank_toLower, if_neg hblank, isBlank_toLower,
      if_neg hnext, ih, hnone]
    rfl
  | case7 c d text hblank hnext word words hwords ih =>
    simp only [List.map_cons] at ih ⊢
    rw [blankSeparated, isBlank_toLower, if_neg hblank, isBlank_toLower,
      if_neg hnext, ih, hwords]
    rfl

theorem map_intercalate_toLower (sep : List Char) (words : List (List Char)) :
    (sep.intercalate words).map Char.toLower =
      (sep.map Char.toLower).intercalate (words.map (·.map Char.toLower)) := by
  induction words with
  | nil => rfl
  | cons word words ih =>
    cases words with
    | nil => simp
    | cons next words =>
      simp only [List.map_cons] at ih ⊢
      rw [List.intercalate_cons_cons, List.intercalate_cons_cons, List.map_append,
        List.map_append, ih]

theorem squeezeBlanks_lower (text : String) :
    squeezeBlanks (lower text) = lower (squeezeBlanks text) := by
  rw [← String.toList_inj]
  simp only [squeezeBlanks, toList_lower, String.toList_intercalate, map_intercalate_toLower,
    blankSeparated_map_toLower]
  simp [Function.comp_def]

def ProgramSymbol.caseless (p : ProgramSymbol) : ProgramSymbol :=
  { p with name := lower p.name }

def LabelSymbol.caseless (l : LabelSymbol) : LabelSymbol :=
  { l with name := lower l.name }

def DataItem.caseless (d : DataItem) : DataItem :=
  { d with name := lower d.name, line := lower d.line }

/-- A declaration of a data item that is written in lower case. -/
def DataEntry.caseless (e : DataEntry) : DataEntry :=
  ⟨e.level, e.name.caseless, e.sentence.map Token.caseless⟩

/--
An index whose names and lines are written in lower case. The occurrences are kept as they are.
-/
def SymbolIndex.caseless (index : SymbolIndex) : SymbolIndex where
  programs := index.programs.map ProgramSymbol.caseless
  labels := index.labels.map LabelSymbol.caseless
  dataItems := index.dataItems.map DataItem.caseless
  occurrences := index.occurrences

theorem Occurrences.ofTokens_caseless (tokens : List Token) :
    ofTokens (tokens.map Token.caseless) = ofTokens tokens := by
  have hwords : (tokens.map Token.caseless).filter Token.isWord =
      (tokens.filter Token.isWord).map Token.caseless := List.filter_map
  simp [ofTokens, hwords, List.foldl_map]

theorem filter_isSignificant_caseless (tokens : List Token) :
    (tokens.map Token.caseless).filter Token.isSignificant =
      (tokens.filter Token.isSignificant).map Token.caseless :=
  significantTokens_caseless tokens

theorem levelNumber?_caseless (t : Token) : levelNumber? t.caseless = levelNumber? t := by
  have hall : (t.lexeme.toList.map Char.toLower).all Char.isDigit =
      t.lexeme.toList.all Char.isDigit := by
    rw [List.all_map]
    exact congrArg t.lexeme.toList.all (funext isDigit_toLower)
  cases hdigits : t.lexeme.toList.all Char.isDigit with
  | false => simp [levelNumber?, hall, hdigits]
  | true =>
    -- Digits have no case.
    have hsame : t.lexeme.toList.map Char.toLower = t.lexeme.toList := by
      rw [List.all_eq_true] at hdigits
      exact (List.map_congr_left fun c hc => toLower_of_isDigit (hdigits c hc)).trans
        (List.map_id _)
    simp [levelNumber?, hsame]

theorem sentences_caseless (tokens : List Token) :
    sentences (tokens.map Token.caseless) = (sentences tokens).map (·.map Token.caseless) := by
  induction tokens with
  | nil => rfl
  | cons t tokens ih =>
    rw [List.map_cons, sentences, sentences, ih, Token.isTerminator_caseless]
    split
    · rfl
    · cases sentences tokens <;> rfl

theorem sentenceLine_caseless (sentence : List Token) :
    sentenceLine (sentence.map Token.caseless) = lower (sentenceLine sentence) := by
  have hjoin (texts : List String) : lower (String.join texts) =
      String.join (texts.map lower) := by
    rw [← String.toList_inj, toList_lower, String.toList_join, String.toList_join,
      List.map_flatMap, List.flatMap_map]
    simp
  have htext (t : Token) : (if t.caseless.isTrivia then " " else t.caseless.lexeme) =
      lower (if t.isTrivia then " " else t.lexeme) := by
    rw [Token.isTrivia_caseless, apply_ite lower]
    rfl
  rw [sentenceLine, sentenceLine, ← squeezeBlanks_lower, hjoin, List.map_map, List.map_map]
  exact congrArg (fun texts => squeezeBlanks (String.join texts))
    (List.map_congr_left fun t _ => htext t)

namespace DataEntry

theorem ofSentence?_caseless (sentence : List Token) :
    ofSentence? (sentence.map Token.caseless) = (ofSentence? sentence).map caseless := by
  rw [ofSentence?, ofSentence?, filter_isSignificant_caseless]
  match sentence.filter Token.isSignificant with
  | [] => rfl
  | [first] => rfl
  | first :: second :: rest =>
    simp only [List.map_cons, levelNumber?_caseless]
    cases levelNumber? first with
    | none => rfl
    | some level =>
      dsimp only
      rw [Token.isWord_caseless, apply_ite (Option.map caseless)]
      rfl

theorem extent_caseless (e : DataEntry) : e.caseless.extent = e.extent := by
  simp only [extent, caseless, filter_isSignificant_caseless, List.map_map, Function.comp_def,
    Token.range_caseless]

end DataEntry

theorem dataEntries_caseless (tokens : List Token) :
    dataEntries (tokens.map Token.caseless) = (dataEntries tokens).map DataEntry.caseless := by
  have hentry : DataEntry.ofSentence? ∘ (·.map Token.caseless) =
      fun sentence => (DataEntry.ofSentence? sentence).map DataEntry.caseless :=
    funext DataEntry.ofSentence?_caseless
  rw [dataEntries, sentences_caseless, List.filterMap_map, hentry, dataEntries,
    List.map_filterMap]

theorem addDataEntry_caseless (program : Option Nat) (groups : OpenGroups)
    (items : List DataItem) (e : DataEntry) :
    addDataEntry program (groups, items.map DataItem.caseless) e.caseless =
      ((addDataEntry program (groups, items) e).1,
        (addDataEntry program (groups, items) e).2.map DataItem.caseless) := by
  have hchildren (p : Nat) : (items.map DataItem.caseless).modify p
      (fun d => { d with children := d.children ++ [items.length] }) =
        (items.modify p fun d => { d with children := d.children ++ [items.length] }).map
          DataItem.caseless := by
    apply List.ext_getElem?
    intro i
    rw [List.getElem?_modify, List.getElem?_map, List.getElem?_map, List.getElem?_modify]
    cases items[i]? with
    | none => rfl
    | some d =>
      simp only [Option.map_some]
      split <;> rfl
  have hextent := e.extent_caseless
  have hline := sentenceLine_caseless e.sentence
  simp only [addDataEntry, DataEntry.caseless, List.length_map,
    Token.range_caseless] at hextent ⊢
  cases (groups.before e.level).innermost? with
  | none => simp [DataItem.caseless, hextent, hline]
  | some p => simp [DataItem.caseless, hextent, hline, hchildren]

theorem addDataEntries_caseless (program : Option Nat) (items : List DataItem)
    (entries : List DataEntry) :
    addDataEntries program (items.map DataItem.caseless) (entries.map DataEntry.caseless) =
      (addDataEntries program items entries).map DataItem.caseless := by
  have hfold (groups : OpenGroups) (items : List DataItem) :
      (entries.map DataEntry.caseless).foldl (addDataEntry program) (groups,
        items.map DataItem.caseless) =
        ((entries.foldl (addDataEntry program) (groups, items)).1,
          (entries.foldl (addDataEntry program) (groups, items)).2.map DataItem.caseless) := by
    induction entries generalizing groups items with
    | nil => rfl
    | cons e entries ih =>
      rw [List.map_cons, List.foldl_cons, addDataEntry_caseless, ih, List.foldl_cons]
  rw [addDataEntries, hfold, addDataEntries]

theorem isStandaloneVerb_lower (lexeme : String) :
    isStandaloneVerb (lower lexeme) = isStandaloneVerb lexeme := by
  rw [isStandaloneVerb, isStandaloneVerb, upper_lower]

theorem labelKind?_caseless (tokens : List Token) :
    labelKind? (tokens.map Token.caseless) = labelKind? tokens := by
  cases tokens with
  | nil => rfl
  | cons t tokens =>
    have hperiod : (tokens.map Token.caseless).head?.any Token.isTerminator =
        tokens.head?.any Token.isTerminator := by
      cases tokens with
      | nil => rfl
      | cons u tokens => exact u.isTerminator_caseless
    rw [List.map_cons, labelKind?, labelKind?, Token.isTerminator_caseless,
      Token.lexeme_caseless, sameIgnoringCase_lower, hperiod]

theorem labelsAfter_caseless (program previousLine : Option Nat) (tokens : List Token) :
    labelsAfter program previousLine (tokens.map Token.caseless) =
      (labelsAfter program previousLine tokens).map LabelSymbol.caseless := by
  induction tokens generalizing previousLine with
  | nil => rfl
  | cons t tokens ih =>
    simp only [List.map_cons, labelsAfter, Token.isWord_caseless, Token.position_caseless,
      Token.lexeme_caseless, isStandaloneVerb_lower, labelKind?_caseless,
      Token.range_caseless, ih]
    split
    · cases labelKind? tokens <;> rfl
    · rfl

theorem labels_caseless (program : Option Nat) (tokens : List Token) :
    labels program (tokens.map Token.caseless) =
      (labels program tokens).map LabelSymbol.caseless := by
  rw [labels, filter_isSignificant_caseless, labelsAfter_caseless, labels]

theorem declaredName?_caseless (n : Node) :
    declaredName? n.caseless = (declaredName? n).map Token.caseless := by
  have hother : (fun t : Token => !sameIgnoringCase t.lexeme "PROGRAM-ID") ∘ Token.caseless =
      fun t => !sameIgnoringCase t.lexeme "PROGRAM-ID" := by
    funext t
    rw [Function.comp_apply, Token.lexeme_caseless, sameIgnoringCase_lower]
  have hname : (fun t : Token => t.isSignificant && !t.isTerminator) ∘ Token.caseless =
      fun t => t.isSignificant && !t.isTerminator := by
    funext t
    rw [Function.comp_apply, Token.isSignificant_caseless, Token.isTerminator_caseless]
  rw [declaredName?, declaredName?, Node.leaves_caseless, List.dropWhile_map, hother]
  cases n.leaves.dropWhile (!sameIgnoringCase ·.lexeme "PROGRAM-ID") with
  | nil => rfl
  | cons t after =>
    rw [List.map_cons]
    dsimp only
    rw [List.find?_map, hname]

theorem ProgramSymbol.ofUnit_caseless (unit : Node) (parent : Option Nat) :
    ofUnit unit.caseless parent = (ofUnit unit parent).caseless := by
  have hname : (unit.caseless.childNodes.find? (·.kind == .identificationDivision)).bind
      declaredName? =
      ((unit.childNodes.find? (·.kind == .identificationDivision)).bind declaredName?).map
        Token.caseless := by
    rw [Node.childNodes_caseless, List.find?_map]
    change ((unit.childNodes.find? (·.kind == .identificationDivision)).map
      Node.caseless).bind _ = _
    cases unit.childNodes.find? (·.kind == .identificationDivision) with
    | none => rfl
    | some n => exact declaredName?_caseless n
  have hempty : lower "" = "" := rfl
  rw [ofUnit, hname, ofUnit]
  cases (unit.childNodes.find? (·.kind == .identificationDivision)).bind declaredName? <;>
    cases hunit : unit.name <;> simp [caseless, hunit, hempty]

namespace SymbolIndex

theorem occurrences_caseless (index : SymbolIndex) :
    index.caseless.occurrences = index.occurrences := rfl

mutual
theorem visit_caseless (index : SymbolIndex) (program : Option Nat) (e : Element) :
    visit index.caseless program e.caseless = (visit index program e).caseless := by
  cases e with
  | token t => rw [Element.caseless_token, visit, visit]
  | node heading children =>
    have hleaves := Node.leaves_caseless ⟨heading, children⟩
    rw [Element.caseless_node, visit, visit, Heading.kind_caseless]
    cases heading.kind with
    | programUnit =>
      have hunit := ProgramSymbol.ofUnit_caseless ⟨heading, children⟩ program
      dsimp only
      rw [← visitAll_caseless]
      simp only [SymbolIndex.caseless, List.map_append, List.map_singleton,
        List.length_map, ← hunit]
      rfl
    | dataDivision =>
      dsimp only
      rw [← visitAll_caseless]
      simp only [SymbolIndex.caseless, ← addDataEntries_caseless,
        ← dataEntries_caseless, ← hleaves]
      rfl
    | procedureDivision =>
      dsimp only
      rw [← visitAll_caseless]
      simp only [SymbolIndex.caseless, List.map_append, ← labels_caseless, ← hleaves]
      rfl
    | _ => exact visitAll_caseless index program children

theorem visitAll_caseless (index : SymbolIndex) (program : Option Nat) (es : List Element) :
    visitAll index.caseless program (es.map Element.caseless) =
      (visitAll index program es).caseless := by
  cases es with
  | nil => rw [List.map_nil, visitAll, visitAll]
  | cons e es => rw [List.map_cons, visitAll, visit_caseless index program e,
    visitAll_caseless, visitAll]
end

theorem ofTree_caseless (root : Node) : ofTree root.caseless = (ofTree root).caseless := by
  rw [ofTree, ofTree, ← visit_caseless, Node.caseless_toElement, Node.leaves_caseless,
    Occurrences.ofTokens_caseless]
  rfl

end SymbolIndex

/--
Two texts that differ only in the case of letters are analysed alike: trees, diagnostics and
symbols are the same once they are written in lower case, and the occurrences are the same.
-/
theorem analysis_ignores_case (score : Similarity) (text text' : String)
    (h : sameIgnoringCase text text') :
    let parsed := parseStream score (.ofText text)
    let parsed' := parseStream score (.ofText text')
    parsed.root.caseless = parsed'.root.caseless ∧
      parsed.diagnostics.map Diagnostic.caseless =
        parsed'.diagnostics.map Diagnostic.caseless ∧
      (SymbolIndex.ofTree parsed.root).caseless = (SymbolIndex.ofTree parsed'.root).caseless ∧
      (SymbolIndex.ofTree parsed.root).occurrences =
        (SymbolIndex.ofTree parsed'.root).occurrences := by
  intro parsed parsed'
  obtain ⟨htree, hfound⟩ := caseless_ofText score (sameIgnoringCase_iff.1 h)
  have hindex : (SymbolIndex.ofTree parsed.root).caseless =
      (SymbolIndex.ofTree parsed'.root).caseless := by
    rw [← SymbolIndex.ofTree_caseless, htree, SymbolIndex.ofTree_caseless]
  apply And.intro htree
  apply And.intro hfound
  apply And.intro hindex
  rw [← SymbolIndex.occurrences_caseless, hindex, SymbolIndex.occurrences_caseless]

/-- A unit with a misspelt header and a label. Its trailer names it in another case. -/
def mixedText : String :=
  "Id Divisin.Program-Id.A.Procedure Division.\nMain.End Program a."

def capitalText : String :=
  "ID DIVISIN.PROGRAM-ID.A.PROCEDURE DIVISION.\nMAIN.END PROGRAM A."

theorem analysis_ignores_case_capitalText :
    mixedText ≠ capitalText ∧ sameIgnoringCase mixedText capitalText ∧
      (parse mixedText).root.caseless = (parse capitalText).root.caseless ∧
      (SymbolIndex.ofTree (parse mixedText).root).occurrences =
        (SymbolIndex.ofTree (parse capitalText).root).occurrences := by
  have hsame : sameIgnoringCase mixedText capitalText := by decide +kernel
  obtain ⟨htree, -, -, hoccurrences⟩ :=
    analysis_ignores_case .jaroWinkler mixedText capitalText hsame
  exact ⟨by decide +kernel, hsame, htree, hoccurrences⟩

end CobolCompanion
