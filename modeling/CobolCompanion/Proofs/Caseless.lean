import CobolCompanion.Proofs.Significance

namespace CobolCompanion

open Parse

theorem toLower_eq_iff {c d : Char}
    (hd : d.toNat < 65 ∨ 90 < d.toNat ∧ d.toNat < 97 ∨ 122 < d.toNat) :
    c.toLower = d ↔ c = d := by
  rw [← Char.toNat_inj, ← Char.toNat_inj, toNat_toLower]
  split <;> omega

theorem toLower_beq {c d : Char}
    (hd : d.toNat < 65 ∨ 90 < d.toNat ∧ d.toNat < 97 ∨ 122 < d.toNat) :
    (c.toLower == d) = (c == d) := by
  rw [Bool.eq_iff_iff, beq_iff_eq, beq_iff_eq, toLower_eq_iff hd]

theorem isAlphanum_toLower (c : Char) : c.toLower.isAlphanum = c.isAlphanum := by
  have halphanum (c : Char) : c.isAlphanum ↔ (65 ≤ c.toNat ∧ c.toNat ≤ 90 ∨
      97 ≤ c.toNat ∧ c.toNat ≤ 122) ∨ 48 ≤ c.toNat ∧ c.toNat ≤ 57 := by
    delta Char.isAlphanum Char.isAlpha Char.isUpper Char.isLower Char.isDigit
    simp [UInt32.le_iff_toNat_le]
  rw [Bool.eq_iff_iff, halphanum, halphanum, toNat_toLower]
  split <;> omega

theorem isDigit_toLower (c : Char) : c.toLower.isDigit = c.isDigit := by
  have hdigit (c : Char) : c.isDigit ↔ 48 ≤ c.toNat ∧ c.toNat ≤ 57 := Char.isDigit_iff_toNat
  rw [Bool.eq_iff_iff, hdigit, hdigit, toNat_toLower]
  split <;> omega

theorem toLower_of_isDigit {c : Char} (h : c.isDigit) : c.toLower = c := by
  have hdigit : 48 ≤ c.toNat ∧ c.toNat ≤ 57 := Char.isDigit_iff_toNat.1 h
  rw [← Char.toNat_inj, toNat_toLower, if_neg (by omega)]

theorem isQuote_toLower (c : Char) : isQuote c.toLower = isQuote c := by
  rw [isQuote, isQuote, toLower_beq (by decide), toLower_beq (by decide)]

theorem isSpacing_toLower (c : Char) : isSpacing c.toLower = isSpacing c := by
  simp only [isSpacing, toLower_beq (d := ' ') (by decide), toLower_beq (d := '\t') (by decide),
    toLower_beq (d := '\x0C') (by decide)]

theorem isLineBreak_toLower (c : Char) : isLineBreak c.toLower = isLineBreak c := by
  rw [isLineBreak, isLineBreak, toLower_beq (by decide), toLower_beq (by decide)]

theorem isWordStart_toLower (c : Char) : isWordStart c.toLower = isWordStart c :=
  isAlphanum_toLower c

theorem isWordPart_toLower (c : Char) : isWordPart c.toLower = isWordPart c := by
  rw [isWordPart, isWordPart, isAlphanum_toLower, toLower_beq (by decide),
    toLower_beq (by decide)]

theorem utf8Size_toLower (c : Char) : c.toLower.utf8Size = c.utf8Size := by
  have hsize (c : Char) (h : c.toNat < 128) : c.utf8Size = 1 := by
    rw [Char.utf8Size_eq_one_iff, UInt32.le_iff_toNat_le]
    exact Nat.le_of_lt_succ h
  have hlower := toNat_toLower c
  split at hlower
  · rw [hsize c (by omega), hsize c.toLower (by omega)]
  · rw [Char.toNat_inj.1 hlower]

def lower (text : String) : String :=
  String.ofList (text.toList.map Char.toLower)

@[simp] theorem toList_lower (text : String) :
    (lower text).toList = text.toList.map Char.toLower :=
  String.toList_ofList

theorem lower_ofList (text : List Char) :
    lower (String.ofList text) = String.ofList (text.map Char.toLower) := by
  rw [lower, String.toList_ofList]

@[simp] theorem lower_append (s t : String) : lower (s ++ t) = lower s ++ lower t := by
  rw [← String.toList_inj]
  simp

@[simp] theorem length_lower (text : String) : (lower text).length = text.length := by
  rw [← String.length_toList, toList_lower, List.length_map, String.length_toList]

theorem lower_lower (text : String) : lower (lower text) = lower text := by
  have hchar (c : Char) : c.toLower.toLower = c.toLower := by
    rw [← Char.toNat_inj, toNat_toLower c.toLower, toNat_toLower c]
    grind
  rw [← String.toList_inj, toList_lower, toList_lower, List.map_map]
  exact List.map_congr_left fun c _ => hchar c

theorem sameIgnoringCase_iff {s t : String} : sameIgnoringCase s t ↔ lower s = lower t := by
  rw [← String.toList_inj, toList_lower, toList_lower, sameIgnoringCase, beq_iff_eq]

theorem sameIgnoringCase_lower (s t : String) :
    sameIgnoringCase (lower s) t = sameIgnoringCase s t := by
  rw [Bool.eq_iff_iff, sameIgnoringCase_iff, sameIgnoringCase_iff, lower_lower]

@[simp] theorem upper_lower (text : String) : upper (lower text) = upper text :=
  upper_eq_of_sameIgnoringCase (sameIgnoringCase_iff.2 (lower_lower text))

theorem isEmpty_lower (text : String) : (lower text).isEmpty = text.isEmpty := by
  rw [Bool.eq_iff_iff, String.isEmpty_iff, String.isEmpty_iff, ← String.toList_eq_nil_iff,
    ← String.toList_eq_nil_iff, toList_lower, List.map_eq_nil_iff]

theorem Keyword.compare_lower (score : Similarity) (actual expected : String) :
    compare score (lower actual) expected = compare score actual expected := by
  rw [compare, compare, isEmpty_lower, upper_lower]

namespace Token

def caseless (t : Token) : Token :=
  { t with lexeme := lower t.lexeme }

@[simp] theorem kind_caseless (t : Token) : t.caseless.kind = t.kind := rfl

@[simp] theorem lexeme_caseless (t : Token) : t.caseless.lexeme = lower t.lexeme := rfl

@[simp] theorem position_caseless (t : Token) : t.caseless.position = t.position := rfl

@[simp] theorem isTrivia_caseless (t : Token) : t.caseless.isTrivia = t.isTrivia := rfl

@[simp] theorem isSignificant_caseless (t : Token) :
    t.caseless.isSignificant = t.isSignificant := rfl

@[simp] theorem isEndOfInput_caseless (t : Token) :
    t.caseless.isEndOfInput = t.isEndOfInput := rfl

@[simp] theorem isWord_caseless (t : Token) : t.caseless.isWord = t.isWord := rfl

@[simp] theorem isTerminator_caseless (t : Token) :
    t.caseless.isTerminator = t.isTerminator := by
  have hperiod : lower t.lexeme = "." ↔ t.lexeme = "." := by
    rw [← String.toList_inj, ← String.toList_inj, toList_lower]
    change t.lexeme.toList.map Char.toLower = ['.'] ↔ t.lexeme.toList = ['.']
    simp [List.map_eq_singleton_iff, toLower_eq_iff]
  rw [isTerminator, isTerminator, lexeme_caseless, kind_caseless, Bool.eq_iff_iff,
    Bool.and_eq_true, Bool.and_eq_true, beq_iff_eq, beq_iff_eq, beq_iff_eq, hperiod]

@[simp] theorem range_caseless (t : Token) : t.caseless.range = t.range := by
  simp [range, width, caseless]

end Token

@[simp] theorem Keyword.accepts_caseless (score : Similarity) (t : Token) (expected : String) :
    accepts score t.caseless expected = accepts score t expected := by
  rw [accepts, Token.lexeme_caseless, compare_lower, accepts]

theorem Place.next_toLower (p : Place) (c : Char) : p.next c.toLower = p.next c := by
  rw [next, next, utf8Size_toLower]
  simp only [toLower_eq_iff (show _ from .inl (by decide : '\n'.toNat < 65))]

theorem Place.after_map_toLower (p : Place) (text : List Char) :
    p.after (text.map Char.toLower) = p.after text := by
  induction text generalizing p with
  | nil => rfl
  | cons c text ih => rw [List.map_cons, after_cons, after_cons, next_toLower, ih]

namespace Cut

def caseless (cut : Cut) : Cut :=
  ⟨cut.kind, cut.lexeme.map Char.toLower, cut.rest.map Char.toLower⟩

theorem run_toLower {test : Char → Bool} (htest : ∀ c, test c.toLower = test c)
    (kind : TokenKind) (c : Char) (text : List Char) :
    run kind test c.toLower (text.map Char.toLower) = (run kind test c text).caseless := by
  have htest' : test ∘ Char.toLower = test := funext htest
  simp only [run, caseless, List.map_cons, List.takeWhile_map, List.dropWhile_map, htest']

theorem literal_toLower {quote : Char} (hquote : isQuote quote) (text : List Char) :
    literal quote.toLower (text.map Char.toLower) = (literal quote text).caseless := by
  have hmark : quote.toNat < 65 := by
    rcases (by simpa [isQuote] using hquote : quote = '\'' ∨ quote = '"')
      with rfl | rfl <;> decide
  have hinside : isInsideLiteral quote ∘ Char.toLower = isInsideLiteral quote := by
    funext c
    simp only [Function.comp, isInsideLiteral, bne, toLower_beq (.inl hmark),
      isLineBreak_toLower]
  rw [(toLower_eq_iff (.inl hmark)).2 rfl]
  simp only [literal, List.dropWhile_map, List.takeWhile_map, hinside]
  cases text.dropWhile (isInsideLiteral quote) with
  | nil => simp [caseless, (toLower_eq_iff (.inl hmark)).2 rfl]
  | cons c rest =>
    simp only [List.map_cons, toLower_eq_iff (.inl hmark)]
    split
    · simp [caseless, (toLower_eq_iff (.inl hmark)).2 rfl]
    · simp [caseless, (toLower_eq_iff (.inl hmark)).2 rfl]

theorem lineBreak_eq (c : Char) (text : List Char) :
    lineBreak c text =
      if c = '\r' ∧ text.head? = some '\n' then ⟨.newLine, ['\r', '\n'], text.tail⟩
      else ⟨.newLine, [c], text⟩ := by
  unfold lineBreak
  split
  · simp
  · next hfeed =>
    rw [if_neg]
    rintro ⟨-, hhead⟩
    obtain ⟨rest, rfl⟩ := List.head?_eq_some_iff.1 hhead
    exact hfeed rest rfl

theorem head?_map_toLower {d : Char} (hd : d.toNat < 65) (text : List Char) :
    (text.map Char.toLower).head? = some d ↔ text.head? = some d := by
  cases text with
  | nil => simp
  | cons c text => simp [toLower_eq_iff (.inl hd)]

theorem lineBreak_toLower (c : Char) (text : List Char) :
    lineBreak c.toLower (text.map Char.toLower) = (lineBreak c text).caseless := by
  simp only [lineBreak_eq, toLower_eq_iff (d := '\r') (by decide),
    head?_map_toLower (d := '\n') (by decide)]
  split
  · simp [caseless]
  · rfl

theorem first_toLower (c : Char) (text : List Char) :
    first c.toLower (text.map Char.toLower) = (first c text).caseless := by
  simp only [first, isSpacing_toLower, isLineBreak_toLower, isWordStart_toLower,
    isQuote_toLower, toLower_eq_iff (d := '*') (by decide),
    head?_map_toLower (d := '>') (by decide)]
  split
  · exact run_toLower isSpacing_toLower .whitespace c text
  split
  · exact lineBreak_toLower c text
  split
  · exact run_toLower isWordPart_toLower .word c text
  split
  · next hquote => exact literal_toLower hquote text
  split
  · exact run_toLower (fun c => congrArg not (isLineBreak_toLower c)) .whitespace c text
  · rfl

end Cut

theorem scanFrom_map_toLower (place : Place) (text : List Char) :
    scanFrom place (text.map Char.toLower) = (scanFrom place text).map Token.caseless := by
  fun_induction scanFrom place text with
  | case1 => rw [List.map_nil, scanFrom, List.map_nil]
  | case2 place c text cut after ih =>
    have hlexeme : place.after cut.caseless.lexeme = after :=
      Place.after_map_toLower place cut.lexeme
    rw [List.map_cons, scanFrom, Cut.first_toLower, List.map_cons, ← ih]
    rw [show (Cut.first c text).caseless = cut.caseless from rfl, hlexeme,
      Token.caseless, lower_ofList]
    rfl

theorem scan_lower (text : String) : scan (lower text) = (scan text).map Token.caseless := by
  rw [scan, toList_lower, scanFrom_map_toLower, scan]

theorem programNameOf_caseless (t : Token) :
    programNameOf t.caseless = lower (programNameOf t) := by
  have hquote : isQuote ∘ Char.toLower = isQuote := funext isQuote_toLower
  simp only [programNameOf, Token.lexeme_caseless, toList_lower, lower_ofList,
    ← List.map_reverse, List.dropWhile_map, hquote]

namespace Parse

variable {score : Similarity}

theorem Ahead.test_caseless (t : Token) (expected : Ahead) :
    expected.test score t.caseless = expected.test score t := by
  cases expected with
  | keyword word => exact Keyword.accepts_caseless score t word
  | exactly word => exact sameIgnoringCase_lower t.lexeme word
  | anyWord => rfl

theorem agrees_caseless (pattern : List Ahead) (tokens : List Token) :
    agrees score pattern (tokens.map Token.caseless) = agrees score pattern tokens := by
  induction pattern generalizing tokens with
  | nil => cases tokens <;> rfl
  | cons expected pattern ih =>
    cases tokens with
    | nil => rfl
    | cons t tokens => rw [List.map_cons, agrees, agrees, Ahead.test_caseless, ih]

theorem significantTokens_caseless (tokens : List Token) :
    significantTokens (tokens.map Token.caseless) =
      (significantTokens tokens).map Token.caseless := by
  rw [significantTokens, significantTokens, List.filter_map]
  rfl

theorem looksLike_caseless (pattern : List Ahead) (unread : List Token) :
    looksLike score pattern (unread.map Token.caseless) = looksLike score pattern unread := by
  rw [looksLike_eq_agrees, significantTokens_caseless, agrees_caseless, ← looksLike_eq_agrees]

@[simp] theorem atDivisionHeader_caseless (d : Division) (unread : List Token) :
    atDivisionHeader score d (unread.map Token.caseless) = atDivisionHeader score d unread := by
  cases d <;> exact looksLike_caseless _ unread

@[simp] theorem atIdentificationHeader_caseless (unread : List Token) :
    atIdentificationHeader score (unread.map Token.caseless) =
      atIdentificationHeader score unread := by
  simp only [atIdentificationHeader, atPeriodHeader, looksLike_caseless]

@[simp] theorem atAnyHeader_caseless (start : Bool) (unread : List Token) :
    atAnyHeader score start (unread.map Token.caseless) = atAnyHeader score start unread := by
  simp only [atAnyHeader, atDivisionHeader_caseless, atIdentificationHeader_caseless,
    looksLike_caseless]

@[simp] theorem atEndProgram_caseless (unread : List Token) :
    atEndProgram score (unread.map Token.caseless) = atEndProgram score unread :=
  looksLike_caseless _ unread

@[simp] theorem statementStartAfter_caseless (start : Bool) (t : Token) :
    statementStartAfter start t.caseless = statementStartAfter start t := by
  simp [statementStartAfter]

@[simp] theorem contentLength_caseless (start : Bool) (unread : List Token) :
    contentLength score start (unread.map Token.caseless) =
      contentLength score start unread := by
  induction unread generalizing start with
  | nil => rfl
  | cons t unread ih =>
    have hheader := @atAnyHeader_caseless score start (t :: unread)
    have htrailer := @atEndProgram_caseless score (t :: unread)
    rw [List.map_cons] at hheader htrailer ⊢
    rw [contentLength, contentLength, hheader, htrailer, ih]
    simp

@[simp] theorem triviaLength_caseless (unread : List Token) :
    triviaLength (unread.map Token.caseless) = triviaLength unread := by
  rw [triviaLength, triviaLength, List.takeWhile_map, List.length_map]
  rfl

@[simp] theorem statementLength_caseless (unread : List Token) :
    statementLength (unread.map Token.caseless) = statementLength unread := by
  induction unread with
  | nil => rfl
  | cons t unread ih =>
    rw [List.map_cons, statementLength, statementLength, ih]
    simp

end Parse

end CobolCompanion
