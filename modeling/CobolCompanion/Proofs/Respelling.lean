import CobolCompanion.Proofs.HeaderLookahead
import CobolCompanion.Proofs.Surroundings

namespace CobolCompanion

open Parse

namespace Parse

/-- What the header of a division looks like, at the start of a statement or elsewhere. -/
def headerPatterns (start : Bool) : List (List Ahead) :=
  Division.all.map Division.header ++
    identificationOpeners.map Production.identificationHeaderWords ++
    if start then [[.anyWord, .exactly "DIVISION", .exactly "."]] else []

def trailerPattern : List Ahead :=
  [.keyword "END", .keyword "PROGRAM"]

/-- Where the body of a division ends: a header or a trailer is ahead. -/
def ShowsBoundary (score : Similarity) (start : Bool) (unread : List Token) : Prop :=
  ∃ pattern ∈ trailerPattern :: headerPatterns start, looksLike score pattern unread

section
variable {score : Similarity} {start : Bool} {unread ts us : List Token} {pattern : List Ahead}

theorem atIdentificationHeader_iff : atIdentificationHeader score unread ↔
    ∃ opener ∈ identificationOpeners,
      looksLike score (Production.identificationHeaderWords opener) unread :=
  List.any_eq_true

theorem atAnyHeader_iff : atAnyHeader score start unread ↔
    ∃ pattern ∈ headerPatterns start, looksLike score pattern unread := by
  have hother : (start &&
      looksLike score [.anyWord, .exactly "DIVISION", .exactly "."] unread) = true ↔
      ∃ pattern ∈ (if start then [[.anyWord, .exactly "DIVISION", .exactly "."]] else [] :
        List (List Ahead)), looksLike score pattern unread := by
    cases start <;> simp
  simp only [atAnyHeader, headerPatterns, Bool.or_eq_true, hother, atIdentificationHeader_iff,
    List.any_eq_true, atDivisionHeader_eq, List.mem_append, List.mem_map,
    or_and_right, exists_or, exists_exists_and_eq_and]

theorem showsBoundary_iff : ShowsBoundary score start unread ↔
    atAnyHeader score start unread ∨ atEndProgram score unread := by
  rw [atAnyHeader_iff, ShowsBoundary, List.exists_mem_cons_iff, or_comm]
  rfl

theorem contentLength_of_showsBoundary (h : ShowsBoundary score start unread) :
    contentLength score start unread = 0 := by
  cases unread with
  | nil => rfl
  | cons t ts =>
    rw [contentLength, if_pos]
    rw [showsBoundary_iff] at h
    simpa only [Bool.or_eq_true, or_assoc] using Or.inr h

theorem contentLength_of_not_showsBoundary {t : Token} (ht : t.isEndOfInput = false)
    (h : ¬ShowsBoundary score start (t :: ts)) :
    contentLength score start (t :: ts) =
      contentLength score (statementStartAfter start t) ts + 1 := by
  rw [contentLength, if_neg]
  rw [showsBoundary_iff, not_or] at h
  simp [ht, h]

theorem length_le_of_agrees (h : agrees score pattern ts) : pattern.length ≤ ts.length := by
  fun_induction agrees score pattern ts with
  | case1 => exact Nat.zero_le _
  | case2 => cases h
  | case3 expected pattern t ts ih =>
    rw [Bool.and_eq_true] at h
    exact Nat.succ_le_succ (ih h.2)

theorem looksLike_append_right (h : looksLike score pattern ts) (us : List Token) :
    looksLike score pattern (ts ++ us) := by
  rw [looksLike_eq_agrees] at h ⊢
  rwa [significantTokens_append, agrees_append (length_le_of_agrees h)]

theorem ShowsBoundary.append_right (h : ShowsBoundary score start ts) (us : List Token) :
    ShowsBoundary score start (ts ++ us) := by
  obtain ⟨pattern, hpattern, hahead⟩ := h
  exact ⟨pattern, hpattern, looksLike_append_right hahead us⟩

theorem looksLike_of_length_le (hlength : pattern.length ≤ (significantTokens ts).length)
    (h : looksLike score pattern (ts ++ us)) : looksLike score pattern ts := by
  rw [looksLike_eq_agrees] at h ⊢
  rwa [significantTokens_append, agrees_append hlength] at h

theorem agrees_of_foreign {x : Token}
    (hforeign : ∀ expected ∈ pattern, expected.test score x = false)
    (h : agrees score pattern (ts ++ x :: us)) : agrees score pattern ts := by
  induction pattern generalizing ts with
  | nil => rfl
  | cons expected pattern ih =>
    rw [List.forall_mem_cons] at hforeign
    cases ts with
    | nil => simp [agrees, hforeign.1] at h
    | cons t ts =>
      rw [List.cons_append, agrees, Bool.and_eq_true] at h
      rw [agrees, Bool.and_eq_true]
      exact ⟨h.1, ih hforeign.2 h.2⟩

theorem looksLike_of_foreign {x : Token} (hx : x.isTrivia = false)
    (hforeign : ∀ expected ∈ pattern.tail, expected.test score x = false)
    (hts : significantTokens ts ≠ []) (h : looksLike score pattern (ts ++ x :: us)) :
    looksLike score pattern ts := by
  rw [looksLike_eq_agrees] at h ⊢
  rw [significantTokens_append, significantTokens_cons_of_significant hx] at h
  obtain ⟨t, rest, hrest⟩ := List.exists_cons_of_ne_nil hts
  rw [hrest] at h ⊢
  cases pattern with
  | nil => rfl
  | cons expected pattern =>
    rw [List.cons_append, agrees, Bool.and_eq_true] at h
    rw [agrees, Bool.and_eq_true]
    exact ⟨h.1, agrees_of_foreign hforeign h.2⟩

end

theorem Decides.readsSome {α : Type} {p : Production α} {verdict : Token → Verdict}
    {value : Token → α} (h : Decides p verdict value) : p.ReadsSome := by
  intro s a s' hmore hrun
  rw [h.run] at hrun
  cases hverdict : verdict s.peek with
  | refuse c =>
    rw [hverdict] at hrun
    cases hrun
  | take keyword =>
    rw [hverdict] at hrun
    cases hrun
    have hpos := List.length_pos_iff.2 hmore
    rw [State.unread_takeNext, List.length_drop]
    omega

/-- A token that is to be spelt as the opener of a division, and what stands behind it. -/
structure Respelling where
  old : Token
  opener : String
  rest : List Token

namespace Respelling

def new (e : Respelling) : Token :=
  { e.old with kind := .word, lexeme := e.opener }

/-- The words that the grammar looks for only where no division begins. -/
def innerWords : List String :=
  ["DIVISION", ".", "PROGRAM", "IS", "RECURSIVE", "INITIAL"]

/-- With a new opener the token begins the header of a division. -/
structure Fits (e : Respelling) (score : Similarity) : Prop where
  apart : score.TellsApart
  opener : e.opener ∈ Division.all.map Division.opener ++ identificationOpeners
  significant : e.old.isTrivia = false
  present : e.old.isEndOfInput = false
  behind : looksLike score [.keyword "DIVISION", .keyword "."] e.rest

variable {e : Respelling} {score : Similarity} {start : Bool} {before gap : List Token}

namespace Fits

theorem mem_reservedWords (h : e.Fits score) : e.opener ∈ reservedWords := by
  have hall : ∀ word ∈ Division.all.map Division.opener ++ identificationOpeners,
      word ∈ reservedWords := by decide
  exact hall _ h.opener

theorem accepts_new (h : e.Fits score) : Keyword.accepts score e.new e.opener :=
  Keyword.accepts_of_sameIgnoringCase (beq_self_eq_true _) h.mem_reservedWords

theorem not_accepts_new (h : e.Fits score) {keyword : String}
    (hkeyword : keyword ∈ reservedWords) (hne : e.opener ≠ keyword) :
    Keyword.accepts score e.new keyword = false :=
  Keyword.not_accepts_of_spells h.apart (Keyword.upper_of_mem_reservedWords h.mem_reservedWords)
    h.mem_reservedWords hkeyword hne

theorem not_accepts_inner (h : e.Fits score) {keyword : String}
    (hkeyword : keyword ∈ innerWords) :
    Keyword.accepts score e.new keyword = false := by
  have hall : ∀ word ∈ innerWords, word ∈ reservedWords ∧
      ∀ opener ∈ Division.all.map Division.opener ++ identificationOpeners,
      opener ≠ word := by decide
  obtain ⟨hmem, hne⟩ := hall keyword hkeyword
  exact h.not_accepts_new hmem (hne _ h.opener)

theorem foreign (h : e.Fits score) {pattern : List Ahead}
    (hpattern : pattern ∈ trailerPattern :: headerPatterns start) :
    ∀ expected ∈ pattern.tail, expected.test score e.new = false := by
  intro expected hexpected
  have hinner : ∃ keyword ∈ innerWords, keyword ∈ reservedWords ∧
      (expected = .keyword keyword ∨ expected = .exactly keyword) := by
    revert expected pattern
    cases start <;>
      simp [trailerPattern, headerPatterns, Division.all, Division.header,
        identificationOpeners, Production.identificationHeaderWords, innerWords, reservedWords]
  obtain ⟨keyword, hkeyword, hreserved, rfl | rfl⟩ := hinner
  · exact h.not_accepts_inner hkeyword
  · apply Bool.eq_false_iff.2
    intro hsame
    have haccepts : Keyword.accepts score e.new keyword :=
      Keyword.accepts_of_sameIgnoringCase hsame hreserved
    rw [h.not_accepts_inner hkeyword] at haccepts
    cases haccepts

theorem looksLike_before (h : e.Fits score) {pattern : List Ahead}
    (hpattern : pattern ∈ trailerPattern :: headerPatterns start)
    (hbefore : significantTokens before ≠ [])
    (hahead : looksLike score pattern (before ++ e.new :: e.rest)) :
    looksLike score pattern before :=
  looksLike_of_foreign rfl (h.foreign hpattern) hbefore hahead

theorem significantTokens_new (hgap : significantTokens gap = []) :
    significantTokens (gap ++ e.new :: e.rest) = e.new :: significantTokens e.rest := by
  rw [significantTokens_append, hgap, List.nil_append,
    significantTokens_cons_of_significant rfl]

theorem looksLike_new (h : e.Fits score) (hgap : significantTokens gap = []) :
    looksLike score [.keyword e.opener, .keyword "DIVISION", .keyword "."]
      (gap ++ e.new :: e.rest) ∧
      looksLike score [.keyword e.opener, .keyword "DIVISION"] (gap ++ e.new :: e.rest) := by
  have hbehind := h.behind
  have hopener : (Ahead.keyword e.opener).test score e.new = true := h.accepts_new
  simp only [looksLike_eq_agrees, significantTokens_new hgap] at hbehind ⊢
  cases hrest : significantTokens e.rest with
  | nil => simp [hrest, agrees] at hbehind
  | cons t rest =>
    rw [hrest] at hbehind
    constructor
    · rw [agrees, hopener, hbehind]
      rfl
    · simp only [agrees, Bool.and_eq_true] at hbehind ⊢
      exact ⟨hopener, hbehind.1, trivial⟩

theorem atDivisionHeader_new (h : e.Fits score) (hgap : significantTokens gap = [])
    {d : Division} (hd : e.opener = d.opener) :
    atDivisionHeader score d (gap ++ e.new :: e.rest) := by
  have hnew := h.looksLike_new hgap
  rw [hd] at hnew
  cases d with
  | environment => exact hnew.1
  | data => exact hnew.1
  | procedure => exact hnew.2

theorem atIdentificationHeader_new (h : e.Fits score) (hgap : significantTokens gap = [])
    (hopener : e.opener ∈ identificationOpeners) :
    atIdentificationHeader score (gap ++ e.new :: e.rest) :=
  atIdentificationHeader_iff.2 ⟨e.opener, hopener, (h.looksLike_new hgap).1⟩

theorem atAnyHeader_new (h : e.Fits score) (hgap : significantTokens gap = []) (start : Bool) :
    atAnyHeader score start (gap ++ e.new :: e.rest) := by
  simp only [atAnyHeader, Bool.or_eq_true, List.any_eq_true]
  left
  rcases List.mem_append.1 h.opener with hdivision | hunit
  · obtain ⟨d, hd, hopener⟩ := List.mem_map.1 hdivision
    exact .inl ⟨d, hd, h.atDivisionHeader_new hgap hopener.symm⟩
  · exact .inr (h.atIdentificationHeader_new hgap hunit)

end Fits

/--
What stands before the token is a boundary between divisions because of how the token is spelt.
-/
structure Hinges (e : Respelling) (score : Similarity) (start : Bool)
    (before : List Token) : Prop where
  preceded : significantTokens before ≠ []
  boundary : ShowsBoundary score start (before ++ e.old :: e.rest)
  incomplete : ¬ShowsBoundary score start before

def Awaits (e : Respelling) (unread : List Token) : Prop :=
  e.old :: e.rest <:+ unread

/-- The token has not been read, and no boundary before it depends on it. -/
def Clear (e : Respelling) (score : Similarity) (start : Bool) (unread : List Token) : Prop :=
  ∃ before, unread = before ++ e.old :: e.rest ∧ ¬e.Hinges score start before

theorem Clear.awaits {unread : List Token} (h : e.Clear score start unread) :
    e.Awaits unread := by
  obtain ⟨before, rfl, -⟩ := h
  exact List.suffix_append _ _

theorem not_awaits_of_length_le {unread : List Token} (h : unread.length ≤ e.rest.length) :
    ¬e.Awaits unread := by
  intro hawaits
  have hlength := hawaits.length_le
  rw [List.length_cons] at hlength
  omega

theorem significantTokens_eq_nil_iff {ts : List Token} :
    significantTokens ts = [] ↔ ∀ t ∈ ts, t.isTrivia := by
  simp [significantTokens, Token.isSignificant]

theorem Fits.length_lt_contentLength (h : e.Fits score) (hgap : significantTokens gap = [])
    (hnone : ¬ShowsBoundary score start (gap ++ e.old :: e.rest)) :
    gap.length < contentLength score start (gap ++ e.old :: e.rest) := by
  induction gap with
  | nil =>
    rw [List.nil_append, contentLength_of_not_showsBoundary h.present hnone]
    exact Nat.succ_pos _
  | cons t gap ih =>
    obtain ⟨ht, hgap'⟩ := List.forall_mem_cons.1 (significantTokens_eq_nil_iff.1 hgap)
    rw [← significantTokens_eq_nil_iff] at hgap'
    have hstart : statementStartAfter start t = start := by simp [statementStartAfter, ht]
    have hnone' : ¬ShowsBoundary score start (gap ++ e.old :: e.rest) := by
      unfold ShowsBoundary at hnone ⊢
      simpa only [looksLike_eq_agrees, significantTokens_append, hgap, hgap'] using hnone
    rw [List.cons_append] at hnone ⊢
    rw [contentLength_of_not_showsBoundary (Token.isEndOfInput_of_isTrivia ht) hnone, hstart]
    exact Nat.succ_lt_succ (ih hgap' hnone')

theorem Fits.showsBoundary_of_new (h : e.Fits score) (hbefore : significantTokens before ≠ [])
    (hboundary : ShowsBoundary score start (before ++ e.new :: e.rest)) :
    ShowsBoundary score start before := by
  obtain ⟨pattern, hpattern, hahead⟩ := hboundary
  exact ⟨pattern, hpattern, h.looksLike_before hpattern hbefore hahead⟩

theorem Fits.contentLength_eq_of_gap (h : e.Fits score) (hgap : significantTokens gap = [])
    (hawaits : e.Awaits
      ((gap ++ e.old :: e.rest).drop (contentLength score start (gap ++ e.old :: e.rest)))) :
    contentLength score start (gap ++ e.new :: e.rest) =
      contentLength score start (gap ++ e.old :: e.rest) := by
  rw [contentLength_of_showsBoundary
    (showsBoundary_iff.2 (.inl (h.atAnyHeader_new hgap start)))]
  by_cases hboundary : ShowsBoundary score start (gap ++ e.old :: e.rest)
  · exact (contentLength_of_showsBoundary hboundary).symm
  · have hpast := h.length_lt_contentLength hgap hboundary
    refine absurd hawaits (not_awaits_of_length_le ?_)
    rw [List.length_drop, List.length_append, List.length_cons]
    omega

/--
The body of a division that ends before the token ends at the same place when it is spelt anew.
-/
theorem Fits.contentLength_eq (h : e.Fits score)
    (hclear : e.Clear score
      (((before ++ e.old :: e.rest).take
        (contentLength score start (before ++ e.old :: e.rest))).foldl
        statementStartAfter start)
      ((before ++ e.old :: e.rest).drop
        (contentLength score start (before ++ e.old :: e.rest)))) :
    contentLength score start (before ++ e.new :: e.rest) =
      contentLength score start (before ++ e.old :: e.rest) := by
  induction before generalizing start with
  | nil => exact h.contentLength_eq_of_gap rfl hclear.awaits
  | cons t before ih =>
    by_cases hgap : significantTokens (t :: before) = []
    · exact h.contentLength_eq_of_gap hgap hclear.awaits
    by_cases hboundary : ShowsBoundary score start (t :: before ++ e.old :: e.rest)
    · -- The body is empty, and what ends it is complete before the token.
      rw [contentLength_of_showsBoundary hboundary] at hclear ⊢
      obtain ⟨before', hsplit, hhinges⟩ := hclear
      obtain rfl := List.append_cancel_right hsplit
      have hwithin : ShowsBoundary score start (t :: before) := by
        by_contra hincomplete
        exact hhinges ⟨hgap, hboundary, hincomplete⟩
      exact contentLength_of_showsBoundary (hwithin.append_right _)
    · have hnew : ¬ShowsBoundary score start (t :: before ++ e.new :: e.rest) := by
        intro hnew
        exact hboundary ((h.showsBoundary_of_new hgap hnew).append_right _)
      cases hend : t.isEndOfInput with
      | true => simp [contentLength, hend]
      | false =>
        simp only [List.cons_append] at hclear hboundary hnew ⊢
        rw [contentLength_of_not_showsBoundary hend hboundary] at hclear ⊢
        rw [contentLength_of_not_showsBoundary hend hnew]
        exact congrArg (· + 1) (ih hclear)

/--
Two parsers before the token, of which the second has it spelt anew. What they have read is the
same.
-/
structure Twins (e : Respelling) (before : List Token) (s t : State) : Prop where
  left : s.unread = before ++ e.old :: e.rest
  right : t.unread = before ++ e.new :: e.rest
  context : t.context = s.context
  openNames : t.openNames = s.openNames
  statementStart : t.statementStart = s.statementStart

namespace Twins

variable {s t : State} {n : Nat}

theorem report (h : e.Twins before s t) (ds ds' : List Diagnostic) :
    e.Twins before (s.report ds) (t.report ds') :=
  { h with }

theorem openNode (h : e.Twins before s t) (kind : NodeKind) :
    e.Twins before (s.openNode kind) (t.openNode kind) :=
  { h with context := congrArg (Context.push · (.ofKind kind)) h.context }

theorem closeNode (h : e.Twins before s t) : e.Twins before s.closeNode t.closeNode :=
  { h with context := congrArg Context.close h.context }

theorem named (h : e.Twins before s t) (name : Token) :
    e.Twins before (s.named name) (t.named name) :=
  { h with
    context :=
      congrArg (Context.modify · ({ · with name := some (programNameOf name) })) h.context
    openNames := congrArg (upper (programNameOf name) :: ·) h.openNames }

theorem leaveUnit (h : e.Twins before s t) : e.Twins before s.leaveUnit t.leaveUnit :=
  { h with
    context := congrArg Context.close h.context
    openNames := congrArg List.tail h.openNames }

theorem checkTrailer (h : e.Twins before s t) (name : Token) :
    e.Twins before (Production.checkTrailer name s) (Production.checkTrailer name t) := by
  unfold Production.checkTrailer
  rw [h.openNames]
  split
  · exact h
  · split
    · exact h
    · exact h.report _ _

theorem take_eq (h : e.Twins before s t) (hn : n ≤ before.length) :
    t.unread.take n = s.unread.take n := by
  rw [h.left, h.right, List.take_append_of_le_length hn, List.take_append_of_le_length hn]

/-- The same tokens are read on both sides, whatever becomes of them. -/
theorem read (h : e.Twins before s t) (hn : n ≤ before.length) :
    e.Twins (before.drop n) (s.read n) (t.read n) where
  left := by rw [State.unread_read, h.left, List.drop_append_of_le_length hn]
  right := by rw [State.unread_read, h.right, List.drop_append_of_le_length hn]
  context := h.context
  openNames := h.openNames
  statementStart := by
    change (t.unread.take n).foldl statementStartAfter t.statementStart =
      (s.unread.take n).foldl statementStartAfter s.statementStart
    rw [h.take_eq hn, h.statementStart]

theorem shift (h : e.Twins before s t) (hn : n ≤ before.length) :
    e.Twins (before.drop n) (s.shift n) (t.shift n) :=
  { h.read hn with
    context := by
      change t.context.modify (·.pushTokens (t.unread.take n)) =
        s.context.modify (·.pushTokens (s.unread.take n))
      rw [h.take_eq hn, h.context] }

theorem skip (h : e.Twins before s t) (hn : n ≤ before.length) :
    e.Twins (before.drop n) (s.skip n) (t.skip n) :=
  { h.read hn with
    context := by
      change t.context.modify
        (·.pushSkipped (((t.unread.take n).filter (!·.isEndOfInput)).map .token)) =
        s.context.modify
          (·.pushSkipped (((s.unread.take n).filter (!·.isEndOfInput)).map .token))
      rw [h.take_eq hn, h.context] }

theorem triviaLength_append {x : Token} (hx : x.isTrivia = false) (ts us : List Token) :
    triviaLength (ts ++ x :: us) = triviaLength ts := by
  induction ts with
  | nil => simp [triviaLength, hx]
  | cons t ts ih =>
    unfold triviaLength at ih ⊢
    cases ht : t.isTrivia <;> simp [ht, ih]

theorem shiftTrivia (h : e.Twins before s t) (hold : e.old.isTrivia = false) :
    e.Twins (before.dropWhile Token.isTrivia) s.shiftTrivia t.shiftTrivia := by
  have hleft : triviaLength s.unread = triviaLength before := by
    rw [h.left, triviaLength_append hold]
  have hright : triviaLength t.unread = triviaLength before := by
    rw [h.right, triviaLength_append rfl]
  have hshift := h.shift (n := triviaLength before) (List.takeWhile_prefix _).length_le
  have hdrop : before.drop (triviaLength before) = before.dropWhile Token.isTrivia := by
    have hleft := @List.drop_left _ (before.takeWhile Token.isTrivia)
      (before.dropWhile Token.isTrivia)
    rwa [List.takeWhile_append_dropWhile] at hleft
  rwa [hdrop, ← hleft, ← State.shiftTrivia, hleft, ← hright] at hshift

/-- Before another token, both have that one next. -/
theorem peek_eq {x : Token} (h : e.Twins (x :: before) s t) : t.peek = s.peek :=
  (State.peek_eq h.right).trans (State.peek_eq h.left).symm

theorem takeNext {x : Token} (h : e.Twins (x :: before) s t)
    (keyword : Option (Similarity × String)) :
    e.Twins before (s.takeNext keyword) (t.takeNext keyword) := by
  cases keyword with
  | none => exact h.shift (n := 1) (by simp)
  | some keyword => exact (h.report _ _).shift (n := 1) (by simp)

end Twins

end Respelling

end Parse

end CobolCompanion
