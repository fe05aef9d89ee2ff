import CobolCompanion.Proofs.Condensed
import CobolCompanion.Proofs.CoupledRuns
import Mathlib.Data.List.Forall2

namespace CobolCompanion

open Parse

/-- Findings that say the same about tokens that correspond. -/
structure Diagnostic.Echoes (pairs : List (Token × Token)) (d d' : Diagnostic) : Prop where
  severity : d.severity = d'.severity
  code : d.code = d'.code
  message : d.message = d'.message
  source : d.source = d'.source
  place : ∃ p ∈ pairs, d.range = p.1.range ∧ d'.range = p.2.range

section
variable {pairs : List (Token × Token)} {a b : Token} (h : (a, b) ∈ pairs)
include h

theorem Diagnostic.Echoes.error (code message : String) :
    Diagnostic.Echoes pairs (.error a.range code message) (.error b.range code message) :=
  ⟨rfl, rfl, rfl, rfl, (a, b), h, rfl, rfl⟩

theorem Diagnostic.Echoes.warning (code message : String) :
    Diagnostic.Echoes pairs (.warning a.range code message) (.warning b.range code message) :=
  ⟨rfl, rfl, rfl, rfl, (a, b), h, rfl, rfl⟩

end

/--
Whether trivia stand between a token that passes for `PROGRAM-ID` and the period behind it.
-/
def detachesPeriod (score : Similarity) : List Token → Bool
  | [] => false
  | t :: ts =>
    t.isSignificant && Keyword.accepts score t "PROGRAM-ID" && ts.head?.any Token.isTrivia &&
      (significantTokens ts).head?.any Token.isTerminator || detachesPeriod score ts

theorem detachesPeriod_of_suffix {score : Similarity} {ts us : List Token} (h : us <:+ ts)
    (hts : detachesPeriod score ts = false) : detachesPeriod score us = false := by
  induction ts with
  | nil =>
    rw [List.suffix_nil] at h
    rw [h]
    rfl
  | cons t ts ih =>
    rcases List.suffix_cons_iff.1 h with rfl | h
    · exact hts
    · rw [detachesPeriod, Bool.or_eq_false_iff] at hts
      exact ih h hts.2

/--
Tokens among which periods are told from all else, and stand directly behind `PROGRAM-ID`.
-/
structure Legible (score : Similarity) (ts : List Token) : Prop where
  words : ∀ t ∈ ts, t.isEndOfInput = false
  periods : ∀ t ∈ ts, Keyword.accepts score t "." → t.isTerminator
  attached : detachesPeriod score ts = false

theorem Legible.of_suffix {score : Similarity} {ts us : List Token} (hts : Legible score ts)
    (h : us <:+ ts) : Legible score us where
  words := fun t ht => hts.words t (h.subset ht)
  periods := fun t ht => hts.periods t (h.subset ht)
  attached := detachesPeriod_of_suffix h hts.attached

theorem Keyword.compare_period {score : Similarity} {t : Token} (h : t.isTerminator) :
    Keyword.compare score t.lexeme "." = .exact := by
  rw [Token.isTerminator, Bool.and_eq_true, beq_iff_eq, beq_iff_eq] at h
  rw [h.2]
  exact Keyword.compare_eq_exact rfl (by decide) (by decide +kernel)

theorem Token.significant_of_isTerminator {t : Token} (h : t.isTerminator) :
    t.isTrivia = false ∧ t.isEndOfInput = false := by
  cases hkind : t.kind <;> simp [isTrivia, isEndOfInput, isTerminator, hkind] at h ⊢

theorem Token.isTerminator_of_isTrivia {t : Token} (h : t.isTrivia) :
    t.isTerminator = false := by
  by_contra hperiod
  simp [(significant_of_isTerminator (by simpa using hperiod)).1] at h

theorem Token.isTerminator_of_isEndOfInput {t : Token} (h : t.isEndOfInput) :
    t.isTerminator = false := by
  by_contra hperiod
  simp [(significant_of_isTerminator (by simpa using hperiod)).2] at h

namespace Parse

section
variable {score : Similarity} {ts : List Token}

section
variable (hscore : score.TellsApart)
variable (h : ∀ t, (significantTokens ts)[0]? = some t → t.isTerminator)
include hscore h

theorem not_looksLike_of_terminator {opener : String} (hopener : opener ∈ reservedWords)
    (hne : "." ≠ opener) (pattern : List Ahead) :
    looksLike score (.keyword opener :: pattern) ts = false := by
  apply not_looksLike_of_head
  intro t ht
  have hperiod := h t ht
  rw [Token.isTerminator, Bool.and_eq_true, beq_iff_eq, beq_iff_eq] at hperiod
  refine Keyword.not_accepts_of_spells hscore ?_ (by simp [reservedWords]) hopener hne
  rw [hperiod.2]
  exact Keyword.upper_of_mem_reservedWords (by simp [reservedWords])

theorem not_atAnyHeader_of_terminator (start : Bool) : atAnyHeader score start ts = false := by
  have hunknown : looksLike score [.anyWord, .exactly "DIVISION", .exactly "."] ts = false := by
    apply not_looksLike_of_head
    intro t ht
    have hperiod := h t ht
    rw [Token.isTerminator, Bool.and_eq_true, beq_iff_eq] at hperiod
    simp [Ahead.test, Token.isWord, hperiod.1]
  simp only [atAnyHeader, atIdentificationHeader, atDivisionHeader,
    atPeriodHeader, Division.all, Division.opener, identificationOpeners, List.any_cons,
    List.any_nil, hunknown, Bool.or_false, Bool.and_false, Bool.or_eq_false_iff]
  refine ⟨⟨?_, ?_, ?_⟩, ?_, ?_⟩ <;>
    exact not_looksLike_of_terminator hscore h (by simp [reservedWords]) (by decide) _

theorem not_atEndProgram_of_terminator : atEndProgram score ts = false :=
  not_looksLike_of_terminator hscore h (by simp [reservedWords]) (by decide) _

end

theorem contentLength_of_terminator (hscore : score.TellsApart) {t : Token} (h : t.isTerminator)
    (start : Bool) : contentLength score start (t :: ts) = contentLength score true ts + 1 := by
  obtain ⟨htrivia, hend⟩ := Token.significant_of_isTerminator h
  have hfirst : ∀ u, (significantTokens (t :: ts))[0]? = some u → u.isTerminator := by
    intro u hu
    rw [significantTokens_cons_of_significant htrivia, List.getElem?_cons_zero,
      Option.some.injEq] at hu
    exact hu ▸ h
  rw [contentLength, not_atAnyHeader_of_terminator hscore hfirst,
    not_atEndProgram_of_terminator hscore hfirst]
  simp [hend, statementStartAfter, htrivia, h]

end

/-- States of parsers that have the same wording behind them and before them. -/
structure SameWords (score : Similarity) (pairs : List (Token × Token))
    (s t : State) : Prop where
  words : List.Forall₂ (fun a b => (a, b) ∈ pairs) (significantTokens s.unread)
    (significantTokens t.unread)
  legible : Legible score s.unread ∧ Legible score t.unread
  sentinels : (s.stream.sentinel, t.stream.sentinel) ∈ pairs
  ended : s.stream.sentinel.isEndOfInput ∧ t.stream.sentinel.isEndOfInput
  contexts : s.context.Resembles t.context
  openNames : s.openNames = t.openNames
  statementStart : s.statementStart = t.statementStart
  findings : List.Forall₂ (Diagnostic.Echoes pairs) s.diagnostics t.diagnostics

section
variable {pairs : List (Token × Token)} {a b : Token}
  (hpairs : ∀ p ∈ pairs, p.1.unplaced = p.2.unplaced)
include hpairs

theorem lexeme_eq_of_mem (h : (a, b) ∈ pairs) : a.lexeme = b.lexeme :=
  (Token.unplaced_eq_iff.1 (hpairs _ h)).2

theorem programNameOf_eq_of_mem (h : (a, b) ∈ pairs) : programNameOf a = programNameOf b := by
  rw [programNameOf, programNameOf, lexeme_eq_of_mem hpairs h]

theorem echoes_failure (h : (a, b) ∈ pairs) (c : Complaint) :
    Diagnostic.Echoes pairs (c.failure a).diagnostic (c.failure b).diagnostic := by
  have hlexeme := lexeme_eq_of_mem hpairs h
  cases c with
  | endOfInput expected => exact .error h _ _
  | token expected =>
    rw [Complaint.failure, Complaint.failure, hlexeme]
    exact .error h _ _
  | alternatives expected =>
    rw [Complaint.failure, Complaint.failure, hlexeme]
    exact .error h _ _

theorem echoes_unknownInput (h : (a, b) ∈ pairs) :
    Diagnostic.Echoes pairs (unknownInput a) (unknownInput b) := by
  rw [unknownInput, unknownInput, lexeme_eq_of_mem hpairs h]
  exact .error h _ _

theorem echoes_trailerMismatch (h : (a, b) ∈ pairs) (declared : String) :
    Diagnostic.Echoes pairs (Production.trailerMismatch a declared)
      (Production.trailerMismatch b declared) := by
  rw [Production.trailerMismatch, Production.trailerMismatch, programNameOf_eq_of_mem hpairs h]
  exact .warning h _ _

theorem echoes_warnings (h : (a, b) ∈ pairs) (score : Similarity) (keyword : String) :
    List.Forall₂ (Diagnostic.Echoes pairs) (Keyword.warnings score a keyword)
      (Keyword.warnings score b keyword) := by
  rw [Keyword.warnings, Keyword.warnings, Keyword.misspelling, Keyword.misspelling,
    lexeme_eq_of_mem hpairs h]
  split
  · exact .cons (.warning h _ _) .nil
  · exact .nil

end

theorem significantTokens_drop (ts : List Token) (n : Nat) :
    significantTokens (ts.drop n) =
      (significantTokens ts).drop (wording (ts.take n)).length := by
  have hsplit : significantTokens ts = significantTokens (ts.take n) ++
      significantTokens (ts.drop n) := by
    rw [← significantTokens_append, List.take_append_drop]
  rw [hsplit, length_wording, List.drop_left]

namespace SameWords

variable {score : Similarity} {pairs : List (Token × Token)} {s t : State}

theorem report (h : SameWords score pairs s t) {ds es : List Diagnostic}
    (hds : List.Forall₂ (Diagnostic.Echoes pairs) ds es) :
    SameWords score pairs (s.report ds) (t.report es) :=
  { h with findings := List.rel_append h.findings hds }

/-- Both parsers read on, by the same words. -/
theorem read (h : SameWords score pairs s t) {n m : Nat}
    (hread : wording (s.unread.take n) = wording (t.unread.take m)) {c d : Context}
    (hcontexts : c.Resembles d) :
    SameWords score pairs { s.read n with context := c } { t.read m with context := d } := by
  refine { h with words := ?_, legible := ?_, contexts := hcontexts, statementStart := ?_ }
  · change List.Forall₂ _ (significantTokens (s.unread.drop n))
      (significantTokens (t.unread.drop m))
    rw [significantTokens_drop, significantTokens_drop, hread]
    exact List.forall₂_drop _ h.words
  · exact ⟨h.legible.1.of_suffix (List.drop_suffix n _),
      h.legible.2.of_suffix (List.drop_suffix m _)⟩
  · change (s.unread.take n).foldl statementStartAfter s.statementStart =
      (t.unread.take m).foldl statementStartAfter t.statementStart
    rw [← foldl_statementStartAfter _ (s.unread.take n),
      ← foldl_statementStartAfter _ (t.unread.take m), hread, h.statementStart]

theorem shift (h : SameWords score pairs s t) {n m : Nat}
    (hread : wording (s.unread.take n) = wording (t.unread.take m)) :
    SameWords score pairs (s.shift n) (t.shift m) :=
  h.read hread (h.contexts.modify fun hnodes => Node.condensed_pushTokens hnodes hread)

theorem shiftTrivia (h : SameWords score pairs s t) :
    SameWords score pairs s.shiftTrivia t.shiftTrivia := by
  apply h.shift
  rw [wording_eq_nil isTrivia_of_mem_take_triviaLength,
    wording_eq_nil isTrivia_of_mem_take_triviaLength]

theorem openNode (h : SameWords score pairs s t) (kind : NodeKind) :
    SameWords score pairs (s.openNode kind) (t.openNode kind) :=
  { h with contexts := h.contexts.push _ }

theorem closeNode (h : SameWords score pairs s t) :
    SameWords score pairs s.closeNode t.closeNode :=
  { h with contexts := h.contexts.close }

theorem leaveUnit (h : SameWords score pairs s t) :
    SameWords score pairs s.leaveUnit t.leaveUnit :=
  { h with contexts := h.contexts.close, openNames := congrArg List.tail h.openNames }

theorem wording_eq (h : SameWords score pairs s t)
    (hpairs : ∀ p ∈ pairs, p.1.unplaced = p.2.unplaced) :
    wording s.unread = wording t.unread := by
  have hwords := h.words
  unfold wording
  generalize significantTokens s.unread = ts at hwords
  generalize significantTokens t.unread = us at hwords
  induction hwords with
  | nil => rfl
  | cons hab _ ih => rw [List.map_cons, List.map_cons, hpairs _ hab, ih]

end SameWords

theorem State.shift_shift (s : State) (n m : Nat) : (s.shift n).shift m = s.shift (n + m) := by
  have hrule (ts : List Token) : (s.context.modify (·.pushTokens ts)).rule =
      s.context.rule := by
    obtain ⟨root, frames⟩ := s.context
    cases frames <;> rfl
  have htake : s.unread.take (n + m) = s.unread.take n ++ (s.unread.drop n).take m :=
    List.take_add
  simp only [shift, read, unread, hrule] at htake ⊢
  rw [htake, List.drop_drop, List.foldl_append, Context.modify_modify, List.length_append,
    ← List.append_assoc, List.replicate_append_replicate, Nat.add_comm (List.length _)]
  simp [Function.comp_def, Node.pushTokens]

theorem allow_period_run {score : Similarity} {s : State} (h : Legible score s.unread)
    (hs : s.stream.sentinel.isEndOfInput) :
    Production.allow score "." s = .ok () (if s.peek.isTerminator then s.shift 1 else s) := by
  rw [Production.allow_run]
  cases hend : s.peek.isEndOfInput with
  | true => simp [Token.isTerminator_of_isEndOfInput hend]
  | false =>
    obtain ⟨rest, hunread⟩ := s.unread_eq_cons hs hend
    cases hperiod : s.peek.isTerminator with
    | true =>
      have hexact := @Keyword.compare_period score _ hperiod
      have hsilent : s.acceptNext score "." = s.shift 1 := by
        simp [State.acceptNext, Keyword.warnings, hexact, State.report]
      simp [Keyword.accepts, hexact, KeywordMatch.isAccepted, hsilent]
    | false =>
      have hrejects : Keyword.accepts score s.peek "." = false := by
        by_contra haccepts
        have hmem : s.peek ∈ s.unread := hunread ▸ List.mem_cons_self
        simp [h.periods _ hmem (by simpa using haccepts)] at hperiod
      simp [hrejects]

theorem isTerminator_peek {score : Similarity} {s : State} {t : Token}
    (h : detachesPeriod score (t :: s.unread) = false) (hword : t.isTrivia = false)
    (ht : Keyword.accepts score t "PROGRAM-ID") (hs : s.stream.sentinel.isEndOfInput) :
    s.peek.isTerminator = (wording s.unread).head?.any Token.isTerminator := by
  cases hunread : s.unread with
  | nil =>
    rw [State.peek_of_exhausted hunread, Token.isTerminator_of_isEndOfInput hs]
    rfl
  | cons u us =>
    rw [State.peek_eq hunread]
    cases hu : u.isTrivia with
    | false => simp [wording_cons_of_significant hu]
    | true =>
      rw [hunread, detachesPeriod, Bool.or_eq_false_iff] at h
      have hnext : ((significantTokens (u :: us)).head?.any Token.isTerminator) = false := by
        simpa [Token.isSignificant, hword, ht, hu] using h.1
      rw [Token.isTerminator_of_isTrivia hu, ← hnext, wording, List.head?_map]
      cases (significantTokens (u :: us)).head? <;> rfl

theorem exists_shift_procedureBody {score : Similarity} (hscore : score.TellsApart) {s : State}
    (h : Legible score s.unread) (hs : s.stream.sentinel.isEndOfInput) :
    ∃ n, (do Production.allow score "."; Production.content score : Production Unit) s =
        .ok () (s.shift n) ∧
      wording (s.unread.take n) =
        (wording s.unread).take (contentLength score s.statementStart (wording s.unread)) := by
  have hrun := allow_period_run h hs
  rw [Production.bind_eq_of_ok hrun]
  cases hperiod : s.peek.isTerminator with
  | false =>
    exact ⟨_, rfl, wording_take_contentLength s.statementStart h.words⟩
  | true =>
    obtain ⟨htrivia, hend⟩ := Token.significant_of_isTerminator hperiod
    obtain ⟨rest, hunread⟩ := s.unread_eq_cons hs hend
    have hstart : (s.shift 1).statementStart = true := by
      change (s.unread.take 1).foldl statementStartAfter s.statementStart = true
      rw [hunread]
      simp [statementStartAfter, htrivia, hend, hperiod]
    refine ⟨1 + contentLength score true rest, ?_, ?_⟩
    · rw [if_pos rfl]
      change EStateM.Result.ok () ((s.shift 1).shift _) = _
      rw [hstart, State.unread_shift, hunread, State.shift_shift]
      rfl
    · have hperiod' : s.peek.unplaced.isTerminator := hperiod
      rw [hunread] at h ⊢
      rw [Nat.add_comm, List.take_succ_cons, wording_cons_of_significant htrivia,
        wording_cons_of_significant htrivia, contentLength_of_terminator hscore hperiod',
        List.take_succ_cons, wording_take_contentLength true (List.forall_mem_cons.1 h.words).2]

/-- Two parsers of which each reads a layout of its own. -/
def layouts (score : Similarity) (pairs : List (Token × Token)) : Coupling where
  pair a b := (a, b) ∈ pairs
  loose s t := SameWords score pairs s t ∧ t.context.frames ≠ []
  fresh s t := (SameWords score pairs s t ∧ t.context.frames ≠ []) ∧
    s.peek.isTrivia = false ∧ t.peek.isTrivia = false
  failed s t := SameWords score pairs s t ∧
    (s.peek.isTrivia = false ∧ t.peek.isTrivia = false ∨
      ∀ u ∈ (wording s.unread).head?, u.isTerminator = false)
  live _ := True
  ample _ := True
  tolerant := True

namespace SameWords

variable {score : Similarity} {pairs : List (Token × Token)} {s t : State}

theorem next_cases (h : SameWords score pairs s t) (hs : s.peek.isTrivia = false)
    (ht : t.peek.isTrivia = false) :
    (s.unread = [] ∧ t.unread = []) ∨
      ∃ a us b vs, s.unread = a :: us ∧ t.unread = b :: vs ∧ (a, b) ∈ pairs ∧
        a.isTrivia = false ∧ b.isTrivia = false := by
  have hwords := h.words
  cases hunread : s.unread with
  | nil =>
    rw [hunread, significantTokens_nil, List.forall₂_nil_left_iff] at hwords
    cases hunread' : t.unread with
    | nil => exact .inl ⟨rfl, rfl⟩
    | cons b vs =>
      rw [State.peek_eq hunread'] at ht
      rw [hunread', significantTokens_cons_of_significant ht] at hwords
      cases hwords
  | cons a us =>
    rw [State.peek_eq hunread] at hs
    rw [hunread, significantTokens_cons_of_significant hs, List.forall₂_cons_left_iff] at hwords
    obtain ⟨b, rest, hab, -, hrest⟩ := hwords
    cases hunread' : t.unread with
    | nil => simp [hunread'] at hrest
    | cons b' vs =>
      rw [State.peek_eq hunread'] at ht
      rw [hunread', significantTokens_cons_of_significant ht, List.cons.injEq] at hrest
      exact .inr ⟨a, us, b', vs, rfl, rfl, hrest.1 ▸ hab, hs, ht⟩

theorem pair_peek (h : SameWords score pairs s t) (hs : s.peek.isTrivia = false)
    (ht : t.peek.isTrivia = false) : (s.peek, t.peek) ∈ pairs := by
  obtain ⟨hunread, hunread'⟩ | ⟨a, us, b, vs, hunread, hunread', hab, -, -⟩ :=
    h.next_cases hs ht
  · rw [State.peek_of_exhausted hunread, State.peek_of_exhausted hunread']
    exact h.sentinels
  · rw [State.peek_eq hunread, State.peek_eq hunread']
    exact hab

end SameWords

section
variable {score : Similarity} {pairs : List (Token × Token)}
  (hpairs : ∀ p ∈ pairs, p.1.unplaced = p.2.unplaced)
include hpairs

theorem SameWords.shiftOne {s t : State} (h : SameWords score pairs s t)
    (hs : s.peek.isTrivia = false) (ht : t.peek.isTrivia = false) :
    SameWords score pairs (s.shift 1) (t.shift 1) := by
  apply h.shift
  obtain ⟨hunread, hunread'⟩ | ⟨a, us, b, vs, hunread, hunread', hab, ha, hb⟩ :=
    h.next_cases hs ht
  · rw [hunread, hunread']
  · have hunplaced : a.unplaced = b.unplaced := hpairs _ hab
    rw [hunread, hunread']
    simp [wording_cons_of_significant ha, wording_cons_of_significant hb, hunplaced]

theorem SameWords.takeNext {s t : State} (h : SameWords score pairs s t)
    (hs : s.peek.isTrivia = false) (ht : t.peek.isTrivia = false)
    (keyword : Option (Similarity × String)) :
    SameWords score pairs (s.takeNext keyword) (t.takeNext keyword) := by
  cases keyword with
  | none => exact h.shiftOne hpairs hs ht
  | some keyword =>
    have hwarned := h.report (echoes_warnings hpairs (h.pair_peek hs ht) keyword.1 keyword.2)
    exact hwarned.shiftOne hpairs hs ht

theorem keeps_layouts : (layouts score pairs).Keeps score where
  alike := fun {a b} h => by
    obtain ⟨hkind, hlexeme⟩ := Token.unplaced_eq_iff.1 (hpairs _ h)
    exact .of_lexeme hkind hlexeme
  live := ⟨fun _ _ => trivial, fun _ _ => trivial⟩
  ample := ⟨fun _ _ => trivial, fun _ _ => trivial⟩
  live_of_ample := fun _ => trivial
  inside := fun h => ⟨h.1.2, h.1.1.ended.2⟩
  peek := fun h _ => h.1.1.pair_peek h.2.1 h.2.2
  settle := fun {s t} h _ => by
    have hsettled : SameWords score pairs s.shiftTrivia t.shiftTrivia ∧
        t.shiftTrivia.context.frames ≠ [] :=
      ⟨h.1.shiftTrivia, mt State.frames_shiftTrivia_eq_nil_iff.1 h.2⟩
    exact ⟨hsettled, hsettled, s.isTrivia_peek_shiftTrivia h.1.ended.1,
      t.isTrivia_peek_shiftTrivia h.1.ended.2⟩
  take := fun {s t} keyword h _ _ => by
    refine ⟨h.1.1.takeNext hpairs h.2.1 h.2.2 keyword, ?_⟩
    apply List.length_pos_iff.1
    have hpos := List.length_pos_iff.2 h.1.2
    cases keyword <;>
      simpa [State.takeNext, State.acceptNext, State.shift, State.report] using hpos
  refuse := fun c h _ =>
    ⟨h.1.1.report (.cons (echoes_failure hpairs (h.1.1.pair_peek h.2.1 h.2.2) c) .nil),
      .inl h.2⟩
  openNode := fun kind h => ⟨⟨h.1.1.openNode kind, List.cons_ne_nil _ _⟩, h.2⟩
  closeNode := fun {s t} h hdepth => by
    refine ⟨h.1.closeNode, ?_⟩
    apply List.length_pos_iff.1
    rw [State.closeNode, Context.frames_length_close]
    omega
  closeFailed := fun h _ => ⟨h.1.closeNode, h.2⟩
  body := by
    refine ⟨Production.performs_content, fun {s t a s'} h hrun _ => ?_,
      fun _ hrun _ => by cases hrun⟩
    cases hrun
    refine ⟨(), _, rfl, trivial, h.1.shift ?_, ?_⟩
    · rw [wording_take_contentLength _ h.1.legible.1.words,
        wording_take_contentLength _ h.1.legible.2.words, h.1.wording_eq hpairs,
        h.1.statementStart]
    · apply List.length_pos_iff.1
      simpa [State.shift] using List.length_pos_iff.2 h.2

theorem mirrors_programId :
    let p := do
      Production.expect score "PROGRAM-ID"
      Production.allow score "."
    (layouts score pairs).Mirrors (layouts score pairs).ample (layouts score pairs).fresh p p
      Coupling.anyValue (layouts score pairs).loose := by
  have hkeeps := @keeps_layouts score pairs hpairs
  have hexpect := hkeeps.mirrors_expect "PROGRAM-ID"
  refine ⟨Production.performs_expect.bind fun _ => Production.performs_allow,
    fun {s t a s'} h hrun _ => ?_, fun {s t f s'} h hrun htolerant => ?_⟩
  · obtain ⟨_, s₁, hword, hrun⟩ := Production.exists_ok_of_bind hrun
    obtain ⟨_, t₁, hword', -, h₁⟩ := hexpect.ok h hword trivial
    obtain ⟨x, -, hx, hreads⟩ := Production.exists_reads_of_expect hword h.1.1.ended.1
    obtain ⟨y, -, hy, hreads'⟩ := Production.exists_reads_of_expect hword' h.1.1.ended.2
    obtain ⟨⟨hsame, -⟩, hs, ht⟩ := h
    have hattached := hsame.legible.1.attached
    have hattached' := hsame.legible.2.attached
    rw [hreads.unread] at hattached
    rw [hreads'.unread] at hattached'
    rw [State.peek_eq hreads.unread] at hs
    rw [State.peek_eq hreads'.unread] at ht
    have hperiod : s₁.peek.isTerminator = t₁.peek.isTerminator := by
      rw [isTerminator_peek hattached hs hx h₁.1.ended.1,
        isTerminator_peek hattached' ht hy h₁.1.ended.2, h₁.1.wording_eq hpairs]
    rw [allow_period_run h₁.1.legible.1 h₁.1.ended.1, hperiod] at hrun
    rw [Production.bind_eq_of_ok hword', allow_period_run h₁.1.legible.2 h₁.1.ended.2]
    cases hrun
    refine ⟨(), _, rfl, trivial, ?_⟩
    cases hnext : t₁.peek.isTerminator with
    | false => exact h₁
    | true =>
      have hs₁ := (Token.significant_of_isTerminator (hperiod.trans hnext)).1
      have ht₁ := (Token.significant_of_isTerminator hnext).1
      exact hkeeps.take none ⟨h₁, hs₁, ht₁⟩
        (Token.significant_of_isTerminator (hperiod.trans hnext)).2 trivial
  · have hword := Production.error_of_bind (fun _ _ => Production.allow_ne_error) hrun
    obtain ⟨g, t', hword', hfailed⟩ := hexpect.error h hword htolerant
    exact ⟨g, t', Production.bind_eq_of_error hword' _, hfailed⟩

theorem mirrors_procedureBody (hscore : score.TellsApart) :
    let p := do
      Production.allow score "."
      Production.content score
    (layouts score pairs).Mirrors (layouts score pairs).ample (layouts score pairs).loose p p
      Coupling.anyValue (layouts score pairs).loose := by
  refine ⟨Production.performs_allow.bind fun _ => Production.performs_content,
    fun {s t a s'} h hrun _ => ?_, fun {s t f s'} h hrun _ => ?_⟩
  · obtain ⟨n, hbody, hwords⟩ := exists_shift_procedureBody hscore h.1.legible.1 h.1.ended.1
    obtain ⟨m, hbody', hwords'⟩ := exists_shift_procedureBody hscore h.1.legible.2 h.1.ended.2
    rw [hbody] at hrun
    cases hrun
    refine ⟨(), _, hbody', trivial, h.1.shift ?_, ?_⟩
    · rw [hwords, hwords', h.1.wording_eq hpairs, h.1.statementStart]
    · apply List.length_pos_iff.1
      simpa [State.shift] using List.length_pos_iff.2 h.2
  · obtain ⟨n, hbody, -⟩ := exists_shift_procedureBody hscore h.1.legible.1 h.1.ended.1
    rw [hbody] at hrun
    cases hrun

theorem SameWords.seesAlike {s t : State} (h : SameWords score pairs s t) :
    SeesAlike score s t := by
  have hwords := h.wording_eq hpairs
  refine ⟨fun d => ?_, ?_, ?_, ?_⟩
  · rw [← atDivisionHeader_wording, hwords, atDivisionHeader_wording]
  · rw [← atIdentificationHeader_wording, hwords, atIdentificationHeader_wording]
  · rw [← atAnyHeader_wording, hwords, atAnyHeader_wording, h.statementStart]
  · rw [← atEndProgram_wording, hwords, atEndProgram_wording]

theorem sound_layouts (hscore : score.TellsApart) : (layouts score pairs).Sound score where
  toKeeps := keeps_layouts hpairs
  programId := mirrors_programId hpairs
  procedureBody := mirrors_procedureBody hpairs hscore
  ahead := fun h _ => h.1.seesAlike hpairs
  named := fun {s t a b} h hword => by
    have hname := programNameOf_eq_of_mem hpairs hword.1
    refine ⟨{ h.1 with contexts := ?_, openNames := ?_ }, ?_⟩
    · rw [State.named, State.named, hname]
      exact h.1.contexts.modify fun hnodes => Node.condensed_setName hnodes _
    · simp [State.named, hname, h.1.openNames]
    · apply List.length_pos_iff.1
      simpa [State.named] using List.length_pos_iff.2 h.2
  trailer := fun {s t a b} h _ hword => by
    have hname := programNameOf_eq_of_mem hpairs hword.1
    have hdeclared : s.context.current.name = t.context.current.name :=
      congrArg Heading.name (Node.condensed_eq_iff.1 h.1.contexts.current).1
    refine ⟨?_, by rw [checkTrailer_context]; exact h.2⟩
    unfold Production.checkTrailer
    rw [h.1.openNames, hname, hdeclared]
    split
    · exact h.1
    · split
      · exact h.1
      · exact h.1.report (.cons (echoes_trailerMismatch hpairs hword.1 _) .nil)

end

end Parse

end CobolCompanion
