import CobolCompanion.Proofs.Listing
import CobolCompanion.Proofs.Reading

namespace CobolCompanion

open Parse Production

namespace Listing

variable {score : Similarity} {s : State} {keyword : String} {rest ts : List Token}

theorem upper_of_mem_keywords (h : keyword ∈ "PROGRAM-ID" :: reservedWords) :
    upper keyword = keyword ∧ keyword ≠ "" := by
  have hall : ∀ w ∈ "PROGRAM-ID" :: reservedWords, upper w = w ∧ w ≠ "" := by decide +kernel
  exact hall keyword h

theorem opener_mem_reservedWords (d : Division) : d.opener ∈ reservedWords := by
  cases d <;> decide

theorem identificationOpeners_subset : identificationOpeners ⊆ reservedWords := by
  decide

namespace Spelling

theorem compare_eq_exact (w : Spelling keyword) (h : keyword ∈ "PROGRAM-ID" :: reservedWords) :
    Keyword.compare score w.token.lexeme keyword = .exact := by
  obtain ⟨hupper, hne⟩ := upper_of_mem_keywords h
  exact Keyword.compare_eq_exact (w.upper_lexeme.trans hupper.symm) hne (by rwa [hupper])

theorem accepts (w : Spelling keyword) (score : Similarity) (h : keyword ∈ reservedWords) :
    Keyword.accepts score w.token keyword := by
  rw [Keyword.accepts, w.compare_eq_exact (List.mem_cons_of_mem _ h)]
  rfl

theorem not_accepts (w : Spelling keyword) (hscore : score.TellsApart)
    (h : keyword ∈ reservedWords) {expected : String} (hexpected : expected ∈ reservedWords)
    (hne : keyword ≠ expected) :
    Keyword.accepts score w.token expected = false :=
  Keyword.not_accepts_of_spells hscore w.upper_lexeme h hexpected hne

theorem expect (w : Spelling keyword) (h : keyword ∈ "PROGRAM-ID" :: reservedWords)
    (hs : s.unread = w.token :: rest) :
    Yields (Production.expect score keyword) s () [.token w.token] rest :=
  yields_expect hs w.not_trivia w.not_endOfInput (w.compare_eq_exact h)

theorem allow (w : Spelling keyword) (h : keyword ∈ reservedWords)
    (hs : s.unread = w.token :: rest) :
    Yields (Production.allow score keyword) s () [.token w.token] rest :=
  yields_allow hs w.not_trivia w.not_endOfInput (w.compare_eq_exact (List.mem_cons_of_mem _ h))

end Spelling

theorem Written.spaces (w : Written score keyword) (hs : s.Faces (w.tokens ++ rest)) :
    Yields Production.spaces s () [] (w.token :: rest) :=
  yields_spaces (by simpa [Written.tokens] using hs) w.before.isTrivia w.not_trivia

/-- A keyword and the trivia before it are read before what comes after them. -/
theorem Written.read (w : Written score keyword) (h : keyword ∈ "PROGRAM-ID" :: reservedWords)
    (hs : s.Faces (w.tokens ++ rest)) {α : Type} {p : Production α} {a : α}
    {words : List Element} (hp : ∀ s', s'.unread = rest → Yields p s' a words ts) :
    Yields (do
      Production.spaces
      Production.expect score keyword
      p) s a (.token w.token :: words) ts :=
  .silent (w.spaces hs) fun _ hs => .word (w.expect h hs) hp

@[simp] theorem Written.significantTokens (w : Written score keyword) :
    significantTokens w.tokens = [w.token] := by
  rw [tokens, significantTokens_append, significantTokens_eq_nil w.before.isTrivia]
  exact significantTokens_cons_of_significant w.not_trivia []

namespace Name

theorem not_trivia (n : Name score) : n.token.isTrivia = false := by
  have hkind : n.token.kind = .word := eq_of_beq n.isWord
  simp [Token.isTrivia, hkind]

@[simp] theorem significantTokens (n : Name score) :
    significantTokens n.tokens = [n.token] := by
  rw [tokens, significantTokens_append, significantTokens_eq_nil n.before.isTrivia]
  exact significantTokens_cons_of_significant n.not_trivia []

theorem spaces (n : Name score) (hs : s.Faces (n.tokens ++ rest)) :
    Yields Production.spaces s () [] (n.token :: rest) :=
  yields_spaces (by simpa [Name.tokens] using hs) n.before.isTrivia n.not_trivia

theorem programNameOf_token (n : Name score) : programNameOf n.token = n.token.lexeme := by
  have hdrop : ∀ {cs : List Char}, (∀ c ∈ cs, isQuote c = false) →
      cs.dropWhile isQuote = cs := by
    intro cs hcs
    cases cs with
    | nil => rfl
    | cons c cs => exact List.dropWhile_cons_of_neg (by simp [hcs c])
  have hreverse : ∀ c ∈ n.token.lexeme.toList.reverse, isQuote c = false :=
    fun c hc => n.not_quote c (List.mem_reverse.1 hc)
  simp [programNameOf, hdrop n.not_quote, hdrop hreverse]

end Name

/-- The words that can stand first after a division when the given divisions may still come. -/
def openings (ds : List Division) : List String :=
  ds.map Division.opener ++ ["ID", "IDENTIFICATION", "END"]

theorem mem_openings {ds : List Division} {word : String} (h : word ∈ openings ds) :
    word ∈ reservedWords ∧ word ≠ "DIVISION" ∧ word ≠ "PROGRAM" := by
  have hall : ∀ w ∈ openings Division.all, w ∈ reservedWords ∧ w ≠ "DIVISION" ∧
      w ≠ "PROGRAM" := by
    decide
  apply hall word
  rcases List.mem_append.1 h with h | h
  · obtain ⟨d, _, rfl⟩ := List.mem_map.1 h
    exact List.mem_append_left _ (List.mem_map_of_mem (by cases d <;> simp [Division.all]))
  · exact List.mem_append_right _ h

/-- A token that may stand in a body: a trivia, or one that no header and no trailer needs. -/
def Ordinary (score : Similarity) (t : Token) : Prop :=
  t.isTrivia = false → t.isEndOfInput = false ∧
    Keyword.accepts score t "DIVISION" = false ∧ Keyword.accepts score t "PROGRAM" = false

theorem Body.ordinary (b : Body score) : ∀ t ∈ b.tokens, Ordinary score t :=
  fun t ht _ => ⟨b.not_endOfInput t ht, b.not_division t ht, b.not_program t ht⟩

theorem Gap.ordinary (g : Gap score) : ∀ t ∈ g.tokens, Ordinary score t :=
  fun t ht hsignificant => by simp [g.isTrivia t ht] at hsignificant

theorem Spelling.ordinary_period (w : Spelling ".") (hscore : score.TellsApart) :
    Ordinary score w.token :=
  fun _ => ⟨w.not_endOfInput, w.not_accepts hscore (by decide) (by decide) (by decide),
    w.not_accepts hscore (by decide) (by decide) (by decide)⟩

/--
A place where a division ends: its first significant token is one that can stand there, and
lookahead sees a header or a trailer.
-/
structure Boundary (score : Similarity) (ds : List Division) (ts : List Token) : Prop where
  head : ∃ t rest, significantTokens ts = t :: rest ∧ upper t.lexeme ∈ openings ds
  sees : ∀ start, (atAnyHeader score start ts || atEndProgram score ts) = true

namespace Boundary

variable {ds : List Division}

/-- Trivia in front of a boundary change nothing. -/
theorem append_left (h : Boundary score ds ts) {gap : List Token}
    (hgap : ∀ t ∈ gap, t.isTrivia) :
    Boundary score ds (gap ++ ts) := by
  have hsame : significantTokens (gap ++ ts) = significantTokens ts := by
    rw [significantTokens_append, significantTokens_eq_nil hgap, List.nil_append]
  refine ⟨by rw [hsame]; exact h.head, fun start => ?_⟩
  rw [atAnyHeader_congr hsame, atEndProgram_congr hsame]
  exact h.sees start

theorem not_accepts_head (hscore : score.TellsApart) (h : Boundary score ds ts) {t : Token}
    (ht : (significantTokens ts)[0]? = some t) :
    Keyword.accepts score t "DIVISION" = false ∧ Keyword.accepts score t "PROGRAM" = false := by
  obtain ⟨u, rest, hts, hword⟩ := h.head
  obtain ⟨hreserved, hdivision, hprogram⟩ := mem_openings hword
  rw [hts, List.getElem?_cons_zero, Option.some.injEq] at ht
  subst t
  exact ⟨Keyword.not_accepts_of_spells hscore rfl hreserved (by decide) hdivision,
    Keyword.not_accepts_of_spells hscore rfl hreserved (by decide) hprogram⟩

theorem contentLength_eq_zero (h : Boundary score ds ts) (start : Bool) :
    contentLength score start ts = 0 := by
  cases ts with
  | nil => rfl
  | cons t rest =>
    have hsees := h.sees start
    rw [contentLength, if_pos]
    rw [Bool.or_assoc, hsees, Bool.or_true]

/--
Before a boundary a body is read up to its last significant token: whatever window of tokens
lookahead takes on the way, its second token passes neither for `DIVISION` nor for `PROGRAM`.
-/
theorem contentLength_append (hscore : score.TellsApart) (h : Boundary score ds ts)
    {body : List Token} (hbody : ∀ t ∈ body, Ordinary score t) (start : Bool) :
    contentLength score start (body ++ ts) ≤ body.length ∧
      ∀ t ∈ body.drop (contentLength score start (body ++ ts)), t.isTrivia := by
  induction body generalizing start with
  | nil => simp [h.contentLength_eq_zero]
  | cons t body ih =>
    -- Nothing but trivia is left of the body exactly where lookahead already sees the boundary.
    by_cases htrivia : ∀ u ∈ t :: body, u.isTrivia
    · rw [(h.append_left htrivia).contentLength_eq_zero]
      exact ⟨Nat.zero_le _, htrivia⟩
    · obtain ⟨x, xs, hxs⟩ : ∃ x xs, significantTokens (t :: body) = x :: xs := by
        cases hcase : significantTokens (t :: body) with
        | nil =>
          refine absurd (fun u hu => ?_) htrivia
          have hu' := List.filter_eq_nil_iff.1 hcase u hu
          simpa [Token.isSignificant] using hu'
        | cons x xs => exact ⟨x, xs, rfl⟩
      have hsecond : ∀ u, (significantTokens (t :: body ++ ts))[1]? = some u →
          Keyword.accepts score u "DIVISION" = false ∧
            Keyword.accepts score u "PROGRAM" = false := by
        intro u hu
        rw [significantTokens_append, hxs, List.cons_append, List.getElem?_cons_succ] at hu
        cases xs with
        -- The window reaches past the body, so its second token begins the boundary.
        | nil => exact h.not_accepts_head hscore hu
        | cons y ys =>
          rw [List.cons_append, List.getElem?_cons_zero, Option.some.injEq] at hu
          have hmem : u ∈ significantTokens (t :: body) := by simp [hxs, hu]
          obtain ⟨hmem, hu⟩ := mem_of_mem_significantTokens hmem
          exact (hbody u hmem hu).2
      have hend : t.isEndOfInput = false := by
        cases ht : t.isTrivia with
        | true => exact t.isEndOfInput_of_isTrivia ht
        | false => exact (hbody t List.mem_cons_self ht).1
      have hheader := not_atAnyHeader (fun u hu => (hsecond u hu).1) start
      have htrailer := not_atEndProgram (fun u hu => (hsecond u hu).2)
      rw [List.cons_append] at hheader htrailer
      have hrest := ih (fun u hu => hbody u (List.mem_cons_of_mem _ hu))
        (statementStartAfter start t)
      have hlength : contentLength score start (t :: body ++ ts) =
          contentLength score (statementStartAfter start t) (body ++ ts) + 1 := by
        rw [List.cons_append, contentLength, if_neg]
        simp [hend, hheader, htrailer]
      rw [hlength]
      exact ⟨Nat.succ_le_succ hrest.1, hrest.2⟩

theorem yields_content (hscore : score.TellsApart) (h : Boundary score ds ts)
    {body : List Token} (hbody : ∀ t ∈ body, Ordinary score t) (hs : s.unread = body ++ ts) :
    YieldsBefore (content score) s () ((significantTokens body).map .token) ts := by
  obtain ⟨hle, htrivia⟩ := h.contentLength_append hscore hbody s.statementStart
  rw [← hs] at hle htrivia
  have hshift := Adds.shift s (contentLength score s.statementStart s.unread)
  generalize hn : contentLength score s.statementStart s.unread = n at hle htrivia hshift
  have htake : s.unread.take n = body.take n := by rw [hs, List.take_append_of_le_length hle]
  have hdrop : s.unread.drop n = body.drop n ++ ts := by
    rw [hs, List.drop_append_of_le_length hle]
  have hwords : significantTokens (body.take n) = significantTokens body := by
    have hsplit := significantTokens_append (body.take n) (body.drop n)
    rw [List.take_append_drop, significantTokens_eq_nil htrivia, List.append_nil] at hsplit
    exact hsplit.symm
  rw [htake, hwords] at hshift
  refine ⟨s.shift n, ?_, hshift, .of_append hdrop htrivia⟩
  rw [← hn]
  rfl

theorem yields_no_content (h : Boundary score ds ts) (hs : s.unread = ts) :
    Yields (content score) s () [] ts := by
  have hshift := Adds.shift s 0
  refine ⟨s.shift 0, ?_, hshift, hs⟩
  change EStateM.Result.ok () (s.shift (contentLength score s.statementStart s.unread)) = _
  rw [hs, h.contentLength_eq_zero]

end Boundary

theorem Identification.yields_header (i : Identification score) (hs : s.unread = i.text ++ ts) :
    Yields (identificationHeader score) s i.name.token
      (List.map .token [i.opener.token, i.division.token, i.period.token, i.programId.token,
        i.namePeriod.token, i.name.token]) (i.lastPeriod.tokens ++ ts) := by
  have hopening : i.opening ∈ "PROGRAM-ID" :: reservedWords :=
    List.mem_cons_of_mem _ (identificationOpeners_subset i.opening_mem)
  simp only [text, List.cons_append, List.append_assoc, List.nil_append] at hs
  refine .word (yields_expectOneOf hs i.opener.not_trivia i.opener.not_endOfInput i.opening_mem
    (i.opener.compare_eq_exact hopening)) fun s hs => ?_
  refine i.division.read (by decide) (.of_eq hs) fun s hs => ?_
  refine i.period.read (by decide) (.of_eq hs) fun s hs => ?_
  refine i.programId.read (by decide) (.of_eq hs) fun s hs => ?_
  refine .word (i.namePeriod.allow (by decide) hs) fun s hs => ?_
  exact .silent (i.name.spaces (.of_eq hs)) fun s hs => yields_programName hs i.name.isWord

theorem Identification.yields_rest (i : Identification score) (hscore : score.TellsApart)
    (h : Boundary score Division.all ts) (hs : s.unread = i.lastPeriod.tokens ++ ts) :
    Yields (do
      spaces
      qualification score
      spaces
      allow score "."
      content score
      return i.name.token) s i.name.token [.token i.lastPeriod.token] ts := by
  refine .silent (i.lastPeriod.spaces (.of_eq hs)) fun s hs => ?_
  refine .silent (yields_qualification_of_not_accepts hs fun k hk => ?_) fun s hs => ?_
  · have hall : ∀ w ∈ "IS" :: qualifiers, w ∈ reservedWords ∧ "." ≠ w := by decide
    exact i.lastPeriod.not_accepts hscore (by decide) (hall k hk).1 (hall k hk).2
  · have hs' : s.Faces ([] ++ i.lastPeriod.token :: ts) := .of_eq hs
    refine .silent (yields_spaces hs' (by simp) i.lastPeriod.not_trivia) fun s hs => ?_
    refine .word (i.lastPeriod.allow (by decide) hs) fun s hs => ?_
    exact .silent (h.yields_no_content hs) fun s hs => .pure _ hs

/-- An identification division that ends at a boundary is read as it is written. -/
theorem Identification.yields (i : Identification score) (hscore : score.TellsApart)
    (h : Boundary score Division.all ts) (hs : s.unread = i.text ++ ts) :
    Yields (identificationDivision score) s i.name.token [i.element] ts := by
  have hheader := i.yields_header (s := s.openNode .identificationDivision) hs
  exact .inNode _ (hheader.bind fun s _ hs => i.yields_rest hscore h hs)

namespace Part

variable {d : Division} {ds : List Division}

theorem yields_header (p : Part score d) {words : List Element}
    (hs : s.unread = p.opener.token :: (p.division.tokens ++ rest))
    (hperiod : ∀ s : State, s.unread = rest → Yields (match d with
      | .procedure => Production.allow score "."
      | _ => do
        spaces
        Production.expect score ".") s () words ts) :
    Yields (divisionHeader score d) s ()
      (.token p.opener.token :: .token p.division.token :: words) ts := by
  have hopener := List.mem_cons_of_mem "PROGRAM-ID" (opener_mem_reservedWords d)
  refine .word (p.opener.expect hopener hs) fun s hs => ?_
  exact p.division.read (by decide) (.of_eq hs) hperiod

/--
The period of a header is read with it. That of the procedure division is so only where it
follows directly.
-/
theorem yields_header_with_period (p : Part score d)
    (hd : d = .procedure → p.period.before.tokens = [])
    (hs : s.unread = p.opener.token :: (p.division.tokens ++ (p.period.tokens ++ ts))) :
    Yields (divisionHeader score d) s ()
      (List.map .token [p.opener.token, p.division.token, p.period.token]) ts := by
  refine p.yields_header hs fun s hs => ?_
  have hexpect : Yields (do
      spaces
      Production.expect score ".") s () [.token p.period.token] ts :=
    .silent (p.period.spaces (.of_eq hs)) fun s hs => p.period.expect (by decide) hs
  cases d with
  | environment => exact hexpect
  | data => exact hexpect
  | procedure =>
    rw [Written.tokens, hd rfl] at hs
    exact p.period.allow (by decide) hs

theorem yields_header_without_period (p : Part score .procedure)
    (hgap : p.period.before.tokens ≠ [])
    (hs : s.unread = p.opener.token :: (p.division.tokens ++ (p.period.tokens ++ ts))) :
    Yields (divisionHeader score .procedure) s ()
      (List.map .token [p.opener.token, p.division.token]) (p.period.tokens ++ ts) := by
  refine p.yields_header hs fun s hs => ?_
  cases htokens : p.period.before.tokens with
  | nil => exact absurd htokens hgap
  | cons t gap =>
    have hreject := p.period.before.not_period t (by simp [htokens])
    rw [Written.tokens, htokens] at hs ⊢
    exact yields_allow_of_not_accepts hs hreject

theorem ordinary_period_body (p : Part score d) (hscore : score.TellsApart) :
    ∀ t ∈ p.period.tokens ++ (p.beforeBody.tokens ++ p.body.tokens), Ordinary score t := by
  intro t ht
  simp only [Written.tokens, List.mem_append, List.mem_singleton] at ht
  rcases ht with (ht | rfl) | ht | ht
  · exact p.period.before.ordinary t ht
  · exact p.period.ordinary_period hscore
  · exact p.beforeBody.ordinary t ht
  · exact p.body.ordinary t ht

/--
The header and the body of a division are read up to the last significant token of the body. A
period that is not read with the header of the procedure division is read with its body.
-/
theorem yields_inner (p : Part score d) (hscore : score.TellsApart) (h : Boundary score ds ts)
    (hs : s.unread = p.opener.token :: (p.division.tokens ++ (p.period.tokens ++
      ((p.beforeBody.tokens ++ p.body.tokens) ++ ts)))) :
    YieldsBefore (do
      divisionHeader score d
      content score) s ()
      (List.map .token ([p.opener.token, p.division.token, p.period.token] ++
        significantTokens p.body.tokens)) ts := by
  have hordinary := p.ordinary_period_body hscore
  have hwords : significantTokens (p.beforeBody.tokens ++ p.body.tokens) =
      significantTokens p.body.tokens := by
    rw [significantTokens_append, significantTokens_eq_nil p.beforeBody.isTrivia,
      List.nil_append]
  have hbody : ∀ s : State, s.unread = p.beforeBody.tokens ++ p.body.tokens ++ ts →
      YieldsBefore (content score) s () ((significantTokens p.body.tokens).map .token) ts := by
    intro s hs
    have hcontent :=
      h.yields_content hscore (fun t ht => hordinary t (List.mem_append_right _ ht)) hs
    rwa [hwords] at hcontent
  by_cases hperiod : d = .procedure → p.period.before.tokens = []
  · rw [List.map_append]
    exact .bind (p.yields_header_with_period hperiod hs) hbody
  · obtain ⟨rfl, hgap⟩ := Classical.not_imp.1 hperiod
    refine .bind (p.yields_header_without_period hgap hs) fun s hs => ?_
    have hcontent := h.yields_content hscore hordinary (hs.trans (List.append_assoc ..).symm)
    rwa [significantTokens_append, hwords, Written.significantTokens] at hcontent

/-- A division that ends at a boundary is read as it is written. -/
theorem yields (p : Part score d) (hscore : score.TellsApart) (h : Boundary score ds ts)
    (hs : s.Faces (p.tokens ++ ts)) :
    YieldsBefore (Production.division score d) s () [p.element] ts := by
  have hspaces : Yields spaces s () []
      (p.opener.token :: (p.division.tokens ++ (p.period.tokens ++
      ((p.beforeBody.tokens ++ p.body.tokens) ++ ts)))) :=
    p.opener.spaces (by simpa [tokens] using hs)
  exact .bind hspaces fun s hs => .inNode _ (p.yields_inner hscore h hs)

end Part

theorem Trailer.yields_words (r : Trailer score) (hs : s.Faces (r.tokens ++ ts)) :
    Yields (endProgramWords score) s r.name.token r.elements ts := by
  simp only [tokens, List.append_assoc] at hs
  refine r.ending.read (by decide) hs fun s hs => ?_
  refine r.program.read (by decide) (.of_eq hs) fun s hs => ?_
  refine .silent (r.name.spaces (.of_eq hs)) fun s hs =>
    .word (yields_programName hs r.name.isWord) fun s hs => ?_
  exact r.period.read (by decide) (.of_eq hs) fun s hs => .pure _ hs

/-- A trailer with the name of the unit that it closes is read without a word on it. -/
theorem Trailer.yields (r : Trailer score) {names : List String}
    (hnames : s.openNames = upper r.name.token.lexeme :: names)
    (hs : s.Faces (r.tokens ++ ts)) :
    Yields (endProgram score) s () r.elements ts := by
  have hcheck : ∀ s' : State, Adds s r.elements s' → s'.unread = ts →
      Yields (modify (checkTrailer r.name.token)) s' () [] ts := by
    intro s' hadds hs'
    have hquiet : checkTrailer r.name.token s' = s' := by
      simp [checkTrailer, hadds.openNames, hnames, r.name.programNameOf_token]
    refine ⟨s', ?_, .refl s', hs'⟩
    change EStateM.Result.ok () (checkTrailer r.name.token s') = _
    rw [hquiet]
  have hyields := (r.yields_words hs).bind (f := fun name => modify (checkTrailer name)) hcheck
  rwa [List.append_nil] at hyields

/-- What lookahead sees of a trailer. -/
theorem Trailer.significantTokens_append (r : Trailer score) (ts : List Token) :
    significantTokens (r.tokens ++ ts) =
      r.ending.token :: r.program.token :: r.name.token :: r.period.token ::
        significantTokens ts := by
  simp [tokens]

/-- What lookahead sees of the header of a division. -/
theorem Part.significantTokens_append {d : Division} (p : Part score d) (ts : List Token) :
    significantTokens (p.tokens ++ ts) =
      p.opener.token :: p.division.token :: p.period.token ::
        significantTokens (p.beforeBody.tokens ++ p.body.tokens ++ ts) := by
  simp [tokens]

/-- What lookahead sees of the header of an identification division. -/
theorem Identification.significantTokens_append (i : Identification score) (ts : List Token) :
    significantTokens (i.text ++ ts) =
      i.opener.token :: i.division.token :: i.period.token ::
        significantTokens (i.programId.tokens ++
          i.namePeriod.token :: (i.name.tokens ++ i.lastPeriod.tokens) ++ ts) := by
  have hopener := significantTokens_cons_of_significant i.opener.not_trivia
  simp [text, hopener]

/-- The header of a division that is there is seen. -/
theorem Part.atDivisionHeader {d : Division} (p : Part score d) (ts : List Token) :
    atDivisionHeader score d (p.tokens ++ ts) := by
  have hopener := p.opener.accepts score (opener_mem_reservedWords d)
  have hdivision := p.division.accepts score (by decide)
  have hperiod := p.period.accepts score (by decide)
  cases d <;>
    simp [Parse.atDivisionHeader, atPeriodHeader, looksLike_eq_agrees,
      p.significantTokens_append, agrees, Ahead.test, hopener, hdivision, hperiod]

theorem Identification.atIdentificationHeader (i : Identification score) (ts : List Token) :
    atIdentificationHeader score (i.text ++ ts) := by
  have hopener := i.opener.accepts score (identificationOpeners_subset i.opening_mem)
  have hdivision := i.division.accepts score (by decide)
  have hperiod := i.period.accepts score (by decide)
  refine List.any_eq_true.2 ⟨i.opening, i.opening_mem, ?_⟩
  simp [atPeriodHeader, looksLike_eq_agrees, i.significantTokens_append, agrees,
    Ahead.test, hopener, hdivision, hperiod]

theorem Trailer.atEndProgram (r : Trailer score) (ts : List Token) :
    atEndProgram score (r.tokens ++ ts) := by
  have hending := r.ending.accepts score (by decide)
  have hprogram := r.program.accepts score (by decide)
  simp [Parse.atEndProgram, looksLike_eq_agrees, r.significantTokens_append, agrees, Ahead.test,
    hending, hprogram]

namespace Boundary

variable {ds : List Division}

/-- More divisions that may still come leave a boundary as it is. -/
theorem mono {ds' : List Division} (h : Boundary score ds ts) (hds : ds ⊆ ds') :
    Boundary score ds' ts := by
  obtain ⟨t, rest, hts, hword⟩ := h.head
  refine ⟨⟨t, rest, hts, ?_⟩, h.sees⟩
  rcases List.mem_append.1 hword with hword | hword
  · exact List.mem_append_left _ (List.map_subset _ hds hword)
  · exact List.mem_append_right _ hword

theorem trailer (r : Trailer score) (ts : List Token) : Boundary score ds (r.tokens ++ ts) := by
  refine ⟨⟨_, _, r.significantTokens_append ts, ?_⟩, fun start => ?_⟩
  · rw [r.ending.upper_lexeme]
    simp [openings]
  · rw [r.atEndProgram, Bool.or_true]

theorem identification (i : Identification score) (ts : List Token) :
    Boundary score ds (i.text ++ ts) := by
  refine ⟨⟨_, _, i.significantTokens_append ts, ?_⟩, fun start => ?_⟩
  · rw [i.opener.upper_lexeme]
    have hopening := i.opening_mem
    simp only [identificationOpeners, List.mem_cons, List.not_mem_nil, or_false] at hopening
    rcases hopening with hopening | hopening <;> simp [openings, hopening]
  · simp [atAnyHeader, i.atIdentificationHeader]

theorem part {d : Division} (p : Part score d) (hd : d ∈ ds) (ts : List Token) :
    Boundary score ds (p.tokens ++ ts) := by
  refine ⟨⟨_, _, p.significantTokens_append ts, ?_⟩, fun start => ?_⟩
  · rw [p.opener.upper_lexeme]
    exact List.mem_append_left _ (List.mem_map_of_mem hd)
  · have hall : d ∈ Division.all := by cases d <;> decide
    have hheader : Division.all.any (atDivisionHeader score · (p.tokens ++ ts)) :=
      List.any_eq_true.2 ⟨d, hall, p.atDivisionHeader ts⟩
    simp [atAnyHeader, hheader]

theorem partTokens (parts : (d : Division) → Option (Part score d)) (h : Boundary score [] ts) :
    Boundary score ds (partTokens parts ds ++ ts) := by
  induction ds with
  | nil => exact h
  | cons d ds ih =>
    cases hpart : parts d with
    | none =>
      rw [partTokens_cons_of_none ds hpart]
      exact ih.mono (List.subset_cons_self d ds)
    | some p =>
      rw [partTokens_cons_of_some ds hpart, List.append_assoc]
      exact part p List.mem_cons_self _

theorem tokensAll (us : List (Program score)) (r : Trailer score) (ts : List Token) :
    Boundary score ds (Program.tokensAll us ++ (r.tokens ++ ts)) := by
  cases us with
  | nil => exact trailer r ts
  | cons u us =>
    obtain ⟨i, parts, nested, last, sameName⟩ := u
    simp only [Program.tokensAll, Program.text, Program.identification, List.append_assoc]
    exact (identification i _).append_left i.opener.before.isTrivia

end Boundary

end Listing

end CobolCompanion
