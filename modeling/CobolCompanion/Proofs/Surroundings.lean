import CobolCompanion.Proofs.Coupling

namespace CobolCompanion

open Parse

namespace Parse

section
variable {score : Similarity} {ts : List Token}

theorem agrees_append {pattern : List Ahead} (h : pattern.length ≤ ts.length)
    (us : List Token) :
    agrees score pattern (ts ++ us) = agrees score pattern ts := by
  induction pattern generalizing ts with
  | nil => rfl
  | cons expected pattern ih =>
    cases ts with
    | nil => simp at h
    | cons t ts =>
      rw [List.cons_append, agrees, agrees, ih (by simpa using h)]

section
variable (h : 3 ≤ (significantTokens ts).length) (us : List Token)
include h

theorem looksLike_append {pattern : List Ahead} (hpattern : pattern.length ≤ 3) :
    looksLike score pattern (ts ++ us) = looksLike score pattern ts := by
  rw [looksLike_eq_agrees, looksLike_eq_agrees, significantTokens_append,
    agrees_append (Nat.le_trans hpattern h)]

theorem atDivisionHeader_append (d : Division) :
    atDivisionHeader score d (ts ++ us) = atDivisionHeader score d ts := by
  cases d <;> exact looksLike_append h us (by simp)

theorem atIdentificationHeader_append :
    atIdentificationHeader score (ts ++ us) = atIdentificationHeader score ts := by
  have hheader (opener : String) :
      atPeriodHeader score opener (ts ++ us) = atPeriodHeader score opener ts :=
    looksLike_append h us (by simp)
  simp only [atIdentificationHeader, hheader]

theorem atAnyHeader_append (start : Bool) :
    atAnyHeader score start (ts ++ us) = atAnyHeader score start ts := by
  have hother : looksLike score [.anyWord, .exactly "DIVISION", .exactly "."] (ts ++ us) =
      looksLike score [.anyWord, .exactly "DIVISION", .exactly "."] ts :=
    looksLike_append h us (by simp)
  simp only [atAnyHeader, atDivisionHeader_append h, atIdentificationHeader_append h, hother]

theorem atEndProgram_append : atEndProgram score (ts ++ us) = atEndProgram score ts :=
  looksLike_append h us (by simp)

end

theorem contentLength_le (start : Bool) (ts : List Token) :
    contentLength score start ts ≤ ts.length := by
  induction ts generalizing start with
  | nil => simp [contentLength]
  | cons t ts ih =>
    unfold contentLength
    split
    · omega
    · exact Nat.succ_le_succ (ih _)

/-- The body of a division ends alike whatever comes, if enough is left between. -/
theorem contentLength_append {start : Bool} {rest w : List Token}
    (hdrop : (ts ++ rest).drop (contentLength score start (ts ++ rest)) = w ++ rest)
    (hw : 3 ≤ (significantTokens w).length) :
    contentLength score start (ts ++ rest) = contentLength score start ts := by
  have hsplit : ts = (ts ++ rest).take (contentLength score start (ts ++ rest)) ++ w := by
    apply List.append_cancel_right
    rw [List.append_assoc, ← hdrop, List.take_append_drop]
  induction ts generalizing start with
  | nil =>
    have hnil : w = [] := (List.append_eq_nil_iff.1 hsplit.symm).2
    simp [hnil] at hw
  | cons t ts ih =>
    have hmany : 3 ≤ (significantTokens (t :: ts)).length := by
      rw [hsplit, significantTokens_append, List.length_append]
      omega
    have hany := @atAnyHeader_append score _ hmany rest start
    have hend := @atEndProgram_append score _ hmany rest
    rw [List.cons_append] at hany hend hdrop hsplit ⊢
    rw [contentLength, hany, hend] at hdrop hsplit ⊢
    rw [contentLength]
    split
    · rfl
    · next hboundary =>
      rw [if_neg hboundary] at hdrop hsplit
      refine congrArg (· + 1) (ih hdrop ?_)
      simpa using hsplit

end

/-- What surrounds a part of a text. -/
structure Surroundings where
  /-- The tokens behind the part. -/
  rest : List Token
  /-- The nodes that are open around it. -/
  frames : List Frame
  /-- The names of the units that are open around it. -/
  names : List String
  /-- What was found before it. -/
  findings : List Diagnostic
  /-- How the two roots correspond. They are not touched inside a unit. -/
  roots : Frame → Frame → Prop
  /-- The part reaches to the end of the text, so that both parsers may come upon it. -/
  final : Prop
  rest_eq_nil : final → rest = []

namespace Surroundings

/-- A state inside the surroundings, and the same without them. -/
structure Embeds (e : Surroundings) (s t : State) : Prop where
  unread : s.unread = t.unread ++ e.rest
  sentinel : s.stream.sentinel.isEndOfInput
  sentinels : s.stream.sentinel.Alike t.stream.sentinel
  same : e.final → s.stream.sentinel = t.stream.sentinel
  frames : s.context.frames = t.context.frames ++ e.frames
  inside : t.context.frames ≠ []
  roots : e.roots s.context.root t.context.root
  openNames : s.openNames = t.openNames ++ e.names
  diagnostics : s.diagnostics = e.findings ++ t.diagnostics

/-- Two parsers of which one works inside surroundings and the other without them. -/
def coupling (e : Surroundings) : Coupling where
  pair a b := a.Alike b ∧ (a.isEndOfInput = false ∨ e.final → a = b)
  loose s t := e.Embeds s t ∧ s.statementStart = t.statementStart
  fresh s t := e.Embeds s t ∧ (s.peek.isTrivia = false ∨ s.statementStart = t.statementStart)
  failed := e.Embeds
  live u := e.rest <:+ u
  ample u := ∃ w, u = w ++ e.rest ∧ (e.rest = [] ∨ 3 ≤ (significantTokens w).length)
  tolerant := e.final

variable {e : Surroundings} {s t : State}

namespace Embeds

theorem report (h : e.Embeds s t) (ds : List Diagnostic) :
    e.Embeds (s.report ds) (t.report ds) :=
  { h with diagnostics := by simp [State.report, h.diagnostics] }

/-- The node that is being built is the same on both sides. -/
theorem modify (h : e.Embeds s t) (change : Node → Node) :
    e.Embeds { s with context := s.context.modify change }
      { t with context := t.context.modify change } := by
  obtain ⟨f, fs, hframes⟩ := List.exists_cons_of_ne_nil h.inside
  have hframes' : s.context.frames = f :: (fs ++ e.frames) := by
    rw [h.frames, hframes, List.cons_append]
  refine { h with frames := ?_, inside := ?_, roots := ?_ }
  · change (s.context.modify change).frames = (t.context.modify change).frames ++ e.frames
    rw [Context.frames_modify_eq_cons hframes, Context.frames_modify_eq_cons hframes',
      List.cons_append]
  · change (t.context.modify change).frames ≠ []
    rw [Context.frames_modify_eq_cons hframes]
    simp
  · change e.roots (s.context.modify change).root (t.context.modify change).root
    rw [Context.root_modify (by simp [hframes']), Context.root_modify h.inside]
    exact h.roots

/-- The same tokens are read on both sides. -/
theorem shift (h : e.Embeds s t) {n : Nat} (hn : n ≤ t.unread.length) :
    e.Embeds (s.shift n) (t.shift n) := by
  have htake : s.unread.take n = t.unread.take n := by
    rw [h.unread, List.take_append_of_le_length hn]
  have hmodify := h.modify (·.pushTokens (t.unread.take n))
  refine { hmodify with unread := ?_, frames := ?_, roots := ?_ }
  · rw [State.unread_shift, State.unread_shift, h.unread, List.drop_append_of_le_length hn]
  · change (s.context.modify (·.pushTokens (s.unread.take n))).frames = _
    rw [htake]
    exact hmodify.frames
  · change e.roots (s.context.modify (·.pushTokens (s.unread.take n))).root _
    rw [htake]
    exact hmodify.roots

theorem statementStart_shift (h : e.Embeds s t) {n : Nat} (hn : n ≤ t.unread.length)
    (hstart : s.statementStart = t.statementStart) :
    (s.shift n).statementStart = (t.shift n).statementStart := by
  change (s.unread.take n).foldl statementStartAfter s.statementStart =
    (t.unread.take n).foldl statementStartAfter t.statementStart
  rw [h.unread, List.take_append_of_le_length hn, hstart]

theorem openNode (h : e.Embeds s t) (kind : NodeKind) :
    e.Embeds (s.openNode kind) (t.openNode kind) :=
  { h with
    frames := by simp [State.openNode, Context.push, h.frames]
    inside := by simp [State.openNode, Context.push] }

theorem closeNode (h : e.Embeds s t) (hdepth : 1 < t.context.frames.length) :
    e.Embeds s.closeNode t.closeNode := by
  obtain ⟨f, fs, hframes⟩ := List.exists_cons_of_ne_nil h.inside
  have hfs : fs ≠ [] := by
    rintro rfl
    simp [hframes] at hdepth
  have hinner : e.Embeds
      { s with context := { s.context with frames := fs ++ e.frames } }
      { t with context := { t.context with frames := fs } } :=
    { h with frames := rfl, inside := hfs }
  have hclose := hinner.modify (·.push f.node.toElement)
  have hs : s.closeNode = { s with context :=
      ({ s.context with frames := fs ++ e.frames }).modify (·.push f.node.toElement) } := by
    simp [State.closeNode, Context.close, Context.pop?, h.frames, hframes]
  have ht : t.closeNode = { t with context :=
      ({ t.context with frames := fs }).modify (·.push f.node.toElement) } := by
    simp [State.closeNode, Context.close, Context.pop?, hframes]
  rw [hs, ht]
  exact hclose

/-- The innermost of several units of the part is closed alike. -/
theorem leaveUnit (h : e.Embeds s t) (hdepth : 1 < t.context.frames.length)
    (hnames : e.names = [] ∨ t.openNames ≠ []) : e.Embeds s.leaveUnit t.leaveUnit := by
  refine { h.closeNode hdepth with openNames := ?_ }
  change s.openNames.tail = t.openNames.tail ++ e.names
  rw [h.openNames]
  rcases hnames with hnames | hnames
  · rw [hnames, List.append_nil, List.append_nil]
  · exact List.tail_append_of_ne_nil hnames

theorem pair_peek (h : e.Embeds s t) (hlive : e.rest <:+ s.unread.drop 1) :
    e.coupling.pair s.peek t.peek := by
  cases ht : t.unread with
  | cons x rest =>
    have hs : s.unread = x :: (rest ++ e.rest) := by rw [h.unread, ht, List.cons_append]
    rw [State.peek_eq hs, State.peek_eq ht]
    exact ⟨.of_lexeme rfl rfl, fun _ => rfl⟩
  | nil =>
    have hs : s.unread = e.rest := by rw [h.unread, ht, List.nil_append]
    have hrest : e.rest = [] := by
      rw [hs] at hlive
      have hlength := hlive.length_le
      rw [List.length_drop] at hlength
      exact List.length_eq_zero_iff.1 (by omega)
    rw [hrest] at hs
    rw [State.peek_of_exhausted hs, State.peek_of_exhausted ht]
    refine ⟨h.sentinels, fun hsame => hsame.elim (fun hend => ?_) h.same⟩
    simp [h.sentinel] at hend

theorem length_pos (h : e.Embeds s t) (hlive : e.rest <:+ s.unread.drop 1)
    (hend : s.peek.isEndOfInput = false) : 1 ≤ t.unread.length := by
  obtain ⟨rest, hrest⟩ := s.unread_eq_cons h.sentinel hend
  have hlength := hlive.length_le
  rw [List.length_drop, h.unread, List.length_append] at hlength
  have hpos : 0 < (t.unread ++ e.rest).length := by
    rw [← h.unread, hrest]
    simp
  rw [List.length_append] at hpos
  omega

theorem triviaLength_eq (h : e.Embeds s t) (hlive : e.rest <:+ s.shiftTrivia.unread) :
    triviaLength s.unread = triviaLength t.unread := by
  rw [State.unread_shiftTrivia, h.unread] at hlive
  rw [h.unread, triviaLength, triviaLength]
  by_cases hall : ∀ u ∈ t.unread, u.isTrivia
  · rw [List.dropWhile_append_of_pos hall] at hlive
    have hlength := congrArg List.length
      (List.takeWhile_append_dropWhile (p := Token.isTrivia) (l := e.rest))
    rw [List.length_append] at hlength
    have hle := hlive.length_le
    have hself : t.unread.takeWhile Token.isTrivia = t.unread :=
      List.takeWhile_eq_self_iff.2 hall
    rw [List.takeWhile_append_of_pos hall, hself, List.length_append]
    omega
  · rw [List.takeWhile_append, if_neg]
    intro heq
    apply hall
    have hself := (List.takeWhile_prefix Token.isTrivia (l := t.unread)).eq_of_length heq
    exact fun u hu => List.all_eq_true.1 List.all_takeWhile u (hself.symm ▸ hu)

end Embeds

variable {score : Similarity}

theorem isGuard_live : e.coupling.IsGuard e.coupling.live where
  of_suffix := fun hu hsuffix => List.IsSuffix.trans hu hsuffix
  of_tolerant := fun hfinal u => by
    change e.rest <:+ u
    rw [e.rest_eq_nil hfinal]
    exact List.nil_suffix

theorem isGuard_ample : e.coupling.IsGuard e.coupling.ample where
  of_suffix := by
    rintro u v ⟨w, rfl, hw⟩ ⟨x, rfl⟩
    refine ⟨x ++ w, by rw [List.append_assoc], hw.imp_right fun hmany => ?_⟩
    rw [significantTokens_append, List.length_append]
    omega
  of_tolerant := fun hfinal u => by
    have hrest := e.rest_eq_nil hfinal
    exact ⟨u, by rw [hrest, List.append_nil], .inl hrest⟩

theorem live_of_ample {u : List Token} (h : e.coupling.ample u) :
    e.coupling.live (u.drop 1) := by
  obtain ⟨w, rfl, hrest | hmany⟩ := h
  · change e.rest <:+ _
    rw [hrest]
    exact List.nil_suffix
  · cases w with
    | nil => simp at hmany
    | cons x w => exact List.suffix_append w e.rest

theorem Embeds.ample_iff (h : e.Embeds s t) (hample : e.coupling.ample s.unread) :
    e.rest = [] ∨ 3 ≤ (significantTokens t.unread).length := by
  obtain ⟨w, hw, hmany⟩ := hample
  rw [h.unread] at hw
  rwa [List.append_cancel_right hw]

theorem Embeds.seesAlike (h : e.Embeds s t) (hstart : s.statementStart = t.statementStart)
    (hample : e.coupling.ample s.unread) : SeesAlike score s t := by
  rcases h.ample_iff hample with hrest | hmany
  · have hunread : s.unread = t.unread := by rw [h.unread, hrest, List.append_nil]
    exact ⟨fun d => by rw [hunread], by rw [hunread], by rw [hunread, hstart], by rw [hunread]⟩
  · refine ⟨fun d => ?_, ?_, ?_, ?_⟩ <;> rw [h.unread]
    · exact atDivisionHeader_append hmany _ d
    · exact atIdentificationHeader_append hmany _
    · rw [hstart]
      exact atAnyHeader_append hmany _ _
    · exact atEndProgram_append hmany _

theorem Embeds.contentLength_eq (h : e.Embeds s t) {start : Bool}
    (hample : e.coupling.ample (s.unread.drop (contentLength score start s.unread))) :
    contentLength score start s.unread = contentLength score start t.unread := by
  obtain ⟨w, hw, hrest | hmany⟩ := hample
  · rw [h.unread, hrest, List.append_nil]
  · rw [h.unread] at hw ⊢
    exact contentLength_append hw hmany

theorem loose_shift (h : e.coupling.loose s t) {n : Nat} (hn : n ≤ t.unread.length) :
    e.coupling.loose (s.shift n) (t.shift n) :=
  ⟨h.1.shift hn, h.1.statementStart_shift hn h.2⟩

theorem loose_shift_one (h : e.coupling.fresh s t) (hend : s.peek.isEndOfInput = false)
    (hn : 1 ≤ t.unread.length) : e.coupling.loose (s.shift 1) (t.shift 1) := by
  rcases h.2 with htrivia | hstart
  · refine ⟨h.1.shift hn, ?_⟩
    obtain ⟨rest, hrest⟩ := s.unread_eq_cons h.1.sentinel hend
    change (s.unread.take 1).foldl statementStartAfter s.statementStart =
      (t.unread.take 1).foldl statementStartAfter t.statementStart
    have htake : t.unread.take 1 = s.unread.take 1 := by
      rw [h.1.unread, List.take_append_of_le_length hn]
    rw [htake, hrest]
    simp [statementStartAfter, htrivia, hend]
  · exact loose_shift ⟨h.1, hstart⟩ hn

theorem keeps_coupling : e.coupling.Keeps score where
  alike := fun h => h.1
  live := isGuard_live
  ample := isGuard_ample
  live_of_ample := live_of_ample
  inside := fun {s t} h => by
    refine ⟨h.1.inside, ?_⟩
    rw [← h.1.sentinels.isEndOfInput_eq]
    exact h.1.sentinel
  peek := fun h hlive => h.1.pair_peek hlive
  settle := fun {s t} h hlive => by
    have hlength := h.1.triviaLength_eq hlive
    have hle : triviaLength t.unread ≤ t.unread.length := (List.takeWhile_prefix _).length_le
    have hshift := loose_shift h hle
    have hs : s.shiftTrivia = s.shift (triviaLength t.unread) := by
      rw [State.shiftTrivia, hlength]
    rw [← hs] at hshift
    exact ⟨hshift, hshift.1, .inl (s.isTrivia_peek_shiftTrivia h.1.sentinel)⟩
  take := fun {s t} keyword h hend hlive => by
    have hn := h.1.length_pos hlive hend
    cases keyword with
    | none => exact loose_shift_one h hend hn
    | some keyword =>
      have hpeek : s.peek = t.peek := (h.1.pair_peek hlive).2 (.inl hend)
      have hreport : e.coupling.fresh (s.report (Keyword.warnings keyword.1 s.peek keyword.2))
          (t.report (Keyword.warnings keyword.1 t.peek keyword.2)) := by
        rw [← hpeek]
        exact ⟨h.1.report _, h.2⟩
      exact loose_shift_one hreport hend hn
  refuse := fun {s t} c h hfinal => by
    have hlive : e.rest <:+ s.unread.drop 1 := isGuard_live.of_tolerant hfinal _
    rw [← (h.1.pair_peek hlive).2 (.inr hfinal)]
    exact h.1.report _
  openNode := fun kind h => ⟨h.1.openNode kind, h.2⟩
  closeNode := fun h hdepth => ⟨h.1.closeNode hdepth, h.2⟩
  closeFailed := fun h hdepth => h.closeNode hdepth
  body := by
    refine ⟨Production.performs_content, fun {s t a s'} h hrun hample => ?_,
      fun _ hrun _ => by cases hrun⟩
    cases hrun
    have hlength := h.1.contentLength_eq hample
    refine ⟨(), _, rfl, trivial, ?_⟩
    dsimp only
    rw [hlength, h.2]
    exact loose_shift h (contentLength_le _ _)

theorem sound_coupling : e.coupling.Sound score := by
  refine keeps_coupling.sound_of_tight (fun h => ⟨h.1, .inr h.2⟩)
    (fun h => h.1.seesAlike h.2) ?_ ?_
  · rintro s t a b ⟨h, hstart⟩ ⟨⟨-, hsame⟩, hend⟩
    rw [hsame (.inl hend)]
    refine ⟨{ h.modify ({ · with name := some (programNameOf b) }) with openNames := ?_ },
      hstart⟩
    simp [State.named, h.openNames]
  · rintro s t a b ⟨h, hstart⟩ hnames ⟨⟨-, hsame⟩, hend⟩
    rw [hsame (.inl hend)]
    obtain ⟨own, names, hown⟩ := List.exists_cons_of_ne_nil hnames
    have hown' : s.openNames = own :: (names ++ e.names) := by
      rw [h.openNames, hown, List.cons_append]
    have hcurrent : s.context.current = t.context.current := by
      obtain ⟨f, fs, hframes⟩ := List.exists_cons_of_ne_nil h.inside
      simp [Context.current, Context.top, h.frames, hframes]
    simp only [Production.checkTrailer, hown, hown', hcurrent]
    split
    · exact ⟨h, hstart⟩
    · exact ⟨h.report _, hstart⟩

end Surroundings

end Parse

end CobolCompanion
