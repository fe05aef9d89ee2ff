import CobolCompanion.Proofs.UnitOrigins
import CobolCompanion.Proofs.UnitSites

namespace CobolCompanion

open Parse

namespace Parse

variable {score : Similarity}

/-- The body of a division cannot go on here. -/
def AtBoundary (score : Similarity) (s : State) : Prop :=
  contentLength score s.statementStart s.unread = 0

theorem contentLength_drop (start : Bool) (unread : List Token) :
    contentLength score
      ((unread.take (contentLength score start unread)).foldl statementStartAfter start)
      (unread.drop (contentLength score start unread)) = 0 := by
  induction unread generalizing start with
  | nil => rfl
  | cons t ts ih =>
    by_cases h : t.isEndOfInput || atAnyHeader score start (t :: ts) ||
      atEndProgram score (t :: ts)
    · have hzero : contentLength score start (t :: ts) = 0 := by rw [contentLength, if_pos h]
      rw [hzero]
      exact hzero
    · have hmore : contentLength score start (t :: ts) =
          contentLength score (statementStartAfter start t) ts + 1 := by
            rw [contentLength, if_neg h]
      rw [hmore]
      exact ih (statementStartAfter start t)

end Parse

namespace Production

variable {α β : Type} {score : Similarity}

/-- Where a production succeeds, it has read up to a boundary. -/
def Exhausts (score : Similarity) (p : Production α) : Prop :=
  ∀ s a s', p s = .ok a s' → AtBoundary score s'

theorem exhausts_content : Exhausts score (content score) := by
  intro s a s' h
  cases h
  exact contentLength_drop s.statementStart s.unread

namespace Exhausts

theorem bind {p : Production α} {f : α → Production β} (hf : ∀ a, Exhausts score (f a)) :
    Exhausts score (p >>= f) := by
  intro s b s' h
  obtain ⟨a, s₁, -, h⟩ := exists_ok_of_bind h
  exact hf a s₁ b s' h

theorem andReturn {p : Production α} (hp : Exhausts score p) (b : β) :
    Exhausts score (p >>= fun _ => pure b) := by
  intro s b' s' h
  obtain ⟨a, s₁, h₁, h⟩ := exists_ok_of_bind h
  cases h
  exact hp s a _ h₁

theorem inNode {p : Production α} (hp : Exhausts score p) (kind : NodeKind) :
    Exhausts score (inNode kind p) := by
  intro s a s' h
  unfold Production.inNode at h
  cases hrun : p (s.openNode kind) with
  | ok b s₁ =>
    rw [hrun] at h
    cases h
    exact hp _ a s₁ hrun
  | error f s₁ =>
    rw [hrun] at h
    cases h

end Exhausts

theorem exhausts_identificationDivision : Exhausts score (identificationDivision score) := by
  apply Exhausts.inNode
  apply Exhausts.bind
  intro name
  exact .bind fun _ => .bind fun _ => .bind fun _ => .bind fun _ =>
    exhausts_content.andReturn name

theorem exhausts_division (d : Division) : Exhausts score (division score d) := by
  apply Exhausts.bind
  intro _
  apply Exhausts.inNode
  exact .bind fun _ => exhausts_content

end Production

namespace Parse

variable {score : Similarity} {s s' : State}

theorem atBoundary_of_openUnit (h : openUnit score s = .ok () s') : AtBoundary score s' := by
  rw [openUnit_run] at h
  cases hrun : Production.identificationDivision score (s.openNode .programUnit) with
  | ok name s₁ =>
    rw [hrun] at h
    cases h
    exact Production.exhausts_identificationDivision _ name s₁ hrun
  | error f s₁ =>
    rw [hrun] at h
    cases h

/-- At a boundary that is no header there is the end of the text, or a trailer. -/
theorem FacesEnd.atEndProgram (hend : FacesEnd score s) (h : AtBoundary score s)
    (hunread : ∀ t ∈ s.unread, t.isEndOfInput = false) :
    s.unread = [] ∨ atEndProgram score s.unread := by
  have hheader := hend.noHeader
  rw [AtBoundary] at h
  cases hs : s.unread with
  | nil => exact .inl rfl
  | cons t ts =>
    rw [hs] at h hheader hunread
    right
    rw [contentLength] at h
    split at h
    · next hboundary => simpa [hunread t List.mem_cons_self, hheader] using hboundary
    · cases h

theorem exists_words_of_atEndProgram {unread : List Token} (h : atEndProgram score unread) :
    ∃ ending program rest, significantTokens unread = ending :: program :: rest ∧
      Keyword.accepts score ending "END" ∧ Keyword.accepts score program "PROGRAM" := by
  rw [Parse.atEndProgram, looksLike_eq_agrees] at h
  match hwords : significantTokens unread with
  | [] =>
    rw [hwords] at h
    cases h
  | [ending] =>
    rw [hwords] at h
    simp [agrees] at h
  | ending :: program :: rest =>
    rw [hwords] at h
    simp only [agrees, Ahead.test, Bool.and_eq_true, Bool.and_true] at h
    exact ⟨ending, program, rest, rfl, h.1, h.2⟩

/-- A trailer closes an enclosing unit if it names one of these and not the innermost unit. -/
theorem State.trailerClosesEnclosing_iff {own : String} {enclosing : List String}
    (h : s.openNames = own :: enclosing) :
    s.trailerClosesEnclosing ↔ ∃ name, (significantTokens s.unread)[2]? = some name ∧
      upper (programNameOf name) ≠ own ∧ upper (programNameOf name) ∈ enclosing := by
  have hthird : (firstSignificant 3 s.unread)[2]? = (significantTokens s.unread)[2]? := by
    rw [firstSignificant_eq_take, List.getElem?_take_of_lt (by omega)]
  rw [trailerClosesEnclosing, hthird, h]
  cases (significantTokens s.unread)[2]? with
  | none => simp
  | some name => simp [@eq_comm _ own]

end Parse

/-- The words of a trailer, and the one of them that names a program. -/
inductive IsTrailer (score : Similarity) : List Token → Token → Prop where
  | intro {ending program name period : Token} (hending : Keyword.accepts score ending "END")
      (hprogram : Keyword.accepts score program "PROGRAM") (hname : name.isTerminator = false)
      (hperiod : Keyword.accepts score period ".") :
      IsTrailer score [ending, program, name, period] name

theorem IsTrailer.third {score : Similarity} {words : List Token} {name : Token}
    (h : IsTrailer score words name) :
    words[2]? = some name := by
  cases h
  rfl

def Node.misnamed? (n : Node) : Option Token :=
  if n.kind = .programUnit then
    n.trailer[2]?.filter fun name => upper (programNameOf name) != n.programName
  else none

theorem Node.mem_misnamed? {n : Node} {name : Token} :
    name ∈ n.misnamed? ↔ n.kind = .programUnit ∧ n.trailer[2]? = some name ∧
      upper (programNameOf name) ≠ n.programName := by
  by_cases h : n.kind = .programUnit
  · simp [misnamed?, h]
  · simp [misnamed?, h]

/-- A unit stands where its trailer, or the lack of one, allows it. -/
structure Site.Sound (score : Similarity) (site : Site) : Prop where
  words : site.unit.trailer = [] ∨ ∃ name, IsTrailer score site.unit.trailer name
  last : ∃ (body : List Element) (tail : List Token), site.unit.children =
    body ++ tail.map .token ∧
    ∀ t, .token t ∈ body → t.isTrivia
  owned : ∀ name ∈ site.unit.misnamed?, upper (programNameOf name) ∉ site.enclosing
  left : site.unit.trailer = [] → (∀ m ∈ site.unit.childNodes, m.kind ≠ .programUnit) →
    significantTokens site.after = [] ∨
      ∃ ending program name rest, significantTokens site.after =
        ending :: program :: name :: rest ∧
        Keyword.accepts score ending "END" ∧ Keyword.accepts score program "PROGRAM" ∧
        upper (programNameOf name) ≠ site.unit.programName ∧
        upper (programNameOf name) ∈ site.enclosing

namespace Parse

variable {score : Similarity} {s s' : State}

theorem exists_trailer_of_endProgram (h : Production.endProgram score s = .ok () s')
    (hs : s.stream.sentinel.isEndOfInput) :
    ∃ ts name s₁, Reads s (ts.map .token) s₁ ∧ IsTrailer score (significantTokens ts) name ∧
      s' = Production.checkTrailer name s₁ := by
  obtain ⟨name, s₁, hwords, h⟩ := Production.exists_ok_of_bind h
  obtain ⟨ts, ending, program, period, hreads, hts, hending, hprogram, hperiod, hname⟩ :=
    Production.exists_reads_of_endProgramWords hs hwords
  cases h
  refine ⟨ts, name, s₁, hreads, ?_, rfl⟩
  rw [hts]
  exact .intro hending hprogram hname hperiod

def Context.titles (c : Context) : List String :=
  c.frames.map (·.node.programName)

theorem Context.titles_eq_cons {c : Context} {f : Frame} {fs : List Frame}
    (h : c.frames = f :: fs) :
    c.titles = f.node.programName :: fs.map (·.node.programName) := by
  rw [titles, h]
  rfl

theorem Context.titles_pushAll (c : Context) (es : List Element) :
    (c.modify (·.pushAll es)).titles = c.titles := by
  obtain ⟨root, frames⟩ := c
  cases frames <;> rfl

theorem Reads.titles {es : List Element} (h : Reads s es s') :
    s'.context.titles = s.context.titles := by
  rw [h.context, Context.titles_pushAll]

theorem State.titles_shiftTrivia (s : State) :
    s.shiftTrivia.context.titles = s.context.titles := by
  obtain ⟨gap, -, hreads⟩ := s.exists_reads_shiftTrivia
  exact hreads.titles

/-- The names that are noted are those of the open units. -/
structure Titled (c : Configuration) : Prop where
  orderly : Orderly c
  names : c.state.openNames = c.state.context.titles

theorem Titled.of_outside (h : Orderly ⟨.sourceUnit, s⟩) : Titled ⟨.sourceUnit, s⟩ := by
  refine ⟨h, ?_⟩
  have hframes : s.context.frames = [] := h.outside.1 rfl
  rw [Context.titles, hframes]
  exact h.openNames_eq_nil

theorem Titled.closeUnit (h : Orderly (Parse.closeUnit s)) {f : Frame} {fs : List Frame}
    (hframes : s.context.frames = f :: fs) (hnames : s.openNames = s.context.titles) :
    Titled (Parse.closeUnit s) := by
  have hrest : s.leaveUnit.openNames = fs.map (·.node.programName) := by
    rw [State.leaveUnit, hnames, Context.titles_eq_cons hframes]
    rfl
  have hleave := State.context_leaveUnit hframes
  cases fs with
  | nil =>
    have hnone : s.leaveUnit.context.frames = [] := by
      rw [hleave]
      rfl
    rw [closeUnit_of_outermost hnone] at h ⊢
    exact .of_outside h
  | cons g gs =>
    have hsome : s.leaveUnit.context.frames ≠ [] := by
      rw [hleave]
      exact List.cons_ne_nil _ _
    rw [closeUnit_of_nested hsome] at h ⊢
    refine ⟨h, hrest.trans ?_⟩
    rw [hleave]
    rfl

theorem Titled.step {c : Configuration} (h : Titled c) : Titled (step score c) := by
  have hadvance := advance_step score c
  have horderly : Orderly (Parse.step score c) := h.orderly.step
  have hs := h.orderly.sentinel
  have hnames := h.names
  generalize Parse.step score c = c' at hadvance horderly
  cases hadvance with
  | finishes hend => exact .of_outside horderly
  | skips hmore hother => exact .of_outside horderly
  | @opens phase s s' hfaces hopen =>
    obtain ⟨held, name, hcontext, -, hopened⟩ := exists_unitNode_of_openUnit hopen hs
    refine ⟨horderly, ?_⟩
    have hrest : s.shiftTrivia.openNames = s.shiftTrivia.context.titles := by
      rw [State.titles_shiftTrivia]
      exact hnames
    rw [hopened, hrest, hcontext]
    rfl
  | passes hheader => exact ⟨horderly, hnames⟩
  | reads hheader hdivision =>
    obtain ⟨gap, ts, -, hreads⟩ := exists_reads_of_division hdivision hs
    refine ⟨horderly, ?_⟩
    rw [hreads.openNames, hreads.titles]
    exact hnames
  | leaves hend htrailer =>
    obtain ⟨f, fs, hframes, -⟩ := h.orderly.exists_unit
    exact .closeUnit horderly hframes hnames
  | ends hend htrailer hown hwords =>
    obtain ⟨f, fs, hframes, -⟩ := h.orderly.exists_unit
    obtain ⟨ts, name, s₁, hreads, -, rfl⟩ := exists_trailer_of_endProgram hwords hs
    apply Titled.closeUnit horderly
    · rw [checkTrailer_context]
      exact hreads.frames_eq_cons hframes
    · rw [checkTrailer_openNames, checkTrailer_context, hreads.openNames, hreads.titles]
      exact hnames
  | fails hfails => exact .of_outside horderly

/-- As long as the innermost unit holds no other, it has been read up to a boundary. -/
def Bounded (score : Similarity) (s : State) : Prop :=
  ∀ f fs, s.context.frames = f :: fs → (∀ m ∈ f.node.childNodes, m.kind ≠ .programUnit) →
    AtBoundary score s

theorem Bounded.of_outside (h : s.context.frames = []) : Bounded score s := by
  intro f fs hframes
  rw [h] at hframes
  cases hframes

theorem bounded_closeUnit {f : Frame} {fs : List Frame} (hframes : s.context.frames = f :: fs)
    (hkind : f.node.kind = .programUnit) : Bounded score (closeUnit s).state := by
  intro g gs hframes' hnone
  rw [frames_closeUnit hframes] at hframes'
  cases fs with
  | nil => cases hframes'
  | cons g' gs' =>
    -- The unit that was closed is now nested in the innermost one.
    cases hframes'
    refine absurd hkind (hnone f.node ?_)
    simp [Frame.modify, Node.push, Node.childNodes, Node.toElement, Element.asNode?]

/-- What has been built so far is sound, and the innermost unit can be left. -/
structure Posted (score : Similarity) (c : Configuration) : Prop where
  titled : Titled c
  unread : ∀ t ∈ c.state.unread, t.isEndOfInput = false
  bounded : Bounded score c.state
  sound : ∀ site ∈ c.state.sites, site.Sound score

/--
A unit without a trailer is left at the end of the text, or before the trailer of a unit around
it.
-/
theorem Posted.sound_left {s : State} (h : Posted score ⟨.programUnit [], s⟩) {f : Frame}
    {fs : List Frame} (hframes : s.context.frames = f :: fs) (hf : OpenUnit f)
    (hend : FacesEnd score s)
    (htrailer : atEndProgram score s.unread → s.trailerClosesEnclosing) :
    Site.Sound score ⟨f.node, fs.map (·.node.programName), s.unread⟩ where
  words := .inl hf.trailer_eq_nil
  last := ⟨f.node.children, [], (List.append_nil _).symm, hf.trivia⟩
  owned := by
    intro name hname
    rw [Node.mem_misnamed?, hf.trailer_eq_nil] at hname
    cases hname.2.1
  left := by
    intro _ hnone
    -- Without a nested unit, nothing was closed since the last division, which ended at a
    -- boundary.
    rcases hend.atEndProgram (h.bounded f fs hframes hnone) h.unread with hempty | hwords
    · left
      change significantTokens s.unread = []
      rw [hempty]
      rfl
    · right
      have hnames := h.titled.names.trans (Context.titles_eq_cons hframes)
      obtain ⟨name, hthird, hother, haround⟩ :=
        (State.trailerClosesEnclosing_iff hnames).1 (htrailer hwords)
      obtain ⟨ending, program, rest, hrest, hending, hprogram⟩ :=
        exists_words_of_atEndProgram hwords
      rw [hrest] at hthird
      cases rest with
      | nil => cases hthird
      | cons name' rest =>
        cases hthird
        exact ⟨ending, program, name, rest, hrest, hending, hprogram, hother, haround⟩

/-- The trailer of a unit does not name a unit around it in place of its own. -/
theorem Posted.sound_ended {s s₁ : State} (h : Posted score ⟨.programUnit [], s⟩) {f : Frame}
    {fs : List Frame} (hframes : s.context.frames = f :: fs) (hf : OpenUnit f)
    (hown : s.trailerClosesEnclosing = false) {ts : List Token} {name : Token}
    (hreads : Reads s (ts.map .token) s₁)
    (htrailer : IsTrailer score (significantTokens ts) name) :
    Site.Sound score
      ⟨f.node.pushAll (ts.map .token), fs.map (·.node.programName), s₁.unread⟩ := by
  have hwords := hf.trailer_pushAll ts
  constructor
  · rw [hwords]
    exact .inr ⟨name, htrailer⟩
  · exact ⟨f.node.children, ts, rfl, hf.trivia⟩
  · intro name' hname' haround
    rw [Node.mem_misnamed?, hwords, htrailer.third] at hname'
    obtain ⟨-, hname, hother⟩ := hname'
    cases hname
    have hthird : (significantTokens s.unread)[2]? = some name := by
      obtain ⟨hlength, -⟩ := List.getElem?_eq_some_iff.1 htrailer.third
      rw [hreads.unread, Element.leavesAll_map_token, significantTokens_append,
        List.getElem?_append_left hlength, htrailer.third]
    have hnames := h.titled.names.trans (Context.titles_eq_cons hframes)
    -- A name around the unit would have made the machine leave it without its trailer.
    have hcloses := (State.trailerClosesEnclosing_iff hnames).2 ⟨name, hthird, hother, haround⟩
    rw [hown] at hcloses
    cases hcloses
  · intro hnone
    rw [hwords] at hnone
    rw [hnone] at htrailer
    cases htrailer

theorem Breakdown.mem_sites {c : Configuration} {t : Token} {k : Complaint}
    (hb : Breakdown c s t k) (hunread : ∀ u ∈ c.state.unread, u.isEndOfInput = false)
    {site : Site} (h : site ∈ (s.report [(k.failure t).diagnostic]).recover.sites) :
    site ∈ c.state.sites := by
  have hs : site ∈ s.sites := by
    apply State.mem_sites_recover _ h
    intro u hu
    exact hunread u (hb.mem_unread hu)
  obtain ⟨s₀, es, hentry, hreads, hkinds⟩ := hb.entry
  rw [State.sites_of_reads hreads] at hs
  · rcases hentry with ⟨rfl, -⟩ | rfl
    · exact hs
    · rwa [State.sites_openNode, State.sites_shiftTrivia] at hs
  · intro m hm
    exact NodeKind.ne_programUnit_of_isDivision (hkinds m hm)

theorem Posted.of_outside {s : State} (h : Orderly ⟨.sourceUnit, s⟩)
    (hunread : ∀ t ∈ s.unread, t.isEndOfInput = false)
    (hsound : ∀ site ∈ s.sites, site.Sound score) :
    Posted score ⟨.sourceUnit, s⟩ :=
  ⟨.of_outside h, hunread, .of_outside (h.outside.1 rfl), hsound⟩

theorem Posted.step {c : Configuration} (h : Posted score c) : Posted score (step score c) := by
  have hadvance := advance_step score c
  have htitled : Titled (Parse.step score c) := h.titled.step
  have hunread : ∀ t ∈ (Parse.step score c).state.unread, t.isEndOfInput = false := by
    intro t ht
    exact h.unread t ((moves_step c).unread_suffix.subset ht)
  have hs := h.titled.orderly.sentinel
  have hsound := h.sound
  generalize Parse.step score c = c' at hadvance htitled hunread
  cases hadvance with
  | finishes hend =>
    apply Posted.of_outside htitled.orderly hunread
    rw [State.sites_shiftTrivia]
    exact hsound
  | @skips s hmore hother =>
    apply Posted.of_outside htitled.orderly hunread
    have houtside : s.shiftTrivia.context.frames = [] :=
      State.frames_shiftTrivia_eq_nil_iff.2 (h.titled.orderly.outside.1 rfl)
    have hskip :=
      @State.sites_skip (s.shiftTrivia.report [unknownInput s.shiftTrivia.peek]) houtside
      (fun t ht => h.unread t ((moves_shiftTrivia s).unread_suffix.subset ht)) 1
    have hreport : (s.shiftTrivia.report [unknownInput s.shiftTrivia.peek]).sites = s.sites :=
      s.sites_shiftTrivia
    rw [State.sites_shiftTrivia, hskip, hreport]
    exact hsound
  | @opens phase s s' hfaces hopen =>
    refine ⟨htitled, hunread, ?_, ?_⟩
    · intro _ _ _ _
      exact atBoundary_of_openUnit hopen
    · rw [State.sites_of_openUnit hopen hs, State.sites_shiftTrivia]
      exact hsound
  | passes hheader => exact ⟨htitled, hunread, h.bounded, hsound⟩
  | @reads d ds s s' hheader hdivision =>
    obtain ⟨gap, ts, -, hreads⟩ := exists_reads_of_division hdivision hs
    refine ⟨htitled, hunread, ?_, ?_⟩
    · intro _ _ _ _
      exact Production.exhausts_division d s () s' hdivision
    · rw [State.sites_of_reads hreads]
      · exact hsound
      · cases d <;> simp [Division.kind]
  | @leaves s hend htrailer =>
    obtain ⟨f, fs, hframes, hf, -⟩ := h.titled.orderly.exists_unit
    refine ⟨htitled, hunread, bounded_closeUnit hframes hf.kind, ?_⟩
    intro site hsite
    rcases State.mem_sites_closeUnit hframes hf.kind hsite with hsite | rfl
    · exact hsound site hsite
    · exact h.sound_left hframes hf hend htrailer
  | @ends s s' hend htrailer hown hwords =>
    obtain ⟨f, fs, hframes, hf, -⟩ := h.titled.orderly.exists_unit
    obtain ⟨ts, name, s₁, hreads, hname, rfl⟩ := exists_trailer_of_endProgram hwords hs
    have hframes₁ : (Production.checkTrailer name s₁).context.frames =
        f.modify (·.pushAll (ts.map .token)) :: fs := by
      rw [checkTrailer_context]
      exact hreads.frames_eq_cons hframes
    have hunread₁ : (Production.checkTrailer name s₁).unread = s₁.unread :=
      congrArg TokenStream.unread (checkTrailer_stream name s₁)
    refine ⟨htitled, hunread, bounded_closeUnit hframes₁ hf.kind, ?_⟩
    intro site hsite
    rcases State.mem_sites_closeUnit hframes₁ hf.kind hsite with hsite | rfl
    · rw [State.sites, checkTrailer_context, hunread₁, ← State.sites,
        State.sites_of_reads hreads] at hsite
      · exact hsound site hsite
      · simp
    · rw [hunread₁]
      exact h.sound_ended hframes hf hown hreads hname
  | fails hfails =>
    obtain ⟨s₁, t, k, hb, rfl⟩ := hfails.breakdown h.titled.orderly
    apply Posted.of_outside htitled.orderly hunread
    intro site hsite
    exact hsound site (hb.mem_sites h.unread hsite)

theorem posted_finalState (score : Similarity) {tokens : List Token}
    (h : ∀ t ∈ tokens, t.isEndOfInput = false) (position : Position) (offset : Nat) :
    Posted score ⟨.sourceUnit,
      finalState score (.ofTokens tokens (.endOfInput position offset))⟩ := by
  apply run_preserves
  · intro c hc
    exact hc.step
  · apply Posted.of_outside (.initial tokens position offset) h
    intro site hsite
    cases hsite

end Parse

end CobolCompanion
