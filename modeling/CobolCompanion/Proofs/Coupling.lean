import CobolCompanion.Proofs.OpenUnits

namespace CobolCompanion

open Parse

/-- Tokens that no production tells apart. -/
structure Token.Alike (t u : Token) : Prop where
  kind : t.kind = u.kind
  compare : ∀ score keyword,
    Keyword.compare score t.lexeme keyword = Keyword.compare score u.lexeme keyword
  terminator : t.isTerminator = u.isTerminator

namespace Token.Alike

variable {t u : Token} (h : t.Alike u)
include h

theorem isEndOfInput_eq : t.isEndOfInput = u.isEndOfInput := by
  rw [isEndOfInput, isEndOfInput, h.kind]

theorem accepts_eq (score : Similarity) (keyword : String) :
    Keyword.accepts score t keyword = Keyword.accepts score u keyword := by
  rw [Keyword.accepts, Keyword.accepts, h.compare]

theorem any_accepts_eq (score : Similarity) (keywords : List String) :
    keywords.any (Keyword.accepts score t) = keywords.any (Keyword.accepts score u) := by
  rw [funext (h.accepts_eq score)]

theorem choose?_eq (score : Similarity) (keywords : List String) :
    Production.choose? score t keywords = Production.choose? score u keywords := by
  have haccepts : Keyword.accepts score t = Keyword.accepts score u :=
    funext (h.accepts_eq score)
  simp only [Production.choose?, haccepts, h.compare]

end Token.Alike

theorem Token.Alike.of_lexeme {t u : Token} (hkind : t.kind = u.kind)
    (hlexeme : t.lexeme = u.lexeme) :
    t.Alike u where
  kind := hkind
  compare := fun score keyword => by rw [hlexeme]
  terminator := by simp only [isTerminator, hkind, hlexeme]

namespace Parse

/--
What a production makes of the next token: it refuses it, or reads it, be it as a keyword that a
measure of similarity accepts it for.
-/
inductive Verdict where
  | refuse (complaint : Complaint)
  | take (keyword : Option (Similarity × String))

def State.takeNext (s : State) : Option (Similarity × String) → State
  | some (score, keyword) => s.acceptNext score keyword
  | none => s.shift 1

@[simp] theorem State.unread_takeNext (s : State) (keyword : Option (Similarity × String)) :
    (s.takeNext keyword).unread = s.unread.drop 1 := by
  cases keyword <;> rfl

/-- A production that decides on the next token alone. -/
structure Decides {α : Type} (p : Production α) (verdict : Token → Verdict)
    (value : Token → α) : Prop where
  run : ∀ s, p s = match verdict s.peek with
    | .refuse c => s.refuse c
    | .take keyword => .ok (value s.peek) (s.takeNext keyword)
  congr : ∀ {t u : Token}, t.Alike u → verdict t = verdict u
  significant : ∀ {t keyword}, verdict t = .take keyword → t.isEndOfInput = false

end Parse

namespace Production

variable {score : Similarity} {keyword : String} {keywords : List String}

theorem decides_expect :
    Decides (expect score keyword) (fun t =>
      if t.isEndOfInput then .refuse (.endOfInput (quoteAll [keyword]))
      else if Keyword.accepts score t keyword then .take (some (score, keyword))
      else .refuse (.token keyword)) fun _ => () where
  run := fun s => by
    rw [expect_run]
    cases s.peek.isEndOfInput <;> cases Keyword.accepts score s.peek keyword <;> rfl
  congr := fun h => by rw [h.isEndOfInput_eq, h.accepts_eq]
  significant := fun {t k} h => by
    cases hend : t.isEndOfInput with
    | true => simp [hend] at h
    | false => rfl

theorem decides_expectOneOf :
    Decides (expectOneOf score keywords) (fun t =>
      if t.isEndOfInput then .refuse (.endOfInput (quoteAll keywords))
      else match choose? score t keywords with
        | some keyword => .take (some (score, keyword))
        | none => .refuse (.alternatives keywords)) fun _ => () where
  run := fun s => by
    rw [expectOneOf_run]
    cases s.peek.isEndOfInput <;> cases choose? score s.peek keywords <;> rfl
  congr := fun h => by rw [h.isEndOfInput_eq, h.choose?_eq]
  significant := fun {t k} h => by
    cases hend : t.isEndOfInput with
    | true => simp [hend] at h
    | false => rfl

theorem decides_programName :
    Decides programName (fun t =>
      if t.isEndOfInput then .refuse (.endOfInput "program name")
      else if t.isTerminator then .refuse (.token "program name")
      else .take none) id where
  run := fun s => by
    rw [programName_run]
    cases s.peek.isEndOfInput <;> cases s.peek.isTerminator <;> rfl
  congr := fun h => by rw [h.isEndOfInput_eq, h.terminator]
  significant := fun {t k} h => by
    cases hend : t.isEndOfInput with
    | true => simp [hend] at h
    | false => rfl

theorem Shifts.frames_length {α : Type} {p : Production α} (hp : Shifts p) {s : State}
    (hs : s.stream.sentinel.isEndOfInput) :
    (p.final s).context.frames.length = s.context.frames.length := by
  have hps := hp s hs
  unfold final
  cases hrun : p s with
  | ok a s' =>
    rw [hrun] at hps
    obtain ⟨ts, hreads⟩ := hps
    exact hreads.frames_length
  | error f s' =>
    rw [hrun] at hps
    obtain ⟨ts, s₁, hreads, -, rfl⟩ := hps
    exact hreads.frames_length

end Production

namespace Parse

/-- How two parsers correspond, and how long the second can follow the first. -/
structure Coupling where
  /-- Tokens that correspond. -/
  pair : Token → Token → Prop
  /-- States inside a unit that correspond. -/
  loose : State → State → Prop
  /-- States inside a unit that correspond where a token is to be read. -/
  fresh : State → State → Prop
  /-- States that correspond after a complaint. -/
  failed : State → State → Prop
  /-- Of what the first parser has left, the second can follow it up to here. -/
  live : List Token → Prop
  /-- What the first parser has left is enough for the second to see all that the first sees. -/
  ample : List Token → Prop
  /-- The second parser follows the first also where that one gives up. -/
  tolerant : Prop

/-- What two parsers see ahead is the same. -/
structure SeesAlike (score : Similarity) (s t : State) : Prop where
  division : ∀ d, atDivisionHeader score d s.unread = atDivisionHeader score d t.unread
  identification : atIdentificationHeader score s.unread = atIdentificationHeader score t.unread
  header : atAnyHeader score s.statementStart s.unread =
    atAnyHeader score t.statementStart t.unread
  trailer : atEndProgram score s.unread = atEndProgram score t.unread

namespace Coupling

def tight (r : Coupling) (s t : State) : Prop :=
  r.loose s t ∧ r.fresh s t

/-- A condition on what is left that holds before, if it holds after. -/
structure IsGuard (r : Coupling) (guard : List Token → Prop) : Prop where
  of_suffix : ∀ {u v}, guard u → u <:+ v → guard v
  of_tolerant : r.tolerant → ∀ u, guard u

/--
One production follows another, from corresponding states to corresponding states, as long as
enough is left.
-/
structure Mirrors {α : Type} (r : Coupling) (guard : List Token → Prop)
    (pre : State → State → Prop) (p q : Production α) (value : α → α → Prop)
    (post : State → State → Prop) : Prop where
  performs : p.Performs
  ok : ∀ {s t a s'}, pre s t → p s = .ok a s' → guard s'.unread →
    ∃ b t', q t = .ok b t' ∧ value a b ∧ post s' t'
  error : ∀ {s t f s'}, pre s t → p s = .error f s' → r.tolerant →
    ∃ g t', q t = .error g t' ∧ r.failed s' t'

namespace Mirrors

variable {α β : Type} {r : Coupling} {guard guard' : List Token → Prop}
  {pre pre' mid post post' : State → State → Prop}
  {p q : Production α} {value : α → α → Prop} {value' : β → β → Prop}

theorem mono (h : r.Mirrors guard pre p q value post) (hguard : ∀ u, guard' u → guard u)
    (hpre : ∀ s t, pre' s t → pre s t) (hpost : ∀ s t, post s t → post' s t) :
    r.Mirrors guard' pre' p q value post' where
  performs := h.performs
  ok := fun hst hrun hu => by
    obtain ⟨b, t', hrun', hvalue, hst'⟩ := h.ok (hpre _ _ hst) hrun (hguard _ hu)
    exact ⟨b, t', hrun', hvalue, hpost _ _ hst'⟩
  error := fun hst hrun htolerant => h.error (hpre _ _ hst) hrun htolerant

theorem pure (guard : List Token → Prop) {a b : α} (h : value a b) :
    r.Mirrors guard pre (pure a) (pure b) value pre where
  performs := .pure a
  ok := fun hst hrun _ => by
    cases hrun
    exact ⟨b, _, rfl, h, hst⟩
  error := fun _ hrun _ => nomatch hrun

theorem bind {f g : α → Production β} (hguard : r.IsGuard guard)
    (hp : r.Mirrors guard pre p q value mid) (hperforms : ∀ a, (f a).Performs)
    (hf : ∀ a b, value a b → r.Mirrors guard mid (f a) (g b) value' post) :
    r.Mirrors guard pre (p >>= f) (q >>= g) value' post := by
  refine ⟨hp.performs.bind hperforms, fun {s t c s''} hst hrun hu => ?_,
    fun {s t e s''} hst hrun ht => ?_⟩
  · obtain ⟨a, s', hrun₁, hrun₂⟩ := Production.exists_ok_of_bind hrun
    -- What is left in between is at least what is left in the end.
    have hsuffix : s''.unread <:+ s'.unread := by
      have hmoves := (hperforms a s').unread_suffix
      rwa [Production.final, hrun₂] at hmoves
    obtain ⟨b, t', hrun₁', hvalue, hst'⟩ := hp.ok hst hrun₁ (hguard.of_suffix hu hsuffix)
    obtain ⟨d, t'', hrun₂', hrest⟩ := (hf a b hvalue).ok hst' hrun₂ hu
    exact ⟨d, t'', (Production.bind_eq_of_ok hrun₁' g).trans hrun₂', hrest⟩
  · rw [Production.bind_eq] at hrun
    cases hrun₁ : p s with
    | error e' s' =>
      rw [hrun₁] at hrun
      cases hrun
      obtain ⟨e', t', hrun₁', hfailed⟩ := hp.error hst hrun₁ ht
      exact ⟨e', t', Production.bind_eq_of_error hrun₁' g, hfailed⟩
    | ok a s' =>
      rw [hrun₁] at hrun
      obtain ⟨b, t', hrun₁', hvalue, hst'⟩ := hp.ok hst hrun₁ (hguard.of_tolerant ht _)
      obtain ⟨e', t'', hrun₂', hfailed⟩ := (hf a b hvalue).error hst' hrun ht
      exact ⟨e', t'', (Production.bind_eq_of_ok hrun₁' g).trans hrun₂', hfailed⟩

theorem seq {p q : Production Unit} {value : Unit → Unit → Prop} {f g : Unit → Production β}
    (hguard : r.IsGuard guard) (hp : r.Mirrors guard pre p q value mid)
    (hf : r.Mirrors guard mid (f ()) (g ()) value' post) :
    r.Mirrors guard pre (p >>= f) (q >>= g) value' post :=
  hp.bind hguard (fun _ => hf.performs) fun _ _ _ => hf

theorem ite {c : Prop} [Decidable c] {p' q' : Production α}
    (hp : r.Mirrors guard pre p q value post) (hp' : r.Mirrors guard pre p' q' value post) :
    r.Mirrors guard pre (if c then p else p') (if c then q else q') value post := by
  split
  · exact hp
  · exact hp'

theorem ofFresh (h : r.Mirrors guard r.fresh p q value post) :
    r.Mirrors guard r.tight p q value post :=
  h.mono (fun _ h => h) (fun _ _ h => h.2) fun _ _ h => h

end Mirrors

/-- No demand on the values of productions that have none. -/
def anyValue (_ _ : Unit) : Prop :=
  True

def word (r : Coupling) (a b : Token) : Prop :=
  r.pair a b ∧ a.isEndOfInput = false

/-- What a coupling has to keep of what productions do with tokens and nodes. -/
structure Keeps (r : Coupling) (score : Similarity) : Prop where
  alike : ∀ {a b}, r.pair a b → a.Alike b
  live : r.IsGuard r.live
  ample : r.IsGuard r.ample
  live_of_ample : ∀ {u}, r.ample u → r.live (u.drop 1)
  inside : ∀ {s t}, r.fresh s t → t.context.frames ≠ [] ∧ t.stream.sentinel.isEndOfInput
  peek : ∀ {s t}, r.fresh s t → r.live (s.unread.drop 1) → r.pair s.peek t.peek
  settle : ∀ {s t}, r.loose s t → r.live s.shiftTrivia.unread →
    r.tight s.shiftTrivia t.shiftTrivia
  take : ∀ {s t} keyword, r.fresh s t → s.peek.isEndOfInput = false → r.live (s.unread.drop 1) →
    r.loose (s.takeNext keyword) (t.takeNext keyword)
  refuse : ∀ {s t} (c : Complaint), r.fresh s t → r.tolerant →
    r.failed (s.report [(c.failure s.peek).diagnostic])
      (t.report [(c.failure t.peek).diagnostic])
  openNode : ∀ {s t} kind, r.fresh s t → r.fresh (s.openNode kind) (t.openNode kind)
  closeNode : ∀ {s t}, r.loose s t → 1 < t.context.frames.length →
    r.loose s.closeNode t.closeNode
  closeFailed : ∀ {s t}, r.failed s t → 1 < t.context.frames.length →
    r.failed s.closeNode t.closeNode
  body : r.Mirrors r.ample r.loose (Production.content score)
    (Production.content score) anyValue r.loose

/-- What a coupling has to keep so that all productions keep it. -/
structure Sound (r : Coupling) (score : Similarity) : Prop extends r.Keeps score where
  /-- Whether a period is read behind `PROGRAM-ID` depends on the very next token. -/
  programId :
    let p := do
      Production.expect score "PROGRAM-ID"
      Production.allow score "."
    r.Mirrors r.ample r.fresh p p anyValue r.loose
  /-- The period of the procedure division is read by itself, or else with the body. -/
  procedureBody :
    let p := do
      Production.allow score "."
      Production.content score
    r.Mirrors r.ample r.loose p p anyValue r.loose
  ahead : ∀ {s t}, r.loose s t → r.ample s.unread → SeesAlike score s t
  named : ∀ {s t a b}, r.loose s t → r.word a b → r.loose (s.named a) (t.named b)
  trailer : ∀ {s t a b}, r.loose s t → t.openNames ≠ [] → r.word a b →
    r.loose (Production.checkTrailer a s) (Production.checkTrailer b t)

namespace Keeps

open Production

variable {r : Coupling} {score : Similarity} (hr : r.Keeps score)
include hr

theorem live_of_ample' {u : List Token} (h : r.ample u) : r.live u :=
  hr.live.of_suffix (hr.live_of_ample h) (List.drop_suffix 1 u)

theorem live_of_tolerant (h : r.tolerant) (u : List Token) : r.live u :=
  hr.live.of_tolerant h u

theorem mirrors_of_live {α : Type} {pre post : State → State → Prop} {p q : Production α}
    {value : α → α → Prop} (h : r.Mirrors r.live pre p q value post) :
    r.Mirrors r.ample pre p q value post :=
  h.mono (fun _ => hr.live_of_ample') (fun _ _ h => h) fun _ _ h => h

theorem mirrors_spaces :
    r.Mirrors r.live r.loose Production.spaces Production.spaces anyValue r.tight where
  performs := Production.performs_spaces
  ok := fun hst hrun hu => by
    cases hrun
    exact ⟨(), _, rfl, trivial, hr.settle hst hu⟩
  error := fun _ hrun _ => nomatch hrun

theorem mirrors_of_decides {α : Type} {p : Production α} {verdict : Token → Verdict}
    {value : Token → α} {related : α → α → Prop} (hp : p.Performs)
    (hdecides : Decides p verdict value)
    (hvalue : ∀ a b, r.word a b → related (value a) (value b)) :
    r.Mirrors r.live r.fresh p p related r.loose := by
  refine ⟨hp, fun {s t a s'} hst hrun hu => ?_, fun {s t f s'} hst hrun htolerant => ?_⟩
  · rw [hdecides.run] at hrun ⊢
    cases hverdict : verdict s.peek with
    | refuse c =>
      rw [hverdict] at hrun
      cases hrun
    | take keyword =>
      rw [hverdict] at hrun
      cases hrun
      rw [State.unread_takeNext] at hu
      have hpair := hr.peek hst hu
      rw [← hdecides.congr (hr.alike hpair), hverdict]
      have hend := hdecides.significant hverdict
      exact ⟨_, _, rfl, hvalue _ _ ⟨hpair, hend⟩, hr.take keyword hst hend hu⟩
  · have hpair := hr.peek hst (hr.live_of_tolerant htolerant _)
    rw [hdecides.run] at hrun ⊢
    rw [← hdecides.congr (hr.alike hpair)]
    cases hverdict : verdict s.peek with
    | refuse c =>
      rw [hverdict] at hrun
      cases hrun
      exact ⟨_, _, rfl, hr.refuse c hst htolerant⟩
    | take keyword =>
      rw [hverdict] at hrun
      cases hrun

theorem mirrors_expect (keyword : String) :
    r.Mirrors r.live r.fresh (expect score keyword) (expect score keyword) anyValue r.loose :=
  hr.mirrors_of_decides performs_expect decides_expect fun _ _ _ => trivial

theorem mirrors_expectOneOf (keywords : List String) :
    r.Mirrors r.live r.fresh (expectOneOf score keywords) (expectOneOf score keywords) anyValue
      r.loose :=
  hr.mirrors_of_decides performs_expectOneOf decides_expectOneOf fun _ _ _ => trivial

theorem mirrors_programName : r.Mirrors r.live r.fresh programName programName r.word r.loose :=
  hr.mirrors_of_decides performs_programName decides_programName fun _ _ h => h

theorem mirrors_allow (keyword : String) :
    r.Mirrors r.ample r.tight (allow score keyword) (allow score keyword) anyValue r.loose := by
  refine ⟨performs_allow, fun {s t a s'} hst hrun hu => ?_, fun {s t f s'} hst hrun _ => ?_⟩
  · rw [allow_run] at hrun ⊢
    split at hrun
    · next haccepts =>
      cases hrun
      have hlive : r.live (s.unread.drop 1) := hr.live_of_ample' hu
      have halike := hr.alike (hr.peek hst.2 hlive)
      have hend : s.peek.isEndOfInput = false := by simp_all
      rw [halike.isEndOfInput_eq, halike.accepts_eq] at haccepts
      rw [if_pos haccepts]
      exact ⟨(), _, rfl, trivial, hr.take (some (score, keyword)) hst.2 hend hlive⟩
    · next hrejects =>
      cases hrun
      have halike := hr.alike (hr.peek hst.2 (hr.live_of_ample hu))
      rw [halike.isEndOfInput_eq, halike.accepts_eq] at hrejects
      rw [if_neg hrejects]
      exact ⟨(), _, rfl, trivial, hst.1⟩
  · rw [allow_run] at hrun
    split at hrun <;> cases hrun

theorem mirrors_sees (keywords : List String) :
    r.Mirrors r.ample r.tight (sees score keywords) (sees score keywords) Eq r.tight := by
  refine ⟨performs_sees, fun {s t a s'} hst hrun hu => ?_, fun _ hrun _ => nomatch hrun⟩
  rw [sees_run] at hrun ⊢
  cases hrun
  have halike := hr.alike (hr.peek hst.2 (hr.live_of_ample hu))
  exact ⟨_, _, rfl, by rw [halike.isEndOfInput_eq, halike.any_accepts_eq], hst⟩

theorem mirrors_inNode {α : Type} {guard : List Token → Prop} {p q : Production α}
    {value : α → α → Prop} (kind : NodeKind) (hp : r.Mirrors guard r.fresh p q value r.loose)
    (hq : Shifts q) :
    r.Mirrors guard r.fresh (inNode kind p) (inNode kind q) value r.loose := by
  have hdepth {s t : State} (hst : r.fresh s t) :
      1 < (q.final (t.openNode kind)).context.frames.length := by
    obtain ⟨hframes, hsentinel⟩ := hr.inside hst
    rw [hq.frames_length (s := t.openNode kind) hsentinel]
    have hpos := List.length_pos_iff.2 hframes
    change 1 < t.context.frames.length + 1
    omega
  refine ⟨.inNode kind hp.performs, fun {s t a s'} hst hrun hu => ?_,
    fun {s t f s'} hst hrun htolerant => ?_⟩
  · have hdepth' := hdepth hst
    unfold inNode at hrun ⊢
    cases hrun₁ : p (s.openNode kind) with
    | error f s₁ => simp [hrun₁] at hrun
    | ok a s₁ =>
      rw [hrun₁] at hrun
      cases hrun
      obtain ⟨b, t₁, hrun₁', hvalue, hst₁⟩ := hp.ok (hr.openNode kind hst) hrun₁ hu
      rw [final, hrun₁'] at hdepth'
      exact ⟨b, t₁.closeNode, by rw [hrun₁'], hvalue, hr.closeNode hst₁ hdepth'⟩
  · have hdepth' := hdepth hst
    unfold inNode at hrun ⊢
    cases hrun₁ : p (s.openNode kind) with
    | ok a s₁ => simp [hrun₁] at hrun
    | error f s₁ =>
      rw [hrun₁] at hrun
      cases hrun
      obtain ⟨g, t₁, hrun₁', hst₁⟩ := hp.error (hr.openNode kind hst) hrun₁ htolerant
      rw [final, hrun₁'] at hdepth'
      exact ⟨g, t₁.closeNode, by rw [hrun₁'], hr.closeFailed hst₁ hdepth'⟩

theorem mirrors_gap : r.Mirrors r.ample r.loose spaces spaces anyValue r.tight :=
  hr.mirrors_of_live hr.mirrors_spaces

theorem mirrors_word (keyword : String) :
    r.Mirrors r.ample r.tight (expect score keyword) (expect score keyword) anyValue r.loose :=
  hr.mirrors_of_live (hr.mirrors_expect keyword).ofFresh

theorem mirrors_qualification :
    r.Mirrors r.ample r.tight (qualification score) (qualification score) anyValue r.loose := by
  have hrest : r.Mirrors r.ample r.tight
      (do
        expectOneOf score qualifiers
        spaces
        allow score "PROGRAM")
      (do
        expectOneOf score qualifiers
        spaces
        allow score "PROGRAM") anyValue r.loose :=
    (hr.mirrors_of_live (hr.mirrors_expectOneOf qualifiers).ofFresh).seq hr.ample
      (hr.mirrors_gap.seq hr.ample (hr.mirrors_allow "PROGRAM"))
  have hnone : r.Mirrors r.ample r.tight (pure ()) (pure ()) anyValue r.loose :=
    (Mirrors.pure _ trivial).mono (fun _ h => h) (fun _ _ h => h) fun _ _ h => h.1
  refine (hr.mirrors_sees _).bind hr.ample (fun b => ?_) fun b _ hb => ?_
  · exact .ite (performs_expect.bind fun _ => performs_spaces.bind fun _ => hrest.performs)
      (performs_sees.bind fun _ => .ite hrest.performs (.pure _))
  · cases hb
    refine .ite ((hr.mirrors_word _).seq hr.ample (hr.mirrors_gap.seq hr.ample hrest)) ?_
    refine (hr.mirrors_sees _).bind hr.ample (fun b => .ite hrest.performs (.pure _))
      fun b _ hb => ?_
    cases hb
    exact .ite hrest hnone

theorem mirrors_endProgramWords :
    r.Mirrors r.live r.loose (endProgramWords score)
      (endProgramWords score) r.word r.loose := by
  have hword (keyword : String) := (hr.mirrors_expect keyword).ofFresh
  refine hr.mirrors_spaces.seq hr.live ((hword _).seq hr.live ?_)
  refine hr.mirrors_spaces.seq hr.live ((hword _).seq hr.live ?_)
  refine hr.mirrors_spaces.seq hr.live
    (hr.mirrors_programName.ofFresh.bind hr.live (fun _ => ?_)
    fun a b hpair => ?_)
  · exact performs_spaces.bind fun _ => performs_expect.bind fun _ => .pure _
  · exact hr.mirrors_spaces.seq hr.live ((hword _).seq hr.live (.pure _ hpair))

theorem sound_of_tight (hloose : ∀ {s t}, r.loose s t → r.fresh s t)
    (hahead : ∀ {s t}, r.loose s t → r.ample s.unread → SeesAlike score s t)
    (hnamed : ∀ {s t a b}, r.loose s t → r.word a b → r.loose (s.named a) (t.named b))
    (htrailer : ∀ {s t a b}, r.loose s t → t.openNames ≠ [] → r.word a b →
      r.loose (checkTrailer a s) (checkTrailer b t)) : r.Sound score := by
  have hperiod : r.Mirrors r.ample r.loose (allow score ".")
      (allow score ".") anyValue r.loose :=
    (hr.mirrors_allow ".").mono (fun _ h => h) (fun _ _ h => ⟨h, hloose h⟩) fun _ _ h => h
  exact {
    toKeeps := hr
    programId := (hr.mirrors_of_live (hr.mirrors_expect _)).seq hr.ample hperiod
    procedureBody := hperiod.seq hr.ample hr.body
    ahead := hahead
    named := hnamed
    trailer := htrailer }

end Keeps

namespace Sound

open Production

variable {r : Coupling} {score : Similarity} (hr : r.Sound score)
include hr

theorem mirrors_identificationHeader :
    r.Mirrors r.ample r.fresh (identificationHeader score) (identificationHeader score) r.word
      r.loose := by
  have heq : identificationHeader score = (do
      expectOneOf score identificationOpeners
      spaces
      expect score "DIVISION"
      spaces
      expect score "."
      spaces
      (do
        expect score "PROGRAM-ID"
        allow score ".")
      spaces
      programName) := by
    simp only [identificationHeader, bind_assoc]
  rw [heq]
  refine (hr.mirrors_of_live (hr.mirrors_expectOneOf _)).seq hr.ample
    (hr.mirrors_gap.seq hr.ample ?_)
  refine (hr.mirrors_word _).seq hr.ample (hr.mirrors_gap.seq hr.ample ?_)
  refine (hr.mirrors_word _).seq hr.ample (hr.mirrors_gap.seq hr.ample ?_)
  refine hr.programId.ofFresh.seq hr.ample (hr.mirrors_gap.seq hr.ample ?_)
  exact hr.mirrors_of_live hr.mirrors_programName.ofFresh

theorem mirrors_identificationDivision :
    r.Mirrors r.ample r.fresh (identificationDivision score)
      (identificationDivision score) r.word
      r.loose := by
  refine hr.mirrors_inNode _ ?_ ?_
  · refine hr.mirrors_identificationHeader.bind hr.ample (fun _ => ?_) fun a b hpair => ?_
    · exact performs_spaces.bind fun _ => performs_qualification.bind fun _ =>
        performs_spaces.bind fun _ => performs_allow.bind fun _ => performs_content.bind
          fun _ => .pure _
    · refine hr.mirrors_gap.seq hr.ample (hr.mirrors_qualification.seq hr.ample ?_)
      refine hr.mirrors_gap.seq hr.ample ((hr.mirrors_allow ".").seq hr.ample ?_)
      exact hr.body.seq hr.ample (.pure _ hpair)
  · exact shifts_identificationHeader.bind fun _ => shifts_spaces.bind fun _ =>
      shifts_qualification.bind fun _ => shifts_spaces.bind fun _ => shifts_allow.bind fun _ =>
      shifts_content.bind fun _ => .pure _

theorem mirrors_division (d : Division) :
    r.Mirrors r.ample r.loose (division score d) (division score d) anyValue r.loose := by
  refine hr.mirrors_gap.seq hr.ample (hr.mirrors_inNode d.kind ?_ ?_).ofFresh
  · have hopener := hr.mirrors_of_live (hr.mirrors_expect d.opener)
    -- The header and the body are taken apart elsewhere: the period may belong to either.
    have hsplit (rest : Production Unit) :
        (do
          (do
            expect score d.opener
            spaces
            expect score "DIVISION"
            rest)
          content score) =
        (do
          expect score d.opener
          spaces
          expect score "DIVISION"
          (do
            rest
            content score)) := by
      simp only [bind_assoc]
    have hperiod : r.Mirrors r.ample r.loose
        (do
          (do
            spaces
            expect score ".")
          content score)
        (do
          (do
            spaces
            expect score ".")
          content score) anyValue r.loose :=
      (hr.mirrors_gap.seq hr.ample (hr.mirrors_word _)).seq hr.ample hr.body
    have hheader {rest : Production Unit}
        (hrest : r.Mirrors r.ample r.loose (do rest; content score)
          (do rest; content score) anyValue
          r.loose) :
        r.Mirrors r.ample r.fresh
          (do
            (do
              expect score d.opener
              spaces
              expect score "DIVISION"
              rest)
            content score)
          (do
            (do
              expect score d.opener
              spaces
              expect score "DIVISION"
              rest)
            content score) anyValue r.loose := by
      rw [hsplit]
      exact hopener.seq hr.ample
        (hr.mirrors_gap.seq hr.ample ((hr.mirrors_word _).seq hr.ample hrest))
    cases d with
    | environment => exact hheader hperiod
    | data => exact hheader hperiod
    | procedure => exact hheader hr.procedureBody
  · exact (shifts_divisionHeader d).bind fun _ => shifts_content

theorem mirrors_endProgram :
    r.Mirrors r.live
      (fun s t => r.loose s t ∧ t.openNames ≠ [] ∧ t.stream.sentinel.isEndOfInput)
      (endProgram score) (endProgram score) anyValue r.loose := by
  refine ⟨performs_endProgram, fun {s t a s'} hst hrun hu => ?_,
    fun {s t f s'} hst hrun htolerant => ?_⟩
  · obtain ⟨hst, hnames, hsentinel⟩ := hst
    obtain ⟨name, s₁, hwords, hcheck⟩ := exists_ok_of_bind hrun
    cases hcheck
    rw [State.unread, checkTrailer_stream] at hu
    obtain ⟨name', t₁, hwords', hpair, hst₁⟩ := hr.mirrors_endProgramWords.ok hst hwords hu
    obtain ⟨_, _, _, _, hreads, -⟩ := exists_reads_of_endProgramWords hsentinel hwords'
    rw [← hreads.openNames] at hnames
    exact ⟨(), checkTrailer name' t₁, bind_eq_of_ok hwords' _, trivial,
      hr.trailer hst₁ hnames hpair⟩
  · have hwords := endProgramWords_of_error hrun
    obtain ⟨g, t', hwords', hfailed⟩ := hr.mirrors_endProgramWords.error hst.1 hwords htolerant
    exact ⟨g, t', bind_eq_of_error hwords' _, hfailed⟩

theorem mirrors_openUnit :
    r.Mirrors r.ample (fun s t => r.fresh (s.openNode .programUnit) (t.openNode .programUnit))
      (openUnit score) (openUnit score) anyValue r.loose := by
  refine ⟨performs_openUnit, fun {s t a s'} hst hrun hu => ?_,
    fun {s t f s'} hst hrun htolerant => ?_⟩
  · rw [openUnit_run] at hrun ⊢
    cases hdivision : identificationDivision score (s.openNode .programUnit) with
    | error f s₁ => simp [hdivision] at hrun
    | ok name s₁ =>
      rw [hdivision] at hrun
      cases hrun
      obtain ⟨name', t₁, hdivision', hpair, hst₁⟩ :=
        hr.mirrors_identificationDivision.ok hst hdivision hu
      exact ⟨(), t₁.named name', by rw [hdivision'], trivial, hr.named hst₁ hpair⟩
  · rw [openUnit_run] at hrun ⊢
    cases hdivision : identificationDivision score (s.openNode .programUnit) with
    | ok name s₁ => simp [hdivision] at hrun
    | error f s₁ =>
      rw [hdivision] at hrun
      cases hrun
      obtain ⟨g, t₁, hdivision', hfailed⟩ :=
        hr.mirrors_identificationDivision.error hst hdivision htolerant
      exact ⟨g, t₁, by rw [hdivision'], hfailed⟩

end Sound

end Coupling

end Parse

end CobolCompanion
