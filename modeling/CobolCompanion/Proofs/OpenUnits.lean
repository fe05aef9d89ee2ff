import CobolCompanion.Proofs.Advances

namespace CobolCompanion

open Parse

namespace Parse

/--
A unit under construction. It begins with a division, the tokens directly in it are trivia, and
nothing in it was skipped.
-/
structure OpenUnit (f : Frame) : Prop where
  kind : f.node.kind = .programUnit
  founded : Element.BeginsWithDivision f.node.children
  trivia : ∀ t, .token t ∈ f.node.children → t.isTrivia
  placed : ∀ m ∈ Element.nodesAll f.node.children, m.kind ≠ .skipped

namespace OpenUnit

variable {f : Frame} {es : List Element}

theorem pushAll (h : OpenUnit f) (htrivia : ∀ t, .token t ∈ es → t.isTrivia)
    (hplaced : ∀ m ∈ Element.nodesAll es, m.kind ≠ .skipped) :
    OpenUnit (f.modify (·.pushAll es)) where
  kind := h.kind
  founded := h.founded.append es
  trivia := fun t ht => (List.mem_append.1 ht).elim (h.trivia t) (htrivia t)
  placed := fun m hm => by
    simp only [Frame.modify, Node.pushAll, Element.nodesAll_append, List.mem_append] at hm
    exact hm.elim (h.placed m) (hplaced m)

theorem pushTrivia (h : OpenUnit f) {gap : List Token} (hgap : ∀ t ∈ gap, t.isTrivia) :
    OpenUnit (f.modify (·.pushAll (gap.map .token))) :=
  h.pushAll (fun t ht => hgap t (by simpa using ht)) (by simp)

end OpenUnit

def State.items (s : State) : List Element :=
  s.context.root.node.children

/-- What holds of a configuration between two steps. -/
structure Orderly (c : Configuration) : Prop where
  sentinel : c.state.stream.sentinel.isEndOfInput
  outside : c.phase = .sourceUnit ↔ c.state.context.frames = []
  names : c.state.openNames.length = c.state.context.frames.length
  units : ∀ f ∈ c.state.context.frames, OpenUnit f

theorem Orderly.initial (tokens : List Token) (position : Position) (offset : Nat) :
    Orderly ⟨.sourceUnit, .initial (.ofTokens tokens (.endOfInput position offset))⟩ where
  sentinel := rfl
  outside := ⟨fun _ => rfl, fun _ => rfl⟩
  names := rfl
  units := by simp [State.initial, Context.ofRoot]

theorem Context.frames_modify_eq_cons {c : Context} {f : Frame} {fs : List Frame}
    (h : c.frames = f :: fs) (change : Node → Node) :
    (c.modify change).frames = f.modify change :: fs := by
  simp [modify, h]

theorem Context.frames_modify_eq_nil {c : Context} (h : c.frames = []) (change : Node → Node) :
    (c.modify change).frames = [] := by
  simp [modify, h]

theorem Context.root_modify {c : Context} (h : c.frames ≠ []) (change : Node → Node) :
    (c.modify change).root = c.root := by
  obtain ⟨root, frames⟩ := c
  cases frames with
  | nil => exact absurd rfl h
  | cons f fs => rfl

theorem Context.finish_of_outside {c : Context} (h : c.frames = []) :
    c.finish = c.root.node := by
  rw [finish, h]

/-- A unit that is left goes to what is around it. -/
theorem State.context_leaveUnit {s : State} {f : Frame} {fs : List Frame}
    (h : s.context.frames = f :: fs) :
    s.leaveUnit.context =
      ({ s.context with frames := fs } : Context).modify (·.push f.node.toElement) := by
  simp [leaveUnit, Context.close, Context.pop?, h]

namespace Reads

variable {s s' : State} {es : List Element}

/-- What is read inside a unit is added to it. -/
theorem frames_eq_cons (h : Reads s es s') {f : Frame} {fs : List Frame}
    (hframes : s.context.frames = f :: fs) :
    s'.context.frames = f.modify (·.pushAll es) :: fs := by
  rw [h.context, Context.frames_modify_eq_cons hframes]

theorem units_of_trivia {gap : List Token} (h : Reads s (gap.map .token) s')
    (hgap : ∀ t ∈ gap, t.isTrivia) (hunits : ∀ f ∈ s.context.frames, OpenUnit f) :
    ∀ f ∈ s'.context.frames, OpenUnit f := by
  rw [h.context]
  cases hframes : s.context.frames with
  | nil => simp [Context.frames_modify_eq_nil hframes]
  | cons f fs =>
    rw [hframes] at hunits
    rw [Context.frames_modify_eq_cons hframes]
    intro g hg
    rcases List.mem_cons.1 hg with rfl | hg
    · exact (hunits f List.mem_cons_self).pushTrivia hgap
    · exact hunits g (List.mem_cons_of_mem f hg)

end Reads

theorem State.frames_shiftTrivia_eq_nil_iff {s : State} :
    s.shiftTrivia.context.frames = [] ↔ s.context.frames = [] := by
  rw [← List.length_eq_zero_iff, frames_length_shiftTrivia, List.length_eq_zero_iff]

theorem State.units_shiftTrivia {s : State} (hunits : ∀ f ∈ s.context.frames, OpenUnit f) :
    ∀ f ∈ s.shiftTrivia.context.frames, OpenUnit f := by
  obtain ⟨gap, hgap, hreads⟩ := s.exists_reads_shiftTrivia
  exact hreads.units_of_trivia hgap hunits

/-- When a unit is opened, its node comes on top of those that are open. -/
theorem frames_of_openUnit {score : Similarity} {s s' : State}
    (h : openUnit score s = .ok () s') (hs : s.stream.sentinel.isEndOfInput) :
    ∃ f, OpenUnit f ∧ s'.context = { s.context with frames := f :: s.context.frames } ∧
      s'.openNames.length = s.openNames.length + 1 ∧
      s'.stream.sentinel = s.stream.sentinel := by
  obtain ⟨ts, name, s₁, hreads, rfl⟩ := exists_reads_of_openUnit h hs
  have hcontext := congrArg (Context.modify · ({ · with name := some (programNameOf name) }))
    hreads.context
  refine ⟨_, ?_, hcontext, congrArg (List.length · + 1) hreads.openNames, hreads.sentinel⟩
  exact {
    kind := rfl
    founded := ⟨_, _, [], rfl, rfl⟩
    trivia := fun t ht => by simp [Frame.modify, Node.pushAll, Frame.ofNode, Node.ofKind] at ht
    placed := fun m hm => by
      simp only [Frame.modify, Node.pushAll, Frame.ofNode, Node.ofKind, List.nil_append,
        Element.nodesAll_singleton_node, Element.nodesAll_map_token, List.mem_singleton] at hm
      simp [hm] }

/-- A unit that is closed leaves the units around it open. -/
theorem Orderly.closeUnit {s : State} {f : Frame} {fs : List Frame}
    (hsentinel : s.stream.sentinel.isEndOfInput) (hframes : s.context.frames = f :: fs)
    (hnames : s.openNames.length = s.context.frames.length)
    (hkind : f.node.kind = .programUnit)
    (hplaced : ∀ m ∈ Element.nodesAll f.node.children, m.kind ≠ .skipped)
    (hunits : ∀ g ∈ fs, OpenUnit g) : Orderly (Parse.closeUnit s) := by
  have hleave := State.context_leaveUnit hframes
  have hcount : s.leaveUnit.openNames.length = fs.length := by
    simp [State.leaveUnit, hnames, hframes]
  cases hfs : fs with
  | nil =>
    have hnone : s.leaveUnit.context.frames = [] := by
      rw [hleave]
      exact Context.frames_modify_eq_nil hfs _
    rw [closeUnit_of_outermost hnone]
    have hnone' := State.frames_shiftTrivia_eq_nil_iff.2 hnone
    refine ⟨hsentinel, ⟨fun _ => hnone', fun _ => rfl⟩, ?_, ?_⟩
    · rw [hnone']
      exact hcount.trans (congrArg List.length hfs)
    · simp [hnone']
  | cons g gs =>
    have hsome : s.leaveUnit.context.frames = g.modify (·.push f.node.toElement) :: gs := by
      rw [hleave]
      exact Context.frames_modify_eq_cons hfs _
    rw [closeUnit_of_nested (by simp [hsome])]
    rw [hfs] at hunits
    refine ⟨hsentinel, by simp [hsome], by simp [hsome, hcount, hfs], ?_⟩
    rw [hsome]
    intro g' hg'
    rcases List.mem_cons.1 hg' with rfl | hg'
    · refine @OpenUnit.pushAll g [f.node.toElement] (hunits g List.mem_cons_self) ?_ ?_
      · simp [Node.toElement]
      · simp only [Node.toElement, Element.nodesAll_singleton_node, List.mem_cons]
        rintro m (rfl | hm)
        · simp [hkind]
        · exact hplaced m hm
    · exact hunits g' (List.mem_cons_of_mem g hg')

theorem checkTrailer_context (name : Token) (s : State) :
    (Production.checkTrailer name s).context = s.context := by
  unfold Production.checkTrailer
  split
  · rfl
  · split <;> rfl

theorem checkTrailer_openNames (name : Token) (s : State) :
    (Production.checkTrailer name s).openNames = s.openNames := by
  unfold Production.checkTrailer
  split
  · rfl
  · split <;> rfl

theorem checkTrailer_stream (name : Token) (s : State) :
    (Production.checkTrailer name s).stream = s.stream := by
  unfold Production.checkTrailer
  split
  · rfl
  · split <;> rfl

theorem sentinel_move {s s' : State} (h : Move s s') :
    s'.stream.sentinel = s.stream.sentinel := by
  cases h <;> rfl

theorem Moves.sentinel_eq {s s' : State} (h : Moves s s') :
    s'.stream.sentinel = s.stream.sentinel :=
  h.preserves (f := fun s => s.stream.sentinel) sentinel_move

/-- A configuration outside all units is in order. -/
theorem Orderly.of_outside {s : State} (hsentinel : s.stream.sentinel.isEndOfInput)
    (hframes : s.context.frames = []) (hnames : s.openNames = []) :
    Orderly ⟨.sourceUnit, s⟩ where
  sentinel := hsentinel
  outside := ⟨fun _ => hframes, fun _ => rfl⟩
  names := by simp [hframes, hnames]
  units := by simp [hframes]

theorem Orderly.openNames_eq_nil {s : State} (h : Orderly ⟨.sourceUnit, s⟩) :
    s.openNames = [] := by
  have hnames := h.names
  rw [h.outside.1 rfl] at hnames
  exact List.length_eq_zero_iff.1 hnames

/-- Inside a unit, the open nodes are that unit and those around it. -/
theorem Orderly.exists_unit {ds : List Division} {s : State}
    (h : Orderly ⟨.programUnit ds, s⟩) :
    ∃ f fs, s.context.frames = f :: fs ∧ OpenUnit f ∧ ∀ g ∈ fs, OpenUnit g := by
  have hunits := h.units
  cases hframes : s.context.frames with
  | nil => exact nomatch h.outside.2 hframes
  | cons f fs =>
    rw [hframes, List.forall_mem_cons] at hunits
    exact ⟨f, fs, rfl, hunits⟩

theorem Orderly.openNames_ne_nil {ds : List Division} {s : State}
    (h : Orderly ⟨.programUnit ds, s⟩) :
    s.openNames ≠ [] := by
  obtain ⟨f, fs, hframes, -⟩ := h.exists_unit
  refine List.length_pos_iff.1 ?_
  rw [h.names, hframes, List.length_cons]
  omega

theorem exists_significant_of_atAnyHeader {score : Similarity} {start : Bool}
    {unread : List Token} (h : atAnyHeader score start unread) :
    ∃ t rest, unread.dropWhile Token.isTrivia = t :: rest := by
  have hne : unread.dropWhile Token.isTrivia ≠ [] := by
    simp only [atAnyHeader, Bool.or_eq_true, Bool.and_eq_true, List.any_eq_true] at h
    rcases h with (⟨d, -, hd⟩ | hunit) | ⟨-, hother⟩
    · cases d <;> exact dropWhile_ne_nil_of_looksLike (by simp) hd
    · exact dropWhile_ne_nil_of_atIdentificationHeader hunit
    · exact dropWhile_ne_nil_of_looksLike (by simp) hother
  exact List.exists_cons_of_ne_nil hne

theorem State.nextSignificant_eq {s : State} {t : Token} {rest : List Token}
    (h : s.unread.dropWhile Token.isTrivia = t :: rest) : s.nextSignificant = t := by
  have ht := isTrivia_of_dropWhile_eq_cons h
  rw [nextSignificant, firstSignificant_eq_take, ← significantTokens_dropWhile, h,
    significantTokens_cons_of_significant ht]
  rfl

/--
How the machine came to give up: it entered a new unit or went on in an open one, read as far as
it could, and complained of the next token, the next significant one, or the end of the text.
-/
structure Breakdown (c : Configuration) (s₁ : State) (t : Token) (k : Complaint) : Prop where
  entry : ∃ s₀ es, (s₀ = c.state ∧ c.phase ≠ .sourceUnit ∨
    s₀ = c.state.shiftTrivia.openNode .programUnit) ∧ Reads s₀ es s₁ ∧
    ∀ m ∈ Element.nodesAll es, m.kind.isDivision
  founded : s₁.context.Founded
  ended : k.isEndOfInput → t = s₁.peek ∧ t.isEndOfInput
  blamed : k.isEndOfInput = false →
    ∃ gap rest, (∀ u ∈ gap, u.isTrivia) ∧ s₁.unread = gap ++ t :: rest

/-- What is unread when the machine gives up was unread before. -/
theorem Breakdown.mem_unread {c : Configuration} {s₁ : State} {t : Token} {k : Complaint}
    (h : Breakdown c s₁ t k) {u : Token} (hu : u ∈ s₁.unread) : u ∈ c.state.unread := by
  obtain ⟨s₀, es, hentry, hreads, -⟩ := h.entry
  have hu₀ : u ∈ s₀.unread := by
    rw [hreads.unread]
    exact List.mem_append_right _ hu
  rcases hentry with ⟨rfl, -⟩ | rfl
  · exact hu₀
  · rw [State.unread_openNode, State.unread_shiftTrivia] at hu₀
    exact (List.dropWhile_sublist _).subset hu₀

/-- A text without ends of input is complained of as ended only where nothing is left of it. -/
theorem Breakdown.exhausted {c : Configuration} {s₁ : State} {t : Token} {k : Complaint}
    (h : Breakdown c s₁ t k) (hunread : ∀ u ∈ s₁.unread, u.isEndOfInput = false)
    (hend : k.isEndOfInput) : s₁.unread = [] ∧ t = s₁.stream.sentinel := by
  obtain ⟨rfl, hpeek⟩ := h.ended hend
  cases hu : s₁.unread with
  | nil => exact ⟨rfl, State.peek_of_exhausted hu⟩
  | cons t rest =>
    rw [State.peek_eq hu] at hpeek
    simp [hunread t (by simp [hu])] at hpeek

theorem Context.Founded.of_frames {c : Context} {f : Frame} {fs : List Frame}
    (hframes : c.frames = f :: fs) (h : Element.BeginsWithDivision f.node.children)
    (hunits : ∀ g ∈ fs, OpenUnit g) : c.Founded where
  frames_ne_nil := by simp [hframes]
  divisions := by
    rw [hframes]
    intro g hg
    rcases List.mem_cons.1 hg with rfl | hg
    · exact h
    · exact (hunits g hg).founded

theorem Breakdown.of_givesUp {c : Configuration} {s₀ s₁ s' : State}
    {es : List Element} {f : Failure} (hentry : s₀ = c.state ∧ c.phase ≠ .sourceUnit ∨
      s₀ = c.state.shiftTrivia.openNode .programUnit)
    (hreads : Reads s₀ es s₁) (hkinds : ∀ m ∈ Element.nodesAll es, m.kind.isDivision)
    (hgives : GivesUp s₁ f s') (hfounded : s₁.context.Founded)
    (hsentinel : s₁.stream.sentinel.isEndOfInput) :
    ∃ s₁ t k, Breakdown c s₁ t k ∧ s' = s₁.report [(k.failure t).diagnostic] := by
  obtain ⟨⟨k, hk, rfl⟩, rfl⟩ := hgives
  refine ⟨s₁, s₁.peek, k,
    ⟨⟨s₀, es, hentry, hreads, hkinds⟩, hfounded, fun hend => ⟨rfl, hk ▸ hend⟩,
    fun hend => ?_⟩, rfl⟩
  rw [hk] at hend
  obtain ⟨rest, hrest⟩ := s₁.unread_eq_cons hsentinel hend
  exact ⟨[], rest, by simp, hrest⟩

theorem Fails.breakdown {score : Similarity} {c : Configuration} {f : Failure} {s' : State}
    (h : Fails score c f s') (hc : Orderly c) :
    ∃ s₁ t k, Breakdown c s₁ t k ∧ s' = s₁.report [(k.failure t).diagnostic] := by
  have hs := hc.sentinel
  cases h with
  | @opening phase s f s' hfaces hopen =>
    obtain ⟨ts, s₁, hreads, hgives⟩ := exists_givesUp_of_openUnit hopen hs
    refine Breakdown.of_givesUp (.inr rfl) hreads (by simp [NodeKind.isDivision]) hgives ?_
      (by rwa [hreads.sentinel])
    exact .of_frames (hreads.frames_eq_cons rfl) ⟨_, _, [], rfl,
      rfl⟩ (State.units_shiftTrivia hc.units)
  | @division d ds s f s' hheader hdivision =>
    obtain ⟨g, gs, hframes, hg, hunits⟩ := hc.exists_unit
    obtain ⟨gap, ts, s₁, -, hreads, hgives⟩ := exists_givesUp_of_division hdivision hs
    refine Breakdown.of_givesUp (.inl ⟨rfl, nofun⟩) hreads ?_ hgives ?_
      (by rwa [hreads.sentinel])
    · cases d <;> simp [Division.kind, NodeKind.isDivision]
    exact .of_frames (hreads.frames_eq_cons hframes) (hg.founded.append _) hunits
  | @header s f s' hunit hheader hrun =>
    obtain ⟨g, gs, hframes, hg, hunits⟩ := hc.exists_unit
    obtain ⟨t, rest, hnext⟩ := exists_significant_of_atAnyHeader hheader
    cases hrun
    refine ⟨s, s.nextSignificant, .alternatives (expectedOpeners s.context.current),
      ⟨⟨s, [], .inl ⟨rfl, nofun⟩, .refl s, by simp⟩, ?_, nofun, fun _ => ?_⟩, rfl⟩
    · exact .of_frames hframes hg.founded hunits
    · refine ⟨s.unread.takeWhile Token.isTrivia, rest, ?_, ?_⟩
      · exact fun u hu => List.all_eq_true.1 List.all_takeWhile u hu
      · rw [State.nextSignificant_eq hnext, ← hnext, List.takeWhile_append_dropWhile]
  | @trailer s f s' hend htrailer hown hwords =>
    obtain ⟨g, gs, hframes, hg, hunits⟩ := hc.exists_unit
    obtain ⟨ts, s₁, hreads, hgives⟩ := exists_givesUp_of_endProgram hwords hs
    refine Breakdown.of_givesUp (.inl ⟨rfl, nofun⟩) hreads (by simp) hgives ?_
      (by rwa [hreads.sentinel])
    exact .of_frames (hreads.frames_eq_cons hframes) (hg.founded.append _) hunits

/-- Whatever fails, fails behind a division. -/
theorem Fails.founded {score : Similarity} {c : Configuration} {f : Failure} {s' : State}
    (h : Fails score c f s') (hc : Orderly c) : s'.context.Founded := by
  obtain ⟨s₁, t, k, hb, rfl⟩ := h.breakdown hc
  exact hb.founded

/-- The machine keeps its open units in order. -/
theorem Orderly.step {score : Similarity} {c : Configuration} (h : Orderly c) :
    Orderly (step score c) := by
  have hadvance := advance_step score c
  have hsentinel : (Parse.step score c).state.stream.sentinel.isEndOfInput := by
    rw [(moves_step c).sentinel_eq]
    exact h.sentinel
  generalize Parse.step score c = c' at hadvance hsentinel
  cases hadvance with
  | finishes hend =>
    exact .of_outside hsentinel (State.frames_shiftTrivia_eq_nil_iff.2 (h.outside.1 rfl))
      h.openNames_eq_nil
  | skips hmore hother =>
    refine .of_outside hsentinel (State.frames_shiftTrivia_eq_nil_iff.2 ?_) h.openNames_eq_nil
    exact Context.frames_modify_eq_nil
      (State.frames_shiftTrivia_eq_nil_iff.2 (h.outside.1 rfl)) _
  | opens hfaces hopen =>
    obtain ⟨f, hf, hcontext, hcount, -⟩ := frames_of_openUnit hopen h.sentinel
    refine ⟨hsentinel, by simp [hcontext], ?_, ?_⟩
    · rw [hcount, hcontext, List.length_cons, State.frames_length_shiftTrivia]
      exact congrArg (· + 1) h.names
    · rw [hcontext]
      intro g hg
      rcases List.mem_cons.1 hg with rfl | hg
      · exact hf
      · exact State.units_shiftTrivia h.units g hg
  | passes hheader =>
    obtain ⟨f, fs, hframes, -⟩ := h.exists_unit
    exact ⟨hsentinel, by simp [hframes], h.names, h.units⟩
  | @reads d ds s s' hheader hdivision =>
    obtain ⟨f, fs, hframes, hf, hunits⟩ := h.exists_unit
    obtain ⟨gap, ts, hgap, hreads⟩ := exists_reads_of_division hdivision h.sentinel
    have hframes' := hreads.frames_eq_cons hframes
    refine ⟨hsentinel, by simp [hframes'], ?_, ?_⟩
    · rw [hreads.frames_length, hreads.openNames]
      exact h.names
    · rw [hframes']
      intro g hg
      rcases List.mem_cons.1 hg with rfl | hg
      · refine hf.pushAll ?_ ?_
        · simpa using hgap
        · cases d <;> simp [Division.kind]
      · exact hunits g hg
  | leaves hend htrailer =>
    obtain ⟨f, fs, hframes, hf, hunits⟩ := h.exists_unit
    exact .closeUnit h.sentinel hframes h.names hf.kind hf.placed hunits
  | @ends s s' hend htrailer hown hwords =>
    obtain ⟨f, fs, hframes, hf, hunits⟩ := h.exists_unit
    obtain ⟨ts, _, _, name, _, s₁, hreads, -, rfl⟩ :=
      exists_reads_of_endProgram hwords h.sentinel
    have hframes₁ := hreads.frames_eq_cons hframes
    rw [← checkTrailer_context name] at hframes₁
    refine .closeUnit ?_ hframes₁ ?_ hf.kind ?_ hunits
    · rw [checkTrailer_stream, hreads.sentinel]
      exact h.sentinel
    · rw [checkTrailer_openNames, checkTrailer_context, hreads.openNames, hreads.frames_length]
      exact h.names
    · simpa [Frame.modify, Node.pushAll] using hf.placed
  | fails hfails => exact .of_outside hsentinel (State.frames_recover _) rfl

theorem Orderly.iterate {score : Similarity} {c : Configuration} (h : Orderly c) (n : Nat) :
    Orderly ((Parse.step score)^[n] c) := by
  induction n with
  | zero => exact h
  | succ n ih =>
    rw [Function.iterate_succ_apply']
    exact ih.step

end Parse

end CobolCompanion
