import CobolCompanion.Proofs.OpenUnits

namespace CobolCompanion

open Parse

/-- The significant tokens directly in a node. In a program unit these are its trailer. -/
def Node.trailer (n : Node) : List Token :=
  significantTokens (n.children.filterMap Element.asToken?)

namespace Parse

theorem OpenUnit.trailer_pushAll {f : Frame} (h : OpenUnit f) (ts : List Token) :
    (f.node.pushAll (ts.map .token)).trailer = significantTokens ts := by
  have htrivia : significantTokens (f.node.children.filterMap Element.asToken?) = [] := by
    apply significantTokens_eq_nil
    intro t ht
    obtain ⟨e, he, ht⟩ := List.mem_filterMap.1 ht
    cases e with
    | token u =>
      cases ht
      exact h.trivia t he
    | node heading children => cases ht
  have htokens : (ts.map Element.token).filterMap Element.asToken? = ts := by
    induction ts with
    | nil => rfl
    | cons t ts ih => exact congrArg (t :: ·) ih
  rw [Node.trailer, Node.pushAll, List.filterMap_append, significantTokens_append,
    htrivia, htokens, List.nil_append]

theorem OpenUnit.trailer_eq_nil {f : Frame} (h : OpenUnit f) : f.node.trailer = [] := by
  have htrailer := h.trailer_pushAll []
  rwa [List.map_nil, Node.pushAll, List.append_nil] at htrailer

namespace Context

/-- A node is attached somewhere in what has been built. -/
def Holds (c : Context) (n : Node) : Prop :=
  n ∈ Element.nodesAll c.root.node.children ∨
    ∃ f ∈ c.frames, n ∈ Element.nodesAll f.node.children

variable {c : Context} {n : Node}

theorem Holds.of_modify {change : Node → Node} {P : Prop} (h : (c.modify change).Holds n)
    (hchange : ∀ m : Node, n ∈ Element.nodesAll (change m).children →
      n ∈ Element.nodesAll m.children ∨ P) : c.Holds n ∨ P := by
  obtain ⟨root, frames⟩ := c
  cases frames with
  | nil =>
    rcases h with h | ⟨f, hf, -⟩
    · exact (hchange root.node h).imp_left .inl
    · cases hf
  | cons f fs =>
    rcases h with h | ⟨g, hg, h⟩
    · exact .inl (.inl h)
    · rcases List.mem_cons.1 hg with rfl | hg
      · exact (hchange f.node h).imp_left fun h => .inr ⟨f, List.mem_cons_self, h⟩
      · exact .inl (.inr ⟨g, List.mem_cons_of_mem f hg, h⟩)

theorem Holds.of_push {kind : NodeKind} (h : (c.push (.ofKind kind)).Holds n) : c.Holds n := by
  rcases h with h | ⟨f, hf, h⟩
  · exact .inl h
  · rcases List.mem_cons.1 hf with rfl | hf
    · cases h
    · exact .inr ⟨f, hf, h⟩

theorem Holds.of_close (h : c.close.Holds n) :
    c.Holds n ∨ ∃ f fs, c.frames = f :: fs ∧ n = f.node := by
  obtain ⟨root, frames⟩ := c
  cases frames with
  | nil => exact .inl h
  | cons f fs =>
    have hpush :
        (({ root, frames := fs } : Context).modify (·.push f.node.toElement)).Holds n := h
    have hsplit := hpush.of_modify (P := n = f.node ∨ n ∈ Element.nodesAll f.node.children)
      fun m hm => by simpa [Node.push, Node.toElement] using hm
    rcases hsplit with (h | ⟨g, hg, h⟩) | h | h
    · exact .inl (.inl h)
    · exact .inl (.inr ⟨g, List.mem_cons_of_mem f hg, h⟩)
    · exact .inr ⟨f, fs, rfl, h⟩
    · exact .inl (.inr ⟨f, List.mem_cons_self, h⟩)

theorem mem_nodesAll_remnants (h : n ∈ Element.nodesAll c.remnants) :
    c.Holds n ∨ n.kind = .skipped := by
  unfold remnants at h
  split at h
  · cases h
  · next f fs hframes =>
    rcases mem_nodesAll_spill h with h | ⟨g, hg, h⟩ | h
    · exact .inl (.inr ⟨f, by simp [hframes], h⟩)
    · exact .inl (.inr ⟨g, by simp [hframes, hg], h⟩)
    · exact .inr h

end Context

theorem Reads.holds {s s' : State} {es : List Element} {n : Node} (h : Reads s es s')
    (hkinds : ∀ m ∈ Element.nodesAll es, m.kind.isDivision) (hkind : n.kind = .programUnit)
    (hn : s'.context.Holds n) : s.context.Holds n := by
  rw [h.context] at hn
  refine (hn.of_modify (P := n ∈ Element.nodesAll es) fun m hm => ?_).resolve_right
    fun hes => ?_
  · simpa [Node.pushAll] using hm
  · exact NodeKind.ne_programUnit_of_isDivision (hkinds n hes) hkind

theorem State.holds_shiftTrivia {s : State} {n : Node} (hkind : n.kind = .programUnit)
    (h : s.shiftTrivia.context.Holds n) : s.context.Holds n := by
  obtain ⟨gap, -, hreads⟩ := s.exists_reads_shiftTrivia
  exact hreads.holds (by simp) hkind h

theorem holds_closeUnit {s : State} {n : Node} (hkind : n.kind = .programUnit)
    (h : (closeUnit s).state.context.Holds n) :
    s.context.Holds n ∨ ∃ f fs, s.context.frames = f :: fs ∧ n = f.node := by
  have hleave : s.leaveUnit.context.Holds n := by
    by_cases hframes : s.leaveUnit.context.frames = []
    · rw [closeUnit_of_outermost hframes] at h
      exact State.holds_shiftTrivia hkind h
    · rwa [closeUnit_of_nested hframes] at h
  exact Context.Holds.of_close (c := s.context) hleave

/-- What is left after a failure holds no units that were not there before. -/
theorem Breakdown.holds {c : Configuration} {s₁ : State} {t : Token} {k : Complaint} {n : Node}
    (hb : Breakdown c s₁ t k) (hkind : n.kind = .programUnit)
    (h : (s₁.report [(k.failure t).diagnostic]).recover.context.Holds n) :
    c.state.context.Holds n := by
  have hs₁ : s₁.context.Holds n := by
    rw [State.context_recover] at h
    rcases h with h | ⟨f, hf, -⟩
    · rcases Node.mem_nodesAll_pushSkipped h with h | h | h
      · exact .inl h
      · rw [Element.nodesAll_append, Element.nodesAll_map_token, List.append_nil] at h
        exact (Context.mem_nodesAll_remnants h).resolve_right (by simp [hkind])
      · exact nomatch hkind.symm.trans h
    · cases hf
  obtain ⟨s₀, es, hentry, hreads, hkinds⟩ := hb.entry
  have hs₀ := hreads.holds hkinds hkind hs₁
  rcases hentry with ⟨rfl, -⟩ | rfl
  · exact hs₀
  · exact State.holds_shiftTrivia hkind
      (Context.Holds.of_push (c := c.state.shiftTrivia.context) hs₀)

/-- In a configuration the innermost unit is ended by its trailer. -/
inductive Ends (score : Similarity) : Configuration → State → Node → Prop where
  | intro {s s' : State} {f : Frame} {fs : List Frame} (hend : FacesEnd score s)
      (htrailer : atEndProgram score s.unread) (hown : s.trailerClosesEnclosing = false)
      (h : Production.endProgram score s = .ok () s') (hframes : s'.context.frames = f :: fs) :
      Ends score ⟨.programUnit [], s⟩ s' f.node

/-- A unit was there before a step, or the step has closed it, without a trailer or with one. -/
theorem holds_step_cases {score : Similarity} {c : Configuration} {n : Node} (hc : Orderly c)
    (h : (step score c).state.context.Holds n) (hkind : n.kind = .programUnit) :
    c.state.context.Holds n ∨ (∃ f ∈ c.state.context.frames, n = f.node) ∨
      ∃ s', Ends score c s' n := by
  have hadvance := advance_step score c
  generalize Parse.step score c = c' at h hadvance
  cases hadvance with
  | finishes hend => exact .inl (State.holds_shiftTrivia hkind h)
  | @skips s hmore hother =>
    left
    refine State.holds_shiftTrivia hkind ?_
    have hskip := State.holds_shiftTrivia hkind h
    have hsplit := Context.Holds.of_modify (P := False) hskip fun m hm => by
      rcases Node.mem_nodesAll_pushSkipped hm with hm | hm | hm
      · exact .inl hm
      · simp at hm
      · exact nomatch hkind.symm.trans hm
    exact hsplit.resolve_right id
  | @opens phase s s' hfaces hopen =>
    left
    obtain ⟨ts, name, s₁, hreads, rfl⟩ := exists_reads_of_openUnit hopen hc.sentinel
    have hs₁ := Context.Holds.of_modify (P := False) h fun m hm => .inl hm
    have hs := hreads.holds (by simp [NodeKind.isDivision]) hkind (hs₁.resolve_right id)
    exact State.holds_shiftTrivia hkind (Context.Holds.of_push (c := s.shiftTrivia.context) hs)
  | passes hheader => exact .inl h
  | @reads d ds s s' hheader hdivision =>
    left
    obtain ⟨gap, ts, -, hreads⟩ := exists_reads_of_division hdivision hc.sentinel
    refine hreads.holds ?_ hkind h
    cases d <;> simp [Division.kind, NodeKind.isDivision]
  | @leaves s hend htrailer =>
    rcases holds_closeUnit hkind h with h | ⟨f, fs, hframes, rfl⟩
    · exact .inl h
    · exact .inr (.inl ⟨f, by simp [hframes], rfl⟩)
  | @ends s s' hend htrailer hown hwords =>
    rcases holds_closeUnit hkind h with h | ⟨f, fs, hframes, rfl⟩
    · left
      obtain ⟨ts, _, _, name, _, s₁, hreads, -, rfl⟩ :=
        exists_reads_of_endProgram hwords hc.sentinel
      rw [checkTrailer_context] at h
      exact hreads.holds (by simp) hkind h
    · exact .inr (.inr ⟨s', .intro hend htrailer hown hwords hframes⟩)
  | fails hfails =>
    obtain ⟨s₁, t, k, hb, rfl⟩ := hfails.breakdown hc
    exact .inl (hb.holds hkind h)

theorem holds_step {score : Similarity} {c : Configuration} {n : Node} (hc : Orderly c)
    (h : (step score c).state.context.Holds n) (hkind : n.kind = .programUnit)
    (hn : n.trailer ≠ []) :
    c.state.context.Holds n ∨ ∃ s', Ends score c s' n := by
  rcases holds_step_cases hc h hkind with hheld | ⟨f, hf, rfl⟩ | hends
  · exact .inl hheld
  · exact absurd (hc.units f hf).trailer_eq_nil hn
  · exact .inr hends

theorem exists_ends_of_holds {score : Similarity} {c : Configuration} {n : Node}
    (hc : Orderly c) (hstart : ¬c.state.context.Holds n) (hkind : n.kind = .programUnit)
    (hn : n.trailer ≠ []) (i : Nat) (h : ((step score)^[i] c).state.context.Holds n) :
    ∃ m < i, ∃ s', Ends score ((step score)^[m] c) s' n := by
  induction i with
  | zero => exact absurd h hstart
  | succ i ih =>
    rw [Function.iterate_succ_apply'] at h
    rcases holds_step (hc.iterate i) h hkind hn with h | ⟨s', hends⟩
    · obtain ⟨m, hm, hends⟩ := ih h
      exact ⟨m, Nat.lt_succ_of_lt hm, hends⟩
    · exact ⟨i, Nat.lt_succ_self i, s', hends⟩

theorem frames_length_closeUnit (s : State) :
    (closeUnit s).state.context.frames.length = s.context.frames.length - 1 := by
  have hleave : s.leaveUnit.context.frames.length = s.context.frames.length - 1 :=
    s.context.frames_length_close
  by_cases h : s.leaveUnit.context.frames = []
  · rw [closeUnit_of_outermost h, State.frames_length_shiftTrivia, hleave]
  · rw [closeUnit_of_nested h, hleave]

theorem exists_opens_of_depth {score : Similarity} {c : Configuration} (hc : Orderly c)
    (h : c.state.context.frames.length < (step score c).state.context.frames.length) :
    ∃ s', FacesUnit score c.phase c.state ∧ openUnit score c.state.shiftTrivia = .ok () s' ∧
      step score c = ⟨.programUnit Division.all, s'⟩ ∧
      s'.context.frames.length = c.state.context.frames.length + 1 := by
  have hadvance := advance_step score c
  generalize Parse.step score c = c' at h hadvance ⊢
  cases hadvance with
  | finishes hend => simp [State.frames_length_shiftTrivia] at h
  | @skips s hmore hother =>
    simp [State.frames_length_shiftTrivia, State.skip, State.report] at h
  | @opens phase s s' hfaces hopen =>
    obtain ⟨f, -, hcontext, -⟩ := frames_of_openUnit hopen hc.sentinel
    refine ⟨s', hfaces, hopen, rfl, ?_⟩
    rw [hcontext, List.length_cons, State.frames_length_shiftTrivia]
  | passes hheader => simp at h
  | reads hheader hdivision =>
    obtain ⟨gap, ts, -, hreads⟩ := exists_reads_of_division hdivision hc.sentinel
    simp [hreads.frames_length] at h
  | leaves hend htrailer =>
    rw [frames_length_closeUnit] at h
    dsimp only at h
    omega
  | @ends s s' hend htrailer hown hwords =>
    obtain ⟨ts, _, _, name, _, s₁, hreads, -, rfl⟩ :=
      exists_reads_of_endProgram hwords hc.sentinel
    rw [frames_length_closeUnit, checkTrailer_context, hreads.frames_length] at h
    dsimp only at h
    omega
  | fails hfails => simp [State.frames_recover] at h

theorem exists_last_low {f : Nat → Nat} {bound : Nat} (hlow : f 0 ≤ bound) {m : Nat}
    (hhigh : bound < f m) :
    ∃ k < m, f k ≤ bound ∧ ∀ j, k < j → j ≤ m → bound < f j := by
  induction m with
  | zero => omega
  | succ m ih =>
    by_cases hm : f m ≤ bound
    · refine ⟨m, Nat.lt_succ_self m, hm, ?_⟩
      intro j hj hjm
      rwa [show j = m + 1 by omega]
    · obtain ⟨k, hk, hlow', hsince⟩ := ih (by omega)
      refine ⟨k, Nat.lt_succ_of_lt hk, hlow', ?_⟩
      intro j hj hjm
      rcases Nat.lt_succ_iff_lt_or_eq.1 (Nat.lt_succ_of_le hjm) with hj' | rfl
      · exact hsince j hj (by omega)
      · exact hhigh

/-- A unit from the step that opens it to its trailer, with so many steps between. -/
structure Lifetime (score : Similarity) (c : Configuration) (n : Nat) (s' : State)
    (unit : Node) :
    Prop where
  faces : FacesUnit score c.phase c.state
  opened : ∃ s₁, openUnit score c.state.shiftTrivia = .ok () s₁ ∧
    step score c = ⟨.programUnit Division.all, s₁⟩
  inside : ∀ i ≤ n, c.state.context.frames.length <
    ((step score)^[i] (step score c)).state.context.frames.length
  ended : Ends score ((step score)^[n] (step score c)) s' unit
  depth : s'.context.frames.length = c.state.context.frames.length + 1

theorem Ends.step_eq {score : Similarity} {c : Configuration} {s' : State} {unit : Node}
    (h : Ends score c s' unit) : step score c = closeUnit s' := by
  cases h with
  | intro hend htrailer hown hwords hframes =>
    simp [step, programUnitStep, hend.noUnit, hend.noHeader, htrailer, hown, hwords]

theorem Ends.exists_frames {score : Similarity} {c : Configuration} {s' : State} {unit : Node}
    (h : Ends score c s' unit) : ∃ f fs, s'.context.frames = f :: fs ∧ unit = f.node := by
  cases h with
  | intro hend htrailer hown hwords hframes => exact ⟨_, _, hframes, rfl⟩

/-- A trailer is read in the unit that it ends. -/
theorem Ends.frames_length {score : Similarity} {c : Configuration} {s' : State} {unit : Node}
    (h : Ends score c s' unit) (hc : Orderly c) :
    s'.context.frames.length = c.state.context.frames.length := by
  cases h with
  | intro hend htrailer hown hwords hframes =>
    obtain ⟨ts, _, _, name, _, s₁, hreads, -, rfl⟩ :=
      exists_reads_of_endProgram hwords hc.sentinel
    rw [checkTrailer_context]
    exact hreads.frames_length

theorem Ends.exists_trailer {score : Similarity} {c : Configuration} {s' : State} {unit : Node}
    (h : Ends score c s' unit) (hc : Orderly c) :
    ∃ ts, c.state.unread = ts ++ s'.unread ∧ 3 ≤ (significantTokens ts).length := by
  cases h with
  | intro hend htrailer hown hwords hframes =>
    obtain ⟨ts, _, _, name, _, s₁, hreads, hts, rfl⟩ :=
      exists_reads_of_endProgram hwords hc.sentinel
    have hunread := hreads.unread
    rw [Element.leavesAll_map_token] at hunread
    refine ⟨ts, ?_, by simp [hts]⟩
    exact hunread.trans (congrArg (ts ++ ·.unread) (checkTrailer_stream name s₁).symm)

/-- A unit that is ended has been opened before, and the machine has not left it since. -/
theorem exists_lifetime {score : Similarity} {c : Configuration} (hc : Orderly c)
    (hstart : c.state.context.frames = []) {m : Nat} {s' : State} {unit : Node}
    (hends : Ends score ((step score)^[m] c) s' unit) :
    ∃ k n, k + 1 + n = m ∧ Lifetime score ((step score)^[k] c) n s' unit := by
  have hdepth := hends.frames_length (hc.iterate m)
  obtain ⟨f, fs, hframes, -⟩ := hends.exists_frames
  rw [hframes, List.length_cons] at hdepth
  obtain ⟨k, hkm, hlow, hsince⟩ :=
    @exists_last_low (fun i => ((step score)^[i] c).state.context.frames.length) fs.length
      (by simp [hstart]) m (by omega)
  have hdeeper := hsince (k + 1) (by omega) (by omega)
  rw [Function.iterate_succ_apply'] at hdeeper
  have hgrows := Nat.lt_of_le_of_lt hlow hdeeper
  obtain ⟨s₁, hfaces, hopen, hstep, hone⟩ := exists_opens_of_depth (hc.iterate k) hgrows
  rw [hstep] at hdeeper
  have hlater (i : Nat) :
      (step score)^[i] (step score ((step score)^[k] c)) = (step score)^[k + 1 + i] c := by
    rw [Nat.add_comm, Function.iterate_add_apply, Function.iterate_succ_apply']
  refine ⟨k, m - k - 1, by omega, hfaces, ⟨s₁, hopen, hstep⟩, ?_, ?_, ?_⟩
  · intro i hi
    have hhigh := hsince (k + 1 + i) (by omega) (by omega)
    rw [hlater]
    omega
  · rwa [hlater, show k + 1 + (m - k - 1) = m by omega]
  · rw [hframes, List.length_cons]
    dsimp only at hdeeper
    omega

end Parse

end CobolCompanion
