import CobolCompanion.Proofs.ErrorRegions

namespace CobolCompanion

open Parse

def Diagnostic.Concerns (d : Diagnostic) (ts : List Token) : Prop :=
  ∃ t ∈ ts, d.range = t.range

instance (d : Diagnostic) (ts : List Token) : Decidable (d.Concerns ts) :=
  inferInstanceAs (Decidable (∃ t ∈ ts, d.range = t.range))

theorem Diagnostic.Concerns.mono {d : Diagnostic} {ts us : List Token} (h : d.Concerns ts)
    (hsub : ∀ t ∈ ts, t ∈ us) : d.Concerns us := by
  obtain ⟨t, ht, hrange⟩ := h
  exact ⟨t, hsub t ht, hrange⟩

theorem Diagnostic.BlamesEnd.range_eq {d : Diagnostic} {sentinel : Token}
    (h : d.BlamesEnd sentinel) :
    d.range = sentinel.range := by
  obtain ⟨expected, rfl⟩ := h
  rfl

theorem Diagnostic.Concerns.of_distinct {d : Diagnostic} {ts us : List Token}
    (hdistinct : ((ts ++ us).map Token.range).Nodup) (h : d.Concerns ts) : ¬d.Concerns us := by
  rintro ⟨u, hu, hd⟩
  obtain ⟨t, ht, hd'⟩ := h
  rw [List.map_append, List.nodup_append] at hdistinct
  exact hdistinct.2.2 t.range (List.mem_map_of_mem ht) u.range (List.mem_map_of_mem hu)
    (hd'.symm.trans hd)

/-- The findings about a stretch of tokens can be told from those before and after. -/
theorem filter_concerns {pre part post : List Token} {before found after : List Diagnostic}
    (hdistinct : ((pre ++ (part ++ post)).map Token.range).Nodup)
    (hbefore : ∀ d ∈ before, d.Concerns pre) (hfound : ∀ d ∈ found, d.Concerns part)
    (hafter : ∀ d ∈ after, d.Concerns post) :
    (before ++ (found ++ after)).filter (·.Concerns part) = found := by
  have hfront : ((pre ++ part).map Token.range).Nodup := by
    rw [← List.append_assoc] at hdistinct
    exact hdistinct.sublist ((List.sublist_append_left _ _).map _)
  have hback : ((part ++ post).map Token.range).Nodup :=
    hdistinct.sublist ((List.sublist_append_right _ _).map _)
  have hnone : before.filter (·.Concerns part) = [] := by
    apply List.filter_eq_nil_iff.2
    intro d hd
    simpa using (hbefore d hd).of_distinct hfront
  have hall : found.filter (·.Concerns part) = found := by
    apply List.filter_eq_self.2
    intro d hd
    simpa using hfound d hd
  have hnone' : after.filter (·.Concerns part) = [] := by
    apply List.filter_eq_nil_iff.2
    intro d hd
    simpa using fun hpart => Diagnostic.Concerns.of_distinct hback hpart (hafter d hd)
  rw [List.filter_append, List.filter_append, hnone, hall, hnone', List.nil_append,
    List.append_nil]

namespace Parse

theorem Complaint.range_diagnostic (c : Complaint) (t : Token) :
    (c.failure t).diagnostic.range = t.range := by
  cases c <;> rfl

/-- Between two states tokens are read, and what is reported is about them or about the end. -/
structure Tells (s s' : State) (ts : List Token) (ds : List Diagnostic) : Prop where
  unread : s.unread = ts ++ s'.unread
  diagnostics : s'.diagnostics = s.diagnostics ++ ds
  concerns : ∀ d ∈ ds, d.Concerns ts ∨ s'.unread = [] ∧ d.BlamesEnd s'.stream.sentinel
  sentinel : s'.stream.sentinel = s.stream.sentinel

namespace Tells

variable {s s' s'' : State} {ts us : List Token} {ds es : List Diagnostic}

/-- Nothing is read and nothing reported. -/
theorem silent (hstream : s'.stream = s.stream)
    (hdiagnostics : s'.diagnostics = s.diagnostics) :
    Tells s s' [] [] where
  unread := by rw [State.unread, State.unread, hstream, List.nil_append]
  diagnostics := by rw [hdiagnostics, List.append_nil]
  concerns := nofun
  sentinel := by rw [hstream]

theorem trans (h : Tells s s' ts ds) (h' : Tells s' s'' us es) :
    Tells s s'' (ts ++ us) (ds ++ es) where
  unread := by rw [h.unread, h'.unread, List.append_assoc]
  diagnostics := by rw [h'.diagnostics, h.diagnostics, List.append_assoc]
  concerns := fun d hd => by
    rcases List.mem_append.1 hd with hd | hd
    · refine (h.concerns d hd).imp (·.mono fun t ht => List.mem_append_left _ ht) fun hend => ?_
      rw [h'.unread] at hend
      exact ⟨(List.append_eq_nil_iff.1 hend.1).2, h'.sentinel ▸ hend.2⟩
    · exact (h'.concerns d hd).imp_left (·.mono fun t ht => List.mem_append_right _ ht)
  sentinel := h'.sentinel.trans h.sentinel

theorem forall_unread (h : Tells s s' ts ds) {p : Token → Prop} (hs : ∀ t ∈ s.unread, p t) :
    ∀ t ∈ s'.unread, p t := by
  rw [h.unread, List.forall_mem_append] at hs
  exact hs.2

theorem concerns_read (h : Tells s s' ts ds) (hmore : s'.unread ≠ []) :
    ∀ d ∈ ds, d.Concerns ts := by
  intro d hd
  apply (h.concerns d hd).resolve_right
  intro hend
  exact hmore hend.1

end Tells

/-- Tokens that are read are told of by nothing but misspellings among them. -/
theorem Reads.tells {s s' : State} {es : List Element} (h : Reads s es s') :
    ∃ ds, Tells s s' (Element.leavesAll es) ds := by
  obtain ⟨ds, hds, hwarned⟩ := h.diagnostics
  refine ⟨ds, h.unread, hds, fun d hd => .inl ?_, h.sentinel⟩
  obtain ⟨t, ht, keyword, rfl⟩ := hwarned.exists_mem hd
  exact ⟨t, ht, rfl⟩

theorem tells_shiftTrivia (s : State) : ∃ ts, Tells s s.shiftTrivia ts [] := by
  refine ⟨s.unread.take (triviaLength s.unread), ?_, ?_, nofun, rfl⟩
  · exact (List.take_append_drop _ _).symm
  · exact (List.append_nil _).symm

theorem tells_closeUnit (s : State) : ∃ ts, Tells s (closeUnit s).state ts [] := by
  have hleave : Tells s s.leaveUnit [] [] := .silent rfl rfl
  by_cases h : s.leaveUnit.context.frames = []
  · rw [closeUnit_of_outermost h]
    obtain ⟨ts, htrivia⟩ := tells_shiftTrivia s.leaveUnit
    exact ⟨_, hleave.trans htrivia⟩
  · rw [closeUnit_of_nested h]
    exact ⟨_, hleave⟩

theorem tells_endProgram {score : Similarity} {s s' : State}
    (h : Production.endProgram score s = .ok () s') (hs : s.stream.sentinel.isEndOfInput) :
    ∃ ts ds, Tells s s' ts ds := by
  obtain ⟨ts, ending, program, name, period, s₁, hreads, hts, rfl⟩ :=
    exists_reads_of_endProgram h hs
  obtain ⟨ds, htells⟩ := hreads.tells
  rw [Element.leavesAll_map_token] at htells
  have hname : name ∈ ts := (mem_of_mem_significantTokens (by simp [hts])).1
  unfold Production.checkTrailer
  split
  · exact ⟨ts, ds, htells⟩
  · split
    · exact ⟨ts, ds, htells⟩
    · let mismatch := Production.trailerMismatch name (s₁.context.current.name.getD "")
      refine ⟨ts, ds ++ [mismatch], htells.unread, ?_, fun d hd => ?_, htells.sentinel⟩
      · exact (congrArg (· ++ [mismatch]) htells.diagnostics).trans (List.append_assoc ..)
      · rcases List.mem_append.1 hd with hd | hd
        · exact htells.concerns d hd
        · rw [List.mem_singleton.1 hd]
          exact .inl ⟨name, hname, rfl⟩

/-- A failure is about a token that recovery skips, or about the end of the text. -/
theorem Breakdown.tells {c : Configuration} {s₁ : State} {t : Token} {k : Complaint}
    (h : Breakdown c s₁ t k) (hunread : ∀ u ∈ c.state.unread, u.isEndOfInput = false) :
    ∃ ts ds, Tells c.state (s₁.report [(k.failure t).diagnostic]).recover ts ds := by
  have hentry : ∃ ts ds, Tells c.state s₁ ts ds := by
    obtain ⟨s₀, es, hentry, hreads, -⟩ := h.entry
    obtain ⟨ds, htells⟩ := hreads.tells
    rcases hentry with ⟨rfl, -⟩ | rfl
    · exact ⟨_, ds, htells⟩
    · obtain ⟨ts, htrivia⟩ := tells_shiftTrivia c.state
      have hopen : Tells c.state.shiftTrivia
          (c.state.shiftTrivia.openNode .programUnit) [] [] :=
        .silent rfl rfl
      exact ⟨_, _, (htrivia.trans hopen).trans htells⟩
  obtain ⟨ts, ds, htells⟩ := hentry
  suffices hspoils : Tells s₁ (s₁.report [(k.failure t).diagnostic]).recover s₁.spoilt
      [(k.failure t).diagnostic] from ⟨_, _, htells.trans hspoils⟩
  refine ⟨?_, rfl, ?_, rfl⟩
  · exact (s₁.report [(k.failure t).diagnostic]).spoilt_append_unread_recover.symm
  · simp only [List.mem_singleton, forall_eq]
    cases hk : k.isEndOfInput with
    | true =>
      obtain ⟨hend, ht⟩ := h.exhausted (fun u hu => hunread u (h.mem_unread hu)) hk
      refine .inr ⟨?_, ?_⟩
      · rw [State.unread_recover_eq, State.unread_report, hend, List.drop_nil]
      · cases k with
        | endOfInput expected => exact ⟨expected, by rw [ht]; rfl⟩
        | token expected => cases hk
        | alternatives expected => cases hk
    | false =>
      obtain ⟨gap, rest, hgap, hrest⟩ := h.blamed hk
      exact .inl ⟨t, State.mem_spoilt hgap hrest, k.range_diagnostic t⟩

/-- What a step reports is about what it reads. -/
theorem tells_step {score : Similarity} {c : Configuration} (hc : Orderly c)
    (hunread : ∀ u ∈ c.state.unread, u.isEndOfInput = false) :
    ∃ ts ds, Tells c.state (step score c).state ts ds := by
  have hadvance := advance_step score c
  generalize Parse.step score c = c' at hadvance
  cases hadvance with
  | @finishes s hend =>
    obtain ⟨ts, htells⟩ := tells_shiftTrivia s
    exact ⟨ts, [], htells⟩
  | @skips s hmore hother =>
    obtain ⟨ts, htells⟩ := tells_shiftTrivia s
    obtain ⟨t, rest, hnext⟩ := List.exists_cons_of_ne_nil hmore
    have hskip : Tells s.shiftTrivia ((s.shiftTrivia.report [unknownInput t]).skip 1) [t]
        [unknownInput t] := by
      refine ⟨by simp [hnext], rfl, ?_, rfl⟩
      simp only [List.mem_singleton, forall_eq]
      exact .inl ⟨t, by simp, rfl⟩
    obtain ⟨us, htells'⟩ := tells_shiftTrivia ((s.shiftTrivia.report [unknownInput t]).skip 1)
    rw [State.peek_eq hnext]
    exact ⟨_, _, (htells.trans hskip).trans htells'⟩
  | @opens phase s s' hfaces hopen =>
    obtain ⟨ts, htells⟩ := tells_shiftTrivia s
    obtain ⟨us, name, s₁, hreads, rfl⟩ := exists_reads_of_openUnit hopen hc.sentinel
    obtain ⟨ds, htells'⟩ := hreads.tells
    have hopen' : Tells s.shiftTrivia (s.shiftTrivia.openNode .programUnit) [] [] :=
      .silent rfl rfl
    have hnamed : Tells s₁ (s₁.named name) [] [] := .silent rfl rfl
    exact ⟨_, _, ((htells.trans hopen').trans htells').trans hnamed⟩
  | passes hheader => exact ⟨[], [], .silent rfl rfl⟩
  | reads hheader hdivision =>
    obtain ⟨gap, ts, -, hreads⟩ := exists_reads_of_division hdivision hc.sentinel
    exact ⟨_, hreads.tells⟩
  | @leaves s hend htrailer =>
    obtain ⟨ts, htells⟩ := tells_closeUnit s
    exact ⟨ts, [], htells⟩
  | @ends s s' hend htrailer hown hwords =>
    obtain ⟨ts, ds, htells⟩ := tells_endProgram hwords hc.sentinel
    obtain ⟨us, htells'⟩ := tells_closeUnit s'
    exact ⟨_, _, htells.trans htells'⟩
  | fails hfails =>
    obtain ⟨s₁, t, k, hb, rfl⟩ := hfails.breakdown hc
    exact hb.tells hunread

theorem tells_iterate {score : Similarity} {c : Configuration} (hc : Orderly c)
    (hunread : ∀ u ∈ c.state.unread, u.isEndOfInput = false) (n : Nat) :
    ∃ ts ds, Tells c.state ((step score)^[n] c).state ts ds := by
  induction n generalizing c with
  | zero => exact ⟨[], [], .silent rfl rfl⟩
  | succ n ih =>
    obtain ⟨ts, ds, htells⟩ := @tells_step score c hc hunread
    obtain ⟨us, es, htells'⟩ := ih hc.step (htells.forall_unread hunread)
    exact ⟨_, _, htells.trans htells'⟩

theorem exists_tells_run (score : Similarity) {c : Configuration} (hc : Orderly c)
    (hunread : ∀ u ∈ c.state.unread, u.isEndOfInput = false) :
    ∃ ds, Tells c.state (run score c) c.state.unread ds := by
  obtain ⟨n, -, hrun⟩ := @exists_iterate_isFinal score c
  obtain ⟨ts, ds, htells⟩ := @tells_iterate score c hc hunread n
  rw [hrun] at htells
  have hall := htells.unread
  rw [unread_run, List.append_nil] at hall
  exact ⟨ds, hall ▸ htells⟩

end Parse

end CobolCompanion
