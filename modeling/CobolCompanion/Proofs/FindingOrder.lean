import CobolCompanion.Proofs.Findings
import CobolCompanion.Proofs.TextOrder
import CobolCompanion.Proofs.TrailerWarnings
import Mathlib.Data.List.Perm.Subperm

namespace CobolCompanion

open Parse

namespace Parse

/--
Findings about some tokens, at most one for each; in their order, but for those about trailers.
-/
structure Remarks (ts : List Token) (ds : List Diagnostic) : Prop where
  places : (ds.map Diagnostic.range).Subperm (ts.map Token.range)
  inOrder : ((ds.filter (!isTrailerWarning ·)).map Diagnostic.range).Sublist
    (ts.map Token.range)

namespace Remarks

variable {ts us : List Token} {ds es : List Diagnostic}

theorem of_sublist (h : (ds.map Diagnostic.range).Sublist (ts.map Token.range)) :
    Remarks ts ds where
  places := h.subperm
  inOrder := (List.filter_sublist.map _).trans h

theorem nil (ts : List Token) : Remarks ts [] :=
  .of_sublist (List.nil_sublist _)

theorem append (h : Remarks ts ds) (h' : Remarks us es) : Remarks (ts ++ us) (ds ++ es) where
  places := by
    rw [List.map_append, List.map_append]
    exact h.places.append h'.places
  inOrder := by
    rw [List.filter_append, List.map_append, List.map_append]
    exact h.inOrder.append h'.inOrder

/-- A finding about one of some tokens. -/
theorem single {d : Diagnostic} {t : Token} (ht : t ∈ ts) (hd : d.range = t.range) :
    Remarks ts [d] := by
  apply of_sublist
  rw [List.map_singleton, hd, List.singleton_sublist]
  exact List.mem_map_of_mem ht

theorem of_misspellings (h : Misspellings ts ds) : Remarks ts ds := by
  apply of_sublist
  induction h with
  | nil => exact .slnil
  | skip t _ ih => exact ih.cons _
  | found t keyword _ ih => exact ih.cons_cons _

theorem insert_trailerWarning {name : Token} {d : Diagnostic} (h : Remarks ts ds)
    (h' : Remarks us es) (hd : d.range = name.range) (hwarning : isTrailerWarning d) :
    Remarks (ts ++ name :: us) (ds ++ (es ++ [d])) where
  places := by
    have hlate : ((es ++ [d]).map Diagnostic.range).Subperm ((name :: us).map Token.range) := by
      rw [List.map_append, List.map_singleton, hd, List.map_cons]
      exact (List.perm_append_singleton _ _).subperm.trans ((List.subperm_cons _).2 h'.places)
    have hall := h.places.append hlate
    rwa [← List.map_append, ← List.map_append] at hall
  inOrder := by
    have hnone : [d].filter (!isTrailerWarning ·) = [] := by simp [hwarning]
    rw [List.filter_append, List.filter_append, hnone, List.append_nil, List.map_append,
      List.map_append, List.map_cons]
    exact h.inOrder.append (h'.inOrder.cons _)

end Remarks

/-- Between two states tokens are read, and each is remarked on at most once. -/
def Notes (s s' : State) : Prop :=
  ∃ ts ds, s.unread = ts ++ s'.unread ∧ s'.diagnostics = s.diagnostics ++ ds ∧ Remarks ts ds

namespace Notes

variable {s s' s'' : State}

theorem trans (h : Notes s s') (h' : Notes s' s'') : Notes s s'' := by
  obtain ⟨ts, ds, hts, hds, hremarks⟩ := h
  obtain ⟨us, es, hus, hes, hremarks'⟩ := h'
  refine ⟨ts ++ us, ds ++ es, ?_, ?_, hremarks.append hremarks'⟩
  · rw [hts, hus, List.append_assoc]
  · rw [hes, hds, List.append_assoc]

theorem silent (hunread : s'.unread = s.unread)
    (hdiagnostics : s'.diagnostics = s.diagnostics) : Notes s s' :=
  ⟨[], [], by rw [hunread, List.nil_append], by rw [hdiagnostics, List.append_nil], .nil []⟩

theorem reads {es : List Element} (h : Reads s es s') : Notes s s' := by
  obtain ⟨ds, hds, hwarned⟩ := h.diagnostics
  exact ⟨_, ds, h.unread, hds, .of_misspellings hwarned⟩

theorem shiftTrivia (s : State) : Notes s s.shiftTrivia := by
  obtain ⟨gap, -, hreads⟩ := s.exists_reads_shiftTrivia
  exact .reads hreads

theorem closeUnit (s : State) : Notes s (closeUnit s).state := by
  have hleave : Notes s s.leaveUnit := .silent rfl rfl
  by_cases h : s.leaveUnit.context.frames = []
  · rw [closeUnit_of_outermost h]
    exact hleave.trans (shiftTrivia s.leaveUnit)
  · rw [closeUnit_of_nested h]
    exact hleave

/-- Recovery skips the token that was complained of. -/
theorem recover {d : Diagnostic} {t : Token} (ht : t ∈ s.spoilt) (hd : d.range = t.range) :
    Notes s (s.report [d]).recover :=
  ⟨s.spoilt, [d], (s.report [d]).spoilt_append_unread_recover.symm, rfl, .single ht hd⟩

end Notes

end Parse

/--
The name in a trailer is read without a warning, and not compared before the rest has been read.
-/
theorem Production.exists_name_of_endProgramWords {score : Similarity} {s s' : State}
    {name : Token} (hs : s.stream.sentinel.isEndOfInput)
    (h : endProgramWords score s = .ok name s') :
    ∃ (before after : List Token) (s₁ : State), Reads s (before.map .token) s₁ ∧
      s₁.unread = name :: (s₁.shift 1).unread ∧ Reads (s₁.shift 1) (after.map .token) s' := by
  rw [endProgramWords, spaces_bind] at h
  obtain ⟨_, s₁, hending, h⟩ := exists_ok_of_bind h
  rw [spaces_bind] at h
  obtain ⟨_, s₂, hprogram, h⟩ := exists_ok_of_bind h
  rw [spaces_bind] at h
  obtain ⟨_, s₃, hname, h⟩ := exists_ok_of_bind h
  rw [spaces_bind] at h
  obtain ⟨_, s₄, hperiod, h⟩ := exists_ok_of_bind h
  cases h
  obtain ⟨ending, hpeek, -, hreads⟩ := exists_reads_of_expect hending hs
  obtain ⟨ts₁, hreads₁, -⟩ := hreads.exists_word hpeek hs
  have hs₁ : s₁.stream.sentinel.isEndOfInput := by rwa [hreads₁.sentinel]
  obtain ⟨program, hpeek, -, hreads⟩ := exists_reads_of_expect hprogram hs₁
  obtain ⟨ts₂, hreads₂, -⟩ := hreads.exists_word hpeek hs₁
  have hs₂ : s₂.stream.sentinel.isEndOfInput := by rwa [hreads₂.sentinel]
  obtain ⟨gap, -, hspaces⟩ := s₂.exists_reads_shiftTrivia
  have hshift : s₃ = s₂.shiftTrivia.shift 1 := by
    rw [programName_run] at hname
    split at hname
    · cases hname
    split at hname
    · cases hname
    · cases hname
      rfl
  obtain ⟨-, hreads, -⟩ := exists_reads_of_programName hname hs₂
  have hs₃ : s₃.stream.sentinel.isEndOfInput := by rwa [hreads.sentinel]
  obtain ⟨period, hpeek, -, hreads'⟩ := exists_reads_of_expect hperiod hs₃
  obtain ⟨ts₄, hreads₄, -⟩ := hreads'.exists_word hpeek hs₃
  have hunread := hreads.unread
  rw [hshift] at hunread hreads₄
  refine ⟨ts₁ ++ ts₂ ++ gap, ts₄, s₂.shiftTrivia, ?_, hunread, hreads₄⟩
  simpa using (hreads₁.trans hreads₂).trans hspaces

namespace Parse

variable {score : Similarity}

theorem notes_endProgram {s s' : State} (hs : s.stream.sentinel.isEndOfInput)
    (h : Production.endProgram score s = .ok () s') : Notes s s' := by
  obtain ⟨name, s₂, hwords, hcheck⟩ := Production.exists_ok_of_bind h
  cases hcheck
  obtain ⟨before, after, s₁, hbefore, hname, hafter⟩ :=
    Production.exists_name_of_endProgramWords hs hwords
  obtain ⟨ds, hds, hwarned⟩ := hbefore.diagnostics
  obtain ⟨es, hes, hwarned'⟩ := hafter.diagnostics
  rw [Element.leavesAll_map_token] at hwarned hwarned'
  have hunread : s.unread = (before ++ name :: after) ++ s₂.unread := by
    rw [hbefore.unread, hname, hafter.unread, Element.leavesAll_map_token,
      Element.leavesAll_map_token, List.append_assoc, List.cons_append]
  have hdiagnostics : s₂.diagnostics = s.diagnostics ++ (ds ++ es) := by
    rw [hes, ← List.append_assoc, ← hds]
    rfl
  have hplain : Remarks (before ++ name :: after) (ds ++ es) :=
    .of_misspellings (hwarned.append (.skip name hwarned'))
  unfold Production.checkTrailer
  split
  · exact ⟨_, _, hunread, hdiagnostics, hplain⟩
  · split
    · exact ⟨_, _, hunread, hdiagnostics, hplain⟩
    · let mismatch := Production.trailerMismatch name (s₂.context.current.name.getD "")
      refine ⟨_, ds ++ (es ++ [mismatch]), hunread, ?_, ?_⟩
      · rw [← List.append_assoc, ← List.append_assoc, List.append_assoc _ ds, ← hdiagnostics]
        rfl
      · exact (Remarks.of_misspellings hwarned).insert_trailerWarning
          (.of_misspellings hwarned') rfl rfl

theorem Breakdown.notes {c : Configuration} {s₁ : State} {t : Token} {k : Complaint}
    (h : Breakdown c s₁ t k) : Notes c.state s₁ := by
  obtain ⟨s₀, es, hentry, hreads, -⟩ := h.entry
  rcases hentry with ⟨rfl, -⟩ | rfl
  · exact .reads hreads
  · have hopen : Notes c.state.shiftTrivia (c.state.shiftTrivia.openNode .programUnit) :=
      .silent rfl rfl
    exact ((Notes.shiftTrivia c.state).trans hopen).trans (.reads hreads)

theorem Complaint.blamesEnd {k : Complaint} (h : k.isEndOfInput) (t : Token) :
    (k.failure t).diagnostic.BlamesEnd t := by
  cases k with
  | endOfInput expected => exact ⟨expected, rfl⟩
  | token expected => cases h
  | alternatives expected => cases h

/-- The text is found to end too early, after remarks on its tokens. -/
def NotesEnd (s s' : State) : Prop :=
  ∃ s₁ d, Notes s s₁ ∧ s'.unread = [] ∧ s'.diagnostics = s₁.diagnostics ++ [d] ∧
    d.BlamesEnd s'.stream.sentinel

/-- A step remarks on the tokens that it reads, or finds that the text has ended. -/
theorem notes_step {c : Configuration} (hc : Orderly c)
    (hunread : ∀ u ∈ c.state.unread, u.isEndOfInput = false) :
    Notes c.state (step score c).state ∨
      (step score c).phase = .sourceUnit ∧ NotesEnd c.state (step score c).state := by
  have hadvance := advance_step score c
  generalize Parse.step score c = c' at hadvance
  cases hadvance with
  | @finishes s hend => exact .inl (.shiftTrivia s)
  | @skips s hmore hother =>
    obtain ⟨t, rest, hnext⟩ := List.exists_cons_of_ne_nil hmore
    have hskip : Notes s.shiftTrivia ((s.shiftTrivia.report [unknownInput t]).skip 1) :=
      ⟨[t], [unknownInput t], by simp [hnext], rfl, .single (List.mem_singleton_self t) rfl⟩
    rw [State.peek_eq hnext]
    exact .inl (((Notes.shiftTrivia s).trans hskip).trans (.shiftTrivia _))
  | @opens phase s s' hfaces hopen =>
    obtain ⟨us, name, s₁, hreads, rfl⟩ := exists_reads_of_openUnit hopen hc.sentinel
    have hopened : Notes s.shiftTrivia (s.shiftTrivia.openNode .programUnit) := .silent rfl rfl
    have hnamed : Notes s₁ (s₁.named name) := .silent rfl rfl
    exact .inl ((((Notes.shiftTrivia s).trans hopened).trans (.reads hreads)).trans hnamed)
  | passes hheader => exact .inl (.silent rfl rfl)
  | reads hheader hdivision =>
    obtain ⟨gap, ts, -, hreads⟩ := exists_reads_of_division hdivision hc.sentinel
    exact .inl (.reads hreads)
  | @leaves s hend htrailer => exact .inl (.closeUnit s)
  | @ends s s' hend htrailer hown hwords =>
    exact .inl ((notes_endProgram hc.sentinel hwords).trans (.closeUnit s'))
  | fails hfails =>
    obtain ⟨s₁, t, k, hb, rfl⟩ := hfails.breakdown hc
    cases hk : k.isEndOfInput with
    | true =>
      obtain ⟨hend, ht⟩ := hb.exhausted (fun u hu => hunread u (hb.mem_unread hu)) hk
      refine .inr ⟨rfl, s₁, (k.failure t).diagnostic, hb.notes, ?_, rfl, ?_⟩
      · rw [State.unread_recover_eq, State.unread_report, hend, List.drop_nil]
      · rw [ht]
        exact Complaint.blamesEnd hk _
    | false =>
      obtain ⟨gap, rest, hgap, hrest⟩ := hb.blamed hk
      exact .inl (hb.notes.trans
        (.recover (State.mem_spoilt hgap hrest) (k.range_diagnostic t)))

theorem notes_iterate {c : Configuration} (hc : Orderly c)
    (hunread : ∀ u ∈ c.state.unread, u.isEndOfInput = false) (n : Nat) :
    Notes c.state ((step score)^[n] c).state ∨
      ((step score)^[n] c).phase = .sourceUnit ∧
        NotesEnd c.state ((step score)^[n] c).state := by
  induction n with
  | zero => exact .inl (.silent rfl rfl)
  | succ n ih =>
    have hsuffix := (@moves_iterate score n c).unread_suffix
    have horderly : Orderly ((step score)^[n] c) := hc.iterate n
    rw [Function.iterate_succ_apply']
    generalize (step score)^[n] c = c' at ih hsuffix horderly
    rcases ih with hnotes | ⟨hphase, hend⟩
    · rcases @notes_step score c' horderly fun u hu => hunread u (hsuffix.subset hu)
        with hstep | hstep
      · exact .inl (hnotes.trans hstep)
      · obtain ⟨hphase, s₁, d, hstep, hdone⟩ := hstep
        exact .inr ⟨hphase, s₁, d, hnotes.trans hstep, hdone⟩
    · obtain ⟨phase, s⟩ := c'
      cases hphase
      obtain ⟨s₁, d, hnotes, hdone, hrest⟩ := hend
      rw [step_of_exhausted hdone]
      exact .inr ⟨rfl, s₁, d, hnotes, hdone, hrest⟩

end Parse

/--
The findings of a parse: remarks on the tokens, and at most one complaint that there are no
more.
-/
theorem remarks_parseStream (score : Similarity) {tokens : List Token}
    (h : ∀ t ∈ tokens, t.isEndOfInput = false) (position : Position) (offset : Nat) :
    let sentinel := Token.endOfInput position offset
    ∃ remarks complaint,
      (parseStream score (.ofTokens tokens sentinel)).diagnostics =
        remarks ++ Option.toList complaint ∧
        Remarks tokens remarks ∧ ∀ d ∈ complaint, d.BlamesEnd sentinel := by
  intro sentinel
  let start : Configuration := ⟨.sourceUnit, .initial (.ofTokens tokens sentinel)⟩
  have horderly : Orderly start := .initial tokens position offset
  obtain ⟨n, -, hrun⟩ := @exists_iterate_isFinal score start
  have hfound : (parseStream score (.ofTokens tokens sentinel)).diagnostics =
      ((step score)^[n] start).state.diagnostics := by
    rw [hrun]
    rfl
  have hremarks {s : State} (hnotes : Notes start.state s) : Remarks tokens s.diagnostics := by
    obtain ⟨ts, ds, hts, hds, hremarks⟩ := hnotes
    have hall := hremarks.append (.nil s.unread)
    rw [← hts, List.append_nil] at hall
    rwa [hds]
  rw [hfound]
  rcases @notes_iterate score start horderly h n
    with hnotes | ⟨-, s₁, d, hnotes, -, hd, hblames⟩
  · exact ⟨_, none, (List.append_nil _).symm, hremarks hnotes, by simp⟩
  · have hsentinel : ((step score)^[n] start).state.stream.sentinel = sentinel :=
      (moves_iterate n start).sentinel_eq
    refine ⟨_, some d, hd, hremarks hnotes, ?_⟩
    rw [← hsentinel]
    simpa using hblames

theorem span_of_mem_scan {text : String} {t : Token} (h : t ∈ scan text) :
    t.range.span.start < t.range.span.stop ∧ t.range.span.stop ≤ byteLength text.toList := by
  refine ⟨((ordered_scan text).solid _ (List.mem_map_of_mem h)).bytes, ?_⟩
  obtain ⟨before, after, htext, hlaid, -⟩ :=
    exists_laid_of_infix ((List.singleton_infix_iff t _).2 h)
  rw [spelling_cons, spelling_nil, List.append_nil] at htext
  have hspan : t.range.span.stop = ((Place.start.after before).after t.lexeme.toList).offset :=
    congrArg Span.stop hlaid.span
  rw [hspan, Place.offset_after, Place.offset_start_after, htext, byteLength_append,
    byteLength_append]
  omega

theorem pairwise_start_ofText (text : String) :
    ((scan text ++ [(TokenStream.ofText text).sentinel]).map Token.range).Pairwise
      (·.span.start < ·.span.start) := by
  have hordered := ordered_scan text
  rw [List.map_append, List.pairwise_append]
  refine ⟨?_, List.pairwise_singleton _ _, ?_⟩
  · apply hordered.pairwise.imp_of_mem
    intro r s hr _ hprecedes
    exact hprecedes.span_start_lt (hordered.solid r hr)
  · intro r hr s hs
    obtain ⟨t, ht, rfl⟩ := List.mem_map.1 hr
    obtain ⟨hlt, hle⟩ := span_of_mem_scan ht
    have hend : s.span.start = byteLength text.toList := by
      rw [List.map_singleton, List.mem_singleton] at hs
      rw [hs]
      exact Place.offset_start_after text.toList
    omega

/--
At most one finding for each token of a text, in their order. Every finding is about a token or
about the end of the text, no two are about the same one, only the last can be about the end,
and apart from the warnings about trailers they come in the order in which they lie in the text.
-/
theorem diagnostics_parse_ordered (score : Similarity) (text : String) :
    let sentinel := (TokenStream.ofText text).sentinel
    let found := (parseStream score (.ofText text)).diagnostics
    (∀ d ∈ found, d.Concerns (scan text ++ [sentinel]) ∧
      d.range.span.start ≤ d.range.span.stop ∧ d.range.span.stop ≤ byteLength text.toList) ∧
    (found.map Diagnostic.range).Nodup ∧
    (∀ d ∈ found, d.range = sentinel.range ↔ d.BlamesEnd sentinel) ∧
    (∀ d ∈ found.dropLast, ¬d.BlamesEnd sentinel) ∧
    ((found.filter fun d => d.code != some "end-program-mismatch").map
      (·.range.span.start)).Pairwise
      (· < ·) := by
  intro sentinel found
  have hplaces := pairwise_start_ofText text
  have hkinds : ∀ t ∈ scan text, t.isEndOfInput = false := isEndOfInput_of_mem_scanFrom
  obtain ⟨remarks, complaint, hfound, hremarks, hcomplaint⟩ :=
    remarks_parseStream score hkinds (Place.start.after text.toList).position
      (Place.start.after text.toList).offset
  change found = remarks ++ complaint.toList at hfound
  change ∀ d ∈ complaint, d.BlamesEnd sentinel at hcomplaint
  -- the end counts as one token more
  have hall : Remarks (scan text ++ [sentinel]) found := by
    rw [hfound]
    apply hremarks.append
    cases complaint with
    | none => exact .nil _
    | some d => exact .single (List.mem_singleton_self sentinel) (hcomplaint d rfl).range_eq
  have hother : ∀ d ∈ remarks, d.range ≠ sentinel.range := by
    intro d hd heq
    obtain ⟨t, ht, hrange⟩ := List.mem_map.1 (hremarks.places.subset (List.mem_map_of_mem hd))
    rw [List.map_append, List.pairwise_append] at hplaces
    have hlt := hplaces.2.2 t.range (List.mem_map_of_mem ht) sentinel.range
      (List.mem_singleton_self _)
    rw [hrange, heq] at hlt
    exact Nat.lt_irrefl _ hlt
  refine ⟨?_, ?_, ?_, ?_, ?_⟩
  · intro d hd
    obtain ⟨t, ht, hrange⟩ := List.mem_map.1 (hall.places.subset (List.mem_map_of_mem hd))
    refine ⟨⟨t, ht, hrange.symm⟩, ?_⟩
    rw [← hrange]
    rcases List.mem_append.1 ht with ht | ht
    · obtain ⟨hlt, hle⟩ := span_of_mem_scan ht
      exact ⟨Nat.le_of_lt hlt, hle⟩
    · rw [List.mem_singleton.1 ht]
      exact ⟨Nat.le_refl _, Nat.le_of_eq (Place.offset_start_after text.toList)⟩
  · have hnodup : ((scan text ++ [sentinel]).map Token.range).Nodup := by
      apply hplaces.imp
      intro r s hlt heq
      rw [heq] at hlt
      exact Nat.lt_irrefl _ hlt
    obtain ⟨ranges, hperm, hsublist⟩ := hall.places
    exact hperm.nodup_iff.1 (hnodup.sublist hsublist)
  · intro d hd
    refine ⟨fun heq => ?_, Diagnostic.BlamesEnd.range_eq⟩
    rw [hfound] at hd
    exact hcomplaint d
      (by simpa using (List.mem_append.1 hd).resolve_left fun hd => hother d hd heq)
  · have hearly : ∀ d ∈ found.dropLast, d ∈ remarks := by
      rw [hfound]
      cases complaint with
      | none =>
        rw [Option.toList_none, List.append_nil]
        exact fun d hd => List.mem_of_mem_dropLast hd
      | some last =>
        rw [Option.toList_some, List.dropLast_concat]
        exact fun d hd => hd
    intro d hd hblames
    exact hother d (hearly d hd) hblames.range_eq
  · have hordered := hplaces.sublist hall.inOrder
    rw [List.pairwise_map] at hordered ⊢
    exact hordered

end CobolCompanion
