import CobolCompanion.Proofs.OpenUnits

namespace CobolCompanion

open Parse

/-- An error about a token: it begins no unit, or something else was expected in its place. -/
def Diagnostic.Blames (d : Diagnostic) (t : Token) : Prop :=
  d = unknownInput t ∨ ∃ c : Complaint, c.isEndOfInput = false ∧ d = (c.failure t).diagnostic

def Diagnostic.LiesIn (d : Diagnostic) (e : Element) : Prop :=
  ∃ t ∈ e.leaves, d.Blames t

/-- An error about the end of a text, at the token that stands for it. -/
def Diagnostic.BlamesEnd (d : Diagnostic) (sentinel : Token) : Prop :=
  ∃ expected, d = (Failure.unexpectedEndOfInput expected sentinel.range).diagnostic

namespace Parse

/-- What may stand directly in a source unit. -/
inductive Item : Element → Prop where
  | trivia (t : Token) (h : t.isTrivia) : Item (.token t)
  | unit (n : Node) (hkind : n.kind = .programUnit)
      (hplaced : ∀ m ∈ Element.nodesAll n.children, m.kind ≠ .skipped) : Item n.toElement
  | skipped (heading : Heading) (children : List Element) (h : heading.kind = .skipped) :
      Item (.node heading children)

/-- The children of a source unit and the errors about them are balanced. -/
structure Ledger (es : List Element) (ds : List Diagnostic) : Prop where
  items : ∀ e ∈ es, Item e
  errors : ∀ d ∈ ds, d.isError → ∃ e ∈ es, e.isSkipped ∧ d.LiesIn e
  regions : ∀ e ∈ es, e.isSkipped → ∃ d ∈ ds, d.isError ∧ d.LiesIn e

/-- The same at the end of a text that ends too early: the last region is there for that. -/
structure ClosedLedger (es : List Element) (ds : List Diagnostic)
    (sentinel : Token) : Prop where
  items : ∀ e ∈ es, Item e
  region : ∃ e ∈ es.getLast?, e.isSkipped
  blame : ∃ d ∈ ds.getLast?, d.BlamesEnd sentinel
  errors : ∀ d ∈ ds.dropLast, d.isError → ∃ e ∈ es, e.isSkipped ∧ d.LiesIn e
  regions : ∀ e ∈ es.dropLast, e.isSkipped → ∃ d ∈ ds, d.isError ∧ d.LiesIn e

namespace Ledger

variable {es fs : List Element} {ds ws : List Diagnostic}

theorem warn (h : Ledger es ds) (hws : ∀ d ∈ ws, d.isError = false) : Ledger es (ds ++ ws) where
  items := h.items
  errors := fun d hd herror => by
    rcases List.mem_append.1 hd with hd | hd
    · exact h.errors d hd herror
    · exact absurd herror (by simp [hws d hd])
  regions := fun e he hskipped => by
    obtain ⟨d, hd, herror, hblames⟩ := h.regions e he hskipped
    exact ⟨d, List.mem_append_left _ hd, herror, hblames⟩

theorem place (h : Ledger es ds) (hitems : ∀ e ∈ fs, Item e)
    (hplaced : ∀ e ∈ fs, e.isSkipped = false) : Ledger (es ++ fs) ds where
  items := fun e he => (List.mem_append.1 he).elim (h.items e) (hitems e)
  errors := fun d hd herror => by
    obtain ⟨e, he, hblames⟩ := h.errors d hd herror
    exact ⟨e, List.mem_append_left _ he, hblames⟩
  regions := fun e he hskipped => by
    rcases List.mem_append.1 he with he | he
    · exact h.regions e he hskipped
    · exact absurd hskipped (by simp [hplaced e he])

section
variable {n : Node} {elements : List Element} {d : Diagnostic} {before : List Element}
  {region : Element}

theorem items_pushSkipped (h : Ledger n.children ds) (hregion : region.isSkipped)
    (hbefore : ∀ e ∈ before, e ∈ n.children) : ∀ e ∈ before ++ [region], Item e := by
  intro e he
  rcases List.mem_append.1 he with he | he
  · exact h.items e (hbefore e he)
  · rw [List.mem_singleton.1 he]
    cases region with
    | token t => simp [Element.isSkipped] at hregion
    | node heading children =>
      exact .skipped heading children (by simpa [Element.isSkipped] using hregion)

theorem errors_pushSkipped (h : Ledger n.children ds) (hregion : region.isSkipped)
    (hgrown : ∀ e ∈ n.children, e ∈ before ∨ e.isSkipped ∧ ∀ t ∈ e.leaves, t ∈ region.leaves) :
    ∀ d ∈ ds, d.isError → ∃ e ∈ before ++ [region], e.isSkipped ∧ d.LiesIn e := by
  intro d hd herror
  obtain ⟨e, he, hskipped, t, ht, hblames⟩ := h.errors d hd herror
  rcases hgrown e he with he | ⟨-, hleaves⟩
  · exact ⟨e, List.mem_append_left _ he, hskipped, t, ht, hblames⟩
  · exact ⟨region, by simp, hregion, t, hleaves t ht, hblames⟩

/-- What is skipped with a token that is complained of keeps the ledger balanced. -/
theorem skip {t : Token} (h : Ledger n.children ds) (ht : t ∈ Element.leavesAll elements)
    (herror : d.isError) (hblames : d.Blames t) :
    Ledger (n.pushSkipped elements).children (ds ++ [d]) := by
  have helements : elements ≠ [] := by
    rintro rfl
    simp [Element.leavesAll] at ht
  obtain ⟨before, region, hchildren, hregion, hnew, hbefore, hgrown⟩ :=
    n.exists_region helements
  rw [hchildren]
  refine ⟨h.items_pushSkipped hregion hbefore, fun d' hd' herror' => ?_,
    fun e he hskipped => ?_⟩
  · rcases List.mem_append.1 hd' with hd' | hd'
    · exact h.errors_pushSkipped hregion hgrown d' hd' herror'
    · rw [List.mem_singleton.1 hd']
      exact ⟨region, by simp, hregion, t, hnew t ht, hblames⟩
  · rcases List.mem_append.1 he with he | he
    · obtain ⟨d', hd', hrest⟩ := h.regions e (hbefore e he) hskipped
      exact ⟨d', List.mem_append_left _ hd', hrest⟩
    · rw [List.mem_singleton.1 he]
      exact ⟨d, by simp, herror, t, hnew t ht, hblames⟩

/-- What is skipped at the end of a text closes the ledger. -/
theorem close {sentinel : Token} (h : Ledger n.children ds) (helements : elements ≠ [])
    (hblames : d.BlamesEnd sentinel) :
    ClosedLedger (n.pushSkipped elements).children (ds ++ [d]) sentinel := by
  obtain ⟨before, region, hchildren, hregion, -, hbefore, hgrown⟩ := n.exists_region helements
  rw [hchildren]
  refine ⟨h.items_pushSkipped hregion hbefore, ⟨region, by simp, hregion⟩,
    ⟨d, by simp, hblames⟩, ?_, ?_⟩
  · rw [List.dropLast_concat]
    exact h.errors_pushSkipped hregion hgrown
  · rw [List.dropLast_concat]
    intro e he hskipped
    obtain ⟨d', hd', hrest⟩ := h.regions e (hbefore e he) hskipped
    exact ⟨d', List.mem_append_left _ hd', hrest⟩

end

end Ledger

theorem Misspellings.isError_eq_false {ts : List Token} {ds : List Diagnostic}
    (h : Misspellings ts ds) : ∀ d ∈ ds, d.isError = false := by
  intro d hd
  obtain ⟨t, -, keyword, rfl⟩ := h.exists_mem hd
  rfl

/-- The ledger of a state stays balanced while tokens are read. -/
theorem Ledger.reads {s s' : State} {es : List Element} (h : Ledger s.items s.diagnostics)
    (hreads : Reads s es s')
    (houtside : s.context.frames = [] → ∀ e ∈ es, Item e ∧ e.isSkipped = false) :
    Ledger s'.items s'.diagnostics := by
  obtain ⟨ds, hds, hwarned⟩ := hreads.diagnostics
  rw [hds]
  refine Ledger.warn ?_ hwarned.isError_eq_false
  rw [State.items, hreads.context]
  by_cases hframes : s.context.frames = []
  · have hroot : (s.context.modify (·.pushAll es)).root.node.children = s.items ++ es := by
      simp [Context.modify, hframes, Frame.modify, Node.pushAll, State.items]
    rw [hroot]
    exact h.place (fun e he => (houtside hframes e he).1) fun e he => (houtside hframes e he).2
  · rw [Context.root_modify hframes]
    exact h

theorem Ledger.shiftTrivia {s : State} (h : Ledger s.items s.diagnostics) :
    Ledger s.shiftTrivia.items s.shiftTrivia.diagnostics := by
  obtain ⟨gap, hgap, hreads⟩ := s.exists_reads_shiftTrivia
  refine h.reads hreads fun _ e he => ?_
  obtain ⟨t, ht, rfl⟩ := List.mem_map.1 he
  exact ⟨.trivia t (hgap t ht), rfl⟩

/-- A state in which a production gives up has a balanced ledger, if the configuration had. -/
theorem Ledger.breakdown {c : Configuration} {s₁ : State} {t : Token} {k : Complaint}
    (h : Ledger c.state.items c.state.diagnostics) (hc : Orderly c) (hb : Breakdown c s₁ t k) :
    Ledger s₁.items s₁.diagnostics := by
  obtain ⟨s₀, es, hentry, hreads, -⟩ := hb.entry
  rcases hentry with ⟨rfl, hphase⟩ | rfl
  · exact h.reads hreads fun hframes => absurd (hc.outside.2 hframes) hphase
  · exact Ledger.reads (s := c.state.shiftTrivia.openNode .programUnit)
      h.shiftTrivia hreads nofun

theorem statementLength_append {gap : List Token} (hgap : ∀ t ∈ gap, t.isTrivia)
    (ts : List Token) :
    statementLength (gap ++ ts) = gap.length + statementLength ts := by
  induction gap with
  | nil => simp
  | cons t gap ih =>
    have ht := hgap t List.mem_cons_self
    have hend : t.isEndOfInput = false := Token.isEndOfInput_of_isTrivia ht
    have hperiod : t.isTerminator = false := by
      unfold Token.isTrivia at ht
      unfold Token.isTerminator
      cases hk : t.kind <;> simp [hk] at ht ⊢
    rw [List.cons_append, statementLength, hend, hperiod,
      ih fun u hu => hgap u (List.mem_cons_of_mem t hu), List.length_cons]
    simp
    omega

theorem statementLength_pos (t : Token) (ts : List Token) : 0 < statementLength (t :: ts) := by
  unfold statementLength
  split <;> omega

theorem State.mem_spoilt {s : State} {gap rest : List Token} {t : Token}
    (hgap : ∀ u ∈ gap, u.isTrivia) (h : s.unread = gap ++ t :: rest) : t ∈ s.spoilt := by
  have hreach : gap.length < 1 + statementLength (s.unread.drop 1) := by
    cases gap with
    | nil =>
      rw [List.length_nil]
      omega
    | cons u gap =>
      have hlength := statementLength_append (fun v hv => hgap v (List.mem_cons_of_mem u hv))
        (t :: rest)
      have hpos := statementLength_pos t rest
      rw [h, List.cons_append, List.drop_one, List.tail_cons, hlength, List.length_cons]
      omega
  refine List.mem_of_getElem? (i := gap.length) ?_
  rw [spoilt, List.getElem?_take_of_lt hreach, h]
  simp

/-- Whether the ledger of a configuration is balanced, or closed because the text has ended. -/
structure Balanced (c : Configuration) : Prop where
  orderly : Orderly c
  unread : ∀ t ∈ c.state.unread, t.isEndOfInput = false
  ledger : Ledger c.state.items c.state.diagnostics ∨
    c.phase = .sourceUnit ∧ c.state.unread = [] ∧
      ClosedLedger c.state.items c.state.diagnostics c.state.stream.sentinel

/-- Recovery puts the token that was complained of, if there is one, under a region. -/
theorem Ledger.recover {c : Configuration} {s₁ : State} {t : Token} {k : Complaint}
    (h : Ledger s₁.items s₁.diagnostics) (hb : Breakdown c s₁ t k)
    (hunread : ∀ t ∈ s₁.unread, t.isEndOfInput = false) :
    let s := (s₁.report [(k.failure t).diagnostic]).recover
    Ledger s.items s.diagnostics ∨
      s.unread = [] ∧ ClosedLedger s.items s.diagnostics s.stream.sentinel := by
  intro s
  have hitems : s.items = (s₁.context.root.node.pushSkipped
      (s₁.context.remnants ++ s₁.spoilt.map .token)).children := by
    have hkept : s₁.spoilt.filter (!·.isEndOfInput) = s₁.spoilt := by
      refine List.filter_eq_self.2 fun u hu => ?_
      simp [hunread u (List.mem_of_mem_take hu)]
    have hcontext := (s₁.report [(k.failure t).diagnostic]).context_recover
    change s.context = ⟨s₁.context.root.modify (·.pushSkipped
      (s₁.context.remnants ++ (s₁.spoilt.filter (!·.isEndOfInput)).map .token)), []⟩ at hcontext
    rw [State.items, hcontext, hkept]
    rfl
  have hdiagnostics : s.diagnostics = s₁.diagnostics ++ [(k.failure t).diagnostic] := rfl
  rw [hitems, hdiagnostics]
  cases hk : k.isEndOfInput with
  | true =>
    obtain ⟨hend, ht⟩ := hb.exhausted hunread hk
    refine .inr ⟨?_, h.close (by simp [hb.founded.beginsWithDivision_remnants.ne_nil]) ?_⟩
    · rw [State.unread_recover_eq, State.unread_report, hend, List.drop_nil]
    · cases k with
      | endOfInput expected => exact ⟨expected, by rw [ht]; rfl⟩
      | token expected => simp [Complaint.isEndOfInput] at hk
      | alternatives expected => simp [Complaint.isEndOfInput] at hk
  | false =>
    obtain ⟨gap, rest, hgap, hrest⟩ := hb.blamed hk
    refine .inl (h.skip (t := t) ?_ rfl (.inr ⟨k, hk, rfl⟩))
    simp [State.mem_spoilt hgap hrest]

/-- A token that begins no unit is skipped with an error about it. -/
theorem Ledger.unknownInput {s : State} {t : Token} {rest : List Token}
    (h : Ledger s.items s.diagnostics) (hframes : s.context.frames = [])
    (hnext : s.unread = t :: rest) (ht : t.isEndOfInput = false) :
    let s' := (s.report [unknownInput t]).skip 1
    Ledger s'.items s'.diagnostics := by
  intro s'
  have hitems : s'.items = (s.context.root.node.pushSkipped [.token t]).children := by
    have hkept : (s.unread.take 1).filter (!·.isEndOfInput) = [t] := by simp [hnext, ht]
    change (s.context.modify (·.pushSkipped
      (((s.unread.take 1).filter (!·.isEndOfInput)).map .token))).root.node.children = _
    rw [hkept]
    simp [Context.modify, hframes, Frame.modify]
  have hdiagnostics : s'.diagnostics = s.diagnostics ++ [Parse.unknownInput t] := rfl
  rw [hitems, hdiagnostics]
  exact h.skip (t := t) (by simp [Element.leaves]) rfl (.inl rfl)

/-- A unit that is closed is placed where it was opened. -/
theorem Ledger.closeUnit {s : State} {f : Frame} {fs : List Frame}
    (h : Ledger s.items s.diagnostics) (hframes : s.context.frames = f :: fs)
    (hkind : f.node.kind = .programUnit)
    (hplaced : ∀ m ∈ Element.nodesAll f.node.children, m.kind ≠ .skipped) :
    Ledger (Parse.closeUnit s).state.items (Parse.closeUnit s).state.diagnostics := by
  have hleave := State.context_leaveUnit hframes
  cases hfs : fs with
  | nil =>
    have hnone : s.leaveUnit.context.frames = [] := by
      rw [hleave]
      exact Context.frames_modify_eq_nil hfs _
    have hitems : s.leaveUnit.items = s.items ++ [f.node.toElement] := by
      rw [State.items, hleave, hfs]
      rfl
    rw [closeUnit_of_outermost hnone]
    refine Ledger.shiftTrivia ?_
    rw [hitems]
    refine h.place ?_ ?_
    · simp only [List.mem_singleton, forall_eq]
      exact .unit f.node hkind hplaced
    · simp [Node.toElement, Element.isSkipped, hkind]
  | cons g gs =>
    have hsome : s.leaveUnit.context.frames ≠ [] := by
      rw [hleave, Context.frames_modify_eq_cons hfs]
      simp
    have hitems : s.leaveUnit.items = s.items := by
      rw [State.items, hleave, hfs]
      rfl
    rw [closeUnit_of_nested hsome]
    change Ledger s.leaveUnit.items s.diagnostics
    rwa [hitems]

theorem Ledger.checkTrailer {s : State} (h : Ledger s.items s.diagnostics) (name : Token) :
    let s' := Production.checkTrailer name s
    Ledger s'.items s'.diagnostics := by
  unfold Production.checkTrailer
  split
  · exact h
  · split
    · exact h
    · refine h.warn ?_
      simp only [List.mem_singleton, forall_eq]
      rfl

theorem Ledger.openUnit {score : Similarity} {s s' : State} (h : Ledger s.items s.diagnostics)
    (hs : s.stream.sentinel.isEndOfInput) (hopen : openUnit score s = .ok () s') :
    Ledger s'.items s'.diagnostics := by
  obtain ⟨ts, name, s₁, hreads, rfl⟩ := exists_reads_of_openUnit hopen hs
  have hs₁ : Ledger s₁.items s₁.diagnostics :=
    Ledger.reads (s := s.openNode .programUnit) h hreads nofun
  have hroot : (s₁.named name).context.root = s₁.context.root := by
    refine Context.root_modify ?_ _
    rw [hreads.frames_eq_cons (s := s.openNode .programUnit) rfl]
    simp
  rw [State.items, hroot]
  exact hs₁

theorem Balanced.step {score : Similarity} {c : Configuration} (h : Balanced c) :
    Balanced (step score c) := by
  obtain ⟨hc, hunread, hledger⟩ := h
  refine ⟨hc.step, fun t ht => hunread t ((moves_step c).unread_suffix.subset ht), ?_⟩
  rcases hledger with hledger | ⟨hphase, hend, hclosed⟩
  · have hadvance := advance_step score c
    generalize Parse.step score c = c' at hadvance
    have hs := hc.sentinel
    cases hadvance with
    | finishes => exact .inl hledger.shiftTrivia
    | @skips s hmore hother =>
      left
      obtain ⟨t, rest, hnext⟩ := List.exists_cons_of_ne_nil hmore
      have ht : t.isEndOfInput = false := by
        refine hunread t ((moves_shiftTrivia s).unread_suffix.subset ?_)
        simp [hnext]
      rw [State.peek_eq hnext]
      refine Ledger.shiftTrivia (hledger.shiftTrivia.unknownInput ?_ hnext ht)
      exact State.frames_shiftTrivia_eq_nil_iff.2 (hc.outside.1 rfl)
    | opens hfaces hopen => exact .inl (hledger.shiftTrivia.openUnit hs hopen)
    | passes hheader => exact .inl hledger
    | reads hheader hdivision =>
      obtain ⟨f, fs, hframes, -⟩ := hc.exists_unit
      obtain ⟨gap, ts, -, hreads⟩ := exists_reads_of_division hdivision hs
      exact .inl (hledger.reads hreads fun hnone => by simp [hframes] at hnone)
    | leaves hend htrailer =>
      obtain ⟨f, fs, hframes, hf, -⟩ := hc.exists_unit
      exact .inl (hledger.closeUnit hframes hf.kind hf.placed)
    | ends hend htrailer hown hwords =>
      obtain ⟨f, fs, hframes, hf, -⟩ := hc.exists_unit
      obtain ⟨ts, _, _, name, _, s₁, hreads, -, rfl⟩ := exists_reads_of_endProgram hwords hs
      have hs₁ := hledger.reads hreads fun hnone => by simp [hframes] at hnone
      have hframes₁ := hreads.frames_eq_cons hframes
      rw [← checkTrailer_context name] at hframes₁
      refine .inl ((hs₁.checkTrailer name).closeUnit hframes₁ hf.kind ?_)
      simpa [Frame.modify, Node.pushAll] using hf.placed
    | fails hfails =>
      obtain ⟨s₁, t, k, hb, rfl⟩ := hfails.breakdown hc
      have hs₁ : ∀ u ∈ s₁.unread, u.isEndOfInput = false :=
        fun u hu => hunread u (hb.mem_unread hu)
      rcases (hledger.breakdown hc hb).recover hb hs₁ with hopen | ⟨hend, hclosed⟩
      · exact .inl hopen
      · exact .inr ⟨rfl, hend, hclosed⟩
  · obtain ⟨phase, s⟩ := c
    cases hphase
    rw [step_of_exhausted hend]
    exact .inr ⟨rfl, hend, hclosed⟩

theorem Balanced.initial (tokens : List Token) (h : ∀ t ∈ tokens, t.isEndOfInput = false)
    (position : Position) (offset : Nat) :
    Balanced ⟨.sourceUnit, .initial (.ofTokens tokens (.endOfInput position offset))⟩ where
  orderly := .initial tokens position offset
  unread := h
  ledger := .inl ⟨nofun, nofun, nofun⟩

end Parse

theorem append_ne_append_of_take {x y : String} {n : Nat} (hx : n ≤ x.toList.length)
    (hy : n ≤ y.toList.length) (h : x.toList.take n ≠ y.toList.take n) (u v : String) :
    x ++ u ≠ y ++ v := by
  intro heq
  have htake := congrArg (fun s => s.toList.take n) heq
  simp only [String.toList_append, List.take_append_of_le_length hx,
    List.take_append_of_le_length hy] at htake
  exact h htake

theorem Parse.Complaint.exists_message {c : Complaint}
    (hc : c.isEndOfInput = false) (t : Token) :
    ∃ rest, (c.failure t).message = "Unexpected token '" ++ rest := by
  cases c with
  | endOfInput expected => cases hc
  | token expected =>
    refine ⟨t.lexeme ++ ("'. Expect: '" ++ (expected ++ "'")), ?_⟩
    unfold Complaint.failure Failure.message
    dsimp only
    rw [String.append_assoc, String.append_assoc, String.append_assoc]
    rfl
  | alternatives expected =>
    refine ⟨t.lexeme ++ ("'. Expected: " ++ quoteAll expected), ?_⟩
    unfold Complaint.failure Failure.message
    dsimp only
    rw [String.append_assoc, String.append_assoc]
    rfl

namespace Diagnostic

variable {d : Diagnostic} {t sentinel : Token}

theorem BlamesEnd.isError (h : d.BlamesEnd sentinel) : d.isError := by
  obtain ⟨expected, rfl⟩ := h
  rfl

theorem Blames.not_blamesEnd (h : d.Blames t) : ¬d.BlamesEnd sentinel := by
  rintro ⟨expected, hend⟩
  rcases h with hd | ⟨c, hc, hd⟩
  · have hcode := congrArg Diagnostic.code (hd.symm.trans hend)
    simp [unknownInput, Failure.diagnostic, error] at hcode
  · obtain ⟨rest, hrest⟩ := Complaint.exists_message hc t
    have hmessage : (c.failure t).message = "Unexpected end of input. Expect: " ++ expected :=
      congrArg Diagnostic.message (hd.symm.trans hend)
    rw [hrest] at hmessage
    exact append_ne_append_of_take (n := 12)
      (by decide) (by decide) (by decide) rest expected hmessage

end Diagnostic

namespace Parse

/-- The errors of a text that was read to its end, and the regions that they account for. -/
structure Accounted (es : List Element) (ds : List Diagnostic) (sentinel : Token) : Prop where
  items : ∀ e ∈ es, Item e
  errors : ∀ d ∈ ds, d.isError → d.BlamesEnd sentinel ∨ ∃ e ∈ es, e.isSkipped ∧ d.LiesIn e
  single : ∀ d ∈ ds.dropLast, ¬d.BlamesEnd sentinel
  regions : ∀ e ∈ (es.filter Element.isSkipped).dropLast, ∃ d ∈ ds, d.isError ∧ d.LiesIn e
  last : ∀ e ∈ (es.filter Element.isSkipped).getLast?,
    (∃ d ∈ ds, d.isError ∧ d.LiesIn e) ∨ ∃ d ∈ ds, d.BlamesEnd sentinel
  ended : ∀ d ∈ ds, d.BlamesEnd sentinel → ∃ e ∈ es, e.isSkipped

variable {es : List Element} {ds : List Diagnostic} {sentinel : Token}

theorem not_blamesEnd_of_errors {P : Element → Prop}
    (h : ∀ d ∈ ds, d.isError → ∃ e ∈ es, P e ∧ d.LiesIn e) :
    ∀ d ∈ ds, ¬d.BlamesEnd sentinel := by
  intro d hd hend
  obtain ⟨e, -, -, t, -, hblames⟩ := h d hd hend.isError
  exact hblames.not_blamesEnd hend

theorem Ledger.accounted (h : Ledger es ds) (sentinel : Token) : Accounted es ds sentinel where
  items := h.items
  errors := fun d hd herror => .inr (h.errors d hd herror)
  single := fun d hd => not_blamesEnd_of_errors h.errors d ((List.dropLast_sublist ds).mem hd)
  regions := fun e he => by
    have he' := List.mem_filter.1 ((List.dropLast_sublist _).mem he)
    exact h.regions e he'.1 he'.2
  last := fun e he => by
    have he' := List.mem_filter.1 (List.mem_of_getLast? he)
    exact .inl (h.regions e he'.1 he'.2)
  ended := fun d hd hend => absurd hend (not_blamesEnd_of_errors h.errors d hd)

theorem ClosedLedger.accounted (h : ClosedLedger es ds sentinel) :
    Accounted es ds sentinel := by
  obtain ⟨region, hregion, hskipped⟩ := h.region
  obtain ⟨before, rfl⟩ := List.getLast?_eq_some_iff.1 hregion
  obtain ⟨final, hfinal, hend⟩ := h.blame
  obtain ⟨earlier, rfl⟩ := List.getLast?_eq_some_iff.1 hfinal
  have herrors := h.errors
  have hregions := h.regions
  rw [List.dropLast_concat] at herrors hregions
  have hfilter : (before ++ [region]).filter Element.isSkipped =
      before.filter Element.isSkipped ++ [region] := by
    simp [hskipped]
  refine ⟨h.items, fun d hd herror => ?_, ?_, ?_, fun _ _ => .inr ⟨final, by simp, hend⟩,
    fun _ _ _ => ⟨region, by simp, hskipped⟩⟩
  · rcases List.mem_append.1 hd with hd | hd
    · exact .inr (herrors d hd herror)
    · rw [List.mem_singleton.1 hd]
      exact .inl hend
  · rw [List.dropLast_concat]
    exact not_blamesEnd_of_errors herrors
  · rw [hfilter, List.dropLast_concat]
    intro e he
    exact hregions e (List.mem_filter.1 he).1 (List.mem_filter.1 he).2

theorem Item.isSkipped_of_mem_nodes {e : Element} {n : Node} (h : Item e) (hn : n ∈ e.nodes)
    (hkind : n.kind = .skipped) : e.isSkipped := by
  cases h with
  | trivia t => simp [Element.nodes] at hn
  | unit m hunit hplaced =>
    rcases List.mem_cons.1 (by simpa [Node.toElement, Element.nodes] using hn) with rfl | hn
    · cases hkind.symm.trans hunit
    · exact absurd hkind (hplaced n hn)
  | skipped heading children hskipped => simp [Element.isSkipped, hskipped]

namespace Accounted

/-- There are errors where there are regions, and nowhere else. -/
theorem exists_error_iff (h : Accounted es ds sentinel) :
    (∃ d ∈ ds, d.isError) ↔ ∃ n ∈ Element.nodesAll es, n.kind = .skipped := by
  constructor
  · rintro ⟨d, hd, herror⟩
    have hregion : ∃ e ∈ es, e.isSkipped := by
      rcases h.errors d hd herror with hend | ⟨e, he, hskipped, -⟩
      · exact h.ended d hd hend
      · exact ⟨e, he, hskipped⟩
    obtain ⟨e, he, hskipped⟩ := hregion
    cases e with
    | token t => cases hskipped
    | node heading children =>
      refine ⟨⟨heading, children⟩, Element.mem_nodesAll.2 ⟨_, he, ?_⟩, eq_of_beq hskipped⟩
      simp [Element.nodes]
  · rintro ⟨n, hn, hkind⟩
    obtain ⟨e, he, hne⟩ := Element.mem_nodesAll.1 hn
    have hregion : e ∈ es.filter Element.isSkipped :=
      List.mem_filter.2 ⟨he, (h.items e he).isSkipped_of_mem_nodes hne hkind⟩
    have herrors : ∀ e ∈ es.filter Element.isSkipped, ∃ d ∈ ds, d.isError := by
      have hregions := h.regions
      have hlast := h.last
      intro e he
      obtain hnone | ⟨before, final, hsplit⟩ :=
        List.eq_nil_or_concat (es.filter Element.isSkipped)
      · simp [hnone] at he
      rw [List.concat_eq_append] at hsplit
      rw [hsplit, List.dropLast_concat] at hregions
      rw [hsplit] at hlast he
      rcases List.mem_append.1 he with he | he
      · obtain ⟨d, hd, herror, -⟩ := hregions e he
        exact ⟨d, hd, herror⟩
      · rcases hlast final (by simp) with ⟨d, hd, herror, -⟩ | ⟨d, hd, hend⟩
        · exact ⟨d, hd, herror⟩
        · exact ⟨d, hd, hend.isError⟩
    exact herrors e hregion

theorem significantTokens_leavesAll (h : ∀ e ∈ es, Item e) :
    significantTokens (Element.leavesAll (es.filter Element.isNode)) =
      significantTokens (Element.leavesAll es) := by
  induction es with
  | nil => rfl
  | cons e es ih =>
    have ih' := ih fun f hf => h f (List.mem_cons_of_mem e hf)
    have he := h e List.mem_cons_self
    simp only [Element.leavesAll, significantTokens_append, ← ih', List.filter_cons]
    cases he with
    | trivia t ht =>
      have hnone : significantTokens [t] = [] := significantTokens_eq_nil (by simpa using ht)
      simp [Element.isNode, Element.asNode?, Element.leaves, hnone]
    | unit n => simp [Element.isNode, Element.asNode?, Node.toElement, Element.leavesAll]
    | skipped heading children => simp [Element.isNode, Element.asNode?, Element.leavesAll]

theorem kind_of_mem_childNodes (h : ∀ e ∈ es, Item e) {n : Node}
    (hn : n ∈ es.filterMap Element.asNode?) : n.kind = .programUnit ∨ n.kind = .skipped := by
  obtain ⟨e, he, hnode⟩ := List.mem_filterMap.1 hn
  cases h e he with
  | trivia t => cases hnode
  | unit m hunit =>
    cases hnode
    exact .inl hunit
  | skipped heading children hskipped =>
    cases hnode
    exact .inr hskipped

end Accounted

theorem kind_root_move {s s' : State} (h : Move s s') :
    s'.context.root.node.kind = s.context.root.node.kind := by
  have hmodify (c : Context) {change : Node → Node} (hchange : ∀ n, (change n).kind = n.kind) :
      (c.modify change).root.node.kind = c.root.node.kind := by
    obtain ⟨root, frames⟩ := c
    cases frames with
    | nil => exact hchange root.node
    | cons f fs => rfl
  have hclose (c : Context) : c.close.root.node.kind = c.root.node.kind := by
    obtain ⟨root, frames⟩ := c
    cases frames with
    | nil => rfl
    | cons f fs => exact hmodify ⟨root, fs⟩ fun _ => rfl
  cases h with
  | report => rfl
  | shift => exact hmodify s.context fun _ => rfl
  | skip => exact hmodify s.context fun n => n.kind_pushSkipped _
  | openNode => rfl
  | closeNode => exact hclose s.context
  | nameUnit => exact hmodify s.context fun _ => rfl
  | leaveUnit => exact hclose s.context
  | abandon =>
    change s.context.abandon.root.node.kind = _
    rw [Context.abandon_eq]
    exact Node.kind_pushSkipped _ _

theorem kind_root_finalState (score : Similarity) (stream : TokenStream) :
    (finalState score stream).context.root.node.kind = .sourceUnit :=
  Moves.preserves (f := fun s => s.context.root.node.kind) kind_root_move
    (moves_finalState stream)

theorem accounted_finalState (score : Similarity) {tokens : List Token}
    (h : ∀ t ∈ tokens, t.isEndOfInput = false) (position : Position) (offset : Nat) :
    let s := finalState score (.ofTokens tokens (.endOfInput position offset))
    s.context.frames = [] ∧ Accounted s.items s.diagnostics (.endOfInput position offset) := by
  intro s
  have hbalanced : Balanced ⟨.sourceUnit, s⟩ :=
    run_preserves (fun _ hc => hc.step) (.initial tokens h position offset)
  have hsentinel : s.stream.sentinel = .endOfInput position offset :=
    (moves_finalState _).sentinel_eq
  refine ⟨hbalanced.orderly.outside.1 rfl, ?_⟩
  rcases hbalanced.ledger with hopen | ⟨-, -, hclosed⟩
  · exact hopen.accounted _
  · rw [← hsentinel]
    exact hclosed.accounted

end Parse

/--
There are errors where there are skipped nodes. Every error lies in a skipped child of the root,
but for at most one about the end of the text, which comes last; and every skipped child holds
the token of an error, or else is the last one and there is an error about the end of the text.
All that is significant stands in units and skipped regions.
-/
theorem errors_match_regions (score : Similarity) (tokens : List Token)
    (h : ∀ t ∈ tokens, t.isEndOfInput = false) (position : Position) (offset : Nat) :
    let sentinel := Token.endOfInput position offset
    let parsed := parseStream score (.ofTokens tokens sentinel)
    let regions := parsed.root.children.filter Element.isSkipped
    (parsed.hasErrors ↔ ∃ n ∈ parsed.root.walk, n.1.kind = .skipped) ∧
    (∀ d ∈ parsed.diagnostics, d.isError → d.BlamesEnd sentinel ∨ ∃ e ∈ regions, d.LiesIn e) ∧
    (∀ d ∈ parsed.diagnostics.dropLast, ¬d.BlamesEnd sentinel) ∧
    (∀ e ∈ regions.dropLast, ∃ d ∈ parsed.diagnostics, d.isError ∧ d.LiesIn e) ∧
    (∀ e ∈ regions.getLast?, (∃ d ∈ parsed.diagnostics, d.isError ∧ d.LiesIn e) ∨
      ∃ d ∈ parsed.diagnostics, d.BlamesEnd sentinel) ∧
    (∀ n ∈ parsed.root.childNodes, n.kind = .programUnit ∨ n.kind = .skipped) ∧
    significantTokens (Element.leavesAll (parsed.root.children.filter Element.isNode)) =
      significantTokens tokens := by
  intro sentinel parsed regions
  obtain ⟨hframes, haccounted⟩ := accounted_finalState score h position offset
  have hroot : parsed.root = (finalState score (.ofTokens tokens sentinel)).context.root.node :=
    Context.finish_of_outside hframes
  have hkind : parsed.root.kind = .sourceUnit := by
    rw [hroot]
    exact kind_root_finalState score _
  rw [State.items, ← hroot] at haccounted
  refine ⟨?_, fun d hd herror => ?_, haccounted.single, haccounted.regions, haccounted.last,
    fun n => Accounted.kind_of_mem_childNodes haccounted.items, ?_⟩
  · have hwalk : (∃ n ∈ parsed.root.walk, n.1.kind = .skipped) ↔
        ∃ n ∈ parsed.root.walk.map Prod.fst, n.kind = .skipped := by simp
    rw [hwalk, Node.map_fst_walk, Parsed.hasErrors, List.any_eq_true]
    refine haccounted.exists_error_iff.trans ?_
    simp [hkind]
  · refine (haccounted.errors d hd herror).imp_right ?_
    rintro ⟨e, he, hskipped, hlies⟩
    exact ⟨e, List.mem_filter.2 ⟨he, hskipped⟩, hlies⟩
  · rw [Accounted.significantTokens_leavesAll haccounted.items]
    have hleaves := leaves_root_parseStream score (.ofTokens tokens sentinel)
    have hkept : tokens.filter (!·.isEndOfInput) = tokens :=
      List.filter_eq_self.2 fun t ht => by simp [h t ht]
    exact congrArg significantTokens (hleaves.trans hkept)

def strayTokens : List Token :=
  [⟨.word, "LEDGER", ⟨0, 0⟩, ⟨0, 6⟩⟩, ⟨.other, ".", ⟨0, 6⟩, ⟨6, 7⟩⟩,
    ⟨.word, "ID", ⟨0, 7⟩, ⟨7, 9⟩⟩]

theorem errors_match_regions_stray :
    let parsed := parseStream Similarity.jaroWinkler
      (.ofTokens strayTokens (.endOfInput ⟨0, 9⟩ 9))
    (∀ t ∈ strayTokens, t.isEndOfInput = false) ∧ parsed.hasErrors ∧
      ∃ n ∈ parsed.root.walk, n.1.kind = .skipped := by
  intro parsed
  have htokens : ∀ t ∈ strayTokens, t.isEndOfInput = false := by decide
  have herrors : parsed.hasErrors := by
    unfold parsed Parsed.hasErrors parseStream finalState
    rw [← run_iterate 3, run_of_isFinal (by decide +kernel)]
    decide +kernel
  have hmatch := errors_match_regions Similarity.jaroWinkler strayTokens htokens ⟨0, 9⟩ 9
  exact ⟨htokens, herrors, hmatch.1.1 herrors⟩

end CobolCompanion
