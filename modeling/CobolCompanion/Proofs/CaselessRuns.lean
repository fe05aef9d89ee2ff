import CobolCompanion.Proofs.CaselessTrees
import CobolCompanion.Proofs.CoupledRuns

namespace CobolCompanion

open Parse

section
variable {score : Similarity}

theorem lower_toString_lower (text : String) :
    lower (toString (lower text)) = lower (toString text) :=
  lower_lower text

theorem lower_message_failure (c : Complaint) (t : Token) :
    lower (c.failure t.caseless).message = lower (c.failure t).message := by
  cases c with
  | endOfInput expected => rfl
  | token expected =>
    unfold Complaint.failure Failure.message
    dsimp only
    simp only [Token.lexeme_caseless, lower_append, lower_toString_lower]
  | alternatives expected =>
    unfold Complaint.failure Failure.message
    dsimp only
    simp only [Token.lexeme_caseless, lower_append, lower_toString_lower]

theorem caseless_failure (c : Complaint) (t : Token) :
    (c.failure t.caseless).diagnostic.caseless = (c.failure t).diagnostic.caseless := by
  have hrange : (c.failure t.caseless).range = (c.failure t).range := by
    cases c <;> exact t.range_caseless
  rw [Failure.diagnostic, Failure.diagnostic, hrange]
  exact congrArg (Diagnostic.error (c.failure t).range "syntax-error")
    (lower_message_failure c t)

theorem caseless_unknownInput (t : Token) :
    (unknownInput t.caseless).caseless = (unknownInput t).caseless := by
  simp only [unknownInput, Diagnostic.error, Diagnostic.caseless, Token.range_caseless,
    Token.lexeme_caseless, lower_append, lower_toString_lower]

theorem caseless_warnings (t : Token) (keyword : String) :
    (Keyword.warnings score t.caseless keyword).map Diagnostic.caseless =
      (Keyword.warnings score t keyword).map Diagnostic.caseless := by
  have hwarning : (Keyword.misspelling t.caseless keyword).caseless =
      (Keyword.misspelling t keyword).caseless := by
    simp only [Keyword.misspelling, Diagnostic.warning, Diagnostic.caseless,
      Token.range_caseless, Token.lexeme_caseless, lower_append, lower_toString_lower]
  rw [Keyword.warnings, Keyword.warnings, Token.lexeme_caseless, Keyword.compare_lower]
  cases Keyword.compare score t.lexeme keyword with
  | similar value => exact congrArg ([·]) hwarning
  | exact => rfl
  | mismatch => rfl

theorem caseless_trailerMismatch (name : Token) (declared : String) :
    (Production.trailerMismatch name.caseless (lower declared)).caseless =
      (Production.trailerMismatch name declared).caseless := by
  simp only [Production.trailerMismatch, Diagnostic.warning, Diagnostic.caseless,
    Token.range_caseless, programNameOf_caseless, lower_append, lower_toString_lower]

end

theorem Token.Alike.of_caseless {t u : Token} (h : t.caseless = u.caseless) : t.Alike u where
  kind := by rw [← t.kind_caseless, h, kind_caseless]
  compare := by
    intro score keyword
    have hlexeme : lower t.lexeme = lower u.lexeme := congrArg Token.lexeme h
    rw [← Keyword.compare_lower score t.lexeme, hlexeme, Keyword.compare_lower]
  terminator := by rw [← t.isTerminator_caseless, h, isTerminator_caseless]

theorem upper_programNameOf_eq {t u : Token} (h : t.caseless = u.caseless) :
    upper (programNameOf t) = upper (programNameOf u) := by
  rw [← upper_lower (programNameOf t), ← programNameOf_caseless, h,
    programNameOf_caseless, upper_lower]

namespace Parse

theorem expectedOpeners_caseless (n : Node) :
    expectedOpeners n.caseless = expectedOpeners n := by
  have hkinds : n.caseless.childNodes.map (·.kind) = n.childNodes.map (·.kind) := by
    rw [Node.childNodes_caseless, List.map_map]
    rfl
  simp only [expectedOpeners, hkinds]

theorem firstSignificant_caseless (n : Nat) (tokens : List Token) :
    firstSignificant n (tokens.map Token.caseless) =
      (firstSignificant n tokens).map Token.caseless := by
  rw [firstSignificant_eq_take, significantTokens_caseless, firstSignificant_eq_take,
    List.map_take]

namespace State

variable (s : State)

theorem nextSignificant_caseless : s.caseless.nextSignificant = s.nextSignificant.caseless := by
  rw [nextSignificant, nextSignificant, unread_caseless, firstSignificant_caseless,
    peek_caseless, List.headD_eq_head?_getD, List.headD_eq_head?_getD, List.head?_map,
    Option.getD_map]

theorem trailerClosesEnclosing_caseless :
    s.caseless.trailerClosesEnclosing = s.trailerClosesEnclosing := by
  rw [trailerClosesEnclosing, trailerClosesEnclosing, unread_caseless,
    firstSignificant_caseless, List.getElem?_map, openNames_caseless]
  cases (firstSignificant 3 s.unread)[2]? with
  | none => rfl
  | some t =>
    cases s.openNames with
    | nil => rfl
    | cons own enclosing => simp [programNameOf_caseless]

theorem caseless_named (name : Token) :
    (s.named name).caseless = s.caseless.named name.caseless := by
  have hcontext : (s.context.modify ({ · with name := some (programNameOf name) })).caseless =
      s.context.caseless.modify ({ · with name := some (programNameOf name.caseless) }) := by
    apply Context.caseless_modify
    intro n
    rw [programNameOf_caseless]
    rfl
  rw [named, named, context_caseless, ← hcontext, programNameOf_caseless, upper_lower]
  rfl

end State

/-- Two parsers that differ in the case of letters only. -/
structure SameButCase (s t : State) : Prop where
  same : s.caseless = t.caseless
  sentinel : t.stream.sentinel.isEndOfInput

namespace SameButCase

variable {s t : State} {score : Similarity}

theorem peek (h : SameButCase s t) : s.peek.caseless = t.peek.caseless := by
  rw [← s.peek_caseless, h.same, t.peek_caseless]

theorem unread (h : SameButCase s t) :
    s.unread.map Token.caseless = t.unread.map Token.caseless :=
  congrArg State.unread h.same

theorem statementStart (h : SameButCase s t) : s.statementStart = t.statementStart := by
  rw [← s.statementStart_caseless, h.same, t.statementStart_caseless]

theorem openNames (h : SameButCase s t) : s.openNames = t.openNames := by
  rw [← s.openNames_caseless, h.same, t.openNames_caseless]

theorem current (h : SameButCase s t) :
    s.context.current.caseless = t.context.current.caseless := by
  have hcontext : s.context.caseless = t.context.caseless := congrArg State.context h.same
  rw [← Context.current_caseless, hcontext, Context.current_caseless]

theorem frames_length (h : SameButCase s t) :
    s.context.frames.length = t.context.frames.length := by
  have hframes : s.context.frames.map Frame.caseless = t.context.frames.map Frame.caseless :=
    congrArg (fun s => s.context.frames) h.same
  simpa using congrArg List.length hframes

theorem lift {f : State → State} (h : SameButCase s t) (hf : ∀ s, (f s).caseless = f s.caseless)
    (hsentinel : (f t).stream.sentinel = t.stream.sentinel) : SameButCase (f s) (f t) where
  same := by rw [hf, hf, h.same]
  sentinel := by
    rw [hsentinel]
    exact h.sentinel

theorem shift (h : SameButCase s t) (n : Nat) : SameButCase (s.shift n) (t.shift n) :=
  h.lift (·.caseless_shift n) rfl

theorem shiftTrivia (h : SameButCase s t) : SameButCase s.shiftTrivia t.shiftTrivia :=
  h.lift State.caseless_shiftTrivia rfl

theorem openNode (h : SameButCase s t) (kind : NodeKind) :
    SameButCase (s.openNode kind) (t.openNode kind) :=
  h.lift (·.caseless_openNode kind) rfl

theorem closeNode (h : SameButCase s t) : SameButCase s.closeNode t.closeNode :=
  h.lift State.caseless_closeNode rfl

theorem leaveUnit (h : SameButCase s t) : SameButCase s.leaveUnit t.leaveUnit :=
  h.lift State.caseless_leaveUnit rfl

theorem recover (h : SameButCase s t) : SameButCase s.recover t.recover :=
  h.lift State.caseless_recover rfl

theorem report (h : SameButCase s t) {ds es : List Diagnostic}
    (hds : ds.map Diagnostic.caseless = es.map Diagnostic.caseless) :
    SameButCase (s.report ds) (t.report es) where
  same := by rw [State.caseless_report, hds, h.same, ← State.caseless_report]
  sentinel := h.sentinel

theorem reportOf (h : SameButCase s t) (finding : Token → Diagnostic)
    (hfinding : ∀ t, (finding t.caseless).caseless = (finding t).caseless) {a b : Token}
    (hab : a.caseless = b.caseless) :
    SameButCase (s.report [finding a]) (t.report [finding b]) := by
  apply h.report
  rw [List.map_singleton, List.map_singleton, ← hfinding a, hab, hfinding b]

theorem takeNext (h : SameButCase s t) (keyword : Option (Similarity × String)) :
    SameButCase (s.takeNext keyword) (t.takeNext keyword) := by
  cases keyword with
  | none => exact h.shift 1
  | some keyword =>
    apply SameButCase.shift
    apply h.report
    rw [← caseless_warnings s.peek, h.peek, caseless_warnings]

theorem seesAlike (h : SameButCase s t) : SeesAlike score s t where
  division := by
    intro d
    rw [← atDivisionHeader_caseless, h.unread, atDivisionHeader_caseless]
  identification := by
    rw [← atIdentificationHeader_caseless, h.unread, atIdentificationHeader_caseless]
  header := by
    rw [← atAnyHeader_caseless, h.unread, atAnyHeader_caseless, h.statementStart]
  trailer := by
    rw [← atEndProgram_caseless, h.unread, atEndProgram_caseless]

theorem named (h : SameButCase s t) {a b : Token} (hab : a.caseless = b.caseless) :
    SameButCase (s.named a) (t.named b) where
  same := by rw [State.caseless_named, h.same, hab, ← State.caseless_named]
  sentinel := h.sentinel

theorem checkTrailer (h : SameButCase s t) {a b : Token} (hab : a.caseless = b.caseless) :
    SameButCase (Production.checkTrailer a s) (Production.checkTrailer b t) := by
  have hdeclared : lower (s.context.current.name.getD "") =
      lower (t.context.current.name.getD "") := by
    have hname : s.context.current.name.map lower = t.context.current.name.map lower :=
      congrArg (fun n : Node => n.name) h.current
    rw [← Option.getD_map lower, hname, Option.getD_map]
  rw [Production.checkTrailer, Production.checkTrailer, h.openNames, upper_programNameOf_eq hab]
  cases t.openNames with
  | nil => exact h
  | cons own enclosing =>
    dsimp only
    split
    · exact h
    · apply h.report
      rw [List.map_singleton, List.map_singleton, ← caseless_trailerMismatch a, hab, hdeclared,
        caseless_trailerMismatch]

theorem complainOfHeader (h : SameButCase s t) :
    SameButCase s.complainOfHeader t.complainOfHeader := by
  have hopeners : expectedOpeners s.context.current = expectedOpeners t.context.current := by
    rw [← expectedOpeners_caseless, h.current, expectedOpeners_caseless]
  have hnext : s.nextSignificant.caseless = t.nextSignificant.caseless := by
    rw [← s.nextSignificant_caseless, h.same, t.nextSignificant_caseless]
  rw [State.complainOfHeader, State.complainOfHeader, hopeners]
  exact h.reportOf (fun u => (Complaint.failure u _).diagnostic) (caseless_failure _) hnext

end SameButCase

/-- Parsers that read a text each, where the texts differ in case only. -/
def casings : Coupling where
  pair a b := a.caseless = b.caseless
  loose s t := SameButCase s t ∧ t.context.frames ≠ []
  fresh s t := SameButCase s t ∧ t.context.frames ≠ []
  failed := SameButCase
  live _ := True
  ample _ := True
  tolerant := True

variable {score : Similarity}

theorem keeps_casings : casings.Keeps score where
  alike := .of_caseless
  live := ⟨fun _ _ => trivial, fun _ _ => trivial⟩
  ample := ⟨fun _ _ => trivial, fun _ _ => trivial⟩
  live_of_ample := fun _ => trivial
  inside := fun h => ⟨h.2, h.1.sentinel⟩
  peek := fun h _ => h.1.peek
  settle := by
    intro s t h _
    have hsettled : SameButCase s.shiftTrivia t.shiftTrivia ∧
        t.shiftTrivia.context.frames ≠ [] :=
      ⟨h.1.shiftTrivia, mt State.frames_shiftTrivia_eq_nil_iff.1 h.2⟩
    exact ⟨hsettled, hsettled⟩
  take := by
    intro s t keyword h _ _
    refine ⟨h.1.takeNext keyword, ?_⟩
    apply List.length_pos_iff.1
    have hpos := List.length_pos_iff.2 h.2
    cases keyword <;>
      simpa [State.takeNext, State.acceptNext, State.shift, State.report] using hpos
  refuse := fun c h _ =>
    h.1.reportOf (fun t => (c.failure t).diagnostic) (caseless_failure c) h.1.peek
  openNode := fun kind h => ⟨h.1.openNode kind, List.cons_ne_nil _ _⟩
  closeNode := by
    intro s t h hdepth
    refine ⟨h.1.closeNode, ?_⟩
    apply List.length_pos_iff.1
    rw [State.closeNode, Context.frames_length_close]
    omega
  closeFailed := fun h _ => h.closeNode
  body := by
    refine ⟨Production.performs_content, ?_, fun _ hrun _ => by cases hrun⟩
    intro s t a s' h hrun _
    cases hrun
    have hlength : contentLength score s.statementStart s.unread =
        contentLength score t.statementStart t.unread := by
      rw [← contentLength_caseless, h.1.unread, contentLength_caseless, h.1.statementStart]
    refine ⟨(), _, rfl, trivial, ?_, ?_⟩
    · dsimp only
      rw [hlength]
      exact h.1.shift _
    · apply List.length_pos_iff.1
      simpa [State.shift] using List.length_pos_iff.2 h.2

theorem sound_casings : casings.Sound score := by
  apply keeps_casings.sound_of_tight
  · intro s t h
    exact h
  · intro s t h _
    exact h.1.seesAlike
  · intro s t a b h hab
    refine ⟨h.1.named hab.1, ?_⟩
    apply List.length_pos_iff.1
    simpa [State.named] using List.length_pos_iff.2 h.2
  · intro s t a b h _ hab
    refine ⟨h.1.checkTrailer hab.1, ?_⟩
    rw [checkTrailer_context]
    exact h.2

theorem outer_casings : casings.Outer score SameButCase where
  tolerant := trivial
  settle := SameButCase.shiftTrivia
  ended := by
    intro s t h
    rw [← List.map_eq_nil_iff, h.shiftTrivia.unread, List.map_eq_nil_iff]
  peek := fun h => h.shiftTrivia.peek
  enter := fun h => ⟨h.shiftTrivia.openNode _, List.cons_ne_nil _ _⟩
  skip := by
    intro s t h _
    have hreported := h.shiftTrivia.reportOf _ caseless_unknownInput h.shiftTrivia.peek
    exact hreported.lift (·.caseless_skip 1) rfl
  names := by
    intro s t h
    rw [← s.trailerClosesEnclosing_caseless, h.1.same, State.trailerClosesEnclosing_caseless]
  header := fun h _ => h.1.complainOfHeader
  recover := fun h _ _ => h.recover
  depth := fun h => h.1.frames_length
  leaveNested := by
    intro s t h hdepth
    refine ⟨h.1.leaveUnit, ?_⟩
    apply List.length_pos_iff.1
    rw [State.leaveUnit, Context.frames_length_close, ← h.1.frames_length]
    omega
  leaveLast := fun h _ _ _ => h.1.leaveUnit

theorem State.caseless_initial (text : String) :
    (State.initial (.ofText text)).caseless = .initial (.ofText (lower text)) := by
  have hstop : Place.start.after (lower text).toList = Place.start.after text.toList := by
    rw [toList_lower, Place.after_map_toLower]
  simp only [State.caseless, State.initial, TokenStream.ofText, TokenStream.ofTokens,
    hstop, scan_lower]
  rfl

theorem sameButCase_finalState {text text' : String} (h : lower text = lower text') :
    SameButCase (finalState score (.ofText text)) (finalState score (.ofText text')) := by
  have hstart : SameButCase (.initial (.ofText text)) (.initial (.ofText text')) := by
    refine ⟨?_, rfl⟩
    rw [State.caseless_initial, h, State.caseless_initial]
  exact Coupling.Related.run sound_casings outer_casings (.outside hstart) (.initial _ _ _)
    (.initial _ _ _)

end Parse

theorem caseless_ofText (score : Similarity) {text text' : String}
    (h : lower text = lower text') :
    let parsed := parseStream score (.ofText text)
    let parsed' := parseStream score (.ofText text')
    parsed.root.caseless = parsed'.root.caseless ∧
      parsed.diagnostics.map Diagnostic.caseless =
        parsed'.diagnostics.map Diagnostic.caseless := by
  have hsame := (@sameButCase_finalState score _ _ h).same
  have hcontext := congrArg (fun s : State => s.context.finish) hsame
  refine ⟨?_, congrArg State.diagnostics hsame⟩
  change (Context.finish _).caseless = (Context.finish _).caseless
  rw [Context.caseless_finish, Context.caseless_finish]
  exact hcontext

end CobolCompanion
