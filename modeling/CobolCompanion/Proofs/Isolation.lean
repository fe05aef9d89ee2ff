import CobolCompanion.Proofs.CoupledRuns
import CobolCompanion.Proofs.Splicing
import CobolCompanion.Proofs.Surroundings

namespace CobolCompanion

open Parse

namespace Parse

/-- The end of a text, with what was built and found before it. -/
def aftermath (children : List Element) (findings : List Diagnostic) : Surroundings where
  rest := []
  frames := []
  names := []
  findings
  roots f g := f.node.children = Element.splice children g.node.children
  final := True
  rest_eq_nil := fun _ => rfl

/-- Outside units, a state in the midst of a text and one at the start of the rest of it. -/
structure Resumes (children : List Element) (findings : List Diagnostic)
    (s t : State) : Prop where
  unread : s.unread = t.unread
  sentinel : s.stream.sentinel.isEndOfInput
  same : s.stream.sentinel = t.stream.sentinel
  outside : s.context.frames = [] ∧ t.context.frames = []
  openNames : s.openNames = [] ∧ t.openNames = []
  roots : s.items = Element.splice children t.items
  diagnostics : s.diagnostics = findings ++ t.diagnostics

theorem State.items_modify {s : State} (h : s.context.frames = []) (change : Node → Node) :
    (s.context.modify change).root.node.children = (change s.context.root.node).children := by
  simp [Context.modify, h, Frame.modify]

namespace Resumes

variable {children : List Element} {findings : List Diagnostic} {s t : State}

theorem peek (h : Resumes children findings s t) : s.peek = t.peek :=
  State.peek_congr h.unread h.same

theorem report (h : Resumes children findings s t) (ds : List Diagnostic) :
    Resumes children findings (s.report ds) (t.report ds) :=
  { h with diagnostics := by simp [State.report, h.diagnostics] }

theorem shiftTrivia (h : Resumes children findings s t) :
    Resumes children findings s.shiftTrivia t.shiftTrivia := by
  have hitems (s : State) (hs : s.context.frames = []) :
      s.shiftTrivia.items =
      Element.splice s.items ((s.unread.take (triviaLength s.unread)).map .token) := by
    rw [Element.splice_eq_append (by cases s.unread.take _ <;> simp [Element.isSkipped])]
    exact State.items_modify hs _
  refine { h with
    unread := by rw [State.unread_shiftTrivia, State.unread_shiftTrivia, h.unread]
    outside := ⟨State.frames_shiftTrivia_eq_nil_iff.2 h.outside.1,
      State.frames_shiftTrivia_eq_nil_iff.2 h.outside.2⟩
    roots := ?_ }
  rw [hitems s h.outside.1, hitems t h.outside.2, h.unread, h.roots, Element.splice_assoc]

theorem skip (h : Resumes children findings s t) (n : Nat) :
    Resumes children findings (s.skip n) (t.skip n) := by
  refine { h with
    unread := by rw [State.unread_skip, State.unread_skip, h.unread]
    outside := ⟨Context.frames_modify_eq_nil h.outside.1 _,
      Context.frames_modify_eq_nil h.outside.2 _⟩
    roots := ?_ }
  change (s.context.modify _).root.node.children =
    Element.splice _ (t.context.modify _).root.node.children
  rw [State.items_modify h.outside.1, State.items_modify h.outside.2, h.unread]
  exact Node.splice_pushSkipped h.roots _

theorem enter (h : Resumes children findings s t) (htrivia : s.peek.isTrivia = false) :
    (aftermath children findings).coupling.fresh (s.openNode .programUnit)
      (t.openNode .programUnit) := by
  refine ⟨⟨?_, h.sentinel, ?_, fun _ => h.same, ?_, ?_, h.roots, ?_, h.diagnostics⟩,
    .inl htrivia⟩
  · exact h.unread.trans (List.append_nil _).symm
  · change s.stream.sentinel.Alike t.stream.sentinel
    rw [h.same]
    exact .of_lexeme rfl rfl
  · simp [State.openNode, Context.push, h.outside, aftermath]
  · simp [State.openNode, Context.push]
  · change s.openNames = t.openNames ++ []
    rw [h.openNames.1, h.openNames.2, List.append_nil]

end Resumes

section
variable {children : List Element} {findings : List Diagnostic} {s t : State}

namespace Surroundings.Embeds

variable (h : (aftermath children findings).Embeds s t)
include h

theorem unread_eq : s.unread = t.unread :=
  h.unread.trans (List.append_nil _)

theorem frames_eq : s.context.frames = t.context.frames :=
  h.frames.trans (List.append_nil _)

theorem openNames_eq : s.openNames = t.openNames :=
  h.openNames.trans (List.append_nil _)

/-- Recovery leads outside units on both sides. -/
theorem recover : Resumes children findings s.recover t.recover := by
  have hspoilt : s.spoilt = t.spoilt := by rw [State.spoilt, State.spoilt, h.unread_eq]
  have hremnants : s.context.remnants = t.context.remnants := by
    rw [Context.remnants, Context.remnants, h.frames_eq]
  refine ⟨?_, h.sentinel, h.same trivial,
    ⟨State.frames_recover s, State.frames_recover t⟩, ⟨rfl, rfl⟩,
    ?_, h.diagnostics⟩
  · rw [State.unread_recover_eq, State.unread_recover_eq, h.unread_eq]
  · rw [State.items, State.items, State.context_recover, State.context_recover,
      hspoilt, hremnants]
    exact Node.splice_pushSkipped h.roots _

/-- The last open unit goes to the root on both sides. -/
theorem leaveLast {f : Frame} (hframes : s.context.frames = [f])
    (hkind : f.node.kind = .programUnit) (hnames : s.openNames.length = 1) :
    Resumes children findings s.leaveUnit t.leaveUnit := by
  have hframes' := h.frames_eq.symm.trans hframes
  have hclose (s : State) (hs : s.context.frames = [f]) :
      s.leaveUnit.context = ⟨s.context.root.modify (·.push f.node.toElement), []⟩ := by
    simp [State.leaveUnit, Context.close, Context.pop?, hs, Context.modify]
  have hplain : f.node.toElement.isSkipped = false := by
    simp [Node.toElement, Element.isSkipped, hkind]
  have hitems (es : List Element) :
      es ++ [f.node.toElement] = Element.splice es [f.node.toElement] :=
    (Element.splice_eq_append (by simpa using hplain)).symm
  have hnone : s.openNames.tail = [] :=
    List.length_eq_zero_iff.1 (by rw [List.length_tail, hnames])
  have hnone' : t.openNames.tail = [] := by rw [← h.openNames_eq, hnone]
  refine ⟨h.unread_eq, h.sentinel, h.same trivial,
    by rw [hclose s hframes, hclose t hframes']; simp, ⟨hnone, hnone'⟩, ?_, h.diagnostics⟩
  rw [State.items, State.items, hclose s hframes, hclose t hframes']
  change s.items ++ [f.node.toElement] = Element.splice children (t.items ++ [f.node.toElement])
  have hroots : s.items = Element.splice children t.items := h.roots
  rw [hitems, hitems, hroots, Element.splice_assoc]

end Surroundings.Embeds

theorem outer_aftermath (score : Similarity) (children : List Element)
    (findings : List Diagnostic) :
    (aftermath children findings).coupling.Outer score (Resumes children findings) where
  tolerant := trivial
  settle := fun h => h.shiftTrivia
  ended := fun h => by rw [h.shiftTrivia.unread]
  peek := fun h => by
    rw [h.shiftTrivia.peek]
    exact ⟨.of_lexeme rfl rfl, fun _ => rfl⟩
  enter := fun {s t} h => h.shiftTrivia.enter (s.isTrivia_peek_shiftTrivia h.sentinel)
  skip := fun h _ => by
    rw [h.shiftTrivia.peek]
    exact (h.shiftTrivia.report _).skip 1
  names := fun h => by
    rw [State.trailerClosesEnclosing, State.trailerClosesEnclosing, h.1.unread_eq,
      h.1.openNames_eq]
  header := fun {s t} h _ => by
    have hcurrent : s.context.current = t.context.current := by
      obtain ⟨f, fs, hframes⟩ := List.exists_cons_of_ne_nil h.1.inside
      simp [Context.current, Context.top, h.1.frames_eq, hframes]
    have hpeek : s.peek = t.peek := State.peek_congr h.1.unread_eq (h.1.same trivial)
    have hnext : s.nextSignificant = t.nextSignificant := by
      rw [State.nextSignificant, State.nextSignificant, h.1.unread_eq, hpeek]
    rw [State.complainOfHeader, State.complainOfHeader, hcurrent, hnext]
    exact h.1.report _
  recover := fun h _ _ => h.recover
  depth := fun h => by rw [h.1.frames_eq]
  leaveNested := fun h hdepth => ⟨h.1.leaveUnit (h.1.frames_eq ▸ hdepth) (.inl rfl), h.2⟩
  leaveLast := fun h hframes hkind => h.1.leaveLast hframes hkind

end

end Parse

/--
Whenever the parser comes to an item of the source unit, what it makes of the rest of the text
is what it makes of that rest alone, behind what it has built and found so far.
-/
theorem parseStream_resumes (score : Similarity) (read rest : List Token) (position : Position)
    (offset n : Nat) :
    let sentinel := Token.endOfInput position offset
    let c := (step score)^[n] ⟨.sourceUnit, .initial (.ofTokens (read ++ rest) sentinel)⟩
    let whole := parseStream score (.ofTokens (read ++ rest) sentinel)
    let alone := parseStream score (.ofTokens rest sentinel)
    c.phase = .sourceUnit → c.state.unread = rest →
      whole.diagnostics = c.state.diagnostics ++ alone.diagnostics ∧
      whole.root.children =
        Element.splice c.state.context.root.node.children alone.root.children := by
  intro sentinel c whole alone hphase hunread
  have hc : Orderly c := (Orderly.initial (read ++ rest) position offset).iterate n
  have hd : Orderly ⟨.sourceUnit, .initial (.ofTokens rest sentinel)⟩ :=
    .initial rest position offset
  have hsentinel : c.state.stream.sentinel = sentinel :=
    (moves_iterate n _).sentinel_eq
  obtain ⟨s, hs⟩ : ∃ s, c = ⟨.sourceUnit, s⟩ := ⟨c.state, by rw [← hphase]⟩
  rw [hs] at hunread hc hsentinel ⊢
  -- The second parser starts where the first is, with nothing around it.
  have hstart : Resumes s.items s.diagnostics s (.initial (.ofTokens rest sentinel)) :=
    { unread := hunread
      sentinel := hc.sentinel
      same := hsentinel
      outside := ⟨hc.outside.1 rfl, rfl⟩
      openNames := ⟨hc.openNames_eq_nil, rfl⟩
      roots := (Element.splice_nil s.items).symm
      diagnostics := (List.append_nil _).symm }
  have hend := Coupling.Related.run Surroundings.sound_coupling (outer_aftermath score _ _)
    (.outside hstart) hc hd
  have hwhole : run score ⟨.sourceUnit, s⟩ =
      finalState score (.ofTokens (read ++ rest) sentinel) := by
    rw [← hs]
    exact run_iterate n _
  rw [hwhole] at hend
  have hroot (stream : TokenStream) (h : (finalState score stream).context.frames = []) :
      (parseStream score stream).root.children = (finalState score stream).items :=
    congrArg Node.children (Context.finish_of_outside h)
  refine ⟨hend.diagnostics, ?_⟩
  rw [hroot _ hend.outside.1, hroot _ hend.outside.2]
  exact hend.roots

/-- A header that breaks off, up to the end of the statement. -/
def brokenHeader : List Token :=
  [⟨.word, "ID", ⟨0, 0⟩, ⟨0, 2⟩⟩, ⟨.word, "LEDGER", ⟨0, 2⟩, ⟨2, 8⟩⟩,
    ⟨.other, ".", ⟨0, 8⟩, ⟨8, 9⟩⟩]

def strayName : List Token :=
  [⟨.word, "STRAY", ⟨0, 9⟩, ⟨9, 14⟩⟩]

theorem parseStream_resumes_brokenHeader :
    let sentinel := Token.endOfInput ⟨0, 14⟩ 14
    let score := Similarity.jaroWinkler
    let c := (step score)^[1] ⟨.sourceUnit,
      .initial (.ofTokens (brokenHeader ++ strayName) sentinel)⟩
    let whole := parseStream score (.ofTokens (brokenHeader ++ strayName) sentinel)
    let alone := parseStream score (.ofTokens strayName sentinel)
    (c.phase = .sourceUnit ∧ c.state.unread = strayName) ∧
      whole.diagnostics = c.state.diagnostics ++ alone.diagnostics ∧
      whole.root.children =
        Element.splice c.state.context.root.node.children alone.root.children := by
  have hresumes :=
    parseStream_resumes Similarity.jaroWinkler brokenHeader strayName ⟨0, 14⟩ 14 1
  dsimp only at hresumes ⊢
  refine ⟨⟨?_, ?_⟩, hresumes ?_ ?_⟩ <;> decide +kernel

end CobolCompanion
