import CobolCompanion.Proofs.Conservation
import CobolCompanion.Proofs.Layouts

namespace CobolCompanion

open Parse

namespace Parse

theorem State.trailerClosesEnclosing_eq (s : State) :
    s.trailerClosesEnclosing =
      match (wording s.unread)[2]?, s.openNames with
      | some t, own :: enclosing =>
        own != upper (programNameOf t) && enclosing.contains (upper (programNameOf t))
      | _, _ => false := by
  unfold trailerClosesEnclosing
  rw [firstSignificant_eq_take, List.getElem?_take_of_lt (by decide), wording,
    List.getElem?_map]
  cases (significantTokens s.unread)[2]? <;> cases s.openNames <;> rfl

theorem expectedOpeners_congr {n m : Node} (h : n.condensed = m.condensed) :
    expectedOpeners n = expectedOpeners m := by
  have hcontains (kind : NodeKind) :
      (n.childNodes.map (·.kind)).contains kind =
        (m.childNodes.map (·.kind)).contains kind := by
    rw [List.contains_eq_mem, List.contains_eq_mem]
    exact decide_eq_decide.2 (Node.mem_kinds_of_condensed h)
  simp only [expectedOpeners, divisionsAfter, hcontains]

theorem State.wording_spoilt {s : State} (hwords : ∀ t ∈ s.unread, t.isEndOfInput = false)
    (h : s.peek.isTrivia = false ∨ ∀ u ∈ (wording s.unread).head?, u.isTerminator = false) :
    wording s.spoilt =
      (wording s.unread).take (1 + statementLength ((wording s.unread).drop 1)) := by
  unfold spoilt
  cases hunread : s.unread with
  | nil => rfl
  | cons t ts =>
    rw [hunread] at hwords h
    rw [State.peek_eq hunread] at h
    rw [List.forall_mem_cons] at hwords
    rw [Nat.add_comm, List.take_succ_cons, List.drop_one, List.tail_cons]
    cases ht : t.isTrivia with
    | false =>
      rw [wording_cons_of_significant ht, wording_cons_of_significant ht,
        wording_take_statementLength hwords.2, Nat.add_comm 1, List.take_succ_cons]
      rfl
    | true =>
      -- The next token is not significant, but neither does the first significant one end the
      -- statement.
      have hfirst := h.resolve_left (by simp [ht])
      rw [wording_cons_of_trivia ht] at hfirst ⊢
      rw [wording_cons_of_trivia ht, wording_take_statementLength hwords.2]
      cases hw : wording ts with
      | nil => rfl
      | cons u us =>
        have hu : u.isTerminator = false := hfirst u (by simp [hw])
        have hend : u.isEndOfInput = false := by
          obtain ⟨v, hv, rfl⟩ := List.mem_map.1 (hw ▸ List.mem_cons_self : u ∈ wording ts)
          exact hwords.2 v (mem_of_mem_significantTokens hv).1
        simp [statementLength, hu, hend, Nat.add_comm]

theorem State.statementStart_recover (s : State) :
    s.recover.statementStart = s.spoilt.foldl statementStartAfter s.statementStart := by
  rw [spoilt, List.take_add, List.foldl_append]
  rfl

theorem significantTokens_of_dropWhile {ts rest : List Token} {t : Token}
    (h : ts.dropWhile Token.isTrivia = t :: rest) :
    significantTokens ts = t :: significantTokens rest := by
  have ht := isTrivia_of_dropWhile_eq_cons h
  rw [← significantTokens_dropWhile, h, significantTokens_cons_of_significant ht]

namespace SameWords

variable {score : Similarity} {pairs : List (Token × Token)} {s t : State}
  (hpairs : ∀ p ∈ pairs, p.1.unplaced = p.2.unplaced)
include hpairs

theorem recover (h : (layouts score pairs).failed s t) (hs : s.context.Founded)
    (ht : t.context.Founded) : SameWords score pairs s.recover t.recover := by
  obtain ⟨h, hnext⟩ := h
  have hwords := h.wording_eq hpairs
  have hspoilt : wording s.spoilt = wording t.spoilt := by
    rw [State.wording_spoilt h.legible.1.words (hnext.imp_left And.left),
      State.wording_spoilt h.legible.2.words (hwords ▸ hnext.imp_left And.right), hwords]
  have hkept {s : State} (hs : Legible score s.unread) :
      s.spoilt.filter (!·.isEndOfInput) = s.spoilt := by
    apply List.filter_eq_self.2
    intro u hu
    simp [hs.words u (List.mem_of_mem_take hu)]
  refine { h with
    words := ?_, legible := ?_, contexts := ⟨?_, ?_⟩, openNames := rfl, statementStart := ?_ }
  · rw [State.unread_recover_eq, State.unread_recover_eq, significantTokens_drop,
      significantTokens_drop]
    change List.Forall₂ _ (List.drop (wording s.spoilt).length _)
      (List.drop (wording t.spoilt).length _)
    rw [hspoilt]
    exact List.forall₂_drop _ h.words
  · rw [State.unread_recover_eq, State.unread_recover_eq]
    exact ⟨h.legible.1.of_suffix (List.drop_suffix _ _),
      h.legible.2.of_suffix (List.drop_suffix _ _)⟩
  · rw [State.context_recover, State.context_recover, hkept h.legible.1, hkept h.legible.2]
    have hs' := hs.beginsWithDivision_remnants.append (s.spoilt.map .token)
    have ht' := ht.beginsWithDivision_remnants.append (t.spoilt.map .token)
    refine Node.condensed_pushSkipped h.contexts.root hs'.ne_nil ht'.ne_nil ?_
      hs'.condenseAll.isSkipped_head
    rw [Element.condenseAll_append, Element.condenseAll_append, Element.condenseAll_map_token,
      Element.condenseAll_map_token, h.contexts.remnants hs ht, hspoilt]
  · rw [State.frames_recover, State.frames_recover]
  · rw [State.statementStart_recover, State.statementStart_recover,
      ← foldl_statementStartAfter _ s.spoilt, ← foldl_statementStartAfter _ t.spoilt, hspoilt,
      h.statementStart]

theorem skipOne (h : SameWords score pairs s t) (hs : s.peek.isTrivia = false)
    (ht : t.peek.isTrivia = false) (hmore : s.unread ≠ []) :
    SameWords score pairs (s.skip 1) (t.skip 1) := by
  obtain ⟨hunread, -⟩ | ⟨a, us, b, vs, hunread, hunread', hab, ha, hb⟩ := h.next_cases hs ht
  · exact absurd hunread hmore
  have hunplaced : a.unplaced = b.unplaced := hpairs _ hab
  have hread : wording (s.unread.take 1) = wording (t.unread.take 1) := by
    rw [hunread, hunread']
    simp [wording_cons_of_significant ha, wording_cons_of_significant hb, hunplaced]
  apply h.read hread
  apply h.contexts.modify
  intro n m hnodes
  have hend : a.isEndOfInput = false := h.legible.1.words a (hunread ▸ List.mem_cons_self)
  have hend' : b.isEndOfInput = false := h.legible.2.words b (hunread' ▸ List.mem_cons_self)
  have hone {x : Token} (hx : x.isTrivia = false) :
      Element.condenseAll [.token x] = [.token x.unplaced] := by
    simp [Element.condenseAll, Element.condense, hx, Element.splice_nil]
  rw [hunread, hunread']
  simp only [List.take_succ_cons, List.take_zero, List.filter_cons, hend, hend',
    Bool.not_false, if_true, List.filter_nil, List.map_cons, List.map_nil]
  refine Node.condensed_pushSkipped hnodes (by simp) (by simp) ?_ ?_
  · rw [hone ha, hone hb, hunplaced]
  · rw [hone ha]
    simp [Element.isSkipped]

theorem complainOfHeader (hscore : score.TellsApart) (h : SameWords score pairs s t)
    (hheader : atAnyHeader score s.statementStart s.unread) :
    (layouts score pairs).failed s.complainOfHeader t.complainOfHeader := by
  have hheader' := hheader
  rw [(h.seesAlike hpairs).header] at hheader'
  obtain ⟨x, rest, hx⟩ := exists_significant_of_atAnyHeader hheader
  obtain ⟨y, rest', hy⟩ := exists_significant_of_atAnyHeader hheader'
  have hwords := h.words
  rw [significantTokens_of_dropWhile hx, significantTokens_of_dropWhile hy,
    List.forall₂_cons] at hwords
  refine ⟨?_, .inr ?_⟩
  · rw [State.complainOfHeader, State.complainOfHeader, State.nextSignificant_eq hx,
      State.nextSignificant_eq hy, expectedOpeners_congr h.contexts.current]
    exact h.report (.cons (echoes_failure hpairs hwords.1 _) .nil)
  · intro u hu
    by_contra hperiod
    have hfirst : ∀ v, (significantTokens s.unread)[0]? = some v → v.isTerminator := by
      intro v hv
      change u ∈ (wording s.unread).head? at hu
      rw [wording, List.head?_map, List.head?_eq_getElem?, hv] at hu
      cases hu
      simpa using hperiod
    simp [not_atAnyHeader_of_terminator hscore hfirst] at hheader

end SameWords

def BetweenUnits (score : Similarity) (pairs : List (Token × Token)) (s t : State) : Prop :=
  SameWords score pairs s t ∧ s.context.frames = []

theorem outer_layouts {score : Similarity} (hscore : score.TellsApart)
    {pairs : List (Token × Token)} (hpairs : ∀ p ∈ pairs, p.1.unplaced = p.2.unplaced) :
    (layouts score pairs).Outer score (BetweenUnits score pairs) := by
  have hsettled {s t : State} (h : BetweenUnits score pairs s t) :
      BetweenUnits score pairs s.shiftTrivia t.shiftTrivia ∧
        s.shiftTrivia.peek.isTrivia = false ∧ t.shiftTrivia.peek.isTrivia = false :=
    ⟨⟨h.1.shiftTrivia, State.frames_shiftTrivia_eq_nil_iff.2 h.2⟩,
      s.isTrivia_peek_shiftTrivia h.1.ended.1, t.isTrivia_peek_shiftTrivia h.1.ended.2⟩
  exact {
    tolerant := trivial
    settle := fun h => (hsettled h).1
    ended := fun {s t} h => by
      obtain ⟨hbetween, hs, ht⟩ := hsettled h
      obtain ⟨hunread, hunread'⟩ | ⟨a, us, b, vs, hunread, hunread', -⟩ :=
        hbetween.1.next_cases hs ht
      · simp [hunread, hunread']
      · simp [hunread, hunread']
    peek := fun h => by
      obtain ⟨hbetween, hs, ht⟩ := hsettled h
      exact hbetween.1.pair_peek hs ht
    enter := fun h => by
      obtain ⟨hbetween, hs, ht⟩ := hsettled h
      exact ⟨⟨hbetween.1.openNode _, List.cons_ne_nil _ _⟩, hs, ht⟩
    skip := fun {s t} h hmore => by
      obtain ⟨hbetween, hs, ht⟩ := hsettled h
      have hreported := hbetween.1.report
        (.cons (echoes_unknownInput hpairs (hbetween.1.pair_peek hs ht)) .nil)
      exact ⟨hreported.skipOne hpairs hs ht hmore, Context.frames_modify_eq_nil hbetween.2 _⟩
    names := fun {s t} h => by
      rw [State.trailerClosesEnclosing_eq, State.trailerClosesEnclosing_eq,
        h.1.wording_eq hpairs, h.1.openNames]
    header := fun h hheader => h.1.complainOfHeader hpairs hscore hheader
    recover := fun {s t} h hs ht => ⟨SameWords.recover hpairs h hs ht, State.frames_recover s⟩
    depth := fun h => h.1.contexts.frames_length
    leaveNested := fun {s t} h hdepth => by
      refine ⟨h.1.leaveUnit, ?_⟩
      apply List.length_pos_iff.1
      rw [State.leaveUnit, Context.frames_length_close, ← h.1.contexts.frames_length]
      omega
    leaveLast := fun {s t f} h hframes _ _ => by
      refine ⟨h.1.leaveUnit, ?_⟩
      apply List.length_eq_zero_iff.1
      rw [State.leaveUnit, Context.frames_length_close, hframes]
      rfl }

/-- The ends of two runs over texts with the same wording correspond. -/
theorem sameWords_finalState {score : Similarity} (hscore : score.TellsApart)
    {ts us : List Token} (hwording : wording ts = wording us) (hts : Legible score ts)
    (hus : Legible score us) (position position' : Position) (offset offset' : Nat) :
    let e := Token.endOfInput position offset
    let e' := Token.endOfInput position' offset'
    BetweenUnits score ((significantTokens ts).zip (significantTokens us) ++ [(e, e')])
      (finalState score (.ofTokens ts e)) (finalState score (.ofTokens us e')) := by
  intro e e'
  let pairs := (significantTokens ts).zip (significantTokens us) ++ [(e, e')]
  have halike : List.Forall₂ Eq (wording ts) (wording us) := by
    rw [hwording, List.forall₂_eq_eq_eq]
  rw [wording, wording, List.forall₂_map_left_iff, List.forall₂_map_right_iff,
    List.forall₂_iff_zip]
    at halike
  have hpairs : ∀ p ∈ pairs, p.1.unplaced = p.2.unplaced := by
    intro p hp
    rcases List.mem_append.1 hp with hp | hp
    · exact halike.2 hp
    · rw [List.mem_singleton.1 hp]
      rfl
  have hstart : BetweenUnits score pairs (.initial (.ofTokens ts e))
      (.initial (.ofTokens us e')) := by
    refine ⟨⟨?_, ⟨hts, hus⟩, ?_, ⟨rfl, rfl⟩, ⟨rfl, rfl⟩, rfl, rfl, .nil⟩, rfl⟩
    · exact List.forall₂_iff_zip.2 ⟨halike.1, List.mem_append_left _⟩
    · exact List.mem_append_right _ List.mem_cons_self
  exact Coupling.Related.run (sound_layouts hpairs hscore) (outer_layouts hscore hpairs)
    (.outside hstart)
    (.initial ts position offset) (.initial us position' offset')

end Parse

theorem isTerminator_of_mem_scanFrom {place : Place} {text : List Char} :
    ∀ t ∈ scanFrom place text, t.lexeme.toList.head? = some '.' → t.isTerminator := by
  fun_induction scanFrom place text with
  | case1 => simp
  | case2 place c text cut after ih =>
    intro t ht hfirst
    rcases List.mem_cons.1 ht with rfl | ht
    · obtain ⟨hne, hsplits⟩ := Cut.first_splits c text
      have hc : c = '.' := by
        have hhead := congrArg List.head? hsplits
        rw [List.head?_append_of_ne_nil _ hne] at hhead
        simpa [cut, hhead] using hfirst
      subst hc
      rfl
    · exact ih t ht hfirst

theorem legible_scan {score : Similarity} {text : String}
    (hattached : detachesPeriod score (scan text) = false)
    (hperiods : ∀ t ∈ scan text, t.lexeme.toList.head? ≠ some '.' →
      Keyword.accepts score t "." = false) : Legible score (scan text) where
  words := isEndOfInput_of_mem_scanFrom
  periods := by
    intro t ht haccepts
    apply isTerminator_of_mem_scanFrom t ht
    by_contra hfirst
    simp [hperiods t ht hfirst] at haccepts
  attached := hattached

/--
Texts that differ in nothing but trivia are parsed alike. The trees are the same once the trivia
are dropped and skipped siblings that then touch are merged, and the findings agree one by one,
each about the same significant token or about the end. No trivia may come between `PROGRAM-ID`
and a period behind it, and nothing may pass for a period that does not begin with one.
-/
theorem parse_wording (score : Similarity) (hscore : score.TellsApart) (text text' : String)
    (hwording : wording (scan text) = wording (scan text'))
    (hattached : ∀ ts ∈ [scan text, scan text'], detachesPeriod score ts = false)
    (hperiods : ∀ t ∈ scan text ++ scan text', t.lexeme.toList.head? ≠ some '.' →
      Keyword.accepts score t "." = false) :
    let pairs := (significantTokens (scan text)).zip (significantTokens (scan text')) ++
      [((TokenStream.ofText text).sentinel, (TokenStream.ofText text').sentinel)]
    let parsed := parseStream score (.ofText text)
    let parsed' := parseStream score (.ofText text')
    parsed.root.condensed = parsed'.root.condensed ∧
      List.Forall₂ (Diagnostic.Echoes pairs) parsed.diagnostics parsed'.diagnostics := by
  intro pairs parsed parsed'
  rw [List.forall_mem_append] at hperiods
  have hlegible := legible_scan (hattached _ (by simp)) hperiods.1
  have hlegible' := legible_scan (hattached _ (by simp)) hperiods.2
  obtain ⟨hsame, houtside⟩ := sameWords_finalState hscore hwording hlegible hlegible'
    (Place.start.after text.toList).position (Place.start.after text'.toList).position
    (Place.start.after text.toList).offset (Place.start.after text'.toList).offset
  refine ⟨?_, hsame.findings⟩
  have houtside' := hsame.contexts.frames_eq_nil houtside
  calc parsed.root.condensed
    _ = (finalState score (.ofText text)).context.root.node.condensed :=
      congrArg Node.condensed (Context.finish_of_outside houtside)
    _ = (finalState score (.ofText text')).context.root.node.condensed := hsame.contexts.root
    _ = parsed'.root.condensed :=
      congrArg Node.condensed (Context.finish_of_outside houtside').symm

/-- Two stray periods and a division that is none, with no trivia but those that part words. -/
def packedText : String :=
  "..ID DIVISION.PROGRAM-ID.A.ODD DIVISION."

/-- The same over several lines. The stray periods are skipped apart here. -/
def spreadText : String :=
  ". *> gap\n. ID DIVISION .\nPROGRAM-ID. A .\nODD  DIVISION."

theorem parse_wording_spreadText :
    Similarity.jaroWinkler.TellsApart ∧
      wording (scan packedText) = wording (scan spreadText) ∧
      (∀ ts ∈ [scan packedText, scan spreadText], detachesPeriod .jaroWinkler ts = false) ∧
      (∀ t ∈ scan packedText ++ scan spreadText, t.lexeme.toList.head? ≠ some '.' →
        Keyword.accepts .jaroWinkler t "." = false) ∧
      (parse packedText).root.condensed = (parse spreadText).root.condensed ∧
      (parse packedText).diagnostics.map (·.message) =
        (parse spreadText).diagnostics.map (·.message) := by
  have hwording : wording (scan packedText) = wording (scan spreadText) := by decide +kernel
  have hattached : ∀ ts ∈ [scan packedText, scan spreadText],
      detachesPeriod .jaroWinkler ts = false := by decide +kernel
  have hperiods : ∀ t ∈ scan packedText ++ scan spreadText, t.lexeme.toList.head? ≠ some '.' →
      Keyword.accepts .jaroWinkler t "." = false := by decide +kernel
  have hscore := Similarity.tellsApart_jaroWinkler
  obtain ⟨hroot, hfindings⟩ :=
    parse_wording .jaroWinkler hscore packedText spreadText hwording hattached hperiods
  refine ⟨hscore, hwording, hattached, hperiods, hroot, ?_⟩
  rw [← List.forall₂_eq_eq_eq, List.forall₂_map_left_iff, List.forall₂_map_right_iff]
  exact hfindings.imp fun _ _ h => h.message

end CobolCompanion
