import CobolCompanion.Parse.Machine
import CobolCompanion.Proofs.Significance
import Mathlib.Data.List.DropRight

namespace CobolCompanion

open Parse

def Node.pushAll (n : Node) (elements : List Element) : Node :=
  { n with children := n.children ++ elements }

namespace Parse

namespace Context

theorem modify_modify (c : Context) (f g : Node → Node) :
    (c.modify f).modify g = c.modify (g ∘ f) := by
  unfold modify
  cases c.frames <;> rfl

theorem modify_pushAll_nil (c : Context) : c.modify (·.pushAll []) = c := by
  obtain ⟨root, frames⟩ := c
  cases frames <;> simp [modify, Frame.modify, Node.pushAll]

theorem modify_pushAll_pushAll (c : Context) (es fs : List Element) :
    (c.modify (·.pushAll es)).modify (·.pushAll fs) = c.modify (·.pushAll (es ++ fs)) := by
  rw [modify_modify]
  congr 1
  funext n
  simp [Node.pushAll]

theorem close_modify_push (c : Context) (n : Node) (change : Node → Node) :
    ((c.push n).modify change).close = c.modify (·.pushAll [(change n).toElement]) :=
  rfl

end Context

/--
Nothing happens between two states but that elements are added to the node that is being built,
and without trivia these are the given ones.
-/
structure Adds (s : State) (words : List Element) (s' : State) : Prop where
  context : ∃ es, s'.context = s.context.modify (·.pushAll es) ∧
    Element.withoutTriviaAll es = words
  diagnostics : s'.diagnostics = s.diagnostics
  openNames : s'.openNames = s.openNames

namespace Adds

variable {s s' s'' : State} {words more : List Element}

theorem refl (s : State) : Adds s [] s :=
  ⟨⟨[], (s.context.modify_pushAll_nil).symm, by simp⟩, rfl, rfl⟩

theorem trans (h : Adds s words s') (h' : Adds s' more s'') : Adds s (words ++ more) s'' := by
  obtain ⟨es, hes, hwords⟩ := h.context
  obtain ⟨fs, hfs, hmore⟩ := h'.context
  refine ⟨⟨es ++ fs, ?_, ?_⟩, h'.diagnostics.trans h.diagnostics,
    h'.openNames.trans h.openNames⟩
  · rw [hfs, hes, Context.modify_pushAll_pushAll]
  · rw [Element.withoutTriviaAll_append, hwords, hmore]

theorem shift (s : State) (n : Nat) :
    Adds s ((significantTokens (s.unread.take n)).map .token) (s.shift n) :=
  ⟨⟨(s.unread.take n).map .token, rfl, Element.withoutTriviaAll_map_token _⟩, rfl, rfl⟩

theorem frames_eq_nil_iff (h : Adds s words s') :
    s'.context.frames = [] ↔ s.context.frames = [] := by
  obtain ⟨es, hes, _⟩ := h.context
  rw [hes, ← List.length_eq_zero_iff, Context.frames_length_modify, List.length_eq_zero_iff]

end Adds

theorem State.peek_eq {s : State} {t : Token} {rest : List Token} (h : s.unread = t :: rest) :
    s.peek = t := by
  unfold unread at h
  simp [peek, TokenStream.peek, h]

theorem State.peek_of_exhausted {s : State} (h : s.unread = []) :
    s.peek = s.stream.sentinel := by
  unfold unread at h
  simp [peek, TokenStream.peek, h]

theorem State.peek_congr {s t : State} (hunread : s.unread = t.unread)
    (hsentinel : s.stream.sentinel = t.stream.sentinel) : s.peek = t.peek := by
  unfold unread at hunread
  rw [peek, peek, TokenStream.peek, TokenStream.peek, hunread, hsentinel]

namespace State

theorem unread_shiftTrivia (s : State) :
    s.shiftTrivia.unread = s.unread.dropWhile Token.isTrivia := by
  have hdrop : (s.unread.takeWhile Token.isTrivia ++ s.unread.dropWhile Token.isTrivia).drop
      (triviaLength s.unread) = s.unread.dropWhile Token.isTrivia := List.drop_left
  rwa [List.takeWhile_append_dropWhile] at hdrop

/-- But for trivia that stand first, a state has these tokens still to read. -/
def Faces (s : State) (ts : List Token) : Prop :=
  s.unread.dropWhile Token.isTrivia = ts.dropWhile Token.isTrivia

namespace Faces

variable {s : State} {gap ts : List Token}

theorem of_eq (h : s.unread = ts) : s.Faces ts :=
  congrArg (List.dropWhile Token.isTrivia) h

theorem of_append (h : s.unread = gap ++ ts) (hgap : ∀ t ∈ gap, t.isTrivia) : s.Faces ts := by
  unfold Faces
  rw [h, List.dropWhile_append_of_pos hgap]

theorem shiftTrivia (h : s.Faces ts) : s.shiftTrivia.Faces ts := by
  unfold Faces
  rw [unread_shiftTrivia, List.dropWhile_idempotent]
  exact h

/-- After the trivia that stand first, the next token is a significant one. -/
theorem unread_shiftTrivia {t : Token} {rest : List Token} (h : s.Faces (gap ++ t :: rest))
    (hgap : ∀ u ∈ gap, u.isTrivia) (ht : t.isTrivia = false) :
    s.shiftTrivia.unread = t :: rest := by
  rw [State.unread_shiftTrivia, h, List.dropWhile_append_of_pos hgap,
    List.dropWhile_cons_of_neg (by simp [ht])]

/-- Lookahead sees the tokens that a state faces. -/
theorem significantTokens (h : s.Faces ts) :
    significantTokens s.unread = significantTokens ts := by
  rw [← significantTokens_dropWhile, h, significantTokens_dropWhile]

end Faces

end State

/-- In a unit that is not outermost, the machine goes on behind the unit that it closes. -/
theorem closeUnit_of_nested {s : State} (h : s.leaveUnit.context.frames ≠ []) :
    closeUnit s = ⟨.programUnit [], s.leaveUnit⟩ := by
  rw [closeUnit, if_neg (by simpa using h)]

theorem closeUnit_of_outermost {s : State} (h : s.leaveUnit.context.frames = []) :
    closeUnit s = ⟨.sourceUnit, s.leaveUnit.shiftTrivia⟩ := by
  rw [closeUnit, if_pos (by simp [h])]

/-- Trivia that stand before anything else are read at once. -/
theorem Adds.shiftTrivia (s : State) : Adds s [] s.shiftTrivia := by
  have hshift := Adds.shift s (triviaLength s.unread)
  rw [significantTokens_eq_nil isTrivia_of_mem_take_triviaLength] at hshift
  exact hshift

end Parse

namespace Production

variable {α β : Type} {score : Similarity} {keyword : String} {keywords : List String}
variable {s : State} {t : Token} {gap rest : List Token}

theorem bind_eq_of_ok {p : Production α} {a : α} {s' : State} (h : p s = .ok a s')
    (f : α → Production β) : (p >>= f) s = f a s' := by
  change EStateM.bind p f s = _
  simp only [EStateM.bind, h]

/-- A production succeeds, adds the given elements and leaves the given tokens unread. -/
def Yields (p : Production α) (s : State) (a : α) (words : List Element)
    (rest : List Token) : Prop :=
  ∃ s', p s = .ok a s' ∧ Adds s words s' ∧ s'.unread = rest

namespace Yields

theorem pure (a : α) (h : s.unread = rest) : Yields (pure a : Production α) s a [] rest :=
  ⟨s, rfl, .refl s, h⟩

theorem bind {p : Production α} {f : α → Production β} {a : α} {b : β}
    {words more : List Element} {rest' : List Token} (hp : Yields p s a words rest)
    (hf : ∀ s', Adds s words s' → s'.unread = rest → Yields (f a) s' b more rest') :
    Yields (p >>= f) s b (words ++ more) rest' := by
  obtain ⟨s', hrun, hadds, hrest⟩ := hp
  obtain ⟨s'', hrun', hadds', hrest'⟩ := hf s' hadds hrest
  exact ⟨s'', (bind_eq_of_ok hrun f).trans hrun', hadds.trans hadds', hrest'⟩

/-- A production that adds nothing leaves all that is added to what comes after it. -/
theorem silent {p : Production α} {f : α → Production β} {a : α} {b : β} {words : List Element}
    {rest' : List Token} (hp : Yields p s a [] rest)
    (hf : ∀ s', s'.unread = rest → Yields (f a) s' b words rest') :
    Yields (p >>= f) s b words rest' :=
  hp.bind fun s' _ => hf s'

/-- A production that adds one element adds it before what comes after it. -/
theorem word {p : Production α} {f : α → Production β} {a : α} {b : β} {e : Element}
    {words : List Element} {rest' : List Token} (hp : Yields p s a [e] rest)
    (hf : ∀ s', s'.unread = rest → Yields (f a) s' b words rest') :
    Yields (p >>= f) s b (e :: words) rest' :=
  hp.bind fun s' _ => hf s'

theorem inNode (kind : NodeKind) {p : Production α} {a : α} {words : List Element}
    (hp : Yields p (s.openNode kind) a words rest) :
    Yields (Production.inNode kind p) s a [.node { kind } words] rest := by
  obtain ⟨s', hrun, hadds, hrest⟩ := hp
  obtain ⟨es, hes, hwords⟩ := hadds.context
  refine ⟨s'.closeNode, ?_,
    ⟨⟨[.node { kind } es], ?_, ?_⟩, hadds.diagnostics, hadds.openNames⟩, hrest⟩
  · simp only [Production.inNode, hrun]
  · change s'.context.close = _
    rw [hes]
    exact Context.close_modify_push s.context (.ofKind kind) (·.pushAll es)
  · rw [Element.withoutTriviaAll_node, hwords]

end Yields

/-- Like `Yields`, but trivia may be left unread before the given tokens. -/
def YieldsBefore (p : Production α) (s : State) (a : α) (words : List Element)
    (rest : List Token) :
    Prop :=
  ∃ s', p s = .ok a s' ∧ Adds s words s' ∧ s'.Faces rest

namespace YieldsBefore

theorem bind {p : Production α} {f : α → Production β} {a : α} {b : β}
    {words more : List Element} {rest' : List Token} (hp : Yields p s a words rest)
    (hf : ∀ s', s'.unread = rest → YieldsBefore (f a) s' b more rest') :
    YieldsBefore (p >>= f) s b (words ++ more) rest' := by
  obtain ⟨s', hrun, hadds, hrest⟩ := hp
  obtain ⟨s'', hrun', hadds', hrest'⟩ := hf s' hrest
  exact ⟨s'', (bind_eq_of_ok hrun f).trans hrun', hadds.trans hadds', hrest'⟩

theorem inNode (kind : NodeKind) {p : Production α} {a : α} {words : List Element}
    (hp : YieldsBefore p (s.openNode kind) a words rest) :
    YieldsBefore (Production.inNode kind p) s a [.node { kind } words] rest := by
  obtain ⟨s', hrun, hadds, hfaces⟩ := hp
  have hyields : Yields p (s.openNode kind) a words s'.unread := ⟨s', hrun, hadds, rfl⟩
  obtain ⟨s'', hrun', hadds', hrest⟩ := hyields.inNode kind
  refine ⟨s'', hrun', hadds', ?_⟩
  unfold State.Faces
  rw [hrest]
  exact hfaces

end YieldsBefore

theorem yields_spaces (h : s.Faces (gap ++ t :: rest)) (hgap : ∀ u ∈ gap, u.isTrivia)
    (ht : t.isTrivia = false) : Yields spaces s () [] (t :: rest) :=
  ⟨s.shiftTrivia, rfl, .shiftTrivia s, h.unread_shiftTrivia hgap ht⟩

theorem yields_accept (h : s.unread = t :: rest) (ht : t.isTrivia = false)
    (hexact : Keyword.compare score t.lexeme keyword = .exact) :
    Yields (accept score t keyword) s () [.token t] rest := by
  have hquiet : s.report (Keyword.warnings score t keyword) = s := by
    simp [State.report, Keyword.warnings, hexact]
  have hshift := Adds.shift s 1
  have hword : significantTokens (s.unread.take 1) = [t] := by
    rw [h]
    exact significantTokens_cons_of_significant ht []
  rw [hword] at hshift
  refine ⟨s.shift 1, ?_, hshift, by simp [h]⟩
  change EStateM.Result.ok () ((s.report (Keyword.warnings score t keyword)).shift 1) = _
  rw [hquiet]

theorem yields_expect (h : s.unread = t :: rest) (ht : t.isTrivia = false)
    (hend : t.isEndOfInput = false) (hexact : Keyword.compare score t.lexeme keyword = .exact) :
    Yields (expect score keyword) s () [.token t] rest := by
  have haccepts : Keyword.accepts score t keyword = true := by
    simp [Keyword.accepts, hexact, KeywordMatch.isAccepted]
  obtain ⟨s', hrun, hs'⟩ := yields_accept h ht hexact
  refine ⟨s', ?_, hs'⟩
  change (if s.peek.isEndOfInput then _
    else if Keyword.accepts score s.peek keyword then _ else _ :
    Production Unit) s = _
  rw [State.peek_eq h, hend, haccepts]
  exact hrun

theorem choose?_of_exact (hmem : keyword ∈ keywords)
    (hexact : Keyword.compare score t.lexeme keyword = .exact) :
    ∃ chosen, choose? score t keywords = some chosen ∧
      Keyword.compare score t.lexeme chosen = .exact := by
  cases hfind : keywords.find? fun k => (Keyword.compare score t.lexeme k).isExact with
  | none =>
    have hnone := List.find?_eq_none.1 hfind keyword hmem
    simp [hexact, KeywordMatch.isExact] at hnone
  | some chosen =>
    refine ⟨chosen, by simp [choose?, hfind], ?_⟩
    have hchosen := List.find?_some hfind
    cases hcompare : Keyword.compare score t.lexeme chosen with
    | exact => rfl
    | similar score' => simp [hcompare, KeywordMatch.isExact] at hchosen
    | mismatch => simp [hcompare, KeywordMatch.isExact] at hchosen

theorem yields_expectOneOf (h : s.unread = t :: rest) (ht : t.isTrivia = false)
    (hend : t.isEndOfInput = false) (hmem : keyword ∈ keywords)
    (hexact : Keyword.compare score t.lexeme keyword = .exact) :
    Yields (expectOneOf score keywords) s () [.token t] rest := by
  obtain ⟨chosen, hchoice, hchosen⟩ := choose?_of_exact hmem hexact
  obtain ⟨s', hrun, hs'⟩ := yields_accept h ht hchosen
  refine ⟨s', ?_, hs'⟩
  change (if s.peek.isEndOfInput then _ else
    acceptChosen score s.peek keywords (choose? score s.peek keywords) : Production Unit) s = _
  rw [State.peek_eq h, hend, hchoice]
  exact hrun

theorem yields_allow (h : s.unread = t :: rest) (ht : t.isTrivia = false)
    (hend : t.isEndOfInput = false) (hexact : Keyword.compare score t.lexeme keyword = .exact) :
    Yields (allow score keyword) s () [.token t] rest := by
  have haccepts : Keyword.accepts score t keyword = true := by
    simp [Keyword.accepts, hexact, KeywordMatch.isAccepted]
  obtain ⟨s', hrun, hs'⟩ := yields_accept h ht hexact
  refine ⟨s', ?_, hs'⟩
  change (if !s.peek.isEndOfInput && Keyword.accepts score s.peek keyword then _ else _ :
    Production Unit) s = _
  rw [State.peek_eq h, hend, haccepts]
  exact hrun

theorem yields_allow_of_not_accepts (h : s.unread = t :: rest)
    (hreject : Keyword.accepts score t keyword = false) :
    Yields (allow score keyword) s () [] (t :: rest) := by
  refine ⟨s, ?_, .refl s, h⟩
  change (if !s.peek.isEndOfInput && Keyword.accepts score s.peek keyword then _ else _ :
    Production Unit) s = _
  rw [State.peek_eq h, hreject, Bool.and_false]
  rfl

theorem sees_of_not_accepts (h : s.unread = t :: rest)
    (hreject : ∀ k ∈ keywords, Keyword.accepts score t k = false) :
    Yields (sees score keywords) s false [] (t :: rest) := by
  refine ⟨s, ?_, .refl s, h⟩
  change EStateM.Result.ok
    (!s.peek.isEndOfInput && keywords.any (Keyword.accepts score s.peek)) s = _
  rw [State.peek_eq h, List.any_eq_false.2 fun k hk => by simp [hreject k hk], Bool.and_false]

theorem yields_qualification_of_not_accepts (h : s.unread = t :: rest)
    (hreject : ∀ k ∈ "IS" :: qualifiers, Keyword.accepts score t k = false) :
    Yields (qualification score) s () [] (t :: rest) := by
  refine .silent (sees_of_not_accepts h fun k hk => hreject k ?_) fun s' hs' => ?_
  · rw [List.mem_singleton.1 hk]
    exact List.mem_cons_self
  · refine .silent (sees_of_not_accepts hs' fun k hk => hreject k ?_) fun s'' hs'' => ?_
    · exact List.mem_cons_of_mem _ hk
    · exact .pure () hs''

theorem yields_programName (h : s.unread = t :: rest) (hword : t.isWord) :
    Yields programName s t [.token t] rest := by
  have hkind : t.kind = .word := eq_of_beq hword
  have hend : t.isEndOfInput = false := by simp [Token.isEndOfInput, hkind]
  have hterminator : t.isTerminator = false := by simp [Token.isTerminator, hkind]
  have hshift := Adds.shift s 1
  have hsignificant : significantTokens (s.unread.take 1) = [t] := by
    rw [h]
    exact significantTokens_cons_of_significant (by simp [Token.isTrivia, hkind]) []
  rw [hsignificant] at hshift
  refine ⟨s.shift 1, ?_, hshift, by simp [h]⟩
  have hrun : programName s = (if s.peek.isEndOfInput then
      fail (.unexpectedEndOfInput "program name" s.peek.range)
    else if s.peek.isTerminator then
      fail (.unexpectedToken s.peek.lexeme "program name" s.peek.range)
    else do
      modify (·.shift 1)
      return s.peek) s := rfl
  rw [hrun, State.peek_eq h, hend, hterminator]
  rfl

end Production

end CobolCompanion
