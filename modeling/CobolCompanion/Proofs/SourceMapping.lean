import CobolCompanion.Proofs.Locations
import CobolCompanion.Proofs.TreeNodes
import Mathlib.Data.List.Infix

namespace CobolCompanion

open Parse

namespace Position

variable {p q r : Position}

theorem lt_of_lt_of_le (h : p < q) (h' : q ≤ r) : p < r := by
  rw [lt_def] at h ⊢
  rw [le_def] at h'
  omega

theorem lt_of_le_of_lt (h : p ≤ q) (h' : q < r) : p < r := by
  rw [le_def] at h
  rw [lt_def] at h' ⊢
  omega

theorem le_of_lt (h : p < q) : p ≤ q := by
  rw [lt_def] at h
  rw [le_def]
  omega

theorem not_lt_of_lt (h : p < q) : ¬ q < p := by
  rw [lt_def] at h ⊢
  omega

end Position

/-- Line feeds stand only in line breaks, and a line break is as short as it can be. -/
def BreaksLine (kind : TokenKind) (lexeme : List Char) : Prop :=
  kind = .newLine ∧ lexeme ∈ [['\n'], ['\r'], ['\r', '\n']] ∨ kind ≠ .newLine ∧ '\n' ∉ lexeme

namespace Cut

theorem breaksLine_run {kind : TokenKind} {test : Char → Bool} {c : Char} (text : List Char)
    (hkind : kind ≠ .newLine) (hc : c ≠ '\n') (htest : test '\n' = false) :
    BreaksLine (run kind test c text).kind (run kind test c text).lexeme := by
  refine .inr ⟨hkind, ?_⟩
  intro hmem
  rcases List.mem_cons.1 hmem with h | h
  · exact hc h.symm
  · have hpart := List.all_eq_true.1 List.all_takeWhile _ h
    rw [htest] at hpart
    cases hpart

theorem breaksLine_lineBreak {c : Char} (text : List Char) (hc : isLineBreak c) :
    BreaksLine (lineBreak c text).kind (lineBreak c text).lexeme := by
  have hchar : c = '\r' ∨ c = '\n' := by simpa [isLineBreak] using hc
  unfold lineBreak
  split
  · split
    · exact .inl ⟨rfl, by simp⟩
    · exact .inl ⟨rfl, by rcases hchar with rfl | rfl <;> simp⟩
  · exact .inl ⟨rfl, by rcases hchar with rfl | rfl <;> simp⟩

theorem breaksLine_literal {quote : Char} (text : List Char) (hquote : isQuote quote) :
    BreaksLine (literal quote text).kind (literal quote text).lexeme := by
  have hline : quote ≠ '\n' := by
    rintro rfl
    cases hquote
  have hinside : '\n' ∉ text.takeWhile (isInsideLiteral quote) := by
    intro h
    have hpart := List.all_eq_true.1 List.all_takeWhile _ h
    simp [isInsideLiteral, isLineBreak] at hpart
  have hsplit := List.takeWhile_append_dropWhile (p := isInsideLiteral quote) (l := text)
  unfold literal
  split
  · next hnone =>
    rw [hnone, List.append_nil] at hsplit
    rw [hsplit] at hinside
    exact .inr ⟨by simp, by simp [hinside, hline.symm]⟩
  · dsimp only
    split
    · next hc => exact .inr ⟨by simp, by simp [hinside, hc, hline.symm]⟩
    · exact .inr ⟨by simp, by simp [hinside, hline.symm]⟩

theorem breaksLine_first (c : Char) (text : List Char) :
    BreaksLine (first c text).kind (first c text).lexeme := by
  unfold first
  split
  · next hspacing =>
    exact breaksLine_run text (by simp) (by rintro rfl; cases hspacing) rfl
  split
  · next hbreak => exact breaksLine_lineBreak text hbreak
  next hbreak =>
  have hc : c ≠ '\n' := by
    rintro rfl
    exact hbreak rfl
  split
  · exact breaksLine_run text (by simp) hc rfl
  split
  · next hquote => exact breaksLine_literal text hquote
  split
  · exact breaksLine_run text (by simp) hc rfl
  · exact .inr ⟨by simp, by simpa using hc.symm⟩

end Cut

def spelling (tokens : List Token) : List Char :=
  tokens.flatMap (·.lexeme.toList)

@[simp] theorem spelling_nil : spelling [] = [] := rfl

@[simp] theorem spelling_cons (t : Token) (tokens : List Token) :
    spelling (t :: tokens) = t.lexeme.toList ++ spelling tokens := rfl

@[simp] theorem spelling_append (tokens more : List Token) :
    spelling (tokens ++ more) = spelling tokens ++ spelling more := List.flatMap_append

theorem toList_lexemes (tokens : List Token) : (lexemes tokens).toList = spelling tokens := by
  simp [lexemes, spelling, List.flatMap_map]

/-- A token lies at a place of a text. -/
structure Token.LiesAt (t : Token) (p : Place) : Prop where
  position : t.position = p.position
  span : t.span = ⟨p.offset, (p.after t.lexeme.toList).offset⟩
  nonempty : t.lexeme.toList ≠ []
  breaksLine : BreaksLine t.kind t.lexeme.toList

namespace Token.LiesAt

variable {t : Token} {p : Place}

theorem width_eq (h : t.LiesAt p) (hline : '\n' ∉ t.lexeme.toList) :
    t.width = t.lexeme.toList.length := by
  rw [Token.width]
  rcases h.breaksLine with ⟨hkind, hlexeme⟩ | ⟨hkind, -⟩
  · have hreturn : t.lexeme.toList = ['\r'] := by
      simp only [List.mem_cons, List.not_mem_nil, or_false] at hlexeme
      rcases hlexeme with hlexeme | hlexeme | hlexeme
      · simp [hlexeme] at hline
      · exact hlexeme
      · simp [hlexeme] at hline
    rw [if_pos hkind, hreturn]
    rfl
  · rw [if_neg hkind, String.length_toList]

theorem newLine_of_mem (h : t.LiesAt p) (hline : '\n' ∈ t.lexeme.toList) :
    t.kind = .newLine := by
  rcases h.breaksLine with ⟨hkind, -⟩ | ⟨-, hnone⟩
  · exact hkind
  · exact absurd hline hnone

theorem width_pos (h : t.LiesAt p) : 0 < t.width := by
  by_cases hline : '\n' ∈ t.lexeme.toList
  · rw [Token.width, if_pos (h.newLine_of_mem hline)]
    exact Nat.one_pos
  · rw [h.width_eq hline]
    exact List.length_pos_iff.2 h.nonempty

theorem stop_eq (h : t.LiesAt p) (hline : '\n' ∉ t.lexeme.toList) :
    t.range.stop = (p.after t.lexeme.toList).position := by
  rw [Place.position_after_line p hline, ← h.width_eq hline, ← h.position]
  rfl

theorem line_lt (h : t.LiesAt p) (hline : '\n' ∈ t.lexeme.toList) :
    p.position.line < (p.after t.lexeme.toList).position.line := by
  rcases h.breaksLine with ⟨-, hlexeme⟩ | ⟨-, hnone⟩
  · simp only [List.mem_cons, List.not_mem_nil, or_false] at hlexeme
    rcases hlexeme with hlexeme | hlexeme | hlexeme
    · simp [hlexeme, Place.next]
    · simp [hlexeme] at hline
    · simp [hlexeme, Place.next]
  · exact absurd hline hnone

theorem stop_le (h : t.LiesAt p) : t.range.stop ≤ (p.after t.lexeme.toList).position := by
  by_cases hline : '\n' ∈ t.lexeme.toList
  · have hlt := h.line_lt hline
    rw [← h.position] at hlt
    exact .inl hlt
  · rw [h.stop_eq hline]
    exact .inr ⟨rfl, Nat.le_refl _⟩

theorem start_lt_stop (h : t.LiesAt p) : p.position < t.range.stop := by
  have hwidth := h.width_pos
  rw [← h.position]
  exact .inr ⟨rfl, by simp only [Token.range]; omega⟩

theorem position_lt (h : t.LiesAt p) : p.position < (p.after t.lexeme.toList).position :=
  Position.lt_of_lt_of_le h.start_lt_stop h.stop_le

end Token.LiesAt

/-- Tokens lie one directly behind the other, the first of them at a given place. -/
def Laid (p : Place) : List Token → Prop
  | [] => True
  | t :: tokens => t.LiesAt p ∧ Laid (p.after t.lexeme.toList) tokens

theorem laid_append {p : Place} {tokens more : List Token} :
    Laid p (tokens ++ more) ↔ Laid p tokens ∧ Laid (p.after (spelling tokens)) more := by
  induction tokens generalizing p with
  | nil => simp [Laid, spelling]
  | cons t tokens ih => simp [Laid, ih, Place.after_append, and_assoc]

/-- A scan lays the tokens of a text out. -/
theorem laid_scanFrom (place : Place) (text : List Char) :
    Laid place (scanFrom place text) := by
  fun_induction scanFrom place text with
  | case1 => trivial
  | case2 place c text cut after ih =>
    have hlexeme : (String.ofList cut.lexeme).toList = cut.lexeme := String.toList_ofList
    rw [Laid, hlexeme]
    refine ⟨⟨rfl, ?_, ?_, ?_⟩, ih⟩
    · rw [hlexeme]
    · rw [hlexeme]
      exact (Cut.first_splits c text).lexeme_ne_nil
    · rw [hlexeme]
      exact Cut.breaksLine_first c text

/--
The least range around two that follow each other starts with the one and stops with the other.
-/
theorem Range.join_of_lt {r s : Range} (hstart : r.start < s.start) (hstop : r.stop < s.stop) :
    r.join s = ⟨⟨r.span.start, s.span.stop⟩, r.start, s.stop⟩ := by
  have hother : s.start ≠ r.start := by
    intro heq
    rw [heq] at hstart
    exact Position.not_lt_of_lt hstart hstart
  simp only [Range.join, if_neg (Position.not_lt_of_lt hstart), if_neg hother, if_pos hstop]

namespace Laid

variable {p : Place} {tokens : List Token}

theorem foldl_join {r : Range} (h : Laid p tokens) (hspan : r.span.stop = p.offset)
    (hstart : r.start < p.position) (hstop : r.stop ≤ p.position) :
    (tokens.map Token.range).foldl Range.join r =
      ⟨⟨r.span.start, (p.after (spelling tokens)).offset⟩, r.start,
        (tokens.getLast?.map (·.range.stop)).getD r.stop⟩ := by
  induction tokens generalizing p r with
  | nil => exact congrArg (fun stop => Range.mk ⟨r.span.start, stop⟩ r.start r.stop) hspan
  | cons t tokens ih =>
    obtain ⟨ht, htokens⟩ := h
    have hjoin : r.join t.range = ⟨⟨r.span.start, t.span.stop⟩, r.start, t.range.stop⟩ := by
      apply Range.join_of_lt
      · rw [Token.range, ht.position]
        exact hstart
      · exact Position.lt_of_le_of_lt hstop ht.start_lt_stop
    have hnext : r.start < (p.after t.lexeme.toList).position :=
      Position.lt_of_lt_of_le hstart (Position.le_of_lt ht.position_lt)
    have hrest := ih (r := ⟨⟨r.span.start, t.span.stop⟩, r.start, t.range.stop⟩) htokens
      (congrArg Span.stop ht.span) hnext ht.stop_le
    rw [List.map_cons, List.foldl_cons, hjoin, hrest, spelling_cons, Place.after_append,
      List.getLast?_cons, Option.map_some, Option.getD_some, Option.getD_map]

/-- The least range around tokens that are laid out goes from the first to the last of them. -/
theorem boundingBox {last : Token} (h : Laid p tokens) (hlast : last ∈ tokens.getLast?) :
    Range.boundingBox (tokens.map Token.range) =
      some ⟨⟨p.offset, (p.after (spelling tokens)).offset⟩, p.position, last.range.stop⟩ := by
  cases tokens with
  | nil => cases hlast
  | cons t tokens =>
    obtain ⟨ht, htokens⟩ := h
    have hstart : t.range.start < (p.after t.lexeme.toList).position := by
      rw [Token.range, ht.position]
      exact ht.position_lt
    have hfold := htokens.foldl_join (congrArg Span.stop ht.span) hstart ht.stop_le
    rw [List.getLast?_cons, Option.mem_some_iff] at hlast
    rw [List.map_cons, Range.boundingBox, hfold, ← hlast, Option.getD_map, spelling_cons,
      Place.after_append, Token.range, ht.span, ht.position]

theorem stop_of_last {last : Token} (h : Laid p tokens) (hlast : last ∈ tokens.getLast?) :
    last.span.stop = (p.after (spelling tokens)).offset := by
  obtain ⟨before, rfl⟩ := List.getLast?_eq_some_iff.1 hlast
  obtain ⟨-, hlies, -⟩ := laid_append.1 h
  rw [hlies.span, spelling_append, Place.after_append]
  simp [spelling]

theorem offset_lt (h : Laid p tokens) (hne : tokens ≠ []) :
    p.offset < (p.after (spelling tokens)).offset := by
  obtain ⟨t, rest, rfl⟩ := List.exists_cons_of_ne_nil hne
  have hfirst := byteLength_pos h.1.nonempty
  rw [Place.offset_after, spelling_cons, byteLength_append]
  omega

theorem span_of_range? {e : Element} {r : Range} (h : Laid p e.leaves) (hr : r ∈ e.range?) :
    r.span = ⟨p.offset, (p.after (spelling e.leaves)).offset⟩ ∧ r.span.start < r.span.stop := by
  have hne : e.leaves ≠ [] := by
    intro hnil
    rw [Element.range?, hnil] at hr
    cases hr
  have hbox := h.boundingBox (List.getLast_mem_getLast? hne)
  rw [Element.range?, hbox, Option.mem_some_iff] at hr
  rw [← hr]
  exact ⟨rfl, h.offset_lt hne⟩

/-- The ranges of elements that are laid out follow each other. -/
theorem ascending {es : List Element} (h : Laid p (Element.leavesAll es)) :
    (es.filterMap Element.range?).Pairwise (fun r s => r.span.stop ≤ s.span.start) ∧
      ∀ r ∈ es.filterMap Element.range?, p.offset ≤ r.span.start ∧ r.span.start < r.span.stop ∧
        r.span.stop ≤ (p.after (spelling (Element.leavesAll es))).offset := by
  induction es generalizing p with
  | nil => simp
  | cons e es ih =>
    rw [Element.leavesAll, laid_append] at h
    obtain ⟨hpairs, hbounds⟩ := ih h.2
    have hoffset := p.offset_after (spelling e.leaves)
    have hall := (p.after (spelling e.leaves)).offset_after (spelling (Element.leavesAll es))
    rw [Element.leavesAll, spelling_append, Place.after_append]
    cases hr : e.range? with
    | none =>
      rw [List.filterMap_cons_none hr]
      refine ⟨hpairs, ?_⟩
      intro s hs
      have hbound := hbounds s hs
      exact ⟨by omega, hbound.2⟩
    | some r =>
      obtain ⟨hspan, hpos⟩ := h.1.span_of_range? hr
      have hstart : r.span.start = p.offset := congrArg Span.start hspan
      have hstop : r.span.stop = (p.after (spelling e.leaves)).offset :=
        congrArg Span.stop hspan
      rw [List.filterMap_cons_some hr, List.pairwise_cons, List.forall_mem_cons]
      refine ⟨⟨?_, hpairs⟩, ⟨by omega, hpos, by omega⟩, ?_⟩
      · intro s hs
        have hbound := hbounds s hs
        omega
      · intro s hs
        have hbound := hbounds s hs
        exact ⟨by omega, hbound.2⟩

end Laid

mutual
theorem Element.leaves_infix_of_mem_nodes {e : Element} {n : Node} (h : n ∈ e.nodes) :
    n.leaves <:+: e.leaves := by
  cases e with
  | token t => simp [nodes] at h
  | node heading children =>
    rw [nodes] at h
    rw [leaves]
    rcases List.mem_cons.1 h with rfl | h
    · exact List.infix_rfl
    · exact leaves_infix_of_mem_nodesAll h

theorem Element.leaves_infix_of_mem_nodesAll {es : List Element} {n : Node}
    (h : n ∈ nodesAll es) :
    n.leaves <:+: leavesAll es := by
  cases es with
  | nil => simp at h
  | cons e es =>
    rw [nodesAll] at h
    rw [leavesAll]
    rcases List.mem_append.1 h with h | h
    · exact (leaves_infix_of_mem_nodes h).trans (List.prefix_append _ _).isInfix
    · exact (leaves_infix_of_mem_nodesAll h).trans (List.suffix_append _ _).isInfix
end

theorem Node.leaves_infix_of_mem_walk {root n : Node} (h : n ∈ root.walk.map Prod.fst) :
    n.leaves <:+: root.leaves := by
  rw [Node.map_fst_walk] at h
  rcases List.mem_cons.1 h with rfl | h
  · exact List.infix_rfl
  · exact Element.leaves_infix_of_mem_nodesAll h

/-- Neighbours among the tokens of a text lie in it as a scan lays them out. -/
theorem exists_laid_of_infix {text : String} {tokens : List Token} (h : tokens <:+: scan text) :
    ∃ before after, text.toList = before ++ (spelling tokens ++ after) ∧
      Laid (Place.start.after before) tokens := by
  obtain ⟨earlier, later, hscan⟩ := h
  have htext : spelling (scan text) = text.toList := flatMap_lexeme_scanFrom .start text.toList
  have hlaid : Laid .start (scan text) := laid_scanFrom .start text.toList
  rw [← hscan] at htext hlaid
  refine ⟨spelling earlier, spelling later, ?_, ?_⟩
  · rw [← htext, spelling_append, spelling_append, List.append_assoc]
  · exact (laid_append.1 (laid_append.1 hlaid).1).2

theorem exists_laid_of_mem_walk {score : Similarity} {text : String} {n : Node}
    (h : n ∈ (parseStream score (.ofText text)).root.walk.map Prod.fst) :
    ∃ before after, text.toList = before ++ (spelling n.leaves ++ after) ∧
      Laid (Place.start.after before) n.leaves := by
  have hinfix := Node.leaves_infix_of_mem_walk h
  rw [leaves_root_ofText] at hinfix
  exact exists_laid_of_infix hinfix

theorem Laid.mapped {before : List Char} {tokens : List Token} {first last : Token}
    (h : Laid (Place.start.after before) tokens) (hfirst : first ∈ tokens.head?)
    (hlast : last ∈ tokens.getLast?) (after : List Char) :
    let text := before ++ (spelling tokens ++ after)
    ∃ r, Range.boundingBox (tokens.map Token.range) = some r ∧
      r.span = ⟨first.span.start, last.span.stop⟩ ∧ r.start = first.range.start ∧
      r.start = (LineMap.ofText text).position r.span.start ∧ r.stop = last.range.stop ∧
      slice? text r.span = some (spelling tokens) := by
  intro text
  obtain ⟨rest, rfl⟩ := List.head?_eq_some_iff.1 hfirst
  refine ⟨_, h.boundingBox hlast, ?_, ?_, ?_, rfl, ?_⟩
  · rw [h.stop_of_last hlast, h.1.span]
  · exact h.1.position.symm
  · exact (LineMap.position_offset before _).symm
  · exact slice?_after before _ after

theorem Token.LiesAt.mapped {before : List Char} {t : Token}
    (h : t.LiesAt (Place.start.after before)) (after : List Char) :
    let text := before ++ (t.lexeme.toList ++ after)
    let map := LineMap.ofText text
    slice? text t.span = some t.lexeme.toList ∧
      t.range =
        if t.kind = .newLine ∧ '\n' ∈ t.lexeme.toList then
          let start := map.position t.span.start
          ⟨t.span, start, ⟨start.line, start.column + 1⟩⟩
        else map.range t.span := by
  intro text map
  have hstart : map.position t.span.start = t.position := by
    rw [h.span, h.position]
    exact LineMap.position_offset before _
  refine ⟨?_, ?_⟩
  · rw [h.span]
    exact slice?_after before _ after
  · by_cases hline : '\n' ∈ t.lexeme.toList
    · have hkind := h.newLine_of_mem hline
      rw [if_pos ⟨hkind, hline⟩, hstart, Token.range, Token.width, if_pos hkind]
    · have hstop : map.position t.span.stop = t.range.stop := by
        have hmap := LineMap.position_offset (before ++ t.lexeme.toList) after
        rw [List.append_assoc, Place.after_append] at hmap
        rw [h.stop_eq hline, h.span]
        exact hmap
      rw [if_neg (fun hbreak => hline hbreak.2), LineMap.range, hstart, hstop]
      rfl

/--
Nodes lie in the text as their leaves do. The range of a node that has leaves goes from the
first of them to the last, and the text between is the text of the node. Siblings follow each
other within their parent. A leaf is the text at its span, and its range is that of the span,
but for a line feed, which stays on its line.
-/
theorem parse_source_mapping (score : Similarity) (text : String) :
    let root := (parseStream score (.ofText text)).root
    let map := LineMap.ofText text.toList
    (∀ n ∈ root.walk.map Prod.fst, ∀ first ∈ n.leaves.head?, ∀ last ∈ n.leaves.getLast?,
      ∃ r, n.range? = some r ∧ r.span = ⟨first.span.start, last.span.stop⟩ ∧
        r.start = first.range.start ∧ r.start = map.position r.span.start ∧
        r.stop = last.range.stop ∧ slice? text.toList r.span = some n.text.toList) ∧
    (∀ n ∈ root.walk.map Prod.fst,
      (n.children.filterMap Element.range?).Pairwise (fun r s => r.span.stop ≤ s.span.start) ∧
        ∀ e ∈ n.children, ∀ r ∈ e.range?,
          r.span.start < r.span.stop ∧ ∃ s, n.range? = some s ∧ r.within s) ∧
    ∀ t ∈ root.leaves, slice? text.toList t.span = some t.lexeme.toList ∧
      t.range =
        if t.kind = .newLine ∧ '\n' ∈ t.lexeme.toList then
          let start := map.position t.span.start
          ⟨t.span, start, ⟨start.line, start.column + 1⟩⟩
        else map.range t.span := by
  intro root map
  have hleaves : root.leaves = scan text := leaves_root_ofText score text
  refine ⟨?_, ?_, ?_⟩
  · intro n hn first hfirst last hlast
    obtain ⟨before, after, htext, hlaid⟩ := exists_laid_of_mem_walk hn
    have hmapped := hlaid.mapped hfirst hlast after
    rw [← htext] at hmapped
    rw [Node.text, toList_lexemes]
    exact hmapped
  · intro n hn
    obtain ⟨before, after, -, hlaid⟩ := exists_laid_of_mem_walk hn
    obtain ⟨hpairs, hbounds⟩ := hlaid.ascending
    refine ⟨hpairs, ?_⟩
    intro e he r hr
    obtain ⟨hstart, hpos, hstop⟩ := hbounds r (List.mem_filterMap.2 ⟨e, he, hr⟩)
    have hne : n.leaves ≠ [] := by
      intro hnil
      change r.span.stop ≤
        ((Place.start.after before).after (spelling n.leaves)).offset at hstop
      rw [hnil, spelling_nil, Place.after_nil] at hstop
      omega
    refine ⟨hpos, _, hlaid.boundingBox (List.getLast_mem_getLast? hne), ?_⟩
    rw [Range.within, Bool.and_eq_true]
    exact ⟨decide_eq_true hstart, decide_eq_true hstop⟩
  · intro t ht
    rw [hleaves] at ht
    obtain ⟨before, after, htext, hlaid⟩ :=
      exists_laid_of_infix ((List.singleton_infix_iff t _).2 ht)
    rw [spelling_cons, spelling_nil, List.append_nil] at htext
    have hmapped := hlaid.1.mapped after
    rw [← htext] at hmapped
    exact hmapped

end CobolCompanion
