import CobolCompanion.Proofs.OutlineRanges
import CobolCompanion.Text.Pieces
import CobolCompanion.Tree.Dump
import Mathlib.Data.List.Forall2

namespace CobolCompanion

def NodeKind.ofSign? : Char → Option NodeKind
  | '⧉' => some .sourceUnit
  | '▣' => some .programUnit
  | 'Ⓘ' => some .identificationDivision
  | 'Ⓔ' => some .environmentDivision
  | 'Ⓓ' => some .dataDivision
  | 'Ⓟ' => some .procedureDivision
  | '∅' => some .skipped
  | '✱' => some .custom
  | _ => none

/--
What a line of a drawing tells: the kind is that of the first sign, and the depth is the number
of pairs of characters before it.
-/
def readLine? (line : List Char) : Option (NodeKind × Nat) :=
  (line.findSome? NodeKind.ofSign?).map fun kind =>
    (kind, (line.takeWhile fun c => (NodeKind.ofSign? c).isNone).length / 2)

theorem NodeKind.exists_sign (kind : NodeKind) :
    ∃ c, kind.icon.toList = [c] ∧ ofSign? c = some kind := by
  cases kind <;> exact ⟨_, rfl, rfl⟩

/-- The characters that stand before the sign on a line. -/
def leadCharacters : List Char := ['│', '├', '└', '─', ' ']

theorem ofSign?_of_mem_leadCharacters {c : Char} (h : c ∈ leadCharacters) :
    NodeKind.ofSign? c = none := by
  simp only [leadCharacters, List.mem_cons, List.not_mem_nil, or_false] at h
  rcases h with rfl | rfl | rfl | rfl | rfl <;> rfl

/--
A line draws a node at a depth: what stands before the title is as wide as the node is deep.
-/
def Draws (line : String) (w : Node × Nat) : Prop :=
  ∃ lead, line.toList = lead ++ w.1.title.toList ∧ lead.length / 2 = w.2 ∧ lead ⊆ leadCharacters

/-- What is drawn before the lines of the children of a node. -/
structure Indents (indent : String) (depth : Nat) : Prop where
  length : indent.toList.length = 2 * depth
  subset : indent.toList ⊆ leadCharacters

theorem Indents.deeper {indent : String} {depth : Nat} (h : Indents indent depth)
    (last : Bool) :
    Indents (indent ++ if last then "  " else "│ ") (depth + 1) := by
  have hpair : ∀ pair : String, pair.toList.length = 2 → pair.toList ⊆ leadCharacters →
      Indents (indent ++ pair) (depth + 1) := by
    intro pair hlength hsubset
    refine ⟨?_, ?_⟩
    · rw [String.toList_append, List.length_append, h.length, hlength, Nat.mul_succ]
    · rw [String.toList_append]
      exact List.append_subset.2 ⟨h.subset, hsubset⟩
  cases last with
  | true => exact hpair "  " rfl (by decide)
  | false => exact hpair "│ " rfl (by decide)

theorem Indents.draws {indent : String} {depth : Nat} (h : Indents indent depth)
    (last : Bool) (n : Node) :
    Draws ("" ++ indent ++ (if last then "└─" else "├─") ++ " " ++ n.title) (n, depth + 1) := by
  have hcorner : ∀ corner : String, corner.toList.length = 2 → corner.toList ⊆ leadCharacters →
      Draws ("" ++ indent ++ corner ++ " " ++ n.title) (n, depth + 1) := by
    intro corner hlength hsubset
    refine ⟨indent.toList ++ corner.toList ++ [' '], by simp, ?_, ?_⟩
    · simp only [List.length_append, h.length, hlength, List.length_singleton]
      omega
    · exact List.append_subset.2 ⟨List.append_subset.2 ⟨h.subset, hsubset⟩, by decide⟩
  cases last with
  | true => exact hcorner "└─" rfl (by decide)
  | false => exact hcorner "├─" rfl (by decide)

namespace Element

mutual
theorem draws_dumpLines {indent : String} {depth : Nat} (h : Indents indent depth) (last : Bool)
    (e : Element) :
    List.Forall₂ Draws (dumpLines false indent last e) (walk (depth + 1) e) := by
  cases e with
  | token t =>
    simp only [dumpLines, walk]
    exact .nil
  | node heading children =>
    simp only [dumpLines, walk]
    exact .cons (h.draws last _) (draws_dumpLinesAll (h.deeper last) children)

theorem draws_dumpLinesAll {indent : String} {depth : Nat} (h : Indents indent depth)
    (es : List Element) :
    List.Forall₂ Draws (dumpLinesAll false indent es) (walkAll (depth + 1) es) := by
  cases es with
  | nil =>
    simp only [dumpLinesAll, walkAll]
    exact .nil
  | cons e es =>
    simp only [dumpLinesAll, walkAll]
    exact List.rel_append (draws_dumpLines h _ e) (draws_dumpLinesAll h es)
end

end Element

theorem Node.draws_dumpLines (n : Node) : List.Forall₂ Draws (n.dumpLines false) n.walk :=
  .cons ⟨[], rfl, rfl, List.nil_subset _⟩
    (Element.draws_dumpLinesAll ⟨rfl, List.nil_subset _⟩ n.children)

/-- Whatever stands in the title, the line tells the kind and the depth of the node. -/
theorem Draws.readLine?_eq {line : String} {w : Node × Nat} (h : Draws line w) :
    readLine? line.toList = some (w.1.kind, w.2) := by
  obtain ⟨lead, hline, hdepth, hlead⟩ := h
  obtain ⟨c, hicon, hsign⟩ := w.1.kind.exists_sign
  have hnone : ∀ d ∈ lead, NodeKind.ofSign? d = none :=
    fun d hd => ofSign?_of_mem_leadCharacters (hlead hd)
  have htitle : w.1.title.toList = c :: (' ' :: w.1.label.toList) := by
    simp [Node.title, hicon]
  rw [readLine?, hline, htitle, List.findSome?_append, List.findSome?_eq_none_iff.2 hnone,
    List.takeWhile_append_of_pos fun d hd => by rw [hnone d hd, Option.isNone_none]]
  simp [hsign, hdepth]

theorem pieces_flatMap {mark : Char} {lines : List (List Char)}
    (h : ∀ line ∈ lines, mark ∉ line) :
    pieces mark (lines.flatMap (· ++ [mark])) = lines ++ [[]] := by
  have hpiece : ∀ (line rest : List Char), mark ∉ line →
      pieces mark (line ++ mark :: rest) = line :: pieces mark rest := by
    intro line rest hline
    induction line with
    | nil => rw [List.nil_append, pieces, if_pos rfl]
    | cons c line ih =>
      rw [List.mem_cons, not_or] at hline
      rw [List.cons_append, pieces, if_neg (Ne.symm hline.1), ih hline.2]
  induction lines with
  | nil => rfl
  | cons line lines ih =>
    rw [List.forall_mem_cons] at h
    rw [List.flatMap_cons, List.append_assoc, List.singleton_append, hpiece _ _ h.1, ih h.2,
      List.cons_append]

theorem Node.toList_dump (n : Node) :
    n.dump.toList = ((n.dumpLines false).map String.toList).flatMap (· ++ ['\n']) := by
  simp [Node.dump, List.flatMap_map]

theorem ellipsis_subset {limit : Nat} {text : String} {c : Char}
    (h : c ∈ (ellipsis limit text).toList) :
    c ∈ text.toList ∨ c = '.' := by
  unfold ellipsis at h
  split at h
  · rw [String.toList_append, String.toList_ofList, List.mem_append] at h
    rcases h with h | h
    · exact .inl (List.mem_of_mem_take h)
    · exact .inr (by simpa using h)
  · exact .inl h

theorem isBlank_of_mem_blankSeparated (text : List Char) :
    ∀ word ∈ blankSeparated text, ∀ c ∈ word, isBlank c = false := by
  fun_induction blankSeparated text with
  | case1 => simp
  | case2 c hblank => simp
  | case3 c hblank => simpa using hblank
  | case4 c d text hblank ih => exact ih
  | case5 c d text hblank hnext ih => simpa using ⟨by simpa using hblank, ih⟩
  | case6 c d text hblank hnext hnone ih => simpa using hblank
  | case7 c d text hblank hnext word words hwords ih =>
    rw [hwords] at ih
    simp only [List.forall_mem_cons] at ih ⊢
    exact ⟨⟨by simpa using hblank, ih.1⟩, ih.2⟩

theorem mem_intercalate {sep : List Char} {words : List (List Char)} {c : Char}
    (h : c ∈ sep.intercalate words) : c ∈ sep ∨ ∃ word ∈ words, c ∈ word := by
  induction words with
  | nil => simp at h
  | cons word words ih =>
    cases words with
    | nil => exact .inr ⟨word, List.mem_singleton_self word, by simpa using h⟩
    | cons next words =>
      rw [List.intercalate_cons_cons, List.mem_append, List.mem_append] at h
      rcases h with (h | h) | h
      · exact .inr ⟨word, List.mem_cons_self, h⟩
      · exact .inl h
      · exact (ih h).imp_right fun ⟨found, hfound, hc⟩ =>
          ⟨found, List.mem_cons_of_mem _ hfound, hc⟩

theorem lineFeed_notMem_squeezeBlanks (text : String) : '\n' ∉ (squeezeBlanks text).toList := by
  intro h
  rw [squeezeBlanks, String.toList_intercalate] at h
  rcases mem_intercalate h with h | ⟨word, hword, h⟩
  · simp at h
  · have hblank : isBlank '\n' = false :=
      isBlank_of_mem_blankSeparated text.toList word (by simpa using hword) _ h
    exact absurd hblank (by decide)

theorem Parse.lineFeed_notMem_programNameOf {t : Token} (h : '\n' ∉ t.lexeme.toList) :
    '\n' ∉ (programNameOf t).toList := by
  intro hmem
  rw [programNameOf, String.toList_ofList, List.mem_reverse] at hmem
  have hquoteless := List.mem_reverse.1 ((List.dropWhile_sublist _).subset hmem)
  exact h ((List.dropWhile_sublist _).subset hquoteless)

theorem Node.lineFeed_notMem_title {n : Node} (h : '\n' ∉ n.detail.toList) :
    '\n' ∉ n.title.toList := by
  have hkind : '\n' ∉ n.kind.render.toList := by cases n.kind <;> decide
  have hlabel : '\n' ∉ n.label.toList := by
    intro hmem
    rcases ellipsis_subset hmem with hmem | hdot
    · split at hmem
      · exact hkind hmem
      · simp [hkind, h] at hmem
    · cases hdot
  obtain ⟨c, hicon, hsign⟩ := n.kind.exists_sign
  have hc : '\n' ≠ c := by
    rintro rfl
    cases hsign
  simp [Node.title, hicon, hc, hlabel]

theorem lineFeed_notMem_of_draws {lines : List String} {walk : List (Node × Nat)}
    (h : List.Forall₂ Draws lines walk) (htitles : ∀ w ∈ walk, '\n' ∉ w.1.title.toList) :
    ∀ line ∈ lines, '\n' ∉ line.toList := by
  induction h with
  | nil => simp
  | cons hdraws _ ih =>
    rw [List.forall_mem_cons] at htitles ⊢
    obtain ⟨lead, hline, -, hlead⟩ := hdraws
    refine ⟨?_, ih htitles.2⟩
    rw [hline, List.mem_append, not_or]
    exact ⟨fun h => absurd (hlead h) (by decide), htitles.1⟩

theorem lineFeed_notMem_detail {score : Similarity} {text : String} {n : Node}
    (hn : n ∈ (parseStream score (.ofText text)).root.walk.map Prod.fst) :
    '\n' ∉ n.detail.toList := by
  have hshape := sourceShape_root_ofText score text
  have hinfix : n.leaves <:+: scan text :=
    leaves_root_ofText score text ▸ Node.leaves_infix_of_mem_walk hn
  rw [Node.map_fst_walk] at hn
  unfold Node.detail
  split
  · next hkind =>
    have hbelow : n ∈ Element.nodesAll (parseStream score (.ofText text)).root.children := by
      rcases List.mem_cons.1 hn with rfl | hn
      · rw [hshape.kind] at hkind
        cases hkind
      · exact hn
    have hprogram := mem_programs_ofText.2 ⟨hbelow, hkind⟩
    obtain ⟨i, d, hopening⟩ := Parse.exists_opening_of_mem_programs hprogram
    rw [hopening.named]
    have hname : d.name ∈ scan text :=
      hinfix.subset (hopening.tokens_prefix.subset (by simp [Identification.tokens]))
    obtain ⟨_, _, -, hlaid⟩ := exists_laid_of_infix ((List.singleton_infix_iff _ _).2 hname)
    rcases hlaid.1.breaksLine with ⟨hnewLine, -⟩ | ⟨-, hline⟩
    · exact absurd hopening.accepted.name.1 (by simp [Token.isTrivia, hnewLine])
    · exact Parse.lineFeed_notMem_programNameOf hline
  · next hkind =>
    rcases List.mem_cons.1 hn with rfl | hn
    · rw [hshape.kind] at hkind
      cases hkind
    · exact absurd hkind (hshape.proper n hn).known.2
  · exact lineFeed_notMem_squeezeBlanks n.text
  · simp

theorem span_append_of_head {α : Type} {p : α → Bool} {as bs : List α} (has : ∀ a ∈ as, p a)
    (hbs : ∀ b ∈ bs.head?, p b = false) :
    (as ++ bs).takeWhile p = as ∧ (as ++ bs).dropWhile p = bs := by
  rw [List.takeWhile_append_of_pos has, List.dropWhile_append_of_pos has]
  cases bs with
  | nil => simp
  | cons b bs => simp [hbs b rfl]

namespace Element

mutual
/-- The nodes of an element, nested as they are there, with their kinds only. -/
def skeleton : Element → List Element
  | token _ => []
  | node heading children => [.node { kind := heading.kind } (skeletonAll children)]

/-- The nodes of a list of elements, nested as they are there, with their kinds only. -/
def skeletonAll : List Element → List Element
  | [] => []
  | e :: es => skeleton e ++ skeletonAll es
end

end Element

def outlineOf (walk : List (Node × Nat)) : List (NodeKind × Nat) :=
  walk.map fun (n, depth) => (n.kind, depth)

/--
The nodes of an outline, nested by their depths: what is deeper than the first belongs to it.
-/
def nest : List (NodeKind × Nat) → List Element
  | [] => []
  | (kind, depth) :: rest =>
    .node { kind } (nest (rest.takeWhile (depth < ·.2))) :: nest (rest.dropWhile (depth < ·.2))
termination_by outline => outline.length
decreasing_by
  · exact Nat.lt_succ_of_le (List.takeWhile_sublist _).length_le
  · exact Nat.lt_succ_of_le (List.dropWhile_sublist _).length_le

namespace Element

mutual
theorem le_of_mem_walk {depth : Nat} {e : Element} {w : Node × Nat} (h : w ∈ walk depth e) :
    depth ≤ w.2 := by
  cases e with
  | token t => simp [walk] at h
  | node heading children =>
    rw [walk] at h
    rcases List.mem_cons.1 h with rfl | h
    · exact Nat.le_refl depth
    · exact Nat.le_of_succ_le (le_of_mem_walkAll h)

theorem le_of_mem_walkAll {depth : Nat} {es : List Element} {w : Node × Nat}
    (h : w ∈ walkAll depth es) : depth ≤ w.2 := by
  cases es with
  | nil => simp [walkAll] at h
  | cons e es =>
    rw [walkAll] at h
    rcases List.mem_append.1 h with h | h
    · exact le_of_mem_walk h
    · exact le_of_mem_walkAll h
end

theorem head?_walkAll {depth : Nat} {es : List Element} {w : Node × Nat}
    (h : w ∈ (walkAll depth es).head?) : w.2 = depth := by
  induction es with
  | nil => simp [walkAll] at h
  | cons e es ih =>
    cases e with
    | token t => exact ih (by simpa [walkAll, walk] using h)
    | node heading children =>
      simp only [walkAll, walk, List.cons_append, List.head?_cons, Option.mem_some_iff] at h
      rw [← h]

/-- The nesting of some elements is fixed by the kinds and depths of their nodes. -/
theorem nest_outlineOf_walkAll (depth : Nat) (es : List Element) :
    nest (outlineOf (walkAll depth es)) = skeletonAll es := by
  cases es with
  | nil => simp [walkAll, outlineOf, nest, skeletonAll]
  | cons e es =>
    cases e with
    | token t => simpa [walkAll, walk, skeletonAll, skeleton]
      using nest_outlineOf_walkAll depth es
    | node heading children =>
      -- what lies below the node is deeper than it, and what follows beside it is not
      have hbelow : ∀ w ∈ outlineOf (walkAll (depth + 1) children), decide (depth < w.2) := by
        simp only [outlineOf, List.forall_mem_map, decide_eq_true_eq]
        exact fun w hw => le_of_mem_walkAll hw
      have hbeside : ∀ w ∈ (outlineOf (walkAll depth es)).head?,
          decide (depth < w.2) = false := by
        intro w hw
        rw [outlineOf, List.head?_map] at hw
        obtain ⟨v, hv, rfl⟩ := Option.map_eq_some_iff.1 hw
        simpa using (head?_walkAll hv).le
      obtain ⟨htake, hdrop⟩ := span_append_of_head hbelow hbeside
      have hwalk : outlineOf (walkAll depth (.node heading children :: es)) =
          (heading.kind, depth) ::
            (outlineOf (walkAll (depth + 1) children) ++ outlineOf (walkAll depth es)) := by
        simp [walkAll, walk, outlineOf]
      rw [hwalk, nest, htake, hdrop, nest_outlineOf_walkAll (depth + 1) children,
        nest_outlineOf_walkAll depth es]
      simp [skeletonAll, skeleton]

end Element

theorem Node.nest_outlineOf_walk (n : Node) :
    nest (outlineOf n.walk) = n.toElement.skeleton := by
  have hwalk : n.walk = Element.walkAll 0 [n.toElement] := by
    simp [Node.walk, Node.toElement, Element.walkAll, Element.walk]
  rw [hwalk, Element.nest_outlineOf_walkAll, Element.skeletonAll, Element.skeletonAll,
    List.append_nil]

theorem exists_lines_dump (score : Similarity) (text : String) :
    let root := (parseStream score (.ofText text)).root
    ∃ lines : List (List Char), root.dump.toList = lines.flatMap (· ++ ['\n']) ∧
      (∀ line ∈ lines, '\n' ∉ line) ∧ lines.map readLine? = (outlineOf root.walk).map some := by
  intro root
  have hdraws := root.draws_dumpLines
  refine ⟨(root.dumpLines false).map String.toList, root.toList_dump, ?_, ?_⟩
  · rw [List.forall_mem_map]
    refine lineFeed_notMem_of_draws hdraws fun w hw => ?_
    exact Node.lineFeed_notMem_title (lineFeed_notMem_detail (List.mem_map_of_mem hw))
  · rw [List.map_map, outlineOf, List.map_map, ← List.forall₂_eq_eq_eq,
      List.forall₂_map_left_iff, List.forall₂_map_right_iff]
    exact hdraws.imp fun _ _ h => h.readLine?_eq

/--
The drawing of the tree of a text has one line for each node, in the order of the walk, and each
line tells the kind and the depth of its node, whatever names and skipped text are written on
it. Trees with equal drawings have the same nodes nested in the same way.
-/
theorem dump_tells_outline (score : Similarity) (text : String) :
    let root := (parseStream score (.ofText text)).root
    (∃ lines : List (List Char), root.dump.toList = lines.flatMap (· ++ ['\n']) ∧
      (∀ line ∈ lines, '\n' ∉ line) ∧ lines.length = root.walk.length ∧
      lines.map readLine? = root.walk.map fun (n, depth) => some (n.kind, depth)) ∧
    ∀ other : String, let root' := (parseStream score (.ofText other)).root
      root'.dump = root.dump → root'.toElement.skeleton = root.toElement.skeleton := by
  intro root
  obtain ⟨lines, hdump, hlines, htell⟩ := exists_lines_dump score text
  refine ⟨⟨lines, hdump, hlines, ?_, ?_⟩, ?_⟩
  · simpa [outlineOf] using congrArg List.length htell
  · rw [htell, outlineOf, List.map_map]
    rfl
  · intro other root' hequal
    obtain ⟨others, hdump', hothers, htell'⟩ := exists_lines_dump score other
    have hsame : others = lines := by
      rw [hequal, hdump] at hdump'
      simpa [pieces_flatMap hlines, pieces_flatMap hothers]
        using (congrArg (pieces '\n') hdump').symm
    rw [hsame, htell] at htell'
    rw [← Node.nest_outlineOf_walk, ← Node.nest_outlineOf_walk,
      List.map_injective_iff.2 (fun _ _ h => Option.some.inj h) htell']

def boxedName : String := "ID DIVISION. PROGRAM-ID. \"├─ Ⓟ B\"."

/-- The same program with other quotes, in lower case and on two lines. -/
def boxedNameRespelt : String := "id division.\nprogram-id. '├─ Ⓟ B'."

theorem dump_tells_outline_boxedName :
    (parse boxedNameRespelt).root.dump = (parse boxedName).root.dump ∧
      (parse boxedNameRespelt).root.toElement.skeleton =
        (parse boxedName).root.toElement.skeleton := by
  have hroot := root_parseStream_of_isFinal .jaroWinkler (.ofText boxedName) 7
    (by decide +kernel)
  have hroot' := root_parseStream_of_isFinal .jaroWinkler (.ofText boxedNameRespelt) 7
    (by decide +kernel)
  have hdump : (parse boxedNameRespelt).root.dump = (parse boxedName).root.dump := by
    rw [parse, parse, hroot, hroot']
    decide +kernel
  exact ⟨hdump, (dump_tells_outline .jaroWinkler boxedName).2 boxedNameRespelt hdump⟩

end CobolCompanion
