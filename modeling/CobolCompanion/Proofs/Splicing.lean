import CobolCompanion.Proofs.TreeNodes

namespace CobolCompanion

namespace Element

def merge? : Element → Element → Option Element
  | node heading held, node heading' held' =>
    if heading.kind = .skipped ∧ heading'.kind = .skipped then
      some (node heading (held ++ held'))
    else none
  | _, _ => none

/-- An element before others. It merges with the first of them if both are skipped nodes. -/
def join (e : Element) : List Element → List Element
  | [] => [e]
  | f :: after =>
    match merge? e f with
    | some g => g :: after
    | none => e :: f :: after

/-- Elements behind others. Skipped nodes that meet at the seam become one. -/
def splice : List Element → List Element → List Element
  | [], after => after
  | [e], after => e.join after
  | e :: e' :: before, after => e :: splice (e' :: before) after

theorem merge?_eq_none {e f : Element} (h : e.isSkipped = false ∨ f.isSkipped = false) :
    merge? e f = none := by
  cases e with
  | token t => rfl
  | node heading held =>
    cases f with
    | token t => rfl
    | node heading' held' => simpa [merge?, isSkipped, Decidable.imp_iff_not_or] using h

theorem merge?_cases (e f : Element) :
    (∃ heading held heading' held', e = node heading held ∧ f = node heading' held' ∧
        heading.kind = .skipped ∧ heading'.kind = .skipped ∧
        merge? e f = some (node heading (held ++ held'))) ∨
      (e.isSkipped = false ∨ f.isSkipped = false) ∧ merge? e f = none := by
  cases e with
  | token t => exact .inr ⟨.inl rfl, rfl⟩
  | node heading held =>
    cases f with
    | token t => exact .inr ⟨.inr rfl, rfl⟩
    | node heading' held' =>
      by_cases h : heading.kind = .skipped
      · by_cases h' : heading'.kind = .skipped
        · exact .inl ⟨heading, held, heading', held', rfl, rfl, h, h', by simp [merge?, h, h']⟩
        · have hf : (node heading' held').isSkipped = false := by simp [isSkipped, h']
          exact .inr ⟨.inr hf, merge?_eq_none (.inr hf)⟩
      · have he : (node heading held).isSkipped = false := by simp [isSkipped, h]
        exact .inr ⟨.inl he, merge?_eq_none (.inl he)⟩

theorem join_of_merge? {e f g : Element} (h : merge? e f = some g) (after : List Element) :
    e.join (f :: after) = g :: after := by
  simp [join, h]

theorem join_eq_cons {e : Element} {after : List Element}
    (h : ∀ f ∈ after.head?, merge? e f = none) : e.join after = e :: after := by
  cases after with
  | nil => rfl
  | cons f after => simp [join, h f rfl]

theorem splice_eq_append {before after : List Element}
    (h : ∀ f ∈ after.head?, f.isSkipped = false) : splice before after = before ++ after := by
  fun_induction splice before after with
  | case1 after => rfl
  | case2 e after => exact join_eq_cons fun f hf => merge?_eq_none (.inr (h f hf))
  | case3 e e' before after ih => rw [ih h, ← List.cons_append]

theorem splice_nil (before : List Element) : splice before [] = before := by
  rw [splice_eq_append (by simp), List.append_nil]

theorem splice_join (e : Element) (ys zs : List Element) :
    splice (e.join ys) zs = e.join (splice ys zs) := by
  cases ys with
  | nil => rfl
  | cons f ys =>
    cases ys with
    | cons f' ys =>
      obtain ⟨_, _, _, _, -, -, -, -, hmerge⟩ | ⟨-, hmerge⟩ := merge?_cases e f <;>
        simp only [join, hmerge, splice]
    | nil =>
      obtain ⟨heading, held, heading', held', rfl, rfl, h, h', hmerge⟩ | ⟨hplain, hmerge⟩ :=
        merge?_cases e f
      · rw [join_of_merge? hmerge]
        -- The first two merge; whether the third joins them depends on the third alone.
        cases zs with
        | nil => exact (join_of_merge? hmerge []).symm
        | cons g zs =>
          by_cases hg : g.isSkipped
          · cases g with
            | token t => cases hg
            | node heading'' held'' =>
              have h'' : heading''.kind = .skipped := by simpa [isSkipped] using hg
              simp [splice, join, merge?, h, h', h'']
          · have hnone (x : Element) : merge? x g = none :=
              merge?_eq_none (.inr (by simpa using hg))
            simp only [splice, join, hnone, hmerge]
      · -- The first two stay apart, also when the second has merged with what comes behind it.
        have happart : e.join [f] = [e, f] := join_eq_cons (by simpa using hmerge)
        rw [happart]
        change e :: f.join zs = e.join (f.join zs)
        symm
        rcases hplain with he | hf
        · exact join_eq_cons fun x _ => merge?_eq_none (.inl he)
        · rw [join_eq_cons (e := f) fun x _ => merge?_eq_none (.inl hf)]
          exact join_eq_cons (by simpa using hmerge)

theorem join_ne_nil (e : Element) (after : List Element) : e.join after ≠ [] := by
  cases after with
  | nil => simp [join]
  | cons f after =>
    cases hmerge : merge? e f <;> simp [join, hmerge]

theorem splice_ne_nil (e : Element) (before after : List Element) :
    splice (e :: before) after ≠ [] := by
  cases before with
  | nil => exact join_ne_nil e after
  | cons e' before => simp [splice]

theorem splice_assoc (xs ys zs : List Element) :
    splice (splice xs ys) zs = splice xs (splice ys zs) := by
  fun_induction splice xs ys with
  | case1 ys => rfl
  | case2 e ys => exact splice_join e ys zs
  | case3 e e' before ys ih =>
    obtain ⟨f, fs, hsplice⟩ := List.exists_cons_of_ne_nil (splice_ne_nil e' before ys)
    rw [hsplice] at ih ⊢
    rw [splice, ih, splice]

theorem splice_concat (before : List Element) (e : Element) (after : List Element) :
    splice (before ++ [e]) after = before ++ e.join after := by
  induction before with
  | nil => rfl
  | cons f before ih =>
    cases before with
    | nil => rfl
    | cons f' before =>
      rw [List.cons_append, List.cons_append, splice, ← List.cons_append, ih]
      rfl

end Element

theorem Node.children_pushSkipped (n : Node) {elements : List Element} (h : elements ≠ []) :
    (n.pushSkipped elements).children =
      Element.splice n.children [.node { kind := .skipped } elements] := by
  obtain ⟨before, heading, held, hkind, hchildren, hpush⟩ | ⟨hlast, hpush⟩ :=
    n.pushSkipped_cases h
  · have hmerge : Element.merge? (.node heading held) (.node { kind := .skipped } elements) =
        some (.node heading (held ++ elements)) := by simp [Element.merge?, hkind]
    rw [hpush, hchildren, Element.splice_concat, Element.join_of_merge? hmerge]
  · rw [hpush, push]
    obtain hnil | ⟨before, e, hchildren⟩ := List.eq_nil_or_concat n.children
    · simp [hnil, Element.splice]
    · rw [List.concat_eq_append] at hchildren
      have he : e.isSkipped = false := hlast e (by simp [hchildren])
      rw [hchildren, Element.splice_concat,
        Element.join_eq_cons fun _ _ => Element.merge?_eq_none (.inl he)]
      simp

theorem Node.splice_pushSkipped {n m : Node} {children : List Element}
    (h : n.children = Element.splice children m.children) (es : List Element) :
    (n.pushSkipped es).children = Element.splice children (m.pushSkipped es).children := by
  by_cases hes : es = []
  · rw [hes, pushSkipped_nil, pushSkipped_nil, h]
  · rw [children_pushSkipped _ hes, children_pushSkipped _ hes, h, Element.splice_assoc]

end CobolCompanion
