import CobolCompanion.Proofs.RespeltRuns
import CobolCompanion.Proofs.SelfClosed
import CobolCompanion.Proofs.SyntaxErrors

namespace CobolCompanion

open Parse

namespace Parse

/-- The divisions that may still come in a unit, after what it already has. -/
def openDivisions (unit : Node) : List Division :=
  let present := unit.childNodes.map (·.kind)
  if present.contains .programUnit then [] else divisionsAfter present

theorem expectedOpeners_eq (unit : Node) :
    expectedOpeners unit = (openDivisions unit).map Division.opener ++ identificationOpeners :=
  rfl

theorem Division.kind_injective {d d' : Division} (h : d.kind = d'.kind) : d = d' := by
  cases d <;> cases d' <;> first | rfl | cases h

section
variable {d : Division} {ds : List Division}

theorem divisionsAfter_eq {present : List NodeKind} (hsuffix : d :: ds <:+ Division.all)
    (hd : d.kind ∈ present) (hds : ∀ x ∈ ds, x.kind ∉ present) :
    divisionsAfter present = ds := by
  obtain ⟨before, hbefore⟩ := hsuffix
  have hlater : ∀ x ∈ ds.reverse, (!present.contains x.kind) = true := by
    intro x hx
    simpa using hds x (List.mem_reverse.1 hx)
  have hstop : ¬(!present.contains d.kind) = true := by simpa using hd
  rw [divisionsAfter, ← hbefore, List.reverse_append, List.reverse_cons, List.append_assoc,
    List.takeWhile_append_of_pos hlater, List.singleton_append,
    List.takeWhile_cons, if_neg hstop, List.append_nil, List.reverse_reverse]

theorem openDivisions_pushDivision {n : Node} (h : n.Growing (d :: ds))
    (hsuffix : d :: ds <:+ Division.all) (gap ts : List Token) :
    openDivisions (n.pushAll (gap.map .token ++ [.node { kind := d.kind } (ts.map .token)])) =
      ds := by
  obtain ⟨held, rest, hchildren, present, nested, hkinds, hsublist, hnested⟩ := h.shape.ordered
  obtain rfl := hnested.resolve_right (List.cons_ne_nil d ds)
  have hpresent : (n.pushAll (gap.map .token ++
      [.node { kind := d.kind } (ts.map .token)])).childNodes.map (·.kind) =
      .identificationDivision :: (present.map Division.kind ++ [d.kind]) := by
    change Element.kinds
      (n.children ++ (gap.map .token ++ [.node { kind := d.kind } (ts.map .token)])) = _
    have hfirst : Element.kinds n.children = .identificationDivision :: Element.kinds rest := by
      rw [hchildren]
      rfl
    rw [Element.kinds_append, hfirst, hkinds]
    simp
  have hnodup : (present ++ d :: ds).Nodup := hsublist.nodup (by decide)
  have hunits : ¬((n.pushAll (gap.map .token ++
      [.node { kind := d.kind } (ts.map .token)])).childNodes.map
        (·.kind)).contains .programUnit := by
    have hother (x : Division) : x.kind ≠ .programUnit := by cases x <;> decide
    rw [hpresent]
    simp [hother, Ne.symm (hother d)]
  rw [openDivisions, if_neg hunits, hpresent]
  apply divisionsAfter_eq hsuffix
  · simp
  · intro x hx hmem
    rw [List.mem_cons, ← List.map_singleton, ← List.map_append, List.mem_map] at hmem
    rcases hmem with hfirst | ⟨y, hy, hkind⟩
    · cases x <;> cases hfirst
    · obtain rfl := Division.kind_injective hkind
      rw [← List.singleton_append, ← List.append_assoc] at hnodup
      exact (List.nodup_append.1 hnodup).2.2 y hy y hx rfl

end

theorem Context.current_of_frames {context : Context} {f : Frame} {fs : List Frame}
    (h : context.frames = f :: fs) : context.current = f.node := by
  rw [Context.current, Context.top, h, List.headD_cons]

theorem openDivisions_pushUnit {n u : Node} (hkind : u.kind = .programUnit) :
    openDivisions (n.push u.toElement) = [] := by
  have hunits : ((n.push u.toElement).childNodes.map (·.kind)).contains .programUnit := by
    change (Element.kinds (n.children ++ [u.toElement])).contains .programUnit
    rw [Element.kinds_append, Node.toElement, Element.kinds_singleton_node]
    simp [hkind]
  rw [openDivisions, if_pos hunits]

section
variable {score : Similarity} {c : Configuration}

theorem coming_step_suffix (h : c.phase.coming <:+ Division.all) :
    (step score c).phase.coming <:+ Division.all := by
  have hadvance := advance_step score c
  generalize step score c = c' at hadvance
  cases hadvance with
  | finishes hend => exact List.nil_suffix
  | skips hmore hother => exact List.nil_suffix
  | opens hfaces hopen => exact List.suffix_refl _
  | passes hheader => exact (List.suffix_cons _ _).trans h
  | reads hheader hdivision => exact (List.suffix_cons _ _).trans h
  | @leaves s hend htrailer =>
    rw [coming_closeUnit]
    exact List.nil_suffix
  | @ends s s' hend htrailer hown hwords =>
    rw [coming_closeUnit]
    exact List.nil_suffix
  | fails hfails => exact List.nil_suffix

theorem coming_iterate_suffix (h : c.phase.coming <:+ Division.all) (n : Nat) :
    ((step score)^[n] c).phase.coming <:+ Division.all := by
  induction n with
  | zero => exact h
  | succ n ih =>
    rw [Function.iterate_succ_apply']
    exact coming_step_suffix ih

theorem Shapely.iterate (h : Shapely c) (n : Nat) : Shapely ((Parse.step score)^[n] c) := by
  induction n with
  | zero => exact h
  | succ n ih =>
    rw [Function.iterate_succ_apply']
    exact ih.step

/--
Where the machine comes to a token, it looks for just those divisions that may still come.
-/
theorem Respelling.Arrived.phase_eq {e : Respelling} (h : e.Arrived (Parse.step score c))
    (hc : Shapely c) (hcoming : c.phase.coming <:+ Division.all) (hfar : ¬e.Arrived c) :
    (Parse.step score c).phase =
      .programUnit (openDivisions (Parse.step score c).state.context.current) := by
  have hadvance := advance_step score c
  have hs := hc.orderly.sentinel
  generalize Parse.step score c = c' at hadvance h
  cases hadvance with
  | finishes hend => exact absurd rfl h.inside
  | skips hmore hother => exact absurd rfl h.inside
  | @opens phase s s' hfaces hopen =>
    obtain ⟨held, name, hcontext⟩ := context_of_openUnit hopen hs
    rw [hcontext]
    rfl
  | passes hheader => exact absurd ⟨programUnit_ne_sourceUnit _, h.place⟩ hfar
  | @reads d ds s s' hheader hdivision =>
    obtain ⟨gap, ts, -, hreads⟩ := exists_reads_of_division hdivision hs
    obtain ⟨f, fs, hframes, -⟩ := hc.orderly.exists_unit
    have hshapes := hc.shapes
    dsimp only at hframes hshapes ⊢
    rw [hframes] at hshapes
    rw [Context.current_of_frames (hreads.frames_eq_cons hframes)]
    exact congrArg Phase.programUnit (openDivisions_pushDivision hshapes.1 hcoming gap ts).symm
  | @leaves s hend htrailer =>
    by_cases hnone : s.leaveUnit.context.frames = []
    · rw [closeUnit_of_outermost hnone] at h
      exact absurd rfl h.inside
    · rw [closeUnit_of_nested hnone] at h
      exact absurd ⟨programUnit_ne_sourceUnit _, h.place⟩ hfar
  | @ends s s' hend htrailer hown hwords =>
    obtain ⟨f, fs, hframes, hkind, -⟩ := hc.exists_unit_of_endProgram hwords
    have hclosed := frames_closeUnit hframes
    by_cases hnone : s'.leaveUnit.context.frames = []
    · rw [closeUnit_of_outermost hnone] at h
      exact absurd rfl h.inside
    · rw [closeUnit_of_nested hnone] at hclosed ⊢
      cases fs with
      | nil => exact absurd hclosed hnone
      | cons g gs =>
        rw [Context.current_of_frames hclosed]
        exact congrArg Phase.programUnit (openDivisions_pushUnit hkind).symm
  | fails hfails => exact absurd rfl h.inside

end

/-- In the course of a run no production gives up before the first of the tokens. -/
def Unblamed (score : Similarity) (place : List Token) (c : Configuration) : Prop :=
  ∀ n f s', Fails score ((step score)^[n] c) f s' → s'.shiftTrivia.unread ≠ place

namespace Unblamed

variable {score : Similarity} {place : List Token} {c : Configuration}

theorem of_step (hnow : ∀ f s', Fails score c f s' → s'.shiftTrivia.unread ≠ place)
    (h : Unblamed score place (step score c)) : Unblamed score place c := by
  intro n
  cases n with
  | zero => exact hnow
  | succ n => exact h n

theorem step (h : Unblamed score place c) : Unblamed score place (step score c) :=
  fun n => h (n + 1)

theorem of_read (h : ¬place <:+ c.state.unread) : Unblamed score place c := by
  intro n f s' hfails hplace
  have hmoves : Moves c.state s'.shiftTrivia :=
    ((moves_iterate n c).trans hfails.moves).trans (moves_shiftTrivia s')
  have hsuffix := hmoves.unread_suffix
  rw [hplace] at hsuffix
  exact h hsuffix

theorem iterate_iff {x : Token} {rest : List Token} {n : Nat}
    (hunread : x :: rest <:+ ((Parse.step score)^[n] c).state.unread) :
    Unblamed score (x :: rest) ((Parse.step score)^[n] c) ↔ Unblamed score (x :: rest) c := by
  induction n generalizing c with
  | zero => rfl
  | succ n ih =>
    rw [Function.iterate_succ_apply] at hunread ⊢
    rw [ih hunread]
    refine ⟨of_step ?_, step⟩
    intro f s' hfails hplace
    have hlater := hunread.trans (moves_iterate n _).unread_suffix
    rw [hfails.step_eq] at hlater
    rw [State.unread_shiftTrivia] at hplace
    have hsplit : s'.unread = s'.unread.takeWhile Token.isTrivia ++ x :: rest := by
      rw [← hplace, List.takeWhile_append_dropWhile]
    refine Respelling.not_awaits_recover (e := ⟨x, x.lexeme, rest⟩) hsplit ?_ hlater
    intro t ht
    have htrivia := List.mem_takeWhile_imp ht
    exact ⟨Token.isTerminator_of_isTrivia htrivia, Token.isEndOfInput_of_isTrivia htrivia⟩

end Unblamed

namespace Respelling

variable {e : Respelling} {score : Similarity} {gap : List Token} {t : State}

namespace Fits

theorem not_looksLike_new (h : e.Fits score) (hgap : significantTokens gap = [])
    {keyword : String} (hkeyword : keyword ∈ reservedWords) (hne : e.opener ≠ keyword)
    (pattern : List Ahead) :
    looksLike score (.keyword keyword :: pattern) (gap ++ e.new :: e.rest) = false := by
  have htest : (Ahead.keyword keyword).test score e.new = false :=
    h.not_accepts_new hkeyword hne
  rw [looksLike_eq_agrees, significantTokens_new hgap, agrees, htest, Bool.false_and]

theorem not_atDivisionHeader_new (h : e.Fits score) (hgap : significantTokens gap = [])
    {d : Division} (hd : e.opener ≠ d.opener) :
    atDivisionHeader score d (gap ++ e.new :: e.rest) = false := by
  have hmem : d.opener ∈ reservedWords := by cases d <;> decide
  rw [atDivisionHeader_eq]
  exact h.not_looksLike_new hgap hmem hd _

theorem not_atIdentificationHeader_new (h : e.Fits score) (hgap : significantTokens gap = [])
    (hopener : e.opener ∉ identificationOpeners) :
    atIdentificationHeader score (gap ++ e.new :: e.rest) = false := by
  apply Bool.eq_false_iff.2
  intro hunit
  obtain ⟨opener, hmem, hahead⟩ := atIdentificationHeader_iff.1 hunit
  have hall : ∀ word ∈ identificationOpeners, word ∈ reservedWords := by decide
  have hne : e.opener ≠ opener := by
    rintro rfl
    exact hopener hmem
  have hother := h.not_looksLike_new hgap (hall opener hmem) hne
    [.keyword "DIVISION", .keyword "."]
  exact absurd (hother.symm.trans hahead) Bool.false_ne_true

end Fits

theorem unread_step_of_facesUnit {phase : Phase} (hfaces : FacesUnit score phase t) :
    (Parse.step score ⟨phase, t⟩).state.unread <:+
      ((openUnit score).final t.shiftTrivia).unread := by
  rw [step_of_facesUnit hfaces]
  unfold Configuration.after Production.final
  cases openUnit score t.shiftTrivia with
  | ok u s' => exact List.suffix_refl _
  | error f s' => exact (moves_recover s').unread_suffix

theorem Fits.unblamed_of_unit (h : e.Fits score) (ht : Underway ⟨.programUnit [], t⟩)
    (hunread : t.unread = gap ++ e.new :: e.rest) (hgap : significantTokens gap = [])
    (hopener : e.opener ∈ identificationOpeners) :
    Unblamed score (e.new :: e.rest) ⟨.programUnit [], t⟩ := by
  have hunit : atIdentificationHeader score t.unread := by
    rw [hunread]
    exact h.atIdentificationHeader_new hgap hopener
  have hread : ¬e.new :: e.rest <:+ ((openUnit score).final t.shiftTrivia).unread := by
    intro hawaits
    obtain ⟨opener, -, hahead⟩ := ht.looksLike_of_openUnit (e := ⟨e.new, e.opener, e.rest⟩)
      (programUnit_ne_sourceUnit []) hunit hunread hawaits
    exact not_looksLike_of_gap hgap _ _ hahead
  apply Unblamed.of_step
  · intro f s' hfails hplace
    have hfinal : (openUnit score).final t.shiftTrivia = s' := by
      cases hfails with
      | opening hfaces hopen => rw [Production.final, hopen]
      | header hnone => exact absurd (hnone.symm.trans hunit) Bool.false_ne_true
      | trailer hend => exact absurd (hend.noUnit.symm.trans hunit) Bool.false_ne_true
    have hsuffix := (moves_shiftTrivia s').unread_suffix
    rw [hplace, ← hfinal] at hsuffix
    exact hread hsuffix
  · apply Unblamed.of_read
    intro hawaits
    exact hread (hawaits.trans (unread_step_of_facesUnit hunit))

theorem Fits.unblamed_of_division (h : e.Fits score) {d : Division} {ds : List Division}
    (ht : Underway ⟨.programUnit (d :: ds), t⟩) (hunread : t.unread = gap ++ e.new :: e.rest)
    (hgap : significantTokens gap = []) (hopener : e.opener = d.opener) :
    Unblamed score (e.new :: e.rest) ⟨.programUnit (d :: ds), t⟩ := by
  have hheader : atDivisionHeader score d t.unread := by
    rw [hunread]
    exact h.atDivisionHeader_new hgap hopener
  apply Unblamed.of_step
  · intro f s' hfails
    cases hfails with
    | opening hfaces => exact hfaces.elim
    | division _ hdivision => exact absurd hdivision (ht.division_ne_error hheader)
  · apply Unblamed.of_read
    intro hawaits
    cases hdivision : Production.division score d t with
    | error f s' => exact ht.division_ne_error hheader hdivision
    | ok u s' =>
      simp only [Parse.step, hheader, if_true, Configuration.after, hdivision] at hawaits
      exact not_looksLike_of_gap hgap _ _
        (ht.looksLike_of_division (e := ⟨e.new, e.opener, e.rest⟩)
          hheader hunread hdivision hawaits)

theorem unblamed_passes_iff {place : List Token} {d : Division} {ds : List Division}
    (hheader : atDivisionHeader score d t.unread = false) :
    Unblamed score place ⟨.programUnit (d :: ds), t⟩ ↔
      Unblamed score place ⟨.programUnit ds, t⟩ := by
  have hstep : Parse.step score ⟨.programUnit (d :: ds), t⟩ = ⟨.programUnit ds, t⟩ := by
    simp only [Parse.step, hheader, Bool.false_eq_true, if_false]
  rw [← hstep]
  refine ⟨Unblamed.step, Unblamed.of_step ?_⟩
  intro f s' hfails
  cases hfails with
  | opening hfaces => exact hfaces.elim
  | division hseen => exact absurd (hheader.symm.trans hseen) Bool.false_ne_true

/-- Before the new spelling, it is blamed unless a division with that opener may come. -/
theorem Fits.unblamed_iff (h : e.Fits score) {ds : List Division}
    (ht : Underway ⟨.programUnit ds, t⟩) (hunread : t.unread = gap ++ e.new :: e.rest)
    (hgap : significantTokens gap = []) :
    Unblamed score (e.new :: e.rest) ⟨.programUnit ds, t⟩ ↔
      e.opener ∈ ds.map Division.opener ++ identificationOpeners := by
  induction ds with
  | nil =>
    rw [List.map_nil, List.nil_append]
    refine ⟨?_, h.unblamed_of_unit ht hunread hgap⟩
    intro hspared
    by_contra hopener
    have hunit : atIdentificationHeader score t.unread = false := by
      rw [hunread]
      exact h.not_atIdentificationHeader_new hgap hopener
    have hheader : atAnyHeader score t.statementStart t.unread := by
      rw [hunread]
      exact h.atAnyHeader_new hgap _
    have hnext : t.complainOfHeader.shiftTrivia.unread = e.new :: e.rest :=
      (State.Faces.of_eq hunread).unread_shiftTrivia (significantTokens_eq_nil_iff.1 hgap) rfl
    exact hspared 0 _ _ (.header hunit hheader (unexpectedHeader_run t)) hnext
  | cons d ds ih =>
    rw [List.map_cons, List.cons_append, List.mem_cons]
    by_cases hd : e.opener = d.opener
    · exact iff_of_true (h.unblamed_of_division ht hunread hgap hd) (.inl hd)
    · have hheader : atDivisionHeader score d t.unread = false := by
        rw [hunread]
        exact h.not_atDivisionHeader_new hgap hd
      have ht' : Underway ⟨.programUnit ds, t⟩ := by
        have hstep := @Underway.step score _ ht
        simpa only [Parse.step, hheader, Bool.false_eq_true, if_false] using hstep
      rw [unblamed_passes_iff hheader, ih ht', or_iff_right hd]

end Respelling

/--
The machine comes to a header that cannot stand where it is, and says of its first token what
was expected there.
-/
structure ReportsHeader (score : Similarity) (c : Configuration) (w : Token)
    (after : List Token) (expected : List String) : Prop where
  phase : c.phase = .programUnit []
  noUnit : atIdentificationHeader score c.state.unread = false
  header : atAnyHeader score c.state.statementStart c.state.unread
  failure : ∃ s', unexpectedHeader c.state =
    .error (.noAlternative w.lexeme expected w.range) s'
  place : c.state.shiftTrivia.unread = w :: after

namespace ReportsHeader

variable {score : Similarity} {c : Configuration} {w : Token} {after : List Token}
  {expected : List String}

theorem fails (h : ReportsHeader score c w after expected) :
    ∃ s', Fails score c (.noAlternative w.lexeme expected w.range) s' := by
  obtain ⟨phase, s⟩ := c
  obtain ⟨rfl, hunit, hheader, ⟨s', hrun⟩, -⟩ := h
  exact ⟨s', .header hunit hheader hrun⟩

theorem expected_eq (h : ReportsHeader score c w after expected) :
    expected = (openDivisions c.state.context.current).map Division.opener ++
      identificationOpeners := by
  obtain ⟨s', hrun⟩ := h.failure
  rw [unexpectedHeader_run] at hrun
  injection hrun with hfailure
  injection hfailure with _ hexpected
  rw [← hexpected, expectedOpeners_eq]

theorem significant (h : ReportsHeader score c w after expected) : w.isTrivia = false := by
  have hplace := h.place
  rw [State.unread_shiftTrivia] at hplace
  exact isTrivia_of_dropWhile_eq_cons hplace

theorem arrived (h : ReportsHeader score c w after expected) (opener : String) :
    Respelling.Arrived ⟨w, opener, after⟩ c := by
  have hplace := h.place
  rw [State.unread_shiftTrivia] at hplace
  constructor
  · rw [h.phase]
    exact Respelling.programUnit_ne_sourceUnit []
  · refine ⟨c.state.unread.takeWhile Token.isTrivia, ?_, ?_⟩
    · rw [Respelling.significantTokens_eq_nil_iff]
      intro t ht
      exact List.mem_takeWhile_imp ht
    · rw [← hplace, List.takeWhile_append_dropWhile]

end ReportsHeader

/--
In a text with one token spelt anew, that token goes without blame if its spelling was expected.
-/
theorem Respelling.Fits.unblamed_iff_mem_expected {e : Respelling} {score : Similarity}
    (h : e.Fits score) {c d : Configuration} (hc : Underway c) (hd : Underway d)
    (hshapely : Shapely c) (houtside : c.phase = .sourceUnit) (habreast : e.Abreast c d)
    {n : Nat} {expected : List String}
    (hreport : ReportsHeader score ((step score)^[n] c) e.old e.rest expected) :
    Unblamed score (e.new :: e.rest) d ↔ e.opener ∈ expected := by
  have hn : e.Arrived ((step score)^[n] c) := hreport.arrived e.opener
  obtain ⟨m, hm, hfar, harrived, hphase', before, htwins⟩ :=
    exists_first_arrival h hc habreast houtside hn
  -- The complaint follows the arrival after the divisions that might still have come.
  obtain ⟨k, rfl⟩ := Nat.exists_eq_add_of_le' hm
  rw [Nat.succ_eq_add_one, Function.iterate_add_apply] at hn hreport
  obtain ⟨ds, hphase, hlater⟩ := harrived.passes h (hc.iterate _) hn hreport.header
  have hexpected := hreport.expected_eq
  rw [hlater] at hexpected
  have hopen : ds = openDivisions ((step score)^[m + 1] c).state.context.current := by
    have hcoming : c.phase.coming <:+ Division.all := by
      rw [houtside]
      exact List.nil_suffix
    rw [Function.iterate_succ_apply'] at harrived hphase ⊢
    have hphase_eq :=
      harrived.phase_eq (hshapely.iterate m) (coming_iterate_suffix hcoming m) hfar
    rw [hphase] at hphase_eq
    exact Phase.programUnit.inj hphase_eq
  have hgap : significantTokens before = [] := by
    obtain ⟨gap, hgap, hunread⟩ := harrived.place
    rwa [List.append_cancel_right (htwins.left.symm.trans hunread)]
  have hawaits : e.new :: e.rest <:+ ((step score)^[m + 1] d).state.unread :=
    ⟨before, htwins.right.symm⟩
  have hd' : Underway ⟨.programUnit ds, ((step score)^[m + 1] d).state⟩ := by
    rw [← hphase, ← hphase']
    exact hd.iterate (m + 1)
  have hiff := h.unblamed_iff hd' htwins.right hgap
  rw [← hphase, ← hphase'] at hiff
  rw [hexpected, ← hopen, ← hiff]
  exact (Unblamed.iterate_iff hawaits).symm

theorem mem_of_suffix_append_cons {x t : Token} {before after rest : List Token}
    (h : t :: rest <:+ before ++ x :: after) :
    t :: rest = x :: after ∨ t ∈ before ++ after := by
  induction before with
  | nil =>
    rw [List.nil_append, List.suffix_cons_iff] at h
    exact h.imp_right fun hlater => hlater.mem List.mem_cons_self
  | cons y before ih =>
    rw [List.cons_append, List.suffix_cons_iff] at h
    rcases h with heq | hlater
    · obtain ⟨rfl, -⟩ := List.cons.inj heq
      exact .inr List.mem_cons_self
    · exact (ih hlater).imp_right (List.mem_cons_of_mem _)

def Configuration.ofTokens (tokens : List Token) (position : Position) (offset : Nat) :
    Configuration :=
  ⟨.sourceUnit, .initial (.ofTokens tokens (.endOfInput position offset))⟩

theorem Respelling.Underway.ofTokens {tokens : List Token}
    (hend : ∀ t ∈ tokens, t.isEndOfInput = false) (position : Position) (offset : Nat) :
    Underway (.ofTokens tokens position offset) :=
  ⟨.initial tokens position offset, hend⟩

theorem unblamed_iff_diagnostics {score : Similarity} {before after : List Token} {x : Token}
    {position : Position} {offset : Nat}
    (hdistinct : ∀ t ∈ before ++ after ++ [.endOfInput position offset], t.range ≠ x.range) :
    Unblamed score (x :: after) (.ofTokens (before ++ x :: after) position offset) ↔
      ∀ d ∈ (parseStream score
        (.ofTokens (before ++ x :: after) (.endOfInput position offset))).diagnostics,
        d.code = some "syntax-error" → d.range ≠ x.range := by
  have horderly (n : Nat) :
      Orderly ((step score)^[n] (.ofTokens (before ++ x :: after) position offset)) :=
    (Orderly.initial _ position offset).iterate n
  constructor
  · intro hspared d hd hcode hrange
    obtain ⟨n, f, s', hfails, rfl⟩ :=
      (mem_diagnostics_parseStream_iff score _ position offset hcode).1 hd
    have hplace : f.range = s'.shiftTrivia.peek.range := (hfails.raises (horderly n)).place
    have hmoves : Moves (Configuration.ofTokens (before ++ x :: after) position offset).state
        s'.shiftTrivia :=
      ((moves_iterate n _).trans hfails.moves).trans (moves_shiftTrivia s')
    have hsame : s'.shiftTrivia.peek.range = x.range := hplace.symm.trans hrange
    cases hunread : s'.shiftTrivia.unread with
    | nil =>
      have hsentinel : s'.shiftTrivia.peek = .endOfInput position offset :=
        (State.peek_of_exhausted hunread).trans hmoves.sentinel_eq
      rw [hsentinel] at hsame
      exact hdistinct _ (by simp) hsame
    | cons t rest =>
      rw [State.peek_eq hunread] at hsame
      have hsuffix : t :: rest <:+ before ++ x :: after := by
        rw [← hunread]
        exact hmoves.unread_suffix
      rcases mem_of_suffix_append_cons hsuffix with heq | hother
      · exact hspared n f s' hfails (hunread.trans heq)
      · exact hdistinct t (List.mem_append_left _ hother) hsame
  · intro hnone n f s' hfails hplace
    have hmem := (mem_diagnostics_parseStream_iff score _ position offset rfl).2
      ⟨n, f, s', hfails, rfl⟩
    have hrange := (hfails.raises (horderly n)).place
    rw [State.peek_eq hplace] at hrange
    exact hnone f.diagnostic hmem rfl hrange

end Parse

/--
The openers that a complaint about a header lists are exact. Whichever opener is written in
place of the first token of the header: nothing gives up at that token if and only if the
complaint lists the opener. Where the token has a range of its own, that is to say that no
syntax error lies there.
-/
theorem expected_openers_exact (score : Similarity) (hscore : score.TellsApart)
    (before after : List Token) (w : Token)
    (hend : ∀ t ∈ before ++ w :: after, t.isEndOfInput = false) (position : Position)
    (offset n : Nat) (expected : List String)
    (hreport :
      ReportsHeader score ((step score)^[n] (.ofTokens (before ++ w :: after) position offset))
      w after expected)
    (hbehind : looksLike score [.keyword "DIVISION", .keyword "."] after) (opener : String)
    (hopener : opener ∈ ["ENVIRONMENT", "DATA", "PROCEDURE", "ID", "IDENTIFICATION"]) :
    let sentinel := Token.endOfInput position offset
    let new := { w with kind := .word, lexeme := opener }
    (Failure.noAlternative w.lexeme expected w.range).diagnostic ∈
        (parseStream score (.ofTokens (before ++ w :: after) sentinel)).diagnostics ∧
      (Unblamed score (new :: after) (.ofTokens (before ++ new :: after) position offset) ↔
        opener ∈ expected) ∧
      ((∀ t ∈ before ++ after ++ [sentinel], t.range ≠ new.range) →
        ((∀ d ∈ (parseStream score (.ofTokens (before ++ new :: after) sentinel)).diagnostics,
          d.code = some "syntax-error" → d.range ≠ new.range) ↔ opener ∈ expected)) := by
  intro sentinel new
  let e : Respelling := ⟨w, opener, after⟩
  have hw : w.isEndOfInput = false := hend w (by simp)
  have hfit : e.Fits score := ⟨hscore, hopener, hreport.significant, hw, hbehind⟩
  have hend' : ∀ t ∈ before ++ new :: after, t.isEndOfInput = false := by
    intro t ht
    rcases List.mem_append.1 ht with hbefore | hrest
    · exact hend t (List.mem_append_left _ hbefore)
    · rcases List.mem_cons.1 hrest with rfl | hafter
      · rfl
      · exact hend t (List.mem_append_right _ (List.mem_cons_of_mem _ hafter))
  have habreast : e.Abreast (.ofTokens (before ++ w :: after) position offset)
      (.ofTokens (before ++ new :: after) position offset) :=
    ⟨rfl, before, rfl, rfl, rfl, rfl, rfl⟩
  have hexact : Unblamed score (new :: after)
      (.ofTokens (before ++ new :: after) position offset) ↔
      opener ∈ expected :=
    hfit.unblamed_iff_mem_expected (.ofTokens hend position offset)
      (.ofTokens hend' position offset)
      (.initial _ position offset) rfl habreast hreport
  refine ⟨?_, hexact, ?_⟩
  · obtain ⟨s', hfails⟩ := hreport.fails
    exact (mem_diagnostics_parseStream_iff score _ position offset rfl).2
      ⟨n, _, s', hfails, rfl⟩
  · intro hdistinct
    exact (unblamed_iff_diagnostics hdistinct).symm.trans hexact

def wordBehindData (word : String) : Token :=
  ⟨.word, word, ⟨0, 37⟩, ⟨37, 41⟩⟩

def dataAndThen (word : String) : List Token :=
  lineTokens 0 ["ID", "DIVISION", ".", "PROGRAM-ID", ".", "P", ".", "DATA", "DIVISION", "."] ++
    wordBehindData word :: lineTokens 41 ["DIVISION", "."]

theorem expected_openers_exact_dataAndThen :
    let sentinel := Token.endOfInput ⟨0, 50⟩ 50
    (∀ d ∈ (parseStream .jaroWinkler
      (.ofTokens (dataAndThen "PROCEDURE") sentinel)).diagnostics,
        d.code = some "syntax-error" → d.range ≠ (wordBehindData "PROCEDURE").range) ∧
      ¬∀ d ∈ (parseStream .jaroWinkler
        (.ofTokens (dataAndThen "ENVIRONMENT") sentinel)).diagnostics,
        d.code = some "syntax-error" → d.range ≠ (wordBehindData "ENVIRONMENT").range := by
  intro sentinel
  let c := (step .jaroWinkler)^[4] (.ofTokens (dataAndThen "DATA") ⟨0, 50⟩ 50)
  have hfailure : (Complaint.alternatives (expectedOpeners c.state.context.current)).failure
      c.state.nextSignificant = .noAlternative "DATA" ["PROCEDURE", "ID", "IDENTIFICATION"]
        (wordBehindData "DATA").range := by decide +kernel
  have hreport : ReportsHeader .jaroWinkler c (wordBehindData "DATA")
      (lineTokens 41 ["DIVISION", "."])
      ["PROCEDURE", "ID", "IDENTIFICATION"] :=
    { phase := by decide +kernel
      noUnit := by decide +kernel
      header := by decide +kernel
      failure := ⟨c.state.complainOfHeader, by rw [unexpectedHeader_run, hfailure]; rfl⟩
      place := by decide +kernel }
  have hexact := expected_openers_exact .jaroWinkler Similarity.tellsApart_jaroWinkler _ _
    (wordBehindData "DATA") (by decide +kernel) ⟨0, 50⟩ 50 4 _ hreport (by decide +kernel)
  constructor
  · exact ((hexact "PROCEDURE" (by decide)).2.2 (by decide +kernel)).2 (by decide)
  · exact mt ((hexact "ENVIRONMENT" (by decide)).2.2 (by decide +kernel)).1 (by decide)

end CobolCompanion
