import CobolCompanion.Proofs.SessionSteps

namespace CobolCompanion

/--
After some events a document was last opened with a text, and it was not closed in the events
since then.
-/
structure OpenedSince (settings : Settings) (events : List Event) (uri : Uri) (text : String)
    (since : List Event) : Prop where
  split : ∃ before e, events = before ++ e :: since ∧ e.accepted? settings = some (uri, text)
  last : ∀ e ∈ since, ∀ other, e.accepted? settings ≠ some (uri, other)
  not_closed : .closed uri ∉ since

/-- After some events a document is open: it was accepted, and not closed since then. -/
def IsOpen (settings : Settings) (events : List Event) (uri : Uri) : Prop :=
  ∃ text since, OpenedSince settings events uri text since

def nextStamp (settings : Settings) (events : List Event) : Nat :=
  events.countP (fun e => (e.edit? settings).isSome) + 1

/-- What has still to happen for the analysis to end that an edit starts. -/
def Event.course (stamp : Nat) : Event → List Event
  | opened .. => [.announced stamp, .finished stamp]
  | _ => [.finished stamp]

/-- A document was given a text when it was last opened, or since then. -/
def GivenSince (settings : Settings) (events : List Event) (uri : Uri) (text : String) : Prop :=
  ∃ first since, OpenedSince settings events uri first since ∧
    (text = first ∨ .changed uri text ∈ since)

/--
A model that an open document may have: the text that it was last opened with, not yet analysed,
or a text that it was given since then, with its own analysis.
-/
def Admissible (settings : Settings) (events : List Event) (uri : Uri) (model : Model) : Prop :=
  (∃ text since, OpenedSince settings events uri text since ∧ model = .pending text) ∨
    ∃ text, GivenSince settings events uri text ∧ model = .ofText text

section
variable {settings : Settings} {events : List Event} {e : Event} {uri : Uri} {text : String}
variable {since : List Event}

namespace OpenedSince

theorem of_accepted (events : List Event) (h : e.accepted? settings = some (uri, text)) :
    OpenedSince settings (events ++ [e]) uri text [] :=
  ⟨⟨events, e, rfl, h⟩, by simp, by simp⟩

theorem concat (h : OpenedSince settings events uri text since)
    (haccepted : ∀ other, e.accepted? settings ≠ some (uri, other))
    (hclosed : e ≠ .closed uri) :
    OpenedSince settings (events ++ [e]) uri text (since ++ [e]) := by
  obtain ⟨before, first, rfl, hfirst⟩ := h.split
  refine ⟨⟨before, first, by simp, hfirst⟩, ?_, ?_⟩
  · intro e' he'
    rcases List.mem_append.1 he' with he' | he'
    · exact h.last e' he'
    · rw [List.mem_singleton.1 he']
      exact haccepted
  · intro he'
    rcases List.mem_append.1 he' with he' | he'
    · exact h.not_closed he'
    · exact hclosed (List.mem_singleton.1 he').symm

theorem of_concat (h : OpenedSince settings (events ++ [e]) uri text since) :
    e.accepted? settings = some (uri, text) ∨ IsOpen settings events uri ∧ e ≠ .closed uri := by
  obtain ⟨before, first, hsplit, hfirst⟩ := h.split
  rcases List.eq_nil_or_concat since with rfl | ⟨since, last, rfl⟩
  · obtain ⟨-, hlast⟩ := List.append_inj' hsplit rfl
    rw [List.singleton_inj.1 hlast]
    exact .inl hfirst
  · rw [List.concat_eq_append] at h hsplit
    have hsplit' : events ++ [e] = (before ++ first :: since) ++ [last] := by simpa using hsplit
    obtain ⟨hevents, hlast⟩ := List.append_inj' hsplit' rfl
    refine .inr ⟨⟨text, since, ⟨before, first, hevents, hfirst⟩, ?_, ?_⟩, ?_⟩
    · exact fun e' he' => h.last e' (List.mem_append_left _ he')
    · exact fun hclosed => h.not_closed (List.mem_append_left _ hclosed)
    · rintro rfl
      exact h.not_closed (by simp [← List.singleton_inj.1 hlast])

end OpenedSince

theorem GivenSince.concat (h : GivenSince settings events uri text)
    (haccepted : ∀ other, e.accepted? settings ≠ some (uri, other))
    (hclosed : e ≠ .closed uri) :
    GivenSince settings (events ++ [e]) uri text := by
  obtain ⟨first, since, hopened, hgiven⟩ := h
  refine ⟨first, since ++ [e], hopened.concat haccepted hclosed, ?_⟩
  rcases hgiven with hgiven | hgiven
  · exact .inl hgiven
  · exact .inr (List.mem_append_left _ hgiven)

theorem Admissible.concat {model : Model} (h : Admissible settings events uri model)
    (haccepted : ∀ other, e.accepted? settings ≠ some (uri, other))
    (hclosed : e ≠ .closed uri) :
    Admissible settings (events ++ [e]) uri model := by
  rcases h with ⟨text, since, hopened, hmodel⟩ | ⟨text, hgiven, hmodel⟩
  · exact .inl ⟨text, since ++ [e], hopened.concat haccepted hclosed, hmodel⟩
  · exact .inr ⟨text, hgiven.concat haccepted hclosed, hmodel⟩

theorem Admissible.isOpen {model : Model} (h : Admissible settings events uri model) :
    IsOpen settings events uri := by
  rcases h with ⟨text, since, hopened, -⟩ | ⟨text, ⟨first, since, hopened, -⟩, -⟩
  · exact ⟨text, since, hopened⟩
  · exact ⟨first, since, hopened⟩

theorem IsOpen.givenSince_changed (h : IsOpen settings events uri) (text : String) :
    GivenSince settings (events ++ [.changed uri text]) uri text := by
  obtain ⟨first, since, hopened⟩ := h
  refine ⟨first, since ++ [.changed uri text], ?_, by simp⟩
  exact hopened.concat (by simp [Event.accepted?]) (by simp)

theorem isOpen_concat :
    IsOpen settings (events ++ [e]) uri ↔
      (∃ text, e.accepted? settings = some (uri, text)) ∨
        IsOpen settings events uri ∧ e ≠ .closed uri := by
  constructor
  · rintro ⟨text, since, h⟩
    rcases h.of_concat with haccepted | hopen
    · exact .inl ⟨text, haccepted⟩
    · exact .inr hopen
  · rintro (⟨text, haccepted⟩ | ⟨⟨text, since, h⟩, hclosed⟩)
    · exact ⟨text, [], .of_accepted events haccepted⟩
    · by_cases haccepted : ∃ other, e.accepted? settings = some (uri, other)
      · obtain ⟨other, haccepted⟩ := haccepted
        exact ⟨other, [], .of_accepted events haccepted⟩
      · rw [not_exists] at haccepted
        exact ⟨text, since ++ [e], h.concat haccepted hclosed⟩

/-- A document that is open and was not opened in the latest events was open before them. -/
theorem IsOpen.of_append {after : List Event} (h : IsOpen settings (events ++ after) uri)
    (hafter : ∀ e ∈ after, ∀ text, e.accepted? settings ≠ some (uri, text)) :
    IsOpen settings events uri ∧ .closed uri ∉ after := by
  induction after using List.reverseRecOn with
  | nil =>
    rw [List.append_nil] at h
    exact ⟨h, List.not_mem_nil⟩
  | append_singleton after e ih =>
    rw [← List.append_assoc, isOpen_concat] at h
    rcases h with ⟨text, haccepted⟩ | ⟨h, hclosed⟩
    · exact absurd haccepted (hafter e (by simp) text)
    · obtain ⟨hopen, hnot⟩ := ih h fun e' he' => hafter e' (List.mem_append_left _ he')
      refine ⟨hopen, ?_⟩
      simp [hnot, hclosed.symm]

end

namespace Session

section
variable {settings : Settings} {events : List Event} {e : Event} {uri : Uri} {text : String}

theorem next_run (settings : Settings) (engine : Engine) (events : List Event) :
    (run settings engine {} events).1.store.next = nextStamp settings events := by
  refine run_induction settings engine
    (P := fun events s => s.store.next = nextStamp settings events) rfl ?_ events
  intro events e s result ih h
  unfold Store.next nextStamp at ih ⊢
  rw [h.clock, List.countP_append, List.countP_singleton]
  omega

theorem isSome_stored?_run (settings : Settings) (engine : Engine)
    (events : List Event) (uri : Uri) :
    ((run settings engine {} events).1.store.stored? uri).isSome ↔
      IsOpen settings events uri := by
  refine run_induction settings engine
    (P := fun events s => (s.store.stored? uri).isSome ↔
      IsOpen settings events uri) ?_ ?_ events
  · constructor
    · intro h
      simp [Store.stored?, Keyed.find?] at h
    · rintro ⟨text, since, ⟨before, e, hsplit, _⟩, _, _⟩
      simp at hsplit
  · intro events e s result ih h
    rw [h.isSome_stored? uri, isOpen_concat, ih]

/--
What is stored for a document, and the analysis that may replace it, are of texts given since.
-/
structure Traced (settings : Settings) (events : List Event) (s : Session) (uri : Uri)
    (entry : Store.Entry) : Prop where
  stamp_le : entry.stamp ≤ s.store.clock
  model : Admissible settings events uri entry.model
  task : ∀ task, s.tasks.find? entry.stamp = some task →
    GivenSince settings events uri task.text

namespace Traced

variable {s : Session} {entry : Store.Entry} {result : Session × List Output}

theorem of_accepted (s : Session) (h : e.accepted? settings = some (uri, text)) :
    Traced settings (events ++ [e])
      { store := s.store.register uri text
        tasks := s.tasks.put s.store.next ⟨uri, text, .opened, .accepted⟩ } uri
      ⟨s.store.next, .pending text⟩ := by
  have hopened := OpenedSince.of_accepted events h
  refine ⟨Nat.le_refl _, .inl ⟨text, [], hopened, rfl⟩, ?_⟩
  intro task htask
  rw [Keyed.find?_put_self, Option.some.injEq] at htask
  rw [← htask]
  exact ⟨text, [], hopened, .inl rfl⟩

/-- A changed document keeps its model and waits for the analysis of the new text. -/
theorem changed (h : Traced settings events s uri entry) (text : String) :
    Traced settings (events ++ [.changed uri text]) (s.changeDocument uri text) uri
      ⟨s.store.next, entry.model⟩ := by
  refine ⟨Nat.le_refl _, ?_, ?_⟩
  · exact h.model.concat (by simp [Event.accepted?]) (by simp)
  · intro task htask
    simp only [changeDocument, Keyed.find?_put_self, Option.some.injEq] at htask
    rw [← htask]
    exact h.model.isOpen.givenSince_changed text

theorem transition (h : Traced settings events s uri entry)
    (htransition : Transition settings .standard s e result)
    (hentry : s.store.stored? uri = some entry)
    (hedit : ∀ text, e.edit? settings ≠ some (uri, text)) (hclosed : e ≠ .closed uri)
    {entry' : Store.Entry} (hentry' : result.1.store.stored? uri = some entry') :
    Traced settings (events ++ [e]) result.1 uri entry' := by
  have haccepted : ∀ other, e.accepted? settings ≠ some (uri, other) :=
    fun other haccepted => hedit other (Event.edit?_eq_some_iff.2 (.inl haccepted))
  have hkept : entry'.stamp = entry.stamp ∧
      Admissible settings (events ++ [e]) uri entry'.model := by
    rcases htransition.stored? hentry hedit hclosed with
      hsame | ⟨task, analysis, -, htask, hresult, hnew⟩
    · obtain rfl : entry = entry' := by simpa [hsame] using hentry'
      exact ⟨rfl, h.model.concat haccepted hclosed⟩
    · obtain rfl : _ = entry' := by simpa [hnew] using hentry'
      obtain rfl : Analysis.ofText task.text = analysis := by
        simpa [Engine.standard] using hresult
      exact ⟨rfl, .inr ⟨task.text, (h.task task htask).concat haccepted hclosed, rfl⟩⟩
  obtain ⟨hstamp, hmodel⟩ := hkept
  refine ⟨?_, hmodel, ?_⟩
  · rw [hstamp, htransition.clock]
    exact Nat.le_add_right_of_le h.stamp_le
  · intro task htask
    rw [hstamp] at htask
    obtain ⟨task₀, htask₀, htext⟩ := htransition.text_eq h.stamp_le htask
    rw [← htext]
    exact (h.task task₀ htask₀).concat haccepted hclosed

end Traced

/-- What is stored for a document is always of a text that it was given since it was opened. -/
theorem traced_run (settings : Settings) (events : List Event) (uri : Uri) :
    ∀ entry, (run settings .standard {} events).1.store.stored? uri = some entry →
      Traced settings events (run settings .standard {} events).1 uri entry := by
  refine run_induction settings .standard (P := fun events s => ∀ entry,
    s.store.stored? uri = some entry → Traced settings events s uri entry) ?_ ?_ events
  · intro entry h
    simp [Store.stored?, Keyed.find?] at h
  · intro events e s result ih h entry' hentry'
    have hstored := (h.isSome_stored? uri).1 (by simp [hentry'])
    by_cases hedit : ∃ text, e.edit? settings = some (uri, text)
    · obtain ⟨text, hedit⟩ := hedit
      rcases h.of_edit hedit with ⟨haccepted, hresult⟩ | ⟨rfl, hresult⟩
      · rw [hresult] at hentry' ⊢
        rw [Store.stored?_register, if_pos rfl, Option.some.injEq] at hentry'
        rw [← hentry']
        exact .of_accepted s haccepted
      · rw [hresult] at hentry' ⊢
        simp only [changeDocument, Store.stored?_begin, if_true,
          Option.map_eq_some_iff] at hentry'
        obtain ⟨entry, hentry, rfl⟩ := hentry'
        exact (ih entry hentry).changed text
    · rw [not_exists] at hedit
      rcases hstored with ⟨text, haccepted⟩ | ⟨hstored, hclosed⟩
      · exact absurd (Event.edit?_eq_some_iff.2 (.inl haccepted)) (hedit text)
      · obtain ⟨entry, hentry⟩ := Option.isSome_iff_exists.1 hstored
        exact (ih entry hentry).transition h hentry hedit hclosed hentry'

/-- A stamp is the latest of a document, and its analysis is that of a text. -/
structure Latest (s : Session) (uri : Uri) (stamp : Nat) (text : String) : Prop where
  entry : ∃ model, s.store.stored? uri = some ⟨stamp, model⟩
  stamp_le : stamp ≤ s.store.clock
  task : ∀ task, s.tasks.find? stamp = some task → task.text = text

/-- What has still to happen until the model of a document is that of a text. -/
inductive Due (s : Session) (uri : Uri) (stamp : Nat) (text : String) : List Event → Prop where
  | accepted (h : s.tasks.find? stamp = some ⟨uri, text, .opened, .accepted⟩) :
    Due s uri stamp text [.announced stamp, .finished stamp]
  | running {trigger : Trigger}
    (h : s.tasks.find? stamp = some ⟨uri, text, trigger, .running⟩) :
    Due s uri stamp text [.finished stamp]
  | done (h : s.store.stored? uri = some ⟨stamp, .ofText text⟩) : Due s uri stamp text []

section
variable {s : Session} {result : Session × List Output} {stamp : Nat}

theorem latest_of_edit {engine : Engine} (h : Transition settings engine s e result)
    (hedit : e.edit? settings = some (uri, text))
    (hstored : (result.1.store.stored? uri).isSome) :
    Latest result.1 uri s.store.next text := by
  rcases h.of_edit hedit with ⟨-, hresult⟩ | ⟨-, hresult⟩
  · rw [hresult]
    refine ⟨⟨.pending text, ?_⟩, Nat.le_refl _, ?_⟩
    · rw [Store.stored?_register, if_pos rfl]
    · intro task htask
      rw [Keyed.find?_put_self, Option.some.injEq] at htask
      rw [← htask]
  · rw [hresult] at hstored ⊢
    simp only [changeDocument, Store.stored?_begin, if_true, Option.isSome_map] at hstored
    obtain ⟨entry, hentry⟩ := Option.isSome_iff_exists.1 hstored
    refine ⟨⟨entry.model, ?_⟩, Nat.le_refl _, ?_⟩
    · simp only [changeDocument, Store.stored?_begin, if_true, hentry, Option.map_some]
    · intro task htask
      simp only [changeDocument, Keyed.find?_put_self, Option.some.injEq] at htask
      rw [← htask]

theorem due_of_edit {engine : Engine} (h : Transition settings engine s e result)
    (hedit : e.edit? settings = some (uri, text)) :
    Due result.1 uri s.store.next text (e.course s.store.next) := by
  rcases h.of_edit hedit with ⟨haccepted, hresult⟩ | ⟨rfl, hresult⟩
  · have hcourse : e.course s.store.next =
        [.announced s.store.next, .finished s.store.next] := by
      cases e <;> first | rfl | simp [Event.accepted?] at haccepted
    rw [hresult, hcourse]
    exact .accepted (Keyed.find?_put_self ..)
  · rw [hresult]
    exact .running (Keyed.find?_put_self ..)

theorem Latest.transition {engine : Engine} (hlatest : Latest s uri stamp text)
    (h : Transition settings engine s e result)
    (hedit : ∀ text, e.edit? settings ≠ some (uri, text)) (hclosed : e ≠ .closed uri) :
    Latest result.1 uri stamp text := by
  obtain ⟨model, hentry⟩ := hlatest.entry
  refine ⟨?_, ?_, ?_⟩
  · rcases h.stored? hentry hedit hclosed with hsame | ⟨task, analysis, -, -, -, hnew⟩
    · exact ⟨model, hsame⟩
    · exact ⟨.analysed task.text analysis, hnew⟩
  · rw [h.clock]
    exact Nat.le_add_right_of_le hlatest.stamp_le
  · intro task htask
    obtain ⟨task₀, htask₀, htext⟩ := h.text_eq hlatest.stamp_le htask
    rw [← htext]
    exact hlatest.task task₀ htask₀

/--
An event takes an analysis on if it is the next one of its course, and else does it no harm.
-/
theorem Due.transition {course : List Event} (hdue : Due s uri stamp text course)
    (hlatest : Latest s uri stamp text) (h : Transition settings .standard s e result)
    (hedit : ∀ text, e.edit? settings ≠ some (uri, text)) (hclosed : e ≠ .closed uri) :
    (∃ rest, course = e :: rest ∧ Due result.1 uri stamp text rest) ∨
      course.head? ≠ some e ∧ Due result.1 uri stamp text course := by
  obtain ⟨model, hentry⟩ := hlatest.entry
  cases hdue with
  | accepted hdue =>
    by_cases he : e = .announced stamp
    · subst he
      exact .inl ⟨_, rfl, .running (h.find?_tasks_of_announced hdue rfl)⟩
    · have hidle : ∀ stage, ¬Stage.Advances stamp e .accepted stage := by
        rintro stage ⟨⟩
        exact he rfl
      have hkept := h.find?_tasks_of_not_advances hlatest.stamp_le hdue hidle
      exact .inr ⟨by simpa using Ne.symm he, .accepted hkept⟩
  | running hdue =>
    by_cases he : e = .finished stamp
    · subst he
      exact .inl ⟨_, rfl, .done (h.stored?_of_finished hdue rfl rfl hentry)⟩
    · have hidle : ∀ stage, ¬Stage.Advances stamp e .running stage := by
        rintro stage ⟨⟩
        exact he rfl
      have hkept := h.find?_tasks_of_not_advances hlatest.stamp_le hdue hidle
      exact .inr ⟨by simpa using Ne.symm he, .running hkept⟩
  | done hdue =>
    -- Only the analysis with the latest stamp could replace the model, and it is of the same
    -- text.
    refine .inr ⟨by simp, .done ?_⟩
    rcases h.stored? hdue hedit hclosed with hsame | ⟨task, analysis, -, htask, hresult, hnew⟩
    · exact hsame
    · obtain rfl : Analysis.ofText task.text = analysis := by
        simpa [Engine.standard] using hresult
      rw [hlatest.task task htask] at hnew
      exact hnew

/--
Once its course has been run, the analysis has given the document its model, which then stays.
-/
theorem Due.run {course after : List Event} (hdue : Due s uri stamp text course)
    (hlatest : Latest s uri stamp text)
    (hedit : ∀ e ∈ after, ∀ text, e.edit? settings ≠ some (uri, text))
    (hclosed : .closed uri ∉ after) (hcourse : course.Sublist after) :
    (run settings .standard s after).1.store.find? uri = some (.ofText text) := by
  induction after generalizing s course with
  | nil =>
    rw [List.sublist_nil] at hcourse
    subst hcourse
    cases hdue with
    | done hstored =>
      change (s.store.stored? uri).map Store.Entry.model = _
      rw [hstored]
      rfl
  | cons e after ih =>
    rw [List.mem_cons, not_or] at hclosed
    have h := transition_step settings .standard s e
    have he := hedit e List.mem_cons_self
    have hlatest' := hlatest.transition h he (Ne.symm hclosed.1)
    have hedit' : ∀ e' ∈ after, ∀ text, e'.edit? settings ≠ some (uri, text) :=
      fun e' he' => hedit e' (List.mem_cons_of_mem _ he')
    rcases hdue.transition hlatest h he (Ne.symm hclosed.1)
      with ⟨rest, rfl, hdue'⟩ | ⟨hhead, hdue'⟩
    · exact ih hdue' hlatest' hedit' hclosed.2 (List.cons_sublist_cons.1 hcourse)
    · rcases List.sublist_cons_iff.1 hcourse with hcourse | ⟨rest, rfl, -⟩
      · exact ih hdue' hlatest' hedit' hclosed.2 hcourse
      · simp at hhead

end

/--
After every run of events, in whatever order the analyses end: the model that is stored for a
document is one that it may have; once the analysis that its latest edit started has ended, it
is the model of the text of that edit; and only for documents that are open anything is stored.
-/
theorem find?_run_fresh (settings : Settings) (events : List Event) (uri : Uri) :
    let store := (run settings .standard {} events).1.store
    (∀ model, store.find? uri = some model → Admissible settings events uri model) ∧
    (∀ before e after text, events = before ++ e :: after →
      e.edit? settings = some (uri, text) →
      (∀ e' ∈ after, ∀ other, e'.edit? settings ≠ some (uri, other)) →
      IsOpen settings events uri → (e.course (nextStamp settings before)).Sublist after →
      store.find? uri = some (.ofText text)) ∧
    (store.find? uri = none ↔ ¬IsOpen settings events uri) := by
  intro store
  refine ⟨?_, ?_, ?_⟩
  · intro model hmodel
    obtain ⟨entry, hentry, rfl⟩ := Option.map_eq_some_iff.1 hmodel
    exact (traced_run settings events uri entry hentry).model
  · intro before e after text hsplit hedit hlast hopen hcourse
    have hnot : ∀ e' ∈ after, ∀ other, e'.accepted? settings ≠ some (uri, other) :=
      fun e' he' other h => hlast e' he' other (Event.edit?_eq_some_iff.2 (.inl h))
    have hsplit' : events = (before ++ [e]) ++ after := by simpa using hsplit
    rw [hsplit'] at hopen
    obtain ⟨hopen, hclosed⟩ := hopen.of_append hnot
    have hstored := (isSome_stored?_run settings .standard (before ++ [e]) uri).2 hopen
    rw [run_concat] at hstored
    have h := transition_step settings .standard (run settings .standard {} before).1 e
    have hlatest := latest_of_edit h hedit hstored
    have hdue := due_of_edit h hedit
    rw [next_run] at hlatest hdue
    have hrun := hdue.run hlatest hlast hclosed hcourse
    rwa [← run_concat, ← fst_run_append, ← hsplit'] at hrun
  · rw [← isSome_stored?_run settings .standard events uri, Store.find?_eq_map_stored?,
      Option.map_eq_none_iff, Option.not_isSome_iff_eq_none]

end

def ledgerUri : Uri :=
  ⟨"file:///ledger.cbl"⟩

theorem find?_run_late_analysis :
    let events : List Event :=
      [.opened ledgerUri "cobol" "A", .changed ledgerUri "B", .announced 1,
        .finished 2, .finished 1]
    IsOpen .defaults events ledgerUri ∧
      (run .defaults .standard {} events).1.store.find? ledgerUri = some (.ofText "B") := by
  intro events
  have haccepted :
      (Event.opened ledgerUri "cobol" "A").accepted? .defaults = some (ledgerUri, "A") := by
    decide +kernel
  have hopen : IsOpen .defaults events ledgerUri := by
    refine ⟨"A", _, ⟨[], _, rfl, haccepted⟩, ?_, by decide⟩
    simp [Event.accepted?]
  have hcourse : ((Event.changed ledgerUri "B").course
      (nextStamp .defaults [.opened ledgerUri "cobol" "A"])).Sublist
      [.announced 1, .finished 2, .finished 1] := by
    decide +kernel
  refine ⟨hopen, (find?_run_fresh .defaults events ledgerUri).2.1 _ _ _ "B" ?_ rfl ?_
    hopen hcourse⟩
  · rfl
  · simp [Event.edit?, Event.accepted?]

end Session

end CobolCompanion
