import CobolCompanion.Server.Session
import Mathlib.Data.List.Induction

namespace CobolCompanion

namespace Store

/-- What is stored for a document: its latest stamp and its model. -/
def stored? (s : Store) (uri : Uri) : Option Entry :=
  s.entries.find? uri

section
variable (s : Store) (uri other : Uri)

theorem find?_eq_map_stored? : s.find? uri = (s.stored? uri).map Entry.model := rfl

theorem stored?_register (text : String) :
    (s.register uri text).stored? other =
      if uri = other then some ⟨s.next, .pending text⟩ else s.stored? other :=
  Keyed.find?_put ..

theorem stored?_begin :
    (s.begin uri).stored? other =
      if uri = other then (s.stored? other).map fun entry => ⟨s.next, entry.model⟩
      else s.stored? other := by
  unfold stored? begin
  cases hentry : s.entries.find? uri with
  | none =>
    dsimp only
    split
    · next heq => simp [← heq, hentry]
    · rfl
  | some entry =>
    dsimp only
    rw [Keyed.find?_put]
    split
    · next heq => simp [← heq, hentry]
    · rfl

theorem outcome_eq_committed_iff {stamp : Nat} :
    s.outcome uri stamp = .committed ↔ ∃ model, s.stored? uri = some ⟨stamp, model⟩ := by
  unfold outcome stored?
  cases s.entries.find? uri with
  | none => simp
  | some entry =>
    obtain ⟨latest, model⟩ := entry
    by_cases h : latest = stamp <;> simp [h]

theorem stored?_commit (stamp : Nat) (model : Model) :
    (s.commit uri stamp model).stored? other =
      if uri = other then
        (s.stored? other).map fun entry => if entry.stamp = stamp then ⟨stamp, model⟩ else entry
      else s.stored? other := by
  by_cases hcommitted : s.outcome uri stamp = .committed
  · obtain ⟨old, hentry⟩ := (s.outcome_eq_committed_iff uri).1 hcommitted
    simp only [commit, hcommitted]
    refine (Keyed.find?_put ..).trans ?_
    split
    · next heq => simp [← heq, hentry]
    · rfl
  · rw [s.commit_eq_self uri model hcommitted]
    split
    · next heq =>
      subst heq
      cases hentry : s.stored? uri with
      | none => rfl
      | some entry =>
        have hstamp : entry.stamp ≠ stamp := by
          rintro rfl
          exact hcommitted ((s.outcome_eq_committed_iff uri).2 ⟨entry.model, hentry⟩)
        simp [hstamp]
    · rfl

theorem stored?_remove :
    (s.remove uri).stored? other = if uri = other then none else s.stored? other :=
  Keyed.find?_erase ..

@[simp] theorem clock_commit (stamp : Nat) (model : Model) :
    (s.commit uri stamp model).clock = s.clock := by
  unfold commit
  split <;> rfl

end

end Store

namespace Event

/-- The document that an event opens, with its text, unless the document is turned away. -/
def accepted? (settings : Settings) : Event → Option (Uri × String)
  | opened uri language text =>
    if classify settings uri language = .recognized then some (uri, text) else none
  | _ => none

/-- The document to which an event gives a text that is then analysed, with the text. -/
def edit? (settings : Settings) : Event → Option (Uri × String)
  | changed uri text => some (uri, text)
  | e => e.accepted? settings

theorem edit?_eq_some_iff {settings : Settings} {e : Event} {uri : Uri} {text : String} :
    e.edit? settings = some (uri, text) ↔
      e.accepted? settings = some (uri, text) ∨ e = .changed uri text := by
  cases e <;> simp [edit?, accepted?]

theorem edit?_of_mem_stages {settings : Settings} {e : Event} {stamp : Nat}
    (h : e ∈ [.announced stamp, .finished stamp, .reported stamp]) :
    e.edit? settings = none := by
  simp only [List.mem_cons, List.not_mem_nil, or_false] at h
  rcases h with rfl | rfl | rfl <;> rfl

end Event

/-- How an event takes the analysis with a stamp from one stage to the next. -/
inductive Stage.Advances (stamp : Nat) : Event → Stage → Stage → Prop where
  | announced : Advances stamp (.announced stamp) accepted running
  | finished (notices : List Notice) :
    Advances stamp (.finished stamp) running (reporting notices)
  | reported (notice : Notice) (rest : List Notice) :
    Advances stamp (.reported stamp) (reporting (notice :: rest)) (reporting rest)

namespace Session

section
variable (s : Session) (stamp : Nat) (task : Task) (stage : Stage)

@[simp] theorem store_moveTo : (s.moveTo stamp task stage).store = s.store := by
  unfold moveTo
  split <;> rfl

theorem find?_moveTo_of_ne {other : Nat} (h : stamp ≠ other) :
    (s.moveTo stamp task stage).tasks.find? other = s.tasks.find? other := by
  unfold moveTo
  split
  · exact Keyed.find?_erase_of_ne _ h
  · exact Keyed.find?_put_of_ne _ _ h

theorem find?_moveTo_self :
    (s.moveTo stamp task stage).tasks.find? stamp =
      if stage = .reporting [] then none else some { task with stage } := by
  unfold moveTo
  split
  · simp
  · next hstage => simpa using hstage

end

/-- What an event does, case by case. -/
inductive Transition (settings : Settings) (engine : Engine) (s : Session) :
    Event → Session × List Output → Prop where
  | accept {uri : Uri} {language text : String}
    (h : classify settings uri language = .recognized) :
    Transition settings engine s (.opened uri language text)
      ({ store := s.store.register uri text
         tasks := s.tasks.put s.store.next ⟨uri, text, .opened, .accepted⟩ }, [])
  | reject {uri : Uri} {language text : String}
    (h : classify settings uri language ≠ .recognized)
    (notice : Notice) :
      Transition settings engine s (.opened uri language text) (s, [.notice notice])
  | change (uri : Uri) (text : String) :
    Transition settings engine s (.changed uri text) (s.changeDocument uri text, [])
  | close (uri : Uri) :
    Transition settings engine s (.closed uri) ({ s with store := s.store.remove uri }, [])
  | announce {stamp : Nat} {task : Task} (h : s.tasks.find? stamp = some task)
    (hstage : task.stage = .accepted) :
    Transition settings engine s (.announced stamp)
      (s.moveTo stamp task .running, [.notice (.loading task.uri)])
  | fail {stamp : Nat} {task : Task} (h : s.tasks.find? stamp = some task)
    (hstage : task.stage = .running) {fault : AnalysisFault}
    (hresult : engine stamp task.text = .error fault) :
    Transition settings engine s (.finished stamp)
      (s.moveTo stamp task (.reporting []), [.log (.analysisFailed task.uri fault)])
  | conclude {stamp : Nat} {task : Task} (h : s.tasks.find? stamp = some task)
    (hstage : task.stage = .running) {analysis : Analysis}
    (hresult : engine stamp task.text = .ok analysis) :
    Transition settings engine s (.finished stamp)
      (({ s with store := s.store.commit task.uri stamp (.analysed task.text analysis) }).moveTo
          stamp task (.reporting (task.notices analysis (s.store.outcome task.uri stamp))),
        task.logged stamp (s.store.outcome task.uri stamp))
  | report {stamp : Nat} {task : Task} (h : s.tasks.find? stamp = some task) {notice : Notice}
    {rest : List Notice} (hstage : task.stage = .reporting (notice :: rest)) :
    Transition settings engine s (.reported stamp)
      (s.moveTo stamp task (.reporting rest), [.notice notice])
  /-- The analysis is not at the point where the event takes it on. -/
  | idle (stamp : Nat) {e : Event}
    (he : e ∈ [.announced stamp, .finished stamp, .reported stamp])
    (hstage : ∀ task, s.tasks.find? stamp = some task →
      (e = .announced stamp → task.stage ≠ .accepted) ∧
        (e = .finished stamp → task.stage ≠ .running)) :
    Transition settings engine s e (s, [])

theorem transition_step (settings : Settings) (engine : Engine) (s : Session) (e : Event) :
    Transition settings engine s e (s.step settings engine e) := by
  cases e with
  | opened uri language text =>
    simp only [step, openDocument]
    cases h : classify settings uri language with
    | recognized => exact .accept h
    | unsupportedExtension extension => exact .reject (by simp [h]) _
    | engineNotFound => exact .reject (by simp [h]) _
  | changed uri text => exact .change uri text
  | closed uri => exact .close uri
  | announced stamp =>
    simp only [step, Session.announce]
    cases h : s.tasks.find? stamp with
    | none => exact .idle stamp (by simp) (by simp [h])
    | some task =>
      dsimp only
      split
      · next hstage => exact .announce h hstage
      · next hstage => exact .idle stamp (by simp) (by simpa [h] using hstage)
  | finished stamp =>
    simp only [step, finish]
    cases h : s.tasks.find? stamp with
    | none => exact .idle stamp (by simp) (by simp [h])
    | some task =>
      dsimp only
      split
      · next hstage =>
        cases hresult : engine stamp task.text with
        | error fault => exact .fail h hstage hresult
        | ok analysis => exact .conclude h hstage hresult
      · next hstage => exact .idle stamp (by simp) (by simpa [h] using hstage)
  | reported stamp =>
    simp only [step, Session.report]
    cases h : s.tasks.find? stamp with
    | none => exact .idle stamp (by simp) (by simp)
    | some task =>
      dsimp only
      split
      · next hstage => exact .report h hstage
      · exact .idle stamp (by simp) (by simp)

namespace Transition

variable {settings : Settings} {engine : Engine} {s : Session} {e : Event} {uri : Uri}
variable {result : Session × List Output}

/-- Every edit takes one stamp, and nothing else does. -/
theorem clock (h : Transition settings engine s e result) :
    result.1.store.clock = s.store.clock + if (e.edit? settings).isSome then 1 else 0 := by
  cases h with
  | accept h => simp [Event.edit?, Event.accepted?, h, Store.register, Store.next]
  | reject h => simp [Event.edit?, Event.accepted?, h]
  | change uri text => rfl
  | close uri => rfl
  | announce h hstage => simp [Event.edit?, Event.accepted?]
  | fail h hstage hresult => simp [Event.edit?, Event.accepted?]
  | conclude h hstage hresult => simp [Event.edit?, Event.accepted?]
  | report h hstage => simp [Event.edit?, Event.accepted?]
  | idle stamp he hstage => simp [Event.edit?_of_mem_stages he]

theorem of_edit (h : Transition settings engine s e result) {text : String}
    (hedit : e.edit? settings = some (uri, text)) :
    e.accepted? settings = some (uri, text) ∧
        result.1 = { store := s.store.register uri text
                     tasks := s.tasks.put s.store.next ⟨uri, text, .opened, .accepted⟩ } ∨
      e = .changed uri text ∧ result.1 = s.changeDocument uri text := by
  rcases Event.edit?_eq_some_iff.1 hedit with haccepted | rfl
  · refine .inl ⟨haccepted, ?_⟩
    cases h with
    | accept h =>
      simp only [Event.accepted?, h, if_true, Option.some.injEq, Prod.mk.injEq] at haccepted
      obtain ⟨rfl, rfl⟩ := haccepted
      rfl
    | reject h notice => simp [Event.accepted?, h] at haccepted
    | idle stamp he hstage => simp [Event.edit?_of_mem_stages he] at hedit
    | _ => simp [Event.accepted?] at haccepted
  · refine .inr ⟨rfl, ?_⟩
    cases h with
    | change => rfl
    | idle stamp he hstage => simp at he

/--
Between two edits of a document, what is stored for it changes only when an analysis of it ends
with its latest stamp.
-/
theorem stored? (h : Transition settings engine s e result) {entry : Store.Entry}
    (hentry : s.store.stored? uri = some entry)
    (hedit : ∀ text, e.edit? settings ≠ some (uri, text)) (hclosed : e ≠ .closed uri) :
    result.1.store.stored? uri = some entry ∨
      ∃ task analysis, e = .finished entry.stamp ∧ s.tasks.find? entry.stamp = some task ∧
        engine entry.stamp task.text = .ok analysis ∧
        result.1.store.stored? uri = some ⟨entry.stamp, .analysed task.text analysis⟩ := by
  cases h with
  | @accept uri' language text h =>
    left
    have hne : uri' ≠ uri := by
      rintro rfl
      exact hedit text (if_pos h)
    rw [Store.stored?_register, if_neg hne, hentry]
  | change uri' text =>
    left
    have hne : uri' ≠ uri := by
      rintro rfl
      exact hedit text rfl
    simp only [changeDocument, Store.stored?_begin, if_neg hne, hentry]
  | close uri' =>
    left
    have hne : uri' ≠ uri := by
      rintro rfl
      exact hclosed rfl
    rw [Store.stored?_remove, if_neg hne, hentry]
  | @conclude stamp task h hstage analysis hresult =>
    simp only [store_moveTo, Store.stored?_commit, hentry]
    by_cases hcommits : task.uri = uri ∧ entry.stamp = stamp
    · obtain ⟨rfl, rfl⟩ := hcommits
      right
      exact ⟨task, analysis, rfl, h, hresult, by simp⟩
    · left
      rw [not_and] at hcommits
      split
      · next heq => simp [hcommits heq]
      · rfl
  | reject h notice => exact .inl hentry
  | announce h hstage => simp [hentry]
  | fail h hstage hresult => simp [hentry]
  | report h hstage => simp [hentry]
  | idle stamp he hstage => exact .inl hentry

/-- An analysis under way stays as it is, or its own event takes it to the next stage. -/
theorem find?_tasks (h : Transition settings engine s e result) {stamp : Nat}
    (hstamp : stamp ≤ s.store.clock) :
    result.1.tasks.find? stamp = s.tasks.find? stamp ∨
      ∃ task stage, s.tasks.find? stamp = some task ∧ Stage.Advances stamp e task.stage stage ∧
        result.1.tasks.find? stamp =
          if stage = .reporting [] then none else some { task with stage } := by
  have hnext : s.store.next ≠ stamp := by
    unfold Store.next
    omega
  have hmove : ∀ {other : Nat} {task : Task} {stage : Stage} {store : Store},
      s.tasks.find? other = some task → Stage.Advances other e task.stage stage →
      let moved := ({ s with store }).moveTo other task stage
      moved.tasks.find? stamp = s.tasks.find? stamp ∨
        ∃ task stage, s.tasks.find? stamp = some task ∧
          Stage.Advances stamp e task.stage stage ∧
          moved.tasks.find? stamp =
            if stage = .reporting [] then none else some { task with stage } := by
    intro other task stage store htask hadvances
    by_cases heq : other = stamp
    · subst heq
      exact .inr ⟨task, stage, htask, hadvances, find?_moveTo_self ..⟩
    · exact .inl (find?_moveTo_of_ne _ _ _ _ heq)
  cases h with
  | accept h => exact .inl (Keyed.find?_put_of_ne _ _ hnext)
  | change uri text => exact .inl (Keyed.find?_put_of_ne _ _ hnext)
  | announce h hstage => exact hmove h (hstage ▸ .announced)
  | fail h hstage hresult => exact hmove h (hstage ▸ .finished _)
  | conclude h hstage hresult => exact hmove h (hstage ▸ .finished _)
  | report h hstage => exact hmove h (hstage ▸ .reported _ _)
  | reject h notice => exact .inl rfl
  | close uri => exact .inl rfl
  | idle stamp he hstage => exact .inl rfl

theorem find?_tasks_of_not_advances (h : Transition settings engine s e result) {stamp : Nat}
    (hstamp : stamp ≤ s.store.clock) {task : Task} (htask : s.tasks.find? stamp = some task)
    (hstage : ∀ stage, ¬Stage.Advances stamp e task.stage stage) :
    result.1.tasks.find? stamp = some task := by
  rcases h.find?_tasks hstamp with heq | ⟨task', stage, htask', hadvances, -⟩
  · rw [heq, htask]
  · rw [htask, Option.some.injEq] at htask'
    subst htask'
    exact absurd hadvances (hstage stage)

theorem find?_tasks_of_announced {stamp : Nat}
    (h : Transition settings engine s (.announced stamp) result) {task : Task}
    (htask : s.tasks.find? stamp = some task) (hstage : task.stage = .accepted) :
    result.1.tasks.find? stamp = some { task with stage := .running } := by
  cases h with
  | announce htask' hstage' =>
    rw [htask, Option.some.injEq] at htask'
    subst htask'
    rw [find?_moveTo_self, if_neg (by simp)]
  | idle other he hidle =>
    obtain rfl : stamp = other := by simpa using he
    exact absurd hstage ((hidle task htask).1 rfl)

theorem stored?_of_finished {stamp : Nat}
    (h : Transition settings engine s (.finished stamp) result) {task : Task}
    (htask : s.tasks.find? stamp = some task) (hstage : task.stage = .running)
    {analysis : Analysis} (hresult : engine stamp task.text = .ok analysis) {model : Model}
    (hstored : s.store.stored? task.uri = some ⟨stamp, model⟩) :
    result.1.store.stored? task.uri = some ⟨stamp, .analysed task.text analysis⟩ := by
  cases h with
  | fail htask' hstage' hresult' =>
    rw [htask, Option.some.injEq] at htask'
    subst htask'
    simp [hresult] at hresult'
  | conclude htask' hstage' hresult' =>
    rw [htask, Option.some.injEq] at htask'
    subst htask'
    rw [hresult, Except.ok.injEq] at hresult'
    subst hresult'
    simp [Store.stored?_commit, hstored]
  | idle other he hidle =>
    obtain rfl : stamp = other := by simpa using he
    exact absurd hstage ((hidle task htask).2 rfl)

theorem text_eq (h : Transition settings engine s e result) {stamp : Nat}
    (hstamp : stamp ≤ s.store.clock) {task' : Task}
    (htask' : result.1.tasks.find? stamp = some task') :
    ∃ task, s.tasks.find? stamp = some task ∧ task.text = task'.text := by
  rcases h.find?_tasks hstamp with heq | ⟨task, stage, htask, -, heq⟩
  · exact ⟨task', heq ▸ htask', rfl⟩
  · refine ⟨task, htask, ?_⟩
    rw [heq, Option.ite_none_left_eq_some, Option.some.injEq] at htask'
    rw [← htask'.2]

/-- A document is stored from the event that opens it to the one that closes it. -/
theorem isSome_stored? (h : Transition settings engine s e result) (uri : Uri) :
    (result.1.store.stored? uri).isSome ↔
      (∃ text, e.accepted? settings = some (uri, text)) ∨
        (s.store.stored? uri).isSome ∧ e ≠ .closed uri := by
  cases h with
  | @accept uri' language text h =>
    by_cases heq : uri' = uri
    · subst heq
      simp [Store.stored?_register, Event.accepted?, h]
    · simp [Store.stored?_register, Event.accepted?, h, heq]
  | reject h notice => simp [Event.accepted?, h]
  | change uri' text =>
    by_cases heq : uri' = uri <;>
      simp [changeDocument, Store.stored?_begin, Event.accepted?, heq]
  | close uri' =>
    by_cases heq : uri' = uri <;> simp [Store.stored?_remove, Event.accepted?, heq]
  | announce h hstage => simp [Event.accepted?]
  | fail h hstage hresult => simp [Event.accepted?]
  | @conclude stamp task h hstage analysis hresult =>
    by_cases heq : task.uri = uri <;> simp [Store.stored?_commit, Event.accepted?, heq]
  | report h hstage => simp [Event.accepted?]
  | idle stamp he hstage =>
    simp only [List.mem_cons, List.not_mem_nil, or_false] at he
    rcases he with rfl | rfl | rfl <;> simp [Event.accepted?]

end Transition

theorem fst_run_append (settings : Settings) (engine : Engine) (s : Session)
    (events more : List Event) :
    (s.run settings engine (events ++ more)).1 =
      ((s.run settings engine events).1.run settings engine more).1 := by
  rw [run_append]

theorem run_concat (settings : Settings) (engine : Engine) (s : Session) (events : List Event)
    (e : Event) :
    (s.run settings engine (events ++ [e])).1 =
      ((s.run settings engine events).1.step settings engine e).1 := by
  rw [fst_run_append]
  rfl

/-- What holds before all events and is kept by each of them holds after every run. -/
theorem run_induction (settings : Settings) (engine : Engine) {P : List Event → Session → Prop}
    (hnil : P [] {})
    (hconcat : ∀ events e s result, P events s → Transition settings engine s e result →
      P (events ++ [e]) result.1) (events : List Event) :
    P events (run settings engine {} events).1 := by
  induction events using List.reverseRecOn with
  | nil => exact hnil
  | append_singleton events e ih =>
    rw [run_concat]
    exact hconcat events e _ _ ih (transition_step settings engine _ e)

end Session

end CobolCompanion
