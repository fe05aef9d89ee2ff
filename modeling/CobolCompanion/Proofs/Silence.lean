import CobolCompanion.Proofs.ClientView

namespace CobolCompanion

namespace Session

/-- The notices that an analysis which has ended still has to send. -/
def pending (s : Session) (stamp : Nat) : List Notice :=
  match s.tasks.find? stamp with
  | some ⟨_, _, _, .reporting notices⟩ => notices
  | _ => []

/-- A document is not stored, and no analysis has a stamp that is still to be given. -/
structure Closed (s : Session) (uri : Uri) : Prop where
  not_stored : s.store.stored? uri = none
  stamp_le : ∀ stamp task, s.tasks.find? stamp = some task → stamp ≤ s.store.clock

section
variable {settings : Settings} {engine : Engine} {s : Session} {e : Event} {uri : Uri}
variable {result : Session × List Output} {stamp : Nat} {task : Task}

theorem pending_congr {s' : Session} (h : s'.tasks.find? stamp = s.tasks.find? stamp) :
    s'.pending stamp = s.pending stamp := by
  rw [pending, h, pending]

theorem pending_of_find? {notices : List Notice} (h : s.tasks.find? stamp = some task)
    (hstage : task.stage = .reporting notices) : s.pending stamp = notices := by
  obtain ⟨uri, text, trigger, stage⟩ := task
  cases hstage
  rw [pending, h]

theorem pending_eq_nil (h : ∀ task, s.tasks.find? stamp = some task →
    ∀ notices, task.stage ≠ .reporting notices) : s.pending stamp = [] := by
  unfold pending
  split
  · next notices htask => exact absurd rfl (h _ htask notices)
  · rfl

theorem pending_of_stage (h : s.tasks.find? stamp = some task)
    (hstage : ∀ notices, task.stage ≠ .reporting notices) : s.pending stamp = [] := by
  apply pending_eq_nil
  intro task' htask'
  rw [h, Option.some.injEq] at htask'
  exact htask' ▸ hstage

theorem pending_moveTo_self (notices : List Notice) :
    (s.moveTo stamp task (.reporting notices)).pending stamp = notices := by
  cases notices with
  | nil =>
    apply pending_eq_nil
    intro task' htask'
    rw [find?_moveTo_self, if_pos rfl] at htask'
    cases htask'
  | cons notice rest =>
    apply pending_of_find?
    · rw [find?_moveTo_self, if_neg (by simp)]
    · rfl

theorem pending_moveTo_of_ne {other : Nat} (h : stamp ≠ other) (stage : Stage) :
    (s.moveTo stamp task stage).pending other = s.pending other :=
  pending_congr (find?_moveTo_of_ne _ _ _ _ h)

theorem subject?_of_mem_notices {analysis : Analysis} {outcome : Store.Outcome} {n : Notice}
    (h : n ∈ task.notices analysis outcome) (hsubject : n.subject? = some uri) :
    task.uri = uri ∧ outcome = .committed := by
  obtain ⟨document, text, trigger, stage⟩ := task
  cases outcome with
  | committed =>
    refine ⟨?_, rfl⟩
    cases trigger with
    | opened =>
      simp only [Task.notices, List.mem_cons, List.not_mem_nil, or_false] at h
      rcases h with rfl | rfl
      · cases hsubject
      · rwa [subject?_finding, Option.some.injEq] at hsubject
    | changed =>
      simp only [Task.notices, List.mem_singleton] at h
      subst h
      exact Option.some.inj hsubject
  | superseded latest =>
    cases trigger <;> simp only [Task.notices, List.mem_singleton, List.not_mem_nil] at h
    subst h
    cases hsubject
  | closed =>
    cases trigger <;> simp only [Task.notices, List.mem_singleton, List.not_mem_nil] at h
    subst h
    cases hsubject

namespace Transition

theorem stamp_le (h : Transition settings engine s e result)
    (hle : ∀ stamp task, s.tasks.find? stamp = some task → stamp ≤ s.store.clock) :
    ∀ stamp task, result.1.tasks.find? stamp = some task → stamp ≤ result.1.store.clock := by
  have hput (task : Task) : ∀ stamp task',
      (s.tasks.put s.store.next task).find? stamp = some task' → stamp ≤ s.store.next := by
    intro stamp task' htask'
    rw [Keyed.find?_put] at htask'
    split at htask'
    · next heq => exact Nat.le_of_eq heq.symm
    · exact Nat.le_succ_of_le (hle stamp task' htask')
  have hmove (store : Store) {other : Nat} {task : Task} (stage : Stage)
      (htask : s.tasks.find? other = some task) : ∀ stamp task',
      (({ s with store }).moveTo other task stage).tasks.find? stamp = some task' →
        stamp ≤ s.store.clock := by
    intro stamp task' htask'
    by_cases heq : other = stamp
    · exact heq ▸ hle other task htask
    · rw [find?_moveTo_of_ne _ _ _ _ heq] at htask'
      exact hle stamp task' htask'
  cases h with
  | accept h => exact hput _
  | change uri text => exact hput _
  | announce h hstage => simpa using hmove s.store _ h
  | fail h hstage hresult => simpa using hmove s.store _ h
  | conclude h hstage hresult => simpa using hmove _ _ h
  | report h hstage => simpa using hmove s.store _ h
  | reject h notice => exact hle
  | close uri => exact hle
  | idle stamp he hstage => exact hle

theorem closed (h : Transition settings engine s e result) (hclosed : s.Closed uri)
    (hopen : ∀ text, e.accepted? settings ≠ some (uri, text)) : result.1.Closed uri := by
  refine ⟨?_, h.stamp_le hclosed.stamp_le⟩
  rw [← Option.not_isSome_iff_eq_none, h.isSome_stored? uri, hclosed.not_stored]
  rintro (⟨text, haccepted⟩ | ⟨hstored, -⟩)
  · exact hopen text haccepted
  · cases hstored

/-- While a document is closed, no analysis gets something to tell about it. -/
theorem pending (h : Transition settings engine s e result)
    (hclosed : s.Closed uri) (stamp : Nat) (he : e ≠ .reported stamp) :
    result.1.pending stamp = s.pending stamp ∨
      s.pending stamp = [] ∧ ∀ n ∈ result.1.pending stamp, n.subject? ≠ some uri := by
  have hput (store : Store) (task : Task)
      (hstage : ∀ notices, task.stage ≠ .reporting notices) :
      ({ store, tasks := s.tasks.put s.store.next task } : Session).pending stamp =
        s.pending stamp := by
    -- The stamp of a new analysis is fresh, so that nothing was pending under it.
    by_cases heq : s.store.next = stamp
    · have hfresh : s.tasks.find? stamp = none := by
        rw [Option.eq_none_iff_forall_ne_some]
        intro task' htask'
        have hle := hclosed.stamp_le stamp task' htask'
        rw [← heq, Store.next] at hle
        omega
      have hnothing : s.pending stamp = [] := pending_eq_nil (by simp [hfresh])
      rw [hnothing]
      apply pending_eq_nil
      intro task' htask'
      subst heq
      rw [Keyed.find?_put_self, Option.some.injEq] at htask'
      exact htask' ▸ hstage
    · exact pending_congr (Keyed.find?_put_of_ne _ _ heq)
  cases h with
  | accept h => exact .inl (hput _ _ (by simp))
  | change uri text => exact .inl (hput _ _ (by simp))
  | reject h notice => exact .inl rfl
  | close uri => exact .inl rfl
  | idle stamp he hstage => exact .inl rfl
  | @announce other task h hstage =>
    by_cases heq : other = stamp
    · subst heq
      refine .inl (Eq.trans ?_ (pending_of_stage h (by simp [hstage])).symm)
      apply pending_of_stage
      · rw [find?_moveTo_self, if_neg (by simp)]
      · simp
    · exact .inl (pending_moveTo_of_ne heq _)
  | @fail other task h hstage =>
    by_cases heq : other = stamp
    · subst heq
      rw [pending_moveTo_self]
      exact .inl (pending_of_stage h (by simp [hstage])).symm
    · exact .inl (pending_moveTo_of_ne heq _)
  | @conclude other task h hstage analysis hresult =>
    by_cases heq : other = stamp
    · subst heq
      refine .inr ⟨pending_of_stage h (by simp [hstage]), ?_⟩
      rw [pending_moveTo_self]
      intro n hn hsubject
      -- A result is taken over only where the document is stored.
      obtain ⟨rfl, hcommitted⟩ := subject?_of_mem_notices hn hsubject
      obtain ⟨model, hstored⟩ := (s.store.outcome_eq_committed_iff _).1 hcommitted
      rw [hclosed.not_stored] at hstored
      cases hstored
    · exact .inl (pending_moveTo_of_ne heq _)
  | @report other task h notice rest hstage =>
    have heq : other ≠ stamp := by
      rintro rfl
      exact he rfl
    exact .inl (pending_moveTo_of_ne heq _)

end Transition

theorem step_reported (settings : Settings) (engine : Engine) (s : Session) (stamp : Nat) :
    (s.step settings engine (.reported stamp)).1.pending stamp = (s.pending stamp).tail ∧
      (s.step settings engine (.reported stamp)).2 =
        ((s.pending stamp).take 1).map .notice := by
  simp only [step, report]
  cases htask : s.tasks.find? stamp with
  | none =>
    have hnothing : s.pending stamp = [] := pending_eq_nil (by simp [htask])
    simp [hnothing]
  | some task =>
    dsimp only
    split
    · next notice rest hstage =>
      rw [pending_of_find? htask hstage, pending_moveTo_self]
      exact ⟨rfl, rfl⟩
    · next hstage =>
      have hnothing : s.pending stamp = [] := by
        obtain ⟨document, text, trigger, stage⟩ := task
        cases stage with
        | accepted => exact pending_of_stage htask (by simp)
        | running => exact pending_of_stage htask (by simp)
        | reporting notices =>
          cases notices with
          | nil => exact pending_of_find? htask rfl
          | cons notice rest => exact absurd rfl (hstage notice rest)
      rw [hnothing]
      exact ⟨rfl, rfl⟩

/-- The client is told about a document by reports, each of them sending the next notice. -/
theorem mem_step_iff {n : Notice} (hsubject : n.subject? = some uri) :
    .notice n ∈ (s.step settings engine e).2 ↔
      ∃ stamp, e = .reported stamp ∧ n ∈ (s.pending stamp).take 1 := by
  by_cases he : ∃ stamp, e = .reported stamp
  · obtain ⟨stamp, rfl⟩ := he
    have hinjective : Function.Injective Output.notice := fun _ _ h => Output.notice.inj h
    rw [(step_reported settings engine s stamp).2, List.mem_map_of_injective hinjective]
    simp
  · rw [not_exists] at he
    constructor
    · intro hn
      have htold : n ∈ told uri (s.step settings engine e).2 := mem_told.2 ⟨hn, hsubject⟩
      rw [told_step uri he] at htold
      cases htold
    · rintro ⟨stamp, rfl, -⟩
      exact absurd rfl (he stamp)

/--
What an analysis sends from an event on is what it sends at the event and what it sends after
it.
-/
theorem mem_take_pending_step {n : Notice} (hclosed : s.Closed uri)
    (hsubject : n.subject? = some uri) (stamp : Nat) (between : List Event) :
    n ∈ (s.pending stamp).take ((e :: between).count (.reported stamp)) ↔
      e = .reported stamp ∧ n ∈ (s.pending stamp).take 1 ∨
        n ∈ ((s.step settings engine e).1.pending stamp).take
          (between.count (.reported stamp)) := by
  by_cases he : e = .reported stamp
  · subst he
    rw [List.count_cons_self, (step_reported settings engine s stamp).1]
    cases s.pending stamp with
    | nil => simp
    | cons notice rest => simp
  · rw [List.count_cons_of_ne he]
    rcases (transition_step settings engine s e).pending hclosed stamp he
      with hsame | ⟨hnone, hother⟩
    · simp [hsame, he]
    · simp only [hnone, List.take_nil, List.not_mem_nil, he, false_and, false_or, false_iff]
      intro hn
      exact hother n (List.mem_of_mem_take hn) hsubject

/--
While a document is closed, the client is told about it what analyses that have ended still had
to report, as often as they do report, and nothing else.
-/
theorem told_run_closed {between : List Event} (hclosed : s.Closed uri)
    (hopen : ∀ e ∈ between, ∀ text, e.accepted? settings ≠ some (uri, text)) {n : Notice}
    (hsubject : n.subject? = some uri) :
    .notice n ∈ (s.run settings engine between).2 ↔
      ∃ stamp, n ∈ (s.pending stamp).take (between.count (.reported stamp)) := by
  induction between generalizing s with
  | nil => simp [run]
  | cons e between ih =>
    have h := transition_step settings engine s e
    have hclosed' := h.closed hclosed (hopen e List.mem_cons_self)
    have hopen' : ∀ e' ∈ between, ∀ text, e'.accepted? settings ≠ some (uri, text) :=
      fun e' he' => hopen e' (List.mem_cons_of_mem _ he')
    simp only [run, List.mem_append, ih hclosed' hopen', mem_step_iff hsubject, ← exists_or]
    -- A report of one analysis leaves what the others have to send, so each stamp stands alone.
    apply exists_congr
    intro stamp
    exact (mem_take_pending_step hclosed hsubject stamp between).symm

end

theorem closed_run (settings : Settings) (engine : Engine) (before : List Event) (uri : Uri) :
    (run settings engine {} (before ++ [.closed uri])).1.Closed uri := by
  constructor
  · rw [run_concat]
    exact (Store.stored?_remove ..).trans (if_pos rfl)
  · apply run_induction settings engine
      (P := fun _ s => ∀ stamp task, s.tasks.find? stamp = some task → stamp ≤ s.store.clock)
    · intro stamp task htask
      simp [Keyed.find?] at htask
    · intro events e s result ih h
      exact h.stamp_le ih

/--
Between the close of a document and its next opening, whatever happens there, the client is told
about it what analyses that had ended before the close still had to report, and nothing else.
-/
theorem mem_run_after_close_iff (settings : Settings) (engine : Engine)
    (before between : List Event) (uri : Uri)
    (hopen : ∀ e ∈ between, ∀ text, e.accepted? settings ≠ some (uri, text)) (n : Notice)
    (hsubject : n.subject? = some uri) :
    let closing := (run settings engine {} (before ++ [.closed uri])).1
    .notice n ∈ (closing.run settings engine between).2 ↔
      ∃ stamp, n ∈ (closing.pending stamp).take (between.count (.reported stamp)) :=
  told_run_closed (closed_run settings engine before uri) hopen hsubject

def emptyFinding : Notice :=
  Task.finding ledgerUri (Task.published (.ofText ""))

theorem accepted?_of_mem_reports :
    ∀ e ∈ [Event.reported 1, .reported 1],
      ∀ text, e.accepted? .defaults ≠ some (ledgerUri, text) := by
  simp [Event.accepted?]

theorem mem_run_after_close_iff_late :
    (∀ e ∈ [Event.reported 1, .reported 1], ∀ text,
      e.accepted? .defaults ≠ some (ledgerUri, text)) ∧
    emptyFinding.subject? = some ledgerUri ∧
    .notice emptyFinding ∈ ((run .defaults .standard {}
      ([.opened ledgerUri "cobol" "", .announced 1, .finished 1] ++ [.closed ledgerUri])).1.run
        .defaults .standard [.reported 1, .reported 1]).2 := by
  refine ⟨accepted?_of_mem_reports, subject?_finding _, ?_⟩
  apply (mem_run_after_close_iff .defaults .standard _ _ ledgerUri
    accepted?_of_mem_reports emptyFinding (subject?_finding _)).2
  refine ⟨1, ?_⟩
  have hpending : (run .defaults .standard {} ([.opened ledgerUri "cobol" "", .announced 1,
      .finished 1] ++ [.closed ledgerUri])).1.pending 1 =
        [.loadingEnded ledgerUri, emptyFinding] := rfl
  rw [hpending]
  exact List.mem_cons_of_mem _ List.mem_cons_self

/-- A document may be told of after it was closed and before it is opened again. -/
theorem told_after_close :
    ¬∀ (settings : Settings) (before between : List Event) (uri : Uri) (n : Notice),
      (∀ e ∈ between, ∀ text, e.accepted? settings ≠ some (uri, text)) → n.subject? = some uri →
      .notice n ∉ ((run settings .standard {} (before ++ [.closed uri])).1.run
        settings .standard between).2 := by
  intro hsilent
  apply hsilent .defaults [.opened ledgerUri "cobol" "", .announced 1, .finished 1]
    [.reported 1, .reported 1] ledgerUri emptyFinding accepted?_of_mem_reports
    (subject?_finding _)
  have houtputs : ((run .defaults .standard {}
      ([.opened ledgerUri "cobol" "", .announced 1, .finished 1] ++ [.closed ledgerUri])).1.run
        .defaults .standard [.reported 1, .reported 1]).2 =
      [.notice (.loadingEnded ledgerUri), .notice emptyFinding] := rfl
  rw [houtputs]
  exact List.mem_cons_of_mem _ List.mem_cons_self

end Session

end CobolCompanion
