import CobolCompanion.Proofs.Silence
import Mathlib.Algebra.BigOperators.Group.Finset.Basic

namespace CobolCompanion

def Engine.fails (engine : Engine) (stamp : Nat) (text : String) : Bool :=
  match engine stamp text with
  | .error _ => true
  | .ok _ => false

/-- How often the client was told that a document is being loaded. -/
def loadings (uri : Uri) (outputs : List Output) : Nat :=
  outputs.count (.notice (.loading uri))

/-- How often the client was told that the loading of a document is over. -/
def loadingEnds (uri : Uri) (outputs : List Output) : Nat :=
  outputs.count (.notice (.loadingEnded uri))

/-- Whether an event opens a document, with a stamp whose run fails. -/
def Event.opensFailing (settings : Settings) (engine : Engine) (uri : Uri) (stamp : Nat)
    (e : Event) : Bool :=
  (e.accepted? settings).any fun (other, text) => other = uri && engine.fails stamp text

/--
The number of analyses that an opening of the document started and whose own run fails. Every
one of them has the stamp that was next when its document was opened.
-/
def failedOpenings (settings : Settings) (engine : Engine) (uri : Uri) (events : List Event) :
    Nat :=
  (List.range events.length).countP fun i =>
    events[i]?.any (Event.opensFailing settings engine uri (nextStamp settings (events.take i)))

theorem failedOpenings_concat (settings : Settings) (engine : Engine) (uri : Uri)
    (events : List Event) (e : Event) :
    failedOpenings settings engine uri (events ++ [e]) =
      failedOpenings settings engine uri events +
        if e.opensFailing settings engine uri (nextStamp settings events) then 1 else 0 := by
  have hbefore : ∀ i ∈ List.range events.length,
      (events ++ [e])[i]?.any (Event.opensFailing settings engine uri
        (nextStamp settings ((events ++ [e]).take i))) =
      events[i]?.any (Event.opensFailing settings engine uri
        (nextStamp settings (events.take i))) := by
    intro i hi
    rw [List.mem_range] at hi
    rw [List.getElem?_append_left hi, List.take_append_of_le_length hi.le]
  unfold failedOpenings
  rw [List.length_append, List.length_singleton, List.range_succ, List.countP_append,
    List.countP_singleton, List.getElem?_concat_length, List.take_left, Option.any_some]
  congr 1
  exact List.countP_congr fun i hi => by rw [hbefore i hi]

namespace Task

/--
How often an analysis has still to tell that the loading of a document is over, if it does not
fail.
-/
def owed (uri : Uri) : Task → Nat
  | ⟨_, _, _, .accepted⟩ => 0
  | ⟨document, _, trigger, .running⟩ => if document = uri ∧ trigger = .opened then 1 else 0
  | ⟨_, _, _, .reporting notices⟩ => notices.count (.loadingEnded uri)

/-- One for the analysis of an opened document that will fail, and else zero. -/
def doomed (engine : Engine) (uri : Uri) (stamp : Nat) : Task → Nat
  | ⟨_, _, _, .reporting _⟩ => 0
  | ⟨document, text, trigger, _⟩ =>
    if document = uri ∧ trigger = .opened ∧ engine.fails stamp text then 1 else 0

end Task

namespace Session

/-- The sum of a quantity over the analyses under way. -/
def total (s : Session) (weight : Nat → Task → Nat) : Nat :=
  ∑ stamp ∈ Finset.range (s.store.clock + 1), (s.tasks.find? stamp).elim 0 (weight stamp)

section
variable {settings : Settings} {engine : Engine} {s : Session} {e : Event} {uri : Uri}
variable {weight : Nat → Task → Nat}

theorem total_congr {s' : Session} (htasks : s'.tasks = s.tasks)
    (hclock : s'.store.clock = s.store.clock) : s'.total weight = s.total weight := by
  rw [total, htasks, hclock, total]

theorem total_put (task : Task) {store : Store} (hclock : store.clock = s.store.next) :
    ({ store, tasks := s.tasks.put s.store.next task } : Session).total weight =
      s.total weight + weight s.store.next task := by
  -- the stamp of the new analysis is the last summand
  simp only [total, hclock]
  rw [Store.next, Finset.sum_range_succ, Keyed.find?_put_self]
  congr 1
  apply Finset.sum_congr rfl
  intro stamp hstamp
  rw [Finset.mem_range] at hstamp
  rw [Keyed.find?_put_of_ne _ _ (by omega)]

theorem total_moveTo (weight : Nat → Task → Nat) {stamp : Nat} {task : Task} (stage : Stage)
    (htask : s.tasks.find? stamp = some task) (hle : stamp ≤ s.store.clock)
    (hover : weight stamp { task with stage := .reporting [] } = 0) :
    (s.moveTo stamp task stage).total weight + weight stamp task =
      s.total weight + weight stamp { task with stage } := by
  have hmem : stamp ∈ Finset.range (s.store.clock + 1) :=
    Finset.mem_range.2 (Nat.lt_succ_of_le hle)
  have hself : ((s.moveTo stamp task stage).tasks.find? stamp).elim 0 (weight stamp) =
      weight stamp { task with stage } := by
    rw [find?_moveTo_self]
    split
    · next hstage => rw [hstage, hover, Option.elim_none]
    · rfl
  have hrest : ∀ other ∈ (Finset.range (s.store.clock + 1)).erase stamp,
      ((s.moveTo stamp task stage).tasks.find? other).elim 0 (weight other) =
        (s.tasks.find? other).elim 0 (weight other) := by
    intro other hother
    rw [find?_moveTo_of_ne _ _ _ _ (Finset.ne_of_mem_erase hother).symm]
  -- apart from the summand at the stamp, both sums are the same
  have hafter := Finset.add_sum_erase (Finset.range (s.store.clock + 1))
    (fun other => ((s.moveTo stamp task stage).tasks.find? other).elim 0 (weight other)) hmem
  have hbefore := Finset.add_sum_erase (Finset.range (s.store.clock + 1))
    (fun other => (s.tasks.find? other).elim 0 (weight other)) hmem
  rw [hself, Finset.sum_congr rfl hrest] at hafter
  rw [htask, Option.elim_some] at hbefore
  rw [total, store_moveTo, total]
  omega

end

end Session

namespace Task

/-- Only an opened document is announced, and that is not left to the end of its analysis. -/
def Regular (task : Task) : Prop :=
  match task.stage with
  | .accepted => task.trigger = .opened
  | .running => True
  | .reporting notices => ∀ uri, .loading uri ∉ notices

theorem count_loadingEnded_notices (uri : Uri) (task : Task) (analysis : Analysis)
    (outcome : Store.Outcome) :
    (task.notices analysis outcome).count (.loadingEnded uri) =
      if task.uri = uri ∧ task.trigger = .opened then 1 else 0 := by
  have hfinding : finding task.uri (published analysis) ≠ .loadingEnded uri := by
    unfold finding
    split <;> simp
  unfold notices
  cases outcome <;> cases task.trigger <;> simp [List.count_cons, hfinding, beq_iff_eq]

theorem loading_notMem_notices (uri : Uri) (task : Task) (analysis : Analysis)
    (outcome : Store.Outcome) :
    .loading uri ∉ task.notices analysis outcome := by
  have hfinding : .loading uri ≠ finding task.uri (published analysis) := by
    unfold finding
    split <;> simp
  unfold notices
  cases outcome <;> cases task.trigger <;> simp [hfinding]

end Task

namespace Session

/--
Every analysis under way has a stamp that was given, and tells of its loading as it should.
-/
structure Regular (s : Session) : Prop where
  stamp_le : ∀ stamp task, s.tasks.find? stamp = some task → stamp ≤ s.store.clock
  task : ∀ stamp task, s.tasks.find? stamp = some task → task.Regular

section
variable {settings : Settings} {engine : Engine} {s : Session} {e : Event} {uri : Uri}
variable {result : Session × List Output}

theorem Transition.regular (h : Transition settings engine s e result) (hs : s.Regular) :
    result.1.Regular := by
  refine ⟨h.stamp_le hs.stamp_le, ?_⟩
  have hput {new : Task} (hnew : new.Regular) : ∀ stamp task,
      (s.tasks.put s.store.next new).find? stamp = some task → task.Regular := by
    intro stamp task htask
    rw [Keyed.find?_put] at htask
    split at htask
    · rwa [← Option.some.inj htask]
    · exact hs.task stamp task htask
  have hmove {store : Store} {other : Nat} {old : Task} {stage : Stage}
      (hnew : ({ old with stage } : Task).Regular) : ∀ stamp task,
      (({ s with store }).moveTo other old stage).tasks.find? stamp = some task →
        task.Regular := by
    intro stamp task htask
    by_cases heq : other = stamp
    · subst heq
      rw [find?_moveTo_self, Option.ite_none_left_eq_some] at htask
      rwa [← Option.some.inj htask.2]
    · rw [find?_moveTo_of_ne _ _ _ _ heq] at htask
      exact hs.task stamp task htask
  cases h with
  | accept h => exact hput rfl
  | change uri text => exact hput trivial
  | announce h hstage => exact hmove trivial
  | fail h hstage hresult => exact hmove fun _ => List.not_mem_nil
  | @conclude stamp task h hstage analysis hresult =>
    exact hmove fun uri => Task.loading_notMem_notices uri task analysis _
  | @report stamp task h notice rest hstage =>
    have hold := hs.task stamp task h
    simp only [Task.Regular, hstage] at hold
    exact hmove fun uri hmem => hold uri (List.mem_cons_of_mem _ hmem)
  | reject h notice => exact hs.task
  | close uri => exact hs.task
  | idle stamp he hstage => exact hs.task

theorem loadings_of_rejected {language text : String} {notice : Notice}
    (hrejected : classify settings uri language ≠ .recognized)
    (h : s.step settings engine (.opened uri language text) = (s, [.notice notice]))
    (other : Uri) :
    loadings other [.notice notice] = 0 ∧ loadingEnds other [.notice notice] = 0 := by
  simp only [step, openDocument] at h
  cases hclass : classify settings uri language with
  | recognized => exact absurd hclass hrejected
  | unsupportedExtension extension =>
    simp only [hclass, Prod.mk.injEq, List.cons.injEq, Output.notice.injEq] at h
    simp [loadings, loadingEnds, ← h.2.1]
  | engineNotFound =>
    simp only [hclass, Prod.mk.injEq, List.cons.injEq, Output.notice.injEq] at h
    simp [loadings, loadingEnds, ← h.2.1]

theorem loadings_logged (uri : Uri) (task : Task) (stamp : Nat) (outcome : Store.Outcome) :
    loadings uri (task.logged stamp outcome) = 0 := by
  cases outcome <;> rfl

theorem loadingEnds_logged (uri : Uri) (task : Task) (stamp : Nat) (outcome : Store.Outcome) :
    loadingEnds uri (task.logged stamp outcome) = 0 := by
  cases outcome <;> rfl

/--
What the client is told of the loading of a document between two states is balanced against what
is owed in them, where some openings fail and some are found to have failed.
-/
structure Balances (engine : Engine) (uri : Uri) (s : Session) (outputs : List Output)
    (openings failed : Nat) (s' : Session) : Prop where
  loading : loadings uri outputs + s.total (fun _ => Task.owed uri) =
    loadingEnds uri outputs + failed + s'.total (fun _ => Task.owed uri)
  failing : openings + s.total (Task.doomed engine uri) =
    failed + s'.total (Task.doomed engine uri)

namespace Balances

variable {outputs : List Output} {failed : Nat}

theorem of_unchanged {s' : Session} (htasks : s'.tasks = s.tasks)
    (hclock : s'.store.clock = s.store.clock) (hloadings : loadings uri outputs = 0)
    (hends : loadingEnds uri outputs = 0) :
    Balances engine uri s outputs 0 0 s' := by
  refine ⟨?_, ?_⟩
  · rw [hloadings, hends, total_congr htasks hclock]
  · rw [total_congr htasks hclock]

/-- An analysis that moves to another stage is balanced if what it tells is. -/
theorem moveTo {stamp : Nat} {task : Task} (stage : Stage) {store : Store} (hs : s.Regular)
    (htask : s.tasks.find? stamp = some task) (hclock : store.clock = s.store.clock)
    (hloading : loadings uri outputs + task.owed uri =
      loadingEnds uri outputs + failed + ({ task with stage } : Task).owed uri)
    (hfailing : task.doomed engine uri stamp =
      failed + ({ task with stage } : Task).doomed engine uri stamp) :
    Balances engine uri s outputs 0 failed (({ s with store }).moveTo stamp task stage) := by
  have hle : stamp ≤ ({ s with store } : Session).store.clock := by
    rw [hclock]
    exact hs.stamp_le stamp task htask
  have howed := total_moveTo (s := { s with store }) (fun _ => Task.owed uri) stage
    htask hle rfl
  have hdoomed := total_moveTo (s := { s with store }) (Task.doomed engine uri) stage
    htask hle rfl
  have hsame (weight : Nat → Task → Nat) : ({ s with store } : Session).total weight =
      s.total weight :=
    total_congr rfl hclock
  rw [hsame] at howed hdoomed
  exact ⟨by omega, by omega⟩

theorem trans {s' s'' : Session} {more : List Output} {openings openings' failed' : Nat}
    (h : Balances engine uri s outputs openings failed s')
    (h' : Balances engine uri s' more openings' failed' s'') :
    Balances engine uri s (outputs ++ more) (openings + openings') (failed + failed') s'' := by
  have hloading := h.loading
  have hloading' := h'.loading
  have hfailing := h.failing
  have hfailing' := h'.failing
  refine ⟨?_, by omega⟩
  unfold loadings loadingEnds at hloading hloading' ⊢
  rw [List.count_append, List.count_append]
  omega

end Balances

theorem exists_balances_step (hs : s.Regular) (settings : Settings)
    (engine : Engine) (uri : Uri) (e : Event) :
    ∃ failed, Balances engine uri s (s.step settings engine e).2
      (if e.opensFailing settings engine uri s.store.next then 1 else 0) failed
      (s.step settings engine e).1 := by
  have hnone (he : e.accepted? settings = none) :
      (if e.opensFailing settings engine uri s.store.next then 1 else 0) = 0 := by
    simp [Event.opensFailing, he]
  have h := transition_step settings engine s e
  generalize hstep : s.step settings engine e = result at h ⊢
  cases h with
  | @accept document language text h =>
    refine ⟨0, ?_, ?_⟩
    · rw [total_put _ rfl]
      simp [loadings, loadingEnds, Task.owed]
    · rw [total_put _ rfl]
      simp [Event.opensFailing, Event.accepted?, h, Task.doomed, Nat.add_comm]
  | change document text =>
    rw [hnone rfl]
    refine ⟨0, ?_, ?_⟩
    · rw [changeDocument, total_put _ rfl]
      simp [loadings, loadingEnds, Task.owed]
    · rw [changeDocument, total_put _ rfl]
      simp [Task.doomed]
  | @reject document language text h notice =>
    rw [hnone (if_neg h)]
    obtain ⟨hloadings, hends⟩ := loadings_of_rejected h hstep uri
    exact ⟨0, .of_unchanged rfl rfl hloadings hends⟩
  | close document =>
    rw [hnone rfl]
    exact ⟨0, .of_unchanged rfl rfl rfl rfl⟩
  | idle stamp he hstage =>
    have haccepted : e.accepted? settings = none := by
      simp only [List.mem_cons, List.not_mem_nil, or_false] at he
      rcases he with rfl | rfl | rfl <;> rfl
    rw [hnone haccepted]
    exact ⟨0, .of_unchanged rfl rfl rfl rfl⟩
  | @announce stamp task h hstage =>
    rw [hnone rfl]
    have htrigger := hs.task stamp task h
    obtain ⟨document, text, trigger, stage⟩ := task
    subst hstage
    obtain rfl : trigger = .opened := htrigger
    refine ⟨0, .moveTo .running hs h rfl ?_ ?_⟩
    · simp [loadings, loadingEnds, Task.owed, List.count_singleton]
    · simp [Task.doomed]
  | @fail stamp task h hstage fault hresult =>
    rw [hnone rfl]
    obtain ⟨document, text, trigger, stage⟩ := task
    subst hstage
    have hfails : engine.fails stamp text := by simp [Engine.fails, hresult]
    -- what was owed for the opening is never sent, and counts as failed from now on
    refine ⟨if document = uri ∧ trigger = .opened then 1 else 0,
      .moveTo (.reporting []) hs h rfl ?_ ?_⟩
    · simp [loadings, loadingEnds, Task.owed]
    · simp [Task.doomed, hfails]
  | @conclude stamp task h hstage analysis hresult =>
    rw [hnone rfl]
    obtain ⟨document, text, trigger, stage⟩ := task
    subst hstage
    have hfails : engine.fails stamp text = false := by simp [Engine.fails, hresult]
    refine ⟨0, .moveTo _ hs h (Store.clock_commit ..) ?_ ?_⟩
    · rw [loadings_logged, loadingEnds_logged]
      simp [Task.owed, Task.count_loadingEnded_notices]
    · simp [Task.doomed, hfails]
  | @report stamp task h notice rest hstage =>
    rw [hnone rfl]
    have hregular := hs.task stamp task h
    obtain ⟨document, text, trigger, stage⟩ := task
    subst hstage
    have hother : notice ≠ .loading uri := by
      rintro rfl
      exact hregular uri List.mem_cons_self
    refine ⟨0, .moveTo _ hs h rfl ?_ ?_⟩
    · simp [loadings, loadingEnds, Task.owed, List.count_cons, hother, Nat.add_comm]
    · rfl

theorem regular_run (hs : s.Regular) (settings : Settings) (engine : Engine)
    (events : List Event) :
    (s.run settings engine events).1.Regular := by
  induction events generalizing s with
  | nil => exact hs
  | cons e events ih => exact ih ((transition_step settings engine s e).regular hs)

theorem regular_empty : ({} : Session).Regular :=
  ⟨by simp [Keyed.find?], by simp [Keyed.find?]⟩

theorem exists_balances_run (settings : Settings) (engine : Engine) (uri : Uri)
    (events : List Event) :
    ∃ failed, Balances engine uri {} (run settings engine {} events).2
      (failedOpenings settings engine uri events) failed (run settings engine {} events).1 := by
  induction events using List.reverseRecOn with
  | nil => exact ⟨0, .of_unchanged rfl rfl rfl rfl⟩
  | append_singleton events e ih =>
    obtain ⟨failed, hrun⟩ := ih
    have hs := regular_run regular_empty settings engine events
    obtain ⟨failed', hstep⟩ := exists_balances_step hs settings engine uri e
    rw [next_run] at hstep
    rw [failedOpenings_concat, run_append]
    refine ⟨failed + failed', hrun.trans ?_⟩
    simpa only [run, List.append_nil] using hstep

theorem total_of_tasks_eq_nil (h : s.tasks = []) (weight : Nat → Task → Nat) :
    s.total weight = 0 := by
  rw [total, h]
  exact Finset.sum_eq_zero fun _ _ => rfl

end

/-- The notices that the analysis with a stamp sends itself, in some events. -/
def sentBy (settings : Settings) (engine : Engine) (stamp : Nat) (s : Session) :
    List Event → List Notice
  | [] => []
  | e :: rest =>
    let (s', outputs) := s.step settings engine e
    (if e ∈ [.finished stamp, .reported stamp] then outputs.filterMap Output.notice? else []) ++
      sentBy settings engine stamp s' rest

/-- The analysis with a stamp has ended, if it was ever started. -/
structure Ended (s : Session) (stamp : Nat) : Prop where
  le : stamp ≤ s.store.clock
  reporting : ∀ task, s.tasks.find? stamp = some task →
    ∃ notices, task.stage = .reporting notices

section
variable {settings : Settings} {engine : Engine} {s : Session} {stamp : Nat}

theorem sentBy_append (events more : List Event) :
    s.sentBy settings engine stamp (events ++ more) =
      s.sentBy settings engine stamp events ++
        (s.run settings engine events).1.sentBy settings engine stamp more := by
  induction events generalizing s with
  | nil => rfl
  | cons e events ih => simp only [List.cons_append, sentBy, run, ih, List.append_assoc]

theorem Ended.find?_step (h : s.Ended stamp) (settings : Settings)
    (engine : Engine) (e : Event) :
    (s.step settings engine e).1.tasks.find? stamp = s.tasks.find? stamp ∨
      e = .reported stamp := by
  rcases (transition_step settings engine s e).find?_tasks h.le with
    hsame | ⟨task, stage, htask, hadvances, -⟩
  · exact .inl hsame
  · obtain ⟨notices, hstage⟩ := h.reporting task htask
    rw [hstage] at hadvances
    cases hadvances
    exact .inr rfl

theorem Ended.step (h : s.Ended stamp) (settings : Settings) (engine : Engine) (e : Event) :
    (s.step settings engine e).1.Ended stamp := by
  have htransition := transition_step settings engine s e
  refine ⟨?_, ?_⟩
  · rw [htransition.clock]
    exact Nat.le_add_right_of_le h.le
  · intro task' htask'
    rcases htransition.find?_tasks h.le with hsame | ⟨task, stage, htask, hadvances, hmoved⟩
    · exact h.reporting task' (hsame ▸ htask')
    · obtain ⟨notices, hstage⟩ := h.reporting task htask
      rw [hstage] at hadvances
      cases hadvances with
      | reported notice rest =>
        rw [hmoved, Option.ite_none_left_eq_some] at htask'
        exact ⟨rest, by rw [← Option.some.inj htask'.2]⟩

theorem Ended.run (h : s.Ended stamp) (settings : Settings) (engine : Engine)
    (events : List Event) :
    (s.run settings engine events).1.Ended stamp := by
  induction events generalizing s with
  | nil => exact h
  | cons e events ih => exact ih (h.step settings engine e)

theorem sentBy_reported (settings : Settings) (engine : Engine) (s : Session) (stamp : Nat) :
    s.sentBy settings engine stamp [.reported stamp] = (s.pending stamp).take 1 := by
  have hnotice : Output.notice? ∘ Output.notice = some := rfl
  simp only [sentBy, (step_reported settings engine s stamp).2]
  rw [if_pos (by simp), List.append_nil, List.filterMap_map, hnotice, List.filterMap_some]

theorem sentBy_of_ne_reported {e : Event} (h : e ≠ .reported stamp) :
    s.sentBy settings engine stamp [e] = [] := by
  simp only [sentBy, List.append_nil]
  split
  · next he =>
    obtain rfl : e = .finished stamp := by simpa [h] using he
    have htransition := transition_step settings engine s (.finished stamp)
    generalize s.step settings engine (.finished stamp) = result at htransition
    cases htransition with
    | fail => rfl
    | conclude => cases s.store.outcome _ stamp <;> rfl
    | idle => rfl
  · rfl

theorem sentBy_cons (e : Event) (events : List Event) :
    s.sentBy settings engine stamp (e :: events) =
      s.sentBy settings engine stamp [e] ++
        (s.step settings engine e).1.sentBy settings engine stamp events :=
  sentBy_append [e] events

/-- What an analysis that has ended had to send it has sent, or has still to send. -/
theorem Ended.sentBy_append_pending (h : s.Ended stamp) (events : List Event) :
    s.sentBy settings engine stamp events ++ (s.run settings engine events).1.pending stamp =
      s.pending stamp := by
  induction events generalizing s with
  | nil => rfl
  | cons e events ih =>
    have hrest := ih (h.step settings engine e)
    have hrun : (s.run settings engine (e :: events)).1 =
        ((s.step settings engine e).1.run settings engine events).1 := rfl
    rw [sentBy_cons, hrun, List.append_assoc, hrest]
    by_cases he : e = .reported stamp
    · subst he
      rw [sentBy_reported, (step_reported settings engine s stamp).1, ← List.drop_one,
        List.take_append_drop]
    · rw [sentBy_of_ne_reported he, List.nil_append]
      exact pending_congr ((h.find?_step settings engine e).resolve_right he)

theorem sentBy_of_not_ended {events : List Event} (hs : s.Regular)
    (h : ¬(s.run settings engine events).1.Ended stamp) :
    s.sentBy settings engine stamp events = [] := by
  induction events generalizing s with
  | nil => rfl
  | cons e events ih =>
    rw [sentBy_cons, ih ((transition_step settings engine s e).regular hs) h, List.append_nil]
    by_cases he : e = .reported stamp
    · subst he
      rw [sentBy_reported, pending_eq_nil, List.take_nil]
      intro task htask notices hstage
      have hended : s.Ended stamp := by
        refine ⟨hs.stamp_le stamp task htask, ?_⟩
        intro task' htask'
        rw [htask, Option.some.injEq] at htask'
        exact ⟨notices, htask' ▸ hstage⟩
      exact h (hended.run settings engine (.reported stamp :: events))
    · exact sentBy_of_ne_reported he

theorem pending_finished_of_ok {task : Task} (htask : s.tasks.find? stamp = some task)
    (hstage : task.stage = .running) {analysis : Analysis}
    (hresult : engine stamp task.text = .ok analysis) :
    (s.step settings engine (.finished stamp)).1.pending stamp =
      task.notices analysis (s.store.outcome task.uri stamp) := by
  simp only [step, finish, htask, hstage, hresult, conclude]
  exact pending_moveTo_self _

theorem step_finished_of_error {task : Task} (htask : s.tasks.find? stamp = some task)
    (hstage : task.stage = .running) {fault : AnalysisFault}
    (hresult : engine stamp task.text = .error fault) :
    (s.step settings engine (.finished stamp)).1 = s.moveTo stamp task (.reporting []) := by
  simp only [step, finish, htask, hstage, hresult, conclude]

theorem ended_finished {task : Task} (hs : s.Regular) (htask : s.tasks.find? stamp = some task)
    (hstage : task.stage = .running) :
    (s.step settings engine (.finished stamp)).1.Ended stamp := by
  have hmoved : ∃ store notices, store.clock = s.store.clock ∧
      (s.step settings engine (.finished stamp)).1 =
        ({ s with store }).moveTo stamp task (.reporting notices) := by
    simp only [step, finish, htask, hstage]
    cases engine stamp task.text with
    | error fault => exact ⟨s.store, [], rfl, rfl⟩
    | ok analysis => exact ⟨_, _, Store.clock_commit .., rfl⟩
  obtain ⟨store, notices, hclock, hmoved⟩ := hmoved
  rw [hmoved]
  refine ⟨?_, ?_⟩
  · rw [store_moveTo, hclock]
    exact hs.stamp_le stamp task htask
  · intro task' htask'
    rw [find?_moveTo_self, Option.ite_none_left_eq_some] at htask'
    exact ⟨notices, by rw [← Option.some.inj htask'.2]⟩

end

/--
What an analysis that ends at some event sends in the whole run, together with what it has still
to send, is what its end left it to send.
-/
theorem sentBy_of_finished {settings : Settings} {engine : Engine}
    {before : List Event} {stamp : Nat} (after : List Event) {task : Task}
    (htask : (run settings engine {} before).1.tasks.find? stamp = some task)
    (hstage : task.stage = .running) :
    sentBy settings engine stamp {} (before ++ .finished stamp :: after) ++
        (run settings engine {} (before ++ .finished stamp :: after)).1.pending stamp =
      ((run settings engine {} before).1.step settings engine (.finished stamp)).1.pending
        stamp := by
  have hs := regular_run regular_empty settings engine before
  have hnot : ¬(run settings engine {} before).1.Ended stamp := by
    intro h
    obtain ⟨notices, hreporting⟩ := h.reporting task htask
    rw [hstage] at hreporting
    cases hreporting
  have hrun : (run settings engine {} (before ++ .finished stamp :: after)).1 =
      (((run settings engine {} before).1.step settings engine (.finished stamp)).1.run
        settings engine after).1 :=
    fst_run_append ..
  rw [sentBy_append, sentBy_of_not_ended regular_empty hnot, List.nil_append, sentBy_cons,
    sentBy_of_ne_reported (by simp), List.nil_append, hrun]
  exact (ended_finished hs htask hstage).sentBy_append_pending after

/--
In every run and at every moment of it, the loading of a document is not taken back more often
than it was announced. Once no analysis is under way, the two numbers differ by the openings of
the document whose analysis failed. An analysis of an opened document whose result is taken over
ends its loading and then tells that the document was analysed, if nothing was found, or else
what was found, and it sends nothing else. An analysis that fails sends nothing and leaves the
documents as they are.
-/
theorem loading_balanced (settings : Settings) (engine : Engine)
    (events : List Event) (uri : Uri) :
    let s := (run settings engine {} events).1
    let outputs := (run settings engine {} events).2
    loadingEnds uri outputs ≤ loadings uri outputs ∧
    (s.tasks = [] → loadings uri outputs =
      loadingEnds uri outputs + failedOpenings settings engine uri events) ∧
    (∀ before stamp after task analysis, events = before ++ .finished stamp :: after →
      let earlier := (run settings engine {} before).1
      earlier.tasks.find? stamp = some task → task.stage = .running → task.trigger = .opened →
      engine stamp task.text = .ok analysis →
      earlier.store.outcome task.uri stamp = .committed →
      let due : List Notice := [.loadingEnded task.uri,
        if analysis.diagnostics = [] then .analysed task.uri
        else .diagnostics task.uri (analysis.diagnostics.map .ofDiagnostic)]
      sentBy settings engine stamp {} events <+: due ∧
        (s.tasks.find? stamp = none → sentBy settings engine stamp {} events = due)) ∧
    ∀ before stamp after task fault, events = before ++ .finished stamp :: after →
      let earlier := (run settings engine {} before).1
      earlier.tasks.find? stamp = some task → task.stage = .running →
        engine stamp task.text = .error fault →
      sentBy settings engine stamp {} events = [] ∧
        (earlier.step settings engine (.finished stamp)).1.store = earlier.store := by
  intro s outputs
  obtain ⟨failed, hbalance⟩ := exists_balances_run settings engine uri events
  have hloading := hbalance.loading
  have hfailing := hbalance.failing
  rw [total_of_tasks_eq_nil rfl] at hloading hfailing
  refine ⟨?_, ?_, ?_, ?_⟩
  · simp only [outputs]
    omega
  · intro hdone
    rw [total_of_tasks_eq_nil hdone] at hloading hfailing
    simp only [outputs]
    omega
  · intro before stamp after task analysis hsplit earlier htask hstage htrigger hresult
      hcommitted due
    have hdue : (earlier.step settings engine (.finished stamp)).1.pending stamp = due := by
      rw [pending_finished_of_ok htask hstage hresult, hcommitted]
      simp only [Task.notices, htrigger, Task.finding, Task.published, List.isEmpty_map,
        List.isEmpty_iff, due]
    have hsent := sentBy_of_finished after htask hstage
    rw [← hsplit, hdue] at hsent
    refine ⟨⟨_, hsent⟩, ?_⟩
    intro hnone
    have hnothing : s.pending stamp = [] := pending_eq_nil (by simp [hnone])
    rwa [hnothing, List.append_nil] at hsent
  · intro before stamp after task fault hsplit earlier htask hstage hresult
    have hstep : (earlier.step settings engine (.finished stamp)).1 =
        earlier.moveTo stamp task (.reporting []) :=
      step_finished_of_error htask hstage hresult
    have hsent := sentBy_of_finished after htask hstage
    rw [← hsplit, hstep, pending_moveTo_self, List.append_eq_nil_iff] at hsent
    refine ⟨hsent.1, ?_⟩
    rw [hstep, store_moveTo]

/-- An engine whose first run is cancelled and that finds nothing in the others. -/
def fickle : Engine :=
  fun stamp _ => if stamp = 1 then .error .cancelled else .ok (.ofText "")

/-- A document is opened twice with one text, and only the first analysis fails. -/
def twoOpenings : List Event :=
  [.opened ledgerUri "cobol" "A", .opened ledgerUri "cobol" "A", .announced 1, .announced 2,
    .finished 1, .finished 2, .reported 2, .reported 2]

theorem loading_balanced_twoOpenings :
    (run .defaults fickle {} twoOpenings).1.tasks = [] ∧
    failedOpenings .defaults fickle ledgerUri twoOpenings = 1 ∧
    loadings ledgerUri (run .defaults fickle {} twoOpenings).2 =
      loadingEnds ledgerUri (run .defaults fickle {} twoOpenings).2 +
        failedOpenings .defaults fickle ledgerUri twoOpenings ∧
    sentBy .defaults fickle 2 {} twoOpenings =
      [.loadingEnded ledgerUri, .analysed ledgerUri] ∧
    sentBy .defaults fickle 1 {} twoOpenings = [] := by
  have hdone : (run .defaults fickle {} twoOpenings).1.tasks = [] := rfl
  obtain ⟨-, hbalance, hcommitted, hfailed⟩ :=
    loading_balanced .defaults fickle twoOpenings ledgerUri
  refine ⟨hdone, by decide +kernel, hbalance hdone, ?_, ?_⟩
  · have hsent := (hcommitted (twoOpenings.take 5) 2 [.reported 2, .reported 2]
      ⟨ledgerUri, "A", .opened, .running⟩ (.ofText "") rfl rfl rfl rfl rfl rfl).2 rfl
    have hclean : (Analysis.ofText "").diagnostics = [] := diagnostics_ofText_empty
    rwa [if_pos hclean] at hsent
  · exact (hfailed (twoOpenings.take 4) 1 _ ⟨ledgerUri, "A", .opened, .running⟩ .cancelled
      rfl rfl rfl rfl).1

end Session

end CobolCompanion
