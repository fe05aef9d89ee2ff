import CobolCompanion.Proofs.Advances
import CobolCompanion.Proofs.Freshness

namespace CobolCompanion

namespace Notice

def subject? : Notice → Option Uri
  | diagnostics uri _ => some uri
  | analysed uri => some uri
  | _ => none

def list? : Notice → Option (List Protocol.Diagnostic)
  | diagnostics _ found => some found
  | _ => none

def findings (n : Notice) : List Protocol.Diagnostic :=
  n.list?.getD []

end Notice

def Output.notice? : Output → Option Notice
  | notice n => some n
  | log _ => none

/-- The notices among some outputs that tell the findings of a document. -/
def told (uri : Uri) (outputs : List Output) : List Notice :=
  (outputs.filterMap Output.notice?).filter (·.subject? = some uri)

/-- The list that was published last for a document, or the empty list. -/
def lastPublished (uri : Uri) (outputs : List Output) : List Protocol.Diagnostic :=
  ((told uri outputs).filterMap Notice.list?).getLastD []

/-- The findings that the client was told last for a document, or none. -/
def lastKnown (uri : Uri) (outputs : List Output) : List Protocol.Diagnostic :=
  ((told uri outputs).map Notice.findings).getLastD []

section
variable {uri other : Uri}

@[simp] theorem told_nil : told uri [] = [] := rfl

@[simp] theorem told_append (first more : List Output) :
    told uri (first ++ more) = told uri first ++ told uri more := by
  simp only [told, List.filterMap_append, List.filter_append]

theorem told_map_notice (ns : List Notice) :
    told uri (ns.map .notice) = ns.filter (·.subject? = some uri) := by
  have hnotice : Output.notice? ∘ Output.notice = some := rfl
  rw [told, List.filterMap_map, hnotice, List.filterMap_some]

theorem mem_told {outputs : List Output} {n : Notice} :
    n ∈ told uri outputs ↔ .notice n ∈ outputs ∧ n.subject? = some uri := by
  rw [told, List.mem_filter, List.mem_filterMap, decide_eq_true_eq]
  apply and_congr_left
  intro _
  constructor
  · rintro ⟨output, hmem, hnotice⟩
    cases output with
    | notice m =>
      cases hnotice
      exact hmem
    | log e => cases hnotice
  · intro hmem
    exact ⟨.notice n, hmem, rfl⟩

@[simp] theorem subject?_diagnostics (found : List Protocol.Diagnostic) :
    (Notice.diagnostics uri found).subject? = some uri := rfl

@[simp] theorem subject?_analysed : (Notice.analysed uri).subject? = some uri := rfl

@[simp] theorem subject?_loadingEnded : (Notice.loadingEnded uri).subject? = none := rfl

@[simp] theorem subject?_finding (found : List Protocol.Diagnostic) :
    (Task.finding uri found).subject? = some uri := by
  unfold Task.finding
  split <;> rfl

theorem list?_finding (found : List Protocol.Diagnostic) :
    (Task.finding uri found).list? = if found = [] then none else some found := by
  cases found <;> rfl

end

/-- What the client is told when the analysis of a text is taken over. -/
def Trigger.verdict (uri : Uri) (text : String) : Trigger → Notice
  | opened => Task.finding uri (Task.published (.ofText text))
  | changed => .diagnostics uri (Task.published (.ofText text))

theorem Trigger.list?_verdict (uri : Uri) (text : String) (trigger : Trigger) :
    (trigger.verdict uri text).list? =
      if trigger = .opened ∧ Task.published (.ofText text) = [] then none
      else some (Task.published (.ofText text)) := by
  cases trigger with
  | opened => simp only [verdict, list?_finding, true_and]
  | changed => rfl

theorem Trigger.findings_verdict (uri : Uri) (text : String) (trigger : Trigger) :
    (trigger.verdict uri text).findings = Task.published (.ofText text) := by
  unfold Notice.findings
  rw [Trigger.list?_verdict]
  split
  · next hclean => exact hclean.2.symm
  · rfl

/--
An analysis tells its finding if its result is taken over, and nothing else about any document.
-/
theorem told_notices (uri : Uri) (task : Task) (outcome : Store.Outcome) :
    told uri ((task.notices (.ofText task.text) outcome).map .notice) =
      if task.uri = uri ∧ outcome = .committed then [task.trigger.verdict uri task.text]
      else [] := by
  obtain ⟨document, text, trigger, stage⟩ := task
  rw [told_map_notice]
  cases outcome with
  | committed =>
    by_cases huri : document = uri
    · subst huri
      cases trigger <;> simp [Task.notices, Trigger.verdict]
    · cases trigger <;> simp [Task.notices, huri]
  | superseded latest => cases trigger <;> simp [Task.notices]
  | closed => cases trigger <;> simp [Task.notices]

theorem told_logged (uri : Uri) (task : Task) (stamp : Nat) (outcome : Store.Outcome) :
    told uri (task.logged stamp outcome) = [] := by
  cases outcome <;> rfl

namespace Event

def trigger : Event → Trigger
  | opened .. => .opened
  | _ => .changed

/-- An event, where the end of an analysis includes all that it reports. -/
def whole : Event → List Event
  | finished stamp => [.finished stamp, .reported stamp, .reported stamp]
  | reported _ => []
  | e => [e]

end Event

/--
The latest edit of a document in a list of events, with its text and the events before it.
-/
structure LatestEdit (settings : Settings) (events : List Event) (uri : Uri)
    (before : List Event) (e : Event) (text : String) : Prop where
  edit : e.edit? settings = some (uri, text)
  split : ∃ after, events = before ++ e :: after ∧
    ∀ e' ∈ after, ∀ other, e'.edit? settings ≠ some (uri, other)

namespace LatestEdit

variable {settings : Settings} {events before : List Event} {e : Event} {uri : Uri}
  {text : String}

theorem of_edit (events : List Event) (h : e.edit? settings = some (uri, text)) :
    LatestEdit settings (events ++ [e]) uri events e text :=
  ⟨h, [], rfl, by simp⟩

theorem concat (h : LatestEdit settings events uri before e text) {last : Event}
    (hlast : ∀ other, last.edit? settings ≠ some (uri, other)) :
    LatestEdit settings (events ++ [last]) uri before e text := by
  obtain ⟨after, rfl, hafter⟩ := h.split
  refine ⟨h.edit, after ++ [last], by simp, ?_⟩
  intro e' he'
  rcases List.mem_append.1 he' with he' | he'
  · exact hafter e' he'
  · rw [List.mem_singleton.1 he']
    exact hlast

end LatestEdit

namespace Session

/-- Events in which every analysis reports in the step in which it ends. -/
def runWhole (settings : Settings) (events : List Event) : Session × List Output :=
  run settings .standard {} (events.flatMap Event.whole)

theorem runWhole_concat (settings : Settings) (events : List Event) (e : Event) :
    runWhole settings (events ++ [e]) =
      let (s, outputs) := runWhole settings events
      let (s', more) := s.run settings .standard e.whole
      (s', outputs ++ more) := by
  simp only [runWhole, List.flatMap_append, List.flatMap_cons, List.flatMap_nil,
    List.append_nil, run_append]

/-- The client hears about findings from reports only. -/
theorem told_step {settings : Settings} {engine : Engine} {s : Session} {e : Event} (uri : Uri)
    (h : ∀ stamp, e ≠ .reported stamp) : told uri (s.step settings engine e).2 = [] := by
  cases e with
  | opened document language text =>
    simp only [step, openDocument]
    split <;> rfl
  | changed document text => rfl
  | closed document => rfl
  | announced stamp =>
    simp only [step, Session.announce]
    split
    · split <;> rfl
    · rfl
  | finished stamp =>
    simp only [step, finish]
    split
    · next task htask =>
      split
      · cases engine stamp task.text with
        | error fault => rfl
        | ok analysis => exact told_logged uri task stamp _
      · rfl
    · rfl
  | reported stamp => exact absurd rfl (h stamp)

def Quiet (s : Session) : Prop :=
  ∀ stamp task, s.tasks.find? stamp = some task → ∀ notices, task.stage ≠ .reporting notices

section
variable {settings : Settings} {s : Session} {stamp : Nat} {task : Task}

theorem run_reported_of_not_reporting {engine : Engine} (n : Nat)
    (h : ∀ task, s.tasks.find? stamp = some task → ∀ notices, task.stage ≠ .reporting notices) :
    s.run settings engine (List.replicate n (.reported stamp)) = (s, []) := by
  induction n with
  | zero => rfl
  | succ n ih =>
    have hstep : s.step settings engine (.reported stamp) = (s, []) := by
      simp only [step, report]
      split
      · next task htask =>
        split
        · next notice rest hstage => exact absurd hstage (h task htask _)
        · rfl
      · rfl
    simp only [List.replicate_succ, run, hstep, ih, List.append_nil]

theorem run_reported {engine : Engine} {n : Nat} {notices : List Notice}
    (hn : notices.length ≤ n) :
    let result := (s.moveTo stamp task (.reporting notices)).run settings engine
      (List.replicate n (.reported stamp))
    result.1.store = s.store ∧ result.2 = notices.map .notice ∧
      ∀ other, result.1.tasks.find? other = if stamp = other then none
        else s.tasks.find? other := by
  induction n generalizing s task notices with
  | zero =>
    obtain rfl := List.length_eq_zero_iff.1 (Nat.le_zero.1 hn)
    exact ⟨rfl, rfl, fun other => Keyed.find?_erase ..⟩
  | succ n ih =>
    cases notices with
    | nil =>
      have hover : (s.moveTo stamp task (.reporting [])).tasks.find? stamp = none := by
        rw [find?_moveTo_self, if_pos rfl]
      rw [run_reported_of_not_reporting (n + 1) (by simp [hover])]
      exact ⟨rfl, rfl, fun other => Keyed.find?_erase ..⟩
    | cons notice rest =>
      have hfound : (s.moveTo stamp task (.reporting (notice :: rest))).tasks.find? stamp =
          some { task with stage := .reporting (notice :: rest) } := by
        rw [find?_moveTo_self, if_neg (by simp)]
      have hstep : (s.moveTo stamp task (.reporting (notice :: rest))).step settings engine
          (.reported stamp) =
          ((s.moveTo stamp task (.reporting (notice :: rest))).moveTo stamp
            { task with stage := .reporting (notice :: rest) } (.reporting rest),
              [.notice notice]) := by
        simp only [step, report, hfound]
      obtain ⟨hstore, houtputs, htasks⟩ :=
        @ih (s.moveTo stamp task (.reporting (notice :: rest)))
        { task with stage := .reporting (notice :: rest) } rest (Nat.le_of_succ_le_succ hn)
      simp only [List.replicate_succ, run, hstep]
      refine ⟨hstore.trans (store_moveTo ..), by rw [houtputs]; rfl, ?_⟩
      intro other
      rw [htasks]
      split
      · rfl
      · next hne => exact find?_moveTo_of_ne _ _ _ _ hne

end

/-- What a whole event does, case by case. -/
inductive Leap (settings : Settings) (s : Session) : Event → Session × List Output → Prop where
  | single {e : Event} {result : Session × List Output} (he : e.whole = [e])
    (h : Transition settings .standard s e result) (hsilent : ∀ uri, told uri result.2 = []) :
    Leap settings s e result
  | absent (stamp : Nat) : Leap settings s (.reported stamp) (s, [])
  | idle {stamp : Nat} (h : ∀ task, s.tasks.find? stamp = some task → task.stage ≠ .running) :
    Leap settings s (.finished stamp) (s, [])
  | complete {stamp : Nat} {task : Task} (h : s.tasks.find? stamp = some task)
    (hstage : task.stage = .running) {s' : Session}
    (hstore : s'.store = s.store.commit task.uri stamp (.ofText task.text))
    (htasks : ∀ other, s'.tasks.find? other = if stamp = other then none
      else s.tasks.find? other) :
    Leap settings s (.finished stamp)
      (s', task.logged stamp (s.store.outcome task.uri stamp) ++
        (task.notices (.ofText task.text) (s.store.outcome task.uri stamp)).map .notice)

theorem length_notices_le (task : Task) (analysis : Analysis) (outcome : Store.Outcome) :
    (task.notices analysis outcome).length ≤ 2 := by
  unfold Task.notices
  repeat' split
  all_goals simp

theorem leap_run (settings : Settings) {s : Session} (hquiet : s.Quiet) (e : Event) :
    Leap settings s e (s.run settings .standard e.whole) := by
  have hsingle (he : e.whole = [e]) (hnot : ∀ stamp, e ≠ .reported stamp) :
      Leap settings s e (s.run settings .standard e.whole) := by
    have hrun : s.run settings .standard e.whole = s.step settings .standard e := by
      rw [he]
      simp only [run, List.append_nil]
    rw [hrun]
    exact .single he (transition_step settings .standard s e) fun uri => told_step uri hnot
  cases e with
  | opened uri language text => exact hsingle rfl (by simp)
  | changed uri text => exact hsingle rfl (by simp)
  | closed uri => exact hsingle rfl (by simp)
  | announced stamp => exact hsingle rfl (by simp)
  | reported stamp => exact .absent stamp
  | finished stamp =>
    by_cases hrunning : ∃ task, s.tasks.find? stamp = some task ∧ task.stage = .running
    · obtain ⟨task, htask, hstage⟩ := hrunning
      have hstep : s.step settings .standard (.finished stamp) =
          s.conclude stamp task (.ok (.ofText task.text)) := by
        simp only [step, finish, htask, hstage]
        rfl
      have hreports := @run_reported settings
        { s with store := s.store.commit task.uri stamp (.ofText task.text) }
        stamp task .standard 2 _
        (length_notices_le task (.ofText task.text) (s.store.outcome task.uri stamp))
      dsimp only at hreports
      obtain ⟨hstore, houtputs, htasks⟩ := hreports
      have hleap : Leap settings s (.finished stamp) _ := .complete htask hstage hstore htasks
      rw [← houtputs] at hleap
      simp only [Event.whole]
      rw [run, hstep]
      exact hleap
    · rw [not_exists] at hrunning
      have hidle : ∀ task, s.tasks.find? stamp = some task → task.stage ≠ .running :=
        fun task htask hstage => hrunning task ⟨htask, hstage⟩
      have hstep : s.step settings .standard (.finished stamp) = (s, []) := by
        simp only [step, finish]
        split
        · next task htask =>
          split
          · next hstage => exact absurd hstage (hidle task htask)
          · rfl
        · rfl
      have hreports : s.run settings .standard [.reported stamp, .reported stamp] = (s, []) :=
        run_reported_of_not_reporting 2 (hquiet stamp)
      simp only [Event.whole]
      rw [run, hstep]
      simp only [hreports]
      exact .idle hidle

namespace Leap

variable {settings : Settings} {s : Session} {e : Event}
  {result : Session × List Output} {uri : Uri}

theorem quiet (h : Leap settings s e result) (hquiet : s.Quiet) : result.1.Quiet := by
  intro stamp task' htask' notices hstage'
  cases h with
  | absent => exact hquiet stamp task' htask' notices hstage'
  | idle => exact hquiet stamp task' htask' notices hstage'
  | complete h hstage hstore htasks =>
    rw [htasks, Option.ite_none_left_eq_some] at htask'
    exact hquiet stamp task' htask'.2 notices hstage'
  | single he h =>
    cases h with
    | accept =>
      simp only [Keyed.find?_put] at htask'
      split at htask'
      · cases htask'
        cases hstage'
      · exact hquiet stamp task' htask' notices hstage'
    | change =>
      simp only [changeDocument, Keyed.find?_put] at htask'
      split at htask'
      · cases htask'
        cases hstage'
      · exact hquiet stamp task' htask' notices hstage'
    | @announce other task htask hstage =>
      by_cases heq : other = stamp
      · subst heq
        rw [find?_moveTo_self, if_neg (by simp), Option.some.injEq] at htask'
        subst htask'
        cases hstage'
      · rw [find?_moveTo_of_ne _ _ _ _ heq] at htask'
        exact hquiet stamp task' htask' notices hstage'
    | reject => exact hquiet stamp task' htask' notices hstage'
    | close => exact hquiet stamp task' htask' notices hstage'
    | idle => exact hquiet stamp task' htask' notices hstage'
    | fail => simp [Event.whole] at he
    | conclude => simp [Event.whole] at he
    | report => simp [Event.whole] at he

theorem isSome_stored? (h : Leap settings s e result) (uri : Uri) :
    (result.1.store.stored? uri).isSome ↔
      (∃ text, e.accepted? settings = some (uri, text)) ∨
        (s.store.stored? uri).isSome ∧ e ≠ .closed uri := by
  cases h with
  | single he h => exact h.isSome_stored? uri
  | absent => simp [Event.accepted?]
  | idle => simp [Event.accepted?]
  | @complete stamp task htask hstage s' hstore htasks =>
    rw [hstore]
    by_cases heq : task.uri = uri <;> simp [Store.stored?_commit, Event.accepted?, heq]

theorem clock_le (h : Leap settings s e result) : s.store.clock ≤ result.1.store.clock := by
  cases h with
  | single he h => exact h.clock ▸ Nat.le_add_right ..
  | absent => exact Nat.le_refl _
  | idle => exact Nat.le_refl _
  | complete htask hstage hstore htasks =>
    rw [hstore, Store.clock_commit]

end Leap

/--
How far the analysis of an edit has come, and what the client was told of it since some outputs.
-/
inductive Informed (s : Session) (outputs earlier : List Output) (uri : Uri) (text : String)
    (trigger : Trigger) (entry : Store.Entry) : Prop where
  | waiting {stage : Stage}
    (htask : s.tasks.find? entry.stamp = some ⟨uri, text, trigger, stage⟩)
    (htold : told uri outputs = told uri earlier) :
      Informed s outputs earlier uri text trigger entry
  | done (htask : s.tasks.find? entry.stamp = none) (hmodel : entry.model = .ofText text)
    (htold : told uri outputs = told uri earlier ++ [trigger.verdict uri text]) :
    Informed s outputs earlier uri text trigger entry

namespace Informed

variable {settings : Settings} {s : Session} {outputs earlier : List Output} {uri : Uri}
  {text : String}
variable {trigger : Trigger} {entry : Store.Entry} {e : Event} {result : Session × List Output}

theorem unchanged (h : Informed s outputs earlier uri text trigger entry) {s' : Session}
    {more : List Output} (htasks : s'.tasks.find? entry.stamp = s.tasks.find? entry.stamp)
    (hsilent : told uri more = []) :
    Informed s' (outputs ++ more) earlier uri text trigger entry := by
  cases h with
  | waiting htask htold =>
    apply Informed.waiting (htasks.trans htask)
    rw [told_append, hsilent, List.append_nil, htold]
  | done htask hmodel htold =>
    apply Informed.done (htasks.trans htask) hmodel
    rw [told_append, hsilent, List.append_nil, htold]

theorem transition (h : Informed s outputs earlier uri text trigger entry) (he : e.whole = [e])
    (htransition : Transition settings .standard s e result) (hsilent : told uri result.2 = [])
    (hstamp : entry.stamp ≤ s.store.clock) :
    Informed result.1 (outputs ++ result.2) earlier uri text trigger entry := by
  rcases htransition.find?_tasks hstamp with hsame | ⟨task, stage, htask, hadvances, hmoved⟩
  · exact h.unchanged hsame hsilent
  · obtain ⟨document, content, origin, current⟩ := task
    cases hadvances with
    | announced =>
      rw [if_neg (by simp)] at hmoved
      cases h with
      | waiting htask' htold =>
        rw [htask] at htask'
        cases htask'
        apply Informed.waiting hmoved
        rw [told_append, hsilent, List.append_nil, htold]
      | done htask' => simp [htask] at htask'
    | finished notices => simp [Event.whole] at he
    | reported notice rest => simp [Event.whole] at he

/--
An event that is no edit of a document may at most complete the analysis that is under way.
-/
theorem leap (h : Informed s outputs earlier uri text trigger entry)
    (hleap : Leap settings s e result) (hentry : s.store.stored? uri = some entry)
    (hstamp : entry.stamp ≤ s.store.clock)
    (hedit : ∀ other, e.edit? settings ≠ some (uri, other)) (hclosed : e ≠ .closed uri) :
    ∃ entry', result.1.store.stored? uri = some entry' ∧ entry'.stamp = entry.stamp ∧
      Informed result.1 (outputs ++ result.2) earlier uri text trigger entry' := by
  cases hleap with
  | single he htransition hsilent =>
    refine ⟨entry, ?_, rfl, h.transition he htransition (hsilent uri) hstamp⟩
    apply (htransition.stored? hentry hedit hclosed).resolve_right
    rintro ⟨task, analysis, rfl, -⟩
    simp [Event.whole] at he
  | absent => exact ⟨entry, hentry, rfl, h.unchanged rfl rfl⟩
  | idle => exact ⟨entry, hentry, rfl, h.unchanged rfl rfl⟩
  | @complete stamp task htask hstage s' hstore htasks =>
    have hstored : s'.store.stored? uri =
        if task.uri = uri ∧ entry.stamp = stamp then some ⟨stamp, .ofText task.text⟩
        else some entry := by
      rw [hstore, Store.stored?_commit, hentry]
      by_cases huri : task.uri = uri <;> by_cases heq : entry.stamp = stamp <;> simp [huri, heq]
    have houtcome : (task.uri = uri ∧ s.store.outcome task.uri stamp = .committed) ↔
        (task.uri = uri ∧ entry.stamp = stamp) := by
      refine and_congr_right fun huri => ?_
      rw [Store.outcome_eq_committed_iff, huri, hentry]
      constructor
      · rintro ⟨model, hmodel⟩
        exact congrArg Store.Entry.stamp (Option.some.inj hmodel)
      · rintro rfl
        exact ⟨entry.model, rfl⟩
    -- The analysis that ends is that of the entry, or its result does not reach the entry.
    by_cases heq : entry.stamp = stamp
    · cases h with
      | waiting htask' htold =>
        rw [heq, htask, Option.some.injEq] at htask'
        subst htask'
        refine ⟨⟨stamp, .ofText text⟩, by simp [hstored, heq], heq.symm, .done ?_ rfl ?_⟩
        · simp [htasks]
        · rw [told_append, told_append, told_logged, told_notices,
            if_pos (houtcome.2 ⟨rfl, heq⟩), htold, List.nil_append]
      | done htask' => simp [heq, htask] at htask'
    · refine ⟨entry, by simp [hstored, heq], rfl, h.unchanged ?_ ?_⟩
      · simp [htasks, Ne.symm heq]
      · rw [told_append, told_logged, told_notices, if_neg (fun hc => heq (houtcome.1 hc).2),
          List.append_nil]

end Informed

/-- The client is up to date with the latest edit of a document, or it will be. -/
def Tracked (settings : Settings) (events : List Event) (s : Session)
    (outputs : List Output) (uri : Uri) (entry : Store.Entry) : Prop :=
  entry.stamp ≤ s.store.clock ∧ ∃ before e text, LatestEdit settings events uri before e text ∧
    Informed s outputs (runWhole settings before).2 uri text e.trigger entry

section
variable {settings : Settings} {events : List Event} {e : Event} {uri : Uri} {text : String}
variable {s : Session} {outputs : List Output} {result : Session × List Output}
  {entry : Store.Entry}

theorem tracked_of_edit (h : Leap settings s e result)
    (hedit : e.edit? settings = some (uri, text))
    (hentry : result.1.store.stored? uri = some entry)
    (hrun : runWhole settings events = (s, outputs)) :
    Tracked settings (events ++ [e]) result.1 (outputs ++ result.2) uri entry := by
  cases h with
  | absent => simp [Event.edit?, Event.accepted?] at hedit
  | idle => simp [Event.edit?, Event.accepted?] at hedit
  | complete => simp [Event.edit?, Event.accepted?] at hedit
  | single he h hsilent =>
    have hstays : told uri (outputs ++ result.2) = told uri (runWhole settings events).2 := by
      rw [told_append, hsilent uri, List.append_nil, hrun]
    rcases h.of_edit hedit with ⟨haccepted, hresult⟩ | ⟨rfl, hresult⟩
    · have htrigger : e.trigger = .opened := by
        cases e <;> first | rfl | simp [Event.accepted?] at haccepted
      rw [hresult] at hentry ⊢
      rw [Store.stored?_register, if_pos rfl, Option.some.injEq] at hentry
      subst hentry
      refine ⟨Nat.le_refl _, events, e, text, .of_edit events hedit, ?_⟩
      rw [htrigger]
      exact .waiting (Keyed.find?_put_self ..) hstays
    · rw [hresult] at hentry ⊢
      simp only [changeDocument, Store.stored?_begin, if_true, Option.map_eq_some_iff] at hentry
      obtain ⟨old, hold, rfl⟩ := hentry
      refine ⟨Nat.le_refl _, events, _, text, .of_edit events hedit, ?_⟩
      exact .waiting (Keyed.find?_put_self ..) hstays

theorem Tracked.leap (htracked : Tracked settings events s outputs uri entry)
    (h : Leap settings s e result) (hentry : s.store.stored? uri = some entry)
    (hedit : ∀ other, e.edit? settings ≠ some (uri, other)) (hclosed : e ≠ .closed uri)
    {entry' : Store.Entry} (hentry' : result.1.store.stored? uri = some entry') :
    Tracked settings (events ++ [e]) result.1 (outputs ++ result.2) uri entry' := by
  obtain ⟨hstamp, before, edit, text, hlatest, hinformed⟩ := htracked
  obtain ⟨entry₁, hentry₁, hstamp₁, hinformed₁⟩ := hinformed.leap h hentry hstamp hedit hclosed
  rw [hentry', Option.some.injEq] at hentry₁
  subst hentry₁
  refine ⟨?_, before, edit, text, hlatest.concat hedit, hinformed₁⟩
  rw [hstamp₁]
  exact Nat.le_trans hstamp h.clock_le

end

theorem quiet_runWhole (settings : Settings) (events : List Event) :
    (runWhole settings events).1.Quiet := by
  induction events using List.reverseRecOn with
  | nil =>
    intro stamp task htask
    simp [runWhole, run, Keyed.find?] at htask
  | append_singleton events e ih =>
    rw [runWhole_concat]
    exact (leap_run settings ih e).quiet ih

theorem isSome_stored?_runWhole (settings : Settings) (events : List Event) (uri : Uri) :
    ((runWhole settings events).1.store.stored? uri).isSome ↔ IsOpen settings events uri := by
  induction events using List.reverseRecOn with
  | nil =>
    have hnone : (runWhole settings []).1.store.stored? uri = none := rfl
    rw [hnone]
    constructor
    · intro h
      cases h
    · rintro ⟨text, since, ⟨before, e, hsplit, _⟩, _, _⟩
      simp at hsplit
  | append_singleton events e ih =>
    rw [runWhole_concat, isOpen_concat, ← ih]
    exact (leap_run settings (quiet_runWhole settings events) e).isSome_stored? uri

/--
After every run, the client is up to date with the latest edit of each stored document, or will
be.
-/
theorem tracked_runWhole (settings : Settings) (events : List Event) (uri : Uri) :
    ∀ entry, (runWhole settings events).1.store.stored? uri = some entry →
      Tracked settings events (runWhole settings events).1
        (runWhole settings events).2 uri entry := by
  induction events using List.reverseRecOn with
  | nil =>
    intro entry hentry
    cases hentry
  | append_singleton events e ih =>
    intro entry' hentry'
    have h := leap_run settings (quiet_runWhole settings events) e
    rw [runWhole_concat] at hentry' ⊢
    -- What is stored after an event that is no edit was stored before it.
    by_cases hedit : ∃ text, e.edit? settings = some (uri, text)
    · obtain ⟨text, hedit⟩ := hedit
      exact tracked_of_edit h hedit hentry' rfl
    · rw [not_exists] at hedit
      rcases (h.isSome_stored? uri).1 (by rw [hentry']; rfl)
        with ⟨text, haccepted⟩ | ⟨hstored, hclosed⟩
      · exact absurd (Event.edit?_eq_some_iff.2 (.inl haccepted)) (hedit text)
      · obtain ⟨entry, hentry⟩ := Option.isSome_iff_exists.1 hstored
        exact (ih entry hentry).leap h hentry hedit hclosed hentry'

/-- A document with findings is closed and opened again without any. -/
def reopening : List Event :=
  [.opened ledgerUri "cobol" "X", .announced 1, .finished 1, .closed ledgerUri,
    .opened ledgerUri "cobol" "", .announced 2, .finished 2]

theorem isOpen_reopening : IsOpen .defaults reopening ledgerUri := by
  have haccepted :
      (Event.opened ledgerUri "cobol" "").accepted? .defaults = some (ledgerUri, "") := by
    decide +kernel
  refine ⟨"", [.announced 2, .finished 2], ⟨reopening.take 4, _, rfl, haccepted⟩, ?_, by decide⟩
  simp [Event.accepted?]

theorem tasks_reopening : (runWhole .defaults reopening).1.tasks = [] := rfl

theorem find?_reopening :
    (runWhole .defaults reopening).1.store.find? ledgerUri = some (.ofText "") := rfl

theorem diagnostics_ofText_empty : (Model.ofText "").diagnostics = [] := by
  change (parse "").diagnostics = []
  unfold parse parseStream Parse.finalState
  rw [Parse.run_of_isFinal (by decide +kernel)]
  rfl

theorem lastPublished_reopening :
    lastPublished ledgerUri (runWhole .defaults reopening).2 ≠ [] := by
  have hfound : Task.published (.ofText "X") ≠ [] := by
    unfold Task.published
    rw [ne_eq, List.map_eq_nil_iff]
    change (parse "X").diagnostics ≠ []
    unfold parse parseStream Parse.finalState
    rw [← Parse.run_iterate 3, Parse.run_of_isFinal (by decide +kernel)]
    decide +kernel
  have hclean : Task.published (.ofText "") = [] := by
    rw [Task.published, List.map_eq_nil_iff]
    exact diagnostics_ofText_empty
  have houtputs : (runWhole .defaults reopening).2 =
      [.loading ledgerUri, .loadingEnded ledgerUri,
        Task.finding ledgerUri (Task.published (.ofText "X")), .loading ledgerUri,
        .loadingEnded ledgerUri,
        Task.finding ledgerUri (Task.published (.ofText ""))].map .notice := rfl
  have hloading : (Notice.loading ledgerUri).subject? = none := rfl
  rw [lastPublished, houtputs, told_map_notice]
  simp [hloading, list?_finding, hfound, hclean]

/--
Once no analysis is under way, the client knows the findings of every open document: what it was
told last are the diagnostics of the stored model. So is the list that was published last,
except where the latest edit opened the document and found nothing: then it is the one from
before that edit.
-/
theorem lastKnown_runWhole (settings : Settings) (events : List Event) (uri : Uri)
    (hopen : IsOpen settings events uri) (hdone : (runWhole settings events).1.tasks = []) :
    ∃ model before e text, (runWhole settings events).1.store.find? uri = some model ∧
      LatestEdit settings events uri before e text ∧ model = .ofText text ∧
      lastKnown uri (runWhole settings events).2 = model.diagnostics.map .ofDiagnostic ∧
      lastPublished uri (runWhole settings events).2 =
        if e.trigger = .opened ∧ model.diagnostics = [] then
          lastPublished uri (runWhole settings before).2
        else model.diagnostics.map .ofDiagnostic := by
  obtain ⟨entry, hentry⟩ :=
    Option.isSome_iff_exists.1 ((isSome_stored?_runWhole settings events uri).2 hopen)
  obtain ⟨-, before, e, text, hlatest, hinformed⟩ :=
    tracked_runWhole settings events uri entry hentry
  cases hinformed with
  | waiting htask => simp [hdone, Keyed.find?] at htask
  | done htask hmodel htold =>
    have hpublished : (Model.ofText text).diagnostics.map Protocol.Diagnostic.ofDiagnostic =
        Task.published (.ofText text) := rfl
    refine ⟨.ofText text, before, e, text, ?_, hlatest, rfl, ?_, ?_⟩
    · rw [Store.find?_eq_map_stored?, hentry, Option.map_some, hmodel]
    · rw [lastKnown, htold, List.map_append, List.map_singleton, Trigger.findings_verdict,
        List.getLastD_concat, hpublished]
    · have hclean : (Model.ofText text).diagnostics = [] ↔
          Task.published (.ofText text) = [] := by
        rw [← hpublished, List.map_eq_nil_iff]
      rw [lastPublished, htold, List.filterMap_append, hpublished]
      simp only [hclean]
      split
      · next hsilent =>
        rw [List.filterMap_cons_none
          ((e.trigger.list?_verdict uri text).trans (if_pos hsilent)),
          List.filterMap_nil, List.append_nil, lastPublished]
      · next htells =>
        rw [List.filterMap_cons_some ((e.trigger.list?_verdict uri text).trans (if_neg htells)),
          List.filterMap_nil, List.getLastD_concat]

theorem lastKnown_runWhole_reopening :
    IsOpen .defaults reopening ledgerUri ∧ (runWhole .defaults reopening).1.tasks = [] ∧
      lastKnown ledgerUri (runWhole .defaults reopening).2 = [] := by
  refine ⟨isOpen_reopening, tasks_reopening, ?_⟩
  obtain ⟨model, before, e, text, hmodel, -, -, hknown, -⟩ :=
    lastKnown_runWhole .defaults reopening ledgerUri isOpen_reopening tasks_reopening
  rw [find?_reopening, Option.some.injEq] at hmodel
  rw [hknown, ← hmodel, diagnostics_ofText_empty, List.map_nil]

/-- The list that was published last need not be that of the stored model. -/
theorem lastPublished_ne_diagnostics :
    ¬∀ (settings : Settings) (events : List Event) (uri : Uri) (model : Model),
      IsOpen settings events uri → (runWhole settings events).1.tasks = [] →
      (runWhole settings events).1.store.find? uri = some model →
      lastPublished uri (runWhole settings events).2 = model.diagnostics.map .ofDiagnostic := by
  intro hconverges
  have hlast := hconverges .defaults reopening ledgerUri _ isOpen_reopening tasks_reopening
    find?_reopening
  rw [diagnostics_ofText_empty, List.map_nil] at hlast
  exact lastPublished_reopening hlast

end Session

end CobolCompanion
