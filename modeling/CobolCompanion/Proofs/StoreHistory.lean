import CobolCompanion.Proofs.SessionSteps
import Mathlib.Data.List.DropRight

namespace CobolCompanion

namespace Store

/-- What a store can be asked to do. -/
inductive Operation where
  | register (uri : Uri) (text : String)
  | begin (uri : Uri)
  | commit (uri : Uri) (stamp : Nat) (model : Model)
  | remove (uri : Uri)

def Operation.uri : Operation → Uri
  | register uri _ | begin uri | commit uri _ _ | remove uri => uri

/--
What a store answers. Only an opening and the beginning of an analysis are answered by a stamp.
-/
inductive Answer where
  | stamp (stamp : Nat)
  | outcome (outcome : Outcome)
  | removed (wasOpen : Bool)

def perform (s : Store) : Operation → Store × Answer
  | .register uri text => (s.register uri text, .stamp s.next)
  | .begin uri => (s.begin uri, .stamp s.next)
  | .commit uri stamp model => (s.commit uri stamp model, .outcome (s.outcome uri stamp))
  | .remove uri => (s.remove uri, .removed (s.contains uri))

/-- An operation with its answer. -/
structure Exchange where
  operation : Operation
  answer : Answer

namespace Exchange

variable (uri : Uri)

def opening? : Exchange → Option String
  | ⟨.register other text, _⟩ => if other = uri then some text else none
  | _ => none

def removes : Exchange → Bool
  | ⟨.remove other, _⟩ => other = uri
  | _ => false

def committed? : Exchange → Option Model
  | ⟨.commit other _ model, .outcome .committed⟩ => if other = uri then some model else none
  | _ => none

def stamp? : Exchange → Option Nat
  | ⟨_, .stamp stamp⟩ => some stamp
  | _ => none

end Exchange

/-- What was asked of a store and what it answered, in order. -/
abbrev Log :=
  List Exchange

namespace Log

variable (log : Log) (uri : Uri)

def openings : List String :=
  log.filterMap (·.opening? uri)

/-- What was recorded after the last opening of a document. -/
def since : Log :=
  log.rtakeWhile fun x => (x.opening? uri).isNone

/-- A document was opened, and it was not removed after its last opening. -/
def isOpen : Bool :=
  !(log.openings uri).isEmpty && !(log.since uri).any (·.removes uri)

def stamps : List Nat :=
  log.filterMap Exchange.stamp?

/--
The stamp that the latest opening of a document, or beginning of an analysis of it, was given.
-/
def latest? : Option Nat :=
  (stamps (log.filter (·.operation.uri = uri))).getLast?

/--
The model that was committed last since a document was opened, or that of the text it was opened
with.
-/
def model? : Option Model :=
  (log.openings uri).getLast?.map fun text =>
    ((log.since uri).filterMap (·.committed? uri)).getLastD (.pending text)

end Log

/-- The store after some operations, and what was recorded. -/
def replay (operations : List Operation) : Store × Log :=
  operations.foldl (fun (s, log) op => ((s.perform op).1, log ++ [⟨op, (s.perform op).2⟩]))
    ({}, [])

theorem replay_concat (operations : List Operation) (op : Operation) :
    replay (operations ++ [op]) =
      let (s, log) := replay operations
      ((s.perform op).1, log ++ [⟨op, (s.perform op).2⟩]) := by
  rw [replay, List.foldl_append]
  rfl

namespace Log

section
variable {log : Log} {x : Exchange} {uri : Uri}

theorem isOpen_concat (h : x.opening? uri = none) :
    isOpen (log ++ [x]) uri = (log.isOpen uri && !x.removes uri) := by
  have hopenings : openings (log ++ [x]) uri = log.openings uri := by simp [openings, h]
  have hsince : since (log ++ [x]) uri = log.since uri ++ [x] :=
    List.rtakeWhile_concat_pos _ _ _ (by simp [h])
  simp [isOpen, hopenings, hsince, Bool.and_assoc]

theorem latest?_concat :
    latest? (log ++ [x]) uri =
      if x.operation.uri = uri then x.stamp?.or (log.latest? uri) else log.latest? uri := by
  unfold latest? stamps
  split
  · next h => cases hstamp : x.stamp? <;> simp [h, hstamp]
  · next h => simp [h]

theorem model?_concat (h : x.opening? uri = none) :
    model? (log ++ [x]) uri = (log.model? uri).map fun model =>
      (x.committed? uri).getD model := by
  have hopenings : openings (log ++ [x]) uri = log.openings uri := by simp [openings, h]
  have hsince : since (log ++ [x]) uri = log.since uri ++ [x] :=
    List.rtakeWhile_concat_pos _ _ _ (by simp [h])
  rw [model?, hopenings, hsince, List.filterMap_append, model?, Option.map_map]
  congr 1
  funext text
  cases hcommitted : x.committed? uri <;> simp [hcommitted]

end

/-- A log tells of a document what is stored for it. -/
structure Tells (log : Log) (uri : Uri) (entry : Option Entry) : Prop where
  isOpen : log.isOpen uri = entry.isSome
  latest : ∀ e ∈ entry, log.latest? uri = some e.stamp
  model : ∀ e ∈ entry, log.model? uri = some e.model

namespace Tells

variable {log : Log} {uri : Uri} {entry : Option Entry}

theorem nil (uri : Uri) : Tells [] uri none :=
  ⟨rfl, by simp, by simp⟩

theorem concat_of_ne (h : log.Tells uri entry) {x : Exchange} (hx : x.operation.uri ≠ uri) :
    Tells (log ++ [x]) uri entry := by
  obtain ⟨op, answer⟩ := x
  have hopening : Exchange.opening? uri ⟨op, answer⟩ = none := by
    cases op <;> simp_all [Exchange.opening?, Operation.uri]
  have hremoves : Exchange.removes uri ⟨op, answer⟩ = false := by
    cases op <;> simp_all [Exchange.removes, Operation.uri]
  have hcommitted : Exchange.committed? uri ⟨op, answer⟩ = none := by
    unfold Exchange.committed?
    split
    · next heq => simp_all [Operation.uri]
    · rfl
  refine ⟨?_, ?_, ?_⟩
  · rw [isOpen_concat hopening, hremoves, Bool.not_false, Bool.and_true, h.isOpen]
  · rw [latest?_concat, if_neg hx]
    exact h.latest
  · rw [model?_concat hopening, hcommitted]
    simpa using h.model

theorem register (log : Log) (uri : Uri) (text : String) (stamp : Nat) :
    Tells (log ++ [⟨.register uri text, .stamp stamp⟩]) uri (some ⟨stamp, .pending text⟩) := by
  have hopening : Exchange.opening? uri ⟨.register uri text, .stamp stamp⟩ = some text :=
    if_pos rfl
  have hopenings : openings (log ++ [⟨.register uri text, .stamp stamp⟩]) uri =
      log.openings uri ++ [text] := by
    simp [openings, hopening]
  have hsince : since (log ++ [⟨.register uri text, .stamp stamp⟩]) uri = [] :=
    List.rtakeWhile_concat_neg _ _ _ (by simp [hopening])
  -- nothing was recorded since the opening, so it tells all of the document
  refine ⟨?_, ?_, ?_⟩
  · simp [Log.isOpen, hopenings, hsince]
  · simp [latest?_concat, Operation.uri, Exchange.stamp?]
  · simp [model?, hopenings, hsince]

theorem begin (h : log.Tells uri entry) (stamp : Nat) :
    Tells (log ++ [⟨.begin uri, .stamp stamp⟩]) uri (entry.map fun e => ⟨stamp, e.model⟩) := by
  refine ⟨?_, ?_, ?_⟩
  · rw [isOpen_concat rfl, h.isOpen]
    simp [Exchange.removes]
  · simp [latest?_concat, Operation.uri, Exchange.stamp?]
  · rw [model?_concat rfl]
    cases entry with
    | none => simp
    | some e => simp [h.model e rfl, Exchange.committed?]

theorem commit (h : log.Tells uri entry) (stamp : Nat) (model : Model) (outcome : Outcome) :
    Tells (log ++ [⟨.commit uri stamp model, .outcome outcome⟩]) uri
      (entry.map fun e => if outcome = .committed then ⟨e.stamp, model⟩ else e) := by
  have hcommitted : Exchange.committed? uri ⟨.commit uri stamp model, .outcome outcome⟩ =
      if outcome = .committed then some model else none := by
    cases outcome <;> simp [Exchange.committed?]
  refine ⟨?_, ?_, ?_⟩
  · rw [isOpen_concat rfl, h.isOpen]
    simp [Exchange.removes]
  · rw [latest?_concat]
    cases entry with
    | none => simp
    | some e => by_cases hoc : outcome = .committed <;>
      simp [h.latest e rfl, Exchange.stamp?, hoc]
  · rw [model?_concat rfl, hcommitted]
    cases entry with
    | none => simp
    | some e => by_cases hoc : outcome = .committed <;> simp [h.model e rfl, hoc]

theorem remove (log : Log) (uri : Uri) (wasOpen : Bool) :
    Tells (log ++ [⟨.remove uri, .removed wasOpen⟩]) uri none := by
  refine ⟨?_, by simp, by simp⟩
  rw [isOpen_concat rfl]
  simp [Exchange.removes]

end Tells

end Log

section
variable (s : Store) (op : Operation)

theorem stored?_perform_of_ne {uri : Uri} (h : op.uri ≠ uri) :
    (s.perform op).1.stored? uri = s.stored? uri := by
  cases op with
  | register other text => exact (s.stored?_register other uri text).trans (if_neg h)
  | begin other => exact (s.stored?_begin other uri).trans (if_neg h)
  | commit other stamp model => exact (s.stored?_commit other uri stamp model).trans (if_neg h)
  | remove other => exact (s.stored?_remove other uri).trans (if_neg h)

theorem outcome_of_stored? {uri : Uri} {entry : Entry} (h : s.stored? uri = some entry)
    (stamp : Nat) :
    s.outcome uri stamp = if entry.stamp = stamp then .committed
      else .superseded entry.stamp := by
  unfold stored? at h
  rw [outcome, h]

theorem outcome_of_not_stored? {uri : Uri} (h : s.stored? uri = none) (stamp : Nat) :
    s.outcome uri stamp = .closed := by
  unfold stored? at h
  rw [outcome, h]

/-- What is recorded of an operation tells what it does. -/
theorem tells_perform {log : Log} (h : ∀ uri, log.Tells uri (s.stored? uri)) (uri : Uri) :
    Log.Tells (log ++ [⟨op, (s.perform op).2⟩]) uri ((s.perform op).1.stored? uri) := by
  by_cases huri : op.uri = uri
  · subst huri
    cases op with
    | register uri text =>
      simp only [perform, Operation.uri, stored?_register, if_true]
      exact .register log uri text s.next
    | begin uri =>
      simp only [perform, Operation.uri, stored?_begin, if_true]
      exact (h uri).begin s.next
    | commit uri stamp model =>
      simp only [perform, Operation.uri, stored?_commit, if_true]
      have htells := (h uri).commit stamp model (s.outcome uri stamp)
      cases hentry : s.stored? uri with
      | none => rwa [hentry] at htells
      | some entry =>
        rw [hentry, s.outcome_of_stored? hentry] at htells
        rw [s.outcome_of_stored? hentry]
        by_cases hstamp : entry.stamp = stamp <;> simpa [hstamp] using htells
    | remove uri =>
      simp only [perform, Operation.uri, stored?_remove, if_true]
      exact .remove log uri (s.contains uri)
  · rw [stored?_perform_of_ne s op huri]
    exact (h uri).concat_of_ne huri

theorem stamps_perform {log : Log} (h : log.stamps = List.range' 1 s.clock) :
    Log.stamps (log ++ [⟨op, (s.perform op).2⟩]) = List.range' 1 (s.perform op).1.clock := by
  have hnext : log.stamps ++ [s.next] = List.range' 1 s.next := by
    rw [h, next, List.range'_concat, Nat.one_mul, Nat.add_comm]
  unfold Log.stamps at h hnext ⊢
  rw [List.filterMap_append]
  cases op with
  | register uri text => exact hnext
  | begin uri => exact hnext
  | commit uri stamp model =>
    simp only [perform, clock_commit]
    exact (List.append_nil _).trans h
  | remove uri => exact (List.append_nil _).trans h

/-- No document has a stamp, although it was given. -/
structure Stray (stamp : Nat) : Prop where
  le : stamp ≤ s.clock
  stored : ∀ uri entry, s.stored? uri = some entry → entry.stamp ≠ stamp

variable {s}

theorem clock_le_clock_perform : s.clock ≤ (s.perform op).1.clock := by
  cases op with
  | register uri text => exact Nat.le_succ _
  | begin uri => exact Nat.le_succ _
  | commit uri stamp model => exact Nat.le_of_eq (s.clock_commit uri stamp model).symm
  | remove uri => exact Nat.le_refl _

theorem stamp_perform {uri : Uri} {entry : Entry}
    (h : (s.perform op).1.stored? uri = some entry) :
    entry.stamp = s.next ∨ ∃ old, s.stored? uri = some old ∧ entry.stamp = old.stamp := by
  by_cases huri : op.uri = uri
  · subst huri
    cases op with
    | register uri text =>
      simp only [perform, Operation.uri, stored?_register, if_true, Option.some.injEq] at h
      exact .inl (by rw [← h])
    | begin uri =>
      simp only [perform, Operation.uri, stored?_begin, if_true, Option.map_eq_some_iff] at h
      obtain ⟨old, -, rfl⟩ := h
      exact .inl rfl
    | commit uri stamp model =>
      simp only [perform, Operation.uri, stored?_commit, if_true, Option.map_eq_some_iff] at h
      obtain ⟨old, hold, rfl⟩ := h
      refine .inr ⟨old, hold, ?_⟩
      split
      · next hstamp => exact hstamp.symm
      · rfl
    | remove uri => simp [perform, Operation.uri, stored?_remove] at h
  · rw [stored?_perform_of_ne s op huri] at h
    exact .inr ⟨entry, h, rfl⟩

theorem Stray.perform {stamp : Nat} (h : s.Stray stamp) : (s.perform op).1.Stray stamp := by
  refine ⟨Nat.le_trans h.le (clock_le_clock_perform op), ?_⟩
  intro uri entry hentry
  rcases stamp_perform op hentry with hnext | ⟨old, hold, heq⟩
  · have hle := h.le
    rw [hnext, next]
    omega
  · rw [heq]
    exact h.stored uri old hold

end

section
variable (operations : List Operation)

theorem tells_replay (uri : Uri) :
    (replay operations).2.Tells uri ((replay operations).1.stored? uri) := by
  induction operations using List.reverseRecOn generalizing uri with
  | nil => exact .nil uri
  | append_singleton operations op ih =>
    rw [replay_concat]
    exact tells_perform _ op ih uri

theorem stamps_replay :
    (replay operations).2.stamps = List.range' 1 (replay operations).1.clock := by
  induction operations using List.reverseRecOn with
  | nil => rfl
  | append_singleton operations op ih =>
    rw [replay_concat]
    exact stamps_perform _ op ih

theorem stamp_le_replay {uri : Uri} {entry : Entry}
    (h : (replay operations).1.stored? uri = some entry) :
    entry.stamp ≤ (replay operations).1.clock := by
  have hlatest := (tells_replay operations uri).latest entry h
  have hmem : entry.stamp ∈ (replay operations).2.stamps :=
    (List.filter_sublist.filterMap _).subset (List.mem_of_getLast? hlatest)
  rw [stamps_replay, List.mem_range'_1] at hmem
  omega

/-- A stamp that is given for a document which is not open is never that of a document. -/
theorem stray_replay {before later : List Operation} {uri : Uri}
    (h : (replay before).1.stored? uri = none) :
    (replay (before ++ .begin uri :: later)).1.Stray (replay before).1.next := by
  induction later using List.reverseRecOn with
  | nil =>
    rw [replay_concat]
    refine ⟨Nat.le_refl _, ?_⟩
    intro other entry hentry
    have hsame : (replay before).1.stored? other = some entry := by
      by_cases huri : uri = other
      · subst huri
        simp [perform, stored?_begin, h] at hentry
      · rwa [stored?_perform_of_ne _ (.begin uri) huri] at hentry
    have hle := stamp_le_replay before hsame
    rw [next]
    omega
  | append_singleton later op ih =>
    rw [← List.cons_append, ← List.append_assoc, replay_concat]
    exact ih.perform op

end

theorem outcome_replay (operations : List Operation) (uri : Uri) (stamp : Nat) :
    let store := (replay operations).1
    let log := (replay operations).2
    log.isOpen uri = false ∧ store.outcome uri stamp = .closed ∨
      log.isOpen uri ∧ ∃ latest, log.latest? uri = some latest ∧
        store.outcome uri stamp = if latest = stamp then .committed
          else .superseded latest := by
  intro store log
  have htells := tells_replay operations uri
  cases hentry : store.stored? uri with
  | none =>
    left
    refine ⟨?_, store.outcome_of_not_stored? hentry stamp⟩
    rw [htells.isOpen, hentry]
    rfl
  | some entry =>
    right
    refine ⟨?_, entry.stamp, htells.latest entry hentry, store.outcome_of_stored? hentry stamp⟩
    rw [htells.isOpen, hentry]
    rfl

theorem Stray.outcome_ne {s : Store} {stamp : Nat} (h : s.Stray stamp) (uri : Uri) :
    s.outcome uri stamp ≠ .committed := by
  rw [ne_eq, outcome_eq_committed_iff]
  rintro ⟨model, hentry⟩
  exact h.stored uri _ hentry rfl

/--
After every sequence of operations, whatever stamps they bring: a document is open if it was not
removed since it was last opened; a model is committed exactly if the document is open and the
stamp is the latest that was given for it, and otherwise nothing changes and the answer says
why; a stamp that was given while the document was not open never commits; what is stored is the
model that was last committed since the document was opened, or else the text that it was opened
with; stamps increase, and none is larger than their number; and no operation touches another
document.
-/
theorem replay_determined (operations : List Operation) :
    let store := (replay operations).1
    let log := (replay operations).2
    (∀ uri, store.contains uri = log.isOpen uri) ∧
    (∀ uri stamp model, (store.perform (.commit uri stamp model)).2 = .outcome .committed ↔
      log.isOpen uri ∧ log.latest? uri = some stamp) ∧
    (∀ uri stamp model, (store.perform (.commit uri stamp model)).2 ≠ .outcome .committed →
      (store.perform (.commit uri stamp model)).1 = store ∧
        (log.isOpen uri = false ∧ (store.perform (.commit uri stamp model)).2 =
          .outcome .closed ∨
          log.isOpen uri ∧ ∃ latest, log.latest? uri = some latest ∧
            (store.perform (.commit uri stamp model)).2 = .outcome (.superseded latest))) ∧
    (∀ before uri later stamp, operations = before ++ .begin uri :: later →
      (replay before).2.isOpen uri = false → ((replay before).1.perform (.begin uri)).2 =
        .stamp stamp →
      ∀ other model, (store.perform (.commit other stamp model)).2 ≠ .outcome .committed) ∧
    (∀ uri, store.find? uri = if log.isOpen uri then log.model? uri else none) ∧
    (log.stamps.Pairwise (· < ·) ∧ ∀ stamp ∈ log.stamps, stamp ≤ log.stamps.length) ∧
    ∀ op uri, op.uri ≠ uri → (store.perform op).1.stored? uri = store.stored? uri := by
  intro store log
  have htells := tells_replay operations
  have hstamps := stamps_replay operations
  have hanswer (uri : Uri) (stamp : Nat) (model : Model) (outcome : Outcome) :
      (store.perform (.commit uri stamp model)).2 = .outcome outcome ↔
        store.outcome uri stamp = outcome := by
    rw [perform, Answer.outcome.injEq]
  refine ⟨?_, ?_, ?_, ?_, ?_, ⟨?_, ?_⟩, ?_⟩
  · intro uri
    exact (htells uri).isOpen.symm
  · intro uri stamp model
    rw [hanswer]
    rcases outcome_replay operations uri stamp with
      ⟨hopen, houtcome⟩ | ⟨hopen, latest, hlatest, houtcome⟩
    · simp [store, log, hopen, houtcome]
    · simp [store, log, hopen, hlatest, houtcome]
  · intro uri stamp model h
    rw [ne_eq, hanswer] at h
    refine ⟨store.commit_eq_self uri model h, ?_⟩
    simp only [hanswer]
    rcases outcome_replay operations uri stamp with hclosed | ⟨hopen, latest, hlatest, houtcome⟩
    · exact .inl hclosed
    · refine .inr ⟨hopen, latest, hlatest, houtcome.trans (if_neg ?_)⟩
      rintro rfl
      exact h (houtcome.trans (if_pos rfl))
  · intro before uri later stamp hsplit hclosed hgiven other model
    have hnone : (replay before).1.stored? uri = none := by
      rw [← Option.not_isSome_iff_eq_none, ← (tells_replay before uri).isOpen, hclosed]
      exact Bool.false_ne_true
    obtain rfl : (replay before).1.next = stamp := by simpa [perform] using hgiven
    have hstray : store.Stray (replay before).1.next := by
      simp only [store, hsplit]
      exact stray_replay hnone
    rw [ne_eq, hanswer]
    exact hstray.outcome_ne other
  · intro uri
    rw [find?_eq_map_stored?, (htells uri).isOpen]
    cases hentry : store.stored? uri with
    | none => rfl
    | some entry => exact ((htells uri).model entry hentry).symm
  · rw [hstamps]
    exact List.pairwise_lt_range' ..
  · rw [hstamps, List.length_range']
    intro stamp hstamp
    rw [List.mem_range'_1] at hstamp
    omega
  · intro op uri h
    exact stored?_perform_of_ne store op h

def payrollUri : Uri :=
  ⟨"file:///payroll.cbl"⟩

theorem replay_stray_begin :
    let operations : List Operation := [.begin payrollUri, .register payrollUri "A"]
    (replay []).2.isOpen payrollUri = false ∧ (replay operations).2.isOpen payrollUri ∧
      ((replay operations).1.perform (.commit payrollUri 1 (.pending "B"))).2 ≠
        .outcome .committed ∧
      ((replay operations).1.perform (.commit payrollUri 1 (.pending "B"))).1 =
        (replay operations).1 := by
  intro operations
  have hopen : (replay operations).2.isOpen payrollUri := by rfl
  obtain ⟨-, -, hrefused, hstray, -⟩ := replay_determined operations
  have hne := hstray [] payrollUri _ 1 rfl rfl rfl payrollUri (.pending "B")
  exact ⟨rfl, hopen, hne, (hrefused payrollUri 1 (.pending "B") hne).1⟩

end Store

end CobolCompanion
