import CobolCompanion.Analysis
import CobolCompanion.Keyed
import CobolCompanion.Uri.Basic

namespace CobolCompanion

/-- The text of a document, with its analysis once there is one. -/
inductive Model where
  | pending (text : String)
  | analysed (text : String) (analysis : Analysis)

namespace Model

def text : Model → String
  | pending text => text
  | analysed text _ => text

def analysis? : Model → Option Analysis
  | pending _ => none
  | analysed _ analysis => some analysis

def diagnostics : Model → List Diagnostic
  | pending _ => []
  | analysed _ analysis => analysis.diagnostics

def ofText (text : String) : Model :=
  analysed text (Analysis.ofText text)

end Model

namespace Store

/-- An open document: its latest stamp and its model. -/
structure Entry where
  stamp : Nat
  model : Model

/-- What happened to the result of an analysis. -/
inductive Outcome where
  | committed
  /-- The document was opened or changed after the analysis had started. -/
  | superseded (latest : Nat)
  /-- The document is not open. -/
  | closed
  deriving DecidableEq

end Store

/--
The open documents, and the clock that gave the stamps so far. The result of an analysis is
taken over only if its stamp is still the latest of its document, so a slow analysis of an older
text never replaces the result for a newer one.
-/
structure Store where
  entries : Keyed Uri Store.Entry := []
  -- A clock of 64 bits gives the same stamps until it has given 2^64 of them: no stamp is
  -- larger than the number of stamps that were given.
  clock : Nat := 0

namespace Store

def next (s : Store) : Nat :=
  s.clock + 1

/-- Opens a document with a text that is not yet analysed, in place of what is there. -/
def register (s : Store) (uri : Uri) (text : String) : Store where
  entries := s.entries.put uri ⟨s.next, .pending text⟩
  clock := s.next

/--
Gives an open document a new stamp. A document that is not open uses up a stamp all the same.
-/
def begin (s : Store) (uri : Uri) : Store where
  entries :=
    match s.entries.find? uri with
    | some entry => s.entries.put uri ⟨s.next, entry.model⟩
    | none => s.entries
  clock := s.next

def outcome (s : Store) (uri : Uri) (stamp : Nat) : Outcome :=
  match s.entries.find? uri with
  | none => .closed
  | some entry => if entry.stamp = stamp then .committed else .superseded entry.stamp

/-- Replaces the model of a document if the stamp is its latest. -/
def commit (s : Store) (uri : Uri) (stamp : Nat) (model : Model) : Store :=
  match s.outcome uri stamp with
  | .committed => { s with entries := s.entries.put uri ⟨stamp, model⟩ }
  | _ => s

def remove (s : Store) (uri : Uri) : Store :=
  { s with entries := s.entries.erase uri }

def find? (s : Store) (uri : Uri) : Option Model :=
  (s.entries.find? uri).map Entry.model

def contains (s : Store) (uri : Uri) : Bool :=
  s.entries.contains uri

def size (s : Store) : Nat :=
  s.entries.length

theorem find?_register_self (s : Store) (uri : Uri) (text : String) :
    (s.register uri text).find? uri = some (.pending text) := by
  simp [find?, register]

theorem find?_register_of_ne (s : Store) {uri other : Uri} (text : String) (h : uri ≠ other) :
    (s.register uri text).find? other = s.find? other := by
  simp [find?, register, Keyed.find?_put_of_ne _ _ h]

theorem find?_begin (s : Store) (uri other : Uri) :
    (s.begin uri).find? other = s.find? other := by
  simp only [find?, begin]
  split
  · next entry h =>
    by_cases ho : uri = other
    · subst ho
      simp [h]
    · rw [Keyed.find?_put_of_ne _ _ ho]
  · rfl

theorem find?_commit_self (s : Store) (uri : Uri) {stamp : Nat} (model : Model)
    (h : s.outcome uri stamp = .committed) :
    (s.commit uri stamp model).find? uri = some model := by
  simp [find?, commit, h]

theorem commit_eq_self (s : Store) (uri : Uri) {stamp : Nat} (model : Model)
    (h : s.outcome uri stamp ≠ .committed) : s.commit uri stamp model = s := by
  rw [commit]
  split <;> simp_all

theorem find?_commit_of_ne (s : Store) {uri other : Uri} (stamp : Nat) (model : Model)
    (h : uri ≠ other) : (s.commit uri stamp model).find? other = s.find? other := by
  rw [commit]
  split
  · simp [find?, Keyed.find?_put_of_ne _ _ h]
  · rfl

theorem find?_remove_self (s : Store) (uri : Uri) : (s.remove uri).find? uri = none := by
  simp [find?, remove]

theorem find?_remove_of_ne (s : Store) {uri other : Uri} (h : uri ≠ other) :
    (s.remove uri).find? other = s.find? other := by
  simp [find?, remove, Keyed.find?_erase_of_ne _ h]

end Store

end CobolCompanion
