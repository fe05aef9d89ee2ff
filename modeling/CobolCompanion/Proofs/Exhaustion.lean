import CobolCompanion.Proofs.Moves
import Mathlib.Logic.Function.Iterate

namespace CobolCompanion

open Parse

namespace Parse

/-- The place of the last division, in the order of divisions, that is present. -/
def lastPresent? (present : List NodeKind) : Option Nat :=
  ((List.range Division.all.length).filter fun i =>
    (Division.all[i]?).any fun d => present.contains d.kind).getLast?

/-- The place in the order of divisions from which on divisions may still come. -/
def resumption (present : List NodeKind) : Nat :=
  (lastPresent? present).elim 0 (· + 1)

theorem resumption_le (present : List NodeKind) : resumption present ≤ Division.all.length := by
  unfold resumption lastPresent?
  cases hlast : ((List.range Division.all.length).filter fun i =>
      (Division.all[i]?).any fun d => present.contains d.kind).getLast? with
  | none => exact Nat.zero_le _
  | some i =>
    have hi := List.mem_of_getLast? hlast
    simp only [List.mem_filter, List.mem_range] at hi
    exact hi.1

theorem divisionsAfter_eq_drop (present : List NodeKind) :
    divisionsAfter present = Division.all.drop (resumption present) := by
  unfold divisionsAfter resumption lastPresent? Division.all
  simp only [List.length_cons, List.length_nil, List.reverse_cons, List.reverse_nil,
    List.range_succ, List.range_zero]
  cases he : present.contains Division.environment.kind <;>
    cases hd : present.contains Division.data.kind <;>
    cases hp : present.contains Division.procedure.kind <;>
    simp_all

theorem Move.unread_suffix {s s' : State} (h : Move s s') : s'.unread <:+ s.unread := by
  cases h with
  | report found => exact List.suffix_rfl
  | shift n hn => exact List.drop_suffix n _
  | skip n => exact List.drop_suffix n _
  | openNode kind => exact List.suffix_rfl
  | closeNode => exact List.suffix_rfl
  | nameUnit name => exact List.suffix_rfl
  | leaveUnit => exact List.suffix_rfl
  | abandon => exact List.suffix_rfl

theorem Moves.unread_suffix {s s' : State} (h : Moves s s') : s'.unread <:+ s.unread := by
  induction h with
  | refl => exact List.suffix_rfl
  | tail _ hm ih => exact hm.unread_suffix.trans ih

theorem moves_iterate {score : Similarity} (n : Nat) (c : Configuration) :
    Moves c.state ((step score)^[n] c).state := by
  induction n generalizing c with
  | zero => exact .refl
  | succ n ih =>
    rw [Function.iterate_succ_apply]
    exact (moves_step c).trans (ih _)

/--
A run ends after finitely many steps, in a configuration in which the machine has stopped.
-/
theorem exists_iterate_isFinal {score : Similarity} (c : Configuration) :
    ∃ n, ((step score)^[n] c).isFinal ∧ ((step score)^[n] c).state = run score c := by
  fun_induction run score c with
  | case1 c hfinal => exact ⟨0, hfinal, rfl⟩
  | case2 c _ ih =>
    obtain ⟨n, hfinal, hstate⟩ := ih
    exact ⟨n + 1, hfinal, hstate⟩

/--
Whatever the tokens are and whatever the measure of similarity answers, the machine stops, and
then nothing is left to read. What is unread in any state on the way, also in the midst of a
step, is a slice of the tokens, and the divisions that may still come are a slice of the order
of divisions.
-/
theorem machine_stops_exhausted (score : Similarity) (tokens : List Token) (position : Position)
    (offset : Nat) :
    let stream := TokenStream.ofTokens tokens (.endOfInput position offset)
    let start : Configuration := ⟨.sourceUnit, .initial stream⟩
    (∃ n, ((step score)^[n] start).isFinal ∧
      ((step score)^[n] start).state = finalState score stream) ∧
    (finalState score stream).stream.hasMore = false ∧
    (∀ n s, Moves ((step score)^[n] start).state s →
      ∃ cursor ≤ tokens.length, s.unread = tokens.drop cursor) ∧
    ∀ present, resumption present ≤ Division.all.length ∧
      divisionsAfter present = Division.all.drop (resumption present) := by
  intro stream start
  refine ⟨exists_iterate_isFinal start, ?_, fun n s hs => ?_, fun present => ?_⟩
  · have hunread : (finalState score stream).stream.unread = [] := unread_run start
    simp [TokenStream.hasMore, hunread]
  · have hsuffix : s.unread <:+ tokens := Moves.unread_suffix ((moves_iterate n start).trans hs)
    exact ⟨tokens.length - s.unread.length, Nat.sub_le _ _, List.suffix_iff_eq_drop.1 hsuffix⟩
  · exact ⟨resumption_le present, divisionsAfter_eq_drop present⟩

end Parse

end CobolCompanion
