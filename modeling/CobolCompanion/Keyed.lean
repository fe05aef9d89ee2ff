namespace CobolCompanion

abbrev Keyed (κ : Type) (α : Type) :=
  List (κ × α)

namespace Keyed
variable {κ α : Type} [DecidableEq κ]

def find? (entries : Keyed κ α) (key : κ) : Option α :=
  match entries with
  | [] => none
  | (other, value) :: rest => if other = key then some value else find? rest key

/--
Puts a value under a key: at the end if the key is new, and else in place of what is there.
-/
def put (entries : Keyed κ α) (key : κ) (value : α) : Keyed κ α :=
  match entries with
  | [] => [(key, value)]
  | (other, old) :: rest =>
    if other = key then (key, value) :: rest else (other, old) :: put rest key value

def erase (entries : Keyed κ α) (key : κ) : Keyed κ α :=
  match entries with
  | [] => []
  | (other, value) :: rest =>
    if other = key then erase rest key else (other, value) :: erase rest key

def contains (entries : Keyed κ α) (key : κ) : Bool :=
  (find? entries key).isSome

theorem find?_put (entries : Keyed κ α) (key other : κ) (value : α) :
    find? (put entries key value) other =
      if key = other then some value else find? entries other := by
  induction entries with
  | nil => rfl
  | cons entry rest ih =>
    obtain ⟨first, old⟩ := entry
    by_cases hf : first = key
    · subst hf
      by_cases ho : first = other <;> simp [put, find?, ho]
    · by_cases ho : first = other
      · subst ho
        simp [put, find?, hf, Ne.symm hf]
      · simp [put, find?, hf, ho, ih]

@[simp]
theorem find?_put_self (entries : Keyed κ α) (key : κ) (value : α) :
    find? (put entries key value) key = some value := by
  simp [find?_put]

theorem find?_put_of_ne (entries : Keyed κ α) {key other : κ} (value : α) (h : key ≠ other) :
    find? (put entries key value) other = find? entries other := by
  simp [find?_put, h]

theorem find?_erase (entries : Keyed κ α) (key other : κ) :
    find? (erase entries key) other = if key = other then none else find? entries other := by
  induction entries with
  | nil => simp [erase, find?]
  | cons entry rest ih =>
    obtain ⟨first, old⟩ := entry
    by_cases hf : first = key
    · subst hf
      by_cases ho : first = other
      · simpa [erase, ho] using ih
      · simp [erase, find?, ho, ih]
    · by_cases ho : first = other
      · subst ho
        simp [erase, find?, hf, Ne.symm hf]
      · simp [erase, find?, hf, ho, ih]

@[simp]
theorem find?_erase_self (entries : Keyed κ α) (key : κ) :
    find? (erase entries key) key = none := by
  simp [find?_erase]

theorem find?_erase_of_ne (entries : Keyed κ α) {key other : κ} (h : key ≠ other) :
    find? (erase entries key) other = find? entries other := by
  simp [find?_erase, h]

end Keyed

end CobolCompanion
