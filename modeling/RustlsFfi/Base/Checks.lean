import Mathlib.Logic.Basic

/-!
# Checks made in order

A validator goes through its checks one by one, and the first that fails decides its answer.
-/

namespace RustlsFfi.Checks

variable {ρ : Type}

/-- The answer of the first check that does not pass. -/
def firstFailure (checks : List (Bool × ρ)) : Option ρ := (checks.find? fun check => !check.1).map Prod.snd

@[simp] theorem firstFailure_nil : firstFailure ([] : List (Bool × ρ)) = none := rfl

@[simp] theorem firstFailure_cons (passes : Bool) (r : ρ) (rest : List (Bool × ρ)) :
    firstFailure ((passes, r) :: rest) = if passes then firstFailure rest else some r := by
  cases passes <;> simp [firstFailure]

theorem firstFailure_append (first second : List (Bool × ρ)) :
    firstFailure (first ++ second) = (firstFailure first).or (firstFailure second) := by
  unfold firstFailure
  rw [List.find?_append]
  cases first.find? (fun check => !check.1) <;> rfl

theorem firstFailure_eq_none {checks : List (Bool × ρ)} :
    firstFailure checks = none ↔ ∀ check ∈ checks, check.1 = true := by
  simp [firstFailure]

theorem firstFailure_flatMap_eq_none {ε : Type} {entries : List ε} {checks : ε → List (Bool × ρ)} :
    firstFailure (entries.flatMap checks) = none ↔ ∀ e ∈ entries, firstFailure (checks e) = none := by
  simp only [firstFailure_eq_none, List.mem_flatMap]
  refine ⟨fun all e member check inside => all check ⟨e, member, inside⟩, ?_⟩
  rintro all check ⟨e, member, inside⟩
  exact all e member check inside

end RustlsFfi.Checks
