import Mathlib.Logic.Function.Basic

/-! Maps with keys that may be absent: what is found after a change of one key. -/
namespace PartialMap

variable {K V : Type} [DecidableEq K] {map : K → Option V} {k key : K} {v value : V}

theorem put_eq_some : Function.update map k (some v) key = some value ↔
    (key = k ∧ value = v) ∨ (key ≠ k ∧ map key = some value) := by
  by_cases hKey : key = k
  · subst hKey
    simp [eq_comm]
  · simp [hKey]

theorem remove_eq_some : Function.update map k none key = some value ↔
    key ≠ k ∧ map key = some value := by
  by_cases hKey : key = k
  · subst hKey
    simp
  · simp [hKey]

/-- What holds of all values holds after a put, if it holds of the new one. -/
theorem put_all {P : V → Prop} (h : ∀ key value, map key = some value → P value) (hv : P v)
    (k : K) : ∀ key value, Function.update map k (some v) key = some value → P value := by
  intro key value hValue
  rcases put_eq_some.1 hValue with ⟨-, rfl⟩ | ⟨-, hOld⟩
  · exact hv
  · exact h key value hOld

end PartialMap
