import Mathlib.Data.List.Basic
import Mathlib.Algebra.Order.Group.Unbundled.Int

/-! Decimal numerals of integers, the text `""+n` and `std::to_string(n)` give. -/
namespace Decimal

/-- The decimal numeral of an integer, with a minus and without leading zeros. -/
def decimal (n : Int) : List Char :=
  if n < 0 then '-' :: Nat.toDigits 10 n.natAbs else Nat.toDigits 10 n.natAbs

theorem isDigit_of_mem_toDigits {n : Nat} {c : Char} (h : c ∈ Nat.toDigits 10 n) : c.isDigit :=
  Nat.isDigit_of_mem_toDigits (by decide) (by decide) h

theorem mem_decimal {n : Int} {c : Char} (h : c ∈ decimal n) : c = '-' ∨ c.isDigit := by
  unfold decimal at h
  split at h
  · rcases List.mem_cons.1 h with hSign | hDigit
    · exact Or.inl hSign
    · exact Or.inr (isDigit_of_mem_toDigits hDigit)
  · exact Or.inr (isDigit_of_mem_toDigits h)

/-- A character that is no digit and no sign occurs in no numeral. -/
theorem not_mem_decimal {n : Int} {c : Char} (hSign : c ≠ '-') (hDigit : c.isDigit = false) :
    c ∉ decimal n := by
  intro h
  rcases mem_decimal h with h | h
  · exact hSign h
  · simp [hDigit] at h

/-- Numerals are ASCII. -/
theorem ascii_of_mem {n : Int} {c : Char} (h : c ∈ decimal n) : c.toNat < 0x80 := by
  rcases mem_decimal h with rfl | hDigit
  · decide
  · have hRange : 48 ≤ c.toNat ∧ c.toNat ≤ 57 := by
      simpa [Char.isDigit, Char.le_def, UInt32.le_iff_toNat_le] using hDigit
    omega

theorem toDigits_injective {m n : Nat} (h : Nat.toDigits 10 m = Nat.toDigits 10 n) : m = n := by
  have hValue := congrArg (Nat.ofDigitChars 10 · 0) h
  simpa using hValue

theorem minus_not_mem_toDigits (n : Nat) : '-' ∉ Nat.toDigits 10 n := by
  intro h
  have hDigit := isDigit_of_mem_toDigits h
  simp at hDigit

/-- Distinct integers have distinct numerals. -/
theorem decimal_injective {m n : Int} (h : decimal m = decimal n) : m = n := by
  unfold decimal at h
  split at h <;> split at h
  · rw [List.cons_inj_right] at h
    have := toDigits_injective h
    omega
  · exact absurd (h ▸ List.mem_cons_self : '-' ∈ _) (minus_not_mem_toDigits _)
  · exact absurd (h ▸ List.mem_cons_self : '-' ∈ _) (minus_not_mem_toDigits _)
  · have := toDigits_injective h
    omega

/-- A numeral has no leading zeros. -/
theorem head_toDigits {n : Nat} (h : n ≠ 0) : (Nat.toDigits 10 n).head? ≠ some '0' := by
  induction n using Nat.strong_induction_on with
  | _ n ih =>
      by_cases hLess : n < 10
      · have hDigit : ∀ m < 10, m ≠ 0 → [Nat.digitChar m].head? ≠ some '0' := by decide
        rw [Nat.toDigits_of_lt_base hLess]
        exact hDigit n hLess h
      · have hQuotient : n / 10 ≠ 0 := by omega
        have hHead := ih (n / 10) (by omega) hQuotient
        rw [Nat.toDigits_of_base_le (by decide) (not_lt.1 hLess), List.head?_append]
        cases hDigits : (Nat.toDigits 10 (n / 10)).head? with
        | none =>
            rw [List.head?_eq_none_iff] at hDigits
            exact absurd hDigits Nat.toDigits_ne_nil
        | some c =>
            rw [hDigits] at hHead
            exact hHead

end Decimal
