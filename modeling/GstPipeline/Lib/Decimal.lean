/-
**Decimal numerals, and which of them begin another.**

`Nat.toDigits 10 n` is the numeral of `n`, without padding. A numeral begins another one exactly
when it is the same, or is what is left of the other when some of its last digits are dropped
(`toDigits_prefix_iff`). A text without a separator begins a text with that separator in it exactly
when it begins the part before it (`prefix_append_cons_iff`).
-/

import Mathlib.Algebra.Ring.Nat
import Mathlib.Data.List.Infix

namespace GstPipeline.Lib

theorem toDigits_injective {m n : ℕ} (same : Nat.toDigits 10 m = Nat.toDigits 10 n) : m = n := by
  have parsed := congrArg (fun digits => Nat.ofDigitChars 10 digits 0) same
  simpa only [Nat.ofDigitChars_ten_toDigits] using parsed

/-- Dropping the last digit. -/
theorem toDigits_of_ten_le {n : ℕ} (large : 10 ≤ n) :
    Nat.toDigits 10 n = Nat.toDigits 10 (n / 10) ++ [(n % 10).digitChar] :=
  Nat.toDigits_of_base_le (by decide) large

/-- **Numerals that begin a numeral.** -/
theorem toDigits_prefix_iff (m n : ℕ) :
    Nat.toDigits 10 m <+: Nat.toDigits 10 n ↔
      m = n ∨ 0 < m ∧ ∃ dropped, n / 10 ^ (dropped + 1) = m := by
  induction n using Nat.strongRecOn with
  | ind n ih =>
    by_cases small : n < 10
    · have none : ∀ dropped, n / 10 ^ (dropped + 1) = 0 := by
        intro dropped
        refine Nat.div_eq_of_lt (Nat.lt_of_lt_of_le small ?_)
        exact Nat.le_self_pow (Nat.succ_ne_zero dropped) 10
      constructor
      · intro begins
        refine Or.inl (toDigits_injective (begins.eq_of_length ?_))
        have shorter := begins.length_le
        have nonempty := Nat.length_toDigits_pos (b := 10) (n := m)
        rw [Nat.toDigits_of_lt_base small] at shorter ⊢
        exact Nat.le_antisymm shorter nonempty
      · rintro (rfl | ⟨positive, dropped, same⟩)
        · exact List.prefix_rfl
        · rw [none dropped] at same
          omega
    · have large : 10 ≤ n := by omega
      rw [toDigits_of_ten_le large, List.prefix_concat_iff, ← toDigits_of_ten_le large,
        ih (n / 10) (by omega)]
      have longer : ∀ dropped, n / 10 / 10 ^ (dropped + 1) = n / 10 ^ (dropped + 2) := by
        intro dropped
        rw [Nat.div_div_eq_div_mul, ← Nat.pow_succ']
      constructor
      · rintro (whole | rfl | ⟨positive, dropped, same⟩)
        · exact Or.inl (toDigits_injective whole)
        · exact Or.inr ⟨by omega, 0, rfl⟩
        · exact Or.inr ⟨positive, dropped + 1, (longer dropped).symm.trans same⟩
      · rintro (rfl | ⟨positive, dropped, same⟩)
        · exact Or.inl rfl
        · right
          cases dropped with
          | zero => exact Or.inl same.symm
          | succ dropped => exact Or.inr ⟨positive, dropped, (longer dropped).trans same⟩

/-- **Texts that begin a text with a separator.** -/
theorem prefix_append_cons_iff {α : Type} {separator : α} {text first rest : List α}
    (without : separator ∉ text) : text <+: first ++ separator :: rest ↔ text <+: first := by
  induction text generalizing first with
  | nil => simp
  | cons letter text ih =>
    obtain ⟨differs, without⟩ := not_or.mp (mt List.mem_cons.mpr without)
    cases first with
    | nil =>
      rw [List.nil_append, List.cons_prefix_cons]
      constructor
      · rintro ⟨same, _⟩
        exact (differs same.symm).elim
      · intro begins
        cases List.prefix_nil.mp begins
    | cons other first =>
      rw [List.cons_append, List.cons_prefix_cons, List.cons_prefix_cons, ih without]

end GstPipeline.Lib
