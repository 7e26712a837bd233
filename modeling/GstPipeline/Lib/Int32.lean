/-
**32-bit signed integers, over `Int`.**

`InInt32 x` says that `x` is a value of a 32-bit signed integer. `toInt32 x` is the value that
narrowing `x` to 32 bits gives (two's complement: the representative of `x` modulo `2 ^ 32`).
`turns x` is how often `x` is wrapped around for it.
-/

import Mathlib.Algebra.Ring.Int.Defs
import Mathlib.Algebra.Ring.Nat

namespace GstPipeline.Lib

/-- `x` is representable as a 32-bit signed integer. -/
def InInt32 (x : Int) : Prop := -2 ^ 31 ≤ x ∧ x < 2 ^ 31

instance (x : Int) : Decidable (InInt32 x) := inferInstanceAs (Decidable (_ ∧ _))

/-- Narrowing to 32 bits. -/
def toInt32 (x : Int) : Int := x.bmod (2 ^ 32)

/-- Narrowing does nothing to a value that fits. -/
theorem toInt32_eq_self {x : Int} (fits : InInt32 x) : toInt32 x = x := by
  obtain ⟨low, high⟩ := fits
  unfold toInt32
  exact Int.bmod_eq_of_le (by omega) (by omega)

/-- Below a 32-bit bound, narrowing leaves the low 32 bits, and only there is what it leaves below the
bound and nonnegative. -/
theorem toInt32_lt_iff {x bound : Int} (fits : InInt32 bound) :
    (0 ≤ toInt32 x ∧ toInt32 x < bound) ↔ x % 2 ^ 32 < bound := by
  obtain ⟨_, high⟩ := fits
  unfold toInt32
  rw [Int.bmod_def]
  split <;> constructor <;> omega

theorem toInt32_of_nonneg {x : Int} (nonneg : 0 ≤ toInt32 x) : toInt32 x = x % 2 ^ 32 := by
  unfold toInt32 at nonneg ⊢
  rw [Int.bmod_def] at nonneg ⊢
  split at nonneg
  · rw [if_pos ‹_›]
    rfl
  · omega

/-- The difference of two nonnegative 32-bit values is exact. -/
theorem toInt32_sub {x y : Int} (fits : InInt32 x) (fitsToo : InInt32 y) (nonneg : 0 ≤ x)
    (nonnegToo : 0 ≤ y) : toInt32 (x - y) = x - y := by
  obtain ⟨_, high⟩ := fits
  obtain ⟨_, highToo⟩ := fitsToo
  exact toInt32_eq_self ⟨by omega, by omega⟩

/-- How often narrowing wraps `x` around. -/
def turns (x : Int) : Int := (x + 2 ^ 31) / 2 ^ 32

theorem toInt32_eq_sub_turns (x : Int) : toInt32 x = x - 2 ^ 32 * turns x := by
  unfold toInt32 turns
  have bounds := Int.le_bmod (x := x) (m := 2 ^ 32) (by decide)
  have bound := Int.bmod_lt (x := x) (m := 2 ^ 32) (by decide)
  have divided := Int.bmod_add_bdiv x (2 ^ 32)
  omega

theorem turns_of_fits {x : Int} (fits : InInt32 x) : turns x = 0 := by
  obtain ⟨low, high⟩ := fits
  unfold turns
  omega

/-- **Differences of narrowed values.** The difference of two narrowed values fits and is exact when
both are wrapped around equally often and are less than `2 ^ 31` apart, and only then. -/
theorem toInt32_sub_exact_iff {x y : Int} (ordered : x ≤ y) :
    (InInt32 (toInt32 y - toInt32 x) ∧ toInt32 y - toInt32 x = y - x) ↔
      turns x = turns y ∧ y - x < 2 ^ 31 := by
  rw [toInt32_eq_sub_turns, toInt32_eq_sub_turns]
  unfold InInt32
  constructor
  · rintro ⟨⟨_, high⟩, exact⟩
    exact ⟨by omega, by omega⟩
  · rintro ⟨same, near⟩
    exact ⟨⟨by omega, by omega⟩, by omega⟩

end GstPipeline.Lib
