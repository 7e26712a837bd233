/-
**A discrete oscillator.**

`swing ε` moves a position and a velocity: the velocity is added to the position, and then `ε` times
the new position is taken from the velocity. The quadratic form `energy ε` is the same after every
step (`energy_iterate_swing`). Less than four times the step, it bounds the velocity
(`abs_velocity_lt`), so a swing never gets faster than its energy allows.
-/

import Mathlib.Algebra.Order.Field.Basic
import Mathlib.Tactic.Ring
import Mathlib.Tactic.Linarith

namespace GstPipeline.Lib

variable {K : Type} [Field K]

/-- One step, on (position, velocity). -/
def swing (ε : K) (state : K × K) : K × K :=
  (state.1 + state.2, state.2 - ε * (state.1 + state.2))

/-- What a step keeps. -/
def energy (ε : K) (state : K × K) : K :=
  state.2 ^ 2 + ε * state.1 * state.2 + ε * state.1 ^ 2

@[simp] theorem energy_swing (ε : K) (state : K × K) :
    energy ε (swing ε state) = energy ε state := by
  unfold energy swing
  ring

theorem energy_iterate_swing (ε : K) (state : K × K) (n : ℕ) :
    energy ε ((swing ε)^[n] state) = energy ε state := by
  induction n generalizing state with
  | zero => rfl
  | succ n ih => rw [Function.iterate_succ_apply, ih, energy_swing]

variable [LinearOrder K] [IsStrictOrderedRing K]

/-- The energy with its square in the position completed: the rest is the velocity's. -/
theorem velocity_sq_le {ε : K} (nonneg : 0 ≤ ε) (state : K × K) :
    (4 - ε) * state.2 ^ 2 ≤ 4 * energy ε state := by
  have completed : 4 * energy ε state =
      ε * (2 * state.1 + state.2) ^ 2 + (4 - ε) * state.2 ^ 2 := by
    unfold energy
    ring
  rw [completed]
  exact le_add_of_nonneg_left (mul_nonneg nonneg (sq_nonneg _))

/-- **The bound on the velocity.** -/
theorem abs_velocity_lt {ε bound : K} {state : K × K} (nonneg : 0 ≤ ε) (small : ε < 4)
    (positive : 0 < bound) (weak : 4 * energy ε state < (4 - ε) * bound ^ 2) :
    |state.2| < bound := by
  have below : (4 - ε) * state.2 ^ 2 < (4 - ε) * bound ^ 2 :=
    (velocity_sq_le nonneg state).trans_lt weak
  have squares : state.2 ^ 2 < bound ^ 2 := lt_of_mul_lt_mul_left below (sub_pos.mpr small).le
  exact abs_lt_of_sq_lt_sq squares positive.le

end GstPipeline.Lib
