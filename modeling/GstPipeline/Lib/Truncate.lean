/-
**Conversion of a fraction to an integer.**

`truncate x` drops the fractional part of `x`, as the conversion of a floating-point value to an
integer type does where the result fits.
-/

import Mathlib.Data.Rat.Floor

namespace GstPipeline.Lib

/-- `x` without its fractional part. -/
def truncate (x : ℚ) : Int := x.num.tdiv x.den

theorem truncate_of_nonneg {x : ℚ} (nonneg : 0 ≤ x) : truncate x = ⌊x⌋ := by
  unfold truncate
  rw [Int.tdiv_eq_ediv_of_nonneg (Rat.num_nonneg.mpr nonneg), Rat.floor_def']

/-- One more than a quotient of integers. -/
theorem truncate_div_add_one {a b : Int} (nonneg : 0 ≤ a) (positive : 0 < b) :
    truncate ((a : ℚ) / b + 1) = a / b + 1 := by
  lift b to ℕ using positive.le
  have quotient : (0 : ℚ) ≤ (a : ℚ) / (b : ℕ) := by positivity
  rw [Int.cast_natCast, truncate_of_nonneg (by positivity), Int.floor_add_one,
    Rat.floor_intCast_div_natCast]

end GstPipeline.Lib
