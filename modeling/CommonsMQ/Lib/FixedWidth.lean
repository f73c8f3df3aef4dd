import Mathlib.Data.Int.Log
import Mathlib.Data.Rat.Floor

/-! # Signed 64-bit arithmetic

Sums wrap around. A rational is converted by dropping its fraction; what then does not
fit becomes the least value. -/

namespace FixedWidth

def minValue : ℤ := -2 ^ 63

/-- The first value that does not fit. -/
def limit : ℤ := 2 ^ 63

def wrap (n : ℤ) : ℤ := n.bmod (2 ^ 64)

def truncate (q : ℚ) : ℤ := if 0 ≤ q then ⌊q⌋ else ⌈q⌉

def ofRat (q : ℚ) : ℤ :=
  if minValue ≤ truncate q ∧ truncate q < limit then truncate q else minValue

theorem wrap_of_fits {n : ℤ} (nonneg : 0 ≤ n) (fits : n < limit) : wrap n = n := by
  unfold limit at fits
  exact Int.bmod_eq_of_le_mul_two (by omega) (by omega)

/-- The sum of two values that fit, once it does not fit itself. -/
theorem wrap_neg_of_overflow {n : ℤ} (overflow : limit ≤ n) (double : n < 2 * limit) :
    wrap n < 0 := by
  unfold limit at overflow double
  simp only [wrap, Int.bmod]
  split <;> omega

theorem ofRat_of_fits {q : ℚ} (nonneg : 0 ≤ q) (fits : ⌊q⌋ < limit) : ofRat q = ⌊q⌋ := by
  have floor : 0 ≤ ⌊q⌋ := Int.floor_nonneg.mpr nonneg
  have low : minValue ≤ ⌊q⌋ := by
    unfold minValue
    omega
  simp only [ofRat, truncate, nonneg, if_true, low, fits, and_self]

theorem ofRat_of_overflow {q : ℚ} (nonneg : 0 ≤ q) (overflow : limit ≤ ⌊q⌋) :
    ofRat q = minValue := by
  simp only [ofRat, truncate, nonneg, if_true, not_lt.mpr overflow, and_false, if_false]

end FixedWidth
