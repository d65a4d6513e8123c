import Mathlib.Data.Rat.Floor
import Mathlib.Algebra.Order.Ring.Rat
import Mathlib.Tactic.Linarith
import Mathlib.Tactic.FieldSimp
import Mathlib.Tactic.Ring

/-! Fixed-point columns read and written through exact rational arithmetic.
A column holds an integer count of units, `scale` units to one. Programs that
read a column compute with rationals and write the rounded result back, so the
lemmas here say when that round trip loses nothing. -/
namespace FixedPoint

/-- Nearest integer, halves towards positive infinity. -/
def roundHalfUp (x : ℚ) : ℤ := ⌊x + 1 / 2⌋

/-- Nearest integer, halves away from zero. -/
def roundHalfAway (x : ℚ) : ℤ := if 0 ≤ x then roundHalfUp x else -roundHalfUp (-x)

theorem roundHalfUp_intCast (z : ℤ) : roundHalfUp z = z := by
  rw [roundHalfUp, Int.floor_intCast_add]
  norm_num

theorem roundHalfUp_intCast_add (z : ℤ) (x : ℚ) :
    roundHalfUp (z + x) = z + roundHalfUp x := by
  rw [roundHalfUp, roundHalfUp, add_assoc, Int.floor_intCast_add]

theorem roundHalfUp_mono {x y : ℚ} (h : x ≤ y) : roundHalfUp x ≤ roundHalfUp y :=
  Int.floor_mono (by linarith)

theorem roundHalfAway_of_nonneg {x : ℚ} (h : 0 ≤ x) : roundHalfAway x = roundHalfUp x :=
  if_pos h

theorem roundHalfAway_intCast (z : ℤ) : roundHalfAway z = z := by
  unfold roundHalfAway
  split_ifs
  · exact roundHalfUp_intCast z
  · rw [← Int.cast_neg, roundHalfUp_intCast, neg_neg]

/-- Rounding away from zero differs from rounding up only at negative ties. -/
theorem roundHalfAway_bounds (x : ℚ) :
    x - 1 / 2 ≤ roundHalfAway x ∧ (roundHalfAway x : ℚ) ≤ x + 1 / 2 := by
  unfold roundHalfAway roundHalfUp
  split_ifs
  · have hLow := Int.lt_floor_add_one (x + 1 / 2)
    have hHigh := Int.floor_le (x + 1 / 2)
    constructor <;> linarith
  · have hLow := Int.lt_floor_add_one (-x + 1 / 2)
    have hHigh := Int.floor_le (-x + 1 / 2)
    push_cast
    constructor <;> linarith

/-- An integer strictly closer than one half is the rounded value. -/
theorem roundHalfAway_eq_of_close {x : ℚ} {z : ℤ} (hLow : (z : ℚ) - 1 / 2 < x)
    (hHigh : x < z + 1 / 2) : roundHalfAway x = z := by
  obtain ⟨hl, hh⟩ := roundHalfAway_bounds x
  have below : roundHalfAway x < z + 1 := by
    exact_mod_cast (by linarith : (roundHalfAway x : ℚ) < z + 1)
  have above : z - 1 < roundHalfAway x := by
    exact_mod_cast (by linarith : (z : ℚ) - 1 < roundHalfAway x)
  omega

theorem roundHalfAway_nonneg {x : ℚ} (h : 0 ≤ x) : 0 ≤ roundHalfAway x := by
  rw [roundHalfAway_of_nonneg h, ← roundHalfUp_intCast 0]
  exact roundHalfUp_mono (by exact_mod_cast h)

variable (scale : ℕ)

/-- The number a column of `units` is read as. -/
def toNumber (units : ℤ) : ℚ := units / scale

/-- The units a number is stored as. -/
def store (x : ℚ) : ℤ := roundHalfAway (x * scale)

/-- Round a number to the scale of the column, without storing it. -/
def quantize (x : ℚ) : ℚ := toNumber scale (roundHalfUp (x * scale))

variable {scale}

theorem toNumber_zero : toNumber scale 0 = 0 := by simp [toNumber]

theorem toNumber_add (u v : ℤ) : toNumber scale (u + v) = toNumber scale u + toNumber scale v := by
  simp [toNumber, add_div]

theorem toNumber_sub (u v : ℤ) : toNumber scale (u - v) = toNumber scale u - toNumber scale v := by
  simp [toNumber, sub_div]

variable [NeZero scale]

theorem scale_pos : (0 : ℚ) < scale := by exact_mod_cast Nat.pos_of_ne_zero (NeZero.ne scale)

/-- A number of units, scaled up, is the units. -/
theorem toNumber_mul_scale (u : ℤ) : toNumber scale u * scale = u := by
  have hScale : (scale : ℚ) ≠ 0 := scale_pos.ne'
  rw [toNumber, div_mul_cancel₀ _ hScale]

/-- Reading units keeps and reflects the order. -/
theorem toNumber_le_iff (u v : ℤ) : toNumber scale u ≤ toNumber scale v ↔ u ≤ v := by
  rw [toNumber, toNumber, div_le_div_iff_of_pos_right scale_pos, Int.cast_le]

/-- Reading units keeps and reflects the strict order. -/
theorem toNumber_lt_iff (u v : ℤ) : toNumber scale u < toNumber scale v ↔ u < v := by
  rw [← not_le, toNumber_le_iff, not_le]

theorem toNumber_injective : Function.Injective (toNumber scale) := fun u v h =>
  le_antisymm ((toNumber_le_iff u v).mp h.le) ((toNumber_le_iff v u).mp h.ge)

theorem toNumber_max (u v : ℤ) :
    toNumber scale (max u v) = max (toNumber scale u) (toNumber scale v) :=
  Monotone.map_max fun _ _ h => (toNumber_le_iff _ _).mpr h

/-- Units are positive when their number is. -/
theorem toNumber_pos_iff (u : ℤ) : 0 < toNumber scale u ↔ 0 < u := by
  have h : toNumber scale 0 < toNumber scale u ↔ 0 < u := toNumber_lt_iff 0 u
  rwa [toNumber_zero] at h

/-- A column value survives being read and stored again. -/
theorem store_toNumber (u : ℤ) : store scale (toNumber scale u) = u := by
  rw [store, toNumber_mul_scale, roundHalfAway_intCast]

/-- Rounding a number that is already a column value changes nothing. -/
theorem quantize_toNumber (u : ℤ) : quantize scale (toNumber scale u) = toNumber scale u := by
  rw [quantize, toNumber_mul_scale, roundHalfUp_intCast]

/-- Rounding leaves whole units alone. -/
theorem quantize_add (u : ℤ) (x : ℚ) :
    quantize scale (toNumber scale u + x) = toNumber scale u + quantize scale x := by
  rw [quantize, add_mul, toNumber_mul_scale, roundHalfUp_intCast_add, toNumber_add]
  rfl

theorem quantize_mono {x y : ℚ} (h : x ≤ y) : quantize scale x ≤ quantize scale y :=
  (toNumber_le_iff _ _).mpr (roundHalfUp_mono (mul_le_mul_of_nonneg_right h scale_pos.le))

theorem quantize_min (x y : ℚ) :
    quantize scale (min x y) = min (quantize scale x) (quantize scale y) :=
  Monotone.map_min fun _ _ h => quantize_mono h

/-- Of a non-negative number, what is stored is what it is rounded to. -/
theorem quantize_eq_store {x : ℚ} (h : 0 ≤ x) :
    quantize scale x = toNumber scale (store scale x) := by
  rw [quantize, store, roundHalfAway_of_nonneg (mul_nonneg h scale_pos.le)]

/-- Adding an unrounded non-negative number to a column and rounding the sum
agrees with rounding the number first. Ties round the same way on both sides,
because neither number is negative. -/
theorem quantize_toNumber_add (u : ℤ) {x : ℚ} (h : 0 ≤ x) :
    quantize scale (toNumber scale u + x) = toNumber scale (u + store scale x) := by
  have hProduct : 0 ≤ x * scale := mul_nonneg h scale_pos.le
  rw [quantize, store, add_mul, toNumber_mul_scale, roundHalfUp_intCast_add,
    roundHalfAway_of_nonneg hProduct]

theorem store_nonneg {x : ℚ} (h : 0 ≤ x) : 0 ≤ store scale x :=
  roundHalfAway_nonneg (mul_nonneg h scale_pos.le)

/-- Unless it lies halfway between two units, a number and what it leaves of a
column are stored as two parts of the column. -/
theorem store_sub {u : ℤ} {x : ℚ} (h : ∀ z : ℤ, x * scale ≠ z + 1 / 2) :
    store scale (toNumber scale u - x) = u - store scale x := by
  obtain ⟨hLow, hHigh⟩ := roundHalfAway_bounds (x * scale)
  have hLow' : x * scale < roundHalfAway (x * scale) + 1 / 2 :=
    lt_of_le_of_ne (by linarith) (h _)
  have hHigh' : (roundHalfAway (x * scale) : ℚ) - 1 / 2 < x * scale := by
    refine lt_of_le_of_ne (by linarith) fun hTie => h (roundHalfAway (x * scale) - 1) ?_
    push_cast
    linarith
  refine roundHalfAway_eq_of_close ?_ ?_
  · rw [sub_mul, toNumber_mul_scale, store]
    push_cast
    linarith
  · rw [sub_mul, toNumber_mul_scale, store]
    push_cast
    linarith

end FixedPoint
