import PropertyTax.Library.FixedPoint

/-! Rupee amounts. A `Decimal(14,2)` column is held in paise; the services read
it as a number, compute with numbers and write numbers back. -/
namespace PropertyTax
open FixedPoint

/-- A `Decimal(14,2)` column, in paise. -/
abbrev Money := ℤ

/-- `toMoney(column)`, also spelled `toNumber` and `Number(column)`. -/
def toMoney (column : Money) : ℚ := toNumber 100 column

/-- The column a number is written to. -/
def toColumn (x : ℚ) : Money := store 100 x

/-- `Math.round(n * 100) / 100`, of the number itself. The double that the code works on can lie on
the other side of a half paisa, as that of `1.005` does; whole paise are left by both. -/
def roundMoney (x : ℚ) : ℚ := quantize 100 x

@[simp] theorem toColumn_toMoney (m : Money) : toColumn (toMoney m) = m := store_toNumber m

@[simp] theorem roundMoney_toMoney (m : Money) : roundMoney (toMoney m) = toMoney m :=
  quantize_toNumber m

@[simp] theorem toMoney_zero : toMoney 0 = 0 := toNumber_zero

theorem toMoney_add (m n : Money) : toMoney (m + n) = toMoney m + toMoney n := toNumber_add m n

theorem toMoney_sub (m n : Money) : toMoney (m - n) = toMoney m - toMoney n := toNumber_sub m n

theorem toMoney_max (m n : Money) : toMoney (max m n) = max (toMoney m) (toMoney n) :=
  toNumber_max m n

/-- Amounts are ordered as the numbers they read as. -/
theorem toMoney_le_iff (m n : Money) : toMoney m ≤ toMoney n ↔ m ≤ n := toNumber_le_iff m n

/-- An amount is positive when its number is. -/
theorem toMoney_pos_iff (m : Money) : 0 < toMoney m ↔ 0 < m := toNumber_pos_iff m

theorem toMoney_max_zero (m : Money) : max 0 (toMoney m) = toMoney (max 0 m) := by
  rw [toMoney_max, toMoney_zero]

theorem toMoney_min (m n : Money) : toMoney (min m n) = min (toMoney m) (toMoney n) :=
  Monotone.map_min fun _ _ h => (toMoney_le_iff _ _).mpr h

theorem roundMoney_mono {x y : ℚ} (h : x ≤ y) : roundMoney x ≤ roundMoney y := quantize_mono h

theorem roundMoney_min (x y : ℚ) : roundMoney (min x y) = min (roundMoney x) (roundMoney y) :=
  quantize_min x y

/-- What is not negative is not rounded below zero. -/
theorem roundMoney_nonneg_of {x : ℚ} (h : 0 ≤ x) : 0 ≤ roundMoney x := by
  have hMono := roundMoney_mono h
  rwa [← toMoney_zero, roundMoney_toMoney, toMoney_zero] at hMono

theorem roundMoney_of_nonneg {x : ℚ} (h : 0 ≤ x) : roundMoney x = toMoney (toColumn x) :=
  quantize_eq_store h

/-- A rounded number is a column value. -/
theorem exists_roundMoney (x : ℚ) : ∃ m : Money, roundMoney x = toMoney m :=
  ⟨roundHalfUp (x * 100), rfl⟩

/-- Rounding and then storing keeps the rounded number. -/
theorem toMoney_toColumn_roundMoney (x : ℚ) : toMoney (toColumn (roundMoney x)) = roundMoney x := by
  obtain ⟨m, hm⟩ := exists_roundMoney x
  rw [hm, toColumn_toMoney]

theorem roundMoney_toMoney_add (m : Money) {x : ℚ} (h : 0 ≤ x) :
    roundMoney (toMoney m + x) = toMoney (m + toColumn x) := quantize_toNumber_add m h

theorem toColumn_nonneg {x : ℚ} (h : 0 ≤ x) : 0 ≤ toColumn x := store_nonneg h

/-- A whole number of paise. -/
def InPaise (x : ℚ) : Prop := ∃ m : Money, x = toMoney m

theorem inPaise_zero : InPaise 0 := ⟨0, toMoney_zero.symm⟩

/-- A rounded number is in whole paise. -/
theorem inPaise_roundMoney (x : ℚ) : InPaise (roundMoney x) := exists_roundMoney x

theorem InPaise.add {x y : ℚ} (hx : InPaise x) (hy : InPaise y) : InPaise (x + y) := by
  obtain ⟨m, rfl⟩ := hx
  obtain ⟨n, rfl⟩ := hy
  exact ⟨m + n, (toMoney_add m n).symm⟩

theorem InPaise.sub {x y : ℚ} (hx : InPaise x) (hy : InPaise y) : InPaise (x - y) := by
  obtain ⟨m, rfl⟩ := hx
  obtain ⟨n, rfl⟩ := hy
  exact ⟨m - n, (toMoney_sub m n).symm⟩

theorem InPaise.min {x y : ℚ} (hx : InPaise x) (hy : InPaise y) : InPaise (min x y) := by
  obtain ⟨m, rfl⟩ := hx
  obtain ⟨n, rfl⟩ := hy
  exact ⟨Min.min m n, (toMoney_min m n).symm⟩

theorem InPaise.roundMoney_add {x : ℚ} (hx : InPaise x) (y : ℚ) :
    roundMoney (x + y) = x + roundMoney y := by
  obtain ⟨m, rfl⟩ := hx
  exact quantize_add m y

/-- Whole paise are left by rounding. -/
theorem InPaise.roundMoney_eq {x : ℚ} (hx : InPaise x) : roundMoney x = x := by
  obtain ⟨m, rfl⟩ := hx
  exact roundMoney_toMoney m

/-- The amount is not halfway between two paise. -/
def NoTie (x : ℚ) : Prop := ∀ z : ℤ, x * 100 ≠ z + 1 / 2

theorem toColumn_sub {m : Money} {x : ℚ} (h : NoTie x) :
    toColumn (toMoney m - x) = m - toColumn x := store_sub (by exact_mod_cast h)

end PropertyTax
