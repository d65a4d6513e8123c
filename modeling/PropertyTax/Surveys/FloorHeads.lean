import PropertyTax.Surveys.FloorScans
import PropertyTax.Surveys.FloorsEditor

/-! How the editor prints the label and the areas of a floor, and what the
scanners find in that. -/
namespace PropertyTax.Surveys
open FloorsEditor

/-! ### The numbers -/

/-- How a number is printed: plainly, or with an exponent when it is large. -/
inductive PrintedArea (x : ℚ) : Text → Prop where
  | plain {text : Text} (hSize : x < 10 ^ 21) (hText : text ≠ [])
      (hPlain : ∀ c ∈ text, Js.isPlain c = true) (hValue : parseNumeral text = some x) :
      PrintedArea x text
  | exponent {text : Text} {power : Nat} (hSize : 10 ^ 21 ≤ x) (hText : text ≠ [])
      (hPlain : ∀ c ∈ text, Js.isPlain c = true) (hPower : (power : ℚ) < x) :
      PrintedArea x (text ++ 'e' :: '+' :: Js.digits power)

/-- A number of cents. -/
def InCents (x : ℚ) : Prop := ∃ n : Nat, x = n / 100

/-- A number of cents is a decimal. -/
theorem InCents.isDecimal {x : ℚ} (h : InCents x) : Js.IsDecimal x := by
  obtain ⟨n, rfl⟩ := h
  have hCast : (n : ℚ) / 100 = ((n : ℤ) : ℚ) / ((100 : ℤ) : ℚ) := by push_cast; rfl
  refine ⟨2, ?_⟩
  rw [hCast, ← Rat.divInt_eq_div]
  exact Int.natCast_dvd_natCast.mp (Rat.den_dvd n 100)

/-- A number of cents is left by rounding. -/
theorem InCents.roundToCents {x : ℚ} (h : InCents x) : roundToCents x = x := by
  obtain ⟨n, rfl⟩ := h
  have hCents : (n : ℚ) / 100 = FixedPoint.toNumber 100 (n : ℤ) := by
    rw [FixedPoint.toNumber]
    push_cast
    rfl
  rw [hCents]
  exact FixedPoint.quantize_toNumber n

/-- A rounded number is one of cents. -/
theorem inCents_roundToCents {x : ℚ} (h : 0 ≤ x) : InCents (roundToCents x) := by
  have hNonneg : 0 ≤ FixedPoint.roundHalfUp (x * (100 : Nat)) := by
    rw [← FixedPoint.roundHalfUp_intCast 0]
    exact FixedPoint.roundHalfUp_mono (by push_cast; positivity)
  refine ⟨(FixedPoint.roundHalfUp (x * (100 : Nat))).toNat, ?_⟩
  rw [FloorsEditor.roundToCents, FixedPoint.quantize, FixedPoint.toNumber]
  congr 1
  exact_mod_cast (Int.toNat_of_nonneg hNonneg).symm

/-- Only numbers of cents are left by rounding. -/
theorem roundToCents_iff {x : ℚ} (h : 0 ≤ x) : roundToCents x = x ↔ InCents x :=
  ⟨fun hSame => hSame ▸ inCents_roundToCents h, InCents.roundToCents⟩

/-- What `formatNumber` prints. -/
def printedValue (value : Option ℚ) : ℚ := (value.map roundToCents).getD 0

/-- A formatted number is a printed area. -/
theorem formatNumber_printed {value : Option ℚ} (h : ∀ x ∈ value, 0 ≤ x) :
    PrintedArea (printedValue value) (formatNumber value) := by
  cases value with
  | none =>
      exact .plain (by norm_num [printedValue]) (by decide) (Js.forall_mem_of_all (by decide))
        (by decide +kernel)
  | some x =>
      have hCents := inCents_roundToCents (h x rfl)
      simp only [printedValue, Option.map_some, Option.getD_some, formatNumber]
      generalize roundToCents x = y at hCents
      by_cases hSize : y < 10 ^ 21
      · have hLow : y = 0 ∨ (10 : ℚ) ^ (-6 : ℤ) ≤ y := by
          obtain ⟨n, rfl⟩ := hCents
          rcases Nat.eq_zero_or_pos n with rfl | hn
          · exact .inl (by norm_num)
          · have hOne : (1 : ℚ) ≤ n := by exact_mod_cast hn
            refine .inr ?_
            rw [le_div_iff₀ (by norm_num)]
            norm_num
            linarith
        obtain ⟨hPlain, hNe, hValue⟩ := Js.number?_numberToString hLow hSize hCents.isDecimal
        refine .plain hSize hNe hPlain ?_
        rw [parseNumeral, String.ofList_toList]
        exact hValue
      · obtain ⟨head, power, hPlain, hHead, hPower, hText⟩ :=
          Js.numberToString_of_le (not_lt.mp hSize) hCents.isDecimal
        rw [hText]
        exact .exponent (not_lt.mp hSize) hHead hPlain hPower

/-! ### The head -/

/-- No area follows a dash anywhere in the text. -/
def NoFloor (text : Text) : Prop := ∀ tail, tail <:+ text → floorAt tail = none

section Head
variable {rest : Text} {c : Char}

theorem noFloor_nil : NoFloor [] := by
  intro tail hTail
  rw [List.suffix_nil.mp hTail]
  rfl

theorem NoFloor.cons (hRest : NoFloor rest) (h : floorAt (c :: rest) = none) :
    NoFloor (c :: rest) := by
  intro tail hTail
  rcases List.suffix_cons_iff.mp hTail with rfl | hTail
  · exact h
  · exact hRest tail hTail

/-- A space in front marks no floor. -/
theorem NoFloor.space (hRest : NoFloor rest) : NoFloor (' ' :: rest) :=
  hRest.cons (hRest rest List.suffix_rfl)

/-- A character of a number or of a unit. -/
def isInk (c : Char) : Bool := !Js.isSpace c && c ≠ '-'

theorem NoFloor.append {front : Text} (hRest : NoFloor rest) (h : ∀ c ∈ front, isInk c = true) :
    NoFloor (front ++ rest) := by
  induction front with
  | nil => exact hRest
  | cons c front ih =>
      obtain ⟨hc, hFront⟩ := List.forall_mem_cons.mp h
      have hInk : Js.isSpace c = false ∧ c ≠ '-' := by simpa [isInk] using hc
      exact (ih hFront).cons (floorAt_of_ne hInk.1 hInk.2)

theorem isInk_of_isPlain (h : Js.isPlain c = true) : isInk c = true := by
  have hDash : c ≠ '-' := by
    rintro rfl
    exact absurd h (by decide)
  simp [isInk, Js.isSpace_of_isPlain h, hDash]

/-- A printed area is ink. -/
theorem PrintedArea.isInk {x : ℚ} {text : Text} (h : PrintedArea x text) :
    ∀ c ∈ text, isInk c = true := by
  intro c hc
  cases h with
  | plain _ _ hPlain => exact isInk_of_isPlain (hPlain c hc)
  | exponent _ _ hPlain =>
      rcases List.mem_append.mp hc with hc | hc
      · exact isInk_of_isPlain (hPlain c hc)
      · rcases List.mem_cons.mp hc with rfl | hc
        · decide
        · rcases List.mem_cons.mp hc with rfl | hc
          · decide
          · exact isInk_of_isPlain (Js.isPlain_of_mem_digits hc)

theorem PrintedArea.ne_nil {x : ℚ} {text : Text} (h : PrintedArea x text) : text ≠ [] := by
  cases h with
  | plain _ hText => exact hText
  | exponent _ hText => simp

/-- A printed area reads back as its number. -/
theorem PrintedArea.value {x : ℚ} {text : Text} (h : PrintedArea x text) (hSize : x < 10 ^ 21) :
    parseNumeral text = some x := by
  cases h with
  | plain _ _ _ hValue => exact hValue
  | exponent hLarge => exact absurd hSize (not_lt.mpr hLarge)

/-- The unit that follows a plain number is the one that is read. -/
theorem PrintedArea.quantity {x : ℚ} {text unit : Text} (h : PrintedArea x text)
    (hUnit : ∀ rest, startsWith unit ('e' :: rest) = false)
    (hRest : rest.head?.any Js.isPlain = false) :
    quantity unit (text ++ rest) =
      if x < 10 ^ 21 ∧ startsWith unit (rest.dropWhile Js.isSpace) = true then some text
      else none := by
  cases h with
  | plain hSize hText hPlain =>
      rw [quantity_split hPlain hRest]
      simp [hSize, hText]
  | @exponent text power hSize hText hPlain =>
      have hStop : ('e' :: '+' :: (Js.digits power ++ rest)).dropWhile Js.isSpace =
          'e' :: '+' :: (Js.digits power ++ rest) := rfl
      rw [List.append_assoc, List.cons_append, List.cons_append, quantity_split hPlain (by rfl),
        hStop, hUnit, if_neg (by simp), if_neg fun h => absurd h.1 (not_lt.mpr hSize)]

/-- What starts with the letter of an exponent does not start with the unit. -/
theorem startsWith_sqFt (rest : Text) : startsWith "SqFt".toList ('e' :: rest) = false := rfl

/-- The head of a floor, after its label. -/
def areaText (sqFt sqM : Text) : Text :=
  " - ".toList ++ (sqFt ++ (" SqFt - ".toList ++ (sqM ++ " SqMt".toList)))

section Areas
variable {a b : ℚ} {sqFt sqM : Text}

/-- A printed area does not start with white space. -/
theorem PrintedArea.dropWhile (h : PrintedArea a sqFt) (rest : Text) :
    (sqFt ++ rest).dropWhile Js.isSpace = sqFt ++ rest := by
  cases hText : sqFt with
  | nil => exact absurd hText h.ne_nil
  | cons c text =>
      have hc := h.isInk c (by rw [hText]; exact List.mem_cons_self)
      refine List.dropWhile_cons_of_neg ?_
      simp only [PropertyTax.Surveys.isInk, Bool.and_eq_true] at hc
      simpa using hc.1

/-- After the label stands the area in square feet, if it is printed plainly. -/
theorem floorAt_areaText (hFt : PrintedArea a sqFt) :
    floorAt (areaText sqFt sqM) = if a < 10 ^ 21 then some sqFt else none := by
  have hDash : floorAt (areaText sqFt sqM) = quantity "SqFt".toList
      ((sqFt ++ (" SqFt - ".toList ++ (sqM ++ " SqMt".toList))).dropWhile Js.isSpace) := rfl
  have hUnit : startsWith "SqFt".toList
      ((" SqFt - ".toList ++ (sqM ++ " SqMt".toList)).dropWhile Js.isSpace) = true := rfl
  rw [hDash, hFt.dropWhile, hFt.quantity startsWith_sqFt rfl, hUnit]
  simp

/-- No label ends behind that place. -/
theorem noFloor_areaText (hFt : PrintedArea a sqFt) (hM : PrintedArea b sqM)
    (hSize : ¬ a < 10 ^ 21) : NoFloor (areaText sqFt sqM) := by
  have hUnit : NoFloor (sqM ++ " SqMt".toList) := by
    refine NoFloor.append ?_ hM.isInk
    exact (@NoFloor.append _ "SqMt".toList noFloor_nil (Js.forall_mem_of_all (by decide))).space
  have hDash : floorAt ('-' :: ' ' :: (sqM ++ " SqMt".toList)) = none := by
    have hQuantity : floorAt ('-' :: ' ' :: (sqM ++ " SqMt".toList)) =
      quantity "SqFt".toList ((sqM ++ " SqMt".toList).dropWhile Js.isSpace) := rfl
    have hOther : startsWith "SqFt".toList (" SqMt".toList.dropWhile Js.isSpace) = false := rfl
    rw [hQuantity, hM.dropWhile, hM.quantity startsWith_sqFt rfl, hOther]
    simp
  have hSecond : NoFloor (" SqFt - ".toList ++ (sqM ++ " SqMt".toList)) :=
    (@NoFloor.append _ "SqFt".toList (hUnit.space.cons hDash).space
      (Js.forall_mem_of_all (by decide))).space
  have hFirst : floorAt ('-' :: ' ' :: (sqFt ++ (" SqFt - ".toList ++ (sqM ++ " SqMt".toList)))) =
      none := by
    have hHere := @floorAt_areaText a sqFt sqM hFt
    rw [if_neg hSize] at hHere
    exact hHere
  exact ((hSecond.append hFt.isInk).space.cons hFirst).space

/-- The square metres are read with their number, or with its exponent. -/
theorem sqmMatch_areaText (hFt : PrintedArea a sqFt) (hM : PrintedArea b sqM) :
    ∃ number x, sqmMatch (areaText sqFt sqM) = some number ∧ parseNumeral number = some x ∧
      (x = b ↔ b < 10 ^ 21) := by
  have hSqFt : ∀ rest, sqmMatch (sqFt ++ (" SqFt - ".toList ++ rest)) = sqmMatch rest := by
    intro rest
    have hUnits : sqmMatch (" SqFt - ".toList ++ rest) = sqmMatch rest := by
      simp [sqmMatch_of_not_plain (show Js.isPlain ' ' = false from rfl),
        sqmMatch_of_not_plain (show Js.isPlain 'S' = false from rfl),
        sqmMatch_of_not_plain (show Js.isPlain 'q' = false from rfl),
        sqmMatch_of_not_plain (show Js.isPlain 'F' = false from rfl),
        sqmMatch_of_not_plain (show Js.isPlain 't' = false from rfl),
        sqmMatch_of_not_plain (show Js.isPlain '-' = false from rfl)]
    cases hFt with
    | plain _ _ hPlain => rw [sqmMatch_skip hPlain (by rfl) (by rfl), hUnits]
    | @exponent text power _ _ hPlain =>
        have hDigits : ∀ c ∈ Js.digits power, Js.isPlain c = true :=
          fun c => Js.isPlain_of_mem_digits
        rw [List.append_assoc, List.cons_append, List.cons_append,
          sqmMatch_skip hPlain (by rfl) (by rfl), sqmMatch_of_not_plain rfl,
          sqmMatch_of_not_plain rfl, sqmMatch_skip hDigits (by rfl) (by rfl), hUnits]
  have hDash : sqmMatch (areaText sqFt sqM) = sqmMatch (sqM ++ " SqMt".toList) := by
    have hStart : sqmMatch (areaText sqFt sqM) =
        sqmMatch (sqFt ++ (" SqFt - ".toList ++ (sqM ++ " SqMt".toList))) := by
      simp [areaText, sqmMatch_of_not_plain (show Js.isPlain ' ' = false from rfl),
        sqmMatch_of_not_plain (show Js.isPlain '-' = false from rfl)]
    rw [hStart, hSqFt]
  rw [hDash]
  cases hM with
  | plain hSize hText hPlain hValue =>
      exact ⟨sqM, b, sqmMatch_here hPlain hText rfl rfl, hValue, iff_of_true rfl hSize⟩
  | @exponent text power hSize _ hPlain hPower =>
      have hDigits : ∀ c ∈ Js.digits power, c.isDigit = true := fun c => Js.isDigit_of_mem_digits
      have hPlainDigits : ∀ c ∈ Js.digits power, Js.isPlain c = true :=
        fun c => Js.isPlain_of_mem_digits
      refine ⟨Js.digits power, power, ?_, ?_, iff_of_false hPower.ne (not_lt.mpr hSize)⟩
      · rw [List.append_assoc, List.cons_append, List.cons_append,
          sqmMatch_skip hPlain (by rfl) (by rfl), sqmMatch_of_not_plain rfl,
          sqmMatch_of_not_plain rfl, sqmMatch_here hPlainDigits (Js.digits_ne_nil power) rfl rfl]
      · rw [parseNumeral, Js.number?_digits hDigits (Js.digits_ne_nil power),
          Js.ofDigitChars_digits]

/-- Inside the label no area follows a dash. -/
def CleanLabel (label : Text) : Prop :=
  ∀ n, 0 < n → n < label.length → floorAt (label.drop n) = none

/-- A clean label in front of areas is found with its area, if it is on one line. -/
theorem labelMatch_areaText {label : Text} (hLabel : label ≠ []) (hEnds : EndsDark label)
    (hClean : CleanLabel label) (hFt : PrintedArea a sqFt) (hM : PrintedArea b sqM) :
    labelMatch (label ++ areaText sqFt sqM) =
      if label.any isLineTerminator = false ∧ a < 10 ^ 21 then some (label, sqFt) else none := by
  have hBefore : ∀ n, 0 < n → n < label.length →
      floorAt ((label ++ areaText sqFt sqM).drop n) = none := by
    intro n hn hLess
    have hNe : label.drop n ≠ [] := List.ne_nil_of_length_pos (by rw [List.length_drop]; omega)
    rw [List.drop_append_of_le_length hLess.le]
    exact (floorAt_append (hEnds.suffix (List.drop_suffix n label)) hNe).trans (hClean n hn hLess)
  have hHere := @floorAt_areaText a sqFt sqM hFt
  split_ifs with hRead
  · rw [if_pos hRead.2] at hHere
    exact labelMatch_some hLabel hRead.1 hHere hBefore
  · refine labelMatch_none fun n hn _ => ?_
    by_cases hInside : n < label.length
    · exact .inr (hBefore n hn hInside)
    · by_cases hLine : label.any isLineTerminator = true
      · refine .inl ?_
        rw [List.take_append, List.take_of_length_le (not_lt.mp hInside), List.any_append, hLine,
          Bool.true_or]
      · have hSize : ¬ a < 10 ^ 21 := fun hSize => hRead ⟨Bool.eq_false_iff.mpr hLine, hSize⟩
        refine .inr (noFloor_areaText hFt hM hSize _ ?_)
        rw [List.drop_append, List.drop_of_length_le (not_lt.mp hInside), List.nil_append]
        exact List.drop_suffix _ _

end Areas
end Head
end PropertyTax.Surveys
