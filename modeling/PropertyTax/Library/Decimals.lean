import Mathlib.Data.Nat.Prime.Basic
import PropertyTax.Library.JsText

/-! Decimal numbers as the language prints and reads them. What is printed in
plain notation is read back as it was. -/
namespace Js

/-- A check of every entry of a list, by running it. -/
theorem forall_mem_of_all {α : Type*} {p : α → Prop} [DecidablePred p] {l : List α}
    (h : l.all (fun a => decide (p a)) = true) : ∀ a ∈ l, p a :=
  fun a ha => of_decide_eq_true (List.all_eq_true.mp h a ha)

/-! ### Reading -/

/-- The value of a decimal digit. -/
theorem digitValue?_ten {c : Char} (h : c.isDigit = true) :
    digitValue? 10 c = some (c.toNat - '0'.toNat) := by
  have hRange : 48 ≤ c.toNat ∧ c.toNat ≤ 57 := Char.isDigit_iff_toNat.mp h
  have hValue : c.toNat - 48 < 10 := by omega
  simp [digitValue?, h, hValue]

/-- Decimal digits read as a number. -/
theorem digitsValue?_ten {text : List Char} (hDigits : ∀ c ∈ text, c.isDigit = true)
    (hText : text ≠ []) : digitsValue? 10 text = some (Nat.ofDigitChars 10 text 0) := by
  have hFold : ∀ value : Nat, text.foldl
      (fun acc c => do pure ((← acc) * 10 + (← digitValue? 10 c))) (some value) =
        some (Nat.ofDigitChars 10 text value) := by
    clear hText
    induction text with
    | nil => exact fun value => rfl
    | cons c text ih =>
        intro value
        obtain ⟨hDigit, hDigits⟩ := List.forall_mem_cons.mp hDigits
        rw [List.foldl_cons, Nat.ofDigitChars_cons, mul_comm 10 value, ← ih hDigits,
          digitValue?_ten hDigit]
        rfl
  rw [digitsValue?, if_neg (by simpa using hText)]
  exact hFold 0

/-- A text without the separator is not split. -/
theorem splitAtFirst_of_all {p : Char → Bool} {text : List Char} (h : ∀ c ∈ text, p c = false) :
    splitAtFirst p text = (text, none) := by
  have hNone : text.dropWhile (fun c => !p c) = [] := by
    rw [List.dropWhile_eq_nil_iff]
    intro c hc
    rw [h c hc]
    rfl
  rw [splitAtFirst, hNone]

theorem splitAtFirst_append {p : Char → Bool} {before rest : List Char} {c : Char}
    (h : ∀ d ∈ before, p d = false) (hc : p c = true) :
    splitAtFirst p (before ++ c :: rest) = (before, some rest) := by
  have hBefore : ∀ d ∈ before, (!p d) = true := fun d hd => by rw [h d hd]; rfl
  rw [splitAtFirst, List.dropWhile_append_of_pos hBefore, List.takeWhile_append_of_pos hBefore,
    List.dropWhile_cons_of_neg (by simp [hc]), List.takeWhile_cons_of_neg (by simp [hc])]
  simp

/-- Digits and points. -/
def isPlain (c : Char) : Bool := c.isDigit || c == '.'

theorem isSpace_of_isPlain {c : Char} (h : isPlain c = true) : isSpace c = false := by
  rcases Bool.or_eq_true_iff.mp h with hDigit | hPoint
  · have hRange : 48 ≤ c.toNat ∧ c.toNat ≤ 57 := Char.isDigit_iff_toNat.mp hDigit
    simp [isSpace]
    omega
  · rw [beq_iff_eq] at hPoint
    rw [hPoint]
    decide

/-- The forms with a base or a sign are no digits and points. -/
theorem number?_of_plain {text : List Char} (hPlain : ∀ c ∈ text, isPlain c = true)
    (hText : text ≠ []) : number? (String.ofList text) = decimalLiteral? text := by
  have hTrim : trimChars text = text := by
    apply trimChars_eq_self
    · cases text with
      | nil => rfl
      | cons c text => exact isSpace_of_isPlain (hPlain c List.mem_cons_self)
    · rw [List.getLast?_eq_some_getLast hText]
      exact isSpace_of_isPlain (hPlain _ (List.getLast_mem hText))
  have hSigned : signed text = (1, text) := by
    unfold signed
    split
    · exact absurd (hPlain '-' List.mem_cons_self) (by decide)
    · exact absurd (hPlain '+' List.mem_cons_self) (by decide)
    · rfl
  have hSecond : ∀ c d : Char, ∀ rest, text = c :: d :: rest → isPlain d = true := by
    rintro c d rest rfl
    exact hPlain d (by simp)
  rw [number?, String.toList_ofList, hTrim]
  split
  · exact absurd rfl hText
  all_goals first
    | exact absurd (hSecond _ _ _ rfl) (by decide)
    | rw [hSigned]; simp

theorem isPlain_of_isDigit {c : Char} (h : c.isDigit = true) : isPlain c = true := by
  rw [isPlain, h, Bool.true_or]

theorem isPoint_of_isDigit {c : Char} (h : c.isDigit = true) : (c == '.') = false := by
  rw [beq_eq_false_iff_ne]
  rintro rfl
  exact absurd h (by decide)

theorem isExponent_of_isPlain {c : Char} (h : isPlain c = true) :
    (c == 'e' || c == 'E') = false := by
  rw [Bool.or_eq_false_iff, beq_eq_false_iff_ne, beq_eq_false_iff_ne]
  constructor <;> rintro rfl <;> exact absurd h (by decide)

/-- A whole number. -/
theorem number?_digits {whole : List Char} (hWhole : ∀ c ∈ whole, c.isDigit = true)
    (hText : whole ≠ []) :
    number? (String.ofList whole) = some (Nat.ofDigitChars 10 whole 0 : ℚ) := by
  have hPlain : ∀ c ∈ whole, isPlain c = true := fun c hc => isPlain_of_isDigit (hWhole c hc)
  have hExponent := fun c hc => isExponent_of_isPlain (hPlain c hc)
  have hPoint := fun c hc => isPoint_of_isDigit (hWhole c hc)
  rw [number?_of_plain hPlain hText, decimalLiteral?, splitAtFirst_of_all hExponent]
  simp [splitAtFirst_of_all hPoint, digitsValue?_ten hWhole hText]

/-- A number with a point in it. -/
theorem number?_point {whole fraction : List Char} (hWhole : ∀ c ∈ whole, c.isDigit = true)
    (hFraction : ∀ c ∈ fraction, c.isDigit = true) (hText : whole ++ fraction ≠ []) :
    number? (String.ofList (whole ++ '.' :: fraction)) =
      some (Nat.ofDigitChars 10 (whole ++ fraction) 0 * (10 : ℚ) ^ (-fraction.length : ℤ)) := by
  have hDigits : ∀ c ∈ whole ++ fraction, c.isDigit = true := by
    intro c hc
    exact (List.mem_append.mp hc).elim (hWhole c) (hFraction c)
  have hPlain : ∀ c ∈ whole ++ '.' :: fraction, isPlain c = true := by
    intro c hc
    rcases List.mem_append.mp hc with hc | hc
    · exact isPlain_of_isDigit (hWhole c hc)
    · rcases List.mem_cons.mp hc with rfl | hc
      · decide
      · exact isPlain_of_isDigit (hFraction c hc)
  have hExponent := fun c hc => isExponent_of_isPlain (hPlain c hc)
  have hPoint := fun c hc => isPoint_of_isDigit (hWhole c hc)
  rw [number?_of_plain hPlain (by simp), decimalLiteral?, splitAtFirst_of_all hExponent]
  simp [splitAtFirst_append hPoint (beq_self_eq_true '.'), digitsValue?_ten hDigits hText]

theorem decimalLiteral?_nonneg {text : List Char} {x : ℚ} (h : decimalLiteral? text = some x) :
    0 ≤ x := by
  simp only [decimalLiteral?, Option.bind_eq_bind, Option.pure_def] at h
  obtain ⟨mantissa, -, h⟩ := Option.bind_eq_some_iff.mp h
  split at h
  all_goals
    obtain ⟨exponent, -, h⟩ := Option.bind_eq_some_iff.mp h
    obtain rfl := Option.some.inj h
    exact mul_nonneg mantissa.cast_nonneg (zpow_nonneg (by norm_num) _)

/-- Without a sign there is no negative number. -/
theorem number?_nonneg {text : String} {x : ℚ} (hSign : '-' ∉ text.toList)
    (h : number? text = some x) : 0 ≤ x := by
  have hTrimmed : '-' ∉ trimChars text.toList :=
    fun hMem => hSign ((trimChars_isInfix text.toList).subset hMem)
  have hSigned : (0 : ℤ) ≤ (signed (trimChars text.toList)).1 := by
    unfold signed
    split
    next hText => simp [hText] at hTrimmed
    · exact Int.one_nonneg
    · exact Int.one_nonneg
  unfold number? at h
  split at h
  · obtain rfl := Option.some.inj h
    exact le_rfl
  case h_8 =>
    obtain ⟨value, hValue, rfl⟩ := Option.map_eq_some_iff.mp h
    have hSign : (0 : ℚ) ≤ (signed (trimChars text.toList)).1 := by exact_mod_cast hSigned
    exact mul_nonneg hSign (decimalLiteral?_nonneg hValue)
  all_goals
    obtain ⟨value, hValue, rfl⟩ := Option.map_eq_some_iff.mp h
    obtain ⟨n, -, hn⟩ := Option.bind_eq_some_iff.mp hValue
    obtain rfl := Option.some.inj hn
    positivity

/-! ### Printing -/

/-- Stripping zeros divides by a power of ten. -/
theorem stripZeros_spec (fuel m : Nat) (hm : m ≠ 0) :
    ∃ z, m = stripZeros fuel m * 10 ^ z ∧ stripZeros fuel m ≠ 0 := by
  induction fuel generalizing m with
  | zero => exact ⟨0, by simp [stripZeros], hm⟩
  | succ fuel ih =>
      rw [stripZeros]
      split_ifs with hZero
      · have hMod : m % 10 = 0 := by simpa [hm] using hZero
        obtain ⟨z, hz, hNe⟩ := ih (m / 10) (by omega)
        refine ⟨z + 1, ?_, hNe⟩
        rw [pow_succ, ← mul_assoc, ← hz]
        omega
      · exact ⟨0, by simp, hm⟩

/-- Ten times a number ends in a zero. -/
theorem digits_mul_ten {n : Nat} (hn : 0 < n) : digits (n * 10) = digits n ++ ['0'] := by
  have h := @Nat.toDigits_append_toDigits 10 n 0 (by omega) hn (by omega)
  rw [Nat.add_zero, mul_comm 10] at h
  exact h.symm

/-- A power of ten times a number ends in as many zeros. -/
theorem digits_mul_pow {n : Nat} (hn : 0 < n) (z : Nat) :
    digits (n * 10 ^ z) = digits n ++ List.replicate z '0' := by
  induction z with
  | zero => simp
  | succ z ih =>
      rw [pow_succ, ← mul_assoc, digits_mul_ten (by positivity), ih, List.append_assoc,
        List.replicate_succ']

/-- The digits of a number are digits. -/
theorem isDigit_of_mem_digits {n : Nat} {c : Char} (h : c ∈ digits n) : c.isDigit = true :=
  Nat.isDigit_of_mem_toDigits (by omega) (by omega) h

theorem isPlain_of_mem_digits {n : Nat} {c : Char} (h : c ∈ digits n) : isPlain c = true :=
  isPlain_of_isDigit (isDigit_of_mem_digits h)

theorem digits_ne_nil (n : Nat) : digits n ≠ [] := Nat.toDigits_ne_nil

/-- The digits of a number read back as the number. -/
theorem ofDigitChars_digits (n : Nat) : Nat.ofDigitChars 10 (digits n) 0 = n :=
  Nat.ofDigitChars_ten_toDigits

/-- A number has as many digits as its size says. -/
theorem digits_length_bounds {n : Nat} (hn : n ≠ 0) :
    10 ^ ((digits n).length - 1) ≤ n ∧ n < 10 ^ (digits n).length := by
  have hPos : 0 < (digits n).length := List.length_pos_of_ne_nil (digits_ne_nil n)
  constructor
  · by_cases hOne : (digits n).length = 1
    · rw [hOne]
      exact Nat.one_le_iff_ne_zero.mpr hn
    · by_contra hSmall
      have hLength := (@Nat.length_toDigits_le_iff 10 n ((digits n).length - 1) (by omega)
        (by omega)).mpr (by omega)
      rw [← digits] at hLength
      omega
  · exact (Nat.length_toDigits_le_iff (by omega) hPos).mp le_rfl

/-- The denominator of a number with finitely many digits. -/
def IsDecimal (x : ℚ) : Prop := ∃ k : Nat, x.den ∣ 10 ^ k

/-- The fraction has no more digits than the denominator has bits. -/
theorem exists_le_log2 {den : Nat} (h : ∃ k, den ∣ 10 ^ k) : ∃ k ≤ den.log2, den ∣ 10 ^ k := by
  classical
  obtain ⟨k, hk, hMin⟩ : ∃ k, den ∣ 10 ^ k ∧ ∀ j < k, ¬ den ∣ 10 ^ j :=
    ⟨Nat.find h, Nat.find_spec h, fun j => Nat.find_min h⟩
  refine ⟨k, ?_, hk⟩
  have hDen : den ≠ 0 := by
    rintro rfl
    have hZero := Nat.eq_zero_of_zero_dvd hk
    exact absurd hZero (by positivity)
  have hSplit : den ∣ 2 ^ k * 5 ^ k := by
    rw [← Nat.mul_pow]
    exact hk
  obtain ⟨two, five, hTwo, hFive, hProduct⟩ := (Nat.dvd_mul).mp hSplit
  obtain ⟨a, ha, rfl⟩ := (Nat.dvd_prime_pow Nat.prime_two).mp hTwo
  obtain ⟨b, hb, rfl⟩ := (Nat.dvd_prime_pow Nat.prime_five).mp hFive
  have hFull : a = k ∨ b = k := by
    by_contra hNeither
    refine hMin (k - 1) (by omega) ?_
    rw [← hProduct, show 10 = 2 * 5 from rfl, Nat.mul_pow]
    exact Nat.mul_dvd_mul (Nat.pow_dvd_pow 2 (by omega)) (Nat.pow_dvd_pow 5 (by omega))
  rw [Nat.le_log2 hDen, ← hProduct]
  rcases hFull with rfl | rfl
  · exact Nat.le_mul_of_pos_right _ (by positivity)
  · calc 2 ^ b ≤ 5 ^ b := Nat.pow_le_pow_left (by omega) _
      _ ≤ 2 ^ a * 5 ^ b := Nat.le_mul_of_pos_left _ (by positivity)

/-- The search for a power of ten finds one that the denominator divides. -/
theorem fractionDigits_spec {den fuel start k : Nat} (hFrom : start ≤ k) (hTo : k < start + fuel)
    (h : den ∣ 10 ^ k) : den ∣ 10 ^ fractionDigits den fuel start := by
  induction fuel generalizing start with
  | zero => omega
  | succ fuel ih =>
      rw [fractionDigits]
      split_ifs with hHere
      · exact Nat.dvd_of_mod_eq_zero hHere
      · have hNe : start ≠ k := by
          rintro rfl
          exact hHere (Nat.mod_eq_zero_of_dvd h)
        exact ih (by omega) (by omega)

/-- How significant digits are laid out around the point. -/
def layout (significant : List Char) (point : ℤ) : List Char :=
  let count := significant.length
  if count ≤ point ∧ point ≤ 21 then
    significant ++ List.replicate (point.toNat - count) '0'
  else if 0 < point ∧ point ≤ 21 then
    significant.take point.toNat ++ '.' :: significant.drop point.toNat
  else if -6 < point ∧ point ≤ 0 then
    '0' :: '.' :: (List.replicate (-point).toNat '0' ++ significant)
  else
    let exponent := point - 1
    let sign := if exponent < 0 then '-' else '+'
    let head := significant.take 1 ++ if count = 1 then [] else '.' :: significant.drop 1
    head ++ 'e' :: sign :: digits exponent.natAbs

/-- A decimal is printed as its significant digits with a point among them. -/
theorem exists_layout {x : ℚ} (hPos : 0 < x) (hDecimal : IsDecimal x) :
    ∃ (n : Nat) (point : ℤ), n ≠ 0 ∧ x = n * (10 : ℚ) ^ (point - (digits n).length) ∧
      positiveToString x = layout (digits n) point := by
  obtain ⟨k, hk, hDvd⟩ := exists_le_log2 hDecimal
  have hFraction := fractionDigits_spec (Nat.zero_le k) (by omega : k < 0 + (x.den.log2 + 1)) hDvd
  set fraction := fractionDigits x.den (x.den.log2 + 1) 0 with hFractionDef
  set mantissa := x.num.natAbs * 10 ^ fraction / x.den with hMantissaDef
  have hMantissa : mantissa * x.den = x.num.natAbs * 10 ^ fraction :=
    Nat.div_mul_cancel (hFraction.mul_left _)
  have hNum : (x.num.natAbs : ℚ) = x.num := by
    rw [Nat.cast_natAbs, abs_of_pos (Rat.num_pos.mpr hPos)]
  have hDen : (x.den : ℚ) ≠ 0 := by exact_mod_cast x.den_nz
  have hValue : x = mantissa * (10 : ℚ) ^ (-fraction : ℤ) := by
    have hCast : (mantissa : ℚ) * x.den = x.num * 10 ^ fraction := by
      rw [← hNum]
      exact_mod_cast hMantissa
    rw [zpow_neg, zpow_natCast, ← div_eq_mul_inv, eq_div_iff (by positivity)]
    calc x * 10 ^ fraction = x.num / x.den * 10 ^ fraction := by rw [Rat.num_div_den]
      _ = mantissa := by rw [div_mul_eq_mul_div, ← hCast, mul_div_cancel_right₀ _ hDen]
  have hNe : mantissa ≠ 0 := by
    intro hZero
    rw [hZero, Nat.cast_zero, zero_mul] at hValue
    exact hPos.ne' hValue
  obtain ⟨z, hz, hStripped⟩ := stripZeros_spec (digits mantissa).length mantissa hNe
  set n := stripZeros (digits mantissa).length mantissa with hn
  have hLength : (digits mantissa).length = (digits n).length + z := by
    conv_lhs => rw [hz]
    rw [digits_mul_pow (Nat.pos_of_ne_zero hStripped), List.length_append, List.length_replicate]
  refine ⟨n, (digits mantissa).length - fraction, hStripped, ?_, rfl⟩
  have hExponent : ((digits mantissa).length : ℤ) - fraction - (digits n).length =
      z + -fraction := by
    rw [hLength]
    push_cast
    ring
  rw [hExponent, zpow_add₀ (by norm_num), zpow_natCast, ← mul_assoc, hValue]
  congr 1
  exact_mod_cast hz

/-- Within the bounds of plain notation, a number is written as a plain numeral that reads back. -/
theorem layout_plain {n : Nat} {point : ℤ} (hHigh : point ≤ 21) (hLow : -6 < point) :
    (∀ c ∈ layout (digits n) point, isPlain c = true) ∧ layout (digits n) point ≠ [] ∧
      number? (String.ofList (layout (digits n) point)) =
        some (n * (10 : ℚ) ^ (point - (digits n).length)) := by
  have hDigits : ∀ c ∈ digits n, c.isDigit = true := fun c hc => isDigit_of_mem_digits hc
  have hZeros : ∀ k, ∀ c ∈ List.replicate k '0', c.isDigit = true := by
    intro k c hc
    rw [List.eq_of_mem_replicate hc]
    rfl
  have hPlain : ∀ text : List Char, (∀ c ∈ text, c.isDigit = true) →
      ∀ c ∈ text, isPlain c = true := fun text h c hc => isPlain_of_isDigit (h c hc)
  have hSmall : ∀ k, ∀ c ∈ List.replicate k '0' ++ digits n, c.isDigit = true :=
    fun k c hc => (List.mem_append.mp hc).elim (hZeros k c) (hDigits c)
  unfold layout
  dsimp only
  by_cases hWhole : (digits n).length ≤ point ∧ point ≤ 21
  · have hText : ∀ c ∈ digits n ++ List.replicate (point.toNat - (digits n).length) '0',
        c.isDigit = true := fun c hc => (List.mem_append.mp hc).elim (hDigits c) (hZeros _ c)
    have hNe : digits n ++ List.replicate (point.toNat - (digits n).length) '0' ≠ [] := by
      simp [digits_ne_nil]
    have hExponent : point - (digits n).length = (point.toNat - (digits n).length : Nat) := by
      omega
    rw [if_pos hWhole]
    refine ⟨hPlain _ hText, hNe, ?_⟩
    rw [number?_digits hText hNe, Nat.ofDigitChars_append, ofDigitChars_digits,
      Nat.ofDigitChars_replicate_zero, hExponent, zpow_natCast]
    push_cast
    ring_nf
  rw [if_neg hWhole]
  by_cases hPoint : 0 < point ∧ point ≤ 21
  · have hTake : ∀ c ∈ (digits n).take point.toNat, c.isDigit = true :=
      fun c hc => hDigits c (List.mem_of_mem_take hc)
    have hDrop : ∀ c ∈ (digits n).drop point.toNat, c.isDigit = true :=
      fun c hc => hDigits c (List.mem_of_mem_drop hc)
    have hExponent : point - (digits n).length = -((digits n).drop point.toNat).length := by
      rw [List.length_drop]
      omega
    rw [if_pos hPoint]
    refine ⟨fun c hc => ?_, by simp, ?_⟩
    · rcases List.mem_append.mp hc with hc | hc
      · exact isPlain_of_isDigit (hTake c hc)
      · rcases List.mem_cons.mp hc with rfl | hc
        · decide
        · exact isPlain_of_isDigit (hDrop c hc)
    · rw [number?_point hTake hDrop (by simp [digits_ne_nil]), List.take_append_drop,
        ofDigitChars_digits, hExponent]
  · have hBelow : -6 < point ∧ point ≤ 0 := by omega
    have hExponent : point - (digits n).length =
        -(List.replicate (-point).toNat '0' ++ digits n).length := by
      rw [List.length_append, List.length_replicate]
      omega
    have hZero : ∀ c ∈ ['0'], c.isDigit = true := forall_mem_of_all (by decide)
    rw [if_neg hPoint, if_pos hBelow]
    refine ⟨fun c hc => ?_, by simp, ?_⟩
    · rcases List.mem_cons.mp hc with rfl | hc
      · decide
      · rcases List.mem_cons.mp hc with rfl | hc
        · decide
        · exact isPlain_of_isDigit (hSmall _ c hc)
    · have hText := number?_point hZero (hSmall (-point).toNat) (by simp)
      rw [List.singleton_append] at hText
      rw [hText, List.singleton_append, Nat.ofDigitChars_cons, Nat.ofDigitChars_append,
        Nat.ofDigitChars_replicate_zero, hExponent]
      simp [ofDigitChars_digits]

/-- The digits of the exponent follow its sign. -/
theorem layout_exponent {n : Nat} {point : ℤ} (hHigh : 21 < point) :
    ∃ head, (∀ c ∈ head, isPlain c = true) ∧ head ≠ [] ∧
      layout (digits n) point = head ++ 'e' :: '+' :: digits (point - 1).natAbs := by
  have hDigits : ∀ c ∈ digits n, isPlain c = true := fun c => isPlain_of_mem_digits
  unfold layout
  dsimp only
  rw [if_neg (by omega), if_neg (by omega), if_neg (by omega),
    if_neg (by omega : ¬ point - 1 < 0)]
  refine ⟨_, fun c hc => ?_, ?_, rfl⟩
  · rcases List.mem_append.mp hc with hc | hc
    · exact hDigits c (List.mem_of_mem_take hc)
    · split_ifs at hc
      · cases hc
      · rcases List.mem_cons.mp hc with rfl | hc
        · decide
        · exact hDigits c (List.mem_of_mem_drop hc)
  · simp [digits_ne_nil]

/-- The position of the point bounds the number on both sides. -/
theorem layout_bounds {n : Nat} (hn : n ≠ 0) (point : ℤ) :
    (10 : ℚ) ^ (point - 1) ≤ n * (10 : ℚ) ^ (point - (digits n).length) ∧
      n * (10 : ℚ) ^ (point - (digits n).length) < (10 : ℚ) ^ point := by
  obtain ⟨hLow, hHigh⟩ := digits_length_bounds hn
  have hLength : 0 < (digits n).length := List.length_pos_of_ne_nil (digits_ne_nil n)
  have hPower : (0 : ℚ) < (10 : ℚ) ^ (point - (digits n).length) := zpow_pos (by norm_num) _
  have hTop : (10 : ℚ) ^ point =
      10 ^ (digits n).length * (10 : ℚ) ^ (point - (digits n).length) := by
    rw [← zpow_natCast, ← zpow_add₀ (by norm_num)]
    congr 1
    omega
  have hBottom : (10 : ℚ) ^ (point - 1) =
      10 ^ ((digits n).length - 1) * (10 : ℚ) ^ (point - (digits n).length) := by
    rw [← zpow_natCast, ← zpow_add₀ (by norm_num)]
    congr 1
    omega
  rw [hTop, hBottom]
  constructor
  · exact mul_le_mul_of_nonneg_right (by exact_mod_cast hLow) hPower.le
  · exact mul_lt_mul_of_pos_right (by exact_mod_cast hHigh) hPower

section Printed
variable {x : ℚ}

/-- Decimals between a millionth and 10^21 are printed plainly, and read back. -/
theorem number?_numberToString (hLow : x = 0 ∨ (10 : ℚ) ^ (-6 : ℤ) ≤ x) (hHigh : x < 10 ^ 21)
    (hDecimal : IsDecimal x) : (∀ c ∈ (numberToString x).toList, isPlain c = true) ∧
      (numberToString x).toList ≠ [] ∧ number? (numberToString x) = some x := by
  rcases hLow with rfl | hLow
  · exact ⟨forall_mem_of_all (by decide +kernel), by decide +kernel, by decide +kernel⟩
  have hPos : 0 < x := lt_of_lt_of_le (zpow_pos (by norm_num) _) hLow
  obtain ⟨n, point, hn, hx, hText⟩ := exists_layout hPos hDecimal
  obtain ⟨hBottom, hTop⟩ := layout_bounds hn point
  rw [← hx] at hBottom hTop
  have hPoint : point ≤ 21 := by
    have hLess : (10 : ℚ) ^ (point - 1) < (10 : ℚ) ^ (21 : ℤ) :=
      lt_of_le_of_lt hBottom (by exact_mod_cast hHigh)
    have hExponent := (zpow_lt_zpow_iff_right₀ (by norm_num)).mp hLess
    omega
  have hSmall : -6 < point :=
    (zpow_lt_zpow_iff_right₀ (by norm_num : (1 : ℚ) < 10)).mp (lt_of_le_of_lt hLow hTop)
  have hString : numberToString x = String.ofList (layout (digits n) point) := by
    rw [numberToString, if_neg hPos.ne', if_neg hPos.not_gt, hText]
  rw [hString, String.toList_ofList]
  conv_rhs => rw [hx]
  exact layout_plain hPoint hSmall

/-- From 10^21 on a number is printed with its exponent. -/
theorem numberToString_of_le (hLow : 10 ^ 21 ≤ x) (hDecimal : IsDecimal x) :
    ∃ head, ∃ exponent : Nat, (∀ c ∈ head, isPlain c = true) ∧ head ≠ [] ∧ (exponent : ℚ) < x ∧
      (numberToString x).toList = head ++ 'e' :: '+' :: digits exponent := by
  have hPos : 0 < x := lt_of_lt_of_le (by norm_num) hLow
  obtain ⟨n, point, hn, hx, hText⟩ := exists_layout hPos hDecimal
  obtain ⟨hBottom, hTop⟩ := layout_bounds hn point
  rw [← hx] at hBottom hTop
  have hPoint : 21 < point := by
    have hLess : (10 : ℚ) ^ (21 : ℤ) < (10 : ℚ) ^ point :=
      lt_of_le_of_lt (by exact_mod_cast hLow) hTop
    exact (zpow_lt_zpow_iff_right₀ (by norm_num)).mp hLess
  obtain ⟨head, hPlain, hHead, hLayout⟩ := @layout_exponent n point hPoint
  have hExponent : (((point - 1).natAbs : Nat) : ℚ) < x := by
    have hPower : (10 : ℚ) ^ (point - 1) = ((10 ^ (point - 1).natAbs : Nat) : ℚ) := by
      rw [Nat.cast_pow, ← zpow_natCast]
      congr 1
      omega
    rw [hPower] at hBottom
    refine lt_of_lt_of_le ?_ hBottom
    exact_mod_cast Nat.lt_pow_self (by omega)
  refine ⟨head, _, hPlain, hHead, hExponent, ?_⟩
  rw [numberToString, if_neg hPos.ne', if_neg hPos.not_gt, String.toList_ofList, hText, hLayout]

end Printed
end Js
