import PropertyTax.Library.NumberWords
import PropertyTax.Money

/-! The amount of a receipt in words, with Indian grouping, and what the words say
when they are read back. -/
namespace PropertyTax
open NumberWords

/-! ### Printing -/

def ONES : List String :=
  ["", "One", "Two", "Three", "Four", "Five", "Six", "Seven", "Eight", "Nine", "Ten", "Eleven",
    "Twelve", "Thirteen", "Fourteen", "Fifteen", "Sixteen", "Seventeen", "Eighteen", "Nineteen"]

def TENS : List String :=
  ["", "", "Twenty", "Thirty", "Forty", "Fifty", "Sixty", "Seventy", "Eighty", "Ninety"]

/-- What a template shows of an element that may be missing. -/
def shown (element : Option String) : String := element.getD "undefined"

def twoDigits (n : Nat) : String :=
  if n < 20 then ONES[n]?.getD ""
  else
    let ten := n / 10
    let one := n % 10
    let tensWord := TENS[ten]?.getD ""
    let onesWord := ONES[one]?.getD ""
    if one = 0 then tensWord else Js.trim (tensWord ++ " " ++ onesWord)

def threeDigits (n : Nat) : String :=
  if n = 0 then ""
  else if n < 100 then twoDigits n
  else
    let hundred := n / 100
    let rest := n % 100
    if rest = 0 then shown ONES[hundred]? ++ " " ++ "Hundred"
    else shown ONES[hundred]? ++ " " ++ "Hundred" ++ " " ++ twoDigits rest

/-- The words of one group, if the group counts anything. -/
def groupWords (count : Nat) (place : String) : List String :=
  if 0 < count then [threeDigits count ++ " " ++ place] else []

def integerToIndianWords (n : ℚ) : Except String String :=
  if n < 0 then .error "integerToIndianWords requires a non-negative finite number"
  else
    let value := ⌊n⌋.toNat
    if value = 0 then .ok "Zero"
    else
      let crore := value / 10000000
      let lakh := value % 10000000 / 100000
      let thousand := value % 100000 / 1000
      let hundred := value % 1000
      .ok (String.intercalate " " (groupWords crore "Crore" ++ groupWords lakh "Lakh" ++
        groupWords thousand "Thousand" ++ if 0 < hundred then [threeDigits hundred] else []))

/-- English amount-in-words for INR with Indian grouping. -/
def formatInrAmountInWords (amount : ℚ) : Except String String :=
  if amount < 0 then .error "formatInrAmountInWords requires a non-negative finite amount"
  else do
    let rounded := roundMoney amount
    let rupees := ⌊rounded + 1 / 1000000000⌋
    let paise := FixedPoint.roundHalfUp ((rounded - rupees) * 100)
    if rupees = 0 ∧ paise = 0 then return "Rupees Zero Only"
    let rupeeWords ← integerToIndianWords rupees
    if paise = 0 then return "Rupees" ++ " " ++ rupeeWords ++ " " ++ "Only"
    let paiseWords ← integerToIndianWords paise
    if rupees = 0 then return "Rupees Zero and Paise" ++ " " ++ paiseWords ++ " " ++ "Only"
    return "Rupees" ++ " " ++ rupeeWords ++ " " ++ "and Paise" ++ " " ++ paiseWords ++ " " ++ "Only"

/-! ### Reading -/

/-- The words of a number, in English with Indian grouping. -/
def indianNumberWords : List (String × Role) :=
  [("Zero", .add 0), ("One", .add 1), ("Two", .add 2), ("Three", .add 3), ("Four", .add 4),
    ("Five", .add 5), ("Six", .add 6), ("Seven", .add 7), ("Eight", .add 8), ("Nine", .add 9),
    ("Ten", .add 10), ("Eleven", .add 11), ("Twelve", .add 12), ("Thirteen", .add 13),
    ("Fourteen", .add 14), ("Fifteen", .add 15), ("Sixteen", .add 16), ("Seventeen", .add 17),
    ("Eighteen", .add 18), ("Nineteen", .add 19), ("Twenty", .add 20), ("Thirty", .add 30),
    ("Forty", .add 40), ("Fifty", .add 50), ("Sixty", .add 60), ("Seventy", .add 70),
    ("Eighty", .add 80), ("Ninety", .add 90), ("Hundred", .scale 100), ("Thousand", .close 1000),
    ("Lakh", .close 100000), ("Crore", .close 10000000)]

def indianRole (word : String) : Option Role := indianNumberWords.lookup word

/-- The amount in paise of "Rupees … Only" or "Rupees … and Paise … Only". -/
def readInrWords : List String → Option Nat
  | "Rupees" :: rest =>
      let amount := rest.dropLast
      let rupees := read indianRole (amount.takeWhile (· ≠ "and"))
      if rest.getLast? ≠ some "Only" then none
      else
        match amount.dropWhile (· ≠ "and") with
        | [] => rupees.map fun r => r * 100
        | "and" :: "Paise" :: paise =>
            rupees.bind fun r => (read indianRole paise).map fun p => r * 100 + p
        | _ => none
  | _ => none

/-- The words of the amount, or none if it is not printed. -/
def inrWords (amount : ℚ) : List String :=
  match formatInrAmountInWords amount with
  | .ok text => Js.words text
  | .error _ => []

/-! ### Groups -/

/-- One word, which adds the number to its group. -/
def IsWordFor (word : String) (n : Nat) : Prop :=
  Js.words word = [word] ∧ indianRole word = some (.add n)

instance (word : String) (n : Nat) : Decidable (IsWordFor word n) :=
  inferInstanceAs (Decidable (_ ∧ _))

/-- The word for a number adds it. -/
theorem IsWordFor.adds {word : String} {n : Nat} (h : IsWordFor word n) :
    Adds indianRole (Js.words word) n := by
  rw [h.1]
  exact .single h.2

/-- Every entry of the ones is the word for its number. -/
theorem ones_isWordFor : ∀ n < 20, n ≠ 0 → IsWordFor (ONES[n]?.getD "") n := by decide

/-- Every entry of the tens is the word for its multiple of ten. -/
theorem tens_isWordFor : ∀ n < 10, 2 ≤ n → IsWordFor (TENS[n]?.getD "") (n * 10) := by
  decide

/-- Below twenty, the table has an entry to show. -/
theorem shown_ones {n : Nat} (h : n < 20) : shown ONES[n]? = ONES[n]?.getD "" := by
  have hLength : n < ONES.length := h
  rw [shown, List.getElem?_eq_getElem hLength]
  rfl

/-- From twenty on, the table has none, and "undefined" is shown. -/
theorem shown_ones_missing {n : Nat} (h : 20 ≤ n) : shown ONES[n]? = "undefined" := by
  have hLength : ONES.length ≤ n := h
  rw [shown, List.getElem?_eq_none hLength]
  rfl

/-- Two digits are written in words that add their number. -/
theorem twoDigits_adds {n : Nat} (hPos : n ≠ 0) (h : n < 100) :
    Adds indianRole (Js.words (twoDigits n)) n := by
  simp only [twoDigits]
  split_ifs with hSmall hRound
  · exact (ones_isWordFor n hSmall hPos).adds
  · have hTens := (tens_isWordFor (n / 10) (by omega) (by omega)).adds
    rwa [show n / 10 * 10 = n by omega] at hTens
  · have hTens := (tens_isWordFor (n / 10) (by omega) (by omega)).adds
    have hOnes := (ones_isWordFor (n % 10) (by omega) hRound).adds
    have hBoth := hTens.append hOnes
    rw [show n / 10 * 10 + n % 10 = n by omega] at hBoth
    rwa [Js.words_trim, Js.words_append_space]

/-- A group reads back while its hundreds have a word. -/
theorem threeDigits_spells {n : Nat} (hPos : n ≠ 0) (h : n < 2000) :
    Spells indianRole (Js.words (threeDigits n)) n := by
  have hHundred : Js.words "Hundred" = ["Hundred"] := by decide
  have hRole : indianRole "Hundred" = some (.scale 100) := by decide
  unfold threeDigits
  by_cases hSmall : n < 100
  · rw [if_neg hPos, if_pos hSmall]
    exact (twoDigits_adds hPos hSmall).spells
  have hWord := (ones_isWordFor (n / 100) (by omega) (by omega)).adds.spells
  rw [if_neg hPos, if_neg hSmall]
  dsimp only
  rw [shown_ones (by omega)]
  split_ifs with hRest
  · have hRound := hWord.scale hRole .nil
    rw [show n / 100 * 100 + 0 = n by omega] at hRound
    rwa [Js.words_append_space, hHundred]
  · have hFull := hWord.scale hRole (twoDigits_adds hRest (by omega))
    rw [show n / 100 * 100 + n % 100 = n by omega] at hFull
    rw [Js.words_append_space, Js.words_append_space, hHundred, List.append_assoc]
    exact hFull

/-- From two thousand on, the hundreds have none. -/
theorem undefined_mem_threeDigits {n : Nat} (h : 2000 ≤ n) :
    "undefined" ∈ Js.words (threeDigits n) := by
  have hUndefined : Js.words "undefined" = ["undefined"] := by decide
  unfold threeDigits
  rw [if_neg (by omega), if_neg (by omega)]
  dsimp only
  rw [shown_ones_missing (by omega)]
  split_ifs with hRest
  · rw [Js.words_append_space, hUndefined]
    exact List.mem_append_left _ List.mem_cons_self
  · rw [Js.words_append_space, Js.words_append_space, hUndefined, List.append_assoc]
    exact List.mem_append_left _ List.mem_cons_self

/-- A group counts its digits times its place. -/
theorem groupWords_totals {count place : Nat} {name : String} (h : count < 2000)
    (hName : Js.words name = [name]) (hRole : indianRole name = some (.close place)) :
    Totals indianRole ((groupWords count name).flatMap Js.words) (count * place) := by
  unfold groupWords
  split_ifs with hPos
  · rw [List.flatMap_singleton, Js.words_append_space, hName]
    exact (threeDigits_spells (by omega) h).close hRole
  · rw [show count = 0 by omega, Nat.zero_mul]
    exact .nil

/-! ### Integers -/

/-- A whole number below two thousand crore reads back. -/
theorem read_integerToIndianWords {n : Nat} (h : n < 20000000000) :
    ∃ text, integerToIndianWords n = .ok text ∧ read indianRole (Js.words text) = some n := by
  have hZero : read indianRole (Js.words "Zero") = some 0 := by decide
  have hCrore := @groupWords_totals (n / 10000000) 10000000 "Crore" (by omega) (by decide)
    (by decide)
  have hLakh := @groupWords_totals (n % 10000000 / 100000) 100000 "Lakh" (by omega)
    (by decide) (by decide)
  have hThousand := @groupWords_totals (n % 100000 / 1000) 1000 "Thousand" (by omega)
    (by decide) (by decide)
  have hHundred : Spells indianRole
      ((if 0 < n % 1000 then [threeDigits (n % 1000)] else []).flatMap Js.words) (n % 1000) := by
    split_ifs with hPos
    · rw [List.flatMap_singleton]
      exact threeDigits_spells (by omega) (by omega)
    · rw [show n % 1000 = 0 by omega]
      exact Adds.nil.spells
  have hNonneg : ¬ (n : ℚ) < 0 := not_lt.mpr n.cast_nonneg
  have hValue : ⌊(n : ℚ)⌋.toNat = n := by rw [Int.floor_natCast, Int.toNat_natCast]
  simp only [integerToIndianWords, if_neg hNonneg, hValue]
  by_cases hNone : n = 0
  · rw [if_pos hNone]
    exact ⟨_, rfl, hNone ▸ hZero⟩
  · rw [if_neg hNone]
    refine ⟨_, rfl, ?_⟩
    rw [Js.words_join, List.flatMap_append, List.flatMap_append, List.flatMap_append,
      ((hCrore.append hLakh).append hThousand).read hHundred]
    congr 1
    omega

example : integerToIndianWords 12345678 =
    .ok "One Crore Twenty Three Lakh Forty Five Thousand Six Hundred Seventy Eight" := by
  decide

/-- From two thousand crore on, a word is missing. -/
theorem undefined_mem_integerToIndianWords {n : Nat} (h : 20000000000 ≤ n) :
    ∃ text, integerToIndianWords n = .ok text ∧ "undefined" ∈ Js.words text := by
  have hNonneg : ¬ (n : ℚ) < 0 := not_lt.mpr n.cast_nonneg
  have hValue : ⌊(n : ℚ)⌋.toNat = n := by rw [Int.floor_natCast, Int.toNat_natCast]
  have hCrore : "undefined" ∈ (groupWords (n / 10000000) "Crore").flatMap Js.words := by
    rw [groupWords, if_pos (by omega), List.flatMap_singleton, Js.words_append_space]
    exact List.mem_append_left _ (undefined_mem_threeDigits (by omega))
  simp only [integerToIndianWords, if_neg hNonneg, hValue]
  rw [if_neg (by omega)]
  refine ⟨_, rfl, ?_⟩
  rw [Js.words_join, List.flatMap_append, List.flatMap_append, List.flatMap_append]
  exact List.mem_append_left _ (List.mem_append_left _ (List.mem_append_left _ hCrore))

/-! ### Amounts -/

section Amount
variable {rupees paise : Nat} {words : List String}

/-- A word without a role is in no number. -/
theorem not_mem_of_read {word : String} {n : Nat} (hWord : indianRole word = none)
    (h : read indianRole words = some n) : word ∉ words := by
  intro hMem
  rw [NumberWords.read, readFrom_eq_none hWord hMem] at h
  cases h

theorem and_not_mem {n : Nat} (h : read indianRole words = some n) : "and" ∉ words :=
  not_mem_of_read (by decide) h

theorem undefined_not_mem {n : Nat} (h : read indianRole words = some n) : "undefined" ∉ words :=
  not_mem_of_read (by decide) h

theorem isAnd_of_not_mem (h : "and" ∉ words) : ∀ word ∈ words, decide (word ≠ "and") = true :=
  fun _ hWord => decide_eq_true fun hAnd => h (hAnd ▸ hWord)

/-- Whole rupees in words read back as their paise. -/
theorem readInrWords_rupees (h : read indianRole words = some rupees) :
    readInrWords ("Rupees" :: (words ++ ["Only"])) = some (rupees * 100) := by
  have hWords := isAnd_of_not_mem (and_not_mem h)
  simp only [readInrWords, List.dropLast_concat, List.getLast?_concat]
  rw [List.takeWhile_eq_self_iff.mpr hWords, List.dropWhile_eq_nil_iff.mpr hWords, h]
  simp

/-- Rupees and paise in words read back as paise. -/
theorem readInrWords_paise {more : List String} (h : read indianRole words = some rupees)
    (hMore : read indianRole more = some paise) :
    readInrWords ("Rupees" :: (words ++ "and" :: "Paise" :: (more ++ ["Only"]))) =
      some (rupees * 100 + paise) := by
  have hWords := isAnd_of_not_mem (and_not_mem h)
  have hLast : words ++ "and" :: "Paise" :: (more ++ ["Only"]) =
      (words ++ "and" :: "Paise" :: more) ++ ["Only"] := by simp
  rw [hLast]
  simp only [readInrWords, List.dropLast_concat, List.getLast?_concat]
  rw [List.takeWhile_append_of_pos hWords, List.dropWhile_append_of_pos hWords]
  simp [h, hMore]

/-- An amount is its rupees and the hundredths of its paise. -/
theorem toMoney_natCast (m : Nat) :
    toMoney m = (m / 100 : Nat) + ((m % 100 : Nat) : ℚ) / 100 := by
  have hSplit : ((m / 100 : Nat) : ℚ) * 100 + ((m % 100 : Nat) : ℚ) = m := by
    exact_mod_cast (by omega : m / 100 * 100 + m % 100 = m)
  have hColumn : toMoney m = (m : ℚ) / 100 := by simp [toMoney, FixedPoint.toNumber]
  rw [hColumn, ← hSplit]
  ring

/-- The whole rupees of a column are found in spite of the margin. -/
theorem floor_toMoney (m : Nat) : ⌊toMoney m + 1 / 1000000000⌋ = ((m / 100 : Nat) : ℤ) := by
  have hPaise : ((m % 100 : Nat) : ℚ) ≤ 99 := by exact_mod_cast (by omega : m % 100 ≤ 99)
  have hNonneg : (0 : ℚ) ≤ ((m % 100 : Nat) : ℚ) := Nat.cast_nonneg _
  rw [toMoney_natCast, add_assoc, Int.floor_natCast_add, add_eq_left, Int.floor_eq_zero_iff]
  constructor
  · positivity
  · linarith

/-- The paise of an amount are what is left of it after its rupees. -/
theorem paise_toMoney (m : Nat) :
    FixedPoint.roundHalfUp ((toMoney m - (m / 100 : Nat)) * 100) = ((m % 100 : Nat) : ℤ) := by
  rw [toMoney_natCast, add_sub_cancel_left, div_mul_cancel₀ _ (by norm_num)]
  exact FixedPoint.roundHalfUp_intCast (m % 100 : Nat)

/-- The sentence for an amount whose two integers are printed. -/
theorem formatInrAmountInWords_eq (m : Nat) {rupeeWords paiseWords : String}
    (hRupees : integerToIndianWords (m / 100 : Nat) = .ok rupeeWords)
    (hPaise : integerToIndianWords (m % 100 : Nat) = .ok paiseWords) :
    formatInrAmountInWords (toMoney m) = .ok (if m % 100 = 0 then
        "Rupees" ++ " " ++ rupeeWords ++ " " ++ "Only"
      else "Rupees" ++ " " ++ rupeeWords ++ " " ++ "and Paise" ++ " " ++ paiseWords ++ " " ++
        "Only") := by
  have hZero : integerToIndianWords (0 : Nat) = .ok "Zero" := by decide
  have hNonneg : ¬ toMoney m < 0 :=
    not_lt.mpr (toMoney_zero ▸ (toMoney_le_iff 0 m).mpr (Int.natCast_nonneg m))
  simp only [formatInrAmountInWords, if_neg hNonneg, roundMoney_toMoney, floor_toMoney,
    paise_toMoney, Int.natCast_eq_zero, Int.cast_natCast, hRupees, hPaise]
  by_cases hWhole : m / 100 = 0
  · have hWords : rupeeWords = "Zero" := by
      rw [hWhole, hZero] at hRupees
      exact (Except.ok.inj hRupees).symm
    subst hWords
    by_cases hEven : m % 100 = 0
    · rw [if_pos ⟨hWhole, hEven⟩, if_pos hEven]
      decide
    · have hStart : "Rupees" ++ " " ++ "Zero" ++ " " ++ "and Paise" = "Rupees Zero and Paise" := by
        decide
      rw [if_neg fun h => hEven h.2, if_neg hEven, hStart]
      simp only [bind, Except.bind, if_neg hEven, if_pos hWhole, pure, Except.pure]
  · rw [if_neg fun h => hWhole h.1]
    by_cases hEven : m % 100 = 0
    · simp only [bind, Except.bind, if_pos hEven, pure, Except.pure]
    · simp only [bind, Except.bind, if_neg hEven, if_neg hWhole, pure, Except.pure]

/-- The words of the sentence. -/
theorem inrWords_toMoney (m : Nat) {rupeeWords paiseWords : String}
    (hRupees : integerToIndianWords (m / 100 : Nat) = .ok rupeeWords)
    (hPaise : integerToIndianWords (m % 100 : Nat) = .ok paiseWords) :
    inrWords (toMoney m) = "Rupees" :: (Js.words rupeeWords ++ if m % 100 = 0 then ["Only"]
      else "and" :: "Paise" :: (Js.words paiseWords ++ ["Only"])) := by
  have hFirst : Js.words "Rupees" = ["Rupees"] := by decide
  have hLink : Js.words "and Paise" = ["and", "Paise"] := by decide
  have hOnly : Js.words "Only" = ["Only"] := by decide
  rw [inrWords, formatInrAmountInWords_eq m hRupees hPaise]
  split_ifs with hEven
  · simp only [Js.words_append_space, hFirst, hOnly]
    rfl
  · simp only [Js.words_append_space, hFirst, hLink, hOnly, List.append_assoc]
    rfl

/-- An amount below two thousand crore reads back. -/
theorem readInrWords_inrWords {m : Nat} (h : m < 2000000000000) :
    readInrWords (inrWords (toMoney m)) = some m ∧ "undefined" ∉ inrWords (toMoney m) := by
  obtain ⟨rupeeWords, hRupees, hReadRupees⟩ :=
    @read_integerToIndianWords (m / 100) (by omega)
  obtain ⟨paiseWords, hPaise, hReadPaise⟩ := @read_integerToIndianWords (m % 100) (by omega)
  have hRupeesKnown := undefined_not_mem hReadRupees
  have hPaiseKnown := undefined_not_mem hReadPaise
  rw [inrWords_toMoney m hRupees hPaise]
  split_ifs with hEven
  · refine ⟨(readInrWords_rupees hReadRupees).trans ?_, ?_⟩
    · congr 1
      omega
    · simp [hRupeesKnown]
  · refine ⟨(readInrWords_paise hReadRupees hReadPaise).trans ?_, ?_⟩
    · congr 1
      omega
    · simp [hRupeesKnown, hPaiseKnown]

example : readInrWords (inrWords (501 / 2)) = some 25050 := by decide +kernel

/-- From two lakh crore paise on, the words contain "undefined". -/
theorem undefined_mem_inrWords {m : Nat} (h : 2000000000000 ≤ m) :
    "undefined" ∈ inrWords (toMoney m) := by
  obtain ⟨rupeeWords, hRupees, hUndefined⟩ :=
    @undefined_mem_integerToIndianWords (m / 100) (by omega)
  obtain ⟨paiseWords, hPaise, -⟩ := @read_integerToIndianWords (m % 100) (by omega)
  rw [inrWords_toMoney m hRupees hPaise]
  exact List.mem_cons_of_mem _ (List.mem_append_left _ hUndefined)

end Amount

/-! ### Faithful words -/

/-- What the column of a payment's amount can hold. -/
def InAmountColumn (m : Money) : Prop := 0 ≤ m ∧ m < 100000000000000

/-- The words say the amount, of no other amount, and every one of them is a word. -/
structure SaidInWords (m : Money) : Prop where
  printed : ∃ text, formatInrAmountInWords (toMoney m) = .ok text
  read : (readInrWords (inrWords (toMoney m))).map Nat.cast = some m
  known : "undefined" ∉ inrWords (toMoney m)
  only : ∀ m', InAmountColumn m' →
    formatInrAmountInWords (toMoney m') = formatInrAmountInWords (toMoney m) → m' = m

theorem inrWords_congr {x y : ℚ} (h : formatInrAmountInWords x = formatInrAmountInWords y) :
    inrWords x = inrWords y := by
  rw [inrWords, inrWords, h]

/-- An amount with the words of one that reads back is that one. -/
theorem eq_of_formatInr_eq {m : Nat} {m' : Money} (h : m < 2000000000000)
    (hColumn : InAmountColumn m')
    (hSame : formatInrAmountInWords (toMoney m') = formatInrAmountInWords (toMoney m)) :
    m' = m := by
  obtain ⟨k, rfl⟩ := Int.eq_ofNat_of_zero_le hColumn.1
  have hWords := inrWords_congr hSame
  obtain ⟨hRead, hKnown⟩ := readInrWords_inrWords h
  rcases Nat.lt_or_ge k 2000000000000 with hLow | hHigh
  · have hRead' := (readInrWords_inrWords hLow).1
    rw [hWords, hRead] at hRead'
    rw [Option.some.inj hRead']
  · have hUndefined := undefined_mem_inrWords hHigh
    rw [hWords] at hUndefined
    exact absurd hUndefined hKnown

/-- Amounts in words are faithful below two thousand crore rupees, where the hundreds of
crores still have a word. -/
theorem saidInWords_iff {m : Money} (hColumn : InAmountColumn m) :
    SaidInWords m ↔ m < 2000000000000 := by
  obtain ⟨k, rfl⟩ := Int.eq_ofNat_of_zero_le hColumn.1
  constructor
  · intro hSaid
    rcases Nat.lt_or_ge k 2000000000000 with hLow | hHigh
    · exact Int.ofNat_lt.mpr hLow
    · exact absurd (undefined_mem_inrWords hHigh) hSaid.known
  · intro hLow
    have hSmall : k < 2000000000000 := Int.ofNat_lt.mp hLow
    obtain ⟨hRead, hKnown⟩ := readInrWords_inrWords hSmall
    obtain ⟨rupeeWords, hRupees, -⟩ := @read_integerToIndianWords (k / 100) (by omega)
    obtain ⟨paiseWords, hPaise, -⟩ := @read_integerToIndianWords (k % 100) (by omega)
    exact ⟨⟨_, formatInrAmountInWords_eq k hRupees hPaise⟩, by rw [hRead]; rfl, hKnown,
      fun m' hColumn' hSame => eq_of_formatInr_eq hSmall hColumn' hSame⟩

/-- One crore, twenty three lakh and some, and fifty paise. -/
theorem saidInWords_iff_crore : SaidInWords 1234567850 :=
  (saidInWords_iff ⟨by decide, by decide⟩).mpr (by decide)

/-- Two thousand and three thousand crore print the same words. -/
theorem thousands_of_crores_alike : ¬ ∀ m, InAmountColumn m → SaidInWords m := by
  intro h
  have hSame : formatInrAmountInWords (toMoney 3000000000000) =
      formatInrAmountInWords (toMoney 2000000000000) := by decide +kernel
  have hEqual : (3000000000000 : Money) = 2000000000000 :=
    (h 2000000000000 ⟨by decide, by decide⟩).only _ ⟨by decide, by decide⟩ hSame
  exact absurd hEqual (by decide)

end PropertyTax
