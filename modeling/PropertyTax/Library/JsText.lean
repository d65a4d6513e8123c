import Mathlib.Data.List.DropRight
import Mathlib.Data.List.Infix
import PropertyTax.Library.FixedPoint

/-! The string and number built-ins of the source language, on exact decimals.
Strings are handled through their lists of characters, so every function here
can be evaluated by the kernel. A double is idealised as the rational it
denotes; `none` stands for a value that is not a finite number. -/
namespace Js

/-- White space and line terminators, as removed by `trim`. -/
def isSpace (c : Char) : Bool :=
  let n := c.toNat
  (9 ≤ n && n ≤ 13) || n == 0x20 || n == 0xA0 || n == 0x1680 || (0x2000 ≤ n && n ≤ 0x200A) ||
    n == 0x2028 || n == 0x2029 || n == 0x202F || n == 0x205F || n == 0x3000 || n == 0xFEFF

def trimChars (text : List Char) : List Char :=
  ((text.dropWhile isSpace).reverse.dropWhile isSpace).reverse

def trim (text : String) : String := String.ofList (trimChars text.toList)

/-- Trimming twice trims no more than once. -/
theorem trimChars_trimChars (text : List Char) : trimChars (trimChars text) = trimChars text := by
  have hHead : (trimChars text).dropWhile isSpace = trimChars text := by
    obtain ⟨rest, hRest⟩ := List.rdropWhile_prefix isSpace (text.dropWhile isSpace)
    have hFirst := List.head?_dropWhile_not isSpace text
    rw [← hRest] at hFirst
    change (List.rdropWhile isSpace (text.dropWhile isSpace)).dropWhile isSpace =
      List.rdropWhile isSpace (text.dropWhile isSpace)
    cases hTrimmed : List.rdropWhile isSpace (text.dropWhile isSpace) with
    | nil => rfl
    | cons c chars =>
        rw [hTrimmed] at hFirst
        exact List.dropWhile_cons_of_neg (by simpa using hFirst)
  change (List.rdropWhile isSpace ((trimChars text).dropWhile isSpace)) = trimChars text
  rw [hHead]
  exact List.rdropWhile_idempotent _ _

/-- Trimming a text twice trims no more than once. -/
theorem trim_trim (text : String) : trim (trim text) = trim text := by
  simp only [trim, String.toList_ofList, trimChars_trimChars]

theorem trimChars_eq_self {text : List Char} (hHead : text.head?.any isSpace = false)
    (hLast : text.getLast?.any isSpace = false) : trimChars text = text := by
  have hFront : text.dropWhile isSpace = text := by
    cases text with
    | nil => rfl
    | cons c rest => exact List.dropWhile_cons_of_neg (by simpa using hHead)
  have hBack : text.reverse.dropWhile isSpace = text.reverse := by
    rw [← List.head?_reverse] at hLast
    cases hText : text.reverse with
    | nil => rfl
    | cons c rest =>
        rw [hText] at hLast
        exact List.dropWhile_cons_of_neg (by simpa using hLast)
  rw [trimChars, hFront, hBack, List.reverse_reverse]

/-- Only white space at an end is trimmed. -/
theorem trim_eq_self {text : String} (hHead : text.toList.head?.any isSpace = false)
    (hLast : text.toList.getLast?.any isSpace = false) : trim text = text := by
  rw [trim, trimChars_eq_self hHead hLast, String.ofList_toList]

/-- The number of UTF-16 code units. -/
def length (text : String) : Nat :=
  (text.toList.map fun c => if c.toNat < 0x10000 then 1 else 2).sum

/-- A string is falsy exactly when it is empty. -/
def isBlank (text : String) : Bool := trim text == ""

/-- `toLowerCase` on the characters whose lower case is an ASCII letter. -/
def toLowerCase (text : String) : String :=
  String.ofList (text.toList.flatMap fun c =>
    if c.toNat = 0x212A then ['k']
    else if c.toNat = 0x130 then ['i', Char.ofNat 0x307]
    else [c.toLower])

/-- `toUpperCase` on the characters whose upper case holds an ASCII letter. -/
def toUpperCase (text : String) : String :=
  String.ofList (text.toList.flatMap fun c =>
    match c.toNat with
    | 0xDF => ['S', 'S']
    | 0x131 => ['I']
    | 0x17F => ['S']
    | 0xFB00 => ['F', 'F']
    | 0xFB01 => ['F', 'I']
    | 0xFB02 => ['F', 'L']
    | 0xFB03 => ['F', 'F', 'I']
    | 0xFB04 => ['F', 'F', 'L']
    | 0xFB05 => ['S', 'T']
    | 0xFB06 => ['S', 'T']
    | _ => [c.toUpper])

/-- What `toLowerCase` makes of one character. -/
def lowerChar (c : Char) : List Char :=
  if c.toNat = 0x212A then ['k']
  else if c.toNat = 0x130 then ['i', Char.ofNat 0x307]
  else [c.toLower]

/-- A text is lowered character by character. -/
theorem toList_toLowerCase (text : String) :
    (toLowerCase text).toList = text.toList.flatMap lowerChar := String.toList_ofList

theorem toLowerCase_append (first second : String) :
    toLowerCase (first ++ second) = toLowerCase first ++ toLowerCase second := by
  simp only [toLowerCase, String.toList_append, List.flatMap_append, String.ofList_append]

theorem toLowerCase_empty : toLowerCase "" = "" := by
  rw [← String.toList_inj, toList_toLowerCase]
  rfl

/-- Only the empty text is lowered to the empty text. -/
theorem toLowerCase_eq_empty {text : String} : toLowerCase text = "" ↔ text = "" := by
  refine ⟨fun h => ?_, fun h => h ▸ toLowerCase_empty⟩
  have hNonempty : ∀ c, lowerChar c ≠ [] := by
    intro c
    unfold lowerChar
    split_ifs <;> simp
  rw [← String.toList_inj, toList_toLowerCase] at h
  rw [← String.toList_inj]
  cases hText : text.toList with
  | nil => rfl
  | cons c rest =>
      rw [hText, List.flatMap_cons] at h
      exact absurd (List.append_eq_nil_iff.mp h).1 (hNonempty c)

/-- A lowered character is the character itself or a small letter. -/
theorem toLower_cases (c : Char) :
    c.toLower = c ∨ 97 ≤ c.toLower.toNat ∧ c.toLower.toNat ≤ 122 := by
  unfold Char.toLower
  split
  next hUpper =>
    right
    rw [ge_iff_le, UInt32.le_iff_toNat_le, UInt32.le_iff_toNat_le] at hUpper
    have hLow : 65 ≤ c.val.toNat := hUpper.1
    have hHigh : c.val.toNat ≤ 90 := hUpper.2
    change 97 ≤ (c.val + ('a'.val - 'A'.val)).toNat ∧ (c.val + ('a'.val - 'A'.val)).toNat ≤ 122
    rw [UInt32.toNat_add, show ('a'.val - 'A'.val).toNat = 32 from rfl]
    omega
  next => exact .inl rfl

/-- Lowering twice lowers no more than once. -/
theorem toLower_toLower (c : Char) : c.toLower.toLower = c.toLower := by
  rcases toLower_cases c with hSame | ⟨hLow, hHigh⟩
  · rw [hSame, hSame]
  · generalize c.toLower = d at *
    unfold Char.toLower
    rw [dif_neg]
    rintro ⟨-, hUpper⟩
    rw [UInt32.le_iff_toNat_le] at hUpper
    have hUpper' : d.val.toNat ≤ 90 := hUpper
    have hLow' : 97 ≤ d.val.toNat := hLow
    omega

/-- Lower case has no upper case left in it. -/
theorem lowerChar_of_mem_lowerChar {c d : Char} (h : d ∈ lowerChar c) : lowerChar d = [d] := by
  unfold lowerChar at h
  split_ifs at h with hKelvin hDotted
  · obtain rfl := List.mem_singleton.mp h
    decide
  · rcases List.mem_pair.mp h with rfl | rfl <;> decide
  · obtain rfl := List.mem_singleton.mp h
    have hPlain : c.toLower.toNat ≠ 0x212A ∧ c.toLower.toNat ≠ 0x130 := by
      rcases toLower_cases c with hSame | ⟨-, hHigh⟩
      · rw [hSame]
        exact ⟨hKelvin, hDotted⟩
      · omega
    rw [lowerChar, if_neg hPlain.1, if_neg hPlain.2, toLower_toLower]

theorem toLowerCase_eq_self {text : String} (h : ∀ c ∈ text.toList, lowerChar c = [c]) :
    toLowerCase text = text := by
  have hChars : text.toList.flatMap lowerChar = text.toList := by
    rw [List.flatMap_congr h]
    exact List.flatMap_singleton' _
  rw [← String.toList_inj, toList_toLowerCase, hChars]

/-- The characters of a lowered text stay under lowering. -/
theorem lowerChar_of_mem_toLowerCase {text : String} {c : Char}
    (h : c ∈ (toLowerCase text).toList) : lowerChar c = [c] := by
  rw [toList_toLowerCase] at h
  obtain ⟨d, -, hc⟩ := List.mem_flatMap.mp h
  exact lowerChar_of_mem_lowerChar hc

/-- Lowering a text twice lowers no more than once. -/
theorem toLowerCase_toLowerCase (text : String) :
    toLowerCase (toLowerCase text) = toLowerCase text :=
  toLowerCase_eq_self fun _ h => lowerChar_of_mem_toLowerCase h

/-- A trimmed text is a part of the text. -/
theorem trimChars_isInfix (text : List Char) : trimChars text <:+: text := by
  have hFront : text.dropWhile isSpace <:+: text := (List.dropWhile_suffix _).isInfix
  have hBack : trimChars text <:+: text.dropWhile isSpace := by
    rw [trimChars, ← List.reverse_infix, List.reverse_reverse]
    exact (List.dropWhile_suffix _).isInfix
  exact hBack.trans hFront

/-- Trimmed lower case is lower case. -/
theorem toLowerCase_trim_toLowerCase (text : String) :
    toLowerCase (trim (toLowerCase text)) = trim (toLowerCase text) := by
  refine toLowerCase_eq_self fun c hc => ?_
  rw [trim, String.toList_ofList] at hc
  exact lowerChar_of_mem_toLowerCase ((trimChars_isInfix _).subset hc)

/-- `text.includes(part)` -/
def includes (text part : String) : Bool :=
  text.toList.tails.any fun tail => part.toList.isPrefixOf tail

/-- A text includes another when its characters have the other's as a part. -/
theorem includes_iff {text part : String} :
    includes text part = true ↔ part.toList <:+: text.toList := by
  simp only [includes, List.any_eq_true, List.mem_tails, List.isPrefixOf_iff_prefix,
    List.infix_iff_prefix_suffix, and_comm]

/-- A part that has no upper case is found in the lower case of a text. -/
theorem includes_toLowerCase {text part : String} (hPart : toLowerCase part = part)
    (h : includes text part = true) : includes (toLowerCase text) part = true := by
  rw [includes_iff] at h ⊢
  obtain ⟨before, after, hText⟩ := h
  rw [← hPart]
  simp only [toLowerCase, String.toList_ofList, ← hText, List.flatMap_append]
  exact ⟨_, _, rfl⟩

theorem includes_toLowerCase_append {text part : String} (before : String)
    (h : includes (toLowerCase text) part = true) :
    includes (toLowerCase (before ++ text)) part = true := by
  rw [includes_iff] at h ⊢
  simp only [toLowerCase, String.toList_ofList, String.toList_append, List.flatMap_append] at h ⊢
  exact h.trans (List.suffix_append _ _).isInfix

/-- Trimming keeps every part that holds no white space. -/
theorem infix_dropWhile_isSpace {part text : List Char} (hPart : ∀ c ∈ part, isSpace c = false)
    (h : part <:+: text) : part <:+: text.dropWhile isSpace := by
  induction text with
  | nil => exact h
  | cons c rest ih =>
      by_cases hSpace : isSpace c = true
      · rw [List.dropWhile_cons_of_pos hSpace]
        apply ih
        obtain hPrefix | hRest := List.infix_cons_iff.mp h
        · cases part with
          | nil => exact List.nil_infix
          | cons d part =>
              obtain rfl : d = c := (List.cons_prefix_cons.mp hPrefix).1
              rw [hPart d List.mem_cons_self] at hSpace
              cases hSpace
        · exact hRest
      · rw [List.dropWhile_cons_of_neg hSpace]
        exact h

/-- A part without white space survives trimming. -/
theorem infix_trimChars {part text : List Char} (hPart : ∀ c ∈ part, isSpace c = false)
    (h : part <:+: text) : part <:+: trimChars text := by
  have hReversed : ∀ c ∈ part.reverse, isSpace c = false := by
    intro c hc
    exact hPart c (List.mem_reverse.mp hc)
  rw [trimChars, ← List.reverse_infix, List.reverse_reverse]
  apply infix_dropWhile_isSpace hReversed
  exact List.reverse_infix.mpr (infix_dropWhile_isSpace hPart h)

/-- A text still includes, trimmed, a part without white space. -/
theorem includes_trim {text part : String} (hPart : part.toList.any isSpace = false)
    (h : includes text part = true) : includes (trim text) part = true := by
  rw [includes_iff] at h ⊢
  rw [trim, String.toList_ofList]
  exact infix_trimChars (fun c hc => by simpa using List.any_eq_false.mp hPart c hc) h

/-- For a part without white space, trimming makes no difference. -/
theorem includes_trim_iff {text part : String} (hPart : part.toList.any isSpace = false) :
    includes (trim text) part = includes text part := by
  rw [Bool.eq_iff_iff]
  refine ⟨fun h => ?_, includes_trim hPart⟩
  rw [includes_iff] at h ⊢
  rw [trim, String.toList_ofList] at h
  exact h.trans (trimChars_isInfix _)

/-- A part that does not hold the separator lies on one side of it. -/
theorem infix_append_cons {part first second : List Char} {c : Char} (h : c ∉ part) :
    part <:+: first ++ c :: second ↔ part <:+: first ∨ part <:+: second := by
  constructor
  · intro hPart
    rcases List.infix_append_iff.mp hPart with hFirst | hSecond | ⟨front, back, rfl, hFront, hBack⟩
    · exact .inl hFirst
    · rcases List.infix_cons_iff.mp hSecond with hPrefix | hRest
      · cases part with
        | nil => exact .inr List.nil_infix
        | cons d part =>
            obtain rfl : d = c := (List.cons_prefix_cons.mp hPrefix).1
            exact absurd List.mem_cons_self h
      · exact .inr hRest
    · cases back with
      | nil =>
          rw [List.append_nil]
          exact .inl hFront.isInfix
      | cons d back =>
          obtain rfl : d = c := (List.cons_prefix_cons.mp hBack).1
          exact absurd (by simp) h
  · rintro (hFirst | hSecond)
    · exact hFirst.trans (List.prefix_append _ _).isInfix
    · exact hSecond.trans ((List.suffix_cons _ _).trans (List.suffix_append _ _)).isInfix

/-- A part without white space lies on one side of a space. -/
theorem includes_append_space {part : String} (first second : String)
    (hPart : part.toList.any isSpace = false) :
    includes (first ++ " " ++ second) part = (includes first part || includes second part) := by
  have hSpace : ' ' ∉ part.toList := by
    intro hMem
    have hNone := List.any_eq_false.mp hPart ' ' hMem
    exact hNone (by decide)
  have hText : (first ++ " " ++ second).toList = first.toList ++ ' ' :: second.toList := by
    simp [String.toList_append]
  rw [Bool.eq_iff_iff, Bool.or_eq_true, includes_iff, includes_iff, includes_iff, hText,
    infix_append_cons hSpace]

/-- Texts joined by a separator are told apart at its first place. -/
theorem append_separator_inj {first second rest rest' : List Char} {c : Char} (hFirst : c ∉ first)
    (hSecond : c ∉ second) :
    first ++ c :: rest = second ++ c :: rest' ↔ first = second ∧ rest = rest' := by
  induction first generalizing second with
  | nil =>
      cases second with
      | nil => simp
      | cons d second =>
          have hNe : c ≠ d := List.ne_of_not_mem_cons hSecond
          simp [hNe]
  | cons d first ih =>
      cases second with
      | nil =>
          have hNe : d ≠ c := (List.ne_of_not_mem_cons hFirst).symm
          simp [hNe]
      | cons e second =>
          rw [List.cons_append, List.cons_append, List.cons.injEq, List.cons.injEq,
            ih (List.not_mem_of_not_mem_cons hFirst) (List.not_mem_of_not_mem_cons hSecond),
            and_assoc]

/-- Decimal digits of a natural number, most significant first. -/
def digits (n : Nat) : List Char := Nat.toDigits 10 n

/-- Number of fraction digits of a decimal, searched up to `fuel`. -/
def fractionDigits (den : Nat) : Nat → Nat → Nat
  | 0, k => k
  | fuel + 1, k => if 10 ^ k % den = 0 then k else fractionDigits den fuel (k + 1)

/-- Strip the trailing zeros of an integer mantissa. -/
def stripZeros : Nat → Nat → Nat
  | 0, m => m
  | fuel + 1, m => if m ≠ 0 && m % 10 == 0 then stripZeros fuel (m / 10) else m

/-- `String(x)` of a positive decimal: plain notation between `1e-6` and `1e21`,
exponent notation outside. -/
def positiveToString (x : ℚ) : List Char :=
  let fraction := fractionDigits x.den (x.den.log2 + 1) 0
  let mantissa := x.num.natAbs * 10 ^ fraction / x.den
  let point : ℤ := (digits mantissa).length - fraction
  let significant := digits (stripZeros (digits mantissa).length mantissa)
  let count := significant.length
  if count ≤ point ∧ point ≤ 21 then
    significant ++ List.replicate (point.toNat - count) '0'
  else if 0 < point ∧ point ≤ 21 then
    significant.take point.toNat ++ '.' :: significant.drop point.toNat
  else if -6 < point ∧ point ≤ 0 then
    '0' :: '.' :: (List.replicate (-point).toNat '0' ++ significant)
  else
    let exponent := point - 1
    let sign := if exponent < 0 then '-' else '+'
    let head := significant.take 1 ++ if count = 1 then [] else '.' :: significant.drop 1
    head ++ 'e' :: sign :: digits exponent.natAbs

/-- `String(x)`. -/
def numberToString (x : ℚ) : String :=
  String.ofList (if x = 0 then ['0'] else if x < 0 then '-' :: positiveToString (-x)
    else positiveToString x)

/-- `x.toFixed(2)`: nearest hundredth, ties away from zero. -/
def toFixed2 (x : ℚ) : String :=
  if 10 ^ 21 ≤ |x| then numberToString x
  else
    let hundredths := (FixedPoint.roundHalfUp (|x| * 100)).toNat
    let sign := if x < 0 then ['-'] else []
    let cents := hundredths % 100
    String.ofList (sign ++ digits (hundredths / 100) ++
      ['.', Char.ofNat (48 + cents / 10), Char.ofNat (48 + cents % 10)])

def digitValue? (base : Nat) (c : Char) : Option Nat :=
  let value := if c.isDigit then c.toNat - 48
    else if 97 ≤ c.toLower.toNat && c.toLower.toNat ≤ 122 then c.toLower.toNat - 87
    else base
  if value < base then some value else none

/-- Value of a nonempty run of digits. -/
def digitsValue? (base : Nat) (text : List Char) : Option Nat :=
  if text.isEmpty then none
  else text.foldl (fun acc c => do pure ((← acc) * base + (← digitValue? base c))) (some 0)

/-- Split at the first character that meets a condition, which is dropped. -/
def splitAtFirst (p : Char → Bool) (text : List Char) : List Char × Option (List Char) :=
  match text.dropWhile fun c => !p c with
  | [] => (text, none)
  | _ :: rest => (text.takeWhile fun c => !p c, some rest)

def signed (text : List Char) : ℤ × List Char :=
  match text with
  | '-' :: rest => (-1, rest)
  | '+' :: rest => (1, rest)
  | _ => (1, text)

/-- `digits [. digits] [e [sign] digits]`, with a digit on one side of the point. -/
def decimalLiteral? (text : List Char) : Option ℚ := do
  let (significand, exponentText) := splitAtFirst (fun c => c == 'e' || c == 'E') text
  let (whole, fractionText) := splitAtFirst (· == '.') significand
  let fraction := fractionText.getD []
  let mantissa ← digitsValue? 10 (whole ++ fraction)
  let exponent : ℤ ← match exponentText with
    | none => some 0
    | some rest =>
        let (sign, magnitude) := signed rest
        (digitsValue? 10 magnitude).map fun n => sign * n
  pure (mantissa * (10 : ℚ) ^ (exponent - fraction.length))

/-- `Number(text)`, `none` for `NaN` and the infinities. -/
def number? (text : String) : Option ℚ :=
  match trimChars text.toList with
  | [] => some 0
  | '0' :: 'x' :: rest | '0' :: 'X' :: rest => (digitsValue? 16 rest).map fun n => n
  | '0' :: 'o' :: rest | '0' :: 'O' :: rest => (digitsValue? 8 rest).map fun n => n
  | '0' :: 'b' :: rest | '0' :: 'B' :: rest => (digitsValue? 2 rest).map fun n => n
  | body =>
      let (sign, rest) := signed body
      (decimalLiteral? rest).map fun x => sign * x

example : number? " 12.50 " = some (25 / 2) ∧ numberToString (25 / 2) = "12.5" ∧
    toFixed2 (25 / 2) = "12.50" := by decide +kernel

example : numberToString (1 / 10 ^ 7) = "1e-7" ∧ number? "1e-7" = some (1 / 10 ^ 7) ∧
    number? "5 rupees" = none := by decide +kernel

end Js
