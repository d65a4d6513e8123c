import PropertyTax.Library.Decimals
import PropertyTax.Surveys.Floors

/-! What the scanners find in a text that is joined from pieces: no match of
theirs runs from one piece into the next. -/
namespace PropertyTax.Surveys

/-- The text is empty or ends in no white space. -/
def EndsDark (text : Text) : Prop := ∀ c ∈ text.getLast?, Js.isSpace c = false

/-- The end of a text ends as the text does. -/
theorem EndsDark.suffix {text tail : Text} (h : EndsDark text) (hTail : tail <:+ text) :
    EndsDark tail := by
  intro c hc
  obtain ⟨front, rfl⟩ := hTail
  apply h
  rw [List.getLast?_append, hc]
  rfl

/-- Dropping from the front leaves how a text ends. -/
theorem EndsDark.dropWhile {text : Text} (h : EndsDark text) (p : Char → Bool) :
    EndsDark (text.dropWhile p) := h.suffix (List.dropWhile_suffix p)

/-- The white space at the start of a text ends in the text. -/
theorem EndsDark.dropWhile_append {text : Text} (h : EndsDark text) (hText : text ≠ [])
    (rest : Text) : text.dropWhile Js.isSpace ≠ [] ∧
      (text ++ rest).dropWhile Js.isSpace = text.dropWhile Js.isSpace ++ rest := by
  have hNe : text.dropWhile Js.isSpace ≠ [] := by
    intro hNil
    have hLast := h _ (List.getLast?_eq_some_getLast hText)
    rw [List.dropWhile_eq_nil_iff.mp hNil _ (List.getLast_mem hText)] at hLast
    cases hLast
  refine ⟨hNe, ?_⟩
  rw [List.dropWhile_append, if_neg (by simpa using hNe)]

section Scans
variable {label unit text rest : Text} {c : Char}

/-- A character that the label does not hold cannot complete it. -/
theorem startsWith_append (hc : c.toLower ∉ label.map Char.toLower) :
    startsWith label (text ++ c :: rest) = startsWith label text := by
  unfold startsWith
  by_cases hLength : label.length ≤ text.length
  · rw [List.take_append_of_le_length hLength]
  · have hTaken : c.toLower ∈ ((text ++ c :: rest).take label.length).map Char.toLower := by
      obtain ⟨k, hk⟩ : ∃ k, label.length - text.length = k + 1 :=
        ⟨label.length - text.length - 1, by omega⟩
      rw [List.take_append, hk, List.take_succ_cons]
      simp
    have hLeft : ¬ ((text ++ c :: rest).take label.length).map Char.toLower =
        label.map Char.toLower := fun h => hc (h ▸ hTaken)
    have hRight : ¬ (text.take label.length).map Char.toLower = label.map Char.toLower := by
      intro h
      have hSame := congrArg List.length h
      rw [List.length_map, List.length_map, List.length_take] at hSame
      omega
    rw [beq_eq_false_iff_ne.mpr hLeft, beq_eq_false_iff_ne.mpr hRight]

theorem startsWith_self (label rest : Text) : startsWith label (label ++ rest) = true := by
  simp [startsWith]

/-- The units of the text, and that they hold no dash and no space. -/
def IsUnit (unit : Text) : Prop :=
  unit ≠ [] ∧ ' ' ∉ unit.map Char.toLower ∧ '-' ∉ unit.map Char.toLower

theorem startsWith_nil (hUnit : unit ≠ []) : startsWith unit [] = false := by
  cases unit with
  | nil => exact absurd rfl hUnit
  | cons c unit => rfl

/-- A number is read to its end. -/
theorem quantity_split {number tail : Text} (hNumber : ∀ c ∈ number, Js.isPlain c = true)
    (hTail : tail.head?.any Js.isPlain = false) : quantity unit (number ++ tail) =
      if number ≠ [] ∧ startsWith unit (tail.dropWhile Js.isSpace) = true then some number
      else none := by
  have hStart : tail.takeWhile Js.isPlain = [] ∧ tail.dropWhile Js.isPlain = tail := by
    cases tail with
    | nil => exact ⟨rfl, rfl⟩
    | cons c tail =>
        have hc : ¬ Js.isPlain c = true := by simpa using hTail
        exact ⟨List.takeWhile_cons_of_neg hc, List.dropWhile_cons_of_neg hc⟩
  have hTake : (number ++ tail).takeWhile Js.isPlain = number := by
    rw [List.takeWhile_append_of_pos hNumber, hStart.1, List.append_nil]
  have hDrop : (number ++ tail).dropWhile Js.isPlain = tail := by
    rw [List.dropWhile_append_of_pos hNumber, hStart.2]
  have hQuantity : quantity unit (number ++ tail) =
      if !((number ++ tail).takeWhile Js.isPlain).isEmpty &&
          startsWith unit (((number ++ tail).dropWhile Js.isPlain).dropWhile Js.isSpace) then
        some ((number ++ tail).takeWhile Js.isPlain)
      else none := rfl
  rw [hQuantity, hTake, hDrop]
  simp

/-- Every text is a number, maybe of no digits, and what is left. -/
theorem exists_number (text : Text) : ∃ number tail : Text, text = number ++ tail ∧
    (∀ c ∈ number, Js.isPlain c = true) ∧ tail.head?.any Js.isPlain = false := by
  refine ⟨text.takeWhile Js.isPlain, text.dropWhile Js.isPlain,
    (List.takeWhile_append_dropWhile).symm, fun c hc => List.mem_takeWhile_imp hc, ?_⟩
  cases hTail : text.dropWhile Js.isPlain with
  | nil => rfl
  | cons c tail =>
      have hc := List.head?_dropWhile_not Js.isPlain text
      rw [hTail] at hc
      simpa using hc

/-- A quantity ends before a dash that stands apart. -/
theorem quantity_append (hUnit : IsUnit unit) (hText : EndsDark text) :
    quantity unit (text ++ ' ' :: '-' :: rest) = quantity unit text := by
  obtain ⟨hNe, hSpace, hDash⟩ := hUnit
  obtain ⟨number, tail, rfl, hNumber, hTail⟩ := exists_number text
  have hTail' : (tail ++ ' ' :: '-' :: rest).head?.any Js.isPlain = false := by
    cases tail with
    | nil => rfl
    | cons c tail => exact hTail
  rw [List.append_assoc, quantity_split hNumber hTail, quantity_split hNumber hTail']
  cases tail with
  | nil =>
      have hDashed : startsWith unit ('-' :: rest) = startsWith unit [] :=
        @startsWith_append unit [] rest '-' hDash
      have hSpaced : (' ' :: '-' :: rest).dropWhile Js.isSpace = '-' :: rest := rfl
      rw [List.nil_append, hSpaced, hDashed, List.dropWhile_nil]
  | cons c tail =>
      obtain ⟨-, hAppend⟩ := (hText.suffix (List.suffix_append number (c :: tail))).dropWhile_append
        (by simp) (' ' :: '-' :: rest)
      rw [hAppend, startsWith_append hSpace]

/-- `\s*-\s*([\d.]+)\s*SqFt` at the start of the text. -/
def floorAt (text : Text) : Option Text := (afterDash text).bind (quantity "SqFt".toList)

theorem floorAt_of_ne (hSpace : Js.isSpace c = false) (hDash : c ≠ '-') :
    floorAt (c :: rest) = none := by
  rw [floorAt, afterDash, List.dropWhile_cons_of_neg (by simp [hSpace])]
  split
  next h => exact absurd (List.cons.inj h).1 hDash
  · rfl

theorem isUnit_sqFt : IsUnit "SqFt".toList := ⟨by decide, by decide, by decide⟩

theorem isUnit_sqMt : IsUnit "SqMt".toList := ⟨by decide, by decide, by decide⟩

/-- White space in front makes no difference to a floor. -/
theorem floorAt_dropWhile (text : Text) : floorAt (text.dropWhile Js.isSpace) = floorAt text := by
  unfold floorAt afterDash
  rw [List.dropWhile_idempotent]

/-- A dash that follows does not belong to the floor before it. -/
theorem EndsDark.floorAt_dash (h : EndsDark text) : floorAt ('-' :: text ++ ' ' :: '-' :: rest) =
    floorAt ('-' :: text) := by
  have hQuantity : ∀ tail : Text, floorAt ('-' :: tail) =
      quantity "SqFt".toList (tail.dropWhile Js.isSpace) := fun tail => rfl
  rw [List.cons_append, hQuantity, hQuantity]
  cases text with
  | nil => rfl
  | cons c text =>
      obtain ⟨-, hAppend⟩ := h.dropWhile_append (by simp) (' ' :: '-' :: rest)
      rw [hAppend]
      exact quantity_append isUnit_sqFt (h.dropWhile Js.isSpace)

/-- So does what follows a dash. -/
theorem floorAt_append (hText : EndsDark text) (hNe : text ≠ []) :
    floorAt (text ++ ' ' :: '-' :: rest) = floorAt text := by
  obtain ⟨hDark, hAppend⟩ := hText.dropWhile_append hNe (' ' :: '-' :: rest)
  have hFirst := List.head?_dropWhile_not Js.isSpace text
  have hEnds := hText.dropWhile Js.isSpace
  rw [← floorAt_dropWhile, hAppend, ← floorAt_dropWhile text]
  cases hText : text.dropWhile Js.isSpace with
  | nil => exact absurd hText hDark
  | cons c more =>
      rw [hText] at hFirst hEnds
      by_cases hDash : c = '-'
      · subst hDash
        exact (hEnds.suffix (List.suffix_cons '-' more)).floorAt_dash
      · have hSpace : Js.isSpace c = false := by simpa using hFirst
        rw [List.cons_append, floorAt_of_ne hSpace hDash, floorAt_of_ne hSpace hDash]

/-! ### The head of a floor -/

/-- The first place that gives something is found. -/
theorem findSome?_range {α : Type} {f : Nat → Option α} {k n : Nat} {b : α} (hk : k < n)
    (hNone : ∀ i < k, f i = none) (hSome : f k = some b) : (List.range n).findSome? f = some b := by
  obtain ⟨m, rfl⟩ : ∃ m, n = k + 1 + m := ⟨n - k - 1, by omega⟩
  rw [List.findSome?_eq_some_iff]
  refine ⟨List.range k, k, (List.range m).map (k + 1 + ·), ?_, hSome, fun i hi => ?_⟩
  · rw [List.range_add, List.range_succ, List.append_assoc, List.singleton_append]
  · exact hNone i (List.mem_range.mp hi)

/-- The label ends at the first place that an area follows. -/
theorem labelMatch_some {number : Text} (hLabel : label ≠ [])
    (hLine : label.any isLineTerminator = false) (hRest : floorAt rest = some number)
    (hFirst : ∀ n, 0 < n → n < label.length → floorAt ((label ++ rest).drop n) = none) :
    labelMatch (label ++ rest) = some (label, number) := by
  have hPos : 0 < label.length := List.length_pos_of_ne_nil hLabel
  refine findSome?_range (k := label.length - 1) (by rw [List.length_append]; omega)
    (fun n hn => ?_) ?_
  · split_ifs
    · rfl
    · exact congrArg (Option.map _) (hFirst (n + 1) (by omega) (by omega))
  · rw [Nat.sub_add_cancel hPos, List.take_left, List.drop_left, hLine]
    exact congrArg (Option.map _) hRest

/-- Without a floor at any place of one line, no label is found. -/
theorem labelMatch_none {head : Text} (h : ∀ n, 0 < n → n ≤ head.length →
    (head.take n).any isLineTerminator = true ∨ floorAt (head.drop n) = none) :
    labelMatch head = none := by
  refine List.findSome?_eq_none_iff.mpr fun n hn => ?_
  rcases h (n + 1) (by omega) (List.mem_range.mp hn) with hLine | hNone
  · rw [if_pos hLine]
  · split_ifs
    · rfl
    · exact congrArg (Option.map _) hNone

/-- The label found is the shortest one on its line in front of a floor. -/
theorem labelMatch_spec {head number : Text} (h : labelMatch head = some (label, number)) :
    ∃ rest, head = label ++ rest ∧ label ≠ [] ∧ label.any isLineTerminator = false ∧
      floorAt rest = some number ∧
      ∀ n, 0 < n → n < label.length → floorAt ((label ++ rest).drop n) = none := by
  obtain ⟨before, n, after, hRange, hFound, hNone⟩ := List.findSome?_eq_some_iff.mp h
  have hIndex : n < head.length := by
    rw [← List.mem_range, hRange]
    simp
  rw [List.range_eq_range', List.range'_eq_append_iff] at hRange
  obtain ⟨k, -, rfl, hAfter⟩ := hRange
  obtain rfl : n = k := by
    have hHead := congrArg List.head? hAfter
    rw [List.head?_cons, List.head?_range'] at hHead
    split_ifs at hHead
    have hIndex := Option.some.inj hHead
    omega
  split_ifs at hFound with hLine
  obtain ⟨found, hNumber, hPair⟩ := Option.map_eq_some_iff.mp hFound
  obtain ⟨hLabel, rfl⟩ := Prod.mk.inj hPair
  have hLength : label.length = n + 1 := by
    rw [← hLabel, List.length_take]
    omega
  have hSplit : label ++ head.drop (n + 1) = head := by
    rw [← hLabel]
    exact List.take_append_drop (n + 1) head
  refine ⟨head.drop (n + 1), hSplit.symm, ?_, ?_, hNumber, fun m hm hLess => ?_⟩
  · exact List.ne_nil_of_length_pos (by omega)
  · rw [← hLabel]
    exact Bool.eq_false_iff.mpr hLine
  · rw [hSplit]
    have hEarlier := hNone (m - 1) (List.mem_range'_1.mpr (by omega))
    rw [Nat.sub_add_cancel hm, if_neg] at hEarlier
    · exact Option.map_eq_none_iff.mp hEarlier
    · intro hTaken
      apply hLine
      obtain ⟨c, hc, hBreak⟩ := List.any_eq_true.mp hTaken
      refine List.any_eq_true.mpr ⟨c, ?_, hBreak⟩
      exact (List.take_prefix_take_left (by omega)).subset hc

/-! ### The area in square metres -/

theorem sqmMatch_cons (c : Char) (rest : Text) :
    sqmMatch (c :: rest) = (quantity "SqMt".toList (c :: rest)).or (sqmMatch rest) := by
  rw [sqmMatch, List.tails_cons, List.findSome?_cons]
  cases quantity "SqMt".toList (c :: rest) <;> rfl

theorem sqmMatch_append (hText : EndsDark text) : sqmMatch (text ++ ' ' :: '-' :: rest) =
    (sqmMatch text).or (sqmMatch (' ' :: '-' :: rest)) := by
  induction text with
  | nil => rfl
  | cons c text ih =>
      have hTail := hText.suffix (List.suffix_cons c text)
      have hHere := @quantity_append _ (c :: text) rest isUnit_sqMt hText
      rw [List.cons_append] at hHere ⊢
      rw [sqmMatch_cons, sqmMatch_cons, ih hTail, hHere, Option.or_assoc]

theorem quantity_of_not_plain (h : Js.isPlain c = false) : quantity unit (c :: rest) = none := by
  have hSplit := @quantity_split unit [] (c :: rest) (by simp) (by simpa using h)
  simpa using hSplit

/-- No area in square metres starts where no plain character stands. -/
theorem sqmMatch_of_not_plain (h : Js.isPlain c = false) :
    sqmMatch (c :: rest) = sqmMatch rest := by
  rw [sqmMatch_cons, quantity_of_not_plain h, Option.none_or]

/-- A number with another unit is passed over. -/
theorem sqmMatch_skip {number : Text} (hNumber : ∀ c ∈ number, Js.isPlain c = true)
    (hRest : rest.head?.any Js.isPlain = false)
    (hUnit : startsWith "SqMt".toList (rest.dropWhile Js.isSpace) = false) :
    sqmMatch (number ++ rest) = sqmMatch rest := by
  induction number with
  | nil => rfl
  | cons c number ih =>
      have hHere := @quantity_split "SqMt".toList (c :: number) rest hNumber hRest
      rw [hUnit, if_neg (by simp)] at hHere
      rw [List.cons_append] at hHere ⊢
      rw [sqmMatch_cons, hHere, Option.none_or, ih (List.forall_mem_cons.mp hNumber).2]

/-- A numeral in front of the unit is the area in square metres. -/
theorem sqmMatch_here {number : Text} (hNumber : ∀ c ∈ number, Js.isPlain c = true)
    (hNe : number ≠ []) (hRest : rest.head?.any Js.isPlain = false)
    (hUnit : startsWith "SqMt".toList (rest.dropWhile Js.isSpace) = true) :
    sqmMatch (number ++ rest) = some number := by
  have hHere := @quantity_split "SqMt".toList number rest hNumber hRest
  rw [if_pos ⟨hNe, hUnit⟩] at hHere
  cases number with
  | nil => exact absurd rfl hNe
  | cons c number =>
      rw [List.cons_append] at hHere ⊢
      rw [sqmMatch_cons, hHere, Option.some_or]

/-! ### The parts after the head -/

/-- `label\s*-\s*(.+)$` at the start of the text. -/
def labelledAt (label text : Text) : Option Text :=
  if startsWith label text then
    (afterDash (text.drop label.length)).bind fun value =>
      if value.isEmpty || value.any isLineTerminator then none else some (Js.trimChars value)
  else none

theorem labelled_cons (label : Text) (c : Char) (rest : Text) :
    labelled label (c :: rest) = (labelledAt label (c :: rest)).or (labelled label rest) := by
  rw [labelled, List.tails_cons, List.findSome?_cons]
  have hHere : labelledAt label (c :: rest) = (if startsWith label (c :: rest) then
      (afterDash ((c :: rest).drop label.length)).bind fun value =>
        if value.isEmpty || value.any isLineTerminator then none else some (Js.trimChars value)
    else none) := rfl
  rw [← hHere]
  cases labelledAt label (c :: rest) <;> rfl

/-- Where the first letter differs there is no label. -/
theorem labelled_skip {d : Char} {front : Text} (h : ∀ c ∈ front, c.toLower ≠ d.toLower)
    (rest : Text) : labelled (d :: label) (front ++ rest) = labelled (d :: label) rest := by
  induction front with
  | nil => rfl
  | cons c front ih =>
      obtain ⟨hc, hFront⟩ := List.forall_mem_cons.mp h
      have hStart : startsWith (d :: label) (c :: (front ++ rest)) = false := by
        simp [startsWith, hc]
      rw [List.cons_append, labelled_cons, labelledAt, hStart, if_neg (by simp), Option.none_or,
        ih hFront]

/-- A text that has been trimmed and is not empty. -/
structure IsValue (value : Text) : Prop where
  nonempty : value ≠ []
  trimmed : Js.trimChars value = value

/-- A value does not start with white space. -/
theorem IsValue.dropWhile {value : Text} (h : IsValue value) :
    value.dropWhile Js.isSpace = value := by
  have hLength : (Js.trimChars value).length ≤ (value.dropWhile Js.isSpace).length := by
    rw [Js.trimChars, List.length_reverse]
    exact (List.dropWhile_suffix _).length_le.trans List.length_reverse.le
  rw [h.trimmed] at hLength
  exact (List.dropWhile_suffix _).eq_of_length_le hLength

/-- A value does not end in white space. -/
theorem IsValue.endsDark {value : Text} (h : IsValue value) : EndsDark value := by
  have hReverse : value.reverse.dropWhile Js.isSpace = value.reverse := by
    have hTrimmed := h.trimmed
    rw [Js.trimChars, h.dropWhile, List.reverse_eq_iff] at hTrimmed
    exact hTrimmed
  have hFirst := List.head?_dropWhile_not Js.isSpace value.reverse
  rw [hReverse, List.head?_reverse] at hFirst
  intro c hc
  rw [Option.mem_def.mp hc] at hFirst
  simpa using hFirst

/-- The value of a part is all that follows the dash, unless it has a line
break in it: then the search goes on inside. -/
theorem labelled_self {value keyword : Text} (hValue : IsValue value)
    (hKeyword : ∀ c ∈ keyword, c.toLower ≠ 'u') : labelled ('U' :: keyword)
      ('U' :: (keyword ++ " - ".toList ++ value)) =
        if value.any isLineTerminator then labelled ('U' :: keyword) value else some value := by
  have hSkip : labelled ('U' :: keyword) (keyword ++ " - ".toList ++ value) =
      labelled ('U' :: keyword) value := by
    refine labelled_skip (fun c hc => ?_) value
    rcases List.mem_append.mp hc with hc | hc
    · exact hKeyword c hc
    · exact Js.forall_mem_of_all (by decide : (" - ".toList.all fun c => c.toLower ≠ 'u') = true) c hc
  have hStart : startsWith ('U' :: keyword) ('U' :: (keyword ++ " - ".toList ++ value)) = true := by
    rw [List.append_assoc, ← List.cons_append]
    exact startsWith_self _ _
  have hDrop : ('U' :: (keyword ++ " - ".toList ++ value)).drop ('U' :: keyword).length =
      " - ".toList ++ value := by
    rw [List.append_assoc, ← List.cons_append, List.drop_left]
  have hDash : afterDash (" - ".toList ++ value) = some value := congrArg some hValue.dropWhile
  rw [labelled_cons, hSkip, labelledAt, if_pos hStart, hDrop, hDash, Option.bind_some,
    List.isEmpty_eq_false_iff.mpr hValue.nonempty, Bool.false_or, hValue.trimmed]
  split_ifs <;> rfl

/-! ### The parts of a floor -/

theorem splitBars_ne_nil (text : Text) : splitBars text ≠ [] := by
  fun_cases splitBars text <;> simp_all

theorem splitBars_cons (h : c = '|' → rest.head? ≠ some '|') :
    splitBars (c :: rest) = (splitBars rest).modifyHead (c :: ·) := by
  cases hRest : splitBars rest with
  | nil => exact absurd hRest (splitBars_ne_nil rest)
  | cons part parts =>
      rw [splitBars.eq_2]
      · rw [hRest]
        rfl
      · rintro tail rfl rfl
        exact h rfl rfl

/-- The text holds no separator of parts. -/
def NoBars (text : Text) : Prop := ¬ "||".toList <:+: text

theorem NoBars.tail (h : NoBars (c :: rest)) : NoBars rest :=
  fun hBars => h (hBars.trans (List.suffix_cons c rest).isInfix)

theorem NoBars.head (h : NoBars (c :: rest)) (hc : c = '|') : rest.head? ≠ some '|' := by
  intro hRest
  obtain ⟨tail, rfl⟩ : ∃ tail, rest = '|' :: tail := by
    cases rest with
    | nil => cases hRest
    | cons d tail => exact ⟨tail, by rw [Option.some.inj hRest]⟩
  subst hc
  exact h (List.prefix_append "||".toList tail).isInfix

/-- A text without bars is its only piece. -/
theorem NoBars.splitBars (h : NoBars text) : splitBars text = [text] := by
  induction text with
  | nil => rfl
  | cons c text ih =>
      rw [splitBars_cons h.head, ih h.tail]
      rfl

theorem splitBars_append (h : NoBars text) (hLast : text.getLast? ≠ some '|') :
    splitBars (text ++ '|' :: '|' :: rest) = text :: splitBars rest := by
  induction text with
  | nil => rfl
  | cons c text ih =>
      have hHead : c = '|' → (text ++ '|' :: '|' :: rest).head? ≠ some '|' := by
        intro hc
        cases text with
        | nil => exact absurd (congrArg some hc) hLast
        | cons d text => exact h.head hc
      rw [List.cons_append, splitBars_cons hHead, ih h.tail]
      · rfl
      · cases text with
        | nil => simp
        | cons d text => simpa using hLast

/-- A space at the end is trimmed away. -/
theorem trimChars_append_space (text : Text) :
    Js.trimChars (text ++ [' ']) = Js.trimChars text := by
  by_cases hBlank : text.dropWhile Js.isSpace = []
  · have hAll : (text ++ [' ']).dropWhile Js.isSpace = [] := by
      rw [List.dropWhile_append, hBlank]
      rfl
    rw [Js.trimChars, Js.trimChars, hAll, hBlank]
  · have hKept : (text ++ [' ']).dropWhile Js.isSpace = text.dropWhile Js.isSpace ++ [' '] := by
      rw [List.dropWhile_append, if_neg (by simpa using hBlank)]
    rw [Js.trimChars, Js.trimChars, hKept, List.reverse_append]
    rfl

/-- A space in front of a text is trimmed off its first piece. -/
theorem map_trim_splitBars_space (text : Text) :
    (splitBars (' ' :: text)).map Js.trimChars = (splitBars text).map Js.trimChars := by
  rw [splitBars_cons (fun h => absurd h (by decide))]
  cases hText : splitBars text with
  | nil => exact absurd hText (splitBars_ne_nil text)
  | cons part parts => rfl

/-- The parts are found again. -/
theorem splitBars_join {parts : List Text} (hParts : parts ≠ [])
    (hBars : ∀ part ∈ parts, NoBars part) :
    (splitBars (" || ".toList.intercalate parts)).map Js.trimChars =
      parts.map Js.trimChars := by
  induction parts with
  | nil => exact absurd rfl hParts
  | cons part parts ih =>
      obtain ⟨hPart, hBars⟩ := List.forall_mem_cons.mp hBars
      cases parts with
      | nil => simp [hPart.splitBars]
      | cons next parts =>
          have hPadded : NoBars (part ++ [' ']) := by
            intro hInfix
            rcases (Js.infix_append_cons (by decide)).mp hInfix with hInfix | hInfix
            · exact hPart hInfix
            · exact absurd (List.infix_nil.mp hInfix) (by decide)
          have hSplit : part ++ " || ".toList ++ " || ".toList.intercalate (next :: parts) =
              (part ++ [' ']) ++
                '|' :: '|' :: ' ' :: " || ".toList.intercalate (next :: parts) := by
            simp
          rw [List.intercalate_cons_cons, hSplit, splitBars_append hPadded (by simp),
            List.map_cons, List.map_cons, trimChars_append_space, map_trim_splitBars_space,
            ih (by simp) hBars]

end Scans
end PropertyTax.Surveys
