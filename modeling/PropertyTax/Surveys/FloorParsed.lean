import PropertyTax.Surveys.FloorTexts

/-! What the editor's parser makes of any text can be written again, and its
pieces are found in the text. -/
namespace PropertyTax.Surveys
open FloorsEditor

section Pieces
variable {text part : Text} {c : Char}

/-- A part of a text without bars has none. -/
theorem NoBars.infix {first second : Text} (h : NoBars second) (hInfix : first <:+: second) :
    NoBars first := fun hBars => h (hBars.trans hInfix)

/-- The first part begins the text, and every part lies in it. -/
theorem splitBars_spec (text : Text) :
    (∀ part ∈ (splitBars text).head?, part <+: text) ∧
      ∀ part ∈ splitBars text, part <:+: text ∧ NoBars part := by
  have hNil : NoBars [] := noBars_of_not_mem (by simp)
  induction text using splitBars.induct with
  | case1 rest ih =>
      rw [splitBars]
      refine ⟨fun part hPart => ?_, fun part hPart => ?_⟩
      · obtain rfl := Option.some.inj hPart
        exact List.nil_prefix
      · rcases List.mem_cons.mp hPart with rfl | hPart
        · exact ⟨List.nil_infix, hNil⟩
        · obtain ⟨hInfix, hBars⟩ := ih.2 part hPart
          exact ⟨hInfix.trans ⟨['|', '|'], [], by simp⟩, hBars⟩
  | case2 c rest hBar part parts hParts ih =>
      have hHead : c = '|' → rest.head? ≠ some '|' := by
        intro hc hRest
        cases rest with
        | nil => cases hRest
        | cons d rest => exact hBar rest hc (by rw [Option.some.inj hRest])
      have hPrefix : c :: part <+: c :: rest :=
        (List.cons_prefix_cons).mpr ⟨rfl, ih.1 part (by rw [hParts]; rfl)⟩
      have hBars : NoBars (c :: part) := by
        intro hInfix
        rcases List.infix_cons_iff.mp hInfix with hPref | hInside
        · obtain ⟨hc, hPart⟩ := List.cons_prefix_cons.mp hPref
          obtain ⟨rest', rfl⟩ := hPart.trans (List.cons_prefix_cons.mp hPrefix).2
          exact hHead hc.symm rfl
        · exact (ih.2 part (by rw [hParts]; simp)).2 hInside
      rw [splitBars_cons hHead, hParts]
      refine ⟨fun first hFirst => ?_, fun other hOther => ?_⟩
      · obtain rfl := Option.some.inj hFirst
        exact hPrefix
      · rcases List.mem_cons.mp hOther with rfl | hOther
        · exact ⟨hPrefix.isInfix, hBars⟩
        · obtain ⟨hInfix, hNone⟩ := ih.2 other (by rw [hParts]; exact List.mem_cons_of_mem _ hOther)
          exact ⟨hInfix.trans (List.suffix_cons c rest).isInfix, hNone⟩
  | case3 c rest _ hNone => exact absurd hNone (splitBars_ne_nil rest)
  | case4 => exact ⟨by simp [splitBars], by simp [splitBars, hNil]⟩

/-! ### What a scanner has found stays found -/

section Found
variable {label unit number rest : Text}

theorem startsWith_mono (h : startsWith label text = true) :
    startsWith label (text ++ rest) = true := by
  have hSame : (text.take label.length).map Char.toLower = label.map Char.toLower :=
    eq_of_beq h
  have hLength : label.length ≤ text.length := by
    have hCount := congrArg List.length hSame
    rw [List.length_map, List.length_map, List.length_take] at hCount
    omega
  unfold startsWith
  rw [List.take_append_of_le_length hLength]
  exact h

theorem dropWhile_append_of_ne {p : Char → Bool} (h : text.dropWhile p ≠ []) :
    (text ++ rest).dropWhile p = text.dropWhile p ++ rest := by
  rw [List.dropWhile_append, if_neg (by simpa using h)]

theorem quantity_mono (hUnit : unit ≠ []) (h : quantity unit text = some number) :
    quantity unit (text ++ rest) = some number := by
  obtain ⟨digits, tail, rfl, hDigits, hTail⟩ := exists_number text
  rw [quantity_split hDigits hTail] at h
  split_ifs at h with hFound
  have hDark : tail.dropWhile Js.isSpace ≠ [] := by
    intro hNil
    rw [hNil, startsWith_nil hUnit] at hFound
    cases hFound.2
  have hTail' : (tail ++ rest).head?.any Js.isPlain = false := by
    cases tail with
    | nil => exact absurd rfl hDark
    | cons c tail => exact hTail
  rw [List.append_assoc, quantity_split hDigits hTail', dropWhile_append_of_ne hDark,
    if_pos ⟨hFound.1, startsWith_mono hFound.2⟩]
  exact h

/-- The number of a quantity is a plain numeral. -/
theorem quantity_plain (h : quantity unit text = some number) :
    ∀ c ∈ number, Js.isPlain c = true := by
  obtain ⟨digits, tail, rfl, hDigits, hTail⟩ := exists_number text
  rw [quantity_split hDigits hTail] at h
  split_ifs at h
  obtain rfl := Option.some.inj h
  exact hDigits

/-- What comes after a dash is the text without its white space. -/
theorem afterDash_some {value : Text} (h : afterDash text = some value) :
    ∃ more, text.dropWhile Js.isSpace = '-' :: more ∧ more.dropWhile Js.isSpace = value := by
  unfold afterDash at h
  split at h
  next more hText => exact ⟨more, hText, Option.some.inj h⟩
  · cases h

theorem floorAt_mono (h : floorAt text = some number) : floorAt (text ++ rest) = some number := by
  obtain ⟨value, hValue, hNumber⟩ := Option.bind_eq_some_iff.mp h
  obtain ⟨more, hText, rfl⟩ := afterDash_some hValue
  have hDark : more.dropWhile Js.isSpace ≠ [] := by
    intro hNil
    rw [hNil] at hNumber
    cases hNumber
  have hDash : floorAt ('-' :: (more ++ rest)) =
      quantity "SqFt".toList ((more ++ rest).dropWhile Js.isSpace) := rfl
  rw [← floorAt_dropWhile, dropWhile_append_of_ne (by rw [hText]; simp), hText, List.cons_append,
    hDash, dropWhile_append_of_ne hDark]
  exact quantity_mono (by decide) hNumber

/-- A floor's area is a plain numeral. -/
theorem floorAt_plain (h : floorAt text = some number) : ∀ c ∈ number, Js.isPlain c = true := by
  obtain ⟨value, -, hNumber⟩ := Option.bind_eq_some_iff.mp h
  exact quantity_plain hNumber

/-- So is the area in square metres. -/
theorem sqmMatch_plain (h : sqmMatch text = some number) : ∀ c ∈ number, Js.isPlain c = true := by
  obtain ⟨tail, -, hNumber⟩ := List.exists_of_findSome?_eq_some h
  exact quantity_plain hNumber

/-- Numbers have no sign. -/
theorem parseNumeral_nonneg {x : ℚ} (hPlain : ∀ c ∈ number, Js.isPlain c = true)
    (h : parseNumeral number = some x) : 0 ≤ x := by
  refine Js.number?_nonneg ?_ h
  rw [String.toList_ofList]
  exact fun hMem => absurd (hPlain '-' hMem) (by decide)

end Found

/-! ### The label -/

/-- A text that begins and ends in no white space. -/
theorem isValue_of {value : Text} (hNe : value ≠ []) (hHead : value.head?.any Js.isSpace = false)
    (hEnds : EndsDark value) : IsValue value := by
  refine ⟨hNe, Js.trimChars_eq_self hHead ?_⟩
  rw [List.getLast?_eq_some_getLast hNe]
  exact hEnds _ (List.getLast?_eq_some_getLast hNe)

/-- The label that is found is trimmed, lies in one line and ends at the first
area. -/
theorem labelMatch_isValue {head label number : Text} (hHead : head.head?.any Js.isSpace = false)
    (h : labelMatch head = some (label, number)) :
    IsValue label ∧ label <+: head ∧ label.any isLineTerminator = false ∧ CleanLabel label ∧
      ∀ c ∈ number, Js.isPlain c = true := by
  obtain ⟨rest, rfl, hLabel, hLine, hRest, hFirst⟩ := labelMatch_spec h
  have hStart : label.head?.any Js.isSpace = false := by
    rwa [List.head?_append_of_ne_nil _ hLabel] at hHead
  have hEnds : EndsDark label := by
    intro c hc
    obtain ⟨front, rfl⟩ := List.getLast?_eq_some_iff.mp hc
    by_contra hSpace
    rw [Bool.not_eq_false] at hSpace
    cases front with
    | nil => simp [hSpace] at hStart
    | cons d front =>
        have hBefore := hFirst (d :: front).length (by simp) (by simp)
        have hDrop : ((d :: front) ++ [c] ++ rest).drop (d :: front).length = c :: rest := by
          rw [List.append_assoc, List.drop_left]
          rfl
        rw [hDrop, ← floorAt_dropWhile, List.dropWhile_cons_of_pos hSpace, floorAt_dropWhile,
          hRest] at hBefore
        cases hBefore
  refine ⟨isValue_of hLabel hStart hEnds, List.prefix_append label rest, hLine,
    fun n hn hLess => ?_, floorAt_plain hRest⟩
  by_contra hFloor
  obtain ⟨found, hFound⟩ := Option.ne_none_iff_exists'.mp hFloor
  have hBefore := hFirst n hn hLess
  rw [List.drop_append_of_le_length hLess.le, floorAt_mono hFound] at hBefore
  cases hBefore

/-! ### The values -/

/-- A value is what a part ends in. -/
theorem labelled_suffix {label part value : Text} (hPart : EndsDark part)
    (h : labelled label part = some value) : value <:+ part ∧ IsValue value := by
  obtain ⟨tail, hTail, hFound⟩ := List.exists_of_findSome?_eq_some h
  split_ifs at hFound
  obtain ⟨found, hDash, hValue⟩ := Option.bind_eq_some_iff.mp hFound
  split_ifs at hValue with hBad
  obtain rfl := Option.some.inj hValue
  obtain ⟨more, hMore, rfl⟩ := afterDash_some hDash
  have hSuffix : more.dropWhile Js.isSpace <:+ part := by
    have hDrop : '-' :: more <:+ tail.drop label.length := hMore ▸ List.dropWhile_suffix _
    exact (List.dropWhile_suffix _).trans ((List.suffix_cons '-' more).trans
      (hDrop.trans ((List.drop_suffix _ _).trans ((List.mem_tails _ _).mp hTail))))
  have hNe : more.dropWhile Js.isSpace ≠ [] := by
    intro hNil
    simp [hNil] at hBad
  have hHead : (more.dropWhile Js.isSpace).head?.any Js.isSpace = false := by
    have hFirst := List.head?_dropWhile_not Js.isSpace more
    cases hText : more.dropWhile Js.isSpace with
    | nil => rfl
    | cons c rest =>
        rw [hText] at hFirst
        simpa using hFirst
  have hIsValue := isValue_of hNe hHead (hPart.suffix hSuffix)
  rw [hIsValue.trimmed]
  exact ⟨hSuffix, hIsValue⟩

/-- A label in a value is in its part as well. -/
theorem labelled_of_suffix {label value part found : Text} (hSuffix : value <:+ part)
    (h : labelled label value = some found) : labelled label part ≠ none := by
  obtain ⟨tail, hTail, hFound⟩ := List.exists_of_findSome?_eq_some h
  intro hNone
  have hHere := List.findSome?_eq_none_iff.mp hNone tail
    ((List.mem_tails _ _).mpr (((List.mem_tails _ _).mp hTail).trans hSuffix))
  rw [hFound] at hHere
  cases hHere

/-- A trimmed text that is not empty is a value. -/
theorem isValue_trimChars {text : Text} (h : Js.trimChars text ≠ []) :
    IsValue (Js.trimChars text) := ⟨h, Js.trimChars_trimChars text⟩

/-- A trimmed text does not end in white space. -/
theorem endsDark_trimChars (text : Text) : EndsDark (Js.trimChars text) := by
  by_cases hNil : Js.trimChars text = []
  · rw [hNil]
    intro c hc
    cases hc
  · exact (isValue_trimChars hNil).endsDark

/-- A trimmed text does not start with white space. -/
theorem head_trimChars (text : Text) : (Js.trimChars text).head?.any Js.isSpace = false := by
  by_cases hNil : Js.trimChars text = []
  · rw [hNil]
    rfl
  · exact (isValue_trimChars hNil).head

/-- A label for a floor without one. -/
theorem isPiece_floorNumber (n : Nat) : IsPiece ("Floor ".toList ++ Js.digits n) ∧
    CleanLabel ("Floor ".toList ++ Js.digits n) ∧ ',' ∉ "Floor ".toList ++ Js.digits n ∧
    ("Floor ".toList ++ Js.digits n).any isLineTerminator = false := by
  have hDigit : ∀ c ∈ Js.digits n, 48 ≤ c.toNat ∧ c.toNat ≤ 57 :=
    fun c hc => Char.isDigit_iff_toNat.mp (Js.isDigit_of_mem_digits hc)
  have hNot : ∀ c : Char, ¬ (48 ≤ c.toNat ∧ c.toNat ≤ 57) → c ∉ Js.digits n :=
    fun c hc hMem => hc (hDigit c hMem)
  have hEnds : EndsDark (Js.digits n) := by
    intro c hc
    exact Js.isSpace_of_isPlain (Js.isPlain_of_mem_digits (List.mem_of_getLast? hc))
  have hNoFloor : NoFloor ("Floor ".toList ++ Js.digits n) := by
    have hInk : ∀ c ∈ Js.digits n, isInk c = true :=
      fun c hc => isInk_of_isPlain (Js.isPlain_of_mem_digits hc)
    have hDigits := noFloor_nil.append hInk
    rw [List.append_nil] at hDigits
    exact @NoFloor.append _ "Floor".toList hDigits.space (Js.forall_mem_of_all (by decide))
  refine ⟨⟨⟨by simp, ?_⟩, ?_⟩, fun n _ _ => hNoFloor _ (List.drop_suffix n _), ?_, ?_⟩
  · exact trimChars_append rfl (by simp) (Js.digits_ne_nil n) hEnds
  · refine noBars_of_not_mem fun hMem => ?_
    rcases List.mem_append.mp hMem with hMem | hMem
    · exact absurd hMem (by decide)
    · exact hNot '|' (by decide) hMem
  · intro hMem
    rcases List.mem_append.mp hMem with hMem | hMem
    · exact absurd hMem (by decide)
    · exact hNot ',' (by decide) hMem
  · rw [List.any_append, Bool.or_eq_false_iff]
    refine ⟨by decide, List.any_eq_false.mpr fun c hc => ?_⟩
    have hRange := hDigit c hc
    simp [isLineTerminator]
    omega

end Pieces

/-! ### The floors of a text -/

section Parsed
variable {segment part value : Text} {index : Nat}

/-- The parts of a segment, trimmed. -/
theorem part_spec (hPart : part ∈ (splitBars segment).map Js.trimChars) :
    EndsDark part ∧ part.head?.any Js.isSpace = false ∧ part <:+: segment ∧ NoBars part := by
  obtain ⟨piece, hPiece, rfl⟩ := List.mem_map.mp hPart
  obtain ⟨hInfix, hBars⟩ := (splitBars_spec segment).2 piece hPiece
  have hTrimmed := Js.trimChars_isInfix piece
  exact ⟨endsDark_trimChars piece, head_trimChars piece, hTrimmed.trans hInfix,
    hBars.infix hTrimmed⟩

/-- A value of a segment is a text of its own, within one line. -/
theorem value_spec {label : Text} (hSegment : IsSegment segment)
    (h : value ∈ (((splitBars segment).map Js.trimChars).drop 1).filterMap (labelled label)) :
    IsPiece value ∧ ',' ∉ value ∧ value.any isLineTerminator = false := by
  obtain ⟨part, hPart, hValue⟩ := List.mem_filterMap.mp h
  obtain ⟨hEnds, -, hInfix, hBars⟩ := part_spec (List.mem_of_mem_drop hPart)
  obtain ⟨hSuffix, hIsValue⟩ := labelled_suffix hEnds hValue
  refine ⟨⟨hIsValue, hBars.infix hSuffix.isInfix⟩, fun hMem => ?_, labelled_oneLine hValue⟩
  exact hSegment.noComma ((hSuffix.isInfix.trans hInfix).subset hMem)

/-- The head of a segment. -/
theorem head_spec (segment : Text) :
    (((splitBars segment).map Js.trimChars).headD segment) ∈
      (splitBars segment).map Js.trimChars := by
  cases hParts : splitBars segment with
  | nil => exact absurd hParts (splitBars_ne_nil segment)
  | cons part parts => exact List.mem_cons_self

/-- What the parser returns for a segment. -/
structure FloorSpec (floor : FloorRow) : Prop where
  isWritable : IsWritable floor
  noComma : NoComma floor
  labelLine : floor.floorLabel.any isLineTerminator = false
  textLine : ∀ value, floor.usageType = some value ∨ floor.usageFactor = some value ∨
    floor.buildingType = some value → value.any isLineTerminator = false
  building : floor.buildingType ≠ none → floor.usageType ≠ none
  factorInUsage : floor.usageFactor = none → floor.usageType.bind factorIn = none

/-- The label is what stands before the areas, or else the number of the floor. -/
theorem floorLabel_parseSegment (segment : Text) (index : Nat) :
    (FloorsEditor.parseSegment segment index).floorLabel =
      (let label := (labelMatch (((splitBars segment).map Js.trimChars).headD segment)).map
        fun found => Js.trimChars found.1
      if (label.getD []).isEmpty then "Floor ".toList ++ Js.digits (index + 1)
        else label.getD []) := rfl

/-- The label read from a segment is clean, and without commas and line ends. -/
theorem label_spec (hSegment : IsSegment segment) (index : Nat) :
    IsPiece (FloorsEditor.parseSegment segment index).floorLabel ∧
      CleanLabel (FloorsEditor.parseSegment segment index).floorLabel ∧
      ',' ∉ (FloorsEditor.parseSegment segment index).floorLabel ∧
      (FloorsEditor.parseSegment segment index).floorLabel.any isLineTerminator = false := by
  obtain ⟨-, hHead, hInfix, hBars⟩ := part_spec (head_spec segment)
  rw [floorLabel_parseSegment]
  cases hMatch : labelMatch (((splitBars segment).map Js.trimChars).headD segment) with
  | none => exact isPiece_floorNumber (index + 1)
  | some found =>
      obtain ⟨hValue, hPrefix, hLine, hClean, -⟩ := labelMatch_isValue hHead hMatch
      have hNonempty : found.1.isEmpty = false := List.isEmpty_eq_false_iff.mpr hValue.nonempty
      simp only [Option.map_some, Option.getD_some, hValue.trimmed, hNonempty]
      exact ⟨⟨hValue, hBars.infix hPrefix.isInfix⟩, hClean,
        fun hMem => hSegment.noComma ((hPrefix.isInfix.trans hInfix).subset hMem), hLine⟩

theorem areas_nonneg (segment : Text) (index : Nat) :
    (∀ x, (FloorsEditor.parseSegment segment index).areaSqFt = some (some x) → 0 ≤ x) ∧
      ∀ x, (FloorsEditor.parseSegment segment index).areaSqMeter = some (some x) → 0 ≤ x := by
  obtain ⟨-, hHead, -, -⟩ := part_spec (head_spec segment)
  constructor
  · intro x hx
    obtain ⟨found, hFound, hNumber⟩ := Option.map_eq_some_iff.mp hx
    obtain ⟨-, -, -, -, hPlain⟩ := labelMatch_isValue hHead hFound
    exact parseNumeral_nonneg hPlain hNumber
  · intro x hx
    obtain ⟨found, hFound, hNumber⟩ := Option.map_eq_some_iff.mp hx
    exact parseNumeral_nonneg (sqmMatch_plain hFound) hNumber

/-- What is read from a segment is of the reader's form. -/
theorem parseSegment_spec (hSegment : IsSegment segment) (index : Nat) :
    FloorSpec (FloorsEditor.parseSegment segment index) := by
  obtain ⟨hLabel, hClean, hComma, hLine⟩ := label_spec hSegment index
  obtain ⟨hFt, hM⟩ := areas_nonneg segment index
  have hType : ∀ value, (FloorsEditor.parseSegment segment index).usageType = some value →
      IsPiece value ∧ ',' ∉ value ∧ value.any isLineTerminator = false :=
    fun value hValue => value_spec hSegment (List.mem_of_getElem? hValue)
  have hFactor : ∀ value, (FloorsEditor.parseSegment segment index).usageFactor = some value →
      IsPiece value ∧ ',' ∉ value ∧ value.any isLineTerminator = false :=
    fun value hValue => value_spec hSegment (List.mem_of_getLast? hValue)
  have hBuilding : ∀ value, (FloorsEditor.parseSegment segment index).buildingType = some value →
      IsPiece value ∧ ',' ∉ value ∧ value.any isLineTerminator = false :=
    fun value hValue => value_spec hSegment (List.mem_of_getElem? hValue)
  constructor
  · exact ⟨hLabel, hClean, fun value hValue => (hType value hValue).1,
      fun value hValue => (hFactor value hValue).1, fun value hValue => (hBuilding value hValue).1,
      hFt, hM⟩
  · exact ⟨hComma, fun value hValue => (hType value hValue).2.1,
      fun value hValue => (hFactor value hValue).2.1,
      fun value hValue => (hBuilding value hValue).2.1⟩
  · exact hLine
  · rintro value (hValue | hValue | hValue)
    · exact (hType value hValue).2.2
    · exact (hFactor value hValue).2.2
    · exact (hBuilding value hValue).2.2
  · intro hNe hNone
    apply hNe
    have hEmpty := List.getElem?_eq_none_iff.mp hNone
    exact List.getElem?_eq_none_iff.mpr (by omega)
  · intro hNone
    by_contra hInside
    obtain ⟨found, hFound⟩ := Option.ne_none_iff_exists'.mp hInside
    obtain ⟨value, hValue, hSearch⟩ := Option.bind_eq_some_iff.mp hFound
    obtain ⟨part, hPart, hPartValue⟩ := List.mem_filterMap.mp (List.mem_of_getElem? hValue)
    obtain ⟨hEnds, -, -, -⟩ := part_spec (List.mem_of_mem_drop hPart)
    have hLabelled := labelled_of_suffix (labelled_suffix hEnds hPartValue).1 hSearch
    obtain ⟨factor, hFactorFound⟩ := Option.ne_none_iff_exists'.mp hLabelled
    have hMem := List.mem_filterMap.mpr ⟨part, hPart, hFactorFound⟩
    have hEmpty := List.getLast?_eq_none_iff.mp hNone
    rw [hEmpty] at hMem
    cases hMem

end Parsed
end PropertyTax.Surveys
