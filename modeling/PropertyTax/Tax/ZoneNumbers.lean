import PropertyTax.Tax.ZoneWords

/-! The number of a zone in a text decides its row, whatever widths and words come after it, and
the row depends on nothing but the words of the text. -/
namespace PropertyTax
open Words

/-! ### Characters that no rule mentions -/

/-- Neither ASCII, nor a separator, nor a letter whose lower case is ASCII. -/
def isForeign (c : Char) : Bool :=
  128 ≤ c.toNat && !isSeparator c && c.toNat ≠ 0x212A && c.toNat ≠ 0x130

/-- One character stands for all of them. -/
def plain (c : Char) : Char := if isForeign c then 'é' else c

def Plain (text : List Char) : Prop := (text.all fun c => !isForeign c) = true

instance (text : List Char) : Decidable (Plain text) := inferInstanceAs (Decidable (_ = true))

/-- A text is plain when each character is. -/
theorem plain_cons_iff {c : Char} {text : List Char} :
    Plain (c :: text) ↔ isForeign c = false ∧ Plain text := by
  simp [Plain]

/-- Only a plain character itself reads as it. -/
theorem plain_eq_iff {c d : Char} (hd : isForeign d = false) : plain c = d ↔ c = d := by
  have hMark : isForeign 'é' = true := by decide
  unfold plain
  split_ifs with hc
  · refine iff_of_false ?_ ?_
    · rintro rfl
      rw [hMark] at hd
      cases hd
    · rintro rfl
      rw [hc] at hd
      cases hd
  · rfl

section Plain
variable {label text : List Char}

theorem isPrefixOf_map_plain (hLabel : Plain label) :
    label.isPrefixOf (text.map plain) = label.isPrefixOf text := by
  induction label generalizing text with
  | nil => simp
  | cons d label ih =>
      obtain ⟨hd, hRest⟩ := plain_cons_iff.mp hLabel
      cases text with
      | nil => rfl
      | cons c text =>
          have hHead : (d == plain c) = (d == c) := by
            rw [Bool.eq_iff_iff, beq_iff_eq, beq_iff_eq, eq_comm, plain_eq_iff hd, eq_comm]
          rw [List.map_cons, List.isPrefixOf_cons_cons, List.isPrefixOf_cons_cons, hHead, ih hRest]

theorem any_tails_map_plain (hLabel : Plain label) (text : List Char) :
    ((text.map plain).tails.any fun tail => label.isPrefixOf tail) =
      text.tails.any fun tail => label.isPrefixOf tail := by
  induction text with
  | nil => rfl
  | cons c text ih =>
      have hFirst : label.isPrefixOf ((c :: text).map plain) = label.isPrefixOf (c :: text) :=
        isPrefixOf_map_plain hLabel
      rw [List.map_cons] at hFirst ⊢
      rw [List.tails_cons, List.tails_cons, List.any_cons, List.any_cons, ih, hFirst]

theorem includes_map_plain {part : String} (hPart : Plain part.toList) (text : List Char) :
    Js.includes (String.ofList (text.map plain)) part = Js.includes (String.ofList text) part := by
  unfold Js.includes
  rw [String.toList_ofList, String.toList_ofList]
  exact any_tails_map_plain hPart text

theorem afterUnderscores_map_plain (text : List Char) :
    afterUnderscores (text.map plain) = (afterUnderscores text).map (List.map plain) := by
  induction text with
  | nil => rfl
  | cons c text ih =>
      have hMark : plain c = '_' ↔ c = '_' := plain_eq_iff (by decide)
      rw [List.map_cons, afterUnderscores, afterUnderscores]
      by_cases hc : c = '_'
      · rw [if_pos (hMark.mpr hc), if_pos hc, ih, List.map_cons]
      · rw [if_neg fun h => hc (hMark.mp h), if_neg hc, ih]

/-- Digits are not foreign. -/
theorem isDigit_plain (c : Char) : (plain c).isDigit = c.isDigit := by
  unfold plain
  split_ifs with hc
  · have hHigh : 128 ≤ c.toNat := by
      unfold isForeign at hc
      simp only [Bool.and_eq_true, decide_eq_true_eq] at hc
      exact hc.1.1.1
    have hNot : c.isDigit = false := by
      refine Bool.eq_false_iff.mpr fun hDigit => ?_
      have hLow := (Char.isDigit_iff_toNat.mp hDigit).2
      change c.toNat ≤ 57 at hLow
      omega
    rw [hNot]
    decide
  · rfl

theorem numberedBy_map_plain {digit : Char} (hDigit : isForeign digit = false) {lead : String}
    (hLead : Plain lead.toList) (text : List Char) :
    numberedBy digit (text.map plain) lead = numberedBy digit text lead := by
  unfold numberedBy
  dsimp only
  rw [isPrefixOf_map_plain hLead, ← List.map_drop]
  generalize text.drop lead.length = rest
  have hMark {c : Char} : plain c = '_' ↔ c = '_' := plain_eq_iff (by decide)
  have hStripped : (if (rest.map plain).head? = some '_' then (rest.map plain).tail
      else rest.map plain) = (if rest.head? = some '_' then rest.tail else rest).map plain := by
    cases rest with
    | nil => rfl
    | cons c rest =>
        simp only [List.map_cons, List.head?_cons, Option.some_inj, hMark, List.tail_cons]
        split_ifs
        · rfl
        · rfl
  rw [hStripped]
  generalize (if rest.head? = some '_' then rest.tail else rest) = numbered
  cases numbered with
  | nil => rfl
  | cons c after =>
      have hHead : ((plain c) == digit) = (c == digit) := by
        rw [Bool.eq_iff_iff, beq_iff_eq, beq_iff_eq, plain_eq_iff hDigit]
      cases after with
      | nil => simp [hHead]
      | cons d after => simp [hHead, isDigit_plain]

/-- Only a plain label itself reads as it. -/
theorem map_plain_eq_iff (hLabel : Plain label) : text.map plain = label ↔ text = label := by
  induction text generalizing label with
  | nil => rfl
  | cons c text ih =>
      cases label with
      | nil => simp
      | cons d label =>
          obtain ⟨hd, hRest⟩ := plain_cons_iff.mp hLabel
          rw [List.map_cons, List.cons.injEq, List.cons.injEq, plain_eq_iff hd, ih hRest]

theorem lookup_map_plain {table : List (String × String)}
    (hTable : (table.all fun entry => Plain entry.1.toList) = true) (text : List Char) :
    table.lookup (String.ofList (text.map plain)) = table.lookup (String.ofList text) := by
  induction table with
  | nil => rfl
  | cons entry table ih =>
      obtain ⟨key, code⟩ := entry
      obtain ⟨hKey, hRest⟩ := Bool.and_eq_true_iff.mp hTable
      have hSame : (String.ofList (text.map plain) == key) = (String.ofList text == key) := by
        rw [Bool.eq_iff_iff, beq_iff_eq, beq_iff_eq, ← String.toList_inj, ← String.toList_inj,
          String.toList_ofList, String.toList_ofList, map_plain_eq_iff (of_decide_eq_true hKey)]
      rw [List.lookup_cons, List.lookup_cons, hSame, ih hRest]

theorem namesZone_map_plain {digit : Char} (hDigit : isForeign digit = false) (text : List Char) :
    namesZone digit (String.ofList (text.map plain)) = namesZone digit (String.ofList text) := by
  unfold namesZone
  rw [String.toList_ofList, String.toList_ofList, afterUnderscores_map_plain, ← List.map_cons,
    List.any_map]
  refine congrArg _ (funext fun piece => ?_)
  have hZone := numberedBy_map_plain hDigit (by decide : Plain "zone".toList) piece
  have hRate := numberedBy_map_plain hDigit (by decide : Plain "ratezone".toList) piece
  have hRateZone := numberedBy_map_plain hDigit (by decide : Plain "rate_zone".toList) piece
  have hShort := numberedBy_map_plain hDigit (by decide : Plain "rz".toList) piece
  simp only [Function.comp_apply, List.any_cons, List.any_nil, hZone, hRate, hRateZone, hShort]

/-- The zone is the same with one character in the place of all that no rule mentions. -/
theorem zoneOf_map_plain (text : List Char) :
    zoneOf (String.ofList (text.map plain)) = zoneOf (String.ofList text) := by
  unfold zoneOf zoneOfText
  have hTable : (TAX_ZONE.all fun entry => Plain entry.1.toList) = true := by decide
  rw [lookup_map_plain hTable]
  simp only [namesZone_map_plain (by decide : isForeign '4' = false),
    namesZone_map_plain (by decide : isForeign '3' = false),
    namesZone_map_plain (by decide : isForeign '2' = false),
    namesZone_map_plain (by decide : isForeign '1' = false),
    includes_map_plain (by decide : Plain "above".toList),
    includes_map_plain (by decide : Plain "24".toList),
    includes_map_plain (by decide : Plain "12".toList),
    includes_map_plain (by decide : Plain "9".toList),
    includes_map_plain (by decide : Plain "9m_to_12".toList),
    includes_map_plain (by decide : Plain "9_to_12".toList),
    includes_map_plain (by decide : Plain "below_9".toList),
    includes_map_plain (by decide : Plain "upto_9".toList),
    includes_map_plain (by decide : Plain "up_to_9".toList),
    includes_map_plain (by decide : Plain "meter".toList),
    includes_map_plain (by decide : Plain "above_24".toList),
    includes_map_plain (by decide : Plain ">24".toList),
    includes_map_plain (by decide : Plain "24m".toList)]

end Plain

/-! ### Texts that read alike -/

/-- Foreign characters break words as what they are blotted out to does. -/
theorem isBreak_plain (c : Char) : isBreak (plain c) = isBreak c := by
  unfold plain
  split_ifs with hc
  · have hNot : isBreak c = false := by
      unfold isForeign at hc
      simp only [Bool.and_eq_true, decide_eq_true_eq, Bool.not_eq_true'] at hc
      rw [isBreak, hc.1.1.2, Bool.false_or, beq_eq_false_iff_ne]
      rintro rfl
      exact absurd hc.1.1.1 (by decide)
    rw [hNot]
    decide
  · rfl

theorem intercalate_map_plain (words : List (List Char)) :
    ['_'].intercalate (words.map (List.map plain)) = (['_'].intercalate words).map plain := by
  have hMark : plain '_' = '_' := by decide
  induction words with
  | nil => rfl
  | cons word words ih =>
      cases words with
      | nil => simp
      | cons next words =>
          have hLater : (next :: words).map (List.map plain) =
              next.map plain :: words.map (List.map plain) := rfl
          rw [List.map_cons, hLater, List.intercalate_cons_cons, List.intercalate_cons_cons,
            ← hLater, ih]
          simp [hMark]

/-- Nothing but the words decides, and of them only what the rules mention. -/
theorem mapTaxRateZoneCode_congr {first second : String}
    (h : (zoneWords first).map (List.map plain) = (zoneWords second).map (List.map plain)) :
    mapTaxRateZoneCode (some first) = mapTaxRateZoneCode (some second) := by
  rw [mapTaxRateZoneCode_eq, mapTaxRateZoneCode_eq, ← zoneOf_map_plain,
    ← zoneOf_map_plain (['_'].intercalate (zoneWords second)), ← intercalate_map_plain,
    ← intercalate_map_plain, h]

/-- The texts differ in letter case, in blanks around them, in the separators between words, or
in characters that no rule mentions, whose letter case is one more of these differences. -/
inductive SameText : String → String → Prop where
  | letterCase {first second : String} (h : Js.toLowerCase first = Js.toLowerCase second) :
      SameText first second
  | foreign (before after : List Char) {c d : Char} (hc : isForeign c = true)
      (hd : isForeign d = true) :
      SameText (String.ofList (before ++ c :: after)) (String.ofList (before ++ d :: after))
  | blanks (text : List Char) {before after : List Char}
      (hBefore : ∀ c ∈ before, Js.isSpace c = true) (hAfter : ∀ c ∈ after, Js.isSpace c = true) :
      SameText (String.ofList text) (String.ofList (before ++ text ++ after))
  | separators (before after : List Char) {run run' : List Char} (hRun : run ≠ [])
      (hRun' : run' ≠ []) (h : ∀ c ∈ run, isBreak c = true) (h' : ∀ c ∈ run', isBreak c = true) :
      SameText (String.ofList (before ++ run ++ after)) (String.ofList (before ++ run' ++ after))
  | symm {first second : String} (h : SameText first second) : SameText second first
  | trans {first second third : String} (h : SameText first second) (h' : SameText second third) :
      SameText first third

/-- Foreign characters are not lowered. -/
theorem lowerChar_of_isForeign {c : Char} (h : isForeign c = true) : Js.lowerChar c = [c] := by
  unfold isForeign at h
  simp only [Bool.and_eq_true, decide_eq_true_eq] at h
  exact lowerChar_of_toNat ⟨.inr (by omega), h.1.2, h.2⟩

/-- The words of a text are those of its lowered characters. -/
theorem zoneWords_ofList (text : List Char) :
    zoneWords (String.ofList text) = wordsBy isBreak (text.flatMap Js.lowerChar) := by
  rw [zoneWords, Js.toList_toLowerCase, String.toList_ofList]

/-- The same text has the same zone. -/
theorem SameText.zone_eq {first second : String} (h : SameText first second) :
    mapTaxRateZoneCode (some first) = mapTaxRateZoneCode (some second) := by
  induction h with
  | letterCase h =>
      apply mapTaxRateZoneCode_congr
      rw [zoneWords, zoneWords, h]
  | foreign before after hc hd =>
      apply mapTaxRateZoneCode_congr
      rw [zoneWords_ofList, zoneWords_ofList, ← wordsBy_map plain isBreak_plain,
        ← wordsBy_map plain isBreak_plain]
      simp [lowerChar_of_isForeign hc, lowerChar_of_isForeign hd, plain, hc, hd]
  | blanks text hBefore hAfter =>
      apply mapTaxRateZoneCode_congr
      rw [zoneWords_blanks (fun c hc => isBreak_of_isSpace (hBefore c hc))
        fun c hc => isBreak_of_isSpace (hAfter c hc)]
  | separators before after hRun hRun' h h' =>
      apply mapTaxRateZoneCode_congr
      rw [zoneWords_ofList, zoneWords_ofList, List.flatMap_append, List.flatMap_append,
        List.flatMap_append, List.flatMap_append, flatMap_lowerChar h, flatMap_lowerChar h',
        wordsBy_run hRun h, wordsBy_run hRun' h']
  | symm _ ih => exact ih.symm
  | trans _ _ ih ih' => exact ih.trans ih'

/-! ### Numbered zones -/

section Numbered
variable {digit c : Char} {part tail : List Char}

/-- A part without underscores is found in a word. -/
theorem mem_of_infix_intercalate {words : List (List Char)} (hPart : part ≠ [])
    (hMark : '_' ∉ part) (h : part <:+: ['_'].intercalate words) :
    ∃ word ∈ words, part <:+: word := by
  induction words with
  | nil => exact absurd (List.infix_nil.mp h) hPart
  | cons word words ih =>
      cases words with
      | nil => exact ⟨word, List.mem_cons_self, by rwa [List.intercalate_singleton] at h⟩
      | cons next words =>
          rw [List.intercalate_cons_cons, List.append_assoc, List.singleton_append,
            Js.infix_append_cons hMark] at h
          rcases h with hWord | hLater
          · exact ⟨word, List.mem_cons_self, hWord⟩
          · obtain ⟨later, hMem, hFound⟩ := ih hLater
            exact ⟨later, List.mem_cons_of_mem word hMem, hFound⟩

/-- What comes after the digit in a normal form. -/
structure IsTail (tail : List Char) : Prop where
  noDigit : tail.head?.any Char.isDigit = false
  noZone : ¬"zone".toList <:+: tail
  noShort : ¬"rz".toList <:+: tail

/-- Words from the front of a text that starts with no digit start with none when they are joined.
-/
theorem noDigit_intercalate {text word : List Char} (hc : c.isDigit = false)
    (hWord : word <+: c :: text) (words : List (List Char)) :
    (['_'].intercalate (word :: words)).head?.any Char.isDigit = false := by
  cases word with
  | nil =>
      cases words with
      | nil => rfl
      | cons next words =>
          rw [List.intercalate_cons_cons]
          rfl
  | cons d word =>
      obtain rfl := (List.cons_prefix_cons.mp hWord).1
      rw [List.intercalate_cons_cons_left]
      exact hc

/-- A part that is not in a text is not in its words. -/
theorem notInfix_intercalate {text word : List Char} {words : List (List Char)} {first : Char}
    {rest : List Char} (hMark : '_' ∉ first :: rest) (hFirst : first ≠ c)
    (hText : ¬first :: rest <:+: text) (hWord : word <+: c :: text)
    (hLater : ∀ later ∈ words, later <:+: c :: text) :
    ¬first :: rest <:+: ['_'].intercalate (word :: words) := by
  intro hPart
  obtain ⟨found, hMem, hFound⟩ := mem_of_infix_intercalate (by simp) hMark hPart
  have hWhole : first :: rest <:+: c :: text := by
    rcases List.mem_cons.mp hMem with rfl | hMem
    · exact hFound.trans hWord.isInfix
    · exact hFound.trans (hLater found hMem)
  rcases List.infix_cons_iff.mp hWhole with hStart | hText'
  · exact hFirst (List.cons_prefix_cons.mp hStart).1
  · exact hText hText'

/-- The words of a numbered text, and what its normal form has after the digit. -/
theorem zoneWords_numbered (hDigit : isBreak digit = false) (hLower : Js.lowerChar digit = [digit])
    (hc : Js.lowerChar c = [c]) (hNoDigit : c.isDigit = false) (hz : c ≠ 'z') (hr : c ≠ 'r')
    {s : List Char} (hZone : ¬"zone".toList <:+: s.flatMap Js.lowerChar)
    (hShort : ¬"rz".toList <:+: s.flatMap Js.lowerChar) : ∃ tail,
      ['_'].intercalate (zoneWords (String.ofList ("Rate Zone ".toList ++ digit :: c :: s))) =
        "rate_zone_".toList ++ digit :: tail ∧ IsTail tail := by
  have hLowered : ("Rate Zone ".toList ++ digit :: c :: s).flatMap Js.lowerChar =
      "rate".toList ++ ' ' :: ("zone".toList ++ ' ' :: digit :: c :: s.flatMap Js.lowerChar) := by
    have hLabel : "Rate Zone ".toList.flatMap Js.lowerChar = "rate zone ".toList := by decide
    rw [List.flatMap_append, List.flatMap_cons, List.flatMap_cons, hLabel, hLower, hc]
    rfl
  obtain ⟨word, words, hWords, hWord, hLater⟩ :=
    wordsBy_cons_of_free hDigit (c :: s.flatMap Js.lowerChar)
  refine ⟨['_'].intercalate (word :: words), ?_, ?_, ?_, ?_⟩
  · rw [zoneWords_ofList, hLowered, wordsBy_append_cons (by decide),
      wordsBy_append_cons (by decide), wordsBy_of_all (by decide) (by decide),
      wordsBy_of_all (by decide) (by decide), hWords]
    simp [List.intercalate_cons_cons, List.intercalate_cons_cons_left]
  · exact noDigit_intercalate hNoDigit hWord words
  · have hRest : ¬ 'z' :: "one".toList <:+: s.flatMap Js.lowerChar := hZone
    exact notInfix_intercalate (by decide) hz.symm hRest hWord hLater
  · have hRest : ¬ 'r' :: "z".toList <:+: s.flatMap Js.lowerChar := hShort
    exact notInfix_intercalate (by decide) hr.symm hRest hWord hLater

/-- What comes after underscores ends the text. -/
theorem suffix_of_mem_afterUnderscores {piece : List Char} (h : piece ∈ afterUnderscores tail) :
    piece <:+ tail := by
  induction tail with
  | nil => cases h
  | cons c tail ih =>
      unfold afterUnderscores at h
      split_ifs at h
      · rcases List.mem_cons.mp h with rfl | hLater
        · exact List.suffix_cons c piece
        · exact (ih hLater).trans (List.suffix_cons c tail)
      · exact (ih h).trans (List.suffix_cons c tail)

/-- A numbered lead lies in the text. -/
theorem infix_of_numberedBy {number : Char} {piece : List Char} {lead : String}
    (h : numberedBy number piece lead = true) : lead.toList <:+: piece :=
  (List.isPrefixOf_iff_prefix.mp (Bool.and_eq_true_iff.mp h).1).isInfix

/-- Every lead of a number has one of the two words that no tail has. -/
theorem IsTail.names_nothing (hTail : IsTail tail) (number : Char) :
    ((afterUnderscores tail).any fun text =>
      ["zone", "ratezone", "rate_zone", "rz"].any (numberedBy number text)) = false := by
  refine List.any_eq_false.mpr fun piece hPiece hNamed => ?_
  obtain ⟨lead, hLead, hNumber⟩ := List.any_eq_true.mp hNamed
  have hFound := (infix_of_numberedBy hNumber).trans
    (suffix_of_mem_afterUnderscores hPiece).isInfix
  have hWords : (["zone", "ratezone", "rate_zone", "rz"].all fun lead =>
      Js.includes lead "zone" || Js.includes lead "rz") = true := by
    decide
  rcases Bool.or_eq_true_iff.mp (List.all_eq_true.mp hWords lead hLead) with hZone | hShort
  · exact hTail.noZone ((Js.includes_iff.mp hZone).trans hFound)
  · exact hTail.noShort ((Js.includes_iff.mp hShort).trans hFound)

/-- A lead before a single digit is numbered by it. -/
theorem numberedBy_lead (lead : String) (number digit : Char)
    (hTail : tail.head?.any Char.isDigit = false) :
    numberedBy number (lead.toList ++ '_' :: digit :: tail) lead = (digit == number) := by
  have hPrefix : lead.toList.isPrefixOf (lead.toList ++ '_' :: digit :: tail) = true :=
    List.isPrefixOf_iff_prefix.mpr (List.prefix_append _ _)
  have hDrop : (lead.toList ++ '_' :: digit :: tail).drop lead.length = '_' :: digit :: tail := by
    rw [← String.length_toList, List.drop_left]
  unfold numberedBy
  dsimp only
  rw [hPrefix, hDrop]
  simp [hTail]

/-- Where another lead stands, none is numbered. -/
theorem numberedBy_other (number : Char) {lead : String} {text : List Char}
    (h : lead.toList.isPrefixOf text = false) : numberedBy number text lead = false := by
  rw [numberedBy, h, Bool.false_and]

/-- Of all numbers, a numbered text names its own. -/
theorem namesZone_numbered (number : Char) (hz : digit ≠ 'z') (hr : digit ≠ 'r')
    (hMark : digit ≠ '_') (hTail : IsTail tail) :
    namesZone number (String.ofList ("rate_zone_".toList ++ digit :: tail)) =
      (digit == number) := by
  have hAfter : afterUnderscores ("rate_zone_".toList ++ digit :: tail) =
      ("zone_".toList ++ digit :: tail) :: (digit :: tail) :: afterUnderscores tail := by
    simp [afterUnderscores, hMark]
  have hWhole : (["zone", "ratezone", "rate_zone", "rz"].any
      (numberedBy number ("rate_zone_".toList ++ digit :: tail))) = (digit == number) := by
    have hLead := numberedBy_lead "rate_zone" number digit hTail.noDigit
    have hNot (lead : String) (h : lead.toList.isPrefixOf
        ("rate_zone_".toList ++ digit :: tail) = false) := numberedBy_other number h
    rw [List.any_cons, List.any_cons, List.any_cons, List.any_cons, hNot "zone" rfl,
      hNot "ratezone" rfl, hNot "rz" rfl]
    simpa using hLead
  have hSecond : (["zone", "ratezone", "rate_zone", "rz"].any
      (numberedBy number ("zone_".toList ++ digit :: tail))) = (digit == number) := by
    have hLead := numberedBy_lead "zone" number digit hTail.noDigit
    have hNot (lead : String) (h : lead.toList.isPrefixOf
        ("zone_".toList ++ digit :: tail) = false) := numberedBy_other number h
    rw [List.any_cons, List.any_cons, List.any_cons, List.any_cons, hNot "ratezone" rfl,
      hNot "rate_zone" rfl, hNot "rz" rfl]
    simpa using hLead
  have hThird : (["zone", "ratezone", "rate_zone", "rz"].any
      (numberedBy number (digit :: tail))) = false := by
    simp [numberedBy, Ne.symm hz, Ne.symm hr]
  have hPieces : namesZone number (String.ofList ("rate_zone_".toList ++ digit :: tail)) =
      (["zone", "ratezone", "rate_zone", "rz"].any
          (numberedBy number ("rate_zone_".toList ++ digit :: tail)) ||
        (["zone", "ratezone", "rate_zone", "rz"].any
            (numberedBy number ("zone_".toList ++ digit :: tail)) ||
          (["zone", "ratezone", "rate_zone", "rz"].any (numberedBy number (digit :: tail)) ||
            (afterUnderscores tail).any fun text =>
              ["zone", "ratezone", "rate_zone", "rz"].any (numberedBy number text)))) := by
    unfold namesZone
    rw [String.toList_ofList, hAfter]
    rfl
  rw [hPieces, hWhole, hSecond, hThird, hTail.names_nothing]
  simp

/-- The rows of the table that begin with a number are of its zone. -/
theorem zoneOf_of_text {code : String}
    (hTable : (TAX_ZONE.all fun entry =>
      !("rate_zone_".toList ++ [digit]).isPrefixOf entry.1.toList || entry.2 == code) = true)
    (hText : zoneOfText (String.ofList ("rate_zone_".toList ++ digit :: tail)) = some code) :
    zoneOf (String.ofList ("rate_zone_".toList ++ digit :: tail)) = some code := by
  unfold zoneOf
  rw [hText]
  cases hFound : TAX_ZONE.lookup (String.ofList ("rate_zone_".toList ++ digit :: tail)) with
  | none => rfl
  | some found =>
      obtain ⟨before, after, hEntries, -⟩ := List.lookup_eq_some_iff.mp hFound
      have hEntry := List.all_eq_true.mp hTable
        (String.ofList ("rate_zone_".toList ++ digit :: tail), found) (by rw [hEntries]; simp)
      have hPrefix : ("rate_zone_".toList ++ [digit]).isPrefixOf
          (String.ofList ("rate_zone_".toList ++ digit :: tail)).toList = true := by
        rw [String.toList_ofList, List.isPrefixOf_iff_prefix]
        exact ⟨tail, by simp⟩
      rw [hPrefix, Bool.not_true, Bool.false_or, beq_iff_eq] at hEntry
      obtain rfl : found = code := hEntry
      rfl

/-- The zones of the numbers, in the table and by their regular expressions. -/
theorem zoneOf_numbered {code : String} (h : (digit, code) ∈
    [('1', "BELOW_9M"), ('2', "METER_9_TO_12"), ('3', "METER_12_TO_24"), ('4', "ABOVE_24M")])
    (hTail : IsTail tail) :
    zoneOf (String.ofList ("rate_zone_".toList ++ digit :: tail)) = some code := by
  simp only [List.mem_cons, Prod.mk.injEq, List.not_mem_nil, or_false] at h
  have hNames (hz : digit ≠ 'z') (hr : digit ≠ 'r') (hMark : digit ≠ '_') (number : Char) :=
    namesZone_numbered number hz hr hMark hTail
  rcases h with ⟨rfl, rfl⟩ | ⟨rfl, rfl⟩ | ⟨rfl, rfl⟩ | ⟨rfl, rfl⟩
  · have hOne := hNames (by decide) (by decide) (by decide)
    refine zoneOf_of_text (by decide) ?_
    rw [zoneOfText, hOne, hOne, hOne, hOne]
    rfl
  · have hTwo := hNames (by decide) (by decide) (by decide)
    refine zoneOf_of_text (by decide) ?_
    rw [zoneOfText, hTwo, hTwo, hTwo]
    rfl
  · have hThree := hNames (by decide) (by decide) (by decide)
    refine zoneOf_of_text (by decide) ?_
    rw [zoneOfText, hThree, hThree]
    rfl
  · have hFour := hNames (by decide) (by decide) (by decide)
    refine zoneOf_of_text (by decide) ?_
    rw [zoneOfText, hFour]
    rfl

end Numbered

/-- The number of a zone decides the row, whatever comes after it, and nothing else of a text but
its words does. -/
theorem zone_number_decides {d : Nat} (hLow : 1 ≤ d) (hHigh : d ≤ 4) {c : Char}
    (hc : c ∈ " ()[]\x7b\x7d<>".toList) {s : String}
    (hZone : Js.includes (Js.toLowerCase s) "zone" = false)
    (hShort : Js.includes (Js.toLowerCase s) "rz" = false) {first second : String}
    (hSame : SameText first second) :
    mapTaxRateZoneCode (some ("Rate Zone " ++ toString d ++ String.singleton c ++ s)) =
        zoneCodes[d - 1]? ∧
      mapTaxRateZoneCode (some first) = mapTaxRateZoneCode (some second) := by
  refine ⟨?_, hSame.zone_eq⟩
  have hMarks : (" ()[]\x7b\x7d<>".toList.all fun c =>
      decide (Js.lowerChar c = [c] ∧ c.isDigit = false ∧ c ≠ 'z' ∧ c ≠ 'r')) = true := by
    decide
  obtain ⟨hLower, hNoDigit, hz, hr⟩ := of_decide_eq_true (List.all_eq_true.mp hMarks c hc)
  have hNot {part : String} (h : Js.includes (Js.toLowerCase s) part = false) :
      ¬part.toList <:+: s.toList.flatMap Js.lowerChar := by
    rw [← Js.toList_toLowerCase, ← Js.includes_iff, h]
    exact Bool.false_ne_true
  have hNumbered {digit : Char} {code : String} (hDigit : isBreak digit = false)
      (hDigitLower : Js.lowerChar digit = [digit]) (hRow : (digit, code) ∈
        [('1', "BELOW_9M"), ('2', "METER_9_TO_12"), ('3', "METER_12_TO_24"),
          ('4', "ABOVE_24M")]) :
      mapTaxRateZoneCode (some (String.ofList ("Rate Zone ".toList ++ digit :: c :: s.toList))) =
        some code := by
    obtain ⟨tail, hJoined, hTail⟩ := zoneWords_numbered hDigit hDigitLower hLower hNoDigit hz hr
      (hNot hZone) (hNot hShort)
    rw [mapTaxRateZoneCode_eq, hJoined, zoneOf_numbered hRow hTail]
  have hText (label : String) : label ++ String.singleton c ++ s =
      String.ofList (label.toList ++ c :: s.toList) := by
    rw [← String.toList_inj]
    simp
  rw [hText]
  obtain rfl | rfl | rfl | rfl : d = 1 ∨ d = 2 ∨ d = 3 ∨ d = 4 := by omega
  · exact @hNumbered '1' _ (by decide) (by decide) (by simp)
  · exact @hNumbered '2' _ (by decide) (by decide) (by simp)
  · exact @hNumbered '3' _ (by decide) (by decide) (by simp)
  · exact @hNumbered '4' _ (by decide) (by decide) (by simp)

/-- The widths of other zones behind the number, and one text in two spellings. -/
theorem zone_three_with_widths :
    mapTaxRateZoneCode (some ("Rate Zone " ++ toString 3 ++ String.singleton '[' ++
        "above 24 m, upto 9 meters]")) = some "METER_12_TO_24" ∧
      mapTaxRateZoneCode (some "rate zone-2") = mapTaxRateZoneCode (some " RATE ZONE/2") := by
  have hCase : SameText "rate zone-2" "RATE ZONE-2" := .letterCase (by decide)
  have hMark : SameText "RATE ZONE-2" "RATE ZONE/2" :=
    @SameText.separators "RATE ZONE".toList ['2'] ['-'] ['/'] (by simp) (by simp)
      (List.all_eq_true.mp (by decide)) (List.all_eq_true.mp (by decide))
  have hBlank : SameText "RATE ZONE/2" " RATE ZONE/2" :=
    @SameText.blanks "RATE ZONE/2".toList [' '] [] (List.all_eq_true.mp (by decide)) (by simp)
  exact zone_number_decides (by decide) (by decide) (by decide) (by decide)
    (by decide) (hCase.trans (hMark.trans hBlank))

end PropertyTax
