import PropertyTax.Library.Words
import PropertyTax.Tax.TaxZoneMap

/-! The words that a zone is read from. Normalising a text keeps its words in lower case and puts
one underscore between them, so nothing else of the text decides its zone. -/
namespace PropertyTax
open Words

/-- What separates words: every separator, and the underscore that replaces them. -/
def isBreak (c : Char) : Bool := isSeparator c || c == '_'

def zoneWords (value : String) : List (List Char) := wordsBy isBreak (Js.toLowerCase value).toList

section Runs
variable {p : Char → Bool} {text first rest : List Char}

/-- A replaced text starts with an underscore where the text starts with a run, and else as the text
does. -/
theorem head?_replaceRuns (p : Char → Bool) (text : List Char) :
    (replaceRuns p text).head? = if text.head?.any p then some '_' else text.head? := by
  induction text with
  | nil => rfl
  | cons c rest ih =>
      have hFirst : (c :: rest).head?.any p = p c := rfl
      rw [hFirst, replaceRuns]
      cases hc : p c with
      | false => rfl
      | true =>
          rw [if_pos rfl, if_pos rfl]
          by_cases hNext : rest.head?.any p = true
          · rw [if_pos hNext, ih, if_pos hNext]
          · rw [if_neg hNext]
            rfl

/-- Words do not change when breaks are replaced by underscores. -/
theorem wordsBy_replaceRuns (hp : ∀ c, p c = true → isBreak c = true) (first text : List Char) :
    wordsBy isBreak (first ++ replaceRuns p text) = wordsBy isBreak (first ++ text) := by
  have hMark : isBreak '_' = true := by decide
  induction text generalizing first with
  | nil => rfl
  | cons c rest ih =>
      have hRest : wordsBy isBreak (replaceRuns p rest) = wordsBy isBreak rest := ih []
      unfold replaceRuns
      split_ifs with hc hNext
      · have hHead := head?_replaceRuns p rest
        rw [if_pos hNext] at hHead
        cases hRuns : replaceRuns p rest with
        | nil =>
            rw [hRuns] at hHead
            cases hHead
        | cons d runs =>
            rw [hRuns] at hHead hRest
            obtain rfl : d = '_' := Option.some.inj hHead
            rw [wordsBy_append_cons hMark, wordsBy_append_cons (hp c hc), ← hRest,
              wordsBy_cons hMark]
      · rw [wordsBy_append_cons hMark, wordsBy_append_cons (hp c hc), hRest]
      · have hFirst := ih (first ++ [c])
        rwa [List.append_assoc, List.append_assoc] at hFirst

/-- What is left are underscores and kept characters. -/
theorem mem_replaceRuns {c : Char} (h : c ∈ replaceRuns p text) :
    c = '_' ∨ c ∈ text ∧ p c = false := by
  induction text with
  | nil => cases h
  | cons d rest ih =>
      have hLater (hRest : c ∈ replaceRuns p rest) : c = '_' ∨ c ∈ d :: rest ∧ p c = false :=
        (ih hRest).imp_right fun hMem => ⟨List.mem_cons_of_mem d hMem.1, hMem.2⟩
      unfold replaceRuns at h
      split_ifs at h with hd hNext
      · exact hLater h
      · rcases List.mem_cons.mp h with hMark | hRest
        · exact .inl hMark
        · exact hLater hRest
      · rcases List.mem_cons.mp h with rfl | hRest
        · exact .inr ⟨List.mem_cons_self, Bool.eq_false_iff.mpr hd⟩
        · exact hLater hRest

/-- No two underscores are left side by side. -/
theorem noPair_replaceRuns (text : List Char) :
    ¬['_', '_'] <:+: replaceRuns (· == '_') text := by
  induction text with
  | nil => exact fun h => absurd (List.infix_nil.mp h) (by simp)
  | cons c rest ih =>
      unfold replaceRuns
      split_ifs with hc hNext
      · exact ih
      · intro hPair
        rcases List.infix_cons_iff.mp hPair with hFirst | hRest
        · obtain ⟨after, hAfter⟩ := (List.cons_prefix_cons.mp hFirst).2
          have hHead := head?_replaceRuns (· == '_') rest
          rw [if_neg hNext, ← hAfter] at hHead
          rw [← hHead] at hNext
          exact hNext rfl
        · exact ih hRest
      · intro hPair
        rcases List.infix_cons_iff.mp hPair with hFirst | hRest
        · exact hc (beq_iff_eq.mpr (List.cons_prefix_cons.mp hFirst).1.symm)
        · exact ih hRest

end Runs

/-! ### Joined words -/

section Joining
variable {text : List Char}

/-- Without an underscore at its end, a text is its words joined. -/
theorem dropLast_eq_intercalate (hMark : ∀ c ∈ text, isBreak c = true → c = '_')
    (hPair : ¬['_', '_'] <:+: text) (hHead : text.head? ≠ some '_') :
    (if text.getLast? = some '_' then text.dropLast else text) =
      ['_'].intercalate (wordsBy isBreak text) := by
  induction text using free_induction (p := isBreak) with
  | free text hFree =>
      have hLast : text.getLast? ≠ some '_' := by
        intro hLast
        have hNone := hFree '_' (List.mem_of_getLast? hLast)
        exact absurd hNone (by decide)
      rw [if_neg hLast]
      by_cases hText : text = []
      · rw [hText, wordsBy_nil]
        rfl
      · rw [wordsBy_of_free hText hFree, List.intercalate_singleton]
  | split first c rest hFirst hc ih =>
      obtain rfl := hMark c (by simp) hc
      have hStart : first ≠ [] := by
        rintro rfl
        exact hHead rfl
      have hRestHead : rest.head? ≠ some '_' := by
        intro hStarts
        obtain ⟨after, rfl⟩ := List.head?_eq_some_iff.mp hStarts
        exact hPair ⟨first, after, by simp⟩
      have hRest := ih (fun d hd => hMark d (by simp [hd]))
        (fun h => hPair (h.trans ⟨first ++ ['_'], [], by simp⟩)) hRestHead
      rw [wordsBy_append_cons hc, wordsBy_of_free hStart hFirst]
      cases rest with
      | nil => simp [wordsBy_nil]
      | cons d rest =>
          have hWord : isBreak d = false := by
            refine Bool.eq_false_iff.mpr fun hd => hRestHead ?_
            rw [hMark d (by simp) hd]
            rfl
          obtain ⟨word, words, hWords, -⟩ := wordsBy_cons_of_free hWord rest
          rw [hWords] at hRest ⊢
          rw [List.singleton_append, List.intercalate_cons_cons, ← hRest]
          have hLast : (first ++ '_' :: d :: rest).getLast? = (d :: rest).getLast? := by
            rw [List.getLast?_append, List.getLast?_cons_cons,
              List.getLast?_eq_some_getLast (List.cons_ne_nil d rest)]
            rfl
          rw [hLast]
          split_ifs
          · simp [List.dropLast_append_of_ne_nil]
          · simp

/-- Without double underscores, a stripped text is its words, joined. -/
theorem stripUnderscores_eq (hMark : ∀ c ∈ text, isBreak c = true → c = '_')
    (hPair : ¬['_', '_'] <:+: text) :
    stripUnderscores text = ['_'].intercalate (wordsBy isBreak text) := by
  unfold stripUnderscores
  dsimp only
  cases text with
  | nil => exact dropLast_eq_intercalate hMark hPair (by simp)
  | cons c rest =>
      by_cases hc : c = '_'
      · subst hc
        have hFirst : ('_' :: rest).head? = some '_' := rfl
        rw [if_pos hFirst, List.tail_cons, wordsBy_cons (by decide)]
        refine dropLast_eq_intercalate (fun d hd => hMark d (List.mem_cons_of_mem _ hd))
          (fun h => hPair (h.trans (List.suffix_cons _ _).isInfix)) fun hHead => hPair ?_
        cases rest with
        | nil => cases hHead
        | cons d rest =>
            obtain rfl : d = '_' := Option.some.inj hHead
            exact ⟨[], rest, rfl⟩
      · have hFirst : (c :: rest).head? ≠ some '_' := fun h => hc (Option.some.inj h)
        rw [if_neg hFirst]
        exact dropLast_eq_intercalate hMark hPair hFirst

end Joining

/-- A break is no capital letter. -/
theorem toNat_of_isBreak {c : Char} (h : isBreak c = true) :
    (c.toNat < 65 ∨ 90 < c.toNat) ∧ c.toNat ≠ 0x212A ∧ c.toNat ≠ 0x130 := by
  rcases Bool.or_eq_true_iff.mp h with hSeparator | hMark
  · rcases Bool.or_eq_true_iff.mp hSeparator with hSpace | hListed
    · simp only [Js.isSpace, Bool.or_eq_true, Bool.and_eq_true, decide_eq_true_eq,
        beq_iff_eq] at hSpace
      omega
    · have hAll : ("/()[].,;:+#-".toList.all fun c => decide
          ((c.toNat < 65 ∨ 90 < c.toNat) ∧ c.toNat ≠ 0x212A ∧ c.toNat ≠ 0x130)) = true := by
        decide
      exact of_decide_eq_true (List.all_eq_true.mp hAll c (List.contains_iff_mem.mp hListed))
  · obtain rfl := beq_iff_eq.mp hMark
    decide

/-- Only the capitals of ASCII, the Kelvin sign and the dotted capital have another lower case. -/
theorem lowerChar_of_toNat {c : Char} (h : (c.toNat < 65 ∨ 90 < c.toNat) ∧ c.toNat ≠ 0x212A ∧
    c.toNat ≠ 0x130) : Js.lowerChar c = [c] := by
  obtain ⟨hCase, hKelvin, hDotted⟩ := h
  rw [Js.lowerChar, if_neg hKelvin, if_neg hDotted]
  unfold Char.toLower
  rw [dif_neg]
  rintro ⟨hLow, hHigh⟩
  rw [ge_iff_le, UInt32.le_iff_toNat_le] at hLow
  rw [UInt32.le_iff_toNat_le] at hHigh
  have hLow' : 65 ≤ c.toNat := hLow
  have hHigh' : c.toNat ≤ 90 := hHigh
  omega

/-- Breaks are not lowered. -/
theorem lowerChar_of_isBreak {c : Char} (h : isBreak c = true) : Js.lowerChar c = [c] :=
  lowerChar_of_toNat (toNat_of_isBreak h)

/-- A run of breaks is left by lowering. -/
theorem flatMap_lowerChar {run : List Char} (h : ∀ c ∈ run, isBreak c = true) :
    run.flatMap Js.lowerChar = run := by
  rw [List.flatMap_congr fun c hc => lowerChar_of_isBreak (h c hc)]
  exact List.flatMap_singleton' run

theorem isBreak_of_isSpace {c : Char} (h : Js.isSpace c = true) : isBreak c = true := by
  rw [isBreak, isSeparator, h]
  rfl

/-- Blanks around a text are no part of its words. -/
theorem zoneWords_blanks {before after : List Char} (hBefore : ∀ c ∈ before, isBreak c = true)
    (hAfter : ∀ c ∈ after, isBreak c = true) (text : List Char) :
    zoneWords (String.ofList (before ++ text ++ after)) = zoneWords (String.ofList text) := by
  unfold zoneWords
  rw [Js.toList_toLowerCase, Js.toList_toLowerCase, String.toList_ofList, String.toList_ofList,
    List.flatMap_append, List.flatMap_append, flatMap_lowerChar hBefore, flatMap_lowerChar hAfter,
    wordsBy_append_breaks hAfter, wordsBy_breaks_append hBefore]

/-- White space around a value makes no difference to its words. -/
theorem zoneWords_trim (value : String) : zoneWords (Js.trim value) = zoneWords value := by
  have hFront : ∀ c ∈ value.toList.takeWhile Js.isSpace, isBreak c = true := fun c hc =>
    isBreak_of_isSpace (List.mem_takeWhile_imp hc)
  have hBack : ∀ c ∈ (value.toList.dropWhile Js.isSpace).rtakeWhile Js.isSpace,
      isBreak c = true := fun c hc => isBreak_of_isSpace (List.mem_rtakeWhile_imp hc)
  have hText : value.toList.takeWhile Js.isSpace ++ Js.trimChars value.toList ++
      (value.toList.dropWhile Js.isSpace).rtakeWhile Js.isSpace = value.toList := by
    rw [List.append_assoc]
    change _ ++ ((value.toList.dropWhile Js.isSpace).rdropWhile Js.isSpace ++ _) = _
    rw [List.rdropWhile_append_rtakeWhile, List.takeWhile_append_dropWhile]
  have hBlanks := zoneWords_blanks hFront hBack (Js.trimChars value.toList)
  rw [hText, String.ofList_toList] at hBlanks
  exact hBlanks.symm

/-- The normal form of a text is made of its words. -/
theorem norm_eq (value : String) :
    norm value = String.ofList (['_'].intercalate (zoneWords value)) := by
  rw [← zoneWords_trim]
  have hMark : ∀ c ∈ replaceRuns (· == '_') (replaceRuns isSeparator
      (Js.toLowerCase (Js.trim value)).toList), isBreak c = true → c = '_' := by
    intro c hMem hBreak
    rcases mem_replaceRuns hMem with hUnderscore | ⟨hMem, hNot⟩
    · exact hUnderscore
    · rcases mem_replaceRuns hMem with hUnderscore | ⟨-, hSeparator⟩
      · exact hUnderscore
      · rw [isBreak, hSeparator, hNot] at hBreak
        cases hBreak
  have hJoined := stripUnderscores_eq hMark (noPair_replaceRuns _)
  have hOuter := wordsBy_replaceRuns (p := (· == '_')) (fun c hc => by simp [isBreak, hc]) []
    (replaceRuns isSeparator (Js.toLowerCase (Js.trim value)).toList)
  have hInner := wordsBy_replaceRuns (p := isSeparator) (fun c hc => by simp [isBreak, hc]) []
    (Js.toLowerCase (Js.trim value)).toList
  simp only [List.nil_append] at hOuter hInner
  rw [hOuter, hInner] at hJoined
  exact congrArg String.ofList hJoined

/-! ### The zone of words -/

/-- The table first, then what the text mentions. -/
def zoneOf (n : String) : Option String := TAX_ZONE.lookup n <|> zoneOfText n

/-- A value's zone is that of its words, joined. -/
theorem mapTaxRateZoneCode_eq (value : String) : mapTaxRateZoneCode (some value) =
    zoneOf (String.ofList (['_'].intercalate (zoneWords value))) := by
  rw [← norm_eq]
  unfold mapTaxRateZoneCode
  dsimp only
  rw [Option.getD_some]
  split_ifs with hBlank
  · have hNorm : norm value = norm "" := by
      rw [norm_eq, norm_eq, ← zoneWords_trim value, beq_iff_eq.mp hBlank]
    rw [hNorm]
    decide
  · rfl

end PropertyTax
