import Mathlib.Data.List.Basic
import PropertyTax.Library.JsText

/-! Trimming a text around a mark, and splitting what was joined by a mark and a blank. -/
namespace Js

/-- A trimmed text does not start with white space. -/
theorem head?_trimChars (text : List Char) : (trimChars text).head?.any isSpace = false := by
  obtain ⟨rest, hRest⟩ := List.rdropWhile_prefix isSpace (text.dropWhile isSpace)
  have hFirst := List.head?_dropWhile_not isSpace text
  rw [← hRest] at hFirst
  change (List.rdropWhile isSpace (text.dropWhile isSpace)).head?.any isSpace = false
  cases hTrimmed : List.rdropWhile isSpace (text.dropWhile isSpace) with
  | nil => rfl
  | cons c chars =>
      rw [hTrimmed] at hFirst
      simpa using hFirst

/-- A text that does not start with white space keeps its start. -/
theorem dropWhile_of_head? {text : List Char} (h : text.head?.any isSpace = false) :
    text.dropWhile isSpace = text := by
  cases text with
  | nil => rfl
  | cons c rest => exact List.dropWhile_cons_of_neg (by simpa using h)

/-- White space at the end does not count. -/
theorem trimChars_append_spaces {text spaces : List Char} (h : ∀ c ∈ spaces, isSpace c = true) :
    trimChars (text ++ spaces) = trimChars text := by
  have hEnd (front : List Char) :
      (front ++ spaces).rdropWhile isSpace = front.rdropWhile isSpace := by
    have hBack : ∀ c ∈ spaces.reverse, isSpace c = true := by
      intro c hc
      exact h c (List.mem_reverse.mp hc)
    rw [List.rdropWhile, List.reverse_append, List.dropWhile_append_of_pos hBack]
    rfl
  change ((text ++ spaces).dropWhile isSpace).rdropWhile isSpace =
    (text.dropWhile isSpace).rdropWhile isSpace
  rw [List.dropWhile_append]
  split_ifs with hAll
  · rw [List.dropWhile_eq_nil_iff.mpr h, List.isEmpty_iff.mp hAll]
  · exact hEnd _

/-- Dropping trailing white space first makes no difference to trimming. -/
theorem trimChars_rdropWhile (text : List Char) :
    trimChars (text.rdropWhile isSpace) = trimChars text := by
  have hText : text.rdropWhile isSpace ++ text.rtakeWhile isSpace = text :=
    List.rdropWhile_append_rtakeWhile
  have hSpaces : ∀ c ∈ text.rtakeWhile isSpace, isSpace c = true :=
    fun c hc => List.mem_rtakeWhile_imp hc
  rw [← trimChars_append_spaces hSpaces, hText]

/-- Around a mark that is no white space, only the ends are trimmed. -/
theorem trimChars_append_cons {first rest : List Char} {c : Char}
    (hHead : first.head?.any isSpace = false) (hc : isSpace c = false) :
    trimChars (first ++ c :: rest) = first ++ c :: rest.rdropWhile isSpace := by
  have hFront : (first ++ c :: rest).head?.any isSpace = false := by
    cases first with
    | nil => simpa using hc
    | cons d first => exact hHead
  have hBack : (first ++ c :: rest).rdropWhile isSpace = first ++ c :: rest.rdropWhile isSpace := by
    rw [List.rdropWhile, List.rdropWhile, List.reverse_append, List.reverse_cons,
      List.append_assoc, List.dropWhile_append]
    split_ifs with hAll
    · rw [List.isEmpty_iff.mp hAll, List.singleton_append,
        List.dropWhile_cons_of_neg (by simpa using hc)]
      simp
    · simp
  rw [trimChars, dropWhile_of_head? hFront]
  exact hBack

/-- Texts that are joined by a mark and a blank are found again, up to their ends. -/
theorem map_trimChars_splitOn {mark : Char} {texts : List (List Char)} (hMark : mark ≠ ' ')
    (hNe : texts ≠ []) (h : ∀ text ∈ texts, mark ∉ text) :
    (([mark, ' '].intercalate texts).splitOn mark).map trimChars = texts.map trimChars := by
  induction texts with
  | nil => exact absurd rfl hNe
  | cons text texts ih =>
      obtain ⟨hText, hRest⟩ := List.forall_mem_cons.mp h
      cases texts with
      | nil =>
          rw [List.intercalate_singleton, List.splitOn_eq_singleton hText]
      | cons next texts =>
          have hSplit : text ++ [mark, ' '] ++ [mark, ' '].intercalate (next :: texts) =
              text ++ mark :: ' ' :: [mark, ' '].intercalate (next :: texts) := by simp
          have hTail := ih (by simp) hRest
          rw [List.intercalate_cons_cons, hSplit,
            List.splitOn_append_cons_self_of_not_mem hText, List.map_cons, List.map_cons,
            List.splitOn_cons_eq_if_modifyHead, if_neg (by simpa using hMark.symm)]
          congr 1
          rw [← hTail]
          cases hParts : ([mark, ' '].intercalate (next :: texts)).splitOn mark with
          | nil => exact absurd hParts (List.splitOn_ne_nil _ _)
          | cons first rest => rfl

end Js
