import Mathlib.Data.List.Basic
import Mathlib.Data.List.Infix
import Mathlib.Data.List.TakeWhile

/-! The words of a text: what stands between its breaks, without the empty pieces. -/
namespace Words

section
variable {α : Type} {p : α → Bool} {text run : List α} {c : α}

def wordsBy (p : α → Bool) (text : List α) : List (List α) := (text.splitOnP p).filter (· ≠ [])

theorem wordsBy_nil : wordsBy p [] = [] := by
  rw [wordsBy, List.splitOnP_nil]
  rfl

/-- A break ends the words before it. -/
theorem wordsBy_append_cons (hc : p c = true) (first rest : List α) :
    wordsBy p (first ++ c :: rest) = wordsBy p first ++ wordsBy p rest := by
  rw [wordsBy, List.splitOnP_append_cons first rest hc, List.filter_append]
  rfl

theorem wordsBy_cons (hc : p c = true) (rest : List α) :
    wordsBy p (c :: rest) = wordsBy p rest := by
  have hSplit := wordsBy_append_cons hc [] rest
  rwa [wordsBy_nil] at hSplit

/-- A text without breaks is a word. -/
theorem wordsBy_of_free (hText : text ≠ []) (h : ∀ c ∈ text, p c = false) :
    wordsBy p text = [text] := by
  rw [wordsBy, List.splitOnP_eq_singleton h]
  simp [hText]

/-- A text without a break is one word. -/
theorem wordsBy_of_all (hText : text ≠ []) (h : (text.all fun c => !p c) = true) :
    wordsBy p text = [text] :=
  wordsBy_of_free hText fun c hc => by simpa using List.all_eq_true.mp h c hc

/-- Breaks alone make no word. -/
theorem wordsBy_breaks (h : ∀ c ∈ run, p c = true) : wordsBy p run = [] := by
  induction run with
  | nil => exact wordsBy_nil
  | cons c run ih =>
      obtain ⟨hc, hRun⟩ := List.forall_mem_cons.mp h
      rw [wordsBy_cons hc, ih hRun]

/-- A run of breaks does as much as one. -/
theorem wordsBy_run (hRun : run ≠ []) (h : ∀ c ∈ run, p c = true) (first rest : List α) :
    wordsBy p (first ++ run ++ rest) = wordsBy p first ++ wordsBy p rest := by
  induction run with
  | nil => exact absurd rfl hRun
  | cons c run ih =>
      obtain ⟨hc, hMore⟩ := List.forall_mem_cons.mp h
      rw [List.append_assoc, List.cons_append, wordsBy_append_cons hc]
      cases run with
      | nil => rfl
      | cons d run =>
          have hRest := ih (by simp) hMore
          rw [List.append_assoc, List.cons_append,
            wordsBy_append_cons (hMore d List.mem_cons_self)] at hRest
          rw [List.cons_append, wordsBy_cons (hMore d List.mem_cons_self)]
          exact hRest

/-- Trailing breaks make no difference to the words. -/
theorem wordsBy_append_breaks (h : ∀ c ∈ run, p c = true) (text : List α) :
    wordsBy p (text ++ run) = wordsBy p text := by
  cases run with
  | nil => rw [List.append_nil]
  | cons c run =>
      obtain ⟨hc, hRun⟩ := List.forall_mem_cons.mp h
      rw [wordsBy_append_cons hc, wordsBy_breaks hRun, List.append_nil]

theorem wordsBy_breaks_append (h : ∀ c ∈ run, p c = true) (text : List α) :
    wordsBy p (run ++ text) = wordsBy p text := by
  induction run with
  | nil => rfl
  | cons c run ih =>
      obtain ⟨hc, hRun⟩ := List.forall_mem_cons.mp h
      rw [List.cons_append, wordsBy_cons hc, ih hRun]

/-- The first piece starts the text, and the others lie in it. -/
theorem splitOnP_pieces (p : α → Bool) (text : List α) : ∃ first later,
    text.splitOnP p = first :: later ∧ first <+: text ∧ ∀ piece ∈ later, piece <:+: text := by
  induction text with
  | nil => exact ⟨[], [], List.splitOnP_nil, List.nil_prefix, by simp⟩
  | cons c text ih =>
      obtain ⟨first, later, hSplit, hFirst, hLater⟩ := ih
      rw [List.splitOnP_cons_eq_if_modifyHead, hSplit]
      split_ifs
      · refine ⟨[], first :: later, rfl, List.nil_prefix, fun piece hPiece => ?_⟩
        rcases List.mem_cons.mp hPiece with rfl | hPiece
        · exact hFirst.isInfix.trans (List.suffix_cons c text).isInfix
        · exact (hLater piece hPiece).trans (List.suffix_cons c text).isInfix
      · refine ⟨c :: first, later, rfl, List.cons_prefix_cons.mpr ⟨rfl, hFirst⟩, ?_⟩
        exact fun piece hPiece => (hLater piece hPiece).trans (List.suffix_cons c text).isInfix

/-- A text that does not begin with a break begins with its first word. -/
theorem wordsBy_cons_of_free (hc : p c = false) (text : List α) : ∃ word words,
    wordsBy p (c :: text) = (c :: word) :: words ∧ word <+: text ∧
      ∀ later ∈ words, later <:+: text := by
  obtain ⟨first, later, hSplit, hFirst, hLater⟩ := splitOnP_pieces p text
  refine ⟨first, later.filter (· ≠ []), ?_, hFirst, fun piece hPiece => ?_⟩
  · rw [wordsBy, List.splitOnP_cons_eq_if_modifyHead, hSplit, hc]
    simp
  · exact hLater piece (List.mem_of_mem_filter hPiece)

/-- A map that keeps the breaks maps the pieces. -/
theorem splitOnP_map (f : α → α) (hf : ∀ c, p (f c) = p c) (text : List α) :
    (text.map f).splitOnP p = (text.splitOnP p).map (List.map f) := by
  induction text with
  | nil => rfl
  | cons c text ih =>
      rw [List.map_cons, List.splitOnP_cons_eq_if_modifyHead, List.splitOnP_cons_eq_if_modifyHead,
        hf, ih]
      obtain ⟨first, later, hSplit, -⟩ := splitOnP_pieces p text
      rw [hSplit]
      split_ifs
      · rfl
      · rfl

/-- A map that keeps the breaks maps the words. -/
theorem wordsBy_map (f : α → α) (hf : ∀ c, p (f c) = p c) (text : List α) :
    wordsBy p (text.map f) = (wordsBy p text).map (List.map f) := by
  rw [wordsBy, splitOnP_map f hf, List.filter_map, wordsBy]
  congr 1
  exact List.filter_congr fun piece _ => by simp

/-- Induction along the breaks of a text. -/
theorem free_induction {motive : List α → Prop}
    (free : ∀ text, (∀ c ∈ text, p c = false) → motive text)
    (split : ∀ first c rest, (∀ d ∈ first, p d = false) → p c = true → motive rest →
      motive (first ++ c :: rest)) (text : List α) : motive text := by
  induction hLength : text.length using Nat.strong_induction_on generalizing text with
  | _ length ih =>
      have hFirst : ∀ d ∈ text.takeWhile (fun c => !p c), p d = false := by
        intro d hd
        simpa using List.mem_takeWhile_imp hd
      have hText : text.takeWhile (fun c => !p c) ++ text.dropWhile (fun c => !p c) = text :=
        List.takeWhile_append_dropWhile
      cases hRest : text.dropWhile (fun c => !p c) with
      | nil =>
          rw [hRest, List.append_nil] at hText
          rw [hText] at hFirst
          exact free text hFirst
      | cons c rest =>
          have hStop := List.head?_dropWhile_not (fun c => !p c) text
          rw [hRest] at hText hStop
          rw [← hText]
          refine split _ c rest hFirst (by simpa using hStop) (ih rest.length ?_ rest rfl)
          rw [← hLength, ← hText, List.length_append, List.length_cons]
          omega

end

end Words
