import Mathlib.Data.List.Basic
import Mathlib.Data.List.DropRight
import Mathlib.Data.List.Infix

/-! Absolute paths, and what resolving a text below one of them gives. The components of a text
stand between its slashes; an empty one and `.` stay where they are, and `..` goes up. -/
namespace Paths

section Splitting
variable {α : Type} {a : α} {text part : List α}

/-- A part lies in the joined text. -/
theorem infix_intercalate {separator : List α} {parts : List (List α)} (h : part ∈ parts) :
    part <:+: separator.intercalate parts := by
  induction parts with
  | nil => cases h
  | cons first parts ih =>
      cases parts with
      | nil =>
          obtain rfl := List.mem_singleton.mp h
          rw [List.intercalate_singleton]
      | cons second parts =>
          rw [List.intercalate_cons_cons]
          rcases List.mem_cons.mp h with rfl | hPart
          · exact ⟨[], separator ++ separator.intercalate (second :: parts), by simp⟩
          · exact (ih hPart).trans (List.suffix_append _ _).isInfix

theorem intercalate_append {separator : List α} {first rest : List (List α)} (hFirst : first ≠ [])
    (hRest : rest ≠ []) : separator.intercalate (first ++ rest) =
      separator.intercalate first ++ separator ++ separator.intercalate rest := by
  induction first with
  | nil => exact absurd rfl hFirst
  | cons part first ih =>
      cases first with
      | nil =>
          rw [List.singleton_append, List.intercalate_cons_of_ne_nil hRest,
            List.intercalate_singleton]
      | cons second first =>
          rw [List.cons_append, List.cons_append, List.intercalate_cons_cons, ← List.cons_append,
            ih (by simp), List.intercalate_cons_cons]
          simp

variable [DecidableEq α]

/-- No part holds the mark. -/
theorem notMem_of_mem_splitOn (h : part ∈ text.splitOn a) : a ∉ part := by
  induction text generalizing part with
  | nil =>
      rw [List.splitOn_nil, List.mem_singleton] at h
      rw [h]
      exact List.not_mem_nil
  | cons c text ih =>
      rw [List.splitOn_cons_eq_if_modifyHead] at h
      split_ifs at h with hc
      · rcases List.mem_cons.mp h with rfl | hPart
        · exact List.not_mem_nil
        · exact ih hPart
      · cases hParts : text.splitOn a with
        | nil => exact absurd hParts (List.splitOn_ne_nil a text)
        | cons first others =>
            rw [hParts] at h ih
            rcases List.mem_cons.mp h with rfl | hPart
            · intro ha
              rcases List.mem_cons.mp ha with rfl | ha
              · exact hc (beq_self_eq_true a)
              · exact ih List.mem_cons_self ha
            · exact ih (List.mem_cons_of_mem _ hPart)

/-- A piece of a split text lies in it. -/
theorem infix_of_mem_splitOn (h : part ∈ text.splitOn a) : part <:+: text := by
  have hText : [a].intercalate (text.splitOn a) = text := List.intercalate_splitOn a
  rw [← hText]
  exact infix_intercalate h

end Splitting

/-! ### Components -/

/-- The name of an entry of a directory. -/
structure IsName (part : List Char) : Prop where
  ne_nil : part ≠ []
  noSlash : '/' ∉ part
  ne_dot : part ≠ ['.']
  ne_dots : part ≠ ['.', '.']

/-- A component that leads nowhere. -/
def stays (part : List Char) : Bool := part = [] ∨ part = ['.']

/-- One component further. -/
def enter (parts : List (List Char)) (part : List Char) : List (List Char) :=
  if stays part then parts
  else if part = ['.', '.'] then parts.dropLast
  else parts ++ [part]

/-- The entries that a text leads to, if it never goes up. -/
def entries (text : List Char) : List (List Char) :=
  (text.splitOn '/').filter fun part => !stays part

/-- Entering a part leaves a path of names. -/
theorem isName_enter {parts : List (List Char)} {part : List Char}
    (hParts : ∀ name ∈ parts, IsName name) (hPart : '/' ∉ part) :
    ∀ name ∈ enter parts part, IsName name := by
  unfold enter
  split_ifs with hStays hDots
  · exact hParts
  · exact fun name hName => hParts name (List.mem_of_mem_dropLast hName)
  · have hName : IsName part := by
      unfold stays at hStays
      simp only [decide_eq_true_eq, not_or] at hStays
      exact ⟨hStays.1, hPart, hStays.2, hDots⟩
    intro name hMem
    rcases List.mem_append.mp hMem with hOld | hNew
    · exact hParts name hOld
    · rwa [List.mem_singleton.mp hNew]

/-- Entering part after part leaves a path of names. -/
theorem isName_foldl_enter {parts texts : List (List Char)} (hParts : ∀ name ∈ parts, IsName name)
    (hTexts : ∀ text ∈ texts, '/' ∉ text) : ∀ name ∈ texts.foldl enter parts, IsName name := by
  induction texts generalizing parts with
  | nil => exact hParts
  | cons text texts ih =>
      obtain ⟨hText, hRest⟩ := List.forall_mem_cons.mp hTexts
      exact ih (isName_enter hParts hText) hRest

/-- Without a step up, entering appends the parts that are names. -/
theorem foldl_enter {parts texts : List (List Char)} (h : ['.', '.'] ∉ texts) :
    texts.foldl enter parts = parts ++ texts.filter fun part => !stays part := by
  induction texts generalizing parts with
  | nil => simp
  | cons text texts ih =>
      obtain ⟨hText, hRest⟩ := List.ne_and_not_mem_of_not_mem_cons h
      rw [List.foldl_cons, ih hRest, List.filter_cons]
      unfold enter
      cases stays text with
      | true => simp
      | false => simp [Ne.symm hText]

/-- The last component of a text, slashes behind it ignored. -/
def baseName (text : List Char) : List Char := (text.rdropWhile (· = '/')).rtakeWhile (· ≠ '/')

/-- The end of the last component from its last dot, which is not its first character. -/
def extName (text : List Char) : List Char :=
  let base := baseName text
  if '.' ∉ base.tail ∨ base = ['.', '.'] then [] else '.' :: base.rtakeWhile (· ≠ '.')

example : baseName "imports/1-old.list.XLSX/".toList = "1-old.list.XLSX".toList ∧
    extName "imports/1-old.list.XLSX/".toList = ".XLSX".toList ∧
    extName "surveys/.env".toList = [] := by decide

/-! ### Absolute paths -/

/-- A path from the root, as it is after resolving. -/
structure AbsolutePath where
  parts : List (List Char)
  isName : ∀ part ∈ parts, IsName part

namespace AbsolutePath
variable {path other : AbsolutePath} {relative : List Char}

/-- Paths are equal when their parts are. -/
theorem eq_iff_parts : path = other ↔ path.parts = other.parts := by
  refine ⟨congrArg parts, fun h => ?_⟩
  cases path
  cases other
  exact (AbsolutePath.mk.injEq ..).mpr h

instance : DecidableEq AbsolutePath := fun _ _ => decidable_of_iff _ eq_iff_parts.symm

def text (path : AbsolutePath) : List Char := '/' :: ['/'].intercalate path.parts

/-- `path.resolve(path, text)`; an absolute text starts from the root again. -/
def resolve (path : AbsolutePath) (text : List Char) : AbsolutePath where
  parts := (text.splitOn '/').foldl enter (if text.head? = some '/' then [] else path.parts)
  isName := by
    refine isName_foldl_enter (fun name hName => ?_) fun part hPart => notMem_of_mem_splitOn hPart
    split_ifs at hName
    · cases hName
    · exact path.isName name hName

/-- The path itself, or one below it. -/
def IsWithin (path directory : AbsolutePath) : Prop := directory.parts <+: path.parts

/-- Nothing but `..` leads out of a directory. -/
theorem resolve_parts (hRelative : relative.head? ≠ some '/') (hDots : ¬['.', '.'] <:+: relative) :
    (path.resolve relative).parts = path.parts ++ entries relative := by
  unfold resolve
  dsimp only
  rw [if_neg hRelative, foldl_enter fun hMem => hDots (infix_of_mem_splitOn hMem)]
  rfl

/-- The path with a separator behind it. -/
def withSep (path : AbsolutePath) : List Char :=
  if path.text.getLast? = some '/' then path.text else path.text ++ ['/']

/-- A path within another one continues it after a separator. -/
theorem withSep_prefix (h : path.IsWithin other) (hOther : path.parts ≠ other.parts) :
    other.withSep <+: path.text := by
  obtain ⟨rest, hRest⟩ := h
  have hBelow : rest ≠ [] := by
    rintro rfl
    exact hOther (hRest.symm.trans (List.append_nil _))
  unfold withSep text
  rw [← hRest]
  by_cases hRoot : other.parts = []
  · rw [hRoot]
    exact List.cons_prefix_cons.mpr ⟨rfl, List.nil_prefix⟩
  · rw [intercalate_append hRoot hBelow]
    split_ifs
    · exact ⟨'/' :: ['/'].intercalate rest, by simp⟩
    · exact ⟨['/'].intercalate rest, by simp⟩

end AbsolutePath

theorem entries_append (first rest : List Char) :
    entries (first ++ '/' :: rest) = entries first ++ entries rest := by
  rw [entries, List.splitOn_append_cons_self, List.filter_append]
  rfl

/-- A name is its only entry. -/
theorem entries_of_isName {part : List Char} (h : IsName part) : entries part = [part] := by
  rw [entries, List.splitOn_eq_singleton h.noSlash]
  simp [stays, h.ne_nil, h.ne_dot]

/-- In a text without two dots in a row, every entry is a name. -/
theorem isName_of_mem_entries {text part : List Char} (h : part ∈ entries text)
    (hDots : ¬['.', '.'] <:+: text) : IsName part := by
  obtain ⟨hPart, hStays⟩ := List.mem_filter.mp h
  unfold stays at hStays
  simp only [Bool.not_eq_true', decide_eq_false_iff_not, not_or] at hStays
  refine ⟨hStays.1, notMem_of_mem_splitOn hPart, hStays.2, ?_⟩
  rintro rfl
  exact hDots (infix_of_mem_splitOn hPart)

end Paths
