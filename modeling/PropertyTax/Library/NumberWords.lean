import PropertyTax.Library.JsText

/-! Numbers in words. A text is read word by word: a word adds to the group it
stands in, scales the group, or closes it at a place. -/
namespace Js

/-! ### The words of a text -/

/-- The words between white space. -/
def wordsOf (text : List Char) : List (List Char) := (text.splitOnP isSpace).filter (· ≠ [])

def words (text : String) : List String := (wordsOf text.toList).map String.ofList

/-- Words are parted by white space. -/
theorem wordsOf_append_cons {c : Char} (hSpace : isSpace c = true) (first second : List Char) :
    wordsOf (first ++ c :: second) = wordsOf first ++ wordsOf second := by
  rw [wordsOf, List.splitOnP_append_cons first second hSpace, List.filter_append]
  rfl

theorem wordsOf_cons {c : Char} (hSpace : isSpace c = true) (text : List Char) :
    wordsOf (c :: text) = wordsOf text :=
  wordsOf_append_cons hSpace [] text

/-- White space alone makes no word. -/
theorem wordsOf_of_forall {text : List Char} (h : ∀ c ∈ text, isSpace c = true) :
    wordsOf text = [] := by
  induction text with
  | nil => rfl
  | cons c text ih =>
      rw [wordsOf_cons (h c List.mem_cons_self)]
      exact ih fun d hd => h d (List.mem_cons_of_mem _ hd)

/-- Leading white space makes no difference to the words. -/
theorem wordsOf_dropWhile (text : List Char) :
    wordsOf (text.dropWhile isSpace) = wordsOf text := by
  induction text with
  | nil => rfl
  | cons c text ih =>
      by_cases hSpace : isSpace c = true
      · rw [List.dropWhile_cons_of_pos hSpace, ih, wordsOf_cons hSpace]
      · rw [List.dropWhile_cons_of_neg hSpace]

/-- Trailing white space makes no difference to the words. -/
theorem wordsOf_append_of_forall (text : List Char) {blank : List Char}
    (h : ∀ c ∈ blank, isSpace c = true) :
    wordsOf (text ++ blank) = wordsOf text := by
  cases blank with
  | nil => rw [List.append_nil]
  | cons c blank =>
      rw [wordsOf_append_cons (h c List.mem_cons_self),
        wordsOf_of_forall fun d hd => h d (List.mem_cons_of_mem _ hd), List.append_nil]

/-- No word is lost to trimming. -/
theorem words_trim (text : String) : words (trim text) = words text := by
  rw [words, words, trim, String.toList_ofList, trimChars]
  change (wordsOf (List.rdropWhile isSpace (text.toList.dropWhile isSpace))).map _ = _
  rw [← wordsOf_dropWhile text.toList]
  generalize text.toList.dropWhile isSpace = chars
  have hBlank : ∀ c ∈ chars.rtakeWhile isSpace, isSpace c = true :=
    fun c hc => List.mem_rtakeWhile_imp hc
  rw [← wordsOf_append_of_forall _ hBlank, List.rdropWhile_append_rtakeWhile]

@[simp] theorem words_append_space (first second : String) :
    words (first ++ " " ++ second) = words first ++ words second := by
  have hText : (first ++ " " ++ second).toList = first.toList ++ ' ' :: second.toList := by
    simp [String.toList_append]
  rw [words, hText, wordsOf_append_cons (by decide), List.map_append]
  rfl

/-- Texts joined by spaces have the words of each. -/
theorem words_join (parts : List String) :
    words (String.intercalate " " parts) = parts.flatMap words := by
  induction parts with
  | nil => rfl
  | cons part rest ih =>
      cases rest with
      | nil => simp
      | cons next rest =>
          rw [String.intercalate_cons_cons, words_append_space, ih]
          rfl

end Js

/-! ### Reading a number -/

namespace NumberWords
variable {Word : Type*}

/-- What a word does to the number that is read. -/
inductive Role where
  | add (value : Nat)
  | scale (factor : Nat)
  | close (place : Nat)
deriving DecidableEq

/-- The groups that are closed, and the one that is open. -/
structure Reading where
  total : Nat
  group : Nat
deriving DecidableEq

def Reading.take (reading : Reading) : Role → Reading
  | .add value => { reading with group := reading.group + value }
  | .scale factor => { reading with group := reading.group * factor }
  | .close place => ⟨reading.total + reading.group * place, 0⟩

/-- Every word must have a role. -/
def readFrom (role : Word → Option Role) (reading : Reading) (words : List Word) :
    Option Reading :=
  words.foldlM (fun reading word => (role word).map reading.take) reading

def read (role : Word → Option Role) (words : List Word) : Option Nat :=
  (readFrom role ⟨0, 0⟩ words).map fun reading => reading.total + reading.group

variable {role : Word → Option Role} {words rest : List Word} {word : Word}

theorem readFrom_cons (reading : Reading) : readFrom role reading (word :: rest) =
    (role word).bind fun r => readFrom role (reading.take r) rest := by
  rw [readFrom, List.foldlM_cons]
  cases role word with
  | none => rfl
  | some r => rfl

theorem readFrom_append (reading : Reading) : readFrom role reading (words ++ rest) =
    (readFrom role reading words).bind fun next => readFrom role next rest := by
  rw [readFrom, List.foldlM_append]
  rfl

/-- A word that says nothing spoils the text. -/
theorem readFrom_eq_none (hWord : role word = none) (hMem : word ∈ words) (reading : Reading) :
    readFrom role reading words = none := by
  induction words generalizing reading with
  | nil => cases hMem
  | cons first rest ih =>
      rw [readFrom_cons]
      rcases List.mem_cons.mp hMem with rfl | hRest
      · rw [hWord]
        rfl
      · cases role first with
        | none => rfl
        | some r => exact ih hRest _

/-- The words put a number into an empty group. -/
def Spells (role : Word → Option Role) (words : List Word) (n : Nat) : Prop :=
  ∀ total, readFrom role ⟨total, 0⟩ words = some ⟨total, n⟩

/-- The words raise the group by a number. -/
def Adds (role : Word → Option Role) (words : List Word) (n : Nat) : Prop :=
  ∀ total group, readFrom role ⟨total, group⟩ words = some ⟨total, group + n⟩

theorem Adds.nil : Adds role [] 0 := fun _ _ => rfl

theorem Adds.single {n : Nat} (h : role word = some (.add n)) : Adds role [word] n := by
  intro total group
  rw [readFrom_cons, h]
  rfl

theorem Adds.append {m n : Nat} (h : Adds role words m) (h' : Adds role rest n) :
    Adds role (words ++ rest) (m + n) := by
  intro total group
  rw [readFrom_append, h total group, Option.bind_some, h' total, Nat.add_assoc]

/-- Words that add a number spell it. -/
theorem Adds.spells {n : Nat} (h : Adds role words n) : Spells role words n := by
  intro total
  rw [h total 0, Nat.zero_add]

/-- A group that is scaled, and then raised. -/
theorem Spells.scale {m n factor : Nat} (h : Spells role words m)
    (hWord : role word = some (.scale factor)) (hRest : Adds role rest n) :
    Spells role (words ++ word :: rest) (m * factor + n) := by
  intro total
  rw [readFrom_append, h total, Option.bind_some, readFrom_cons, hWord]
  exact hRest total _

/-- The words add a number to the total. -/
def Totals (role : Word → Option Role) (words : List Word) (n : Nat) : Prop :=
  ∀ total, readFrom role ⟨total, 0⟩ words = some ⟨total + n, 0⟩

theorem Totals.nil : Totals role [] 0 := fun _ => rfl

/-- A spelled number, closed by a place, counts that many times the place. -/
theorem Spells.close {n place : Nat} (h : Spells role words n)
    (hWord : role word = some (.close place)) : Totals role (words ++ [word]) (n * place) := by
  intro total
  rw [readFrom_append, h total, Option.bind_some, readFrom_cons, hWord]
  rfl

theorem Totals.append {m n : Nat} (h : Totals role words m) (h' : Totals role rest n) :
    Totals role (words ++ rest) (m + n) := by
  intro total
  rw [readFrom_append, h total, Option.bind_some, h' _, Nat.add_assoc]

/-- Closed groups, and a last one that is left open. -/
theorem Totals.read {m n : Nat} (h : Totals role words m) (h' : Spells role rest n) :
    read role (words ++ rest) = some (m + n) := by
  rw [NumberWords.read, readFrom_append, h 0, Option.bind_some, h', Option.map_some, Nat.zero_add]

end NumberWords
