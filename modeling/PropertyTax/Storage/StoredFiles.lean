import PropertyTax.Library.Decimals
import PropertyTax.Library.Runs
import PropertyTax.Storage.ObjectKeys
import PropertyTax.Surveys.Export
import PropertyTax.Tax.ZoneWords

/-! The files that calls keep. A key says what kind of file it is, when it came and what it is
called; a call writes below its key without looking what is there, and then a row that names the
key. What is read by a row later is what its own call was given, unless another key is the same. -/
namespace PropertyTax.Storage
open Paths Runs Surveys

abbrev Buffer := List UInt8

/-- A file that is to be kept, as far as its key is made from it. -/
inductive Upload where
  | attachment (surveyId originalname : String) (now : Timestamp)
  | imported (originalname : String) (now : Timestamp)
  | exported (wardNumber : Option ℤ) (now : Timestamp)
deriving DecidableEq

/-- The characters of the class `[\w.-]`. -/
def isSafe (c : Char) : Bool := c.isAlphanum || c == '_' || c == '.' || c == '-'

def safeName (originalname : String) : List Char :=
  (replaceRuns (fun c => !isSafe c) originalname.toList).take 180

/-- `${Date.now()}-${name}` -/
def stamped (now : Timestamp) (name : List Char) : List Char := Js.digits now ++ '-' :: name

structure StoredRow where
  objectKey : String
  fileName : String
deriving DecidableEq

/-- What lies below the root, and the rows that name it. -/
structure Store where
  files : AbsolutePath → Option Buffer
  rows : List StoredRow

def fileNotFound : ApiError := .notFound (some "FILE_NOT_FOUND") "File not found"

inductive StoringProgress where
  | waiting
  | stored
  | recorded
  | refused (error : ApiError)

section Keys
variable (toISOString : ℤ → List Char)

def dayOf (now : Timestamp) : List Char := (toISOString now).take 10

namespace Upload

/-- The name in the last folder. -/
def name : Upload → List Char
  | .attachment _ originalname now => stamped now (safeName originalname)
  | .imported originalname now => stamped now originalname.toList
  | .exported wardNumber now => buildSurveyExportFilename wardNumber (dayOf toISOString now)

def objectKey : Upload → String
  | .attachment surveyId originalname now => String.ofList
      ("surveys/".toList ++ surveyId.toList ++ '/' :: stamped now (safeName originalname))
  | .imported originalname now =>
      String.ofList ("imports/".toList ++ stamped now originalname.toList)
  | .exported wardNumber now => String.ofList
      ("exports/".toList ++ buildSurveyExportFilename wardNumber (dayOf toISOString now))

/-- The name in the row. -/
def fileName : Upload → String
  | .attachment _ originalname _ => originalname
  | .imported originalname _ => originalname
  | .exported wardNumber now =>
      String.ofList (buildSurveyExportFilename wardNumber (dayOf toISOString now))

/-- What two files under one key have in common. -/
def SameFile : Upload → Upload → Prop
  | .attachment surveyId originalname now, .attachment surveyId' originalname' now' =>
      surveyId = surveyId' ∧ now = now' ∧ safeName originalname = safeName originalname'
  | .imported originalname now, .imported originalname' now' =>
      now = now' ∧ originalname = originalname'
  | .exported wardNumber now, .exported wardNumber' now' =>
      wardNumber = wardNumber' ∧ dayOf toISOString now = dayOf toISOString now'
  | _, _ => False

/-- The ids are generated from letters and digits, and an uploaded file comes with the last
component of its path on the computer it is from. -/
def IsProper : Upload → Prop
  | .attachment surveyId _ _ =>
      surveyId.toList ≠ [] ∧ ∀ c ∈ surveyId.toList, c.isAlphanum = true
  | .imported originalname _ => '/' ∉ originalname.toList ∧ '\\' ∉ originalname.toList
  | .exported _ _ => True

end Upload

/-- The date comes first, in ten characters, and has no slash. -/
structure IsIsoClock : Prop where
  long : ∀ now, 10 ≤ (toISOString now).length
  noSlash : ∀ now, '/' ∉ toISOString now ∧ '\\' ∉ toISOString now

end Keys

/-! ### Calls -/

section Calls
variable (root : AbsolutePath)

def putObject (objectKey : String) (buffer : Buffer) (files : AbsolutePath → Option Buffer) :
    Except ApiError (AbsolutePath → Option Buffer) := do
  let filePath ← resolveObjectPath root objectKey
  return Function.update files filePath (some buffer)

def getObject (objectKey : String) (files : AbsolutePath → Option Buffer) :
    Except ApiError Buffer := do
  let filePath ← resolveObjectPath root objectKey
  match files filePath with
  | some buffer => return buffer
  | none => throw fileNotFound

variable (toISOString : ℤ → List Char) {Process : Type} (calls : Process → Upload × Buffer)

def keyOf (call : Process) : String := (calls call).1.objectKey toISOString

def rowOf (call : Process) : StoredRow :=
  ⟨keyOf toISOString calls call, (calls call).1.fileName toISOString⟩

/-- First the file, then the row. A call that fails in between takes no further step. -/
def storeStep (call : Process) (progress : StoringProgress) (store : Store) :
    StoringProgress × Store :=
  match progress with
  | .waiting =>
      match putObject root (keyOf toISOString calls call) (calls call).2 store.files with
      | .ok files => (.stored, { store with files })
      | .error error => (.refused error, store)
  | .stored => (.recorded, { store with rows := rowOf toISOString calls call :: store.rows })
  | progress => (progress, store)

/-- The call has written its file. -/
def HasStored (progress : StoringProgress) : Prop := progress = .stored ∨ progress = .recorded

/-- Whoever has written a file finds it under its key, and every row is that of such a call. -/
structure IsIntact (system : System Process StoringProgress Store) : Prop where
  own : ∀ call, HasStored (system.locals call) →
    getObject root (keyOf toISOString calls call) system.shared.files = .ok (calls call).2
  rows : ∀ row ∈ system.shared.rows, ∃ call, system.locals call = .recorded ∧
    row = rowOf toISOString calls call

/-- The call is about to write, where another call has written something else. -/
def Overwrites (system : System Process StoringProgress Store) (call : Process) : Prop :=
  system.locals call = .waiting ∧ ∃ earlier, HasStored (system.locals earlier) ∧
    (calls earlier).1.SameFile toISOString (calls call).1 ∧ (calls earlier).2 ≠ (calls call).2

/-- Nothing is written yet by these calls. -/
def noneStored (files : AbsolutePath → Option Buffer) : System Process StoringProgress Store :=
  ⟨⟨files, []⟩, fun _ => .waiting⟩

end Calls

/-! ### Keys -/

section Names
variable {toISOString : ℤ → List Char}

theorem digits_inj {m n : Nat} : Js.digits m = Js.digits n ↔ m = n := by
  refine ⟨fun h => ?_, congrArg _⟩
  rw [← Js.ofDigitChars_digits m, h, Js.ofDigitChars_digits]

/-- Digits have no hyphen. -/
theorem hyphen_notMem_digits (n : Nat) : '-' ∉ Js.digits n := by
  intro hMem
  have hDigit := Js.isDigit_of_mem_digits hMem
  revert hDigit
  decide

theorem stamped_inj {now now' : Timestamp} {name name' : List Char} :
    stamped now name = stamped now' name' ↔ now = now' ∧ name = name' := by
  unfold stamped
  rw [Js.append_separator_inj (hyphen_notMem_digits now) (hyphen_notMem_digits now'), digits_inj]

theorem integerToString_inj {m n : ℤ} (h : integerToString m = integerToString n) : m = n := by
  unfold integerToString at h
  split_ifs at h with hm hn hn
  · have hAbs := digits_inj.mp (List.cons.inj h).2
    omega
  · exact absurd (h ▸ List.mem_cons_self) (hyphen_notMem_digits _)
  · exact absurd (h.symm ▸ List.mem_cons_self) (hyphen_notMem_digits _)
  · have hAbs := digits_inj.mp h
    omega

theorem exportFilename_inj {ward ward' : Option ℤ} {day day' : List Char}
    (hLength : day.length = day'.length) :
    buildSurveyExportFilename ward day = buildSurveyExportFilename ward' day' ↔
      ward = ward' ∧ day = day' := by
  refine ⟨fun h => ?_, fun h => by rw [h.1, h.2]⟩
  cases ward with
  | none =>
      cases ward' with
      | none =>
          have hDay := List.append_cancel_left (List.append_cancel_right h)
          exact ⟨rfl, hDay⟩
      | some number =>
          have hAfter : "survey-export-".toList ++ 'a' :: _ =
            "survey-export-".toList ++ 'w' :: _ := h
          exact absurd (List.cons.inj (List.append_cancel_left hAfter)).1 (by decide)
  | some number =>
      cases ward' with
      | none =>
          have hAfter : "survey-export-".toList ++ 'w' :: _ =
            "survey-export-".toList ++ 'a' :: _ := h
          exact absurd (List.cons.inj (List.append_cancel_left hAfter)).1 (by decide)
      | some number' =>
          obtain ⟨hNumber, hDay⟩ :=
            List.append_inj' (List.append_cancel_right h) (by simp [hLength])
          rw [integerToString_inj (List.append_cancel_left hNumber)]
          exact ⟨rfl, (List.cons.inj hDay).2⟩

/-- Neither kind of slash is in the text. -/
def IsPlain (text : List Char) : Prop := ∀ c ∈ text, c ≠ '/' ∧ c ≠ '\\'

theorem isPlain_append {first second : List Char} :
    IsPlain (first ++ second) ↔ IsPlain first ∧ IsPlain second :=
  List.forall_mem_append

theorem isPlain_of_isSafe {text : List Char} (h : text.all isSafe = true) : IsPlain text := by
  intro c hc
  have hSafe := List.all_eq_true.mp h c hc
  constructor
  · rintro rfl
    exact absurd hSafe (by decide)
  · rintro rfl
    exact absurd hSafe (by decide)

theorem isSafe_of_isDigit {c : Char} (h : c.isDigit = true) : isSafe c = true := by
  simp [isSafe, Char.isAlphanum, h]

theorem isPlain_digits (n : Nat) : IsPlain (Js.digits n) :=
  isPlain_of_isSafe (List.all_eq_true.mpr fun _ hc =>
    isSafe_of_isDigit (Js.isDigit_of_mem_digits hc))

theorem isPlain_hyphen {text : List Char} (h : IsPlain text) : IsPlain ('-' :: text) :=
  List.forall_mem_cons.mpr ⟨by decide, h⟩

theorem isPlain_stamped {now : Timestamp} {name : List Char} (h : IsPlain name) :
    IsPlain (stamped now name) :=
  isPlain_append.mpr ⟨isPlain_digits now, isPlain_hyphen h⟩

theorem isPlain_integerToString (n : ℤ) : IsPlain (integerToString n) := by
  unfold integerToString
  split_ifs
  · exact isPlain_hyphen (isPlain_digits _)
  · exact isPlain_digits _

theorem isPlain_safeName (originalname : String) : IsPlain (safeName originalname) := by
  apply isPlain_of_isSafe
  refine List.all_eq_true.mpr fun c hc => ?_
  rcases mem_replaceRuns (List.mem_of_mem_take hc) with rfl | ⟨-, hSafe⟩
  · decide
  · simpa using hSafe

theorem isPlain_exportFilename {ward : Option ℤ} {day : List Char} (hDay : IsPlain day) :
    IsPlain (buildSurveyExportFilename ward day) := by
  have hEnd : IsPlain ".xlsx".toList := isPlain_of_isSafe (by rfl)
  have hAll : IsPlain "survey-export-all-".toList := isPlain_of_isSafe (by rfl)
  have hWard : IsPlain "survey-export-ward-".toList := isPlain_of_isSafe (by rfl)
  cases ward with
  | none => exact isPlain_append.mpr ⟨isPlain_append.mpr ⟨hAll, hDay⟩, hEnd⟩
  | some number =>
      have hNumber := isPlain_append.mpr ⟨hWard, isPlain_integerToString number⟩
      exact isPlain_append.mpr ⟨isPlain_append.mpr ⟨hNumber, isPlain_hyphen hDay⟩, hEnd⟩

end Names

section Keys
variable {toISOString : ℤ → List Char} {upload other : Upload} {root path : AbsolutePath}

theorem isPlain_dayOf (hClock : IsIsoClock toISOString) (now : Timestamp) :
    IsPlain (dayOf toISOString now) := by
  intro c hc
  have hMem := List.mem_of_mem_take hc
  obtain ⟨hSlash, hBackslash⟩ := hClock.noSlash now
  exact ⟨fun h => hSlash (h ▸ hMem), fun h => hBackslash (h ▸ hMem)⟩

/-- The day of a time has ten characters. -/
theorem length_dayOf (hClock : IsIsoClock toISOString) (now : Timestamp) :
    (dayOf toISOString now).length = 10 :=
  List.length_take_of_le (hClock.long now)

namespace Upload

/-- The folders and the name, as they stand between the slashes of the key. -/
def segments (toISOString : ℤ → List Char) (upload : Upload) : List (List Char) :=
  match upload with
  | .attachment surveyId .. => ["surveys".toList, surveyId.toList, upload.name toISOString]
  | .imported .. => ["imports".toList, upload.name toISOString]
  | .exported .. => ["exports".toList, upload.name toISOString]

theorem isPlain_name (hClock : IsIsoClock toISOString) (hProper : upload.IsProper) :
    IsPlain (upload.name toISOString) := by
  cases upload with
  | attachment surveyId originalname now => exact isPlain_stamped (isPlain_safeName originalname)
  | imported originalname now =>
      apply isPlain_stamped
      intro c hc
      exact ⟨fun h => hProper.1 (h ▸ hc), fun h => hProper.2 (h ▸ hc)⟩
  | exported wardNumber now => exact isPlain_exportFilename (isPlain_dayOf hClock now)

/-- The name of a stored file has a hyphen. -/
theorem hyphen_mem_name (upload : Upload) : '-' ∈ upload.name toISOString := by
  have hStamped (now : Timestamp) (name : List Char) : '-' ∈ stamped now name :=
    List.mem_append_right _ List.mem_cons_self
  cases upload with
  | attachment surveyId originalname now => exact hStamped now _
  | imported originalname now => exact hStamped now _
  | exported wardNumber now =>
      unfold name buildSurveyExportFilename
      cases wardNumber with
      | none => simp
      | some number => simp

/-- The name of a stored file is a file's name. -/
theorem isName_name (hClock : IsIsoClock toISOString) (hProper : upload.IsProper) :
    IsName (upload.name toISOString) where
  ne_nil := List.ne_nil_of_mem (hyphen_mem_name upload)
  noSlash hSlash := (isPlain_name hClock hProper _ hSlash).1 rfl
  ne_dot hDot := absurd (hDot ▸ hyphen_mem_name upload) (by decide)
  ne_dots hDots := absurd (hDots ▸ hyphen_mem_name upload) (by decide)

/-- Letters and digits are a file's name. -/
theorem isName_of_alphanum {id : List Char} (hNil : id ≠ [])
    (hChars : ∀ c ∈ id, c.isAlphanum = true) : IsName id where
  ne_nil := hNil
  noSlash hSlash := absurd (hChars _ hSlash) (by decide)
  ne_dot hDot := absurd (hChars '.' (by simp [hDot])) (by decide)
  ne_dots hDots := absurd (hChars '.' (by simp [hDots])) (by decide)

/-- In a key without backslashes nothing is replaced. -/
theorem normalizeKey_of_plain {key : List Char} (hBackslash : '\\' ∉ key)
    (hHead : key.head? ≠ some '/') : (normalizeKey (String.ofList key)).toList = key := by
  have hMap : (key.map fun c => if c = '\\' then '/' else c) = key := by
    refine (List.map_congr_left fun c hc => if_neg ?_).trans (List.map_id key)
    rintro rfl
    exact hBackslash hc
  unfold normalizeKey
  rw [String.toList_ofList, String.toList_ofList, hMap]
  cases key with
  | nil => rfl
  | cons c rest =>
      have hFirst : c ≠ '/' := fun h => hHead (congrArg some h)
      rw [List.dropWhile_cons_of_neg (by simpa using hFirst)]

/-- The entries of an object key are its segments. -/
theorem entries_objectKey (hClock : IsIsoClock toISOString) (hProper : upload.IsProper) :
    entries (normalizeKey (upload.objectKey toISOString)).toList =
      upload.segments toISOString := by
  have hPlain := isPlain_name hClock hProper
  have hName := entries_of_isName (isName_name hClock hProper)
  have hBackslash : '\\' ∉ upload.name toISOString := fun h => (hPlain _ h).2 rfl
  cases upload with
  | attachment surveyId originalname now =>
      have hId : IsName surveyId.toList := isName_of_alphanum hProper.1 hProper.2
      have hIdBackslash : '\\' ∉ surveyId.toList := fun h => absurd (hProper.2 _ h) (by decide)
      unfold objectKey
      rw [normalizeKey_of_plain]
      · have hKey : "surveys/".toList ++ surveyId.toList ++
            '/' :: stamped now (safeName originalname) =
            "surveys".toList ++ '/' :: (surveyId.toList ++ '/' :: _) := List.append_assoc ..
        rw [hKey, entries_of_name isName_surveys, entries_of_name hId]
        exact congrArg (["surveys".toList, surveyId.toList] ++ ·) hName
      · intro hMem
        rcases List.mem_append.mp hMem with hMem | hMem
        · exact (List.mem_append.mp hMem).elim (by decide) hIdBackslash
        · exact (List.mem_cons.mp hMem).elim (by decide) hBackslash
      · simp
  | imported originalname now =>
      unfold objectKey
      rw [normalizeKey_of_plain]
      · exact (entries_of_name isName_imports _).trans (congrArg ("imports".toList :: ·) hName)
      · exact fun hMem => (List.mem_append.mp hMem).elim (by decide) hBackslash
      · simp
  | exported wardNumber now =>
      unfold objectKey
      rw [normalizeKey_of_plain]
      · exact (entries_of_name isName_exports _).trans (congrArg ("exports".toList :: ·) hName)
      · exact fun hMem => (List.mem_append.mp hMem).elim (by decide) hBackslash
      · simp

/-- Two uploads have the same segments when they are the same file. -/
theorem segments_eq_iff (hClock : IsIsoClock toISOString) :
    upload.segments toISOString = other.segments toISOString ↔
      upload.SameFile toISOString other := by
  cases upload with
  | attachment surveyId originalname now =>
      cases other with
      | attachment surveyId' originalname' now' =>
          simp [segments, name, SameFile, stamped_inj, String.toList_inj]
      | imported => simp [segments, SameFile]
      | exported => simp [segments, SameFile]
  | imported originalname now =>
      cases other with
      | attachment => simp [segments, SameFile]
      | imported originalname' now' =>
          simp [segments, name, SameFile, stamped_inj, String.toList_inj]
      | exported => simp [segments, SameFile]
  | exported wardNumber now =>
      cases other with
      | attachment => simp [segments, SameFile]
      | imported => simp [segments, SameFile]
      | exported wardNumber' now' =>
          have hLength : (dayOf toISOString now).length = (dayOf toISOString now').length :=
            (length_dayOf hClock now).trans (length_dayOf hClock now').symm
          simp [segments, name, SameFile, exportFilename_inj hLength]

/-- An object key is its segments, joined. -/
theorem objectKey_eq_segments (upload : Upload) : upload.objectKey toISOString =
    String.ofList (['/'].intercalate (upload.segments toISOString)) := by
  unfold objectKey
  cases upload with
  | attachment surveyId originalname now =>
      dsimp only
      simp [segments, name]
  | imported originalname now =>
      dsimp only
      simp [segments, name]
  | exported wardNumber now =>
      dsimp only
      simp [segments, name]

/-- The same file has one key. -/
theorem SameFile.objectKey_eq (hClock : IsIsoClock toISOString)
    (h : upload.SameFile toISOString other) :
    upload.objectKey toISOString = other.objectKey toISOString := by
  rw [objectKey_eq_segments, objectKey_eq_segments, (segments_eq_iff hClock).mpr h]

/-- Two files lie at one path exactly when they are the same file. -/
theorem path_eq_iff (hClock : IsIsoClock toISOString) (hProper : upload.IsProper)
    (hOther : other.IsProper) {otherPath : AbsolutePath}
    (hPath : resolveObjectPath root (upload.objectKey toISOString) = .ok path)
    (hOtherPath : resolveObjectPath root (other.objectKey toISOString) = .ok otherPath) :
    path = otherPath ↔ upload.SameFile toISOString other := by
  rw [AbsolutePath.eq_iff_parts, parts_of_resolveObjectPath hPath,
    parts_of_resolveObjectPath hOtherPath, entries_objectKey hClock hProper,
    entries_objectKey hClock hOther, List.append_cancel_left_eq, segments_eq_iff hClock]

end Upload
end Keys

/-! ### Files -/

section Files
variable {root : AbsolutePath} {objectKey key : String} {buffer : Buffer}
  {files files' : AbsolutePath → Option Buffer}

/-- A file is put where its key resolves to. -/
theorem putObject_eq_ok_iff : putObject root objectKey buffer files = .ok files' ↔
    ∃ path, resolveObjectPath root objectKey = .ok path ∧
      files' = Function.update files path (some buffer) := by
  unfold putObject
  cases resolveObjectPath root objectKey with
  | error error => exact iff_of_false nofun nofun
  | ok path => exact ⟨fun h => ⟨path, rfl, (Except.ok.inj h).symm⟩, by rintro ⟨_, ⟨⟩, rfl⟩; rfl⟩

/-- A file is read where its key resolves to. -/
theorem getObject_eq_ok_iff : getObject root objectKey files = .ok buffer ↔
    ∃ path, resolveObjectPath root objectKey = .ok path ∧ files path = some buffer := by
  unfold getObject
  cases resolveObjectPath root objectKey with
  | error error => exact iff_of_false nofun nofun
  | ok path =>
      change (match files path with | some buffer => _ | none => _) = _ ↔ _
      cases hFile : files path with
      | none => exact iff_of_false nofun (by rintro ⟨_, ⟨⟩, h⟩; rw [hFile] at h; cases h)
      | some found =>
          constructor
          · intro h
            exact ⟨path, rfl, hFile.trans (congrArg some (Except.ok.inj h))⟩
          · rintro ⟨_, ⟨⟩, h⟩
            rw [hFile] at h
            exact congrArg Except.ok (Option.some.inj h)

end Files

/-! ### Calls in any order -/

section Interleavings
variable {root : AbsolutePath} {toISOString : ℤ → List Char} {Process : Type}
  {calls : Process → Upload × Buffer} {system : System Process StoringProgress Store}
  {call other : Process}

variable (root toISOString calls call) in
/-- What a step of a call can be. -/
theorem storeStep_cases (progress : StoringProgress) (store : Store) :
    (∃ path, progress = .waiting ∧
      resolveObjectPath root (keyOf toISOString calls call) = .ok path ∧
      storeStep root toISOString calls call progress store =
        (.stored, { store with files := Function.update store.files path (some (calls call).2) })) ∨
    (∃ error, progress = .waiting ∧
      storeStep root toISOString calls call progress store = (.refused error, store)) ∨
    (progress = .stored ∧ storeStep root toISOString calls call progress store =
      (.recorded, { store with rows := rowOf toISOString calls call :: store.rows })) ∨
    storeStep root toISOString calls call progress store = (progress, store) := by
  cases progress with
  | waiting =>
      unfold storeStep
      dsimp only
      cases hPut : putObject root (keyOf toISOString calls call) (calls call).2 store.files with
      | ok files =>
          obtain ⟨path, hPath, rfl⟩ := putObject_eq_ok_iff.mp hPut
          exact .inl ⟨path, rfl, hPath, rfl⟩
      | error error => exact .inr (.inl ⟨error, rfl, rfl⟩)
  | stored => exact .inr (.inr (.inl ⟨rfl, rfl⟩))
  | recorded => exact .inr (.inr (.inr rfl))
  | refused error => exact .inr (.inr (.inr rfl))

/-- A step that writes no file keeps what the others have written. -/
theorem IsIntact.of_files_eq (h : IsIntact root toISOString calls system)
    {after : System Process StoringProgress Store}
    (hFiles : after.shared.files = system.shared.files)
    (hStored : ∀ other, HasStored (after.locals other) → HasStored (system.locals other))
    (hRows : ∀ row ∈ after.shared.rows, ∃ call, after.locals call = .recorded ∧
      row = rowOf toISOString calls call) : IsIntact root toISOString calls after where
  own other hOther := by
    rw [hFiles]
    exact h.own other (hStored other hOther)
  rows := hRows

variable [DecidableEq Process]

/-- A recorded call stays recorded. -/
theorem recorded_fire (h : system.locals other = .recorded) :
    (fire (storeStep root toISOString calls) system call).locals other = .recorded := by
  by_cases hCall : other = call
  · subst hCall
    rw [fire_locals_self, h]
    rfl
  · rwa [fire_locals_of_ne _ hCall]

/-- A call that has stored its file stays so. -/
theorem hasStored_fire (h : HasStored (system.locals other)) :
    HasStored ((fire (storeStep root toISOString calls) system call).locals other) := by
  by_cases hCall : other = call
  · subst hCall
    rw [fire_locals_self]
    rcases h with hStored | hRecorded
    · rw [hStored]
      exact .inr rfl
    · rw [hRecorded]
      exact .inr rfl
  · rwa [fire_locals_of_ne _ hCall]

/-- As long as nothing is written over, a step keeps everything in its place. -/
theorem IsIntact.fire (hClock : IsIsoClock toISOString) (hProper : ∀ call, (calls call).1.IsProper)
    (h : IsIntact root toISOString calls system)
    (hKeeps : ¬ Overwrites toISOString calls system call) :
    IsIntact root toISOString calls (fire (storeStep root toISOString calls) system call) := by
  have hSame {other : Process} (hne : other ≠ call) :
      (Runs.fire (storeStep root toISOString calls) system call).locals other =
        system.locals other := fire_locals_of_ne system hne
  have hSelf : (Runs.fire (storeStep root toISOString calls) system call).locals call = _ :=
    fire_locals_self system call
  have hShared : (Runs.fire (storeStep root toISOString calls) system call).shared = _ :=
    fire_shared system call
  have hRows : ∀ row ∈ system.shared.rows, ∃ earlier,
      (Runs.fire (storeStep root toISOString calls) system call).locals earlier = .recorded ∧
        row = rowOf toISOString calls earlier := fun row hRow => by
    obtain ⟨earlier, hRecorded, hEq⟩ := h.rows row hRow
    exact ⟨earlier, recorded_fire hRecorded, hEq⟩
  have hBefore {progress : StoringProgress} (hProgress : ¬ HasStored progress ∨
      HasStored (system.locals call)) (hNext : (Runs.fire (storeStep root toISOString calls)
        system call).locals call = progress) (other : Process)
      (hOther : HasStored ((Runs.fire (storeStep root toISOString calls) system call).locals
        other)) : HasStored (system.locals other) := by
    by_cases hCall : other = call
    · subst hCall
      exact hProgress.resolve_left (not_not.mpr (hNext ▸ hOther))
    · rwa [hSame hCall] at hOther
  obtain ⟨path, hWaiting, hPath, hStep⟩ | ⟨error, hWaiting, hStep⟩ | ⟨hStored, hStep⟩ | hStep :=
    storeStep_cases root toISOString calls call (system.locals call) system.shared
  · rw [hStep] at hSelf hShared
    refine ⟨fun other hOther => ?_, by rwa [hShared]⟩
    rw [hShared]
    by_cases hCall : other = call
    · subst hCall
      exact getObject_eq_ok_iff.mpr ⟨path, hPath, Function.update_self ..⟩
    · rw [hSame hCall] at hOther
      obtain ⟨otherPath, hOtherPath, hFile⟩ := getObject_eq_ok_iff.mp (h.own other hOther)
      refine getObject_eq_ok_iff.mpr ⟨otherPath, hOtherPath, ?_⟩
      by_cases hPaths : otherPath = path
      · have hFiles := (Upload.path_eq_iff hClock (hProper other) (hProper call) hOtherPath
          hPath).mp hPaths
        have hBuffer : (calls other).2 = (calls call).2 := by
          by_contra hne
          exact hKeeps ⟨hWaiting, other, hOther, hFiles, hne⟩
        rw [hPaths, hBuffer]
        exact Function.update_self ..
      · exact (Function.update_of_ne hPaths ..).trans hFile
  · rw [hStep] at hSelf hShared
    refine h.of_files_eq (congrArg Store.files hShared) (hBefore (.inl ?_) hSelf) (by rwa [hShared])
    exact fun hStored => hStored.elim nofun nofun
  · rw [hStep] at hSelf hShared
    refine h.of_files_eq (by rw [hShared]) (hBefore (.inr (.inl hStored)) hSelf) ?_
    intro row hRow
    rw [hShared] at hRow
    rcases List.mem_cons.mp hRow with rfl | hOld
    · exact ⟨call, hSelf, rfl⟩
    · exact hRows row hOld
  · rw [hStep] at hSelf hShared
    refine h.of_files_eq (congrArg Store.files hShared) (fun other hOther => ?_) (by rwa [hShared])
    by_cases hCall : other = call
    · subst hCall
      rwa [hSelf] at hOther
    · rwa [hSame hCall] at hOther

/-- What is written over is lost: its own call does not find it any more. -/
theorem IsIntact.keeps (hClock : IsIsoClock toISOString)
    (h : IsIntact root toISOString calls system)
    (hAfter : IsIntact root toISOString calls (Runs.fire (storeStep root toISOString calls) system
      call)) : ¬ Overwrites toISOString calls system call := by
  rintro ⟨hWaiting, earlier, hEarlier, hFiles, hne⟩
  have hKey : keyOf toISOString calls earlier = keyOf toISOString calls call :=
    hFiles.objectKey_eq hClock
  have hOld := h.own earlier hEarlier
  obtain ⟨path, hPath, -⟩ := getObject_eq_ok_iff.mp hOld
  have hNew := hAfter.own earlier (hasStored_fire hEarlier)
  have hStep : storeStep root toISOString calls call (system.locals call) system.shared =
      (.stored, { system.shared with
        files := Function.update system.shared.files path (some (calls call).2) }) := by
    have hPut : putObject root (keyOf toISOString calls call) (calls call).2 system.shared.files =
        .ok (Function.update system.shared.files path (some (calls call).2)) :=
      putObject_eq_ok_iff.mpr ⟨path, hKey ▸ hPath, rfl⟩
    unfold storeStep
    rw [hWaiting]
    dsimp only
    rw [hPut]
  rw [fire_shared, hStep] at hNew
  obtain ⟨path', hPath', hFile⟩ := getObject_eq_ok_iff.mp hNew
  obtain rfl : path = path' := Except.ok.inj (hPath.symm.trans hPath')
  have hOver : Function.update system.shared.files path (some (calls call).2) path =
    some (calls earlier).2 := hFile
  rw [Function.update_self] at hOver
  exact hne (Option.some.inj hOver).symm

omit [DecidableEq Process] in
/-- Before the first call, every stored file is intact. -/
theorem isIntact_noneStored (files : AbsolutePath → Option Buffer) :
    IsIntact root toISOString calls (noneStored files) where
  own _ h := h.elim nofun nofun
  rows := nofun

end Interleavings

/-- In whatever order the calls take their steps: each file that was stored is read under its
key with the bytes that its own call was given, at every moment, exactly if no call writes
something else into a file of one kind, moment and name. -/
theorem stored_files_stand_iff (root : AbsolutePath) {toISOString : ℤ → List Char}
    (hClock : IsIsoClock toISOString) {Process : Type} [DecidableEq Process]
    {calls : Process → Upload × Buffer} (hProper : ∀ call, (calls call).1.IsProper)
    (files : AbsolutePath → Option Buffer) (schedule : List Process) :
    Along (fire (storeStep root toISOString calls)) (fun system call =>
      IsIntact root toISOString calls (fire (storeStep root toISOString calls) system call))
      (noneStored files) schedule ↔
    Along (fire (storeStep root toISOString calls)) (fun system call =>
      ¬ Overwrites toISOString calls system call) (noneStored files) schedule :=
  along_iff (IsIntact root toISOString calls)
    (fun _ _ h => ⟨fun hAfter => h.keeps hClock hAfter, fun hKeeps => h.fire hClock hProper hKeeps⟩)
    (fun _ _ _ hAfter => hAfter) (isIntact_noneStored files) schedule

namespace Sample

def midnightOf (day : List Char) : List Char :=
  "2026-04-".toList ++ (day ++ "T00:00:00.000Z".toList)

/-- The clock of April 2026, which starts over when the month is done. -/
def aprilClock (now : ℤ) : List Char :=
  midnightOf ((Js.digits (101 + (now / 86400000 % 30).toNat)).drop 1)

/-- A midnight has only the characters of its day and of the pattern. -/
theorem notMem_midnightOf {c : Char} {day : List Char} (hDay : ∀ c ∈ day, c.isDigit = true)
    (hDigit : c.isDigit = false) (hDate : c ∉ "2026-04-".toList)
    (hTime : c ∉ "T00:00:00.000Z".toList) : c ∉ midnightOf day := by
  intro hMem
  obtain h | hMem := List.mem_append.mp hMem
  · exact hDate h
  · obtain h | h := List.mem_append.mp hMem
    · exact absurd (hDay c h) (ne_true_of_eq_false hDigit)
    · exact hTime h

theorem aprilClock_isIsoClock : IsIsoClock aprilClock where
  long now := by
    have hLong (day : List Char) : 10 ≤ (midnightOf day).length := by
      have hTime : 10 ≤ "T00:00:00.000Z".toList.length := by decide
      exact hTime.trans ((List.sublist_append_right day _).trans
        (List.sublist_append_right "2026-04-".toList _)).length_le
    exact hLong _
  noSlash now :=
    have hDay : ∀ c ∈ (Js.digits (101 + (now / 86400000 % 30).toNat)).drop 1, c.isDigit = true :=
      fun _ hMem => Js.isDigit_of_mem_digits (List.mem_of_mem_drop hMem)
    ⟨notMem_midnightOf hDay (by decide) (by decide) (by decide),
      notMem_midnightOf hDay (by decide) (by decide) (by decide)⟩

/-- Ward 5 is exported twice on one day, with two selections, an hour apart. -/
def twoExports (call : Bool) : Upload × Buffer :=
  (.exported (some 5) (if call then 0 else 3600000), if call then [1] else [2])

end Sample

/-- The second export of a day is what the link of the first opens. -/
theorem stored_files_stand_iff_twoExports :
    ¬ Along (fire (storeStep Sample.uploads Sample.aprilClock Sample.twoExports))
      (fun system call => IsIntact Sample.uploads Sample.aprilClock Sample.twoExports
        (fire (storeStep Sample.uploads Sample.aprilClock Sample.twoExports) system call))
      (noneStored fun _ => none) [true, true, false] := by
  intro hIntact
  have hKeeps := (stored_files_stand_iff Sample.uploads Sample.aprilClock_isIsoClock
    (fun call => by cases call <;> trivial) (fun _ => none) [true, true, false]).mp hIntact
  refine hKeeps.2.2.1 ⟨rfl, true, .inr rfl, ⟨rfl, by decide⟩, by decide⟩

end PropertyTax.Storage
