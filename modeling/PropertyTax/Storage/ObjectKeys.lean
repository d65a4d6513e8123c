import PropertyTax.Auth
import PropertyTax.Library.JsText
import PropertyTax.Library.Paths

/-! Keys of stored files. One reading of a key decides who may have the file, another which
file is opened: the first looks at the characters only, the second resolves a path. -/
namespace PropertyTax
namespace Storage
open Paths

/-- `objectKey.replaceAll("\\", "/").replace(/^\/+/, "")` -/
def normalizeKey (objectKey : String) : String :=
  String.ofList ((objectKey.toList.map fun c => if c = '\\' then '/' else c).dropWhile (· = '/'))

/-- The text behind a label. -/
def after? (label : String) (key : String) : Option (List Char) :=
  label.toList.isPrefixOf? key.toList

/-! ### Access -/

inductive FileAccessAction where
  | read | create
deriving DecidableEq

def FileAccessAction.permission : FileAccessAction → String
  | read => "file:read"
  | create => "file:create"

/-- What the check reads of the survey of a file. -/
structure SurveyResource where
  createdById : Option Id

structure FileResource where
  objectKey : String
  surveyId : Option String := none
  uploadedById : Option Id := none
  createdById : Option Id := none

/-- `/^surveys\/([^/]+)\//` -/
def parseSurveyIdFromObjectKey (objectKey : String) : Option String :=
  match after? "surveys/" (normalizeKey objectKey) with
  | none => none
  | some rest =>
      let id := rest.takeWhile (· ≠ '/')
      if id = [] ∨ id = rest then none else some (String.ofList id)

def assertFileAccess (user : AuthUser) (file : FileResource) (action : FileAccessAction)
    (survey : Option SurveyResource) : Except ApiError Unit := do
  assertPermission user [action.permission]
  if hasBroadResourceAccess user then return
  let key := normalizeKey file.objectKey
  if (after? "imports/" key).isSome || (after? "exports/" key).isSome then
    if isScopedOperator user && file.createdById.any (· ≠ user.id) then
      throw (.forbidden "You can only access your own import or export files")
    return
  if (after? "surveys/" key).isSome then
    -- an empty id is falsy, but it is not replaced by the one of the key
    let surveyId := file.surveyId.or (parseSurveyIdFromObjectKey key)
    if surveyId.getD "" = "" then throw (.forbidden "Invalid survey file reference")
    match survey with
    | some survey =>
        assertSurveyAccess user survey.createdById (if action = .read then .read else .update)
    | none =>
        if isScopedOperator user && file.uploadedById.any (· ≠ user.id) then
          throw (.forbidden "You can only access files you uploaded")
    return
  if isScopedOperator user then throw (.forbidden "You do not have access to this file")

/-! ### Paths -/

def invalidObjectKey : ApiError := .badRequest (some "INVALID_OBJECT_KEY") "Invalid object key"

/-- The storage root is a directory that was resolved when the service started. -/
def resolveObjectPath (root : AbsolutePath) (objectKey : String) : Except ApiError AbsolutePath :=
  let normalized := (normalizeKey objectKey).toList
  if normalized = [] ∨ ['.', '.'] <:+: normalized then .error invalidObjectKey
  else
    let full := root.resolve normalized
    if full.text ≠ root.text ∧ ¬root.withSep <+: full.text then .error invalidObjectKey
    else .ok full

/-- The folder that the access decision is about, below the storage root. -/
def judgedFolder (objectKey : String) : Option (List String) :=
  let key := normalizeKey objectKey
  if (after? "imports/" key).isSome then some ["imports"]
  else if (after? "exports/" key).isSome then some ["exports"]
  else (parseSurveyIdFromObjectKey objectKey).map fun id => ["surveys", id]

/-- The path is that of the folder, or of something in it. -/
def LiesIn (root path : AbsolutePath) (folder : List String) : Prop :=
  root.parts ++ folder.map String.toList <+: path.parts

/-- The file that is opened lies in the folder that was judged. -/
def IsJudgedAsOpened (root path : AbsolutePath) (objectKey : String) : Prop :=
  ∃ folder, judgedFolder objectKey = some folder ∧ LiesIn root path folder

/-- Behind `surveys/` there is an id that is not `.`, and a slash. -/
def NamesSurvey (objectKey : String) : Prop :=
  ∀ text, (normalizeKey objectKey).toList = "surveys/".toList ++ text →
    ∃ id rest, text = id ++ '/' :: rest ∧ id ≠ [] ∧ '/' ∉ id ∧ id ≠ ['.']

/-! ### Readings of a key -/

section Reading
variable {label key objectKey id : String} {rest : List Char}

/-- What comes after a label is the rest of the key. -/
theorem after?_eq_some_iff : after? label key = some rest ↔ key.toList = label.toList ++ rest := by
  unfold after?
  rw [List.isPrefixOf?_eq_some_iff_append_eq, eq_comm]

/-- Something comes after a label when the key starts with it. -/
theorem isSome_after?_iff : (after? label key).isSome = true ↔ label.toList <+: key.toList := by
  rw [Option.isSome_iff_exists]
  exact exists_congr fun rest => after?_eq_some_iff.trans eq_comm

/-- A normalized key does not start with a slash. -/
theorem head?_normalizeKey (objectKey : String) :
    (normalizeKey objectKey).toList.head? ≠ some '/' := by
  unfold normalizeKey
  rw [String.toList_ofList]
  intro hHead
  have hFirst := List.head?_dropWhile_not (fun c => decide (c = '/'))
    (objectKey.toList.map fun c => if c = '\\' then '/' else c)
  rw [hHead] at hFirst
  simp at hFirst

/-- The survey id is what stands between the label and the next slash. -/
theorem parseSurveyIdFromObjectKey_eq_some_iff :
    parseSurveyIdFromObjectKey objectKey = some id ↔ ∃ rest,
      (normalizeKey objectKey).toList = "surveys/".toList ++ id.toList ++ '/' :: rest ∧
        id.toList ≠ [] ∧ '/' ∉ id.toList := by
  unfold parseSurveyIdFromObjectKey
  constructor
  · intro hParse
    cases hAfter : after? "surveys/" (normalizeKey objectKey) with
    | none =>
        rw [hAfter] at hParse
        cases hParse
    | some text =>
        rw [hAfter] at hParse
        dsimp only at hParse
        split_ifs at hParse with hNone
        cases hParse
        obtain ⟨hNil, hAll⟩ := not_or.mp hNone
        have hText : text.takeWhile (fun c => decide (c ≠ '/')) ++
            text.dropWhile (fun c => decide (c ≠ '/')) = text := List.takeWhile_append_dropWhile
        have hStop := List.head?_dropWhile_not (fun c => decide (c ≠ '/')) text
        simp only [String.toList_ofList]
        cases hRest : text.dropWhile (fun c => decide (c ≠ '/')) with
        | nil =>
            rw [hRest, List.append_nil] at hText
            exact absurd hText hAll
        | cons c rest =>
            rw [hRest] at hText hStop
            obtain rfl : c = '/' := by simpa using hStop
            refine ⟨rest, ?_, hNil, fun hSlash => ?_⟩
            · rw [List.append_assoc, hText]
              exact after?_eq_some_iff.mp hAfter
            · simpa using List.mem_takeWhile_imp hSlash
  · rintro ⟨rest, hKey, hNil, hSlash⟩
    rw [List.append_assoc] at hKey
    rw [after?_eq_some_iff.mpr hKey]
    dsimp only
    have hId : (id.toList ++ '/' :: rest).takeWhile (fun c => decide (c ≠ '/')) = id.toList := by
      rw [List.takeWhile_append_of_pos]
      · simp
      · intro c hc
        refine decide_eq_true fun hSlash' => ?_
        exact hSlash (hSlash' ▸ hc)
    rw [hId, if_neg, String.ofList_toList]
    simpa using hNil

end Reading

/-! ### The path of a key -/

section Opening
variable {root path : AbsolutePath} {objectKey id : String} {rest : List Char}

/-- Once there are no two dots, the path is below the root, and the last check refuses nothing. -/
theorem resolveObjectPath_eq_ok_iff : resolveObjectPath root objectKey = .ok path ↔
    (normalizeKey objectKey).toList ≠ [] ∧ ¬['.', '.'] <:+: (normalizeKey objectKey).toList ∧
      path = root.resolve (normalizeKey objectKey).toList := by
  unfold resolveObjectPath
  dsimp only
  split_ifs with hInvalid hOutside
  · refine iff_of_false (fun h => nomatch h) ?_
    rintro ⟨hNil, hDots, -⟩
    exact hInvalid.elim hNil hDots
  · obtain ⟨-, hDots⟩ := not_or.mp hInvalid
    have hParts := root.resolve_parts (head?_normalizeKey objectKey) hDots
    refine absurd (AbsolutePath.withSep_prefix ⟨_, hParts.symm⟩ fun hSame => ?_) hOutside.2
    exact hOutside.1 (congrArg (fun parts => '/' :: ['/'].intercalate parts) hSame)
  · obtain ⟨hNil, hDots⟩ := not_or.mp hInvalid
    simp [hNil, hDots, eq_comm]

/-- A resolved path continues the root by the entries of the key. -/
theorem parts_of_resolveObjectPath (h : resolveObjectPath root objectKey = .ok path) :
    path.parts = root.parts ++ entries (normalizeKey objectKey).toList := by
  obtain ⟨-, hDots, rfl⟩ := resolveObjectPath_eq_ok_iff.mp h
  exact AbsolutePath.resolve_parts (head?_normalizeKey objectKey) hDots

/-- No key leads out of the store. -/
theorem resolveObjectPath_isWithin (h : resolveObjectPath root objectKey = .ok path) :
    path.IsWithin root :=
  ⟨_, (parts_of_resolveObjectPath h).symm⟩

/-- A resolved path lies in a folder when the entries of the key start with it. -/
theorem liesIn_iff (h : resolveObjectPath root objectKey = .ok path) (folder : List String) :
    LiesIn root path folder ↔
      folder.map String.toList <+: entries (normalizeKey objectKey).toList := by
  unfold LiesIn
  rw [parts_of_resolveObjectPath h, List.prefix_append_right_inj]

/-- A name before a slash is the first entry. -/
theorem entries_of_name {name : List Char} (hName : IsName name) (rest : List Char) :
    entries (name ++ '/' :: rest) = name :: entries rest := by
  rw [entries_append, entries_of_isName hName]
  rfl

/-- A key that starts with a folder's label enters that folder. -/
theorem entries_of_label {label : String} {name key : List Char} (hName : IsName name)
    (hLabel : label.toList = name ++ ['/']) (h : label.toList <+: key) :
    [name] <+: entries key := by
  obtain ⟨rest, rfl⟩ := h
  rw [hLabel, List.append_assoc, List.singleton_append, entries_of_name hName]
  exact List.prefix_append [name] (entries rest)

theorem isName_imports : IsName "imports".toList :=
  ⟨by decide, by decide, by decide, by decide⟩

theorem isName_exports : IsName "exports".toList :=
  ⟨by decide, by decide, by decide, by decide⟩

theorem isName_surveys : IsName "surveys".toList :=
  ⟨by decide, by decide, by decide, by decide⟩

end Opening

/-! ### What was judged and what is opened -/

section Judging
variable {root path : AbsolutePath} {user : AuthUser} {file : FileResource}
  {action : FileAccessAction} {survey : Option SurveyResource} {objectKey : String}

/-- Scoped operators get nothing but what lies in the three folders. -/
theorem folder_of_assertFileAccess (hScoped : isScopedOperator user = true)
    (hAllowed : assertFileAccess user file action survey = .ok ()) :
    "imports/".toList <+: (normalizeKey file.objectKey).toList ∨
      "exports/".toList <+: (normalizeKey file.objectKey).toList ∨
        "surveys/".toList <+: (normalizeKey file.objectKey).toList := by
  simp only [← isSome_after?_iff]
  by_contra hNone
  obtain ⟨hImports, hRest⟩ := not_or.mp hNone
  obtain ⟨hExports, hSurveys⟩ := not_or.mp hRest
  have hBroad : hasBroadResourceAccess user = false := by
    unfold isScopedOperator at hScoped
    simpa using (Bool.and_eq_true_iff.mp hScoped).2
  unfold assertFileAccess at hAllowed
  cases hPermission : assertPermission user [action.permission] with
  | error error =>
      rw [hPermission] at hAllowed
      cases hAllowed
  | ok _ =>
      rw [hPermission] at hAllowed
      change (if _ then _ else _) = _ at hAllowed
      rw [if_neg (by simp [hBroad]), if_neg (by simp [hImports, hExports]), if_neg hSurveys,
        if_pos hScoped] at hAllowed
      cases hAllowed

/-- Keys of imports and exports are judged by the folder they open. -/
theorem isJudgedAsOpened_of_label (hPath : resolveObjectPath root objectKey = .ok path)
    (hLabel : "imports/".toList <+: (normalizeKey objectKey).toList ∨
      "exports/".toList <+: (normalizeKey objectKey).toList) :
    IsJudgedAsOpened root path objectKey := by
  unfold IsJudgedAsOpened judgedFolder
  simp only [isSome_after?_iff, liesIn_iff hPath]
  by_cases hImports : "imports/".toList <+: (normalizeKey objectKey).toList
  · rw [if_pos hImports]
    exact ⟨["imports"], rfl, entries_of_label isName_imports rfl hImports⟩
  · have hExports := hLabel.resolve_left hImports
    rw [if_neg hImports, if_pos hExports]
    exact ⟨["exports"], rfl, entries_of_label isName_exports rfl hExports⟩

/-- Keys of surveys are judged by the survey they name. -/
theorem judgedFolder_of_surveys (h : "surveys/".toList <+: (normalizeKey objectKey).toList) :
    judgedFolder objectKey =
      (parseSurveyIdFromObjectKey objectKey).map fun id => ["surveys", id] := by
  obtain ⟨text, hText⟩ := h
  unfold judgedFolder
  simp only [isSome_after?_iff, ← hText]
  rw [if_neg, if_neg]
  · rintro ⟨rest, hRest⟩
    exact absurd (List.cons.inj hRest).1 (by decide)
  · rintro ⟨rest, hRest⟩
    exact absurd (List.cons.inj hRest).1 (by decide)

/-- With an id in the characters of the key, that is where the file lies. -/
theorem isJudgedAsOpened_of_surveys (hPath : resolveObjectPath root objectKey = .ok path)
    (hSurveys : "surveys/".toList <+: (normalizeKey objectKey).toList) :
    IsJudgedAsOpened root path objectKey ↔ NamesSurvey objectKey := by
  obtain ⟨-, hDots, -⟩ := resolveObjectPath_eq_ok_iff.mp hPath
  unfold IsJudgedAsOpened NamesSurvey
  simp only [judgedFolder_of_surveys hSurveys, liesIn_iff hPath]
  constructor
  · rintro ⟨folder, hFolder, hLies⟩ text hText
    obtain ⟨id, hParse, rfl⟩ := Option.map_eq_some_iff.mp hFolder
    obtain ⟨rest, hKey, hNil, hSlash⟩ := parseSurveyIdFromObjectKey_eq_some_iff.mp hParse
    rw [hKey, List.append_assoc] at hText
    refine ⟨id.toList, rest, (List.append_cancel_left hText).symm, hNil, hSlash, ?_⟩
    exact (isName_of_mem_entries (hLies.subset (by simp)) hDots).ne_dot
  · intro hNames
    obtain ⟨text, hText⟩ := hSurveys
    obtain ⟨id, rest, rfl, hNil, hSlash, hDot⟩ := hNames text hText.symm
    have hName : IsName id := by
      refine ⟨hNil, hSlash, hDot, ?_⟩
      rintro rfl
      exact hDots ⟨"surveys/".toList, '/' :: rest, by rw [← hText, List.append_assoc]⟩
    have hParse : parseSurveyIdFromObjectKey objectKey = some (String.ofList id) := by
      have hId : (String.ofList id).toList = id := String.toList_ofList
      refine parseSurveyIdFromObjectKey_eq_some_iff.mpr ⟨rest, ?_⟩
      rw [hId, ← hText, List.append_assoc]
      exact ⟨rfl, hNil, hSlash⟩
    have hSegments : (normalizeKey objectKey).toList =
        "surveys".toList ++ '/' :: (id ++ '/' :: rest) := hText.symm
    have hFolder : ["surveys", String.ofList id].map String.toList = ["surveys".toList, id] := by
      simp
    refine ⟨["surveys", String.ofList id], by rw [hParse]; rfl, ?_⟩
    rw [hFolder, hSegments, entries_of_name isName_surveys, entries_of_name hName]
    exact List.prefix_append ["surveys".toList, id] (entries rest)

end Judging

/-- No key leads out of the store, and what a scoped operator may open lies in the folder that
was judged exactly if a key below `surveys/` has an id other than `.` before its next slash. -/
theorem stored_files_judged_iff (root : AbsolutePath) (user : AuthUser) (file : FileResource)
    (action : FileAccessAction) (survey : Option SurveyResource) :
    (∀ path, resolveObjectPath root file.objectKey = .ok path → path.IsWithin root) ∧
      (isScopedOperator user = true → assertFileAccess user file action survey = .ok () →
        ∀ path, resolveObjectPath root file.objectKey = .ok path →
          (IsJudgedAsOpened root path file.objectKey ↔ NamesSurvey file.objectKey)) := by
  refine ⟨fun _ hPath => resolveObjectPath_isWithin hPath, fun hScoped hAllowed path hPath => ?_⟩
  by_cases hSurveys : "surveys/".toList <+: (normalizeKey file.objectKey).toList
  · exact isJudgedAsOpened_of_surveys hPath hSurveys
  · refine iff_of_true (isJudgedAsOpened_of_label hPath ?_) fun text hText =>
      absurd ⟨text, hText.symm⟩ hSurveys
    rcases folder_of_assertFileAccess hScoped hAllowed with hImports | hExports | hThird
    · exact .inl hImports
    · exact .inr hExports
    · exact absurd hThird hSurveys

namespace Sample

def uploads : AbsolutePath := AbsolutePath.resolve ⟨[], nofun⟩ "srv/uploads".toList

/-- An operator (4) who may read files. -/
def fileReader : AuthUser where
  id := 4
  permissions := ["file:read", "survey:read"]
  roles := ["OPERATOR"]

/-- A photo of the survey s1, spelled with a segment that stays. -/
def dottedPhoto : FileResource := { objectKey := "surveys/./s1/photo.jpg" }

/-- The same photo, judged as one of the survey s2. -/
def slashedPhoto : FileResource := { objectKey := "surveys//s1/photo.jpg", surveyId := some "s2" }

end Sample

/-- An operator gets a photo of the survey s1 that was judged as one of the survey `.`, and one
whose key has no survey for the check. -/
theorem photo_judged_elsewhere :
    (assertFileAccess Sample.fileReader Sample.dottedPhoto .read none = .ok () ∧
      judgedFolder Sample.dottedPhoto.objectKey = some ["surveys", "."] ∧
      ∃ path, resolveObjectPath Sample.uploads Sample.dottedPhoto.objectKey = .ok path ∧
        String.ofList path.text = "/srv/uploads/surveys/s1/photo.jpg" ∧
        ¬IsJudgedAsOpened Sample.uploads path Sample.dottedPhoto.objectKey) ∧
    assertFileAccess Sample.fileReader Sample.slashedPhoto .read none = .ok () ∧
      judgedFolder Sample.slashedPhoto.objectKey = none ∧
      ∃ path, resolveObjectPath Sample.uploads Sample.slashedPhoto.objectKey = .ok path ∧
        String.ofList path.text = "/srv/uploads/surveys/s1/photo.jpg" ∧
        ¬IsJudgedAsOpened Sample.uploads path Sample.slashedPhoto.objectKey := by
  have hDotted : judgedFolder Sample.dottedPhoto.objectKey = some ["surveys", "."] := by
    decide
  have hSlashed : judgedFolder Sample.slashedPhoto.objectKey = none := by decide
  refine ⟨⟨by decide, hDotted, _, resolveObjectPath_eq_ok_iff.mpr
      ⟨by decide, by decide, rfl⟩, by decide, ?_⟩,
    by decide, hSlashed, _, resolveObjectPath_eq_ok_iff.mpr
      ⟨by decide, by decide, rfl⟩, by decide, ?_⟩
  · rintro ⟨folder, hFolder, hLies⟩
    obtain rfl := Option.some.inj (hDotted.symm.trans hFolder)
    exact absurd hLies (by unfold LiesIn; decide)
  · rintro ⟨folder, hFolder, -⟩
    rw [hSlashed] at hFolder
    cases hFolder

namespace Sample

/-- A photo under the key that the upload gave it. -/
def plainPhoto : FileResource := { objectKey := "surveys/s1/1700000000000-photo.jpg" }

end Sample

/-- Such a photo is judged as one of its survey, and opened in its folder. -/
theorem stored_files_judged_iff_photo :
    assertFileAccess Sample.fileReader Sample.plainPhoto .read none = .ok () ∧
      judgedFolder Sample.plainPhoto.objectKey = some ["surveys", "s1"] ∧
      ∃ path, resolveObjectPath Sample.uploads Sample.plainPhoto.objectKey = .ok path ∧
        path.IsWithin Sample.uploads ∧
        IsJudgedAsOpened Sample.uploads path Sample.plainPhoto.objectKey := by
  obtain ⟨hWithin, hJudged⟩ := stored_files_judged_iff Sample.uploads Sample.fileReader
    Sample.plainPhoto .read none
  have hAllowed : assertFileAccess Sample.fileReader Sample.plainPhoto .read none = .ok () := by
    decide
  obtain ⟨path, hPath⟩ : ∃ path,
      resolveObjectPath Sample.uploads Sample.plainPhoto.objectKey = .ok path :=
    ⟨_, resolveObjectPath_eq_ok_iff.mpr ⟨by decide, by decide, rfl⟩⟩
  have hKey : (normalizeKey Sample.plainPhoto.objectKey).toList =
      "surveys/".toList ++ "s1/1700000000000-photo.jpg".toList := by decide
  refine ⟨hAllowed, by decide, path, hPath, hWithin path hPath,
    (hJudged (by decide) hAllowed path hPath).mpr fun text hText => ?_⟩
  obtain rfl := List.append_cancel_left (hKey.symm.trans hText)
  exact ⟨"s1".toList, "1700000000000-photo.jpg".toList, by decide, by decide, by decide, by decide⟩

end Storage
end PropertyTax
