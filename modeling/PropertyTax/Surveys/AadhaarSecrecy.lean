import PropertyTax.Surveys.AadhaarReplies
import PropertyTax.Surveys.AadhaarView

/-! What the survey endpoints let a user without `survey:pii:read` see of the Aadhaar
numbers. Two databases that differ in the hidden digits alone are answered alike as
far as the view of these digits goes; what is left to compare is the column as the
answer carries it. -/
namespace PropertyTax.Surveys
open KeyedTable Scripts

theorem Field.assign_congr {α : Type} {field : Field α} (h : field ≠ .undefined)
    (old old' : Option α) : field.assign old = field.assign old' := by
  cases field with
  | undefined => exact absurd rfl h
  | null => rfl
  | value a => rfl

/-! ### States that differ in hidden digits -/

/-- The same number, up to what stands before its last four characters. -/
def AadhaarAlike (a b : Option Text) : Prop :=
  a = b ∨ ∃ text text', a = some text ∧ b = some text' ∧ 4 < text.length ∧ 4 < text'.length ∧
    lastFour text = lastFour text'

structure Survey.SameButHidden (s t : Survey) : Prop where
  aadhaar : AadhaarAlike (s.text .ownerAadhaar) (t.text .ownerAadhaar)
  others : { s with text := fun column =>
      if column = .ownerAadhaar then t.text .ownerAadhaar else s.text column } = t

structure SurveyDb.SameButHidden (db db' : SurveyDb) : Prop where
  surveys : List.Forall₂ Survey.SameButHidden db.surveys.rows db'.surveys.rows
  floors : db.floors = db'.floors
  importErrors : db.importErrors = db'.importErrors
  auditLog : db.auditLog = db'.auditLog
  nextId : db.nextId = db'.nextId

/-- The hidden characters, blotted out. -/
def hidden (text : Text) : Text := if text.length ≤ 4 then text else 'X' :: lastFour text

/-- Numbers that are alike are hidden alike. -/
theorem AadhaarAlike.map_hidden {a b : Option Text} (h : AadhaarAlike a b) :
    a.map hidden = b.map hidden := by
  obtain rfl | ⟨text, text', rfl, rfl, hLong, hLong', hLast⟩ := h
  · rfl
  · simp only [Option.map_some, hidden, if_neg (Nat.not_le.mpr hLong),
      if_neg (Nat.not_le.mpr hLong'), hLast]

/-- The last four digits of a longer number are four. -/
theorem length_lastFour {text : Text} (h : 4 < text.length) : (lastFour text).length = 4 := by
  rw [lastFour, List.length_drop]
  omega

/-- The mask shows no more than the view. -/
theorem maskAadhaar_hidden (text : Text) : maskAadhaar (hidden text) = maskAadhaar text := by
  unfold hidden
  split_ifs with hShort
  · rfl
  · have hLong : 4 < text.length := Nat.not_le.mp hShort
    have hLast : lastFour ('X' :: lastFour text) = lastFour text := by
      rw [lastFour, List.length_cons, length_lastFour hLong]
      rfl
    cases text with
    | nil => exact absurd hLong (by decide)
    | cons c rest => simp only [maskAadhaar, hLast]

/-- Surveys that differ in what is hidden are seen alike. -/
theorem Survey.SameButHidden.seenAs {s t : Survey} (h : s.SameButHidden t) :
    s.seenAs hidden = t.seenAs hidden := by
  rw [← h.others]
  refine congrArg (fun text => { s with text }) (funext fun column => ?_)
  by_cases hColumn : column = .ownerAadhaar
  · subst hColumn
    simp only [if_true]
    exact h.aadhaar.map_hidden
  · simp only [if_neg hColumn]

/-- Databases that differ in what is hidden are seen alike. -/
theorem SurveyDb.SameButHidden.seenAs {db db' : SurveyDb} (h : db.SameButHidden db') :
    db.seenAs hidden = db'.seenAs hidden := by
  have hRows : db.surveys.rows.map (Survey.seenAs hidden) =
      db'.surveys.rows.map (Survey.seenAs hidden) := by
    rw [← List.forall₂_eq_eq_eq, List.forall₂_map_left_iff, List.forall₂_map_right_iff]
    exact h.surveys.imp fun _ _ hSame => hSame.seenAs
  have hTable : (db.seenAs hidden).surveys = (db'.seenAs hidden).surveys := by
    simp only [SurveyDb.seenAs, mapRows, hRows]
  cases db
  cases db'
  obtain ⟨-, hFloors, hErrors, hLog, hNext⟩ := h
  simp only [SurveyDb.seenAs] at hTable ⊢
  simp only [SurveyDb.mk.injEq]
  exact ⟨hTable, hFloors, hErrors, hLog, hNext⟩

/-- Surveys that look alike are the same when their numbers are. -/
theorem Survey.eq_iff_of_seenAs {s t : Survey} (h : s.seenAs hidden = t.seenAs hidden) :
    s = t ↔ s.text .ownerAadhaar = t.text .ownerAadhaar := by
  refine ⟨fun hSame => hSame ▸ rfl, fun hAadhaar => ?_⟩
  have hText : s.text = t.text := by
    funext column
    by_cases hColumn : column = .ownerAadhaar
    · rw [hColumn, hAadhaar]
    · have hSeen := congrArg (fun survey => survey.text column) h
      simpa only [Survey.seenAs_text hColumn] using hSeen
  have hFields := congrArg (fun survey : Survey => { survey with text := s.text }) h
  calc s = { s.seenAs hidden with text := s.text } := rfl
    _ = { t.seenAs hidden with text := s.text } := hFields
    _ = t := by rw [hText]; rfl

/-- Two lists are the same when two readings of their elements are. -/
theorem eq_of_maps {α β γ : Type} {f : α → β} {g : α → γ}
    (h : ∀ a b, f a = f b → g a = g b → a = b) {l l' : List α} (hf : l.map f = l'.map f)
    (hg : l.map g = l'.map g) : l = l' := by
  induction l generalizing l' with
  | nil => exact (List.map_eq_nil_iff.mp hf.symm).symm
  | cons a l ih =>
      cases l' with
      | nil => cases hf
      | cons b l' =>
          rw [List.map_cons, List.map_cons, List.cons.injEq] at hf hg
          rw [h a b hf.1 hg.1, ih hf.2 hg.2]

/-! ### The number in a workbook -/

section Workbook
variable (localTime : ℤ → LocalTime) (ward : Ward) {seen : Text → Text}

/-- The other cells of a row stay. -/
theorem setCell_getElem? {row : List ExcelValue} {index : Option Nat} {i : Nat} (h : index ≠ some i)
    (value : ExcelValue) : (setCell row index value)[i]? = row[i]? := by
  cases index with
  | none => rfl
  | some j =>
      have hIndex : j ≠ i := fun hSame => h (congrArg some hSame)
      simp only [setCell]
      split_ifs
      · rfl
      · rw [List.getElem?_set_ne hIndex]

/-- Cells that other columns are written to stay as they are. -/
theorem foldl_setCell_getElem? {keys : List ColumnKey} {index : ColumnKey → Option Nat} {i : Nat}
    (h : ∀ key ∈ keys, index key ≠ some i) (value : ColumnKey → ExcelValue)
    (row : List ExcelValue) :
    (keys.foldl (fun row key => setCell row (index key) (value key)) row)[i]? = row[i]? := by
  induction keys generalizing row with
  | nil => rfl
  | cons key keys ih =>
      rw [List.foldl_cons, ih fun other hOther => h other (List.mem_cons_of_mem _ hOther),
        setCell_getElem? (h key List.mem_cons_self)]

/-- The layout of Ward 1 has no place for the number. -/
theorem surveyToExcelRow_seenAs (survey : Survey) (sn : Option Nat) :
    surveyToExcelRow localTime ward (survey.seenAs seen) .chhataV1_38 sn =
      surveyToExcelRow localTime ward survey .chhataV1_38 sn := by
  have hNone : exportIndex CHHATA_V1_38 (.text .ownerAadhaar) = none := by decide
  unfold surveyToExcelRow applyMappedFields
  refine List.foldl_ext _ _ _ fun row key _ => ?_
  by_cases hKey : key = .text .ownerAadhaar
  · subst hKey
    simp only [getMapping, hNone, setCell]
  · have hValue : exportValue localTime ward (survey.seenAs seen) key =
        exportValue localTime ward survey key := by
      cases key with
      | text column =>
          have hColumn : column ≠ .ownerAadhaar := fun h => hKey (congrArg ColumnKey.text h)
          simp only [exportValue, Survey.seenAs_text hColumn]
      | _ => rfl
    rw [hValue]

/-- The other layout shows the number as it is. -/
theorem surveyToExcelRow_aadhaar (survey : Survey) (sn : Option Nat) :
    (surveyToExcelRow localTime ward survey .chhataV2_55 sn)[18]? =
      some (.string ((survey.text .ownerAadhaar).getD [])) := by
  obtain ⟨before, after, hKeys, hBefore, hAfter⟩ : ∃ before after,
      EXPORT_KEYS = before ++ .text .ownerAadhaar :: after ∧
      (∀ key ∈ before, exportIndex CHHATA_V2_55 key ≠ some 18) ∧
      ∀ key ∈ after, exportIndex CHHATA_V2_55 key ≠ some 18 :=
    ⟨EXPORT_KEYS.take 41, EXPORT_KEYS.drop 42, by decide, by decide, by decide⟩
  have hIndex : exportIndex CHHATA_V2_55 (.text .ownerAadhaar) = some 18 := by decide
  have hStart : ∀ row : List ExcelValue, row[18]? = some (.string []) →
      (setCell row (some 18) (.string ((survey.text .ownerAadhaar).getD [])))[18]? =
        some (.string ((survey.text .ownerAadhaar).getD [])) := by
    intro row hRow
    by_cases hBlank : (survey.text .ownerAadhaar).getD [] = []
    · simp only [hBlank, setCell, true_or, if_true, hRow]
    · have hValue : ¬ (ExcelValue.string ((survey.text .ownerAadhaar).getD []) = .string [] ∨
          ExcelValue.string ((survey.text .ownerAadhaar).getD []) = .null) := by
        rintro (h | h)
        · exact hBlank (ExcelValue.string.inj h)
        · cases h
      obtain ⟨hLength, -⟩ := List.getElem?_eq_some_iff.mp hRow
      rw [setCell, if_neg hValue, List.getElem?_set_self hLength]
  simp only [surveyToExcelRow, applyMappedFields, getMapping, hKeys, List.foldl_append,
    List.foldl_cons]
  rw [foldl_setCell_getElem? hAfter, hIndex]
  refine hStart _ ?_
  rw [foldl_setCell_getElem? hBefore]
  cases sn with
  | none => rfl
  | some n => rfl

theorem withWard_seenAs (env : Env) (survey : Survey) :
    ImportsService.withWard env (survey.seenAs seen) =
      (ImportsService.withWard env survey).map (Prod.map (Survey.seenAs seen) id) := by
  unfold ImportsService.withWard
  rw [Survey.seenAs_wardId]
  cases env.wards.find? survey.wardId with
  | none => rfl
  | some ward => rfl

theorem mapM_withWard_seenAs (env : Env) (surveys : List Survey) :
    (surveys.map (Survey.seenAs seen)).mapM (ImportsService.withWard env) =
      (surveys.mapM (ImportsService.withWard env)).map
        (List.map (Prod.map (Survey.seenAs seen) id)) := by
  induction surveys with
  | nil => rfl
  | cons survey surveys ih =>
      rw [List.map_cons, List.mapM_cons, List.mapM_cons, withWard_seenAs, ih]
      cases ImportsService.withWard env survey with
      | error error => rfl
      | ok record =>
          cases surveys.mapM (ImportsService.withWard env) with
          | error error => rfl
          | ok records => rfl

/-- The records are those of the surveys. -/
theorem mapM_withWard_ok {env : Env} {surveys : List Survey} {records : List (Survey × Ward)}
    (h : surveys.mapM (ImportsService.withWard env) = .ok records) :
    records.map Prod.fst = surveys := by
  induction surveys generalizing records with
  | nil =>
      cases h
      rfl
  | cons survey surveys ih =>
      rw [List.mapM_cons] at h
      obtain ⟨record, hRecord, h⟩ := bind_ok h
      obtain ⟨others, hOthers, h⟩ := bind_ok h
      cases h
      unfold ImportsService.withWard at hRecord
      split at hRecord
      · cases hRecord
        rw [List.map_cons, ih hOthers]
      · cases hRecord

/-- Records that look alike fill the same workbook in the layout of Ward 1; in the
other one they do when their numbers are the same. -/
theorem buildSurveyExportWorkbook_eq_iff {records records' : List (Survey × Ward)}
    (h : records.map (Prod.map (Survey.seenAs hidden) id) =
      records'.map (Prod.map (Survey.seenAs hidden) id)) (wardNumber : Option ℤ) :
    buildSurveyExportWorkbook localTime records (detectExportPreset wardNumber) =
        buildSurveyExportWorkbook localTime records' (detectExportPreset wardNumber) ↔
      wardNumber = some 1 ∨ records = records' := by
  by_cases hFirst : wardNumber = some 1
  · have hPreset : detectExportPreset wardNumber = .chhataV1_38 := if_pos hFirst
    have hRows : ∀ records : List (Survey × Ward),
        buildSurveyExportWorkbook localTime records .chhataV1_38 =
          buildSurveyExportWorkbook localTime (records.map (Prod.map (Survey.seenAs hidden) id))
            .chhataV1_38 := by
      intro records
      have hIndexed : ∀ f g : Nat → Survey × Ward → List ExcelValue,
          (∀ i record, g i (record.1.seenAs hidden, record.2) = f i record) →
          records.mapIdx f = (records.map (Prod.map (Survey.seenAs hidden) id)).mapIdx g := by
        intro f g hCell
        refine List.ext_getElem? fun i => ?_
        rw [List.getElem?_mapIdx, List.getElem?_mapIdx, List.getElem?_map, Option.map_map]
        exact congrArg (Option.map · records[i]?) (funext fun record => (hCell i record).symm)
      rw [buildSurveyExportWorkbook, buildSurveyExportWorkbook]
      exact congrArg (Sheet.mk _) (hIndexed _ _ fun i record =>
        surveyToExcelRow_seenAs localTime record.2 record.1 _)
    rw [hPreset, hRows records, hRows records', h]
    exact ⟨fun _ => .inl hFirst, fun _ => rfl⟩
  · have hPreset : detectExportPreset wardNumber = .chhataV2_55 := if_neg hFirst
    rw [hPreset, or_iff_right hFirst]
    refine ⟨fun hSame => ?_, fun hSame => hSame ▸ rfl⟩
    have hCells : ∀ records : List (Survey × Ward),
        (buildSurveyExportWorkbook localTime records .chhataV2_55).rows.map (fun row => row[18]?) =
          records.map fun record => some (.string ((record.1.text .ownerAadhaar).getD [])) := by
      intro records
      refine List.ext_getElem? fun i => ?_
      rw [buildSurveyExportWorkbook, List.getElem?_map, List.getElem?_mapIdx, List.getElem?_map,
        Option.map_map]
      exact congrArg (Option.map · records[i]?) (funext fun record =>
        surveyToExcelRow_aadhaar localTime record.2 record.1 _)
    have hNumbers := congrArg (fun workbook : Sheet => workbook.rows.map fun row => row[18]?) hSame
    simp only [hCells] at hNumbers
    refine eq_of_maps (fun record record' hSeen hCell => ?_) h hNumbers
    obtain ⟨hSurvey, hWard⟩ := Prod.ext_iff.mp hSeen
    have hSurvey : record.1.seenAs hidden = record'.1.seenAs hidden := hSurvey
    have hText : (record.1.text .ownerAadhaar).getD [] = (record'.1.text .ownerAadhaar).getD [] :=
      ExcelValue.string.inj (Option.some.inj hCell)
    have hFilled : (record.1.text .ownerAadhaar).map hidden =
        (record'.1.text .ownerAadhaar).map hidden := by
      rw [← Survey.seenAs_aadhaar, hSurvey, Survey.seenAs_aadhaar]
    have hNumber : record.1.text .ownerAadhaar = record'.1.text .ownerAadhaar := by
      cases hLeft : record.1.text .ownerAadhaar with
      | none =>
          rw [hLeft] at hFilled
          rw [Option.map_eq_none_iff.mp hFilled.symm]
      | some text =>
          cases hRight : record'.1.text .ownerAadhaar with
          | none =>
              rw [hLeft, hRight] at hFilled
              cases hFilled
          | some text' =>
              rw [hLeft, hRight] at hText
              exact congrArg some hText
    exact Prod.ext ((Survey.eq_iff_of_seenAs hSurvey).mpr hNumber) hWard

end Workbook

/-! ### Answers -/

/-- What is answered meets the condition on answers. -/
theorem ends_ok {α : Type} {post : α → Prop} {broken : SurveyState → Prop}
    {result : SurveyState × Except SurveyError α} {reply : α}
    (h : Ends (fun reply => OnDb fun _ => post reply) broken result) (hOk : result.2 = .ok reply) :
    post reply := by
  rcases result with ⟨after, error | answer⟩
  · cases hOk
  · cases hOk
    exact h

section Answers
variable {env : Env} {db db' : SurveyDb}

/-- The stored number of a survey. -/
def SurveyDb.aadhaarOf (db : SurveyDb) (id : Id) : Option Text :=
  (db.surveys.find? id).bind fun survey => survey.text .ownerAadhaar

theorem SurveyDb.aadhaarOf_of_mem {survey : Survey} (h : survey ∈ db.surveys.rows) :
    db.aadhaarOf survey.id = survey.text .ownerAadhaar := by
  have hFound : db.surveys.find? survey.id = some survey := find?_eq_some_iff.mpr ⟨h, rfl⟩
  rw [SurveyDb.aadhaarOf, hFound]
  rfl

/-- Surveys of two databases that look alike are the same when their numbers are. -/
theorem surveys_eq_iff {surveys surveys' : List Survey}
    (hSeen : surveys.map (Survey.seenAs hidden) = surveys'.map (Survey.seenAs hidden))
    (hStored : ∀ survey ∈ surveys', survey ∈ db'.surveys.rows) :
    surveys = surveys' ↔
      ∀ survey ∈ surveys, db'.aadhaarOf survey.id = survey.text .ownerAadhaar := by
  induction surveys generalizing surveys' with
  | nil =>
      obtain rfl := List.map_eq_nil_iff.mp hSeen.symm
      simp
  | cons survey surveys ih =>
      cases surveys' with
      | nil => cases hSeen
      | cons survey' surveys' =>
          rw [List.map_cons, List.map_cons, List.cons.injEq] at hSeen
          obtain ⟨hFirst, hOthers⟩ := hSeen
          have hSeenId : (survey.seenAs hidden).id = (survey'.seenAs hidden).id :=
            congrArg Survey.id hFirst
          have hId : survey.id = survey'.id := hSeenId
          have hNumber : db'.aadhaarOf survey.id = survey'.text .ownerAadhaar := by
            rw [hId, SurveyDb.aadhaarOf_of_mem (hStored survey' List.mem_cons_self)]
          rw [List.cons.injEq, Survey.eq_iff_of_seenAs hFirst, List.forall_mem_cons, hNumber,
            ih hOthers fun other hOther => hStored other (List.mem_cons_of_mem _ hOther)]
          exact and_congr_left' eq_comm

namespace SurveyRequest

/-- The surveys whose number, as it is stored, a request hands out. -/
def shown (env : Env) (db : SurveyDb) : SurveyRequest → List Survey
  | create _ => []
  | findAll query => SurveysService.listed env query db
  | findOne _ => []
  | update key dto =>
      if dto.text .ownerAadhaar = .undefined then (db.addressed key).toList else []
  | remove key => (db.addressed key).toList
  | exportSurveys filters =>
      if (ImportsService.exportWard env filters).map Ward.number = some 1 then []
      else ImportsService.exportedSurveys env filters db

/-- The surveys that are handed out have the same number in the other database. -/
def Conceals (request : SurveyRequest) (env : Env) (db db' : SurveyDb) : Prop :=
  ∀ survey ∈ request.shown env db, db'.aadhaarOf survey.id = survey.text .ownerAadhaar

end SurveyRequest

/-- One answer is the other when it is an error, and else under a condition. -/
structure AnsweredAlike (first second : Except SurveyError SurveyResponse) (condition : Prop) :
    Prop where
  refused : ∀ error, first = .error error → second = .error error
  answered : ∀ response, first = .ok response → (second = .ok response ↔ condition)

/-- Scripts that look alike are answered alike when their replies are. -/
theorem answeredAlike_of_shows {α β : Type} {shown : α → β} {script : SurveyScript α}
    {image : SurveyScript β} (hShows : Shows (SurveyState.seenAs hidden) shown script image)
    {state state' : SurveyState} (hView : state.seenAs hidden = state'.seenAs hidden)
    (check : Except SurveyError Unit) {respond : α → SurveyResponse}
    (hRespond : Function.Injective respond) {condition : Prop}
    (hReplies : ∀ reply reply', (script state).2 = .ok reply → (script state').2 = .ok reply' →
      shown reply = shown reply' → (reply = reply' ↔ condition)) :
    AnsweredAlike ((orThrow check >>= fun _ => script >>= fun reply => pure (respond reply)) state).2
      ((orThrow check >>= fun _ => script >>= fun reply => pure (respond reply)) state').2
      condition := by
  cases check with
  | error error => exact ⟨fun _ h => h, fun _ h => by cases h⟩
  | ok granted =>
      have hRun : ∀ state : SurveyState,
          ((orThrow (.ok granted) >>= fun _ => script >>= fun reply => pure (respond reply))
            state).2 = (script state).2.map respond := by
        intro state
        change ((script >>= fun reply => pure (respond reply)) state).2 = _
        rcases hScript : script state with ⟨after, error | reply⟩
        · rw [Script.bind_of_error hScript]
          rfl
        · rw [Script.bind_of_ok hScript]
          rfl
      rw [hRun, hRun]
      have hAlike := hShows.answers_alike hView
      cases hFirst : (script state).2 with
      | error error =>
          rw [hFirst] at hAlike
          cases hSecond : (script state').2 with
          | error error' =>
              rw [hSecond] at hAlike
              cases hAlike
              exact ⟨fun _ h => h, fun _ h => by cases h⟩
          | ok reply' =>
              rw [hSecond] at hAlike
              cases hAlike
      | ok reply =>
          rw [hFirst] at hAlike
          cases hSecond : (script state').2 with
          | error error' =>
              rw [hSecond] at hAlike
              cases hAlike
          | ok reply' =>
              rw [hSecond] at hAlike
              have hShown : shown reply = shown reply' := Except.ok.inj hAlike
              refine ⟨fun _ h => (by cases h), fun response hResponse => ?_⟩
              cases hResponse
              rw [← hReplies reply reply' hFirst hSecond hShown]
              refine ⟨fun h => (hRespond (Except.ok.inj h)).symm, fun h => ?_⟩
              rw [h]
              rfl

/-- A key addresses surveys that are seen alike. -/
theorem addressed_alike (hSame : db.seenAs hidden = db'.seenAs hidden) (key : SurveyKey) :
    (db.addressed key).map (Survey.seenAs hidden) =
      (db'.addressed key).map (Survey.seenAs hidden) := by
  have hSeen : ∀ db : SurveyDb, (db.seenAs hidden).addressed key =
      (db.addressed key).map (Survey.seenAs hidden) := fun db =>
    findFirst?_mapRows (Survey.clash_seenAs hidden) db.surveys fun survey => by cases key <;> rfl
  rw [← hSeen, hSame, hSeen]

/-- The surveys that a key names in the two databases have the same number, if
that is what the condition says of the first. -/
theorem addressed_aadhaar_iff (hSame : db.seenAs hidden = db'.seenAs hidden) {key : SurveyKey}
    {survey survey' : Survey} (hSurvey : db.addressed key = some survey)
    (hSurvey' : db'.addressed key = some survey') :
    survey.text .ownerAadhaar = survey'.text .ownerAadhaar ↔
      ∀ survey ∈ (db.addressed key).toList,
        db'.aadhaarOf survey.id = survey.text .ownerAadhaar := by
  have hAlike := addressed_alike hSame key
  rw [hSurvey, hSurvey', Option.map_some, Option.map_some, Option.some_inj] at hAlike
  have hStored : ∀ other ∈ [survey'], other ∈ db'.surveys.rows := by
    intro other hOther
    rw [List.mem_singleton.mp hOther]
    exact List.mem_of_find?_eq_some hSurvey'
  have hList : [survey] = [survey'] ↔
      ∀ other ∈ [survey], db'.aadhaarOf other.id = other.text .ownerAadhaar :=
    surveys_eq_iff (by rw [List.map_singleton, List.map_singleton, hAlike]) hStored
  rw [hSurvey, Option.toList_some, ← hList, ← Survey.eq_iff_of_seenAs hAlike, List.cons.injEq]
  exact (and_iff_left rfl).symm

/-- Replies that are seen alike are equal when their numbers are. -/
theorem withFloors_eq_iff {reply reply' : SurveyWithFloors}
    (h : reply.seenAs hidden = reply'.seenAs hidden) :
    reply = reply' ↔ reply.survey.text .ownerAadhaar = reply'.survey.text .ownerAadhaar := by
  have hSurvey : reply.survey.seenAs hidden = reply'.survey.seenAs hidden :=
    congrArg SurveyWithFloors.survey h
  have hFloors : (reply.seenAs hidden).floors = (reply'.seenAs hidden).floors :=
    congrArg SurveyWithFloors.floors h
  rw [← Survey.eq_iff_of_seenAs hSurvey]
  refine ⟨fun hReply => hReply ▸ rfl, fun hSame => ?_⟩
  cases reply
  cases reply'
  simp only [SurveyWithFloors.mk.injEq]
  exact ⟨hSame, hFloors⟩

theorem maskPii_seenAs (survey : Survey) :
    SurveysService.maskPii (survey.seenAs hidden) false = SurveysService.maskPii survey false := by
  have hText : ∀ column, (SurveysService.maskPii (survey.seenAs hidden) false).text column =
      (SurveysService.maskPii survey false).text column := by
    intro column
    by_cases hColumn : column = .ownerAadhaar
    · subst hColumn
      simp only [SurveysService.maskPii, Bool.false_eq_true, if_false, if_true,
        Survey.seenAs_aadhaar, Option.map_map]
      exact congrArg (Option.map · _) (funext maskAadhaar_hidden)
    · simp only [SurveysService.maskPii, Bool.false_eq_true, if_false, if_neg hColumn,
        Survey.seenAs_text hColumn]
  exact congrArg (fun text => { survey with text }) (funext hText)

theorem shows_masked_findOne {user : AuthUser} (hUser : canReadSurveyPii user = false)
    (key : SurveyKey) :
    Shows (SurveyState.seenAs hidden) id (SurveysController.findOne env key user)
      (SurveysController.findOne env key user) := by
  refine (SurveysService.shows_findOne env key user).bind fun found => ?_
  refine (SurveysService.shows_findNeighbors env found.survey).bind fun neighbors => ?_
  rw [hUser]
  refine Shows.pure ?_
  change (⟨⟨SurveysService.maskPii (found.survey.seenAs hidden) false, found.floors⟩, neighbors⟩ :
    SurveyDetail) = ⟨⟨SurveysService.maskPii found.survey false, found.floors⟩, neighbors⟩
  rw [maskPii_seenAs]

/-! ### Exports -/

section Exports
open ImportsService
variable (localTime : ℤ → LocalTime)

/-- The export as far as every user may see it: how many rows it has. -/
def exportedCount (env : Env) (filters : ExportFilters) : SurveyScript Nat := do
  let _ ← read fun _ => exportWard env filters
  let surveys ← read (exportedSurveys env filters)
  let _ ← orThrow (surveys.mapM (withWard env))
  return surveys.length

theorem shows_exportSurveys (now : Timestamp) (filters : ExportFilters) :
    Shows (SurveyState.seenAs hidden) SurveyExport.rowCount
      (ImportsService.exportSurveys env localTime now filters) (exportedCount env filters) := by
  have hWard : Shows (SurveyState.seenAs hidden) id (read fun _ => exportWard env filters)
      (read fun _ => exportWard env filters) := shows_read fun _ => rfl
  refine hWard.bind fun ward => ?_
  refine (shows_read (exportedSurveys_seenAs env filters)).bind fun surveys => ?_
  refine (shows_orThrow (mapM_withWard_seenAs env surveys)).bind fun records => ?_
  exact Shows.pure (List.length_map (Survey.seenAs hidden))

/-- The workbook that an export answers with. -/
theorem exportSurveys_workbook (now : Timestamp) (filters : ExportFilters) (db : SurveyDb) :
    Meets (ImportsService.exportSurveys env localTime now filters) (OnDb fun start => start = db)
      (fun reply => OnDb fun _ => ∃ records,
        (exportedSurveys env filters db).mapM (withWard env) = .ok records ∧
        reply = {
          fileName := buildSurveyExportFilename ((exportWard env filters).map Ward.number)
            ((env.toISOString now).take 10)
          rowCount := (exportedSurveys env filters db).length
          workbook := buildSurveyExportWorkbook localTime records
            (detectExportPreset ((exportWard env filters).map Ward.number)) })
      (OnDb fun _ => True) := by
  refine bind_lookup (fun _ _ => trivial) ?_
  refine Meets.bind (meets_read fun _ _ => trivial) fun surveys => ?_
  intro state hState
  obtain ⟨hSurveys, hStart⟩ := hState
  rw [hStart] at hSurveys
  subst hSurveys
  have hAnyhow : OnDb (fun _ => True) state := trivial
  refine bind_orThrow (fun _ _ => trivial) (fun records hRecords => ?_) state hAnyhow
  exact Meets.pure fun _ _ => ⟨records, hRecords, rfl⟩

end Exports

/-- What is exported is stored. -/
theorem exportedSurveys_stored (filters : ExportFilters) (db : SurveyDb) :
    ∀ survey ∈ ImportsService.exportedSurveys env filters db, survey ∈ db.surveys.rows := by
  intro survey hSurvey
  have hSorted := List.mem_of_mem_take hSurvey
  rw [List.mem_mergeSort] at hSorted
  exact List.mem_of_mem_filter hSorted

/-- What is listed is stored. -/
theorem listed_stored (query : ListSurveysQuery) (db : SurveyDb) :
    ∀ survey ∈ SurveysService.listed env query db, survey ∈ db.surveys.rows := fun survey hSurvey =>
  ((SurveysService.pageOf_rows query _ _ db).1 survey hSurvey).1

/-- Two pages that look alike are the same when the stored numbers are. -/
theorem page_eq_iff (hSame : db.seenAs hidden = db'.seenAs hidden) (query : ListSurveysQuery)
    {reply reply' : List Survey × PageMeta}
    (hShown : reply.map (List.map (Survey.seenAs hidden)) id =
      reply'.map (List.map (Survey.seenAs hidden)) id)
    (hText : reply.1.map Survey.text = (SurveysService.listed env query db).map Survey.text)
    (hText' : reply'.1.map Survey.text = (SurveysService.listed env query db').map Survey.text) :
    reply = reply' ↔ ∀ survey ∈ SurveysService.listed env query db,
      db'.aadhaarOf survey.id = survey.text .ownerAadhaar := by
  obtain ⟨hItems, hInfo⟩ := Prod.ext_iff.mp hShown
  have hListed : (SurveysService.listed env query db).map (Survey.seenAs hidden) =
      (SurveysService.listed env query db').map (Survey.seenAs hidden) := by
    unfold SurveysService.listed
    rw [← SurveysService.pageOf_seenAs, hSame, SurveysService.pageOf_seenAs]
  have hNumber : ∀ s t : Survey, s.seenAs hidden = t.seenAs hidden → s.text = t.text → s = t :=
    fun s t hSeen hSameText => (Survey.eq_iff_of_seenAs hSeen).mpr (by rw [hSameText])
  rw [← surveys_eq_iff hListed (listed_stored query db')]
  refine ⟨fun hReply => ?_, fun hSurveys => ?_⟩
  · refine eq_of_maps hNumber hListed ?_
    rw [← hText, ← hText', hReply]
  · refine Prod.ext (eq_of_maps hNumber hItems ?_) hInfo
    rw [hText, hText', hSurveys]

/-- Two exports are the same when the layout has no place for the number, or the
exported numbers are the same. -/
theorem export_eq_iff (hSame : db.seenAs hidden = db'.seenAs hidden) (localTime : ℤ → LocalTime)
    {filters : ExportFilters} {records records' : List (Survey × Ward)}
    (hRecords : (ImportsService.exportedSurveys env filters db).mapM
      (ImportsService.withWard env) = .ok records)
    (hRecords' : (ImportsService.exportedSurveys env filters db').mapM
      (ImportsService.withWard env) = .ok records') (wardNumber : Option ℤ) :
    buildSurveyExportWorkbook localTime records (detectExportPreset wardNumber) =
        buildSurveyExportWorkbook localTime records' (detectExportPreset wardNumber) ↔
      wardNumber = some 1 ∨ ∀ survey ∈ ImportsService.exportedSurveys env filters db,
        db'.aadhaarOf survey.id = survey.text .ownerAadhaar := by
  have hSurveys : (ImportsService.exportedSurveys env filters db).map (Survey.seenAs hidden) =
      (ImportsService.exportedSurveys env filters db').map (Survey.seenAs hidden) := by
    rw [← ImportsService.exportedSurveys_seenAs, hSame, ImportsService.exportedSurveys_seenAs]
  have hSeen : records.map (Prod.map (Survey.seenAs hidden) id) =
      records'.map (Prod.map (Survey.seenAs hidden) id) := by
    have hFirst := @mapM_withWard_seenAs hidden env
      (ImportsService.exportedSurveys env filters db)
    rw [hSurveys, mapM_withWard_seenAs, hRecords, hRecords'] at hFirst
    exact (Except.ok.inj hFirst).symm
  rw [buildSurveyExportWorkbook_eq_iff localTime hSeen,
    ← surveys_eq_iff hSurveys (exportedSurveys_stored filters db')]
  refine or_congr_right ⟨fun h => ?_, fun h => ?_⟩
  · rw [← mapM_withWard_ok hRecords, h, mapM_withWard_ok hRecords']
  · rw [h, hRecords'] at hRecords
    exact (Except.ok.inj hRecords).symm

end Answers

/-! ### Secrecy -/

namespace Sample

/-- One survey, of an owner with this number. -/
def withAadhaar (aadhaar : String) : SurveyDb :=
  { SurveyDb.empty with
    surveys := ⟨[{ SurveyDb.newSurvey 1 "249044-001-000001-001-R".toList 1 0 with
      parcelNo := some "000001".toList
      propertyNo := some "001".toList
      text := fun column => if column = .ownerAadhaar then some aadhaar.toList else none }],
      List.pairwise_singleton _ _⟩ }

def surveyReader : AuthUser := ⟨2, ["survey:read"], []⟩

def firstWardServer : Server := ⟨firstWard, fun _ => ⟨1, 0, 2026, 0, 0, 0⟩⟩

theorem withAadhaar_sameButHidden :
    (withAadhaar "111122223333").SameButHidden (withAadhaar "444455553333") := by
  refine ⟨List.forall₂_cons.mpr ⟨⟨.inr ⟨_, _, rfl, rfl, ?_⟩, ?_⟩, .nil⟩, rfl, rfl, rfl, rfl⟩
  · decide
  · refine congrArg (fun text => { SurveyDb.newSurvey 1 "249044-001-000001-001-R".toList 1 0 with
      parcelNo := some "000001".toList
      propertyNo := some "001".toList
      text }) (funext fun column => ?_)
    by_cases hColumn : column = .ownerAadhaar
    · simp only [hColumn, if_true]
    · simp only [if_neg hColumn]

theorem surveyReader_pii : canReadSurveyPii surveyReader = false := by decide

/-- The numbers that a page shows. -/
def pageNumbers : Except SurveyError SurveyResponse → List (Option Text)
  | .ok (.page items _) => items.map fun survey => survey.text .ownerAadhaar
  | _ => []

end Sample

end PropertyTax.Surveys
