import PropertyTax.Surveys.LiveSurveys
import PropertyTax.Surveys.IdCodec
import PropertyTax.Surveys.IdentityLaw
import PropertyTax.Surveys.ImportPreview

/-! What a preview tells of the import that follows it: the number of rows, and
the rows that fail. It stops at a number without a digit, which the import counts
as a failed row, and it does not see what the database will not store. -/
namespace PropertyTax.Surveys
open KeyedTable Scripts Runs ImportsService

/-! ### When a row has an id -/

/-- A cell that is not blank has a digit. -/
def BlankOrNumbered (text : Text) : Prop :=
  (onlyDigits (Js.trimChars text)).isEmpty → (Js.trimChars text).isEmpty

/-- A number is normalized when it has a digit. -/
theorem normalizeNumber_isOk_iff {width : Nat} {missing : IdentityError} {value : Text} :
    (∃ number, normalizeNumber width missing value = .ok number) ↔
      (onlyDigits value).isEmpty = false := by
  unfold normalizeNumber
  split_ifs with hNone <;> simp [hNone]

/-- What is read for a number has a digit, unless a cell without one is. -/
theorem normalizeFromExcel_numbered {width : Nat} {fromSurveyId : Text → Option Text}
    {excelValue surveyId number : Text}
    (hSegment : ∀ segment ∈ fromSurveyId surveyId, isNumeral segment)
    (h : normalizeFromExcel width fromSurveyId excelValue surveyId = some number) :
    (onlyDigits number).isEmpty = false ↔ BlankOrNumbered excelValue := by
  have hNumbered : ∀ text : Text, isNumeral text → (onlyDigits text).isEmpty = false := by
    intro text hText
    obtain ⟨hFilled, hDigits⟩ := isNumeral_iff.mp hText
    rw [onlyDigits, List.filter_eq_self.mpr hDigits]
    simpa using hFilled
  unfold normalizeFromExcel at h
  dsimp only at h
  unfold BlankOrNumbered
  split_ifs at h with hBlank hNone
  · exact iff_of_true (hNumbered number (hSegment number h)) fun _ => hBlank
  · cases h
    simp [hNone, hBlank]
  · cases h
    refine iff_of_true (hNumbered _ ?_) fun hEmpty => absurd hEmpty hNone
    exact leftpad_isNumeral
      (isNumeral_iff.mpr ⟨by simpa using hNone, fun c hc => (List.mem_filter.mp hc).2⟩)

/-- An id is resolved for two numbers with digits; the letter is never missing. -/
theorem resolveImportSurveyId_isOk_iff {rawSurveyId parcelNo propertyNo ulbCode : Text}
    {wardNumber : ℤ} :
    (∃ surveyId, resolveImportSurveyId rawSurveyId wardNumber parcelNo propertyNo ulbCode =
        .ok surveyId) ↔
      (onlyDigits parcelNo).isEmpty = false ∧ (onlyDigits propertyNo).isEmpty = false := by
  have hLetter : ∃ letter, normalizeGisUseCode
      (((parseGisSurveyId rawSurveyId).map (·.gisUseCode)).getD ['R']) = .ok letter := by
    refine normalizeGisUseCode_isOk ?_
    cases hParse : parseGisSurveyId rawSurveyId with
    | none => exact ⟨'R', List.mem_cons_self, by decide⟩
    | some parts =>
        unfold parseGisSurveyId at hParse
        split at hParse
        next letter _ =>
          split_ifs at hParse with hParts
          cases hParse
          simp only [Bool.and_eq_true] at hParts
          exact ⟨letter.toUpper, List.mem_cons_self, (isAlpha_toUpper hParts.2).1⟩
        · cases hParse
  unfold resolveImportSurveyId
  simp only [buildSurveyIdFromRecord_some, generateSurveyId_eq_ok_iff]
  obtain ⟨letter, hLetter⟩ := hLetter
  obtain ⟨ward, hWard⟩ := normalizeWardCode_isOk wardNumber
  constructor
  · rintro ⟨-, -, parcel, property, -, -, hParcel, hProperty, -, -⟩
    exact ⟨normalizeNumber_isOk_iff.mp ⟨parcel, hParcel⟩,
      normalizeNumber_isOk_iff.mp ⟨property, hProperty⟩⟩
  · rintro ⟨hParcel, hProperty⟩
    obtain ⟨parcel, hParcel⟩ := normalizeNumber_isOk_iff.mpr hParcel
    obtain ⟨property, hProperty⟩ := normalizeNumber_isOk_iff.mpr hProperty
    exact ⟨_, ward, parcel, property, letter, hWard, hParcel, hProperty, hLetter, rfl⟩

section
variable {env : Env} {job : ImportJob} {cells : RowCells}

/-- Where the row has a ward and both numbers, each cell of a number that is not
blank has a digit. -/
def HasDigits (env : Env) (cells : RowCells) : Prop :=
  (wardOf env cells).isSome → lacksNumber cells = false →
    BlankOrNumbered (cells .parcelNo) ∧ BlankOrNumbered (cells .propertyNo)

/-- When parcel and property are numbered, cells that are blank count. -/
theorem numbered_iff (h : lacksNumber cells = false) :
    ((onlyDigits (parcelNoOf cells)).isEmpty = false ↔ BlankOrNumbered (cells .parcelNo)) ∧
      ((onlyDigits (propertyNoOf cells)).isEmpty = false ↔ BlankOrNumbered (cells .propertyNo)) := by
  obtain ⟨hParcel, hProperty⟩ := Bool.or_eq_false_iff.mp h
  constructor
  · refine normalizeFromExcel_numbered (fun segment hSegment => ?_) (getD_eq_of_filled hParcel)
    obtain ⟨parts, hParts, rfl⟩ := Option.map_eq_some_iff.mp hSegment
    exact (isNumeral_of_parse hParts).1
  · refine normalizeFromExcel_numbered (fun segment hSegment => ?_) (getD_eq_of_filled hProperty)
    obtain ⟨parts, hParts, rfl⟩ := Option.map_eq_some_iff.mp hSegment
    exact (isNumeral_of_parse hParts).2

/-- Naming errors makes no difference to whether there is an answer. -/
theorem mapError_isOk_iff {ε ε' α : Type} {result : Except ε α} {f : ε → ε'} :
    (∃ a, result.mapError f = .ok a) ↔ ∃ a, result = .ok a := by
  cases result <;> simp [Except.mapError]

/-- The preview finds an id for such a row, and for no other. -/
theorem previewSurveyId_isOk_iff :
    (∃ surveyId, previewSurveyId env cells = .ok surveyId) ↔ HasDigits env cells := by
  unfold previewSurveyId HasDigits
  cases hWard : wardOf env cells with
  | none => simp
  | some ward =>
      cases hLacks : lacksNumber cells with
      | true => simp
      | false =>
          obtain ⟨hParcel, hProperty⟩ := numbered_iff hLacks
          simp only [Option.isSome_some, forall_const, Bool.false_eq_true, ↓reduceIte,
            mapError_isOk_iff, resolveImportSurveyId_isOk_iff, hParcel, hProperty]

/-- A row is reported as invalid when its ward or its numbers are missing. -/
theorem identityReport_invalid_iff : (identityReport env cells).classification = .invalid ↔
    wardOf env cells = none ∨ lacksNumber cells = true := by
  unfold identityReport
  cases wardOf env cells <;> cases lacksNumber cells <;> simp [RowReport.mark]

/-- A job can read the rows that the preview can name and does not call invalid. -/
theorem parseRow_isOk_iff : (∃ row, parseRow env job cells = .ok row) ↔
    HasDigits env cells ∧ (identityReport env cells).classification ≠ .invalid := by
  rw [← previewSurveyId_isOk_iff, Ne, identityReport_invalid_iff]
  unfold parseRow previewSurveyId
  cases hWard : wardOf env cells with
  | none => simp
  | some ward =>
      change (∃ row, (if lacksNumber cells then _ else _) = _) ↔ _
      cases hLacks : lacksNumber cells with
      | true => simp
      | false =>
          dsimp only
          rw [if_neg Bool.false_ne_true, if_neg Bool.false_ne_true]
          change (∃ row, ((resolveImportSurveyId (cells .surveyId) ward.number (parcelNoOf cells)
            (propertyNoOf cells) env.ulbCode).mapError SurveyError.identity).bind _ = _) ↔ _
          cases resolveImportSurveyId (cells .surveyId) ward.number (parcelNoOf cells)
              (propertyNoOf cells) env.ulbCode with
          | error error => simp [Except.mapError, Except.bind]
          | ok surveyId => exact iff_of_true ⟨_, rfl⟩ ⟨⟨surveyId, rfl⟩, by simp⟩

/-! ### The loop of the preview -/

/-- Warnings make no row invalid. -/
theorem warn_invalid_iff {report : RowReport} {messages : List String} :
    (report.warn messages).classification = .invalid ↔ report.classification = .invalid := by
  unfold RowReport.warn
  split_ifs with hEmpty hValid
  · rfl
  · simp [hValid]
  · rfl

theorem reportDuplicate_calm (progress : PreviewProgress) (surveyId : Text) (report : RowReport)
    (db : SurveyDb) :
    ∃ met, reportDuplicate env job progress cells surveyId report ⟨db, []⟩ = (⟨db, []⟩, .ok met) ∧
      met.1.totalRows = progress.totalRows ∧
      (met.2.classification = .invalid ↔ report.classification = .invalid) := by
  unfold reportDuplicate
  by_cases hInvalid : report.classification = .invalid
  · rw [if_pos hInvalid]
    exact ⟨(progress, report), rfl, rfl, Iff.rfl⟩
  rw [if_neg hInvalid]
  by_cases hMet : (progress.fileSurveyIds.contains surveyId ||
      progress.fileSurveyIds.contains (cells .surveyId)) = true
  · rw [if_pos hMet]
    exact ⟨_, rfl, rfl, by simp [RowReport.mark, hInvalid]⟩
  rw [if_neg hMet]
  have hFind : ∃ existing, findExisting env job cells surveyId ⟨db, []⟩ =
      (⟨db, []⟩, .ok existing) := by
    unfold findExisting
    cases wardOf env cells with
    | none => exact ⟨none, rfl⟩
    | some ward => exact ⟨_, findImportDuplicate_calm⟩
  obtain ⟨existing, hFind⟩ := hFind
  rw [Script.bind_of_ok hFind]
  cases existing with
  | none => exact ⟨_, rfl, rfl, Iff.rfl⟩
  | some survey => exact ⟨_, rfl, rfl, by simp [RowReport.mark, hInvalid]⟩

/-- A row is classified as invalid for its ward and its numbers only. -/
theorem classifyRow_calm (progress : PreviewProgress) (db : SurveyDb) (h : HasDigits env cells) :
    ∃ classified, classifyRow env job progress cells ⟨db, []⟩ = (⟨db, []⟩, .ok classified) ∧
      classified.1.totalRows = progress.totalRows ∧
      (classified.2.classification = .invalid ↔
        (identityReport env cells).classification = .invalid) := by
  obtain ⟨surveyId, hSurveyId⟩ := previewSurveyId_isOk_iff.mpr h
  have hThrown : (orThrow (previewSurveyId env cells) : SurveyScript Text) ⟨db, []⟩ =
      (⟨db, []⟩, .ok surveyId) := by
    rw [hSurveyId]
    rfl
  obtain ⟨met, hMet, hTotal, hInvalid⟩ :=
    @reportDuplicate_calm env job cells progress surveyId (identityReport env cells) db
  refine ⟨(met.1, (met.2.warn (cityMessages cells)).warn (areaMessages cells)), ?_, hTotal, ?_⟩
  · unfold classifyRow
    rw [Script.bind_of_ok hThrown, Script.bind_of_ok hMet]
    rfl
  · rw [warn_invalid_iff, warn_invalid_iff, hInvalid]

/-- A row without digits throws. -/
theorem classifyRow_throws (progress : PreviewProgress) (db : SurveyDb)
    (h : ¬ HasDigits env cells) :
    ∃ error, classifyRow env job progress cells ⟨db, []⟩ = (⟨db, []⟩, .error error) := by
  unfold classifyRow
  cases hSurveyId : previewSurveyId env cells with
  | ok surveyId => exact absurd (previewSurveyId_isOk_iff.mp ⟨surveyId, hSurveyId⟩) h
  | error error => exact ⟨error, Script.bind_of_error rfl⟩

end

section Loop
variable {env : Env} {job : ImportJob} {map : ColumnMap}

/-- The line is a row of the file. -/
def IsNamed (env : Env) (map : ColumnMap) (values : List ExcelValue) : Prop :=
  ¬ (readRow env map values .surveyId).isEmpty

instance (values : List ExcelValue) : Decidable (IsNamed env map values) :=
  inferInstanceAs (Decidable (¬ _))

/-- A counted row is one row more. -/
theorem totalRows_count (progress : PreviewProgress) (row : ImportPreviewSampleRow) :
    ((progress.count row).sample row).totalRows = progress.totalRows + 1 := by
  unfold PreviewProgress.sample PreviewProgress.count
  cases row.classification <;> split_ifs <;> rfl

/-- The preview goes on after a line that is no row, or that has an id. -/
theorem previewRow_calm (progress : PreviewProgress) (numbered : List ExcelValue × Nat)
    (db : SurveyDb) (h : IsNamed env map numbered.1 → HasDigits env (readRow env map numbered.1)) :
    ∃ progress', previewRow env job map progress numbered ⟨db, []⟩ = (⟨db, []⟩, .ok progress') ∧
      progress'.totalRows = progress.totalRows + if IsNamed env map numbered.1 then 1 else 0 := by
  unfold previewRow
  dsimp only
  by_cases hNamed : IsNamed env map numbered.1
  · obtain ⟨classified, hClassify, hTotal, -⟩ := @classifyRow_calm env job _ progress db (h hNamed)
    rw [if_neg hNamed, Script.bind_of_ok hClassify, if_pos hNamed]
    refine ⟨_, rfl, ?_⟩
    rw [totalRows_count, hTotal]
  · rw [if_pos (not_not.mp hNamed), if_neg hNamed]
    exact ⟨progress, rfl, rfl⟩

/-- A named row without digits throws. -/
theorem previewRow_throws (progress : PreviewProgress) (numbered : List ExcelValue × Nat)
    (db : SurveyDb) (hNamed : IsNamed env map numbered.1)
    (h : ¬ HasDigits env (readRow env map numbered.1)) :
    ∃ error, previewRow env job map progress numbered ⟨db, []⟩ = (⟨db, []⟩, .error error) := by
  obtain ⟨error, hError⟩ := @classifyRow_throws env job _ progress db h
  unfold previewRow
  dsimp only
  rw [if_neg hNamed, Script.bind_of_error hError]
  exact ⟨error, rfl⟩

/-- The loop ends if no row stops it, and has counted the rows then. -/
theorem previewRows_calm (lines : List (List ExcelValue × Nat)) (progress : PreviewProgress)
    (db : SurveyDb) (h : ∀ line ∈ lines, IsNamed env map line.1 →
      HasDigits env (readRow env map line.1)) :
    ∃ progress', lines.foldlM (previewRow env job map) progress ⟨db, []⟩ =
        (⟨db, []⟩, .ok progress') ∧
      progress'.totalRows = progress.totalRows + lines.countP fun line => IsNamed env map line.1 := by
  induction lines generalizing progress with
  | nil => exact ⟨progress, rfl, rfl⟩
  | cons line lines ih =>
      obtain ⟨hLine, hRest⟩ := List.forall_mem_cons.mp h
      obtain ⟨next, hNext, hTotal⟩ := @previewRow_calm env job map progress line db hLine
      obtain ⟨final, hFinal, hCount⟩ := ih next hRest
      rw [List.foldlM_cons, Script.bind_of_ok hNext]
      refine ⟨final, hFinal, ?_⟩
      simp only [hCount, hTotal, List.countP_cons, decide_eq_true_eq]
      omega

/-- A loop that ends was not stopped. -/
theorem hasDigits_of_previewRows {lines : List (List ExcelValue × Nat)}
    {progress progress' : PreviewProgress} {db : SurveyDb} {after : SurveyState}
    (h : lines.foldlM (previewRow env job map) progress ⟨db, []⟩ = (after, .ok progress')) :
    ∀ line ∈ lines, IsNamed env map line.1 → HasDigits env (readRow env map line.1) := by
  induction lines generalizing progress with
  | nil => simp
  | cons line lines ih =>
      rw [List.foldlM_cons] at h
      by_cases hLine : IsNamed env map line.1 → HasDigits env (readRow env map line.1)
      · obtain ⟨next, hNext, -⟩ := @previewRow_calm env job map progress line db hLine
        rw [Script.bind_of_ok hNext] at h
        exact List.forall_mem_cons.mpr ⟨hLine, ih h⟩
      · obtain ⟨hNamed, hNot⟩ := Classical.not_imp.mp hLine
        obtain ⟨error, hError⟩ := @previewRow_throws env job map progress line db hNamed hNot
        rw [Script.bind_of_error hError] at h
        cases congrArg Prod.snd h

/-- The preview classifies line `n` as invalid when it comes to it. -/
def PreviewsInvalid (env : Env) (job : ImportJob) (map : ColumnMap) (db : SurveyDb)
    (lines : List (List ExcelValue × Nat)) (n : Nat) : Prop :=
  ∃ before values after progress classified, lines = before ++ (values, n) :: after ∧
    IsNamed env map values ∧
    before.foldlM (previewRow env job map) {} ⟨db, []⟩ = (⟨db, []⟩, .ok progress) ∧
    classifyRow env job progress (readRow env map values) ⟨db, []⟩ = (⟨db, []⟩, .ok classified) ∧
    classified.2.classification = .invalid

/-- The rows previewed as invalid are those reported so. -/
theorem previewsInvalid_iff {lines : List (List ExcelValue × Nat)} {db : SurveyDb} {n : Nat}
    (h : ∀ line ∈ lines, IsNamed env map line.1 → HasDigits env (readRow env map line.1)) :
    PreviewsInvalid env job map db lines n ↔ ∃ values, (values, n) ∈ lines ∧
      IsNamed env map values ∧
      (identityReport env (readRow env map values)).classification = .invalid := by
  constructor
  · rintro ⟨before, values, after, progress, classified, rfl, hNamed, -, hClassify, hInvalid⟩
    have hMem : (values, n) ∈ before ++ (values, n) :: after := by simp
    refine ⟨values, hMem, hNamed, ?_⟩
    obtain ⟨found, hFound, -, hIff⟩ :=
      @classifyRow_calm env job _ progress db (h _ hMem hNamed)
    obtain rfl := Except.ok.inj (congrArg Prod.snd (hClassify.symm.trans hFound))
    exact hIff.mp hInvalid
  · rintro ⟨values, hMem, hNamed, hInvalid⟩
    obtain ⟨before, after, rfl⟩ := List.append_of_mem hMem
    obtain ⟨progress, hBefore, -⟩ := @previewRows_calm env job map before {} db
      fun line hLine => h line (List.mem_append_left _ hLine)
    obtain ⟨classified, hClassify, -, hIff⟩ :=
      @classifyRow_calm env job _ progress db (h _ hMem hNamed)
    exact ⟨before, values, after, progress, classified, rfl, hNamed, hBefore, hClassify,
      hIff.mpr hInvalid⟩

end Loop

/-! ### The rows a job fails at -/

section Step
variable {env : Env} {job : ImportJob} {now : Timestamp} {map : ColumnMap}

/-- An update records no error. -/
theorem importErrors_update {id : Id} {data : SurveyData} {floors : List ParsedFloor}
    {db db' : SurveyDb} {survey : Survey}
    (h : (db.deleteFloors id).updateSurvey id data floors = .ok (db', survey)) :
    db'.importErrors = db.importErrors := by
  unfold SurveyDb.updateSurvey at h
  split at h
  · cases h
  · split_ifs at h
    obtain ⟨surveys, -, hDb⟩ := bind_ok h
    cases hDb
    rfl

/-- A created survey records no error. -/
theorem importErrors_create {data : SurveyData} {floors : List ParsedFloor} {db db' : SurveyDb}
    {survey : Survey} (h : db.createSurvey data floors now = .ok (db', survey)) :
    db'.importErrors = db.importErrors := by
  unfold SurveyDb.createSurvey at h
  split at h
  · split_ifs at h
    obtain ⟨surveys, -, hDb⟩ := bind_ok h
    cases hDb
    rfl
  · cases h

/-- A row that is stored records no error. -/
theorem RowDone.importErrors {row : ImportRow} {db db' : SurveyDb} {outcome : RowOutcome}
    (h : RowDone job now row db db' outcome) : db'.importErrors = db.importErrors := by
  cases h with
  | skipped => rfl
  | unchanged => rfl
  | @rewritten db'' existing updated _ _ _ hRun =>
      have hLog : (db''.logChanges (importChanges existing updated)
          (importEntry job existing updated)).importErrors = db''.importErrors := by
        cases importChanges existing updated <;> rfl
      exact hLog.trans (importErrors_update hRun)
  | inserted _ hCreate => exact importErrors_create hCreate
  | collided _ _ _ hRun => exact importErrors_update hRun

/-- A row that is written is one that the database can store. -/
def WritesStorable (env : Env) (job : ImportJob) (map : ColumnMap) (state : JobState)
    (line : List ExcelValue × Nat) : Prop :=
  ∀ row, rowOf env job map line.1 = some row → IsWritten job row state.db → row.isStorable = true

/-- The line is a row that cannot be read, or not be stored. -/
def FailsAt (env : Env) (job : ImportJob) (map : ColumnMap) (state : JobState)
    (line : List ExcelValue × Nat) : Prop :=
  IsNamed env map line.1 ∧ ¬ (∃ row, parseRow env job (readRow env map line.1) = .ok row) ∨
    ¬ WritesStorable env job map state line

/-- A row leaves an error behind exactly where it fails. -/
theorem lineStep_errors {state : JobState} {line : List ExcelValue × Nat}
    (hFresh : ∀ survey ∈ state.db.surveys.rows, survey.id < state.db.nextId) :
    ∃ errors, (lineStep env job now map state line).db.importErrors =
        state.db.importErrors ++ errors ∧
      ∀ n, (∃ error ∈ errors, error.rowNumber = n) ↔ line.2 = n ∧ FailsAt env job map state line := by
  generalize hNext : lineStep env job now map state line = next
  have hDone := @lineStep_done env job now map state line
  rw [hNext] at hDone
  have hFails : ∀ error, FailsAt env job map state line →
      ∀ n, (∃ found ∈ [importError env job line.2 (readRow env map line.1) error],
        found.rowNumber = n) ↔ line.2 = n ∧ FailsAt env job map state line := by
    intro error hFails n
    simp [importError, hFails]
  have hPasses : ¬ FailsAt env job map state line → ∀ n,
      (∃ found ∈ ([] : List ImportError), found.rowNumber = n) ↔
        line.2 = n ∧ FailsAt env job map state line := by
    intro hPasses n
    simp [hPasses]
  cases hDone with
  | unnamed hNamed =>
      refine ⟨[], by simp, hPasses ?_⟩
      rintro (⟨hNot, -⟩ | hNot)
      · exact hNot hNamed
      · refine hNot fun row hRow => ?_
        exact absurd hNamed (parse_of_rowOf hRow).1
  | unread hNamed hError =>
      refine ⟨_, rfl, hFails _ (.inl ⟨hNamed, ?_⟩)⟩
      rintro ⟨row, hRow⟩
      rw [hError] at hRow
      cases hRow
  | @refused row error hRow hRefused =>
      refine ⟨_, rfl, hFails _ (.inr fun hStorable => ?_)⟩
      have hParsed := (rowOf_isRead hRow).isParsed
      have hNot := hRefused.not_isStorable hParsed hFresh
      rw [hStorable row hRow hRefused.isWritten] at hNot
      cases hNot
  | @stored row db' outcome hRow hRun hStored =>
      refine ⟨[], ?_, hPasses ?_⟩
      · rw [List.append_nil]
        exact hStored.importErrors
      · rintro (⟨-, hNot⟩ | hNot)
        · exact hNot ⟨row, (parse_of_rowOf hRow).2⟩
        · refine hNot fun other hOther hWritten => ?_
          obtain rfl := Option.some.inj (hRow.symm.trans hOther)
          exact hStored.isStorable hWritten

/-- After any line, the next key is fresh. -/
theorem lineStep_fresh {state : JobState} (line : List ExcelValue × Nat)
    (hFresh : ∀ survey ∈ state.db.surveys.rows, survey.id < state.db.nextId) :
    ∀ survey ∈ (lineStep env job now map state line).db.surveys.rows,
      survey.id < (lineStep env job now map state line).db.nextId := by
  generalize hNext : lineStep env job now map state line = next
  have hDone := @lineStep_done env job now map state line
  rw [hNext] at hDone
  cases hDone with
  | unnamed => exact hFresh
  | unread => exact hFresh
  | refused => exact hFresh
  | stored _ _ hStored => exact hStored.fresh hFresh

/-- A named line is one more that was processed. -/
theorem lineStep_processed (state : JobState) (line : List ExcelValue × Nat) :
    (lineStep env job now map state line).progress.processed =
      state.progress.processed + if IsNamed env map line.1 then 1 else 0 := by
  generalize hNext : lineStep env job now map state line = next
  have hDone := @lineStep_done env job now map state line
  rw [hNext] at hDone
  have hCounted : IsNamed env map line.1 → (if IsNamed env map line.1 then 1 else 0) = 1 :=
    fun hNamed => if_pos hNamed
  cases hDone with
  | unnamed hNamed =>
      have hNot : ¬ IsNamed env map line.1 := not_not.mpr hNamed
      rw [if_neg hNot, Nat.add_zero]
  | unread hNamed =>
      rw [hCounted hNamed]
      rfl
  | refused hRow =>
      rw [hCounted (parse_of_rowOf hRow).1]
      rfl
  | stored hRow =>
      rw [hCounted (parse_of_rowOf hRow).1]
      rfl

/-- The job counts the rows of the file. -/
theorem run_processed (lines : List (List ExcelValue × Nat)) (state : JobState) :
    (run (lineStep env job now map) state lines).progress.processed =
      state.progress.processed + lines.countP fun line => IsNamed env map line.1 := by
  induction lines generalizing state with
  | nil => rfl
  | cons line lines ih =>
      simp only [run_cons, ih, lineStep_processed, List.countP_cons, decide_eq_true_eq]
      omega

/-- The errors of a run are those of the lines it fails at. -/
theorem run_errors (lines : List (List ExcelValue × Nat)) (state : JobState)
    (hFresh : ∀ survey ∈ state.db.surveys.rows, survey.id < state.db.nextId) :
    ∃ errors, (run (lineStep env job now map) state lines).db.importErrors =
        state.db.importErrors ++ errors ∧
      ∀ n, (∃ error ∈ errors, error.rowNumber = n) ↔ ∃ before line after,
        lines = before ++ line :: after ∧ line.2 = n ∧
          FailsAt env job map (run (lineStep env job now map) state before) line := by
  induction lines generalizing state with
  | nil => exact ⟨[], by simp, by simp⟩
  | cons line lines ih =>
      obtain ⟨first, hFirst, hFirstIff⟩ := @lineStep_errors env job now map state line hFresh
      obtain ⟨rest, hRest, hRestIff⟩ := ih _ (lineStep_fresh line hFresh)
      refine ⟨first ++ rest, ?_, fun n => ?_⟩
      · rw [run_cons, hRest, hFirst, List.append_assoc]
      · have hSplit : (∃ error ∈ first ++ rest, error.rowNumber = n) ↔
            (∃ error ∈ first, error.rowNumber = n) ∨ ∃ error ∈ rest, error.rowNumber = n := by
          simp only [List.mem_append, or_and_right, exists_or]
        rw [hSplit, hFirstIff, hRestIff]
        constructor
        · rintro (⟨hNumber, hFails⟩ | ⟨before, other, after, rfl, hNumber, hFails⟩)
          · exact ⟨[], line, lines, rfl, hNumber, hFails⟩
          · exact ⟨line :: before, other, after, rfl, hNumber, hFails⟩
        · rintro ⟨before, other, after, hLines, hNumber, hFails⟩
          cases before with
          | nil =>
              obtain ⟨rfl, rfl⟩ := List.cons.inj hLines
              exact .inl ⟨hNumber, hFails⟩
          | cons head before =>
              obtain ⟨rfl, rfl⟩ := List.cons.inj hLines
              exact .inr ⟨before, other, after, rfl, hNumber, hFails⟩

end Step

section Job
variable {env : Env} {job : ImportJob} {now : Timestamp} {pruneMissing : Bool} {sheet : Option Sheet}
  {loaded : ColumnMap × Sheet} {db : SurveyDb}

/-- The preview of a file says beforehand what the job does: how many rows there
are, and which of them fail. -/
def PreviewPredicts (env : Env) (job : ImportJob) (now : Timestamp) (pruneMissing : Bool)
    (sheet : Option Sheet) (loaded : ColumnMap × Sheet) (db : SurveyDb) : Prop :=
  ∃ seen after result errors,
    preview env job sheet ⟨db, []⟩ = (⟨db, []⟩, .ok seen) ∧
    processJob env job now pruneMissing sheet ⟨db, []⟩ = (after, .ok result) ∧
    seen.totalRows = result.progress.processed ∧
    after.db.importErrors = db.importErrors ++ errors ∧
    ∀ n, PreviewsInvalid env job loaded.1 db (loaded.2.rows.zipIdx 2) n ↔
      ∃ error ∈ errors, error.rowNumber = n

/-- Every row that could have a Survey Id has one. -/
def RowsHaveDigits (env : Env) (loaded : ColumnMap × Sheet) : Prop :=
  ∀ values ∈ loaded.2.rows, IsNamed env loaded.1 values →
    HasDigits env (readRow env loaded.1 values)

/-- When every named row has digits. -/
theorem rowsHaveDigits_iff : RowsHaveDigits env loaded ↔ ∀ line ∈ loaded.2.rows.zipIdx 2,
    IsNamed env loaded.1 line.1 → HasDigits env (readRow env loaded.1 line.1) := by
  unfold RowsHaveDigits
  conv_lhs => rw [← List.zipIdx_map_fst 2 loaded.2.rows]
  exact List.forall_mem_map

theorem preview_calm (hLoaded : loadSurveySheet env sheet = .ok loaded)
    (h : RowsHaveDigits env loaded) (db : SurveyDb) :
    ∃ seen, preview env job sheet ⟨db, []⟩ = (⟨db, []⟩, .ok seen) ∧
      seen.totalRows = (loaded.2.rows.zipIdx 2).countP fun line => IsNamed env loaded.1 line.1 := by
  have hPure : (orThrow (.ok loaded) : SurveyScript (ColumnMap × Sheet)) ⟨db, []⟩ =
    (⟨db, []⟩, .ok loaded) := rfl
  obtain ⟨progress, hLoop, hTotal⟩ := @previewRows_calm env job loaded.1
    (loaded.2.rows.zipIdx 2) {} db (rowsHaveDigits_iff.mp h)
  unfold preview
  rw [hLoaded, Except.mapError, Script.bind_of_ok hPure, Script.bind_of_ok hLoop]
  exact ⟨_, rfl, hTotal.trans (Nat.zero_add _)⟩

/-- A preview that returns has found an id for each row. -/
theorem rowsHaveDigits_of_preview (hLoaded : loadSurveySheet env sheet = .ok loaded)
    {after : SurveyState} {seen : ImportPreviewResult}
    (h : preview env job sheet ⟨db, []⟩ = (after, .ok seen)) : RowsHaveDigits env loaded := by
  have hPure : (orThrow (.ok loaded) : SurveyScript (ColumnMap × Sheet)) ⟨db, []⟩ =
    (⟨db, []⟩, .ok loaded) := rfl
  unfold preview at h
  rw [hLoaded, Except.mapError, Script.bind_of_ok hPure] at h
  rw [rowsHaveDigits_iff]
  rcases hLoop : (loaded.2.rows.zipIdx 2).foldlM (previewRow env job loaded.1) {} ⟨db, []⟩ with
    ⟨middle, error | progress⟩
  · rw [Script.bind_of_error hLoop] at h
    cases congrArg Prod.snd h
  · exact hasDigits_of_previewRows hLoop

/-- Where every row has an id and is storable, a line is classified as invalid
when the job fails at it. -/
theorem previewsInvalid_iff_failsAt (hDigits : RowsHaveDigits env loaded)
    (hStorable : Along (lineStep env job now loaded.1) (WritesStorable env job loaded.1) ⟨db, {}⟩
      (loaded.2.rows.zipIdx 2)) (n : Nat) :
    PreviewsInvalid env job loaded.1 db (loaded.2.rows.zipIdx 2) n ↔ ∃ before line after,
      loaded.2.rows.zipIdx 2 = before ++ line :: after ∧ line.2 = n ∧
        FailsAt env job loaded.1 (run (lineStep env job now loaded.1) ⟨db, {}⟩ before) line := by
  have hLines := rowsHaveDigits_iff.mp hDigits
  rw [previewsInvalid_iff hLines]
  constructor
  · rintro ⟨values, hMem, hNamed, hInvalid⟩
    obtain ⟨before, after, hSplit⟩ := List.append_of_mem hMem
    refine ⟨before, (values, n), after, hSplit, rfl, .inl ⟨hNamed, fun hRow => ?_⟩⟩
    exact (parseRow_isOk_iff.mp hRow).2 hInvalid
  · rintro ⟨before, line, after, hSplit, rfl, hFails⟩
    have hMem : line ∈ loaded.2.rows.zipIdx 2 := by
      rw [hSplit]
      exact List.mem_append_right _ List.mem_cons_self
    obtain ⟨hNamed, hUnread⟩ := hFails.resolve_right
      (not_not.mpr (along_iff_forall.mp hStorable before line after hSplit))
    refine ⟨line.1, hMem, hNamed, ?_⟩
    by_contra hValid
    exact hUnread (parseRow_isOk_iff.mpr ⟨hLines line hMem hNamed, hValid⟩)

/-- The preview tells what the job does exactly when every number in the file that
a Survey Id is made of has a digit, and the database can store what is written. -/
theorem preview_predicts_iff (hLoaded : loadSurveySheet env sheet = .ok loaded)
    (hFresh : ∀ survey ∈ db.surveys.rows, survey.id < db.nextId) :
    PreviewPredicts env job now pruneMissing sheet loaded db ↔
      RowsHaveDigits env loaded ∧
        Along (lineStep env job now loaded.1) (WritesStorable env job loaded.1) ⟨db, {}⟩
          (loaded.2.rows.zipIdx 2) := by
  obtain ⟨db', pruned, hJob, -, hErrors, -⟩ := @processJob_run env job now sheet loaded hLoaded
    pruneMissing db
  obtain ⟨errors, hRun, hFailed⟩ := @run_errors env job now loaded.1 (loaded.2.rows.zipIdx 2)
    ⟨db, {}⟩ hFresh
  have hAdded : db'.importErrors = db.importErrors ++ errors := hErrors.trans hRun
  constructor
  · rintro ⟨seen, after, result, found, hPreview, hResult, -, hFound, hSame⟩
    have hDigits := rowsHaveDigits_of_preview hLoaded hPreview
    obtain ⟨rfl, -⟩ := Prod.mk.inj (hResult.symm.trans hJob)
    obtain rfl := List.append_cancel_left (hFound.symm.trans hAdded)
    refine ⟨hDigits, along_iff_forall.mpr fun before line after hSplit => ?_⟩
    by_contra hNot
    -- the line is refused, so its number is among the errors
    have hError := (hFailed line.2).mpr ⟨before, line, after, hSplit, rfl, .inr hNot⟩
    obtain ⟨values, hMem, hNamed, hInvalid⟩ :=
      (previewsInvalid_iff (rowsHaveDigits_iff.mp hDigits)).mp ((hSame line.2).mpr hError)
    have hLine : line ∈ loaded.2.rows.zipIdx 2 := by
      rw [hSplit]
      exact List.mem_append_right _ List.mem_cons_self
    have hValues : some values = some line.1 :=
      (List.mk_mem_zipIdx_iff_le_and_getElem?_sub.mp hMem).2.symm.trans
        (List.mem_zipIdx_iff_le_and_getElem?_sub.mp hLine).2
    obtain rfl := Option.some.inj hValues
    refine hNot fun row hRow hWritten => ?_
    exact absurd hInvalid (parseRow_isOk_iff.mp ⟨row, (parse_of_rowOf hRow).2⟩).2
  · rintro ⟨hDigits, hStorable⟩
    obtain ⟨seen, hPreview, hTotal⟩ := @preview_calm env job sheet loaded hLoaded hDigits db
    refine ⟨seen, _, _, errors, hPreview, hJob, ?_, hAdded, fun n => ?_⟩
    · rw [hTotal, jobRun, run_processed]
      exact (Nat.zero_add _).symm
    · rw [previewsInvalid_iff_failsAt hDigits hStorable, hFailed]

end Job

namespace Sample

/-- The parcel number is a letter. -/
def letteredParcel : Sheet := propertySheet [("249044-001-000001-001-R", "Asha", "A", "1")]

/-- Two properties, between them one of a ward that does not exist. -/
def strayWard : Sheet :=
  propertySheet [("249044-001-000001-001-R", "Asha", "1", "1"),
    ("249044-099-000002-001-R", "Mohan", "2", "1"), ("249044-001-000003-001-R", "Ravi", "3", "1")]

theorem loaded_samples : (loadSurveySheet firstWard (some letteredParcel)).toOption.isSome ∧
    (loadSurveySheet firstWard (some strayWard)).toOption.isSome := by
  decide +kernel

theorem previewed_samples :
    (preview firstWard updateJob (some letteredParcel) ⟨SurveyDb.empty, []⟩).2.toOption.isSome =
      false ∧
    (preview firstWard updateJob (some strayWard) ⟨SurveyDb.empty, []⟩).2.toOption.isSome = true ∧
    (fileRows firstWard updateJob (some strayWard)).all ImportRow.isStorable = true := by
  decide +kernel

end Sample

theorem exists_of_isSome {ε α : Type} {result : Except ε α} (h : result.toOption.isSome) :
    ∃ a, result = .ok a := by
  cases result with
  | error error => cases h
  | ok a => exact ⟨a, rfl⟩

/-- The preview stops at a parcel number without a digit. -/
theorem preview_stops_at_letter : ¬ ∀ (env : Env) (job : ImportJob) (now : Timestamp)
    (pruneMissing : Bool) (sheet : Option Sheet) (loaded : ColumnMap × Sheet) (db : SurveyDb),
    loadSurveySheet env sheet = .ok loaded →
    (∀ survey ∈ db.surveys.rows, survey.id < db.nextId) →
    PreviewPredicts env job now pruneMissing sheet loaded db := by
  intro hLaw
  obtain ⟨loaded, hLoaded⟩ := exists_of_isSome Sample.loaded_samples.1
  have hFresh : ∀ survey ∈ SurveyDb.empty.surveys.rows, survey.id < SurveyDb.empty.nextId := by
    intro survey hSurvey
    cases hSurvey
  obtain ⟨seen, after, result, errors, hPreview, -⟩ := hLaw Sample.firstWard Sample.updateJob 0 false
    (some Sample.letteredParcel) loaded SurveyDb.empty hLoaded hFresh
  have hStopped := Sample.previewed_samples.1
  rw [hPreview] at hStopped
  cases hStopped

/-- Two rows are stored and the one between them is refused, as the preview tells it. -/
theorem preview_predicts_iff_stray : ∃ loaded,
    loadSurveySheet Sample.firstWard (some Sample.strayWard) = .ok loaded ∧
    PreviewPredicts Sample.firstWard Sample.updateJob 0 false (some Sample.strayWard) loaded
      SurveyDb.empty ∧
    (processJob Sample.firstWard Sample.updateJob 0 false (some Sample.strayWard)
      ⟨SurveyDb.empty, []⟩).2.toOption.map (fun result =>
        (result.progress.success, result.progress.failed)) = some (2, 1) := by
  obtain ⟨loaded, hLoaded⟩ := exists_of_isSome Sample.loaded_samples.2
  obtain ⟨-, hPreviewed, hStorable⟩ := Sample.previewed_samples
  have hFresh : ∀ survey ∈ SurveyDb.empty.surveys.rows, survey.id < SurveyDb.empty.nextId := by
    intro survey hSurvey
    cases hSurvey
  have hDigits : RowsHaveDigits Sample.firstWard loaded := by
    rcases hPreview : preview Sample.firstWard Sample.updateJob (some Sample.strayWard)
        ⟨SurveyDb.empty, []⟩ with ⟨after, error | seen⟩
    · rw [hPreview] at hPreviewed
      cases hPreviewed
    · exact rowsHaveDigits_of_preview hLoaded hPreview
  refine ⟨loaded, hLoaded, (preview_predicts_iff hLoaded hFresh).mpr ⟨hDigits, ?_⟩,
    by decide +kernel⟩
  have hRows : ∀ line ∈ loaded.2.rows.zipIdx 2, ∀ row,
      rowOf Sample.firstWard Sample.updateJob loaded.1 line.1 = some row →
        row.isStorable = true := by
    intro line hLine row hRow
    refine List.all_eq_true.mp hStorable row ?_
    simp only [fileRows, hLoaded]
    exact List.mem_filterMap.mpr ⟨line.1, List.fst_mem_of_mem_zipIdx hLine, hRow⟩
  exact (along_of_forall _ hRows).mono fun state line hLine row hRow _ => hLine row hRow

end PropertyTax.Surveys
