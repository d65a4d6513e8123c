import PropertyTax.Surveys.IdentityLaw

/-! The maintenance script that repairs Survey Ids. It builds the new id from the number
columns and then writes into these columns the numbers of the old id. -/
namespace PropertyTax.Surveys
open KeyedTable

/-- The lines that the script prints, by the ids of their surveys. -/
structure RepairReport where
  total : Nat
  mismatches : List Id
  fixed : List Id
  skipped : List Id

/-- What the script finds out about a survey. -/
structure Inspection where
  parsed : Option GisSurveyParts
  expected : Text
  mismatch : Bool

/-- Both numbers are there, and they differ. -/
def numbersDiffer (stored parsed : Option Text) : Bool :=
  match stored, parsed with
  | some stored, some parsed => stored ≠ parsed
  | _, _ => false

namespace RepairScript
variable (env : Env)

def inspect (survey : Survey) : Except SurveyError Inspection :=
  match env.wards.find? survey.wardId with
  | none => .error .invalidData
  | some ward =>
      let parsed := parseGisSurveyId survey.surveyId
      match buildSurveyIdFromRecord env.ulbCode ward.number survey.surveyId survey.parcelNo
          survey.propertyNo (parsed.map GisSurveyParts.gisUseCode) with
      | .error error => .error (.identity error)
      | .ok expected =>
          let parcelMismatch :=
            numbersDiffer survey.parcelNo (parsed.map GisSurveyParts.parcelNo)
          let propertyMismatch :=
            numbersDiffer survey.propertyNo (parsed.map GisSurveyParts.propertyNo)
          .ok ⟨parsed, expected,
            survey.surveyId ≠ expected || parcelMismatch || propertyMismatch⟩

/-- `data` of the update. -/
def repaired (inspection : Inspection) (survey : Survey) : Survey :=
  { survey with
    surveyId := inspection.expected
    parcelNo := inspection.parsed.map GisSurveyParts.parcelNo <|> survey.parcelNo
    propertyNo := inspection.parsed.map GisSurveyParts.propertyNo <|> survey.propertyNo }

/-- The expected id is held by another row. -/
def isTaken (survey : Survey) (expected : Text) (db : SurveyDb) : Bool :=
  (db.bySurveyId? expected).any fun clash => clash.id ≠ survey.id

/-- The turn of one survey of the loop. -/
def repairOne (fix : Bool) (survey : Survey) (report : RepairReport) (db : SurveyDb) :
    Except SurveyError (SurveyDb × RepairReport) := do
  let inspection ← inspect env survey
  if !inspection.mismatch then return (db, report)
  let report := { report with mismatches := report.mismatches ++ [survey.id] }
  if !fix then return (db, report)
  if isTaken survey inspection.expected db then
    return (db, { report with skipped := report.skipped ++ [survey.id] })
  let surveys ← (db.surveys.update survey.id fun row =>
    { row with
      surveyId := (repaired inspection survey).surveyId
      parcelNo := (repaired inspection survey).parcelNo
      propertyNo := (repaired inspection survey).propertyNo }).mapError .refused
  return ({ db with surveys }, { report with fixed := report.fixed ++ [survey.id] })

/-- A survey that throws ends the script, and leaves what is written. -/
def repairAll (fix : Bool) :
    List Survey → RepairReport → SurveyDb → SurveyDb × Except SurveyError RepairReport
  | [], report, db => (db, .ok report)
  | survey :: rest, report, db =>
      match repairOne env fix survey report db with
      | .error error => (db, .error error)
      | .ok (db, report) => repairAll fix rest report db

def runScript (fix : Bool) (db : SurveyDb) : SurveyDb × Except SurveyError RepairReport :=
  let surveys := db.surveys.rows.filter Survey.isLive
  repairAll env fix surveys ⟨surveys.length, [], [], []⟩ db

end RepairScript

open RepairScript

/-! ### One survey -/

/-- The numbers of the columns and those of the id are not the same numbers. -/
def Disagrees (survey : Survey) : Prop :=
  ∃ parts, parseGisSurveyId survey.surveyId = some parts ∧
    ((∃ number ∈ survey.parcelNo, normalizeParcelNo number ≠ normalizeParcelNo parts.parcelNo) ∨
      ∃ number ∈ survey.propertyNo,
        normalizePropertyNo number ≠ normalizePropertyNo parts.propertyNo)

/-- What an id is built from, when it can be built. -/
structure Inspected (env : Env) (survey : Survey) (inspection : Inspection)
    (parts : GisSurveyParts) (parcel property : Text) : Prop where
  parsed : parseGisSurveyId survey.surveyId = some parts
  seen : inspection.parsed = some parts
  parcelOk : normalizeParcelNo (survey.parcelNo.getD parts.parcelNo) = .ok parcel
  propertyOk : normalizePropertyNo (survey.propertyNo.getD parts.propertyNo) = .ok property
  mismatch : inspection.mismatch = true ↔ survey.surveyId ≠ inspection.expected ∨
    (∃ number ∈ survey.parcelNo, number ≠ parts.parcelNo) ∨
      ∃ number ∈ survey.propertyNo, number ≠ parts.propertyNo
  expected : ∃ (ward : Ward) (code : Text) (c : Char),
    env.wards.find? survey.wardId = some ward ∧ normalizeWardCode ward.number = .ok code ∧
    c.isAlpha = true ∧
    normalizeGisUseCode parts.gisUseCode = .ok [c.toUpper] ∧
    inspection.expected = printSurveyId env.ulbCode code parcel property [c.toUpper] ∧
    parseGisSurveyId inspection.expected =
      some ⟨env.ulbCode, code, parcel, property, [c.toUpper]⟩

/-- A missing number is taken from the id. -/
theorem orElse_getD (stored : Option Text) (parsed : Text) :
    (stored <|> some parsed).getD [] = stored.getD parsed := by
  cases stored <;> rfl

/-- Numbers differ when one is stored that is not the one in the id. -/
theorem numbersDiffer_iff {stored : Option Text} {parsed : Text} :
    numbersDiffer stored (some parsed) = true ↔ ∃ number ∈ stored, number ≠ parsed := by
  cases stored <;> simp [numbersDiffer]

section One
variable {env : Env} {survey : Survey} {inspection : Inspection}

/-- An id without a letter makes the script throw. -/
theorem inspected_of_ok (hEnv : env.Numbered)
    (h : inspect env survey = .ok inspection) :
    ∃ parts parcel property, Inspected env survey inspection parts parcel property := by
  unfold inspect at h
  cases hWard : env.wards.find? survey.wardId with
  | none => rw [hWard] at h; cases h
  | some ward =>
      rw [hWard] at h
      dsimp only at h
      cases hBuild : buildSurveyIdFromRecord env.ulbCode ward.number survey.surveyId
          survey.parcelNo survey.propertyNo
          ((parseGisSurveyId survey.surveyId).map GisSurveyParts.gisUseCode) with
      | error error => rw [hBuild] at h; cases h
      | ok expected =>
          rw [hBuild] at h
          cases h
          cases hParsed : parseGisSurveyId survey.surveyId with
          | none =>
              obtain ⟨_, _, hRest⟩ := bind_ok hBuild
              obtain ⟨_, _, hRest⟩ := bind_ok hRest
              obtain ⟨letter, hLetter, -⟩ := bind_ok hRest
              rw [hParsed] at hLetter
              cases hLetter
          | some parts =>
              obtain ⟨parcel, hParcel, hRest⟩ := bind_ok hBuild
              obtain ⟨property, hProperty, hRest⟩ := bind_ok hRest
              obtain ⟨letter, hLetter, hGenerate⟩ := bind_ok hRest
              rw [hParsed] at hParcel hProperty hLetter
              rw [Option.map_some, orElse_getD] at hParcel hProperty
              obtain ⟨c, hAlpha, rfl⟩ := normalizeGisUseCode_ok hLetter
              obtain ⟨code, parcel', property', letter', hCode, hParcel', hProperty', hLetter',
                hPrint⟩ := generateSurveyId_eq_ok_iff.mp hGenerate
              obtain rfl := Except.ok.inj ((normalizeNumber_ok hParcel).symm.trans hParcel')
              obtain rfl := Except.ok.inj ((normalizeNumber_ok hProperty).symm.trans hProperty')
              obtain rfl := Except.ok.inj ((normalizeGisUseCode_upper hAlpha).symm.trans hLetter')
              rw [trimChars_isNumeral hEnv.ulbCode] at hPrint
              have hIds := hEnv.identifiable hWard
              have hRead := parse_printSurveyId hEnv.ulbCode (isNumeral_of_normalizeNumber hCode)
                (normalizeWardCode_length hIds.low hIds.high hCode)
                (isNumeral_of_normalizeNumber hParcel) (isNumeral_of_normalizeNumber hProperty)
                hAlpha
              refine ⟨parts, parcel, property, hParsed, rfl, hParcel, hProperty, ?_,
                ward, code, c, hWard, hCode, hAlpha, hLetter, hPrint.symm, hPrint ▸ hRead⟩
              simp only [Option.map_some, Bool.or_eq_true, decide_eq_true_eq, numbersDiffer_iff,
                or_assoc]

/-- A survey disagrees with its id when its numbers are not the id's. -/
theorem Inspected.disagrees_iff {parts : GisSurveyParts} {parcel property : Text}
    (h : Inspected env survey inspection parts parcel property) :
    Disagrees survey ↔ normalizeParcelNo parts.parcelNo ≠ .ok parcel ∨
      normalizePropertyNo parts.propertyNo ≠ .ok property := by
  have hNumber : ∀ {normalize : Text → Except IdentityError Text} {stored : Option Text}
      {parsed number : Text}, normalize (stored.getD parsed) = .ok number →
        ((∃ n ∈ stored, normalize n ≠ normalize parsed) ↔ normalize parsed ≠ .ok number) := by
    intro normalize stored parsed number hOk
    cases stored with
    | none => exact iff_of_false (by simp) (not_not.mpr hOk)
    | some n =>
        have hStored : normalize n = .ok number := hOk
        simp only [Option.mem_some_iff, exists_eq_left', hStored]
        exact ne_comm
  rw [← hNumber h.parcelOk, ← hNumber h.propertyOk, Disagrees, h.parsed]
  simp only [Option.some.injEq, exists_eq_left']

/-- A repaired survey shows in its columns what its id was, and in its id what its
columns were. -/
theorem Inspected.disagrees_repaired {parts : GisSurveyParts} {parcel property : Text}
    (h : Inspected env survey inspection parts parcel property) :
    Disagrees (repaired inspection survey) ↔ Disagrees survey := by
  obtain ⟨ward, code, c, -, -, -, -, -, hRead⟩ := h.expected
  have hParcel : normalizeParcelNo parcel = .ok parcel := normalizeNumber_ok h.parcelOk
  have hProperty : normalizePropertyNo property = .ok property := normalizeNumber_ok h.propertyOk
  rw [h.disagrees_iff, Disagrees]
  simp only [repaired, hRead, h.seen, Option.map_some, Option.some.injEq, exists_eq_left',
    hParcel, hProperty, Option.orElse_eq_orElse, Option.orElse_some, Option.mem_some_iff]

/-- Only numbers that agree are what the id is built from next time. -/
theorem Inspected.again {parts : GisSurveyParts} {parcel property : Text}
    (h : Inspected env survey inspection parts parcel property) (hAgrees : ¬ Disagrees survey)
    {inspection' : Inspection} {parts' : GisSurveyParts} {parcel' property' : Text}
    (h' : Inspected env (repaired inspection survey) inspection' parts' parcel' property') :
    inspection'.expected = inspection.expected ∧ parts'.parcelNo = parcel ∧
      parts'.propertyNo = property := by
  rw [h.disagrees_iff, not_or, not_not, not_not] at hAgrees
  obtain ⟨ward, code, c, hWard, hCode, hAlpha, hLetter, hPrint, hRead⟩ := h.expected
  obtain ⟨ward', code', c', hWard', hCode', hAlpha', hLetter', hPrint', -⟩ := h'.expected
  obtain rfl := Option.some.inj (hRead.symm.trans h'.parsed)
  obtain rfl := Option.some.inj (hWard.symm.trans hWard')
  obtain rfl := Except.ok.inj (hCode.symm.trans hCode')
  have hParcel' := h'.parcelOk
  have hProperty' := h'.propertyOk
  simp only [repaired, h.seen, Option.map_some, Option.orElse_eq_orElse, Option.orElse_some,
    Option.getD_some] at hParcel' hProperty'
  obtain rfl := Except.ok.inj (hAgrees.1.symm.trans hParcel')
  obtain rfl := Except.ok.inj (hAgrees.2.symm.trans hProperty')
  have hSame := Except.ok.inj ((normalizeGisUseCode_upper hAlpha).symm.trans hLetter')
  exact ⟨by rw [hPrint', hPrint, hSame], rfl, rfl⟩

/-- The script has nothing to repair. -/
def IsSettled (env : Env) (survey : Survey) : Prop :=
  ∀ inspection, inspect env survey = .ok inspection → inspection.mismatch = false

/-- A survey that disagrees with its id is reported. -/
theorem Disagrees.not_settled (h : Disagrees survey) (hOk : inspect env survey = .ok inspection)
    (hEnv : env.Numbered) : inspection.mismatch = true := by
  obtain ⟨parts, parcel, property, hInspected⟩ := inspected_of_ok hEnv hOk
  obtain ⟨parts', hParsed, hNumbers⟩ := h
  obtain rfl := Option.some.inj (hInspected.parsed.symm.trans hParsed)
  refine hInspected.mismatch.mpr (.inr (hNumbers.imp ?_ ?_))
  · rintro ⟨number, hNumber, hNe⟩
    exact ⟨number, hNumber, fun hSame => hNe (congrArg normalizeParcelNo hSame)⟩
  · rintro ⟨number, hNumber, hNe⟩
    exact ⟨number, hNumber, fun hSame => hNe (congrArg normalizePropertyNo hSame)⟩

/-- Where the numbers agree, the second repair writes them as the id has them. -/
theorem settled_repaired_twice (hEnv : env.Numbered) (hAgrees : ¬ Disagrees survey)
    (hOk : inspect env survey = .ok inspection) {inspection' : Inspection}
    (hOk' : inspect env (repaired inspection survey) = .ok inspection') :
    inspection'.expected = (repaired inspection survey).surveyId ∧
      IsSettled env (repaired inspection' (repaired inspection survey)) := by
  obtain ⟨parts, parcel, property, h⟩ := inspected_of_ok hEnv hOk
  obtain ⟨parts', parcel', property', h'⟩ := inspected_of_ok hEnv hOk'
  obtain ⟨hExpected, hParcel, hProperty⟩ := h.again hAgrees h'
  refine ⟨hExpected, fun inspection'' hOk'' => ?_⟩
  obtain ⟨parts'', parcel'', property'', h''⟩ := inspected_of_ok hEnv hOk''
  have hAgrees' := mt h.disagrees_repaired.mp hAgrees
  obtain ⟨hExpected', hParcel', hProperty'⟩ := h'.again hAgrees' h''
  obtain rfl : parts'' = parts' := by
    have hParsed : parseGisSurveyId inspection'.expected = some parts'' := h''.parsed
    rw [hExpected] at hParsed
    exact Option.some.inj (hParsed.symm.trans h'.parsed)
  rw [Bool.eq_false_iff, ne_eq, h''.mismatch]
  simp [repaired, h'.seen, hExpected']

end One

/-! ### One run -/

/-- What a run that fixes does to a survey and reports of it. -/
structure Fate (env : Env) (survey : Survey) (report : RepairReport) (inspection : Inspection)
    (after : Survey) : Prop where
  inspected : inspect env survey = .ok inspection
  reported : survey.id ∈ report.mismatches ↔ inspection.mismatch = true
  row : after = survey ∧ (inspection.mismatch = true →
      survey.id ∈ report.skipped ∧ inspection.expected ≠ survey.surveyId) ∨
    after = repaired inspection survey ∧ inspection.mismatch = true ∧
      survey.id ∉ report.skipped

/-- The report of a turn goes on from the report before. -/
structure Extends (id : Id) (report report' : RepairReport) : Prop where
  mismatches : ∀ other, other ≠ id → (other ∈ report'.mismatches ↔ other ∈ report.mismatches)
  skipped : ∀ other, other ≠ id → (other ∈ report'.skipped ↔ other ∈ report.skipped)

section Turn
variable {env : Env} {survey : Survey} {report report' : RepairReport} {db db' : SurveyDb}

/-- Its own id is not taken from a survey. -/
theorem isTaken_self (hStored : db.surveys.find? survey.id = some survey) :
    isTaken survey survey.surveyId db = false := by
  have hMem := (find?_eq_some_iff.mp hStored).1
  have hFound : db.bySurveyId? survey.surveyId = some survey := by
    refine findFirst?_eq_some_of_mem hMem (by simp) fun other hOther hSame => ?_
    refine eq_of_clash hOther hMem ?_
    simp only [decide_eq_true_eq] at hSame
    simp [KeyedRow.clash, hSame]
  simp [isTaken, hFound]

/-- What the script does to one survey. -/
theorem repairOne_ok {fix : Bool} (h : repairOne env fix survey report db = .ok (db', report')) :
    ∃ inspection, inspect env survey = .ok inspection ∧ Extends survey.id report report' ∧
      report'.mismatches =
        report.mismatches ++ if inspection.mismatch then [survey.id] else [] := by
  obtain ⟨inspection, hInspect, h⟩ := bind_ok h
  refine ⟨inspection, hInspect, ?_⟩
  have hAppend : ∀ (ids : List Id) (other : Id), other ≠ survey.id →
      (other ∈ ids ++ [survey.id] ↔ other ∈ ids) := by
    intro ids other hOther
    simp [hOther]
  cases hMismatch : inspection.mismatch with
  | false =>
      simp only [hMismatch] at h
      cases h
      exact ⟨⟨fun _ _ => .rfl, fun _ _ => .rfl⟩, by simp⟩
  | true =>
      cases fix with
      | false =>
          simp only [hMismatch] at h
          cases h
          exact ⟨⟨hAppend _, fun _ _ => .rfl⟩, rfl⟩
      | true =>
          cases hTaken : isTaken survey inspection.expected db with
          | true =>
              simp only [hMismatch, hTaken] at h
              cases h
              exact ⟨⟨hAppend _, hAppend _⟩, rfl⟩
          | false =>
              simp only [hMismatch, hTaken] at h
              obtain ⟨surveys, -, h⟩ := bind_ok h
              cases h
              exact ⟨⟨hAppend _, fun _ _ => .rfl⟩, rfl⟩

/-- The turn of a survey writes its own row alone. -/
theorem repairOne_fix (h : repairOne env true survey report db = .ok (db', report'))
    (hStored : db.surveys.find? survey.id = some survey) (hFresh : survey.id ∉ report.skipped)
    (hNew : survey.id ∉ report.mismatches) :
    (∃ inspection after, db'.surveys.find? survey.id = some after ∧
      Fate env survey report' inspection after) ∧
    ∀ id, id ≠ survey.id → db'.surveys.find? id = db.surveys.find? id := by
  obtain ⟨inspection, hInspect, h⟩ := bind_ok h
  cases hMismatch : inspection.mismatch with
  | false =>
      simp only [hMismatch] at h
      cases h
      refine ⟨⟨inspection, survey, hStored, hInspect, by simp [hMismatch, hNew], ?_⟩,
        fun _ _ => rfl⟩
      exact .inl ⟨rfl, fun hTrue => by rw [hMismatch] at hTrue; cases hTrue⟩
  | true =>
      cases hTaken : isTaken survey inspection.expected db with
      | true =>
          simp only [hMismatch, hTaken] at h
          cases h
          refine ⟨⟨inspection, survey, hStored, hInspect, by simp [hMismatch], ?_⟩, fun _ _ => rfl⟩
          refine .inl ⟨rfl, fun _ => ⟨by simp, fun hOwn => ?_⟩⟩
          rw [hOwn, isTaken_self hStored] at hTaken
          cases hTaken
      | false =>
          simp only [hMismatch, hTaken] at h
          obtain ⟨surveys, hUpdate, h⟩ := bind_ok h
          cases h
          cases hRun : db.surveys.update survey.id fun row =>
              { row with
                surveyId := (repaired inspection survey).surveyId
                parcelNo := (repaired inspection survey).parcelNo
                propertyNo := (repaired inspection survey).propertyNo } with
          | error refusal => rw [hRun] at hUpdate; cases hUpdate
          | ok surveys' =>
              rw [hRun] at hUpdate
              cases hUpdate
              have hReplaced := replaced_of_update hRun (find?_eq_some_iff.mp hStored).1 rfl rfl
              refine ⟨⟨inspection, repaired inspection survey, hReplaced.find?_new, hInspect,
                by simp [hMismatch], .inr ⟨rfl, hMismatch, hFresh⟩⟩, fun id hId => ?_⟩
              exact hReplaced.find?_of_ne hId

end Turn

section Loop
variable {env : Env} {fix : Bool} {after : SurveyDb} {final : RepairReport}

/-- The surveys are repaired one after the other. -/
theorem repairAll_cons_ok {survey : Survey} {rest : List Survey} {report : RepairReport}
    {db : SurveyDb} (h : repairAll env fix (survey :: rest) report db = (after, .ok final)) :
    ∃ db' report', repairOne env fix survey report db = .ok (db', report') ∧
      repairAll env fix rest report' db' = (after, .ok final) := by
  rw [repairAll] at h
  cases hTurn : repairOne env fix survey report db with
  | error error => rw [hTurn] at h; cases h
  | ok turn => rw [hTurn] at h; exact ⟨turn.1, turn.2, rfl, h⟩

/-- The lines about a survey are printed in its turn. -/
theorem repairAll_extends {surveys : List Survey} {report : RepairReport} {db : SurveyDb}
    (h : repairAll env fix surveys report db = (after, .ok final)) {id : Id}
    (hId : ∀ s ∈ surveys, s.id ≠ id) :
    (id ∈ final.mismatches ↔ id ∈ report.mismatches) ∧
      (id ∈ final.skipped ↔ id ∈ report.skipped) := by
  induction surveys generalizing report db with
  | nil => cases h; exact ⟨.rfl, .rfl⟩
  | cons survey rest ih =>
      obtain ⟨hFirst, hRest⟩ := List.forall_mem_cons.mp hId
      obtain ⟨db', report', hTurn, hLoop⟩ := repairAll_cons_ok h
      obtain ⟨-, -, hExtends, -⟩ := repairOne_ok hTurn
      obtain ⟨hMismatches, hSkipped⟩ := ih hLoop hRest
      exact ⟨hMismatches.trans (hExtends.mismatches id hFirst.symm),
        hSkipped.trans (hExtends.skipped id hFirst.symm)⟩

/-- Every run reports exactly the surveys that its inspection finds wrong. -/
theorem repairAll_reported {surveys : List Survey} {report : RepairReport} {db : SurveyDb}
    (h : repairAll env fix surveys report db = (after, .ok final))
    (hNodup : (surveys.map Survey.id).Nodup) (hNew : ∀ s ∈ surveys, s.id ∉ report.mismatches) :
    ∀ s ∈ surveys, ∃ inspection, inspect env s = .ok inspection ∧
      (s.id ∈ final.mismatches ↔ inspection.mismatch = true) := by
  induction surveys generalizing report db with
  | nil => exact fun s hs => absurd hs List.not_mem_nil
  | cons survey rest ih =>
      obtain ⟨hNotMem, hNodupRest⟩ := List.nodup_cons.mp hNodup
      have hApart : ∀ s ∈ rest, s.id ≠ survey.id := fun s hs hSame =>
        hNotMem (hSame ▸ List.mem_map_of_mem hs)
      obtain ⟨hNewFirst, hNewRest⟩ := List.forall_mem_cons.mp hNew
      obtain ⟨db', report', hTurn, hLoop⟩ := repairAll_cons_ok h
      obtain ⟨inspection, hInspect, hExtends, hMismatches⟩ := repairOne_ok hTurn
      refine List.forall_mem_cons.mpr ⟨⟨inspection, hInspect, ?_⟩, ih hLoop hNodupRest
        fun s hs hMem => hNewRest s hs ((hExtends.mismatches _ (hApart s hs)).mp hMem)⟩
      rw [(repairAll_extends hLoop hApart).1, hMismatches]
      cases inspection.mismatch <;> simp [hNewFirst]

/-- Every survey meets its fate in its turn. -/
theorem repairAll_fates {surveys : List Survey} {report : RepairReport} {db : SurveyDb}
    (h : repairAll env true surveys report db = (after, .ok final))
    (hNodup : (surveys.map Survey.id).Nodup)
    (hStored : ∀ s ∈ surveys, db.surveys.find? s.id = some s)
    (hNew : ∀ s ∈ surveys, s.id ∉ report.mismatches)
    (hFresh : ∀ s ∈ surveys, s.id ∉ report.skipped) :
    (∀ s ∈ surveys, ∃ inspection row, after.surveys.find? s.id = some row ∧
      Fate env s final inspection row) ∧
    ∀ id, (∀ s ∈ surveys, s.id ≠ id) → after.surveys.find? id = db.surveys.find? id := by
  induction surveys generalizing report db with
  | nil => cases h; exact ⟨fun s hs => absurd hs List.not_mem_nil, fun _ _ => rfl⟩
  | cons survey rest ih =>
      obtain ⟨hNotMem, hNodupRest⟩ := List.nodup_cons.mp hNodup
      have hApart : ∀ s ∈ rest, s.id ≠ survey.id := fun s hs hSame =>
        hNotMem (hSame ▸ List.mem_map_of_mem hs)
      obtain ⟨hStoredFirst, hStoredRest⟩ := List.forall_mem_cons.mp hStored
      obtain ⟨hNewFirst, hNewRest⟩ := List.forall_mem_cons.mp hNew
      obtain ⟨hFreshFirst, hFreshRest⟩ := List.forall_mem_cons.mp hFresh
      obtain ⟨db', report', hTurn, hLoop⟩ := repairAll_cons_ok h
      obtain ⟨-, -, hExtends, -⟩ := repairOne_ok hTurn
      obtain ⟨⟨inspection, row, hRow, hFate⟩, hOthers⟩ :=
        repairOne_fix hTurn hStoredFirst hFreshFirst hNewFirst
      obtain ⟨hRest, hElsewhere⟩ := ih hLoop hNodupRest
        (fun s hs => by rw [hOthers _ (hApart s hs), hStoredRest s hs])
        (fun s hs hMem => hNewRest s hs ((hExtends.mismatches _ (hApart s hs)).mp hMem))
        (fun s hs hMem => hFreshRest s hs ((hExtends.skipped _ (hApart s hs)).mp hMem))
      obtain ⟨hMismatches, hSkipped⟩ := repairAll_extends hLoop hApart
      refine ⟨List.forall_mem_cons.mpr ⟨⟨inspection, row, ?_, hFate.inspected,
        hMismatches.trans hFate.reported, ?_⟩, hRest⟩, fun id hId => ?_⟩
      · rw [hElsewhere _ hApart, hRow]
      · rw [hSkipped]
        exact hFate.row
      · obtain ⟨hFirst, hIds⟩ := List.forall_mem_cons.mp hId
        rw [hElsewhere id hIds, hOthers id hFirst.symm]

end Loop

/-! ### Many runs -/

/-- Runs with `--fix`, all of which come to their end. -/
def repairRuns (env : Env) : Nat → SurveyDb → Except SurveyError SurveyDb
  | 0, db => .ok db
  | n + 1, db =>
      match runScript env true db with
      | (after, .ok _) => repairRuns env n after
      | (_, .error error) => .error error

section Runs
variable {env : Env} {db after : SurveyDb} {report : RepairReport} {survey : Survey}

theorem liveIds_nodup (db : SurveyDb) :
    ((db.surveys.rows.filter Survey.isLive).map Survey.id).Nodup := by
  rw [List.nodup_iff_pairwise_ne, List.pairwise_map]
  refine (db.surveys.apart.filter _).imp fun {s t} hApart hId => ?_
  rw [KeyedRow.clash_of_key s t hId] at hApart
  cases hApart

/-- A run reports the live surveys whose ids do not match. -/
theorem runScript_reported {fix : Bool} (h : (runScript env fix db).2 = .ok report)
    (hStored : db.surveys.find? survey.id = some survey) (hLive : survey.isLive = true) :
    ∃ inspection, inspect env survey = .ok inspection ∧
      (survey.id ∈ report.mismatches ↔ inspection.mismatch = true) :=
  repairAll_reported (Prod.ext rfl h) (liveIds_nodup db) (fun _ _ => List.not_mem_nil) survey
    (List.mem_filter.mpr ⟨(find?_eq_some_iff.mp hStored).1, hLive⟩)

/-- What becomes of a live survey in a run that repairs. -/
theorem runScript_fate (h : runScript env true db = (after, .ok report))
    (hStored : db.surveys.find? survey.id = some survey) (hLive : survey.isLive = true) :
    ∃ inspection row, after.surveys.find? survey.id = some row ∧
      Fate env survey report inspection row :=
  (repairAll_fates h (liveIds_nodup db)
    (fun _ hs => find?_eq_some_iff.mpr ⟨(List.mem_filter.mp hs).1, rfl⟩)
    (fun _ _ => List.not_mem_nil) (fun _ _ => List.not_mem_nil)).1 survey
    (List.mem_filter.mpr ⟨(find?_eq_some_iff.mp hStored).1, hLive⟩)

/-- A survey keeps its key and whether it is live. -/
theorem Fate.kept {inspection : Inspection} {row : Survey}
    (h : Fate env survey report inspection row) :
    row.id = survey.id ∧ row.isLive = survey.isLive := by
  rcases h.row with ⟨rfl, -⟩ | ⟨rfl, -⟩
  · exact ⟨rfl, rfl⟩
  · exact ⟨rfl, rfl⟩

variable (hEnv : env.Numbered)
include hEnv

/-- A survey still disagrees with its id when it did before. -/
theorem Fate.disagrees {inspection : Inspection} {row : Survey}
    (h : Fate env survey report inspection row) : Disagrees row ↔ Disagrees survey := by
  obtain ⟨parts, parcel, property, hInspected⟩ := inspected_of_ok hEnv h.inspected
  rcases h.row with ⟨rfl, -⟩ | ⟨rfl, -⟩
  · rfl
  · exact hInspected.disagrees_repaired

omit hEnv in
/-- A settled survey is left as it is. -/
theorem Fate.settled {inspection : Inspection} {row : Survey}
    (h : Fate env survey report inspection row) (hSettled : IsSettled env survey) :
    row = survey := by
  rcases h.row with ⟨hSame, -⟩ | ⟨-, hMismatch, -⟩
  · exact hSame
  · rw [hSettled inspection h.inspected] at hMismatch
    cases hMismatch

/-- A row of the id that is live, and what holds of it. -/
def HasLive (P : Survey → Prop) (id : Id) (db : SurveyDb) : Prop :=
  ∃ row, db.surveys.find? id = some row ∧ row.id = id ∧ row.isLive = true ∧ P row

omit hEnv in
/-- What every fate keeps, any number of runs keeps. -/
theorem hasLive_repairRuns {P : Survey → Prop} {id : Id}
    (hKept : ∀ {s report inspection row}, P s → Fate env s report inspection row → P row) {n : Nat}
    (hRuns : repairRuns env n db = .ok after) (hLive : HasLive P id db) : HasLive P id after := by
  induction n generalizing db with
  | zero => cases hRuns; exact hLive
  | succ n ih =>
      rw [repairRuns] at hRuns
      cases hRun : runScript env true db with
      | mk db' result =>
          rw [hRun] at hRuns
          cases result with
          | error error => cases hRuns
          | ok report =>
              obtain ⟨row, hStored, rfl, hRowLive, hP⟩ := hLive
              obtain ⟨inspection, row', hStored', hFate⟩ := runScript_fate hRun hStored hRowLive
              obtain ⟨hId, hLive'⟩ := hFate.kept
              exact ih hRuns ⟨row', hStored', hId, hLive'.trans hRowLive, hKept hP hFate⟩

/-- A survey that a first run repairs is settled by the second, if its numbers agree. -/
theorem settled_of_fates {inspection inspection' : Inspection} {row row' : Survey}
    {report' : RepairReport} (hAgrees : ¬ Disagrees survey)
    (hFirst : Fate env survey report inspection row) (hKept : survey.id ∉ report.skipped)
    (hSecond : Fate env row report' inspection' row') : IsSettled env row' := by
  rcases hFirst.row with ⟨rfl, hSkipped⟩ | ⟨rfl, -, -⟩
  · have hSettled : IsSettled env row := by
      intro inspection'' hInspect
      obtain rfl := Except.ok.inj (hFirst.inspected.symm.trans hInspect)
      exact Bool.eq_false_iff.mpr fun hMismatch => hKept (hSkipped hMismatch).1
    rw [hSecond.settled hSettled]
    exact hSettled
  · obtain ⟨hOwn, hSettled⟩ :=
      settled_repaired_twice hEnv hAgrees hFirst.inspected hSecond.inspected
    rcases hSecond.row with ⟨rfl, hSkipped⟩ | ⟨rfl, -, -⟩
    · intro inspection'' hInspect
      obtain rfl := Except.ok.inj (hSecond.inspected.symm.trans hInspect)
      exact Bool.eq_false_iff.mpr fun hMismatch => (hSkipped hMismatch).2 hOwn
    · exact hSettled

end Runs

/-- However often the script repairs: from the third run on, a survey that the first run
did not skip is reported again exactly when the numbers in its columns and those in its
id were not the same numbers. The second run may still report what the first has repaired. -/
theorem repair_settles_iff {env : Env} (hEnv : env.Numbered) {db first after : SurveyDb}
    {report last : RepairReport} (hFirst : runScript env true db = (first, .ok report)) {n : Nat}
    (hMore : repairRuns env (n + 1) first = .ok after) {fix : Bool}
    (hLast : (runScript env fix after).2 = .ok last) {survey : Survey}
    (hStored : survey ∈ db.surveys.rows) (hLive : survey.isLive = true)
    (hKept : survey.id ∉ report.skipped) :
    survey.id ∈ last.mismatches ↔ Disagrees survey := by
  have hFound : db.surveys.find? survey.id = some survey :=
    find?_eq_some_iff.mpr ⟨hStored, rfl⟩
  obtain ⟨inspection, row, hRow, hFate⟩ := runScript_fate hFirst hFound hLive
  obtain ⟨hId, hRowLive⟩ := hFate.kept
  rw [← hId] at hRow
  have hReported : ∀ {P : Survey → Prop}, HasLive P survey.id after → ∃ last' inspection',
      P last' ∧ inspect env last' = .ok inspection' ∧
        (survey.id ∈ last.mismatches ↔ inspection'.mismatch = true) := by
    rintro P ⟨last', hStored', hId', hLive', hP⟩
    rw [← hId'] at hStored'
    obtain ⟨inspection', hInspect, hIff⟩ := runScript_reported hLast hStored' hLive'
    rw [hId'] at hIff
    exact ⟨last', inspection', hP, hInspect, hIff⟩
  by_cases hDisagrees : Disagrees survey
  · have hRuns := hasLive_repairRuns (P := Disagrees)
      (fun hP hNext => (hNext.disagrees hEnv).mpr hP) hMore
      ⟨row, hId ▸ hRow, hId, hRowLive.trans hLive, (hFate.disagrees hEnv).mpr hDisagrees⟩
    obtain ⟨last', inspection', hLast', hInspect, hIff⟩ := hReported hRuns
    exact iff_of_true (hIff.mpr (hLast'.not_settled hInspect hEnv)) hDisagrees
  · rw [repairRuns] at hMore
    cases hSecond : runScript env true first with
    | mk second result =>
        rw [hSecond] at hMore
        cases result with
        | error error => cases hMore
        | ok report' =>
            obtain ⟨inspection₂, row₂, hRow₂, hFate₂⟩ :=
              runScript_fate hSecond hRow (hRowLive.trans hLive)
            obtain ⟨hId₂, hLive₂⟩ := hFate₂.kept
            have hSettled := settled_of_fates hEnv hDisagrees hFate hKept hFate₂
            have hRuns := hasLive_repairRuns (P := IsSettled env)
              (fun hP hNext => hNext.settled hP ▸ hP) hMore
              ⟨row₂, hId ▸ hRow₂, hId₂.trans hId, hLive₂.trans (hRowLive.trans hLive), hSettled⟩
            obtain ⟨last', inspection', hLast', hInspect, hIff⟩ := hReported hRuns
            refine iff_of_false (fun hMem => ?_) hDisagrees
            have hMismatch := hIff.mp hMem
            rw [hLast' inspection' hInspect] at hMismatch
            cases hMismatch

namespace Sample

/-- A house whose id has another parcel number than its column. -/
def twoParcels : SurveyDb :=
  { SurveyDb.empty with
    surveys := ⟨[{ SurveyDb.newSurvey 1 "249044-001-000001-001-R".toList 1 0 with
      parcelNo := some "000002".toList
      propertyNo := some "001".toList }], List.pairwise_singleton _ _⟩ }

theorem runScript_twoParcels :
    (runScript firstWard true twoParcels).2.toOption.map RepairReport.skipped = some [] ∧
    ((repairRuns firstWard 2 (runScript firstWard true twoParcels).1).toOption.bind fun after =>
      (runScript firstWard false after).2.toOption).isSome = true := by
  decide

theorem disagrees_twoParcels : ∀ survey ∈ twoParcels.surveys.rows, Disagrees survey := by
  refine List.forall_mem_singleton.mpr ⟨⟨"249044".toList, "001".toList, "000001".toList,
    "001".toList, ['R']⟩, by decide, .inl ⟨"000002".toList, rfl, by decide⟩⟩

end Sample

/-- Three repairs later the parcel numbers still differ. -/
theorem repair_settles_iff_twoParcels : ∃ after last,
    repairRuns Sample.firstWard 2 (runScript Sample.firstWard true Sample.twoParcels).1 =
      .ok after ∧ (runScript Sample.firstWard false after).2 = .ok last ∧ 1 ∈ last.mismatches := by
  obtain ⟨hFirst, hMore⟩ := Sample.runScript_twoParcels
  obtain ⟨report, hReport, hSkipped⟩ := Option.map_eq_some_iff.mp hFirst
  obtain ⟨last, hLast⟩ := Option.isSome_iff_exists.mp hMore
  obtain ⟨after, hAfter, hLast⟩ := Option.bind_eq_some_iff.mp hLast
  refine ⟨after, last, ok_of_toOption hAfter, ok_of_toOption hLast, ?_⟩
  refine (repair_settles_iff Sample.firstWard_numbered (n := 1)
    (Prod.ext rfl (ok_of_toOption hReport)) (ok_of_toOption hAfter) (ok_of_toOption hLast)
    (List.mem_singleton_self _) rfl ?_).mpr
      (Sample.disagrees_twoParcels _ (List.mem_singleton_self _))
  rw [hSkipped]
  exact List.not_mem_nil

end PropertyTax.Surveys
