import PropertyTax.Surveys.AadhaarReplies
import PropertyTax.Surveys.StatusLaw

/-! Survey ids that soft-deleted surveys hold. The checks before a write look past
these surveys, the unique column does not: a call that is to write such an id is
refused by the column, also where it only reads. -/
namespace PropertyTax.Surveys
open KeyedTable Scripts

/-- A call that answers unless it is blocked, and then fails on the unique column. -/
structure AnswersUnless {α : Type} (blocked : Prop) (result : Except SurveyError α) : Prop where
  answered : ¬ blocked → ∃ reply, result = .ok reply
  refused : blocked → result = .error (.refused .uniqueViolation)

/-- What follows an answer does not change whether there is one. -/
theorem AnswersUnless.bind {α β : Type} {blocked : Prop} {script : SurveyScript α}
    {next : α → SurveyScript β} {state : SurveyState} (h : AnswersUnless blocked (script state).2)
    (hNext : ∀ after answer, script state = (after, .ok answer) →
      ∃ reply, (next answer after).2 = .ok reply) :
    AnswersUnless blocked ((script >>= next) state).2 := by
  rcases hRun : script state with ⟨after, error | answer⟩
  · rw [Script.bind_of_error hRun]
    rw [hRun] at h
    refine ⟨fun hFree => ?_, fun hBlocked => ?_⟩
    · obtain ⟨reply, hReply⟩ := h.answered hFree
      cases hReply
    · have hError := h.refused hBlocked
      cases hError
      rfl
  · rw [Script.bind_of_ok hRun]
    rw [hRun] at h
    refine ⟨fun _ => hNext after answer hRun, fun hBlocked => ?_⟩
    have hError := h.refused hBlocked
    cases hError

/-- A statement that fails when it is blocked, and only then, answers unless it is. -/
theorem answersUnless_statement {α : Type} {blocked : Prop} {db : SurveyDb}
    {run : SurveyDb → Except SurveyError (SurveyDb × α)}
    (hAnswered : ¬ blocked → ∃ result, run db = .ok result)
    (hRefused : blocked → run db = .error (.refused .uniqueViolation)) :
    AnswersUnless blocked (statement run ⟨db, []⟩).2 where
  answered hFree := by
    obtain ⟨result, hRun⟩ := hAnswered hFree
    rw [statement_of_ok (show run db = .ok (result.1, result.2) from hRun)]
    exact ⟨result.2, rfl⟩
  refused hBlocked := by rw [statement_of_error (hRefused hBlocked)]

/-- Nothing is lost after a statement of a calm state. -/
theorem outages_of_statement {α : Type} {db : SurveyDb} {after : SurveyState} {answer : α}
    {run : SurveyDb → Except SurveyError (SurveyDb × α)}
    (h : statement run ⟨db, []⟩ = (after, .ok answer)) : after = ⟨after.db, []⟩ := by
  cases hRun : run db with
  | error error =>
      rw [statement_of_error hRun] at h
      cases h
  | ok result =>
      rw [statement_of_ok (show run db = .ok (result.1, result.2) from hRun)] at h
      cases h
      rfl

/-- A soft-deleted survey holds the id. -/
def SurveyDb.HeldByDeleted (db : SurveyDb) (surveyId : Text) : Prop :=
  ∃ row ∈ db.surveys.rows, row.surveyId = surveyId ∧ row.isLive = false

/-- No other live survey holds the id. -/
def SurveyDb.FreeOfLive (db : SurveyDb) (surveyId : Text) (id : Id) : Prop :=
  ∀ row ∈ db.surveys.rows, row.surveyId = surveyId → row.id ≠ id → row.isLive = false

section Tables
variable {db db' : SurveyDb} {surveyId : Text}

/-- The holder of a survey id is found under it. -/
theorem SurveyDb.bySurveyId?_eq_some {row : Survey} (hRow : row ∈ db.surveys.rows)
    (hHeld : row.surveyId = surveyId) : db.bySurveyId? surveyId = some row := by
  refine findFirst?_eq_some_of_mem hRow (decide_eq_true hHeld) fun other hOther hSame => ?_
  have hClash : KeyedRow.clash other row = true := by
    simp [KeyedRow.clash, of_decide_eq_true hSame, hHeld]
  exact eq_of_clash hOther hRow hClash

/-- What is found under a survey id holds it. -/
theorem SurveyDb.of_bySurveyId? {row : Survey} (h : db.bySurveyId? surveyId = some row) :
    row ∈ db.surveys.rows ∧ row.surveyId = surveyId := by
  have hFound : db.surveys.rows.find? (fun survey => survey.surveyId = surveyId) = some row := h
  have hHeld := List.find?_some hFound
  exact ⟨List.mem_of_find?_eq_some hFound, of_decide_eq_true hHeld⟩

/-- The deleted surveys are the same, and the others but one. -/
structure SameApart (id : Id) (db db' : SurveyDb) : Prop where
  deleted : ∀ row : Survey, row.isLive = false → (row ∈ db'.surveys.rows ↔ row ∈ db.surveys.rows)
  others : ∀ row : Survey, row.id ≠ id → (row ∈ db'.surveys.rows ↔ row ∈ db.surveys.rows)

theorem SameApart.refl (id : Id) (db : SurveyDb) : SameApart id db db :=
  ⟨fun _ _ => Iff.rfl, fun _ _ => Iff.rfl⟩

/-- Replacing one live survey by another leaves the rest. -/
theorem SameApart.of_replaced {old new : Survey} (h : Replaced db.surveys db'.surveys old new)
    (hOld : old.isLive = true) (hNew : new.isLive = true) : SameApart old.id db db' where
  deleted row hDeleted := by
    rw [h.mem_iff row]
    constructor
    · rintro (⟨hRow, -⟩ | rfl)
      · exact hRow
      · rw [hNew] at hDeleted
        cases hDeleted
    · intro hRow
      refine .inl ⟨hRow, fun hKey => ?_⟩
      obtain rfl := eq_of_key hRow h.mem_old hKey
      rw [hOld] at hDeleted
      cases hDeleted
  others row hOther := by
    rw [h.mem_iff row]
    constructor
    · rintro (⟨hRow, -⟩ | rfl)
      · exact hRow
      · exact absurd h.key_eq hOther
    · exact fun hRow => .inl ⟨hRow, hOther⟩

/-- Which ids deleted surveys hold stays the same. -/
theorem SameApart.heldByDeleted_iff {id : Id} (h : SameApart id db db') (surveyId : Text) :
    db'.HeldByDeleted surveyId ↔ db.HeldByDeleted surveyId := by
  constructor
  · rintro ⟨row, hRow, hHeld, hDeleted⟩
    exact ⟨row, (h.deleted row hDeleted).mp hRow, hHeld, hDeleted⟩
  · rintro ⟨row, hRow, hHeld, hDeleted⟩
    exact ⟨row, (h.deleted row hDeleted).mpr hRow, hHeld, hDeleted⟩

end Tables

namespace SurveysService
variable {env : Env} {db : SurveyDb}

/-! ### Repairs -/

/-- The id that a repair of the survey is to write. -/
def repairTarget (env : Env) (survey : Survey) : Option Text :=
  (env.wards.find? survey.wardId).bind fun ward =>
    match getExpectedSurveyIdFromRecord env.ulbCode survey.record ward.number with
    | .ok expected => if survey.surveyId = expected then none else some expected
    | .error _ => none

/-- A repair of the survey is to write an id that a soft-deleted survey holds. -/
def Blocked (env : Env) (db : SurveyDb) (survey : Survey) : Prop :=
  ∃ expected, repairTarget env survey = some expected ∧ db.HeldByDeleted expected

/-- The survey as it is after its repair, if nothing is in the way. -/
def canonical (env : Env) (db : SurveyDb) (survey : Survey) : Survey :=
  match repairTarget env survey with
  | none => survey
  | some expected =>
      if (db.bySurveyId? expected).isSome then survey else withSurveyId survey expected

/-- A repair is to the expected id, where the survey has another. -/
theorem repairTarget_eq_some {survey : Survey} {ward : Ward}
    (hWard : env.wards.find? survey.wardId = some ward) {expected : Text}
    (h : repairTarget env survey = some expected) :
    getExpectedSurveyIdFromRecord env.ulbCode survey.record ward.number = .ok expected ∧
      survey.surveyId ≠ expected := by
  simp only [repairTarget, hWard, Option.bind_some] at h
  split at h
  next found hExpected =>
    split_ifs at h with hSame
    cases h
    exact ⟨hExpected, hSame⟩
  · cases h

/-- A survey needs a repair when it has a target. -/
theorem needsRepair_of_target {survey : Survey} {ward : Ward}
    (hWard : env.wards.find? survey.wardId = some ward) :
    surveyIdNeedsRepair env.ulbCode survey.record ward.number =
      (repairTarget env survey).isSome := by
  simp only [surveyIdNeedsRepair, repairTarget, hWard, Option.bind_some]
  cases getExpectedSurveyIdFromRecord env.ulbCode survey.record ward.number with
  | error error => rfl
  | ok expected =>
      by_cases hSame : survey.surveyId = expected
      · simp [Survey.record, hSame]
      · simp [Survey.record, hSame]

/-- What a repair of a stored survey does: nothing, when there is no target or a live
survey holds it; a write that the unique column refuses, when a deleted survey holds
it; and else a write that is taken. -/
theorem repairSurveyIdIfNeeded_calm {survey : Survey} (hSurvey : survey ∈ db.surveys.rows)
    {ward : Ward} (hWard : env.wards.find? survey.wardId = some ward) :
    (repairTarget env survey = none →
      repairSurveyIdIfNeeded env survey ward.number ⟨db, []⟩ =
        (⟨db, []⟩, .ok survey.surveyId)) ∧
    ∀ expected, repairTarget env survey = some expected →
      (∀ other, db.bySurveyId? expected = some other →
        repairSurveyIdIfNeeded env survey ward.number ⟨db, []⟩ =
          (⟨db, []⟩, if other.isLive then .ok survey.surveyId
            else .error (.refused .uniqueViolation))) ∧
      (db.bySurveyId? expected = none → ∃ db',
        repairSurveyIdIfNeeded env survey ward.number ⟨db, []⟩ = (⟨db', []⟩, .ok expected) ∧
          Replaced db.surveys db'.surveys survey (withSurveyId survey expected)) := by
  have hNeeds := needsRepair_of_target hWard
  refine ⟨fun hNone => ?_, fun expected hTarget => ?_⟩
  · rw [hNone] at hNeeds
    unfold repairSurveyIdIfNeeded
    rw [hNeeds]
    rfl
  · obtain ⟨hExpected, hChanged⟩ := repairTarget_eq_some hWard hTarget
    rw [hTarget] at hNeeds
    have hRun : repairSurveyIdIfNeeded env survey ward.number ⟨db, []⟩ =
        (if (db.bySurveyId? expected).any fun other => other.id ≠ survey.id && other.isLive then
          pure survey.surveyId
        else do
          let _ ← statement (SurveyDb.updateSurvey survey.id (repairData expected survey) [])
          return expected : SurveyScript Text) ⟨db, []⟩ := by
      unfold repairSurveyIdIfNeeded
      rw [hNeeds, hExpected]
      exact Script.bind_of_ok (read_calm _)
    have hValid : (repairData expected survey).isValid = true := rfl
    have hFloors : ([] : List ParsedFloor).all ParsedFloor.isStorable = true := rfl
    refine ⟨fun other hOther => ?_, fun hFree => ?_⟩
    · obtain ⟨hMem, hHeld⟩ := SurveyDb.of_bySurveyId? hOther
      have hNe : other.id ≠ survey.id := by
        intro hId
        obtain rfl := eq_of_key hMem hSurvey hId
        exact hChanged hHeld
      rw [hRun, hOther]
      cases hLive : other.isLive with
      | true =>
          simp only [Option.any_some, hNe, hLive, ne_eq, not_false_eq_true, decide_true,
            Bool.and_self, if_true]
          rfl
      | false =>
          simp only [Option.any_some, hLive, Bool.and_false, Bool.false_eq_true, if_false]
          have hRefused := SurveyDb.updateSurvey_refused hSurvey hValid hFloors hMem hNe hHeld
          exact Script.bind_of_error (statement_of_error hRefused)
    · have hNobody : ∀ other ∈ db.surveys.rows, other.surveyId = expected → other = survey := by
        intro other hOther hHeld
        rw [SurveyDb.bySurveyId?_eq_some hOther hHeld] at hFree
        cases hFree
      obtain ⟨result, hUpdate⟩ := SurveyDb.updateSurvey_isOk hSurvey hValid hFloors hNobody
      obtain ⟨db', updated⟩ := result
      obtain ⟨hUpdated, hReplaced⟩ := SurveyDb.updateSurvey_of_mem hSurvey hUpdate
      rw [repairData_applyTo hChanged] at hUpdated
      subst hUpdated
      refine ⟨db', ?_, hReplaced⟩
      rw [hRun, hFree, Option.any_none, if_neg Bool.false_ne_true,
        Script.bind_of_ok (statement_of_ok hUpdate)]
      rfl

/-- A live survey is returned in its canonical form, unless its repair is blocked. -/
theorem ensureCanonicalSurveyId_calm {survey : Survey} (hSurvey : survey ∈ db.surveys.rows)
    (hLive : survey.isLive = true) {ward : Ward}
    (hWard : env.wards.find? survey.wardId = some ward) :
    (Blocked env db survey → ensureCanonicalSurveyId env survey ⟨db, []⟩ =
      (⟨db, []⟩, .error (.refused .uniqueViolation))) ∧
    (¬ Blocked env db survey → ∃ db', ensureCanonicalSurveyId env survey ⟨db, []⟩ =
      (⟨db', []⟩, .ok (canonical env db survey)) ∧ SameApart survey.id db db' ∧
        canonical env db survey ∈ db'.surveys.rows) := by
  obtain ⟨hNothing, hWrites⟩ := repairSurveyIdIfNeeded_calm hSurvey hWard
  have hSelf : withSurveyId survey survey.surveyId = survey := if_pos rfl
  unfold ensureCanonicalSurveyId
  rw [hWard]
  cases hTarget : repairTarget env survey with
  | none =>
      have hRun := hNothing hTarget
      refine ⟨fun hBlocked => ?_, fun _ => ⟨db, ?_, SameApart.refl _ _, ?_⟩⟩
      · obtain ⟨expected, hExpected, -⟩ := hBlocked
        rw [hTarget] at hExpected
        cases hExpected
      · simp only [canonical, hTarget]
        rw [Script.bind_of_ok hRun, hSelf]
        rfl
      · simpa only [canonical, hTarget] using hSurvey
  | some expected =>
      obtain ⟨hHeld, hFree⟩ := hWrites expected hTarget
      cases hOther : db.bySurveyId? expected with
      | none =>
          obtain ⟨db', hRun, hReplaced⟩ := hFree hOther
          have hNew : (withSurveyId survey expected).isLive = true := by
            rw [withSurveyId_isLive, hLive]
          refine ⟨fun hBlocked => ?_, fun _ => ⟨db', ?_, SameApart.of_replaced hReplaced hLive hNew,
            ?_⟩⟩
          · obtain ⟨target, hSame, row, hRow, hId, -⟩ := hBlocked
            rw [hTarget] at hSame
            cases hSame
            rw [SurveyDb.bySurveyId?_eq_some hRow hId] at hOther
            cases hOther
          · simp only [canonical, hTarget, hOther, Option.isSome_none, Bool.false_eq_true, if_false]
            rw [Script.bind_of_ok hRun]
            rfl
          · simp only [canonical, hTarget, hOther, Option.isSome_none, Bool.false_eq_true, if_false]
            exact hReplaced.mem_new
      | some other =>
          obtain ⟨hMem, hId⟩ := SurveyDb.of_bySurveyId? hOther
          have hRun := hHeld other hOther
          cases hOtherLive : other.isLive with
          | true =>
              rw [hOtherLive, if_pos rfl] at hRun
              refine ⟨fun hBlocked => ?_, fun _ => ⟨db, ?_, SameApart.refl _ _, ?_⟩⟩
              · obtain ⟨target, hSame, row, hRow, hRowId, hDeleted⟩ := hBlocked
                rw [hTarget] at hSame
                cases hSame
                rw [SurveyDb.bySurveyId?_eq_some hRow hRowId] at hOther
                cases hOther
                rw [hOtherLive] at hDeleted
                cases hDeleted
              · simp only [canonical, hTarget, hOther, Option.isSome_some, if_true]
                rw [Script.bind_of_ok hRun, hSelf]
                rfl
              · simpa only [canonical, hTarget, hOther, Option.isSome_some, if_true] using hSurvey
          | false =>
              rw [hOtherLive, if_neg Bool.false_ne_true] at hRun
              refine ⟨fun _ => Script.bind_of_error hRun, fun hClear => ?_⟩
              exact absurd ⟨expected, hTarget, other, hMem, hId, hOtherLive⟩ hClear

/-! ### Reads -/

/-- Every survey is in a ward of the table. -/
def WardsKnown (env : Env) (db : SurveyDb) : Prop :=
  ∀ survey ∈ db.surveys.rows, ∃ ward, env.wards.find? survey.wardId = some ward

theorem orThrow_calm {α : Type} {error : Type} {result : Except error α} {f : error → SurveyError}
    {answer : α} (h : result = .ok answer) :
    orThrow (result.mapError f) ⟨db, []⟩ = (⟨db, []⟩, .ok answer) := by
  rw [h]
  rfl

/-- What a key addresses is stored and live. -/
theorem addressed_live {key : SurveyKey} {survey : Survey} (h : db.addressed key = some survey) :
    survey ∈ db.surveys.rows ∧ survey.isLive = true := by
  have hFound : db.surveys.rows.find? (fun survey => key.names survey && survey.isLive) =
      some survey := h
  have hNamed := List.find?_some hFound
  exact ⟨List.mem_of_find?_eq_some hFound, (Bool.and_eq_true_iff.mp hNamed).2⟩

/-- A survey that may be read is returned unless its repair is blocked. -/
theorem findOne_calm {key : SurveyKey} {user : AuthUser} {survey : Survey}
    (hSurvey : db.addressed key = some survey) (hWards : WardsKnown env db)
    (hAccess : assertSurveyAccess user survey.createdById .read = .ok ()) :
    (Blocked env db survey → findOne env key user ⟨db, []⟩ =
      (⟨db, []⟩, .error (.refused .uniqueViolation))) ∧
    (¬ Blocked env db survey → ∃ db', findOne env key user ⟨db, []⟩ =
      (⟨db', []⟩, .ok ⟨canonical env db survey, db.floorsOf survey.id⟩) ∧
        SameApart survey.id db db' ∧ canonical env db survey ∈ db'.surveys.rows) := by
  obtain ⟨hMem, hLive⟩ := addressed_live hSurvey
  obtain ⟨ward, hWard⟩ := hWards survey hMem
  obtain ⟨hRefused, hAnswered⟩ := ensureCanonicalSurveyId_calm hMem hLive hWard
  have hStart : findOne env key user ⟨db, []⟩ = (do
      let repaired ← ensureCanonicalSurveyId env survey
      return (⟨repaired, db.floorsOf survey.id⟩ : SurveyWithFloors) : SurveyScript _) ⟨db, []⟩ := by
    unfold findOne
    rw [Script.bind_of_ok (read_calm _), ← SurveyDb.addressed, hSurvey]
    exact Script.bind_of_ok (orThrow_calm hAccess)
  rw [hStart]
  refine ⟨fun hBlocked => Script.bind_of_error (hRefused hBlocked), fun hFree => ?_⟩
  obtain ⟨db', hRun, hSame, hStored⟩ := hAnswered hFree
  refine ⟨db', ?_, hSame, hStored⟩
  rw [Script.bind_of_ok hRun]
  rfl

/-- Which surveys are blocked stays the same. -/
theorem blocked_iff {id : Id} {db' : SurveyDb} (h : SameApart id db db') (survey : Survey) :
    Blocked env db' survey ↔ Blocked env db survey := by
  simp only [Blocked, h.heldByDeleted_iff]

/-- The repairs of a page, one after another. Each leaves the deleted surveys and the
rest of the page alone. -/
theorem ensureCanonicalSurveyIds_calm {surveys : List Survey}
    (hApart : (surveys.map Survey.id).Nodup)
    (hStored : ∀ survey ∈ surveys, survey ∈ db.surveys.rows)
    (hLive : ∀ survey ∈ surveys, survey.isLive = true)
    (hWards : ∀ survey ∈ surveys, ∃ ward, env.wards.find? survey.wardId = some ward) :
    AnswersUnless (∃ survey ∈ surveys, Blocked env db survey)
      (ensureCanonicalSurveyIds env surveys ⟨db, []⟩).2 := by
  induction surveys generalizing db with
  | nil => exact ⟨fun _ => ⟨[], rfl⟩, fun hBlocked => by simp at hBlocked⟩
  | cons survey surveys ih =>
      obtain ⟨hHead, hTail⟩ := List.nodup_cons.mp hApart
      obtain ⟨ward, hWard⟩ := hWards survey List.mem_cons_self
      obtain ⟨hRefused, hAnswered⟩ := ensureCanonicalSurveyId_calm
        (hStored survey List.mem_cons_self) (hLive survey List.mem_cons_self) hWard
      unfold ensureCanonicalSurveyIds
      by_cases hBlocked : Blocked env db survey
      · rw [Script.bind_of_error (hRefused hBlocked)]
        exact ⟨fun hFree => absurd ⟨survey, List.mem_cons_self, hBlocked⟩ hFree, fun _ => rfl⟩
      · obtain ⟨db', hRun, hSame, -⟩ := hAnswered hBlocked
        have hRest : AnswersUnless (∃ survey ∈ surveys, Blocked env db' survey)
            (ensureCanonicalSurveyIds env surveys ⟨db', []⟩).2 := by
          refine ih hTail (fun other hOther => ?_)
            (fun other hOther => hLive other (List.mem_cons_of_mem _ hOther))
            fun other hOther => hWards other (List.mem_cons_of_mem _ hOther)
          have hId : other.id ≠ survey.id := fun hId =>
            hHead (List.mem_map.mpr ⟨other, hOther, hId⟩)
          exact (hSame.others other hId).mpr (hStored other (List.mem_cons_of_mem _ hOther))
        have hSome : (∃ other ∈ survey :: surveys, Blocked env db other) ↔
            ∃ other ∈ surveys, Blocked env db' other := by
          simp only [List.mem_cons, blocked_iff hSame]
          constructor
          · rintro ⟨other, rfl | hOther, hOtherBlocked⟩
            · exact absurd hOtherBlocked hBlocked
            · exact ⟨other, hOther, hOtherBlocked⟩
          · rintro ⟨other, hOther, hOtherBlocked⟩
            exact ⟨other, .inr hOther, hOtherBlocked⟩
        rw [Script.bind_of_ok hRun]
        rw [hSome]
        exact hRest.bind fun _ others _ => ⟨_, rfl⟩

/-- What a list asks for before it repairs its page. -/
structure ReadyToList (env : Env) (query : ListSurveysQuery) (user : AuthUser) : Prop where
  access : assertSurveyAccess user (some user.id) .read = .ok ()
  surveyedFrom : ∀ text ∈ query.surveyedFrom, (env.parseDate text).isSome
  surveyedTo : ∀ text ∈ query.surveyedTo, (env.parseDate text).isSome

theorem mapM_newDate_isOk {date : Option Text} (h : ∀ text ∈ date, (env.parseDate text).isSome) :
    date.mapM (newDate env) = .ok (date.bind env.parseDate) := by
  cases date with
  | none => rfl
  | some text =>
      obtain ⟨time, hTime⟩ := Option.isSome_iff_exists.mp (h text rfl)
      simp only [Option.mapM_some, newDate, hTime, Option.bind_some]
      rfl

theorem findAll_calm {query : ListSurveysQuery} {user : AuthUser} (hWards : WardsKnown env db)
    (hReady : ReadyToList env query user) :
    AnswersUnless (∃ survey ∈ listed env query db, Blocked env db survey)
      (findAll env query user ⟨db, []⟩).2 := by
  obtain ⟨hRows, hApart⟩ := @pageOf_rows env query (query.surveyedFrom.bind env.parseDate)
    (query.surveyedTo.bind env.parseDate) db
  have hRepairs : AnswersUnless (∃ survey ∈ listed env query db, Blocked env db survey)
      (ensureCanonicalSurveyIds env (listed env query db) ⟨db, []⟩).2 :=
    ensureCanonicalSurveyIds_calm hApart (fun survey hSurvey => (hRows survey hSurvey).1)
      (fun survey hSurvey => (hRows survey hSurvey).2)
      fun survey hSurvey => hWards survey (hRows survey hSurvey).1
  unfold findAll
  rw [Script.bind_of_ok (orThrow_calm hReady.access), mapM_newDate_isOk hReady.surveyedFrom,
    mapM_newDate_isOk hReady.surveyedTo]
  change AnswersUnless _ ((ensureCanonicalSurveyIds env (listed env query db) >>= fun _ => pure _)
    ⟨db, []⟩).2
  exact hRepairs.bind fun _ items _ => ⟨_, rfl⟩

/-! ### Writes -/

/-- What a creation asks for besides an id that no survey holds. -/
structure ReadyToCreate (env : Env) (db : SurveyDb) (dto : SurveyDto) (user : AuthUser)
    (wardId : Id) (ward : Ward) (identity : ResolvedSurveyIdentity) (surveyedAt : Field ℤ) :
    Prop where
  access : assertSurveyAccess user (some user.id) .create = .ok ()
  wardGiven : dto.wardId.toOption = some wardId
  fields : assertCreateIdentityFields dto = .ok ()
  wardFound : env.wards.find? wardId = some ward
  resolved : resolveSurveyIdentity env.ulbCode ward.number
    ⟨dto.surveyId.toOption, dto.parcelNo.toOption, dto.propertyNo.toOption,
      dto.gisUseCode.toOption⟩ none = .ok identity
  given : (dto.surveyId.toOption.any fun surveyId =>
    !surveyId.isEmpty && Js.trimChars surveyId ≠ identity.surveyId) = false
  dateRead : createdSurveyedAt env dto.surveyedAt = .ok surveyedAt
  valid : (createData dto wardId identity surveyedAt user).isValid = true
  floors : (parseFloorsRaw (dto.text .floorsRaw).toOption).all ParsedFloor.isStorable = true
  fresh : ∀ row ∈ db.surveys.rows, row.id ≠ db.nextId

/-- An id that no live survey has is free. -/
theorem any_isLive_of_free {surveyId : Text}
    (hFree : ∀ row ∈ db.surveys.rows, row.surveyId = surveyId → row.isLive = false) :
    (db.bySurveyId? surveyId).any Survey.isLive = false := by
  cases hFound : db.bySurveyId? surveyId with
  | none => rfl
  | some row =>
      obtain ⟨hRow, hHeld⟩ := SurveyDb.of_bySurveyId? hFound
      exact hFree row hRow hHeld

theorem create_calm {now : Timestamp} {dto : SurveyDto} {user : AuthUser} {wardId : Id}
    {ward : Ward} {identity : ResolvedSurveyIdentity} {surveyedAt : Field ℤ}
    (hReady : ReadyToCreate env db dto user wardId ward identity surveyedAt)
    (hFree : ∀ row ∈ db.surveys.rows, row.surveyId = identity.surveyId → row.isLive = false) :
    AnswersUnless (db.HeldByDeleted identity.surveyId) (create env now dto user ⟨db, []⟩).2 := by
  have hStart : create env now dto user ⟨db, []⟩ = (do
      let created ← statement fun db => (db.createSurvey
        (createData dto wardId identity surveyedAt user)
        (parseFloorsRaw (dto.text .floorsRaw).toOption) now).map withFloors
      write (SurveyDb.log (.created created.survey.id user.id
        [⟨.surveyId, .null, .text created.survey.surveyId⟩,
          ⟨.parcelNo, .null, .ofOption .text created.survey.parcelNo⟩,
          ⟨.propertyNo, .null, .ofOption .text created.survey.propertyNo⟩,
          ⟨.gisUseCode, .null, .text identity.gisUseCode⟩]))
      return created : SurveyScript _) ⟨db, []⟩ := by
    unfold create
    rw [Script.bind_of_ok (orThrow_calm hReady.access), hReady.wardGiven]
    dsimp only
    rw [Script.bind_of_ok (orThrow_calm hReady.fields), Script.bind_of_ok (read_calm _),
      hReady.wardFound]
    dsimp only
    rw [Script.bind_of_ok (orThrow_calm hReady.resolved), hReady.given, if_neg Bool.false_ne_true,
      Script.bind_of_ok (read_calm _), any_isLive_of_free hFree, if_neg Bool.false_ne_true,
      hReady.dateRead]
    rfl
  have hStored : AnswersUnless (db.HeldByDeleted identity.surveyId)
      (statement (fun db => (db.createSurvey (createData dto wardId identity surveyedAt user)
        (parseFloorsRaw (dto.text .floorsRaw).toOption) now).map withFloors) ⟨db, []⟩).2 := by
    refine answersUnless_statement (fun hNobody => ?_) fun hHeld => ?_
    · obtain ⟨result, hCreate⟩ : ∃ result, db.createSurvey
          (createData dto wardId identity surveyedAt user)
          (parseFloorsRaw (dto.text .floorsRaw).toOption) now = .ok result :=
        SurveyDb.createSurvey_isOk rfl rfl hReady.valid hReady.floors fun other hOther =>
          ⟨hReady.fresh other hOther, fun hHeld =>
            hNobody ⟨other, hOther, hHeld, hFree other hOther hHeld⟩⟩
      exact ⟨withFloors result, by rw [hCreate]; rfl⟩
    · obtain ⟨row, hRow, hHeld, -⟩ := hHeld
      rw [SurveyDb.createSurvey_refused rfl rfl hReady.valid hReady.floors hRow hHeld]
      rfl
  rw [hStart]
  refine hStored.bind fun after created hRun => ⟨created, ?_⟩
  rw [outages_of_statement hRun, Script.bind_of_ok (write_calm _)]
  rfl

/-- What an update asks for besides an id that no other survey holds. -/
structure ReadyToUpdate (env : Env) (dto : SurveyDto) (user : AuthUser) (current : Survey)
    (ward : Ward) (identity : ResolvedSurveyIdentity) (surveyedAt : Field ℤ) : Prop where
  access : assertSurveyAccess user current.createdById .update = .ok ()
  wardFound : env.wards.find? (dto.wardId.toOption.getD current.wardId) = some ward
  resolved : resolveSurveyIdentity env.ulbCode ward.number (mergeIdentityInput dto current)
    (some current.record) = .ok identity
  given : checkSurveyId dto.surveyId identity.surveyId = .ok ()
  dateRead : updatedSurveyedAt env dto.surveyedAt = .ok surveyedAt
  valid : (updateData dto current identity surveyedAt user).isValid = true
  floors : (updatedFloors dto).all ParsedFloor.isStorable = true

theorem assertSurveyIdAvailable_calm {surveyId : Text} {id : Id}
    (hFree : db.FreeOfLive surveyId id) :
    assertSurveyIdAvailable surveyId id ⟨db, []⟩ = (⟨db, []⟩, .ok ()) := by
  have hClear : ((db.bySurveyId? surveyId).any fun other => other.id ≠ id && other.isLive) =
      false := by
    cases hFound : db.bySurveyId? surveyId with
    | none => rfl
    | some row =>
        obtain ⟨hRow, hHeld⟩ := SurveyDb.of_bySurveyId? hFound
        by_cases hSelf : row.id = id
        · simp [hSelf]
        · simp [hFree row hRow hHeld hSelf]
  unfold assertSurveyIdAvailable
  rw [Script.bind_of_ok (read_calm _), hClear, if_neg Bool.false_ne_true]
  rfl

theorem updateInTransaction_calm {dto : SurveyDto} {user : AuthUser} {current : Survey}
    {ward : Ward} {identity : ResolvedSurveyIdentity} {surveyedAt : Field ℤ}
    (hReady : ReadyToUpdate env dto user current ward identity surveyedAt)
    (hCurrent : current ∈ db.surveys.rows) (hLive : current.isLive = true)
    (hFree : db.FreeOfLive identity.surveyId current.id) :
    (¬ db.HeldByDeleted identity.surveyId → ∃ db' reply,
      transaction (updateInTransaction env dto current identity user) ⟨db, []⟩ =
        (⟨db', []⟩, .ok reply)) ∧
    (db.HeldByDeleted identity.surveyId →
      transaction (updateInTransaction env dto current identity user) ⟨db, []⟩ =
        (⟨db, []⟩, .error (.refused .uniqueViolation))) := by
  have hChecked : Script.when (identity.surveyId ≠ current.surveyId)
      (assertSurveyIdAvailable identity.surveyId current.id) ⟨db, []⟩ = (⟨db, []⟩, .ok ()) := by
    by_cases hSame : identity.surveyId ≠ current.surveyId
    · rw [decide_eq_true hSame]
      exact assertSurveyIdAvailable_calm hFree
    · rw [decide_eq_false hSame]
      rfl
  have hDeleted : Script.when (dto.text .floorsRaw ≠ .undefined)
      (write (SurveyDb.deleteFloors current.id)) ⟨db, []⟩ =
        (⟨withoutFloors dto current.id db, []⟩, .ok ()) := by
    by_cases hSent : dto.text .floorsRaw = .undefined
    · rw [decide_eq_false (not_not.mpr hSent), withoutFloors, if_pos hSent]
      rfl
    · rw [decide_eq_true hSent, withoutFloors, if_neg hSent]
      rfl
  have hSurveys := withoutFloors_surveys dto current.id db
  have hStart : updateInTransaction env dto current identity user ⟨db, []⟩ =
      statement (fun db => (db.updateSurvey current.id
        (updateData dto current identity surveyedAt user) (updatedFloors dto)).map withFloors)
        ⟨withoutFloors dto current.id db, []⟩ := by
    unfold updateInTransaction
    rw [Script.bind_of_ok hChecked, Script.bind_of_ok hDeleted, hReady.dateRead]
    rfl
  refine ⟨fun hNobody => ?_, fun hHeld => ?_⟩
  · obtain ⟨result, hUpdate⟩ : ∃ result, (withoutFloors dto current.id db).updateSurvey current.id
        (updateData dto current identity surveyedAt user) (updatedFloors dto) = .ok result := by
      refine SurveyDb.updateSurvey_isOk (hSurveys ▸ hCurrent) hReady.valid hReady.floors
        fun other hOther hHeld => ?_
      rw [hSurveys] at hOther
      by_contra hNe
      have hId : other.id ≠ current.id := fun hId => hNe (eq_of_key hOther hCurrent hId)
      exact hNobody ⟨other, hOther, hHeld, hFree other hOther hHeld hId⟩
    refine ⟨result.1, (withFloors result).2, transaction_of_ok ?_⟩
    rw [hStart]
    exact statement_of_ok (by rw [hUpdate]; rfl)
  · obtain ⟨row, hRow, hHeld, hRowDeleted⟩ := hHeld
    have hId : row.id ≠ current.id := by
      intro hId
      obtain rfl := eq_of_key hRow hCurrent hId
      rw [hLive] at hRowDeleted
      cases hRowDeleted
    have hRefused := SurveyDb.updateSurvey_refused (hSurveys ▸ hCurrent) hReady.valid hReady.floors
      (hSurveys ▸ hRow) hId hHeld
    refine transaction_of_error (hStart.trans (statement_of_error ?_))
    rw [hRefused]
    rfl

/-- The canonical form keeps the key and whether the survey is live. -/
theorem canonical_kept (survey : Survey) : (canonical env db survey).isLive = survey.isLive ∧
    (canonical env db survey).id = survey.id := by
  unfold canonical
  split
  · exact ⟨rfl, rfl⟩
  · split_ifs
    · exact ⟨rfl, rfl⟩
    · exact ⟨withSurveyId_isLive survey _, (withSurveyId_text survey _).2⟩

/-- An update of a survey that the user may read. -/
theorem update_calm {key : SurveyKey} {dto : SurveyDto} {user : AuthUser} {survey : Survey}
    {ward : Ward} {identity : ResolvedSurveyIdentity} {surveyedAt : Field ℤ}
    (hSurvey : db.addressed key = some survey) (hWards : WardsKnown env db)
    (hAccess : assertSurveyAccess user survey.createdById .read = .ok ())
    (hReady : ReadyToUpdate env dto user (canonical env db survey) ward identity surveyedAt)
    (hFree : db.FreeOfLive identity.surveyId survey.id) :
    AnswersUnless (Blocked env db survey ∨ db.HeldByDeleted identity.surveyId)
      (update env key dto user ⟨db, []⟩).2 := by
  obtain ⟨hRefused, hAnswered⟩ := findOne_calm hSurvey hWards hAccess
  by_cases hBlocked : Blocked env db survey
  · unfold update
    rw [Script.bind_of_error (hRefused hBlocked)]
    exact ⟨fun hClear => absurd (.inl hBlocked) hClear, fun _ => rfl⟩
  · obtain ⟨middle, hFound, hSame, hStored⟩ := hAnswered hBlocked
    obtain ⟨hLive, hId⟩ := @canonical_kept env db survey
    have hMiddleFree : middle.FreeOfLive identity.surveyId (canonical env db survey).id := by
      intro row hRow hHeld hOther
      rw [hId] at hOther
      exact hFree row ((hSame.others row hOther).mp hRow) hHeld hOther
    rw [(addressed_live hSurvey).2] at hLive
    obtain ⟨hTaken, hConflict⟩ := updateInTransaction_calm hReady hStored hLive hMiddleFree
    rw [hSame.heldByDeleted_iff] at hTaken hConflict
    rw [or_iff_right hBlocked]
    have hStart : update env key dto user ⟨db, []⟩ = (do
        let updated ← transaction
          (updateInTransaction env dto (canonical env db survey) identity user)
        let changes := diffSurveyChanges (buildAuditState (canonical env db survey))
          (buildAuditState updated.survey)
        Script.when (!changes.isEmpty)
          (write (SurveyDb.log (.updated updated.survey.id user.id changes)))
        return updated : SurveyScript _) ⟨middle, []⟩ := by
      unfold update
      rw [Script.bind_of_ok hFound]
      dsimp only
      rw [Script.bind_of_ok (orThrow_calm hReady.access), Script.bind_of_ok (read_calm _),
        hReady.wardFound]
      dsimp only
      rw [Script.bind_of_ok (orThrow_calm hReady.resolved), hReady.given]
      rfl
    rw [hStart]
    refine ⟨fun hNobody => ?_, fun hHeld => ?_⟩
    · obtain ⟨db', reply, hRun⟩ := hTaken hNobody
      refine ⟨reply, ?_⟩
      rw [Script.bind_of_ok hRun]
      generalize (!(diffSurveyChanges (buildAuditState (canonical env db survey))
        (buildAuditState reply.survey)).isEmpty) = logged
      cases logged <;> rfl
    · rw [Script.bind_of_error (hConflict hHeld)]

end SurveysService

open SurveysService

/-! ### The four calls -/

/-- Calls that pass their other checks answer, unless a soft-deleted survey holds an
id that they are to write. -/
structure HeldIdsBlock (env : Env) (db : SurveyDb) : Prop where
  create : ∀ {now : Timestamp} {dto : SurveyDto} {user : AuthUser} {wardId : Id} {ward : Ward}
    {identity : ResolvedSurveyIdentity} {surveyedAt : Field ℤ},
    ReadyToCreate env db dto user wardId ward identity surveyedAt →
    (∀ row ∈ db.surveys.rows, row.surveyId = identity.surveyId → row.isLive = false) →
    AnswersUnless (db.HeldByDeleted identity.surveyId)
      (SurveysService.create env now dto user ⟨db, []⟩).2
  update : ∀ {key : SurveyKey} {dto : SurveyDto} {user : AuthUser} {survey : Survey} {ward : Ward}
    {identity : ResolvedSurveyIdentity} {surveyedAt : Field ℤ},
    db.addressed key = some survey → assertSurveyAccess user survey.createdById .read = .ok () →
    ReadyToUpdate env dto user (canonical env db survey) ward identity surveyedAt →
    db.FreeOfLive identity.surveyId survey.id →
    AnswersUnless (Blocked env db survey ∨ db.HeldByDeleted identity.surveyId)
      (SurveysService.update env key dto user ⟨db, []⟩).2
  findOne : ∀ {key : SurveyKey} {user : AuthUser} {survey : Survey},
    db.addressed key = some survey → assertSurveyAccess user survey.createdById .read = .ok () →
    AnswersUnless (Blocked env db survey) (SurveysService.findOne env key user ⟨db, []⟩).2
  findAll : ∀ {query : ListSurveysQuery} {user : AuthUser}, ReadyToList env query user →
    AnswersUnless (∃ survey ∈ listed env query db, Blocked env db survey)
      (SurveysService.findAll env query user ⟨db, []⟩).2

/-- A survey id that a deleted survey holds blocks the calls that would give it out, and nothing
else does. -/
theorem heldIds_block {env : Env} {db : SurveyDb} (hWards : WardsKnown env db) :
    HeldIdsBlock env db where
  create hReady hFree := create_calm hReady hFree
  update hSurvey hAccess hReady hFree := update_calm hSurvey hWards hAccess hReady hFree
  findOne hSurvey hAccess := by
    obtain ⟨hRefused, hAnswered⟩ := findOne_calm hSurvey hWards hAccess
    refine ⟨fun hFree => ?_, fun hBlocked => by rw [hRefused hBlocked]⟩
    obtain ⟨db', hRun, -⟩ := hAnswered hFree
    exact ⟨_, congrArg Prod.snd hRun⟩
  findAll hReady := findAll_calm hWards hReady

namespace Sample

/-- One survey of the first ward, removed again. -/
def removedSurvey : SurveyDb :=
  { SurveyDb.empty with
    surveys := ⟨[{ SurveyDb.newSurvey 1 "249044-001-000131-001-R".toList 1 0 with
      parcelNo := some "000131".toList
      propertyNo := some "001".toList
      status := .deleted
      deletedAt := some 1 }], List.pairwise_singleton _ _⟩
    nextId := 2 }

def removedIdentity : ResolvedSurveyIdentity where
  parcelNo := "000131".toList
  propertyNo := "001".toList
  gisUseCode := "R".toList
  surveyId := "249044-001-000131-001-R".toList

theorem removedSurvey_wards : WardsKnown firstWard removedSurvey := by
  intro survey hSurvey
  obtain rfl := List.mem_singleton.mp hSurvey
  exact ⟨⟨1, 1, "Ward No. 1".toList⟩, by decide⟩

/-- The survey is entered once more. -/
theorem removedSurvey_ready : ReadyToCreate firstWard removedSurvey (newSurveyDto .undefined)
    surveyClerk 1 ⟨1, 1, "Ward No. 1".toList⟩ removedIdentity .undefined where
  access := by decide
  wardGiven := rfl
  fields := by decide
  wardFound := by decide
  resolved := rfl
  given := rfl
  dateRead := rfl
  valid := by decide
  floors := by decide
  fresh row hRow := by
    obtain rfl := List.mem_singleton.mp hRow
    decide

theorem removedSurvey_free : ∀ row ∈ removedSurvey.surveys.rows,
    row.surveyId = removedIdentity.surveyId → row.isLive = false := by
  intro row hRow _
  obtain rfl := List.mem_singleton.mp hRow
  rfl

end Sample

/-- A removed survey cannot be entered again. -/
theorem create_blocked_by_removed :
    ¬ ∀ (env : Env) (db : SurveyDb) (now : Timestamp) (dto : SurveyDto) (user : AuthUser)
      (wardId : Id) (ward : Ward) (identity : ResolvedSurveyIdentity) (surveyedAt : Field ℤ),
      WardsKnown env db → ReadyToCreate env db dto user wardId ward identity surveyedAt →
      (∀ row ∈ db.surveys.rows, row.surveyId = identity.surveyId → row.isLive = false) →
      ∃ reply, (SurveysService.create env now dto user ⟨db, []⟩).2 = .ok reply := by
  intro hNever
  obtain ⟨reply, hReply⟩ := hNever _ _ 2 _ _ _ _ _ _ Sample.removedSurvey_wards
    Sample.removedSurvey_ready Sample.removedSurvey_free
  have hFailed : (SurveysService.create Sample.firstWard 2 (Sample.newSurveyDto .undefined)
      Sample.surveyClerk ⟨Sample.removedSurvey, []⟩).2.toOption.isNone = true := by decide
  rw [hReply] at hFailed
  cases hFailed

theorem heldIds_block_removed :
    (SurveysService.create Sample.firstWard 2 (Sample.newSurveyDto .undefined) Sample.surveyClerk
      ⟨Sample.removedSurvey, []⟩).2 = .error (.refused .uniqueViolation) := by
  refine ((heldIds_block Sample.removedSurvey_wards).create Sample.removedSurvey_ready
    Sample.removedSurvey_free).refused ⟨_, List.mem_singleton_self _, rfl, rfl⟩

end PropertyTax.Surveys
