import PropertyTax.Surveys.Commits

/-! The two marks of a deleted survey, its status and its time of deletion. Every
write sets both or neither, except that a body may carry any status. -/
namespace PropertyTax.Surveys
open KeyedTable SurveysService ImportsService

/-- The survey is deleted by both marks, or by neither. -/
def Survey.Agrees (survey : Survey) : Prop := survey.status = .deleted ↔ survey.deletedAt.isSome

def StatusLaw (db : SurveyDb) : Prop := ∀ survey ∈ db.surveys.rows, survey.Agrees

/-- A body of the call does not say that the survey is deleted. -/
def SurveyOperation.KeepsStatus (operation : SurveyOperation) : Prop :=
  ∀ dto, operation.dtos dto → dto.status ≠ .value .deleted

variable {env : Env} {survey : Survey}

/-! ### Rows -/

/-- A live survey whose status is not deleted agrees. -/
theorem Survey.agrees_of_live (hLive : survey.deletedAt = none) (h : survey.status ≠ .deleted) :
    survey.Agrees := by
  rw [Survey.Agrees, hLive]
  exact iff_of_false h Bool.false_ne_true

/-- A status that is sent, or kept. -/
theorem assignTo_ne_deleted {field : Field SurveyStatus} {old : SurveyStatus}
    (hField : field ≠ .value .deleted) (hOld : old ≠ .deleted) : field.assignTo old ≠ .deleted := by
  cases field with
  | undefined => exact hOld
  | null => exact hOld
  | value status => exact fun h => hField (congrArg Field.value h)

/-- A survey that is marked as deleted still agrees. -/
theorem markDeleted_agrees (ids : List Id) (now : Timestamp) (h : survey.Agrees) :
    (markDeleted ids now survey).Agrees := by
  unfold markDeleted
  split_ifs
  · exact iff_of_true rfl rfl
  · exact h

/-! ### Runs -/

/-- Every transaction that keeps statuses keeps the law. -/
theorem commit_statusLaw {operation : SurveyOperation} (hKeeps : operation.KeepsStatus)
    {db db' : SurveyDb} (hLaw : StatusLaw db)
    (h : Commit env operation.dtos (operation.rows env) db db') : StatusLaw db' := by
  cases h
  case logged hSame =>
    unfold StatusLaw
    rw [hSame.surveys]
    exact hLaw
  case created dto user wardId ward identity surveyedAt hDto hWard hIdentity hCreate =>
    obtain ⟨hAdded, -, -, surveyId, wardId, -, -, rfl⟩ := SurveyDb.createSurvey_ok hCreate
    refine hAdded.forall_rows hLaw (Survey.agrees_of_live rfl ?_)
    exact assignTo_ne_deleted (hKeeps dto hDto) SurveyStatus.noConfusion
  case repaired old survey ward expected hOld hWard hNeeds hExpected hUpdate =>
    obtain ⟨rfl, hReplaced⟩ := SurveyDb.updateSurvey_of_mem hOld hUpdate
    exact hReplaced.forall_rows hLaw (hLaw old hOld)
  case updated old survey dto user ward identity surveyedAt hDto hOld hLive _ _ _ hUpdate =>
    have hSame := withoutFloors_surveys dto old.id db
    obtain ⟨rfl, hReplaced⟩ := SurveyDb.updateSurvey_of_mem (hSame ▸ hOld) hUpdate
    rw [hSame] at hReplaced
    have hNone : old.deletedAt = none := Option.isNone_iff_eq_none.mp hLive
    have hStatus : old.status ≠ .deleted := by
      intro hDeleted
      have hSome := (hLaw old hOld).mp hDeleted
      rw [hNone] at hSome
      cases hSome
    refine hReplaced.forall_rows hLaw (Survey.agrees_of_live hNone ?_)
    exact assignTo_ne_deleted (hKeeps dto hDto) hStatus
  case removed old survey now user hOld hLive hUpdate =>
    obtain ⟨rfl, hReplaced⟩ := SurveyDb.updateSurvey_of_mem hOld hUpdate
    exact hReplaced.forall_rows hLaw (iff_of_true rfl rfl)
  case rewritten old survey job cells row hCells hRow hOld hUpdate =>
    have hKept : old ∈ (db.deleteFloors old.id).surveys.rows := hOld
    obtain ⟨rfl, hReplaced⟩ := SurveyDb.updateSurvey_of_mem hKept hUpdate
    exact hReplaced.forall_rows hLaw (Survey.agrees_of_live rfl SurveyStatus.noConfusion)
  case inserted survey now job cells row hCells hRow hCreate =>
    obtain ⟨hAdded, -, -, surveyId, wardId, -, -, rfl⟩ := SurveyDb.createSurvey_ok hCreate
    obtain ⟨-, -, -, -, -, hPayload, -⟩ := parseRow_ok hRow
    rw [hPayload] at hAdded
    exact hAdded.forall_rows hLaw (Survey.agrees_of_live rfl SurveyStatus.noConfusion)
  case pruned ids now =>
    intro survey hSurvey
    obtain ⟨old, hOld, rfl⟩ := List.mem_map.mp hSurvey
    exact markDeleted_agrees ids now (hLaw old hOld)

/-- From the empty database on, the marks agree in every state that calls lead to,
as long as no body says that its survey is deleted. -/
theorem statusLaw_of_keepsStatus {calls : List SurveyCall}
    (hKeeps : ∀ call ∈ calls, call.operation.KeepsStatus) :
    StatusLaw (Runs.run (perform env) SurveyDb.empty calls) := by
  refine run_commit_invariant SurveyOperation.KeepsStatus
    (fun operation db db' hOperation hLaw hCommit => commit_statusLaw hOperation hLaw hCommit)
    ?_ hKeeps
  intro survey hSurvey
  cases hSurvey

namespace Sample

def surveyClerk : AuthUser := ⟨2, ["survey:create", "survey:read", "survey:delete"], []⟩

/-- A new survey of the first ward. -/
def newSurveyDto (status : Field SurveyStatus) : SurveyDto where
  wardId := .value 1
  parcelNo := .value "131".toList
  propertyNo := .value "1".toList
  gisUseCode := .value "R".toList
  status := status

def createCall (status : Field SurveyStatus) : SurveyCall :=
  ⟨.create 0 (newSurveyDto status) surveyClerk, []⟩

def removeCall : SurveyCall :=
  ⟨.remove 1 (.surveyId "249044-001-000131-001-R".toList) surveyClerk, []⟩

end Sample

/-- A survey that is created as deleted has no time of deletion. -/
theorem statusLaw_broken : ¬ ∀ (env : Env) (calls : List SurveyCall),
    StatusLaw (Runs.run (perform env) SurveyDb.empty calls) := by
  intro hLaw
  have hOne := hLaw Sample.firstWard [Sample.createCall (.value .deleted)]
  have hRows : (Runs.run (perform Sample.firstWard) SurveyDb.empty
      [Sample.createCall (.value .deleted)]).surveys.rows.map
        (fun survey => (survey.status, survey.deletedAt)) = [(.deleted, none)] := by
    decide
  obtain ⟨survey, hSurvey, hMarks⟩ := List.mem_map.mp (hRows ▸ List.mem_singleton_self _)
  obtain ⟨hStatus, hNone⟩ := Prod.mk.inj hMarks
  have hSome := (hOne survey hSurvey).mp hStatus
  rw [hNone] at hSome
  cases hSome

/-- A survey that is created, then removed. -/
theorem statusLaw_of_keepsStatus_removed :
    ∃ survey ∈ (Runs.run (perform Sample.firstWard) SurveyDb.empty
        [Sample.createCall .undefined, Sample.removeCall]).surveys.rows,
      survey.status = .deleted ∧ survey.deletedAt.isSome := by
  have hOne : (Runs.run (perform Sample.firstWard) SurveyDb.empty
      [Sample.createCall .undefined, Sample.removeCall]).surveys.rows.any
        (fun survey => survey.status = .deleted) = true := by decide
  obtain ⟨survey, hSurvey, hStatus⟩ := List.any_eq_true.mp hOne
  have hStatus : survey.status = .deleted := of_decide_eq_true hStatus
  refine ⟨survey, hSurvey, hStatus, (statusLaw_of_keepsStatus ?_ survey hSurvey).mp hStatus⟩
  intro call hCall dto hDto
  rcases List.mem_cons.mp hCall with rfl | hCall
  · cases hDto
    exact fun h => by cases h
  · rw [List.mem_singleton.mp hCall] at hDto
    cases hDto

end PropertyTax.Surveys
