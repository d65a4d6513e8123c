import PropertyTax.Ledger.Payments

/-! Publishing, performed without interruption, as steps on the ledger. -/
namespace PropertyTax
open KeyedTable Relation

/-- An upsert that reads and writes without interruption is one publish step,
or none when the database refuses it. -/
theorem upsert_step (ctx : Context) (input : PublishInput) (db : Db) :
    (upsertPublishedDemandForSurvey ctx input db).1.ledger = db.ledger ∨
      PublishStep ctx input db.ledger (upsertPublishedDemandForSurvey ctx input db).1.ledger := by
  rcases upsertPublishedDemandForSurvey_cases ctx input db with ⟨error, hRefused⟩ | hWritten
  · exact Or.inl (by rw [hRefused])
  rw [hWritten]
  generalize hRead : input.read db = read
  have hExisting : read.existing = db.demandFor? input.survey.id input.assessmentYearId := by
    rw [← hRead]
    rfl
  have hPaid : read.amountPaid =
      toMoney (successSum db.payments input.survey.id input.assessmentYearId) := by
    rw [← hRead]
    rfl
  cases hWrite : writePublishedDemand ctx input read db with
  | error refusal => exact Or.inl rfl
  | ok result =>
      obtain ⟨after, demandId⟩ := result
      refine Or.inr ?_
      obtain ⟨hPayments, hArrears, hDemand⟩ := writePublishedDemand_ok hWrite
      rcases hDemand with ⟨existing, d, hFound, hId, hReplaced⟩ | ⟨hNone, hAdded⟩
      · rw [hExisting] at hFound
        obtain ⟨hMem, hSurvey, hYear⟩ := Db.demandFor?_spec hFound
        have hOld : d = existing := eq_of_key hReplaced.mem_old hMem hId
        subst hOld
        have hFrom := publishedDemandData_from ctx input hPaid d
        rw [hExisting, hFound] at hFrom
        exact .republished d _ hReplaced hSurvey hYear rfl rfl hFrom rfl hPayments hArrears
      · have hFrom := publishedDemandData_from ctx input hPaid
          { id := db.nextId, surveyId := input.survey.id,
            assessmentYearId := input.assessmentYearId }
        have hZero : input.arrears read.existing = 0 := by
          simp [PublishInput.arrears, hNone]
        rw [hZero] at hFrom
        exact .created _ hAdded rfl rfl hFrom rfl hPayments hArrears

theorem publish_step (ctx : Context) (surveyId assessmentYearId : Id) (actorId : Option Id)
    (db : Db) :
    (publish ctx surveyId assessmentYearId actorId db).1.ledger = db.ledger ∨
      ∃ input, publishInput ctx surveyId assessmentYearId actorId = .ok input ∧
        PublishStep ctx input db.ledger
          (publish ctx surveyId assessmentYearId actorId db).1.ledger := by
  unfold publish
  cases hInput : publishInput ctx surveyId assessmentYearId actorId with
  | error error => exact Or.inl rfl
  | ok input =>
      dsimp only
      have hUpsert := upsert_step ctx input db
      rcases hResult : upsertPublishedDemandForSurvey ctx input db with ⟨after, _ | demandId⟩
      · rw [hResult] at hUpsert
        exact hUpsert.imp id fun hStep => ⟨input, rfl, hStep⟩
      · rw [hResult] at hUpsert
        exact hUpsert.imp id fun hStep => ⟨input, rfl, hStep⟩

/-- Publish steps of surveys from a list. -/
def PublishSteps (ctx : Context) (inputFor : Survey → PublishInput) (surveys : List Survey) :
    Ledger → Ledger → Prop :=
  ReflTransGen fun l l' => ∃ survey ∈ surveys, PublishStep ctx (inputFor survey) l l'

/-- Publishing a ward is a sequence of publish steps of its active surveys, all
of which preserve arrears. -/
theorem publishForWard_steps (ctx : Context) (wardId assessmentYearId : Id)
    (actorId : Option Id) (db : Db) :
    (publishForWard ctx wardId assessmentYearId actorId db).1.ledger = db.ledger ∨
      ∃ taxConfig, wardTaxConfig ctx wardId assessmentYearId = .ok taxConfig ∧
        PublishSteps ctx (wardInput ctx assessmentYearId actorId taxConfig)
          (activeSurveysOf ctx.reference wardId) db.ledger
          (publishForWard ctx wardId assessmentYearId actorId db).1.ledger := by
  cases hConfig : wardTaxConfig ctx wardId assessmentYearId with
  | error error =>
      refine Or.inl ?_
      rw [publishForWard, hConfig]
  | ok taxConfig =>
      refine Or.inr ⟨taxConfig, rfl, ?_⟩
      refine publishForWard_invariant (fun db' => PublishSteps ctx
        (wardInput ctx assessmentYearId actorId taxConfig) (activeSurveysOf ctx.reference wardId)
        db.ledger db'.ledger) (fun found hFound survey hSurvey db' hSteps => ?_)
        (fun _ _ hSteps => hSteps) .refl
      obtain rfl : taxConfig = found := Except.ok.inj (hConfig.symm.trans hFound)
      rcases upsert_step ctx (wardInput ctx assessmentYearId actorId taxConfig survey) db' with
        hSame | hStep
      · rw [hSame]
        exact hSteps
      · exact hSteps.tail ⟨survey, hSurvey, hStep⟩

end PropertyTax
