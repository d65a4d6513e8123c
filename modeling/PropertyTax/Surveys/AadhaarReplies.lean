import PropertyTax.Surveys.Commits
import PropertyTax.Surveys.Endpoints

/-! The Aadhaar number in what a call answers with: the stored one, unless the call
was given another. -/
namespace PropertyTax.Surveys
open KeyedTable Scripts

/-- A stored survey has this number. -/
def SurveyDb.Holds (id : Id) (aadhaar : Option Text) (db : SurveyDb) : Prop :=
  ∃ survey ∈ db.surveys.rows, survey.id = id ∧ survey.text .ownerAadhaar = aadhaar

namespace SurveyDb.Holds
variable {id : Id} {aadhaar : Option Text} {db db' : SurveyDb} {data : SurveyData}
  {floors : List ParsedFloor} {survey : Survey}

/-- A write that leaves the column alone leaves every number where it is. -/
theorem kept {other : Id} (h : db.Holds id aadhaar) (hData : data.text .ownerAadhaar = .undefined)
    (hUpdate : db.updateSurvey other data floors = .ok (db', survey)) : db'.Holds id aadhaar := by
  obtain ⟨row, hRow, hId, hAadhaar⟩ := h
  obtain ⟨old, -, rfl, hReplaced, -⟩ := updateSurvey_ok hUpdate
  obtain hKept | rfl := hReplaced.exists_row hRow
  · exact ⟨row, hKept, hId, hAadhaar⟩
  · refine ⟨data.applyTo row, hReplaced.mem_new, hId, ?_⟩
    simp only [SurveyData.applyTo, hData]
    exact hAadhaar

/-- A write answers with the number it writes, else with the one that was there. -/
theorem updated (h : db.Holds id aadhaar)
    (hUpdate : db.updateSurvey id data floors = .ok (db', survey)) :
    survey.text .ownerAadhaar = (data.text .ownerAadhaar).assign aadhaar := by
  obtain ⟨row, hRow, hId, rfl⟩ := h
  obtain ⟨old, hOldId, rfl, hReplaced, -⟩ := updateSurvey_ok hUpdate
  rw [eq_of_key hReplaced.mem_old hRow (hOldId.trans hId.symm)]
  rfl

end SurveyDb.Holds

section Numbers
variable (env : Env) {id : Id} {aadhaar : Option Text}

/-- The survey that a key names. -/
def SurveyDb.addressed (key : SurveyKey) (db : SurveyDb) : Option Survey :=
  db.surveys.findFirst? fun survey => key.names survey && survey.isLive

namespace SurveysService

/-- A new survey id leaves texts and key. -/
theorem withSurveyId_text (survey : Survey) (surveyId : Text) :
    (withSurveyId survey surveyId).text = survey.text ∧
      (withSurveyId survey surveyId).id = survey.id := by
  unfold withSurveyId
  split_ifs <;> exact ⟨rfl, rfl⟩

theorem repair_holds (survey : Survey) (wardNumber : ℤ) :
    Preserves (repairSurveyIdIfNeeded env survey wardNumber)
      (OnDb (SurveyDb.Holds id aadhaar)) := by
  unfold repairSurveyIdIfNeeded
  split_ifs
  · exact Meets.pure fun _ h => h
  · cases getExpectedSurveyIdFromRecord env.ulbCode survey.record wardNumber with
    | error error => exact Meets.fail fun _ h => h
    | ok expected =>
        refine bind_read (fun _ h => h) fun clash => ?_
        split_ifs
        · exact Meets.pure fun _ h => h
        · refine Meets.bind (meets_statement (fun _ h => h) fun db db' answer hHolds hRun => ?_)
            fun _ => Meets.pure fun _ h => h
          exact hHolds.kept rfl hRun

theorem ensureCanonicalSurveyId_holds (survey : Survey) :
    Meets (ensureCanonicalSurveyId env survey) (OnDb (SurveyDb.Holds id aadhaar))
      (fun answer => OnDb fun db => db.Holds id aadhaar ∧
        answer.text = survey.text ∧ answer.id = survey.id)
      (OnDb (SurveyDb.Holds id aadhaar)) := by
  unfold ensureCanonicalSurveyId
  cases env.wards.find? survey.wardId with
  | none => exact Meets.fail fun _ h => h
  | some ward =>
      refine Meets.bind (repair_holds env survey ward.number) fun surveyId => ?_
      exact Meets.pure fun _ h => ⟨h, withSurveyId_text survey surveyId⟩

/-- A survey is found with its own number. -/
theorem findOne_aadhaar (db : SurveyDb) (key : SurveyKey) (user : AuthUser) :
    Meets (findOne env key user) (OnDb fun start => start = db)
      (fun found state => (∃ survey, db.addressed key = some survey ∧
          found.survey.text .ownerAadhaar = survey.text .ownerAadhaar) ∧
        OnDb (SurveyDb.Holds found.survey.id (found.survey.text .ownerAadhaar)) state)
      (OnDb fun _ => True) := by
  refine Meets.bind (meets_read fun _ _ => trivial) fun found => ?_
  intro state hState
  obtain ⟨hFound, hStart⟩ := hState
  cases hSurvey : db.addressed key with
  | none =>
      rw [hStart, ← SurveyDb.addressed, hSurvey] at hFound
      subst hFound
      trivial
  | some survey =>
      rw [hStart, ← SurveyDb.addressed, hSurvey] at hFound
      subst hFound
      have hHolds : db.Holds survey.id (survey.text .ownerAadhaar) :=
        ⟨survey, List.mem_of_find?_eq_some hSurvey, rfl, rfl⟩
      have hRest : Meets (do
          orThrow ((assertSurveyAccess user survey.createdById .read).mapError .api)
          let canonical ← ensureCanonicalSurveyId env survey
          return (⟨canonical, db.floorsOf survey.id⟩ : SurveyWithFloors))
          (OnDb (SurveyDb.Holds survey.id (survey.text .ownerAadhaar)))
          (fun found => OnDb fun after =>
            after.Holds found.survey.id (found.survey.text .ownerAadhaar) ∧
              found.survey.text .ownerAadhaar = survey.text .ownerAadhaar)
          (OnDb fun _ => True) := by
        refine bind_orThrow (fun _ _ => trivial) fun _ _ => ?_
        refine Meets.bind ((ensureCanonicalSurveyId_holds env survey).mono (fun _ h => h)
          (fun _ _ h => h) fun _ _ => trivial) fun canonical => ?_
        refine Meets.pure fun after hAfter => ?_
        obtain ⟨hAfter, hText, hId⟩ := hAfter
        refine ⟨?_, by rw [hText]⟩
        rw [hText, hId]
        exact hAfter
      have hStart : OnDb (SurveyDb.Holds survey.id (survey.text .ownerAadhaar)) state := by
        unfold OnDb
        rwa [hStart]
      refine (hRest state hStart).mono (fun found after hEnd => ?_) fun _ _ => trivial
      exact ⟨⟨survey, rfl, hEnd.2⟩, hEnd.1⟩

/-- An edit writes the number that is sent, or keeps the one there was. -/
theorem updateInTransaction_aadhaar (dto : SurveyDto) (current : Survey)
    (identity : ResolvedSurveyIdentity) (user : AuthUser) :
    Meets (transaction (updateInTransaction env dto current identity user))
      (OnDb (SurveyDb.Holds current.id aadhaar))
      (fun reply => OnDb fun _ =>
        reply.survey.text .ownerAadhaar = (dto.text .ownerAadhaar).assign aadhaar)
      (OnDb fun _ => True) := by
  have hChecked : Meets (Script.when (identity.surveyId ≠ current.surveyId)
      (assertSurveyIdAvailable identity.surveyId current.id))
      (OnDb (SurveyDb.Holds current.id aadhaar))
      (fun _ => OnDb (SurveyDb.Holds current.id aadhaar)) (OnDb fun _ => True) := by
    refine Meets.when (fun _ => ?_) fun _ _ h => h
    refine bind_read (fun _ _ => trivial) fun clash => ?_
    split_ifs
    · exact Meets.fail fun _ _ => trivial
    · exact Meets.pure fun _ h => h
  have hFloors : Meets (Script.when (dto.text .floorsRaw ≠ .undefined)
      (write (SurveyDb.deleteFloors current.id))) (OnDb (SurveyDb.Holds current.id aadhaar))
      (fun _ => OnDb (SurveyDb.Holds current.id aadhaar)) (OnDb fun _ => True) :=
    Meets.when (fun _ => meets_write _ (fun _ _ => trivial) fun _ h => h) fun _ _ h => h
  have hBody : Meets (updateInTransaction env dto current identity user)
      (OnDb (SurveyDb.Holds current.id aadhaar))
      (fun reply : SurveyWithFloors => OnDb fun _ =>
        reply.survey.text .ownerAadhaar = (dto.text .ownerAadhaar).assign aadhaar)
      (OnDb fun _ => True) := by
    refine Meets.bind hChecked fun _ => Meets.bind hFloors fun _ => ?_
    refine bind_orThrow (fun _ _ => trivial) fun surveyedAt _ => ?_
    refine meets_statement (fun _ _ => trivial) fun db db' reply hHolds hRun => ?_
    obtain ⟨result, hUpdate, hReply⟩ := map_ok hRun
    cases hReply
    exact hHolds.updated hUpdate
  exact meets_transaction (fun _ _ => trivial) hBody

/-- An update answers with the number the body gives, else with the stored one. -/
theorem update_aadhaar (db : SurveyDb) (key : SurveyKey) (dto : SurveyDto) (user : AuthUser) :
    Meets (update env key dto user) (OnDb fun start => start = db)
      (fun reply => OnDb fun _ => ∃ survey, db.addressed key = some survey ∧
        reply.survey.text .ownerAadhaar =
          (dto.text .ownerAadhaar).assign (survey.text .ownerAadhaar))
      (OnDb fun _ => True) := by
  refine Meets.bind (findOne_aadhaar env db key user) fun found => Meets.given fun hFound => ?_
  obtain ⟨survey, hSurvey, hAadhaar⟩ := hFound
  rw [hAadhaar]
  refine bind_orThrow (fun _ _ => trivial) fun _ _ => ?_
  refine bind_lookup (fun _ _ => trivial) ?_
  cases env.wards.find? (dto.wardId.toOption.getD found.survey.wardId) with
  | none => exact Meets.fail fun _ _ => trivial
  | some ward =>
      refine bind_orThrow (fun _ _ => trivial) fun identity _ => ?_
      refine bind_orThrow (fun _ _ => trivial) fun _ _ => ?_
      refine Meets.bind (updateInTransaction_aadhaar env dto found.survey identity user)
        fun updated => ?_
      refine Meets.bind (Meets.when (fun _ => meets_write (fun _ =>
        updated.survey.text .ownerAadhaar =
          (dto.text .ownerAadhaar).assign (survey.text .ownerAadhaar))
        (fun _ _ => trivial) fun _ h => h) fun _ _ h => h) fun _ => ?_
      exact Meets.pure fun _ h => ⟨survey, hSurvey, h⟩

/-- A deletion answers with the stored number. -/
theorem remove_aadhaar (now : Timestamp) (db : SurveyDb) (key : SurveyKey) (user : AuthUser) :
    Meets (remove env now key user) (OnDb fun start => start = db)
      (fun reply => OnDb fun _ => ∃ survey, db.addressed key = some survey ∧
        reply.text .ownerAadhaar = survey.text .ownerAadhaar)
      (OnDb fun _ => True) := by
  refine Meets.bind (findOne_aadhaar env db key user) fun found => Meets.given fun hFound => ?_
  obtain ⟨survey, hSurvey, hAadhaar⟩ := hFound
  rw [hAadhaar]
  refine bind_orThrow (fun _ _ => trivial) fun _ _ => ?_
  have hRemoved : Meets (statement (SurveyDb.updateSurvey found.survey.id (removeData now user) []))
      (OnDb (SurveyDb.Holds found.survey.id (survey.text .ownerAadhaar)))
      (fun reply => OnDb fun _ => reply.text .ownerAadhaar = survey.text .ownerAadhaar)
      (OnDb fun _ => True) :=
    meets_statement (fun _ _ => trivial) fun _ _ _ hHolds hRun => hHolds.updated hRun
  refine Meets.bind hRemoved fun reply => ?_
  refine Meets.bind (meets_write (fun _ => reply.text .ownerAadhaar = survey.text .ownerAadhaar)
    (fun _ _ => trivial) fun _ h => h) fun _ => ?_
  exact Meets.pure fun _ h => ⟨survey, hSurvey, h⟩

/-- A new survey has the number of the body. -/
theorem create_aadhaar (now : Timestamp) (dto : SurveyDto) (user : AuthUser) :
    Meets (create env now dto user) (OnDb fun _ => True)
      (fun reply => OnDb fun _ =>
        reply.survey.text .ownerAadhaar = (dto.text .ownerAadhaar).assign none)
      (OnDb fun _ => True) := by
  refine bind_orThrow (fun _ _ => trivial) fun _ _ => ?_
  cases dto.wardId.toOption with
  | none => exact Meets.fail fun _ _ => trivial
  | some wardId =>
      refine bind_orThrow (fun _ _ => trivial) fun _ _ => ?_
      refine bind_lookup (fun _ _ => trivial) ?_
      cases env.wards.find? wardId with
      | none => exact Meets.fail fun _ _ => trivial
      | some ward =>
          refine bind_orThrow (fun _ _ => trivial) fun identity _ => ?_
          split_ifs
          · exact Meets.fail fun _ _ => trivial
          · refine bind_read (fun _ _ => trivial) fun existing => ?_
            split_ifs
            · exact Meets.fail fun _ _ => trivial
            · refine bind_orThrow (fun _ _ => trivial) fun surveyedAt _ => ?_
              have hCreated : Meets (statement fun db => (db.createSurvey
                  (createData dto wardId identity surveyedAt user)
                  (parseFloorsRaw (dto.text .floorsRaw).toOption) now).map withFloors)
                  (OnDb fun _ => True)
                  (fun reply => OnDb fun _ =>
                    reply.survey.text .ownerAadhaar = (dto.text .ownerAadhaar).assign none)
                  (OnDb fun _ => True) := by
                refine meets_statement (fun _ _ => trivial) fun db db' reply _ hRun => ?_
                obtain ⟨result, hCreate, hReply⟩ := map_ok hRun
                obtain ⟨-, -, -, surveyId, wardId', -, -, hSurvey⟩ :=
                  SurveyDb.createSurvey_ok hCreate
                cases hReply
                simp only [hSurvey]
                rfl
              refine Meets.bind hCreated fun reply => ?_
              refine Meets.bind (meets_write (fun _ =>
                reply.survey.text .ownerAadhaar = (dto.text .ownerAadhaar).assign none)
                (fun _ _ => trivial) fun _ h => h) fun _ => ?_
              exact Meets.pure fun _ h => h

/-- The page of a list, as it is stored. -/
def listed (query : ListSurveysQuery) (db : SurveyDb) : List Survey :=
  pageOf env query (query.surveyedFrom.bind env.parseDate)
    (query.surveyedTo.bind env.parseDate) db

/-- A date that is read is the time it names. -/
theorem mapM_newDate {date : Option Text} {time : Option ℤ}
    (h : date.mapM (newDate env) = .ok time) : time = date.bind env.parseDate := by
  cases date with
  | none =>
      cases h
      rfl
  | some text =>
      cases hParsed : env.parseDate text with
      | none =>
          simp only [Option.mapM_some, newDate, hParsed] at h
          cases h
      | some parsed =>
          simp only [Option.mapM_some, newDate, hParsed] at h
          cases h
          simp only [Option.bind_some, hParsed]

/-- The check of a survey's id leaves its texts. -/
theorem ensureCanonicalSurveyId_text (survey : Survey) :
    Meets (ensureCanonicalSurveyId env survey) (OnDb fun _ => True)
      (fun answer state => answer.text = survey.text ∧ OnDb (fun _ => True) state)
      (OnDb fun _ => True) := by
  unfold ensureCanonicalSurveyId
  cases env.wards.find? survey.wardId with
  | none => exact Meets.fail fun _ _ => trivial
  | some ward =>
      have hAnyhow : Meets (repairSurveyIdIfNeeded env survey ward.number) (OnDb fun _ => True)
          (fun _ => OnDb fun _ => True) (OnDb fun _ => True) := by
        intro state _
        rcases repairSurveyIdIfNeeded env survey ward.number state with ⟨after, error | surveyId⟩
        · trivial
        · trivial
      refine Meets.bind hAnyhow fun surveyId => ?_
      exact Meets.pure fun _ h => ⟨(withSurveyId_text survey surveyId).1, h⟩

/-- The check of all ids of a page leaves the texts. -/
theorem ensureCanonicalSurveyIds_text (surveys : List Survey) :
    Meets (ensureCanonicalSurveyIds env surveys) (OnDb fun _ => True)
      (fun answer => OnDb fun _ => answer.map Survey.text = surveys.map Survey.text)
      (OnDb fun _ => True) := by
  induction surveys with
  | nil => exact Meets.pure fun _ _ => rfl
  | cons survey surveys ih =>
      refine Meets.bind (ensureCanonicalSurveyId_text env survey) fun repaired =>
        Meets.given fun hText => ?_
      refine Meets.bind ih fun others => Meets.pure fun _ hOthers => ?_
      have hOthers : others.map Survey.text = surveys.map Survey.text := hOthers
      change (repaired :: others).map Survey.text = (survey :: surveys).map Survey.text
      rw [List.map_cons, List.map_cons, hText, hOthers]

/-- The numbers of a list are those of the page. -/
theorem findAll_aadhaar (db : SurveyDb) (query : ListSurveysQuery) (user : AuthUser) :
    Meets (findAll env query user) (OnDb fun start => start = db)
      (fun reply => OnDb fun _ =>
        reply.1.map Survey.text = (listed env query db).map Survey.text)
      (OnDb fun _ => True) := by
  refine bind_orThrow (fun _ _ => trivial) fun _ _ => ?_
  refine bind_orThrow (fun _ _ => trivial) fun surveyedFrom hFrom => ?_
  refine bind_orThrow (fun _ _ => trivial) fun surveyedTo hTo => ?_
  rw [mapM_newDate env hFrom, mapM_newDate env hTo]
  refine bind_read (fun _ _ => trivial) fun total => ?_
  refine Meets.bind (meets_read fun _ _ => trivial) fun items => ?_
  intro state hState
  obtain ⟨hItems, hStart⟩ := hState
  rw [hStart] at hItems
  refine Meets.bind (ensureCanonicalSurveyIds_text env items) (fun canonicalItems => ?_) state
    trivial
  refine Meets.pure fun _ hText => ?_
  rw [listed, hItems]
  exact hText

end SurveysService
end Numbers

end PropertyTax.Surveys
