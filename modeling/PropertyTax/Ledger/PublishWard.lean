import PropertyTax.Ledger.YearEndComplete

/-! Publishing a whole ward. The pages visit every active survey once, up to the first that cannot
be billed. A visit leaves one demand, and a second run finds every amount as it would write it. -/
namespace PropertyTax
open KeyedTable

/-! ### Amounts -/

/-- What publishing a survey writes into the amount columns. -/
def PublishInput.amountsOn (input : PublishInput) (ctx : Context) (db : Db) : DemandAmounts :=
  (input.assess ctx
    { existing := db.demandFor? input.survey.id input.assessmentYearId
      amountPaid := sumSuccessPayments input.survey.id input.assessmentYearId db
      priorYearIssue := false }).columns

/-- The dues can be computed, and what publishing writes fits its columns. -/
structure PublishInput.CanBill (input : PublishInput) (ctx : Context) (db : Db) : Prop where
  zone : input.survey.zoneIsFunction = false
  fit : (input.amountsOn ctx db).Fit

/-- Arrears below zero count as none, whether they are raised to zero or not. -/
theorem computePropertyAssessment_max_arrears (base : AssessmentBase)
    (rules : List TaxAdjustmentRuleInput) (arrears amountPaid : ℚ) :
    computePropertyAssessment { base, rules, arrears := max 0 arrears, amountPaid } =
      computePropertyAssessment { base, rules, arrears, amountPaid } := by
  simp [computePropertyAssessment]

/-- An assessment sees the dues, the rules, what is paid and arrears above zero. -/
theorem assess_congr {ctx ctx' : Context} {input input' : PublishInput} {read read' : PublishRead}
    (hDues : input'.dues ctx' = input.dues ctx) (hRules : input'.rules = input.rules)
    (hArrears : max 0 (toMoney (input'.arrears read'.existing)) =
      max 0 (toMoney (input.arrears read.existing)))
    (hPaid : read'.amountPaid = read.amountPaid) :
    input'.assess ctx' read' = input.assess ctx read := by
  rw [PublishInput.assess, PublishInput.assess]
  rw [← computePropertyAssessment_max_arrears, hArrears, computePropertyAssessment_max_arrears,
    hDues, hRules, hPaid]

section Upsert
variable {ctx : Context} {input : PublishInput} {db after : Db}

/-- Publishing one survey leaves one published demand of it, and every other demand
as it was. -/
structure PublishedOne (ctx : Context) (input : PublishInput) (db after : Db) : Prop where
  drawn : KeysDrawn after
  payments : after.payments = db.payments
  written : ∃ d, after.demandFor? input.survey.id input.assessmentYearId = some d ∧
    d.status = .published ∧ d.amounts = input.amountsOn ctx db
  others : ∀ surveyId yearId,
    ¬ (surveyId = input.survey.id ∧ yearId = input.assessmentYearId) →
      after.demandFor? surveyId yearId = db.demandFor? surveyId yearId

/-- The demand of another survey or year is found as before. -/
theorem demandFor?_congr {surveyId yearId : Id}
    (hRows : ∀ d : PropertyDemand, d.surveyId = surveyId ∧ d.assessmentYearId = yearId →
      (d ∈ after.demands.rows ↔ d ∈ db.demands.rows)) :
    after.demandFor? surveyId yearId = db.demandFor? surveyId yearId := by
  refine Option.ext fun d => ?_
  rw [demandFor?_eq_some_iff, demandFor?_eq_some_iff]
  exact and_congr_left fun hKey => hRows d hKey

theorem writePublishedDemand_isOk (ctx : Context) (input : PublishInput) (hDrawn : KeysDrawn db)
    {read : PublishRead}
    (hExisting : read.existing = db.demandFor? input.survey.id input.assessmentYearId) :
    ∃ after id, writePublishedDemand ctx input read db = .ok (after, id) ∧ KeysDrawn after := by
  unfold writePublishedDemand
  cases hFound : db.demandFor? input.survey.id input.assessmentYearId with
  | some existing =>
      have hMem := (Db.demandFor?_spec hFound).1
      have hKept : ∀ d, (publishedDemandData ctx input read d).id = d.id ∧
          (publishedDemandData ctx input read d).surveyId = d.surveyId ∧
          (publishedDemandData ctx input read d).assessmentYearId = d.assessmentYearId :=
        fun _ => ⟨rfl, rfl, rfl⟩
      obtain ⟨after, hUpdate, hAfter⟩ := updateDemand_isOk hDrawn hMem hKept
      refine ⟨after, existing.id, ?_, hAfter⟩
      simp only [hExisting, hFound]
      rw [hUpdate]
      rfl
  | none =>
      let draft (id : Id) : PropertyDemand := publishedDemandData ctx input read
        { id, surveyId := input.survey.id, assessmentYearId := input.assessmentYearId }
      obtain ⟨after, hCreate, hAfter, -⟩ :=
        @createDemand_isOk db hDrawn draft (fun _ => rfl) hFound
      refine ⟨after, db.nextId, ?_, hAfter⟩
      simp only [hExisting, hFound]
      change (db.createDemand draft).map _ = _
      rw [hCreate]
      rfl

/-- What is written are the amounts of the bill as it is read. -/
theorem amountsOn_read (ctx : Context) (input : PublishInput) (db : Db) :
    (input.assess ctx (input.read db)).columns = input.amountsOn ctx db := rfl

/-- A survey that can be billed gets its demand written. -/
theorem upsert_of_canBill (h : input.CanBill ctx db) :
    upsertPublishedDemandForSurvey ctx input db =
      commit db (writePublishedDemand ctx input (input.read db) db) := by
  have hZone : ¬ input.survey.zoneIsFunction = true := by
    rw [h.zone]
    exact Bool.false_ne_true
  unfold upsertPublishedDemandForSurvey storePublishedDemand
  rw [if_neg hZone, amountsOn_read, if_pos h.fit]

/-- A survey that cannot be billed stops whoever publishes it, and leaves the ledger alone. -/
theorem upsert_of_not_canBill (h : ¬ input.CanBill ctx db) :
    ∃ error, upsertPublishedDemandForSurvey ctx input db = (db, .error error) := by
  unfold upsertPublishedDemandForSurvey storePublishedDemand
  by_cases hZone : input.survey.zoneIsFunction = true
  · exact ⟨_, if_pos hZone⟩
  · have hFit : ¬ (input.amountsOn ctx db).Fit := fun hFit =>
      h ⟨Bool.eq_false_iff.mpr hZone, hFit⟩
    rw [if_neg hZone, amountsOn_read, if_neg hFit]
    exact ⟨_, rfl⟩

/-- Publishing a survey that can be billed is not refused, and touches its own demand only. -/
theorem upsert_isOk (ctx : Context) (input : PublishInput) (hDrawn : KeysDrawn db)
    (hBill : input.CanBill ctx db) :
    ∃ after id, upsertPublishedDemandForSurvey ctx input db = (after, .ok id) ∧
      PublishedOne ctx input db after := by
  rw [upsert_of_canBill hBill]
  generalize hRead : input.read db = read
  have hExisting : read.existing = db.demandFor? input.survey.id input.assessmentYearId := by
    rw [← hRead]
    rfl
  have hAmounts : (input.assess ctx read).columns = input.amountsOn ctx db := by
    rw [← hRead]
    rfl
  obtain ⟨after, id, hWrite, hDrawn'⟩ := writePublishedDemand_isOk ctx input hDrawn hExisting
  refine ⟨after, id, by rw [hWrite]; rfl, ?_⟩
  obtain ⟨hPayments, -, hDemand⟩ := writePublishedDemand_ok hWrite
  rcases hDemand with ⟨existing, d, hFound, hId, hReplaced⟩ | ⟨hNone, hAdded⟩
  · rw [hExisting] at hFound
    obtain ⟨hMem, hSurvey, hYear⟩ := Db.demandFor?_spec hFound
    obtain rfl : d = existing := eq_of_key hReplaced.mem_old hMem hId
    refine ⟨hDrawn', hPayments, ⟨publishedDemandData ctx input read d, ?_, rfl, hAmounts⟩,
      fun surveyId yearId hOther => demandFor?_congr fun other hKey => ?_⟩
    · exact demandFor?_eq_some_iff.mpr ⟨hReplaced.mem_new, hSurvey, hYear⟩
    · have hNe : other ≠ d := by
        rintro rfl
        exact hOther ⟨hKey.1.symm.trans hSurvey, hKey.2.symm.trans hYear⟩
      rw [hReplaced.mem_iff]
      constructor
      · rintro (⟨hStored, -⟩ | rfl)
        · exact hStored
        · exact absurd ⟨hKey.1.symm.trans hSurvey, hKey.2.symm.trans hYear⟩ hOther
      · exact fun hStored => .inl ⟨hStored, fun hSame => hNe (eq_of_key hStored hMem hSame)⟩
  · have hNew : after.demandFor? input.survey.id input.assessmentYearId = some _ :=
      demandFor?_eq_some_iff.mpr ⟨hAdded.mem_row, rfl, rfl⟩
    refine ⟨hDrawn', hPayments, ⟨_, hNew, rfl, hAmounts⟩,
      fun surveyId yearId hOther => demandFor?_congr fun other hKey => ?_⟩
    refine (hAdded.mem_iff other).trans (or_iff_left ?_)
    rintro rfl
    exact hOther ⟨hKey.1.symm, hKey.2.symm⟩

end Upsert

/-! ### A list of surveys -/

section Batch
variable {ctx : Context} {assessmentYearId : Id} {actorId : Option Id} {taxConfig : TaxConfig}
  {surveys page : List Survey} {db after : Db}

/-- Publishing some surveys leaves one published demand of each, and every other
demand as it was. -/
structure PublishedAll (ctx : Context) (assessmentYearId : Id) (actorId : Option Id)
    (taxConfig : TaxConfig) (surveys : List Survey) (db after : Db) : Prop where
  drawn : KeysDrawn after
  payments : after.payments = db.payments
  written : ∀ survey ∈ surveys, ∃ d, after.demandFor? survey.id assessmentYearId = some d ∧
    d.status = .published ∧
      d.amounts = (wardInput ctx assessmentYearId actorId taxConfig survey).amountsOn ctx db
  others : ∀ surveyId yearId,
    (yearId = assessmentYearId → ∀ survey ∈ surveys, survey.id ≠ surveyId) →
      after.demandFor? surveyId yearId = db.demandFor? surveyId yearId

/-- How many of the surveys have no demand of the year, and how many have one. -/
def countsFor (db : Db) (assessmentYearId : Id) (surveys : List Survey) : PublishCounts where
  created := surveys.countP fun survey => (db.demandFor? survey.id assessmentYearId).isNone
  updated := surveys.countP fun survey => (db.demandFor? survey.id assessmentYearId).isSome

theorem countsFor_congr (h : ∀ survey ∈ surveys, after.demandFor? survey.id assessmentYearId =
    db.demandFor? survey.id assessmentYearId) :
    countsFor after assessmentYearId surveys = countsFor db assessmentYearId surveys := by
  unfold countsFor
  congr 1
  · exact List.countP_congr fun survey hSurvey => by rw [h survey hSurvey]
  · exact List.countP_congr fun survey hSurvey => by rw [h survey hSurvey]

/-- What a survey is published at does not depend on the other demands. -/
theorem amountsOn_congr {input : PublishInput} (hPayments : after.payments = db.payments)
    (hDemand : after.demandFor? input.survey.id input.assessmentYearId =
      db.demandFor? input.survey.id input.assessmentYearId) :
    input.amountsOn ctx after = input.amountsOn ctx db := by
  unfold PublishInput.amountsOn sumSuccessPayments
  rw [hPayments, hDemand]

/-- What becomes of one survey decides nothing about the others. -/
theorem canBill_congr {input : PublishInput} (hPayments : after.payments = db.payments)
    (hDemand : after.demandFor? input.survey.id input.assessmentYearId =
      db.demandFor? input.survey.id input.assessmentYearId) :
    input.CanBill ctx after ↔ input.CanBill ctx db := by
  have hAmounts : input.amountsOn ctx after = input.amountsOn ctx db :=
    amountsOn_congr hPayments hDemand
  exact ⟨fun h => ⟨h.zone, hAmounts ▸ h.fit⟩, fun h => ⟨h.zone, hAmounts ▸ h.fit⟩⟩

theorem publishBatch_isOk (actorId : Option Id) (taxConfig : TaxConfig) (counts : PublishCounts)
    (hDrawn : KeysDrawn db) (hIds : (surveys.map Survey.id).Nodup)
    (hBills : ∀ survey ∈ surveys,
      (wardInput ctx assessmentYearId actorId taxConfig survey).CanBill ctx db) :
    ∃ after, publishBatch ctx (wardInput ctx assessmentYearId actorId taxConfig) surveys counts db =
        (after, .ok
          { created := counts.created + (countsFor db assessmentYearId surveys).created
            updated := counts.updated + (countsFor db assessmentYearId surveys).updated }) ∧
      PublishedAll ctx assessmentYearId actorId taxConfig surveys db after := by
  induction surveys generalizing counts db with
  | nil => exact ⟨db, rfl, hDrawn, rfl, by simp, fun _ _ _ => rfl⟩
  | cons survey rest ih =>
      obtain ⟨hFirst, hRest⟩ := List.nodup_cons.mp hIds
      obtain ⟨first, id, hUpsert, hOne⟩ := upsert_isOk ctx
        (wardInput ctx assessmentYearId actorId taxConfig survey) hDrawn
        (hBills survey List.mem_cons_self)
      have hApart : ∀ other ∈ rest, survey.id ≠ other.id := fun other hOther hSame =>
        hFirst (List.mem_map.mpr ⟨other, hOther, hSame.symm⟩)
      have hLater : ∀ other ∈ rest, first.demandFor? other.id assessmentYearId =
          db.demandFor? other.id assessmentYearId := fun other hOther =>
        hOne.others _ _ fun hSame => hApart other hOther hSame.1.symm
      obtain ⟨after, hBatch, hAll⟩ := ih (if (db.demandFor? survey.id assessmentYearId).isSome then
        { counts with updated := counts.updated + 1 }
        else { counts with created := counts.created + 1 }) hOne.drawn hRest
        (fun other hOther => (canBill_congr hOne.payments (hLater other hOther)).mpr
          (hBills other (List.mem_cons_of_mem _ hOther)))
      refine ⟨after, ?_, hAll.drawn, hAll.payments.trans hOne.payments, ?_, ?_⟩
      · rw [publishBatch_cons_ok rest hUpsert]
        refine hBatch.trans ?_
        rw [countsFor_congr hLater]
        simp only [countsFor, List.countP_cons]
        cases db.demandFor? survey.id assessmentYearId with
        | none => simp [Nat.add_assoc, Nat.add_comm 1]
        | some d => simp [Nat.add_assoc, Nat.add_comm 1]
      · intro other hOther
        rcases List.mem_cons.mp hOther with rfl | hMem
        · obtain ⟨d, hFound, hStatus, hAmounts⟩ := hOne.written
          refine ⟨d, ?_, hStatus, hAmounts⟩
          rw [← hFound]
          exact hAll.others _ _ fun _ later hLater => (hApart later hLater).symm
        · obtain ⟨d, hFound, hStatus, hAmounts⟩ := hAll.written other hMem
          refine ⟨d, hFound, hStatus, hAmounts.trans ?_⟩
          exact amountsOn_congr hOne.payments (hLater other hMem)
      · intro surveyId yearId hOther
        rw [hAll.others surveyId yearId fun hYear later hLater =>
          hOther hYear later (List.mem_cons_of_mem _ hLater)]
        exact hOne.others surveyId yearId fun hSame =>
          hOther hSame.2 survey List.mem_cons_self hSame.1.symm

/-- A survey that cannot be billed stops the others that come after it. -/
theorem publishBatch_stopped (actorId : Option Id) (taxConfig : TaxConfig) (counts : PublishCounts)
    (hDrawn : KeysDrawn db) (hIds : (surveys.map Survey.id).Nodup) {stopper : Survey}
    (hStopper : stopper ∈ surveys)
    (hBill : ¬ (wardInput ctx assessmentYearId actorId taxConfig stopper).CanBill ctx db) :
    ∃ after error, publishBatch ctx (wardInput ctx assessmentYearId actorId taxConfig) surveys
      counts db = (after, .error error) := by
  induction surveys generalizing counts db with
  | nil => exact absurd hStopper List.not_mem_nil
  | cons survey rest ih =>
      obtain ⟨hFirst, hRest⟩ := List.nodup_cons.mp hIds
      by_cases hCan : (wardInput ctx assessmentYearId actorId taxConfig survey).CanBill ctx db
      · obtain ⟨first, id, hUpsert, hOne⟩ := upsert_isOk ctx
          (wardInput ctx assessmentYearId actorId taxConfig survey) hDrawn hCan
        have hLater : stopper ∈ rest := (List.mem_cons.mp hStopper).resolve_left fun hSame =>
          hBill (hSame ▸ hCan)
        have hApart : stopper.id ≠ survey.id := fun hSame =>
          hFirst (List.mem_map.mpr ⟨stopper, hLater, hSame⟩)
        have hDemand : first.demandFor? stopper.id assessmentYearId =
            db.demandFor? stopper.id assessmentYearId :=
          hOne.others _ _ fun hSame => hApart hSame.1
        rw [publishBatch_cons_ok rest hUpsert]
        exact ih _ hOne.drawn hRest hLater (mt (canBill_congr hOne.payments hDemand).mp hBill)
      · obtain ⟨error, hRefused⟩ := upsert_of_not_canBill hCan
        exact ⟨db, error, publishBatch_cons_error rest hRefused⟩

end Batch

/-! ### The pages -/

section Pages
variable {ctx : Context} {inputFor : Survey → PublishInput} {surveys before rest : List Survey}

/-- The page after the last survey that was visited starts with the next one. -/
theorem surveyPage_append (hIds : ((before ++ rest).map Survey.id).Nodup) :
    surveyPage (before ++ rest) (before.getLast?.map Survey.id) = rest.take batchSize := by
  rcases List.eq_nil_or_concat before with rfl | ⟨visited, last, rfl⟩
  · rfl
  · have hVisited : ∀ survey ∈ visited, decide (survey.id ≠ last.id) = true := by
      intro survey hSurvey
      rw [decide_eq_true_eq]
      rw [List.concat_eq_append, List.append_assoc, List.map_append] at hIds
      exact (List.nodup_append.mp hIds).2.2 survey.id (List.mem_map_of_mem hSurvey) last.id
        (by simp)
    rw [List.concat_eq_append, List.getLast?_concat, Option.map_some, surveyPage,
      List.append_assoc, List.dropWhile_append_of_pos hVisited]
    simp

/-- A page that goes through is followed by the rest. -/
theorem publishBatch_append_ok {page : List Survey} {counts counts' : PublishCounts} {db db' : Db}
    (h : publishBatch ctx inputFor page counts db = (db', .ok counts')) :
    publishBatch ctx inputFor (page ++ rest) counts db =
      publishBatch ctx inputFor rest counts' db' := by
  induction page generalizing counts db with
  | nil =>
      cases h
      rfl
  | cons survey page ih =>
      rw [List.cons_append]
      rcases hUpsert : upsertPublishedDemandForSurvey ctx (inputFor survey) db with
        ⟨next, error | id⟩
      · rw [publishBatch_cons_error page hUpsert] at h
        cases h
      · rw [publishBatch_cons_ok page hUpsert] at h
        rw [publishBatch_cons_ok _ hUpsert]
        exact ih h

/-- A page that is refused stops what comes after it. -/
theorem publishBatch_append_error {page : List Survey} {counts : PublishCounts} {db db' : Db}
    {error : ApiError} (h : publishBatch ctx inputFor page counts db = (db', .error error)) :
    publishBatch ctx inputFor (page ++ rest) counts db = (db', .error error) := by
  induction page generalizing counts db with
  | nil => cases h
  | cons survey page ih =>
      rw [List.cons_append]
      rcases hUpsert : upsertPublishedDemandForSurvey ctx (inputFor survey) db with
        ⟨next, refusal | id⟩
      · rw [publishBatch_cons_error page hUpsert] at h
        rw [publishBatch_cons_error _ hUpsert, h]
      · rw [publishBatch_cons_ok page hUpsert] at h
        rw [publishBatch_cons_ok _ hUpsert]
        exact ih h

/-- The loop visits the surveys that are left, each once and in order, and ends by
itself: at an empty page, or after one that is not full. -/
theorem publishPages_eq {fuel : Nat} {counts : PublishCounts} {db : Db}
    (hIds : ((before ++ rest).map Survey.id).Nodup) (hFuel : rest.length < batchSize * fuel) :
    publishPages ctx inputFor (before ++ rest) fuel (before.getLast?.map Survey.id) counts db =
      publishBatch ctx inputFor rest counts db := by
  induction fuel generalizing before rest counts db with
  | zero => omega
  | succ fuel ih =>
      rw [publishPages, surveyPage_append hIds]
      by_cases hNone : rest = []
      · subst hNone
        rfl
      have hFull : (rest.take batchSize).length ≠ 0 := by
        rw [List.length_take]
        have hLength := List.length_pos_iff.mpr hNone
        have hBatch : 0 < batchSize := by decide
        omega
      have hSplit : rest = rest.take batchSize ++ rest.drop batchSize :=
        (List.take_append_drop batchSize rest).symm
      rw [if_neg hFull]
      rcases hPage : publishBatch ctx inputFor (rest.take batchSize) counts db with
        ⟨next, error | counts'⟩
      · simp only
        rw [hSplit, publishBatch_append_error hPage]
      · simp only
        split_ifs with hShort
        · have hAll : rest.take batchSize = rest := by
            rw [List.length_take] at hShort
            exact List.take_of_length_le (by omega)
          rw [← hPage, hAll]
        · have hCursor : (rest.take batchSize).getLast?.map Survey.id =
              (before ++ rest.take batchSize).getLast?.map Survey.id := by
            rw [List.getLast?_append_of_ne_nil _ (List.ne_nil_of_length_pos (by omega))]
          have hSurveys : before ++ rest =
              (before ++ rest.take batchSize) ++ rest.drop batchSize := by
            rw [List.append_assoc, ← hSplit]
          have hLeft : (rest.drop batchSize).length < batchSize * fuel := by
            rw [List.length_take] at hShort
            rw [Nat.mul_succ] at hFuel
            rw [List.length_drop]
            omega
          rw [hCursor, hSurveys, ih (hSurveys ▸ hIds) hLeft, ← publishBatch_append_ok hPage,
            ← hSplit]

end Pages

/-! ### The ward -/

/-- `const total = created + updated` -/
def PublishCounts.total (counts : PublishCounts) : Nat := counts.created + counts.updated

/-- The survey is published with its ward. -/
def Survey.IsActiveIn (survey : Survey) (wardId : Id) : Prop :=
  survey.wardId = wardId ∧ survey.active = true ∧ survey.deletedAt = none

instance (survey : Survey) (wardId : Id) : Decidable (survey.IsActiveIn wardId) :=
  inferInstanceAs (Decidable (_ ∧ _ ∧ _))

/-- The surveys that a ward's publication is about. -/
def Reference.activeIn (reference : Reference) (wardId : Id) : List Survey :=
  reference.surveys.filter fun survey => survey.IsActiveIn wardId

section Ward
variable {ctx : Context} {wardId assessmentYearId : Id} {actorId : Option Id}
  {taxConfig : TaxConfig} {db after : Db}

/-- Sorted by id, the active surveys of the ward are the same. -/
theorem activeSurveysOf_perm (reference : Reference) (wardId : Id) :
    (activeSurveysOf reference wardId).Perm (reference.activeIn wardId) := by
  refine (List.perm_insertionSort _ _).trans (List.Perm.of_eq ?_)
  refine List.filter_congr fun survey _ => ?_
  rw [decide_eq_decide, Option.isNone_iff_eq_none]
  rfl

theorem activeSurveysOf_nodup (hIds : (ctx.reference.surveys.map Survey.id).Nodup) :
    ((activeSurveysOf ctx.reference wardId).map Survey.id).Nodup := by
  refine ((activeSurveysOf_perm ctx.reference wardId).map Survey.id).nodup_iff.mpr ?_
  exact hIds.sublist (List.filter_sublist.map Survey.id)

/-- A ward was published: each of its active surveys has one demand of the year, and
the other demands stand as they stood. -/
structure WardPublished (reference : Reference) (wardId assessmentYearId : Id) (db after : Db)
    (counts : PublishCounts) : Prop where
  total : counts.total = (reference.activeIn wardId).length
  created : counts.created = (reference.activeIn wardId).countP fun survey =>
    (db.demandFor? survey.id assessmentYearId).isNone
  written : ∀ survey ∈ reference.activeIn wardId, ∃ d,
    (after.demands.rows.filter fun e =>
      e.surveyId = survey.id ∧ e.assessmentYearId = assessmentYearId) = [d] ∧
        d.status = .published
  others : ∀ d : PropertyDemand,
    (d.assessmentYearId = assessmentYearId →
      ∀ survey ∈ reference.activeIn wardId, survey.id ≠ d.surveyId) →
        (d ∈ after.demands.rows ↔ d ∈ db.demands.rows)

/-- The loop ends by itself, after one pass over the active surveys. -/
theorem publishPages_ward (hIds : (ctx.reference.surveys.map Survey.id).Nodup)
    {inputFor : Survey → PublishInput} {fuel : Nat}
    (hFuel : (activeSurveysOf ctx.reference wardId).length < batchSize * fuel) :
    publishPages ctx inputFor (activeSurveysOf ctx.reference wardId) fuel none ⟨0, 0⟩ db =
      publishBatch ctx inputFor (activeSurveysOf ctx.reference wardId) ⟨0, 0⟩ db :=
  @publishPages_eq ctx inputFor [] _ fuel ⟨0, 0⟩ db (activeSurveysOf_nodup hIds) hFuel

theorem PublishedAll.log {surveys : List Survey} (entry : AuditEntry)
    (h : PublishedAll ctx assessmentYearId actorId taxConfig surveys db after) :
    PublishedAll ctx assessmentYearId actorId taxConfig surveys db (after.log entry) where
  drawn := ⟨h.drawn.demands, h.drawn.demandArrears, h.drawn.yearEndRuns⟩
  payments := h.payments
  written := h.written
  others := h.others

/-- Every active survey of the ward can be billed at the rates. -/
def WardBillable (ctx : Context) (wardId assessmentYearId : Id) (taxConfig : TaxConfig) (db : Db) :
    Prop :=
  ∀ survey ∈ ctx.reference.activeIn wardId,
    (wardInput ctx assessmentYearId none taxConfig survey).CanBill ctx db

/-- Who publishes does not matter to a bill. -/
theorem WardBillable.canBill (h : WardBillable ctx wardId assessmentYearId taxConfig db)
    (actorId : Option Id) {survey : Survey} (hSurvey : survey ∈ activeSurveysOf ctx.reference wardId) :
    (wardInput ctx assessmentYearId actorId taxConfig survey).CanBill ctx db :=
  have hCan := h survey ((activeSurveysOf_perm ctx.reference wardId).mem_iff.mp hSurvey)
  ⟨hCan.zone, hCan.fit⟩

/-- With a published configuration nothing but a bill stops the publication of a ward. -/
theorem publishForWard_isOk (actorId : Option Id) (hDrawn : KeysDrawn db)
    (hConfig : wardTaxConfig ctx wardId assessmentYearId = .ok taxConfig)
    (hIds : (ctx.reference.surveys.map Survey.id).Nodup)
    (hBills : WardBillable ctx wardId assessmentYearId taxConfig db) :
    ∃ after, publishForWard ctx wardId assessmentYearId actorId db =
        (after, .ok (countsFor db assessmentYearId (activeSurveysOf ctx.reference wardId))) ∧
      PublishedAll ctx assessmentYearId actorId taxConfig (activeSurveysOf ctx.reference wardId)
        db after := by
  have hSurveys : ((activeSurveysOf ctx.reference wardId).map Survey.id).Nodup :=
    activeSurveysOf_nodup hIds
  obtain ⟨after, hBatch, hAll⟩ :=
    @publishBatch_isOk ctx assessmentYearId _ db actorId taxConfig ⟨0, 0⟩ hDrawn hSurveys
      fun survey hSurvey => hBills.canBill actorId hSurvey
  have hPages := @publishPages_ward ctx wardId db hIds
    (wardInput ctx assessmentYearId actorId taxConfig)
    ((activeSurveysOf ctx.reference wardId).length + 1) (by unfold batchSize; omega)
  simp only [Nat.zero_add] at hBatch
  rw [publishForWard, hConfig]
  simp only [hPages, hBatch]
  exact ⟨_, rfl, hAll.log _⟩

/-- One active survey that cannot be billed stops the publication of its ward. -/
theorem publishForWard_stopped (actorId : Option Id) (hDrawn : KeysDrawn db)
    (hConfig : wardTaxConfig ctx wardId assessmentYearId = .ok taxConfig)
    (hIds : (ctx.reference.surveys.map Survey.id).Nodup)
    (hBills : ¬ WardBillable ctx wardId assessmentYearId taxConfig db) :
    ∃ after error, publishForWard ctx wardId assessmentYearId actorId db =
      (after, .error error) := by
  simp only [WardBillable, not_forall] at hBills
  obtain ⟨stopper, hStopper, hBill⟩ := hBills
  have hMem := (activeSurveysOf_perm ctx.reference wardId).mem_iff.mpr hStopper
  have hBill' : ¬ (wardInput ctx assessmentYearId actorId taxConfig stopper).CanBill ctx db :=
    fun hCan => hBill ⟨hCan.zone, hCan.fit⟩
  obtain ⟨after, error, hBatch⟩ := publishBatch_stopped actorId taxConfig ⟨0, 0⟩ hDrawn
    (activeSurveysOf_nodup hIds) hMem hBill'
  have hPages := @publishPages_ward ctx wardId db hIds
    (wardInput ctx assessmentYearId actorId taxConfig)
    ((activeSurveysOf ctx.reference wardId).length + 1) (by unfold batchSize; omega)
  rw [publishForWard, hConfig]
  simp only [hPages, hBatch]
  exact ⟨after, error, rfl⟩

/-- With all its surveys published, the ward is covered. -/
theorem PublishedAll.wardPublished
    (h : PublishedAll ctx assessmentYearId actorId taxConfig (activeSurveysOf ctx.reference wardId)
      db after) :
    WardPublished ctx.reference wardId assessmentYearId db after
      (countsFor db assessmentYearId (activeSurveysOf ctx.reference wardId)) where
  total := by
    rw [← (activeSurveysOf_perm ctx.reference wardId).length_eq, PublishCounts.total, countsFor,
      Nat.add_comm, List.length_eq_countP_add_countP fun survey : Survey =>
        (db.demandFor? survey.id assessmentYearId).isSome]
    congr 1
    exact List.countP_congr fun survey _ => by
      cases db.demandFor? survey.id assessmentYearId <;> simp
  created := (activeSurveysOf_perm ctx.reference wardId).countP_eq _
  written survey hSurvey := by
    obtain ⟨d, hFound, hStatus, -⟩ := h.written survey
      ((activeSurveysOf_perm ctx.reference wardId).mem_iff.mpr hSurvey)
    refine ⟨d, List.perm_singleton.mp ?_, hStatus⟩
    refine (List.perm_ext_iff_of_nodup (after.demands.nodup_rows.filter _)
      (List.nodup_singleton d)).mpr fun e => ?_
    rw [List.mem_filter, decide_eq_true_eq, ← demandFor?_eq_some_iff, hFound, Option.some_inj,
      List.mem_singleton, eq_comm]
  others d hOther := by
    have hSame := h.others d.surveyId d.assessmentYearId fun hYear survey hSurvey =>
      hOther hYear survey ((activeSurveysOf_perm ctx.reference wardId).mem_iff.mp hSurvey)
    have hMem : ∀ ledger : Db, d ∈ ledger.demands.rows ↔
        ledger.demandFor? d.surveyId d.assessmentYearId = some d := fun ledger => by
      rw [demandFor?_eq_some_iff]
      exact ⟨fun hd => ⟨hd, rfl, rfl⟩, fun hd => hd.1⟩
    rw [hMem, hMem, hSame]

end Ward

/-! ### A second run -/

section Again
variable {ctx ctx' : Context} {wardId assessmentYearId : Id} {actorId actorId' : Option Id}
  {taxConfig : TaxConfig} {db after : Db}

/-- Nothing has changed that publishing a year reads, but for the clock. -/
structure SameRates (assessmentYearId : Id) (ctx ctx' : Context) : Prop where
  reference : ctx'.reference = ctx.reference
  billing : ctx'.billing = ctx.billing
  rules : loadPublishedRules ctx'.reference assessmentYearId ctx'.now =
    loadPublishedRules ctx.reference assessmentYearId ctx.now

/-- A published demand is published at the amounts it has. -/
theorem amountsOn_again {survey : Survey} {d : PropertyDemand}
    (hSame : SameRates assessmentYearId ctx ctx') (hPayments : after.payments = db.payments)
    (hFound : after.demandFor? survey.id assessmentYearId = some d)
    (hAmounts : d.amounts =
      (wardInput ctx assessmentYearId actorId taxConfig survey).amountsOn ctx db) :
    (wardInput ctx' assessmentYearId actorId' taxConfig survey).amountsOn ctx' after =
      d.amounts := by
  let read : PublishRead := ⟨db.demandFor? survey.id assessmentYearId,
    sumSuccessPayments survey.id assessmentYearId db, false⟩
  let input := wardInput ctx assessmentYearId actorId taxConfig survey
  have hArrears : d.arrears = max 0 (input.arrears read.existing) := by
    have hColumn : d.arrears = toColumn (input.assess ctx read).arrears :=
      congrArg DemandAmounts.arrears hAmounts
    have hPaid : read.amountPaid =
        toMoney (successSum db.payments survey.id assessmentYearId) := rfl
    rw [hColumn]
    exact (publishedDemandData_from ctx input hPaid d).arrears
  have hCarried : toMoney d.arrears = max 0 (toMoney (input.arrears read.existing)) := by
    rw [hArrears, toMoney_max_zero]
  have hPaid : sumSuccessPayments survey.id assessmentYearId after =
      sumSuccessPayments survey.id assessmentYearId db := by
    rw [sumSuccessPayments, sumSuccessPayments, hPayments]
  have hAgain : (wardInput ctx' assessmentYearId actorId' taxConfig survey).arrears
      (after.demandFor? survey.id assessmentYearId) = d.arrears := by
    rw [hFound]
    rfl
  rw [hAmounts]
  refine congrArg PropertyAssessmentResult.columns (assess_congr ?_ hSame.rules ?_ hPaid)
  · change ctx'.billing.computePublicDuesPayload survey taxConfig =
      ctx.billing.computePublicDuesPayload survey taxConfig
    rw [hSame.billing]
  · change max 0 (toMoney ((wardInput ctx' assessmentYearId actorId' taxConfig survey).arrears
      (after.demandFor? survey.id assessmentYearId))) = _
    rw [hAgain, hCarried, max_eq_right (le_max_left _ _)]
    rfl

/-- The first run leaves a demand of every active survey, so the second creates none. -/
theorem PublishedAll.created_again {surveys : List Survey}
    (h : PublishedAll ctx assessmentYearId actorId taxConfig surveys db after) :
    (countsFor after assessmentYearId surveys).created = 0 := by
  refine List.countP_eq_zero.mpr fun survey hSurvey => ?_
  obtain ⟨d, hFound, -⟩ := h.written survey hSurvey
  simp [hFound]

/-- The second run writes the amounts that it finds. -/
theorem PublishedAll.amounts_again {surveys : List Survey} {again : Db}
    (hSame : SameRates assessmentYearId ctx ctx')
    (h : PublishedAll ctx assessmentYearId actorId taxConfig surveys db after)
    (hAgain : PublishedAll ctx' assessmentYearId actorId' taxConfig surveys after again)
    (surveyId yearId : Id) :
    (again.demandFor? surveyId yearId).map PropertyDemand.amounts =
      (after.demandFor? surveyId yearId).map PropertyDemand.amounts := by
  by_cases hVisited : yearId = assessmentYearId ∧ ∃ survey ∈ surveys, survey.id = surveyId
  · obtain ⟨rfl, survey, hSurvey, rfl⟩ := hVisited
    obtain ⟨d, hFound, -, hAmounts⟩ := h.written survey hSurvey
    obtain ⟨d', hFound', -, hAmounts'⟩ := hAgain.written survey hSurvey
    rw [hFound, hFound', Option.map_some, Option.map_some, hAmounts',
      amountsOn_again hSame h.payments hFound hAmounts]
  · rw [hAgain.others surveyId yearId fun hYear survey hSurvey hId =>
      hVisited ⟨hYear, survey, hSurvey, hId⟩]

/-- The bills of a published ward can be made once more. -/
theorem PublishedAll.wardBillable (hSame : SameRates assessmentYearId ctx ctx')
    (h : PublishedAll ctx assessmentYearId actorId taxConfig (activeSurveysOf ctx.reference wardId)
      db after)
    (hBills : WardBillable ctx wardId assessmentYearId taxConfig db) :
    WardBillable ctx' wardId assessmentYearId taxConfig after := by
  intro survey hSurvey
  rw [hSame.reference] at hSurvey
  obtain ⟨d, hFound, -, hAmounts⟩ := h.written survey
    ((activeSurveysOf_perm ctx.reference wardId).mem_iff.mpr hSurvey)
  refine ⟨(hBills survey hSurvey).zone, ?_⟩
  rw [amountsOn_again hSame h.payments hFound hAmounts, hAmounts]
  exact (hBills survey hSurvey).fit

/-- A ward's publication ends by itself and covers the ward, and a second run changes nothing. -/
structure CoversWard (ctx : Context) (wardId assessmentYearId : Id) (actorId : Option Id)
    (db : Db) : Prop where
  ends : ∀ inputFor fuel, (activeSurveysOf ctx.reference wardId).length < batchSize * fuel →
    publishPages ctx inputFor (activeSurveysOf ctx.reference wardId) fuel none ⟨0, 0⟩ db =
      publishBatch ctx inputFor (activeSurveysOf ctx.reference wardId) ⟨0, 0⟩ db
  covers : ∃ after counts, publishForWard ctx wardId assessmentYearId actorId db =
      (after, .ok counts) ∧
    WardPublished ctx.reference wardId assessmentYearId db after counts ∧
    ∀ ctx' actorId', SameRates assessmentYearId ctx ctx' →
      ∃ again counts', publishForWard ctx' wardId assessmentYearId actorId' after =
          (again, .ok counts') ∧
        counts'.created = 0 ∧ counts'.total = counts.total ∧
        ∀ surveyId yearId, (again.demandFor? surveyId yearId).map PropertyDemand.amounts =
          (after.demandFor? surveyId yearId).map PropertyDemand.amounts

/-- Publishing a ward visits each of its active surveys once, whatever their number, and
a second run changes no amount, if and only if each of them can be billed. -/
theorem publishForWard_covers_iff (hDrawn : KeysDrawn db)
    (hConfig : wardTaxConfig ctx wardId assessmentYearId = .ok taxConfig)
    (hIds : (ctx.reference.surveys.map Survey.id).Nodup) :
    CoversWard ctx wardId assessmentYearId actorId db ↔
      WardBillable ctx wardId assessmentYearId taxConfig db := by
  constructor
  · intro h
    by_contra hBills
    obtain ⟨after, counts, hRun, -⟩ := h.covers
    obtain ⟨_, _, hStopped⟩ := publishForWard_stopped actorId hDrawn hConfig hIds hBills
    rw [hStopped] at hRun
    cases hRun
  · intro hBills
    obtain ⟨after, hRun, hAll⟩ := publishForWard_isOk actorId hDrawn hConfig hIds hBills
    refine ⟨fun inputFor fuel hFuel => publishPages_ward hIds hFuel, after, _, hRun,
      hAll.wardPublished, fun ctx' actorId' hSame => ?_⟩
    have hConfig' : wardTaxConfig ctx' wardId assessmentYearId = .ok taxConfig := by
      rw [wardTaxConfig, hSame.reference]
      exact hConfig
    have hIds' : (ctx'.reference.surveys.map Survey.id).Nodup := by
      rw [hSame.reference]
      exact hIds
    obtain ⟨again, hRun', hAgain⟩ := publishForWard_isOk actorId' hAll.drawn hConfig' hIds'
      (hAll.wardBillable hSame hBills)
    have hTotal := hAgain.wardPublished.total
    rw [hSame.reference] at hRun' hAgain hTotal
    refine ⟨again, _, hRun', hAll.created_again, ?_, hAll.amounts_again hSame hAgain⟩
    rw [hTotal, hAll.wardPublished.total]

end Again

namespace Sample

/-- Ward 5 with one survey that was typed with the zone text "Constructor". -/
def typoWard : Context :=
  { ward with
    reference :=
      { ward.reference with
        surveys := [{ id := 10, surveyId := "CHH-10", wardId := 5 },
          { id := 11, surveyId := "CHH-11", wardId := 5, taxRateZone := some "Constructor" }] } }

/-- Ward 5 with a second survey, of another owner. -/
def pairWard : Context :=
  { ward with
    reference :=
      { ward.reference with
        surveys := [{ id := 10, surveyId := "CHH-10", wardId := 5 },
          { id := 11, surveyId := "CHH-11", wardId := 5, taxRateZone := some "Rate Zone 2" }] } }

end Sample

/-- Two surveys of two zones are both published. -/
theorem publishForWard_covers_iff_pair :
    (publishForWard Sample.pairWard 5 20 none Db.empty).2.toOption = some ⟨2, 0⟩ ∧
      CoversWard Sample.pairWard 5 20 none Db.empty :=
  have hDrawn : KeysDrawn Db.empty := ⟨fun _ hd => absurd hd List.not_mem_nil,
    fun _ ha => absurd ha List.not_mem_nil, fun _ hr => absurd hr List.not_mem_nil⟩
  have hBills : WardBillable Sample.pairWard 5 20 (Sample.taxConfig 1 20) Db.empty :=
    List.forall_mem_cons.mpr ⟨⟨by decide +kernel, by decide +kernel⟩,
      List.forall_mem_singleton.mpr ⟨by decide +kernel, by decide +kernel⟩⟩
  ⟨by decide +kernel, (@publishForWard_covers_iff Sample.pairWard 5 20 none
    (Sample.taxConfig 1 20) Db.empty hDrawn rfl (by decide)).mpr hBills⟩

/-- The first survey gets its demand, the second stops the call. -/
theorem zone_text_stops_ward :
    wardTaxConfig Sample.typoWard 5 20 = .ok (Sample.taxConfig 1 20) ∧
      (publishForWard Sample.typoWard 5 20 none Db.empty).1.demands.rows.map
        PropertyDemand.surveyId = [10] ∧
      ¬ CoversWard Sample.typoWard 5 20 none Db.empty := by
  refine ⟨rfl, by decide +kernel, fun h => ?_⟩
  obtain ⟨after, counts, hRun, -⟩ := h.covers
  have hStopped : (publishForWard Sample.typoWard 5 20 none Db.empty).2.toOption.isSome = false := by
    decide +kernel
  rw [hRun] at hStopped
  cases hStopped

end PropertyTax
