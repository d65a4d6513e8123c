import PropertyTax.Library.LastWrite
import PropertyTax.PublicPropertyTax.Checkout

/-! The due badges of a page of search rows. The demands and payments of all rows
are loaded at once and joined through maps; the dues page of a survey reads them
for itself. -/
namespace PropertyTax

inductive DueStatus where
  | due | noDue
deriving DecidableEq

structure SearchRow where
  id : Id
  wardId : Id

def Survey.searchRow (survey : Survey) : SearchRow := ⟨survey.id, survey.wardId⟩

/-- The outstanding of a published demand decides; without one, any payment of the
year does. -/
def resolveDueStatus (currentAssessmentYearId : Option Id) (paidAssessmentYearIds : List Id)
    (outstanding : Option ℚ) (hasPublishedDemand : Bool) : DueStatus :=
  match currentAssessmentYearId with
  | none => .due
  | some yearId =>
      if hasPublishedDemand then if outstanding.getD 0 ≤ 0 then .noDue else .due
      else if yearId ∈ paidAssessmentYearIds then .noDue
      else .due

/-- The key of the demand map. -/
def surveyYearKey (surveyId assessmentYearId : Id) : String :=
  toString surveyId ++ ":" ++ toString assessmentYearId

/-- The years a survey has paid; a payment without survey or year is skipped. -/
def addPaidYear (years : Id → Option (List Id)) (payment : Payment) : Id → Option (List Id) :=
  match payment.surveyId, payment.assessmentYearId with
  | some surveyId, some yearId =>
      Function.update years surveyId (some (((years surveyId).getD []).insert yearId))
  | _, _ => years

section Resolve
variable (ctx : Context) (rows : List SearchRow) (db : Db)

def searchWardIds : List Id := (rows.map SearchRow.wardId).eraseDups

def searchPublished : List TaxConfig :=
  ctx.reference.taxConfigs.filter fun c =>
    c.wardId ∈ searchWardIds rows ∧ c.status = .published

/-- `pickLatestPublishedConfig(published.filter((c) => c.wardId === wardId))` -/
def latestOfWard (wardId : Id) : Option TaxConfig :=
  pickLatestPublishedConfig ctx.billing
    ((searchPublished ctx rows).filter fun c => c.wardId = wardId)

def setWardYear (years : Id → Option Id) (wardId : Id) : Id → Option Id :=
  match latestOfWard ctx rows wardId with
  | some latest => Function.update years wardId (some latest.assessmentYear.id)
  | none => years

def yearByWardId : Id → Option Id :=
  (searchWardIds rows).foldl (setWardYear ctx rows) fun _ => none

def searchYearIds : List Id :=
  ((searchWardIds rows).filterMap (yearByWardId ctx rows)).eraseDups

def searchDemands : List PropertyDemand :=
  if searchYearIds ctx rows = [] then []
  else db.demands.rows.filter fun d =>
    d.surveyId ∈ rows.map SearchRow.id ∧ d.assessmentYearId ∈ searchYearIds ctx rows ∧
      d.status = .published

/-- The outstanding of each published demand, under its survey and year. -/
def demandBySurveyYear : String → Option ℚ :=
  LastWrite.writeAll (fun d : PropertyDemand => surveyYearKey d.surveyId d.assessmentYearId)
    (fun d => toMoney d.outstanding) (fun _ => none) (searchDemands ctx rows db)

def searchPayments : List Payment :=
  if searchYearIds ctx rows = [] then []
  else db.payments.rows.filter fun p =>
    (∃ surveyId ∈ p.surveyId, surveyId ∈ rows.map SearchRow.id) ∧ p.status = .success ∧
      ∃ yearId ∈ p.assessmentYearId, yearId ∈ searchYearIds ctx rows

def paidYearsBySurvey : Id → Option (List Id) :=
  (searchPayments ctx rows db).foldl addPaidYear fun _ => none

def rowDueStatus (row : SearchRow) : DueStatus :=
  let yearId := yearByWardId ctx rows row.wardId
  let demand := yearId.bind fun yearId =>
    demandBySurveyYear ctx rows db (surveyYearKey row.id yearId)
  resolveDueStatus yearId ((paidYearsBySurvey ctx rows db row.id).getD []) demand demand.isSome

/-- The status of each row, by the id of its survey. -/
def resolveSearchDueStatuses : Id → Option DueStatus :=
  LastWrite.writeAll SearchRow.id (rowDueStatus ctx rows db) (fun _ => none) rows

end Resolve

/-! ### The maps, looked up -/

theorem surveyYearKey_inj {surveyId yearId surveyId' yearId' : Id} :
    surveyYearKey surveyId yearId = surveyYearKey surveyId' yearId' ↔
      surveyId = surveyId' ∧ yearId = yearId' := by
  have hColon : ∀ n : Nat, ':' ∉ Nat.toDigits 10 n := fun n h =>
    absurd (Nat.isDigit_of_mem_toDigits (by decide) (by decide) h) (by decide)
  have hDigits : ∀ m n : Nat, Nat.toDigits 10 m = Nat.toDigits 10 n ↔ m = n := by
    intro m n
    refine ⟨fun h => ?_, fun h => h ▸ rfl⟩
    rw [← Nat.ofDigitChars_ten_toDigits (n := m), h, Nat.ofDigitChars_ten_toDigits]
  have hText : ∀ m n : Nat, (surveyYearKey m n).toList =
      Nat.toDigits 10 m ++ ':' :: Nat.toDigits 10 n := by
    intro m n
    simp [surveyYearKey]
  rw [← String.toList_inj, hText, hText, Js.append_separator_inj (hColon _) (hColon _), hDigits,
    hDigits]

/-- A survey's paid years are those before and those of the payments. -/
theorem foldl_addPaidYear (payments : List Payment) (years : Id → Option (List Id))
    (surveyId yearId : Id) :
    yearId ∈ ((payments.foldl addPaidYear years) surveyId).getD [] ↔
      yearId ∈ (years surveyId).getD [] ∨
        ∃ p ∈ payments, p.surveyId = some surveyId ∧ p.assessmentYearId = some yearId := by
  induction payments generalizing years with
  | nil => simp
  | cons p rest ih =>
      rw [List.foldl_cons, ih]
      have hStep : yearId ∈ ((addPaidYear years p) surveyId).getD [] ↔
          yearId ∈ (years surveyId).getD [] ∨
            p.surveyId = some surveyId ∧ p.assessmentYearId = some yearId := by
        unfold addPaidYear
        cases hSurvey : p.surveyId with
        | none => simp
        | some own =>
            cases hYear : p.assessmentYearId with
            | none => simp
            | some paid =>
                by_cases hOwn : own = surveyId
                · subst hOwn
                  simp [or_comm, eq_comm]
                · have hOther : surveyId ≠ own := fun h => hOwn h.symm
                  simp [Function.update_of_ne hOther, hOwn]
      rw [hStep, or_assoc]
      simp only [List.mem_cons, exists_eq_or_imp]

section Lookup
variable {ctx : Context} {rows : List SearchRow} {db : Db} {wardId surveyId yearId : Id}

/-- The wards of the search are those of its rows. -/
theorem mem_searchWardIds {row : SearchRow} (h : row ∈ rows) : row.wardId ∈ searchWardIds rows :=
  List.mem_eraseDups.mpr (List.mem_map_of_mem h)

/-- For a ward of the search, its latest published configuration is found. -/
theorem latestOfWard_eq (h : wardId ∈ searchWardIds rows) :
    latestOfWard ctx rows wardId = latestPublishedConfig ctx wardId := by
  rw [latestOfWard, searchPublished, List.filter_filter, latestPublishedConfig]
  congr 1
  refine List.filter_congr fun config _ => ?_
  by_cases hWard : config.wardId = wardId
  · simp [hWard, h]
  · simp [hWard]

/-- The year of a ward is that of its latest published configuration. -/
theorem yearByWardId_eq (h : wardId ∈ searchWardIds rows) :
    yearByWardId ctx rows wardId =
      (latestPublishedConfig ctx wardId).map fun config => config.assessmentYear.id := by
  have hFold : ∀ (wardIds : List Id) (years : Id → Option Id),
      (wardIds.foldl (setWardYear ctx rows) years) wardId =
        if wardId ∈ wardIds then
          ((latestOfWard ctx rows wardId).map fun config => config.assessmentYear.id).or
            (years wardId)
        else years wardId := by
    intro wardIds
    induction wardIds with
    | nil => exact fun years => rfl
    | cons first rest ih =>
        intro years
        rw [List.foldl_cons, ih, setWardYear]
        by_cases hFirst : wardId = first
        · subst hFirst
          cases latestOfWard ctx rows wardId <;> simp
        · cases latestOfWard ctx rows first <;> simp [hFirst]
  rw [yearByWardId, hFold, if_pos h, latestOfWard_eq h, Option.or_none]

/-- The years of the search are those of its wards. -/
theorem mem_searchYearIds (h : wardId ∈ searchWardIds rows)
    (hYear : yearByWardId ctx rows wardId = some yearId) : yearId ∈ searchYearIds ctx rows :=
  List.mem_eraseDups.mpr (List.mem_filterMap.mpr ⟨wardId, h, hYear⟩)

variable (hSurvey : surveyId ∈ rows.map SearchRow.id) (hYear : yearId ∈ searchYearIds ctx rows)
include hSurvey hYear

/-- The demands of the search are the published ones of its surveys and years. -/
theorem mem_searchDemands {d : PropertyDemand} (hSurveyId : d.surveyId = surveyId)
    (hYearId : d.assessmentYearId = yearId) :
    d ∈ searchDemands ctx rows db ↔ d ∈ db.demands.rows ∧ d.status = .published := by
  rw [searchDemands, if_neg (List.ne_nil_of_mem hYear), List.mem_filter, decide_eq_true_eq,
    hSurveyId, hYearId]
  exact and_congr_right fun _ => and_iff_right hSurvey |>.trans (and_iff_right hYear)

variable (db) in
/-- The map has the outstanding of the one published demand of a survey and year. -/
theorem demandBySurveyYear_eq :
    demandBySurveyYear ctx rows db (surveyYearKey surveyId yearId) =
      ((db.demandFor? surveyId yearId).filter fun d => d.status = .published).map
        fun d => toMoney d.outstanding := by
  have hOnly : ∀ d ∈ searchDemands ctx rows db,
      surveyYearKey d.surveyId d.assessmentYearId = surveyYearKey surveyId yearId →
        db.demandFor? surveyId yearId = some d ∧ d.status = .published := by
    intro d hd hKey
    obtain ⟨hSurveyId, hYearId⟩ := surveyYearKey_inj.mp hKey
    obtain ⟨hStored, hStatus⟩ := (mem_searchDemands hSurvey hYear hSurveyId hYearId).mp hd
    refine ⟨?_, hStatus⟩
    cases hFound : db.demandFor? surveyId yearId with
    | none => exact absurd hYearId (Db.demandFor?_eq_none hFound d hStored hSurveyId)
    | some other =>
        obtain ⟨hOther, hOtherSurvey, hOtherYear⟩ := Db.demandFor?_spec hFound
        have hClash : KeyedRow.clash other d = true := by
          simp [KeyedRow.clash, hOtherSurvey, hOtherYear, hSurveyId, hYearId]
        rw [KeyedTable.eq_of_clash hOther hStored hClash]
  by_cases hPublished : ∃ d, db.demandFor? surveyId yearId = some d ∧ d.status = .published
  · obtain ⟨d, hFound, hStatus⟩ := hPublished
    obtain ⟨hStored, hSurveyId, hYearId⟩ := Db.demandFor?_spec hFound
    have hMem := (mem_searchDemands hSurvey hYear hSurveyId hYearId).mpr ⟨hStored, hStatus⟩
    have hShown : demandBySurveyYear ctx rows db (surveyYearKey surveyId yearId) =
        some (toMoney d.outstanding) := by
      apply LastWrite.writeAll_of_exists _
        ⟨d, hMem, surveyYearKey_inj.mpr ⟨hSurveyId, hYearId⟩⟩
      intro other hOther hKey
      obtain ⟨hSame, -⟩ := hOnly other hOther hKey
      rw [Option.some.inj (hSame.symm.trans hFound)]
    rw [hFound, Option.filter_some, if_pos (decide_eq_true hStatus)]
    exact hShown
  · have hNone : ∀ d ∈ searchDemands ctx rows db,
        surveyYearKey d.surveyId d.assessmentYearId ≠ surveyYearKey surveyId yearId :=
      fun d hd hKey => hPublished ⟨d, hOnly d hd hKey⟩
    have hFiltered : (db.demandFor? surveyId yearId).filter (fun d => d.status = .published) =
        none := by
      refine Option.filter_eq_none_iff.mpr fun d hFound hStatus => hPublished ⟨d, hFound, ?_⟩
      exact of_decide_eq_true hStatus
    rw [hFiltered, demandBySurveyYear, LastWrite.writeAll_of_forall_ne _ hNone]
    rfl

variable (db) in
/-- The year is among those of a survey when a payment of it succeeded. -/
theorem mem_paidYearsBySurvey :
    yearId ∈ (paidYearsBySurvey ctx rows db surveyId).getD [] ↔
      0 < countSuccessfulPaymentsForYear surveyId yearId db := by
  have hPayment : ∀ p : Payment, (p ∈ searchPayments ctx rows db ∧ p.surveyId = some surveyId ∧
      p.assessmentYearId = some yearId) ↔
        p ∈ db.payments.rows ∧ p.paidFor surveyId yearId = true := by
    intro p
    rw [searchPayments, if_neg (List.ne_nil_of_mem hYear), List.mem_filter, decide_eq_true_eq,
      Payment.paidFor, decide_eq_true_eq]
    constructor
    · rintro ⟨⟨hStored, -, hStatus, -⟩, hSurveyId, hYearId⟩
      exact ⟨hStored, hSurveyId, hYearId, hStatus⟩
    · rintro ⟨hStored, hSurveyId, hYearId, hStatus⟩
      exact ⟨⟨hStored, ⟨surveyId, hSurveyId, hSurvey⟩, hStatus, yearId, hYearId, hYear⟩, hSurveyId,
        hYearId⟩
  rw [paidYearsBySurvey, foldl_addPaidYear, countSuccessfulPaymentsForYear,
    List.length_pos_iff_exists_mem, or_iff_right (by simp)]
  exact exists_congr fun p => (hPayment p).trans List.mem_filter.symm

end Lookup

/-! ### The page of results -/

section Page
variable {ctx : Context} {db : Db} {page : List Survey} {survey : Survey}

/-- Both decide by the outstanding of a published demand, else by the payments. -/
theorem resolveDueStatus_eq_noDue_iff {yearId : Id} {paid : List Id} {count : Nat}
    (published : Option PropertyDemand) (hPaid : yearId ∈ paid ↔ 0 < count) :
    resolveDueStatus (some yearId) paid (published.map fun d => toMoney d.outstanding)
        (published.map fun d => toMoney d.outstanding).isSome = .noDue ↔
      isAlreadyPaidForYear (if published.isSome then 0 else count) published = true := by
  cases published with
  | none =>
      simp only [resolveDueStatus, isAlreadyPaidForYear, Option.map_none, Option.isSome_none,
        Bool.false_eq_true, if_false, decide_eq_true_eq, hPaid]
      split_ifs with h <;> simp [h]
  | some d =>
      simp only [resolveDueStatus, isAlreadyPaidForYear, Option.map_some, Option.isSome_some,
        if_true, Option.getD_some, decide_eq_true_eq]
      split_ifs with h <;> simp [h]

/-- A row shows what the dues page of its survey would find. -/
theorem rowDueStatus_eq_noDue_iff (hSurvey : survey ∈ page)
    (hActive : ctx.reference.activeSurvey? survey.id = some survey) :
    rowDueStatus ctx (page.map Survey.searchRow) db survey.searchRow = .noDue ↔
      ∃ dues, getDues ctx (some survey.id) db = .ok dues ∧ dues.paidForAssessmentYear = true := by
  have hRow : survey.searchRow ∈ page.map Survey.searchRow := List.mem_map_of_mem hSurvey
  have hWard : survey.wardId ∈ searchWardIds (page.map Survey.searchRow) := mem_searchWardIds hRow
  have hId : survey.searchRow.id ∈ (page.map Survey.searchRow).map SearchRow.id :=
    List.mem_map_of_mem hRow
  have hYear : yearByWardId ctx (page.map Survey.searchRow) survey.searchRow.wardId =
      (latestPublishedConfig ctx survey.wardId).map fun config => config.assessmentYear.id :=
    yearByWardId_eq hWard
  cases hConfig : latestPublishedConfig ctx survey.wardId with
  | none =>
      rw [hConfig, Option.map_none] at hYear
      simp [rowDueStatus, hYear, resolveDueStatus, getDues, hActive, hConfig]
  | some config =>
      rw [hConfig, Option.map_some] at hYear
      have hMem := mem_searchYearIds hWard hYear
      have hDemand := demandBySurveyYear_eq db hId hMem
      have hPaid := mem_paidYearsBySurvey db hId hMem
      simp only [rowDueStatus, hYear, Option.bind_some, hDemand, getDues, hActive, hConfig,
        Except.ok.injEq, exists_eq_left']
      exact resolveDueStatus_eq_noDue_iff _ hPaid

/-- Every row of a page gets a status. -/
theorem resolveSearchDueStatuses_eq
    (hPage : ∀ survey ∈ page, ctx.reference.activeSurvey? survey.id = some survey)
    (hSurvey : survey ∈ page) :
    resolveSearchDueStatuses ctx (page.map Survey.searchRow) db survey.id =
      some (rowDueStatus ctx (page.map Survey.searchRow) db survey.searchRow) := by
  apply LastWrite.writeAll_of_exists _ ⟨_, List.mem_map_of_mem hSurvey, rfl⟩
  intro row hRow hSame
  obtain ⟨other, hOther, rfl⟩ := List.mem_map.mp hRow
  have hId : other.id = survey.id := hSame
  have hFound := hPage other hOther
  rw [hId, hPage survey hSurvey] at hFound
  rw [Option.some.inj hFound]

end Page

end PropertyTax
