import PropertyTax.PublicPropertyTax.MobileSecrecy
import PropertyTax.Surveys.ListPages

/-! Turning the pages of the public search. Its order leaves no two records tied, so the
pages are pieces of one list, and a record has the same badge on whatever page it is. -/
namespace PropertyTax.PublicSite
open KeyedTable Pages
open Surveys (Text TextColumn)

/-! ### Badges -/

/-- The badge of a record by itself. -/
def dueStatusOf (ctx : Context) (db : Db) (row : SearchRow) : DueStatus :=
  match latestPublishedConfig ctx row.wardId with
  | none => .due
  | some config =>
      let yearId := config.assessmentYear.id
      let published := (db.demandFor? row.id yearId).filter fun d => d.status = .published
      let count := countSuccessfulPaymentsForYear row.id yearId db
      if isAlreadyPaidForYear (if published.isSome then 0 else count) published then .noDue
      else .due

section Badges
variable {ctx : Context} {db : Db} {rows : List SearchRow} {row : SearchRow}

/-- A row's due status is that of its survey. -/
theorem rowDueStatus_eq (hRow : row ∈ rows) :
    rowDueStatus ctx rows db row = dueStatusOf ctx db row := by
  have hWard := mem_searchWardIds hRow
  have hYear := @yearByWardId_eq ctx _ _ hWard
  have hId : row.id ∈ rows.map SearchRow.id := List.mem_map_of_mem hRow
  unfold dueStatusOf
  cases hConfig : latestPublishedConfig ctx row.wardId with
  | none =>
      rw [hConfig, Option.map_none] at hYear
      simp [rowDueStatus, hYear, resolveDueStatus]
  | some config =>
      rw [hConfig, Option.map_some] at hYear
      have hMem := mem_searchYearIds hWard hYear
      have hIff := resolveDueStatus_eq_noDue_iff
        ((db.demandFor? row.id config.assessmentYear.id).filter fun d => d.status = .published)
        (mem_paidYearsBySurvey db hId hMem)
      simp only [rowDueStatus, hYear, Option.bind_some, demandBySurveyYear_eq db hId hMem]
      generalize (db.demandFor? row.id config.assessmentYear.id).filter
        (fun d => d.status = .published) = published at hIff ⊢
      by_cases hPaid : isAlreadyPaidForYear (if published.isSome then 0 else
          countSuccessfulPaymentsForYear row.id config.assessmentYear.id db) published = true
      · rw [if_pos hPaid]
        exact hIff.mpr hPaid
      · rw [if_neg hPaid]
        have hNot := fun h => hPaid (hIff.mp h)
        generalize resolveDueStatus _ _ _ _ = status at hNot ⊢
        cases status with
        | due => rfl
        | noDue => exact absurd rfl hNot

/-- On any page of distinct surveys. -/
theorem resolveSearchDueStatuses_of_mem (hNodup : (rows.map SearchRow.id).Nodup)
    (hRow : row ∈ rows) :
    resolveSearchDueStatuses ctx rows db row.id = some (dueStatusOf ctx db row) := by
  rw [← rowDueStatus_eq hRow]
  apply LastWrite.writeAll_of_exists _ ⟨row, hRow, rfl⟩
  intro other hOther hSame
  rw [List.inj_on_of_nodup_map hNodup hOther hRow hSame]

end Badges

/-! ### Pages -/

/-- The site while its surveys are kept in another order. -/
def Site.rearranged (site : Site) (surveys : KeyedTable Surveys.Survey) : Site :=
  { site with surveys := { site.surveys with surveys } }

/-- A record as every page that shows it does. -/
def itemOf (site : Site) (survey : Surveys.Survey) : ResultItem :=
  resultItem site (fun _ => some (dueStatusOf site.context site.ledger (searchRow survey))) survey

/-- The rows of a page; a refused search has none. -/
def searchItems (site : Site) (query : SearchQuery) : List ResultItem :=
  match search site query with
  | .ok page => page.items
  | .error _ => []

/-- The filter depends neither on the arrangement nor on the page. -/
theorem buildWhere_rearranged (site : Site) (surveys : KeyedTable Surveys.Survey)
    (query : SearchQuery) (page : Option Nat) :
    buildWhere (site.rearranged surveys) { query with page } = buildWhere site query := by
  simp only [buildWhere, wardByNumber?, Site.rearranged, SearchQuery.owner,
    SearchQuery.ownerMobile]

section Turned
variable {site : Site} {query : SearchQuery} {filter : Surveys.Survey → Bool}

theorem found_nodup (site : Site) (filter : Surveys.Survey → Bool) :
    ((found site filter).map Surveys.Survey.id).Nodup := by
  rw [List.nodup_iff_pairwise_ne, List.pairwise_map]
  refine (site.surveys.surveys.apart.filter _).imp fun {s t} hApart hId => ?_
  rw [KeyedRow.clash_of_key s t hId] at hApart
  cases hApart

/-- The items of a search are one page of those found. -/
theorem searchItems_eq (hWhere : buildWhere site query = .ok filter) :
    searchItems site query =
      (page (searchOrder site) (min (query.pageSize.getD 10) 20) (query.page.getD 1 - 1)
        (found site filter)).map (itemOf site) := by
  simp only [searchItems, search, hWhere]
  rw [← page]
  refine List.map_congr_left fun survey hSurvey => ?_
  have hSub : (page (searchOrder site) (min (query.pageSize.getD 10) 20)
      (query.page.getD 1 - 1) (found site filter)).Sublist
        ((found site filter).mergeSort (searchOrder site)) :=
    (List.take_sublist _ _).trans (List.drop_sublist _ _)
  have hNodup := (hSub.map Surveys.Survey.id).nodup
    (((List.mergeSort_perm _ _).map Surveys.Survey.id).nodup_iff.mpr (found_nodup site filter))
  have hRows : (((page (searchOrder site) (min (query.pageSize.getD 10) 20)
      (query.page.getD 1 - 1) (found site filter)).map searchRow).map SearchRow.id).Nodup := by
    rw [List.map_map]
    exact hNodup
  have hStatus := @resolveSearchDueStatuses_of_mem site.context site.ledger _ _ hRows
    (List.mem_map_of_mem hSurvey)
  change resolveSearchDueStatuses _ _ _ survey.id = _ at hStatus
  simp only [itemOf, resultItem, hStatus, Option.getD_some]

/-- No two records have one Survey Id. -/
theorem searchOrder_apart (hEnv : site.env.Collates) (filter : Surveys.Survey → Bool) :
    Apart (searchOrder site) (found site filter) := by
  intro s hs t ht hst hts
  have hTied := Surveys.lexicographic_tied.mp ⟨hst, hts⟩
  have hIds := (Surveys.SortBy.tied hEnv .surveyId s t).mp (hTied _ (.tail _ (.head _)))
  refine eq_of_clash (List.mem_filter.mp hs).1 (List.mem_filter.mp ht).1 ?_
  simp [KeyedRow.clash, show s.surveyId = t.surveyId from hIds]

/-- The search order is an order on surveys. -/
theorem ranks_searchOrder (hEnv : site.env.Collates) : Ranks (searchOrder site) :=
  Surveys.ranks_lexicographic (List.forall_mem_cons.mpr
    ⟨Surveys.ranks_map (Surveys.SurveysService.wardNumberOf site.env)
      (Surveys.ranks_nullsLast Surveys.ranks_le),
      List.forall_mem_singleton.mpr (Surveys.SortBy.ranks hEnv .surveyId)⟩)

end Turned

/-- The pages of a search, each read while the surveys are kept in an order of its own,
are the pieces of one list, in which every record of the search stands once. -/
theorem search_pages_of_one_list {site : Site} (hEnv : site.env.Collates) {query : SearchQuery}
    {filter : Surveys.Survey → Bool} (hWhere : buildWhere site query = .ok filter)
    {tables : Nat → KeyedTable Surveys.Survey}
    (hTables : ∀ k, (tables k).rows.Perm site.surveys.surveys.rows) (n : Nat) :
    ((List.range n).flatMap fun k =>
        searchItems (site.rearranged (tables k)) { query with page := some (k + 1) }) =
      (((found site filter).mergeSort (searchOrder site)).map (itemOf site)).take
        (n * min (query.pageSize.getD 10) 20) ∧
    (((found site filter).mergeSort (searchOrder site)).map (itemOf site)).Perm
      ((found site filter).map (itemOf site)) ∧
    ∀ k, ∃ page, search (site.rearranged (tables k)) { query with page := some (k + 1) } =
      .ok page ∧ page.total = (found site filter).length := by
  have hWhere' : ∀ k, buildWhere (site.rearranged (tables k)) { query with page := some (k + 1) } =
      .ok filter := fun k => (buildWhere_rearranged ..).trans hWhere
  have hFound : ∀ k, (found (site.rearranged (tables k)) filter).Perm (found site filter) :=
    fun k => (hTables k).filter _
  refine ⟨?_, (List.mergeSort_perm _ _).map _, fun k => ?_⟩
  · have hPages : ∀ k, searchItems (site.rearranged (tables k)) { query with page := some (k + 1) } =
        (page (searchOrder site) (min (query.pageSize.getD 10) 20) k
          (found (site.rearranged (tables k)) filter)).map (itemOf site) := fun k => by
      rw [searchItems_eq (hWhere' k)]
      rfl
    rw [← List.map_take, ← turn_eq (ranks_searchOrder hEnv) (searchOrder_apart hEnv filter) hFound,
      turn, List.map_flatMap]
    exact congrArg (fun pages => (List.range n).flatMap pages) (funext hPages)
  · refine ⟨_, by simp only [search, hWhere' k]; rfl, ?_⟩
    exact (hFound k).length_eq

namespace Sample

def collatedSite : Site := { listedSite with env := Surveys.Sample.collatedWard }

def wardQuery : SearchQuery := { mode := .ward, wardNumber := some 1 }

end Sample

/-- The page behind the only one of the first ward. -/
theorem search_pages_of_one_list_ward :
    ∃ page, search (Sample.collatedSite.rearranged Sample.collatedSite.surveys.surveys)
      { Sample.wardQuery with page := some 2 } = .ok page ∧ page.total = 1 := by
  obtain ⟨-, -, hTotals⟩ := @search_pages_of_one_list Sample.collatedSite
    Surveys.Sample.collatedWard_collates Sample.wardQuery
    (wardWhere Surveys.Sample.collatedWard 1 none) rfl
    (fun _ => Sample.collatedSite.surveys.surveys) (fun _ => .refl _) 2
  obtain ⟨page, hPage, hTotal⟩ := hTotals 1
  exact ⟨page, hPage, hTotal.trans (by decide)⟩

end PropertyTax.PublicSite
