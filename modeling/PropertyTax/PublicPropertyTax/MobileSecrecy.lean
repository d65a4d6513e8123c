import PropertyTax.Library.Visits
import PropertyTax.PublicPropertyTax.Search

/-! What the citizen website tells of a mobile number. Its pages show two digits at the
front and four at the end; beyond these a visitor learns a number only by naming it. -/
namespace PropertyTax.PublicSite
open KeyedTable Visits
open Surveys (Text TextColumn)

/-! ### What a mask shows -/

/-- Numbers that look the same once masked. -/
def ShownAlike (mobile mobile' : Option Text) : Prop :=
  let digits := normalizeMobileDigits (mobile.getD [])
  let digits' := normalizeMobileDigits (mobile'.getD [])
  digits.length < 6 ∧ digits'.length < 6 ∨
    6 ≤ digits.length ∧ 6 ≤ digits'.length ∧ digits.take 2 = digits'.take 2 ∧
      lastDigits 4 digits = lastDigits 4 digits'

/-- The mask shows two digits and the last four, or nothing. -/
theorem maskMobile_eq (mobile : Option Text) :
    maskMobile mobile =
      if (normalizeMobileDigits (mobile.getD [])).length < 6 then "—****—".toList
      else (normalizeMobileDigits (mobile.getD [])).take 2 ++ "****".toList ++
        lastDigits 4 (normalizeMobileDigits (mobile.getD [])) := by
  unfold maskMobile
  generalize normalizeMobileDigits (mobile.getD []) = digits
  dsimp only
  split_ifs with hShort hTen
  · rfl
  · rfl
  · have hHead : min 2 digits.length = 2 := by omega
    have hTail : min 4 (max 0 (digits.length - 2)) = 4 := by omega
    rw [hHead, hTail]

/-- The mask shows nothing else, and all of this. -/
theorem maskMobile_eq_iff (mobile mobile' : Option Text) :
    maskMobile mobile = maskMobile mobile' ↔ ShownAlike mobile mobile' := by
  rw [maskMobile_eq, maskMobile_eq, ShownAlike]
  have hDigit : ∀ mobile : Option Text, ∀ c ∈ normalizeMobileDigits (mobile.getD []), c ≠ '—' := by
    rintro mobile c hc rfl
    exact absurd (List.mem_filter.mp hc).2 (by decide)
  have hFirst := hDigit mobile
  have hFirst' := hDigit mobile'
  generalize normalizeMobileDigits (mobile.getD []) = digits at hFirst ⊢
  generalize normalizeMobileDigits (mobile'.getD []) = digits' at hFirst' ⊢
  have hNoDash : ∀ digits : Text, (∀ c ∈ digits, c ≠ '—') → 6 ≤ digits.length →
      digits.take 2 ++ "****".toList ++ lastDigits 4 digits ≠ "—****—".toList := by
    intro digits hDigits hLong hSame
    cases digits with
    | nil => exact absurd hLong (by decide)
    | cons c rest =>
        have hHead := congrArg List.head? hSame
        simp only [List.take_succ_cons, List.cons_append, List.head?_cons] at hHead
        exact hDigits c List.mem_cons_self (Option.some.inj hHead)
  by_cases hShort : digits.length < 6
  · by_cases hShort' : digits'.length < 6
    · simp [hShort, hShort']
    · have hLong' := Nat.not_lt.mp hShort'
      simp only [if_pos hShort, if_neg hShort']
      refine ⟨fun h => absurd h.symm (hNoDash _ hFirst' hLong'), ?_⟩
      rintro (⟨-, h⟩ | ⟨h, -⟩) <;> omega
  · by_cases hShort' : digits'.length < 6
    · have hLong := Nat.not_lt.mp hShort
      simp only [if_neg hShort, if_pos hShort']
      refine ⟨fun h => absurd h (hNoDash _ hFirst hLong), ?_⟩
      rintro (⟨h, -⟩ | ⟨-, h, -⟩) <;> omega
    · have hLong := Nat.not_lt.mp hShort
      have hLong' := Nat.not_lt.mp hShort'
      have hTake : (digits.take 2).length = (digits'.take 2).length := by
        rw [List.length_take, List.length_take]
        omega
      simp only [if_neg hShort, if_neg hShort', List.append_assoc]
      constructor
      · intro h
        obtain ⟨hHead, hRest⟩ := List.append_inj h hTake
        exact .inr ⟨hLong, hLong', hHead, List.append_cancel_left hRest⟩
      · rintro (⟨h, -⟩ | ⟨-, -, hHead, hTail⟩)
        · exact absurd h hShort
        · rw [hHead, hTail]

/-! ### Another number -/

def withMobile (mobile : Option Text) (survey : Surveys.Survey) : Surveys.Survey :=
  { survey with text := Function.update survey.text .mobile mobile }

/-- The survey with a given id gets another number. -/
def changeMobile (id : Id) (mobile : Option Text) (survey : Surveys.Survey) : Surveys.Survey :=
  if survey.id = id then withMobile mobile survey else survey

section Change
variable {id : Id} {mobile : Option Text} {survey other : Surveys.Survey}

/-- Nothing but the number is another one. -/
theorem changeMobile_cases (P : Surveys.Survey → Prop) (hWith : P (withMobile mobile survey))
    (hSame : P survey) : P (changeMobile id mobile survey) := by
  unfold changeMobile
  split_ifs
  · exact hWith
  · exact hSame

@[simp] theorem changeMobile_id : (changeMobile id mobile survey).id = survey.id :=
  changeMobile_cases (fun s => s.id = survey.id) rfl rfl

@[simp] theorem changeMobile_surveyId :
    (changeMobile id mobile survey).surveyId = survey.surveyId :=
  changeMobile_cases (fun s => s.surveyId = survey.surveyId) rfl rfl

@[simp] theorem changeMobile_wardId : (changeMobile id mobile survey).wardId = survey.wardId :=
  changeMobile_cases (fun s => s.wardId = survey.wardId) rfl rfl

@[simp] theorem changeMobile_propertyNo :
    (changeMobile id mobile survey).propertyNo = survey.propertyNo :=
  changeMobile_cases (fun s => s.propertyNo = survey.propertyNo) rfl rfl

@[simp] theorem changeMobile_parcelNo :
    (changeMobile id mobile survey).parcelNo = survey.parcelNo :=
  changeMobile_cases (fun s => s.parcelNo = survey.parcelNo) rfl rfl

@[simp] theorem isPublic_changeMobile :
    isPublic (changeMobile id mobile survey) = isPublic survey :=
  changeMobile_cases (fun s => isPublic s = isPublic survey) rfl rfl

/-- The other columns stay. -/
theorem changeMobile_text {column : TextColumn} (h : column ≠ .mobile) :
    (changeMobile id mobile survey).text column = survey.text column :=
  changeMobile_cases (fun s => s.text column = survey.text column)
    (Function.update_of_ne h _ _) rfl

theorem changeMobile_self : (changeMobile survey.id mobile survey).text .mobile = mobile := by
  rw [changeMobile, if_pos rfl]
  exact Function.update_self TextColumn.mobile mobile survey.text

theorem changeMobile_of_ne (h : survey.id ≠ id) : changeMobile id mobile survey = survey :=
  if_neg h

end Change

def Site.withMobile (site : Site) (id : Id) (mobile : Option Text) : Site :=
  { site with
    surveys := { site.surveys with
      surveys := site.surveys.surveys.mapRows (changeMobile id mobile) fun p q => by
        simp only [KeyedRow.clash, changeMobile_id, changeMobile_surveyId] } }

@[simp] theorem withMobile_context (site : Site) (id : Id) (mobile : Option Text) :
    (site.withMobile id mobile).context = site.context := rfl

@[simp] theorem withMobile_ledger (site : Site) (id : Id) (mobile : Option Text) :
    (site.withMobile id mobile).ledger = site.ledger := rfl

@[simp] theorem withMobile_env (site : Site) (id : Id) (mobile : Option Text) :
    (site.withMobile id mobile).env = site.env := rfl

@[simp] theorem withMobile_activeWards (site : Site) (id : Id) (mobile : Option Text) :
    (site.withMobile id mobile).activeWards = site.activeWards := rfl

/-- The search filter does not look at the number. -/
theorem buildWhere_withMobile (site : Site) (id : Id) (mobile : Option Text)
    (query : SearchQuery) :
    buildWhere (site.withMobile id mobile) query = buildWhere site query := by
  simp only [buildWhere, wardByNumber?, withMobile_env, withMobile_activeWards]

/-- An owner search that names the survey: a part of its owner's name, and in full the
number it has or the other one. -/
def Names (env : Surveys.Env) (survey : Surveys.Survey) (mobile' : Option Text) :
    PublicRequest → Prop
  | .search query =>
      query.mode = .owner ∧ assertOwnerSearchInput query.owner query.ownerMobile = none ∧
        isPublic survey = true ∧
        Surveys.SurveysService.containsInsensitive env query.owner (survey.text .ownerName) =
          true ∧
        (survey.text .mobile = some (normalizeMobileDigits query.ownerMobile) ∨
          mobile' = some (normalizeMobileDigits query.ownerMobile))
  | .dues _ => False

section Pages
variable {site : Site} {survey : Surveys.Survey} {mobile' : Option Text}

/-- The rows of a result in the site with the other number. -/
theorem found_withMobile {filter : Surveys.Survey → Bool}
    (h : ∀ s ∈ site.surveys.surveys.rows, isPublic s = true →
      filter (changeMobile survey.id mobile' s) = filter s) :
    found (site.withMobile survey.id mobile') filter =
      (found site filter).map (changeMobile survey.id mobile') := by
  unfold found
  change (site.surveys.surveys.rows.map _).filter _ = _
  rw [List.filter_map]
  congr 1
  refine List.filter_congr fun s hs => ?_
  simp only [Function.comp_apply, isPublic_changeMobile]
  cases hPublic : isPublic s with
  | false => rfl
  | true => rw [h s hs hPublic]

/-- A number shown alike is masked alike. -/
theorem maskMobile_changeMobile {s : Surveys.Survey} (hStored : survey ∈ site.surveys.surveys.rows)
    (hs : s ∈ site.surveys.surveys.rows) (hShown : ShownAlike (survey.text .mobile) mobile') :
    maskMobile ((changeMobile survey.id mobile' s).text .mobile) = maskMobile (s.text .mobile) := by
  by_cases hId : s.id = survey.id
  · obtain rfl : s = survey := eq_of_key hs hStored hId
    rw [changeMobile_self]
    exact ((maskMobile_eq_iff _ _).mpr hShown).symm
  · rw [changeMobile_of_ne hId]

/-- The order of the results does not look at the number. -/
theorem searchOrder_changeMobile (s t : Surveys.Survey) :
    searchOrder (site.withMobile survey.id mobile') (changeMobile survey.id mobile' s)
      (changeMobile survey.id mobile' t) = searchOrder site s t := by
  simp only [searchOrder, Surveys.SurveysService.lexicographic, Surveys.SurveysService.wardLe,
    Surveys.SurveysService.wardNumberOf, Surveys.SurveysService.SortBy.le, Site.withMobile,
    changeMobile_wardId, changeMobile_surveyId]
  rfl

/-- The tax does not depend on the number. -/
theorem payload_withMobile (s : Surveys.Survey) (config : TaxConfig) :
    computePublicDuesPayload (billedSurvey (site.withMobile survey.id mobile')
      (changeMobile survey.id mobile' s)) config =
        computePublicDuesPayload (billedSurvey site s) config := by
  refine changeMobile_cases (fun t => computePublicDuesPayload
    (billedSurvey (site.withMobile survey.id mobile') t) config = _) ?_ rfl
  rfl

/-- One more row that meets the condition, or one less. -/
theorem countP_ne {rows : List Surveys.Survey} (hNodup : rows.Nodup) (hMem : survey ∈ rows)
    {p q : Surveys.Survey → Bool} (hOthers : ∀ s ∈ rows, s ≠ survey → p s = q s)
    (hSelf : p survey ≠ q survey) : rows.countP p ≠ rows.countP q := by
  obtain ⟨front, back, rfl⟩ := List.append_of_mem hMem
  have hApart := List.nodup_middle.mp hNodup
  have hNotMem : survey ∉ front ++ back := (List.nodup_cons.mp hApart).1
  have hPart : ∀ part, part ⊆ front ++ back → part.countP p = part.countP q := by
    intro part hPart
    refine List.countP_congr fun s hs => ?_
    have hs' := hPart hs
    rw [hOthers s (by simp only [List.mem_append, List.mem_cons] at hs' ⊢; tauto)
      fun hSame => hNotMem (hSame ▸ hs')]
  rw [List.countP_append, List.countP_append, List.countP_cons, List.countP_cons,
    hPart front (List.subset_append_left ..), hPart back (List.subset_append_right ..)]
  cases hp : p survey <;> cases hq : q survey <;> simp_all

variable (hStored : survey ∈ site.surveys.surveys.rows)
  (hShown : ShownAlike (survey.text .mobile) mobile')
include hStored hShown

/-- A number shown alike gives the same search result. -/
theorem resultItem_changeMobile (status : Id → Option DueStatus) {s : Surveys.Survey}
    (hs : s ∈ site.surveys.surveys.rows) :
    resultItem (site.withMobile survey.id mobile') status (changeMobile survey.id mobile' s) =
      resultItem site status s := by
  simp only [resultItem, maskMobile_changeMobile hStored hs hShown, changeMobile_id,
    changeMobile_surveyId, changeMobile_wardId, changeMobile_propertyNo, changeMobile_parcelNo,
    @changeMobile_text _ _ _ .ownerName (by decide),
    @changeMobile_text _ _ _ .locality (by decide)]
  rfl

/-- A number shown alike gives the same dues page. -/
theorem duesPage_changeMobile {s : Surveys.Survey} (hs : s ∈ site.surveys.surveys.rows)
    (config : TaxConfig) (payload : PublicDues) :
    duesPage (site.withMobile survey.id mobile') (changeMobile survey.id mobile' s) config
      payload = duesPage site s config payload := by
  have hColumns : shownColumns.map (changeMobile survey.id mobile' s).text =
      shownColumns.map s.text := by
    refine List.map_congr_left fun column hColumn => changeMobile_text ?_
    rintro rfl
    exact absurd hColumn (by decide)
  have hHeader : duesHeader (site.withMobile survey.id mobile')
      (changeMobile survey.id mobile' s) = duesHeader site s := by
    simp only [duesHeader, maskMobile_changeMobile hStored hs hShown, hColumns,
      changeMobile_wardId, changeMobile_propertyNo, changeMobile_parcelNo,
      @changeMobile_text _ _ _ .ownerName (by decide)]
    rfl
  simp only [duesPage, hHeader, changeMobile_id, withMobile_ledger]

/-- A search whose condition does not see the number. -/
theorem search_withMobile {query : SearchQuery} {filter : Surveys.Survey → Bool}
    (hWhere : buildWhere site query = .ok filter)
    (hFilter : ∀ s ∈ site.surveys.surveys.rows, isPublic s = true →
      filter (changeMobile survey.id mobile' s) = filter s) :
    search (site.withMobile survey.id mobile') query = search site query := by
  have hWhere' : buildWhere (site.withMobile survey.id mobile') query = .ok filter := by
    rw [buildWhere_withMobile, hWhere]
  have hSorted : (found (site.withMobile survey.id mobile') filter).mergeSort
      (searchOrder (site.withMobile survey.id mobile')) =
        ((found site filter).mergeSort (searchOrder site)).map
          (changeMobile survey.id mobile') := by
    rw [found_withMobile hFilter]
    exact (List.map_mergeSort fun s _ t _ => (searchOrder_changeMobile s t).symm).symm
  have hRows : ∀ s ∈ (found site filter).mergeSort (searchOrder site),
      s ∈ site.surveys.surveys.rows := fun s hs =>
    (List.mem_filter.mp ((List.mergeSort_perm ..).mem_iff.mp hs)).1
  have hTotal : (found (site.withMobile survey.id mobile') filter).length =
      (found site filter).length := by
    rw [found_withMobile hFilter, List.length_map]
  simp only [search, hWhere, hWhere', hSorted, hTotal, ← List.map_drop, ← List.map_take,
    List.map_map, Except.ok.injEq, SearchPage.mk.injEq, and_true, withMobile_context,
    withMobile_ledger]
  have hSearchRow : searchRow ∘ changeMobile survey.id mobile' = searchRow := by
    funext s
    simp only [Function.comp_apply, searchRow, changeMobile_id, changeMobile_wardId]
  rw [hSearchRow]
  refine List.map_congr_left fun s hs => ?_
  exact resultItem_changeMobile hStored hShown _
    (hRows s (List.mem_of_mem_drop (List.mem_of_mem_take hs)))

/-- A search that does not name the survey is answered as before. -/
theorem search_of_not_names {query : SearchQuery}
    (h : ¬ Names site.env survey mobile' (.search query)) :
    search (site.withMobile survey.id mobile') query = search site query := by
  cases hWhere : buildWhere site query with
  | error error =>
      have hWhere' := buildWhere_withMobile site survey.id mobile' query
      rw [hWhere] at hWhere'
      simp only [search, hWhere, hWhere']
  | ok filter =>
      refine search_withMobile hStored hShown hWhere fun s hs hPublic => ?_
      have hHouse : TextColumn.houseNo ≠ .mobile := by decide
      have hOwnerName : TextColumn.ownerName ≠ .mobile := by decide
      unfold buildWhere at hWhere
      cases hMode : query.mode with
      | ward =>
          simp only [hMode] at hWhere
          split at hWhere
          · cases hWhere
          · split at hWhere
            · cases hWhere
            · cases hWhere
              simp only [wardWhere, changeMobile_wardId, changeMobile_propertyNo,
                changeMobile_parcelNo, changeMobile_text hHouse]
      | propertyId =>
          simp only [hMode] at hWhere
          split at hWhere
          · cases hWhere
          · cases hWhere
            simp only [propertyIdWhere, changeMobile_surveyId, changeMobile_propertyNo,
              changeMobile_parcelNo]
      | owner =>
          simp only [hMode] at hWhere
          split at hWhere
          · cases hWhere
          next hInput =>
            cases hWhere
            simp only [ownerWhere, changeMobile_text hOwnerName]
            by_cases hId : s.id = survey.id
            · obtain rfl : s = survey := eq_of_key hs hStored hId
              rw [changeMobile_self]
              cases hName : Surveys.SurveysService.containsInsensitive site.env query.owner
                  (s.text .ownerName) with
              | false => rfl
              | true =>
                  have hNeither := fun hNumber => h ⟨hMode, hInput, hPublic, hName, hNumber⟩
                  have hOld := fun hSame => hNeither (.inl hSame)
                  have hNew := fun hSame => hNeither (.inr hSame)
                  simp only [decide_eq_false hOld, decide_eq_false hNew]
            · rw [changeMobile_of_ne hId]

omit hShown in
/-- A search that names the survey finds one row more, or one less. -/
theorem search_ne_of_names {query : SearchQuery} (hOther : mobile' ≠ survey.text .mobile)
    (h : Names site.env survey mobile' (.search query)) :
    search site query ≠ search (site.withMobile survey.id mobile') query := by
  obtain ⟨hMode, hInput, hPublic, hName, hNumber⟩ := h
  have hWhere : buildWhere site query = .ok (ownerWhere site.env query.owner
      (normalizeMobileDigits query.ownerMobile)) := by
    simp only [buildWhere, hMode, hInput]
  have hWhere' := (buildWhere_withMobile site survey.id mobile' query).trans hWhere
  have hOwnerName : TextColumn.ownerName ≠ .mobile := by decide
  intro hSame
  simp only [search, hWhere, hWhere', Except.ok.injEq, SearchPage.mk.injEq] at hSame
  have hTotal := hSame.2.2.2
  unfold found at hTotal
  change _ = ((site.surveys.surveys.rows.map _).filter _).length at hTotal
  rw [List.filter_map, List.length_map, ← List.countP_eq_length_filter,
    ← List.countP_eq_length_filter] at hTotal
  refine countP_ne (nodup_rows _) hStored (fun s hs hNe => ?_) ?_ hTotal
  · have hId : s.id ≠ survey.id := fun hId => hNe (eq_of_key hs hStored hId)
    rw [Function.comp_apply, changeMobile_of_ne hId]
  · simp only [Function.comp_apply, isPublic_changeMobile, hPublic, Bool.true_and, ownerWhere,
      changeMobile_text hOwnerName, hName, changeMobile_self, ne_eq, decide_eq_decide]
    rcases hNumber with hOld | hNew
    · exact fun hIff => hOther ((hIff.mp hOld).trans hOld.symm)
    · exact fun hIff => hOther (hNew.trans (hIff.mpr hNew).symm)

/-- A number shown alike gives the same answer about dues. -/
theorem getDues_withMobile (surveyCuid : Option Id) :
    getDues (site.withMobile survey.id mobile') surveyCuid = getDues site surveyCuid := by
  cases surveyCuid with
  | none => rfl
  | some id =>
      have hFound : (site.withMobile survey.id mobile').surveys.surveys.findFirst?
          (fun survey => survey.id = id && isPublic survey) =
            (site.surveys.surveys.findFirst? fun survey =>
              survey.id = id && isPublic survey).map (changeMobile survey.id mobile') := by
        unfold findFirst?
        change (site.surveys.surveys.rows.map _).find? _ = _
        rw [List.find?_map]
        congr 2
        funext s
        simp only [Function.comp_apply, changeMobile_id, isPublic_changeMobile]
      simp only [getDues, hFound]
      cases hSurvey : site.surveys.surveys.findFirst? fun survey =>
          survey.id = id && isPublic survey with
      | none => rfl
      | some s =>
          have hs : s ∈ site.surveys.surveys.rows := List.mem_of_find?_eq_some hSurvey
          simp only [Option.map_some, changeMobile_wardId, withMobile_context]
          cases latestPublishedConfig site.context s.wardId with
          | none => rfl
          | some config =>
              dsimp only
              rw [payload_withMobile]
              cases computePublicDuesPayload (billedSurvey site s) config with
              | error message => rfl
              | ok payload =>
                  dsimp only
                  rw [duesPage_changeMobile hStored hShown hs]

end Pages

/-- What a visitor is told does not depend on the hidden digits of a number, unless and
until a request names it in full. -/
theorem mobile_stays_hidden (site : Site) {survey : Surveys.Survey} {mobile' : Option Text}
    (hStored : survey ∈ site.surveys.surveys.rows)
    (hShown : ShownAlike (survey.text .mobile) mobile') (hOther : mobile' ≠ survey.text .mobile)
    (ask : List PublicAnswer → PublicRequest) (n : Nat) :
    (visit serve ask site n).2 = (visit serve ask (site.withMobile survey.id mobile') n).2 ↔
      ∀ k < n, ¬ Names site.env survey mobile' (ask (visit serve ask site k).2) := by
  refine @answers_eq_iff _ _ _ serve ask site (site.withMobile survey.id mobile')
    (fun state state' => state = site ∧ state' = site.withMobile survey.id mobile')
    (fun request _ _ => Names site.env survey mobile' request) ?_ ?_ ⟨rfl, rfl⟩ n
  · rintro request state _ ⟨rfl, rfl⟩ hQuiet
    cases request with
    | search query =>
        refine ⟨?_, rfl, rfl⟩
        simp only [serve, search_of_not_names hStored hShown hQuiet]
    | dues surveyCuid =>
        refine ⟨?_, rfl, rfl⟩
        simp only [serve, getDues_withMobile hStored hShown]
  · rintro request state _ ⟨rfl, rfl⟩ hNames hSame
    cases request with
    | dues surveyCuid => exact hNames
    | search query =>
        have hDiffer := search_ne_of_names hStored hOther hNames
        simp only [serve] at hSame
        cases hHere : search state query with
        | ok page =>
            cases hThere : search (state.withMobile survey.id mobile') query with
            | ok page' =>
                rw [hHere, hThere] at hSame
                exact hDiffer (by rw [hHere, hThere, PublicAnswer.page.inj hSame])
            | error error => rw [hHere, hThere] at hSame; cases hSame
        | error error =>
            cases hThere : search (state.withMobile survey.id mobile') query with
            | ok page => rw [hHere, hThere] at hSame; cases hSame
            | error error' =>
                rw [hHere, hThere] at hSame
                exact hDiffer (by rw [hHere, hThere, PublicAnswer.refused.inj hSame])

namespace Sample
open PropertyTax.Sample PropertyTax.Surveys.Sample

/-- A house in the first ward, whose owner left a number. -/
def listedHouse : Surveys.Survey :=
  { Surveys.SurveyDb.newSurvey 1 "249044-001-000001-001-R".toList 1 0 with
    text := Function.update (Function.update (fun _ => none) TextColumn.ownerName
      (some "RAMESH KUMAR".toList)) TextColumn.mobile (some "9876543210".toList) }

def listedSite : Site where
  env := firstWard
  activeWards := [1]
  context := PropertyTax.Sample.ward
  surveys := { Surveys.SurveyDb.empty with
    surveys := ⟨[listedHouse], List.pairwise_singleton _ _⟩ }
  ledger := Db.empty

/-- Someone who turns the pages of the ward. -/
def pageTurner (seen : List PublicAnswer) : PublicRequest :=
  .search { mode := .ward, wardNumber := some 1, page := some (seen.length + 1) }

end Sample

/-- The pages of the ward tell nothing of the number. -/
theorem mobile_stays_hidden_wardPages :
    (visit serve Sample.pageTurner Sample.listedSite 3).2 =
      (visit serve Sample.pageTurner
        (Sample.listedSite.withMobile 1 (some "9800003210".toList)) 3).2 :=
  (@mobile_stays_hidden Sample.listedSite Sample.listedHouse (some "9800003210".toList)
    (List.mem_singleton_self _) (.inr (by decide)) (by decide) _ 3).mpr fun _ _ hNames =>
      nomatch hNames.1

end PropertyTax.PublicSite
