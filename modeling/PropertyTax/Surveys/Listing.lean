import Mathlib.Data.List.Infix
import PropertyTax.Surveys.Service

/-! The list endpoint: its filters, its order and its pages. -/
namespace PropertyTax.Surveys
open KeyedTable Scripts

inductive SortBy where
  | createdAt | surveyedAt | surveyId | ownerName | mobile | status | parcelNo | propertyNo
deriving DecidableEq

/-- Any other `sortBy` counts as `parcelNo`. Empty filters count as absent. -/
structure ListSurveysQuery where
  page : Nat := 1
  pageSize : Nat := 50
  search : Option Text := none
  wardId : Option Id := none
  status : Option SurveyStatus := none
  propertyUse : Option Text := none
  propertyOwnership : Option Text := none
  taxRateZone : Option Text := none
  locality : Option Text := none
  colony : Option Text := none
  isSlum : Option Bool := none
  commercial : Option Text := none
  dataQualityStatus : Option DataQualityStatus := none
  surveyedFrom : Option Text := none
  surveyedTo : Option Text := none
  sortBy : SortBy := .parcelNo
  descending : Bool := false

structure PageMeta where
  page : Nat
  pageSize : Nat
  total : Nat
  totalPages : Nat
deriving DecidableEq

namespace SurveysService
variable (env : Env)

/-- `contains`, and with `mode: "insensitive"`. -/
def contains (part : Text) (value : Option Text) : Bool := value.any fun text => decide (part <:+: text)

def containsInsensitive (part : Text) (value : Option Text) : Bool :=
  contains (env.foldCase part) (value.map env.foldCase)

def equalsInsensitive (other : Text) (value : Option Text) : Bool :=
  value.any fun text => env.foldCase text = env.foldCase other

/-- `/^\d[\d\s-]*$/` -/
def looksLikeParcel : Text → Bool
  | c :: rest => c.isDigit && rest.all fun d => d.isDigit || Js.isSpace d || d == '-'
  | [] => false

def matchesSearch (search : Text) (survey : Survey) : Bool :=
  let q := Js.trimChars search
  containsInsensitive env q (some survey.surveyId) ||
    containsInsensitive env q (survey.text .ownerName) ||
    containsInsensitive env q (survey.text .ownerFatherName) ||
    contains q (survey.text .mobile) ||
    containsInsensitive env q survey.parcelNo ||
    containsInsensitive env q survey.propertyNo ||
    containsInsensitive env q (survey.text .locality) ||
    (looksLikeParcel q && match normalizeParcelNo q with
      | .ok padded => equalsInsensitive env padded survey.parcelNo
      | .error _ => false) ||
    (q.contains '-' && equalsInsensitive env q (some survey.surveyId))

/-- `status ?? { not: "DELETED" }` -/
def hasStatus (status : Option SurveyStatus) (survey : Survey) : Bool :=
  match status with
  | some status => survey.status = status
  | none => survey.status ≠ .deleted

/-- `buildWhere`; the dates are parsed before. -/
def buildWhere (query : ListSurveysQuery) (surveyedFrom surveyedTo : Option ℤ) (survey : Survey) :
    Bool :=
  let filledWith (column : TextColumn) (text : Text) : Bool := survey.text column = some text
  survey.isLive && hasStatus query.status survey &&
    query.wardId.all (fun wardId => survey.wardId = wardId) &&
    query.propertyUse.all (filledWith .propertyUse) &&
    query.propertyOwnership.all (filledWith .propertyOwnership) &&
    query.taxRateZone.all (filledWith .taxRateZone) &&
    query.locality.all (fun part => containsInsensitive env part (survey.text .locality)) &&
    query.colony.all (fun part => containsInsensitive env part (survey.text .colony)) &&
    query.isSlum.all (fun isSlum => survey.isSlum = isSlum) &&
    query.commercial.all (filledWith .commercial) &&
    query.dataQualityStatus.all (fun status => survey.dataQualityStatus = status) &&
    surveyedFrom.all (fun start => survey.surveyedAt.any fun time => decide (start ≤ time)) &&
    surveyedTo.all (fun stop => survey.surveyedAt.any fun time => decide (time ≤ stop)) &&
    query.search.all (fun search =>
      (Js.trimChars search).isEmpty || matchesSearch env search survey)

/-- The database puts nulls last. -/
def nullsLast {α : Type} (le : α → α → Bool) : Option α → Option α → Bool
  | some a, some b => le a b
  | none, some _ => false
  | _, none => true

def SortBy.le : SortBy → Survey → Survey → Bool
  | .createdAt, s, t => decide (s.createdAt ≤ t.createdAt)
  | .surveyedAt, s, t => nullsLast (fun a b => decide (a ≤ b)) s.surveyedAt t.surveyedAt
  | .surveyId, s, t => env.collate s.surveyId t.surveyId
  | .ownerName, s, t => nullsLast env.collate (s.text .ownerName) (t.text .ownerName)
  | .mobile, s, t => nullsLast env.collate (s.text .mobile) (t.text .mobile)
  | .status, s, t => decide (s.status.ctorIdx ≤ t.status.ctorIdx)
  | .parcelNo, s, t => nullsLast env.collate s.parcelNo t.parcelNo
  | .propertyNo, s, t => nullsLast env.collate s.propertyNo t.propertyNo

/-- Sort by the first comparison, then by the others. -/
def lexicographic {α : Type} (comparisons : List (α → α → Bool)) (a b : α) : Bool :=
  match comparisons with
  | [] => true
  | le :: rest => if le a b && le b a then lexicographic rest a b else le a b

def wardNumberOf (survey : Survey) : Option ℤ := (env.wards.find? survey.wardId).map Ward.number

def wardLe (s t : Survey) : Bool :=
  nullsLast (fun a b => decide (a ≤ b)) (wardNumberOf env s) (wardNumberOf env t)

def orderBy (query : ListSurveysQuery) : List (Survey → Survey → Bool) :=
  let directed (sortBy : SortBy) (s t : Survey) : Bool :=
    if query.descending then SortBy.le env sortBy t s else SortBy.le env sortBy s t
  if query.sortBy = .parcelNo then [wardLe env, directed .surveyId, directed .parcelNo]
  else [directed query.sortBy]

/-- `findMany` with its page. -/
def pageOf (query : ListSurveysQuery) (surveyedFrom surveyedTo : Option ℤ) (db : SurveyDb) :
    List Survey :=
  let found := db.surveys.rows.filter (buildWhere env query surveyedFrom surveyedTo)
  ((found.mergeSort (lexicographic (orderBy env query))).drop ((query.page - 1) * query.pageSize)).take
    query.pageSize

def ensureCanonicalSurveyIds : List Survey → SurveyScript (List Survey)
  | [] => pure []
  | survey :: surveys => do
      let repaired ← ensureCanonicalSurveyId env survey
      let others ← ensureCanonicalSurveyIds surveys
      return repaired :: others

def findAll (query : ListSurveysQuery) (user : AuthUser) :
    SurveyScript (List Survey × PageMeta) := do
  orThrow ((assertSurveyAccess user (some user.id) .read).mapError .api)
  let surveyedFrom ← orThrow (query.surveyedFrom.mapM (newDate env))
  let surveyedTo ← orThrow (query.surveyedTo.mapM (newDate env))
  let total ← read fun db => (db.surveys.rows.filter
    (buildWhere env query surveyedFrom surveyedTo)).length
  let items ← read (pageOf env query surveyedFrom surveyedTo)
  let canonicalItems ← ensureCanonicalSurveyIds env items
  return (canonicalItems, ⟨query.page, query.pageSize, total,
    max 1 ((total + query.pageSize - 1) / query.pageSize)⟩)

variable {env}

/-- A page holds stored live surveys, each of them once. -/
theorem pageOf_rows (query : ListSurveysQuery) (surveyedFrom surveyedTo : Option ℤ)
    (db : SurveyDb) :
    (∀ survey ∈ pageOf env query surveyedFrom surveyedTo db,
      survey ∈ db.surveys.rows ∧ survey.isLive = true) ∧
    ((pageOf env query surveyedFrom surveyedTo db).map Survey.id).Nodup := by
  have hSub : (pageOf env query surveyedFrom surveyedTo db).Sublist ((db.surveys.rows.filter
      (buildWhere env query surveyedFrom surveyedTo)).mergeSort
        (lexicographic (orderBy env query))) :=
    (List.take_sublist _ _).trans (List.drop_sublist _ _)
  have hIds : (db.surveys.rows.map Survey.id).Nodup := by
    rw [List.nodup_iff_pairwise_ne, List.pairwise_map]
    refine db.surveys.apart.imp fun {s t} hApart hId => ?_
    rw [KeyedRow.clash_of_key s t hId] at hApart
    cases hApart
  constructor
  · intro survey hSurvey
    obtain ⟨hStored, hMeets⟩ := List.mem_filter.mp (List.mem_mergeSort.mp (hSub.subset hSurvey))
    simp only [buildWhere, Bool.and_eq_true] at hMeets
    exact ⟨hStored, by tauto⟩
  · have hSorted := ((List.mergeSort_perm _ (lexicographic (orderBy env query))).map
      Survey.id).nodup_iff.mpr
        ((List.filter_sublist (p := buildWhere env query surveyedFrom surveyedTo)).map
          Survey.id |>.nodup hIds)
    exact (hSub.map Survey.id).nodup hSorted

end SurveysService
end PropertyTax.Surveys
