import Mathlib
import PropertyTax.Library.Pages
import PropertyTax.Surveys.AadhaarSecrecy
import PropertyTax.Surveys.Listing

/-! Turning the pages of the survey list. The default order tells all surveys apart; an
order by another column does where no two matches agree in it. -/
namespace PropertyTax.Surveys
open KeyedTable Pages Scripts SurveysService

/-- The collation of the database is a linear order of the texts. -/
structure Env.Collates (env : Env) : Prop where
  ranks : Ranks env.collate
  antisymm : ∀ a b, env.collate a b = true → env.collate b a = true → a = b

/-! ### Comparisons -/

section Comparisons
variable {α β : Type}

/-- Nulls last is an order again. -/
theorem ranks_nullsLast {le : β → β → Bool} (h : Ranks le) : Ranks (nullsLast le) where
  trans a b c hab hbc := by
    cases c with
    | none => cases a <;> rfl
    | some c =>
        cases b with
        | none => cases hbc
        | some b =>
            cases a with
            | none => cases hab
            | some a => exact h.trans a b c hab hbc
  total a b := by
    cases a with
    | none => cases b <;> rfl
    | some a =>
        cases b with
        | none => rfl
        | some b => exact h.total a b

/-- An order of what items are mapped to orders the items. -/
theorem ranks_map {le : β → β → Bool} (f : α → β) (h : Ranks le) :
    Ranks fun a b => le (f a) (f b) :=
  ⟨fun a b c => h.trans (f a) (f b) (f c), fun a b => h.total (f a) (f b)⟩

/-- The other way round, an order is one. -/
theorem ranks_flip {le : α → α → Bool} (h : Ranks le) : Ranks fun a b => le b a :=
  ⟨fun a b c hab hbc => h.trans c b a hbc hab, fun a b => h.total b a⟩

theorem ranks_le [LinearOrder β] : Ranks fun a b : β => decide (a ≤ b) where
  trans a b c hab hbc := by
    rw [decide_eq_true_eq] at *
    exact hab.trans hbc
  total a b := by simpa using le_total a b

/-- A lexicographic order looks at the rest when the first comparison ties. -/
theorem lexicographic_cons_iff {le : α → α → Bool} {rest : List (α → α → Bool)} {a b : α} :
    lexicographic (le :: rest) a b = true ↔
      le a b = true ∧ (le b a = true → lexicographic rest a b = true) := by
  rw [lexicographic]
  cases le a b <;> cases le b a <;> simp

/-- Ties of a lexicographic order are ties of all its comparisons. -/
theorem lexicographic_tied {comparisons : List (α → α → Bool)} {a b : α} :
    (lexicographic comparisons a b = true ∧ lexicographic comparisons b a = true) ↔
      ∀ le ∈ comparisons, le a b = true ∧ le b a = true := by
  induction comparisons with
  | nil => simp [lexicographic]
  | cons le rest ih =>
      rw [List.forall_mem_cons, ← ih, lexicographic_cons_iff, lexicographic_cons_iff]
      tauto

/-- A lexicographic order of orders is one. -/
theorem ranks_lexicographic {comparisons : List (α → α → Bool)}
    (h : ∀ le ∈ comparisons, Ranks le) : Ranks (lexicographic comparisons) := by
  induction comparisons with
  | nil => exact ⟨fun _ _ _ _ _ => rfl, fun _ _ => rfl⟩
  | cons le rest ih =>
      obtain ⟨hFirst, hRest⟩ := List.forall_mem_cons.mp h
      have hLater := ih hRest
      constructor
      · intro a b c hab hbc
        obtain ⟨hab, hab'⟩ := lexicographic_cons_iff.mp hab
        obtain ⟨hbc, hbc'⟩ := lexicographic_cons_iff.mp hbc
        refine lexicographic_cons_iff.mpr ⟨hFirst.trans a b c hab hbc, fun hca => ?_⟩
        exact hLater.trans a b c (hab' (hFirst.trans b c a hbc hca))
          (hbc' (hFirst.trans c a b hca hab))
      · intro a b
        have hOne := hFirst.total a b
        have hTwo := hLater.total a b
        rw [Bool.or_eq_true] at hOne hTwo ⊢
        rw [lexicographic_cons_iff, lexicographic_cons_iff]
        tauto

end Comparisons

/-! ### The orders of the list -/

/-- Two surveys have the same value in a column. -/
def SortBy.Agree : SortBy → Survey → Survey → Prop
  | .createdAt, s, t => s.createdAt = t.createdAt
  | .surveyedAt, s, t => s.surveyedAt = t.surveyedAt
  | .surveyId, s, t => s.surveyId = t.surveyId
  | .ownerName, s, t => s.text .ownerName = t.text .ownerName
  | .mobile, s, t => s.text .mobile = t.text .mobile
  | .status, s, t => s.status = t.status
  | .parcelNo, s, t => s.parcelNo = t.parcelNo
  | .propertyNo, s, t => s.propertyNo = t.propertyNo

section Orders
variable {env : Env} (hEnv : env.Collates)

/-- With nulls last, only equal values tie. -/
theorem nullsLast_tied {β : Type} {le : β → β → Bool}
    (h : ∀ a b, le a b = true ∧ le b a = true ↔ a = b) {a b : Option β} :
    (nullsLast le a b = true ∧ nullsLast le b a = true) ↔ a = b := by
  cases a with
  | none => cases b <;> simp [nullsLast]
  | some a =>
      cases b with
      | none => simp [nullsLast]
      | some b => rw [Option.some_inj, ← h a b]; rfl

/-- In a linear order, only equal values tie. -/
theorem le_tied {β : Type} [LinearOrder β] {a b : β} :
    (decide (a ≤ b) = true ∧ decide (b ≤ a) = true) ↔ a = b := by
  rw [decide_eq_true_eq, decide_eq_true_eq, le_antisymm_iff]

include hEnv

/-- Only equal texts tie. -/
theorem collate_tied (a b : Text) : env.collate a b = true ∧ env.collate b a = true ↔ a = b := by
  refine ⟨fun h => hEnv.antisymm a b h.1 h.2, ?_⟩
  rintro rfl
  have hSelf := hEnv.ranks.total a a
  rw [Bool.or_self] at hSelf
  exact ⟨hSelf, hSelf⟩

/-- Every column that surveys are sorted by orders them. -/
theorem SortBy.ranks (sortBy : SortBy) : Ranks (SortBy.le env sortBy) := by
  cases sortBy with
  | createdAt => exact ranks_map Survey.createdAt ranks_le
  | surveyedAt => exact ranks_map Survey.surveyedAt (ranks_nullsLast ranks_le)
  | surveyId => exact ranks_map Survey.surveyId hEnv.ranks
  | ownerName => exact ranks_map (fun s : Survey => s.text .ownerName) (ranks_nullsLast hEnv.ranks)
  | mobile => exact ranks_map (fun s : Survey => s.text .mobile) (ranks_nullsLast hEnv.ranks)
  | status => exact ranks_map (fun s : Survey => s.status.ctorIdx) ranks_le
  | parcelNo => exact ranks_map Survey.parcelNo (ranks_nullsLast hEnv.ranks)
  | propertyNo => exact ranks_map Survey.propertyNo (ranks_nullsLast hEnv.ranks)

/-- The rows that tie in a column are those that agree in it. -/
theorem SortBy.tied (sortBy : SortBy) (s t : Survey) :
    (SortBy.le env sortBy s t = true ∧ SortBy.le env sortBy t s = true) ↔ sortBy.Agree s t := by
  have hText := @nullsLast_tied Text env.collate (collate_tied hEnv)
  cases sortBy with
  | createdAt => exact le_tied
  | surveyedAt => exact nullsLast_tied fun a b => le_tied
  | surveyId => exact collate_tied hEnv s.surveyId t.surveyId
  | ownerName => exact hText
  | mobile => exact hText
  | status =>
      refine le_tied.trans ⟨fun h => ?_, fun h => h ▸ rfl⟩
      change s.status = t.status
      generalize s.status = a at h ⊢
      generalize t.status = b at h ⊢
      cases a <;> cases b <;> first | rfl | cases h
  | parcelNo => exact hText
  | propertyNo => exact hText

/-- The order of a list is one. -/
theorem ranks_orderBy (query : ListSurveysQuery) : Ranks (lexicographic (orderBy env query)) := by
  have hDirected : ∀ sortBy, Ranks fun s t : Survey =>
      if query.descending then SortBy.le env sortBy t s else SortBy.le env sortBy s t := by
    intro sortBy
    cases query.descending
    · exact SortBy.ranks hEnv sortBy
    · exact ranks_flip (SortBy.ranks hEnv sortBy)
  have hWard : Ranks (wardLe env) := ranks_map (wardNumberOf env) (ranks_nullsLast ranks_le)
  refine ranks_lexicographic ?_
  unfold orderBy
  dsimp only
  by_cases hSort : query.sortBy = .parcelNo
  · rw [if_pos hSort]
    exact List.forall_mem_cons.mpr ⟨hWard, List.forall_mem_cons.mpr
      ⟨hDirected .surveyId, List.forall_mem_singleton.mpr (hDirected .parcelNo)⟩⟩
  · rw [if_neg hSort]
    exact List.forall_mem_singleton.mpr (hDirected query.sortBy)

/-- The default order goes by the Survey Id before the parcel number. -/
theorem orderBy_tied (query : ListSurveysQuery) {s t : Survey}
    (hst : lexicographic (orderBy env query) s t = true)
    (hts : lexicographic (orderBy env query) t s = true) :
    if query.sortBy = .parcelNo then s.surveyId = t.surveyId else query.sortBy.Agree s t := by
  have hTied := lexicographic_tied.mp ⟨hst, hts⟩
  have hDirected : ∀ sortBy : SortBy,
      ((if query.descending then SortBy.le env sortBy t s else SortBy.le env sortBy s t) = true ∧
        (if query.descending then SortBy.le env sortBy s t else SortBy.le env sortBy t s) = true) →
          sortBy.Agree s t := by
    intro sortBy h
    refine (SortBy.tied hEnv sortBy s t).mp ?_
    cases hWay : query.descending with
    | true => simpa [hWay, and_comm] using h
    | false => simpa [hWay] using h
  unfold orderBy at hTied
  dsimp only at hTied
  split_ifs with hSort
  · rw [if_pos hSort] at hTied
    exact hDirected .surveyId (hTied _ (.tail _ (.head _)))
  · rw [if_neg hSort] at hTied
    exact hDirected query.sortBy (hTied _ (List.mem_singleton_self _))

/-- Rows that agree tie, unless the sort is the default one. -/
theorem orderBy_of_agree {query : ListSurveysQuery} (hSort : query.sortBy ≠ .parcelNo)
    {s t : Survey} (h : query.sortBy.Agree s t) :
    lexicographic (orderBy env query) s t = true ∧
      lexicographic (orderBy env query) t s = true := by
  refine lexicographic_tied.mpr ?_
  unfold orderBy
  dsimp only
  rw [if_neg hSort]
  refine List.forall_mem_singleton.mpr ?_
  have hTied := (SortBy.tied hEnv query.sortBy s t).mpr h
  cases query.descending
  · exact hTied
  · exact hTied.symm

end Orders

/-! ### The pages -/

/-- A page as the endpoint shows it; an error shows nothing. -/
def pageShown (env : Env) (query : ListSurveysQuery) (user : AuthUser) (db : SurveyDb) :
    List Survey :=
  match (findAll env query user ⟨db, []⟩).2 with
  | .ok (items, _) => items
  | .error _ => []

/-- The pages of a list, as they are turned. -/
def listedPages (env : Env) (query : ListSurveysQuery) (user : AuthUser) (dbs : Nat → SurveyDb)
    (n : Nat) : List Survey :=
  (List.range n).flatMap fun k => pageShown env { query with page := k + 1 } user (dbs k)

/-- Every page is read from what the page before left, the rows in any order. -/
structure Turned (env : Env) (query : ListSurveysQuery) (user : AuthUser) (db : SurveyDb)
    (dbs : Nat → SurveyDb) : Prop where
  first : (dbs 0).surveys.rows.Perm db.surveys.rows
  next : ∀ k, (dbs (k + 1)).surveys.rows.Perm
    (findAll env { query with page := k + 1 } user ⟨dbs k, []⟩).1.db.surveys.rows

/-- The databases of a reader whom nobody disturbs. -/
def turnedDbs (env : Env) (query : ListSurveysQuery) (user : AuthUser) (db : SurveyDb) :
    Nat → SurveyDb
  | 0 => db
  | k + 1 =>
      (findAll env { query with page := k + 1 } user ⟨turnedDbs env query user db k, []⟩).1.db

/-- The databases of a turn of pages follow each other. -/
theorem turned_turnedDbs (env : Env) (query : ListSurveysQuery) (user : AuthUser) (db : SurveyDb) :
    Turned env query user db (turnedDbs env query user db) :=
  ⟨.refl _, fun _ => .refl _⟩

/-- The surveys a list is about. -/
def matching (env : Env) (query : ListSurveysQuery) (surveyedFrom surveyedTo : Option ℤ)
    (db : SurveyDb) : List Survey :=
  db.surveys.rows.filter (buildWhere env query surveyedFrom surveyedTo)

/-- The id is the one that the ward and the numbers of the survey give, or they give none. -/
def hasCanonicalId (env : Env) (survey : Survey) : Bool :=
  (env.wards.find? survey.wardId).any fun ward =>
    !surveyIdNeedsRepair env.ulbCode survey.record ward.number

/-- What a user may read, with dates that can be read. -/
structure ListSurveysQuery.Allowed (env : Env) (query : ListSurveysQuery) (user : AuthUser)
    (surveyedFrom surveyedTo : Option ℤ) : Prop where
  access : assertSurveyAccess user (some user.id) .read = .ok ()
  surveyedFrom : query.surveyedFrom.mapM (newDate env) = .ok surveyedFrom
  surveyedTo : query.surveyedTo.mapM (newDate env) = .ok surveyedTo

section Lists
variable {env : Env} (query : ListSurveysQuery) (user : AuthUser)
  (surveyedFrom surveyedTo : Option ℤ)

omit query user surveyedFrom surveyedTo in
/-- Where no id is to be repaired, the surveys are shown as they are stored. -/
theorem ensureCanonicalSurveyIds_of_canonical {surveys : List Survey}
    (h : ∀ survey ∈ surveys, hasCanonicalId env survey = true) (db : SurveyDb) :
    ensureCanonicalSurveyIds env surveys ⟨db, []⟩ = (⟨db, []⟩, .ok surveys) := by
  induction surveys with
  | nil => rfl
  | cons survey surveys ih =>
      obtain ⟨hSurvey, hSurveys⟩ := List.forall_mem_cons.mp h
      obtain ⟨ward, hWard, hId⟩ := (Option.any_eq_true _ _).mp hSurvey
      have hOne : ensureCanonicalSurveyId env survey ⟨db, []⟩ = (⟨db, []⟩, .ok survey) := by
        have hRepair : repairSurveyIdIfNeeded env survey ward.number ⟨db, []⟩ =
            (⟨db, []⟩, .ok survey.surveyId) := by
          rw [repairSurveyIdIfNeeded, if_pos hId]
          rfl
        simp only [ensureCanonicalSurveyId, hWard]
        rw [Script.bind_of_ok hRepair, withSurveyId, if_pos rfl]
        rfl
      rw [ensureCanonicalSurveyIds, Script.bind_of_ok hOne, Script.bind_of_ok (ih hSurveys)]
      rfl

variable {query user surveyedFrom surveyedTo}

/-- Then the endpoint answers with the page that it has read, and writes nothing. -/
theorem findAll_of_canonical (hAllowed : query.Allowed env user surveyedFrom surveyedTo)
    {db : SurveyDb} (h : ∀ survey ∈ matching env query surveyedFrom surveyedTo db,
      hasCanonicalId env survey = true) :
    ∃ info, findAll env query user ⟨db, []⟩ =
      (⟨db, []⟩, .ok (pageOf env query surveyedFrom surveyedTo db, info)) := by
  obtain ⟨hAccess, hFrom, hTo⟩ := hAllowed
  have hPage : ∀ survey ∈ pageOf env query surveyedFrom surveyedTo db,
      hasCanonicalId env survey = true := by
    intro survey hSurvey
    have hSorted := List.mem_of_mem_drop (List.mem_of_mem_take hSurvey)
    exact h survey (List.mem_mergeSort.mp hSorted)
  have hPure {α : Type} (answer : α) :
      (orThrow (.ok answer) : SurveyScript α) ⟨db, []⟩ = (⟨db, []⟩, .ok answer) := rfl
  refine ⟨⟨query.page, query.pageSize, (matching env query surveyedFrom surveyedTo db).length,
    max 1 (((matching env query surveyedFrom surveyedTo db).length + query.pageSize - 1) /
      query.pageSize)⟩, ?_⟩
  unfold findAll
  rw [hAccess, hFrom, hTo, Except.mapError, Script.bind_of_ok (hPure ()),
    Script.bind_of_ok (hPure surveyedFrom), Script.bind_of_ok (hPure surveyedTo),
    Script.bind_of_ok (read_calm _), Script.bind_of_ok (read_calm _),
    Script.bind_of_ok (ensureCanonicalSurveyIds_of_canonical hPage db)]
  rfl

/-- In another order of the rows, the same surveys match. -/
theorem matching_perm {db db' : SurveyDb} (h : db'.surveys.rows.Perm db.surveys.rows) :
    (matching env query surveyedFrom surveyedTo db').Perm
      (matching env query surveyedFrom surveyedTo db) :=
  h.filter _

/-- While the pages are turned, nothing but the order of the rows changes. -/
theorem Turned.perm (hAllowed : query.Allowed env user surveyedFrom surveyedTo) {db : SurveyDb}
    (h : ∀ survey ∈ matching env query surveyedFrom surveyedTo db, hasCanonicalId env survey = true)
    {dbs : Nat → SurveyDb} (hTurned : Turned env query user db dbs) (k : Nat) :
    (dbs k).surveys.rows.Perm db.surveys.rows := by
  induction k with
  | zero => exact hTurned.first
  | succ k ih =>
      have hNext := hTurned.next k
      obtain ⟨_, hCall⟩ := @findAll_of_canonical env { query with page := k + 1 } user surveyedFrom
        surveyedTo ⟨hAllowed.access, hAllowed.surveyedFrom, hAllowed.surveyedTo⟩ (dbs k)
        fun survey hSurvey => h survey ((matching_perm ih).subset hSurvey)
      rw [hCall] at hNext
      exact hNext.trans ih

/-- And so the reader sees what the queries have found. -/
theorem listedPages_eq (hAllowed : query.Allowed env user surveyedFrom surveyedTo) {db : SurveyDb}
    (h : ∀ survey ∈ matching env query surveyedFrom surveyedTo db, hasCanonicalId env survey = true)
    {dbs : Nat → SurveyDb} (hDbs : ∀ k, (dbs k).surveys.rows.Perm db.surveys.rows) (n : Nat) :
    listedPages env query user dbs n =
      turnTable (lexicographic (orderBy env query)) (buildWhere env query surveyedFrom surveyedTo)
        query.pageSize (fun k => (dbs k).surveys) n := by
  refine congrArg (fun pages => (List.range n).flatMap pages) (funext fun k => ?_)
  obtain ⟨_, hCall⟩ := @findAll_of_canonical env { query with page := k + 1 } user surveyedFrom
    surveyedTo ⟨hAllowed.access, hAllowed.surveyedFrom, hAllowed.surveyedTo⟩ (dbs k)
    fun survey hSurvey => h survey ((matching_perm (hDbs k)).subset hSurvey)
  simp only [pageShown, hCall, pageOf, page, Nat.add_sub_cancel]
  rfl

variable (query surveyedFrom surveyedTo)

/-- Surveys are told apart unless two agree in the sorted column. -/
theorem apart_iff (hEnv : env.Collates) (db : SurveyDb) :
    Apart (lexicographic (orderBy env query)) (matching env query surveyedFrom surveyedTo db) ↔
      query.sortBy = .parcelNo ∨
        ∀ s ∈ matching env query surveyedFrom surveyedTo db,
          ∀ t ∈ matching env query surveyedFrom surveyedTo db, query.sortBy.Agree s t → s = t := by
  constructor
  · intro hApart
    refine or_iff_not_imp_left.mpr fun hSort s hs t ht hAgree => ?_
    obtain ⟨hst, hts⟩ := orderBy_of_agree hEnv hSort hAgree
    exact hApart s hs t ht hst hts
  · intro h s hs t ht hst hts
    have hTied := orderBy_tied hEnv query hst hts
    by_cases hSort : query.sortBy = .parcelNo
    · rw [if_pos hSort] at hTied
      refine eq_of_clash (List.mem_filter.mp hs).1 (List.mem_filter.mp ht).1 ?_
      simp [KeyedRow.clash, hTied]
    · rw [if_neg hSort] at hTied
      exact h.resolve_left hSort s hs t ht hTied

end Lists

/-- Where no id of a match is to be repaired, whoever turns the pages of a list sees every
survey of it once, whatever the page size and the order the rows are kept in, exactly when the
list is in its default order or no two of its surveys agree in the column it is sorted by. A
repaired id could move its survey to a later page. -/
theorem listed_complete_iff {env : Env} (hEnv : env.Collates) {query : ListSurveysQuery}
    {user : AuthUser} {surveyedFrom surveyedTo : Option ℤ}
    (hAllowed : query.Allowed env user surveyedFrom surveyedTo) (db : SurveyDb)
    (hCanonical : ∀ survey ∈ matching env query surveyedFrom surveyedTo db,
      hasCanonicalId env survey = true) :
    (∀ pageSize, 0 < pageSize → ∀ (dbs : Nat → SurveyDb) (n : Nat),
      Turned env { query with pageSize } user db dbs →
      (matching env query surveyedFrom surveyedTo db).length ≤ n * pageSize →
      (listedPages env { query with pageSize } user dbs n).Perm
        (matching env query surveyedFrom surveyedTo db)) ↔
    query.sortBy = .parcelNo ∨
      ∀ s ∈ matching env query surveyedFrom surveyedTo db,
        ∀ t ∈ matching env query surveyedFrom surveyedTo db, query.sortBy.Agree s t → s = t := by
  rw [← apart_iff query surveyedFrom surveyedTo hEnv db, matching,
    ← turnsComplete_iff (ranks_orderBy hEnv query)]
  have hSized : ∀ pageSize, ListSurveysQuery.Allowed env { query with pageSize } user surveyedFrom
      surveyedTo := fun _ => ⟨hAllowed.access, hAllowed.surveyedFrom, hAllowed.surveyedTo⟩
  constructor
  · intro hListed pageSize hSize tables n hTables hAll
    have hTurned : Turned env { query with pageSize } user db
        fun k => { db with surveys := tables k } := by
      refine ⟨hTables 0, fun k => ?_⟩
      obtain ⟨_, hCall⟩ := @findAll_of_canonical env { query with pageSize, page := k + 1 } user
        surveyedFrom surveyedTo ⟨hAllowed.access, hAllowed.surveyedFrom, hAllowed.surveyedTo⟩
        { db with surveys := tables k } fun survey hSurvey =>
          hCanonical survey (((hTables k).filter _).subset hSurvey)
      rw [hCall]
      exact (hTables (k + 1)).trans (hTables k).symm
    have hShown := hListed pageSize hSize _ n hTurned hAll
    rwa [listedPages_eq (hSized pageSize) hCanonical hTables] at hShown
  · intro hComplete pageSize hSize dbs n hTurned hAll
    have hDbs := hTurned.perm (hSized pageSize) hCanonical
    rw [listedPages_eq (hSized pageSize) hCanonical hDbs]
    exact hComplete pageSize hSize (fun k => (dbs k).surveys) n hDbs hAll

namespace Sample

/-- The first ward, its texts collated by their characters. -/
def collatedWard : Env := { firstWard with collate := fun a b => decide (a ≤ b) }

theorem collatedWard_collates : collatedWard.Collates where
  ranks := ranks_le (β := List Char)
  antisymm a b hab hba := by
    have hLe : a ≤ b := of_decide_eq_true hab
    exact le_antisymm hLe (of_decide_eq_true hba)

/-- Two houses of the first ward. -/
def keptHouses : SurveyDb :=
  { SurveyDb.empty with
    surveys := ⟨[SurveyDb.newSurvey 1 "249044-001-000002-001-R".toList 1 0,
      SurveyDb.newSurvey 2 "249044-001-000001-001-R".toList 1 0], by decide⟩
    nextId := 3 }

theorem keptHouses_canonical : ∀ survey ∈ matching collatedWard {} none none keptHouses,
    hasCanonicalId collatedWard survey = true := by
  decide

end Sample

/-- Two pages of one house each, in the default order. -/
theorem listed_complete_iff_default :
    (listedPages Sample.collatedWard { pageSize := 1 } Sample.surveyReader
      (turnedDbs Sample.collatedWard { pageSize := 1 } Sample.surveyReader Sample.keptHouses)
      2).Perm (matching Sample.collatedWard {} none none Sample.keptHouses) := by
  refine (listed_complete_iff Sample.collatedWard_collates ⟨by decide, rfl, rfl⟩ Sample.keptHouses
    Sample.keptHouses_canonical).mpr (.inl rfl) 1 one_pos _ 2 (turned_turnedDbs _ _ _ _) ?_
  exact List.length_filter_le _ _

end PropertyTax.Surveys
