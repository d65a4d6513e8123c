import Mathlib
import PropertyTax.Library.Runs
import PropertyTax.Reference.AssessmentYears
import PropertyTax.Store

/-! Active assessment years do not overlap, whatever was edited while a year was inactive: the
range that a row will have is compared with those of the other active rows before it is written,
and before the row becomes active. -/
namespace PropertyTax
open KeyedTable Runs ReferenceService

/-! ### Ranges -/

namespace YearRange

/-- The dates of the range. -/
def dates (range : YearRange) : Set String := Set.Icc range.startDate range.endDate

/-- Ranges that do not overlap have no date in common. -/
theorem disjoint_of_not_overlap {a b : YearRange} (h : rangesOverlap a b = false) :
    Disjoint a.dates b.dates := by
  refine Set.disjoint_left.mpr fun date ha hb => ?_
  have hOverlap : rangesOverlap a b = true := by
    unfold rangesOverlap
    rw [Bool.and_eq_true_iff, decide_eq_true_iff, decide_eq_true_iff]
    exact ⟨le_trans ha.1 hb.2, le_trans hb.1 ha.2⟩
  rw [h] at hOverlap
  cases hOverlap

end YearRange

/-- A written object is not blank. -/
theorem not_isBlank_stringifyStrings (fields : List (String × String)) :
    Js.isBlank (Json.stringifyStrings fields) = false := by
  have hBrace : Js.includes (Json.stringifyStrings fields) "\x7b" = true := by
    have hText : (Json.stringifyStrings fields).toList =
        '\x7b' :: [','].intercalate (fields.map Json.member) ++ ['\x7d'] := String.toList_ofList
    rw [Js.includes_iff, hText]
    exact ⟨[], [','].intercalate (fields.map Json.member) ++ ['\x7d'], rfl⟩
  rw [← Js.includes_trim_iff (by decide)] at hBrace
  refine Bool.eq_false_iff.mpr fun hBlank => ?_
  unfold Js.isBlank at hBlank
  rw [beq_iff_eq.mp hBlank] at hBrace
  exact absurd hBrace (by decide)

/-- What was written as a range is read as one, if its dates have their format. -/
theorem parseYearRange_stringifyRange (startDate endDate : String) :
    parseYearRange (some (stringifyRange startDate endDate)) =
      if isIsoDate startDate && isIsoDate endDate then some ⟨startDate, endDate⟩ else none := by
  have hParse : Json.parse (stringifyRange startDate endDate) =
      some (.obj [("startDate", .str startDate), ("endDate", .str endDate)]) :=
    Json.parse_stringifyStrings (by simp)
  have hBlank : Js.isBlank (stringifyRange startDate endDate) = false :=
    not_isBlank_stringifyStrings _
  unfold parseYearRange
  dsimp only
  rw [Option.getD_some, hBlank, hParse]
  rfl

section Building
variable {startDate endDate : Sent String} {previous value : Option String}

/-- Only a sent null clears a stored value. -/
theorem eq_null_of_write {stored : String} {sent : Sent String}
    (h : sent.write (some stored) = none) : sent = .null := by
  cases sent with
  | absent => cases h
  | null => rfl
  | value _ => cases h

/-- The three ways to a value: none at all, a text without a range that is kept, and two dates in
order. -/
theorem buildValue_cases (h : buildValue startDate endDate previous = .ok value) :
    value = none ∨ (value = previous ∧ parseYearRange previous = none) ∨
      ∃ first last, first ≤ last ∧ value = some (stringifyRange first last) := by
  unfold buildValue at h
  dsimp only at h
  cases hFirst : startDate.write ((parseYearRange previous).map YearRange.startDate) with
  | none =>
      cases hLast : endDate.write ((parseYearRange previous).map YearRange.endDate) with
      | some last => simp [hFirst, hLast] at h
      | none =>
          simp only [hFirst, hLast] at h
          split_ifs at h with hNulls
          · exact .inl (Except.ok.inj h).symm
          · refine .inr (.inl ⟨(Except.ok.inj h).symm, ?_⟩)
            cases hPrevious : parseYearRange previous with
            | none => rfl
            | some range =>
                rw [hPrevious] at hFirst hLast
                exact absurd ⟨eq_null_of_write hFirst, eq_null_of_write hLast⟩ hNulls
  | some first =>
      cases hLast : endDate.write ((parseYearRange previous).map YearRange.endDate) with
      | none => simp [hFirst, hLast] at h
      | some last =>
          simp only [hFirst, hLast] at h
          split_ifs at h with hEmpty hOrder
          exact .inr (.inr ⟨first, last, not_lt.mp hOrder, (Except.ok.inj h).symm⟩)

/-- The value of a year starts no later than it ends. -/
theorem ordered_of_buildValue (h : buildValue startDate endDate previous = .ok value)
    {range : YearRange} (hRange : parseYearRange value = some range) :
    range.startDate ≤ range.endDate := by
  rcases buildValue_cases h with rfl | ⟨rfl, hNone⟩ | ⟨first, last, hOrder, rfl⟩
  · cases hRange
  · rw [hNone] at hRange
    cases hRange
  · rw [parseYearRange_stringifyRange] at hRange
    split_ifs at hRange
    cases hRange
    exact hOrder

end Building

/-! ### Sound catalogues -/

/-- The entry is an assessment year. -/
def ReferenceDb.IsYear (db : ReferenceDb) (row : ReferenceEntryRow) : Prop :=
  ∃ category ∈ db.categories.rows, category.id = row.categoryId ∧ category.code = ASSESSMENT_YEAR

/-- Ranges have their dates in order, and those of active years have no date in common. -/
structure ReferenceDb.IsSound (db : ReferenceDb) : Prop where
  ordered : ∀ row ∈ db.entries.rows, db.IsYear row → ∀ range,
    parseYearRange row.value = some range → range.startDate ≤ range.endDate
  apart : ∀ first ∈ db.entries.rows, ∀ second ∈ db.entries.rows, first.id ≠ second.id →
    db.IsYear first → db.IsYear second → first.status = .active → second.status = .active →
      ∀ a b, parseYearRange first.value = some a → parseYearRange second.value = some b →
        Disjoint a.dates b.dates

/-- One row is new or replaces another, and all other rows are kept. -/
structure YearWritten (db after : ReferenceDb) (row : ReferenceEntryRow) : Prop where
  categories : after.categories = db.categories
  mem_iff : ∀ other, other ∈ after.entries.rows ↔
    (other ∈ db.entries.rows ∧ other.id ≠ row.id) ∨ other = row

/-- The row can stand beside the others of its category. -/
structure Fits (db : ReferenceDb) (row : ReferenceEntryRow) : Prop where
  isYear : db.IsYear row
  ordered : ∀ range, parseYearRange row.value = some range → range.startDate ≤ range.endDate
  apart : row.status = .active → ∀ next, parseYearRange row.value = some next →
    ∀ other ∈ db.entries.rows, other.id ≠ row.id → other.categoryId = row.categoryId →
      other.status = .active → ∀ range, parseYearRange other.value = some range →
        Disjoint next.dates range.dates

section Writing
variable {db after : ReferenceDb} {row first second : ReferenceEntryRow}

/-- All years are of one category. -/
theorem categoryId_eq (hFirst : db.IsYear first) (hSecond : db.IsYear second) :
    first.categoryId = second.categoryId := by
  obtain ⟨p, hp, hpId, hpCode⟩ := hFirst
  obtain ⟨q, hq, hqId, hqCode⟩ := hSecond
  have hSame : p = q :=
    eq_of_clash hp hq (Bool.or_eq_true_iff.mpr (.inr (decide_eq_true (hpCode.trans hqCode.symm))))
  rw [← hpId, ← hqId, hSame]

/-- A written year leaves which rows are years. -/
theorem YearWritten.isYear_iff (h : YearWritten db after row) (other : ReferenceEntryRow) :
    after.IsYear other ↔ db.IsYear other := by
  unfold ReferenceDb.IsYear
  rw [h.categories]

/-- The new row against one that was there. -/
theorem Fits.disjoint (h : Fits db row) (hOther : first ∈ db.entries.rows)
    (hId : first.id ≠ row.id) (hYear : db.IsYear first) (hActive : row.status = .active)
    (hOtherActive : first.status = .active)
    {a b : YearRange} (ha : parseYearRange row.value = some a)
    (hb : parseYearRange first.value = some b) : Disjoint a.dates b.dates :=
  h.apart hActive a ha first hOther hId (categoryId_eq hYear h.isYear) hOtherActive b hb

/-- A year that fits keeps the catalogue sound. -/
theorem ReferenceDb.IsSound.of_written (h : db.IsSound) (hWritten : YearWritten db after row)
    (hFits : Fits db row) : after.IsSound where
  ordered other hOther hYear range hRange := by
    rcases (hWritten.mem_iff other).mp hOther with ⟨hOld, -⟩ | rfl
    · exact h.ordered other hOld ((hWritten.isYear_iff other).mp hYear) range hRange
    · exact hFits.ordered range hRange
  apart first hFirst second hSecond hNe hFirstYear hSecondYear hFirstActive hSecondActive a b
      ha hb := by
    rw [hWritten.isYear_iff] at hFirstYear hSecondYear
    rcases (hWritten.mem_iff first).mp hFirst with ⟨hOld, hId⟩ | rfl
    · rcases (hWritten.mem_iff second).mp hSecond with ⟨hOld', -⟩ | rfl
      · exact h.apart first hOld second hOld' hNe hFirstYear hSecondYear hFirstActive
          hSecondActive a b ha hb
      · exact (hFits.disjoint hOld hId hFirstYear hSecondActive hFirstActive hb ha).symm
    · rcases (hWritten.mem_iff second).mp hSecond with ⟨hOld', hId'⟩ | rfl
      · exact hFits.disjoint hOld' hId' hSecondYear hFirstActive hSecondActive ha hb
      · exact absurd rfl hNe

end Writing

/-! ### Calls -/

section Calls
variable {db after : ReferenceDb} {id categoryId : Id} {value : Option String}
  {excludeId : Option Id} {row : ReferenceEntryRow}

/-- What is found is a stored year. -/
theorem requireAssessmentYear_ok (h : requireAssessmentYear db id = .ok row) :
    db.entries.find? id = some row ∧ db.IsYear row := by
  unfold requireAssessmentYear at h
  cases hFound : db.entries.find? id with
  | none =>
      rw [hFound] at h
      cases h
  | some entry =>
      rw [hFound] at h
      dsimp only at h
      split_ifs at h with hCategory
      cases h
      obtain ⟨category, hCategory, hCode⟩ := (Option.any_eq_true _ _).mp hCategory
      obtain ⟨hMem, hId⟩ := find?_eq_some_iff.mp hCategory
      exact ⟨rfl, category, hMem, hId, of_decide_eq_true hCode⟩

/-- What is found is the category of years. -/
theorem assessmentYearCategoryId_ok (h : assessmentYearCategoryId db = .ok categoryId) :
    ∃ category ∈ db.categories.rows, category.id = categoryId ∧
      category.code = ASSESSMENT_YEAR := by
  unfold assessmentYearCategoryId at h
  cases hFound : db.categories.findFirst? fun category => category.code = ASSESSMENT_YEAR with
  | none =>
      rw [hFound] at h
      cases h
  | some category =>
      rw [hFound] at h
      cases h
      have hCode := List.find?_some hFound
      exact ⟨category, List.mem_of_find?_eq_some hFound, rfl, of_decide_eq_true hCode⟩

/-- The check is passed by ranges apart from those of the other active rows. -/
theorem assertNoOverlap_ok (h : assertNoOverlap db categoryId value excludeId = .ok ())
    {next : YearRange} (hNext : parseYearRange value = some next)
    (hRow : row ∈ actives db categoryId excludeId) {range : YearRange}
    (hRange : parseYearRange row.value = some range) : Disjoint next.dates range.dates := by
  unfold assertNoOverlap at h
  rw [hNext] at h
  dsimp only at h
  cases hFound : (actives db categoryId excludeId).find? (overlapped next) with
  | some other =>
      rw [hFound] at h
      cases h
  | none =>
      have hNot := List.find?_eq_none.mp hFound row hRow
      unfold overlapped at hNot
      rw [hRange, Option.any_some] at hNot
      exact YearRange.disjoint_of_not_overlap (Bool.eq_false_iff.mpr hNot)

/-- An active row of the category, other than the excluded one, is among the active ones. -/
theorem mem_actives (hMem : row ∈ db.entries.rows) (hCategory : row.categoryId = categoryId)
    (hActive : row.status = .active) (hExclude : excludeId ≠ some row.id) :
    row ∈ actives db categoryId excludeId :=
  List.mem_filter.mpr ⟨hMem, decide_eq_true ⟨hCategory, hActive, hExclude⟩⟩

/-- An inserted row is a year written. -/
theorem written_of_insert {entries : KeyedTable ReferenceEntryRow} {nextId : Id}
    (h : (db.entries.insert row).mapError refused = .ok entries) :
    YearWritten db { db with entries, nextId } row where
  categories := rfl
  mem_iff other := by
    have hAdded := added_of_insert (mapError_ok h)
    rw [hAdded.mem_iff]
    refine or_congr_left (iff_self_and.mpr fun hOther hId => ?_)
    have hFresh := hAdded.fresh other hOther
    rw [KeyedRow.clash_of_key other row hId] at hFresh
    cases hFresh

/-- A row that is written in the place of one with its id. -/
theorem written_of_update {f : ReferenceEntryRow → ReferenceEntryRow}
    {entries : KeyedTable ReferenceEntryRow} (hFound : db.entries.find? id = some row)
    (hKeeps : (f row).id = row.id)
    (h : (db.entries.update id f).mapError refused = .ok entries) :
    YearWritten db { db with entries } (f row) where
  categories := rfl
  mem_iff other := by
    obtain ⟨hRow, hId⟩ := find?_eq_some_iff.mp hFound
    rw [(replaced_of_update (mapError_ok h) hRow hId hKeeps).mem_iff other]
    change (_ ∧ other.id ≠ row.id) ∨ _ ↔ _
    rw [hKeeps]

/-- A year is created only where it fits. -/
theorem createAssessmentYear_cases {dto : CreateAssessmentYearDto}
    (h : createAssessmentYear db dto = .ok after) :
    ∃ row, YearWritten db after row ∧ Fits db row := by
  obtain ⟨categoryId, hCategory, hRest⟩ := bind_ok h
  obtain ⟨_, -, hRest⟩ := bind_ok hRest
  obtain ⟨value, hValue, hRest⟩ := bind_ok hRest
  obtain ⟨_, hApart, hRest⟩ := bind_ok hRest
  obtain ⟨entries, hEntries, hReturn⟩ := bind_ok hRest
  cases hReturn
  refine ⟨_, written_of_insert hEntries, assessmentYearCategoryId_ok hCategory, ?_, ?_⟩
  · exact fun range hRange => ordered_of_buildValue hValue hRange
  · intro _ next hNext other hOther hId hSame hActive range hRange
    exact assertNoOverlap_ok hApart hNext (mem_actives hOther hSame hActive nofun) hRange

/-- An edit without dates writes none, and one with dates has had the new range checked. -/
theorem updateAssessmentYear_cases {dto : UpdateAssessmentYearDto} (hSound : db.IsSound)
    (h : updateAssessmentYear db id dto = .ok after) :
    ∃ row, YearWritten db after row ∧ Fits db row := by
  obtain ⟨existing, hExisting, hRest⟩ := bind_ok h
  obtain ⟨value, hValue, hRest⟩ := bind_ok hRest
  obtain ⟨_, hApart, hRest⟩ := bind_ok hRest
  obtain ⟨_, -, hRest⟩ := bind_ok hRest
  obtain ⟨entries, hEntries, hReturn⟩ := bind_ok hRest
  cases hReturn
  obtain ⟨hFound, hYear⟩ := requireAssessmentYear_ok hExisting
  have hMem := (find?_eq_some_iff.mp hFound).1
  refine ⟨_, written_of_update hFound rfl hEntries, hYear, ?_, ?_⟩
  · intro range hRange
    by_cases hAbsent : dto.startDate = .absent ∧ dto.endDate = .absent
    · rw [UpdateAssessmentYearDto.apply, if_pos hAbsent] at hRange
      exact hSound.ordered existing hMem hYear range hRange
    · rw [UpdateAssessmentYearDto.apply, if_neg hAbsent] at hRange
      exact ordered_of_buildValue hValue hRange
  · intro hActive next hNext other hOther hId hSame hOtherActive range hRange
    by_cases hAbsent : dto.startDate = .absent ∧ dto.endDate = .absent
    · rw [UpdateAssessmentYearDto.apply, if_pos hAbsent] at hNext
      have hOtherYear : db.IsYear other := by
        obtain ⟨category, hCategory, hCategoryId, hCode⟩ := hYear
        exact ⟨category, hCategory, hCategoryId.trans hSame.symm, hCode⟩
      exact hSound.apart existing hMem other hOther (Ne.symm hId) hYear hOtherYear hActive
        hOtherActive next range hNext hRange
    · rw [UpdateAssessmentYearDto.apply, if_neg hAbsent] at hNext
      rw [assertStaysApart, if_pos (show existing.status = .active from hActive)] at hApart
      refine assertNoOverlap_ok hApart hNext (mem_actives hOther hSame hOtherActive ?_) hRange
      exact fun hExcluded => hId (Option.some.inj hExcluded).symm

/-- A year is activated only where it fits. -/
theorem activateAssessmentYear_cases (hSound : db.IsSound)
    (h : activateAssessmentYear db id = .ok after) :
    ∃ row, YearWritten db after row ∧ Fits db row := by
  obtain ⟨existing, hExisting, hRest⟩ := bind_ok h
  obtain ⟨_, hApart, hRest⟩ := bind_ok hRest
  obtain ⟨entries, hEntries, hReturn⟩ := bind_ok hRest
  cases hReturn
  obtain ⟨hFound, hYear⟩ := requireAssessmentYear_ok hExisting
  obtain ⟨hMem, hKey⟩ := find?_eq_some_iff.mp hFound
  refine ⟨_, written_of_update hFound rfl hEntries, hYear, ?_, ?_⟩
  · exact fun range hRange => hSound.ordered existing hMem hYear range hRange
  · intro _ next hNext other hOther hId hSame hOtherActive range hRange
    refine assertNoOverlap_ok hApart hNext (mem_actives hOther hSame hOtherActive ?_) hRange
    exact fun hExcluded => hId ((Option.some.inj hExcluded).symm.trans hKey.symm)

/-- A deactivated year fits. -/
theorem deactivateAssessmentYear_cases (hSound : db.IsSound)
    (h : deactivateAssessmentYear db id = .ok after) :
    ∃ row, YearWritten db after row ∧ Fits db row := by
  obtain ⟨existing, hExisting, hRest⟩ := bind_ok h
  obtain ⟨entries, hEntries, hReturn⟩ := bind_ok hRest
  cases hReturn
  obtain ⟨hFound, hYear⟩ := requireAssessmentYear_ok hExisting
  refine ⟨_, written_of_update hFound rfl hEntries, hYear, fun range hRange => ?_, nofun⟩
  exact hSound.ordered existing (find?_eq_some_iff.mp hFound).1 hYear range hRange

/-- The year that goes is in no other table. -/
theorem deleteAssessmentYear_ok {references : YearReferences}
    (h : deleteAssessmentYear references db id = .ok after) :
    (id ∉ references.taxConfigs ∧ id ∉ references.demands ∧ id ∉ references.payments) ∧
      after = { db with entries := db.entries.restrict fun row => row.id ≠ id } := by
  obtain ⟨existing, -, hRest⟩ := bind_ok h
  obtain ⟨_, hFree, hReturn⟩ := bind_ok hRest
  cases hReturn
  refine ⟨?_, rfl⟩
  unfold assertUnreferenced at hFree
  split_ifs at hFree with hCounted
  simpa only [not_or, gt_iff_lt, List.count_pos_iff] using hCounted

end Calls

/-! ### Runs -/

inductive YearCall where
  | createAssessmentYear (dto : CreateAssessmentYearDto)
  | updateAssessmentYear (id : Id) (dto : UpdateAssessmentYearDto)
  | activateAssessmentYear (id : Id)
  | deactivateAssessmentYear (id : Id)
  | deleteAssessmentYear (id : Id)

/-- A call, and what refers to the years when it is made. -/
structure YearRequest where
  call : YearCall
  references : YearReferences

def YearRequest.perform (request : YearRequest) (db : ReferenceDb) : Except YearError ReferenceDb :=
  match request.call with
  | .createAssessmentYear dto => createAssessmentYear db dto
  | .updateAssessmentYear id dto => updateAssessmentYear db id dto
  | .activateAssessmentYear id => activateAssessmentYear db id
  | .deactivateAssessmentYear id => deactivateAssessmentYear db id
  | .deleteAssessmentYear id => deleteAssessmentYear request.references db id

/-- The catalogue after a call; one that throws has written nothing. -/
def catalogueAfter (db : ReferenceDb) (request : YearRequest) : ReferenceDb :=
  match request.perform db with
  | .ok after => after
  | .error _ => db

/-- A tax config, a demand or a payment refers to the year. -/
def YearReferences.Uses (references : YearReferences) (id : Id) : Prop :=
  id ∈ references.taxConfigs ∨ id ∈ references.demands ∨ id ∈ references.payments

/-- Entries that are in use outlive the call. -/
def KeepsUsed (db : ReferenceDb) (request : YearRequest) : Prop :=
  ∀ row ∈ db.entries.rows, request.references.Uses row.id →
    ∃ kept ∈ (catalogueAfter db request).entries.rows, kept.id = row.id

section Running
variable {db : ReferenceDb}

/-- Everything that a call can do: nothing, one row that fits, or one unused row less. -/
theorem catalogueAfter_cases (hSound : db.IsSound) (request : YearRequest) :
    catalogueAfter db request = db ∨
      (∃ row, YearWritten db (catalogueAfter db request) row ∧ Fits db row) ∨
        ∃ id, ¬request.references.Uses id ∧ catalogueAfter db request =
          { db with entries := db.entries.restrict fun row => row.id ≠ id } := by
  unfold catalogueAfter
  cases hPerform : request.perform db with
  | error error => exact .inl rfl
  | ok after =>
      dsimp only
      unfold YearRequest.perform at hPerform
      cases hCall : request.call with
      | createAssessmentYear dto =>
          rw [hCall] at hPerform
          exact .inr (.inl (createAssessmentYear_cases hPerform))
      | updateAssessmentYear id dto =>
          rw [hCall] at hPerform
          exact .inr (.inl (updateAssessmentYear_cases hSound hPerform))
      | activateAssessmentYear id =>
          rw [hCall] at hPerform
          exact .inr (.inl (activateAssessmentYear_cases hSound hPerform))
      | deactivateAssessmentYear id =>
          rw [hCall] at hPerform
          exact .inr (.inl (deactivateAssessmentYear_cases hSound hPerform))
      | deleteAssessmentYear id =>
          rw [hCall] at hPerform
          obtain ⟨⟨hConfigs, hDemands, hPayments⟩, hAfter⟩ := deleteAssessmentYear_ok hPerform
          refine .inr (.inr ⟨id, ?_, hAfter⟩)
          rintro (hUsed | hUsed | hUsed)
          · exact hConfigs hUsed
          · exact hDemands hUsed
          · exact hPayments hUsed

/-- One call keeps the catalogue sound, and every entry that is in use. -/
theorem catalogueAfter_sound (hSound : db.IsSound) (request : YearRequest) :
    (catalogueAfter db request).IsSound ∧ KeepsUsed db request := by
  unfold KeepsUsed
  rcases catalogueAfter_cases hSound request with
    hSame | ⟨row, hWritten, hFits⟩ | ⟨id, hFree, hAfter⟩
  · rw [hSame]
    exact ⟨hSound, fun row hRow _ => ⟨row, hRow, rfl⟩⟩
  · refine ⟨hSound.of_written hWritten hFits, fun old hOld _ => ?_⟩
    by_cases hId : old.id = row.id
    · exact ⟨row, (hWritten.mem_iff row).mpr (.inr rfl), hId.symm⟩
    · exact ⟨old, (hWritten.mem_iff old).mpr (.inl ⟨hOld, hId⟩), rfl⟩
  · rw [hAfter]
    have hLess {row : ReferenceEntryRow}
        (h : row ∈ (db.entries.restrict fun row => row.id ≠ id).rows) : row ∈ db.entries.rows :=
      List.mem_of_mem_filter h
    refine ⟨⟨fun row hRow => hSound.ordered row (hLess hRow), fun first hFirst second hSecond =>
      hSound.apart first (hLess hFirst) second (hLess hSecond)⟩, fun row hRow hUsed => ?_⟩
    have hOther : row.id ≠ id := by
      rintro rfl
      exact hFree hUsed
    exact ⟨row, List.mem_filter.mpr ⟨hRow, decide_eq_true hOther⟩, rfl⟩

end Running

/-- In every state of a run active years have no date in common and ranges have their dates in
order, and no call deletes a year that a tax config, a demand or a payment refers to. -/
theorem assessment_years_apart {db : ReferenceDb} (hSound : db.IsSound)
    (requests : List YearRequest) :
    (∀ reached, reached <+: requests → (run catalogueAfter db reached).IsSound) ∧
      Along catalogueAfter KeepsUsed db requests := by
  constructor
  · intro reached _
    exact run_invariant ReferenceDb.IsSound
      (fun _ request hState => (catalogueAfter_sound hState request).1) hSound reached
  · exact along_of_invariant ReferenceDb.IsSound
      (fun _ request hState => catalogueAfter_sound hState request) hSound requests

/-! ### The installation -/

/-- The years of the installation, whose values are no ranges. -/
def seededYears : List ReferenceEntryRow :=
  [{ id := 1, categoryId := 0, code := "AY_2025_2026", name := "2025-2026",
     value := some "2025-2026", sortOrder := 1 },
   { id := 2, categoryId := 0, code := "AY_2026_2027", name := "2026-2027",
     value := some "2026-2027", sortOrder := 2 }]

def seededCatalogue : ReferenceDb where
  categories := ⟨[⟨0, ReferenceService.ASSESSMENT_YEAR⟩], List.pairwise_singleton _ _⟩
  entries := ⟨seededYears, by decide⟩
  nextId := 3

/-- The seeded catalogue is sound. -/
theorem seededCatalogue_isSound : seededCatalogue.IsSound := by
  have hPlain : ∀ row ∈ seededYears, parseYearRange row.value = none := by decide +kernel
  constructor
  · intro row hRow _ range hRange
    rw [hPlain row hRow] at hRange
    cases hRange
  · intro first hFirst _ _ _ _ _ _ _ a _ ha
    rw [hPlain first hFirst] at ha
    cases ha

namespace Sample

def thisYear : UpdateAssessmentYearDto :=
  { startDate := .value "2025-04-01", endDate := .value "2026-03-31" }

/-- Dates for a year, one date of another that would end before it starts, the same dates for the
other, and a deletion of the first that is in use. -/
def yearRequests : List YearRequest :=
  [⟨.updateAssessmentYear 1 thisYear, {}⟩,
   ⟨.updateAssessmentYear 2 { startDate := .value "2026-04-01" }, {}⟩,
   ⟨.deactivateAssessmentYear 2, {}⟩,
   ⟨.updateAssessmentYear 2 thisYear, {}⟩,
   ⟨.activateAssessmentYear 2, {}⟩,
   ⟨.deleteAssessmentYear 1, { demands := [1] }⟩]

end Sample

/-- The installation, and years that would overlap. -/
theorem seeded_years_apart :
    (run catalogueAfter seededCatalogue Sample.yearRequests).IsSound ∧
      Along catalogueAfter KeepsUsed seededCatalogue Sample.yearRequests ∧
      (run catalogueAfter seededCatalogue Sample.yearRequests).entries.rows.map
        (fun row => (row.id, row.status)) = [(1, .active), (2, .inactive)] := by
  obtain ⟨hAlways, hUsed⟩ := assessment_years_apart seededCatalogue_isSound Sample.yearRequests
  exact ⟨hAlways _ (List.prefix_refl _), hUsed, by decide +kernel⟩

end PropertyTax
