import PropertyTax.Ledger.Reconciled

/-! One publish among payments. The publisher reads the demand, then the sum of
the successful payments, and writes in a later statement, without a lock and
without a transaction; payments come between these steps. -/
namespace PropertyTax
open KeyedTable Relation Runs

/-- How far a publisher has come. -/
inductive Publisher where
  | start
  | foundDemand (existing : Option PropertyDemand)
  | summed (existing : Option PropertyDemand) (amountPaid : ℚ)
  | checked (read : PublishRead)
  | finished (result : Except ApiError Id)

/-- The next statement of `upsertPublishedDemandForSurvey`. -/
def Publisher.next (ctx : Context) (input : PublishInput) (db : Db) :
    Publisher → Publisher × Db
  | .start => (.foundDemand (db.demandFor? input.survey.id input.assessmentYearId), db)
  | .foundDemand existing =>
      if input.survey.zoneIsFunction then (.finished (.error zoneTypeError), db)
      else (.summed existing (sumSuccessPayments input.survey.id input.assessmentYearId db), db)
  | .summed existing amountPaid =>
      let priorYearIssue :=
        hasPriorYearPaymentsWithoutDemand input.survey.id input.assessmentYearId db
      (.checked { existing, amountPaid, priorYearIssue }, db)
  | .checked read =>
      (.finished (storePublishedDemand ctx input read db).2,
        (storePublishedDemand ctx input read db).1)
  | .finished result => (.finished result, db)

/-- The publisher has finished with a demand. -/
def Publisher.hasPublished : Publisher → Bool
  | .finished (.ok _) => true
  | _ => false

structure Publishing where
  publisher : Publisher
  db : Db

/-- A statement of the publisher, or a whole call. -/
inductive Move where
  | publisher
  | call (call : Call)

def Publishing.move (ctx : Context) (input : PublishInput) (s : Publishing) : Move → Publishing
  | .publisher => ⟨(s.publisher.next ctx input s.db).1, (s.publisher.next ctx input s.db).2⟩
  | .call call => ⟨s.publisher, perform s.db call⟩

def Move.IsPayment : Move → Prop
  | .publisher => True
  | .call c => c.IsPayment ∧ ¬ c.IsRefund

def Move.InPaise : Move → Prop
  | .publisher => True
  | .call c => c.InPaise

/-- A publisher that nothing comes between is the service's upsert. -/
theorem publisher_uninterrupted (ctx : Context) (input : PublishInput) (db : Db) :
    (run (Publishing.move ctx input) ⟨.start, db⟩
      [.publisher, .publisher, .publisher, .publisher]).db =
      (upsertPublishedDemandForSurvey ctx input db).1 := by
  by_cases hZone : input.survey.zoneIsFunction
  · simp only [run_cons, run_nil, Publishing.move, Publisher.next, upsertPublishedDemandForSurvey,
      if_pos hZone]
  · simp only [run_cons, run_nil, Publishing.move, Publisher.next, upsertPublishedDemandForSurvey,
      if_neg hZone, PublishInput.read]

/-- The sum is read if the dues could be computed. -/
theorem move_foundDemand_cases (ctx : Context) (input : PublishInput)
    (existing : Option PropertyDemand) (db : Db) :
    Publishing.move ctx input ⟨.foundDemand existing, db⟩ .publisher =
        ⟨.finished (.error zoneTypeError), db⟩ ∨
      Publishing.move ctx input ⟨.foundDemand existing, db⟩ .publisher =
        ⟨.summed existing (sumSuccessPayments input.survey.id input.assessmentYearId db), db⟩ := by
  by_cases hZone : input.survey.zoneIsFunction
  · exact Or.inl (by simp only [Publishing.move, Publisher.next, if_pos hZone])
  · exact Or.inr (by simp only [Publishing.move, Publisher.next, if_neg hZone])

/-- The write is refused and changes nothing, or goes through. -/
theorem move_checked_cases (ctx : Context) (input : PublishInput) (read : PublishRead) (db : Db) :
    (∃ error, Publishing.move ctx input ⟨.checked read, db⟩ .publisher =
        ⟨.finished (.error error), db⟩) ∨
      ∃ after demandId, writePublishedDemand ctx input read db = .ok (after, demandId) ∧
        Publishing.move ctx input ⟨.checked read, db⟩ .publisher =
          ⟨.finished (.ok demandId), after⟩ := by
  rcases storePublishedDemand_cases ctx input read db with
    ⟨error, hStore⟩ | ⟨after, demandId, hWrite, hStore⟩
  · exact Or.inl ⟨error, by simp only [Publishing.move, Publisher.next, hStore]⟩
  · exact Or.inr ⟨after, demandId, hWrite, by simp only [Publishing.move, Publisher.next, hStore]⟩

/-! ### Until the write -/

/-- The demand that the publisher has read. -/
def Publisher.found : Publisher → Option PropertyDemand
  | .foundDemand existing => existing
  | .summed existing _ => existing
  | .checked read => read.existing
  | _ => none

/-- The sum that the publisher has read. -/
def Publisher.paid : Publisher → Option ℚ
  | .summed _ amountPaid => some amountPaid
  | .checked read => some read.amountPaid
  | _ => none

/-- The ledger is in order, and what the publisher has read is a demand of its
survey and year and an amount in paise. -/
structure Steady (input : PublishInput) (s : Publishing) : Prop where
  wellFormed : s.db.ledger.WellFormed
  sound : s.db.ledger.Sound
  found : ∀ existing, s.publisher.found = some existing → ∃ d ∈ s.db.demands.rows,
    d.id = existing.id ∧ d.surveyId = input.survey.id ∧
      d.assessmentYearId = input.assessmentYearId
  paid : ∀ amountPaid, s.publisher.paid = some amountPaid → ∃ m : Money, amountPaid = toMoney m

section Moves
variable {ctx : Context} {input : PublishInput} {s : Publishing}

/-- A payment call leaves the ledger sound, and every demand in its place. -/
theorem perform_sound {db : Db} {call : Call} (hWf : db.ledger.WellFormed)
    (hSound : db.ledger.Sound) (hPayment : call.IsPayment) (hRefund : ¬ call.IsRefund) :
    (perform db call).ledger.WellFormed ∧ (perform db call).ledger.Sound ∧
      Keeps db.demands (perform db call).demands :=
  steps_invariant (fun l => l.WellFormed ∧ l.Sound ∧ Keeps db.demands l.demands)
    (fun _ _ h hStep => ⟨hStep.wellFormed h.1, hStep.sound h.2.1, h.2.2.trans hStep.keeps.1⟩)
    (perform_paymentSteps hWf hPayment hRefund) ⟨hWf, hSound, Keeps.refl _⟩

/-- What the write does, whatever happened since the reads: the demand is
published with the sum that was read. -/
theorem Steady.write {read : PublishRead} {after : Db} {demandId : Id}
    (hSteady : Steady input s) (hChecked : s.publisher = .checked read) {paid : Money}
    (hPaid : read.amountPaid = toMoney paid)
    (hWrite : writePublishedDemand ctx input read s.db = .ok (after, demandId)) :
    after.ledger.WellFormed ∧ after.ledger.Sound ∧ after.payments = s.db.payments ∧
      ∃ d ∈ after.demands.rows, d.surveyId = input.survey.id ∧
        d.assessmentYearId = input.assessmentYearId ∧ d.status = .published ∧
        d.amountPaid = max 0 paid := by
  obtain ⟨hPayments, hArrears, hDemand⟩ := writePublishedDemand_ok hWrite
  obtain ⟨new, hKeeps, hRows, hNew, hSurvey, hYear, hFrom⟩ : ∃ new,
      Keeps s.db.demands after.demands ∧
      (∀ d ∈ after.demands.rows, d.Balanced) ∧ new ∈ after.demands.rows ∧
      new.surveyId = input.survey.id ∧ new.assessmentYearId = input.assessmentYearId ∧
      PublishedFrom (input.arrears read.existing) paid new := by
    rcases hDemand with ⟨existing, d, hExisting, hId, hReplaced⟩ | ⟨_, hAdded⟩
    · have hFrom := publishedDemandData_from ctx input hPaid d
      obtain ⟨e, he, heId, hSurvey, hYear⟩ := hSteady.found existing (by
        rw [hChecked]
        exact hExisting)
      have hSame : d = e := eq_of_key hReplaced.mem_old he (hId.trans heId.symm)
      exact ⟨_, Keeps.of_replaced hReplaced ⟨rfl, rfl, rfl, fun _ => rfl⟩,
        hReplaced.forall_rows hSteady.sound.balanced hFrom.balanced, hReplaced.mem_new,
        hSame ▸ hSurvey, hSame ▸ hYear, hFrom⟩
    · have hFrom := publishedDemandData_from ctx input hPaid
        { id := s.db.nextId, surveyId := input.survey.id,
          assessmentYearId := input.assessmentYearId }
      exact ⟨_, Keeps.of_added hAdded,
        hAdded.forall_rows hSteady.sound.balanced hFrom.balanced, hAdded.mem_row, rfl, rfl, hFrom⟩
  have hSame : after.ledger.payments = s.db.ledger.payments := hPayments
  refine ⟨⟨?_, hSteady.wellFormed.owned.of_keeps hArrears hKeeps⟩, ⟨hRows, ?_, ?_⟩, hPayments,
    new, hNew, hSurvey, hYear, hFrom.status, hFrom.amountPaid⟩
  · rw [hSame]
    exact hSteady.wellFormed.snapshots
  · rw [hSame]
    exact fun p hp => (hSteady.sound.linked p hp).keeps hKeeps
  · rw [hSame]
    exact hSteady.sound.amounts

theorem steady_finished {db : Db} {result : Except ApiError Id} (hWf : db.ledger.WellFormed)
    (hSound : db.ledger.Sound) : Steady input ⟨.finished result, db⟩ where
  wellFormed := hWf
  sound := hSound
  found _ hFound := by cases hFound
  paid _ hPaid := by cases hPaid

/-- Neither the publisher's own steps nor payments take the ledger's soundness from it. -/
theorem move_steady (hSteady : Steady input s) {m : Move} (hMove : m.IsPayment) :
    Steady input (s.move ctx input m) := by
  cases m with
  | call call =>
      obtain ⟨hWf, hSound, hKeeps⟩ :=
        perform_sound hSteady.wellFormed hSteady.sound hMove.1 hMove.2
      refine ⟨hWf, hSound, fun existing hFound => ?_, hSteady.paid⟩
      obtain ⟨d, hd, hId, hSurvey, hYear⟩ := hSteady.found existing hFound
      obtain ⟨d', hd', hKept⟩ := hKeeps d hd
      exact ⟨d', hd', hKept.id.trans hId, hKept.surveyId.trans hSurvey,
        hKept.assessmentYearId.trans hYear⟩
  | publisher =>
      obtain ⟨publisher, db⟩ := s
      have hWf : db.ledger.WellFormed := hSteady.wellFormed
      have hSound : db.ledger.Sound := hSteady.sound
      cases publisher with
      | start =>
          refine ⟨hWf, hSound, fun existing hFound => ?_, fun _ hPaid => by cases hPaid⟩
          obtain ⟨hMem, hSurvey, hYear⟩ := Db.demandFor?_spec hFound
          exact ⟨existing, hMem, rfl, hSurvey, hYear⟩
      | foundDemand existing =>
          rcases move_foundDemand_cases ctx input existing db with hNext | hNext
          · rw [hNext]
            exact steady_finished hWf hSound
          · rw [hNext]
            refine ⟨hWf, hSound, hSteady.found, fun amountPaid hPaid => ?_⟩
            exact ⟨_, (Option.some.inj hPaid).symm⟩
      | summed existing amountPaid => exact ⟨hWf, hSound, hSteady.found, hSteady.paid⟩
      | checked read =>
          obtain ⟨paid, hPaid⟩ := hSteady.paid read.amountPaid rfl
          rcases move_checked_cases ctx input read db with
            ⟨error, hNext⟩ | ⟨after, demandId, hWrite, hNext⟩
          · rw [hNext]
            exact steady_finished hWf hSound
          · obtain ⟨hWf', hSound', _⟩ := hSteady.write rfl hPaid hWrite
            rw [hNext]
            exact steady_finished hWf' hSound'
      | finished result => exact ⟨hWf, hSound, hSteady.found, hSteady.paid⟩

/-- The publisher keeps the sum it has read until it has finished. -/
theorem move_paid {amountPaid : ℚ}
    (h : s.publisher.paid = some amountPaid ∨ ∃ result, s.publisher = .finished result)
    (m : Move) : (s.move ctx input m).publisher.paid = some amountPaid ∨
      ∃ result, (s.move ctx input m).publisher = .finished result := by
  cases m with
  | call call => exact h
  | publisher =>
      obtain ⟨publisher, db⟩ := s
      rcases h with hPaid | ⟨result, hFinished⟩
      · cases publisher with
        | summed existing _ => exact Or.inl hPaid
        | checked read =>
            rcases move_checked_cases ctx input read db with ⟨error, hNext⟩ | ⟨_, _, _, hNext⟩
            · exact Or.inr ⟨_, by rw [hNext]⟩
            · exact Or.inr ⟨_, by rw [hNext]⟩
        | _ => cases hPaid
      · refine Or.inr ⟨result, ?_⟩
        cases hFinished
        rfl

/-! ### After the write -/

/-- The demand has been published and shows `gap` more as paid than has been. -/
structure Written (input : PublishInput) (gap : Money) (s : Publishing) : Prop where
  finished : ∃ result, s.publisher = .finished result
  wellFormed : s.db.ledger.WellFormed
  sound : s.db.ledger.Sound
  demand : ∃ d ∈ s.db.demands.rows, d.surveyId = input.survey.id ∧
    d.assessmentYearId = input.assessmentYearId ∧ d.status = .published ∧
    excess s.db.ledger d = gap

/-- Payments keep the gap that the write has left. -/
theorem move_written {gap : Money} (h : Written input gap s) {m : Move} (hMove : m.IsPayment) :
    Written input gap (s.move ctx input m) := by
  cases m with
  | publisher =>
      obtain ⟨publisher, db⟩ := s
      obtain ⟨⟨result, hFinished⟩, hWf, hSound, hDemand⟩ := h
      cases hFinished
      exact ⟨⟨result, rfl⟩, hWf, hSound, hDemand⟩
  | call call =>
      obtain ⟨hFinished, hWf, hSound, hDemand⟩ := h
      have hFinal := steps_invariant
        (fun l => l.WellFormed ∧ l.Sound ∧ ∃ d ∈ l.demands.rows,
          d.surveyId = input.survey.id ∧ d.assessmentYearId = input.assessmentYearId ∧
          d.status = .published ∧ excess l d = gap) ?_
        (perform_paymentSteps hWf hMove.1 hMove.2) ⟨hWf, hSound, hDemand⟩
      · exact ⟨hFinished, hFinal.1, hFinal.2.1, hFinal.2.2⟩
      · rintro l l' ⟨hWf, hSound, d, hd, hSurvey, hYear, hStatus, hGap⟩ hStep
        refine ⟨hStep.wellFormed hWf, hStep.sound hSound, ?_⟩
        obtain ⟨d', hd', hKept⟩ := hStep.keeps.1 d hd
        obtain ⟨e, he, hKept', _, hExcess⟩ :=
          hStep.excess_eq hSound d' hd' (hKept.published hStatus)
        have hSame : e = d := eq_of_key he hd (hKept'.id.symm.trans hKept.id)
        exact ⟨d', hd', hKept.surveyId.trans hSurvey, hKept.assessmentYearId.trans hYear,
          hKept.published hStatus, by rw [hExcess, hSame, hGap]⟩

end Moves

/-! ### Every interleaving -/

section Interleaving
variable {ctx : Context} {input : PublishInput}

/-- A schedule up to its sum, from the sum to the write, and after the write. -/
structure Schedule where
  earlier : List Move
  between : List Move
  later : List Move

namespace Schedule
variable (schedule : Schedule) (ctx : Context) (input : PublishInput) (db : Db)

/-- All moves are statements of the publisher and payments. -/
def OfPayments : Prop :=
  (∀ m ∈ schedule.earlier, m.IsPayment) ∧ (∀ m ∈ schedule.between, m.IsPayment) ∧
    ∀ m ∈ schedule.later, m.IsPayment

/-- The state in which the publisher reads the sum. -/
def atSum : Publishing := run (Publishing.move ctx input) ⟨.start, db⟩ schedule.earlier

/-- The state in which the publisher writes. -/
def atWrite : Publishing :=
  run (Publishing.move ctx input) ((schedule.atSum ctx input db).move ctx input .publisher)
    schedule.between

def final : Publishing :=
  run (Publishing.move ctx input) ((schedule.atWrite ctx input db).move ctx input .publisher)
    schedule.later

/-- The states are those of a publisher whose write succeeds. -/
structure Publishes : Prop where
  sums : ∃ existing, (schedule.atSum ctx input db).publisher = .foundDemand existing
  writes : ∃ read, (schedule.atWrite ctx input db).publisher = .checked read
  succeeds :
    ((schedule.atWrite ctx input db).move ctx input .publisher).publisher.hasPublished = true

/-- All moves in order. -/
def moves : List Move :=
  schedule.earlier ++ .publisher :: (schedule.between ++ .publisher :: schedule.later)

/-- A schedule is run move after move. -/
theorem final_eq_run :
    schedule.final ctx input db =
      run (Publishing.move ctx input) ⟨.start, db⟩ schedule.moves := by
  rw [moves, run_append, run_cons, run_append, run_cons]
  rfl

end Schedule

/-! Every interleaving in which the publisher finishes with a demand has the
form of a schedule. -/

/-- A publisher that is done stays done, whatever comes after. -/
theorem run_finished {db : Db} {result : Except ApiError Id} (moves : List Move) :
    (run (Publishing.move ctx input) ⟨.finished result, db⟩ moves).publisher =
      .finished result := by
  induction moves generalizing db with
  | nil => rfl
  | cons m rest ih => cases m <;> exact ih

/-- A publisher that has its sum and ends with a publication writes at some move in between. -/
theorem exists_write {s : Publishing} {moves : List Move} (hPaid : s.publisher.paid ≠ none)
    (hFinal : (run (Publishing.move ctx input) s moves).publisher.hasPublished = true) :
    ∃ between later read, moves = between ++ .publisher :: later ∧
      (run (Publishing.move ctx input) s between).publisher = .checked read ∧
      ((run (Publishing.move ctx input) s between).move ctx input .publisher).publisher.hasPublished
        = true := by
  induction moves generalizing s with
  | nil =>
      obtain ⟨publisher, db⟩ := s
      cases publisher with
      | finished result => exact absurd rfl hPaid
      | _ => cases hFinal
  | cons m rest ih =>
      have step (hNext : (s.move ctx input m).publisher.paid ≠ none) :
          ∃ between later read, m :: rest = between ++ .publisher :: later ∧
            (run (Publishing.move ctx input) s between).publisher = .checked read ∧
            ((run (Publishing.move ctx input) s between).move ctx input
              .publisher).publisher.hasPublished = true := by
        obtain ⟨between, later, read, hRest, hRead, hDone⟩ := ih hNext hFinal
        exact ⟨m :: between, later, read, by rw [hRest, List.cons_append], hRead, hDone⟩
      cases m with
      | call call => exact step hPaid
      | publisher =>
          obtain ⟨publisher, db⟩ := s
          cases publisher with
          | summed existing amountPaid => exact step (by simp [Publishing.move, Publisher.next,
              Publisher.paid])
          | checked read =>
              refine ⟨[], rest, read, rfl, rfl, ?_⟩
              rcases move_checked_cases ctx input read db with
                ⟨error, hNext⟩ | ⟨after, demandId, -, hNext⟩
              · rw [run_cons, hNext, run_finished] at hFinal
                cases hFinal
              · rw [run_nil, hNext]
                rfl
          | _ => exact absurd rfl hPaid

/-- A publisher that ends with a publication reads its sum at some move before. -/
theorem exists_sum {s : Publishing} {moves : List Move}
    (hEarly : s.publisher = .start ∨ ∃ existing, s.publisher = .foundDemand existing)
    (hFinal : (run (Publishing.move ctx input) s moves).publisher.hasPublished = true) :
    ∃ earlier rest existing, moves = earlier ++ .publisher :: rest ∧
      (run (Publishing.move ctx input) s earlier).publisher = .foundDemand existing := by
  induction moves generalizing s with
  | nil =>
      rw [run_nil] at hFinal
      rcases hEarly with hStart | ⟨existing, hFound⟩
      · rw [hStart] at hFinal
        cases hFinal
      · rw [hFound] at hFinal
        cases hFinal
  | cons m rest ih =>
      have step (hNext : (s.move ctx input m).publisher = .start ∨
          ∃ existing, (s.move ctx input m).publisher = .foundDemand existing) :
          ∃ earlier later existing, m :: rest = earlier ++ .publisher :: later ∧
            (run (Publishing.move ctx input) s earlier).publisher = .foundDemand existing := by
        obtain ⟨earlier, later, existing, hRest, hFound⟩ := ih hNext hFinal
        exact ⟨m :: earlier, later, existing, by rw [hRest, List.cons_append], hFound⟩
      cases m with
      | call call => exact step hEarly
      | publisher =>
          rcases hEarly with hStart | ⟨existing, hFound⟩
          · exact step (Or.inr ⟨_, by rw [Publishing.move, hStart]; rfl⟩)
          · exact ⟨[], rest, existing, rfl, hFound⟩

/-- Every run in which the publisher ends with a publication is a schedule. -/
theorem exists_schedule {db : Db} {moves : List Move}
    (hFinal : (run (Publishing.move ctx input) ⟨.start, db⟩ moves).publisher.hasPublished = true) :
    ∃ schedule : Schedule, schedule.moves = moves ∧ schedule.Publishes ctx input db := by
  obtain ⟨earlier, rest, existing, hMoves, hFound⟩ := exists_sum (Or.inl rfl) hFinal
  rw [hMoves, run_append, run_cons] at hFinal
  obtain ⟨db', hState⟩ : ∃ db', run (Publishing.move ctx input) ⟨.start, db⟩ earlier =
      ⟨.foundDemand existing, db'⟩ := ⟨_, congrArg (Publishing.mk · _) hFound⟩
  obtain ⟨between, later, read, hRest, hRead, hDone⟩ := exists_write (by
    rcases move_foundDemand_cases ctx input existing db' with hNext | hNext
    · rw [hState, hNext, run_finished] at hFinal
      cases hFinal
    · rw [hState, hNext]
      exact Option.some_ne_none _) hFinal
  exact ⟨⟨earlier, between, later⟩, by rw [hMoves, hRest, Schedule.moves], ⟨existing, hFound⟩,
    ⟨read, hRead⟩, hDone⟩

variable {schedule : Schedule} {db : Db}

/-- A run of payments and publisher's steps keeps the ledger sound. -/
theorem runSteady {s : Publishing} {moves : List Move} (h : Steady input s)
    (hMoves : ∀ m ∈ moves, m.IsPayment) : Steady input (run (Publishing.move ctx input) s moves) :=
  run_invariant_along (Steady input) (fun _ _ h hMove => move_steady h hMove) h
    (along_of_forall Move.IsPayment hMoves)

theorem steady_atSum (hWf : db.ledger.WellFormed) (hSound : db.ledger.Sound)
    (hPayments : schedule.OfPayments) : Steady input (schedule.atSum ctx input db) := by
  refine runSteady ⟨hWf, hSound, ?_, ?_⟩ hPayments.1
  · intro existing hFound
    cases hFound
  · intro amountPaid hPaid
    cases hPaid

theorem steady_atWrite (hWf : db.ledger.WellFormed) (hSound : db.ledger.Sound)
    (hPayments : schedule.OfPayments) : Steady input (schedule.atWrite ctx input db) :=
  runSteady (move_steady (steady_atSum hWf hSound hPayments) trivial) hPayments.2.1

/-- The sum that is written is the sum that was read. -/
theorem paid_atWrite {existing : Option PropertyDemand} {read : PublishRead}
    (hSums : (schedule.atSum ctx input db).publisher = .foundDemand existing)
    (hWrites : (schedule.atWrite ctx input db).publisher = .checked read) :
    read.amountPaid = toMoney (successSum (schedule.atSum ctx input db).db.payments
      input.survey.id input.assessmentYearId) := by
  obtain ⟨db', hState⟩ : ∃ db', schedule.atSum ctx input db = ⟨.foundDemand existing, db'⟩ :=
    ⟨_, congrArg (Publishing.mk · _) hSums⟩
  have hSummed : ((schedule.atSum ctx input db).move ctx input .publisher).publisher.paid =
      some (sumSuccessPayments input.survey.id input.assessmentYearId
        (schedule.atSum ctx input db).db) := by
    rw [hState]
    rcases move_foundDemand_cases ctx input existing db' with hNext | hNext
    · rw [Schedule.atWrite, hState, hNext, run_finished] at hWrites
      cases hWrites
    · rw [hNext]
      rfl
  have hKept := @run_invariant _ _ (Publishing.move ctx input)
    (fun s => s.publisher.paid = _ ∨ ∃ result, s.publisher = .finished result)
    (fun s m h => move_paid h m) _ (Or.inl hSummed) schedule.between
  change (schedule.atWrite ctx input db).publisher.paid = _ ∨
    ∃ result, (schedule.atWrite ctx input db).publisher = .finished result at hKept
  rw [hWrites] at hKept
  rcases hKept with hSome | ⟨result, hFinished⟩
  · exact Option.some.inj hSome
  · cases hFinished

/-- The write leaves the demand with the sum that was read, so it lags behind the payments by what
has been paid since. -/
theorem written_of_move {s : Publishing} {read : PublishRead} {paid : Money}
    (hSteady : Steady input s) (hWrites : s.publisher = .checked read)
    (hSucceeds : (s.move ctx input .publisher).publisher.hasPublished = true)
    (hPaid : read.amountPaid = toMoney paid) (hNonneg : 0 ≤ paid) :
    Written input (paid - successSum s.db.payments input.survey.id input.assessmentYearId)
      (s.move ctx input .publisher) := by
  obtain ⟨publisher, db⟩ := s
  cases hWrites
  rcases move_checked_cases ctx input read db with
    ⟨error, hNext⟩ | ⟨after, demandId, hWrite, hNext⟩
  · rw [hNext] at hSucceeds
    cases hSucceeds
  · obtain ⟨hWf, hSound, hSame, d, hd, hSurvey, hYear, hStatus, hAmount⟩ :=
      hSteady.write rfl hPaid hWrite
    rw [hNext]
    refine ⟨⟨_, rfl⟩, hWf, hSound, d, hd, hSurvey, hYear, hStatus, ?_⟩
    change d.amountPaid - successSum after.payments d.surveyId d.assessmentYearId = _
    rw [hAmount, hSurvey, hYear, hSame, max_eq_right hNonneg]

/-- After the write the demand differs from the payments by what has succeeded
between the sum and the write. -/
theorem written_of_schedule (hWf : db.ledger.WellFormed) (hSound : db.ledger.Sound)
    (hPayments : schedule.OfPayments) (hPublishes : schedule.Publishes ctx input db) :
    Written input
      (successSum (schedule.atSum ctx input db).db.payments input.survey.id input.assessmentYearId -
        successSum (schedule.atWrite ctx input db).db.payments input.survey.id
          input.assessmentYearId)
      (schedule.final ctx input db) := by
  obtain ⟨⟨existing, hSums⟩, ⟨read, hWrites⟩, hSucceeds⟩ := hPublishes
  have hSteady : Steady input (schedule.atSum ctx input db) :=
    steady_atSum hWf hSound hPayments
  have hNonneg := successSum_nonneg input.survey.id input.assessmentYearId hSteady.sound.amounts
  have hWritten := written_of_move (steady_atWrite hWf hSound hPayments) hWrites hSucceeds
    (paid_atWrite hSums hWrites) hNonneg
  exact run_invariant_along (Written input _)
    (fun _ _ h hMove => move_written h hMove) hWritten
    (along_of_forall Move.IsPayment hPayments.2.2)

/-- The schedule is one of payments, and collects whole paise. -/
structure Schedule.Collects (schedule : Schedule) : Prop where
  payments : schedule.OfPayments
  paise : ∀ m ∈ schedule.moves, m.InPaise

/-- Once all is done, the demand shows the successful payments as paid exactly
if none has succeeded between the sum and the write of the publisher. -/
theorem amountPaid_iff_of_interleaving {calls : List Call}
    (hCalls : ∀ call ∈ calls, ¬ call.IsRefund ∧ call.InPaise) (hSchedule : schedule.Collects)
    (hPublishes : schedule.Publishes ctx input (run perform Db.empty calls)) :
    (∀ d ∈ (schedule.final ctx input (run perform Db.empty calls)).db.demands.rows,
      d.surveyId = input.survey.id → d.assessmentYearId = input.assessmentYearId →
      d.amountPaid =
        successSum (schedule.final ctx input (run perform Db.empty calls)).db.payments
          input.survey.id input.assessmentYearId ∧
      d.outstanding = max 0 (d.totalPayable - d.amountPaid)) ↔
    successSum (schedule.atWrite ctx input (run perform Db.empty calls)).db.payments
        input.survey.id input.assessmentYearId =
      successSum (schedule.atSum ctx input (run perform Db.empty calls)).db.payments
        input.survey.id input.assessmentYearId := by
  obtain ⟨hWf, hReconciled⟩ := reconciled_of_run fun call hCall => (hCalls call hCall).1
  obtain ⟨_, _, hSound, d, hd, hSurvey, hYear, _, hGap⟩ :=
    written_of_schedule hWf hReconciled.toSound hSchedule.payments hPublishes
  unfold excess at hGap
  rw [hSurvey, hYear] at hGap
  constructor
  · intro hAll
    have hPaid := (hAll d hd hSurvey hYear).1
    change d.amountPaid = successSum (schedule.final ctx input _).db.ledger.payments _ _ at hPaid
    rw [hPaid, sub_self] at hGap
    exact (sub_eq_zero.mp hGap.symm).symm
  · intro hSame e he heSurvey heYear
    have hOnly : e = d := demand_eq he hd (heSurvey.trans hSurvey.symm) (heYear.trans hYear.symm)
    rw [hSame, sub_self] at hGap
    exact hOnly ▸ ⟨sub_eq_zero.mp hGap, (hSound.balanced d hd).outstanding⟩

end Interleaving

namespace Sample

/-- The demand of the first year is published once more. -/
def republish : PublishInput where
  survey := { id := 10, surveyId := "CHH-10", wardId := 5 }
  assessmentYearId := 20
  taxConfig := taxConfig 1 20
  rules := []
  preserveArrears := true
  actorId := none

def payment400 : Move := .call ⟨ward, .createOffline (cash 400 20) administrator "a"⟩

/-- The payment comes between the reading of the demand and that of the sum. -/
def paidBeforeSum : Schedule := ⟨[.publisher, payment400], [.publisher], []⟩

/-- The payment comes between the reading of the sum and the write. -/
def paidAfterSum : Schedule := ⟨[.publisher], [.publisher, payment400], []⟩

def published : List Call := [⟨ward, .publish 10 20 none⟩]

theorem paidBeforeSum_collects : paidBeforeSum.Collects where
  payments :=
    ⟨by simp [paidBeforeSum, payment400, Move.IsPayment, Call.IsPayment, Call.IsRefund],
      by simp [paidBeforeSum, Move.IsPayment], by simp [paidBeforeSum]⟩
  paise := by
    have hPayment : payment400.InPaise := ⟨40000, by decide +kernel⟩
    change ∀ m ∈ [.publisher, payment400, .publisher, .publisher, .publisher], Move.InPaise m
    simp only [List.forall_mem_cons]
    exact ⟨trivial, hPayment, trivial, trivial, trivial, by simp⟩

end Sample

/-- A payment that comes before the sum is counted. -/
theorem amountPaid_iff_of_paidBeforeSum :
    (∀ d ∈ (Sample.paidBeforeSum.final Sample.ward Sample.republish
        (run perform Db.empty Sample.published)).db.demands.rows,
      d.surveyId = 10 → d.assessmentYearId = 20 →
      d.amountPaid = successSum (Sample.paidBeforeSum.final Sample.ward Sample.republish
        (run perform Db.empty Sample.published)).db.payments 10 20 ∧
      d.outstanding = max 0 (d.totalPayable - d.amountPaid)) ↔
    successSum (Sample.paidBeforeSum.atWrite Sample.ward Sample.republish
        (run perform Db.empty Sample.published)).db.payments 10 20 =
      successSum (Sample.paidBeforeSum.atSum Sample.ward Sample.republish
        (run perform Db.empty Sample.published)).db.payments 10 20 :=
  amountPaid_iff_of_interleaving (by simp [Sample.published, Call.IsRefund, Call.InPaise])
    Sample.paidBeforeSum_collects
    ⟨⟨_, rfl⟩, ⟨_, rfl⟩, by decide +kernel⟩

/-- The 400 rupees are on a receipt, and the demand shows nothing as paid. -/
theorem publish_loses_payment :
    ¬ ∀ d ∈ (Sample.paidAfterSum.final Sample.ward Sample.republish
        (run perform Db.empty Sample.published)).db.demands.rows,
      d.surveyId = 10 → d.assessmentYearId = 20 →
      d.amountPaid = successSum (Sample.paidAfterSum.final Sample.ward Sample.republish
        (run perform Db.empty Sample.published)).db.payments 10 20 ∧
      d.outstanding = max 0 (d.totalPayable - d.amountPaid) := by decide +kernel

end PropertyTax
