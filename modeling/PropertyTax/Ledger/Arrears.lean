import PropertyTax.Ledger.Reconciled

/-! The arrears of a demand and the arrear rows behind them. The year-end run
and `publishForWard` keep the two equal; `publish` drops the column and leaves
the rows. -/
namespace PropertyTax
open KeyedTable Relation Runs

/-! ### Payment calls -/

/-- The demands after a whole payment call: as before, or one is credited with
a payment that the call pays on it. -/
def PaidDemands (pays : Payment → PropertyDemand → Prop) (l l' : Ledger) : Prop :=
  l'.demandArrears = l.demandArrears ∧ (l'.demands = l.demands ∨
    ∃ p d, pays p d ∧ Replaced l.demands l'.demands d (d.credit p.amount))

/-- A ledger that stays as it is has credited nothing. -/
theorem PaidDemands.of_same {pays : Payment → PropertyDemand → Prop} {l l' : Ledger}
    (h : l' = l) : PaidDemands pays l l' := h ▸ ⟨rfl, .inl rfl⟩

/-- Credits by payments are credits. -/
theorem PaidDemands.creditStep {pays : Payment → PropertyDemand → Prop} {l l' : Ledger}
    (h : PaidDemands pays l l') : CreditStep l l' := by
  obtain ⟨hArrears, hDemands | ⟨p, d, _, hDemand⟩⟩ := h
  · exact ⟨hArrears, .inl hDemands⟩
  · exact ⟨hArrears, .inr ⟨d, p.amount, hDemand⟩⟩

/-- A payment credits its demand, if any, and leaves the arrears. -/
theorem PaymentStep.paid {allowed : Payment → PropertyDemand → Prop} {l l' : Ledger}
    (h : PaymentStep allowed l l') : PaidDemands allowed l l' := by
  cases h with
  | opened _ _ _ _ _ _ hDemands hArrears => exact ⟨hArrears, .inl hDemands⟩
  | revised _ _ _ _ _ _ _ hDemands hArrears => exact ⟨hArrears, .inl hDemands⟩
  | succeeded _ _ _ _ _ _ _ _ hDemands hArrears => exact ⟨hArrears, .inl hDemands⟩
  | credited p _ d _ _ _ _ _ hAllowed _ hDemand hArrears =>
      exact ⟨hArrears, .inr ⟨p, d, hAllowed, hDemand⟩⟩
  | collected p d _ _ _ _ _ _ _ hAllowed hDemand hArrears =>
      exact ⟨hArrears, .inr ⟨p, d, hAllowed, hDemand⟩⟩

/-- Steps that may not pay leave the demands alone. -/
theorem paidDemands_of_steps {pays : Payment → PropertyDemand → Prop} {l l' : Ledger}
    (hNone : ∀ p d, ¬ pays p d) (h : ReflTransGen (PaymentStep pays) l l') :
    PaidDemands pays l l' := by
  have hSame := steps_invariant
    (fun m : Ledger => m.demandArrears = l.demandArrears ∧ m.demands = l.demands)
    (fun m m' hBefore hStep => by
      obtain ⟨hArrears, hDemands | ⟨p, d, hPays, _⟩⟩ := hStep.paid
      · exact ⟨hArrears.trans hBefore.1, hDemands.trans hBefore.2⟩
      · exact absurd hPays (hNone p d)) h ⟨rfl, rfl⟩
  exact ⟨hSame.1, .inl hSame.2⟩

/-- A delivery credits only the demand that it pays. -/
theorem deliverWhole_paid (ctx : Context) (delivery : Delivery) (db : Db) :
    PaidDemands (delivery.Pays ctx db) db.ledger (deliverWhole ctx delivery db).ledger := by
  rcases deliverWhole_cases ctx delivery db with hSame | ⟨read, hMem, _, hReports, _, hSettled⟩
  · exact .of_same hSame.ledger
  · cases hSettled with
    | credited p p' d hCredits hTarget _ _ _ _ _ _ hDemand hArrears _ =>
        obtain ⟨hSuccess, hBefore, _⟩ := (DeliveryRead.credits_iff read).mp hCredits
        exact ⟨hArrears, .inr ⟨read.payment, d, ⟨hMem, hReports hSuccess, hBefore, hTarget⟩,
          hDemand⟩⟩
    | uncredited p p' _ _ _ _ _ _ _ hDemands hArrears _ => exact ⟨hArrears, .inl hDemands⟩

/-- A refund leaves every demand alone. -/
theorem refund_demands (user : AuthUser) (paymentId : Id) (amount : ℚ) (reason : Option String)
    (reply : Option RefundResult) (now : Timestamp) (db : Db) :
    (refund user paymentId amount reason reply now db).1.demands = db.demands ∧
      (refund user paymentId amount reason reply now db).1.demandArrears = db.demandArrears := by
  rcases refund_cases user paymentId amount reason reply now db with
    hSame | ⟨_, _, _, _, _, _, hRow | ⟨_, _, _, _, _, hPaid⟩⟩
  · rw [hSame]
    exact ⟨rfl, rfl⟩
  · rw [hRow]
    exact ⟨rfl, rfl⟩
  · rw [hPaid]
    exact ⟨rfl, rfl⟩

/-- A payment call credits the demand that it pays, if any, and does nothing
else to the demands. -/
theorem perform_paid {call : Call} (db : Db) (hPayment : call.IsPayment) :
    PaidDemands (call.Pays db) db.ledger (perform db call).ledger := by
  obtain ⟨ctx, operation⟩ := call
  cases operation with
  | createOnline input user suffix reply =>
      exact paidDemands_of_steps (fun _ _ hPays => hPays)
        (createOnline_steps ⟨ctx, .createOnline input user suffix reply⟩ db)
  | createCitizenPayment dto suffix reply =>
      exact paidDemands_of_steps (fun _ _ hPays => hPays)
        (createCitizenPayment_steps ⟨ctx, .createCitizenPayment dto suffix reply⟩ db)
  | deliver delivery =>
      change PaidDemands _ _ (delivery.perform ctx db).ledger
      rw [delivery.perform_eq]
      exact deliverWhole_paid ctx delivery db
  | gatewayReturn payload =>
      change PaidDemands _ _ (handleGatewayReturn ctx payload db).1.ledger
      rw [handleGatewayReturn_db]
      exact deliverWhole_paid ctx (.callback payload) db
  | createOffline input user suffix =>
      rcases createOffline_step suffix (fun p d hCollects => hCollects) with hSame | hStep
      · exact .of_same hSame
      · exact hStep.paid
  | refund user paymentId amount reason reply =>
      obtain ⟨hDemands, hArrears⟩ := refund_demands user paymentId amount reason reply ctx.now db
      exact ⟨hArrears, .inl hDemands⟩
  | publish => exact hPayment.elim
  | publishForWard => exact hPayment.elim
  | commitYearEnd => exact hPayment.elim

/-! ### Every call, refunds included -/

/-- Arrear rows point at stored demands, and every demand is balanced. -/
structure Ledger.InBalance (l : Ledger) : Prop where
  owned : l.Owned
  balanced : ∀ d ∈ l.demands.rows, d.Balanced

/-- A credit leaves every demand in balance. -/
theorem CreditStep.inBalance {l l' : Ledger} (h : CreditStep l l') (hBalance : l.InBalance) :
    l'.InBalance := by
  obtain ⟨hArrears, hDemands | ⟨d, amount, hDemand⟩⟩ := h
  · exact ⟨hBalance.owned.of_keeps hArrears (hDemands ▸ Keeps.refl _),
      hDemands ▸ hBalance.balanced⟩
  · exact ⟨hBalance.owned.of_keeps hArrears (Keeps.of_replaced hDemand (kept_credit _ _)),
      hDemand.forall_rows hBalance.balanced
        (credit_balanced (hBalance.balanced d hDemand.mem_old) amount)⟩

/-- A publication leaves every demand in balance. -/
theorem PublishStep.inBalance {ctx : Context} {input : PublishInput} {l l' : Ledger}
    (h : PublishStep ctx input l l') (hBalance : l.InBalance) : l'.InBalance := by
  refine ⟨hBalance.owned.of_keeps h.same.2 h.keeps, ?_⟩
  cases h with
  | republished _ _ hDemand _ _ _ _ hFrom =>
      exact hDemand.forall_rows hBalance.balanced hFrom.balanced
  | created _ hDemand _ _ hFrom => exact hDemand.forall_rows hBalance.balanced hFrom.balanced

/-- A carried balance leaves every demand in balance. -/
theorem CarryStep.inBalance {sources : List PropertyDemand} {toYearId : Id} {l l' : Ledger}
    (h : CarryStep sources toYearId l l') (hBalance : l.InBalance) : l'.InBalance := by
  refine ⟨h.owned hBalance.owned, ?_⟩
  cases h with
  | carried _ _ _ _ _ hDemand _ _ _ _ _ _ _ _ hBalanced =>
      exact hDemand.forall_rows hBalance.balanced hBalanced
  | drafted _ _ _ _ hDemand _ _ _ _ _ _ hBalanced =>
      exact hDemand.forall_rows hBalance.balanced hBalanced

/-- Every call leaves every demand in balance. -/
theorem perform_inBalance (db : Db) (call : Call) (hBalance : db.ledger.InBalance) :
    (perform db call).ledger.InBalance := by
  by_cases hPayment : call.IsPayment
  · exact (perform_paid db hPayment).creditStep.inBalance hBalance
  · obtain ⟨ctx, operation⟩ := call
    cases operation with
    | publish surveyId assessmentYearId actorId =>
        change (publish ctx surveyId assessmentYearId actorId db).1.ledger.InBalance
        rcases publish_step ctx surveyId assessmentYearId actorId db with hSame | ⟨_, _, hStep⟩
        · rwa [hSame]
        · exact hStep.inBalance hBalance
    | publishForWard wardId assessmentYearId actorId =>
        change (publishForWard ctx wardId assessmentYearId actorId db).1.ledger.InBalance
        rcases publishForWard_steps ctx wardId assessmentYearId actorId db with
          hSame | ⟨_, _, hSteps⟩
        · rwa [hSame]
        · refine steps_invariant Ledger.InBalance (fun l l' hBalance h => ?_) hSteps hBalance
          obtain ⟨_, _, hStep⟩ := h
          exact hStep.inBalance hBalance
    | commitYearEnd fromYearId toYearId actorId =>
        change (commitYearEnd ctx fromYearId toYearId actorId db).1.ledger.InBalance
        rcases commitYearEnd_steps ctx fromYearId toYearId actorId hBalance.owned with
          hSame | ⟨_, _, hSteps⟩
        · rwa [hSame]
        · exact steps_invariant Ledger.InBalance (fun l l' hBalance h => h.inBalance hBalance)
            hSteps hBalance
    | _ => exact absurd trivial hPayment

/-- In every run, each demand's outstanding is its total less what was paid. -/
theorem inBalance_of_run (calls : List Call) :
    (run perform Db.empty calls).ledger.InBalance :=
  run_invariant (fun db => db.ledger.InBalance) (fun db call h => perform_inBalance db call h)
    ⟨fun _ ha => absurd ha List.not_mem_nil, fun _ hd => absurd hd List.not_mem_nil⟩ calls

/-! ### The invariant -/

structure ArrearsMatch (l : Ledger) : Prop where
  owned : l.Owned
  amounts : ∀ a ∈ l.demandArrears.rows, 0 ≤ a.amount
  arrears : ∀ d ∈ l.demands.rows, d.arrears = arrearSum l.demandArrears d.id
  totalPayable : ∀ d ∈ l.demands.rows, d.totalPayable = d.currentDemand + d.arrears

theorem arrearSum_nonneg {demandArrears : KeyedTable DemandArrear}
    (h : ∀ a ∈ demandArrears.rows, 0 ≤ a.amount) (demandId : Id) :
    0 ≤ arrearSum demandArrears demandId := sumWhere_nonneg fun a ha _ => h a ha

/-- A new demand has no arrear rows. -/
theorem arrearSum_added {l : Ledger} {demands : KeyedTable PropertyDemand} {d : PropertyDemand}
    (hOwned : l.Owned) (hDemand : Added l.demands demands d) :
    arrearSum l.demandArrears d.id = 0 := by
  have hNone := demandArrearsOf_eq_nil hOwned hDemand
  unfold demandArrearsOf at hNone
  rw [arrearSum, sumWhere, hNone, List.map_nil, List.sum_nil]

/-- A new arrear adds to the sum of its demand, and of no other. -/
theorem arrearSum_carried {demandArrears demandArrears' : KeyedTable DemandArrear}
    {a : DemandArrear} (h : Added demandArrears demandArrears' a) (demandId : Id) :
    arrearSum demandArrears' demandId =
      arrearSum demandArrears demandId + if a.demandId = demandId then a.amount else 0 := by
  rw [arrearSum, h.sumWhere_eq]
  simp only [decide_eq_true_eq]
  rfl

/-- A credit leaves the arrears as they are. -/
theorem CreditStep.arrearsMatch {l l' : Ledger} (h : CreditStep l l') (hMatch : ArrearsMatch l) :
    ArrearsMatch l' := by
  obtain ⟨hArrears, hDemands | ⟨d, amount, hDemand⟩⟩ := h
  · exact ⟨hMatch.owned.of_keeps hArrears (hDemands ▸ Keeps.refl _), hArrears ▸ hMatch.amounts,
      hDemands ▸ hArrears ▸ hMatch.arrears, hDemands ▸ hMatch.totalPayable⟩
  · refine ⟨hMatch.owned.of_keeps hArrears (Keeps.of_replaced hDemand (kept_credit _ _)),
      hArrears ▸ hMatch.amounts, ?_, ?_⟩
    · rw [hArrears]
      exact hDemand.forall_rows hMatch.arrears (hMatch.arrears d hDemand.mem_old)
    · exact hDemand.forall_rows hMatch.totalPayable (hMatch.totalPayable d hDemand.mem_old)

/-- Publishing keeps the rows and the column equal if it preserves arrears, or
where there are none to preserve. -/
theorem PublishStep.arrearsMatch {ctx : Context} {input : PublishInput} {l l' : Ledger}
    (h : PublishStep ctx input l l') (hMatch : ArrearsMatch l)
    (hNone : input.preserveArrears = false → ∀ d ∈ l.demands.rows, d.surveyId = input.survey.id →
      d.assessmentYearId = input.assessmentYearId → arrearSum l.demandArrears d.id = 0) :
    ArrearsMatch l' := by
  obtain ⟨_, hArrears⟩ := h.same
  refine ⟨hMatch.owned.of_keeps hArrears h.keeps, hArrears ▸ hMatch.amounts, ?_, ?_⟩
  · rw [hArrears]
    cases h with
    | republished d d' hDemand hSurvey hYear _ _ hFrom =>
        refine hDemand.forall_rows hMatch.arrears ?_
        have hId : d'.id = d.id := hDemand.key_eq
        have hOld := hMatch.arrears d hDemand.mem_old
        rw [hFrom.arrears, hId, PublishInput.arrears]
        cases hPreserve : input.preserveArrears with
        | true =>
            rw [if_pos rfl, Option.map_some, Option.getD_some, hOld]
            exact max_eq_right (arrearSum_nonneg hMatch.amounts d.id)
        | false =>
            rw [hNone hPreserve d hDemand.mem_old hSurvey hYear]
            rfl
    | created d' hDemand _ _ hFrom =>
        refine hDemand.forall_rows hMatch.arrears ?_
        rw [hFrom.arrears, arrearSum_added hMatch.owned hDemand, max_self]
  · cases h with
    | republished d d' hDemand _ _ _ _ hFrom =>
        exact hDemand.forall_rows hMatch.totalPayable hFrom.balanced.totalPayable
    | created d' hDemand _ _ hFrom =>
        exact hDemand.forall_rows hMatch.totalPayable hFrom.balanced.totalPayable

/-- A carried balance shows on the demand and in its arrears. -/
theorem CarryStep.arrearsMatch {sources : List PropertyDemand} {toYearId : Id} {l l' : Ledger}
    (h : CarryStep sources toYearId l l') (hSources : ∀ d ∈ sources, 0 ≤ d.outstanding)
    (hMatch : ArrearsMatch l) : ArrearsMatch l' := by
  have hOwned := h.owned hMatch.owned
  cases h with
  | carried source d d' a hSource hDemand _ _ _ _ _ _ _ hTotal hBalanced hArrear hDemandId
      hAmount =>
      have hId : d'.id = d.id := hDemand.key_eq
      refine ⟨hOwned, hArrear.forall_rows hMatch.amounts (hAmount ▸ hSources source hSource), ?_,
        hDemand.forall_rows hMatch.totalPayable hBalanced.totalPayable⟩
      intro e he
      rw [arrearSum_carried hArrear, hDemandId, hAmount]
      rcases (hDemand.mem_iff e).mp he with ⟨hOld, hKey⟩ | rfl
      · have hOther : d.id ≠ e.id := fun hSame => hKey hSame.symm
        rw [if_neg hOther, add_zero]
        exact hMatch.arrears e hOld
      · rw [hId, if_pos rfl]
        exact hTotal
  | drafted source d' a hSource hDemand _ _ _ _ _ hTotal hBalanced hArrear hDemandId hAmount =>
      refine ⟨hOwned, hArrear.forall_rows hMatch.amounts (hAmount ▸ hSources source hSource), ?_,
        hDemand.forall_rows hMatch.totalPayable hBalanced.totalPayable⟩
      intro e he
      rw [arrearSum_carried hArrear, hDemandId, hAmount]
      rcases (hDemand.mem_iff e).mp he with hOld | rfl
      · have hOther : d'.id ≠ e.id := fun hSame => hDemand.key_ne hOld hSame.symm
        rw [if_neg hOther, add_zero]
        exact hMatch.arrears e hOld
      · rw [if_pos rfl, arrearSum_added hMatch.owned hDemand, zero_add]
        exact hTotal

/-! ### Runs -/

/-- A call that publishes without preserving arrears finds none to lose. -/
def KeepsArrears (db : Db) (call : Call) : Prop :=
  ∀ input, call.Publishes input → input.preserveArrears = false →
    ∀ d ∈ db.demands.rows, d.surveyId = input.survey.id →
      d.assessmentYearId = input.assessmentYearId → arrearSum db.demandArrears d.id = 0

/-- A call that drops no arrears keeps the demands in step with them. -/
theorem perform_arrearsMatch (db : Db) (call : Call) (hMatch : ArrearsMatch db.ledger)
    (hKeeps : KeepsArrears db call) : ArrearsMatch (perform db call).ledger := by
  by_cases hPayment : call.IsPayment
  · exact (perform_paid db hPayment).creditStep.arrearsMatch hMatch
  · obtain ⟨ctx, operation⟩ := call
    cases operation with
    | publish surveyId assessmentYearId actorId =>
        change ArrearsMatch (publish ctx surveyId assessmentYearId actorId db).1.ledger
        rcases publish_step ctx surveyId assessmentYearId actorId db with
          hSame | ⟨input, hInput, hStep⟩
        · rw [hSame]
          exact hMatch
        · exact hStep.arrearsMatch hMatch (hKeeps input hInput)
    | publishForWard wardId assessmentYearId actorId =>
        change ArrearsMatch (publishForWard ctx wardId assessmentYearId actorId db).1.ledger
        rcases publishForWard_steps ctx wardId assessmentYearId actorId db with
          hSame | ⟨taxConfig, _, hSteps⟩
        · rw [hSame]
          exact hMatch
        · refine steps_invariant ArrearsMatch (fun l l' hMatch h => ?_) hSteps hMatch
          obtain ⟨survey, _, hStep⟩ := h
          exact hStep.arrearsMatch hMatch fun hPreserve => by cases hPreserve
    | commitYearEnd fromYearId toYearId actorId =>
        change ArrearsMatch (commitYearEnd ctx fromYearId toYearId actorId db).1.ledger
        rcases commitYearEnd_steps ctx fromYearId toYearId actorId hMatch.owned with
          hSame | ⟨_, _, hSteps⟩
        · rw [hSame]
          exact hMatch
        · refine steps_invariant ArrearsMatch
            (fun l l' hMatch h => h.arrearsMatch (fun d hd => ?_) hMatch) hSteps hMatch
          exact (mem_of_unpaidDemands hd).2.2.2.le
    | _ => exact absurd trivial hPayment

theorem Db.empty_arrearsMatch : ArrearsMatch Db.empty.ledger :=
  ⟨fun _ ha => absurd ha List.not_mem_nil, fun _ ha => absurd ha List.not_mem_nil,
    fun _ hd => absurd hd List.not_mem_nil, fun _ hd => absurd hd List.not_mem_nil⟩

/-- No arrears are lost in a run whose calls to `publish` find none. -/
theorem arrears_match_of_run {calls : List Call} (hAlong : Along perform KeepsArrears Db.empty calls) :
    ∀ d ∈ (run perform Db.empty calls).demands.rows,
      d.arrears = arrearSum (run perform Db.empty calls).demandArrears d.id ∧
      d.totalPayable =
        d.currentDemand + arrearSum (run perform Db.empty calls).demandArrears d.id := by
  have hMatch : ArrearsMatch (run perform Db.empty calls).ledger :=
    run_invariant_along (fun db => ArrearsMatch db.ledger) perform_arrearsMatch
      Db.empty_arrearsMatch hAlong
  intro d hd
  have hArrears := hMatch.arrears d hd
  exact ⟨hArrears, hArrears ▸ hMatch.totalPayable d hd⟩

namespace Sample

/-- A demand is carried into the next year, and `last` is done there. -/
def carriedThen (last : Operation) : List Call :=
  [⟨ward, .publish 10 20 none⟩, ⟨ward, .commitYearEnd 20 21 none⟩, ⟨ward, last⟩]

end Sample

/-- A year-end run followed by a publication of the ward keeps the carried arrears. -/
theorem arrears_match_publishForWard :
    (run perform Db.empty (Sample.carriedThen (.publishForWard 5 21 none))).demandArrears.rows.length =
      1 ∧
    ∀ d ∈ (run perform Db.empty (Sample.carriedThen (.publishForWard 5 21 none))).demands.rows,
      d.arrears = arrearSum
        (run perform Db.empty (Sample.carriedThen (.publishForWard 5 21 none))).demandArrears d.id ∧
      d.totalPayable = d.currentDemand + arrearSum
        (run perform Db.empty (Sample.carriedThen (.publishForWard 5 21 none))).demandArrears
          d.id := by
  refine ⟨by decide +kernel, arrears_match_of_run ⟨?_, ?_, ?_, trivial⟩⟩
  · intro input _ _ d hd
    exact absurd hd List.not_mem_nil
  · intro input hPublishes
    exact hPublishes.elim
  · rintro input ⟨_, _, _, _, rfl⟩ hPreserve
    cases hPreserve

/-- `publish` after the carry drops the arrears and leaves their row. -/
theorem publish_drops_arrears :
    ¬ ∀ d ∈ (run perform Db.empty (Sample.carriedThen (.publish 10 21 none))).demands.rows,
      d.arrears = arrearSum
        (run perform Db.empty (Sample.carriedThen (.publish 10 21 none))).demandArrears d.id := by
  decide +kernel

end PropertyTax
