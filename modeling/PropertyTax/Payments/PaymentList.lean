import PropertyTax.Auth
import PropertyTax.Library.Pages
import PropertyTax.PublicPropertyTax.Checkout

/-! The staff's list of payments, and the receipts its rows lead to. -/
namespace PropertyTax
open KeyedTable Pages

structure ListPaymentsQuery where
  page : Option Nat := none
  pageSize : Option Nat := none
  status : Option PaymentStatus := none
  paymentMode : Option PaymentMode := none
  wardId : Option Id := none

structure PaymentPage where
  items : List Payment
  page : Nat
  pageSize : Nat
  total : Nat
  totalPages : Nat

def operatorPaymentScope (user : AuthUser) : Bool :=
  user.roles.contains "OPERATOR" && !user.roles.contains "SUPER_ADMIN" &&
    !user.roles.contains "DEPARTMENT_ADMIN" && !user.roles.contains "CLERK"

/-- The filters that the user sets. -/
def ListPaymentsQuery.filters (query : ListPaymentsQuery) (payment : Payment) : Bool :=
  query.status.all (fun status => payment.status = status) &&
    query.paymentMode.all (fun mode => payment.paymentMode = mode) &&
    query.wardId.all (fun wardId => payment.wardId = some wardId)

def listWhere (query : ListPaymentsQuery) (user : AuthUser) (payment : Payment) : Bool :=
  query.filters payment && (!operatorPaymentScope user || payment.collectedById = some user.id)

/-- `orderBy: { createdAt: "desc" }` -/
def latestFirst (p q : Payment) : Bool := decide (q.createdAt ≤ p.createdAt)

def listPayments (query : ListPaymentsQuery) (user : AuthUser) (db : Db) :
    Except ApiError PaymentPage := do
  assertPaymentAccess user (some user.id) .read
  let pageNumber := query.page.getD 1
  let pageSize := query.pageSize.getD 20
  let found := db.payments.rows.filter (listWhere query user)
  return { items := page latestFirst pageSize (pageNumber - 1) found
           page := pageNumber
           pageSize
           total := found.length
           totalPages := max 1 ((found.length + pageSize - 1) / pageSize) }

/-- The receipt of a payment, for staff. -/
def loadStaffReceiptPayment (paymentId : Id) (user : AuthUser) (db : Db) :
    Except ApiError Payment :=
  match db.payments.find? paymentId with
  | none => .error (.notFound (some "PAYMENT_NOT_FOUND") "Payment was not found")
  | some payment => do
      assertPaymentAccess user payment.collectedById .read
      if payment.status ≠ .success then
        throw (.badRequest (some "RECEIPT_NOT_AVAILABLE")
          "Receipt is only available for successful payments")
      return payment

/-! ### Who may read what -/

section Access
variable {user : AuthUser} {collectedById : Option Id}

/-- The list is scoped for those whose access is. -/
theorem operatorPaymentScope_eq (user : AuthUser) :
    operatorPaymentScope user = isScopedOperator user := by
  simp only [operatorPaymentScope, isScopedOperator, hasBroadResourceAccess, Bool.not_or,
    Bool.and_assoc]

/-- The check passes when the user has one of the permissions. -/
theorem assertPermission_ok_iff {needed : List String} :
    assertPermission user needed = .ok () ↔ hasPermission user needed = true := by
  unfold assertPermission
  split_ifs with h
  · exact iff_of_true rfl h
  · exact iff_of_false (fun hOk => by cases hOk) h

/-- A scoped operator reads what he collected and what nobody did. -/
theorem assertPaymentAccess_read_iff :
    assertPaymentAccess user collectedById .read = .ok () ↔
      hasPermission user ["payment:read"] = true ∧
        (isScopedOperator user = true → ∀ collector ∈ collectedById, collector = user.id) := by
  unfold assertPaymentAccess
  cases hPermission : assertPermission user [PaymentAccessAction.read.permission] with
  | error error =>
      refine iff_of_false (fun hOk => by cases hOk) fun h => ?_
      have hOk := assertPermission_ok_iff.mpr h.1
      rw [show ["payment:read"] = [PaymentAccessAction.read.permission] from rfl, hPermission] at hOk
      cases hOk
  | ok _ =>
      have hHas : hasPermission user ["payment:read"] = true :=
        assertPermission_ok_iff.mp hPermission
      have hScoped : isScopedOperator user =
          (user.roles.contains "OPERATOR" && !hasBroadResourceAccess user) := rfl
      simp only [hHas, true_and]
      cases hBroad : hasBroadResourceAccess user with
      | true =>
          rw [hBroad, Bool.not_true, Bool.and_false] at hScoped
          exact iff_of_true rfl fun h => by rw [hScoped] at h; cases h
      | false =>
          cases collectedById with
          | none => exact iff_of_true rfl fun _ collector h => by cases h
          | some collector =>
              cases hOperator : isScopedOperator user with
              | false => exact iff_of_true (by simp) fun h => by cases h
              | true =>
                  by_cases hOwn : collector = user.id
                  · exact iff_of_true (by simp [hOwn]) fun _ other h =>
                      (Option.mem_some_iff.mp h) ▸ hOwn
                  · refine iff_of_false (fun hOk => ?_) fun h => hOwn (h rfl collector rfl)
                    simp [hOwn] at hOk
                    cases hOk

/-- The receipt opens for a successful payment that the user may read. -/
theorem loadStaffReceiptPayment_iff {db : Db} {payment : Payment}
    (hStored : payment ∈ db.payments.rows) :
    loadStaffReceiptPayment payment.id user db = .ok payment ↔
      payment.status = .success ∧
        assertPaymentAccess user payment.collectedById .read = .ok () := by
  have hFound : db.payments.find? payment.id = some payment :=
    find?_eq_some_iff.mpr ⟨hStored, rfl⟩
  simp only [loadStaffReceiptPayment, hFound]
  cases assertPaymentAccess user payment.collectedById .read with
  | error error => exact iff_of_false (fun h => by cases h) fun h => by cases h.2
  | ok _ =>
      by_cases hStatus : payment.status = .success
      · exact iff_of_true (by simp [hStatus]) ⟨hStatus, rfl⟩
      · refine iff_of_false (fun h => ?_) fun h => hStatus h.1
        simp [hStatus] at h
        cases h

/-- What the list leaves out of what may be read: for a scoped operator, the payments
that nobody collected. -/
theorem listWhere_iff (query : ListPaymentsQuery) {payment : Payment}
    (hRead : hasPermission user ["payment:read"] = true) :
    listWhere query user payment = true ↔
      query.filters payment = true ∧
        assertPaymentAccess user payment.collectedById .read = .ok () ∧
        ¬ (isScopedOperator user = true ∧ payment.collectedById = none) := by
  rw [assertPaymentAccess_read_iff, listWhere, operatorPaymentScope_eq, Bool.and_eq_true]
  refine and_congr_right fun _ => ?_
  cases hScope : isScopedOperator user with
  | false => simp [hRead]
  | true =>
      cases payment.collectedById with
      | none => simp
      | some collector => simp [hRead]

end Access

/-! ### Turning the pages -/

/-- Latest first is an order on payments. -/
theorem ranks_latestFirst : Ranks latestFirst where
  trans p q r hpq hqr := by
    simp only [latestFirst, decide_eq_true_eq] at *
    exact hqr.trans hpq
  total p q := by simpa [latestFirst] using Nat.le_total q.createdAt p.createdAt

def matchingPayments (query : ListPaymentsQuery) (user : AuthUser) (db : Db) : List Payment :=
  db.payments.rows.filter (listWhere query user)

/-- The rows of a page; a refused request has none. -/
def pageItems (query : ListPaymentsQuery) (user : AuthUser) (db : Db) : List Payment :=
  match listPayments query user db with
  | .ok page => page.items
  | .error _ => []

/-- The pages of a list, as they are turned. -/
def listedPayments (query : ListPaymentsQuery) (user : AuthUser) (dbs : Nat → Db) (n : Nat) :
    List Payment :=
  (List.range n).flatMap fun k => pageItems { query with page := some (k + 1) } user (dbs k)

/-- For a user who may read payments, the list is a turn of pages over the stored ones. -/
theorem listedPayments_eq {user : AuthUser} (hRead : hasPermission user ["payment:read"] = true)
    (query : ListPaymentsQuery) (dbs : Nat → Db) (n : Nat) :
    listedPayments query user dbs n =
      turnTable latestFirst (listWhere query user) (query.pageSize.getD 20)
        (fun k => (dbs k).payments) n := by
  have hAccess : assertPaymentAccess user (some user.id) .read = .ok () :=
    assertPaymentAccess_read_iff.mpr ⟨hRead, fun _ collector h => (Option.mem_some_iff.mp h).symm⟩
  refine congrArg (fun pages => (List.range n).flatMap pages) (funext fun k => ?_)
  simp only [pageItems, listPayments, hAccess, Option.getD_some, Nat.add_sub_cancel]
  rfl

/-- The pages of a list show every payment of it once, whatever the page size and the
order the rows are kept in, exactly when no two of its payments were opened in the same
instant; and a successful payment is on the list exactly when it meets the filters and
its receipt opens, but for those that a scoped operator may read without having collected. -/
theorem listed_payments_readable {user : AuthUser}
    (hRead : hasPermission user ["payment:read"] = true) (query : ListPaymentsQuery) (db : Db) :
    ((∀ pageSize, 0 < pageSize → ∀ (dbs : Nat → Db) (n : Nat),
        (∀ k, (dbs k).payments.rows.Perm db.payments.rows) →
        (matchingPayments query user db).length ≤ n * pageSize →
        (listedPayments { query with pageSize := some pageSize } user dbs n).Perm
          (matchingPayments query user db)) ↔
      ∀ p ∈ matchingPayments query user db, ∀ q ∈ matchingPayments query user db,
        p.createdAt = q.createdAt → p = q) ∧
    ∀ payment ∈ db.payments.rows, payment.status = .success →
      (payment ∈ matchingPayments query user db ↔
        query.filters payment = true ∧ loadStaffReceiptPayment payment.id user db = .ok payment ∧
          ¬ (isScopedOperator user = true ∧ payment.collectedById = none)) := by
  constructor
  · have hApart : Apart latestFirst (matchingPayments query user db) ↔
        ∀ p ∈ matchingPayments query user db, ∀ q ∈ matchingPayments query user db,
          p.createdAt = q.createdAt → p = q := by
      simp only [Apart, latestFirst, decide_eq_true_eq]
      refine forall₂_congr fun p _ => forall₂_congr fun q _ =>
        ⟨fun h hSame => ?_, fun h hqp hpq => ?_⟩
      · exact h hSame.ge hSame.le
      · exact h (Nat.le_antisymm hpq hqp)
    rw [← hApart, matchingPayments, ← turnsComplete_iff ranks_latestFirst]
    constructor
    · intro hListed pageSize hSize tables n hTables hAll
      have hTurned := hListed pageSize hSize (fun k => { db with payments := tables k }) n
        hTables hAll
      rwa [listedPayments_eq hRead] at hTurned
    · intro hTurned pageSize hSize dbs n hDbs hAll
      rw [listedPayments_eq hRead]
      exact hTurned pageSize hSize (fun k => (dbs k).payments) n hDbs hAll
  · intro payment hStored hSuccess
    rw [matchingPayments, List.mem_filter, and_iff_right hStored, listWhere_iff query hRead,
      loadStaffReceiptPayment_iff hStored, and_iff_right hSuccess]

namespace Sample

def fieldOperator : AuthUser := ⟨3, ["payment:read"], ["OPERATOR"]⟩

end Sample

/-- A payment that a citizen made online. -/
theorem listed_payments_readable_citizen :
    loadStaffReceiptPayment 0 Sample.fieldOperator Sample.paidWithoutDemand =
      .ok Sample.paidBeforePublish ∧
    Sample.paidBeforePublish ∉
      matchingPayments { } Sample.fieldOperator Sample.paidWithoutDemand := by
  have hStored : Sample.paidBeforePublish ∈ Sample.paidWithoutDemand.payments.rows :=
    List.mem_singleton_self _
  have hListed := (@listed_payments_readable Sample.fieldOperator (by decide) { }
    Sample.paidWithoutDemand).2 Sample.paidBeforePublish hStored rfl
  refine ⟨(loadStaffReceiptPayment_iff hStored).mpr ⟨rfl, by decide⟩, fun hMem => ?_⟩
  exact (hListed.mp hMem).2.2 ⟨by decide, rfl⟩

end PropertyTax
