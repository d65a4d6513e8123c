import Mathlib.Data.List.Nodup
import Mathlib.Data.List.Perm.Subperm
import PropertyTax.Library.Runs
import PropertyTax.Store

/-! Overlapping logins under one address. A login reads the lock, verifies its
password and counts a failure, waits, and sets the lock if it counted the tenth:
what is let through in between is not bounded by the lock. -/
namespace PropertyTax
open Runs

def LOGIN_MAX_FAILURES : Nat := 10
def LOGIN_LOCKOUT_SECONDS : Nat := 15 * 60

/-- What `login` looks at of the user under the address. -/
structure LoginAccount where
  passwordHash : Option String
  active : Bool
  staff : Bool

/-- The user, the password hash that is not part of the program, and whether a failure is
answered late (`NODE_ENV !== "test"`). -/
structure LoginEnv where
  account : Option LoginAccount
  verifyPassword : String → String → Bool
  delays : Bool

/-- The value of a counter and the end of its `EXPIRE` time. -/
structure FailureCount where
  count : Nat
  expiresAt : Option Timestamp

/-- The two keys of the address. `admitted` and `verified` list the calls that found no
lock and those that had their password verified: no call reads them. -/
structure LoginStore (Process : Type) where
  failures : Option FailureCount := none
  lockedUntil : Option Timestamp := none
  admitted : List Process := []
  verified : List Process := []

/-- Where a login stands. -/
inductive LoginProgress where
  | waiting
  | admitted
  | failing
  | counted (failures : Nat)
  | sleeping (failures : Nat) (wakesAt : Timestamp)
  | clearing
  | finished
deriving DecidableEq

namespace LoginStore
variable {Process : Type}

/-- The remaining seconds of the lock, rounded as `TTL` does. -/
def lockTtl (now : Timestamp) (store : LoginStore Process) : Nat :=
  store.lockedUntil.elim 0 fun lockedUntil => (lockedUntil - now + 500) / 1000

def isLocked (now : Timestamp) (store : LoginStore Process) : Bool := 0 < store.lockTtl now

/-- The counter, unless its time is over. -/
def liveFailures (now : Timestamp) (store : LoginStore Process) : Option FailureCount :=
  store.failures.filter fun failures => failures.expiresAt.all fun expiresAt => now < expiresAt

def failureCount (now : Timestamp) (store : LoginStore Process) : Nat :=
  (store.liveFailures now).elim 0 FailureCount.count

/-- `INCR` -/
def increment (now : Timestamp) (store : LoginStore Process) : LoginStore Process :=
  { store with
    failures := some
      { count := store.failureCount now + 1
        expiresAt := (store.liveFailures now).bind FailureCount.expiresAt } }

/-- `EXPIRE` -/
def expire (now : Timestamp) (store : LoginStore Process) : LoginStore Process :=
  { store with
    failures := (store.liveFailures now).map fun failures =>
      { failures with expiresAt := some (now + LOGIN_LOCKOUT_SECONDS * 1000) } }

def setLock (now : Timestamp) (store : LoginStore Process) : LoginStore Process :=
  { store with lockedUntil := some (now + LOGIN_LOCKOUT_SECONDS * 1000) }

def clearLoginFailures (store : LoginStore Process) : LoginStore Process :=
  { store with failures := none, lockedUntil := none }

end LoginStore

section Steps
variable {Process : Type}

/-- The hash that a password is verified against. An empty one is falsy, as if there were none. -/
def LoginEnv.passwordHash? (env : LoginEnv) : Option String :=
  (env.account.bind LoginAccount.passwordHash).filter fun hash => hash ≠ ""

/-- A right password is not enough for an account that is not active or not staff. -/
def LoginEnv.letsIn (env : LoginEnv) (password hash : String) : Bool :=
  env.verifyPassword password hash && env.account.any fun account => account.active && account.staff

/-- How long the answer to a failure is held back. -/
def LoginEnv.delayMs (env : LoginEnv) (failures : Nat) : Nat :=
  if env.delays then min (failures * 500) 5000 else 0

/-- The next access of a login, at some time. -/
def loginStep (env : LoginEnv) (passwords : Process → String) (now : Timestamp)
    (process : Process) (progress : LoginProgress) (store : LoginStore Process) :
    LoginProgress × LoginStore Process :=
  match progress with
  | .waiting =>
      if store.isLocked now then (.finished, store)
      else (.admitted, { store with admitted := process :: store.admitted })
  | .admitted =>
      match env.passwordHash? with
      | none => (.failing, store)
      | some hash =>
          (if env.letsIn (passwords process) hash then .clearing else .failing,
            { store with verified := process :: store.verified })
  | .failing => (.counted (store.failureCount now + 1), store.increment now)
  | .counted failures =>
      (.sleeping failures (now + env.delayMs failures),
        if failures = 1 then store.expire now else store)
  | .sleeping failures wakesAt =>
      if now < wakesAt then (.sleeping failures wakesAt, store)
      else (.finished, if LOGIN_MAX_FAILURES ≤ failures then store.setLock now else store)
  | .clearing => (.finished, store.clearLoginFailures)
  | .finished => (.finished, store)

structure LoginTurn (Process : Type) where
  process : Process
  now : Timestamp

def takeLoginTurn [DecidableEq Process] (env : LoginEnv) (passwords : Process → String)
    (system : System Process LoginProgress (LoginStore Process)) (turn : LoginTurn Process) :
    System Process LoginProgress (LoginStore Process) :=
  fire (loginStep env passwords turn.now) system turn.process

/-- No failure is counted, and no login under way. -/
def noLogin : System Process LoginProgress (LoginStore Process) := ⟨{}, fun _ => .waiting⟩

/-- The login was let through and has not counted its failure. -/
def LoginProgress.isUncounted : LoginProgress → Bool
  | .admitted | .failing => true
  | _ => false

/-- How many logins were let through and have not counted their failures. -/
def uncounted (system : System Process LoginProgress (LoginStore Process)) : Nat :=
  system.shared.admitted.countP fun process => (system.locals process).isUncounted

/-- The turn is in the lockout window that begins then. -/
def InWindow (start : Timestamp) (turn : LoginTurn Process) : Prop :=
  start ≤ turn.now ∧ turn.now < start + LOGIN_LOCKOUT_SECONDS * 1000

/-- A login that finds no lock finds fewer than ten failures, with those that are
still to be counted. -/
def FindsRoom (env : LoginEnv) (system : System Process LoginProgress (LoginStore Process))
    (turn : LoginTurn Process) : Prop :=
  env.passwordHash?.isSome = true → system.locals turn.process = .waiting →
    system.shared.isLocked turn.now = false →
      system.shared.failureCount turn.now + uncounted system < LOGIN_MAX_FAILURES

/-- However the logins go on that any part of the run let through, ten have their
passwords verified at most. -/
def BoundsAttempts [DecidableEq Process] (env : LoginEnv) (passwords : Process → String)
    (start : Timestamp) (turns : List (LoginTurn Process)) : Prop :=
  ∀ before after more : List (LoginTurn Process), turns = before ++ after →
    (∀ turn ∈ more, InWindow start turn ∧ turn.process ∈
      (run (takeLoginTurn env passwords) noLogin before).shared.admitted) →
    (run (takeLoginTurn env passwords) noLogin (before ++ more)).shared.verified.length ≤
      LOGIN_MAX_FAILURES

end Steps

/-! ### What the logins have counted -/

section Counted
variable {Process : Type} {env : LoginEnv} {passwords : Process → String} {start : Timestamp}
  {system : System Process LoginProgress (LoginStore Process)} {turn : LoginTurn Process}

/-- What was let through is counted or still to be counted, and verified or still to
be verified. -/
structure LoginsCounted (env : LoginEnv) (start : Timestamp)
    (system : System Process LoginProgress (LoginStore Process)) : Prop where
  inTime : ∀ failures ∈ system.shared.failures, ∀ expiresAt ∈ failures.expiresAt,
    start + LOGIN_LOCKOUT_SECONDS * 1000 ≤ expiresAt
  total : system.shared.admitted.length =
    system.shared.failures.elim 0 FailureCount.count + uncounted system
  admitted : system.shared.admitted.Nodup
  begun : ∀ process ∈ system.shared.admitted, system.locals process ≠ .waiting
  underWay : ∀ process, (system.locals process).isUncounted = true →
    process ∈ system.shared.admitted
  verified : system.shared.verified.Nodup
  wasAdmitted : ∀ process ∈ system.shared.verified, process ∈ system.shared.admitted ∧
    system.locals process ≠ .admitted
  toVerify : env.passwordHash?.isSome = true → ∀ process ∈ system.shared.admitted,
    process ∉ system.shared.verified → system.locals process = .admitted
  hasPassword : env.passwordHash?.isSome = false → system.shared.verified = []
  wrong : ∀ process, system.locals process ≠ .clearing

/-- One entry of the list goes over to the other side. -/
theorem countP_drop {l : List Process} {p q : Process → Bool} {a : Process} (hNodup : l.Nodup)
    (ha : a ∈ l) (hSame : ∀ b, b ≠ a → p b = q b) (hp : p a = true) (hq : q a = false) :
    l.countP p = l.countP q + 1 := by
  induction l with
  | nil => cases ha
  | cons b rest ih =>
      obtain ⟨hNot, hRest⟩ := List.nodup_cons.mp hNodup
      by_cases hb : b = a
      · subst hb
        have hTail : rest.countP p = rest.countP q := by
          apply List.countP_congr
          intro c hc
          rw [hSame c fun hEq => hNot (hEq ▸ hc)]
        rw [List.countP_cons_of_pos hp, List.countP_cons_of_neg (by simp [hq]), hTail]
      · have hTail := ih hRest ((List.mem_cons.mp ha).resolve_left (Ne.symm hb))
        rw [List.countP_cons, List.countP_cons, hTail, hSame b hb]
        omega

/-- Before the window is over, every counted failure is live. -/
theorem liveFailures_eq (h : LoginsCounted env start system) {now : Timestamp}
    (hNow : now < start + LOGIN_LOCKOUT_SECONDS * 1000) :
    system.shared.liveFailures now = system.shared.failures := by
  unfold LoginStore.liveFailures
  cases hFailures : system.shared.failures with
  | none => rfl
  | some failures =>
      refine Option.filter_eq_some_iff.mpr ⟨rfl, ?_⟩
      cases hExpires : failures.expiresAt with
      | none => rfl
      | some expiresAt =>
          exact decide_eq_true (hNow.trans_le (h.inTime failures hFailures expiresAt hExpires))

theorem loginsCounted_start (env : LoginEnv) (start : Timestamp) :
    LoginsCounted env start (noLogin : System Process LoginProgress (LoginStore Process)) where
  inTime := nofun
  total := rfl
  admitted := List.nodup_nil
  begun _ hMem := absurd hMem List.not_mem_nil
  underWay _ hUncounted := by cases hUncounted
  verified := List.nodup_nil
  wasAdmitted _ hMem := absurd hMem List.not_mem_nil
  toVerify _ _ hMem := absurd hMem List.not_mem_nil
  hasPassword _ := rfl
  wrong _ := nofun

theorem verified_le (h : LoginsCounted env start system) :
    system.shared.verified.length ≤ system.shared.admitted.length :=
  (List.subperm_of_subset h.verified fun process hMem => (h.wasAdmitted process hMem).1).length_le

variable [DecidableEq Process]

/-- A step of a login that is not let through by it. -/
theorem LoginsCounted.move (h : LoginsCounted env start system) {process : Process}
    {progress : LoginProgress} {store : LoginStore Process}
    (hTime : ∀ failures ∈ store.failures, ∀ expiresAt ∈ failures.expiresAt,
      start + LOGIN_LOCKOUT_SECONDS * 1000 ≤ expiresAt)
    (hAdmitted : store.admitted = system.shared.admitted)
    (hCount : store.failures.elim 0 FailureCount.count + progress.isUncounted.toNat =
      system.shared.failures.elim 0 FailureCount.count +
        (system.locals process).isUncounted.toNat)
    (hLess : progress.isUncounted = true → (system.locals process).isUncounted = true)
    (hVerified : store.verified = system.shared.verified ∧
        (env.passwordHash?.isSome = true → system.locals process ≠ .admitted) ∨
      store.verified = process :: system.shared.verified ∧ system.locals process = .admitted ∧
        env.passwordHash?.isSome = true)
    (hNot : progress ≠ .waiting ∧ progress ≠ .admitted ∧ progress ≠ .clearing) :
    LoginsCounted env start ⟨store, Function.update system.locals process progress⟩ where
  inTime := hTime
  total := by
    have hTotal := h.total
    unfold uncounted at hTotal ⊢
    dsimp only
    rw [hAdmitted, hTotal]
    have hOther : ∀ other, other ≠ process → (system.locals other).isUncounted =
        (Function.update system.locals process progress other).isUncounted := by
      intro other hNe
      rw [Function.update_of_ne hNe]
    by_cases hSame : (system.locals process).isUncounted = progress.isUncounted
    · have hStays : system.shared.admitted.countP (fun p => (system.locals p).isUncounted) =
          system.shared.admitted.countP fun p =>
            (Function.update system.locals process progress p).isUncounted := by
        apply List.countP_congr
        intro other _
        by_cases hEq : other = process
        · subst hEq
          rw [Function.update_self, hSame]
        · rw [hOther other hEq]
      rw [hSame] at hCount
      omega
    · obtain ⟨hBefore, hAfter⟩ : (system.locals process).isUncounted = true ∧
          progress.isUncounted = false := by
        cases hProgress : progress.isUncounted with
        | false => exact ⟨by simpa [hProgress] using hSame, rfl⟩
        | true => exact absurd ((hLess hProgress).trans hProgress.symm) hSame
      have hDrop := countP_drop h.admitted (h.underWay process hBefore) hOther hBefore
        (by rw [Function.update_self, hAfter])
      rw [hBefore, hAfter, Bool.toNat_true, Bool.toNat_false] at hCount
      omega
  admitted := hAdmitted ▸ h.admitted
  begun other hMem := by
    dsimp only at hMem ⊢
    rw [Function.update_apply]
    split_ifs
    · exact hNot.1
    · exact h.begun other (hAdmitted ▸ hMem)
  underWay other hUncounted := by
    dsimp only at hUncounted ⊢
    rw [Function.update_apply] at hUncounted
    rw [hAdmitted]
    split_ifs at hUncounted with hEq
    · exact h.underWay other (hEq ▸ hLess hUncounted)
    · exact h.underWay other hUncounted
  verified := by
    rcases hVerified with ⟨hSame, -⟩ | ⟨hNew, hProgress, -⟩
    · exact hSame ▸ h.verified
    · dsimp only
      rw [hNew]
      exact List.nodup_cons.mpr ⟨fun hMem => (h.wasAdmitted process hMem).2 hProgress, h.verified⟩
  wasAdmitted other hMem := by
    dsimp only at hMem ⊢
    rw [Function.update_apply, hAdmitted]
    have hOr : other = process ∧ system.locals process = .admitted ∨
        other ∈ system.shared.verified := by
      rcases hVerified with ⟨hSame, -⟩ | ⟨hNew, hProgress, -⟩
      · exact .inr (hSame ▸ hMem)
      · rw [hNew] at hMem
        exact (List.mem_cons.mp hMem).imp_left fun hEq => ⟨hEq, hProgress⟩
    rcases hOr with ⟨rfl, hProgress⟩ | hOld
    · rw [if_pos rfl]
      exact ⟨h.underWay other (by rw [hProgress]; rfl), hNot.2.1⟩
    · refine ⟨(h.wasAdmitted other hOld).1, ?_⟩
      split_ifs
      · exact hNot.2.1
      · exact (h.wasAdmitted other hOld).2
  toVerify hPassword other hMem hUnverified := by
    dsimp only at hMem hUnverified ⊢
    rw [hAdmitted] at hMem
    rw [Function.update_apply]
    have hOld : other ∉ system.shared.verified := by
      rcases hVerified with ⟨hSame, -⟩ | ⟨hNew, -⟩
      · exact hSame ▸ hUnverified
      · rw [hNew] at hUnverified
        exact fun hOld => hUnverified (List.mem_cons_of_mem _ hOld)
    have hProgress := h.toVerify hPassword other hMem hOld
    rw [if_neg, hProgress]
    rintro rfl
    rcases hVerified with ⟨-, hNotYet⟩ | ⟨hNew, -⟩
    · exact hNotYet hPassword hProgress
    · rw [hNew] at hUnverified
      exact hUnverified List.mem_cons_self
  hasPassword hNone := by
    rcases hVerified with ⟨hSame, -⟩ | ⟨-, -, hSome⟩
    · exact hSame.trans (h.hasPassword hNone)
    · rw [hNone] at hSome
      cases hSome
  wrong other := by
    dsimp only
    rw [Function.update_apply]
    split_ifs
    · exact hNot.2.2
    · exact h.wrong other

/-- A login is let through. -/
theorem LoginsCounted.admit (h : LoginsCounted env start system) {process : Process}
    (hWaiting : system.locals process = .waiting) :
    LoginsCounted env start
      ⟨{ system.shared with admitted := process :: system.shared.admitted },
        Function.update system.locals process .admitted⟩ where
  inTime := h.inTime
  total := by
    have hNew : process ∉ system.shared.admitted := fun hMem => h.begun process hMem hWaiting
    have hStays : system.shared.admitted.countP (fun p => (system.locals p).isUncounted) =
        system.shared.admitted.countP fun p =>
          (Function.update system.locals process .admitted p).isUncounted := by
      apply List.countP_congr
      intro other hOther
      have hNe : other ≠ process := by
        rintro rfl
        exact hNew hOther
      rw [Function.update_of_ne hNe]
    have hTotal := h.total
    unfold uncounted at hTotal ⊢
    rw [hStays] at hTotal
    dsimp only
    rw [List.length_cons, hTotal, List.countP_cons_of_pos (by rw [Function.update_self]; rfl)]
    rfl
  admitted := List.nodup_cons.mpr ⟨fun hMem => h.begun process hMem hWaiting, h.admitted⟩
  begun other hMem := by
    dsimp only at hMem ⊢
    rw [Function.update_apply]
    split_ifs with hEq
    · nofun
    · exact h.begun other ((List.mem_cons.mp hMem).resolve_left hEq)
  underWay other hUncounted := by
    dsimp only at hUncounted ⊢
    rw [Function.update_apply] at hUncounted
    split_ifs at hUncounted with hEq
    · rw [hEq]
      exact List.mem_cons_self
    · exact List.mem_cons_of_mem _ (h.underWay other hUncounted)
  verified := h.verified
  wasAdmitted other hMem := by
    obtain ⟨hAdmitted, hNot⟩ := h.wasAdmitted other hMem
    have hNe : other ≠ process := by
      rintro rfl
      exact h.begun other hAdmitted hWaiting
    dsimp only
    rw [Function.update_of_ne hNe]
    exact ⟨List.mem_cons_of_mem _ hAdmitted, hNot⟩
  toVerify hPassword other hMem hUnverified := by
    dsimp only at hMem ⊢
    rw [Function.update_apply]
    split_ifs with hEq
    · rfl
    · exact h.toVerify hPassword other ((List.mem_cons.mp hMem).resolve_left hEq) hUnverified
  hasPassword := h.hasPassword
  wrong other := by
    dsimp only
    rw [Function.update_apply]
    split_ifs
    · nofun
    · exact h.wrong other

/-- All passwords are wrong. -/
def AllWrong (env : LoginEnv) (passwords : Process → String) : Prop :=
  ∀ process hash, env.passwordHash? = some hash →
    env.verifyPassword (passwords process) hash = false

theorem LoginsCounted.step (h : LoginsCounted env start system) (hWrong : AllWrong env passwords)
    (hWindow : InWindow start turn) :
    LoginsCounted env start (takeLoginTurn env passwords system turn) := by
  obtain ⟨process, now⟩ := turn
  obtain ⟨hStart, hEnd⟩ := hWindow
  unfold takeLoginTurn fire loginStep
  dsimp only at hStart hEnd ⊢
  cases hProgress : system.locals process with
  | waiting =>
      dsimp only
      split_ifs with hLocked
      · exact h.move h.inTime rfl (by rw [hProgress]; rfl) nofun
          (.inl ⟨rfl, fun _ => by rw [hProgress]; nofun⟩) ⟨nofun, nofun, nofun⟩
      · exact h.admit hProgress
  | admitted =>
      dsimp only
      cases hPassword : env.passwordHash? with
      | none =>
          refine h.move h.inTime rfl (by rw [hProgress]; rfl) (fun _ => by rw [hProgress]; rfl)
            (.inl ⟨rfl, fun hSome => ?_⟩) ⟨nofun, nofun, nofun⟩
          rw [hPassword] at hSome
          cases hSome
      | some hash =>
          have hNot : env.letsIn (passwords process) hash = false := by
            rw [LoginEnv.letsIn, hWrong process hash hPassword, Bool.false_and]
          dsimp only
          rw [hNot, if_neg Bool.false_ne_true]
          exact h.move h.inTime rfl (by rw [hProgress]; rfl) (fun _ => by rw [hProgress]; rfl)
            (.inr ⟨rfl, hProgress, by rw [hPassword]; rfl⟩) ⟨nofun, nofun, nofun⟩
  | failing =>
      have hLive := liveFailures_eq h hEnd
      refine h.move ?_ rfl ?_ nofun (.inl ⟨rfl, fun _ => by rw [hProgress]; nofun⟩)
        ⟨nofun, nofun, nofun⟩
      · intro failures hFailures expiresAt hExpires
        cases hFailures
        dsimp only at hExpires
        rw [hLive] at hExpires
        obtain ⟨old, hOld, hSame⟩ := Option.bind_eq_some_iff.mp hExpires
        exact h.inTime old hOld expiresAt hSame
      · rw [hProgress]
        dsimp only [LoginStore.increment, LoginStore.failureCount, Option.elim_some]
        rw [hLive]
        rfl
  | counted failures =>
      have hLive := liveFailures_eq h hEnd
      have hQuiet : env.passwordHash?.isSome = true → system.locals process ≠ .admitted :=
        fun _ => by rw [hProgress]; nofun
      dsimp only
      split_ifs
      · refine h.move ?_ rfl ?_ nofun (.inl ⟨rfl, hQuiet⟩) ⟨nofun, nofun, nofun⟩
        · intro failures hFailures expiresAt hExpires
          obtain ⟨old, -, rfl⟩ := Option.map_eq_some_iff.mp hFailures
          cases hExpires
          exact Nat.add_le_add_right hStart _
        · rw [hProgress]
          dsimp only [LoginStore.expire]
          rw [hLive]
          cases system.shared.failures <;> rfl
      · exact h.move h.inTime rfl (by rw [hProgress]; rfl) nofun (.inl ⟨rfl, hQuiet⟩)
          ⟨nofun, nofun, nofun⟩
  | sleeping failures wakesAt =>
      have hQuiet : env.passwordHash?.isSome = true → system.locals process ≠ .admitted :=
        fun _ => by rw [hProgress]; nofun
      dsimp only
      split_ifs
      · exact h.move h.inTime rfl (by rw [hProgress]) nofun (.inl ⟨rfl, hQuiet⟩)
          ⟨nofun, nofun, nofun⟩
      · exact h.move h.inTime rfl (by rw [hProgress]; rfl) nofun (.inl ⟨rfl, hQuiet⟩)
          ⟨nofun, nofun, nofun⟩
      · exact h.move h.inTime rfl (by rw [hProgress]; rfl) nofun (.inl ⟨rfl, hQuiet⟩)
          ⟨nofun, nofun, nofun⟩
  | clearing => exact absurd hProgress (h.wrong process)
  | finished =>
      exact h.move h.inTime rfl (by rw [hProgress]) (fun hUncounted => by cases hUncounted)
        (.inl ⟨rfl, fun _ => by rw [hProgress]; nofun⟩) ⟨nofun, nofun, nofun⟩

/-- So does a run of such turns. -/
theorem LoginsCounted.run (h : LoginsCounted env start system) (hWrong : AllWrong env passwords)
    {turns : List (LoginTurn Process)} (hWindow : ∀ turn ∈ turns, InWindow start turn) :
    LoginsCounted env start (run (takeLoginTurn env passwords) system turns) :=
  run_invariant_along (LoginsCounted env start) (fun _ _ h hTurn => h.step hWrong hTurn) h
    (along_of_forall (InWindow start) hWindow)

/-- A login that has read the lock lets nobody else through. -/
theorem admitted_of_begun (hBegun : system.locals turn.process ≠ .waiting) :
    (takeLoginTurn env passwords system turn).shared.admitted = system.shared.admitted := by
  unfold takeLoginTurn
  rw [fire_shared]
  unfold loginStep
  cases hProgress : system.locals turn.process with
  | waiting => exact absurd hProgress hBegun
  | admitted =>
      dsimp only
      split <;> rfl
  | counted failures =>
      dsimp only
      split_ifs <;> rfl
  | sleeping failures wakesAt =>
      dsimp only
      split_ifs <;> rfl
  | _ => rfl

/-- With room found at every lock, ten logins are let through at most. -/
theorem admitted_le_step (h : LoginsCounted env start system) (hWindow : InWindow start turn)
    (hRoom : FindsRoom env system turn) (hPassword : env.passwordHash?.isSome = true)
    (hLess : system.shared.admitted.length ≤ LOGIN_MAX_FAILURES) :
    (takeLoginTurn env passwords system turn).shared.admitted.length ≤ LOGIN_MAX_FAILURES := by
  by_cases hWaiting : system.locals turn.process = .waiting
  · cases hLocked : system.shared.isLocked turn.now with
    | true =>
        unfold takeLoginTurn
        rw [fire_shared]
        simp only [loginStep, hWaiting, hLocked, if_true]
        exact hLess
    | false =>
        have hFew := hRoom hPassword hWaiting hLocked
        unfold LoginStore.failureCount at hFew
        rw [liveFailures_eq h hWindow.2, ← h.total] at hFew
        unfold takeLoginTurn
        rw [fire_shared]
        simp only [loginStep, hWaiting, hLocked, Bool.false_eq_true, if_false]
        exact hFew
  · rw [admitted_of_begun hWaiting]
    exact hLess

/-- The logins go on, and nobody else is let through. -/
theorem admitted_of_run (h : LoginsCounted env start system) (hWrong : AllWrong env passwords)
    {more : List (LoginTurn Process)}
    (hMore : ∀ turn ∈ more, InWindow start turn ∧ turn.process ∈ system.shared.admitted) :
    (Runs.run (takeLoginTurn env passwords) system more).shared.admitted =
      system.shared.admitted := by
  induction more generalizing system with
  | nil => rfl
  | cons turn rest ih =>
      obtain ⟨hTurn, hRest⟩ := List.forall_mem_cons.mp hMore
      have hSame := @admitted_of_begun _ env passwords system turn _ (h.begun _ hTurn.2)
      rw [run_cons, ih (h.step hWrong hTurn.1) (hSame.symm ▸ hRest), hSame]

/-- The logins whose next step verifies a password. -/
def nextVerified (system : System Process LoginProgress (LoginStore Process)) : List Process :=
  system.shared.admitted.filter fun process => system.locals process = .admitted

/-- Logins that were let through have their passwords verified, one after another. -/
theorem verifyAll (now : Timestamp) (hPassword : env.passwordHash?.isSome = true)
    {processes : List Process} (hNodup : processes.Nodup)
    (hAdmitted : ∀ process ∈ processes, system.locals process = .admitted) :
    (Runs.run (takeLoginTurn env passwords) system
      (processes.map fun process => ⟨process, now⟩)).shared.verified =
        processes.reverse ++ system.shared.verified := by
  induction processes generalizing system with
  | nil => rfl
  | cons process rest ih =>
      obtain ⟨hNot, hRest⟩ := List.nodup_cons.mp hNodup
      obtain ⟨hash, hHash⟩ := Option.isSome_iff_exists.mp hPassword
      obtain ⟨hFirst, hOthers⟩ := List.forall_mem_cons.mp hAdmitted
      have hStep : (takeLoginTurn env passwords system ⟨process, now⟩).shared.verified =
          process :: system.shared.verified := by
        unfold takeLoginTurn
        rw [fire_shared]
        simp only [loginStep, hFirst, hHash]
      rw [List.map_cons, run_cons, ih hRest, hStep, List.reverse_cons, List.append_assoc]
      · rfl
      · intro other hOther
        have hNe : other ≠ process := by
          rintro rfl
          exact hNot hOther
        unfold takeLoginTurn
        rw [fire_locals_of_ne system hNe]
        exact hOthers other hOther

end Counted

/-- In every lockout window, with any number of logins with wrong passwords and in any
order of their steps: in every part of the run, ten passwords are verified at most
however the logins go on that it let through, exactly if every login that finds no
lock finds fewer than ten failures, counted or still to be counted. -/
theorem login_attempts_bounded_iff {Process : Type} [DecidableEq Process] (env : LoginEnv)
    (passwords : Process → String) (start : Timestamp) (turns : List (LoginTurn Process))
    (hWrong : AllWrong env passwords) (hWindow : ∀ turn ∈ turns, InWindow start turn) :
    BoundsAttempts env passwords start turns ↔
      Along (takeLoginTurn env passwords) (FindsRoom env) noLogin turns := by
  have hStart := @loginsCounted_start Process env start
  constructor
  · intro hBounds
    refine along_iff_forall.mpr fun before turn after hTurns hPassword hWaiting hUnlocked => ?_
    by_contra hFull
    rw [hTurns] at hWindow
    obtain ⟨hBefore, hRest⟩ := List.forall_mem_append.mp hWindow
    have hTurn := (List.forall_mem_cons.mp hRest).1
    have h := hStart.run hWrong hBefore
    have h' := h.step hWrong hTurn
    -- One login more is let through than there is room for, and all of them go on.
    have hAdmitted : (takeLoginTurn env passwords
        (run (takeLoginTurn env passwords) noLogin before) turn).shared.admitted =
          turn.process :: (run (takeLoginTurn env passwords) noLogin before).shared.admitted := by
      unfold takeLoginTurn at hWaiting hUnlocked ⊢
      rw [fire_shared]
      simp only [loginStep, hWaiting, hUnlocked, Bool.false_eq_true, if_false]
    have hMany := h.total
    unfold LoginStore.failureCount at hFull
    rw [liveFailures_eq h hTurn.2, ← hMany] at hFull
    generalize hSystem : takeLoginTurn env passwords
      (run (takeLoginTurn env passwords) noLogin before) turn = system at h' hAdmitted
    have hLeft : run (takeLoginTurn env passwords) noLogin (before ++ [turn]) = system := by
      rw [run_append, run_cons, run_nil, hSystem]
    have hBound := hBounds (before ++ [turn]) after
      ((nextVerified system).map fun process => ⟨process, turn.now⟩)
      (by rw [hTurns, List.append_assoc]; rfl) ?_
    · rw [run_append, hLeft, @verifyAll _ env passwords system _ turn.now hPassword
        (nextVerified system) (h'.admitted.filter _) ?_] at hBound
      · have hSubset : system.shared.admitted ⊆
            (nextVerified system).reverse ++ system.shared.verified := by
          intro process hMem
          rw [List.mem_append, List.mem_reverse]
          by_cases hVerified : process ∈ system.shared.verified
          · exact .inr hVerified
          · exact .inl (List.mem_filter.mpr
              ⟨hMem, decide_eq_true (h'.toVerify hPassword process hMem hVerified)⟩)
        have hAll := (List.subperm_of_subset h'.admitted hSubset).length_le
        rw [hAdmitted, List.length_cons] at hAll
        omega
      · exact fun process hMem => of_decide_eq_true (List.mem_filter.mp hMem).2
    · intro next hNext
      obtain ⟨process, hMem, rfl⟩ := List.mem_map.mp hNext
      rw [hLeft]
      exact ⟨hTurn, (List.mem_filter.mp hMem).1⟩
  · intro hAlong before after more hTurns hMore
    rw [hTurns] at hAlong hWindow
    have hRoom := (Along.append.mp hAlong).1
    have hBefore := (List.forall_mem_append.mp hWindow).1
    have h := hStart.run hWrong hBefore
    have h' := h.run hWrong fun turn hTurn => (hMore turn hTurn).1
    rw [run_append]
    cases hPassword : env.passwordHash?.isSome with
    | false =>
        rw [h'.hasPassword hPassword]
        exact Nat.zero_le _
    | true =>
        refine (verified_le h').trans ?_
        rw [admitted_of_run h hWrong hMore]
        refine (run_invariant_along (fun system => LoginsCounted env start system ∧
          system.shared.admitted.length ≤ LOGIN_MAX_FAILURES) (fun system turn h hTurn => ?_)
          ⟨hStart, Nat.zero_le _⟩ ((along_of_forall (InWindow start) hBefore).and hRoom)).2
        exact ⟨h.1.step hWrong hTurn.1, admitted_le_step h.1 hTurn.1 hTurn.2 hPassword h.2⟩

namespace Sample

/-- A clerk's account, and passwords that are none. -/
def guessed : LoginEnv where
  account := some ⟨some "hash", true, true⟩
  verifyPassword := fun _ _ => false
  delays := true

def guesses (_ : Nat) : String := "guess"

/-- Eleven logins read the lock, and then verify their passwords. -/
def elevenGuesses : List (LoginTurn Nat) :=
  (List.range 11).map (fun process => ⟨process, 0⟩) ++
    (List.range 11).map fun process => ⟨process, 1⟩

end Sample

/-- Two logins in turn. -/
theorem login_attempts_bounded_two :
    BoundsAttempts Sample.guessed Sample.guesses 0
        [⟨0, 0⟩, ⟨1, 1⟩, ⟨0, 2⟩, ⟨1, 3⟩] := by
  refine (login_attempts_bounded_iff Sample.guessed Sample.guesses 0 _ (fun _ _ _ => rfl)
    ?_).mpr ?_
  · unfold InWindow
    decide
  · exact ⟨fun _ _ _ => by decide, fun _ _ _ => by decide,
      fun _ _ _ => by decide, fun _ _ _ => by decide, trivial⟩

/-- Eleven passwords are verified in one window. -/
theorem eleven_guesses_verified :
    ¬ ∀ turns : List (LoginTurn Nat), (∀ turn ∈ turns, InWindow 0 turn) →
      (run (takeLoginTurn Sample.guessed Sample.guesses) noLogin turns).shared.verified.length ≤
        LOGIN_MAX_FAILURES := by
  intro h
  have hVerified := h Sample.elevenGuesses ?_
  · exact absurd hVerified (by decide)
  · unfold InWindow
    decide

end PropertyTax
