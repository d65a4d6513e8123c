import PropertyTax.Library.Visits
import PropertyTax.Sessions.LoginProtection

/-! What the answers to logins tell of the account under an address. A visitor opens
logins as it likes, lets them overlap, and decides what to do next from the answers so
far; how long a single password check takes is not part of the model. -/
namespace PropertyTax
open Runs Visits

/-! ### The answers -/

inductive LoginAnswer where
  | refused (status : Nat) (code message : String)
  | letIn
deriving DecidableEq

/-- What `assertLoginAllowed` throws. -/
def lockedAnswer : LoginAnswer := .refused 401 "INVALID_CREDENTIALS" "Invalid email or password"

/-- What `fail` throws, whatever the reason. -/
def failedAnswer : LoginAnswer := .refused 401 "INVALID_CREDENTIALS" "Invalid email or password"

/-- The answer that a step sends, if it is the last one of its login. -/
def loginAnswer : LoginProgress → LoginProgress → Option LoginAnswer
  | .waiting, .finished => some lockedAnswer
  | .sleeping _ _, .finished => some failedAnswer
  | .clearing, .finished => some .letIn
  | _, _ => none

/-- The user that the address has, and the logins under it. -/
structure LoginServer (Process : Type) where
  env : LoginEnv
  system : System Process LoginProgress (LoginStore Process)

/-- The password lets in. -/
def LoginEnv.opens (env : LoginEnv) (password : String) : Bool :=
  env.passwordHash?.any fun hash => env.letsIn password hash

namespace LoginServer
variable {Process : Type} (passwords : Process → String)

section Serve
variable [DecidableEq Process]

/-- One turn of a login, and what its visitor sees of it. -/
def serve (turn : LoginTurn Process) (server : LoginServer Process) :
    LoginServer Process × Option LoginAnswer :=
  let after := takeLoginTurn server.env passwords server.system turn
  ({ server with system := after },
    loginAnswer (server.system.locals turn.process) (after.locals turn.process))

/-- An address whose user is `env`'s, before any of the logins. -/
def opened (env : LoginEnv) (store : LoginStore Process) : LoginServer Process :=
  ⟨env, store, fun _ => .waiting⟩

/-- The server after some turns, and the answers seen. The visitor decides whose turn it is,
and so which password comes next. -/
def visited (env : LoginEnv) (store : LoginStore Process)
    (ask : List (Option LoginAnswer) → LoginTurn Process) (n : Nat) :
    LoginServer Process × List (Option LoginAnswer) :=
  visit (fun turn server => server.serve passwords turn) ask (opened env store) n

end Serve


/-- A login whose password opens the one account and not the other has had it verified,
and goes on. -/
def TellsApart (turn : LoginTurn Process) (server server' : LoginServer Process) : Prop :=
  server.env.opens (passwords turn.process) ≠ server'.env.opens (passwords turn.process) ∧
    (server.system.locals turn.process = .clearing ∨ server.system.locals turn.process = .failing)

end LoginServer

/-! ### Addresses that look the same -/

section Alike
variable {Process : Type} {passwords : Process → String}

/-- The stored keys of the address are the same. -/
structure LoginStore.Alike (store store' : LoginStore Process) : Prop where
  failures : store.failures = store'.failures
  lockedUntil : store.lockedUntil = store'.lockedUntil

/-- A login stands where the other does, unless its password has just been found to open
one account only. -/
inductive AlikeProgress (opens opens' : Bool) : LoginProgress → LoginProgress → Prop
  | same (progress : LoginProgress)
      (h : progress = .clearing ∨ progress = .failing → opens = opens') :
      AlikeProgress opens opens' progress progress
  | parted (h : opens = true) (h' : opens' = false) :
      AlikeProgress opens opens' .clearing .failing
  | parted' (h : opens = false) (h' : opens' = true) :
      AlikeProgress opens opens' .failing .clearing

structure LoginServer.Alike (passwords : Process → String)
    (server server' : LoginServer Process) : Prop where
  delays : server.env.delays = server'.env.delays
  store : server.system.shared.Alike server'.system.shared
  logins : ∀ process, AlikeProgress (server.env.opens (passwords process))
    (server'.env.opens (passwords process)) (server.system.locals process)
    (server'.system.locals process)

/-- Stores that are alike count alike. -/
theorem LoginStore.Alike.failureCount {store store' : LoginStore Process} (h : store.Alike store')
    (now : Timestamp) : store.failureCount now = store'.failureCount now := by
  simp only [LoginStore.failureCount, LoginStore.liveFailures, h.failures]

variable (passwords) in
/-- The verified password decides how an attempt goes on. -/
theorem loginStep_admitted (env : LoginEnv) (now : Timestamp) (process : Process)
    (store : LoginStore Process) :
    (loginStep env passwords now process .admitted store).1 =
        (if env.opens (passwords process) then .clearing else .failing) ∧
      (loginStep env passwords now process .admitted store).2.Alike store := by
  cases hHash : env.passwordHash? with
  | none => simpa [loginStep, hHash, LoginEnv.opens] using ⟨rfl, rfl⟩
  | some hash => simpa [loginStep, hHash, LoginEnv.opens] using ⟨rfl, rfl⟩

/-- Stores that are alike are locked alike. -/
theorem LoginStore.Alike.isLocked {store store' : LoginStore Process} (h : store.Alike store')
    (now : Timestamp) : store.isLocked now = store'.isLocked now := by
  unfold LoginStore.isLocked LoginStore.lockTtl
  rw [h.lockedUntil]

theorem LoginEnv.delayMs_congr {env env' : LoginEnv} (h : env.delays = env'.delays)
    (failures : Nat) : env.delayMs failures = env'.delayMs failures := by
  simp only [LoginEnv.delayMs, h]

variable (passwords) in
/-- But for the verification, a step does not look at the account. -/
theorem loginStep_alike {env env' : LoginEnv} (hDelays : env.delays = env'.delays)
    {store store' : LoginStore Process} (h : store.Alike store') (now : Timestamp)
    (process : Process) {progress : LoginProgress} (hProgress : progress ≠ .admitted) :
    (loginStep env passwords now process progress store).1 =
        (loginStep env' passwords now process progress store').1 ∧
      (loginStep env passwords now process progress store).2.Alike
        (loginStep env' passwords now process progress store').2 := by
  cases progress with
  | waiting =>
      simp only [loginStep, h.isLocked now]
      split
      · exact ⟨rfl, h⟩
      · exact ⟨rfl, h.failures, h.lockedUntil⟩
  | admitted => exact absurd rfl hProgress
  | failing =>
      refine ⟨?_, ?_, h.lockedUntil⟩
      · simp only [loginStep, h.failureCount now]
      · simp only [loginStep, LoginStore.increment, LoginStore.liveFailures, h.failures,
          h.failureCount now]
  | counted failures =>
      simp only [loginStep, LoginEnv.delayMs_congr hDelays]
      split
      · refine ⟨trivial, ?_, h.lockedUntil⟩
        simp only [LoginStore.expire, LoginStore.liveFailures, h.failures]
      · exact ⟨trivial, h⟩
  | sleeping failures wakesAt =>
      simp only [loginStep]
      split
      · exact ⟨rfl, h⟩
      · split
        · exact ⟨rfl, h.failures, rfl⟩
        · exact ⟨rfl, h⟩
  | clearing => exact ⟨rfl, rfl, rfl⟩
  | finished => exact ⟨rfl, h⟩

namespace LoginServer
variable [DecidableEq Process] {server server' : LoginServer Process} {turn : LoginTurn Process}

/-- The turn of one login leaves the others alike. -/
theorem Alike.serve (h : Alike passwords server server')
    (hStore : (loginStep server.env passwords turn.now turn.process
        (server.system.locals turn.process) server.system.shared).2.Alike
      (loginStep server'.env passwords turn.now turn.process
        (server'.system.locals turn.process) server'.system.shared).2)
    (hLogin : AlikeProgress (server.env.opens (passwords turn.process))
      (server'.env.opens (passwords turn.process))
      (loginStep server.env passwords turn.now turn.process
        (server.system.locals turn.process) server.system.shared).1
      (loginStep server'.env passwords turn.now turn.process
        (server'.system.locals turn.process) server'.system.shared).1) :
    Alike passwords (server.serve passwords turn).1 (server'.serve passwords turn).1 where
  delays := h.delays
  store := hStore
  logins process := by
    by_cases hProcess : process = turn.process
    · subst hProcess
      simpa [LoginServer.serve, takeLoginTurn] using hLogin
    · simpa [LoginServer.serve, takeLoginTurn, fire_locals_of_ne _ hProcess] using h.logins process

end LoginServer

/-- Only the verification leaves a login with its outcome still to be told. -/
theorem loginStep_told (env : LoginEnv) (now : Timestamp) (process : Process)
    (store : LoginStore Process) {progress : LoginProgress} (hProgress : progress ≠ .admitted) :
    ¬ ((loginStep env passwords now process progress store).1 = .clearing ∨
      (loginStep env passwords now process progress store).1 = .failing) := by
  cases progress with
  | waiting => simp only [loginStep]; split <;> simp
  | admitted => exact absurd rfl hProgress
  | failing => simp [loginStep]
  | counted failures => simp [loginStep]
  | sleeping failures wakesAt => simp only [loginStep]; split <;> simp
  | clearing => simp [loginStep]
  | finished => simp [loginStep]

namespace LoginServer
variable [DecidableEq Process] {server server' : LoginServer Process} {turn : LoginTurn Process}

/-- The answer is read off from the attempt's next state. -/
theorem serve_snd (server : LoginServer Process) (turn : LoginTurn Process) :
    (server.serve passwords turn).2 = loginAnswer (server.system.locals turn.process)
      (loginStep server.env passwords turn.now turn.process
        (server.system.locals turn.process) server.system.shared).1 := by
  simp [LoginServer.serve, takeLoginTurn]

/-- A turn that tells nothing gets the same answer, and leaves the servers alike. -/
theorem serve_of_alike (h : Alike passwords server server')
    (hTells : ¬ TellsApart passwords turn server server') :
    (server.serve passwords turn).2 = (server'.serve passwords turn).2 ∧
      Alike passwords (server.serve passwords turn).1 (server'.serve passwords turn).1 := by
  have hLogin := h.logins turn.process
  generalize hProgress : server.system.locals turn.process = progress at hLogin
  generalize hProgress' : server'.system.locals turn.process = progress' at hLogin
  cases hLogin with
  | same _ hOpens =>
      by_cases hAdmitted : progress = .admitted
      · subst hAdmitted
        obtain ⟨hNext, hStore⟩ := loginStep_admitted passwords server.env turn.now turn.process
          server.system.shared
        obtain ⟨hNext', hStore'⟩ := loginStep_admitted passwords server'.env turn.now
          turn.process server'.system.shared
        rw [← hProgress] at hNext hStore
        rw [← hProgress'] at hNext' hStore'
        refine ⟨?_, h.serve ?_ ?_⟩
        · rw [serve_snd, serve_snd, hNext, hNext', hProgress, hProgress']
          split <;> split <;> rfl
        · exact ⟨hStore.failures.trans (h.store.failures.trans hStore'.failures.symm),
            hStore.lockedUntil.trans (h.store.lockedUntil.trans hStore'.lockedUntil.symm)⟩
        · rw [hNext, hNext']
          cases hHere : server.env.opens (passwords turn.process) <;>
            cases hThere : server'.env.opens (passwords turn.process)
          · exact .same _ fun _ => rfl
          · exact .parted' rfl rfl
          · exact .parted rfl rfl
          · exact .same _ fun _ => rfl
      · obtain ⟨hNext, hStore⟩ :=
          @loginStep_alike Process passwords _ _ h.delays _ _ h.store turn.now turn.process _
            hAdmitted
        refine ⟨?_, h.serve ?_ ?_⟩
        · rw [serve_snd, serve_snd, hProgress, hProgress', hNext]
        · rw [hProgress, hProgress']
          exact hStore
        · rw [hProgress, hProgress', ← hNext]
          exact .same _ fun hTold => absurd hTold (loginStep_told _ _ _ _ hAdmitted)
  | parted hOpens hOpens' =>
      refine absurd ⟨?_, .inl hProgress⟩ hTells
      rw [hOpens, hOpens']
      decide
  | parted' hOpens hOpens' =>
      refine absurd ⟨?_, .inr hProgress⟩ hTells
      rw [hOpens, hOpens']
      decide

/-- The one login is let in, while the failure of the other is still to be counted. -/
theorem serve_ne_of_tells (h : Alike passwords server server')
    (hTells : TellsApart passwords turn server server') :
    (server.serve passwords turn).2 ≠ (server'.serve passwords turn).2 := by
  obtain ⟨hOpens, hVerified⟩ := hTells
  have hLogin := h.logins turn.process
  rw [serve_snd, serve_snd]
  generalize server.system.locals turn.process = progress at hLogin hVerified
  generalize server'.system.locals turn.process = progress' at hLogin
  cases hLogin with
  | same _ hSame => exact absurd (hSame hVerified) hOpens
  | parted => simp [loginStep, loginAnswer]
  | parted' => simp [loginStep, loginAnswer]

omit [DecidableEq Process] in
/-- Environments with the same delays start alike. -/
theorem opened_alike {env env' : LoginEnv} (hDelays : env.delays = env'.delays)
    (store : LoginStore Process) :
    Alike passwords (opened env store) (opened env' store) := by
  refine ⟨hDelays, ⟨rfl, rfl⟩, fun process => .same _ ?_⟩
  intro hTold
  rcases hTold with hTold | hTold <;> cases hTold

/-- A visit leaves the environment as it is. -/
theorem visited_env (env : LoginEnv) (store : LoginStore Process)
    (ask : List (Option LoginAnswer) → LoginTurn Process) (n : Nat) :
    (visited passwords env store ask n).1.env = env := by
  induction n with
  | zero => rfl
  | succ n ih => exact ih

/-- Whatever user an address has, or none: a visitor who opens logins under it, lets them
overlap as it likes and goes by the answers is answered the same, up to any point, exactly
if no login with a password that opens one account and not the other has had it verified
and gone on. Without such a password it is always answered the same. -/
theorem login_answers_eq_iff {env env' : LoginEnv} (hDelays : env.delays = env'.delays)
    (store : LoginStore Process) (ask : List (Option LoginAnswer) → LoginTurn Process) (n : Nat) :
    ((visited passwords env store ask n).2 = (visited passwords env' store ask n).2 ↔
      ∀ k < n, ¬ TellsApart passwords (ask (visited passwords env store ask k).2)
        (visited passwords env store ask k).1 (visited passwords env' store ask k).1) ∧
    ((∀ process, env.opens (passwords process) = env'.opens (passwords process)) →
      (visited passwords env store ask n).2 = (visited passwords env' store ask n).2) := by
  have hLaw : (visited passwords env store ask n).2 = (visited passwords env' store ask n).2 ↔
      ∀ k < n, ¬ TellsApart passwords (ask (visited passwords env store ask k).2)
        (visited passwords env store ask k).1 (visited passwords env' store ask k).1 :=
    @answers_eq_iff (LoginServer Process) (LoginTurn Process) (Option LoginAnswer)
      (fun turn server => server.serve passwords turn) ask (opened env store) (opened env' store)
      (Alike passwords) (TellsApart passwords)
      (fun _ _ _ hAlike hTells => serve_of_alike hAlike hTells)
      (fun _ _ _ hAlike hTells => serve_ne_of_tells hAlike hTells)
      (opened_alike hDelays store) n
  refine ⟨hLaw, ?_⟩
  intro hSame
  rw [hLaw]
  rintro k - ⟨hOpens, -⟩
  rw [visited_env, visited_env] at hOpens
  exact hOpens (hSame _)

end LoginServer
end Alike

namespace Sample

/-- A clerk whose password is "right". -/
def clerkLogin : LoginEnv where
  account := some ⟨some "right", true, true⟩
  verifyPassword := fun password hash => password == hash
  delays := true

/-- No user has the address. -/
def nobodyLogin : LoginEnv := { clerkLogin with account := none }

/-- One login a turn, the first ones with a wrong password, until one is let in. -/
def guessing (answers : List (Option LoginAnswer)) : LoginTurn Nat :=
  ⟨answers.length / 5, 10000 * answers.length⟩

def guessed3 (process : Nat) : String := if process < 2 then "wrong" else "right"

end Sample

open LoginServer in
/-- Two wrong passwords tell nothing of the account; the right one does. -/
theorem login_answers_eq_iff_clerk :
    (∀ k < 12, ¬ TellsApart Sample.guessed3
      (Sample.guessing (visited Sample.guessed3 Sample.clerkLogin {} Sample.guessing k).2)
      (visited Sample.guessed3 Sample.clerkLogin {} Sample.guessing k).1
      (visited Sample.guessed3 Sample.nobodyLogin {} Sample.guessing k).1) ∧
    (visited Sample.guessed3 Sample.clerkLogin {} Sample.guessing 13).2 ≠
      (visited Sample.guessed3 Sample.nobodyLogin {} Sample.guessing 13).2 := by
  have hLaw := (@login_answers_eq_iff Nat Sample.guessed3 _ Sample.clerkLogin Sample.nobodyLogin
    rfl {} Sample.guessing 12).1
  exact ⟨hLaw.mp (by decide), by decide⟩

end PropertyTax
