import PropertyTax.Library.JsText
import PropertyTax.Library.Runs
import PropertyTax.Users.Service

/-! The password of a staff account: how its hash is verified, and the calls that write
it. A login on an old kind of hash writes it anew, after a pause in which the password
may have been changed. -/
namespace PropertyTax
open Runs

/-! ### Hashes -/

/-- The hash functions, which are not part of the program; `none` where one throws. -/
structure HashFunctions where
  argon2 : String → String → String
  argon2Verify : String → String → Option Bool
  bcryptCompare : String → String → Bool
  scryptHex : String → String → List Char
  normalizeNfkc : String → String

def BCRYPT_PREFIX : String := "$2"
def ARGON2_PREFIX : String := "$argon2"

def isBcryptHash (hash : String) : Bool := BCRYPT_PREFIX.toList.isPrefixOf hash.toList

def isArgon2Hash (hash : String) : Bool := ARGON2_PREFIX.toList.isPrefixOf hash.toList

/-- `/^[0-9a-f]+$/i` -/
def isHex (text : List Char) : Bool :=
  !text.isEmpty && text.all fun c =>
    c.isDigit || ('a' ≤ c && c ≤ 'f') || ('A' ≤ c && c ≤ 'F')

/-- `const [salt, key] = hash.split(":")`, both in hexadecimal digits. -/
def legacyParts (hash : String) : Option (List Char × List Char) :=
  match hash.toList.splitOn ':' with
  | salt :: key :: _ => if isHex salt && isHex key then some (salt, key) else none
  | _ => none

def isLegacyBetterAuthHash (hash : String) : Bool := (legacyParts hash).isSome

section Hashes
variable (functions : HashFunctions)

def verifyLegacyBetterAuthHash (hash password : String) : Bool :=
  match legacyParts hash with
  | some (salt, key) =>
      functions.scryptHex (functions.normalizeNfkc password) (String.ofList salt) = key
  | none => false

/-- `hashPassword`, with the salt that the library draws. -/
def hashPassword (password salt : String) : String := functions.argon2 salt password

def verifyPassword (password storedHash : String) : Bool :=
  if storedHash = "" then false
  else if isArgon2Hash storedHash then (functions.argon2Verify storedHash password).getD false
  else if isBcryptHash storedHash then functions.bcryptCompare password storedHash
  else if isLegacyBetterAuthHash storedHash then
    verifyLegacyBetterAuthHash functions storedHash password
  else false

end Hashes

def shouldUpgradePasswordHash (storedHash : String) : Bool :=
  isLegacyBetterAuthHash storedHash || isBcryptHash storedHash

/-- What the program relies on: a hash is marked as one of its kind, and verifies the
password it was made of and no other. -/
structure HashFunctions.Sound (functions : HashFunctions) : Prop where
  tagged : ∀ salt password, isArgon2Hash (functions.argon2 salt password) = true
  verifies : ∀ salt password other,
    functions.argon2Verify (functions.argon2 salt password) other = some (decide (password = other))

/-! ### The policy -/

def PASSWORD_MAX_LENGTH : Nat := 128

def assertPasswordPolicy (password : String) : Except String Unit :=
  let len := Js.length password
  if len < PASSWORD_MIN_LENGTH then .error "PASSWORD_TOO_SHORT"
  else if PASSWORD_MAX_LENGTH < len then .error "PASSWORD_TOO_LONG"
  else .ok ()

/-! ### The calls -/

/-- An account. `secret` is the password that was set last: no call reads it. -/
structure CredentialAccount where
  passwordHash : Option String
  active : Bool
  staff : Bool
  secret : Option String

/-- The calls on one account, with the salt that each would draw. Whether a login finds
its address locked and a reset finds its link open is decided elsewhere. -/
inductive CredentialCall where
  | login (password salt : String) (locked : Bool)
  | changePassword (currentPassword newPassword salt : String)
  | resetPassword (newPassword salt : String) (linkOpen : Bool)
  | editUser (active staff : Bool)

inductive CredentialProgress where
  | waiting
  | rehashing
  | hashing
  | refused (code : String)
  | letIn
  | finished
deriving DecidableEq

section Calls
variable (functions : HashFunctions)

/-- The checks of a login on the user it has read. -/
def CredentialAccount.letsIn (account : CredentialAccount) (password : String) : Bool :=
  verifyPassword functions password (account.passwordHash.getD "") && account.active &&
    account.staff

def CredentialAccount.setPassword (account : CredentialAccount) (password salt : String) :
    CredentialAccount :=
  { account with
    passwordHash := some (hashPassword functions password salt)
    secret := some password }

/-- The first step of a call: what it reads, and the checks on it. -/
def beginCredential (account : CredentialAccount) : CredentialCall → CredentialProgress
  | .login password _ locked =>
      if locked then .refused "INVALID_CREDENTIALS"
      else if !account.letsIn functions password then .refused "INVALID_CREDENTIALS"
      else if shouldUpgradePasswordHash (account.passwordHash.getD "") then .rehashing
      else .letIn
  | .changePassword currentPassword newPassword _ =>
      match assertPasswordPolicy newPassword with
      | .error code => .refused code
      | .ok () =>
          if account.passwordHash.getD "" = "" then .refused "CREDENTIAL_ACCOUNT_NOT_FOUND"
          else if !verifyPassword functions currentPassword (account.passwordHash.getD "") then
            .refused "INVALID_PASSWORD"
          else .hashing
  | .resetPassword newPassword _ linkOpen =>
      match assertPasswordPolicy newPassword with
      | .error code => .refused code
      | .ok () => if linkOpen then .hashing else .refused "PASSWORD_RESET_FAILED"
  | .editUser _ _ => .finished

variable {Process : Type} (calls : Process → CredentialCall)

def credentialStep (process : Process) (progress : CredentialProgress)
    (account : CredentialAccount) : CredentialProgress × CredentialAccount :=
  match calls process, progress with
  | .editUser active staff, .waiting => (.finished, { account with active, staff })
  | call, .waiting => (beginCredential functions account call, account)
  | .login password salt _, .rehashing =>
      (.letIn, { account with passwordHash := some (hashPassword functions password salt) })
  | .changePassword _ newPassword salt, .hashing =>
      (.finished, account.setPassword functions newPassword salt)
  | .resetPassword newPassword salt _, .hashing =>
      (.finished, account.setPassword functions newPassword salt)
  | _, progress => (progress, account)

/-! ### The password of the account -/

/-- The stored hash opens to the password that was set last, and to no other. -/
def IsCurrent (account : CredentialAccount) : Prop :=
  ∀ password, verifyPassword functions password (account.passwordHash.getD "") = true ↔
    account.secret = some password

/-- A login is about to write the hash of a password that is not the account's any more. -/
def UndoesChange (system : System Process CredentialProgress CredentialAccount)
    (process : Process) : Prop :=
  ∃ password salt locked, calls process = .login password salt locked ∧
    system.locals process = .rehashing ∧ system.shared.secret ≠ some password

/-- All calls on the account are still to come. -/
def noCall (account : CredentialAccount) : System Process CredentialProgress CredentialAccount :=
  ⟨account, fun _ => .waiting⟩

variable [DecidableEq Process]

/-- The account and the calls after some of their steps. -/
def credentialsAfter (account : CredentialAccount) (schedule : List Process) :
    System Process CredentialProgress CredentialAccount :=
  run (fire (credentialStep functions calls)) (noCall account) schedule

/-- No login of the run writes an older password back. -/
def NoChangeUndone (account : CredentialAccount) (schedule : List Process) : Prop :=
  Along (fire (credentialStep functions calls))
    (fun system process => ¬ UndoesChange calls system process) (noCall account) schedule

end Calls

theorem isArgon2Hash_start {hash : String} (h : isArgon2Hash hash = true) :
    ∃ rest, hash.toList = ARGON2_PREFIX.toList ++ rest := by
  obtain ⟨rest, hRest⟩ := List.isPrefixOf_iff_prefix.mp h
  exact ⟨rest, hRest.symm⟩

/-- An argon2 hash has no parts of the older format. -/
theorem legacyParts_argon2 {hash : String} (h : isArgon2Hash hash = true) :
    legacyParts hash = none := by
  obtain ⟨rest, hRest⟩ := isArgon2Hash_start h
  have hSplit : hash.toList.splitOn ':' =
      (("argon2".toList ++ rest).splitOn ':').modifyHead (List.cons '$') := by
    rw [hRest]
    exact List.splitOn_cons_eq_if_modifyHead '$' ("argon2".toList ++ rest)
  rw [legacyParts, hSplit]
  -- A dollar sign is no hexadecimal digit.
  rcases ("argon2".toList ++ rest).splitOn ':' with _ | ⟨salt, _ | ⟨key, more⟩⟩
  · rfl
  · rfl
  · rfl

/-- A hash of the new kind is never made anew. -/
theorem shouldUpgrade_argon2 {hash : String} (h : isArgon2Hash hash = true) :
    shouldUpgradePasswordHash hash = false := by
  have hBcrypt : isBcryptHash hash = false := by
    obtain ⟨rest, hRest⟩ := isArgon2Hash_start h
    rw [isBcryptHash, hRest]
    rfl
  simp [shouldUpgradePasswordHash, isLegacyBetterAuthHash, legacyParts_argon2 h, hBcrypt]

section Law
variable {functions : HashFunctions}

/-- A hashed password is opened by itself only. -/
theorem HashFunctions.Sound.verifyPassword_hashPassword (hSound : functions.Sound)
    (salt password other : String) :
    verifyPassword functions other (hashPassword functions password salt) = true ↔
      password = other := by
  have hTagged := hSound.tagged salt password
  have hFilled : functions.argon2 salt password ≠ "" := by
    intro hEmpty
    rw [hEmpty] at hTagged
    exact absurd hTagged (by decide)
  simp [verifyPassword, hashPassword, hFilled, hTagged, hSound.verifies]

/-- Whoever writes the hash of the account's own password keeps it current. -/
theorem HashFunctions.Sound.isCurrent_iff (hSound : functions.Sound) (account : CredentialAccount)
    (password salt : String)
    (hHash : account.passwordHash = some (hashPassword functions password salt)) :
    IsCurrent functions account ↔ account.secret = some password := by
  have hOpens (other : String) :
      verifyPassword functions other (account.passwordHash.getD "") = true ↔ password = other := by
    rw [hHash]
    exact hSound.verifyPassword_hashPassword salt password other
  constructor
  · intro hCurrent
    exact (hCurrent password).mp ((hOpens password).mpr rfl)
  · intro hSecret other
    rw [hOpens, hSecret]
    simp

variable {Process : Type} {calls : Process → CredentialCall}

/-- What one step does to the account: it lets it be, writes the hash of a password and
makes it the account's, or, at the end of a login, the hash of the password typed in. -/
theorem credentialStep_cases (process : Process) (progress : CredentialProgress)
    (account : CredentialAccount) :
    ((credentialStep functions calls process progress account).2.passwordHash =
        account.passwordHash ∧
      (credentialStep functions calls process progress account).2.secret = account.secret ∧
      (∀ password salt locked, calls process = .login password salt locked →
        progress ≠ .rehashing)) ∨
    (∃ password salt, (credentialStep functions calls process progress account).2 =
        account.setPassword functions password salt ∧
      ∀ password salt locked, calls process ≠ .login password salt locked) ∨
    (∃ password salt locked, calls process = .login password salt locked ∧
      progress = .rehashing ∧
      (credentialStep functions calls process progress account).2 =
        { account with passwordHash := some (hashPassword functions password salt) }) := by
  cases hCall : calls process <;> cases progress <;> simp [credentialStep, hCall]

variable (calls) in
/-- No login has the password to hash anew, and none will: the hash is of the new kind. -/
structure IsUpToDate (system : System Process CredentialProgress CredentialAccount) : Prop where
  hash : isArgon2Hash (system.shared.passwordHash.getD "") = true
  logins : ∀ process password salt locked, calls process = .login password salt locked →
    system.locals process ≠ .rehashing

variable [DecidableEq Process]

/-- The stored hash stays current unless the step undoes a change. -/
theorem HashFunctions.Sound.isCurrent_fire (hSound : functions.Sound)
    {system : System Process CredentialProgress CredentialAccount}
    (hCurrent : IsCurrent functions system.shared) (process : Process) :
    IsCurrent functions (fire (credentialStep functions calls) system process).shared ↔
      ¬ UndoesChange calls system process := by
  obtain ⟨hHash, hSecret, hNot⟩ | ⟨password, salt, hSet, hNot⟩ |
    ⟨password, salt, locked, hCall, hProgress, hSet⟩ :=
    credentialStep_cases process (system.locals process) system.shared
  · have hKept :
        IsCurrent functions (fire (credentialStep functions calls) system process).shared := by
      intro password
      rw [fire_shared, hHash, hSecret]
      exact hCurrent password
    refine iff_of_true hKept ?_
    rintro ⟨password, salt, locked, hCall, hProgress, _⟩
    exact hNot password salt locked hCall hProgress
  · have hMade :
        IsCurrent functions (fire (credentialStep functions calls) system process).shared := by
      rw [fire_shared, hSet]
      exact (hSound.isCurrent_iff _ password salt rfl).mpr rfl
    refine iff_of_true hMade ?_
    rintro ⟨password, salt, locked, hCall, _⟩
    exact hNot password salt locked hCall
  · rw [fire_shared, hSet, hSound.isCurrent_iff _ password salt rfl]
    constructor
    · rintro hSecret ⟨password', salt', locked', hCall', _, hOther⟩
      obtain ⟨rfl, -, -⟩ := CredentialCall.login.inj (hCall.symm.trans hCall')
      exact hOther hSecret
    · intro hNot
      by_contra hOther
      exact hNot ⟨password, salt, locked, hCall, hProgress, hOther⟩

/-- Everywhere in a run the hash is that of the password set last, exactly if no login of
the run writes an older one back. -/
theorem HashFunctions.Sound.isCurrent_along (hSound : functions.Sound)
    {system : System Process CredentialProgress CredentialAccount}
    (hCurrent : IsCurrent functions system.shared) (schedule : List Process) :
    (∀ before after, schedule = before ++ after →
      IsCurrent functions (run (fire (credentialStep functions calls)) system before).shared) ↔
    Along (fire (credentialStep functions calls)) (fun system process =>
      ¬ UndoesChange calls system process) system schedule := by
  induction schedule generalizing system with
  | nil =>
      refine iff_of_true ?_ trivial
      intro before after hParts
      obtain ⟨rfl, -⟩ := List.append_eq_nil_iff.mp hParts.symm
      exact hCurrent
  | cons process rest ih =>
      constructor
      · intro hAll
        have hNext := hAll [process] rest rfl
        refine ⟨(hSound.isCurrent_fire hCurrent process).mp hNext, (ih hNext).mp ?_⟩
        intro before after hRest
        exact hAll (process :: before) after (congrArg (process :: ·) hRest)
      · rintro ⟨hFirst, hRest⟩ before after hParts
        cases before with
        | nil => exact hCurrent
        | cons head before =>
            obtain ⟨rfl, hTail⟩ := List.cons.inj hParts
            exact (ih ((hSound.isCurrent_fire hCurrent process).mpr hFirst)).mpr hRest
              before after hTail

/-- Where the hash is current, a login is refused for its lock, a password that is not the
account's, or an account that is no active one of the staff, and for nothing else. -/
theorem beginCredential_refused_iff {account : CredentialAccount}
    (hCurrent : IsCurrent functions account) (password salt : String) (locked : Bool) :
    beginCredential functions account (.login password salt locked) =
        .refused "INVALID_CREDENTIALS" ↔
      ¬ (locked = false ∧ account.secret = some password ∧ account.active = true ∧
        account.staff = true) := by
  have hLetsIn : account.letsIn functions password = true ↔
      account.secret = some password ∧ account.active = true ∧ account.staff = true := by
    rw [← hCurrent password, CredentialAccount.letsIn]
    simp [and_assoc]
  rw [← hLetsIn]
  have hStep : beginCredential functions account (.login password salt locked) =
      if locked then .refused "INVALID_CREDENTIALS"
      else if !account.letsIn functions password then .refused "INVALID_CREDENTIALS"
      else if shouldUpgradePasswordHash (account.passwordHash.getD "") then .rehashing
      else .letIn := rfl
  rw [hStep]
  cases locked <;> cases account.letsIn functions password <;> simp
  split <;> simp

omit [DecidableEq Process] in
/-- A login sets out to hash anew only what it has read to be of an old kind. -/
theorem credentialStep_rehashing {process : Process} {progress : CredentialProgress}
    {account : CredentialAccount} {password salt : String} {locked : Bool}
    (hCall : calls process = .login password salt locked) (hProgress : progress ≠ .rehashing)
    (hNext : (credentialStep functions calls process progress account).1 = .rehashing) :
    shouldUpgradePasswordHash (account.passwordHash.getD "") = true := by
  cases progress with
  | waiting =>
      simp only [credentialStep, hCall, beginCredential] at hNext
      by_contra hNot
      simp only [hNot] at hNext
      split at hNext
      · cases hNext
      · split at hNext <;> cases hNext
  | rehashing => exact absurd rfl hProgress
  | hashing => simp [credentialStep, hCall] at hNext
  | refused code => simp [credentialStep, hCall] at hNext
  | letIn => simp [credentialStep, hCall] at hNext
  | finished => simp [credentialStep, hCall] at hNext

/-- A hash of the new kind stays of the new kind, and no login hashes it anew. -/
theorem HashFunctions.Sound.isUpToDate_fire (hSound : functions.Sound)
    {system : System Process CredentialProgress CredentialAccount}
    (h : IsUpToDate calls system) (process : Process) :
    IsUpToDate calls (fire (credentialStep functions calls) system process) := by
  constructor
  · obtain ⟨hHash, -⟩ | ⟨password, salt, hSet, -⟩ | ⟨password, salt, locked, hCall, hProgress, -⟩ :=
      credentialStep_cases process (system.locals process) system.shared
    · rw [fire_shared, hHash]
      exact h.hash
    · rw [fire_shared, hSet]
      exact hSound.tagged salt password
    · exact absurd hProgress (h.logins process password salt locked hCall)
  · intro other password salt locked hCall hNext
    have hProgress := h.logins other password salt locked hCall
    by_cases hSame : other = process
    · subst hSame
      rw [fire_locals_self] at hNext
      have hUpgrade := credentialStep_rehashing hCall hProgress hNext
      rw [shouldUpgrade_argon2 h.hash] at hUpgrade
      cases hUpgrade
    · rw [fire_locals_of_ne _ hSame] at hNext
      exact hProgress hNext

/-- On an account with an argon2 hash, no schedule undoes a change. -/
theorem HashFunctions.Sound.noChangeUndone (hSound : functions.Sound)
    {account : CredentialAccount} (hHash : isArgon2Hash (account.passwordHash.getD "") = true)
    (schedule : List Process) : NoChangeUndone functions calls account schedule := by
  have hStart : IsUpToDate calls (noCall account) := by
    refine ⟨hHash, ?_⟩
    intro process password salt locked _ hProgress
    cases hProgress
  refine along_of_invariant (IsUpToDate calls) ?_ hStart schedule
  intro system process h
  refine ⟨hSound.isUpToDate_fire h process, ?_⟩
  rintro ⟨password, salt, locked, hCall, hProgress, -⟩
  exact h.logins process password salt locked hCall hProgress

/-- The calls on an account overlap in any order. Its hash is that of the password set
last at every moment, exactly if no login that has found an old kind of hash writes it
back after a change. A run that starts with a hash of the new kind has no such login.
Where there is none, a login is refused exactly for its lock, for a password that is not
the one set last, or on an account that is no active one of the staff. -/
theorem password_set_last_opens (hSound : functions.Sound) (account : CredentialAccount)
    (hCurrent : IsCurrent functions account) (schedule : List Process) :
    ((∀ before after, schedule = before ++ after →
        IsCurrent functions (credentialsAfter functions calls account before).shared) ↔
      NoChangeUndone functions calls account schedule) ∧
    (isArgon2Hash (account.passwordHash.getD "") = true →
      NoChangeUndone functions calls account schedule) ∧
    (NoChangeUndone functions calls account schedule →
      ∀ before process after password salt locked, schedule = before ++ process :: after →
        calls process = .login password salt locked →
        (credentialsAfter functions calls account before).locals process = .waiting →
        ((credentialsAfter functions calls account (before ++ [process])).locals process =
            .refused "INVALID_CREDENTIALS" ↔
          ¬ (locked = false ∧
            (credentialsAfter functions calls account before).shared.secret = some password ∧
            (credentialsAfter functions calls account before).shared.active = true ∧
            (credentialsAfter functions calls account before).shared.staff = true))) := by
  have hLaw : (∀ before after, schedule = before ++ after →
        IsCurrent functions (credentialsAfter functions calls account before).shared) ↔
      NoChangeUndone functions calls account schedule := hSound.isCurrent_along hCurrent schedule
  refine ⟨hLaw, fun hHash => hSound.noChangeUndone hHash schedule, ?_⟩
  intro hUndone before process after password salt locked hParts hCall hWaiting
  have hHere := hLaw.mpr hUndone before (process :: after) hParts
  have hNext : (credentialsAfter functions calls account (before ++ [process])).locals process =
      beginCredential functions (credentialsAfter functions calls account before).shared
        (.login password salt locked) := by
    rw [credentialsAfter, run_append, run_cons, run_nil, fire_locals_self]
    change (credentialStep functions calls process
      ((credentialsAfter functions calls account before).locals process) _).1 = _
    rw [hWaiting]
    simp only [credentialStep, hCall]
    rfl
  rw [hNext, beginCredential_refused_iff hHere password salt locked]

end Law

namespace Sample

/-- Hash functions that hide nothing. -/
def plainHashes : HashFunctions where
  argon2 _ password := "$argon2" ++ password
  argon2Verify hash password := some (decide (hash = "$argon2" ++ password))
  bcryptCompare password hash := decide (hash = "$2" ++ password)
  scryptHex _ _ := []
  normalizeNfkc := id

/-- A member of the staff whose password has the old kind of hash. -/
def oldHash : CredentialAccount where
  passwordHash := some "$2first"
  active := true
  staff := true
  secret := some "first"

/-- A login, and a change of the password. -/
def loginAndChange : Bool → CredentialCall
  | true => .login "first" "" false
  | false => .changePassword "first" "the new password" ""

theorem plainHashes_sound : plainHashes.Sound where
  tagged salt password := by
    simp [plainHashes, isArgon2Hash, ARGON2_PREFIX]
  verifies salt password other := by
    simp [plainHashes]

theorem oldHash_current : IsCurrent plainHashes oldHash := by
  intro password
  have hVerify : verifyPassword plainHashes password (oldHash.passwordHash.getD "") =
      decide ("$2first" = "$2" ++ password) := rfl
  have hSame : "$2first" = "$2" ++ password ↔ "first" = password := by
    rw [← String.toList_inj, ← String.toList_inj, String.toList_append]
    change '$' :: '2' :: "first".toList = '$' :: '2' :: password.toList ↔ _
    simp
  rw [hVerify, decide_eq_true_iff, hSame]
  simp [oldHash]

end Sample

/-- The login reads before the change and writes after it: the old password still opens
the account, and the new one does not. -/
theorem password_set_last_opens_undone :
    ((∀ before after, [true, false, false, true] = before ++ after →
        IsCurrent Sample.plainHashes (credentialsAfter Sample.plainHashes Sample.loginAndChange
          Sample.oldHash before).shared) ↔
      NoChangeUndone Sample.plainHashes Sample.loginAndChange Sample.oldHash
        [true, false, false, true]) ∧
    ¬ NoChangeUndone Sample.plainHashes Sample.loginAndChange Sample.oldHash
        [true, false, false, true] := by
  have hLaw := (@password_set_last_opens Sample.plainHashes Bool Sample.loginAndChange _
    Sample.plainHashes_sound Sample.oldHash Sample.oldHash_current [true, false, false, true]).1
  refine ⟨hLaw, ?_⟩
  intro hUndone
  have hEnd := hLaw.mpr hUndone [true, false, false, true] [] rfl
  have hOpens := (hEnd "first").mp (by decide)
  exact absurd hOpens (by decide)

end PropertyTax
