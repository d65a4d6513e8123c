import PropertyTax.Storage.StoredFiles

/-! Links to stored files. Whoever has one opens the file without signing in, until the second
that the link names. The signature is over the key, a dot and that second; the second is read
from the link as a number, and written as a text again before it is checked. -/
namespace PropertyTax.Storage
open Paths Runs

/-- What a text stands for as a number, unless that is not finite, and the text of a number. -/
structure JsNumbers where
  ofText : String → Option ℚ
  toText : ℚ → String

/-- The texts of the doubles. A whole number has its digits; one with a point has at most
seventeen, and before the point all that its size asks for. -/
structure JsNumbers.Lawful (numbers : JsNumbers) : Prop where
  toText_nat : ∀ n : Nat, n < 2 ^ 53 → numbers.toText n = String.ofList (Js.digits n)
  ofText_nat : ∀ n : Nat, n < 2 ^ 53 → numbers.ofText (String.ofList (Js.digits n)) = some (n : ℚ)
  ofText_toText : ∀ text x, numbers.ofText text = some x →
    numbers.ofText (numbers.toText x) = some x
  significant : ∀ text x (k : Nat) whole fraction, numbers.ofText text = some x → 10 ^ k ≤ x →
    (numbers.toText x).toList = whole ++ '.' :: fraction → (∀ c ∈ fraction, c.isDigit = true) →
    k < whole.length ∧ whole.length + fraction.length ≤ 17

/-- The root, and the keyed hash with the secret of the service, in hexadecimal digits. -/
structure LinkEnv where
  root : AbsolutePath
  numbers : JsNumbers
  hmac : String → String

inductive LinkError where
  | unauthorized (code message : String)
  | refused (error : ApiError)
deriving DecidableEq

def fileUrlExpired : LinkError := .unauthorized "FILE_URL_EXPIRED" "File link expired"
def fileUrlInvalid : LinkError := .unauthorized "FILE_URL_INVALID" "Invalid file link"

structure SignedLink where
  key : String
  exp : String
  sig : String
deriving DecidableEq

/-- What the caller knows of the file. -/
structure FileContext where
  surveyId : Option String := none
  uploadedById : Option Id := none
  createdById : Option Id := none
  survey : Option SurveyResource := none

def MIME_BY_EXT : List (String × String) :=
  [(".gif", "image/gif"),
    (".jpeg", "image/jpeg"),
    (".jpg", "image/jpeg"),
    (".pdf", "application/pdf"),
    (".png", "image/png"),
    (".webp", "image/webp"),
    (".xls", "application/vnd.ms-excel"),
    (".xlsx", "application/vnd.openxmlformats-officedocument.spreadsheetml.sheet")]

def guessMime (objectKey : String) : String :=
  (MIME_BY_EXT.lookup (Js.toLowerCase (String.ofList (extName objectKey.toList)))).getD
    "application/octet-stream"

structure StreamableFile where
  body : Buffer
  type : String
  disposition : String
deriving DecidableEq

section Links
variable (env : LinkEnv)

def linkMessage (objectKey : String) (exp : ℚ) : String :=
  objectKey ++ "." ++ env.numbers.toText exp

def sign (objectKey : String) (exp : ℚ) : String := env.hmac (linkMessage env objectKey exp)

/-- `Math.floor(Date.now() / 1000)` -/
def seconds (now : Timestamp) : Nat := now / 1000

def getSignedUrl (now : Timestamp) (objectKey : String) (expirySeconds : Nat) :
    Except ApiError SignedLink := do
  let _ ← resolveObjectPath env.root objectKey
  let exp := seconds now + expirySeconds
  return ⟨objectKey, env.numbers.toText exp, sign env objectKey exp⟩

/-- What the access check is about, when a link is asked for a user. -/
def linkedFile (objectKey : String) (context : FileContext) : FileResource where
  objectKey := objectKey
  surveyId := context.surveyId.or (parseSurveyIdFromObjectKey objectKey)
  uploadedById := context.uploadedById
  createdById := context.createdById

def getSignedUrlForUser (now : Timestamp) (user : AuthUser) (objectKey : String)
    (context : FileContext) (expirySeconds : Nat) : Except ApiError SignedLink := do
  assertFileAccess user (linkedFile objectKey context) .read context.survey
  getSignedUrl env now objectKey expirySeconds

def assertDownloadSignature (now : Timestamp) (link : SignedLink) : Except LinkError Unit :=
  match env.numbers.ofText link.exp with
  | none => .error fileUrlExpired
  | some exp =>
      if exp < seconds now then .error fileUrlExpired
      else if link.sig ≠ sign env link.key exp then .error fileUrlInvalid
      else (resolveObjectPath env.root link.key).mapError .refused |>.map fun _ => ()

/-- The answer with the file. -/
def fileResponse (objectKey : String) (buffer : Buffer) : StreamableFile :=
  let base := baseName objectKey.toList
  let filename := if base = [] then "download".toList else base
  { body := buffer
    type := guessMime objectKey
    disposition := "inline; filename=\"" ++ String.ofList (filename.filter (· ≠ '"')) ++ "\"" }

def download (now : Timestamp) (files : AbsolutePath → Option Buffer) (link : SignedLink) :
    Except LinkError StreamableFile := do
  assertDownloadSignature env now link
  let buffer ← (getObject env.root link.key files).mapError .refused
  return fileResponse link.key buffer

end Links

/-! ### Links over time -/

/-- A link that was made, and for whom it was checked, if for anyone. -/
structure MadeLink where
  link : SignedLink
  exp : Nat
  holder : Option AuthUser

/-- What happens to the links. A download sees the files as they are then. -/
inductive LinkEvent where
  | madeFor (user : AuthUser) (objectKey : String) (context : FileContext) (expirySeconds : Nat)
      (now : Timestamp)
  | made (objectKey : String) (expirySeconds : Nat) (now : Timestamp)
  | asked (link : SignedLink) (files : AbsolutePath → Option Buffer) (now : Timestamp)

section Events
variable (env : LinkEnv)

/-- The links that have been made. -/
def afterEvent (links : List MadeLink) : LinkEvent → List MadeLink
  | .madeFor user objectKey context expirySeconds now =>
      match getSignedUrlForUser env now user objectKey context expirySeconds with
      | .ok link => ⟨link, seconds now + expirySeconds, some user⟩ :: links
      | .error _ => links
  | .made objectKey expirySeconds now =>
      match getSignedUrl env now objectKey expirySeconds with
      | .ok link => ⟨link, seconds now + expirySeconds, none⟩ :: links
      | .error _ => links
  | .asked .. => links

/-- The clock shows a time after 2001, and the link ends in a time that a number can show. -/
def LinkEvent.IsTimely : LinkEvent → Prop
  | .madeFor _ _ _ expirySeconds now =>
      10 ^ 12 ≤ now ∧ seconds now + expirySeconds < 2 ^ 53
  | .made _ expirySeconds now => 10 ^ 12 ≤ now ∧ seconds now + expirySeconds < 2 ^ 53
  | .asked _ _ now => 10 ^ 12 ≤ now

/-- A signature that fits is one that the service made: over this text, for some link. -/
def Unforged (links : List MadeLink) : LinkEvent → Prop
  | .asked link _ _ => ∀ exp, env.numbers.ofText link.exp = some exp →
      link.sig = sign env link.key exp →
      ∃ made ∈ links, linkMessage env made.link.key made.exp = linkMessage env link.key exp
  | _ => True

/-- The link was made for the key, with this signature, and its last second is not over. -/
structure MadeLink.Opens (made : MadeLink) (link : SignedLink) (now : Timestamp) : Prop where
  key : made.link.key = link.key
  exp : env.numbers.ofText link.exp = some (made.exp : ℚ)
  sig : made.link.sig = link.sig
  inTime : seconds now ≤ made.exp

/-- Whom the link was made for could read the file. -/
def MadeLink.IsAllowed (made : MadeLink) : Prop :=
  ∀ user, made.holder = some user → ∃ context : FileContext,
    assertFileAccess user (linkedFile made.link.key context) .read context.survey = .ok ()

/-- A file leaves the store by a link that was made for its key, and by every such link. -/
def AnswersMade (links : List MadeLink) : LinkEvent → Prop
  | .asked link files now => ∀ response,
      download env now files link = .ok response ↔
        (∃ made ∈ links, made.IsAllowed ∧ made.Opens env link now) ∧
          ∃ buffer, getObject env.root link.key files = .ok buffer ∧
            response = fileResponse link.key buffer
  | _ => True

end Events

/-! ### What is signed -/

section Messages
variable {env : LinkEnv} {key key' : String} {exp : Nat} {x : ℚ} {text : String}

/-- A power of ten has one digit more than its exponent. -/
theorem length_digits_gt {n k : Nat} (h : 10 ^ k ≤ n) : k < (Js.digits n).length := by
  have hPos : 0 < 10 ^ k := Nat.pow_pos (by decide)
  obtain ⟨-, hBelow⟩ := Js.digits_length_bounds (Nat.ne_of_gt (hPos.trans_le h))
  exact (Nat.pow_lt_pow_iff_right (by decide)).mp (h.trans_lt hBelow)

/-- A whole number of seconds has no dot, and a number that is not over has too many digits before
its dot to have all of those seconds behind it: so the dot before the second is found again. -/
theorem linkMessage_inj (hNumbers : env.numbers.Lawful) (hx : env.numbers.ofText text = some x)
    (hLow : 10 ^ 9 ≤ x) (hExp : 10 ^ 9 ≤ exp) (hHigh : exp < 2 ^ 53)
    (h : linkMessage env key exp = linkMessage env key' x) : key = key' ∧ x = exp := by
  have hText : (env.numbers.toText exp).toList = Js.digits exp := by
    rw [hNumbers.toText_nat exp hHigh, String.toList_ofList]
  have hDot : '.' ∉ Js.digits exp := fun hMem => absurd (Js.isDigit_of_mem_digits hMem) (by decide)
  have hParts : key.toList ++ '.' :: Js.digits exp =
      key'.toList ++ '.' :: (env.numbers.toText x).toList := by
    have hLists := congrArg String.toList h
    unfold linkMessage at hLists
    rw [String.toList_append, String.toList_append, String.toList_append, String.toList_append,
      hText, List.append_assoc, List.append_assoc] at hLists
    exact hLists
  have hSame : key.toList = key'.toList ∧ Js.digits exp = (env.numbers.toText x).toList := by
    rcases List.append_eq_append_iff.mp hParts with ⟨more, hKey, hRest⟩ | ⟨more, hKey, hRest⟩
    · cases more with
      | nil =>
          rw [List.append_nil] at hKey
          exact ⟨hKey.symm, (List.cons.inj hRest).2⟩
      | cons c more =>
          refine absurd ?_ hDot
          rw [(List.cons.inj hRest).2]
          exact List.mem_append_right _ List.mem_cons_self
    · cases more with
      | nil =>
          rw [List.append_nil] at hKey
          exact ⟨hKey, (List.cons.inj hRest).2.symm⟩
      | cons c whole =>
          -- what is read as a key here is a key with the whole part of a number behind it
          obtain ⟨hWhole, hAll⟩ := hNumbers.significant text x 9 whole (Js.digits exp) hx
            hLow (List.cons.inj hRest).2 fun c hc => Js.isDigit_of_mem_digits hc
          have hDigits := length_digits_gt hExp
          omega
  refine ⟨String.toList_inj.mp hSame.1, ?_⟩
  have hShown : env.numbers.toText x = String.ofList (Js.digits exp) := by
    rw [hSame.2, String.ofList_toList]
  have hBack := hNumbers.ofText_toText text x hx
  rw [hShown, hNumbers.ofText_nat exp hHigh] at hBack
  exact (Option.some.inj hBack).symm

end Messages

section Answers
variable {env : LinkEnv} {links : List MadeLink} {now : Timestamp} {link : SignedLink}
  {files : AbsolutePath → Option Buffer}

/-- A signed link carries its key and the signature until its expiry. -/
theorem getSignedUrl_ok {objectKey : String} {expirySeconds : Nat}
    (h : getSignedUrl env now objectKey expirySeconds = .ok link) :
    (∃ path, resolveObjectPath env.root objectKey = .ok path) ∧ link.key = objectKey ∧
      link.sig = sign env objectKey (seconds now + expirySeconds : Nat) := by
  unfold getSignedUrl at h
  cases hPath : resolveObjectPath env.root objectKey with
  | error error =>
      rw [hPath] at h
      cases h
  | ok path =>
      rw [hPath] at h
      obtain rfl := Except.ok.inj h
      refine ⟨⟨path, rfl⟩, rfl, ?_⟩
      rw [Nat.cast_add]

/-- A link made for a user is one the user may have. -/
theorem getSignedUrlForUser_ok {user : AuthUser} {objectKey : String} {context : FileContext}
    {expirySeconds : Nat}
    (h : getSignedUrlForUser env now user objectKey context expirySeconds = .ok link) :
    assertFileAccess user (linkedFile objectKey context) .read context.survey = .ok () ∧
      getSignedUrl env now objectKey expirySeconds = .ok link := by
  unfold getSignedUrlForUser at h
  cases hAccess : assertFileAccess user (linkedFile objectKey context) .read context.survey with
  | error error =>
      rw [hAccess] at h
      cases h
  | ok _ =>
      rw [hAccess] at h
      exact ⟨rfl, h⟩

/-- A link is accepted when it has not expired and its signature is the one for it. -/
theorem assertDownloadSignature_eq_ok_iff :
    assertDownloadSignature env now link = .ok () ↔
      ∃ exp, env.numbers.ofText link.exp = some exp ∧ (seconds now : ℚ) ≤ exp ∧
        link.sig = sign env link.key exp ∧
          ∃ path, resolveObjectPath env.root link.key = .ok path := by
  unfold assertDownloadSignature
  cases env.numbers.ofText link.exp with
  | none => simp
  | some exp =>
      dsimp only
      split_ifs with hOver hSig
      · simp [hOver]
      · simp [hSig]
      · cases resolveObjectPath env.root link.key with
        | error error => simp [Except.mapError, Except.map]
        | ok path =>
            simp [Except.mapError, Except.map, not_lt.mp hOver, not_not.mp hSig]

/-- A download gives the file of an accepted link. -/
theorem download_eq_ok_iff {response : StreamableFile} :
    download env now files link = .ok response ↔
      assertDownloadSignature env now link = .ok () ∧
        ∃ buffer, getObject env.root link.key files = .ok buffer ∧
          response = fileResponse link.key buffer := by
  unfold download
  cases assertDownloadSignature env now link with
  | error error => exact iff_of_false nofun nofun
  | ok _ =>
      cases getObject env.root link.key files with
      | error error => exact iff_of_false nofun nofun
      | ok buffer => exact ⟨fun h => ⟨rfl, buffer, rfl, (Except.ok.inj h).symm⟩,
          by rintro ⟨-, _, ⟨⟩, rfl⟩; rfl⟩

end Answers

/-! ### Links over time -/

section Time
variable {env : LinkEnv} {links : List MadeLink} {event : LinkEvent} {made : MadeLink}

/-- What is known of each link that was made. -/
structure MadeLink.IsGenuine (env : LinkEnv) (made : MadeLink) : Prop where
  sig : made.link.sig = sign env made.link.key made.exp
  path : ∃ path, resolveObjectPath env.root made.link.key = .ok path
  late : 10 ^ 9 ≤ made.exp
  small : made.exp < 2 ^ 53
  allowed : made.IsAllowed

/-- Today's times have ten digits in seconds. -/
theorem billion_le_seconds {now : Timestamp} (h : 10 ^ 12 ≤ now) : 10 ^ 9 ≤ seconds now := by
  exact (Nat.le_div_iff_mul_le (by decide)).mpr (le_trans (by norm_num) h)

/-- A link that is made for someone allowed is genuine. -/
theorem MadeLink.isGenuine {now : Timestamp} {objectKey : String} {expirySeconds : Nat}
    {link : SignedLink} {holder : Option AuthUser}
    (h : getSignedUrl env now objectKey expirySeconds = .ok link)
    (hTimely : 10 ^ 12 ≤ now ∧ seconds now + expirySeconds < 2 ^ 53)
    (hAllowed : MadeLink.IsAllowed ⟨link, seconds now + expirySeconds, holder⟩) :
    MadeLink.IsGenuine env ⟨link, seconds now + expirySeconds, holder⟩ := by
  obtain ⟨hPath, hKey, hSig⟩ := getSignedUrl_ok h
  refine ⟨?_, ?_, ?_, hTimely.2, hAllowed⟩
  · exact hSig.trans (by rw [hKey])
  · rwa [hKey]
  · exact (billion_le_seconds hTimely.1).trans (Nat.le_add_right _ _)

/-- A timely event leaves all links genuine. -/
theorem isGenuine_afterEvent (h : ∀ made ∈ links, made.IsGenuine env) (hTimely : event.IsTimely) :
    ∀ made ∈ afterEvent env links event, made.IsGenuine env := by
  unfold afterEvent
  cases event with
  | madeFor user objectKey context expirySeconds now =>
      dsimp only
      cases hLink : getSignedUrlForUser env now user objectKey context expirySeconds with
      | error error => exact h
      | ok link =>
          obtain ⟨hAccess, hUrl⟩ := getSignedUrlForUser_ok hLink
          refine List.forall_mem_cons.mpr ⟨MadeLink.isGenuine hUrl hTimely ?_, h⟩
          intro holder hHolder
          obtain rfl := Option.some.inj hHolder
          refine ⟨context, ?_⟩
          rw [(getSignedUrl_ok hUrl).2.1]
          exact hAccess
  | made objectKey expirySeconds now =>
      dsimp only
      cases hLink : getSignedUrl env now objectKey expirySeconds with
      | error error => exact h
      | ok link =>
          refine List.forall_mem_cons.mpr ⟨MadeLink.isGenuine hLink hTimely ?_, h⟩
          intro holder hHolder
          cases hHolder
  | asked link files now => exact h

/-- With the links that were made, a download is answered as it should be. -/
theorem answersMade (hNumbers : env.numbers.Lawful) (h : ∀ made ∈ links, made.IsGenuine env)
    (hTimely : event.IsTimely) (hUnforged : Unforged env links event) :
    AnswersMade env links event := by
  cases event with
  | madeFor => trivial
  | made => trivial
  | asked link files now =>
      intro response
      rw [download_eq_ok_iff, assertDownloadSignature_eq_ok_iff]
      refine and_congr_left fun _ => ?_
      constructor
      · rintro ⟨x, hx, hInTime, hSig, -⟩
        obtain ⟨made, hMade, hMessage⟩ := hUnforged x hx hSig
        have hGenuine := h made hMade
        have hSeconds := billion_le_seconds hTimely
        have hLow : (10 : ℚ) ^ 9 ≤ x := le_trans (by exact_mod_cast hSeconds) hInTime
        obtain ⟨hKey, rfl⟩ := linkMessage_inj hNumbers hx hLow hGenuine.late hGenuine.small hMessage
        refine ⟨made, hMade, hGenuine.allowed, hKey, hx, ?_, by exact_mod_cast hInTime⟩
        rw [hGenuine.sig, hSig, hKey]
      · rintro ⟨made, hMade, -, hOpens⟩
        have hGenuine := h made hMade
        refine ⟨made.exp, hOpens.exp, by exact_mod_cast hOpens.inTime, ?_, ?_⟩
        · rw [← hOpens.sig, hGenuine.sig, hOpens.key]
        · rw [← hOpens.key]
          exact hGenuine.path

end Time

/-- As long as nobody makes a signature that the service has not made, a file leaves the store
exactly by the links that were made for its key, by the service or for a user who could read it,
and each of them opens it, and nothing else, until its second is over. -/
theorem links_open_own_file (env : LinkEnv) (hNumbers : env.numbers.Lawful)
    (events : List LinkEvent) (hTimely : ∀ event ∈ events, event.IsTimely)
    (hUnforged : Along (afterEvent env) (Unforged env) [] events) :
    Along (afterEvent env) (AnswersMade env) [] events := by
  have hGuarded := (along_of_forall LinkEvent.IsTimely hTimely).and hUnforged
  have hAnswered : Along (afterEvent env) (fun links event =>
      (event.IsTimely ∧ Unforged env links event) ∧ AnswersMade env links event) [] events := by
    refine (along_iff (fun links => ∀ made ∈ links, made.IsGenuine env) ?_ ?_ nofun events).mp
      hGuarded
    · exact fun links event hLinks =>
        ⟨fun h => ⟨h, answersMade hNumbers hLinks h.1 h.2⟩, And.left⟩
    · exact fun links event hLinks h => isGenuine_afterEvent hLinks h.1
  exact hAnswered.mono fun _ _ h => h.2

namespace Sample

/-- Numbers that are whole, and not too big. -/
def wholeNumbers : JsNumbers where
  ofText text := (Js.number? text).filter fun x =>
    x = (x.num.natAbs : ℚ) ∧ x.num.natAbs < 2 ^ 53
  toText x := String.ofList (Js.digits x.num.natAbs)

/-- A whole number reads back as itself. -/
theorem wholeNumbers_ofText (n : Nat) (h : n < 2 ^ 53) :
    wholeNumbers.ofText (String.ofList (Js.digits n)) = some (n : ℚ) := by
  have hNumber := Js.number?_digits (fun c hc => @Js.isDigit_of_mem_digits n c hc)
    (Js.digits_ne_nil n)
  rw [Js.ofDigitChars_digits] at hNumber
  unfold wholeNumbers
  dsimp only
  rw [hNumber, Option.filter_some, if_pos]
  simpa using h

theorem wholeNumbers_lawful : wholeNumbers.Lawful where
  toText_nat n _ := by
    unfold wholeNumbers
    simp
  ofText_nat := wholeNumbers_ofText
  ofText_toText text x hx := by
    obtain ⟨-, hWhole⟩ := Option.filter_eq_some_iff.mp hx
    obtain ⟨hNat, hSize⟩ := of_decide_eq_true hWhole
    have hBack := wholeNumbers_ofText x.num.natAbs hSize
    rwa [← hNat] at hBack
  significant _ x k whole fraction _ _ hText _ := by
    have hDigits : (wholeNumbers.toText x).toList = Js.digits x.num.natAbs := String.toList_ofList
    have hDot : '.' ∈ Js.digits x.num.natAbs := by
      rw [← hDigits, hText]
      exact List.mem_append_right _ List.mem_cons_self
    exact absurd (Js.isDigit_of_mem_digits hDot) (by decide)

/-- A tag that shows its text. -/
def linkEnv : LinkEnv := ⟨uploads, wholeNumbers, fun text => "tag of " ++ text⟩

def exportLink : SignedLink where
  key := "exports/list.xlsx"
  exp := wholeNumbers.toText (1000000600 : Nat)
  sig := sign linkEnv "exports/list.xlsx" (1000000600 : Nat)

theorem made_exportLink : afterEvent linkEnv [] (.made "exports/list.xlsx" 600 (10 ^ 12)) =
    [⟨exportLink, 1000000600, none⟩] := by
  have hPath : resolveObjectPath uploads "exports/list.xlsx" =
      .ok (uploads.resolve "exports/list.xlsx".toList) := rfl
  have hSeconds : seconds (10 ^ 12) + 600 = 1000000600 := by decide
  have hLink : getSignedUrl linkEnv (10 ^ 12) "exports/list.xlsx" 600 = .ok exportLink := by
    unfold getSignedUrl
    rw [hSeconds]
    change (resolveObjectPath uploads "exports/list.xlsx" >>= _) = _
    rw [hPath]
    rfl
  unfold afterEvent
  dsimp only
  rw [hLink, hSeconds]

end Sample

/-- A link to an export opens it five seconds later. -/
theorem links_open_own_file_export : ∃ response,
    download Sample.linkEnv (10 ^ 12 + 5000) (fun _ => some [1]) Sample.exportLink =
      .ok response := by
  have hNumber : Sample.wholeNumbers.ofText Sample.exportLink.exp = some ((1000000600 : Nat) : ℚ) :=
    (congrArg _ (Sample.wholeNumbers_lawful.toText_nat _ (by decide))).trans
      (Sample.wholeNumbers_ofText 1000000600 (by decide))
  have hAnswers := links_open_own_file Sample.linkEnv Sample.wholeNumbers_lawful
    [.made "exports/list.xlsx" 600 (10 ^ 12), .asked Sample.exportLink (fun _ => some [1])
      (10 ^ 12 + 5000)] ?_ ⟨trivial, fun exp hExp _ => ?_, trivial⟩
  · obtain ⟨-, hAsked, -⟩ := hAnswers
    rw [Sample.made_exportLink] at hAsked
    refine ⟨_, (hAsked _).mpr ⟨⟨_, List.mem_singleton_self _, nofun, rfl, hNumber, rfl, ?_⟩,
      [1], rfl, rfl⟩⟩
    decide
  · intro event hEvent
    rcases List.mem_pair.mp hEvent with rfl | rfl
    · exact ⟨le_rfl, by decide⟩
    · exact Nat.le_add_right _ _
  · rw [Sample.made_exportLink]
    obtain rfl := Option.some.inj (hNumber.symm.trans hExp)
    exact ⟨_, List.mem_singleton_self _, rfl⟩

end PropertyTax.Storage
