import PropertyTax.Library.JsText

/-! What stands before the handlers of the API: the rate limit, the origin and content
type checks, and the CSRF guard. Each looks at the spelling of the path, and the
router does not: it takes letters in any case and a slash at the end. -/
namespace PropertyTax.Http

inductive HttpMethod where
  | get
  | head
  | post
  | put
  | patch
  | delete
  | options
deriving DecidableEq

def isMutatingMethod : HttpMethod → Bool
  | .post | .put | .patch | .delete => true
  | .get | .head | .options => false

/-- A request target, in origin form. -/
structure RequestUrl where
  path : String
  query : Option String

def RequestUrl.originalUrl (url : RequestUrl) : String :=
  url.path ++ url.query.elim "" fun query => "?" ++ query

structure Request where
  method : HttpMethod
  url : RequestUrl
  ip : String
  contentType : Option String
  origin : Option String
  referer : Option String
  csrfCookie : Option String
  csrfHeader : Option String

/-! ### The middlewares and the guard -/

def isAtomGatewayPath (path : String) : Bool := Js.includes path "/payments/gateway/"

def JSON_CONTENT_TYPES : List String := ["application/json", "application/json; charset=utf-8"]

/-- What a middleware or a guard does: it hands the request on, or answers. -/
inductive Verdict where
  | next
  | refused (status : Nat) (code message : String)
deriving DecidableEq

namespace OriginValidationMiddleware

/-- The checks are skipped for methods that change nothing, and for the gateway. -/
def applies (method : HttpMethod) (url : RequestUrl) : Bool :=
  isMutatingMethod method && !(isAtomGatewayPath url.originalUrl || isAtomGatewayPath url.path)

/-- `header?.split(";")[0]?.trim()` -/
def mediaType (header : String) : String :=
  Js.trim (String.ofList (header.toList.takeWhile fun c => c ≠ ';'))

/-- `candidate.replace(/\/+$/, "")` -/
def withoutTrailingSlashes (candidate : String) : String :=
  String.ofList (candidate.toList.reverse.dropWhile fun c => c = '/').reverse

/-- A text that is not falsy. -/
def present (text : Option String) : Option String := text.filter fun text => text ≠ ""

/-- `originOf` is the protocol and host of a URL, as `new URL` parses it. -/
def use (originOf : String → Option String) (trusted : List String) (request : Request) : Verdict :=
  if !applies request.method request.url then .next
  else
    let contentType := present (request.contentType.map mediaType)
    if contentType.any fun contentType => contentType ∉ JSON_CONTENT_TYPES &&
        !"multipart/form-data".toList.isPrefixOf contentType.toList then
      .refused 415 "UNSUPPORTED_MEDIA_TYPE" "Unsupported Content-Type"
    else
      let fromReferer := (present (request.referer.map Js.trim)).bind originOf
      let candidate := (present (request.origin.map Js.trim)).or fromReferer
      if (present candidate).any fun candidate => withoutTrailingSlashes candidate ∉ trusted then
        .refused 403 "INVALID_ORIGIN" "Request origin is not allowed"
      else .next

end OriginValidationMiddleware

/-- A piece of a route: a text to be matched, or a parameter. -/
inductive Piece where
  | literal (text : String)
  | parameter
deriving DecidableEq

instance : Coe String Piece := ⟨.literal⟩

/-- A handler with its path and the decorators that the guard reads. -/
structure Route where
  method : HttpMethod
  pieces : List Piece
  isPublic : Bool := false
  skipCsrf : Bool := false
deriving DecidableEq

namespace CsrfGuard

def isStaffAuthMutation (path : String) : Bool :=
  Js.includes path "/auth/login" || Js.includes path "/auth/logout" ||
    Js.includes path "/auth/register" || Js.includes path "/auth/forgot-password" ||
      Js.includes path "/auth/reset-password"

/-- Whether the guard asks for a token. -/
def requiresToken (route : Route) (method : HttpMethod) (url : RequestUrl) : Bool :=
  !route.skipCsrf && isMutatingMethod method &&
    !(route.isPublic && !isStaffAuthMutation url.path)

def canActivate (route : Route) (request : Request) : Verdict :=
  if !requiresToken route request.method request.url then .next
  else if (OriginValidationMiddleware.present request.csrfCookie).any
      fun cookieToken => request.csrfHeader = some cookieToken then .next
  else .refused 403 "CSRF_VALIDATION_FAILED" "CSRF token missing or invalid"

end CsrfGuard

namespace RateLimitMiddleware

def getRateLimitMax (path : String) : Nat :=
  if Js.includes path "/auth/login" || Js.includes path "/auth/forgot-password" ||
      Js.includes path "/auth/reset-password" then 20
  else if Js.includes path "/public/property-tax" then 30
  else if Js.includes path "/payments/gateway/" then 120
  else 300

def redisKey (ip : String) (url : RequestUrl) : String := "rate:" ++ ip ++ ":" ++ url.path

/-- What happens once the request is counted. -/
def limit (count : Nat) (url : RequestUrl) : Verdict :=
  if getRateLimitMax url.path < count then .refused 429 "RATE_LIMITED" "Too many requests"
  else .next

end RateLimitMiddleware

/-! ### The router -/

/-- The parts of a path between its slashes; one slash at the end does not count. -/
def segments (path : String) : List String :=
  let parts := (path.toList.splitOn '/').tail
  (if parts.getLast? = some [] then parts.dropLast else parts).map String.ofList

/-- Letters match in any case; a parameter takes any text. -/
def Piece.matches (piece : Piece) (segment : String) : Bool :=
  match piece with
  | .literal text => text.toList.map Char.toLower = segment.toList.map Char.toLower
  | .parameter => segment ≠ ""

def Route.matches (route : Route) (path : String) : Bool :=
  path.toList.head? = some '/' && (segments path).length = route.pieces.length &&
    (route.pieces.zip (segments path)).all fun pair => pair.1.matches pair.2

def Piece.spelled (piece : Piece) (segment : String) : String :=
  match piece with
  | .literal text => text
  | .parameter => segment

def pathOf (segments : List String) : String :=
  if segments = [] then "/" else String.join (segments.map fun segment => "/" ++ segment)

/-- The path as the handler declares it, with the parameters as they were given. -/
def Route.canonical (route : Route) (path : String) : RequestUrl where
  path := pathOf ((route.pieces.zip (segments path)).map fun pair => pair.1.spelled pair.2)
  query := none

def Route.takes (route : Route) (method : HttpMethod) : Bool :=
  route.method = method || (route.method = .get && method = .head)

/-- A handler of a controller under `api/v1`. -/
def api (method : HttpMethod) (pieces : List Piece) : Route where
  method := method
  pieces := "api" :: "v1" :: pieces

/-- `@Public()` -/
def Route.asPublic (route : Route) : Route := { route with isPublic := true }

/-- `@Public()` and `@SkipCsrf()` -/
def Route.asGateway (route : Route) : Route := { route with isPublic := true, skipCsrf := true }

/-- The handlers of all controllers. -/
def routes : List Route :=
  [({ method := .get, pieces := [] } : Route).asPublic,
    ({ method := .get, pieces := ["health"] } : Route).asPublic,
    (api .get ["health"]).asPublic,
    (api .get ["health", "live"]).asPublic,
    (api .get ["health", "ready"]).asPublic,
    (api .get ["ready"]).asPublic,
    (api .get ["csrf"]).asPublic,
    (api .post ["auth", "register"]).asPublic,
    (api .post ["auth", "login"]).asPublic,
    (api .post ["auth", "logout"]).asPublic,
    api .get ["auth", "me"],
    api .get ["auth", "sessions"],
    api .delete ["auth", "sessions", .parameter],
    api .post ["auth", "sessions", "revoke-all"],
    api .patch ["auth", "me", "password"],
    (api .post ["auth", "forgot-password"]).asPublic,
    (api .post ["auth", "reset-password"]).asPublic,
    api .get ["users"],
    api .post ["users"],
    api .patch ["users", .parameter],
    api .post ["users", .parameter, "password-reset-link"],
    api .delete ["users", .parameter],
    api .get ["roles"],
    api .post ["roles"],
    api .patch ["roles", .parameter],
    api .delete ["roles", .parameter],
    api .get ["permissions"],
    api .get ["audit-logs"],
    api .get ["wards"],
    api .post ["surveys"],
    api .get ["surveys"],
    api .get ["surveys", .parameter],
    api .post ["surveys", .parameter, "attachments"],
    api .delete ["surveys", .parameter, "attachments", .parameter],
    api .patch ["surveys", .parameter],
    api .delete ["surveys", .parameter],
    api .get ["dashboard", "summary"],
    api .post ["imports", "upload"],
    api .get ["imports", .parameter, "preview"],
    api .post ["imports", .parameter, "preview"],
    api .post ["imports", .parameter, "start"],
    api .get ["imports", .parameter, "errors.xlsx"],
    api .get ["imports"],
    api .get ["imports", .parameter],
    api .post ["exports", "surveys"],
    (api .get ["files"]).asPublic,
    api .post ["payments", "online"],
    api .post ["payments", "offline"],
    (api .post ["payments", "gateway", "callback"]).asGateway,
    (api .post ["payments", "gateway", "return"]).asGateway,
    (api .get ["payments", "gateway", "return"]).asPublic,
    api .post ["payments", .parameter, "requery"],
    api .post ["payments", .parameter, "refund"],
    api .get ["payments"],
    api .get ["payments", "refunds"],
    api .get ["payments", "settlements"],
    api .get ["payments", .parameter, "receipt"],
    api .get ["payments", .parameter, "receipt.pdf"],
    api .post ["payments", "settlements", "ingest"],
    api .get ["reports", "surveys"],
    api .get ["reports", "payments"],
    api .get ["reports", "surveys", "export"],
    api .get ["tax-configs"],
    api .post ["tax-configs", "copy-to-wards"],
    api .patch ["tax-configs", .parameter],
    api .put ["tax-configs", .parameter, "cells"],
    api .post ["tax-configs", "preview"],
    api .get ["tax-configs", .parameter, "versions"],
    api .post ["tax-configs", .parameter, "publish"],
    api .get ["tax-adjustments"],
    api .get ["tax-adjustments", .parameter],
    api .post ["tax-adjustments"],
    api .patch ["tax-adjustments", .parameter],
    api .post ["tax-adjustments", .parameter, "publish"],
    api .post ["tax-adjustments", .parameter, "archive"],
    api .delete ["tax-adjustments", .parameter],
    api .get ["demands", "published"],
    api .get ["demands", "outstanding"],
    api .get ["demands", "ledger"],
    api .get ["demands", "list"],
    api .get ["demands"],
    api .post ["demands", "publish"],
    api .post ["demands", "publish-ward"],
    api .post ["demands", "year-end", "preview"],
    api .post ["demands", "year-end", "commit"],
    api .get ["reference-entries", "categories"],
    api .get ["reference-entries"],
    api .post ["reference-entries", "assessment-years"],
    api .patch ["reference-entries", "assessment-years", .parameter],
    api .patch ["reference-entries", "assessment-years", .parameter, "activate"],
    api .patch ["reference-entries", "assessment-years", .parameter, "deactivate"],
    api .delete ["reference-entries", "assessment-years", .parameter],
    (api .get ["public", "property-tax", "wards"]).asPublic,
    (api .get ["public", "property-tax", "search"]).asPublic,
    (api .get ["public", "property-tax", "dues", .parameter]).asPublic,
    (api .post ["public", "property-tax", "payments"]).asPublic,
    (api .get ["public", "property-tax", "payments", "by-merch", .parameter]).asPublic,
    (api .get ["public", "property-tax", "receipts", .parameter]).asPublic,
    (api .get ["public", "property-tax", "receipts", .parameter, "pdf"]).asPublic]

/-- The handler that a request reaches. -/
def handlerOf? (method : HttpMethod) (url : RequestUrl) : Option Route :=
  routes.find? fun route => route.takes method && route.matches url.path

def Route.isUnder (route : Route) (pieces : List String) : Bool :=
  route.pieces.take pieces.length = pieces.map Piece.literal

/-- A handler that the payment gateway calls. -/
def Route.isGateway (route : Route) : Bool := route.isUnder ["api", "v1", "payments", "gateway"]

/-- A handler of the staff's logins that changes something. -/
def Route.isStaffAuthMutation (route : Route) : Bool :=
  isMutatingMethod route.method && route.isUnder ["api", "v1", "auth"]

/-- The request is protected as the route is, and the route as it should be. -/
structure ProtectedAsRoute (route : Route) (method : HttpMethod) (url : RequestUrl) : Prop where
  origin : OriginValidationMiddleware.applies method url =
    OriginValidationMiddleware.applies method (route.canonical url.path)
  csrf : CsrfGuard.requiresToken route method url =
    CsrfGuard.requiresToken route method (route.canonical url.path)
  max : RateLimitMiddleware.getRateLimitMax url.path =
    RateLimitMiddleware.getRateLimitMax (route.canonical url.path).path
  counter : ∀ ip, RateLimitMiddleware.redisKey ip url =
    RateLimitMiddleware.redisKey ip (route.canonical url.path)
  gatewayOnly : isMutatingMethod method = true →
    OriginValidationMiddleware.applies method url = false → route.isGateway = true
  staffAuth : route.isStaffAuthMutation = true → CsrfGuard.requiresToken route method url = true

/-- The path is spelled as the handler declares it, and only a gateway's URL speaks
of the gateway. -/
structure SpelledAsDeclared (route : Route) (method : HttpMethod) (url : RequestUrl) : Prop where
  path : url.path = (route.canonical url.path).path
  noGateway : isMutatingMethod method = true → route.isGateway = false →
    isAtomGatewayPath url.originalUrl = false

/-! ### What the routes are -/

/-- The handler is the first route that takes the method and matches the path. -/
theorem handlerOf?_spec {method : HttpMethod} {url : RequestUrl} {route : Route}
    (h : handlerOf? method url = some route) :
    route ∈ routes ∧ route.takes method = true ∧ route.matches url.path = true := by
  have hFound := List.find?_some h
  exact ⟨List.mem_of_find?_eq_some h, Bool.and_eq_true_iff.mp hFound⟩

/-- The path of a handler without parameters. -/
def Route.declared (route : Route) : String :=
  pathOf (route.pieces.map fun piece => piece.spelled "")

/-- Pieces without parameters are spelled as they are declared. -/
theorem spelled_of_literals {pieces : List Piece} {parts : List String}
    (hLength : parts.length = pieces.length) (hLiteral : Piece.parameter ∉ pieces) :
    (pieces.zip parts).map (fun pair => pair.1.spelled pair.2) =
      pieces.map fun piece => piece.spelled "" := by
  induction pieces generalizing parts with
  | nil => rfl
  | cons piece pieces ih =>
      cases parts with
      | nil => cases hLength
      | cons part parts =>
          obtain ⟨hFirst, hRest⟩ := not_or.mp (mt List.mem_cons.mpr hLiteral)
          rw [List.zip_cons_cons, List.map_cons, List.map_cons, ih (Nat.succ.inj hLength) hRest]
          cases piece with
          | literal text => rfl
          | parameter => exact absurd rfl hFirst

/-- A route without parameters has one canonical path, the declared one. -/
theorem canonical_of_literals {route : Route} {path : String} (h : route.matches path = true)
    (hLiteral : Piece.parameter ∉ route.pieces) : (route.canonical path).path = route.declared := by
  have hLength : (segments path).length = route.pieces.length :=
    of_decide_eq_true (Bool.and_eq_true_iff.mp (Bool.and_eq_true_iff.mp h).1).2
  rw [Route.canonical, Route.declared, spelled_of_literals hLength hLiteral]

/-- The gateway's handlers have fixed paths, which the middleware knows. -/
theorem gateway_declared : ∀ route ∈ routes, route.isGateway = true →
    Piece.parameter ∉ route.pieces ∧ isAtomGatewayPath route.declared = true := by
  decide

/-- The guard knows the fixed paths of the public handlers of the logins. -/
theorem staffAuth_declared : ∀ route ∈ routes, route.isStaffAuthMutation = true →
    route.skipCsrf = false ∧ (route.isPublic = true → Piece.parameter ∉ route.pieces ∧
      CsrfGuard.isStaffAuthMutation route.declared = true) := by
  decide

/-! ### Spellings -/

section Spellings
variable {method : HttpMethod} {url : RequestUrl} {route : Route}

/-- What the URL does not speak of, its path does not. -/
theorem isAtomGatewayPath_path (h : isAtomGatewayPath url.originalUrl = false) :
    isAtomGatewayPath url.path = false := by
  rw [Bool.eq_false_iff] at h ⊢
  intro hPath
  apply h
  rw [isAtomGatewayPath, Js.includes_iff] at hPath ⊢
  rw [RequestUrl.originalUrl, String.toList_append]
  exact hPath.trans (List.prefix_append _ _).isInfix

/-- The canonical URL has no query and no prefix. -/
theorem originalUrl_canonical (path : String) :
    (route.canonical path).originalUrl = (route.canonical path).path := by
  rw [RequestUrl.originalUrl]
  exact String.append_empty

theorem redisKey_inj {ip : String} {url' : RequestUrl}
    (h : RateLimitMiddleware.redisKey ip url = RateLimitMiddleware.redisKey ip url') :
    url.path = url'.path := by
  unfold RateLimitMiddleware.redisKey at h
  exact (String.append_right_inj _).mp h

end Spellings

/-- A request that reaches a handler is protected as the handler's own path is, with the
gateway alone exempt from the origin check and every change of a login under a CSRF
token, exactly if it is spelled as the handler declares it. -/
theorem protectedAsRoute_iff {method : HttpMethod} {url : RequestUrl} {route : Route}
    (h : handlerOf? method url = some route) :
    ProtectedAsRoute route method url ↔ SpelledAsDeclared route method url := by
  obtain ⟨hRoute, hTakes, hMatches⟩ := handlerOf?_spec h
  constructor
  · intro hProtected
    refine ⟨redisKey_inj (hProtected.counter ""), fun hMutating hOther => ?_⟩
    cases hUrl : isAtomGatewayPath url.originalUrl with
    | false => rfl
    | true =>
        have hExempt : OriginValidationMiddleware.applies method url = false := by
          rw [OriginValidationMiddleware.applies, hUrl, Bool.true_or, Bool.not_true, Bool.and_false]
        have hGateway := hProtected.gatewayOnly hMutating hExempt
        rw [hOther] at hGateway
        cases hGateway
  · rintro ⟨hPath, hNoGateway⟩
    have hApplies : isMutatingMethod method = true → route.isGateway = false →
        OriginValidationMiddleware.applies method url = true := by
      intro hMutating hOther
      have hUrl := hNoGateway hMutating hOther
      rw [OriginValidationMiddleware.applies, hMutating, hUrl, isAtomGatewayPath_path hUrl]
      rfl
    refine ⟨?_, ?_, ?_, ?_, ?_, ?_⟩
    · cases hMutating : isMutatingMethod method with
      | false => simp only [OriginValidationMiddleware.applies, hMutating, Bool.false_and]
      | true =>
          cases hGateway : route.isGateway with
          | false =>
              have hUrl := isAtomGatewayPath_path (hNoGateway hMutating hGateway)
              rw [hApplies hMutating hGateway, OriginValidationMiddleware.applies,
                originalUrl_canonical, ← hPath, hUrl, hMutating]
              rfl
          | true =>
              obtain ⟨hLiteral, hKnown⟩ := gateway_declared route hRoute hGateway
              rw [← canonical_of_literals hMatches hLiteral] at hKnown
              have hUrl : isAtomGatewayPath url.path = true := hPath ▸ hKnown
              simp only [OriginValidationMiddleware.applies, hUrl, hKnown, Bool.or_true,
                Bool.not_true, Bool.and_false]
    · simp only [CsrfGuard.requiresToken, hPath.symm]
    · rw [← hPath]
    · intro ip
      simp only [RateLimitMiddleware.redisKey, hPath.symm]
    · intro hMutating hExempt
      by_contra hOther
      rw [hApplies hMutating (by simpa using hOther)] at hExempt
      cases hExempt
    · intro hStaff
      obtain ⟨hToken, hPublic⟩ := staffAuth_declared route hRoute hStaff
      have hMutating : isMutatingMethod method = true := by
        have hOwn := (Bool.and_eq_true_iff.mp hStaff).1
        rcases Bool.or_eq_true_iff.mp hTakes with hSame | hHead
        · rw [← of_decide_eq_true hSame]
          exact hOwn
        · rw [of_decide_eq_true (Bool.and_eq_true_iff.mp hHead).1] at hOwn
          cases hOwn
      rw [CsrfGuard.requiresToken, hToken, hMutating]
      cases hOpen : route.isPublic with
      | false => rfl
      | true =>
          obtain ⟨hLiteral, hKnown⟩ := hPublic hOpen
          rw [hPath, canonical_of_literals hMatches hLiteral, hKnown]
          rfl

namespace Sample

def loginPath : RequestUrl := ⟨"/api/v1/auth/login", none⟩

/-- The same handler in capitals. -/
def loginInCapitals : RequestUrl := ⟨"/API/V1/AUTH/LOGIN", none⟩

/-- A payment at the counter, with a query that no handler reads. -/
def offlineWithQuery : RequestUrl := ⟨"/api/v1/payments/offline", some "x=/payments/gateway/"⟩

def loginRoute : Route := (api .post ["auth", "login"]).asPublic

end Sample

/-- The login is handled and protected as its route says. -/
theorem protectedAsRoute_login :
    handlerOf? .post Sample.loginPath = some Sample.loginRoute ∧
      ProtectedAsRoute Sample.loginRoute .post Sample.loginPath := by
  have hRoute : handlerOf? .post Sample.loginPath = some Sample.loginRoute := by decide
  exact ⟨hRoute, (protectedAsRoute_iff hRoute).mpr
    ⟨by decide, fun _ _ => by decide⟩⟩

/-- A login in capitals needs no CSRF token and has a limit of its own, fifteen times as
high; a query lets a payment at the counter past the origin check. -/
theorem capitals_and_query_unprotected :
    (handlerOf? .post Sample.loginInCapitals = some Sample.loginRoute ∧
      ¬ ProtectedAsRoute Sample.loginRoute .post Sample.loginInCapitals) ∧
    (handlerOf? .post Sample.offlineWithQuery = some (api .post ["payments", "offline"]) ∧
      ¬ ProtectedAsRoute (api .post ["payments", "offline"]) .post
        Sample.offlineWithQuery) := by
  refine ⟨⟨by decide, fun h => ?_⟩, by decide, fun h => ?_⟩
  · exact absurd (h.staffAuth (by decide)) (by decide)
  · exact absurd (h.gatewayOnly rfl (by decide)) (by decide)

end PropertyTax.Http
