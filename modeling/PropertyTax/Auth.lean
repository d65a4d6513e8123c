import PropertyTax.Schema

/-! Permission and resource checks. Each returns the error it would throw. -/
namespace PropertyTax

structure AuthUser where
  id : Id
  permissions : List String
  roles : List String

def hasPermission (user : AuthUser) (needed : List String) : Bool :=
  user.roles.contains "SUPER_ADMIN" || needed.all fun code => user.permissions.contains code

def assertPermission (user : AuthUser) (needed : List String) : Except ApiError Unit :=
  if hasPermission user needed then .ok ()
  else
    let missing := needed.filter fun code => !user.permissions.contains code
    .error (.forbidden ("Missing permission: " ++ String.intercalate ", " missing))

def hasBroadResourceAccess (user : AuthUser) : Bool :=
  user.roles.contains "SUPER_ADMIN" || user.roles.contains "DEPARTMENT_ADMIN" ||
    user.roles.contains "CLERK"

def isScopedOperator (user : AuthUser) : Bool :=
  user.roles.contains "OPERATOR" && !hasBroadResourceAccess user

inductive SurveyAccessAction where
  | read | create | update | delete
deriving DecidableEq

def SurveyAccessAction.permission : SurveyAccessAction → String
  | read => "survey:read"
  | create => "survey:create"
  | update => "survey:update"
  | delete => "survey:delete"

inductive PaymentAccessAction where
  | read | create | createOffline | requery | refund
deriving DecidableEq

def PaymentAccessAction.permission : PaymentAccessAction → String
  | read => "payment:read"
  | create => "payment:create"
  | createOffline => "payment:offline:create"
  | requery => "payment:requery"
  | refund => "refund:create"

def assertSurveyAccess (user : AuthUser) (createdById : Option Id)
    (action : SurveyAccessAction) : Except ApiError Unit := do
  assertPermission user [action.permission]
  if hasBroadResourceAccess user || !isScopedOperator user then return
  if action = .read ∨ action = .create then return
  if createdById ≠ some user.id then
    throw (.forbidden "You can only modify surveys you created")

/-- Citizen and gateway payments have no staff collector. -/
def assertPaymentAccess (user : AuthUser) (collectedById : Option Id)
    (action : PaymentAccessAction) : Except ApiError Unit := do
  assertPermission user [action.permission]
  if hasBroadResourceAccess user then return
  match collectedById with
  | none => return
  | some collector =>
      if isScopedOperator user && collector ≠ user.id then
        throw (.forbidden "You can only access payments you collected")

end PropertyTax
