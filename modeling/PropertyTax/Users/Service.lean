import PropertyTax.Auth
import PropertyTax.Users.Store

/-! The user and role endpoints: the guards in front of them, the services
behind them, and a request that goes through both. -/
namespace PropertyTax
open KeyedTable Scripts

/-! ### Guards -/

def STAFF_ROLE_CODES : List String := ["SUPER_ADMIN", "DEPARTMENT_ADMIN", "CLERK", "OPERATOR"]

def isStaffRoleCode (code : String) : Bool := STAFF_ROLE_CODES.contains code

inductive AssignableStaffRoleCode where
  | superAdmin | departmentAdmin | clerk | operator
deriving DecidableEq

def AssignableStaffRoleCode.code : AssignableStaffRoleCode → String
  | superAdmin => "SUPER_ADMIN"
  | departmentAdmin => "DEPARTMENT_ADMIN"
  | clerk => "CLERK"
  | operator => "OPERATOR"

def ASSIGNABLE_STAFF_ROLE_CODES : List String :=
  ["SUPER_ADMIN", "DEPARTMENT_ADMIN", "CLERK", "OPERATOR"]

namespace StaffDb

def roleCodes (db : StaffDb) (userId : Id) : List String := (db.rolesOf userId).map Role.code

def permissionCodes (db : StaffDb) (userId : Id) : List String :=
  ((db.rolesOf userId).flatMap fun role =>
    (db.permissionsOf role.id).map Permission.code).eraseDups

end StaffDb

/-- The user that `AuthGuard.canActivate` attaches to the request of a valid
session. -/
def AuthGuard.userOf (db : StaffDb) (userId : Id) : Except StaffError AuthUser :=
  match db.users.find? userId with
  | none => .error (.unauthorized "User is inactive or not found")
  | some user =>
      if user.status ≠ .active then .error (.unauthorized "User is inactive or not found")
      else if !(db.roleCodes userId).any isStaffRoleCode then
        .error (.unauthorized "Staff portal access requires a valid staff role")
      else .ok
        { id := userId, permissions := db.permissionCodes userId, roles := db.roleCodes userId }

def PermissionGuard.canActivate (required : List String) (user : AuthUser) :
    Except StaffError Unit :=
  if required.isEmpty then .ok ()
  else if user.roles.contains "SUPER_ADMIN" then .ok ()
  else
    let missing := required.filter fun code => !user.permissions.contains code
    if missing.isEmpty then .ok ()
    else .error (.api (.forbidden ("Missing permission: " ++ String.intercalate ", " missing)))

/-! ### Users -/

structure CreateUserDto where
  email : String
  name : String
  password : Option String := none
  initialPassword : Option String := none
  phone : Option String := none
  roleIds : Option (List Id) := none
  role : Option AssignableStaffRoleCode := none

structure UpdateUserDto where
  name : Option String := none
  phone : Option String := none
  status : Option UserStatus := none
  active : Option Bool := none
  roleIds : Option (List Id) := none
  role : Option AssignableStaffRoleCode := none

/-- A user without the password hash, with its roles. -/
structure SafeUserDto where
  id : Id
  name : String
  email : String
  phone : Option String
  status : UserStatus
  roles : List Role
deriving DecidableEq

def PASSWORD_MIN_LENGTH : Nat := 12

namespace UsersService

def userNotFound : StaffError := .api (.notFound (some "USER_NOT_FOUND") "User not found")

def invalidRole (message : String) : StaffError :=
  .api (.badRequest (some "INVALID_ROLE") message)

def toSafeUser (db : StaffDb) (user : StaffUser) : SafeUserDto where
  id := user.id
  name := user.name
  email := user.email
  phone := user.phone
  status := user.status
  roles := db.rolesOf user.id

/-- `findUniqueOrThrow` -/
def safeUser (db : StaffDb) (id : Id) : Except StaffError (StaffDb × SafeUserDto) :=
  match db.users.find? id with
  | some user => .ok (db, toSafeUser db user)
  | none => .error (.refused .recordNotFound)

def resolveRoleIds (db : StaffDb) (roleIds : Option (List Id))
    (roleCode : Option AssignableStaffRoleCode) : Except StaffError (List Id) :=
  match roleIds, roleCode with
  | some (id :: ids), _ =>
      match db.roles.findFirst? fun role =>
        decide (role.id ∈ id :: ids) && !ASSIGNABLE_STAFF_ROLE_CODES.contains role.code with
      | some role => .error (invalidRole
          ("Role " ++ role.code ++ " cannot be assigned via staff provisioning"))
      | none => .ok (id :: ids)
  | _, some roleCode =>
      match db.roleByCode? roleCode.code with
      | none => .error (invalidRole ("Role " ++ roleCode.code ++ " not found"))
      | some role => .ok [role.id]
  | _, none => .ok ((db.roleByCode? "OPERATOR").map Role.id).toList

/-- A user without roles gets no rows. -/
def assignNew (userId : Id) (roleIds : List Id) (db : StaffDb) :
    Except StaffError (StaffDb × Unit) :=
  if roleIds.isEmpty then .ok (db, ())
  else db.createUserRoles StaffDb.insertMissing userId roleIds

/-- The transaction of `create`. -/
def createWithRoles (user : Id → StaffUser) (roleIds : List Id) (db : StaffDb) :
    Except StaffError (StaffDb × SafeUserDto) := do
  let created ← db.createUser user
  let assigned ← assignNew created.2 roleIds created.1
  safeUser assigned.1 created.2

def create (hashPassword : String → String) (dto : CreateUserDto) (password : String) :
    StaffScript SafeUserDto := do
  let email := Js.toLowerCase (Js.trim dto.email)
  let existing ← Script.query fun db : StaffDb =>
    db.users.findFirst? fun user => user.email = email
  if existing.isSome then
    Script.fail (.api (.conflict (some "USER_EMAIL_EXISTS")
      "A user with this email already exists"))
  else do
    let resolved ← Script.query fun db : StaffDb => resolveRoleIds db dto.roleIds dto.role
    match resolved with
    | .error error => Script.fail error
    | .ok roleIds =>
        Script.execute (createWithRoles (fun id =>
          { id
            name := Js.trim dto.name
            email
            phone := (dto.phone.map Js.trim).filter (· ≠ "")
            passwordHash := some (hashPassword password) }) roleIds)

/-- Two statements with no transaction around them. -/
def replaceRoles (id : Id) (roleIds : List Id) : StaffScript Unit := do
  Script.modify (StaffDb.deleteUserRoles id)
  if roleIds.isEmpty then pure ()
  else Script.execute (StaffDb.createUserRoles StaffDb.insertAll id roleIds)

def assignRoles (id : Id) (dto : UpdateUserDto) : StaffScript Unit :=
  if dto.roleIds.isSome || dto.role.isSome then do
    let resolved ← Script.query fun db : StaffDb => resolveRoleIds db dto.roleIds dto.role
    match resolved with
    | .error error => Script.fail error
    | .ok roleIds => replaceRoles id roleIds
  else pure ()

def update (id : Id) (dto : UpdateUserDto) (status : Option UserStatus) :
    StaffScript SafeUserDto := do
  let before ← Script.query fun db : StaffDb => db.users.find? id
  if before.isNone then Script.fail userNotFound
  else do
    Script.execute (StaffDb.updateUser id fun user =>
      { user with
        name := dto.name.getD user.name
        phone := dto.phone.or user.phone
        status := status.getD user.status })
    assignRoles id dto
    Script.execute (safeUser · id)

def deactivate (id : Id) (actor : AuthUser) : StaffScript SafeUserDto :=
  if id = actor.id then
    Script.fail (.api (.badRequest (some "CANNOT_DEACTIVATE_SELF")
      "You cannot deactivate your own account"))
  else do
    let before ← Script.query fun db : StaffDb => db.users.find? id
    if before.isNone then Script.fail userNotFound
    else do
      Script.execute (StaffDb.updateUser id fun user => { user with status := .inactive })
      Script.execute (safeUser · id)

end UsersService

namespace UsersController

def create (hashPassword : String → String) (dto : CreateUserDto) : StaffScript SafeUserDto :=
  let tooShort : StaffError := .api (.badRequest (some "PASSWORD_TOO_SHORT")
    ("Initial password must be at least " ++ toString PASSWORD_MIN_LENGTH ++ " characters"))
  match dto.password.or dto.initialPassword with
  | none => Script.fail tooShort
  | some plainPassword =>
      if Js.length plainPassword < PASSWORD_MIN_LENGTH then Script.fail tooShort
      else UsersService.create hashPassword dto plainPassword

def update (id : Id) (dto : UpdateUserDto) : StaffScript SafeUserDto :=
  UsersService.update id dto (match dto.active with
    | none => dto.status
    | some true => some .active
    | some false => some .inactive)

/-- The link is answered for the user. The token behind it is a row of its own. -/
def createPasswordResetLink (id : Id) : StaffScript Id := do
  let user ← Script.query fun db : StaffDb => db.users.find? id
  match user with
  | none => Script.fail UsersService.userNotFound
  | some user =>
      if user.passwordHash.any (· ≠ "") then pure id
      else Script.fail (.api (.badRequest (some "PASSWORD_ACCOUNT_NOT_FOUND")
        "This user does not have a password account to reset"))

end UsersController

/-! ### Roles -/

structure CreateRoleDto where
  code : String
  name : String
  description : Option String := none
  permissionIds : Option (List Id) := none

structure UpdateRoleDto where
  code : Option String := none
  name : Option String := none
  description : Option String := none
  permissionIds : Option (List Id) := none

structure RoleWithPermissions where
  role : Role
  permissions : List Permission
deriving DecidableEq

namespace RbacService

def withPermissions (db : StaffDb) (id : Id) : Except StaffError (StaffDb × RoleWithPermissions) :=
  match db.roles.find? id with
  | some role => .ok (db, ⟨role, db.permissionsOf id⟩)
  | none => .error (.refused .recordNotFound)

def createRole (dto : CreateRoleDto) : StaffScript RoleWithPermissions := do
  let id ← Script.execute (StaffDb.createRole (fun id =>
    { id, code := Js.toUpperCase dto.code, name := dto.name, description := dto.description })
    (dto.permissionIds.getD []))
  Script.execute (withPermissions · id)

/-- Two statements with no transaction around them. -/
def replacePermissions (id : Id) : Option (List Id) → StaffScript Unit
  | none => pure ()
  | some permissionIds => do
      Script.modify (StaffDb.deleteRolePermissions id)
      Script.execute (StaffDb.createRolePermissions id permissionIds)

def updateRole (id : Id) (dto : UpdateRoleDto) : StaffScript RoleWithPermissions := do
  let before ← Script.query fun db : StaffDb => db.roles.find? id
  if before.isNone then
    Script.fail (.api (.notFound (some "ROLE_NOT_FOUND") "Role not found"))
  else do
    replacePermissions id dto.permissionIds
    Script.execute (StaffDb.updateRole id fun role =>
      { role with
        name := dto.name.getD role.name
        description := dto.description.or role.description
        code := (dto.code.map Js.toUpperCase).getD role.code })
    Script.execute (withPermissions · id)

def deleteRole (id : Id) : StaffScript Id := do
  let role ← Script.query fun db : StaffDb => db.roles.find? id
  match role with
  | none => Script.fail (.refused .recordNotFound)
  | some role =>
      if role.isSystem then
        Script.fail (.api (.badRequest (some "SYSTEM_ROLE") "System roles cannot be deleted"))
      else do
        Script.modify (StaffDb.deleteRole id)
        pure id

end RbacService

/-! ### Requests -/

inductive StaffCall where
  | createUser (dto : CreateUserDto)
  | updateUser (id : Id) (dto : UpdateUserDto)
  | createPasswordResetLink (id : Id)
  | deactivate (id : Id)
  | createRole (dto : CreateRoleDto)
  | updateRole (id : Id) (dto : UpdateRoleDto)
  | deleteRole (id : Id)

inductive StaffAnswer where
  | user (user : SafeUserDto)
  | resetLink (userId : Id)
  | role (role : RoleWithPermissions)
  | deleted (id : Id)
deriving DecidableEq

namespace StaffCall

/-- `@RequirePermission` -/
def required : StaffCall → List String
  | createUser _ => ["user:create"]
  | updateUser _ _ => ["user:update"]
  | createPasswordResetLink _ => ["user:update"]
  | deactivate _ => ["user:delete"]
  | createRole _ => ["role:create"]
  | updateRole _ _ => ["role:update"]
  | deleteRole _ => ["role:delete"]

def script (hashPassword : String → String) (actor : AuthUser) :
    StaffCall → StaffScript StaffAnswer
  | createUser dto => do
      let user ← UsersController.create hashPassword dto
      pure (.user user)
  | updateUser id dto => do
      let user ← UsersController.update id dto
      pure (.user user)
  | createPasswordResetLink id => do
      let userId ← UsersController.createPasswordResetLink id
      pure (.resetLink userId)
  | deactivate id => do
      let user ← UsersService.deactivate id actor
      pure (.user user)
  | createRole dto => do
      let role ← RbacService.createRole dto
      pure (.role role)
  | updateRole id dto => do
      let role ← RbacService.updateRole id dto
      pure (.role role)
  | deleteRole id => do
      let deleted ← RbacService.deleteRole id
      pure (.deleted deleted)

end StaffCall

/-- A call, in the session of some user. -/
structure StaffRequest where
  actorId : Id
  call : StaffCall

/-- The guards, and the call behind them. -/
def StaffRequest.perform (hashPassword : String → String) (request : StaffRequest) :
    StaffScript StaffAnswer := fun db =>
  match AuthGuard.userOf db request.actorId with
  | .error error => (db, .error error)
  | .ok actor =>
      match PermissionGuard.canActivate request.call.required actor with
      | .error error => (db, .error error)
      | .ok () => request.call.script hashPassword actor db

end PropertyTax
