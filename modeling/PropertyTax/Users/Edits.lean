import PropertyTax.Sent
import PropertyTax.Sessions.SessionCalls
import PropertyTax.Users.Service

/-! The calls on accounts and roles with the bodies that the controllers admit: a field
may be null, and the body of a role edit is not validated at all. An account that is
edited loses its sessions. -/
namespace PropertyTax
open KeyedTable Scripts

/-- Why a call throws: as before, or for data that the client library or the language refuses. -/
inductive EditError where
  | staff (error : StaffError)
  | invalidData
  | typeError
deriving DecidableEq

structure StaffWorld where
  db : StaffDb
  sessions : SessionState

abbrev EditScript (α : Type) := Script StaffWorld EditError α

/-- A script on the tables of the staff. -/
def StaffScript.onDb {α : Type} (script : StaffScript α) : EditScript α := fun world =>
  ({ world with db := (script world.db).1 }, (script world.db).2.mapError .staff)

def revokeAllUserSessions (userId : Id) (now : Timestamp) : EditScript Unit :=
  Script.modify fun world =>
    { world with
      sessions := (SessionCalls.revokeAllUserSessions userId none now world.sessions).2 }

/-! ### Accounts -/

/-- `UpdateUserDto`, whose optional fields may be null. -/
structure UpdateUserBody where
  name : Sent String := .absent
  phone : Sent String := .absent
  status : Sent UserStatus := .absent
  active : Sent Bool := .absent
  roleIds : Sent (List Id) := .absent
  role : Sent AssignableStaffRoleCode := .absent

namespace UpdateUserBody

/-- The controller takes `active` first, where null means inactive. -/
def requestedStatus (body : UpdateUserBody) : Sent UserStatus :=
  match body.active with
  | .absent => body.status
  | .null => .value .inactive
  | .value true => .value .active
  | .value false => .value .inactive

def shouldRevokeSessions (body : UpdateUserBody) : Bool :=
  body.requestedStatus = .value .inactive || body.requestedStatus = .value .suspended

def rolesChanging (body : UpdateUserBody) : Bool :=
  body.roleIds.value?.any (fun roleIds => !roleIds.isEmpty) || body.role.value?.isSome

def apply (body : UpdateUserBody) (user : StaffUser) : StaffUser :=
  { user with
    name := body.name.value?.getD user.name
    phone := body.phone.write user.phone
    status := body.requestedStatus.value?.getD user.status }

/-- The roles of the body, where null is as good as absent. -/
def roles (body : UpdateUserBody) : UpdateUserDto :=
  { roleIds := body.roleIds.value?, role := body.role.value? }

def ofDto (dto : UpdateUserDto) : UpdateUserBody where
  name := .ofOption dto.name
  phone := .ofOption dto.phone
  status := .ofOption dto.status
  active := .ofOption dto.active
  roleIds := .ofOption dto.roleIds
  role := .ofOption dto.role

end UpdateUserBody

namespace UsersService

/-- Columns that are not nullable refuse null. -/
def writeUser (id : Id) (body : UpdateUserBody) : EditScript Unit :=
  if body.name = .null || body.requestedStatus = .null then Script.fail .invalidData
  else StaffScript.onDb (Script.execute (StaffDb.updateUser id body.apply))

def updateBody (id : Id) (body : UpdateUserBody) (now : Timestamp) : EditScript SafeUserDto := do
  let before ← StaffScript.onDb (Script.query fun db : StaffDb => db.users.find? id)
  if before.isNone then Script.fail (.staff userNotFound)
  else do
    writeUser id body
    StaffScript.onDb (assignRoles id body.roles)
    Script.when (body.shouldRevokeSessions || body.rolesChanging) (revokeAllUserSessions id now)
    StaffScript.onDb (Script.execute (safeUser · id))

end UsersService

/-! ### Roles -/

/-- A body that nothing has looked at. `value none` is a value of another type than the
declared one; for the permissions, one that is falsy counts as null. -/
structure UpdateRoleBody where
  code : Sent (Option String) := .absent
  name : Sent (Option String) := .absent
  description : Sent (Option String) := .absent
  permissionIds : Sent (Option (List (Option Id))) := .absent

def UpdateRoleBody.ofDto (dto : UpdateRoleDto) : UpdateRoleBody where
  code := .ofOption (dto.code.map some)
  name := .ofOption (dto.name.map some)
  description := .ofOption (dto.description.map some)
  permissionIds := .ofOption (dto.permissionIds.map fun ids => some (ids.map some))

namespace RbacService

/-- Rows with an id that is no string are refused by the client library. -/
def insertGrants (id : Id) (permissionIds : List (Option Id)) : EditScript Unit :=
  match permissionIds.mapM fun permissionId => permissionId with
  | none => Script.fail .invalidData
  | some permissionIds =>
      StaffScript.onDb (Script.execute (StaffDb.createRolePermissions id permissionIds))

def editPermissions (id : Id) : Sent (Option (List (Option Id))) → EditScript Unit
  | .absent => pure ()
  | .null => pure ()
  | .value permissionIds => do
      StaffScript.onDb (Script.modify (StaffDb.deleteRolePermissions id))
      match permissionIds with
      | none => Script.fail .typeError
      | some permissionIds => insertGrants id permissionIds

/-- `dto.code?.toUpperCase()` -/
def upperCode : Sent (Option String) → Except EditError (Option String)
  | .absent => .ok none
  | .null => .ok none
  | .value none => .error .typeError
  | .value (some code) => .ok (some (Js.toUpperCase code))

/-- A column that is not nullable. -/
def requiredText : Sent (Option String) → Except EditError (Option String)
  | .absent => .ok none
  | .null => .error .invalidData
  | .value none => .error .invalidData
  | .value (some text) => .ok (some text)

def optionalText : Sent (Option String) → Except EditError (Sent String)
  | .absent => .ok .absent
  | .null => .ok .null
  | .value none => .error .invalidData
  | .value (some text) => .ok (.value text)

def roleData (body : UpdateRoleBody) : Except EditError (Role → Role) := do
  let code ← upperCode body.code
  let name ← requiredText body.name
  let description ← optionalText body.description
  return fun role =>
    { role with
      code := code.getD role.code
      name := name.getD role.name
      description := description.write role.description }

def writeRole (id : Id) (body : UpdateRoleBody) : EditScript Unit :=
  match roleData body with
  | .error error => Script.fail error
  | .ok data => StaffScript.onDb (Script.execute (StaffDb.updateRole id data))

def updateRoleBody (id : Id) (body : UpdateRoleBody) : EditScript RoleWithPermissions := do
  let before ← StaffScript.onDb (Script.query fun db : StaffDb => db.roles.find? id)
  if before.isNone then
    Script.fail (.staff (.api (.notFound (some "ROLE_NOT_FOUND") "Role not found")))
  else do
    editPermissions id body.permissionIds
    writeRole id body
    StaffScript.onDb (Script.execute (withPermissions · id))

end RbacService

/-! ### Bodies without null -/

section Typed
variable {α β : Type}

/-- A script does to the tables of the staff what another does, and answers the same. -/
def Shows (script : EditScript α) (staff : StaffScript α) : Prop :=
  ∀ world, (script world).1.db = (staff world.db).1 ∧
    (script world).2 = (staff world.db).2.mapError .staff

theorem shows_onDb (staff : StaffScript α) : Shows (StaffScript.onDb staff) staff :=
  fun _ => ⟨rfl, rfl⟩

theorem Shows.bind {script : EditScript α} {staff : StaffScript α} {next : α → EditScript β}
    {staffNext : α → StaffScript β} (h : Shows script staff)
    (hNext : ∀ answer, Shows (next answer) (staffNext answer)) :
    Shows (script >>= next) (staff >>= staffNext) := by
  intro world
  obtain ⟨hDb, hAnswer⟩ := h world
  rcases hScript : script world with ⟨after, error | answer⟩
  · rcases hStaff : staff world.db with ⟨staffAfter, staffError | staffAnswer⟩
    · rw [hScript, hStaff] at hDb hAnswer
      cases hAnswer
      rw [Script.bind_of_error hScript, Script.bind_of_error hStaff]
      exact ⟨hDb, rfl⟩
    · rw [hScript, hStaff] at hAnswer
      cases hAnswer
  · rcases hStaff : staff world.db with ⟨staffAfter, staffError | staffAnswer⟩
    · rw [hScript, hStaff] at hAnswer
      cases hAnswer
    · rw [hScript, hStaff] at hDb hAnswer
      cases hAnswer
      rw [Script.bind_of_ok hScript, Script.bind_of_ok hStaff]
      obtain rfl : after.db = staffAfter := hDb
      exact hNext answer after

theorem shows_fail (error : StaffError) :
    Shows (Script.fail (.staff error) : EditScript α) (Script.fail error) :=
  fun _ => ⟨rfl, rfl⟩

/-- What happens to sessions does not show. -/
theorem Shows.revoking {script : EditScript α} {staff : StaffScript α} (h : Shows script staff)
    (condition : Bool) (userId : Id) (now : Timestamp) :
    Shows (Script.when condition (revokeAllUserSessions userId now) >>= fun _ => script) staff := by
  cases condition with
  | false => exact h
  | true => exact fun world => h _

/-- Both throw alike, and leave the same tables when they do. -/
theorem Shows.thrown_iff {script : EditScript α} {staff : StaffScript α} (h : Shows script staff)
    (world : StaffWorld) (left : StaffDb → Prop) :
    (∀ error, (staff world.db).2 = .error error → left (staff world.db).1) ↔
      ∀ error, (script world).2 = .error error → left (script world).1.db := by
  obtain ⟨hDb, hAnswer⟩ := h world
  rw [hDb, hAnswer]
  cases hStaff : (staff world.db).2 with
  | error error => exact ⟨fun h _ _ => h error rfl, fun h _ _ => h (.staff error) rfl⟩
  | ok answer => exact iff_of_true (fun _ hError => nomatch hError) fun _ hError => nomatch hError

/-- The status that the controller makes of a body without null. -/
def UpdateUserDto.requestedStatus (dto : UpdateUserDto) : Option UserStatus :=
  match dto.active with
  | none => dto.status
  | some true => some .active
  | some false => some .inactive

/-- The status asked for is that of the request. -/
theorem requestedStatus_ofDto (dto : UpdateUserDto) :
    (UpdateUserBody.ofDto dto).requestedStatus = .ofOption dto.requestedStatus := by
  unfold UpdateUserBody.requestedStatus UpdateUserBody.ofDto UpdateUserDto.requestedStatus
  rcases dto.active with _ | _ | _ <;> rfl

/-- An account edit without null is the edit of the service. -/
theorem updateBody_ofDto (id : Id) (dto : UpdateUserDto) (now : Timestamp) :
    Shows (UsersService.updateBody id (.ofDto dto) now) (UsersController.update id dto) := by
  change Shows _ (UsersService.update id dto dto.requestedStatus)
  unfold UsersService.update UsersService.updateBody
  refine (shows_onDb _).bind fun before => ?_
  split_ifs
  · exact shows_fail _
  · refine Shows.bind ?_ fun _ => Shows.bind ?_ fun _ => Shows.revoking (shows_onDb _) _ _ _
    · have hName : (UpdateUserBody.ofDto dto).name ≠ .null := Sent.ofOption_ne_null _
      have hStatus : (UpdateUserBody.ofDto dto).requestedStatus ≠ .null := by
        rw [requestedStatus_ofDto]
        exact Sent.ofOption_ne_null _
      have hApply : (UpdateUserBody.ofDto dto).apply = fun user =>
          { user with
            name := dto.name.getD user.name
            phone := dto.phone.or user.phone
            status := dto.requestedStatus.getD user.status } := by
        funext user
        simp only [UpdateUserBody.apply, requestedStatus_ofDto, Sent.value?_ofOption]
        simp only [UpdateUserBody.ofDto, Sent.value?_ofOption, Sent.write_ofOption]
      rw [UsersService.writeUser, if_neg (by simp [hName, hStatus]), hApply]
      exact shows_onDb _
    · have hRoles : (UpdateUserBody.ofDto dto).roles =
          { roleIds := dto.roleIds, role := dto.role } := by
        simp only [UpdateUserBody.roles, UpdateUserBody.ofDto, Sent.value?_ofOption]
      rw [hRoles]
      exact shows_onDb _

/-- Given permissions are inserted as they are. -/
theorem insertGrants_some (id : Id) (permissionIds : List Id) :
    RbacService.insertGrants id (permissionIds.map some) =
      StaffScript.onDb (Script.execute (StaffDb.createRolePermissions id permissionIds)) := by
  have hIds : (permissionIds.map some).mapM (fun permissionId => permissionId) =
      some permissionIds := by
    induction permissionIds with
    | nil => rfl
    | cons first rest ih =>
        rw [List.map_cons, List.mapM_cons, ih]
        rfl
  rw [RbacService.insertGrants, hIds]

/-- A role edit without null, and with values of the declared types, is the edit of the service. -/
theorem updateRoleBody_ofDto (id : Id) (dto : UpdateRoleDto) :
    Shows (RbacService.updateRoleBody id (.ofDto dto)) (RbacService.updateRole id dto) := by
  unfold RbacService.updateRoleBody RbacService.updateRole
  refine (shows_onDb _).bind fun before => ?_
  split_ifs
  · exact shows_fail _
  · refine Shows.bind ?_ fun _ => Shows.bind ?_ fun _ => shows_onDb _
    · unfold RbacService.editPermissions RbacService.replacePermissions UpdateRoleBody.ofDto
      cases dto.permissionIds with
      | none => exact fun _ => ⟨rfl, rfl⟩
      | some permissionIds =>
          refine (shows_onDb _).bind fun _ => ?_
          change Shows (RbacService.insertGrants id (permissionIds.map some)) _
          rw [insertGrants_some]
          exact shows_onDb _
    · have hData : RbacService.roleData (.ofDto dto) = .ok fun role =>
          { role with
            name := dto.name.getD role.name
            description := dto.description.or role.description
            code := (dto.code.map Js.toUpperCase).getD role.code } := by
        unfold RbacService.roleData UpdateRoleBody.ofDto
        rcases dto.code with _ | code <;> rcases dto.name with _ | name <;>
          rcases dto.description with _ | description <;> rfl
      rw [RbacService.writeRole, hData]
      exact shows_onDb _

end Typed

end PropertyTax
