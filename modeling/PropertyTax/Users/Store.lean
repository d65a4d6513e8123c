import PropertyTax.Library.JsText
import PropertyTax.Library.Scripts
import PropertyTax.Store

/-! The tables of staff accounts and roles, and the single statements on them. -/
namespace PropertyTax
open KeyedTable Scripts

inductive UserStatus where
  | active | inactive | suspended
deriving DecidableEq

structure StaffUser where
  id : Id
  name : String
  email : String
  phone : Option String := none
  passwordHash : Option String := none
  status : UserStatus := .active
deriving DecidableEq

structure Role where
  id : Id
  code : String
  name : String
  description : Option String := none
  isSystem : Bool := false
deriving DecidableEq

structure Permission where
  id : Id
  code : String
deriving DecidableEq

structure UserRole where
  userId : Id
  roleId : Id
deriving DecidableEq

structure RolePermission where
  roleId : Id
  permissionId : Id
deriving DecidableEq

instance : KeyedRow StaffUser Id where
  key := StaffUser.id
  clash u v := decide (u.id = v.id) || decide (u.email = v.email)
  clash_symm u v := by simp only [eq_comm]
  clash_of_key u v h := by simp [h]

instance : KeyedRow Role Id where
  key := Role.id
  clash r s := decide (r.id = s.id) || decide (r.code = s.code)
  clash_symm r s := by simp only [eq_comm]
  clash_of_key r s h := by simp [h]

instance : KeyedRow Permission Id where
  key := Permission.id
  clash p q := decide (p.id = q.id) || decide (p.code = q.code)
  clash_symm p q := by simp only [eq_comm]
  clash_of_key p q h := by simp [h]

instance : KeyedRow UserRole UserRole where
  key := id
  clash r s := decide (r = s)
  clash_symm r s := by simp only [eq_comm]
  clash_of_key r s h := decide_eq_true h

instance : KeyedRow RolePermission RolePermission where
  key := id
  clash r s := decide (r = s)
  clash_symm r s := by simp only [eq_comm]
  clash_of_key r s h := decide_eq_true h

structure StaffDb where
  users : KeyedTable StaffUser
  roles : KeyedTable Role
  permissions : KeyedTable Permission
  userRoles : KeyedTable UserRole
  rolePermissions : KeyedTable RolePermission
  nextId : Id

/-- Why a call throws. -/
inductive StaffError where
  | api (error : ApiError)
  | unauthorized (message : String)
  | refused (refusal : Refusal)
  | foreignKeyViolation
deriving DecidableEq

abbrev StaffScript (α : Type) := Script StaffDb StaffError α

namespace StaffDb

/-! ### Reads -/

def rolesOf (db : StaffDb) (userId : Id) : List Role :=
  (db.userRoles.rows.filter fun row => row.userId = userId).filterMap fun row =>
    db.roles.find? row.roleId

def permissionsOf (db : StaffDb) (roleId : Id) : List Permission :=
  (db.rolePermissions.rows.filter fun row => row.roleId = roleId).filterMap fun row =>
    db.permissions.find? row.permissionId

def roleByCode? (db : StaffDb) (code : String) : Option Role :=
  db.roles.findFirst? fun role => role.code = code

/-! ### Writes -/

/-- `createMany` of a join table, which is refused as a whole. -/
def insertAll {ρ : Type} [KeyedRow ρ ρ] (table : KeyedTable ρ) (rows : List ρ) :
    Except Refusal (KeyedTable ρ) :=
  rows.foldlM (fun table row => table.insert row) table

/-- The same with `skipDuplicates`. -/
def insertMissing {ρ : Type} [DecidableEq ρ] [KeyedRow ρ ρ] (table : KeyedTable ρ)
    (rows : List ρ) : Except Refusal (KeyedTable ρ) :=
  rows.foldlM (fun table row => if row ∈ table.rows then .ok table else table.insert row) table

def createUser (user : Id → StaffUser) (db : StaffDb) : Except StaffError (StaffDb × Id) := do
  let users ← (db.users.insert (user db.nextId)).mapError .refused
  return ({ db with users, nextId := db.nextId + 1 }, db.nextId)

def updateUser (id : Id) (data : StaffUser → StaffUser) (db : StaffDb) :
    Except StaffError (StaffDb × Unit) := do
  let users ← (db.users.update id data).mapError .refused
  return ({ db with users }, ())

def deleteUserRoles (userId : Id) (db : StaffDb) : StaffDb :=
  { db with userRoles := db.userRoles.restrict fun row => row.userId ≠ userId }

/-- The insertion is given apart: with or without `skipDuplicates`. -/
def createUserRoles
    (insert : KeyedTable UserRole → List UserRole → Except Refusal (KeyedTable UserRole))
    (userId : Id) (roleIds : List Id) (db : StaffDb) : Except StaffError (StaffDb × Unit) :=
  if (db.users.find? userId).isNone || roleIds.any fun id => (db.roles.find? id).isNone then
    .error .foreignKeyViolation
  else do
    let userRoles ← (insert db.userRoles (roleIds.map fun roleId => ⟨userId, roleId⟩)).mapError
      .refused
    return ({ db with userRoles }, ())

def deleteRolePermissions (roleId : Id) (db : StaffDb) : StaffDb :=
  { db with rolePermissions := db.rolePermissions.restrict fun row => row.roleId ≠ roleId }

def createRolePermissions (roleId : Id) (permissionIds : List Id) (db : StaffDb) :
    Except StaffError (StaffDb × Unit) :=
  if (db.roles.find? roleId).isNone ||
      permissionIds.any fun id => (db.permissions.find? id).isNone then
    .error .foreignKeyViolation
  else do
    let rolePermissions ←
      (insertAll db.rolePermissions (permissionIds.map fun permissionId =>
        ⟨roleId, permissionId⟩)).mapError .refused
    return ({ db with rolePermissions }, ())

/-- `role.create`, with the permissions nested in it. -/
def createRole (role : Id → Role) (permissionIds : List Id) (db : StaffDb) :
    Except StaffError (StaffDb × Id) := do
  let roles ← (db.roles.insert (role db.nextId)).mapError .refused
  let (after, _) ← createRolePermissions db.nextId permissionIds
    { db with roles, nextId := db.nextId + 1 }
  return (after, db.nextId)

def updateRole (id : Id) (data : Role → Role) (db : StaffDb) :
    Except StaffError (StaffDb × Unit) := do
  let roles ← (db.roles.update id data).mapError .refused
  return ({ db with roles }, ())

/-- The rows that refer to the role go with it. -/
def deleteRole (id : Id) (db : StaffDb) : StaffDb :=
  { db with
    roles := db.roles.restrict fun role => role.id ≠ id
    userRoles := db.userRoles.restrict fun row => row.roleId ≠ id
    rolePermissions := db.rolePermissions.restrict fun row => row.roleId ≠ id }

end StaffDb

end PropertyTax
