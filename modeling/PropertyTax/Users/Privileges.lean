import PropertyTax.Library.Runs
import PropertyTax.Users.Service

/-! Who can give rights to whom. The guards look at the code of the endpoint, not
at the roles that a call assigns nor at the account it is about, so what accounts
gain is decided by the calls that actors choose to make. -/
namespace PropertyTax
open KeyedTable Runs Scripts

/-! ### Rights -/

namespace StaffDb

def IsSuperAdmin (db : StaffDb) (userId : Id) : Prop := "SUPER_ADMIN" ∈ db.roleCodes userId

instance (db : StaffDb) (userId : Id) : Decidable (db.IsSuperAdmin userId) :=
  inferInstanceAs (Decidable ("SUPER_ADMIN" ∈ db.roleCodes userId))

/-- A user has the codes of the roles linked to them. -/
theorem mem_roleCodes_iff {db : StaffDb} {userId : Id} {code : String} :
    code ∈ db.roleCodes userId ↔
      ∃ role ∈ db.roles.rows, ⟨userId, role.id⟩ ∈ db.userRoles.rows ∧ role.code = code := by
  simp only [roleCodes, rolesOf, List.mem_map, List.mem_filterMap, List.mem_filter,
    decide_eq_true_eq]
  constructor
  · rintro ⟨role, ⟨row, ⟨hRow, rfl⟩, hFound⟩, rfl⟩
    obtain ⟨hRole, hId⟩ := find?_eq_some_iff.mp hFound
    exact ⟨role, hRole, (show role.id = row.roleId from hId) ▸ hRow, rfl⟩
  · rintro ⟨role, hRole, hRow, rfl⟩
    exact ⟨role, ⟨⟨userId, role.id⟩, ⟨hRow, rfl⟩, find?_eq_some_iff.mpr ⟨hRole, rfl⟩⟩, rfl⟩

/-- A role has the permissions linked to it. -/
theorem mem_permissionsOf_iff {db : StaffDb} {roleId : Id} {permission : Permission} :
    permission ∈ db.permissionsOf roleId ↔ permission ∈ db.permissions.rows ∧
      ⟨roleId, permission.id⟩ ∈ db.rolePermissions.rows := by
  simp only [permissionsOf, List.mem_filterMap, List.mem_filter, decide_eq_true_eq]
  constructor
  · rintro ⟨row, ⟨hRow, rfl⟩, hFound⟩
    obtain ⟨hPermission, hId⟩ := find?_eq_some_iff.mp hFound
    exact ⟨hPermission, (show permission.id = row.permissionId from hId) ▸ hRow⟩
  · rintro ⟨hPermission, hRow⟩
    exact ⟨⟨roleId, permission.id⟩, ⟨hRow, rfl⟩, find?_eq_some_iff.mpr ⟨hPermission, rfl⟩⟩

/-- A user has the permissions of their roles. -/
theorem mem_permissionCodes_iff {db : StaffDb} {userId : Id} {code : String} :
    code ∈ db.permissionCodes userId ↔
      ∃ role ∈ db.roles.rows, ⟨userId, role.id⟩ ∈ db.userRoles.rows ∧
        ∃ permission ∈ db.permissionsOf role.id, permission.code = code := by
  simp only [permissionCodes, rolesOf, List.mem_eraseDups, List.mem_flatMap, List.mem_filterMap,
    List.mem_filter, List.mem_map, decide_eq_true_eq]
  constructor
  · rintro ⟨role, ⟨row, ⟨hRow, rfl⟩, hFound⟩, hPermission⟩
    obtain ⟨hRole, hId⟩ := find?_eq_some_iff.mp hFound
    exact ⟨role, hRole, (show role.id = row.roleId from hId) ▸ hRow, hPermission⟩
  · rintro ⟨role, hRole, hRow, hPermission⟩
    exact ⟨role, ⟨⟨userId, role.id⟩, ⟨hRow, rfl⟩, find?_eq_some_iff.mpr ⟨hRole, rfl⟩⟩, hPermission⟩

/-- The ids that rows refer to were given out. -/
structure References (db : StaffDb) : Prop where
  users : ∀ user ∈ db.users.rows, user.id < db.nextId
  roles : ∀ role ∈ db.roles.rows, role.id < db.nextId
  userRoles : ∀ row ∈ db.userRoles.rows, row.userId < db.nextId ∧ row.roleId < db.nextId
  rolePermissions : ∀ row ∈ db.rolePermissions.rows, row.roleId < db.nextId

end StaffDb

/-- The rows that are new, or changed, are of the given kinds. -/
structure RightsChanged (assigned : UserRole → Prop) (granted : RolePermission → Prop)
    (renamed : Id → String → Prop) (db db' : StaffDb) : Prop where
  references : db'.References
  nextId : db.nextId ≤ db'.nextId
  permissions : db'.permissions = db.permissions
  userRoles : ∀ row ∈ db'.userRoles.rows, row ∈ db.userRoles.rows ∨ assigned row
  rolePermissions : ∀ row ∈ db'.rolePermissions.rows, row ∈ db.rolePermissions.rows ∨ granted row
  roles : ∀ role ∈ db'.roles.rows,
    (∃ old ∈ db.roles.rows, old.id = role.id ∧ old.code = role.code) ∨
      renamed role.id role.code
  oldRoles : ∀ role ∈ db'.roles.rows, role.id < db.nextId → ∃ old ∈ db.roles.rows, old.id = role.id

section JoinTables
variable {ρ : Type} [KeyedRow ρ ρ] {table table' : KeyedTable ρ} {rows : List ρ}

/-- Row by row nothing else is added. -/
theorem mem_foldlM_insert {step : KeyedTable ρ → ρ → Except Refusal (KeyedTable ρ)}
    (hStep : ∀ table table' row, step table row = .ok table' →
      ∀ r ∈ table'.rows, r ∈ table.rows ∨ r = row)
    (h : rows.foldlM step table = .ok table') :
    ∀ row ∈ table'.rows, row ∈ table.rows ∨ row ∈ rows := by
  induction rows generalizing table with
  | nil =>
      cases h
      exact fun row hRow => .inl hRow
  | cons first rest ih =>
      obtain ⟨middle, hFirst, hRest⟩ := bind_ok h
      intro row hRow
      rcases ih hRest row hRow with hMiddle | hLater
      · rcases hStep table middle first hFirst row hMiddle with hOld | rfl
        · exact .inl hOld
        · exact .inr List.mem_cons_self
      · exact .inr (List.mem_cons_of_mem _ hLater)

/-- After an insertion, rows are from before or inserted. -/
theorem mem_insertAll (h : StaffDb.insertAll table rows = .ok table') :
    ∀ row ∈ table'.rows, row ∈ table.rows ∨ row ∈ rows :=
  mem_foldlM_insert (fun _ _ _ hInsert r hr => (mem_insert hInsert r).mp hr) h

/-- After missing rows are inserted, rows are from before or inserted. -/
theorem mem_insertMissing [DecidableEq ρ] (h : StaffDb.insertMissing table rows = .ok table') :
    ∀ row ∈ table'.rows, row ∈ table.rows ∨ row ∈ rows := by
  refine mem_foldlM_insert (fun table table' row hStep r hr => ?_) h
  split_ifs at hStep with hPresent
  · cases hStep
    exact .inl hr
  · exact (mem_insert hStep r).mp hr

end JoinTables

/-! ### What the statements change -/

namespace RightsChanged
variable {assigned : UserRole → Prop} {granted : RolePermission → Prop} {renamed : Id → String → Prop}
  {db state : StaffDb}

theorem refl (h : db.References) : RightsChanged assigned granted renamed db db where
  references := h
  nextId := le_rfl
  permissions := rfl
  userRoles _ hRow := .inl hRow
  rolePermissions _ hRow := .inl hRow
  roles role hRole := .inl ⟨role, hRole, rfl, rfl⟩
  oldRoles role hRole _ := ⟨role, hRole, rfl⟩

variable (h : RightsChanged assigned granted renamed db state) {after : StaffDb} {id : Id}
include h

/-- Writing a user changes no rights. -/
theorem updateUser {data : StaffUser → StaffUser} (hData : ∀ user, (data user).id = user.id)
    {answer : Unit} (hUpdate : state.updateUser id data = .ok (after, answer)) :
    RightsChanged assigned granted renamed db after := by
  obtain ⟨users, hUsers, hReturn⟩ := bind_ok hUpdate
  cases hReturn
  refine { h with references := { h.references with users := fun user hUser => ?_ } }
  rcases (mem_update (mapError_ok hUsers) user).mp hUser with ⟨hOld, -⟩ | ⟨old, hOld, -, rfl⟩
  · exact h.references.users user hOld
  · rw [hData]
    exact h.references.users old hOld

/-- Deleting a user's roles gives no rights. -/
theorem deleteUserRoles : RightsChanged assigned granted renamed db (state.deleteUserRoles id) :=
  { h with
    references := { h.references with
      userRoles := fun row hRow => h.references.userRoles row (List.mem_of_mem_filter hRow) }
    userRoles := fun row hRow => h.userRoles row (List.mem_of_mem_filter hRow) }

/-- Creating a user's roles gives those that are assigned. -/
theorem createUserRoles
    {insert : KeyedTable UserRole → List UserRole → Except Refusal (KeyedTable UserRole)}
    (hInsert : ∀ table rows table', insert table rows = .ok table' →
      ∀ row ∈ table'.rows, row ∈ table.rows ∨ row ∈ rows)
    {roleIds : List Id} (hAssigned : ∀ roleId ∈ roleIds, assigned ⟨id, roleId⟩) {answer : Unit}
    (hCreate : state.createUserRoles insert id roleIds = .ok (after, answer)) :
    RightsChanged assigned granted renamed db after := by
  unfold StaffDb.createUserRoles at hCreate
  split_ifs at hCreate with hMissing
  simp only [Bool.or_eq_true, List.any_eq_true, not_or, not_exists, not_and,
    Option.isNone_iff_eq_none] at hMissing
  obtain ⟨hUser, hRoles⟩ := hMissing
  obtain ⟨userRoles, hRows, hReturn⟩ := bind_ok hCreate
  cases hReturn
  have hNew : ∀ row ∈ userRoles.rows, row ∈ state.userRoles.rows ∨
      ∃ roleId ∈ roleIds, (⟨id, roleId⟩ : UserRole) = row := fun row hRow =>
    (hInsert _ _ _ (mapError_ok hRows) row hRow).imp_right List.mem_map.mp
  refine { h with references := { h.references with userRoles := fun row hRow => ?_ },
                  userRoles := fun row hRow => ?_ }
  · rcases hNew row hRow with hOld | ⟨roleId, hRoleId, rfl⟩
    · exact h.references.userRoles row hOld
    · obtain ⟨user, hFound⟩ := Option.ne_none_iff_exists'.mp hUser
      obtain ⟨role, hFoundRole⟩ := Option.ne_none_iff_exists'.mp (hRoles roleId hRoleId)
      obtain ⟨hUserMem, hUserId⟩ := find?_eq_some_iff.mp hFound
      obtain ⟨hRoleMem, hRoleKey⟩ := find?_eq_some_iff.mp hFoundRole
      exact ⟨hUserId ▸ h.references.users user hUserMem,
        hRoleKey ▸ h.references.roles role hRoleMem⟩
  · rcases hNew row hRow with hOld | ⟨roleId, hRoleId, rfl⟩
    · exact h.userRoles row hOld
    · exact .inr (hAssigned roleId hRoleId)

/-- A created user has no rights yet. -/
theorem createUser {user : Id → StaffUser} (hData : ∀ id, (user id).id = id)
    (hCreate : state.createUser user = .ok (after, id)) :
    RightsChanged assigned granted renamed db after ∧ id = state.nextId := by
  obtain ⟨users, hUsers, hReturn⟩ := bind_ok hCreate
  cases hReturn
  have hStep : state.nextId ≤ state.nextId + 1 := Nat.le_succ _
  refine ⟨{ h with
    nextId := h.nextId.trans hStep
    references :=
      { users := fun row hRow => ?_
        roles := fun role hRole => (h.references.roles role hRole).trans_le hStep
        userRoles := fun row hRow => ?_
        rolePermissions := fun row hRow =>
          (h.references.rolePermissions row hRow).trans_le hStep } }, rfl⟩
  · rcases (mem_insert (mapError_ok hUsers) row).mp hRow with hOld | rfl
    · exact (h.references.users row hOld).trans_le hStep
    · rw [hData]
      exact Nat.lt_succ_self _
  · obtain ⟨hUser, hRole⟩ := h.references.userRoles row hRow
    exact ⟨hUser.trans_le hStep, hRole.trans_le hStep⟩

/-- Deleting a role's permissions gives no rights. -/
theorem deleteRolePermissions :
    RightsChanged assigned granted renamed db (state.deleteRolePermissions id) :=
  { h with
    references := { h.references with
      rolePermissions := fun row hRow =>
        h.references.rolePermissions row (List.mem_of_mem_filter hRow) }
    rolePermissions := fun row hRow => h.rolePermissions row (List.mem_of_mem_filter hRow) }

/-- Creating a role's permissions gives those that are granted. -/
theorem createRolePermissions {permissionIds : List Id}
    (hGranted : ∀ permissionId ∈ permissionIds, granted ⟨id, permissionId⟩) {answer : Unit}
    (hCreate : state.createRolePermissions id permissionIds = .ok (after, answer)) :
    RightsChanged assigned granted renamed db after := by
  unfold StaffDb.createRolePermissions at hCreate
  split_ifs at hCreate with hMissing
  simp only [Bool.or_eq_true, not_or, Option.isNone_iff_eq_none] at hMissing
  obtain ⟨rolePermissions, hRows, hReturn⟩ := bind_ok hCreate
  cases hReturn
  have hNew : ∀ row ∈ rolePermissions.rows, row ∈ state.rolePermissions.rows ∨
      ∃ permissionId ∈ permissionIds, (⟨id, permissionId⟩ : RolePermission) = row :=
    fun row hRow => (mem_insertAll (mapError_ok hRows) row hRow).imp_right List.mem_map.mp
  refine { h with references := { h.references with rolePermissions := fun row hRow => ?_ },
                  rolePermissions := fun row hRow => ?_ }
  · rcases hNew row hRow with hOld | ⟨permissionId, -, rfl⟩
    · exact h.references.rolePermissions row hOld
    · obtain ⟨role, hFound⟩ := Option.ne_none_iff_exists'.mp hMissing.1
      obtain ⟨hRole, hKey⟩ := find?_eq_some_iff.mp hFound
      exact hKey ▸ h.references.roles role hRole
  · rcases hNew row hRow with hOld | ⟨permissionId, hId, rfl⟩
    · exact h.rolePermissions row hOld
    · exact .inr (hGranted permissionId hId)

/-- Writing a role gives no rights, but for a new code. -/
theorem updateRole {data : Role → Role} (hData : ∀ role, (data role).id = role.id)
    (hRenamed : ∀ role, (data role).code = role.code ∨ renamed id (data role).code)
    {answer : Unit} (hUpdate : state.updateRole id data = .ok (after, answer)) :
    RightsChanged assigned granted renamed db after := by
  obtain ⟨roles, hRoles, hReturn⟩ := bind_ok hUpdate
  cases hReturn
  have hRow := mem_update (mapError_ok hRoles)
  refine { h with references := { h.references with roles := fun role hRole => ?_ },
                  roles := fun role hRole => ?_, oldRoles := fun role hRole hBelow => ?_ }
  · rcases (hRow role).mp hRole with ⟨hOld, -⟩ | ⟨old, hOld, -, rfl⟩
    · exact h.references.roles role hOld
    · rw [hData]
      exact h.references.roles old hOld
  · rcases (hRow role).mp hRole with ⟨hOld, -⟩ | ⟨old, hOld, hKey, rfl⟩
    · exact h.roles role hOld
    · rw [hData]
      rcases hRenamed old with hCode | hNew
      · rw [hCode]
        exact h.roles old hOld
      · exact .inr ((show old.id = id from hKey) ▸ hNew)
  · rcases (hRow role).mp hRole with ⟨hOld, -⟩ | ⟨old, hOld, -, rfl⟩
    · exact h.oldRoles role hOld hBelow
    · rw [hData] at hBelow ⊢
      exact h.oldRoles old hOld hBelow

/-- A created role has the permissions that are granted. -/
theorem createRole {role : Id → Role} (hData : ∀ id, (role id).id = id)
    {permissionIds : List Id} (hRenamed : renamed state.nextId (role state.nextId).code)
    (hGranted : ∀ permissionId ∈ permissionIds, granted ⟨state.nextId, permissionId⟩)
    (hCreate : state.createRole role permissionIds = .ok (after, id)) :
    RightsChanged assigned granted renamed db after := by
  obtain ⟨roles, hRoles, hRest⟩ := bind_ok hCreate
  obtain ⟨result, hPermissions, hReturn⟩ := bind_ok hRest
  have hStep : state.nextId ≤ state.nextId + 1 := Nat.le_succ _
  have hInserted : RightsChanged assigned granted renamed db
      { state with roles, nextId := state.nextId + 1 } := by
    refine { h with
      nextId := h.nextId.trans hStep
      references :=
        { users := fun user hUser => (h.references.users user hUser).trans_le hStep
          roles := fun row hRow => ?_
          userRoles := fun row hRow => ?_
          rolePermissions := fun row hRow =>
            (h.references.rolePermissions row hRow).trans_le hStep }
      roles := fun row hRow => ?_
      oldRoles := fun row hRow hBelow => ?_ }
    · rcases (mem_insert (mapError_ok hRoles) row).mp hRow with hOld | rfl
      · exact (h.references.roles row hOld).trans_le hStep
      · rw [hData]
        exact Nat.lt_succ_self _
    · obtain ⟨hUser, hRole⟩ := h.references.userRoles row hRow
      exact ⟨hUser.trans_le hStep, hRole.trans_le hStep⟩
    · rcases (mem_insert (mapError_ok hRoles) row).mp hRow with hOld | rfl
      · exact h.roles row hOld
      · rw [hData]
        exact .inr hRenamed
    · rcases (mem_insert (mapError_ok hRoles) row).mp hRow with hOld | rfl
      · exact h.oldRoles row hOld hBelow
      · rw [hData] at hBelow
        exact absurd h.nextId hBelow.not_ge
  cases hReturn
  exact hInserted.createRolePermissions hGranted hPermissions

/-- Deleting a role gives no rights. -/
theorem deleteRole : RightsChanged assigned granted renamed db (state.deleteRole id) :=
  { h with
    references := { h.references with
      roles := fun role hRole => h.references.roles role (List.mem_of_mem_filter hRole)
      userRoles := fun row hRow => h.references.userRoles row (List.mem_of_mem_filter hRow)
      rolePermissions := fun row hRow =>
        h.references.rolePermissions row (List.mem_of_mem_filter hRow) }
    userRoles := fun row hRow => h.userRoles row (List.mem_of_mem_filter hRow)
    rolePermissions := fun row hRow => h.rolePermissions row (List.mem_of_mem_filter hRow)
    roles := fun role hRole => h.roles role (List.mem_of_mem_filter hRole)
    oldRoles := fun role hRole => h.oldRoles role (List.mem_of_mem_filter hRole) }

end RightsChanged

/-! ### What the calls change -/

def rolesToAssign (db : StaffDb) (roleIds : Option (List Id))
    (role : Option AssignableStaffRoleCode) : List Id :=
  match UsersService.resolveRoleIds db roleIds role with
  | .ok roleIds => roleIds
  | .error _ => []

namespace StaffCall

/-- The roles that the call may assign to accounts. -/
def assigned (db : StaffDb) : StaffCall → UserRole → Prop
  | createUser dto, row =>
      row.userId = db.nextId ∧ row.roleId ∈ rolesToAssign db dto.roleIds dto.role
  | updateUser id dto, row => row.userId = id ∧ (dto.roleIds.isSome || dto.role.isSome) = true ∧
      row.roleId ∈ rolesToAssign db dto.roleIds dto.role
  | _, _ => False

/-- The permissions that the call may add to roles. -/
def granted (db : StaffDb) : StaffCall → RolePermission → Prop
  | createRole _, row => row.roleId = db.nextId
  | updateRole id dto, row => row.roleId = id ∧ row.permissionId ∈ dto.permissionIds.getD []
  | _, _ => False

/-- The codes that the call may give to roles. -/
def renamed (db : StaffDb) : StaffCall → Id → String → Prop
  | createRole _, id, _ => id = db.nextId
  | updateRole roleId dto, id, code => id = roleId ∧ dto.code.map Js.toUpperCase = some code
  | _, _, _ => False

def Changes (call : StaffCall) (db : StaffDb) : StaffDb → Prop :=
  RightsChanged (call.assigned db) (call.granted db) (call.renamed db) db

end StaffCall

section Calls
variable {db : StaffDb}

/-- A statement keeps what its answers keep. -/
theorem preserves_execute {α : Type} {statement : StaffDb → Except StaffError (StaffDb × α)}
    {invariant : StaffDb → Prop}
    (h : ∀ state after answer, invariant state → statement state = .ok (after, answer) →
      invariant after) : Preserves (Script.execute statement) invariant :=
  Meets.execute h fun _ _ hState _ => hState

/-- Answering with a user writes nothing. -/
theorem safeUser_state {id : Id} {state after : StaffDb} {user : SafeUserDto}
    (h : UsersService.safeUser state id = .ok (after, user)) : after = state := by
  unfold UsersService.safeUser at h
  split at h
  · cases h
    rfl
  · cases h

/-- So it keeps everything. -/
theorem safeUser_preserves {id : Id} {invariant : StaffDb → Prop} :
    Preserves (Script.execute (UsersService.safeUser · id)) invariant :=
  preserves_execute fun _ _ _ hState h => safeUser_state h ▸ hState

/-- Answering with a role keeps everything. -/
theorem withPermissions_preserves {id : Id} {invariant : StaffDb → Prop} :
    Preserves (Script.execute (RbacService.withPermissions · id)) invariant := by
  refine preserves_execute fun state after role hState h => ?_
  unfold RbacService.withPermissions at h
  split at h
  · cases h
    exact hState
  · cases h

theorem resolveRoleIds_congr {state : StaffDb} (h : state.roles = db.roles)
    (roleIds : Option (List Id)) (role : Option AssignableStaffRoleCode) :
    UsersService.resolveRoleIds state roleIds role =
      UsersService.resolveRoleIds db roleIds role := by
  simp only [UsersService.resolveRoleIds, StaffDb.roleByCode?, h]

section Unchanged
variable {call : StaffCall} (hRefs : db.References)
include hRefs

theorem changes_refl {state : StaffDb} (h : state = db) : call.Changes db state := by
  rw [h]
  exact RightsChanged.refl hRefs

theorem fail_changes {α : Type} {pre : StaffDb → Prop} (hPre : ∀ state, pre state → state = db)
    (error : StaffError) :
    Meets (Script.fail error : StaffScript α) pre (fun _ => call.Changes db) (call.Changes db) :=
  Meets.fail fun state hState => changes_refl hRefs (hPre state hState)

end Unchanged

theorem createWithRoles_changes {call : StaffCall} {user : Id → StaffUser} {roleIds : List Id}
    {after : StaffDb} {answer : SafeUserDto} (hRefs : db.References)
    (hData : ∀ id, (user id).id = id) (hAssigned : ∀ roleId ∈ roleIds,
      call.assigned db ⟨db.nextId, roleId⟩)
    (h : UsersService.createWithRoles user roleIds db = .ok (after, answer)) :
    call.Changes db after := by
  obtain ⟨created, hCreate, hRest⟩ := bind_ok h
  obtain ⟨hCreated, hId⟩ := (RightsChanged.refl hRefs).createUser hData hCreate
  obtain ⟨assigned, hAssign, hAnswer⟩ := bind_ok hRest
  rw [safeUser_state hAnswer]
  unfold UsersService.assignNew at hAssign
  by_cases hEmpty : roleIds.isEmpty
  · rw [if_pos hEmpty] at hAssign
    cases hAssign
    exact hCreated
  · rw [if_neg hEmpty] at hAssign
    exact hCreated.createUserRoles (fun _ _ _ => mem_insertMissing)
      (fun roleId hRoleId => hId ▸ hAssigned roleId hRoleId) hAssign

theorem createUser_changes (hRefs : db.References) (hashPassword : String → String)
    (dto : CreateUserDto) :
    Meets (UsersController.create hashPassword dto) (· = db)
      (fun _ => (StaffCall.createUser dto).Changes db) ((StaffCall.createUser dto).Changes db) := by
  unfold UsersController.create
  cases dto.password.or dto.initialPassword with
  | none => exact fail_changes hRefs (fun _ => id) _
  | some plainPassword =>
      dsimp only
      split_ifs
      · exact fail_changes hRefs (fun _ => id) _
      · refine Meets.bind_query fun existing => ?_
        split_ifs
        · exact fail_changes hRefs (fun _ => And.right) _
        · refine Meets.bind_query fun resolved => ?_
          cases resolved with
          | error error => exact fail_changes hRefs (fun _ h => h.2.2) _
          | ok roleIds =>
              refine Meets.execute ?_ fun state _ hState _ => changes_refl hRefs hState.2.2
              rintro state after answer ⟨hResolved, -, rfl⟩ hCreate
              refine createWithRoles_changes hRefs (fun _ => rfl) (fun roleId hRoleId => ?_) hCreate
              refine ⟨rfl, ?_⟩
              rw [rolesToAssign, hResolved]
              exact hRoleId

theorem replaceRoles_changes {call : StaffCall} {id : Id} {roleIds : List Id}
    (hAssigned : ∀ roleId ∈ roleIds, call.assigned db ⟨id, roleId⟩) :
    Preserves (UsersService.replaceRoles id roleIds) (call.Changes db) := by
  refine Preserves.bind (Meets.modify fun state hState => RightsChanged.deleteUserRoles hState)
    fun _ => ?_
  split_ifs
  · exact Meets.pure fun _ hState => hState
  · exact preserves_execute fun state after answer hState hCreate =>
      RightsChanged.createUserRoles hState (fun _ _ _ => mem_insertAll) hAssigned hCreate

theorem updateUser_changes (hRefs : db.References) (id : Id) (dto : UpdateUserDto) :
    Meets (UsersController.update id dto) (· = db)
      (fun _ => (StaffCall.updateUser id dto).Changes db)
      ((StaffCall.updateUser id dto).Changes db) := by
  refine Meets.bind_query fun before => ?_
  split_ifs
  · exact fail_changes hRefs (fun _ => And.right) _
  · have hUser : ∀ data : StaffUser → StaffUser, (∀ user, (data user).id = user.id) →
        Meets (Script.execute (StaffDb.updateUser id data))
          (fun state => state.users.find? id = before ∧ state = db)
          (fun _ state => (StaffCall.updateUser id dto).Changes db state ∧ state.roles = db.roles)
          ((StaffCall.updateUser id dto).Changes db) := by
      intro data hData
      refine Meets.execute ?_ fun state _ hState _ => changes_refl hRefs hState.2
      rintro state after answer ⟨-, rfl⟩ hUpdate
      refine ⟨(RightsChanged.refl hRefs).updateUser hData hUpdate, ?_⟩
      obtain ⟨users, -, hReturn⟩ := bind_ok hUpdate
      cases hReturn
      rfl
    have hAssign : Meets (UsersService.assignRoles id dto)
        (fun state => (StaffCall.updateUser id dto).Changes db state ∧ state.roles = db.roles)
        (fun _ => (StaffCall.updateUser id dto).Changes db)
        ((StaffCall.updateUser id dto).Changes db) := by
      unfold UsersService.assignRoles
      split_ifs with hGiven
      · refine Meets.bind_query fun resolved => ?_
        cases resolved with
        | error error => exact Meets.fail fun _ hState => hState.2.1
        | ok roleIds =>
            rintro state ⟨hResolved, hState, hRoles⟩
            have hAssigned : ∀ roleId ∈ roleIds,
                (StaffCall.updateUser id dto).assigned db ⟨id, roleId⟩ := by
              intro roleId hRoleId
              refine ⟨rfl, hGiven, ?_⟩
              rw [rolesToAssign, ← resolveRoleIds_congr hRoles, hResolved]
              exact hRoleId
            exact replaceRoles_changes hAssigned state hState
      · exact Meets.pure fun _ hState => hState.1
    exact Meets.bind (hUser _ fun _ => rfl) fun _ => Meets.bind hAssign fun _ =>
      safeUser_preserves

theorem deactivate_changes (hRefs : db.References) (id : Id) (actor : AuthUser) :
    Meets (UsersService.deactivate id actor) (· = db)
      (fun _ => (StaffCall.deactivate id).Changes db) ((StaffCall.deactivate id).Changes db) := by
  unfold UsersService.deactivate
  split_ifs
  · exact fail_changes hRefs (fun _ hState => hState) _
  · refine Meets.bind_query fun before => ?_
    split_ifs
    · exact fail_changes hRefs (fun _ => And.right) _
    · refine Meets.bind (Meets.execute ?_ fun state _ hState _ => changes_refl hRefs hState.2)
        fun _ => safeUser_preserves
      rintro state after answer ⟨-, rfl⟩ hUpdate
      refine (RightsChanged.refl hRefs).updateUser ?_ hUpdate
      exact fun _ => rfl

theorem resetLink_changes (hRefs : db.References) (id : Id) :
    Meets (UsersController.createPasswordResetLink id) (· = db)
      (fun _ => (StaffCall.createPasswordResetLink id).Changes db)
      ((StaffCall.createPasswordResetLink id).Changes db) := by
  refine Meets.bind_query fun user => ?_
  cases user with
  | none => exact fail_changes hRefs (fun _ => And.right) _
  | some user =>
      dsimp only
      split_ifs
      · exact Meets.pure fun state hState => changes_refl hRefs hState.2
      · exact fail_changes hRefs (fun _ => And.right) _

theorem createRole_changes (hRefs : db.References) (dto : CreateRoleDto) :
    Meets (RbacService.createRole dto) (· = db)
      (fun _ => (StaffCall.createRole dto).Changes db) ((StaffCall.createRole dto).Changes db) := by
  refine Meets.bind (Meets.execute ?_ fun state _ hState _ => changes_refl hRefs hState)
    fun _ => withPermissions_preserves
  rintro state after id rfl hCreate
  exact (RightsChanged.refl hRefs).createRole (fun _ => rfl) rfl (fun _ _ => rfl) hCreate

theorem replacePermissions_changes {id : Id} {dto : UpdateRoleDto} :
    Preserves (RbacService.replacePermissions id dto.permissionIds)
      ((StaffCall.updateRole id dto).Changes db) := by
  cases hIds : dto.permissionIds with
  | none => exact Meets.pure fun _ hState => hState
  | some permissionIds =>
      refine Preserves.bind
        (Meets.modify fun state hState => RightsChanged.deleteRolePermissions hState) fun _ => ?_
      refine preserves_execute fun state after answer hState hCreate =>
        RightsChanged.createRolePermissions hState (fun permissionId hId => ⟨rfl, ?_⟩) hCreate
      rw [hIds]
      exact hId

theorem updateRole_changes (hRefs : db.References) (id : Id) (dto : UpdateRoleDto) :
    Meets (RbacService.updateRole id dto) (· = db)
      (fun _ => (StaffCall.updateRole id dto).Changes db)
      ((StaffCall.updateRole id dto).Changes db) := by
  refine Meets.bind_query fun before => ?_
  split_ifs
  · exact fail_changes hRefs (fun _ => And.right) _
  · refine Meets.mono (Preserves.bind replacePermissions_changes fun _ => Preserves.bind
      (preserves_execute fun state after answer hState hUpdate => ?_) fun _ =>
        withPermissions_preserves) (fun state hState => changes_refl hRefs hState.2)
      (fun _ _ h => h) fun _ h => h
    refine RightsChanged.updateRole hState ?_ (fun role => ?_) hUpdate
    · exact fun _ => rfl
    · cases hCode : dto.code with
      | none => exact .inl rfl
      | some code => exact .inr ⟨rfl, by rw [hCode]; rfl⟩

theorem deleteRole_changes (hRefs : db.References) (id : Id) :
    Meets (RbacService.deleteRole id) (· = db) (fun _ => (StaffCall.deleteRole id).Changes db)
      ((StaffCall.deleteRole id).Changes db) := by
  refine Meets.bind_query fun role => ?_
  cases role with
  | none => exact fail_changes hRefs (fun _ => And.right) _
  | some role =>
      dsimp only
      split_ifs
      · exact fail_changes hRefs (fun _ => And.right) _
      · refine Meets.bind (Meets.modify fun state hState => ?_) fun _ =>
          Meets.pure fun _ hState => hState
        exact RightsChanged.deleteRole (changes_refl hRefs hState.2)

/-- What a call changes, whether it answers or fails half way. -/
theorem script_changes (hRefs : db.References) (hashPassword : String → String) (actor : AuthUser)
    (call : StaffCall) : call.Changes db ((call.script hashPassword actor).after db) := by
  have hScript : ∀ {α : Type} {script : StaffScript α} {wrap : α → StaffAnswer},
      Meets script (· = db) (fun _ => call.Changes db) (call.Changes db) →
      call.Changes db ((script >>= fun answer => pure (wrap answer)).after db) := by
    intro α script wrap h
    have hWrapped : Meets (script >>= fun answer => pure (wrap answer)) (· = db)
        (fun _ => call.Changes db) (call.Changes db) :=
      Meets.bind h fun _ => Meets.pure fun _ hState => hState
    exact (hWrapped db rfl).after
  cases call with
  | createUser dto => exact hScript (createUser_changes hRefs hashPassword dto)
  | updateUser id dto => exact hScript (updateUser_changes hRefs id dto)
  | createPasswordResetLink id => exact hScript (resetLink_changes hRefs id)
  | deactivate id => exact hScript (deactivate_changes hRefs id actor)
  | createRole dto => exact hScript (createRole_changes hRefs dto)
  | updateRole id dto => exact hScript (updateRole_changes hRefs id dto)
  | deleteRole id => exact hScript (deleteRole_changes hRefs id)

theorem perform_changes (hRefs : db.References) (hashPassword : String → String)
    (request : StaffRequest) :
    (request.perform hashPassword).after db = db ∨
      ∃ actor, AuthGuard.userOf db request.actorId = .ok actor ∧
        PermissionGuard.canActivate request.call.required actor = .ok () ∧
        request.call.Changes db ((request.perform hashPassword).after db) := by
  cases hActor : AuthGuard.userOf db request.actorId with
  | error error => exact .inl (by simp only [Script.after, StaffRequest.perform, hActor])
  | ok actor =>
      cases hAllowed : PermissionGuard.canActivate request.call.required actor with
      | error error => exact .inl (by simp only [Script.after, StaffRequest.perform, hActor, hAllowed])
      | ok _ =>
          refine .inr ⟨actor, rfl, hAllowed, ?_⟩
          have hScript := script_changes hRefs hashPassword actor request.call
          simpa only [Script.after, StaffRequest.perform, hActor, hAllowed] using hScript

end Calls

/-! ### What accounts gain -/

/-- Where the actor is no SUPER_ADMIN, the roles it assigns, the permissions it adds
to roles and the codes it gives to them bring no account more than the actor has
itself, and it asks for no link of a SUPER_ADMIN. -/
structure WithinOwnRights (db : StaffDb) (actor : AuthUser) (call : StaffCall) : Prop where
  assigned : ∀ row, call.assigned db row → ∀ role ∈ db.roles.rows, role.id = row.roleId →
    (role.code = "SUPER_ADMIN" → db.IsSuperAdmin row.userId) ∧
      ∀ permission ∈ db.permissionsOf role.id, permission.code ∈ actor.permissions ∨
        permission.code ∈ db.permissionCodes row.userId
  granted : ∀ row, call.granted db row → ∀ userId, ⟨userId, row.roleId⟩ ∈ db.userRoles.rows →
    ∀ permission ∈ db.permissions.rows, permission.id = row.permissionId →
      permission.code ∈ actor.permissions ∨ permission.code ∈ db.permissionCodes userId
  renamed : ∀ roleId, call.renamed db roleId "SUPER_ADMIN" →
    ∀ userId, ⟨userId, roleId⟩ ∈ db.userRoles.rows → db.IsSuperAdmin userId
  resetLink : ∀ userId, call = .createPasswordResetLink userId → ¬ db.IsSuperAdmin userId

/-- The condition on a request: the actor is a SUPER_ADMIN, or keeps to its own
rights, if the guards let it through. -/
def KeepsToOwnRights (db : StaffDb) (request : StaffRequest) : Prop :=
  ∀ actor, AuthGuard.userOf db request.actorId = .ok actor →
    PermissionGuard.canActivate request.call.required actor = .ok () →
    "SUPER_ADMIN" ∈ actor.roles ∨ WithinOwnRights db actor request.call

section Gain
variable {db db' : StaffDb} {call : StaffCall} {actor : AuthUser} {userId : Id}

/-- A call that assigns roles neither grants permissions nor renames. -/
theorem StaffCall.apart (row : UserRole) (h : call.assigned db row) :
    (∀ row', ¬ call.granted db row') ∧ ∀ id code, ¬ call.renamed db id code := by
  cases call with
  | createUser dto => exact ⟨fun _ hGranted => hGranted, fun _ _ hRenamed => hRenamed⟩
  | updateUser id dto => exact ⟨fun _ hGranted => hGranted, fun _ _ hRenamed => hRenamed⟩
  | createPasswordResetLink id => cases h
  | deactivate id => cases h
  | createRole dto => cases h
  | updateRole id dto => cases h
  | deleteRole id => cases h

/-- Within one's own rights, no call makes a super administrator. -/
theorem StaffCall.Changes.superAdmin (h : call.Changes db db')
    (hOwn : WithinOwnRights db actor call) {userId : Id} (hAdmin : db'.IsSuperAdmin userId) :
    db.IsSuperAdmin userId := by
  obtain ⟨role, hRole, hRow, hCode⟩ := StaffDb.mem_roleCodes_iff.mp hAdmin
  rcases h.userRoles _ hRow with hOldRow | hAssigned
  · rcases h.roles role hRole with ⟨old, hOld, hId, hSame⟩ | hRenamed
    · exact StaffDb.mem_roleCodes_iff.mpr ⟨old, hOld, hId ▸ hOldRow, hSame.trans hCode⟩
    · exact hOwn.renamed role.id (hCode ▸ hRenamed) userId hOldRow
  · rcases h.roles role hRole with ⟨old, hOld, hId, hSame⟩ | hRenamed
    · exact (hOwn.assigned _ hAssigned old hOld hId).1 (hSame.trans hCode)
    · exact absurd hRenamed ((StaffCall.apart _ hAssigned).2 _ _)

/-- Within one's own rights, no call gives a permission that the actor has not. -/
theorem StaffCall.Changes.permission (h : call.Changes db db') (hRefs : db.References)
    (hOwn : WithinOwnRights db actor call) {userId : Id} {code : String}
    (hCode : code ∈ db'.permissionCodes userId) :
    code ∈ actor.permissions ∨ code ∈ db.permissionCodes userId := by
  obtain ⟨role, hRole, hRow, permission, hPermission, rfl⟩ :=
    StaffDb.mem_permissionCodes_iff.mp hCode
  obtain ⟨hStored, hGrant⟩ := StaffDb.mem_permissionsOf_iff.mp hPermission
  rw [h.permissions] at hStored
  rcases h.userRoles _ hRow with hOldRow | hAssigned
  · rcases h.rolePermissions _ hGrant with hOldGrant | hNewGrant
    · obtain ⟨old, hOld, hId⟩ := h.oldRoles role hRole (hRefs.userRoles _ hOldRow).2
      exact .inr (StaffDb.mem_permissionCodes_iff.mpr ⟨old, hOld, hId ▸ hOldRow, permission,
        StaffDb.mem_permissionsOf_iff.mpr ⟨hStored, hId ▸ hOldGrant⟩, rfl⟩)
    · exact hOwn.granted _ hNewGrant userId hOldRow permission hStored rfl
  · rcases h.roles role hRole with ⟨old, hOld, hId, -⟩ | hRenamed
    · rcases h.rolePermissions _ hGrant with hOldGrant | hNewGrant
      · exact (hOwn.assigned _ hAssigned old hOld hId).2 permission
          (StaffDb.mem_permissionsOf_iff.mpr ⟨hStored, hId ▸ hOldGrant⟩)
      · exact absurd hNewGrant ((StaffCall.apart _ hAssigned).1 _)
    · exact absurd hRenamed ((StaffCall.apart _ hAssigned).2 _ _)

/-- The actor has the roles and permissions of the stored user. -/
theorem userOf_spec (h : AuthGuard.userOf db userId = .ok actor) :
    actor.roles = db.roleCodes userId ∧ actor.permissions = db.permissionCodes userId := by
  unfold AuthGuard.userOf at h
  split at h
  · cases h
  · split_ifs at h
    cases h
    exact ⟨rfl, rfl⟩

theorem wrap_of_ok {α β : Type} {script : StaffScript α} {wrap : α → β} {answer : β}
    (h : ((script >>= fun a => pure (wrap a)) db).2 = .ok answer) :
    ∃ a, (script db).2 = .ok a ∧ answer = wrap a := by
  rcases hScript : script db with ⟨after, failure | a⟩
  · rw [Script.bind_of_error hScript] at h
    cases h
  · rw [Script.bind_of_ok hScript] at h
    cases h
    exact ⟨a, rfl, rfl⟩

/-- Only the call for a reset link answers with one. -/
theorem resetLink_of_script {hashPassword : String → String}
    (h : (call.script hashPassword actor db).2 = .ok (.resetLink userId)) :
    call = .createPasswordResetLink userId := by
  cases call with
  | createPasswordResetLink id =>
      obtain ⟨answered, hLink, hSame⟩ := wrap_of_ok h
      cases hSame
      unfold UsersController.createPasswordResetLink at hLink
      rw [Script.query_bind] at hLink
      cases hUser : db.users.find? id with
      | none =>
          rw [hUser] at hLink
          cases hLink
      | some user =>
          rw [hUser] at hLink
          dsimp only at hLink
          split_ifs at hLink
          · cases hLink
            rfl
          · cases hLink
  | _ =>
      obtain ⟨answer, -, hSame⟩ := wrap_of_ok h
      cases hSame

/-- A reset link is answered to one whom the guards have let pass. -/
theorem resetLink_of_perform {hashPassword : String → String} {request : StaffRequest}
    (h : (request.perform hashPassword db).2 = .ok (.resetLink userId)) :
    ∃ actor, AuthGuard.userOf db request.actorId = .ok actor ∧
      PermissionGuard.canActivate request.call.required actor = .ok () ∧
      request.call = .createPasswordResetLink userId := by
  cases hActor : AuthGuard.userOf db request.actorId with
  | error error =>
      simp only [StaffRequest.perform, hActor] at h
      cases h
  | ok actor =>
      cases hAllowed : PermissionGuard.canActivate request.call.required actor with
      | error error =>
          simp only [StaffRequest.perform, hActor, hAllowed] at h
          cases h
      | ok _ =>
          simp only [StaffRequest.perform, hActor, hAllowed] at h
          exact ⟨actor, rfl, hAllowed, resetLink_of_script h⟩

end Gain

/-! ### Sequences of requests -/

/-- The database after a request. -/
def staffStep (hashPassword : String → String) (db : StaffDb) (request : StaffRequest) : StaffDb :=
  (request.perform hashPassword).after db

/-- What the accounts have at the end, they or one of the actors had at the
start. -/
structure NothingGained (actors : List Id) (start final : StaffDb) : Prop where
  superAdmin : ∀ userId, final.IsSuperAdmin userId → start.IsSuperAdmin userId
  permission : ∀ userId, ∀ code ∈ final.permissionCodes userId,
    code ∈ start.permissionCodes userId ∨ ∃ actor ∈ actors, code ∈ start.permissionCodes actor

section Runs
variable {hashPassword : String → String} {start db : StaffDb} {request : StaffRequest}
  {actors : List Id}

/-- A request keeps every link between stored rows. -/
theorem staffStep_references (hRefs : db.References) :
    (staffStep hashPassword db request).References := by
  rcases perform_changes hRefs hashPassword request with hSame | ⟨actor, -, -, hChanges⟩
  · rw [staffStep, hSame]
    exact hRefs
  · exact hChanges.references

/-- The actor of a request is none of the SUPER_ADMINs of the start. -/
theorem withinOwnRights_of_guarded (hGained : NothingGained actors start db)
    (hActors : ∀ actor ∈ actors, ¬ start.IsSuperAdmin actor) (hActor : request.actorId ∈ actors)
    (hGuarded : KeepsToOwnRights db request) {actor : AuthUser}
    (hUser : AuthGuard.userOf db request.actorId = .ok actor)
    (hAllowed : PermissionGuard.canActivate request.call.required actor = .ok ()) :
    WithinOwnRights db actor request.call := by
  rcases hGuarded actor hUser hAllowed with hAdmin | hOwn
  · rw [(userOf_spec hUser).1] at hAdmin
    exact absurd (hGained.superAdmin _ hAdmin) (hActors _ hActor)
  · exact hOwn

theorem NothingGained.step (h : NothingGained actors start db) (hRefs : db.References)
    (hActors : ∀ actor ∈ actors, ¬ start.IsSuperAdmin actor) (hActor : request.actorId ∈ actors)
    (hGuarded : KeepsToOwnRights db request) :
    NothingGained actors start (staffStep hashPassword db request) := by
  rcases perform_changes hRefs hashPassword request with hSame | ⟨actor, hUser, hAllowed, hChanges⟩
  · rw [staffStep, hSame]
    exact h
  · have hOwn := withinOwnRights_of_guarded h hActors hActor hGuarded hUser hAllowed
    refine ⟨fun userId hAdmin => h.superAdmin userId (hChanges.superAdmin hOwn hAdmin),
      fun userId code hCode => ?_⟩
    rcases hChanges.permission hRefs hOwn hCode with hActorHas | hHad
    · rw [(userOf_spec hUser).2] at hActorHas
      rcases h.permission _ code hActorHas with hStart | hOther
      · exact .inr ⟨request.actorId, hActor, hStart⟩
      · exact .inr hOther
    · exact h.permission userId code hHad

/-- A chain of requests by actors who are no SUPER_ADMINs. -/
theorem nothingGained_run (hRefs : start.References)
    (hActors : ∀ actor ∈ actors, ¬ start.IsSuperAdmin actor) {segment : List StaffRequest}
    (hSegment : ∀ request ∈ segment, request.actorId ∈ actors)
    (hAlong : Along (staffStep hashPassword) KeepsToOwnRights start segment) :
    NothingGained actors start (run (staffStep hashPassword) start segment) := by
  have hBoth := hAlong.and (along_of_forall (fun request => request.actorId ∈ actors) hSegment)
  have hRun := run_invariant_along
    (fun state : StaffDb => state.References ∧ NothingGained actors start state)
    (fun state request h hGuard => ⟨staffStep_references h.1,
      h.2.step h.1 hActors hGuard.2 hGuard.1⟩)
    ⟨hRefs, fun _ hAdmin => hAdmin, fun _ _ hCode => .inl hCode⟩ hBoth
  exact hRun.2

end Runs

/-- Where actors who are no SUPER_ADMINs keep to their own rights, they make no
SUPER_ADMIN, give no account a permission that none of them had, and get no link of
a SUPER_ADMIN, by no chain of requests. -/
theorem no_self_made_administrators (hashPassword : String → String) (db : StaffDb)
    (hRefs : db.References) (requests : List StaffRequest)
    (hAlong : Along (staffStep hashPassword) KeepsToOwnRights db requests) :
    ∀ before segment after, requests = before ++ segment ++ after →
      let start := run (staffStep hashPassword) db before
      ∀ actors : List Id, (∀ actor ∈ actors, ¬ start.IsSuperAdmin actor) →
        (∀ request ∈ segment, request.actorId ∈ actors) →
        NothingGained actors start (run (staffStep hashPassword) start segment) ∧
        ∀ earlier request later, segment = earlier ++ request :: later →
          let state := run (staffStep hashPassword) start earlier
          ∀ userId, (request.perform hashPassword state).2 = .ok (.resetLink userId) →
            ¬ state.IsSuperAdmin userId := by
  rintro before segment after rfl start actors hActors hSegment
  have hPrefix := (Along.append.mp hAlong).1
  have hAlongSegment := (Along.append.mp hPrefix).2
  have hStart : start.References :=
    run_invariant _ (fun _ _ h => staffStep_references h) hRefs before
  refine ⟨nothingGained_run hStart hActors hSegment hAlongSegment, ?_⟩
  rintro earlier request later rfl state userId hLink
  obtain ⟨hEarlier, hLater⟩ := Along.append.mp hAlongSegment
  have hGained := nothingGained_run hStart hActors
    (fun r hr => hSegment r (List.mem_append_left _ hr)) hEarlier
  obtain ⟨actor, hUser, hAllowed, hCall⟩ := resetLink_of_perform hLink
  have hOwn := withinOwnRights_of_guarded hGained hActors
    (hSegment request (List.mem_append_right _ List.mem_cons_self)) hLater.1 hUser hAllowed
  exact hOwn.resetLink userId hCall

namespace Sample

/-- A SUPER_ADMIN (4), a clerk who may update users (5) and an operator (6). -/
def staffDb : StaffDb where
  users := ⟨[⟨4, "Admin", "admin@example.com", none, some "hash", .active⟩,
    ⟨5, "Clerk", "clerk@example.com", none, some "hash", .active⟩,
    ⟨6, "Operator", "operator@example.com", none, some "hash", .active⟩], by decide⟩
  roles := ⟨[⟨1, "SUPER_ADMIN", "Super Admin", none, true⟩, ⟨2, "CLERK", "Clerk", none, true⟩,
    ⟨3, "OPERATOR", "Operator", none, true⟩], by decide⟩
  permissions := ⟨[⟨0, "user:update"⟩], by decide⟩
  userRoles := ⟨[⟨4, 1⟩, ⟨5, 2⟩, ⟨6, 3⟩], by decide⟩
  rolePermissions := ⟨[⟨2, 0⟩], by decide⟩
  nextId := 7

/-- The clerk sets the role of an account. -/
def assignRole (id : Id) (role : AssignableStaffRoleCode) : StaffRequest :=
  ⟨5, .updateUser id { role := some role }⟩

theorem staffDb_references : staffDb.References := ⟨by decide, by decide, by decide, by decide⟩

end Sample

theorem no_self_made_administrators_clerk :
    "CLERK" ∈ (staffStep id Sample.staffDb (Sample.assignRole 6 .clerk)).roleCodes 6 ∧
      NothingGained [5] Sample.staffDb
        (run (staffStep id) Sample.staffDb [Sample.assignRole 6 .clerk]) := by
  refine ⟨by decide, (no_self_made_administrators id Sample.staffDb
    Sample.staffDb_references [Sample.assignRole 6 .clerk] ⟨?_, trivial⟩ []
    [Sample.assignRole 6 .clerk] [] rfl [5] (by decide) (by decide)).1⟩
  intro actor hUser _
  have hRoles : rolesToAssign Sample.staffDb none (some .clerk) = [2] := by decide
  refine .inr ⟨?_, fun _ hGranted => hGranted.elim, fun _ hRenamed => hRenamed.elim,
    fun _ hCall => by cases hCall⟩
  rintro row ⟨hTarget, -, hRole⟩ role hMem hId
  rw [show rolesToAssign Sample.staffDb none (some .clerk) = [2] from hRoles,
    List.mem_singleton] at hRole
  have hClerk : ∀ role ∈ Sample.staffDb.roles.rows, role.id = 2 → role.code ≠ "SUPER_ADMIN" := by
    decide
  have hOwned : ∀ permission ∈ Sample.staffDb.permissionsOf 2,
      permission.code ∈ Sample.staffDb.permissionCodes 5 := by decide
  rw [hRole] at hId
  refine ⟨fun hCode => absurd hCode (hClerk role hMem hId), fun permission hPermission => ?_⟩
  rw [hId] at hPermission
  exact .inl ((userOf_spec hUser).2 ▸ hOwned permission hPermission)

/-- The clerk makes itself a SUPER_ADMIN, and gets a link for the account of one. -/
theorem clerk_makes_itself_administrator :
    ¬ Sample.staffDb.IsSuperAdmin 5 ∧ Sample.staffDb.IsSuperAdmin 4 ∧
      (staffStep id Sample.staffDb (Sample.assignRole 5 .superAdmin)).IsSuperAdmin 5 ∧
      (StaffRequest.perform id ⟨5, .createPasswordResetLink 4⟩ Sample.staffDb).2 =
        .ok (.resetLink 4) := by
  decide

end PropertyTax
