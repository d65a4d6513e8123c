import PropertyTax.Library.Runs
import PropertyTax.Users.EditLaws
import PropertyTax.Users.Seed

/-! Whether somebody can still administer the system: an active account that has the role
of a SUPER_ADMIN. Only one of the calls looks whether it is about its own actor. -/
namespace PropertyTax
open KeyedTable Runs Scripts

/-! ### Calls -/

inductive StaffOperation where
  | createUser (dto : CreateUserDto)
  | updateUser (id : Id) (body : UpdateUserBody)
  | deactivate (id : Id)
  | createRole (dto : CreateRoleDto)
  | updateRole (id : Id) (body : UpdateRoleBody)
  | deleteRole (id : Id)

namespace StaffOperation

/-- `@RequirePermission` -/
def required : StaffOperation → List String
  | createUser _ => ["user:create"]
  | updateUser _ _ => ["user:update"]
  | deactivate _ => ["user:delete"]
  | createRole _ => ["role:create"]
  | updateRole _ _ => ["role:update"]
  | deleteRole _ => ["role:delete"]

def script (hashPassword : String → String) (actor : AuthUser) (now : Timestamp) :
    StaffOperation → EditScript Unit
  | createUser dto => do
      let _ ← StaffScript.onDb (UsersController.create hashPassword dto)
      pure ()
  | updateUser id body => do
      let _ ← UsersService.updateBody id body now
      pure ()
  | deactivate id => do
      let _ ← StaffScript.onDb (UsersService.deactivate id actor)
      revokeAllUserSessions id now
  | createRole dto => do
      let _ ← StaffScript.onDb (RbacService.createRole dto)
      pure ()
  | updateRole id body => do
      let _ ← RbacService.updateRoleBody id body
      pure ()
  | deleteRole id => do
      let _ ← StaffScript.onDb (RbacService.deleteRole id)
      pure ()

end StaffOperation

/-- An operation in the session of some user. -/
structure OperationRequest where
  actorId : Id
  operation : StaffOperation
  now : Timestamp

/-- What the request leaves: nothing happens unless both guards let it through. -/
def operate (hashPassword : String → String) (world : StaffWorld) (request : OperationRequest) :
    StaffWorld :=
  match AuthGuard.userOf world.db request.actorId with
  | .error _ => world
  | .ok actor =>
      match PermissionGuard.canActivate request.operation.required actor with
      | .error _ => world
      | .ok () => (request.operation.script hashPassword actor request.now).after world

/-! ### Administrators -/

namespace StaffDb

/-- An active account with the role of a SUPER_ADMIN. -/
def IsAdministrator (db : StaffDb) (userId : Id) : Prop :=
  (∃ user ∈ db.users.rows, user.id = userId ∧ user.status = .active) ∧
    ∃ role ∈ db.roles.rows, role.code = "SUPER_ADMIN" ∧ db.HasRole userId role.id

def IsAdministered (db : StaffDb) : Prop := ∃ userId, db.IsAdministrator userId

/-- Nobody deletes the role of the administrators. -/
def IsProtected (db : StaffDb) : Prop :=
  ∀ role ∈ db.roles.rows, role.code = "SUPER_ADMIN" → role.isSystem = true

end StaffDb

/-! ### What an operation must leave -/

/-- After the edit the account has the role. -/
def UpdateUserBody.LeavesRole (body : UpdateUserBody) (db : StaffDb) (userId roleId : Id) : Prop :=
  if body.asksRoles then
    match body.resolved db with
    | .error _ => db.HasRole userId roleId
    | .ok roleIds => db.Assignable roleIds ∧ roleId ∈ roleIds
  else db.HasRole userId roleId

/-- After the edit the account is an administrator. -/
def UpdateUserBody.LeavesAdministrator (body : UpdateUserBody) (db : StaffDb) (user : StaffUser) :
    Prop :=
  (body.IsRefused ∧ db.IsAdministrator user.id) ∨
    ¬body.IsRefused ∧ body.requestedStatus.value?.getD user.status = .active ∧
      ∃ role ∈ db.roles.rows, role.code = "SUPER_ADMIN" ∧ body.LeavesRole db user.id role.id

/-- The edit of the role goes through. -/
def UpdateRoleBody.GoesThrough (body : UpdateRoleBody) (db : StaffDb) (role : Role) : Prop :=
  (∀ requested, body.permissionIds = .value requested → ∃ ids, db.CanGrant requested ids) ∧
    body.IsWritable db role

/-- An edit that goes through has no other code for the role. -/
def UpdateRoleBody.KeepsCode (body : UpdateRoleBody) (db : StaffDb) (role : Role) : Prop :=
  body.GoesThrough db role → ∀ code, body.code = .value (some code) →
    Js.toUpperCase code = role.code

/-- The operation leaves an administrator: another one than the account it is about, or that one
itself, and it leaves the role of the administrators its code. -/
def StaffOperation.Spares (db : StaffDb) (actor : AuthUser) : StaffOperation → Prop
  | updateUser id body => (∃ other, other ≠ id ∧ db.IsAdministrator other) ∨
      ∀ user, db.users.find? id = some user → body.LeavesAdministrator db user
  | deactivate id => (∃ other, other ≠ id ∧ db.IsAdministrator other) ∨ id = actor.id
  | updateRole id body => ∀ role, db.roles.find? id = some role → role.code = "SUPER_ADMIN" →
      body.KeepsCode db role
  | _ => True

/-- If the guards let the request through, it spares an administrator. -/
def SparesAdministrator (world : StaffWorld) (request : OperationRequest) : Prop :=
  ∀ actor, AuthGuard.userOf world.db request.actorId = .ok actor →
    PermissionGuard.canActivate request.operation.required actor = .ok () →
      request.operation.Spares world.db actor

/-! ### Operations on accounts -/

/-- Nothing but the rows of one account has changed. -/
structure OthersKept (id : Id) (db after : StaffDb) : Prop where
  roles : after.roles = db.roles
  users : ∀ user : StaffUser, user.id ≠ id → (user ∈ after.users.rows ↔ user ∈ db.users.rows)
  userRoles : ∀ row : UserRole, row.userId ≠ id →
    (row ∈ after.userRoles.rows ↔ row ∈ db.userRoles.rows)

namespace OthersKept
variable {id other : Id} {db middle after : StaffDb}

theorem refl (id : Id) (db : StaffDb) : OthersKept id db db where
  roles := rfl
  users _ _ := Iff.rfl
  userRoles _ _ := Iff.rfl

theorem trans (h : OthersKept id db middle) (h' : OthersKept id middle after) :
    OthersKept id db after where
  roles := h'.roles.trans h.roles
  users user hUser := (h'.users user hUser).trans (h.users user hUser)
  userRoles row hRow := (h'.userRoles row hRow).trans (h.userRoles row hRow)

/-- Whether someone else is an administrator stays the same. -/
theorem isAdministrator_iff (h : OthersKept id db after) (hOther : other ≠ id) :
    after.IsAdministrator other ↔ db.IsAdministrator other := by
  unfold StaffDb.IsAdministrator
  rw [h.roles]
  refine and_congr (exists_congr fun user => ?_) (exists_congr fun role => ?_)
  · constructor
    · rintro ⟨hUser, rfl, hActive⟩
      exact ⟨(h.users user hOther).mp hUser, rfl, hActive⟩
    · rintro ⟨hUser, rfl, hActive⟩
      exact ⟨(h.users user hOther).mpr hUser, rfl, hActive⟩
  · exact and_congr_right fun _ => and_congr_right fun _ => h.userRoles ⟨other, role.id⟩ hOther

/-- There is an administrator when another is one, or the edited user is. -/
theorem isAdministered_iff (h : OthersKept id db after) : after.IsAdministered ↔
    (∃ other, other ≠ id ∧ db.IsAdministrator other) ∨ after.IsAdministrator id := by
  constructor
  · rintro ⟨userId, hUser⟩
    by_cases hSame : userId = id
    · exact .inr (hSame ▸ hUser)
    · exact .inl ⟨userId, hSame, (h.isAdministrator_iff hSame).mp hUser⟩
  · rintro (⟨other, hOther, hUser⟩ | hUser)
    · exact ⟨other, (h.isAdministrator_iff hOther).mpr hUser⟩
    · exact ⟨id, hUser⟩

/-- Whether the administrators' role is protected stays the same. -/
theorem isProtected_iff (h : OthersKept id db after) : after.IsProtected ↔ db.IsProtected := by
  unfold StaffDb.IsProtected
  rw [h.roles]

/-- An account that is written. -/
theorem of_replaced {users : KeyedTable StaffUser} {user written : StaffUser}
    (h : Replaced db.users users user written) : OthersKept user.id db { db with users } where
  roles := rfl
  users other hOther := by
    rw [h.mem_iff]
    have hWritten : other ≠ written := by
      rintro rfl
      exact hOther h.key_eq
    exact or_iff_left hWritten |>.trans (and_iff_left hOther)
  userRoles _ _ := Iff.rfl

end OthersKept

section Accounts
variable {id : Id} {body : UpdateUserBody} {now : Timestamp} {world : StaffWorld}
  {user : StaffUser} {users : KeyedTable StaffUser}

/-- The sessions and the answer make no difference to the tables. -/
theorem updateBody_db (hFound : world.db.users.find? id = some user) (h : ¬body.IsRefused)
    (hUsers : world.db.users.update id body.apply = .ok users) :
    (UsersService.updateBody id body now world).1.db =
      (UsersService.assignRoles id body.roles { world.db with users }).1 := by
  have hUser : (users.find? id).isSome = true := by
    rw [find?_written hFound hUsers]
    rfl
  rcases @assignRoles_cases id body { world.db with users } hUser with ⟨-, hAssign⟩ |
    ⟨-, ⟨error, -, hAssign⟩ | ⟨roleIds, -, ⟨-, userRoles, hAssign, -⟩ | ⟨-, error, hAssign⟩⟩⟩
  · obtain ⟨answer, hDone⟩ := updateBody_ok hFound h hUsers hAssign rfl
    rw [hDone, hAssign]
  · rw [updateBody_error hFound h hUsers hAssign, hAssign]
  · obtain ⟨answer, hDone⟩ := updateBody_ok hFound h hUsers hAssign rfl
    rw [hDone, hAssign]
  · rw [updateBody_error hFound h hUsers hAssign, hAssign]

/-- Assigning roles keeps the other users. -/
theorem assignRoles_others (id : Id) (body : UpdateUserBody) {db : StaffDb}
    (hUser : (db.users.find? id).isSome = true) :
    OthersKept id db (UsersService.assignRoles id body.roles db).1 := by
  rcases @assignRoles_cases id body db hUser with ⟨-, hAssign⟩ |
    ⟨-, ⟨error, -, hAssign⟩ | ⟨roleIds, -, ⟨-, userRoles, hAssign, hRows⟩ | ⟨-, error, hAssign⟩⟩⟩
  · rw [hAssign]
    exact .refl id db
  · rw [hAssign]
    exact .refl id db
  · rw [hAssign]
    refine ⟨rfl, fun _ _ => Iff.rfl, fun row hRow => ?_⟩
    rw [hRows, and_iff_left hRow, or_iff_left fun hOwn => hRow hOwn.1]
  · rw [hAssign]
    refine ⟨rfl, fun _ _ => Iff.rfl, fun row hRow => ?_⟩
    rw [StaffDb.mem_deleteUserRoles, and_iff_left hRow]

/-- Assigning roles writes no user. -/
theorem assignRoles_users (id : Id) (body : UpdateUserBody) {db : StaffDb}
    (hUser : (db.users.find? id).isSome = true) :
    (UsersService.assignRoles id body.roles db).1.users = db.users := by
  rcases @assignRoles_cases id body db hUser with ⟨-, hAssign⟩ |
    ⟨-, ⟨error, -, hAssign⟩ | ⟨roleIds, -, ⟨-, userRoles, hAssign, -⟩ | ⟨-, error, hAssign⟩⟩⟩
  · rw [hAssign]
  · rw [hAssign]
  · rw [hAssign]
  · rw [hAssign]
    rfl

/-- The role after the assignment. -/
theorem assignRoles_leaves_iff {db : StaffDb} (hUser : (db.users.find? id).isSome = true)
    (roleId : Id) : (UsersService.assignRoles id body.roles db).1.HasRole id roleId ↔
      body.LeavesRole db id roleId := by
  unfold UpdateUserBody.LeavesRole
  rcases @assignRoles_cases id body db hUser with ⟨hAsks, hAssign⟩ |
    ⟨hAsks, ⟨error, hResolved, hAssign⟩ | ⟨roleIds, hResolved,
      ⟨hAssignable, userRoles, hAssign, hRows⟩ | ⟨hAssignable, error, hAssign⟩⟩⟩
  · rw [hAssign, if_neg (by simp [hAsks])]
  · rw [hAssign, if_pos hAsks, hResolved]
  · rw [hAssign, if_pos hAsks, hResolved, StaffDb.HasRole, hRows]
    simp [hAssignable]
  · rw [hAssign, if_pos hAsks, hResolved, StaffDb.HasRole, StaffDb.mem_deleteUserRoles]
    simp [hAssignable]

/-- An edit keeps the other users. -/
theorem updateBody_others (id : Id) (body : UpdateUserBody) (now : Timestamp)
    (world : StaffWorld) :
    OthersKept id world.db (UsersService.updateBody id body now world).1.db := by
  cases hFound : world.db.users.find? id with
  | none =>
      rw [updateBody_missing hFound]
      exact .refl id world.db
  | some user =>
      by_cases hRefused : body.IsRefused
      · rw [updateBody_refused hFound hRefused]
        exact .refl id world.db
      · obtain ⟨users, hUsers⟩ : ∃ users, world.db.users.update id body.apply = .ok users :=
          exists_written hFound
        have hWritten := OthersKept.of_replaced (written_replaced hFound hUsers)
        rw [show user.id = id from (find?_eq_some_iff.mp hFound).2] at hWritten
        rw [updateBody_db hFound hRefused hUsers]
        refine hWritten.trans (assignRoles_others id body ?_)
        change (users.find? id).isSome = true
        rw [find?_written hFound hUsers]
        rfl

/-- A stored user is an administrator when active and in the role. -/
theorem isAdministrator_of_find? {db : StaffDb} (hFound : db.users.find? id = some user) :
    db.IsAdministrator id ↔ user.status = .active ∧
      ∃ role ∈ db.roles.rows, role.code = "SUPER_ADMIN" ∧ db.HasRole id role.id := by
  refine and_congr_left fun _ => ⟨?_, ?_⟩
  · rintro ⟨other, hOther, hId, hActive⟩
    obtain ⟨hUser, hKey⟩ := find?_eq_some_iff.mp hFound
    rwa [eq_of_key hOther hUser (hId.trans hKey.symm)] at hActive
  · intro hActive
    obtain ⟨hUser, hKey⟩ := find?_eq_some_iff.mp hFound
    exact ⟨user, hUser, hKey, hActive⟩

/-- After an edit, the user is an administrator when the body leaves one. -/
theorem updateBody_leaves_iff (hFound : world.db.users.find? id = some user) :
    (UsersService.updateBody id body now world).1.db.IsAdministrator id ↔
      body.LeavesAdministrator world.db user := by
  have hId : user.id = id := (find?_eq_some_iff.mp hFound).2
  unfold UpdateUserBody.LeavesAdministrator
  by_cases hRefused : body.IsRefused
  · rw [updateBody_refused hFound hRefused, hId]
    simp [hRefused]
  · obtain ⟨users, hUsers⟩ : ∃ users, world.db.users.update id body.apply = .ok users :=
      exists_written hFound
    have hWritten := find?_written hFound hUsers
    have hUser : (users.find? id).isSome = true := by
      rw [hWritten]
      rfl
    have hAfter : (UsersService.assignRoles id body.roles { world.db with users }).1.users =
        users := assignRoles_users id body hUser
    have hRoles := (@assignRoles_others id body { world.db with users } hUser).roles
    have hLeaves (roleId : Id) :=
      @assignRoles_leaves_iff id body { world.db with users } hUser roleId
    rw [updateBody_db hFound hRefused hUsers,
      @isAdministrator_of_find? id (body.apply user) _ (by rw [hAfter, hWritten]), hRoles, hId]
    simp only [hLeaves, hRefused, false_and, not_false_eq_true, true_and, false_or]
    rfl

/-- The edit of an account leaves an administrator exactly if there is another one, or the
account stays one. -/
theorem updateBody_administered_iff (hAdministered : world.db.IsAdministered) :
    (UsersService.updateBody id body now world).1.db.IsAdministered ↔
      (∃ other, other ≠ id ∧ world.db.IsAdministrator other) ∨
        ∀ user, world.db.users.find? id = some user → body.LeavesAdministrator world.db user := by
  rw [(updateBody_others id body now world).isAdministered_iff]
  cases hFound : world.db.users.find? id with
  | none =>
      have hNobody : ¬world.db.IsAdministrator id := by
        rintro ⟨⟨user, hUser, hId, -⟩, -⟩
        exact find?_eq_none_iff.mp hFound user hUser hId
      have hOther := ((OthersKept.refl id world.db).isAdministered_iff.mp
        hAdministered).resolve_right hNobody
      exact iff_of_true (.inl hOther) (.inl hOther)
  | some user =>
      rw [updateBody_leaves_iff hFound]
      simp

/-- What a deactivation leaves in the tables. -/
theorem deactivate_cases (id : Id) (actor : AuthUser) (db : StaffDb) :
    (id = actor.id ∨ db.users.find? id = none) ∧ (UsersService.deactivate id actor db).1 = db ∨
    id ≠ actor.id ∧ ∃ user users, db.users.find? id = some user ∧
      Replaced db.users users user { user with status := .inactive } ∧
      (UsersService.deactivate id actor db).1 = { db with users } := by
  unfold UsersService.deactivate
  by_cases hSelf : id = actor.id
  · rw [if_pos hSelf]
    exact .inl ⟨.inl hSelf, rfl⟩
  rw [if_neg hSelf, Script.query_bind]
  cases hFound : db.users.find? id with
  | none => exact .inl ⟨.inr rfl, rfl⟩
  | some user =>
      obtain ⟨hUser, hKey⟩ := find?_eq_some_iff.mp hFound
      obtain ⟨users, hUsers⟩ : ∃ users, db.users.update id
          (fun user => { user with status := .inactive }) = .ok users :=
        update_isOk hUser hKey fun other hOther hNe =>
          eq_false_of_ne_true fun hClash => hNe (eq_of_clash hOther hUser hClash)
      have hWrite : Script.execute (StaffDb.updateUser id fun user =>
          { user with status := .inactive }) db = ({ db with users }, .ok ()) := by
        rw [Script.execute, StaffDb.updateUser, hUsers]
        rfl
      have hReplaced := replaced_of_update hUsers hUser hKey rfl
      refine .inr ⟨hSelf, user, users, rfl, hReplaced, ?_⟩
      rw [if_neg (by simp), Script.bind_of_ok hWrite, Script.execute]
      have hWritten : users.find? id = some { user with status := .inactive } := by
        rw [← hKey]
        exact hReplaced.find?_new
      simp only [UsersService.safeUser, hWritten]

/-- Nobody deactivates the own account. -/
theorem deactivate_administered_iff {db : StaffDb} (hAdministered : db.IsAdministered)
    (actor : AuthUser) : (UsersService.deactivate id actor db).1.IsAdministered ↔
      (∃ other, other ≠ id ∧ db.IsAdministrator other) ∨ id = actor.id := by
  rcases deactivate_cases id actor db with ⟨hNothing, hSame⟩ |
    ⟨hOther, user, users, hFound, hReplaced, hDone⟩
  · rw [hSame]
    refine iff_of_true hAdministered ?_
    rcases hNothing with hSelf | hNone
    · exact .inr hSelf
    · refine .inl (((OthersKept.refl id db).isAdministered_iff.mp hAdministered).resolve_right ?_)
      rintro ⟨⟨user, hUser, hId, -⟩, -⟩
      exact find?_eq_none_iff.mp hNone user hUser hId
  · have hId : user.id = id := (find?_eq_some_iff.mp hFound).2
    have hKept := OthersKept.of_replaced hReplaced
    have hWritten := hReplaced.find?_new
    rw [hId] at hKept
    rw [show KeyedRow.key user = id from hId] at hWritten
    rw [hDone, hKept.isAdministered_iff, or_iff_left hOther, or_iff_left]
    rw [isAdministrator_of_find? hWritten]
    simp

/-- Deactivating a user keeps the others. -/
theorem deactivate_others (id : Id) (actor : AuthUser) (db : StaffDb) :
    OthersKept id db (UsersService.deactivate id actor db).1 := by
  rcases deactivate_cases id actor db with ⟨-, hSame⟩ | ⟨-, user, users, hFound, hReplaced, hDone⟩
  · rw [hSame]
    exact .refl id db
  · rw [hDone, ← show user.id = id from (find?_eq_some_iff.mp hFound).2]
    exact .of_replaced hReplaced

end Accounts

/-! ### Operations that add rows -/

/-- No row of an account or a role is lost, and new roles have codes of their own. -/
structure Grows (db after : StaffDb) : Prop where
  users : db.users.rows ⊆ after.users.rows
  roles : db.roles.rows ⊆ after.roles.rows
  userRoles : db.userRoles.rows ⊆ after.userRoles.rows
  newRoles : ∀ role ∈ after.roles.rows, role ∈ db.roles.rows ∨
    ∀ old ∈ db.roles.rows, old.code ≠ role.code

namespace Grows
variable {db after : StaffDb}

theorem refl (db : StaffDb) : Grows db db where
  users := List.Subset.refl _
  roles := List.Subset.refl _
  userRoles := List.Subset.refl _
  newRoles _ hRole := .inl hRole

/-- What grows keeps its administrator. -/
theorem isAdministered (h : Grows db after) (hDb : db.IsAdministered) : after.IsAdministered := by
  obtain ⟨userId, ⟨user, hUser, hActive⟩, role, hRole, hCode, hHas⟩ := hDb
  exact ⟨userId, ⟨user, h.users hUser, hActive⟩, role, h.roles hRole, hCode, h.userRoles hHas⟩

/-- What grows keeps the role protected. -/
theorem isProtected (h : Grows db after) (hDb : db.IsAdministered) (hProtected : db.IsProtected) :
    after.IsProtected := by
  obtain ⟨-, -, admin, hAdmin, hAdminCode, -⟩ := hDb
  intro role hRole hCode
  rcases h.newRoles role hRole with hOld | hNew
  · exact hProtected role hOld hCode
  · exact absurd (hAdminCode.trans hCode.symm) (hNew admin hAdmin)

end Grows

section Growing
variable {ρ : Type} [KeyedRow ρ ρ] [DecidableEq ρ] {table table' : KeyedTable ρ} {rows : List ρ}

/-- Inserting missing rows keeps those there were. -/
theorem insertMissing_subset (h : StaffDb.insertMissing table rows = .ok table') :
    table.rows ⊆ table'.rows := by
  unfold StaffDb.insertMissing at h
  induction rows generalizing table with
  | nil =>
      cases h
      exact List.Subset.refl _
  | cons first rest ih =>
      obtain ⟨middle, hFirst, hRest⟩ := bind_ok h
      refine List.Subset.trans ?_ (ih hRest)
      dsimp only at hFirst
      split_ifs at hFirst
      · cases hFirst
        exact List.Subset.refl _
      · intro row hRow
        exact (mem_insert hFirst row).mpr (.inl hRow)

end Growing

section Creating
variable {db after : StaffDb}

/-- A user created with roles is only added. -/
theorem createWithRoles_grows {user : Id → StaffUser} {roleIds : List Id} {answer : SafeUserDto}
    (h : UsersService.createWithRoles user roleIds db = .ok (after, answer)) : Grows db after := by
  obtain ⟨⟨created, userId⟩, hCreate, hRest⟩ := bind_ok h
  obtain ⟨users, hUsers, hReturn⟩ := bind_ok hCreate
  cases hReturn
  obtain ⟨⟨assigned, _⟩, hAssign, hSafe⟩ := bind_ok hRest
  have hCreated : db.users.rows ⊆ users.rows := fun row hRow =>
    (mem_insert (mapError_ok hUsers) row).mpr (.inl hRow)
  have hAssigned : Grows db assigned := by
    unfold UsersService.assignNew StaffDb.createUserRoles at hAssign
    split_ifs at hAssign
    · cases hAssign
      exact ⟨hCreated, List.Subset.refl _, List.Subset.refl _, fun _ hRole => .inl hRole⟩
    · obtain ⟨userRoles, hRows, hReturn⟩ := bind_ok hAssign
      cases hReturn
      exact ⟨hCreated, List.Subset.refl _, insertMissing_subset (mapError_ok hRows),
        fun _ hRole => .inl hRole⟩
  unfold UsersService.safeUser at hSafe
  split at hSafe
  · cases hSafe
    exact hAssigned
  · cases hSafe

/-- A statement leaves its result, or nothing. -/
theorem execute_grows {α : Type} {statement : StaffDb → Except StaffError (StaffDb × α)}
    (h : ∀ after answer, statement db = .ok (after, answer) → Grows db after) :
    Grows db (Script.execute statement db).1 := by
  unfold Script.execute
  cases hStatement : statement db with
  | error error => exact .refl db
  | ok result => exact h result.1 result.2 hStatement

/-- A created user is only added. -/
theorem createUser_grows (hashPassword : String → String) (dto : CreateUserDto) (db : StaffDb) :
    Grows db (UsersController.create hashPassword dto db).1 := by
  unfold UsersController.create
  cases dto.password.or dto.initialPassword with
  | none => exact .refl db
  | some plainPassword =>
      dsimp only
      split_ifs
      · exact .refl db
      unfold UsersService.create
      rw [Script.query_bind]
      split_ifs
      · exact .refl db
      rw [Script.query_bind]
      cases UsersService.resolveRoleIds db dto.roleIds dto.role with
      | error error => exact .refl db
      | ok roleIds => exact execute_grows fun after answer hCreate => createWithRoles_grows hCreate

/-- A created role is only added, with its permissions. -/
theorem createRole_rows {role : Id → Role} {permissionIds : List Id} {id : Id}
    (h : db.createRole role permissionIds = .ok (after, id)) : Grows db after := by
  obtain ⟨roles, hRoles, hRest⟩ := bind_ok h
  obtain ⟨⟨granted, _⟩, hGrant, hReturn⟩ := bind_ok hRest
  have hInsert := mapError_ok hRoles
  cases hReturn
  unfold StaffDb.createRolePermissions at hGrant
  split_ifs at hGrant
  obtain ⟨rolePermissions, -, hReturn⟩ := bind_ok hGrant
  cases hReturn
  refine ⟨List.Subset.refl _, fun row hRow => (mem_insert hInsert row).mpr (.inl hRow),
    List.Subset.refl _, fun row hRow => ?_⟩
  refine ((mem_insert hInsert row).mp hRow).imp_right ?_
  rintro rfl old hOld hCode
  have hClash := (added_of_insert hInsert).fresh old hOld
  exact absurd hCode (of_decide_eq_false (Bool.or_eq_false_iff.mp hClash).2)

/-- Creating a role only adds. -/
theorem createRole_grows (dto : CreateRoleDto) (db : StaffDb) :
    Grows db (RbacService.createRole dto db).1 := by
  have hRead (after : StaffDb) (id : Id) :
      (Script.execute (RbacService.withPermissions · id) after).1 = after := by
    cases hFound : after.roles.find? id with
    | none => simp only [Script.execute, RbacService.withPermissions, hFound]
    | some role => simp only [Script.execute, RbacService.withPermissions, hFound]
  have hEnd {statement : StaffDb → Except StaffError (StaffDb × Id)}
      (h : ∀ after id, statement db = .ok (after, id) → Grows db after) :
      Grows db ((Script.execute statement >>= fun id =>
        Script.execute (RbacService.withPermissions · id)) db).1 := by
    rcases hCreate : Script.execute statement db with ⟨after, error | id⟩
    · have hGrows := execute_grows h
      rw [Script.bind_of_error hCreate]
      rwa [hCreate] at hGrows
    · have hGrows := execute_grows h
      rw [Script.bind_of_ok hCreate, hRead]
      rwa [hCreate] at hGrows
  exact hEnd fun after id hCreate => createRole_rows hCreate

end Creating

/-! ### Operations on roles -/

/-- A role is deleted only when it is none of the system's. -/
theorem deleteRole_cases (id : Id) (db : StaffDb) :
    (RbacService.deleteRole id db).1 = db ∨ ∃ role, db.roles.find? id = some role ∧
      role.isSystem = false ∧ (RbacService.deleteRole id db).1 = db.deleteRole id := by
  unfold RbacService.deleteRole
  rw [Script.query_bind]
  cases hFound : db.roles.find? id with
  | none => exact .inl rfl
  | some role =>
      dsimp only
      cases hSystem : role.isSystem with
      | true => exact .inl rfl
      | false => exact .inr ⟨role, rfl, hSystem, rfl⟩

/-- The role of the administrators is not deleted. -/
theorem deleteRole_administered {db : StaffDb} (hAdministered : db.IsAdministered)
    (hProtected : db.IsProtected) (id : Id) :
    (RbacService.deleteRole id db).1.IsAdministered ∧
      (RbacService.deleteRole id db).1.IsProtected := by
  rcases deleteRole_cases id db with hSame | ⟨role, hFound, hSystem, hDone⟩
  · rw [hSame]
    exact ⟨hAdministered, hProtected⟩
  · rw [hDone]
    refine ⟨?_, fun other hOther => hProtected other (List.mem_of_mem_filter hOther)⟩
    obtain ⟨userId, hUser, admin, hAdmin, hCode, hHas⟩ := hAdministered
    have hOther : admin.id ≠ id := by
      intro hSame
      obtain ⟨hRole, hKey⟩ := find?_eq_some_iff.mp hFound
      have hSystemAdmin := hProtected admin hAdmin hCode
      rw [eq_of_key hAdmin hRole (hSame.trans hKey.symm), hSystem] at hSystemAdmin
      cases hSystemAdmin
    exact ⟨userId, hUser, admin, List.mem_filter.mpr ⟨hAdmin, decide_eq_true hOther⟩, hCode,
      List.mem_filter.mpr ⟨hHas, decide_eq_true hOther⟩⟩

/-- Everything that an edit of a role can do to accounts and roles. -/
def RoleEdited (id : Id) (body : UpdateRoleBody) (db after : StaffDb) : Prop :=
  after.users = db.users ∧ after.userRoles = db.userRoles ∧
    (after.roles = db.roles ∧ (∀ role, db.roles.find? id = some role → ¬body.GoesThrough db role) ∨
      ∃ role data, db.roles.find? id = some role ∧ body.GoesThrough db role ∧
        RbacService.roleData body = .ok data ∧ Replaced db.roles after.roles role (data role))

/-- An edit of a role edits that role. -/
theorem updateRoleBody_edits (id : Id) (body : UpdateRoleBody) (world : StaffWorld) :
    RoleEdited id body world.db (RbacService.updateRoleBody id body world).1.db := by
  cases hFound : world.db.roles.find? id with
  | none =>
      rw [updateRoleBody_missing hFound]
      refine ⟨rfl, rfl, .inl ⟨rfl, fun role hRole => ?_⟩⟩
      rw [hFound] at hRole
      cases hRole
  | some role =>
      have hStored : (world.db.roles.find? id).isSome = true := by
        rw [hFound]
        rfl
      have hOnly {other : Role} (hOther : world.db.roles.find? id = some other) : role = other :=
        Option.some.inj (hFound.symm.trans hOther)
      have hWritten {after : StaffDb} (hEdit : RbacService.editPermissions id body.permissionIds
          world = ({ world with db := after }, .ok ())) (hRoles : after.roles = world.db.roles)
          (hUsers : after.users = world.db.users) (hHas : after.userRoles = world.db.userRoles)
          (hGrants : ∀ requested, body.permissionIds = .value requested →
            ∃ ids, world.db.CanGrant requested ids) :
          RoleEdited id body world.db (RbacService.updateRoleBody id body world).1.db := by
        rcases updateRoleBody_written hFound hEdit hRoles with
          ⟨hWrites, data, roles, answer, hData, hReplaced, hDone⟩ | ⟨hWrites, error, hDone⟩
        · rw [hDone]
          exact ⟨hUsers, hHas, .inr ⟨role, data, hFound, ⟨hGrants, hWrites⟩, hData, hReplaced⟩⟩
        · rw [hDone]
          refine ⟨hUsers, hHas, .inl ⟨hRoles, fun other hOther hThrough => ?_⟩⟩
          obtain rfl := hOnly hOther
          exact hWrites hThrough.2
      rcases @editPermissions_cases id world hStored body.permissionIds with ⟨hNone, hEdit⟩ |
        ⟨requested, hSent, ⟨ids, hGrant, rolePermissions, hEdit, -⟩ | ⟨hRefused, error, hEdit⟩⟩
      · exact hWritten hEdit rfl rfl rfl fun requested hSent => absurd hSent (hNone requested)
      · refine hWritten hEdit rfl rfl rfl fun other hOther => ⟨ids, ?_⟩
        rw [hSent] at hOther
        cases hOther
        exact hGrant
      · rw [updateRoleBody_eq hFound, Script.bind_of_error hEdit]
        refine ⟨rfl, rfl, .inl ⟨rfl, fun other hOther hThrough => ?_⟩⟩
        obtain rfl := hOnly hOther
        obtain ⟨ids, hGrant⟩ := hThrough.1 requested hSent
        exact hRefused ids hGrant

section Renaming
variable {id : Id} {body : UpdateRoleBody} {db after : StaffDb} {role : Role} {data : Role → Role}

/-- The written role is the system's when it was. -/
theorem isSystem_roleData (hData : RbacService.roleData body = .ok data) (role : Role) :
    (data role).isSystem = role.isSystem := by
  obtain ⟨code, -, hRest⟩ := bind_ok hData
  obtain ⟨name, -, hRest⟩ := bind_ok hRest
  obtain ⟨description, -, hReturn⟩ := bind_ok hRest
  cases hReturn
  rfl

/-- A role keeps its code unless another is sent. -/
theorem code_roleData_iff (hData : RbacService.roleData body = .ok data) (role : Role) :
    (data role).code = role.code ↔
      ∀ code, body.code = .value (some code) → Js.toUpperCase code = role.code := by
  obtain ⟨code, hCode, hRest⟩ := bind_ok hData
  obtain ⟨name, -, hRest⟩ := bind_ok hRest
  obtain ⟨description, -, hReturn⟩ := bind_ok hRest
  cases hReturn
  change code.getD role.code = role.code ↔ _
  cases hSent : body.code with
  | absent | null =>
      rw [hSent] at hCode
      cases hCode
      simp
  | value sent =>
      rw [hSent] at hCode
      cases sent with
      | none => cases hCode
      | some sent =>
          cases hCode
          simp

/-- Two roles with one code are one. -/
theorem eq_of_code {other : Role} (hRole : role ∈ db.roles.rows) (hOther : other ∈ db.roles.rows)
    (hCode : role.code = other.code) : role = other :=
  eq_of_clash hRole hOther (Bool.or_eq_true_iff.mpr (.inr (decide_eq_true hCode)))

/-- A renamed role leaves administrators exactly if it was not theirs, or its code is kept. -/
theorem RoleEdited.isAdministered_iff (h : RoleEdited id body db after)
    (hAdministered : db.IsAdministered) : after.IsAdministered ↔
      ∀ role, db.roles.find? id = some role → role.code = "SUPER_ADMIN" →
        body.KeepsCode db role := by
  obtain ⟨userId, hUser, admin, hAdmin, hAdminCode, hHas⟩ := hAdministered
  obtain ⟨hUsers, hUserRoles,
    ⟨hRoles, hNot⟩ | ⟨role, data, hFound, hThrough, hData, hReplaced⟩⟩ := h
  · refine iff_of_true ⟨userId, ?_⟩ fun role hFound _ hThrough =>
      absurd hThrough (hNot role hFound)
    unfold StaffDb.IsAdministrator StaffDb.HasRole
    rw [hUsers, hUserRoles, hRoles]
    exact ⟨hUser, admin, hAdmin, hAdminCode, hHas⟩
  · have hRole := (find?_eq_some_iff.mp hFound).1
    constructor
    · rintro ⟨-, -, other, hOther, hOtherCode, -⟩ found hFound' hCode -
      obtain rfl : role = found := Option.some.inj (hFound.symm.trans hFound')
      rcases (hReplaced.mem_iff other).mp hOther with ⟨hOld, hKey⟩ | rfl
      · obtain rfl := eq_of_code hOld hRole (hOtherCode.trans hCode.symm)
        exact absurd rfl hKey
      · exact (code_roleData_iff hData role).mp (hOtherCode.trans hCode.symm)
    · intro hKeeps
      refine ⟨userId, by rwa [hUsers], ?_⟩
      unfold StaffDb.HasRole
      rw [hUserRoles]
      by_cases hCode : role.code = "SUPER_ADMIN"
      · have hSame := (code_roleData_iff hData role).mpr (hKeeps role hFound hCode hThrough)
        obtain rfl := eq_of_code hAdmin hRole (hAdminCode.trans hCode.symm)
        refine ⟨data admin, hReplaced.mem_new, hSame.trans hCode, ?_⟩
        rw [show (data admin).id = admin.id from hReplaced.key_eq]
        exact hHas
      · have hOther : admin.id ≠ role.id := by
          intro hSame
          rw [eq_of_key hAdmin hRole hSame] at hAdminCode
          exact hCode hAdminCode
        exact ⟨admin, hReplaced.mem_of_ne hAdmin hOther, hAdminCode, hHas⟩

/-- An edited role leaves the administrators' role protected. -/
theorem RoleEdited.isProtected (h : RoleEdited id body db after)
    (hAdministered : db.IsAdministered) (hProtected : db.IsProtected) : after.IsProtected := by
  obtain ⟨-, -, admin, hAdmin, hAdminCode, -⟩ := hAdministered
  obtain ⟨-, -, ⟨hRoles, -⟩ | ⟨role, data, hFound, hThrough, hData, hReplaced⟩⟩ := h
  · unfold StaffDb.IsProtected
    rwa [hRoles]
  · intro other hOther hCode
    rcases (hReplaced.mem_iff other).mp hOther with ⟨hOld, -⟩ | rfl
    · exact hProtected other hOld hCode
    · have hRole := (find?_eq_some_iff.mp hFound).1
      rw [isSystem_roleData hData]
      by_cases hRoleCode : role.code = "SUPER_ADMIN"
      · exact hProtected role hRole hRoleCode
      · obtain ⟨-, data', hData', hFree⟩ := hThrough
        obtain rfl : data = data' := Except.ok.inj (hData.symm.trans hData')
        have hOther : admin.id ≠ role.id := by
          intro hSame
          rw [eq_of_key hAdmin hRole hSame] at hAdminCode
          exact hRoleCode hAdminCode
        exact absurd (hAdminCode.trans hCode.symm) (hFree admin hAdmin hOther)

end Renaming

/-! ### Runs -/

section Operating
variable {world : StaffWorld} {request : OperationRequest} {hashPassword : String → String}

/-- What comes after the statements on the tables does not matter to them. -/
theorem after_bind_db {α β : Type} {script : EditScript α} {next : α → EditScript β}
    (h : ∀ answer world, (next answer world).1.db = world.db) :
    ((script >>= next).after world).db = (script world).1.db := by
  unfold Script.after
  rcases hScript : script world with ⟨after, error | answer⟩
  · rw [Script.bind_of_error hScript]
  · rw [Script.bind_of_ok hScript]
    exact h answer after

/-- The operation behind the guards. -/
theorem script_administered_iff (hAdministered : world.db.IsAdministered)
    (hProtected : world.db.IsProtected) (actor : AuthUser) (now : Timestamp)
    (operation : StaffOperation) :
    ((((operation.script hashPassword actor now).after world).db.IsAdministered ↔
      operation.Spares world.db actor)) ∧
    ((operation.script hashPassword actor now).after world).db.IsProtected := by
  cases operation with
  | createUser dto =>
      have hGrows := createUser_grows hashPassword dto world.db
      unfold StaffOperation.script
      rw [after_bind_db fun _ _ => rfl]
      exact ⟨iff_of_true (hGrows.isAdministered hAdministered) trivial,
        hGrows.isProtected hAdministered hProtected⟩
  | updateUser id body =>
      unfold StaffOperation.script
      rw [after_bind_db fun _ _ => rfl]
      exact ⟨updateBody_administered_iff hAdministered,
        (updateBody_others id body now world).isProtected_iff.mpr hProtected⟩
  | deactivate id =>
      unfold StaffOperation.script
      rw [after_bind_db fun _ _ => rfl]
      exact ⟨deactivate_administered_iff hAdministered actor,
        (deactivate_others id actor world.db).isProtected_iff.mpr hProtected⟩
  | createRole dto =>
      have hGrows := createRole_grows dto world.db
      unfold StaffOperation.script
      rw [after_bind_db fun _ _ => rfl]
      exact ⟨iff_of_true (hGrows.isAdministered hAdministered) trivial,
        hGrows.isProtected hAdministered hProtected⟩
  | updateRole id body =>
      have hEdited := updateRoleBody_edits id body world
      unfold StaffOperation.script
      rw [after_bind_db fun _ _ => rfl]
      exact ⟨hEdited.isAdministered_iff hAdministered, hEdited.isProtected hAdministered hProtected⟩
  | deleteRole id =>
      have hDeleted := deleteRole_administered hAdministered hProtected id
      unfold StaffOperation.script
      rw [after_bind_db fun _ _ => rfl]
      exact ⟨iff_of_true hDeleted.1 trivial, hDeleted.2⟩

/-- An operation leaves an administrator exactly when the request spares one. -/
theorem operate_administered_iff (hAdministered : world.db.IsAdministered)
    (hProtected : world.db.IsProtected) :
    ((operate hashPassword world request).db.IsAdministered ↔
      SparesAdministrator world request) ∧ (operate hashPassword world request).db.IsProtected := by
  unfold operate SparesAdministrator
  cases hActor : AuthGuard.userOf world.db request.actorId with
  | error error =>
      dsimp only
      exact ⟨iff_of_true hAdministered fun _ h => (nomatch h), hProtected⟩
  | ok actor =>
      dsimp only
      cases hAllowed : PermissionGuard.canActivate request.operation.required actor with
      | error error =>
          dsimp only
          refine ⟨iff_of_true hAdministered fun other hOther hOk => ?_, hProtected⟩
          cases hOther
          rw [hAllowed] at hOk
          cases hOk
      | ok _ =>
          dsimp only
          obtain ⟨hIff, hKept⟩ := @script_administered_iff world hashPassword hAdministered
            hProtected actor request.now request.operation
          refine ⟨hIff.trans ⟨fun hSpares other hOther _ => ?_, fun h => h actor rfl hAllowed⟩,
            hKept⟩
          cases hOther
          exact hSpares

end Operating

/-- Along a run there always is an administrator exactly when every request spares one. -/
theorem run_administered_iff (hashPassword : String → String) {world : StaffWorld}
    (hAdministered : world.db.IsAdministered) (hProtected : world.db.IsProtected)
    (requests : List OperationRequest) :
    (∀ reached, reached <+: requests →
      (run (operate hashPassword) world reached).db.IsAdministered) ↔
      Along (operate hashPassword) SparesAdministrator world requests := by
  induction requests generalizing world with
  | nil =>
      refine iff_of_true (fun reached hReached => ?_) trivial
      rw [List.prefix_nil.mp hReached]
      exact hAdministered
  | cons request rest ih =>
      obtain ⟨hIff, hKept⟩ := @operate_administered_iff world request hashPassword hAdministered
        hProtected
      rw [Along, ← hIff]
      constructor
      · intro hAlways
        have hNext : (operate hashPassword world request).db.IsAdministered :=
          hAlways [request] ⟨rest, rfl⟩
        refine ⟨hNext, (ih hNext hKept).mp fun reached hReached => ?_⟩
        exact hAlways (request :: reached) ((List.prefix_cons_inj request).mpr hReached)
      · rintro ⟨hNext, hRest⟩ reached hReached
        cases reached with
        | nil => exact hAdministered
        | cons first reached =>
            obtain ⟨rfl, hRestReached⟩ := List.cons_prefix_cons.mp hReached
            exact (ih hNext hKept).mpr hRest reached hRestReached

/-! ### From the installation -/

/-- The account of the installation is an administrator. -/
theorem seededDb_isAdministered (admin : SeedAdmin) : (seededDb admin).IsAdministered := by
  refine ⟨admin.row.id, ⟨admin.row, List.mem_singleton_self _, rfl, rfl⟩, ?_⟩
  have hRoles : ∃ role ∈ roleRows, role.code = "SUPER_ADMIN" ∧
      role.id = PERMISSION_CODES.length := by
    decide
  obtain ⟨role, hRole, hCode, hId⟩ := hRoles
  refine ⟨role, hRole, hCode, ?_⟩
  unfold StaffDb.HasRole
  rw [hId]
  exact List.mem_singleton_self _

/-- In the seeded tables the administrators' role is protected. -/
theorem seededDb_isProtected (admin : SeedAdmin) : (seededDb admin).IsProtected := by
  have hSystem : ∀ role ∈ roleRows, role.isSystem = true := by decide
  exact fun role hRole _ => hSystem role hRole

/-- The state of the installation, with whatever sessions there are. -/
def seededWorld (admin : SeedAdmin) (sessions : SessionState) : StaffWorld where
  db := seededDb admin
  sessions := sessions

namespace Sample

def installed : StaffWorld :=
  seededWorld ⟨"admin@office", "Admin", "hash"⟩ ⟨fun _ => none, ⟨[], List.Pairwise.nil⟩, []⟩

/-- The only administrator (37) makes the own account inactive. -/
def ownAccountOff : OperationRequest where
  actorId := 37
  operation := .updateUser 37 { active := .value false }
  now := 0

/-- The only administrator gives up the role. -/
def ownRoleLeft : OperationRequest where
  actorId := 37
  operation := .updateUser 37 { roleIds := .value [] }
  now := 0

/-- The role of the administrators (33) gets another code. -/
def roleRenamed : OperationRequest where
  actorId := 37
  operation := .updateRole 33 { code := .value (some "CHIEF") }
  now := 0

end Sample

end PropertyTax
