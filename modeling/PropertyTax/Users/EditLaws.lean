import PropertyTax.Users.Edits
import PropertyTax.Users.Privileges

/-! Where the statements of an edit leave an account or a role: what is written before an
edit throws stays, and which edits end the sessions of the account. -/
namespace PropertyTax
open KeyedTable Scripts

/-! ### Rows of the join tables -/

section JoinRows
variable {ρ : Type} [KeyedRow ρ ρ] {table table' : KeyedTable ρ} {rows : List ρ}

/-- Rows inserted together come last, in their order. -/
theorem insertAll_rows (h : StaffDb.insertAll table rows = .ok table') :
    table'.rows = table.rows ++ rows := by
  unfold StaffDb.insertAll at h
  induction rows generalizing table with
  | nil =>
      cases h
      rw [List.append_nil]
  | cons first rest ih =>
      obtain ⟨middle, hFirst, hRest⟩ := bind_ok h
      rw [ih hRest, insert_rows hFirst, List.append_assoc, List.singleton_append]

/-- The rows are refused as a whole exactly if two of them clash, or one with a stored row. -/
theorem insertAll_isOk_iff : (∃ table', StaffDb.insertAll table rows = .ok table') ↔
    (table.rows ++ rows).Pairwise fun p q => KeyedRow.clash p q = false := by
  constructor
  · rintro ⟨table', h⟩
    rw [← insertAll_rows h]
    exact table'.apart
  · intro h
    induction rows generalizing table with
    | nil => exact ⟨table, rfl⟩
    | cons first rest ih =>
        have hFirst : ∀ row ∈ table.rows, KeyedRow.clash row first = false := by
          intro row hRow
          exact (List.pairwise_append.mp h).2.2 row hRow first List.mem_cons_self
        obtain ⟨middle, hMiddle⟩ := insert_isOk_iff.mpr hFirst
        rw [← List.singleton_append, ← List.append_assoc, ← insert_rows hMiddle] at h
        obtain ⟨table', hRest⟩ := ih h
        refine ⟨table', ?_⟩
        unfold StaffDb.insertAll at hRest ⊢
        rw [List.foldlM_cons, hMiddle]
        exact hRest

/-- Rows of one owner, where the others are of other owners. -/
theorem insertAll_map_isOk_iff {row : Id → ρ} {ids : List Id}
    (hClash : ∀ p q : ρ, KeyedRow.clash p q = false ↔ p ≠ q) (hRow : Function.Injective row)
    (hOthers : ∀ r ∈ table.rows, ∀ id, r ≠ row id) :
    (∃ table', StaffDb.insertAll table (ids.map row) = .ok table') ↔ ids.Nodup := by
  rw [insertAll_isOk_iff, List.pairwise_append, ← List.nodup_map_iff hRow]
  simp only [hClash]
  constructor
  · exact fun h => h.2.1
  · intro h
    refine ⟨table.nodup_rows, h, fun r hOld q hNew => ?_⟩
    obtain ⟨id, -, rfl⟩ := List.mem_map.mp hNew
    exact hOthers r hOld id

end JoinRows

namespace StaffDb

/-- The account has the role. -/
def HasRole (db : StaffDb) (userId roleId : Id) : Prop :=
  (⟨userId, roleId⟩ : UserRole) ∈ db.userRoles.rows

/-- The role has the permission. -/
def Grants (db : StaffDb) (roleId permissionId : Id) : Prop :=
  (⟨roleId, permissionId⟩ : RolePermission) ∈ db.rolePermissions.rows

/-- Roles that can be stored together: known ones, each once. -/
def Assignable (db : StaffDb) (roleIds : List Id) : Prop :=
  roleIds.Nodup ∧ ∀ roleId ∈ roleIds, (db.roles.find? roleId).isSome = true

/-- Permissions that can be stored together. -/
def Grantable (db : StaffDb) (permissionIds : List Id) : Prop :=
  permissionIds.Nodup ∧ ∀ id ∈ permissionIds, (db.permissions.find? id).isSome = true

section Replacing
variable {db : StaffDb} {id : Id} {ids : List Id}

/-- Deleting a user's roles leaves those of the others. -/
theorem mem_deleteUserRoles {row : UserRole} : row ∈ (db.deleteUserRoles id).userRoles.rows ↔
    row ∈ db.userRoles.rows ∧ row.userId ≠ id := by
  simp [deleteUserRoles, restrict]

/-- Deleting a role's permissions leaves those of the others. -/
theorem mem_deleteRolePermissions {row : RolePermission} :
    row ∈ (db.deleteRolePermissions id).rolePermissions.rows ↔
      row ∈ db.rolePermissions.rows ∧ row.roleId ≠ id := by
  simp [deleteRolePermissions, restrict]

/-- The rows refer to something that is not stored. -/
theorem isMissing_iff {α β : Type} {owner : Option α} {find? : Id → Option β} :
    (owner.isNone || ids.any fun id => (find? id).isNone) = true ↔
      ¬(owner.isSome = true ∧ ∀ id ∈ ids, (find? id).isSome = true) := by
  cases owner <;> simp

/-- A user can be given roles that are all different. -/
theorem insertAll_userRoles : (∃ userRoles, insertAll (db.deleteUserRoles id).userRoles
    (ids.map fun roleId => ⟨id, roleId⟩) = .ok userRoles) ↔ ids.Nodup :=
  insertAll_map_isOk_iff (fun _ _ => decide_eq_false_iff_not)
    (fun _ _ hSame => congrArg UserRole.roleId hSame)
    fun _ hRow _ hSame => (mem_deleteUserRoles.mp hRow).2 (congrArg UserRole.userId hSame)

/-- A role can be given permissions that are all different. -/
theorem insertAll_rolePermissions :
    (∃ rolePermissions, insertAll (db.deleteRolePermissions id).rolePermissions
      (ids.map fun permissionId => ⟨id, permissionId⟩) = .ok rolePermissions) ↔ ids.Nodup :=
  insertAll_map_isOk_iff (fun _ _ => decide_eq_false_iff_not)
    (fun _ _ hSame => congrArg RolePermission.permissionId hSame)
    fun _ hRow _ hSame =>
      (mem_deleteRolePermissions.mp hRow).2 (congrArg RolePermission.roleId hSame)

/-- Roles that can be assigned replace those of the user. -/
theorem createUserRoles_ok (hUser : (db.users.find? id).isSome = true) (h : db.Assignable ids) :
    ∃ userRoles : KeyedTable UserRole,
      (db.deleteUserRoles id).createUserRoles insertAll id ids =
        .ok ({ db with userRoles }, ()) ∧
      ∀ row, row ∈ userRoles.rows ↔
        row ∈ db.userRoles.rows ∧ row.userId ≠ id ∨ row.userId = id ∧ row.roleId ∈ ids := by
  obtain ⟨userRoles, hRows⟩ := (@insertAll_userRoles db id ids).mpr h.1
  refine ⟨userRoles, ?_, fun row => ?_⟩
  · unfold createUserRoles
    split_ifs with hMissing
    · exact absurd ⟨hUser, h.2⟩ (isMissing_iff.mp hMissing)
    · rw [hRows]
      rfl
  · rw [insertAll_rows hRows, List.mem_append, mem_deleteUserRoles, List.mem_map]
    refine or_congr_right ⟨?_, ?_⟩
    · rintro ⟨roleId, hId, rfl⟩
      exact ⟨rfl, hId⟩
    · rintro ⟨rfl, hId⟩
      exact ⟨row.roleId, hId, rfl⟩

/-- Roles that cannot be assigned are refused. -/
theorem createUserRoles_error (h : ¬db.Assignable ids) :
    ∃ error, (db.deleteUserRoles id).createUserRoles insertAll id ids = .error error := by
  unfold createUserRoles
  split_ifs with hMissing
  · exact ⟨_, rfl⟩
  · cases hRows : insertAll (db.deleteUserRoles id).userRoles
        (ids.map fun roleId => ⟨id, roleId⟩) with
    | error refusal => exact ⟨.refused refusal, rfl⟩
    | ok userRoles =>
        have hKnown := not_not.mp (mt isMissing_iff.mpr hMissing)
        exact absurd ⟨insertAll_userRoles.mp ⟨userRoles, hRows⟩, hKnown.2⟩ h

/-- What stays of the roles of an account when they are replaced. -/
theorem replaceRoles_ok (hUser : (db.users.find? id).isSome = true) (h : db.Assignable ids) :
    ∃ userRoles : KeyedTable UserRole,
      UsersService.replaceRoles id ids db = ({ db with userRoles }, .ok ()) ∧
      ∀ row, row ∈ userRoles.rows ↔
        row ∈ db.userRoles.rows ∧ row.userId ≠ id ∨ row.userId = id ∧ row.roleId ∈ ids := by
  cases ids with
  | nil =>
      refine ⟨(db.deleteUserRoles id).userRoles, rfl, fun row => ?_⟩
      rw [mem_deleteUserRoles]
      simp
  | cons first rest =>
      obtain ⟨userRoles, hCreate, hRows⟩ := createUserRoles_ok hUser h
      refine ⟨userRoles, ?_, hRows⟩
      change Script.execute _ (db.deleteUserRoles id) = _
      rw [Script.execute, hCreate]

/-- Roles that are refused leave the user without any. -/
theorem replaceRoles_error (h : ¬db.Assignable ids) :
    ∃ error, UsersService.replaceRoles id ids db = (db.deleteUserRoles id, .error error) := by
  cases ids with
  | nil => exact absurd ⟨List.nodup_nil, by simp⟩ h
  | cons first rest =>
      obtain ⟨error, hCreate⟩ := createUserRoles_error h
      refine ⟨error, ?_⟩
      change Script.execute _ (db.deleteUserRoles id) = _
      rw [Script.execute, hCreate]

/-- Permissions that can be granted replace those of the role. -/
theorem createRolePermissions_ok (hRole : (db.roles.find? id).isSome = true)
    (h : db.Grantable ids) :
    ∃ rolePermissions : KeyedTable RolePermission,
      (db.deleteRolePermissions id).createRolePermissions id ids =
        .ok ({ db with rolePermissions }, ()) ∧
      ∀ row, row ∈ rolePermissions.rows ↔
        row ∈ db.rolePermissions.rows ∧ row.roleId ≠ id ∨
          row.roleId = id ∧ row.permissionId ∈ ids := by
  obtain ⟨rolePermissions, hRows⟩ := (@insertAll_rolePermissions db id ids).mpr h.1
  refine ⟨rolePermissions, ?_, fun row => ?_⟩
  · unfold createRolePermissions
    split_ifs with hMissing
    · exact absurd ⟨hRole, h.2⟩ (isMissing_iff.mp hMissing)
    · rw [hRows]
      rfl
  · rw [insertAll_rows hRows, List.mem_append, mem_deleteRolePermissions, List.mem_map]
    refine or_congr_right ⟨?_, ?_⟩
    · rintro ⟨permissionId, hId, rfl⟩
      exact ⟨rfl, hId⟩
    · rintro ⟨rfl, hId⟩
      exact ⟨row.permissionId, hId, rfl⟩

/-- Permissions that cannot be granted are refused. -/
theorem createRolePermissions_error (h : ¬db.Grantable ids) :
    ∃ error, (db.deleteRolePermissions id).createRolePermissions id ids = .error error := by
  unfold createRolePermissions
  split_ifs with hMissing
  · exact ⟨_, rfl⟩
  · cases hRows : insertAll (db.deleteRolePermissions id).rolePermissions
        (ids.map fun permissionId => ⟨id, permissionId⟩) with
    | error refusal => exact ⟨.refused refusal, rfl⟩
    | ok rolePermissions =>
        have hKnown := not_not.mp (mt isMissing_iff.mpr hMissing)
        exact absurd ⟨insertAll_rolePermissions.mp ⟨rolePermissions, hRows⟩, hKnown.2⟩ h

end Replacing

end StaffDb

/-! ### Account edits, case by case -/

namespace UpdateUserBody

/-- The client library refuses the body, before anything is written. -/
def IsRefused (body : UpdateUserBody) : Prop :=
  body.name = .null ∨ body.requestedStatus = .null

/-- The roles are to be replaced. -/
def asksRoles (body : UpdateUserBody) : Bool :=
  body.roleIds.value?.isSome || body.role.value?.isSome

/-- The roles that are to be stored. -/
def resolved (body : UpdateUserBody) (db : StaffDb) : Except StaffError (List Id) :=
  UsersService.resolveRoleIds db body.roleIds.value? body.role.value?

/-- All sessions of the account end. -/
def endsSessions (body : UpdateUserBody) : Bool :=
  body.shouldRevokeSessions || body.rolesChanging

end UpdateUserBody

section AccountEdit
variable {id : Id} {body : UpdateUserBody} {now : Timestamp} {world : StaffWorld} {user : StaffUser}

/-- A query of the staff tables leaves the sessions. -/
theorem onDb_query {α : Type} (read : StaffDb → α) :
    StaffScript.onDb (Script.query read) world = (world, .ok (read world.db)) := rfl

/-- Without the user, nothing is edited. -/
theorem updateBody_missing (hNone : world.db.users.find? id = none) :
    UsersService.updateBody id body now world =
      (world, .error (.staff UsersService.userNotFound)) := by
  unfold UsersService.updateBody
  rw [Script.bind_of_ok (onDb_query _), if_pos (by rw [hNone]; rfl)]
  rfl

/-- A body that the database client refuses edits nothing. -/
theorem updateBody_refused (hFound : world.db.users.find? id = some user) (h : body.IsRefused) :
    UsersService.updateBody id body now world = (world, .error .invalidData) := by
  have hWrite : UsersService.writeUser id body world = (world, .error .invalidData) := by
    have hRefused : (body.name = .null || body.requestedStatus = .null) = true := by
      simpa [UpdateUserBody.IsRefused] using h
    rw [UsersService.writeUser, if_pos hRefused]
    rfl
  unfold UsersService.updateBody
  rw [Script.bind_of_ok (onDb_query _), if_neg (by simp [hFound]), Script.bind_of_error hWrite]

/-- The first statement is never refused. -/
theorem exists_written (hFound : world.db.users.find? id = some user) :
    ∃ users, world.db.users.update id body.apply = .ok users := by
  obtain ⟨hUser, hKey⟩ := find?_eq_some_iff.mp hFound
  refine update_isOk hUser hKey fun other hOther hNe => ?_
  exact eq_false_of_ne_true fun hClash => hNe (eq_of_clash hOther hUser hClash)

/-- The written user is rewritten in its place. -/
theorem written_replaced (hFound : world.db.users.find? id = some user)
    {users : KeyedTable StaffUser} (hUsers : world.db.users.update id body.apply = .ok users) :
    Replaced world.db.users users user (body.apply user) := by
  obtain ⟨hUser, hKey⟩ := find?_eq_some_iff.mp hFound
  exact replaced_of_update hUsers hUser hKey rfl

/-- The written user is found under its key. -/
theorem find?_written (hFound : world.db.users.find? id = some user)
    {users : KeyedTable StaffUser} (hUsers : world.db.users.update id body.apply = .ok users) :
    users.find? id = some (body.apply user) := by
  obtain ⟨-, hKey⟩ := find?_eq_some_iff.mp hFound
  rw [← hKey]
  exact (written_replaced hFound hUsers).find?_new

section Assigning
variable {db : StaffDb}

/-- Everything that the assignment of roles can do. -/
theorem assignRoles_cases (hUser : (db.users.find? id).isSome = true) :
    body.asksRoles = false ∧ UsersService.assignRoles id body.roles db = (db, .ok ()) ∨
    body.asksRoles = true ∧
      ((∃ error, body.resolved db = .error error ∧
          UsersService.assignRoles id body.roles db = (db, .error error)) ∨
        ∃ roleIds, body.resolved db = .ok roleIds ∧
          (db.Assignable roleIds ∧
              (∃ userRoles : KeyedTable UserRole,
                UsersService.assignRoles id body.roles db = ({ db with userRoles }, .ok ()) ∧
                ∀ row, row ∈ userRoles.rows ↔ row ∈ db.userRoles.rows ∧ row.userId ≠ id ∨
                  row.userId = id ∧ row.roleId ∈ roleIds) ∨
            ¬db.Assignable roleIds ∧ ∃ error, UsersService.assignRoles id body.roles db =
              (db.deleteUserRoles id, .error error))) := by
  have hAsked : (body.roles.roleIds.isSome || body.roles.role.isSome) = body.asksRoles := rfl
  have hResolved : UsersService.resolveRoleIds db body.roles.roleIds body.roles.role =
      body.resolved db := rfl
  unfold UsersService.assignRoles
  rw [hAsked]
  cases hAsks : body.asksRoles with
  | false => exact .inl ⟨rfl, rfl⟩
  | true =>
      rw [if_pos rfl, Script.query_bind, hResolved]
      refine .inr ⟨rfl, ?_⟩
      cases body.resolved db with
      | error error => exact .inl ⟨error, rfl, rfl⟩
      | ok roleIds =>
          refine .inr ⟨roleIds, rfl, ?_⟩
          by_cases hAssignable : db.Assignable roleIds
          · exact .inl ⟨hAssignable, StaffDb.replaceRoles_ok hUser hAssignable⟩
          · exact .inr ⟨hAssignable, StaffDb.replaceRoles_error hAssignable⟩

end Assigning

section Written
variable (hFound : world.db.users.find? id = some user) (h : ¬body.IsRefused)
  {users : KeyedTable StaffUser} (hUsers : world.db.users.update id body.apply = .ok users)
include hFound h hUsers

/-- After the user is written come the roles, the sessions and the answer. -/
theorem updateBody_eq : UsersService.updateBody id body now world =
    (StaffScript.onDb (UsersService.assignRoles id body.roles) >>= fun _ =>
      Script.when body.endsSessions (revokeAllUserSessions id now) >>= fun _ =>
        StaffScript.onDb (Script.execute (UsersService.safeUser · id)))
      { world with db := { world.db with users } } := by
  have hWrite : UsersService.writeUser id body world =
      ({ world with db := { world.db with users } }, .ok ()) := by
    have hWritten : ¬((body.name = .null || body.requestedStatus = .null) = true) := by
      simpa [UpdateUserBody.IsRefused] using h
    have hUpdate : StaffDb.updateUser id body.apply world.db =
        .ok ({ world.db with users }, ()) := by
      rw [StaffDb.updateUser, hUsers]
      rfl
    rw [UsersService.writeUser, if_neg hWritten, StaffScript.onDb, Script.execute, hUpdate]
    rfl
  unfold UsersService.updateBody
  rw [Script.bind_of_ok (onDb_query _), if_neg (by simp [hFound]), Script.bind_of_ok hWrite]
  rfl

/-- Where the roles are refused, the user stays written. -/
theorem updateBody_error {after : StaffDb} {error : StaffError}
    (hAssign : UsersService.assignRoles id body.roles { world.db with users } =
      (after, .error error)) :
    UsersService.updateBody id body now world =
      ({ world with db := after }, .error (.staff error)) := by
  rw [updateBody_eq hFound h hUsers]
  refine Script.bind_of_error ?_
  rw [StaffScript.onDb, hAssign]
  rfl

/-- Where the roles are assigned, the edit answers. -/
theorem updateBody_ok {after : StaffDb}
    (hAssign : UsersService.assignRoles id body.roles { world.db with users } =
      (after, .ok ())) (hAfter : after.users = users) :
    ∃ answer, UsersService.updateBody id body now world =
      ({ db := after
         sessions := if body.endsSessions
           then (SessionCalls.revokeAllUserSessions id none now world.sessions).2
           else world.sessions }, .ok answer) := by
  have hOnDb : StaffScript.onDb (UsersService.assignRoles id body.roles)
      { world with db := { world.db with users } } = ({ world with db := after }, .ok ()) := by
    rw [StaffScript.onDb, hAssign]
    rfl
  have hRevoke : Script.when body.endsSessions (revokeAllUserSessions id now)
      { world with db := after } =
        ({ db := after
           sessions := if body.endsSessions
             then (SessionCalls.revokeAllUserSessions id none now world.sessions).2
             else world.sessions }, .ok ()) := by
    cases body.endsSessions <;> rfl
  have hWritten : after.users.find? id = some (body.apply user) := by
    rw [hAfter]
    exact find?_written hFound hUsers
  refine ⟨UsersService.toSafeUser after (body.apply user), ?_⟩
  rw [updateBody_eq hFound h hUsers, Script.bind_of_ok hOnDb, Script.bind_of_ok hRevoke,
    StaffScript.onDb, Script.execute]
  simp only [UsersService.safeUser, hWritten]
  rfl

end Written

/-- What is seen of an account, apart from its roles. -/
def StaffUser.shown (user : StaffUser) : String × Option String × UserStatus :=
  (user.name, user.phone, user.status)

/-- Name, phone, status and roles of the account are what they were. -/
def SameStaff (id : Id) (world after : StaffWorld) : Prop :=
  (after.db.users.find? id).map StaffUser.shown = (world.db.users.find? id).map StaffUser.shown ∧
    ∀ roleId, after.db.HasRole id roleId ↔ world.db.HasRole id roleId

/-- The edit throws nothing, or nothing after a write that shows. -/
def UpdateUserBody.IsAtomic (body : UpdateUserBody) (db : StaffDb) (user : StaffUser) : Prop :=
  body.IsRefused ∨ body.asksRoles = false ∨
    (∃ roleIds, body.resolved db = .ok roleIds ∧ db.Assignable roleIds) ∨
    ((body.apply user).shown = user.shown ∧
      ((∃ error, body.resolved db = .error error) ∨ ∀ roleId, ¬db.HasRole user.id roleId))

/-- When a written user shows as before. -/
theorem sameStaff_written_iff (hFound : world.db.users.find? id = some user)
    {users : KeyedTable StaffUser} (hUsers : world.db.users.update id body.apply = .ok users)
    {after : StaffWorld} (hAfter : after.db.users = users) : SameStaff id world after ↔
      (body.apply user).shown = user.shown ∧
        ∀ roleId, after.db.HasRole id roleId ↔ world.db.HasRole id roleId := by
  rw [SameStaff, hAfter, find?_written hFound hUsers, hFound, Option.map_some, Option.map_some,
    Option.some_inj]

/-- When a user whose roles were deleted shows as before. -/
theorem sameStaff_deleted_iff (hFound : world.db.users.find? id = some user)
    {users : KeyedTable StaffUser} (hUsers : world.db.users.update id body.apply = .ok users) :
    SameStaff id world
        { world with db := ({ world.db with users } : StaffDb).deleteUserRoles id } ↔
      (body.apply user).shown = user.shown ∧ ∀ roleId, ¬world.db.HasRole id roleId := by
  rw [sameStaff_written_iff hFound hUsers rfl]
  refine and_congr_right fun _ => forall_congr' fun roleId => ?_
  have hNone : ¬(({ world.db with users } : StaffDb).deleteUserRoles id).HasRole id roleId :=
    fun hRole => (StaffDb.mem_deleteUserRoles.mp hRole).2 rfl
  exact iff_false_left hNone

/-- A failed edit leaves the user as before exactly when the body is atomic there. -/
theorem updateBody_atomic_iff (hFound : world.db.users.find? id = some user) :
    (∀ error, (UsersService.updateBody id body now world).2 = .error error →
      SameStaff id world (UsersService.updateBody id body now world).1) ↔
      body.IsAtomic world.db user := by
  by_cases hRefused : body.IsRefused
  · rw [updateBody_refused hFound hRefused]
    exact iff_of_true (fun _ _ => ⟨rfl, fun _ => Iff.rfl⟩) (.inl hRefused)
  obtain ⟨users, hUsers⟩ : ∃ users, world.db.users.update id body.apply = .ok users :=
    exists_written hFound
  have hUser : (users.find? id).isSome = true := by
    rw [find?_written hFound hUsers]
    rfl
  have hId : user.id = id := (find?_eq_some_iff.mp hFound).2
  rcases @assignRoles_cases id body { world.db with users } hUser with ⟨hAsks, hAssign⟩ |
    ⟨hAsks, ⟨error, hResolved, hAssign⟩ | ⟨roleIds, hResolved,
      ⟨hAssignable, userRoles, hAssign, -⟩ | ⟨hAssignable, error, hAssign⟩⟩⟩
  · obtain ⟨answer, hDone⟩ := updateBody_ok hFound hRefused hUsers hAssign rfl
    rw [hDone]
    exact iff_of_true (fun error hError => nomatch hError) (.inr (.inl hAsks))
  · have hResolved : body.resolved world.db = .error error := hResolved
    rw [updateBody_error hFound hRefused hUsers hAssign]
    simp [sameStaff_written_iff hFound hUsers, UpdateUserBody.IsAtomic, hRefused, hAsks,
      hResolved, StaffDb.HasRole]
  · obtain ⟨answer, hDone⟩ := updateBody_ok hFound hRefused hUsers hAssign rfl
    rw [hDone]
    exact iff_of_true (fun error hError => nomatch hError)
      (.inr (.inr (.inl ⟨roleIds, hResolved, hAssignable⟩)))
  · have hResolved : body.resolved world.db = .ok roleIds := hResolved
    have hAssignable : ¬world.db.Assignable roleIds := hAssignable
    have hSame := sameStaff_deleted_iff hFound hUsers
    rw [updateBody_error hFound hRefused hUsers hAssign]
    simp [hSame, UpdateUserBody.IsAtomic, hRefused, hAsks, hResolved, hAssignable, hId]

/-- The account has other roles than before, or is active no more. -/
def LosesRights (id : Id) (world after : StaffWorld) : Prop :=
  (∃ roleId, ¬(after.db.HasRole id roleId ↔ world.db.HasRole id roleId)) ∨
    (world.db.users.find? id).map StaffUser.status = some .active ∧
      (after.db.users.find? id).map StaffUser.status ≠ some .active

/-- No session of the account is open. -/
def SessionsEnded (id : Id) (world : StaffWorld) : Prop :=
  ∀ row ∈ world.sessions.sessions.rows, row.userId = id → row.revokedAt ≠ none

/-- An edit that ends no sessions, though it may give the account the roles of an operator. -/
def UpdateUserBody.EndsInTime (body : UpdateUserBody) (world : StaffWorld) (user : StaffUser) :
    Prop :=
  body.IsRefused ∨ body.endsSessions = true ∨ body.asksRoles = false ∨
    SessionsEnded user.id world ∨
    ∀ roleId, world.db.HasRole user.id roleId ↔
      (world.db.roleByCode? "OPERATOR").map Role.id = some roleId

/-- After a revocation, the user's sessions have ended. -/
theorem sessionsEnded_revoked (sessions : SessionState) (db : StaffDb) : SessionsEnded id
    ⟨db, (SessionCalls.revokeAllUserSessions id none now sessions).2⟩ := by
  intro row hRow hUser
  obtain ⟨old, -, rfl⟩ := List.mem_map.mp hRow
  unfold SessionState.revokeIf at hUser ⊢
  split_ifs at hUser ⊢ with hOpen
  · simp
  · simpa [SessionCalls.ofUser, hUser] using hOpen

/-- An edit that ends no session makes no one inactive. -/
theorem status_of_not_endsSessions (h : body.endsSessions = false) (user : StaffUser) :
    (body.apply user).status = user.status ∨ (body.apply user).status = .active := by
  have hStatus : body.shouldRevokeSessions = false := (Bool.or_eq_false_iff.mp h).1
  unfold UpdateUserBody.shouldRevokeSessions at hStatus
  unfold UpdateUserBody.apply
  rcases hSent : body.requestedStatus with _ | _ | _ | _ | _
  · exact .inl rfl
  · exact .inl rfl
  · exact .inr rfl
  · simp [hSent] at hStatus
  · simp [hSent] at hStatus

/-- Such an edit asks for no roles in particular. -/
theorem resolved_of_not_endsSessions (h : body.endsSessions = false) (hAsks : body.asksRoles = true)
    (db : StaffDb) :
    body.resolved db = .ok ((db.roleByCode? "OPERATOR").map Role.id).toList := by
  have hRoles : body.rolesChanging = false := (Bool.or_eq_false_iff.mp h).2
  obtain ⟨hIds, hRole⟩ := Bool.or_eq_false_iff.mp hRoles
  have hNone : body.role.value? = none := by simpa using hRole
  unfold UpdateUserBody.asksRoles at hAsks
  unfold UpdateUserBody.resolved
  rw [hNone] at hAsks ⊢
  rcases hSent : body.roleIds.value? with _ | _ | _
  · simp [hSent] at hAsks
  · rfl
  · simp [hSent] at hIds

/-- The role of an operator can always be assigned. -/
theorem assignable_operator (db : StaffDb) :
    db.Assignable ((db.roleByCode? "OPERATOR").map Role.id).toList := by
  cases hRole : db.roleByCode? "OPERATOR" with
  | none => exact ⟨List.nodup_nil, by simp⟩
  | some role =>
      have hFound : db.roles.find? role.id = some role :=
        find?_eq_some_iff.mpr ⟨List.mem_of_find?_eq_some hRole, rfl⟩
      refine ⟨List.nodup_singleton _, fun roleId hMem => ?_⟩
      obtain rfl : roleId = role.id := List.mem_singleton.mp hMem
      rw [hFound]
      rfl

/-- Without a new status, only the roles count. -/
theorem losesRights_written_iff (hFound : world.db.users.find? id = some user)
    {users : KeyedTable StaffUser} (hUsers : world.db.users.update id body.apply = .ok users)
    (hEnds : body.endsSessions = false) {after : StaffWorld} (hAfter : after.db.users = users) :
    LosesRights id world after ↔
      ∃ roleId, ¬(after.db.HasRole id roleId ↔ world.db.HasRole id roleId) := by
  have hStays : ¬(user.status = .active ∧ (body.apply user).status ≠ .active) := by
    rintro ⟨hActive, hLeft⟩
    rcases status_of_not_endsSessions hEnds user with hSame | hSet
    · exact hLeft (hSame.trans hActive)
    · exact hLeft hSet
  rw [LosesRights, hAfter, find?_written hFound hUsers, hFound, Option.map_some, Option.map_some]
  simp only [Option.some_inj, ne_eq]
  exact or_iff_left hStays

/-- Lost rights end the sessions exactly when the body ends them in time. -/
theorem updateBody_revokes_iff (hFound : world.db.users.find? id = some user) :
    (∀ answer, (UsersService.updateBody id body now world).2 = .ok answer →
      LosesRights id world (UsersService.updateBody id body now world).1 →
        SessionsEnded id (UsersService.updateBody id body now world).1) ↔
      body.EndsInTime world user := by
  have hId : user.id = id := (find?_eq_some_iff.mp hFound).2
  by_cases hRefused : body.IsRefused
  · rw [updateBody_refused hFound hRefused]
    exact iff_of_true (fun _ hAnswer => nomatch hAnswer) (.inl hRefused)
  obtain ⟨users, hUsers⟩ : ∃ users, world.db.users.update id body.apply = .ok users :=
    exists_written hFound
  have hWritten := find?_written hFound hUsers
  have hUser : (users.find? id).isSome = true := by
    rw [hWritten]
    rfl
  cases hEnds : body.endsSessions with
  | true =>
      refine iff_of_true (fun answer hAnswer _ => ?_) (.inr (.inl hEnds))
      have hOk {after : StaffDb} (hAssign : UsersService.assignRoles id body.roles
          { world.db with users } = (after, .ok ())) (hAfter : after.users = users) :
          SessionsEnded id (UsersService.updateBody id body now world).1 := by
        obtain ⟨answer, hDone⟩ := updateBody_ok hFound hRefused hUsers hAssign hAfter
        rw [hDone, hEnds]
        exact sessionsEnded_revoked world.sessions after
      have hError {after : StaffDb} {error : StaffError} (hAssign : UsersService.assignRoles id
          body.roles { world.db with users } = (after, .error error)) : False := by
        rw [updateBody_error hFound hRefused hUsers hAssign] at hAnswer
        cases hAnswer
      rcases @assignRoles_cases id body { world.db with users } hUser with ⟨-, hAssign⟩ |
        ⟨-, ⟨error, -, hAssign⟩ | ⟨roleIds, -, ⟨-, userRoles, hAssign, -⟩ | ⟨-, error, hAssign⟩⟩⟩
      · exact hOk hAssign rfl
      · exact (hError hAssign).elim
      · exact hOk hAssign rfl
      · exact (hError hAssign).elim
  | false =>
      rcases @assignRoles_cases id body { world.db with users } hUser with ⟨hAsks, hAssign⟩ |
        ⟨hAsks, ⟨error, hResolved, -⟩ | ⟨roleIds, hResolved, hReplaced⟩⟩
      · obtain ⟨answer, hDone⟩ := updateBody_ok hFound hRefused hUsers hAssign rfl
        refine iff_of_true (fun _ _ hLoses => ?_) (.inr (.inr (.inl hAsks)))
        rw [hDone, losesRights_written_iff hFound hUsers hEnds rfl] at hLoses
        obtain ⟨roleId, hChanged⟩ := hLoses
        exact absurd Iff.rfl hChanged
      · rw [resolved_of_not_endsSessions hEnds hAsks] at hResolved
        cases hResolved
      · rw [resolved_of_not_endsSessions hEnds hAsks] at hResolved
        cases hResolved
        rcases hReplaced with ⟨-, userRoles, hAssign, hRows⟩ | ⟨hNot, -⟩
        · obtain ⟨answer, hDone⟩ := updateBody_ok hFound hRefused hUsers hAssign rfl
          have hRole (roleId : Id) :
              ({ world.db with users, userRoles } : StaffDb).HasRole id roleId ↔
                (world.db.roleByCode? "OPERATOR").map Role.id = some roleId := by
            rw [StaffDb.HasRole, hRows]
            simp [StaffDb.roleByCode?]
          have hEnded : SessionsEnded id ⟨{ world.db with users, userRoles }, world.sessions⟩ ↔
              SessionsEnded user.id world := by
            rw [hId]
            exact Iff.rfl
          rw [hDone, losesRights_written_iff hFound hUsers hEnds rfl, hEnds]
          simp only [Bool.false_eq_true, if_false, hRole, hEnded, UpdateUserBody.EndsInTime,
            hRefused, hEnds, hAsks, hId, false_or, Except.ok.injEq, forall_eq', Bool.true_eq_false]
          by_cases hAll : SessionsEnded id world
          · simp [hAll]
          · simp only [hAll, imp_false, not_exists, not_not, false_or]
            exact forall_congr' fun _ => iff_comm
        · exact absurd (assignable_operator _) hNot

end AccountEdit

/-! ### Role edits, case by case -/

/-- The permissions that a body asks for can be stored. -/
def StaffDb.CanGrant (db : StaffDb) (requested : Option (List (Option Id))) (ids : List Id) :
    Prop :=
  requested = some (ids.map some) ∧ db.Grantable ids

/-- The columns of the role can be written: every field has its type, and no other role has
the code. -/
def UpdateRoleBody.IsWritable (body : UpdateRoleBody) (db : StaffDb) (role : Role) : Prop :=
  ∃ data, RbacService.roleData body = .ok data ∧
    ∀ other ∈ db.roles.rows, other.id ≠ role.id → other.code ≠ (data role).code

/-- The edit throws nothing, or nothing after a write that shows. -/
def UpdateRoleBody.IsAtomic (body : UpdateRoleBody) (db : StaffDb) (role : Role) : Prop :=
  ∀ requested, body.permissionIds = .value requested →
    (∃ ids, db.CanGrant requested ids ∧
      (body.IsWritable db role ∨ ∀ id, id ∈ ids ↔ db.Grants role.id id)) ∨
    (∀ ids, ¬db.CanGrant requested ids) ∧ ∀ id, ¬db.Grants role.id id

def Role.shown (role : Role) : String × String := (role.code, role.name)

/-- Code, name and permissions of the role are what they were. -/
def SameRole (id : Id) (world after : StaffWorld) : Prop :=
  (after.db.roles.find? id).map Role.shown = (world.db.roles.find? id).map Role.shown ∧
    ∀ permissionId, after.db.Grants id permissionId ↔ world.db.Grants id permissionId

section RoleEdit
variable {id : Id} {body : UpdateRoleBody} {world : StaffWorld} {role : Role}

/-- Identifiers are all given when none is missing. -/
theorem mapM_eq_some_iff {permissionIds : List (Option Id)} {ids : List Id} :
    permissionIds.mapM (fun permissionId => permissionId) = some ids ↔
      permissionIds = ids.map some := by
  constructor
  · intro h
    induction permissionIds generalizing ids with
    | nil =>
        cases h
        rfl
    | cons first rest ih =>
        rw [List.mapM_cons] at h
        cases first with
        | none => cases h
        | some first =>
            cases hRest : rest.mapM fun permissionId => permissionId with
            | none =>
                rw [hRest] at h
                cases h
            | some restIds =>
                rw [hRest] at h
                cases h
                rw [ih hRest]
                rfl
  · rintro rfl
    induction ids with
    | nil => rfl
    | cons first rest ih =>
        rw [List.map_cons, List.mapM_cons, ih]
        rfl

/-- Rows are inserted, or the statement before stays alone. -/
theorem insertGrants_cases (hRole : (world.db.roles.find? id).isSome = true)
    (permissionIds : List (Option Id)) :
    (∃ ids, world.db.CanGrant (some permissionIds) ids ∧
      ∃ rolePermissions : KeyedTable RolePermission,
        RbacService.insertGrants id permissionIds
            { world with db := world.db.deleteRolePermissions id } =
          ({ world with db := { world.db with rolePermissions } }, .ok ()) ∧
        ∀ row, row ∈ rolePermissions.rows ↔ row ∈ world.db.rolePermissions.rows ∧
          row.roleId ≠ id ∨ row.roleId = id ∧ row.permissionId ∈ ids) ∨
    (∀ ids, ¬world.db.CanGrant (some permissionIds) ids) ∧
      ∃ error, RbacService.insertGrants id permissionIds
          { world with db := world.db.deleteRolePermissions id } =
        ({ world with db := world.db.deleteRolePermissions id }, .error error) := by
  unfold RbacService.insertGrants
  cases hIds : permissionIds.mapM fun permissionId => permissionId with
  | none =>
      refine .inr ⟨fun ids hGrant => ?_, EditError.invalidData, rfl⟩
      rw [mapM_eq_some_iff.mpr (Option.some.inj hGrant.1)] at hIds
      cases hIds
  | some ids =>
      have hList := mapM_eq_some_iff.mp hIds
      by_cases hGrantable : world.db.Grantable ids
      · obtain ⟨rolePermissions, hCreate, hRows⟩ :=
          StaffDb.createRolePermissions_ok hRole hGrantable
        refine .inl ⟨ids, ⟨congrArg some hList, hGrantable⟩, rolePermissions, ?_, hRows⟩
        dsimp only
        rw [StaffScript.onDb, Script.execute, hCreate]
        rfl
      · obtain ⟨error, hCreate⟩ := @StaffDb.createRolePermissions_error world.db id ids hGrantable
        refine .inr ⟨fun others hGrant => hGrantable ?_, .staff error, ?_⟩
        · have hSame : others.map some = ids.map some := (Option.some.inj hGrant.1).symm.trans hList
          rw [← List.map_injective_iff.mpr (Option.some_injective Id) hSame]
          exact hGrant.2
        · dsimp only
          rw [StaffScript.onDb, Script.execute, hCreate]
          rfl

/-- Everything that the edit of the permissions can do. -/
theorem editPermissions_cases (hRole : (world.db.roles.find? id).isSome = true)
    (sent : Sent (Option (List (Option Id)))) :
    (∀ requested, sent ≠ .value requested) ∧
        RbacService.editPermissions id sent world = (world, .ok ()) ∨
    ∃ requested, sent = .value requested ∧
      ((∃ ids, world.db.CanGrant requested ids ∧
        ∃ rolePermissions : KeyedTable RolePermission,
          RbacService.editPermissions id sent world =
            ({ world with db := { world.db with rolePermissions } }, .ok ()) ∧
          ∀ row, row ∈ rolePermissions.rows ↔ row ∈ world.db.rolePermissions.rows ∧
            row.roleId ≠ id ∨ row.roleId = id ∧ row.permissionId ∈ ids) ∨
      (∀ ids, ¬world.db.CanGrant requested ids) ∧
        ∃ error, RbacService.editPermissions id sent world =
          ({ world with db := world.db.deleteRolePermissions id }, .error error)) := by
  cases sent with
  | absent => exact .inl ⟨fun _ h => (nomatch h), rfl⟩
  | null => exact .inl ⟨fun _ h => (nomatch h), rfl⟩
  | value requested =>
      refine .inr ⟨requested, rfl, ?_⟩
      cases requested with
      | none => exact .inr ⟨fun ids h => (nomatch h.1), EditError.typeError, rfl⟩
      | some permissionIds => exact insertGrants_cases hRole permissionIds

/-- The written role keeps its key. -/
theorem id_roleData {data : Role → Role} (hData : RbacService.roleData body = .ok data)
    (role : Role) : (data role).id = role.id := by
  obtain ⟨code, -, hRest⟩ := bind_ok hData
  obtain ⟨name, -, hRest⟩ := bind_ok hRest
  obtain ⟨description, -, hReturn⟩ := bind_ok hRest
  cases hReturn
  rfl

/-- The last write stands alone: it is made as a whole, or refused. -/
theorem writeRole_cases (hFound : world.db.roles.find? id = some role) :
    (body.IsWritable world.db role ∧ ∃ data roles, RbacService.roleData body = .ok data ∧
      Replaced world.db.roles roles role (data role) ∧
      RbacService.writeRole id body world =
        ({ world with db := { world.db with roles } }, .ok ())) ∨
    ¬body.IsWritable world.db role ∧
      ∃ error, RbacService.writeRole id body world = (world, .error error) := by
  obtain ⟨hRole, hId⟩ := find?_eq_some_iff.mp hFound
  unfold RbacService.writeRole
  cases hData : RbacService.roleData body with
  | error error =>
      refine .inr ⟨?_, error, rfl⟩
      rintro ⟨data, hOk, -⟩
      rw [hData] at hOk
      cases hOk
  | ok data =>
      have hKept := id_roleData hData role
      by_cases hFree : ∀ other ∈ world.db.roles.rows, other.id ≠ role.id →
          other.code ≠ (data role).code
      · have hApart : ∀ other ∈ world.db.roles.rows, other ≠ role →
            KeyedRow.clash other (data role) = false := by
          intro other hOther hNe
          have hOtherId : other.id ≠ role.id := fun hSame => hNe (eq_of_key hOther hRole hSame)
          exact Bool.or_eq_false_iff.mpr ⟨decide_eq_false (by rwa [hKept]),
            decide_eq_false (hFree other hOther hOtherId)⟩
        obtain ⟨roles, hUpdate⟩ := update_isOk hRole hId hApart
        refine .inl ⟨⟨data, hData, hFree⟩, data, roles, rfl,
          replaced_of_update hUpdate hRole hId hKept, ?_⟩
        dsimp only
        rw [StaffScript.onDb, Script.execute, StaffDb.updateRole, hUpdate]
        rfl
      · refine .inr ⟨?_, .staff (.refused .uniqueViolation), ?_⟩
        · rintro ⟨data', hData', hFree'⟩
          rw [hData] at hData'
          cases hData'
          exact hFree hFree'
        · push Not at hFree
          obtain ⟨other, hOther, hOtherId, hCode⟩ := hFree
          have hClash : KeyedRow.clash other (data role) = true :=
            Bool.or_eq_true_iff.mpr (.inr (decide_eq_true hCode))
          have hUpdate := update_refused hRole hId (hKept.trans hId) hOther
            (fun hSame => hOtherId (hSame.trans hId.symm)) hClash
          dsimp only
          rw [StaffScript.onDb, Script.execute, StaffDb.updateRole, hUpdate]
          rfl

/-- Without the role, nothing is edited. -/
theorem updateRoleBody_missing (hNone : world.db.roles.find? id = none) :
    RbacService.updateRoleBody id body world = (world,
      .error (.staff (.api (.notFound (some "ROLE_NOT_FOUND") "Role not found")))) := by
  unfold RbacService.updateRoleBody
  rw [Script.bind_of_ok (onDb_query _), if_pos (by rw [hNone]; rfl)]
  rfl

/-- First the permissions are edited, then the role is written and answered. -/
theorem updateRoleBody_eq (hFound : world.db.roles.find? id = some role) :
    RbacService.updateRoleBody id body world =
      (RbacService.editPermissions id body.permissionIds >>= fun _ =>
        RbacService.writeRole id body >>= fun _ =>
          StaffScript.onDb (Script.execute (RbacService.withPermissions · id))) world := by
  unfold RbacService.updateRoleBody
  rw [Script.bind_of_ok (onDb_query _), if_neg (by simp [hFound])]

/-- What is left when the columns are refused is what the permissions left. -/
theorem updateRoleBody_written (hFound : world.db.roles.find? id = some role) {after : StaffDb}
    (hEdit : RbacService.editPermissions id body.permissionIds world =
      ({ world with db := after }, .ok ())) (hRoles : after.roles = world.db.roles) :
    (body.IsWritable world.db role ∧ ∃ data roles answer,
      RbacService.roleData body = .ok data ∧ Replaced world.db.roles roles role (data role) ∧
      RbacService.updateRoleBody id body world =
        ({ world with db := { after with roles } }, .ok answer)) ∨
    ¬body.IsWritable world.db role ∧ ∃ error,
      RbacService.updateRoleBody id body world = ({ world with db := after }, .error error) := by
  have hAfter : after.roles.find? id = some role := by rw [hRoles, hFound]
  have hWritable : body.IsWritable after role ↔ body.IsWritable world.db role := by
    unfold UpdateRoleBody.IsWritable
    rw [hRoles]
  rw [updateRoleBody_eq hFound, Script.bind_of_ok hEdit]
  rcases @writeRole_cases id body { world with db := after } role hAfter with
    ⟨hWrites, data, roles, hData, hReplaced, hWrite⟩ | ⟨hWrites, error, hWrite⟩
  · have hWritten := hReplaced.find?_new
    rw [show KeyedRow.key role = id from (find?_eq_some_iff.mp hFound).2] at hWritten
    change Replaced after.roles roles role (data role) at hReplaced
    rw [hRoles] at hReplaced
    refine .inl ⟨hWritable.mp hWrites, data, roles,
      ⟨data role, ({ after with roles } : StaffDb).permissionsOf id⟩, hData, hReplaced, ?_⟩
    rw [Script.bind_of_ok hWrite, StaffScript.onDb, Script.execute]
    simp only [RbacService.withPermissions, hWritten]
    rfl
  · exact .inr ⟨mt hWritable.mpr hWrites, error, Script.bind_of_error hWrite⟩

/-- What can be granted is determined. -/
theorem StaffDb.CanGrant.unique {db : StaffDb} {requested : Option (List (Option Id))}
    {ids others : List Id} (h : db.CanGrant requested ids) (h' : db.CanGrant requested others) :
    others = ids :=
  List.map_injective_iff.mpr (Option.some_injective Id)
    (Option.some.inj (h'.1.symm.trans h.1))

/-- Roles that no write has reached. -/
theorem sameRole_iff {after : StaffWorld} (hRoles : after.db.roles = world.db.roles) :
    SameRole id world after ↔
      ∀ permissionId, after.db.Grants id permissionId ↔ world.db.Grants id permissionId := by
  rw [SameRole, hRoles]
  exact and_iff_right rfl

/-- A failed edit leaves the role as before exactly when the body is atomic there. -/
theorem updateRoleBody_atomic_iff (hFound : world.db.roles.find? id = some role) :
    (∀ error, (RbacService.updateRoleBody id body world).2 = .error error →
      SameRole id world (RbacService.updateRoleBody id body world).1) ↔
      body.IsAtomic world.db role := by
  have hStored : (world.db.roles.find? id).isSome = true := by
    rw [hFound]
    rfl
  have hId : role.id = id := (find?_eq_some_iff.mp hFound).2
  rcases @editPermissions_cases id world hStored body.permissionIds with ⟨hNone, hEdit⟩ |
    ⟨requested, hSent, ⟨ids, hGrant, rolePermissions, hEdit, hRows⟩ | ⟨hRefused, error, hEdit⟩⟩
  · refine iff_of_true (fun error hError => ?_)
      fun requested hSent => absurd hSent (hNone requested)
    rcases updateRoleBody_written hFound hEdit rfl with
      ⟨-, data, roles, answer, -, -, hDone⟩ | ⟨-, e, hDone⟩
    · rw [hDone] at hError
      cases hError
    · rw [hDone]
      exact ⟨rfl, fun _ => Iff.rfl⟩
  · have hGrants (permissionId : Id) :
        ({ world.db with rolePermissions } : StaffDb).Grants id permissionId ↔
          permissionId ∈ ids := by
      rw [StaffDb.Grants, hRows]
      simp
    rcases updateRoleBody_written hFound hEdit rfl with
      ⟨hWrites, data, roles, answer, -, -, hDone⟩ | ⟨hWrites, error, hDone⟩
    · rw [hDone]
      refine iff_of_true (fun error hError => nomatch hError) fun other hOther => ?_
      rw [hSent] at hOther
      cases hOther
      exact .inl ⟨ids, hGrant, .inl hWrites⟩
    · have hSame : SameRole id world { world with db := { world.db with rolePermissions } } ↔
          ∀ permissionId, permissionId ∈ ids ↔ world.db.Grants role.id permissionId := by
        refine (sameRole_iff (by rfl)).trans ?_
        rw [hId]
        exact forall_congr' fun permissionId => iff_congr (hGrants permissionId) Iff.rfl
      rw [hDone]
      constructor
      · intro h other hOther
        rw [hSent] at hOther
        cases hOther
        exact .inl ⟨ids, hGrant, .inr (hSame.mp (h error rfl))⟩
      · intro h _ _
        rcases h requested hSent with ⟨others, hOthers, hWritable | hKept⟩ | ⟨hNone, -⟩
        · exact absurd hWritable hWrites
        · obtain rfl := hGrant.unique hOthers
          exact hSame.mpr hKept
        · exact absurd hGrant (hNone ids)
  · have hSame : SameRole id world { world with db := world.db.deleteRolePermissions id } ↔
        ∀ permissionId, ¬world.db.Grants role.id permissionId := by
      refine (sameRole_iff (by rfl)).trans ?_
      rw [hId]
      refine forall_congr' fun permissionId => iff_false_left fun hGrants => ?_
      exact (StaffDb.mem_deleteRolePermissions.mp hGrants).2 rfl
    rw [updateRoleBody_eq hFound, Script.bind_of_error hEdit]
    constructor
    · intro h other hOther
      rw [hSent] at hOther
      cases hOther
      exact .inr ⟨hRefused, hSame.mp (h error rfl)⟩
    · intro h _ _
      rcases h requested hSent with ⟨ids, hGrant, -⟩ | ⟨-, hKept⟩
      · exact absurd hGrant (hRefused ids)
      · exact hSame.mpr hKept

end RoleEdit

/-! ### Edits without null -/

/-- What the service does with a typed account edit is undone under the same condition. -/
theorem update_atomic_iff {id : Id} {world : StaffWorld} {user : StaffUser} (dto : UpdateUserDto)
    (hFound : world.db.users.find? id = some user) :
    (∀ error, (UsersController.update id dto world.db).2 = .error error →
      SameStaff id world { world with db := (UsersController.update id dto world.db).1 }) ↔
      (UpdateUserBody.ofDto dto).IsAtomic world.db user := by
  have hAtomic := @updateBody_atomic_iff id (.ofDto dto) 0 world user hFound
  have hThrown := (updateBody_ofDto id dto 0).thrown_iff world
    fun db => SameStaff id world { world with db }
  exact hThrown.trans hAtomic

/-- What the service does with a typed role edit is undone under the same condition. -/
theorem updateRole_atomic_iff {id : Id} {world : StaffWorld} {role : Role} (dto : UpdateRoleDto)
    (hFound : world.db.roles.find? id = some role) :
    (∀ error, (RbacService.updateRole id dto world.db).2 = .error error →
      SameRole id world { world with db := (RbacService.updateRole id dto world.db).1 }) ↔
      (UpdateRoleBody.ofDto dto).IsAtomic world.db role := by
  have hAtomic := @updateRoleBody_atomic_iff id (.ofDto dto) world role hFound
  have hThrown := (updateRoleBody_ofDto id dto).thrown_iff world
    fun db => SameRole id world { world with db }
  exact hThrown.trans hAtomic

/-! ### The law of both edits -/

namespace Sample

def clerkSession : SessionRow where
  id := 1
  tokenHash := "hash"
  userId := 5
  expiresAt := 9
  lastActiveAt := 0
  createdAt := 0

/-- The clerk (5) is signed in. -/
def staffWorld : StaffWorld where
  db := staffDb
  sessions := ⟨fun _ => none, ⟨[clerkSession], by decide⟩, []⟩

/-- A new name, and a role that does not exist. -/
def unknownRole : UpdateUserBody := { name := .value "Head clerk", roleIds := .value [2, 9] }

def noRoles : UpdateUserBody := { roleIds := .value [] }

/-- A permission that does not exist. -/
def unknownPermission : UpdateRoleBody := { permissionIds := .value (some [some 9]) }

end Sample

end PropertyTax
