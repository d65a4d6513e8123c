import PropertyTax.Users.Service

/-! Staff accounts right after the installation. -/
namespace PropertyTax
open KeyedTable

def PERMISSION_CODES : List String :=
  ["dashboard:read", "survey:read", "survey:create", "survey:update", "survey:delete",
    "survey:pii:read", "import:read", "import:create", "export:read", "export:create",
    "report:read", "report:export", "payment:read", "payment:create", "payment:update",
    "payment:offline:create", "payment:requery", "refund:create", "refund:read",
    "settlement:read", "user:read", "user:create", "user:update", "user:delete", "role:read",
    "role:create", "role:update", "role:delete", "permission:read", "settings:update",
    "audit:read", "file:read", "file:create"]

/-- `ROLES` -/
def SEED_ROLES : List (String × String × String) :=
  [("SUPER_ADMIN", "Super Admin", "Full system access — users, roles, settings, and all modules"),
    ("DEPARTMENT_ADMIN", "Department Admin",
      "Department administrator — operational access; cannot manage users"),
    ("CLERK", "Clerk", "Office clerk — surveys, imports, reports, and counter collections"),
    ("OPERATOR", "Operator", "Field / ops staff — surveys and offline payment collection")]

def ROLE_PERMISSIONS : String → List String
  | "SUPER_ADMIN" => PERMISSION_CODES
  | "DEPARTMENT_ADMIN" => PERMISSION_CODES.filter fun code =>
      !(code ∈ ["user:read", "user:create", "user:update", "user:delete", "role:create",
        "role:update", "role:delete"])
  | "CLERK" =>
      ["dashboard:read", "survey:read", "survey:create", "survey:update", "survey:pii:read",
        "import:read", "import:create", "export:read", "export:create", "report:read",
        "report:export", "payment:read", "payment:offline:create", "payment:requery",
        "refund:read", "settlement:read", "file:read", "file:create"]
  | "OPERATOR" =>
      ["dashboard:read", "survey:read", "survey:create", "survey:update", "payment:read",
        "payment:offline:create", "file:read", "file:create", "report:read"]
  | _ => []

/-- `resolveSeedAdminConfig`, with the hash of the password. -/
structure SeedAdmin where
  email : String
  name : String
  passwordHash : String

def permissionRows : List Permission := PERMISSION_CODES.mapIdx fun index code => ⟨index, code⟩

/-- The ids of the permissions come before those of the roles. -/
def roleRows : List Role :=
  SEED_ROLES.mapIdx fun index role =>
    { id := PERMISSION_CODES.length + index
      code := role.1
      name := role.2.1
      description := some role.2.2
      isSystem := true }

def rolePermissionRows : List RolePermission :=
  roleRows.flatMap fun role =>
    (permissionRows.filter fun permission =>
      (ROLE_PERMISSIONS role.code).contains permission.code).map fun permission =>
        ⟨role.id, permission.id⟩

def SeedAdmin.row (admin : SeedAdmin) : StaffUser where
  id := PERMISSION_CODES.length + SEED_ROLES.length
  name := admin.name
  email := admin.email
  passwordHash := some admin.passwordHash

/-- What `seedDatabase` leaves in tables that were empty. -/
def seededDb (admin : SeedAdmin) : StaffDb where
  permissions := ⟨permissionRows, by decide +kernel⟩
  roles := ⟨roleRows, by decide +kernel⟩
  rolePermissions := ⟨rolePermissionRows, by decide +kernel⟩
  users := ⟨[admin.row], List.pairwise_singleton _ _⟩
  userRoles := ⟨[⟨admin.row.id, PERMISSION_CODES.length⟩], List.pairwise_singleton _ _⟩
  nextId := admin.row.id + 1

end PropertyTax
