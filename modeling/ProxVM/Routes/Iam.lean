import ProxVM.Iam.Service
import ProxVM.Iam.Store

/-!
# The IAM routes

The writing handlers of `routes/iam.ts`: roles, user grants, groups
and what hangs off a group.  The second half of the module states one rule per
handler: it lists the guards a successful request has passed and the statement it
then executed; in every other case the database is unchanged.  Later modules use
the rules and never unfold a handler.

Left out are the audit records, the response bodies and the best-effort Guacamole reconciliation, none of which writes a
modelled table.
-/

namespace ProxVM

open Tables Fallible

def invalidBody : AppError := AppError.validation "Invalid request"

/-- `roleNameSchema` and `groupNameSchema`: 1 to 64 letters, digits, blanks,
underscores or hyphens. -/
def validName (name : String) : Bool :=
  decide (1 ≤ name.length) && decide (name.length ≤ 64) &&
    name.toList.all fun c => c.isAlphanum || c == ' ' || c == '_' || c == '-'

/-- `z.string().max(256)`. -/
def validDescription (description : String) : Bool := decide (description.length ≤ 256)

/-! ## Roles -/

structure CreateRoleBody where
  name : String
  description : String
  permissions : List String
  deriving DecidableEq, Repr

/-- `createRole` of `iam-store.ts`. -/
def createRole (id : RoleId) (name description : String) (permissions : List Permission) :
    Handler Unit := do
  tryWrite (fun db => db.insertRole ⟨id, name, description, false⟩)
    (AppError.database "duplicate key value violates unique constraint")
  forM (unique permissions) fun p => write fun db => db.insertRolePermission id p

/-- `setRolePermissions` of `iam-store.ts`. -/
def setRolePermissions (roleId : RoleId) (permissions : List Permission) : Handler Unit := do
  write fun db => db.deleteRolePermissions roleId
  forM (unique permissions) fun p => write fun db => db.insertRolePermission roleId p

/-- `POST /roles`. -/
def postRoles (ctx : RequestContext) (body : CreateRoleBody) : Handler Unit := do
  let actor ← requirePermission ctx .rolesManage
  ensure (validName body.name && validDescription body.description &&
    decide (body.permissions.length ≤ 100)) invalidBody
  let permissions ← parsePermissions body.permissions
  let taken ← query fun db => findRoleByName db body.name
  ensure taken.isNone (AppError.conflict ("Role \"" ++ body.name ++ "\" already exists"))
  assertMayConfer ctx actor.row.id permissions
  createRole ctx.newId body.name body.description permissions

structure UpdateRoleBody where
  name : Option String
  description : Option String
  permissions : Option (List String)
  deriving DecidableEq, Repr

/-- `PATCH /roles/:id`. -/
def patchRole (ctx : RequestContext) (id : RoleId) (body : UpdateRoleBody) : Handler Unit := do
  let actor ← requirePermission ctx .rolesManage
  let found ← query fun db => getRole db id
  let role ← orFail found (AppError.notFound "Role not found")
  requireSystemRoleProtection role "modification"
  ensure (body.name.all validName && body.description.all validDescription &&
    body.permissions.all fun ps => decide (ps.length ≤ 100)) invalidBody
  let permissions ← match body.permissions with
    | none => pure none
    | some codes => do
        let ps ← parsePermissions codes
        pure (some ps)
  let taken ← query fun db => body.name.any fun name =>
    decide (name ≠ role.name) && (findRoleByName db name).isSome
  ensure (!taken) (AppError.conflict ("Role \"" ++ body.name.getD "" ++ "\" already exists"))
  match permissions with
  | none =>
      tryWrite (fun db => db.updateRole id body.name body.description)
        (AppError.database "duplicate key value violates unique constraint")
  | some ps => do
      assertMayConfer ctx actor.row.id ps
      tryWrite (fun db => db.updateRole id body.name body.description)
        (AppError.database "duplicate key value violates unique constraint")
      setRolePermissions id ps

/-- `DELETE /roles/:id`. -/
def deleteRole (ctx : RequestContext) (id : RoleId) : Handler Unit := do
  let _ ← requirePermission ctx .rolesManage
  let found ← query fun db => getRole db id
  let role ← orFail found (AppError.notFound "Role not found")
  requireSystemRoleProtection role "deletion"
  write fun db => db.deleteRole id

/-! ## User roles and direct grants -/

structure AssignRoleBody where
  roleId : RoleId
  expiresAt : Option Time
  deriving DecidableEq, Repr

/-- `POST /users/:id/roles`. -/
def postUserRole (ctx : RequestContext) (id : UserId) (body : AssignRoleBody) : Handler Unit := do
  let actor ← requirePermission ctx .usersManage
  let found ← query fun db => findUserById db ctx.now id
  let _ ← orFail found (AppError.notFound "User not found")
  let foundRole ← query fun db => getRole db body.roleId
  let role ← orFail foundRole (AppError.notFound "Role not found")
  assertCanAdministerTarget ctx actor.row.id id
  let permissions ← roleEffectivePermissions role.id
  assertMayConfer ctx actor.row.id permissions
  let expiresAt ← parseExpiresAt ctx body.expiresAt
  write fun db => db.putUserRole ⟨id, role.id, expiresAt⟩

/-- `DELETE /users/:id/roles/:roleId`. -/
def deleteUserRole (ctx : RequestContext) (id : UserId) (roleId : RoleId) : Handler Unit := do
  let actor ← requirePermission ctx .usersManage
  let found ← query fun db => findUserById db ctx.now id
  let _ ← orFail found (AppError.notFound "User not found")
  let foundRole ← query fun db => getRole db roleId
  let role ← orFail foundRole (AppError.notFound "Role not found")
  assertCanAdministerTarget ctx actor.row.id id
  let initial ← query fun db => isInitialAdmin db id
  ensure (!(decide (role.name = "ADMIN") && initial))
    (AppError.validation "The initial administrator cannot lose the ADMIN role")
  let others ← query fun db => countActiveAdmins db ctx.now id
  ensure (!(decide (role.name = "ADMIN") && decide (id = actor.row.id) && decide (others = 0)))
    (AppError.validation
      "You cannot remove your own ADMIN role: no other active administrator exists")
  write fun db => db.deleteUserRole id roleId

structure GrantPermissionBody where
  permission : String
  expiresAt : Option Time
  deriving DecidableEq, Repr

/-- `POST /users/:id/permissions`. -/
def postUserPermission (ctx : RequestContext) (id : UserId) (body : GrantPermissionBody) :
    Handler Unit := do
  let actor ← requirePermission ctx .usersManage
  let found ← query fun db => findUserById db ctx.now id
  let _ ← orFail found (AppError.notFound "User not found")
  let permission ← orFail (Permission.ofCode? body.permission)
    (AppError.validation ("Unknown permission: " ++ body.permission))
  assertCanAdministerTarget ctx actor.row.id id
  assertMayConfer ctx actor.row.id [permission]
  let expiresAt ← parseExpiresAt ctx body.expiresAt
  write fun db => db.putUserPermission ⟨id, permission, expiresAt⟩

/-- `DELETE /users/:id/permissions/:permission`. -/
def deleteUserPermission (ctx : RequestContext) (id : UserId) (permission : String) :
    Handler Unit := do
  let actor ← requirePermission ctx .usersManage
  let found ← query fun db => findUserById db ctx.now id
  let _ ← orFail found (AppError.notFound "User not found")
  assertCanAdministerTarget ctx actor.row.id id
  match Permission.ofCode? permission with
  | none => pure ()
  | some p => write fun db => db.deleteUserPermission id p

/-! ## Groups -/

structure CreateGroupBody where
  name : String
  description : String
  deriving DecidableEq, Repr

/-- `POST /groups`. -/
def postGroups (ctx : RequestContext) (body : CreateGroupBody) : Handler Unit := do
  let _ ← requirePermission ctx .groupsManage
  ensure (validName body.name && validDescription body.description) invalidBody
  let taken ← query fun db => findGroupByName db body.name
  ensure taken.isNone (AppError.conflict ("Group \"" ++ body.name ++ "\" already exists"))
  tryWrite (fun db => db.insertGroup ⟨ctx.newId, body.name, body.description⟩)
    (AppError.database "duplicate key value violates unique constraint")

structure UpdateGroupBody where
  name : Option String
  description : Option String
  deriving DecidableEq, Repr

/-- `PATCH /groups/:id`. -/
def patchGroup (ctx : RequestContext) (id : GroupId) (body : UpdateGroupBody) : Handler Unit := do
  let _ ← requirePermission ctx .groupsManage
  let found ← query fun db => getGroup db id
  let group ← orFail found (AppError.notFound "Group not found")
  ensure (body.name.all validName && body.description.all validDescription) invalidBody
  let taken ← query fun db => body.name.any fun name =>
    decide (name ≠ group.name) && (findGroupByName db name).isSome
  ensure (!taken) (AppError.conflict ("Group \"" ++ body.name.getD "" ++ "\" already exists"))
  tryWrite (fun db => db.updateGroup id body.name body.description)
    (AppError.database "duplicate key value violates unique constraint")

/-- `DELETE /groups/:id`. -/
def deleteGroup (ctx : RequestContext) (id : GroupId) : Handler Unit := do
  let _ ← requirePermission ctx .groupsManage
  let found ← query fun db => getGroup db id
  let _ ← orFail found (AppError.notFound "Group not found")
  write fun db => db.deleteGroup id

structure TargetRef where
  userId : Option UserId
  username : Option String
  deriving DecidableEq, Repr

/-- `body.userId ? findById(body.userId) : findByUsername(body.username)`. -/
def findTarget (db : Db) (now : Time) (ref : TargetRef) : Option UserWithRoles :=
  match ref.userId, ref.username with
  | some id, _ => findUserById db now id
  | none, some username => findUserByUsername db now username
  | none, none => none

structure AddMemberBody where
  target : TargetRef
  expiresAt : Option Time
  deriving DecidableEq, Repr

/-- `POST /groups/:id/members`. -/
def postGroupMember (ctx : RequestContext) (id : GroupId) (body : AddMemberBody) :
    Handler Unit := do
  let actor ← requirePermission ctx .groupsManage
  let found ← query fun db => getGroup db id
  let _ ← orFail found (AppError.notFound "Group not found")
  ensure (body.target.userId.isSome || body.target.username.isSome)
    (AppError.validation "value: Either userId or username is required")
  let foundUser ← query fun db => findTarget db ctx.now body.target
  let target ← orFail foundUser (AppError.notFound "User not found")
  assertCanAdministerTarget ctx actor.row.id target.row.id
  let permissions ← query fun db => groupEffectivePermissions db ctx.now id
  assertMayConfer ctx actor.row.id permissions
  let expiresAt ← parseExpiresAt ctx body.expiresAt
  write fun db => db.putGroupMember ⟨id, target.row.id, expiresAt⟩

/-- `DELETE /groups/:id/members/:userId`. -/
def deleteGroupMember (ctx : RequestContext) (id : GroupId) (userId : UserId) : Handler Unit := do
  let actor ← requirePermission ctx .groupsManage
  let found ← query fun db => getGroup db id
  let _ ← orFail found (AppError.notFound "Group not found")
  assertCanAdministerTarget ctx actor.row.id userId
  let permissions ← query fun db => groupEffectivePermissions db ctx.now id
  assertMayConfer ctx actor.row.id permissions
  write fun db => db.deleteGroupMember id userId

/-- `POST /groups/:id/roles`. -/
def postGroupRole (ctx : RequestContext) (id : GroupId) (body : AssignRoleBody) :
    Handler Unit := do
  let actor ← requirePermission ctx .groupsManage
  let found ← query fun db => getGroup db id
  let _ ← orFail found (AppError.notFound "Group not found")
  let foundRole ← query fun db => getRole db body.roleId
  let role ← orFail foundRole (AppError.notFound "Role not found")
  let permissions ← roleEffectivePermissions role.id
  assertMayConfer ctx actor.row.id permissions
  let expiresAt ← parseExpiresAt ctx body.expiresAt
  write fun db => db.putGroupRole ⟨id, role.id, expiresAt⟩

/-- `DELETE /groups/:id/roles/:roleId`. -/
def deleteGroupRole (ctx : RequestContext) (id : GroupId) (roleId : RoleId) : Handler Unit := do
  let actor ← requirePermission ctx .groupsManage
  let found ← query fun db => getGroup db id
  let _ ← orFail found (AppError.notFound "Group not found")
  let foundRole ← query fun db => getRole db roleId
  match foundRole with
  | none => pure ()
  | some role => do
      let permissions ← roleEffectivePermissions role.id
      assertMayConfer ctx actor.row.id permissions
  write fun db => db.deleteGroupRole id roleId

/-! ## Rules -/

section rules

variable {ctx : RequestContext} {db : Db} {Q : Except AppError Unit → Db → Prop}

private theorem eq_of_getRole {id : RoleId} {role role' : RoleRow}
    (hrole : getRole db id = some role) (hrole' : db.roles.find? role.id = some role') : role' = role := by
  rw [getRole] at hrole
  rw [Table.key_of_find? hrole, hrole] at hrole'
  exact (Option.some.inj hrole').symm

variable {permissions : List Permission} {roleId : RoleId} {body : AssignRoleBody} {id : GroupId}

theorem after_createRole {id : RoleId} {name description : String}
    (hok : ∀ db₁, db.insertRole ⟨id, name, description, false⟩ = some db₁ →
      Q (.ok ()) ((unique permissions).foldl (fun db p => db.insertRolePermission id p) db₁))
    (herr : ∀ e, Q (.error e) db) : after (createRole id name description permissions) Q db := by
  simp only [createRole, after_bind, after_tryWrite]
  exact ⟨fun db₁ hins => after_forM_write.mpr (hok db₁ hins), fun _ => herr _⟩

theorem after_setRolePermissions
    (hok : Q (.ok ()) ((unique permissions).foldl (fun db p => db.insertRolePermission roleId p)
      (db.deleteRolePermissions roleId))) : after (setRolePermissions roleId permissions) Q db := by
  simp only [setRolePermissions, after_bind, after_write]
  exact after_forM_write.mpr hok

theorem after_postRoles {body : CreateRoleBody} (herr : ∀ e, Q (.error e) db) (hok : ∀ ps db₁,
      (∀ p ∈ ps, (resolveEffectiveAccess db ctx.now ctx.userId).has p = true) →
      findRoleByName db body.name = none →
      db.insertRole ⟨ctx.newId, body.name, body.description, false⟩ = some db₁ →
      Q (.ok ()) ((unique ps).foldl (fun db p => db.insertRolePermission ctx.newId p) db₁)) :
    after (postRoles ctx body) Q db := by
  simp only [postRoles, after_bind]
  refine after_requirePermission (fun actor hactor _ => ?_) herr
  simp only [after_ensure]
  refine ⟨fun _ => ?_, fun _ => herr _⟩
  refine after_parsePermissions (fun ps => ?_) herr
  simp only [after_query, Option.isNone_iff_eq_none]
  refine ⟨fun hfresh => ?_, fun _ => herr _⟩
  refine after_assertMayConfer (fun hholds => ?_) herr
  rw [hactor] at hholds
  exact after_createRole (fun db₁ hins => hok ps db₁ hholds hfresh hins) herr

theorem after_patchRole {id : RoleId} {body : UpdateRoleBody} (herr : ∀ e, Q (.error e) db)
    (hok : ∀ role db₁ (ps : Option (List Permission)), db.roles.find? id = some role → role.isSystem = false →
      (∀ name, body.name = some name → name ≠ role.name → findRoleByName db name = none) →
      (∀ l, ps = some l → ∀ p ∈ l, (resolveEffectiveAccess db ctx.now ctx.userId).has p = true) →
      db.updateRole id body.name body.description = some db₁ → Q (.ok ()) (match ps with
        | none => db₁
        | some l => (unique l).foldl (fun db p => db.insertRolePermission id p)
            (db₁.deleteRolePermissions id))) :
    after (patchRole ctx id body) Q db := by
  simp only [patchRole, after_bind, requireSystemRoleProtection]
  refine after_requirePermission (fun actor hactor _ => ?_) herr
  simp only [after_query, after_orFail, after_ensure, Bool.not_eq_true', Bool.not_eq_false']
  refine ⟨fun role hrole => ⟨fun hsys => ⟨fun _ => ?_, fun _ => herr _⟩, fun _ => herr _⟩,
    fun _ => herr _⟩
  have hname : ∀ {taken : Bool}, (body.name.any fun name =>
      decide (name ≠ role.name) && (findRoleByName db name).isSome) = taken → taken = false →
      ∀ name, body.name = some name → name ≠ role.name → findRoleByName db name = none := by
    rintro taken htaken rfl name hbody hne
    simpa [hbody, hne] using htaken
  cases hperms : body.permissions with
  | none =>
      simp only [after_bind, after_pure, after_query, after_ensure, Bool.not_eq_true',
        Bool.not_eq_false', after_tryWrite]
      refine ⟨fun hfree => ⟨fun db₁ hupd => ?_, fun _ => herr _⟩, fun _ => herr _⟩
      exact hok role db₁ none hrole hsys (hname hfree rfl) (fun l hl => by cases hl) hupd
  | some codes =>
      simp only [after_bind]
      refine after_parsePermissions (fun ps => ?_) herr
      simp only [after_pure, after_query, after_ensure, Bool.not_eq_true', Bool.not_eq_false',
        after_bind]
      refine ⟨fun hfree => ?_, fun _ => herr _⟩
      refine after_assertMayConfer (fun hholds => ?_) herr
      rw [hactor] at hholds
      rw [after_tryWrite]
      refine ⟨fun db₁ hupd => ?_, fun _ => herr _⟩
      refine after_setRolePermissions ?_
      exact hok role db₁ (some ps) hrole hsys (hname hfree rfl)
        (fun l hl => by cases hl; exact hholds) hupd

theorem after_deleteRole {id : RoleId} (herr : ∀ e, Q (.error e) db)
    (hok : ∀ role, db.roles.find? id = some role → role.isSystem = false →
      Q (.ok ()) (db.deleteRole id)) : after (deleteRole ctx id) Q db := by
  simp only [deleteRole, after_bind, requireSystemRoleProtection]
  refine after_requirePermission (fun actor _ _ => ?_) herr
  simp only [after_query, after_orFail, after_ensure, after_write, Bool.not_eq_true',
    Bool.not_eq_false']
  exact ⟨fun role hrole => ⟨fun hsys => hok role hrole hsys, fun _ => herr _⟩, fun _ => herr _⟩

theorem after_postUserRole {id : UserId} (herr : ∀ e, Q (.error e) db)
    (hok : ∀ target role, findUserById db ctx.now id = some target →
      db.roles.find? body.roleId = some role → (∀ p ∈ rolePermissionSet db role,
        (resolveEffectiveAccess db ctx.now ctx.userId).has p = true) → isLive body.expiresAt ctx.now = true →
      Q (.ok ()) (db.putUserRole ⟨id, role.id, body.expiresAt⟩)) : after (postUserRole ctx id body) Q db := by
  simp only [postUserRole, after_bind]
  refine after_requirePermission (fun actor hactor _ => ?_) herr
  simp only [after_query, after_orFail]
  refine ⟨fun target htarget => ⟨fun role hrole => ?_, fun _ => herr _⟩, fun _ => herr _⟩
  refine after_assertCanAdministerTarget (fun _ => ?_) herr
  refine after_roleEffectivePermissions (fun role' hrole' => ?_) herr
  obtain rfl := eq_of_getRole hrole hrole'
  refine after_assertMayConfer (fun hholds => ?_) herr
  refine after_parseExpiresAt (fun hexpiry => ?_) herr
  rw [hactor] at hholds
  exact hok target role' htarget hrole hholds hexpiry

theorem after_deleteUserRole {id : UserId} (herr : ∀ e, Q (.error e) db)
    (hok : ∀ role, db.roles.find? roleId = some role → (role.name = "ADMIN" → isInitialAdmin db id = false) →
      Q (.ok ()) (db.deleteUserRole id roleId)) : after (deleteUserRole ctx id roleId) Q db := by
  simp only [deleteUserRole, after_bind]
  refine after_requirePermission (fun actor _ _ => ?_) herr
  simp only [after_query, after_orFail]
  refine ⟨fun target _ => ⟨fun role hrole => ?_, fun _ => herr _⟩, fun _ => herr _⟩
  refine after_assertCanAdministerTarget (fun _ => ?_) herr
  simp only [after_ensure, after_write, Bool.not_eq_true', Bool.not_eq_false']
  refine ⟨fun hinitial => ⟨fun _ => hok role hrole fun hadmin => ?_, fun _ => herr _⟩,
    fun _ => herr _⟩
  simpa [hadmin] using hinitial

theorem after_postUserPermission {id : UserId} {body : GrantPermissionBody} (herr : ∀ e, Q (.error e) db)
    (hok : ∀ p, (resolveEffectiveAccess db ctx.now ctx.userId).has p = true →
      Q (.ok ()) (db.putUserPermission ⟨id, p, body.expiresAt⟩)) :
    after (postUserPermission ctx id body) Q db := by
  simp only [postUserPermission, after_bind]
  refine after_requirePermission (fun actor hactor _ => ?_) herr
  simp only [after_query, after_orFail]
  refine ⟨fun target _ => ⟨fun p _ => ?_, fun _ => herr _⟩, fun _ => herr _⟩
  refine after_assertCanAdministerTarget (fun _ => ?_) herr
  refine after_assertMayConfer (fun hholds => ?_) herr
  refine after_parseExpiresAt (fun _ => ?_) herr
  rw [hactor] at hholds
  exact hok p (hholds p (List.mem_singleton.mpr rfl))

theorem after_deleteUserPermission {id : UserId} {permission : String}
    (herr : ∀ e, Q (.error e) db) (hsame : Q (.ok ()) db)
    (hok : ∀ p, Q (.ok ()) (db.deleteUserPermission id p)) :
    after (deleteUserPermission ctx id permission) Q db := by
  simp only [deleteUserPermission, after_bind]
  refine after_requirePermission (fun actor _ _ => ?_) herr
  simp only [after_query, after_orFail]
  refine ⟨fun target _ => ?_, fun _ => herr _⟩
  refine after_assertCanAdministerTarget (fun _ => ?_) herr
  cases Permission.ofCode? permission with
  | none => exact hsame
  | some p => exact hok p

theorem after_postGroups {body : CreateGroupBody} (herr : ∀ e, Q (.error e) db)
    (hok : ∀ db₁, db.insertGroup ⟨ctx.newId, body.name, body.description⟩ = some db₁ →
      Q (.ok ()) db₁) : after (postGroups ctx body) Q db := by
  simp only [postGroups, after_bind]
  refine after_requirePermission (fun actor _ _ => ?_) herr
  simp only [after_ensure, after_query, after_tryWrite]
  exact ⟨fun _ => ⟨fun _ => ⟨hok, fun _ => herr _⟩, fun _ => herr _⟩, fun _ => herr _⟩

theorem after_patchGroup {body : UpdateGroupBody} (herr : ∀ e, Q (.error e) db)
    (hok : ∀ db₁, db.updateGroup id body.name body.description = some db₁ → Q (.ok ()) db₁) :
    after (patchGroup ctx id body) Q db := by
  simp only [patchGroup, after_bind]
  refine after_requirePermission (fun actor _ _ => ?_) herr
  simp only [after_ensure, after_query, after_orFail, after_tryWrite]
  exact ⟨fun _ _ => ⟨fun _ => ⟨fun _ => ⟨hok, fun _ => herr _⟩, fun _ => herr _⟩,
    fun _ => herr _⟩, fun _ => herr _⟩

theorem after_deleteGroup (herr : ∀ e, Q (.error e) db)
    (hok : Q (.ok ()) (db.deleteGroup id)) : after (deleteGroup ctx id) Q db := by
  simp only [deleteGroup, after_bind]
  refine after_requirePermission (fun actor _ _ => ?_) herr
  simp only [after_query, after_orFail, after_write]
  exact ⟨fun _ _ => hok, fun _ => herr _⟩

theorem after_postGroupMember {body : AddMemberBody} (herr : ∀ e, Q (.error e) db)
    (hok : ∀ group target, db.groups.find? id = some group → findTarget db ctx.now body.target = some target →
      (∀ p ∈ groupEffectivePermissions db ctx.now id,
        (resolveEffectiveAccess db ctx.now ctx.userId).has p = true) →
      Q (.ok ()) (db.putGroupMember ⟨id, target.row.id, body.expiresAt⟩)) :
    after (postGroupMember ctx id body) Q db := by
  simp only [postGroupMember, after_bind]
  refine after_requirePermission (fun actor hactor _ => ?_) herr
  simp only [after_query, after_orFail, after_ensure]
  refine ⟨fun group hgroup => ⟨fun _ => ⟨fun target htarget => ?_, fun _ => herr _⟩,
    fun _ => herr _⟩, fun _ => herr _⟩
  refine after_assertCanAdministerTarget (fun _ => ?_) herr
  refine after_assertMayConfer (fun hholds => ?_) herr
  refine after_parseExpiresAt (fun _ => ?_) herr
  rw [hactor] at hholds
  exact hok group target hgroup htarget hholds

theorem after_deleteGroupMember {userId : UserId} (herr : ∀ e, Q (.error e) db)
    (hok : Q (.ok ()) (db.deleteGroupMember id userId)) : after (deleteGroupMember ctx id userId) Q db := by
  simp only [deleteGroupMember, after_bind]
  refine after_requirePermission (fun actor _ _ => ?_) herr
  simp only [after_query, after_orFail]
  refine ⟨fun _ _ => ?_, fun _ => herr _⟩
  refine after_assertCanAdministerTarget (fun _ => ?_) herr
  exact after_assertMayConfer (fun _ => hok) herr

theorem after_postGroupRole (herr : ∀ e, Q (.error e) db)
    (hok : ∀ group role, db.groups.find? id = some group → db.roles.find? body.roleId = some role →
      (∀ p ∈ rolePermissionSet db role, (resolveEffectiveAccess db ctx.now ctx.userId).has p = true) →
      Q (.ok ()) (db.putGroupRole ⟨id, role.id, body.expiresAt⟩)) :
    after (postGroupRole ctx id body) Q db := by
  simp only [postGroupRole, after_bind]
  refine after_requirePermission (fun actor hactor _ => ?_) herr
  simp only [after_query, after_orFail]
  refine ⟨fun group hgroup => ⟨fun role hrole => ?_, fun _ => herr _⟩, fun _ => herr _⟩
  refine after_roleEffectivePermissions (fun role' hrole' => ?_) herr
  obtain rfl := eq_of_getRole hrole hrole'
  refine after_assertMayConfer (fun hholds => ?_) herr
  refine after_parseExpiresAt (fun _ => ?_) herr
  rw [hactor] at hholds
  exact hok group role' hgroup hrole hholds

theorem after_deleteGroupRole (herr : ∀ e, Q (.error e) db)
    (hok : Q (.ok ()) (db.deleteGroupRole id roleId)) : after (deleteGroupRole ctx id roleId) Q db := by
  simp only [deleteGroupRole, after_bind]
  refine after_requirePermission (fun actor _ _ => ?_) herr
  simp only [after_query, after_orFail]
  refine ⟨fun _ _ => ?_, fun _ => herr _⟩
  cases getRole db roleId with
  | none => exact hok
  | some role =>
      simp only [after_bind]
      refine after_roleEffectivePermissions (fun _ _ => ?_) herr
      exact after_assertMayConfer (fun _ => hok) herr

end rules

end ProxVM
