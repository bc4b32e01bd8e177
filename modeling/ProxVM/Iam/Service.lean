import ProxVM.Iam.Effective
import ProxVM.Lib.Fallible
import ProxVM.Util.Errors

/-!
# Identity and access services

The functions of `services/users.ts`, `services/iam.ts` and
`services/iam-store.ts` that the management routes are built from, and
`requirePermission` of `plugins/auth.ts`.

A route handler is a `Handler`: it reads and writes the database and may fail
with an `AppError`, in which case the writes before the failure stay.  Each guard has one rule,
named `after_…`, that says what a caller may use after it: a failed guard leaves
the database as it was, a passed guard yields its condition.
-/

namespace ProxVM

open Tables Fallible

abbrev Handler (α : Type) := Program AppError Db α

/-- What a request brings along: the session's user, the instant it is handled
at and the value the next `newId()` returns. -/
structure RequestContext where
  userId : UserId
  now : Time
  newId : Nat
  deriving DecidableEq, Repr

/-! ## Users -/

/-- `UserWithRoles`: a user row with the legacy roles assigned and live. -/
structure UserWithRoles where
  row : UserRow
  roles : List Role
  deriving DecidableEq, Repr, Inhabited

/-- `assembleUsers` for one user: role names outside `ROLES` are dropped. -/
def assembleUser (db : Db) (now : Time) (row : UserRow) : UserWithRoles :=
  { row, roles := unique ((liveRoles db now row.id).filterMap fun r => Role.ofName? r.name) }

/-- `UsersService.findById`. -/
def findUserById (db : Db) (now : Time) (id : UserId) : Option UserWithRoles :=
  (db.users.find? id).map (assembleUser db now)

/-- `UsersService.findByUsername`. -/
def findUserByUsername (db : Db) (now : Time) (username : String) : Option UserWithRoles :=
  (db.users.rows.find? fun u => decide (u.username = username)).map (assembleUser db now)

def isInitialAdmin (db : Db) (userId : UserId) : Bool :=
  match db.users.find? userId with
  | some u => u.isInitialAdmin
  | none => false

def countActiveAdmins (db : Db) (now : Time) (excludeUserId : UserId) : Nat :=
  (db.users.rows.filter fun u => u.active && decide (u.id ≠ excludeUserId) &&
    (liveRoles db now u.id).any fun r => decide (r.name = "ADMIN")).length

/-- `hasPermission`: the legacy fast path. -/
def hasPermission (user : UserWithRoles) (permission : Permission) : Bool :=
  user.row.active && user.roles.any fun role => decide (permission ∈ permissionsForRole role)

def isAdmin (user : UserWithRoles) : Bool :=
  decide (Role.admin ∈ user.roles)

variable {now : Time} {row : UserRow} {p : Permission}

theorem findUserById_eq_some {db : Db} {id : UserId} {user : UserWithRoles}
    (hfind : findUserById db now id = some user) :
    user.row ∈ db.users ∧ user.row.id = id ∧ user = assembleUser db now user.row := by
  obtain ⟨row, hrow, rfl⟩ := Option.map_eq_some_iff.mp hfind
  exact ⟨Table.mem_of_find? hrow, Table.key_of_find? hrow, rfl⟩

theorem mem_unique {α : Type} [DecidableEq α] {x : α} {xs : List α} : x ∈ unique xs ↔ x ∈ xs :=
  List.mem_eraseDups

theorem mem_assembleUser_roles {db : Db} {r : Role} : r ∈ (assembleUser db now row).roles ↔
      ∃ ur ∈ db.userRoles, ur.userId = row.id ∧ isLive ur.expiresAt now = true ∧
        ∃ role ∈ db.roles, role.id = ur.roleId ∧ role.name = r.name := by
  simp only [assembleUser, mem_unique, List.mem_filterMap, mem_liveRoles,
    Role.ofName?_eq_some_iff]
  constructor
  · rintro ⟨role, ⟨ur, hur, huser, hlive, hrole, hid⟩, hname⟩
    exact ⟨ur, hur, huser, hlive, role, hrole, hid, hname.symm⟩
  · rintro ⟨ur, hur, huser, hlive, role, hrole, hid, hname⟩
    exact ⟨role, ⟨ur, hur, huser, hlive, hrole, hid⟩, hname.symm⟩

theorem has_of_hasPermission {db : Db} (hperm : hasPermission (assembleUser db now row) p = true) :
    (resolveEffectiveAccess db now row.id).has p = true := by
  simp only [hasPermission, Bool.and_eq_true, List.any_eq_true, decide_eq_true_eq] at hperm
  obtain ⟨-, r, hr, hp⟩ := hperm
  obtain ⟨ur, hur, huser, hlive, role, hrole, hid, hname⟩ := mem_assembleUser_roles.mp hr
  have hhard : hardcodedRole? role.name = some r := by
    rw [hname]
    refine hardcodedRole?_name ?_
    rintro rfl
    cases hp
  exact has_iff.mpr (.legacyRole ur role r hur huser hlive hrole hid hhard hp)

/-! ## Roles and groups -/

def getRole (db : Db) (id : RoleId) : Option RoleRow := db.roles.find? id

def findRoleByName (db : Db) (name : String) : Option RoleRow :=
  db.roles.rows.find? fun r => decide (r.name = name)

def getGroup (db : Db) (id : GroupId) : Option GroupRow := db.groups.find? id

def findGroupByName (db : Db) (name : String) : Option GroupRow :=
  db.groups.rows.find? fun g => decide (g.name = name)

/-- The permissions a role row confers: the hardcoded set of a legacy role, the
stored rows of any other. -/
def rolePermissionSet (db : Db) (role : RoleRow) : List Permission :=
  match hardcodedRole? role.name with
  | some r => permissionsForRole r
  | none => storedPermissions db role.id

def roleEffectivePermissions (roleId : RoleId) : Handler (List Permission) := do
  let found ← query fun db => db.roles.find? roleId
  let role ← orFail found (AppError.notFound "Role not found")
  query fun db => rolePermissionSet db role

def liveGroupRoles (db : Db) (now : Time) (groupId : GroupId) : List RoleRow :=
  (db.groupRoles.rows.filter fun gr =>
    decide (gr.groupId = groupId) && isLive gr.expiresAt now).filterMap fun gr => db.roles.find? gr.roleId

/-- `groupEffectivePermissions`, the codes only: the union over the group's
live roles, in catalog order. -/
def groupEffectivePermissions (db : Db) (now : Time) (groupId : GroupId) : List Permission :=
  Permission.all.filter fun p =>
    (liveGroupRoles db now groupId).any fun role => decide (p ∈ rolePermissionSet db role)

theorem mem_groupEffectivePermissions {db : Db} {groupId : GroupId} :
    p ∈ groupEffectivePermissions db now groupId ↔
      ∃ gr ∈ db.groupRoles, gr.groupId = groupId ∧ isLive gr.expiresAt now = true ∧
        ∃ role ∈ db.roles, role.id = gr.roleId ∧ p ∈ rolePermissionSet db role := by
  simp only [groupEffectivePermissions, List.mem_filter, Permission.mem_all, true_and,
    List.any_eq_true, decide_eq_true_eq, liveGroupRoles, List.mem_filterMap, Bool.and_eq_true,
    Table.find?_eq_some_iff]
  constructor
  · rintro ⟨role, ⟨gr, ⟨hgr, hgid, hlive⟩, hrole, hid⟩, hp⟩
    exact ⟨gr, hgr, hgid, hlive, role, hrole, hid, hp⟩
  · rintro ⟨gr, hgr, hgid, hlive, role, hrole, hid, hp⟩
    exact ⟨role, ⟨gr, ⟨hgr, hgid, hlive⟩, hrole, hid⟩, hp⟩

/-! ## Guards -/

section guards

variable {db : Db} {ctx : RequestContext}

/-- `requirePermission`: the session's user, if active and holding `permission`
by a legacy role or by the full resolution. -/
def requirePermission (ctx : RequestContext) (permission : Permission) : Handler UserWithRoles := do
  let session ← query fun db => findUserById db ctx.now ctx.userId
  let user ← orFail session AppError.unauthorized
  ensure user.row.active AppError.unauthorized
  let granted ← query fun db =>
    hasPermission user permission || (resolveEffectiveAccess db ctx.now user.row.id).has permission
  ensure granted AppError.forbidden
  pure user

variable {permission : Permission} {Q : Except AppError (List Permission) → Db → Prop}

theorem after_requirePermission {Q : Except AppError UserWithRoles → Db → Prop}
    (hok : ∀ user, user.row.id = ctx.userId →
      (resolveEffectiveAccess db ctx.now ctx.userId).has permission = true → Q (.ok user) db)
    (herr : ∀ e, Q (.error e) db) : after (requirePermission ctx permission) Q db := by
  simp only [requirePermission, after_bind, after_query, after_orFail, after_ensure, after_pure]
  refine ⟨fun user hfind => ⟨fun _ => ⟨fun hgranted => ?_, fun _ => herr _⟩,
    fun _ => herr _⟩, fun _ => herr _⟩
  obtain ⟨-, hid, hassemble⟩ := findUserById_eq_some hfind
  refine hok user hid ?_
  rw [Bool.or_eq_true] at hgranted
  rcases hgranted with hfast | hfull
  · rw [hassemble] at hfast
    simpa [hid] using has_of_hasPermission hfast
  · rwa [hid] at hfull

theorem onSuccess_requirePermission {P : UserWithRoles → Db → Prop}
    (hok : ∀ user, user.row.id = ctx.userId → P user db) :
    onSuccess (requirePermission ctx permission) P db := by
  refine after_requirePermission (fun user huser _ a ha => ?_) (fun _ => nofun)
  cases ha
  exact hok user huser

def missingPermissions (db : Db) (now : Time) (actorId : UserId) (permissions : List Permission) :
    List Permission :=
  (unique permissions).filter fun p => !(resolveEffectiveAccess db now actorId).has p

def assertMayConfer (ctx : RequestContext) (actorId : UserId) (permissions : List Permission) :
    Handler Unit := do
  let missing ← query fun db => missingPermissions db ctx.now actorId permissions
  ensure missing.isEmpty (AppError.forbidden
    ("You cannot grant permission(s) you do not possess: " ++
      ", ".intercalate (missing.map Permission.code)))

theorem after_assertMayConfer {actorId : UserId} {permissions : List Permission}
    {Q : Except AppError Unit → Db → Prop}
    (hok : (∀ p ∈ permissions, (resolveEffectiveAccess db ctx.now actorId).has p = true) → Q (.ok ()) db)
    (herr : ∀ e, Q (.error e) db) : after (assertMayConfer ctx actorId permissions) Q db := by
  simp only [assertMayConfer, after_bind, after_query, after_ensure]
  refine ⟨fun hempty => hok fun p hp => ?_, fun _ => herr _⟩
  by_contra hmissing
  have hmem : p ∈ missingPermissions db ctx.now actorId permissions :=
    List.mem_filter.mpr ⟨mem_unique.mpr hp, by simpa using hmissing⟩
  rw [List.isEmpty_iff.mp hempty] at hmem
  cases hmem

def assertCanAdministerTarget (ctx : RequestContext) (actorId targetUserId : UserId) :
    Handler Unit :=
  if actorId = targetUserId then
    pure ()
  else do
    let overreach ← query fun db => Permission.all.filter fun p =>
      (resolveEffectiveAccess db ctx.now targetUserId).has p &&
        !(resolveEffectiveAccess db ctx.now actorId).has p
    ensure overreach.isEmpty (AppError.forbidden "Target user holds permissions you do not possess")

theorem after_assertCanAdministerTarget {actorId targetUserId : UserId} {Q : Except AppError Unit → Db → Prop}
    (hok : (∀ p, (resolveEffectiveAccess db ctx.now targetUserId).has p = true →
      (resolveEffectiveAccess db ctx.now actorId).has p = true) → Q (.ok ()) db)
    (herr : ∀ e, Q (.error e) db) : after (assertCanAdministerTarget ctx actorId targetUserId) Q db := by
  unfold assertCanAdministerTarget
  split
  · rename_i hself
    subst hself
    exact hok fun p hp => hp
  · simp only [after_bind, after_query, after_ensure]
    refine ⟨fun hempty => hok fun p htarget => ?_, fun _ => herr _⟩
    have hnone := List.filter_eq_nil_iff.mp (List.isEmpty_iff.mp hempty) p (Permission.mem_all p)
    simpa [htarget] using hnone

def requireSystemRoleProtection (role : RoleRow) (action : String) : Handler Unit :=
  ensure (!role.isSystem)
    (AppError.forbidden ("System role \"" ++ role.name ++ "\" is protected from " ++ action))

/-- `parseExpiresAt`: an expiry, when given, lies in the future. -/
def parseExpiresAt (ctx : RequestContext) (raw : Option Time) : Handler (Option Time) := do
  ensure (isLive raw ctx.now) (AppError.validation "expiresAt must be a future date-time")
  pure raw

theorem after_parseExpiresAt {raw : Option Time} {Q : Except AppError (Option Time) → Db → Prop}
    (hok : isLive raw ctx.now = true → Q (.ok raw) db) (herr : ∀ e, Q (.error e) db) :
    after (parseExpiresAt ctx raw) Q db := by
  simp only [parseExpiresAt, after_bind, after_ensure, after_pure]
  exact ⟨hok, fun _ => herr _⟩

def parsePermissions (codes : List String) : Handler (List Permission) := do
  let unknown := codes.filter fun c => (Permission.ofCode? c).isNone
  ensure unknown.isEmpty (AppError.validation ("Unknown permissions: " ++ ", ".intercalate unknown))
  pure (codes.filterMap Permission.ofCode?)

theorem after_parsePermissions {codes : List String}
    (hok : ∀ ps, Q (.ok ps) db) (herr : ∀ e, Q (.error e) db) : after (parsePermissions codes) Q db := by
  simp only [parsePermissions, after_bind, after_ensure, after_pure]
  exact ⟨fun _ => hok _, fun _ => herr _⟩

theorem after_roleEffectivePermissions {roleId : RoleId}
    (hok : ∀ role, db.roles.find? roleId = some role → Q (.ok (rolePermissionSet db role)) db)
    (herr : ∀ e, Q (.error e) db) : after (roleEffectivePermissions roleId) Q db := by
  simp only [roleEffectivePermissions, after_bind, after_query, after_orFail]
  exact ⟨fun role hrole => hok role hrole, fun _ => herr _⟩

end guards

end ProxVM
