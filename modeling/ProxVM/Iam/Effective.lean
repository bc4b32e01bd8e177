import Mathlib.Logic.Function.Basic
import ProxVM.Db.Schema

/-!
# Effective access

`resolveEffectiveAccess` of `services/iam.ts`: the union of
everything that allows a user something, with expired grants ignored.

These relations quantify over table rows, so a lemma about one table update says
directly which derivations it adds.
-/

namespace ProxVM

open Tables

/-- Merged access to one VM; `protocols = none` means all protocols. -/
structure VmAccessGrant where
  protocols : Option (List Protocol)
  expiresAt : Option Time
  sources : List String
  deriving DecidableEq, Repr

/-- The result of `resolveEffectiveAccess`. -/
structure EffectiveAccess where
  permissions : Permission → List String
  vmAccess : VmId → Option VmAccessGrant
  roles : List String
  groups : List (GroupId × String)
  deriving Inhabited

/-- `effective.permissions.has(p)`. -/
def EffectiveAccess.has (e : EffectiveAccess) (p : Permission) : Bool :=
  !(e.permissions p).isEmpty

/-- `[...new Set(a)]`: the first occurrence of each element. -/
def unique {α : Type} [DecidableEq α] (xs : List α) : List α :=
  xs.eraseDups

def addPerm (permissions : Permission → List String) (perm : Permission) (source : String) :
    Permission → List String :=
  Function.update permissions perm
    (if source ∈ permissions perm then permissions perm else permissions perm ++ [source])

def addVmAccess (vmAccess : VmId → Option VmAccessGrant) (vmId : VmId)
    (protocols : Option (List Protocol)) (expiresAt : Option Time) (source : String) :
    VmId → Option VmAccessGrant :=
  Function.update vmAccess vmId <| some <|
    match vmAccess vmId with
    | none => { protocols, expiresAt, sources := [source] }
    | some cur =>
        { protocols :=
            match cur.protocols, protocols with
            | some a, some b => some (unique (a ++ b))
            | _, _ => none
          expiresAt :=
            match cur.expiresAt, expiresAt with
            | none, e => e
            | some c, some e => if c < e then some e else some c
            | some c, none => some c
          sources := if source ∈ cur.sources then cur.sources else cur.sources ++ [source] }

/-! ## The queries -/

def liveRoles (db : Db) (now : Time) (userId : UserId) : List RoleRow :=
  (db.userRoles.rows.filter fun ur => decide (ur.userId = userId) && isLive ur.expiresAt now).filterMap
    fun ur => db.roles.find? ur.roleId

def liveGroups (db : Db) (now : Time) (userId : UserId) : List GroupRow :=
  (db.groupMembers.rows.filter fun gm => decide (gm.userId = userId) && isLive gm.expiresAt now).filterMap
    fun gm => db.groups.find? gm.groupId

/-- The rows of `role_permissions` of one role. -/
def storedPermissions (db : Db) (roleId : RoleId) : List Permission :=
  (db.rolePermissions.rows.filter fun rp => decide (rp.roleId = roleId)).map fun rp => rp.permission

def legacyRolePerms (db : Db) (now : Time) (userId : UserId) : List (Permission × String) :=
  (liveRoles db now userId).flatMap fun role =>
    match hardcodedRole? role.name with
    | some r => (permissionsForRole r).map fun p => (p, "role:" ++ role.name)
    | none => []

def customRolePerms (db : Db) (now : Time) (userId : UserId) : List (Permission × String) :=
  (liveRoles db now userId).flatMap fun role =>
    (storedPermissions db role.id).map fun p => (p, "role:" ++ role.name)

def directPerms (db : Db) (now : Time) (userId : UserId) : List (Permission × String) :=
  (db.userPermissions.rows.filter fun up =>
    decide (up.userId = userId) && isLive up.expiresAt now).map fun up => (up.permission, "direct grant")

def groupRolePerms (db : Db) (now : Time) (userId : UserId) : List (Permission × String) :=
  (liveGroups db now userId).flatMap fun group =>
    ((db.groupRoles.rows.filter fun gr =>
      decide (gr.groupId = group.id) && isLive gr.expiresAt now).filterMap
        fun gr => db.roles.find? gr.roleId).flatMap fun role =>
          (storedPermissions db role.id).map fun p =>
            (p, "group role:" ++ role.name ++ " via " ++ group.name)

/-- Rows of `group_vm_access` that reach a user, labelled by the group. -/
def groupVmGrants (db : Db) (now : Time) (userId : UserId) : List (GroupVmAccessRow × String) :=
  (liveGroups db now userId).flatMap fun group =>
    (db.groupVmAccess.rows.filter fun gva =>
      decide (gva.groupId = group.id) && isLive gva.expiresAt now).map
        fun gva => (gva, "group " ++ group.name)

/-- Live rows of `vm_access` of a user. -/
def directVmGrants (db : Db) (now : Time) (userId : UserId) : List VmAccessRow :=
  db.vmAccess.rows.filter fun va => decide (va.userId = userId) && isLive va.expiresAt now

def resolveEffectiveAccess (db : Db) (now : Time) (userId : UserId) : EffectiveAccess :=
  { permissions :=
      (legacyRolePerms db now userId ++ customRolePerms db now userId ++ directPerms db now userId ++
        groupRolePerms db now userId).foldl (fun m e => addPerm m e.1 e.2) fun _ => []
    vmAccess :=
      (directVmGrants db now userId).foldl
        (fun m va => addVmAccess m va.vmId va.protocols va.expiresAt "direct VM access")
        ((groupVmGrants db now userId).foldl
          (fun m e => addVmAccess m e.1.vmId e.1.protocols e.1.expiresAt e.2) fun _ => none)
    roles := (liveRoles db now userId).map fun r => r.name
    groups := (liveGroups db now userId).map fun g => (g.id, g.name) }

/-! ## What is effective -/

inductive PermissionSource (db : Db) (now : Time) (userId : UserId) (p : Permission) : Prop
  | legacyRole (ur : UserRoleRow) (role : RoleRow) (r : Role)
      (hassigned : ur ∈ db.userRoles) (huser : ur.userId = userId)
      (hlive : isLive ur.expiresAt now = true) (hrole : role ∈ db.roles)
      (hid : role.id = ur.roleId) (hname : hardcodedRole? role.name = some r)
      (hperm : p ∈ permissionsForRole r)
  | customRole (ur : UserRoleRow) (role : RoleRow)
      (hassigned : ur ∈ db.userRoles) (huser : ur.userId = userId)
      (hlive : isLive ur.expiresAt now = true) (hrole : role ∈ db.roles)
      (hid : role.id = ur.roleId) (hperm : ⟨role.id, p⟩ ∈ db.rolePermissions)
  | direct (up : UserPermissionRow)
      (hgranted : up ∈ db.userPermissions) (huser : up.userId = userId)
      (hlive : isLive up.expiresAt now = true) (hperm : up.permission = p)
  | groupRole (gm : GroupMemberRow) (group : GroupRow) (gr : GroupRoleRow) (role : RoleRow)
      (hmember : gm ∈ db.groupMembers) (huser : gm.userId = userId)
      (hlive : isLive gm.expiresAt now = true) (hgroup : group ∈ db.groups)
      (hgid : group.id = gm.groupId) (hlink : gr ∈ db.groupRoles) (hgr : gr.groupId = group.id)
      (hlinkLive : isLive gr.expiresAt now = true) (hrole : role ∈ db.roles)
      (hid : role.id = gr.roleId) (hperm : ⟨role.id, p⟩ ∈ db.rolePermissions)

inductive VmSource (db : Db) (now : Time) (userId : UserId) (vmId : VmId) : Prop
  | direct (va : VmAccessRow) (hgranted : va ∈ db.vmAccess) (huser : va.userId = userId)
      (hvm : va.vmId = vmId) (hlive : isLive va.expiresAt now = true)
  | group (gm : GroupMemberRow) (group : GroupRow) (gva : GroupVmAccessRow)
      (hmember : gm ∈ db.groupMembers) (huser : gm.userId = userId)
      (hlive : isLive gm.expiresAt now = true) (hgroup : group ∈ db.groups)
      (hgid : group.id = gm.groupId) (hgrant : gva ∈ db.groupVmAccess)
      (hgva : gva.groupId = group.id) (hgrantLive : isLive gva.expiresAt now = true)
      (hvm : gva.vmId = vmId)

inductive VmGrant (db : Db) (now : Time) (userId : UserId) (vmId : VmId)
    (protocols : Option (List Protocol)) : Prop
  | direct (va : VmAccessRow) (hgranted : va ∈ db.vmAccess) (huser : va.userId = userId)
      (hvm : va.vmId = vmId) (hlive : isLive va.expiresAt now = true)
      (hprotocols : va.protocols = protocols)
  | group (gm : GroupMemberRow) (group : GroupRow) (gva : GroupVmAccessRow)
      (hmember : gm ∈ db.groupMembers) (huser : gm.userId = userId)
      (hlive : isLive gm.expiresAt now = true) (hgroup : group ∈ db.groups)
      (hgid : group.id = gm.groupId) (hgrant : gva ∈ db.groupVmAccess)
      (hgva : gva.groupId = group.id) (hgrantLive : isLive gva.expiresAt now = true)
      (hvm : gva.vmId = vmId) (hprotocols : gva.protocols = protocols)

/-! ## What the folds collect -/

private theorem foldl_addPerm_ne_nil (entries : List (Permission × String))
    (m : Permission → List String) (p : Permission) : entries.foldl (fun m e => addPerm m e.1 e.2) m p ≠ [] ↔
      m p ≠ [] ∨ ∃ source, (p, source) ∈ entries := by
  induction entries generalizing m with
  | nil => simp
  | cons e rest ih =>
      obtain ⟨q, source⟩ := e
      rw [List.foldl_cons, ih]
      by_cases hq : q = p
      · subst hq
        have hadded : addPerm m q source q ≠ [] := by
          simp only [addPerm, Function.update_self]
          split
          · rename_i hmem
            exact List.ne_nil_of_mem hmem
          · simp
        simp only [hadded, ne_eq, not_false_eq_true, true_or, List.mem_cons, true_iff]
        exact Or.inr ⟨source, Or.inl rfl⟩
      · have hsame : addPerm m q source p = m p := by
          simp [addPerm, Function.update_of_ne (Ne.symm hq)]
        simp only [hsame, List.mem_cons, Prod.mk.injEq, Ne.symm hq, false_and, false_or]

def mergeProtocols : Option (List Protocol) → Option (List Protocol) → Option (List Protocol)
  | some a, some b => some (unique (a ++ b))
  | _, _ => none

variable {P : Option (List Protocol) → Prop} {db : Db} {now : Time} {userId : UserId} {p : Permission} {vmId : VmId}

private theorem addVmAccess_exists
    (hmerge : ∀ a b, P (mergeProtocols a b) ↔ P a ∨ P b) (m : VmId → Option VmAccessGrant)
    (v : VmId) (protocols : Option (List Protocol)) (expiresAt : Option Time) (source : String) :
    (∃ grant, addVmAccess m v protocols expiresAt source v = some grant ∧ P grant.protocols) ↔
      (∃ grant, m v = some grant ∧ P grant.protocols) ∨ P protocols := by
  cases hcur : m v with
  | none => simp [addVmAccess, hcur]
  | some cur =>
      have hprotocols : (addVmAccess m v protocols expiresAt source v).map VmAccessGrant.protocols =
          some (mergeProtocols cur.protocols protocols) := by
        simp only [addVmAccess, hcur, Function.update_self, Option.map_some]
        rfl
      obtain ⟨grant, hgrant, heq⟩ := Option.map_eq_some_iff.mp hprotocols
      simp only [hgrant, Option.some.injEq, exists_eq_left', heq]
      exact hmerge _ _

private theorem foldl_addVmAccess_exists {α : Type}
    (hmerge : ∀ a b, P (mergeProtocols a b) ↔ P a ∨ P b) (rows : List α) (vmId : α → VmId)
    (protocols : α → Option (List Protocol)) (expiresAt : α → Option Time) (source : α → String)
    (m : VmId → Option VmAccessGrant) (v : VmId) :
    (∃ grant, rows.foldl (fun m r => addVmAccess m (vmId r) (protocols r) (expiresAt r) (source r))
        m v = some grant ∧ P grant.protocols) ↔ (∃ grant, m v = some grant ∧ P grant.protocols) ∨
        ∃ r ∈ rows, vmId r = v ∧ P (protocols r) := by
  induction rows generalizing m with
  | nil => simp
  | cons r rest ih =>
      rw [List.foldl_cons, ih]
      by_cases hv : vmId r = v
      · subst hv
        rw [addVmAccess_exists hmerge]
        simp only [List.mem_cons, exists_eq_or_imp, true_and, or_assoc]
      · have hsame : addVmAccess m (vmId r) (protocols r) (expiresAt r) (source r) v = m v := by
          simp [addVmAccess, Function.update_of_ne (Ne.symm hv)]
        simp only [hsame, List.mem_cons, exists_eq_or_imp, hv, false_and, false_or]

theorem mem_liveRoles {role : RoleRow} :
    role ∈ liveRoles db now userId ↔ ∃ ur ∈ db.userRoles, ur.userId = userId ∧
      isLive ur.expiresAt now = true ∧ role ∈ db.roles ∧ role.id = ur.roleId := by
  simp only [liveRoles, List.mem_filterMap, List.mem_filter, Bool.and_eq_true, decide_eq_true_eq,
    Table.find?_eq_some_iff, Table.mem_def, and_assoc]

theorem mem_liveGroups {group : GroupRow} :
    group ∈ liveGroups db now userId ↔ ∃ gm ∈ db.groupMembers, gm.userId = userId ∧
      isLive gm.expiresAt now = true ∧ group ∈ db.groups ∧ group.id = gm.groupId := by
  simp only [liveGroups, List.mem_filterMap, List.mem_filter, Bool.and_eq_true, decide_eq_true_eq,
    Table.find?_eq_some_iff, Table.mem_def, and_assoc]

theorem mem_storedPermissions {roleId : RoleId} :
    p ∈ storedPermissions db roleId ↔ ⟨roleId, p⟩ ∈ db.rolePermissions := by
  simp only [storedPermissions, List.mem_map, List.mem_filter, decide_eq_true_eq, Table.mem_def]
  constructor
  · rintro ⟨⟨roleId', p'⟩, ⟨hmem, rfl⟩, rfl⟩
    exact hmem
  · intro hmem
    exact ⟨_, ⟨hmem, rfl⟩, rfl⟩

private theorem mem_groupRolePerms : (∃ source, (p, source) ∈ groupRolePerms db now userId) ↔
      ∃ group ∈ liveGroups db now userId, ∃ gr ∈ db.groupRoles, gr.groupId = group.id ∧
        isLive gr.expiresAt now = true ∧ ∃ role ∈ db.roles, role.id = gr.roleId ∧
          ⟨role.id, p⟩ ∈ db.rolePermissions := by
  simp only [groupRolePerms, List.mem_flatMap, List.mem_filterMap, List.mem_filter, List.mem_map,
    Bool.and_eq_true, decide_eq_true_eq, Table.find?_eq_some_iff, mem_storedPermissions,
    Prod.mk.injEq, Table.mem_def]
  constructor
  · rintro ⟨_, group, hgroup, role, ⟨gr, ⟨hgr, hgid, hlive⟩, hrole, hid⟩, _, hperm, rfl, rfl⟩
    exact ⟨group, hgroup, gr, hgr, hgid, hlive, role, hrole, hid, hperm⟩
  · rintro ⟨group, hgroup, gr, hgr, hgid, hlive, role, hrole, hid, hperm⟩
    exact ⟨_, group, hgroup, role, ⟨gr, ⟨hgr, hgid, hlive⟩, hrole, hid⟩, p, hperm, rfl, rfl⟩

/-- **A permission is effective exactly when some live source grants it.** -/
theorem has_iff : (resolveEffectiveAccess db now userId).has p = true ↔ PermissionSource db now userId p := by
  have hfold : (resolveEffectiveAccess db now userId).has p = true ↔
      ∃ source, (p, source) ∈ legacyRolePerms db now userId ++ customRolePerms db now userId ++
        directPerms db now userId ++ groupRolePerms db now userId := by
    simp only [EffectiveAccess.has, resolveEffectiveAccess, Bool.not_eq_true',
      List.isEmpty_eq_false_iff]
    rw [foldl_addPerm_ne_nil]
    simp
  rw [hfold]
  simp only [List.mem_append, exists_or, mem_groupRolePerms]
  constructor
  · rintro (((⟨source, hmem⟩ | ⟨source, hmem⟩) | ⟨source, hmem⟩) | ⟨group, hgroup, hlink⟩)
    · obtain ⟨role, hrole, hsource⟩ := List.mem_flatMap.mp hmem
      obtain ⟨ur, hur, huser, hlive, hrole, hid⟩ := mem_liveRoles.mp hrole
      split at hsource
      · rename_i r hname
        obtain ⟨q, hq, heq⟩ := List.mem_map.mp hsource
        cases heq
        exact .legacyRole ur role r hur huser hlive hrole hid hname hq
      · cases hsource
    · obtain ⟨role, hrole, hsource⟩ := List.mem_flatMap.mp hmem
      obtain ⟨ur, hur, huser, hlive, hrole, hid⟩ := mem_liveRoles.mp hrole
      obtain ⟨q, hq, heq⟩ := List.mem_map.mp hsource
      cases heq
      exact .customRole ur role hur huser hlive hrole hid (mem_storedPermissions.mp hq)
    · obtain ⟨up, hup, heq⟩ := List.mem_map.mp hmem
      obtain ⟨hup, hcond⟩ := List.mem_filter.mp hup
      simp only [Bool.and_eq_true, decide_eq_true_eq] at hcond
      cases heq
      exact .direct up hup hcond.1 hcond.2 rfl
    · obtain ⟨gm, hgm, huser, hlive, hgroup, hgid⟩ := mem_liveGroups.mp hgroup
      obtain ⟨gr, hgr, hgrid, hgrlive, role, hrole, hid, hperm⟩ := hlink
      exact .groupRole gm group gr role hgm huser hlive hgroup hgid hgr hgrid hgrlive hrole hid hperm
  · intro hsource
    cases hsource with
    | legacyRole ur role r hur huser hlive hrole hid hname hperm =>
        refine Or.inl (Or.inl (Or.inl ⟨"role:" ++ role.name, List.mem_flatMap.mpr ⟨role, ?_, ?_⟩⟩))
        · exact mem_liveRoles.mpr ⟨ur, hur, huser, hlive, hrole, hid⟩
        · rw [hname]
          exact List.mem_map.mpr ⟨p, hperm, rfl⟩
    | customRole ur role hur huser hlive hrole hid hperm =>
        refine Or.inl (Or.inl (Or.inr ⟨"role:" ++ role.name, List.mem_flatMap.mpr ⟨role, ?_, ?_⟩⟩))
        · exact mem_liveRoles.mpr ⟨ur, hur, huser, hlive, hrole, hid⟩
        · exact List.mem_map.mpr ⟨p, mem_storedPermissions.mpr hperm, rfl⟩
    | direct up hup huser hlive hperm =>
        subst hperm
        refine Or.inl (Or.inr ⟨"direct grant", List.mem_map.mpr ⟨up, ?_, rfl⟩⟩)
        exact List.mem_filter.mpr ⟨hup, by simp [huser, hlive]⟩
    | groupRole gm group gr role hgm huser hlive hgroup hgid hgr hgrid hgrlive hrole hid hperm =>
        refine Or.inr ⟨group, mem_liveGroups.mpr ⟨gm, hgm, huser, hlive, hgroup, hgid⟩, gr, hgr,
          hgrid, hgrlive, role, hrole, hid, hperm⟩

theorem exists_vmAccess_iff {db : Db} {now : Time} {userId : UserId} {vmId : VmId}
    {P : Option (List Protocol) → Prop} (hmerge : ∀ a b, P (mergeProtocols a b) ↔ P a ∨ P b) :
    (∃ grant, (resolveEffectiveAccess db now userId).vmAccess vmId = some grant ∧
        P grant.protocols) ↔ ∃ protocols, VmGrant db now userId vmId protocols ∧ P protocols := by
  simp only [resolveEffectiveAccess]
  rw [foldl_addVmAccess_exists hmerge (directVmGrants db now userId) VmAccessRow.vmId
      VmAccessRow.protocols VmAccessRow.expiresAt (fun _ => "direct VM access"),
    foldl_addVmAccess_exists hmerge (groupVmGrants db now userId) (fun e => e.1.vmId)
      (fun e => e.1.protocols) (fun e => e.1.expiresAt) Prod.snd]
  constructor
  · rintro ((⟨grant, hnone, -⟩ | ⟨⟨gva, label⟩, hmem, hvm, hP⟩) | ⟨va, hmem, hvm, hP⟩)
    · cases hnone
    · obtain ⟨group, hgroup, hrow⟩ := List.mem_flatMap.mp hmem
      obtain ⟨gm, hgm, huser, hlive, hgroup, hgid⟩ := mem_liveGroups.mp hgroup
      obtain ⟨gva', hgva, heq⟩ := List.mem_map.mp hrow
      obtain ⟨hgva, hcond⟩ := List.mem_filter.mp hgva
      simp only [Bool.and_eq_true, decide_eq_true_eq] at hcond
      cases heq
      exact ⟨_, .group gm group gva hgm huser hlive hgroup hgid hgva hcond.1 hcond.2 hvm rfl, hP⟩
    · obtain ⟨hva, hcond⟩ := List.mem_filter.mp hmem
      simp only [Bool.and_eq_true, decide_eq_true_eq] at hcond
      exact ⟨_, .direct va hva hcond.1 hvm hcond.2 rfl, hP⟩
  · rintro ⟨protocols, hgrant, hP⟩
    cases hgrant with
    | direct va hva huser hvm hlive hprotocols =>
        subst hprotocols
        exact Or.inr ⟨va, List.mem_filter.mpr ⟨hva, by simp [huser, hlive]⟩, hvm, hP⟩
    | group gm group gva hgm huser hlive hgroup hgid hgva hgvaid hgvalive hvm hprotocols =>
        subst hprotocols
        refine Or.inl (Or.inr ⟨(gva, "group " ++ group.name), List.mem_flatMap.mpr
          ⟨group, mem_liveGroups.mpr ⟨gm, hgm, huser, hlive, hgroup, hgid⟩, ?_⟩, hvm, hP⟩)
        exact List.mem_map.mpr ⟨gva, List.mem_filter.mpr ⟨hgva, by simp [hgvaid, hgvalive]⟩, rfl⟩

theorem VmGrant.source {protocols : Option (List Protocol)} (hgrant : VmGrant db now userId vmId protocols) :
    VmSource db now userId vmId := by
  cases hgrant with
  | direct va hva huser hvm hlive hprotocols => exact .direct va hva huser hvm hlive
  | group gm group gva hgm huser hlive hgroup hgid hgva hgvaid hgvalive hvm hprotocols =>
      exact .group gm group gva hgm huser hlive hgroup hgid hgva hgvaid hgvalive hvm

theorem VmSource.grant (hsource : VmSource db now userId vmId) :
    ∃ protocols, VmGrant db now userId vmId protocols := by
  cases hsource with
  | direct va hva huser hvm hlive => exact ⟨_, .direct va hva huser hvm hlive rfl⟩
  | group gm group gva hgm huser hlive hgroup hgid hgva hgvaid hgvalive hvm =>
      exact ⟨_, .group gm group gva hgm huser hlive hgroup hgid hgva hgvaid hgvalive hvm rfl⟩

/-- **A VM is accessible exactly when some live grant reaches it.** -/
theorem vmAccess_isSome_iff : ((resolveEffectiveAccess db now userId).vmAccess vmId).isSome = true ↔
      VmSource db now userId vmId := by
  have hany : (∃ grant, (resolveEffectiveAccess db now userId).vmAccess vmId = some grant ∧ True) ↔
      ∃ protocols, VmGrant db now userId vmId protocols ∧ True :=
    exists_vmAccess_iff (P := fun _ => True) fun _ _ => by simp
  simp only [and_true] at hany
  rw [Option.isSome_iff_exists, hany]
  exact ⟨fun ⟨_, hgrant⟩ => hgrant.source, VmSource.grant⟩

end ProxVM
