import ProxVM.Db.Seeds
import ProxVM.Iam.Service

/-!
# The permission view of a group

`groupEffectivePermissions` of `services/iam-store.ts` says what the roles of
a group confer; `resolveEffectiveAccess` confers it.  The two read different data: the view
takes the hardcoded set of a legacy role and the stored rows of any other, the resolution takes
the stored rows of every role.
-/

namespace ProxVM

open Tables

variable {db : Db} {now : Time} {userId : UserId} {group : GroupRow} {p : Permission}

def groupConferred (db : Db) (now : Time) (group : GroupRow) : List (Permission × String) :=
  (liveGroupRoles db now group.id).flatMap fun role =>
    (storedPermissions db role.id).map fun p =>
      (p, "group role:" ++ role.name ++ " via " ++ group.name)

theorem groupRolePerms_eq_flatMap (db : Db) (now : Time) (userId : UserId) :
    groupRolePerms db now userId = (liveGroups db now userId).flatMap (groupConferred db now) := rfl

def ConfersThrough (db : Db) (now : Time) (userId : UserId) (group : GroupRow) (p : Permission) :
    Prop :=
  ∃ source ∈ (resolveEffectiveAccess db now userId).permissions p,
    (p, source) ∈ groupConferred db now group

/-- The hardcoded set of every live legacy role of the group is stored for live roles of the
group, and what is stored for a legacy role is in the set of one of them. -/
def LegacyStored (db : Db) (now : Time) (groupId : GroupId) : Prop :=
  ∀ role ∈ liveGroupRoles db now groupId, ∀ r, hardcodedRole? role.name = some r →
    (∀ p ∈ permissionsForRole r, ∃ other ∈ liveGroupRoles db now groupId,
      p ∈ storedPermissions db other.id) ∧
    ∀ p ∈ storedPermissions db role.id, ∃ other ∈ liveGroupRoles db now groupId,
      p ∈ rolePermissionSet db other

/-! ## The two sides -/

variable {permissions : Permission → List String} {source label : String} {groupId : GroupId}

theorem mem_addPerm {q : Permission} : label ∈ addPerm permissions q source p ↔
      label ∈ permissions p ∨ q = p ∧ label = source := by
  by_cases hq : q = p
  · subst hq
    simp only [addPerm, Function.update_self, true_and]
    split
    · next hmem =>
        refine (or_iff_left_of_imp ?_).symm
        rintro rfl
        exact hmem
    · simp
  · simp [addPerm, Function.update_of_ne (Ne.symm hq), hq]

theorem mem_foldl_addPerm {entries : List (Permission × String)} :
    label ∈ entries.foldl (fun m e => addPerm m e.1 e.2) permissions p ↔
      label ∈ permissions p ∨ (p, label) ∈ entries := by
  induction entries generalizing permissions with
  | nil => simp
  | cons e rest ih =>
      rw [List.foldl_cons, ih, mem_addPerm, List.mem_cons, or_assoc, Prod.ext_iff, eq_comm]

theorem mem_permissions_of_groupConferred (hmember : group ∈ liveGroups db now userId)
    (hconferred : (p, source) ∈ groupConferred db now group) :
    source ∈ (resolveEffectiveAccess db now userId).permissions p := by
  simp only [resolveEffectiveAccess]
  refine mem_foldl_addPerm.mpr (.inr (List.mem_append_right _ ?_))
  rw [groupRolePerms_eq_flatMap]
  exact List.mem_flatMap.mpr ⟨group, hmember, hconferred⟩

theorem confersThrough_iff (hmember : group ∈ liveGroups db now userId) :
    ConfersThrough db now userId group p ↔
      ∃ role ∈ liveGroupRoles db now group.id, p ∈ storedPermissions db role.id := by
  constructor
  · rintro ⟨source, -, hconferred⟩
    obtain ⟨role, hrole, hentry⟩ := List.mem_flatMap.mp hconferred
    obtain ⟨q, hq, heq⟩ := List.mem_map.mp hentry
    cases heq
    exact ⟨role, hrole, hq⟩
  · rintro ⟨role, hrole, hp⟩
    have hconferred : (p, "group role:" ++ role.name ++ " via " ++ group.name) ∈
        groupConferred db now group :=
      List.mem_flatMap.mpr ⟨role, hrole, List.mem_map.mpr ⟨p, hp, rfl⟩⟩
    exact ⟨_, mem_permissions_of_groupConferred hmember hconferred, hconferred⟩

theorem mem_groupEffectivePermissions_iff : p ∈ groupEffectivePermissions db now groupId ↔
      ∃ role ∈ liveGroupRoles db now groupId, p ∈ rolePermissionSet db role := by
  simp only [groupEffectivePermissions, List.mem_filter, Permission.mem_all, true_and,
    List.any_eq_true, decide_eq_true_eq]

theorem rolePermissionSet_of_none {role : RoleRow} (hname : hardcodedRole? role.name = none) :
    rolePermissionSet db role = storedPermissions db role.id := by
  rw [rolePermissionSet, hname]

theorem rolePermissionSet_of_some {role : RoleRow} {r : Role} (hname : hardcodedRole? role.name = some r) :
    rolePermissionSet db role = permissionsForRole r := by
  rw [rolePermissionSet, hname]

/-! ## The comparison -/

/-- **The view is exact where the legacy roles are stored, and nowhere else.**  For every group
and every live member, the permissions the view reports are those the resolution confers on
the member through the group if and only if `LegacyStored` holds of the group. -/
theorem groupEffectivePermissions_exact_iff (hmember : group ∈ liveGroups db now userId) :
    (∀ p, p ∈ groupEffectivePermissions db now group.id ↔ ConfersThrough db now userId group p) ↔
      LegacyStored db now group.id := by
  simp only [mem_groupEffectivePermissions_iff, confersThrough_iff hmember]
  constructor
  · intro hexact role hrole r hname
    constructor
    · intro p hp
      rw [← @rolePermissionSet_of_some db role r hname] at hp
      exact (hexact p).mp ⟨role, hrole, hp⟩
    · intro p hp
      exact (hexact p).mpr ⟨role, hrole, hp⟩
  · intro hstored p
    constructor
    · rintro ⟨role, hrole, hp⟩
      cases hname : hardcodedRole? role.name with
      | none =>
          rw [rolePermissionSet_of_none hname] at hp
          exact ⟨role, hrole, hp⟩
      | some r =>
          rw [rolePermissionSet_of_some hname] at hp
          exact (hstored role hrole r hname).1 p hp
    · rintro ⟨role, hrole, hp⟩
      cases hname : hardcodedRole? role.name with
      | none =>
          rw [← rolePermissionSet_of_none hname] at hp
          exact ⟨role, hrole, hp⟩
      | some r => exact (hstored role hrole r hname).2 p hp

theorem legacyStored_iff (hwf : WellFormed db) : LegacyStored db now groupId ↔
      ∀ role ∈ liveGroupRoles db now groupId, ∀ r, hardcodedRole? role.name = some r →
        ∀ p ∈ permissionsForRole r, ∃ other ∈ liveGroupRoles db now groupId,
          hardcodedRole? other.name = none ∧ p ∈ storedPermissions db other.id := by
  have hlive : ∀ role ∈ liveGroupRoles db now groupId, role ∈ db.roles := by
    intro role hrole
    simp only [liveGroupRoles, List.mem_filterMap, Table.find?_eq_some_iff] at hrole
    obtain ⟨-, -, hmem, -⟩ := hrole
    exact hmem
  have hbare : ∀ role ∈ liveGroupRoles db now groupId, ∀ p ∈ storedPermissions db role.id,
      hardcodedRole? role.name = none := by
    intro role hrole p hp
    exact hwf.hardcoded_bare _ (mem_storedPermissions.mp hp) role (hlive role hrole) rfl
  refine forall₂_congr fun role hrole => forall₂_congr fun r hname => ?_
  constructor
  · rintro ⟨hset, -⟩ p hp
    obtain ⟨other, hother, hstored⟩ := hset p hp
    exact ⟨other, hother, hbare other hother p hstored, hstored⟩
  · intro hset
    refine ⟨fun p hp => ?_, fun p hp => ?_⟩
    · obtain ⟨other, hother, -, hstored⟩ := hset p hp
      exact ⟨other, hother, hstored⟩
    · rw [hbare role hrole p hp] at hname
      cases hname

/-! ## A group with a system role -/

def Db.linked (roleId : RoleId) : Db :=
  { Db.sample with
    groupMembers := Table.empty.put (⟨20, 12, none⟩ : GroupMemberRow)
    groupRoles := ⟨[⟨20, roleId, none⟩], List.nodup_singleton _⟩ }

theorem groupEffectivePermissions_exact_viewer :
    ConfersThrough (.linked 101) 5 12 ⟨20, "lab", ""⟩ .vmRead := by
  have hmember : (⟨20, "lab", ""⟩ : GroupRow) ∈ liveGroups (.linked 101) 5 12 := by decide
  have hlisted : Permission.vmRead ∈ groupEffectivePermissions (.linked 101) 5 20 := by decide
  refine ((groupEffectivePermissions_exact_iff hmember).mpr ?_ .vmRead).mp hlisted
  intro role hrole r hname
  have hviewer : role = ⟨101, "Viewer", "Read-only VM and job visibility", true⟩ := by
    have hlinked : liveGroupRoles (.linked 101) 5 20 =
        [⟨101, "Viewer", "Read-only VM and job visibility", true⟩] := by decide
    rw [hlinked] at hrole
    exact List.mem_singleton.mp hrole
  subst hviewer
  cases hname

/-- The view of a group with the role OPERATOR shows `vm.create`, which no member gets. -/
theorem groupEffectivePermissions_operator : ⟨20, "lab", ""⟩ ∈ liveGroups (.linked 2) 5 12 ∧
      .vmCreate ∈ groupEffectivePermissions (.linked 2) 5 20 ∧
      (resolveEffectiveAccess (.linked 2) 5 12).has .vmCreate = false ∧
      ¬ ConfersThrough (.linked 2) 5 12 ⟨20, "lab", ""⟩ .vmCreate := by
  refine ⟨by decide, by decide, by decide, ?_⟩
  rintro ⟨source, hsource, -⟩
  have hnone : (resolveEffectiveAccess (.linked 2) 5 12).permissions .vmCreate = [] := by decide
  rw [hnone] at hsource
  cases hsource

end ProxVM
