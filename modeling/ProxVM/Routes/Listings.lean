import ProxVM.Db.Seeds
import ProxVM.Routes.VmAccess
import ProxVM.Services.Credentials

/-!
# Listings

`GET /vms` of `routes/vms.ts`, with the VMs that it returns as tracked, and `GET /credentials` of
`routes/credentials.ts`.  Neither asks `visibleTo` about a VM: the one starts from the join of
`listAssignedToUser`, the other from all VMs.
-/

namespace ProxVM

open Tables Fallible

/-- `roles.includes("ADMIN") || roles.includes("OPERATOR")`. -/
def privilegedRoles (roles : List Role) : Bool :=
  decide (Role.admin ∈ roles) || decide (Role.operator ∈ roles)

/-- `GET /vms`: the tracked VMs, of which one item each is returned. -/
def getVms (ctx : RequestContext) : Handler (List VmRow) := do
  let user ← requireAuth ctx
  if privilegedRoles user.roles then
    query fun db => (listVms db).filter fun vm =>
      !vm.privacyFlag || hasAccessOrOwns db ctx.now vm.id user.row.id
  else
    query fun db => listAssignedToUser db ctx.now user.row.id

structure CredentialEntry where
  vmId : VmId
  vmName : String
  vmid : Nat
  node : String
  username : String
  status : CredStatus
  deriving DecidableEq, Repr

def credentialEntry (vault : Vault) (vm : VmRow) : Option CredentialEntry :=
  (vault vm.id).map fun cred => ⟨vm.id, vm.name, vm.vmid, vm.node, cred.username, cred.status⟩

/-- `GET /credentials`. -/
def getCredentials (ctx : RequestContext) (vault : Vault) : Handler (List CredentialEntry) := do
  let user ← requirePermission ctx .credReveal
  query fun db => (listVms db).filterMap fun vm =>
    if vm.privacyFlag && !hasAccessOrOwns db ctx.now vm.id user.row.id then none
    else credentialEntry vault vm

section listings

variable {db : Db} {ctx : RequestContext} {vault : Vault} {user : UserWithRoles} {vm : VmRow}

variable {now : Time} {userId : UserId}

theorem visibleTo_iff {roles : List Role}
    (hvm : findVmById db vm.id = some vm) : visibleTo db now userId roles vm.id = true ↔
      if vm.privacyFlag = true then hasAccessOrOwns db now vm.id userId = true
      else privilegedRoles roles = true ∨ hasAccess db now vm.id userId = true := by
  simp only [visibleTo, hvm]
  split
  · exact Iff.rfl
  · rw [privilegedRoles, Bool.or_eq_true]

theorem hasAccessOrOwns_iff (hvm : findVmById db vm.id = some vm) :
    hasAccessOrOwns db now vm.id userId = true ↔
      hasAccess db now vm.id userId = true ∨ vm.createdByUserId = some userId := by
  simp only [hasAccessOrOwns, hvm, Bool.or_eq_true, decide_eq_true_eq]

theorem mem_getVms (huser : findUserById db ctx.now ctx.userId = some user)
    (hvm : findVmById db vm.id = some vm) : onSuccess (getVms ctx) (fun shown _ => vm ∈ shown ↔
      visibleTo db ctx.now user.row.id user.roles vm.id = true ∨
        vm.createdByUserId = some user.row.id) db := by
  simp only [getVms, requireAuth, onSuccess_bind, onSuccess_query, onSuccess_orFail,
    onSuccess_ensure, onSuccess_pure, onSuccess_ite]
  intro session hsession _
  obtain rfl := Option.some.inj (hsession.symm.trans huser)
  rw [visibleTo_iff hvm, hasAccessOrOwns_iff hvm]
  constructor
  · intro hprivileged
    rw [List.mem_filter, mem_listVms, Bool.or_eq_true, Bool.not_eq_true', hasAccessOrOwns_iff hvm,
      and_iff_right hvm, hprivileged]
    cases vm.privacyFlag <;> simp
  · intro hordinary
    rw [mem_listAssignedToUser, and_iff_right hvm, Bool.eq_false_iff.mpr hordinary]
    cases vm.privacyFlag <;> simp

theorem mem_getCredentials (huser : findUserById db ctx.now ctx.userId = some user)
    (hvm : findVmById db vm.id = some vm) (hcred : (vault vm.id).isSome = true) :
    onSuccess (getCredentials ctx vault) (fun entries _ => (∃ entry ∈ entries, entry.vmId = vm.id) ↔
      vm.privacyFlag = false ∨ hasAccessOrOwns db ctx.now vm.id user.row.id = true) db := by
  simp only [getCredentials, requirePermission, onSuccess_bind, onSuccess_query, onSuccess_orFail,
    onSuccess_ensure, onSuccess_pure]
  intro session hsession _ _
  obtain rfl := Option.some.inj (hsession.symm.trans huser)
  constructor
  · rintro ⟨entry, hentry, hid⟩
    obtain ⟨other, hother, hshown⟩ := List.mem_filterMap.mp hentry
    split at hshown
    · cases hshown
    · rename_i hgate
      obtain ⟨cred, -, rfl⟩ := Option.map_eq_some_iff.mp hshown
      have hsame := mem_listVms.mp hother
      rw [show other.id = vm.id from hid] at hsame
      obtain rfl := Option.some.inj (hsame.symm.trans hvm)
      cases hprivate : other.privacyFlag with
      | false => exact .inl rfl
      | true => exact .inr (by simpa [hprivate] using hgate)
  · intro hgate
    obtain ⟨cred, hcred⟩ := Option.isSome_iff_exists.mp hcred
    have hentry : credentialEntry vault vm =
        some ⟨vm.id, vm.name, vm.vmid, vm.node, cred.username, cred.status⟩ := by
      rw [credentialEntry, hcred]
      rfl
    refine ⟨⟨vm.id, vm.name, vm.vmid, vm.node, cred.username, cred.status⟩,
      List.mem_filterMap.mpr ⟨vm, mem_listVms.mpr hvm, ?_⟩, rfl⟩
    rw [if_neg, hentry]
    rcases hgate with hpublic | hreaches
    · simp [hpublic]
    · simp [hreaches]

/-- **Listings and visibility.**  `GET /vms` shows a tracked VM to those to whom `visibleTo` allows
it and to its creator; `GET /credentials` shows the entry of a VM that `visibleTo` allows, and of
the privacy-flagged VMs, or to an administrator or operator, no other. -/
theorem listings_show (db : Db) (ctx : RequestContext) (vault : Vault) {user : UserWithRoles}
    (huser : findUserById db ctx.now ctx.userId = some user) {vm : VmRow}
    (hvm : findVmById db vm.id = some vm) : (∀ shown, (exec (getVms ctx) db).1 = .ok shown → (vm ∈ shown ↔
      visibleTo db ctx.now user.row.id user.roles vm.id = true ∨ vm.createdByUserId = some user.row.id)) ∧
    ∀ entries, (exec (getCredentials ctx vault) db).1 = .ok entries → (vault vm.id).isSome = true →
      (visibleTo db ctx.now user.row.id user.roles vm.id = true → ∃ entry ∈ entries, entry.vmId = vm.id) ∧
      (vm.privacyFlag = true ∨ privilegedRoles user.roles = true → (∃ entry ∈ entries, entry.vmId = vm.id) →
          visibleTo db ctx.now user.row.id user.roles vm.id = true) := by
  refine ⟨onSuccess_iff.mp (mem_getVms huser hvm), fun entries hentries hcred => ?_⟩
  have hshown := onSuccess_iff.mp (mem_getCredentials huser hvm hcred) entries hentries
  rw [hshown, visibleTo_iff hvm]
  cases vm.privacyFlag with
  | false =>
      refine ⟨fun _ => .inl rfl, fun hscope _ => .inl ?_⟩
      rcases hscope with hprivate | hprivileged
      · cases hprivate
      · exact hprivileged
  | true => exact ⟨.inr, fun _ hgate => hgate.resolve_left nofun⟩

end listings

def labVm : VmRow := plainVm 30 100 "lab-1" (some 10)

def labVault : Vault := Vault.insert (fun _ => none) ⟨1, 30, "vm", "v1:secret", "v1", .verified⟩

theorem listings_show_sample : (exec (getVms ⟨10, 5, 0⟩) Db.sample).1 = .ok [labVm] ∧
      (labVm ∈ [labVm] ↔ visibleTo Db.sample 5 10 [.admin] 30 = true ∨
        labVm.createdByUserId = some 10) ∧ (exec (getCredentials ⟨10, 5, 0⟩ labVault) Db.sample).1 =
        .ok [⟨30, "lab-1", 100, "pve1", "vm", .verified⟩] ∧ (visibleTo Db.sample 5 10 [.admin] 30 = true →
        ∃ entry ∈ [(⟨30, "lab-1", 100, "pve1", "vm", .verified⟩ : CredentialEntry)], entry.vmId = 30) := by
  have huser : findUserById Db.sample 5 10 = some ⟨plainUser 10 "root" true, [.admin]⟩ := by
    decide +kernel
  have hvm : findVmById Db.sample labVm.id = some labVm := by decide +kernel
  have hshown : (exec (getVms ⟨10, 5, 0⟩) Db.sample).1 = .ok [labVm] := by decide +kernel
  have hentries : (exec (getCredentials ⟨10, 5, 0⟩ labVault) Db.sample).1 =
      .ok [⟨30, "lab-1", 100, "pve1", "vm", .verified⟩] := by decide +kernel
  have hlaw := listings_show Db.sample ⟨10, 5, 0⟩ labVault huser hvm
  exact ⟨hshown, hlaw.1 _ hshown, hentries, (hlaw.2 _ hentries rfl).1⟩

def Db.ungranted : Db :=
  { Db.sample with
    vmAccess := Table.empty
    vms := ⟨[plainVm 30 100 "lab-1" (some 12)], by decide⟩ }

/-- A VM that is listed for its creator, to whom `visibleTo` does not allow it. -/
theorem created_without_grant : ¬ ∀ (db : Db) (ctx : RequestContext) (vault : Vault)
    (user : UserWithRoles), findUserById db ctx.now ctx.userId = some user → ∀ vm : VmRow,
      findVmById db vm.id = some vm → (∀ shown, (exec (getVms ctx) db).1 = .ok shown →
        (vm ∈ shown ↔ visibleTo db ctx.now user.row.id user.roles vm.id = true)) ∧
      ∀ entries, (exec (getCredentials ctx vault) db).1 = .ok entries →
        (vault vm.id).isSome = true → ((∃ entry ∈ entries, entry.vmId = vm.id) ↔
          visibleTo db ctx.now user.row.id user.roles vm.id = true) := by
  intro hlaw
  have huser : findUserById Db.ungranted 5 12 = some ⟨plainUser 12 "ann" false, [.guest]⟩ := by
    decide +kernel
  have hshown : (exec (getVms ⟨12, 5, 0⟩) Db.ungranted).1 =
      .ok [plainVm 30 100 "lab-1" (some 12)] := by decide +kernel
  have hiff := (hlaw Db.ungranted ⟨12, 5, 0⟩ labVault _ huser
    (plainVm 30 100 "lab-1" (some 12)) (by decide +kernel)).1 _ hshown
  have hhidden : visibleTo Db.ungranted 5 12 [.guest] 30 = false := by decide +kernel
  have hvisible := hiff.mp List.mem_cons_self
  exact absurd (hvisible.symm.trans hhidden) nofun

end ProxVM
