import ProxVM.Db.Seeds
import ProxVM.Iam.Operations

/-!
# Administering VM access without `vm.edit`

Granting VM access is meant to need `vm.edit`: the routes that write a grant, for
a user or for a group, check it.  Adding a member to a group hands the group's VM
grants to the new member and does not check it (`postGroupMember_gains_access`).
-/

namespace ProxVM

open Tables Fallible

variable {db db' : Db} {now now' : Time} {ctx : RequestContext} {u : UserId} {v : VmId}

/-! ## One request -/

def NoVmAccessGained (now : Time) (db db' : Db) : Prop :=
  ∀ u v, VmSource db' now u v → VmSource db now u v

theorem NoVmAccessGained.refl : NoVmAccessGained now db db :=
  fun _ _ hsource => hsource

theorem NoVmAccessGained.of_subset (hwf : WellFormed db) (hvmAccess : ∀ va ∈ db'.vmAccess, va ∈ db.vmAccess)
    (hmembers : ∀ gm ∈ db'.groupMembers, gm ∈ db.groupMembers)
    (hgroupVm : ∀ gva ∈ db'.groupVmAccess, gva ∈ db.groupVmAccess) : NoVmAccessGained now db db' := by
  intro u v hsource
  cases hsource with
  | direct va hva huser hvm hlive => exact .direct va (hvmAccess va hva) huser hvm hlive
  | group gm group gva hgm huser hlive _ hgid hgva hgvaid hgvalive hvm =>
      obtain ⟨group', hgroup', hgid'⟩ := hwf.groupMember_group gm (hmembers gm hgm)
      exact .group gm group' gva (hmembers gm hgm) huser hlive hgroup' hgid' (hgroupVm gva hgva)
        (by rw [hgvaid, hgid, hgid']) hgvalive hvm

theorem NoVmAccessGained.of_eq (hwf : WellFormed db) (hvmAccess : db'.vmAccess = db.vmAccess)
    (hmembers : db'.groupMembers = db.groupMembers)
    (hgroupVm : db'.groupVmAccess = db.groupVmAccess) : NoVmAccessGained now db db' :=
  .of_subset hwf (fun _ h => hvmAccess ▸ h) (fun _ h => hmembers ▸ h) fun _ h => hgroupVm ▸ h

def CoversGroupVms (ctx : RequestContext) (db : Db) : IamOp → Prop
  | .postGroupMember id body =>
      ∀ target, findTarget db ctx.now body.target = some target →
        ∀ gva ∈ db.groupVmAccess, gva.groupId = id → isLive gva.expiresAt ctx.now = true →
          ((resolveEffectiveAccess db ctx.now target.row.id).vmAccess gva.vmId).isSome = true
  | _ => True

private theorem vmSources_postGroupMember (id : GroupId) (body : AddMemberBody)
    (hcovers : CoversGroupVms ctx db (.postGroupMember id body)) :
    after (postGroupMember ctx id body) (fun _ db' => NoVmAccessGained ctx.now db db') db := by
  refine after_postGroupMember (fun _ => .refl) fun _ target _ htarget _ => ?_
  intro u v hsource
  cases hsource with
  | direct va hva huser hvm hlive => exact .direct va hva huser hvm hlive
  | group gm group gva hgm huser hlive hgroup hgid hgva hgvaid hgvalive hvm =>
      rcases Table.mem_put.mp hgm with rfl | ⟨hold, -⟩
      · -- The new membership: the condition names the access the target has.
        subst huser hvm
        exact vmAccess_isSome_iff.mp
          (hcovers target htarget gva hgva (hgvaid.trans hgid) hgvalive)
      · exact .group gm group gva hold huser hlive hgroup hgid hgva hgvaid hgvalive hvm

/-- **One request by an actor without `vm.edit` gives nobody access to a VM**, as
long as an added member covers the group's VMs. -/
theorem IamOp.vmSources (hwf : WellFormed db) (op : IamOp)
    (hactor : (resolveEffectiveAccess db ctx.now ctx.userId).has .vmEdit = false)
    (hcovers : CoversGroupVms ctx db op) :
    after (op.handler ctx) (fun _ db' => NoVmAccessGained ctx.now db db') db := by
  have hnoEdit : (resolveEffectiveAccess db ctx.now ctx.userId).has .vmEdit ≠ true := by
    simp [hactor]
  cases op with
  | postRoles body =>
      refine after_postRoles (fun _ => .refl) fun ps db₁ _ _ hins => ?_
      obtain ⟨roles, rfl, -⟩ := Db.insertRole_eq_some hins
      obtain ⟨rolePermissions, heq, -⟩ :=
        Db.foldl_insertRolePermission_eq { db with roles } ctx.newId (unique ps)
      rw [heq]
      exact .of_eq hwf rfl rfl rfl
  | patchRole id body =>
      refine after_patchRole (fun _ => .refl) fun _ db₁ ps _ _ _ _ hupd => ?_
      obtain ⟨roles, rfl, -⟩ := Db.updateRole_eq_some hupd
      cases ps with
      | none => exact .of_eq hwf rfl rfl rfl
      | some ps =>
          obtain ⟨rolePermissions, heq, -⟩ := Db.foldl_insertRolePermission_eq
            (Db.deleteRolePermissions { db with roles } id) id (unique ps)
          simp only [heq]
          exact .of_eq hwf rfl rfl rfl
  | deleteRole id => exact after_deleteRole (fun _ => .refl) fun _ _ _ => .of_eq hwf rfl rfl rfl
  | postUserRole id body =>
      exact after_postUserRole (fun _ => .refl) fun _ _ _ _ _ _ => .of_eq hwf rfl rfl rfl
  | deleteUserRole id roleId =>
      exact after_deleteUserRole (fun _ => .refl) fun _ _ _ => .of_eq hwf rfl rfl rfl
  | postUserPermission id body =>
      exact after_postUserPermission (fun _ => .refl) fun _ _ => .of_eq hwf rfl rfl rfl
  | deleteUserPermission id permission =>
      exact after_deleteUserPermission (fun _ => .refl) .refl fun _ => .of_eq hwf rfl rfl rfl
  | postGroups body =>
      refine after_postGroups (fun _ => .refl) fun db₁ hins => ?_
      obtain ⟨groups, rfl, -⟩ := Db.insertGroup_eq_some hins
      exact .of_eq hwf rfl rfl rfl
  | patchGroup id body =>
      refine after_patchGroup (fun _ => .refl) fun db₁ hupd => ?_
      obtain ⟨groups, rfl, -⟩ := Db.updateGroup_eq_some hupd
      exact .of_eq hwf rfl rfl rfl
  | deleteGroup id =>
      exact after_deleteGroup (fun _ => .refl)
        (.of_subset hwf (fun _ h => h) (fun _ h => (Table.mem_deleteWhere.mp h).1)
          fun _ h => (Table.mem_deleteWhere.mp h).1)
  | postGroupMember id body => exact vmSources_postGroupMember id body hcovers
  | deleteGroupMember id userId =>
      exact after_deleteGroupMember (fun _ => .refl)
        (.of_subset hwf (fun _ h => h) (fun _ h => (Table.mem_deleteWhere.mp h).1) fun _ h => h)
  | postGroupRole id body =>
      exact after_postGroupRole (fun _ => .refl) fun _ _ _ _ _ => .of_eq hwf rfl rfl rfl
  | deleteGroupRole id roleId =>
      exact after_deleteGroupRole (fun _ => .refl) (.of_eq hwf rfl rfl rfl)
  | postGroupVm id body =>
      exact after_postGroupVm (fun _ => .refl) fun _ _ _ hedit _ => absurd hedit hnoEdit
  | deleteGroupVm id vmId =>
      exact after_deleteGroupVm (fun _ => .refl)
        (.of_subset hwf (fun _ h => h) (fun _ h => h) fun _ h => (Table.mem_deleteWhere.mp h).1)
  | postVmAccess id body guacSynced =>
      exact after_postVmAccess (fun _ => .refl) fun _ hedit => absurd hedit hnoEdit
  | deleteVmAccess id userId guacUser guacRevoked =>
      exact after_deleteVmAccess (fun _ => .refl) .refl fun _ =>
        .of_subset hwf (fun _ h => (Table.mem_deleteWhere.mp h).1) (fun _ h => h) fun _ h => h

/-! ## Sequences of requests -/

/-- A sequence of requests by one actor who never holds `vm.edit` when they make
one.  Time passes between the requests.  `P` is a condition on each request and
the database it meets. -/
inductive AdminRun (P : RequestContext → Db → IamOp → Prop) (actor : UserId) (db₀ : Db)
    (t₀ : Time) : Db → Time → Prop
  | start : AdminRun P actor db₀ t₀ db₀ t₀
  | request {db : Db} {t : Time} (ctx : RequestContext) (op : IamOp)
      (hrun : AdminRun P actor db₀ t₀ db t) (htime : t ≤ ctx.now) (hactor : ctx.userId = actor)
      (hnoEdit : (resolveEffectiveAccess db ctx.now actor).has .vmEdit = false)
      (hcond : P ctx db op) :
      AdminRun P actor db₀ t₀ (exec (op.handler ctx) db).2 ctx.now

theorem VmSource.of_le (hle : now ≤ now') (hsource : VmSource db now' u v) : VmSource db now u v := by
  cases hsource with
  | direct va hva huser hvm hlive => exact .direct va hva huser hvm (isLive_of_le hle hlive)
  | group gm group gva hgm huser hlive hgroup hgid hgva hgvaid hgvalive hvm =>
      exact .group gm group gva hgm huser (isLive_of_le hle hlive) hgroup hgid hgva hgvaid
        (isLive_of_le hle hgvalive) hvm

private theorem AdminRun.invariant {actor : UserId} {db₀ : Db} {t₀ : Time} (hwf : WellFormed db₀)
    {t : Time} (hrun : AdminRun CoversGroupVms actor db₀ t₀ db t) :
    WellFormed db ∧ ∀ u v, VmSource db t u v → VmSource db₀ t₀ u v := by
  induction hrun with
  | start => exact ⟨hwf, fun _ _ hsource => hsource⟩
  | @request db t ctx op _ htime hactor hnoEdit hcond ih =>
      obtain ⟨hwf', hkept⟩ := ih
      subst hactor
      refine ⟨IamOp.wellFormed hwf' op, fun u v hsource => hkept u v (VmSource.of_le htime ?_)⟩
      exact IamOp.vmSources hwf' op hnoEdit hcond u v hsource

/-- **Without `vm.edit`, group and VM-access administration gives nobody access to
a VM they could not access before**, as long as members are only added to groups
whose VMs they can access already. -/
theorem no_vm_access_gained {actor : UserId} {db₀ : Db} {t₀ : Time} (hwf : WellFormed db₀)
    {t : Time} (hrun : AdminRun CoversGroupVms actor db₀ t₀ db t) (u : UserId) (v : VmId)
    (hafter : ((resolveEffectiveAccess db t u).vmAccess v).isSome = true) :
    ((resolveEffectiveAccess db₀ t₀ u).vmAccess v).isSome = true :=
  vmAccess_isSome_iff.mpr ((hrun.invariant hwf).2 u v (vmAccess_isSome_iff.mp hafter))

/-- The request by which `lead`, who may manage groups and nothing else, joins
the group `lab`. -/
def leadJoinsLab : IamOp := .postGroupMember 20 ⟨⟨some 13, none⟩, none⟩

/-- **Adding a member bypasses `vm.edit`**: `lead` joins `lab` and reaches its VM,
without ever holding `vm.edit`. -/
theorem postGroupMember_gains_access : WellFormed Db.sample ∧ AdminRun (fun _ _ _ => True) 13 Db.sample 0
        (exec (leadJoinsLab.handler ⟨13, 0, 99⟩) Db.sample).2 0 ∧
      (resolveEffectiveAccess (exec (leadJoinsLab.handler ⟨13, 0, 99⟩) Db.sample).2 0 13).has
        .vmEdit = false ∧ ((resolveEffectiveAccess Db.sample 0 13).vmAccess 30).isSome = false ∧
      ((resolveEffectiveAccess (exec (leadJoinsLab.handler ⟨13, 0, 99⟩) Db.sample).2 0 13).vmAccess
        30).isSome = true :=
  ⟨wellFormed_sample,
    .request ⟨13, 0, 99⟩ leadJoinsLab .start (Nat.le_refl 0) rfl (by decide) trivial,
    by decide, by decide, by decide⟩

def annJoinsLab : IamOp := .postGroupMember 20 ⟨⟨some 12, none⟩, none⟩

theorem no_vm_access_gained_sample : ((resolveEffectiveAccess Db.sample 0 12).vmAccess 30).isSome = true :=
  no_vm_access_gained wellFormed_sample
    (.request ⟨13, 0, 99⟩ annJoinsLab .start (Nat.le_refl 0) rfl (by decide) (by
      intro target htarget gva hgva _ _
      obtain rfl : target = ⟨plainUser 12 "ann" false, [.guest]⟩ :=
        Option.some.inj (htarget.symm.trans (by decide))
      revert gva
      decide)) 12 30 (by decide)

end ProxVM
