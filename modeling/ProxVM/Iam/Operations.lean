import ProxVM.Iam.WellFormed
import ProxVM.Routes.Users
import ProxVM.Routes.VmAccess

/-!
# The management operations

The requests that administer users, roles, groups and VM access, as one type, and
the fact that each of them keeps the identity tables well-formed.  Results about
sequences of requests quantify over this type.
-/

namespace ProxVM

open Tables Fallible

/-- Requests of `routes/iam.ts`, with the VM access requests of `routes/vms.ts`. -/
inductive IamOp
  | postRoles (body : CreateRoleBody)
  | patchRole (id : RoleId) (body : UpdateRoleBody)
  | deleteRole (id : RoleId)
  | postUserRole (id : UserId) (body : AssignRoleBody)
  | deleteUserRole (id : UserId) (roleId : RoleId)
  | postUserPermission (id : UserId) (body : GrantPermissionBody)
  | deleteUserPermission (id : UserId) (permission : String)
  | postGroups (body : CreateGroupBody)
  | patchGroup (id : GroupId) (body : UpdateGroupBody)
  | deleteGroup (id : GroupId)
  | postGroupMember (id : GroupId) (body : AddMemberBody)
  | deleteGroupMember (id : GroupId) (userId : UserId)
  | postGroupRole (id : GroupId) (body : AssignRoleBody)
  | deleteGroupRole (id : GroupId) (roleId : RoleId)
  | postGroupVm (id : GroupId) (body : GrantGroupVmBody)
  | deleteGroupVm (id : GroupId) (vmId : VmId)
  | postVmAccess (id : VmId) (body : GrantVmBody) (guacSynced : Bool)
  | deleteVmAccess (id : VmId) (userId : UserId) (guacUser guacRevoked : Bool)

def IamOp.handler (ctx : RequestContext) : IamOp → Handler Unit
  | .postRoles body => ProxVM.postRoles ctx body
  | .patchRole id body => ProxVM.patchRole ctx id body
  | .deleteRole id => ProxVM.deleteRole ctx id
  | .postUserRole id body => ProxVM.postUserRole ctx id body
  | .deleteUserRole id roleId => ProxVM.deleteUserRole ctx id roleId
  | .postUserPermission id body => ProxVM.postUserPermission ctx id body
  | .deleteUserPermission id permission => ProxVM.deleteUserPermission ctx id permission
  | .postGroups body => ProxVM.postGroups ctx body
  | .patchGroup id body => ProxVM.patchGroup ctx id body
  | .deleteGroup id => ProxVM.deleteGroup ctx id
  | .postGroupMember id body => ProxVM.postGroupMember ctx id body
  | .deleteGroupMember id userId => ProxVM.deleteGroupMember ctx id userId
  | .postGroupRole id body => ProxVM.postGroupRole ctx id body
  | .deleteGroupRole id roleId => ProxVM.deleteGroupRole ctx id roleId
  | .postGroupVm id body => ProxVM.postGroupVm ctx id body
  | .deleteGroupVm id vmId => ProxVM.deleteGroupVm ctx id vmId
  | .postVmAccess id body guacSynced => ProxVM.postVmAccess ctx id body guacSynced
  | .deleteVmAccess id userId guacUser guacRevoked =>
      ProxVM.deleteVmAccess ctx id userId guacUser guacRevoked

/-- Requests of `routes/users.ts`. -/
inductive UserOp
  | postUsers (body : CreateUserBody)
  | putUser (id : UserId) (body : UpdateUserBody)
  | deleteUser (id : UserId)
  | postRegistrationApprove (id : Nat) (role : Role)

def UserOp.handler (ctx : RequestContext) : UserOp → Handler Unit
  | .postUsers body => ProxVM.postUsers ctx body
  | .putUser id body => ProxVM.putUser ctx id body
  | .deleteUser id => ProxVM.deleteUser ctx id
  | .postRegistrationApprove id role => ProxVM.postRegistrationApprove ctx id role

variable {db db' : Db} {ctx : RequestContext}

/-! ## Group and role requests -/

private theorem wellFormed_postRoles (hwf : WellFormed db) (body : CreateRoleBody) :
    after (postRoles ctx body) (fun _ db' => WellFormed db') db := by
  refine after_postRoles (fun _ => hwf) fun ps db₁ _ _ hins => ?_
  have hwf₁ := hwf.insertRole hins
  obtain ⟨roles, rfl, hfresh, -, hmem⟩ := Db.insertRole_eq_some hins
  exact hwf₁.foldl_insertRolePermission ((hmem _).mpr (Or.inr rfl))
    (hwf.not_hardcoded_of_fresh hfresh) (unique ps)

private theorem wellFormed_patchRole (hwf : WellFormed db) (id : RoleId) (body : UpdateRoleBody) :
    after (patchRole ctx id body) (fun _ db' => WellFormed db') db := by
  refine after_patchRole (fun _ => hwf) fun role db₁ ps hrole hsys _ _ hupd => ?_
  have hwf₁ := hwf.updateRole hrole hsys hupd
  cases ps with
  | none => exact hwf₁
  | some ps =>
      obtain ⟨hroleMem, rfl⟩ := Table.find?_eq_some_iff.mp hrole
      obtain ⟨roles, rfl, hfree, hmem⟩ := Db.updateRole_eq_some hupd
      -- The permissions are stored for the renamed row, whose name is not hardcoded.
      have hname : hardcodedRole? (role.rename role.id body.name body.description).name = none := by
        rw [RoleRow.rename_name rfl]
        exact hwf.rename_not_hardcoded hroleMem hsys hfree
      have hdeleted : WellFormed (Db.deleteRolePermissions { db with roles } role.id) :=
        hwf₁.of_sublists rfl rfl (fun _ h => h) (fun _ h => (Table.mem_deleteWhere.mp h).1)
          (fun _ h => h) (fun _ h => h) fun _ h => h
      have hrenamed : role.rename role.id body.name body.description ∈ roles :=
        (hmem _).mpr ⟨role, hroleMem, rfl⟩
      simpa using hdeleted.foldl_insertRolePermission hrenamed hname (unique ps)

/-- **Every IAM request keeps the identity tables well-formed.** -/
theorem IamOp.wellFormed (hwf : WellFormed db) (op : IamOp) :
    after (op.handler ctx) (fun _ db' => WellFormed db') db := by
  cases op with
  | postRoles body => exact wellFormed_postRoles hwf body
  | patchRole id body => exact wellFormed_patchRole hwf id body
  | deleteRole id =>
      exact after_deleteRole (fun _ => hwf) fun role hrole hsys => hwf.deleteRole hrole hsys
  | postUserRole id body =>
      exact after_postUserRole (fun _ => hwf) fun _ role _ hrole _ _ =>
        hwf.putUserRole (Table.mem_of_find? hrole) rfl
  | deleteUserRole id roleId =>
      exact after_deleteUserRole (fun _ => hwf) fun _ _ _ =>
        hwf.of_sublists rfl rfl (fun _ h => (Table.mem_deleteWhere.mp h).1) (fun _ h => h)
          (fun _ h => h) (fun _ h => h) fun _ h => h
  | postUserPermission id body =>
      exact after_postUserPermission (fun _ => hwf) fun _ _ => hwf.putUserPermission _
  | deleteUserPermission id permission =>
      exact after_deleteUserPermission (fun _ => hwf) hwf fun _ =>
        hwf.congr rfl rfl rfl rfl rfl rfl rfl
  | postGroups body => exact after_postGroups (fun _ => hwf) fun _ hins => hwf.insertGroup hins
  | patchGroup id body => exact after_patchGroup (fun _ => hwf) fun _ hupd => hwf.updateGroup hupd
  | deleteGroup id => exact after_deleteGroup (fun _ => hwf) (hwf.deleteGroup id)
  | postGroupMember id body =>
      exact after_postGroupMember (fun _ => hwf) fun _ _ hgroup _ _ =>
        hwf.putGroupMember (Table.mem_of_find? hgroup) (Table.key_of_find? hgroup)
  | deleteGroupMember id userId =>
      exact after_deleteGroupMember (fun _ => hwf)
        (hwf.of_sublists rfl rfl (fun _ h => h) (fun _ h => h)
          (fun _ h => (Table.mem_deleteWhere.mp h).1) (fun _ h => h) fun _ h => h)
  | postGroupRole id body =>
      exact after_postGroupRole (fun _ => hwf) fun _ _ hgroup hrole _ =>
        hwf.putGroupRole (Table.mem_of_find? hgroup) (Table.key_of_find? hgroup)
          (Table.mem_of_find? hrole) rfl
  | deleteGroupRole id roleId =>
      exact after_deleteGroupRole (fun _ => hwf)
        (hwf.of_sublists rfl rfl (fun _ h => h) (fun _ h => h) (fun _ h => h)
          (fun _ h => (Table.mem_deleteWhere.mp h).1) fun _ h => h)
  | postGroupVm id body =>
      refine after_postGroupVm (fun _ => hwf) fun _ _ _ _ hgroup => ?_
      obtain ⟨group, hgroup⟩ := Option.isSome_iff_exists.mp hgroup
      exact hwf.putGroupVmAccess (Table.mem_of_find? hgroup) (Table.key_of_find? hgroup)
  | deleteGroupVm id vmId =>
      exact after_deleteGroupVm (fun _ => hwf)
        (hwf.of_sublists rfl rfl (fun _ h => h) (fun _ h => h) (fun _ h => h) (fun _ h => h)
          fun _ h => (Table.mem_deleteWhere.mp h).1)
  | postVmAccess id body guacSynced =>
      exact after_postVmAccess (fun _ => hwf) fun _ _ =>
        ⟨hwf.congr rfl rfl rfl rfl rfl rfl rfl, fun _ => hwf.congr rfl rfl rfl rfl rfl rfl rfl⟩
  | deleteVmAccess id userId guacUser guacRevoked =>
      exact after_deleteVmAccess (fun _ => hwf) hwf fun _ => hwf.congr rfl rfl rfl rfl rfl rfl rfl

/-! ## User requests -/

private theorem wellFormed_setRoles (hwf : WellFormed db) (userId : UserId) (roles : List Role) :
    after (setRoles userId roles) (fun _ db' => WellFormed db') db :=
  after_setRoles
    (hwf.of_sublists rfl rfl (fun _ h => (Table.mem_deleteWhere.mp h).1) (fun _ h => h)
      (fun _ h => h) (fun _ h => h) fun _ h => h)
    fun _ _ _ hins hwf => hwf.insertUserRole hins

private theorem wellFormed_createUser (hwf : WellFormed db) (input : CreateUserInput) :
    after (createUser ctx input) (fun _ db' => WellFormed db') db := by
  refine after_createUser hwf fun db₁ row _ _ hins => wellFormed_setRoles ?_ _ _
  obtain ⟨users, rfl, -⟩ := Db.insertUser_eq_some hins
  exact hwf.congr rfl rfl rfl rfl rfl rfl rfl

/-- **Every user request keeps the identity tables well-formed.** -/
theorem UserOp.wellFormed (hwf : WellFormed db) (op : UserOp) :
    after (op.handler ctx) (fun _ db' => WellFormed db') db := by
  cases op with
  | postUsers body => exact after_postUsers hwf fun input => wellFormed_createUser hwf input
  | putUser id body =>
      exact after_putUser hwf (fun _ hwf _ _ => hwf.congr rfl rfl rfl rfl rfl rfl rfl)
        (fun _ hwf roles _ => wellFormed_setRoles hwf id roles)
        (fun _ hwf _ => hwf.congr rfl rfl rfl rfl rfl rfl rfl)
        fun _ hwf _ _ => hwf.congr rfl rfl rfl rfl rfl rfl rfl
  | deleteUser id =>
      exact after_deleteUser hwf fun _ =>
        hwf.of_sublists rfl rfl (fun _ h => (Table.mem_deleteWhere.mp h).1) (fun _ h => h)
          (fun _ h => (Table.mem_deleteWhere.mp h).1) (fun _ h => h) fun _ h => h
  | postRegistrationApprove id role =>
      exact after_postRegistrationApprove hwf (hwf.congr rfl rfl rfl rfl rfl rfl rfl)
        (fun input => wellFormed_createUser hwf input)
        fun _ hwf _ => hwf.congr rfl rfl rfl rfl rfl rfl rfl

end ProxVM
