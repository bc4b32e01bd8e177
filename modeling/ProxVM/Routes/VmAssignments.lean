import ProxVM.Iam.AccessSync
import ProxVM.Routes.VmAccess

/-!
# Assignments and Guacamole

Three requests write `vm_access` and the READ permissions in Guacamole together: `PUT /vms/:id`
with `assignToUserIds` and `DELETE /vms/:id/access/:userId` of `routes/vms.ts`, and the
assignment at the end of provisioning (`createGuacamoleConnection` of
`provisioning/pipeline.ts`).

The hardware part of `PUT /vms/:id` is a parameter.
-/

namespace ProxVM

open Tables Fallible

/-! ## Steps the requests share -/

/-- `ensureGuacUser` and `grantVmAccess`. -/
def syncGrant (env : AccessEnv) (now : Time) (vmId : VmId) (user : UserWithRoles) :
    SweepProgram Unit := do
  ensureGuacUser env user.row.id user.row.username
  grantVmAccess (env.at now) vmId user.row.id

/-! ## `PUT /vms/:id` -/

/-- `mergeGrantScope`: an existing grant keeps its scope. -/
def mergeGrantScope (existing : Option (Option (List Protocol) × Option Time))
    (requested : Option (List Protocol) × Option Time) : Option (List Protocol) × Option Time :=
  match existing with
  | none => requested
  | some scope => scope

/-- The direct grants among `VmsRepository.listAccessEntries`. -/
def directEntries (db : Db) (vmId : VmId) : List VmAccessRow :=
  db.vmAccess.rows.filter fun va => decide (va.vmId = vmId)

/-- `liveDirect.has(userId)`. -/
def isLiveDirect (entries : List VmAccessRow) (now : Time) (userId : UserId) : Bool :=
  entries.any fun e => decide (e.userId = userId) && isLive e.expiresAt now

def entryScope (entries : List VmAccessRow) (userId : UserId) :
    Option (Option (List Protocol) × Option Time) :=
  (entries.find? fun e => decide (e.userId = userId)).map fun e => (e.protocols, e.expiresAt)

def grantListed (ctx : RequestContext) (env : AccessEnv) (actorId : UserId) (vmId : VmId)
    (entries : List VmAccessRow) (userId : UserId) : SweepProgram PUnit := do
  let found ← query fun w => findUserById w.db ctx.now userId
  match found with
  | none => pure ⟨⟩
  | some target => do
      (env.at ctx.now).reach vmId target.row.id .getGuacDb
      syncGrant env ctx.now vmId target
      let scope := mergeGrantScope (entryScope entries target.row.id) (none, none)
      write fun w => { w with
        db := w.db.replaceVmAccess ⟨vmId, target.row.id, scope.1, scope.2, some actorId⟩ }

def listedUsers (entries : List VmAccessRow) (now : Time) (ids : List UserId) : List UserId :=
  ids.filter fun userId => !isLiveDirect entries now userId

def unlistedUsers (entries : List VmAccessRow) (ids : List UserId) : List UserId :=
  (entries.filter fun e => !decide (e.userId ∈ ids)).map VmAccessRow.userId

/-- The block for `body.assignToUserIds`. -/
def assignListed (ctx : RequestContext) (env : AccessEnv) (actorId : UserId) (vmId : VmId)
    (ids : List UserId) : SweepProgram Unit := do
  let entries ← query fun w => directEntries w.db vmId
  (env.at ctx.now).reach vmId actorId .getGuacDb
  forM (listedUsers entries ctx.now ids) (grantListed ctx env actorId vmId entries)
  forM (unlistedUsers entries ids) (withdrawVmAccess (env.at ctx.now) vmId)

/-- `PUT /vms/:id`.  `hardware` is what the resource limits and the hypervisor make of the
rest of the body. -/
def putVm (ctx : RequestContext) (env : AccessEnv) (id : VmId) (hardware : Except AppError Unit)
    (assignToUserIds : Option (List UserId)) : SweepProgram Unit := do
  let session ← onDb (requireAuth ctx)
  let allowed ← query fun w => visibleTo w.db ctx.now session.row.id session.roles id
  ensure allowed AppError.forbidden
  let user ← onDb (requirePermission ctx .vmEdit)
  let vm ← onDb (requireVmById id)
  outcome hardware
  match assignToUserIds with
  | none => pure ()
  | some ids => assignListed ctx env user.row.id vm.id ids

/-! ## `DELETE /vms/:id/access/:userId` -/

/-- Authors of an invite may withdraw it while they have access themselves; everybody else
needs `vm.edit`. -/
def checkWithdrawal (ctx : RequestContext) (id : VmId) (userId : UserId) : Handler VmRow := do
  let actor ← requireAuth ctx
  let vm ← requireVmById id
  let reaches ← query fun db => hasAccessOrOwns db ctx.now vm.id actor.row.id
  let ownInvite ← query fun db => (db.vmAccess.find? (vm.id, userId)).any fun va =>
    decide (va.createdBy = some actor.row.id)
  if ownInvite && reaches then
    pure vm
  else do
    let _ ← requirePermission ctx .vmEdit
    ensure (!vm.privacyFlag || reaches)
      (AppError.forbidden "This VM is privacy-flagged: access management requires a direct grant")
    pure vm

/-- `DELETE /vms/:id/access/:userId`, with the revocation in Guacamole. -/
def deleteVmAccessSynced (ctx : RequestContext) (env : AccessEnv) (id : VmId) (userId : UserId) :
    SweepProgram Unit := do
  let vm ← onDb (checkWithdrawal ctx id userId)
  let assigned ← query fun w => hasAccess w.db ctx.now vm.id userId
  let guacUser ← query fun w => (w.findUserRecord userId).isSome
  if !assigned && !guacUser then
    pure ()
  else do
    (env.at ctx.now).reach vm.id userId .getGuacDb
    withdrawVmAccess (env.at ctx.now) vm.id userId

/-! ## The end of provisioning -/

def assignUser (env : AccessEnv) (now : Time) (vmId : VmId) (user : UserWithRoles) :
    SweepProgram Unit := do
  syncGrant env now vmId user
  write fun w => { w with db := w.db.setVmAccess vmId user.row.id }

def grantAssigned (env : AccessEnv) (now : Time) (vmId : VmId) (userId : UserId) :
    SweepProgram PUnit := do
  let found ← query fun w => findUserById w.db now userId
  match found with
  | none => pure ⟨⟩
  | some user => assignUser env now vmId user

/-- The creator, assigned when nobody else is: a user with a role other than `USER`. -/
def assignedCreator (db : Db) (now : Time) (vm : VmRow) : Option UserWithRoles :=
  (vm.createdByUserId.bind (findUserById db now)).filter fun creator =>
    creator.roles.any fun role => decide (role ≠ .user)

def assignCreator (env : AccessEnv) (now : Time) (vm : VmRow) : SweepProgram Unit := do
  let creator ← query fun w => assignedCreator w.db now vm
  match creator with
  | none => pure ()
  | some user => assignUser env now vm.id user

/-- The assignments of `createGuacamoleConnection`. -/
def assignProvisioned (ctx : RequestContext) (env : AccessEnv) (id : VmId) (ids : List UserId) :
    SweepProgram Unit := do
  let vm ← onDb (requireVmById id)
  forM ids (grantAssigned env ctx.now vm.id)
  if ids.isEmpty then assignCreator env ctx.now vm else pure ()

/-! ## Rounds -/

section rounds

variable {ctx : RequestContext} {env : AccessEnv} {vmId : VmId} {userId : UserId}
  {user : UserWithRoles} {w s : AccessWorld}

theorem onSuccess_syncGrant {now : Time} : onSuccess (syncGrant env now vmId user) (fun _ w' =>
    Confined vmId user.row.id w w' ∧ w'.db = w.db ∧ w'.Granted vmId user.row.id) w := by
  simp only [syncGrant, onSuccess_bind]
  refine onSuccess_mono (onSuccess_ensureGuacUser vmId user.row.username) ?_
  rintro _ w₁ ⟨hensured, hdb₁, hfound⟩
  refine onSuccess_mono onSuccess_grantVmAccess ?_
  rintro _ w₂ ⟨hgrants, hdb₂, hgranted⟩
  exact ⟨hensured.trans hgrants, hdb₂.trans hdb₁, hgranted hfound⟩

theorem GrantRound.of_grants {s' : AccessWorld} {t : Table VmAccessRow.key} {va : VmAccessRow}
    (hconfined : Confined vmId userId s s') (hdb : s'.db = s.db) (hgranted : s'.Granted vmId userId)
    (hothers : ∀ other, other ≠ userId → t.find? (vmId, other) = s.db.vmAccess.find? (vmId, other))
    (hfind : t.find? (vmId, userId) = some va)
    (hscope : (va.protocols, va.expiresAt) = scopeOf w vmId userId) :
    GrantRound vmId userId w s { s' with db := { s'.db with vmAccess := t } } := by
  have hgrants : Confined vmId userId s' { s' with db := { s'.db with vmAccess := t } } :=
    .of_grants fun other hne => by rw [hdb]; exact hothers other hne
  have hdirect : directScope { s'.db with vmAccess := t } vmId userId =
      some (scopeOf w vmId userId) := by
    rw [directScope, hfind, ← hscope]
    rfl
  refine ⟨hconfined.trans hgrants, ?_, fun _ => ⟨hgranted, ?_⟩⟩
  · rw [scopeOf, hdirect]
    rfl
  · rw [hdirect]
    rfl

theorem GrantRound.skip (hspread : SameBesideGrants w.db s.db)
    (hscope : scopeOf s vmId userId = scopeOf w vmId userId) {now : Time}
    (hnone : findUserById s.db now userId = none) : GrantRound vmId userId w s s := by
  refine ⟨.refl s, hscope, fun hsome => ?_⟩
  rw [hspread] at hnone
  rw [Option.map_eq_none_iff.mp hnone] at hsome
  cases hsome

theorem findUserById_id {db : Db} {now : Time} {id : UserId}
    (hfind : findUserById db now id = some user) : user.row.id = id :=
  (findUserById_eq_some hfind).2.1

theorem entryScope_directEntries (db : Db) (vmId : VmId) (userId : UserId) :
    entryScope (directEntries db vmId) userId = directScope db vmId userId := by
  rw [entryScope, directEntries, directScope, List.find?_filter]
  simp only [Table.find?, VmAccessRow.key, Prod.mk.injEq, Bool.decide_and, decide_eq_true_eq]

theorem mergeGrantScope_eq (existing : Option (Option (List Protocol) × Option Time))
    (requested : Option (List Protocol) × Option Time) :
    mergeGrantScope existing requested = existing.getD requested := by
  cases existing with
  | none => rfl
  | some scope => rfl

theorem onSuccess_grantListed {actorId : UserId} (hbeside : SameBesideGrants w.db s.db)
    (hscope : scopeOf s vmId userId = scopeOf w vmId userId) :
    onSuccess (grantListed ctx env actorId vmId (directEntries w.db vmId) userId)
      (fun _ s' => GrantRound vmId userId w s s') s := by
  simp only [grantListed, onSuccess_bind, onSuccess_query]
  cases hfind : findUserById s.db ctx.now userId with
  | none => exact onSuccess_pure.mpr (.skip hbeside hscope hfind)
  | some target =>
      have hid := findUserById_id hfind
      subst hid
      simp only [onSuccess_bind, onSuccess_reach]
      intro _
      refine onSuccess_mono onSuccess_syncGrant ?_
      rintro _ s₁ ⟨hconfined, hdb, hgranted⟩
      rw [onSuccess_write]
      refine .of_grants hconfined hdb hgranted (fun other hne => ?_)
        (Table.find?_put_self s₁.db.vmAccess _) ?_
      · rw [Table.find?_put_of_ne _ fun heq => hne (congrArg Prod.snd heq).symm, hdb]
      · rw [entryScope_directEntries, mergeGrantScope_eq]
        rfl

theorem onSuccess_assignUser {now : Time} (hscope : scopeOf s vmId user.row.id = scopeOf w vmId user.row.id) :
    onSuccess (assignUser env now vmId user) (fun _ s' => GrantRound vmId user.row.id w s s') s := by
  simp only [assignUser, onSuccess_bind]
  refine onSuccess_mono onSuccess_syncGrant ?_
  rintro _ s₁ ⟨hconfined, hdb, hgranted⟩
  rw [onSuccess_write]
  cases hfind : s₁.db.vmAccess.find? (vmId, user.row.id) with
  | some va =>
      have hset : s₁.db.setVmAccess vmId user.row.id = { s₁.db with vmAccess := s₁.db.vmAccess } := by
        rw [Db.setVmAccess, hfind]
      rw [hset]
      refine .of_grants hconfined hdb hgranted (fun other _ => by rw [hdb]) hfind ?_
      rw [← hscope, scopeOf, directScope, ← hdb, hfind]
      rfl
  | none =>
      have hset : s₁.db.setVmAccess vmId user.row.id =
          { s₁.db with vmAccess := s₁.db.vmAccess.put ⟨vmId, user.row.id, none, none, none⟩ } := by
        rw [Db.setVmAccess, hfind]
      rw [hset]
      refine .of_grants hconfined hdb hgranted (fun other hne => ?_)
        (Table.find?_put_self s₁.db.vmAccess _) ?_
      · rw [Table.find?_put_of_ne _ fun heq => hne (congrArg Prod.snd heq).symm, hdb]
      · rw [← hscope, scopeOf, directScope, ← hdb, hfind]
        rfl

theorem onSuccess_grantAssigned {now : Time} (hbeside : SameBesideGrants w.db s.db)
    (hscope : scopeOf s vmId userId = scopeOf w vmId userId) :
    onSuccess (grantAssigned env now vmId userId) (fun _ s' => GrantRound vmId userId w s s') s := by
  simp only [grantAssigned, onSuccess_bind, onSuccess_query]
  cases hfind : findUserById s.db now userId with
  | none => exact onSuccess_pure.mpr (.skip hbeside hscope hfind)
  | some user =>
      have hid := findUserById_id hfind
      subst hid
      exact onSuccess_assignUser hscope

end rounds

/-! ## Requests -/

section requests

variable {ctx : RequestContext} {env : AccessEnv} {id vmId : VmId} {userId : UserId}
  {w w' : AccessWorld}

variable {now : Time} {ids : List UserId} {db : Db}

theorem mem_listedUsers {entries : List VmAccessRow} : userId ∈ listedUsers entries now ids ↔
      userId ∈ ids ∧ isLiveDirect entries now userId = false := by
  simp [listedUsers]

theorem mem_unlistedUsers : userId ∈ unlistedUsers (directEntries db vmId) ids ↔
      (directScope db vmId userId).isSome = true ∧ userId ∉ ids := by
  simp only [unlistedUsers, directEntries, directScope, List.mem_map, List.mem_filter,
    Bool.not_eq_true', decide_eq_true_eq, decide_eq_false_iff_not, Option.isSome_map,
    Option.isSome_iff_exists, Table.find?_eq_some_iff]
  constructor
  · rintro ⟨va, ⟨⟨hva, hvm⟩, hnot⟩, rfl⟩
    exact ⟨⟨va, hva, by rw [VmAccessRow.key, hvm]⟩, hnot⟩
  · rintro ⟨⟨va, hva, hkey⟩, hnot⟩
    have huser : va.userId = userId := congrArg Prod.snd hkey
    exact ⟨va, ⟨⟨hva, congrArg Prod.fst hkey⟩, huser ▸ hnot⟩, huser⟩

theorem onSuccess_assignListed {actorId : UserId} (hunique : w.UniqueNames) :
    onSuccess (assignListed ctx env actorId vmId ids) (fun _ w' =>
      (∀ userId ∈ listedUsers (directEntries w.db vmId) ctx.now ids,
        (w.db.users.find? userId).isSome → GrantedAll vmId userId w w') ∧
      ∀ userId ∈ unlistedUsers (directEntries w.db vmId) ids, WithdrawnAll vmId userId w w') w := by
  simp only [assignListed, onSuccess_bind, onSuccess_query, onSuccess_reach]
  intro _
  refine onSuccess_mono (onSuccess_grantLoop (fun userId _ s hspread hscope =>
    onSuccess_grantListed hspread.beside hscope) hunique) ?_
  rintro _ w₁ ⟨hspread, hgranted⟩
  refine onSuccess_mono (onSuccess_withdrawLoop hspread.unique) ?_
  rintro _ w₂ ⟨hspread', hwithdrawn⟩
  refine ⟨fun userId hmem hfound => ?_, fun userId hmem => ?_⟩
  · -- the second loop leaves the listed alone
    refine (hgranted userId hmem hfound).trans (hspread'.others userId fun hunlisted => ?_)
    exact (mem_unlistedUsers.mp hunlisted).2 (mem_listedUsers.mp hmem).1
  · -- and the first one the others
    refine .of_bystander (hspread.others userId fun hlisted => ?_) (hwithdrawn userId hmem)
    exact (mem_unlistedUsers.mp hmem).2 (mem_listedUsers.mp hlisted).1

theorem onSuccess_checkWithdrawal {P : VmRow → Db → Prop}
    (hok : ∀ vm, vm.id = id → P vm db) : onSuccess (checkWithdrawal ctx id userId) P db := by
  simp only [checkWithdrawal, onSuccess_bind]
  refine onSuccess_requireAuth fun actor _ => onSuccess_requireVmById fun vm _ hvm => ?_
  simp only [onSuccess_query, onSuccess_ite, onSuccess_pure, onSuccess_bind]
  refine ⟨fun _ => hok vm hvm, fun _ => onSuccess_requirePermission fun _ _ => ?_⟩
  rw [onSuccess_ensure]
  exact fun _ => hok vm hvm

theorem onSuccess_deleteVmAccessSynced : onSuccess (deleteVmAccessSynced ctx env id userId) (fun _ w' =>
      WithdrawnAll id userId w w' ∨
        w.findUserRecord userId = none ∧ w'.findUserRecord userId = none) w := by
  simp only [deleteVmAccessSynced, onSuccess_bind, onSuccess_onDb]
  refine onSuccess_checkWithdrawal fun vm hvm => ?_
  subst hvm
  simp only [onSuccess_query, onSuccess_ite, onSuccess_pure, onSuccess_bind, onSuccess_reach]
  refine ⟨fun hnothing => .inr ?_, fun _ _ => ?_⟩
  · have hnone : w.findUserRecord userId = none := by
      simpa using (Bool.and_eq_true_iff.mp hnothing).2
    exact ⟨hnone, hnone⟩
  · exact onSuccess_mono onSuccess_withdrawVmAccess fun _ w' hdone => .inl hdone.2

theorem assignedCreator_found {vm : VmRow} {creator : UserWithRoles}
    (hcreator : assignedCreator db now vm = some creator) : (db.users.find? creator.row.id).isSome := by
  obtain ⟨hfind, -⟩ := Option.filter_eq_some_iff.mp hcreator
  obtain ⟨creatorId, -, hfind⟩ := Option.bind_eq_some_iff.mp hfind
  obtain ⟨hmem, -, -⟩ := findUserById_eq_some hfind
  rw [Table.find?_of_mem hmem]
  rfl

theorem onSuccess_assignProvisioned (hunique : w.UniqueNames) :
    onSuccess (assignProvisioned ctx env id ids) (fun _ w' =>
      (∀ userId ∈ ids, (w.db.users.find? userId).isSome → GrantedAll id userId w w') ∧
      ∀ vm creator, ids = [] → findVmById w.db id = some vm →
        assignedCreator w.db ctx.now vm = some creator → GrantedAll id creator.row.id w w') w := by
  simp only [assignProvisioned, onSuccess_bind, onSuccess_onDb]
  refine onSuccess_requireVmById fun vm hfind hvm => ?_
  subst hvm
  cases ids with
  | cons first rest =>
      refine onSuccess_mono (onSuccess_grantLoop (fun userId _ s hspread hscope =>
        onSuccess_grantAssigned hspread.beside hscope) hunique) ?_
      rintro _ w₁ ⟨_, hgranted⟩
      exact onSuccess_pure.mpr ⟨hgranted, fun _ _ hempty => by cases hempty⟩
  | nil =>
      simp only [List.forM_nil, onSuccess_pure, List.isEmpty_nil, if_true, assignCreator,
        onSuccess_bind, onSuccess_query]
      cases hcreator : assignedCreator w.db ctx.now vm with
      | none =>
          refine onSuccess_pure.mpr ⟨fun _ hmem => absurd hmem List.not_mem_nil,
            fun vm' creator _ hfind' hsome => ?_⟩
          obtain rfl := Option.some.inj (hfind.symm.trans hfind')
          rw [hcreator] at hsome
          cases hsome
      | some user =>
          refine onSuccess_mono (onSuccess_assignUser (w := w) rfl) fun _ w' hround => ?_
          refine ⟨fun _ hmem => absurd hmem List.not_mem_nil, fun vm' creator _ hfind' hsome => ?_⟩
          obtain rfl := Option.some.inj (hfind.symm.trans hfind')
          obtain rfl := Option.some.inj (hcreator.symm.trans hsome)
          exact hround.grantedAll (assignedCreator_found hcreator)

end requests

/-! ## After any of them -/

/-- A request that writes `vm_access` and Guacamole's permissions. -/
inductive AssignmentRequest
  | put (id : VmId) (hardware : Except AppError Unit) (assignToUserIds : List UserId)
  | delete (id : VmId) (userId : UserId)
  | provisioned (id : VmId) (assignToUserIds : List UserId)

namespace AssignmentRequest

def vmId : AssignmentRequest → VmId
  | .put id _ _ => id
  | .delete id _ => id
  | .provisioned id _ => id

def run (ctx : RequestContext) (env : AccessEnv) : AssignmentRequest → SweepProgram Unit
  | .put id hardware ids => putVm ctx env id hardware (some ids)
  | .delete id userId => deleteVmAccessSynced ctx env id userId
  | .provisioned id ids => assignProvisioned ctx env id ids

def Grants (request : AssignmentRequest) (now : Time) (w : AccessWorld) (userId : UserId) : Prop :=
  match request with
  | .put id _ ids => (w.db.users.find? userId).isSome ∧ userId ∈ ids ∧
      isLiveDirect (directEntries w.db id) now userId = false
  | .delete _ _ => False
  | .provisioned id ids => (w.db.users.find? userId).isSome ∧ userId ∈ ids ∨
      ids = [] ∧ ∃ vm creator, findVmById w.db id = some vm ∧
        assignedCreator w.db now vm = some creator ∧ creator.row.id = userId

def Withdraws (request : AssignmentRequest) (w : AccessWorld) (userId : UserId) : Prop :=
  match request with
  | .put id _ ids => (directScope w.db id userId).isSome ∧ userId ∉ ids
  | .delete _ target => userId = target
  | .provisioned _ _ => False

variable {ctx : RequestContext} {env : AccessEnv} {w w' : AccessWorld}

structure Settled (request : AssignmentRequest) (now : Time) (w w' : AccessWorld) : Prop where
  grants : ∀ userId, request.Grants now w userId → GrantedAll request.vmId userId w w'
  withdraws : ∀ userId, request.Withdraws w userId → WithdrawnAll request.vmId userId w w' ∨
    w.findUserRecord userId = none ∧ w'.findUserRecord userId = none

theorem onSuccess_run (request : AssignmentRequest) (hunique : w.UniqueNames) :
    onSuccess (request.run ctx env) (fun _ w' => request.Settled ctx.now w w') w := by
  cases request with
  | put id hardware ids =>
      simp only [run, putVm, onSuccess_bind, onSuccess_onDb]
      refine onSuccess_requireAuth fun session _ => ?_
      simp only [onSuccess_query, onSuccess_ensure]
      refine fun _ => onSuccess_requirePermission fun user _ => ?_
      refine onSuccess_requireVmById fun vm _ hvm => ?_
      subst hvm
      rw [onSuccess_outcome]
      intro _ _
      refine onSuccess_mono (onSuccess_assignListed hunique) ?_
      rintro _ w' ⟨hgrants, hwithdraws⟩
      exact ⟨fun userId hgrant => hgrants userId (mem_listedUsers.mpr hgrant.2) hgrant.1,
        fun userId hmem => .inl (hwithdraws userId (mem_unlistedUsers.mpr hmem))⟩
  | delete id target =>
      refine onSuccess_mono onSuccess_deleteVmAccessSynced fun _ w' hdone => ⟨fun _ hgrant => False.elim hgrant, ?_⟩
      rintro userId rfl
      exact hdone
  | provisioned id ids =>
      refine onSuccess_mono (onSuccess_assignProvisioned hunique) ?_
      rintro _ w' ⟨hgrants, hcreator⟩
      refine ⟨?_, fun _ hwithdraw => False.elim hwithdraw⟩
      rintro userId (⟨hfound, hmem⟩ | ⟨hempty, vm, creator, hfind, hsome, rfl⟩)
      · exact hgrants userId hmem hfound
      · exact hcreator vm creator hempty hfind hsome

/-- **Writes of VM access and Guacamole agree exactly when access is all or nothing.**  After a
successful request the READ permissions of every user it concerns are those the remaining
effective access permits if and only if, for the users granted access, that access permits
every connection of the VM, and for the users withdrawn, it permits none. -/
theorem assignment_readsPermitted_iff (request : AssignmentRequest) (hunique : w.UniqueNames)
    (hok : (exec (request.run ctx env) w).1 = .ok ()) :
    (∀ userId, request.Grants ctx.now w userId ∨ request.Withdraws w userId →
      (exec (request.run ctx env) w).2.ReadsPermitted ctx.now request.vmId userId) ↔
    ∀ userId, (request.Grants ctx.now w userId → w.AllPermitted ctx.now request.vmId userId) ∧
      (request.Withdraws w userId →
        (w.withoutDirect request.vmId userId).NothingPermitted ctx.now request.vmId userId) := by
  obtain ⟨hgrants, hwithdraws⟩ := onSuccess_run request hunique () hok
  refine forall_congr' fun userId => or_imp.trans (and_congr ?_ ?_)
  · exact imp_congr_right fun hgrant => (hgrants userId hgrant).readsPermitted_iff
  · refine imp_congr_right fun hwithdraw => ?_
    rcases hwithdraws userId hwithdraw with hdone | ⟨hnone, hnone'⟩
    · exact hdone.readsPermitted_iff
    · -- without a Guacamole account there is nothing to agree about
      refine iff_of_true (AccessWorld.readsPermitted_of_none hnone') fun record hrecord => ?_
      change w.findUserRecord userId = some record at hrecord
      rw [hnone] at hrecord
      cases hrecord

end AssignmentRequest

/-! ## Direct grants beside others -/

def AccessWorld.assigned (expiresAt : Option Time) (members : Table GroupMemberRow.key) :
    AccessWorld where
  db :=
    { Db.sample with
      groupMembers := members
      vmAccess := ⟨[⟨30, 12, none, expiresAt, some 10⟩], List.nodup_singleton _⟩ }
  connections := [⟨30, .ssh, "proxvm-lab-1"⟩]
  guacUsers := ⟨[⟨12, "px_ann"⟩], by decide⟩
  reads := [⟨"proxvm-lab-1", "px_ann"⟩]

theorem nodup_ann : ([⟨20, 12, none⟩].map GroupMemberRow.key).Nodup := by decide

def annsMembership : Table GroupMemberRow.key := ⟨[⟨20, 12, none⟩], nodup_ann⟩

theorem uniqueNames_assigned (expiresAt : Option Time) (members : Table GroupMemberRow.key) :
    (AccessWorld.assigned expiresAt members).UniqueNames := by
  intro r hr r' hr' _
  rw [List.mem_singleton.mp hr, List.mem_singleton.mp hr']

def AccessEnv.calm : AccessEnv := ⟨fun _ _ _ => false, fun _ => false⟩

theorem assignment_readsPermitted_iff_sample : (exec ((AssignmentRequest.delete 30 12).run ⟨10, 5, 0⟩ .calm)
      (.assigned none .empty)).2.ReadsPermitted 5 30 12 := by
  refine (@AssignmentRequest.assignment_readsPermitted_iff ⟨10, 5, 0⟩ .calm _ (.delete 30 12)
    (uniqueNames_assigned none .empty) (by decide +kernel)).mpr (fun userId => ⟨nofun, ?_⟩) 12
    (.inr rfl)
  rintro rfl record - c hc
  obtain rfl := List.mem_singleton.mp hc
  decide +kernel

/-- Withdrawing a direct grant takes what a group grants; re-listing a user whose direct grant
has expired grants what is no longer permitted. -/
theorem not_assignment_readsPermitted : ((exec ((AssignmentRequest.delete 30 12).run ⟨10, 5, 0⟩ .calm)
          (.assigned none annsMembership)).1 = .ok () ∧
        ¬ (exec ((AssignmentRequest.delete 30 12).run ⟨10, 5, 0⟩ .calm)
          (.assigned none annsMembership)).2.ReadsPermitted 5 30 12) ∧
      (exec ((AssignmentRequest.put 30 (.ok ()) [12]).run ⟨10, 5, 0⟩ .calm)
          (.assigned (some 3) .empty)).1 = .ok () ∧
        ¬ (exec ((AssignmentRequest.put 30 (.ok ()) [12]).run ⟨10, 5, 0⟩ .calm)
          (.assigned (some 3) .empty)).2.ReadsPermitted 5 30 12 := by
  refine ⟨⟨by decide +kernel, fun hpermitted => ?_⟩, by decide +kernel, fun hpermitted => ?_⟩
  · have hread := (hpermitted ⟨12, "px_ann"⟩ (by decide +kernel) ⟨30, .ssh, "proxvm-lab-1"⟩
      (by decide +kernel)).mpr (by decide +kernel)
    exact absurd hread (by decide +kernel)
  · have hread := (hpermitted ⟨12, "px_ann"⟩ (by decide +kernel) ⟨30, .ssh, "proxvm-lab-1"⟩
      (by decide +kernel)).mp (by decide +kernel)
    exact absurd hread (by decide +kernel)

end ProxVM
