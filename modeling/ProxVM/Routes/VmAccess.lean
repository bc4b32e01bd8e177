import ProxVM.Routes.Iam
import ProxVM.Services.Vms

/-!
# VM access administration

`POST` and `DELETE /groups/:id/vms` of `routes/iam.ts`, and `POST` and
`DELETE /vms/:id/access` of `routes/vms.ts`: the handlers that put VM access into
circulation or withdraw it.  Guacamole is another system; whether the
synchronization with it succeeds is a parameter of the handlers that depend on
the answer.
-/

namespace ProxVM

open Tables Fallible

/-- `VmsRepository.requireById`. -/
def requireVmById (id : VmId) : Handler VmRow := do
  let found ← query fun db => findVmById db id
  orFail found (AppError.notFound "VM not found")

/-- `requireAuth`: the session's user, if active. -/
def requireAuth (ctx : RequestContext) : Handler UserWithRoles := do
  let session ← query fun db => findUserById db ctx.now ctx.userId
  let user ← orFail session AppError.unauthorized
  ensure user.row.active AppError.unauthorized
  pure user

structure GrantGroupVmBody where
  vmId : VmId
  protocols : Option (List Protocol)
  expiresAt : Option Time
  deriving DecidableEq, Repr

/-- `POST /groups/:id/vms`. -/
def postGroupVm (ctx : RequestContext) (id : GroupId) (body : GrantGroupVmBody) :
    Handler Unit := do
  let actor ← requirePermission ctx .groupsManage
  let _ ← requirePermission ctx .vmEdit
  let found ← query fun db => getGroup db id
  let _ ← orFail found (AppError.notFound "Group not found")
  let vm ← requireVmById body.vmId
  let visible ← query fun db => hasAccessOrOwns db ctx.now vm.id actor.row.id
  ensure (!vm.privacyFlag || visible)
    (AppError.forbidden "This VM is privacy-flagged and you have no grant for it")
  let expiresAt ← parseExpiresAt ctx body.expiresAt
  write fun db => db.putGroupVmAccess ⟨id, vm.id, body.protocols.map unique, expiresAt⟩

/-- `DELETE /groups/:id/vms/:vmId`. -/
def deleteGroupVm (ctx : RequestContext) (id : GroupId) (vmId : VmId) : Handler Unit := do
  let _ ← requirePermission ctx .groupsManage
  let _ ← requirePermission ctx .vmEdit
  let found ← query fun db => getGroup db id
  let _ ← orFail found (AppError.notFound "Group not found")
  write fun db => db.deleteGroupVmAccess id vmId

structure GrantVmBody where
  target : TargetRef
  protocols : Option (List Protocol)
  expiresAt : Option Time
  deriving DecidableEq, Repr

/-- `POST /vms/:id/access`.  A re-grant keeps the stored scope where the request
names none; a failed Guacamole synchronization takes the grant back. -/
def postVmAccess (ctx : RequestContext) (id : VmId) (body : GrantVmBody) (guacSynced : Bool) :
    Handler Unit := do
  let actor ← requirePermission ctx .vmEdit
  let vm ← requireVmById id
  let visible ← query fun db => hasAccess db ctx.now vm.id actor.row.id
  ensure (!vm.privacyFlag || visible)
    (AppError.forbidden "This VM is privacy-flagged: access management requires a direct grant")
  ensure (body.target.userId.isSome || body.target.username.isSome)
    (AppError.validation "value: Either userId or username is required")
  let foundUser ← query fun db => findTarget db ctx.now body.target
  let target ← orFail foundUser (AppError.notFound "User not found")
  let existing ← query fun db => db.vmAccess.find? (vm.id, target.row.id)
  ensure (isLive body.expiresAt ctx.now)
    (AppError.validation "expiresAt must be a future date-time")
  write fun db => db.replaceVmAccess
    { vmId := vm.id, userId := target.row.id
      protocols := (body.protocols.map unique) <|> (existing.bind fun va => va.protocols)
      expiresAt := body.expiresAt <|> (existing.bind fun va => va.expiresAt)
      createdBy := some actor.row.id }
  if guacSynced then
    pure ()
  else do
    write fun db => db.deleteVmAccess vm.id target.row.id
    fail (AppError.external "Guacamole" "access synchronization failed")

/-- `DELETE /vms/:id/access/:userId`.  Authors of an invite may withdraw it while
they have access themselves; everybody else needs `vm.edit`.  `guacUser` says
whether the target has a Guacamole account. -/
def deleteVmAccess (ctx : RequestContext) (id : VmId) (userId : UserId)
    (guacUser guacRevoked : Bool) : Handler Unit := do
  let session ← query fun db => findUserById db ctx.now ctx.userId
  let actor ← orFail session AppError.unauthorized
  ensure actor.row.active AppError.unauthorized
  let vm ← requireVmById id
  let reaches ← query fun db => hasAccessOrOwns db ctx.now vm.id actor.row.id
  let ownInvite ← query fun db => (db.vmAccess.find? (vm.id, userId)).any fun va =>
    decide (va.createdBy = some actor.row.id)
  if ownInvite && reaches then
    pure ()
  else do
    let _ ← requirePermission ctx .vmEdit
    ensure (!vm.privacyFlag || reaches)
      (AppError.forbidden "This VM is privacy-flagged: access management requires a direct grant")
  let assigned ← query fun db => hasAccess db ctx.now vm.id userId
  if !assigned && !guacUser then
    pure ()
  else do
    ensure guacRevoked (AppError.external "Guacamole" "access synchronization failed")
    write fun db => db.deleteVmAccess vm.id userId

/-! ## Rules -/

section rules

variable {ctx : RequestContext} {db : Db} {Q : Except AppError Unit → Db → Prop}

variable {id : VmId}

theorem after_requireVmById {Q : Except AppError VmRow → Db → Prop}
    (hok : ∀ vm, findVmById db id = some vm → Q (.ok vm) db) (herr : ∀ e, Q (.error e) db) :
    after (requireVmById id) Q db := by
  simp only [requireVmById, after_bind, after_query, after_orFail]
  exact ⟨hok, fun _ => herr _⟩

theorem onSuccess_requireAuth {P : UserWithRoles → Db → Prop}
    (hok : ∀ user, user.row.id = ctx.userId → P user db) : onSuccess (requireAuth ctx) P db := by
  simp only [requireAuth, onSuccess_bind, onSuccess_query, onSuccess_orFail, onSuccess_ensure,
    onSuccess_pure]
  exact fun user hfind _ => hok user (findUserById_eq_some hfind).2.1

theorem findVmById_id {vm : VmRow} (hfind : findVmById db id = some vm) : vm.id = id := by
  obtain ⟨hfind, -⟩ := Option.filter_eq_some_iff.mp hfind
  exact Table.key_of_find? hfind

theorem onSuccess_requireVmById {P : VmRow → Db → Prop}
    (hok : ∀ vm, findVmById db id = some vm → vm.id = id → P vm db) : onSuccess (requireVmById id) P db := by
  simp only [requireVmById, onSuccess_bind, onSuccess_query, onSuccess_orFail]
  exact fun vm hfind => hok vm hfind (findVmById_id hfind)

theorem after_postGroupVm {id : GroupId} {body : GrantGroupVmBody} (herr : ∀ e, Q (.error e) db)
    (hok : ∀ vmId protocols expiresAt, (resolveEffectiveAccess db ctx.now ctx.userId).has .vmEdit = true →
      (db.groups.find? id).isSome → Q (.ok ()) (db.putGroupVmAccess ⟨id, vmId, protocols, expiresAt⟩)) :
    after (postGroupVm ctx id body) Q db := by
  simp only [postGroupVm, after_bind]
  refine after_requirePermission (fun actor _ _ => ?_) herr
  refine after_requirePermission (fun _ _ hedit => ?_) herr
  simp only [after_query, after_orFail]
  refine ⟨fun group hgroup => ?_, fun _ => herr _⟩
  refine after_requireVmById (fun vm _ => ?_) herr
  simp only [after_ensure]
  refine ⟨fun _ => ?_, fun _ => herr _⟩
  refine after_parseExpiresAt (fun _ => ?_) herr
  exact hok _ _ _ hedit (Option.isSome_iff_exists.mpr ⟨group, hgroup⟩)

theorem after_deleteGroupVm {id : GroupId} {vmId : VmId} (herr : ∀ e, Q (.error e) db)
    (hok : Q (.ok ()) (db.deleteGroupVmAccess id vmId)) : after (deleteGroupVm ctx id vmId) Q db := by
  simp only [deleteGroupVm, after_bind]
  refine after_requirePermission (fun actor _ _ => ?_) herr
  refine after_requirePermission (fun _ _ _ => ?_) herr
  simp only [after_query, after_orFail, after_write]
  exact ⟨fun _ _ => hok, fun _ => herr _⟩

theorem after_postVmAccess {body : GrantVmBody} {guacSynced : Bool} (herr : ∀ e, Q (.error e) db)
    (hok : ∀ row, (resolveEffectiveAccess db ctx.now ctx.userId).has .vmEdit = true →
      Q (.ok ()) (db.replaceVmAccess row) ∧
        ∀ e, Q (.error e) ((db.replaceVmAccess row).deleteVmAccess row.vmId row.userId)) :
    after (postVmAccess ctx id body guacSynced) Q db := by
  simp only [postVmAccess, after_bind]
  refine after_requirePermission (fun actor _ hedit => ?_) herr
  refine after_requireVmById (fun vm _ => ?_) herr
  simp only [after_query, after_orFail, after_ensure, after_write, after_ite, after_bind,
    after_pure, after_fail]
  refine ⟨fun _ => ⟨fun _ => ⟨fun target _ => ⟨fun _ => ?_, fun _ => herr _⟩, fun _ => herr _⟩,
    fun _ => herr _⟩, fun _ => herr _⟩
  exact ⟨fun _ => (hok _ hedit).1, fun _ => (hok _ hedit).2 _⟩

theorem after_deleteVmAccess {userId : UserId} {guacUser guacRevoked : Bool}
    (herr : ∀ e, Q (.error e) db) (hsame : Q (.ok ()) db)
    (hok : ∀ vmId, Q (.ok ()) (db.deleteVmAccess vmId userId)) :
    after (deleteVmAccess ctx id userId guacUser guacRevoked) Q db := by
  simp only [deleteVmAccess, after_bind, after_query, after_orFail, after_ensure]
  refine ⟨fun actor _ => ⟨fun _ => ?_, fun _ => herr _⟩, fun _ => herr _⟩
  refine after_requireVmById (fun vm _ => ?_) herr
  have hrest : ∀ reaches : Bool, after (do
      let assigned ← query fun db => hasAccess db ctx.now vm.id userId
      if !assigned && !guacUser then
        pure ()
      else do
        ensure guacRevoked (AppError.external "Guacamole" "access synchronization failed")
        write fun db => db.deleteVmAccess vm.id userId : Handler Unit) Q db := by
    intro _
    simp only [after_bind, after_query, after_ite, after_pure, after_ensure, after_write]
    exact ⟨fun _ => hsame, fun _ => ⟨fun _ => hok vm.id, fun _ => herr _⟩⟩
  simp only [after_ite, after_pure, after_bind, after_query, after_ensure, after_write] at hrest ⊢
  refine ⟨fun _ => hrest true, fun _ => ?_⟩
  refine after_requirePermission (fun _ _ _ => ?_) herr
  exact ⟨fun _ => hrest true, fun _ => herr _⟩

end rules

end ProxVM
