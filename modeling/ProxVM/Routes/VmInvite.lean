import ProxVM.Iam.Protocols
import ProxVM.Routes.VmAccess

/-!
# Invitations

`POST /vms/:id/invite` of `routes/vms.ts`: whoever reaches a VM may let one more person in.
Owners and access managers grant anything; everybody else passes on a delegated right, for at
most a day and within their own protocols.

The Guacamole synchronization is best effort and writes no modelled table.
-/

namespace ProxVM

open Tables Fallible

def maxDelegatedInviteMs : Time := 24 * 3600 * 1000

def delegatedProtocols (own requested : Option (List Protocol)) :
    Handler (Option (List Protocol)) :=
  match own with
  | none => pure requested
  | some own => do
      ensure (!own.isEmpty)
        (AppError.forbidden "You have no protocol access on this VM to delegate")
      let protocols := requested.getD own
      let outside := protocols.filter fun p => !decide (p ∈ own)
      ensure outside.isEmpty (AppError.forbidden
        ("You cannot delegate protocol(s) you do not hold: " ++
          ", ".intercalate (outside.map Protocol.text)))
      pure (some protocols)

def delegatedScope (ctx : RequestContext) (own : Option (List Protocol)) (body : GrantVmBody) :
    Handler (Option (List Protocol) × Option Time) := do
  let expiresAt ← orFail body.expiresAt (AppError.forbidden
    "Delegated invites require an expiry within 24 hours; managers may grant permanent access")
  ensure (decide (ctx.now < expiresAt))
    (AppError.validation "expiresAt must be a future date-time")
  ensure (decide (expiresAt - ctx.now ≤ maxDelegatedInviteMs)) (AppError.forbidden
    "Delegated invites last at most 24 hours; managers may grant longer access")
  let protocols ← delegatedProtocols own (body.protocols.map unique)
  pure (protocols, some expiresAt)

def managedScope (ctx : RequestContext) (body : GrantVmBody) :
    Handler (Option (List Protocol) × Option Time) := do
  ensure (isLive body.expiresAt ctx.now)
    (AppError.validation "expiresAt must be a future date-time")
  pure (body.protocols.map unique, body.expiresAt)

/-- `inviterEffective.permissions.has("vm.edit")`. -/
def canManage (db : Db) (now : Time) (userId : UserId) : Bool :=
  (resolveEffectiveAccess db now userId).has .vmEdit

/-- `vm.createdByUserId === inviter.id`. -/
def isOwner (db : Db) (vmId : VmId) (userId : UserId) : Bool :=
  (findVmById db vmId).any fun vm => decide (vm.createdByUserId = some userId)

def inviteScope (ctx : RequestContext) (vmId : VmId) (inviterId : UserId) (body : GrantVmBody) :
    Handler (Option (List Protocol) × Option Time) := do
  let delegated ← query fun db => !canManage db ctx.now inviterId && !isOwner db vmId inviterId
  let own ← query fun db => allowedProtocols (resolveEffectiveAccess db ctx.now inviterId) vmId
  if delegated then delegatedScope ctx own body else managedScope ctx body

/-- `POST /vms/:id/invite`, which answers with the user invited. -/
def postVmInvite (ctx : RequestContext) (id : VmId) (body : GrantVmBody) : Handler UserId := do
  let inviter ← requireAuth ctx
  let vm ← requireVmById id
  let reaches ← query fun db => hasAccessOrOwns db ctx.now vm.id inviter.row.id
  ensure reaches
    (AppError.forbidden "Only someone with access to this VM can invite others")
  ensure (body.protocols.all fun protocols => decide (protocols.length ≤ 3)) invalidBody
  ensure (body.target.userId.isSome || body.target.username.isSome)
    (AppError.validation "value: Either userId or username is required")
  let foundUser ← query fun db => findTarget db ctx.now body.target
  let target ← orFail foundUser (AppError.notFound "User not found")
  let taken ← query fun db => hasAccess db ctx.now vm.id target.row.id
  ensure (!taken)
    (AppError.conflict "That user already has access; ask a manager to adjust it")
  let scope ← inviteScope ctx vm.id inviter.row.id body
  write fun db => db.replaceVmAccess
    ⟨vm.id, target.row.id, scope.1, scope.2, some inviter.row.id⟩
  pure target.row.id

/-! ## What an invitation gives -/

section invite

variable {ctx : RequestContext} {id : VmId} {body : GrantVmBody} {db : Db}

structure Delegable (ctx : RequestContext) (own : Option (List Protocol)) (body : GrantVmBody)
    (scope : Option (List Protocol) × Option Time) : Prop where
  expires : ∃ expiresAt, body.expiresAt = some expiresAt ∧ scope.2 = some expiresAt ∧
    ctx.now < expiresAt ∧ expiresAt ≤ ctx.now + maxDelegatedInviteMs
  protocols : ∀ p, permits scope.1 p = true → permits own p = true

theorem onSuccess_delegatedProtocols {own requested : Option (List Protocol)}
    {P : Option (List Protocol) → Db → Prop}
    (hok : ∀ protocols, (∀ p, permits protocols p = true → permits own p = true) → P protocols db) :
    onSuccess (delegatedProtocols own requested) P db := by
  cases own with
  | none => exact onSuccess_pure.mpr (hok _ fun _ _ => rfl)
  | some own =>
      simp only [delegatedProtocols, onSuccess_bind, onSuccess_ensure, onSuccess_pure]
      refine fun _ houtside => hok _ fun p hp => ?_
      rw [permits_some] at hp ⊢
      have hnone := List.filter_eq_nil_iff.mp (List.isEmpty_iff.mp houtside) p hp
      simpa using hnone

variable {P : Option (List Protocol) × Option Time → Db → Prop}

theorem onSuccess_delegatedScope {own : Option (List Protocol)}
    (hok : ∀ scope, Delegable ctx own body scope → P scope db) :
    onSuccess (delegatedScope ctx own body) P db := by
  simp only [delegatedScope, onSuccess_bind, onSuccess_orFail, onSuccess_ensure, decide_eq_true_eq]
  intro expiresAt hexpires hfuture hday
  refine onSuccess_delegatedProtocols fun protocols hprotocols => ?_
  refine onSuccess_pure.mpr (hok _ ⟨⟨expiresAt, hexpires, rfl, hfuture, ?_⟩, hprotocols⟩)
  exact Nat.sub_le_iff_le_add'.mp hday

theorem onSuccess_inviteScope {vmId : VmId} {inviterId : UserId}
    (hok : ∀ scope, (canManage db ctx.now inviterId = false → isOwner db vmId inviterId = false →
      Delegable ctx (allowedProtocols (resolveEffectiveAccess db ctx.now inviterId) vmId) body
        scope) → P scope db) : onSuccess (inviteScope ctx vmId inviterId body) P db := by
  simp only [inviteScope, onSuccess_bind, onSuccess_query, onSuccess_ite]
  constructor
  · exact fun _ => onSuccess_delegatedScope fun scope hscope => hok scope fun _ _ => hscope
  · intro hmanaged
    simp only [managedScope, onSuccess_bind, onSuccess_ensure, onSuccess_pure]
    refine fun _ => hok _ fun hmanage howner => absurd ?_ hmanaged
    rw [hmanage, howner]
    rfl

theorem onSuccess_postVmInvite : onSuccess (postVmInvite ctx id body) (fun target db' => ∃ scope,
      db' = db.replaceVmAccess ⟨id, target, scope.1, scope.2, some ctx.userId⟩ ∧
        hasAccessOrOwns db ctx.now id ctx.userId = true ∧
        (canManage db ctx.now ctx.userId = false → isOwner db id ctx.userId = false →
          Delegable ctx (allowedProtocols (resolveEffectiveAccess db ctx.now ctx.userId) id) body
            scope)) db := by
  simp only [postVmInvite, onSuccess_bind]
  refine onSuccess_requireAuth fun inviter hinviter => ?_
  refine onSuccess_requireVmById fun vm _ hvm => ?_
  subst hvm
  simp only [onSuccess_query, onSuccess_ensure, onSuccess_orFail, hinviter]
  intro hreaches _ _ target _ _
  refine onSuccess_inviteScope fun scope hscope => ?_
  rw [onSuccess_write, onSuccess_pure]
  exact ⟨scope, rfl, hreaches, hscope⟩

end invite

end ProxVM
