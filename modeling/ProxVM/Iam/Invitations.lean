import ProxVM.Iam.AccessSync
import ProxVM.Lib.Delegation
import ProxVM.Routes.VmInvite

/-!
# Chains of invitations

What users may pass on who neither own a VM nor manage access to it.  An invitation is bounded
by the protocols its author may use and by a day, but not by the expiry of the author's own
grant, so a chain of invitations may outlive the grant it started from
(`invitation_outlives_grant`).

A chain whose invitations respect that expiry, by authors whose access is the direct grant, is
a run of delegations in the sense of `Delegation`: each grant is at most the one it was
passed on from.  **`invitations_bounded`** follows.
-/

namespace ProxVM

open Tables Fallible Delegation

/-! ## Scopes as authorities -/

structure GrantScope where
  protocols : Option (List Protocol)
  expiresAt : Option Time
  deriving DecidableEq, Repr

/-- A smaller scope covers fewer protocols and is live for a shorter time. -/
instance : Preorder GrantScope where
  le a b := (∀ p, permits a.protocols p = true → permits b.protocols p = true) ∧
    ∀ now, isLive a.expiresAt now = true → isLive b.expiresAt now = true
  le_refl _ := ⟨fun _ hp => hp, fun _ hlive => hlive⟩
  le_trans _ _ _ hab hbc :=
    ⟨fun p hp => hbc.1 p (hab.1 p hp), fun now hlive => hbc.2 now (hab.2 now hlive)⟩

def grantScope (db : Db) (vmId : VmId) (userId : UserId) : Option GrantScope :=
  (directScope db vmId userId).map fun scope => ⟨scope.1, scope.2⟩

def reachesByGroup (db : Db) (now : Time) (vmId : VmId) (userId : UserId) : Bool :=
  hasAccess { db with vmAccess := Table.empty } now vmId userId

section direct

variable {db : Db} {now : Time} {vmId : VmId} {userId other : UserId}

theorem grantScope_of_mem {va : VmAccessRow} (hva : va ∈ db.vmAccess) :
    grantScope db va.vmId va.userId = some ⟨va.protocols, va.expiresAt⟩ := by
  have hfind := Table.find?_of_mem hva
  rw [VmAccessRow.key] at hfind
  rw [grantScope, directScope, hfind]
  rfl

theorem grantScope_of_hasAccess (hgroup : reachesByGroup db now vmId userId = false)
    (haccess : hasAccess db now vmId userId = true) :
    ∃ scope, grantScope db vmId userId = some scope ∧ isLive scope.expiresAt now = true := by
  rw [hasAccess, Bool.or_eq_true] at haccess
  rcases haccess with hdirect | hgrouped
  · obtain ⟨va, hva, hmatch⟩ := List.any_eq_true.mp hdirect
    simp only [Bool.and_eq_true, decide_eq_true_eq] at hmatch
    obtain ⟨⟨rfl, rfl⟩, hlive⟩ := hmatch
    exact ⟨⟨va.protocols, va.expiresAt⟩, grantScope_of_mem hva, hlive⟩
  · rw [reachesByGroup, hasAccess, Bool.or_eq_false_iff] at hgroup
    exact absurd hgrouped (by rw [hgroup.2]; exact Bool.false_ne_true)

theorem hasAccess_of_vmGrant {protocols : Option (List Protocol)}
    (hgrant : VmGrant db now userId vmId protocols) : hasAccess db now vmId userId = true := by
  rw [hasAccess, Bool.or_eq_true, List.any_eq_true, List.any_eq_true]
  cases hgrant with
  | direct va hva huser hvm hlive hprotocols =>
      exact .inl ⟨va, hva, by simp [huser, hvm, hlive]⟩
  | group gm group gva hgm huser hlive hgroup hgid hgva hgvaid hgvalive hvm hprotocols =>
      refine .inr ⟨gva, hgva, ?_⟩
      rw [Bool.and_eq_true, List.any_eq_true]
      exact ⟨by simp [hvm, hgvalive], gm, hgm, by simp [huser, hlive, ← hgid, hgvaid]⟩

theorem grantScope_of_permits (hgroup : reachesByGroup db now vmId userId = false) {p : Protocol}
    (hpermits : permits (allowedProtocols (resolveEffectiveAccess db now userId) vmId) p = true) :
    ∃ scope, grantScope db vmId userId = some scope ∧ permits scope.protocols p = true := by
  obtain ⟨protocols, hgrant, hcovers⟩ := permits_grant_iff.mp (grant_of_permits hpermits)
  rcases vmGrant_iff_scope.mp hgrant with ⟨expiresAt, hscope, -⟩ | hgrouped
  · exact ⟨⟨protocols, expiresAt⟩, by rw [grantScope, hscope]; rfl, hcovers⟩
  · rw [reachesByGroup, hasAccess_of_vmGrant hgrouped] at hgroup
    cases hgroup

theorem grantScope_replaceVmAccess (row : VmAccessRow) :
    grantScope (db.replaceVmAccess row) row.vmId row.userId = some ⟨row.protocols, row.expiresAt⟩ := by
  have hstored : { row with
      createdBy := ((db.vmAccess.find? row.key).bind fun va => va.createdBy) <|> row.createdBy } ∈
      (db.replaceVmAccess row).vmAccess := Table.mem_put.mpr (.inl rfl)
  have hscope := grantScope_of_mem hstored
  exact hscope

theorem grantScope_replaceVmAccess_of_ne {row : VmAccessRow} (hne : other ≠ row.userId) :
    grantScope (db.replaceVmAccess row) vmId other = grantScope db vmId other := by
  rw [grantScope, directScope, Db.replaceVmAccess,
    Table.find?_put_of_ne _ fun heq => hne (congrArg Prod.snd heq).symm]
  rfl

end direct

/-! ## Chains -/

abbrev InviteCondition := Db → RequestContext → GrantVmBody → Prop

/-- Successful invitations to a VM, the first by `first` and every other by somebody who was
invited before, none of them by the owner or an access manager. -/
inductive Invitations (C : InviteCondition) (id : VmId) (first : UserId) (db₀ : Db) :
    List UserId → Db → Prop
  | start : Invitations C id first db₀ [first] db₀
  | invite {participants : List UserId} {db : Db} (hrun : Invitations C id first db₀ participants db)
      (ctx : RequestContext) (body : GrantVmBody) {target : UserId}
      (hinviter : ctx.userId ∈ participants)
      (hmanage : canManage db ctx.now ctx.userId = false)
      (howner : isOwner db id ctx.userId = false) (hcondition : C db ctx body)
      (hok : (exec (postVmInvite ctx id body) db).1 = .ok target) :
      Invitations C id first db₀ (target :: participants) (exec (postVmInvite ctx id body) db).2

/-- The inviter reaches the VM by the direct grant alone, and the invitation is not live when
that grant is not. -/
def WithinOwnGrant (id : VmId) : InviteCondition := fun db ctx body =>
  reachesByGroup db ctx.now id ctx.userId = false ∧
    ∀ scope, grantScope db id ctx.userId = some scope → ∀ now,
      isLive body.expiresAt now = true → isLive scope.expiresAt now = true

section chain

variable {id : VmId} {first : UserId} {db₀ db : Db} {participants : List UserId} {root : GrantScope}

theorem delegable_le {ctx : RequestContext} {body : GrantVmBody}
    {scope : Option (List Protocol) × Option Time} {own : GrantScope}
    (hcondition : WithinOwnGrant id db ctx body) (hown : grantScope db id ctx.userId = some own)
    (hscope : Delegable ctx (allowedProtocols (resolveEffectiveAccess db ctx.now ctx.userId) id)
      body scope) : (⟨scope.1, scope.2⟩ : GrantScope) ≤ own := by
  obtain ⟨hgroup, hexpiry⟩ := hcondition
  constructor
  · intro p hp
    obtain ⟨own', hown', hcovers⟩ := grantScope_of_permits hgroup (hscope.protocols p hp)
    obtain rfl := Option.some.inj (hown'.symm.trans hown)
    exact hcovers
  · intro now hlive
    obtain ⟨expiresAt, hbody, hexpires, -⟩ := hscope.expires
    refine hexpiry own hown now ?_
    rw [hbody, ← hexpires]
    exact hlive

/-- **A chain within its grants is a run of delegations**: what its participants hold by
delegation are their direct grants. -/
theorem Invitations.delegates (hrun : Invitations (WithinOwnGrant id) id first db₀ participants db)
    (hfirst : grantScope db₀ id first = some root) : ∃ held, Delegates first root held ∧
      ∀ userId ∈ participants, (held userId).isSome ∧ held userId = grantScope db id userId := by
  induction hrun with
  | start =>
      refine ⟨_, .start, fun userId hmem => ?_⟩
      obtain rfl := List.mem_singleton.mp hmem
      rw [Function.update_self, hfirst]
      exact ⟨rfl, rfl⟩
  | @invite participants db hrun ctx body target hinviter hmanage howner hcondition hok ih =>
      obtain ⟨held, hheld, hgrants⟩ := ih
      obtain ⟨scope, hdb, -, hdelegable⟩ := onSuccess_postVmInvite target hok
      obtain ⟨hsome, hsame⟩ := hgrants ctx.userId hinviter
      obtain ⟨own, hown⟩ := Option.isSome_iff_exists.mp hsome
      have hle := delegable_le hcondition (hsame.symm.trans hown) (hdelegable hmanage howner)
      refine ⟨_, hheld.pass hown target hle, fun userId hmem => ?_⟩
      rw [hdb]
      by_cases htarget : userId = target
      · subst htarget
        rw [Function.update_self, grantScope_replaceVmAccess]
        exact ⟨rfl, rfl⟩
      · rw [Function.update_of_ne htarget, grantScope_replaceVmAccess_of_ne htarget]
        exact hgrants userId ((List.mem_cons.mp hmem).resolve_left htarget)

/-- **Delegated access is bounded by the first grant** in every chain whose invitations are
each within the inviter's own grant: a participant whom no group lets in has no access at or
after the expiry of the first grant, and may use no protocol it does not cover. -/
theorem invitations_bounded {protocols : Option (List Protocol)} {expiresAt now : Time}
    {userId : UserId} (hrun : Invitations (WithinOwnGrant id) id first db₀ participants db)
    (hfirst : grantScope db₀ id first = some ⟨protocols, some expiresAt⟩)
    (hmem : userId ∈ participants) (honly : reachesByGroup db now id userId = false) :
    (hasAccess db now id userId = true → now < expiresAt) ∧
      ∀ p, permits (allowedProtocols (resolveEffectiveAccess db now userId) id) p = true →
        permits protocols p = true := by
  obtain ⟨held, hheld, hgrants⟩ := hrun.delegates hfirst
  have hbound : ∀ scope, grantScope db id userId = some scope →
      scope ≤ ⟨protocols, some expiresAt⟩ := fun scope hscope =>
    hheld.le_root userId scope ((hgrants userId hmem).2.trans hscope)
  constructor
  · intro haccess
    obtain ⟨scope, hscope, hlive⟩ := grantScope_of_hasAccess honly haccess
    simpa [isLive] using (hbound scope hscope).2 now hlive
  · intro p hpermits
    obtain ⟨scope, hscope, hcovers⟩ := grantScope_of_permits honly hpermits
    exact (hbound scope hscope).1 p hcovers

end chain

/-! ## A grant until 100 -/

def Db.delegating : Db :=
  { Db.sample with vmAccess := ⟨[⟨30, 12, some [.ssh], some 100, some 10⟩], by decide⟩ }

def inviteLead (expiresAt : Time) : GrantVmBody := ⟨⟨some 13, none⟩, none, some expiresAt⟩

theorem invitations_bounded_sample : ∃ db, Invitations (WithinOwnGrant 30) 30 12 Db.delegating
      [13, 12] db ∧ hasAccess db 40 30 13 = true ∧ ((hasAccess db 40 30 13 = true → 40 < 100) ∧
      ∀ p, permits (allowedProtocols (resolveEffectiveAccess db 40 13) 30) p = true →
        permits (some [.ssh]) p = true) := by
  have hcondition : WithinOwnGrant 30 Db.delegating ⟨12, 5, 0⟩ (inviteLead 50) := by
    refine ⟨by decide +kernel, fun scope hscope now hlive => ?_⟩
    have hfirst : grantScope Db.delegating 30 12 = some ⟨some [.ssh], some 100⟩ := by decide +kernel
    obtain rfl := Option.some.inj (hscope.symm.trans hfirst)
    simp only [inviteLead, isLive, decide_eq_true_eq] at hlive ⊢
    exact Nat.lt_trans hlive (by decide)
  have hrun : Invitations (WithinOwnGrant 30) 30 12 Db.delegating [13, 12] _ :=
    Invitations.start.invite ⟨12, 5, 0⟩ (inviteLead 50) (List.mem_singleton.mpr rfl)
      (by decide +kernel) (by decide +kernel) hcondition (by decide +kernel)
  exact ⟨_, hrun, by decide +kernel, invitations_bounded hrun (by decide +kernel)
    List.mem_cons_self (by decide +kernel)⟩

/-- An invitation by somebody with access until 100 gives access at 150. -/
theorem invitation_outlives_grant : grantScope Db.delegating 30 12 = some ⟨some [.ssh], some 100⟩ ∧
    ∃ db, Invitations (fun _ _ _ => True) 30 12 Db.delegating [13, 12] db ∧
      reachesByGroup db 150 30 13 = false ∧ hasAccess db 150 30 13 = true := by
  have hrun : Invitations (fun _ _ _ => True) 30 12 Db.delegating [13, 12] _ :=
    Invitations.start.invite ⟨12, 5, 0⟩ (inviteLead 200) (List.mem_singleton.mpr rfl)
      (by decide +kernel) (by decide +kernel) trivial (by decide +kernel)
  exact ⟨by decide +kernel, _, hrun, by decide +kernel, by decide +kernel⟩

end ProxVM
