import ProxVM.Db.Seeds
import ProxVM.Iam.Expiry
import ProxVM.Iam.Sweep

/-!
# What the sweep does to surviving access

The sweep revokes everything a selected pair may read and grants nothing, although other
grants of the pair may be live; `reconcileUserVmGuacAccess` revokes first and then grants
what full resolution permits.

A pass deletes expired rows only, so what the grants permit afterwards is what they
permitted before (`Swept.permits`).  The result is **`sweep_readsPermitted_iff`**.
-/

namespace ProxVM

open Tables Fallible

/-! ## Full resolution after a pass -/

namespace Swept

variable {env : SweepEnv} {w w' : AccessWorld} {now : Time} {userId : UserId} {vmId : VmId}

theorem permissionSource_iff (h : Swept env w w') (hnow : env.finishedAt ≤ now) {p : Permission} :
    PermissionSource w'.db now userId p ↔ PermissionSource w.db now userId p := by
  have hrole : ∀ {expiresAt}, isLive expiresAt now = true →
      isLive expiresAt env.rolesPrunedAt = true :=
    isLive_of_le (Nat.le_trans env.roles_le_finished hnow)
  have hmember : ∀ {expiresAt}, isLive expiresAt now = true →
      isLive expiresAt env.membersPrunedAt = true :=
    isLive_of_le (Nat.le_trans env.members_le_finished hnow)
  constructor
  · intro hsource
    cases hsource with
    | legacyRole ur role r hur huser hlive hrow hid hname hperm =>
        rw [h.userRoles] at hur
        rw [h.roles] at hrow
        exact .legacyRole ur role r hur huser hlive hrow hid hname hperm
    | customRole ur role hur huser hlive hrow hid hperm =>
        rw [h.userRoles] at hur
        rw [h.roles] at hrow
        rw [h.rolePermissions] at hperm
        exact .customRole ur role hur huser hlive hrow hid hperm
    | direct up hup huser hlive hperm =>
        exact .direct up ((h.userPermissions up).mp hup).1 huser hlive hperm
    | groupRole gm group gr role hgm huser hlive hgroup hgid hgr hgrid hgrlive hrow hid hperm =>
        rw [h.groups] at hgroup
        rw [h.roles] at hrow
        rw [h.rolePermissions] at hperm
        exact .groupRole gm group gr role ((h.groupMembers gm).mp hgm).1 huser hlive hgroup hgid
          ((h.groupRoles gr).mp hgr).1 hgrid hgrlive hrow hid hperm
  · intro hsource
    cases hsource with
    | legacyRole ur role r hur huser hlive hrow hid hname hperm =>
        rw [← h.userRoles] at hur
        rw [← h.roles] at hrow
        exact .legacyRole ur role r hur huser hlive hrow hid hname hperm
    | customRole ur role hur huser hlive hrow hid hperm =>
        rw [← h.userRoles] at hur
        rw [← h.roles] at hrow
        rw [← h.rolePermissions] at hperm
        exact .customRole ur role hur huser hlive hrow hid hperm
    | direct up hup huser hlive hperm =>
        exact .direct up ((h.userPermissions up).mpr ⟨hup, isLive_of_le hnow hlive⟩) huser hlive
          hperm
    | groupRole gm group gr role hgm huser hlive hgroup hgid hgr hgrid hgrlive hrow hid hperm =>
        rw [← h.groups] at hgroup
        rw [← h.roles] at hrow
        rw [← h.rolePermissions] at hperm
        exact .groupRole gm group gr role ((h.groupMembers gm).mpr ⟨hgm, hmember hlive⟩) huser
          hlive hgroup hgid ((h.groupRoles gr).mpr ⟨hgr, hrole hgrlive⟩) hgrid hgrlive hrow hid
          hperm

theorem vmGrant_iff (h : Swept env w w') (hnow : env.finishedAt ≤ now) {protocols : Option (List Protocol)} :
    VmGrant w'.db now userId vmId protocols ↔ VmGrant w.db now userId vmId protocols := by
  constructor
  · intro hgrant
    cases hgrant with
    | direct va hva huser hvm hlive hprotocols =>
        exact .direct va (h.fewer va hva) huser hvm hlive hprotocols
    | group gm group gva hgm huser hlive hgroup hgid hgva hgvaid hgvalive hvm hprotocols =>
        rw [h.groups] at hgroup
        exact .group gm group gva ((h.groupMembers gm).mp hgm).1 huser hlive hgroup hgid
          ((h.groupVmAccess gva).mp hgva).1 hgvaid hgvalive hvm hprotocols
  · intro hgrant
    cases hgrant with
    | direct va hva huser hvm hlive hprotocols =>
        refine .direct va ?_ huser hvm hlive hprotocols
        rcases h.kept va hva with hkept | ⟨hexpired, -⟩
        · exact hkept
        · -- a live grant was live when the pair's grant was deleted
          have hlive' := isLive_of_le
            (Nat.le_trans (env.deleted_le_finished va.vmId va.userId) hnow) hlive
          rw [isExpired, hlive'] at hexpired
          cases hexpired
    | group gm group gva hgm huser hlive hgroup hgid hgva hgvaid hgvalive hvm hprotocols =>
        rw [← h.groups] at hgroup
        exact .group gm group gva
          ((h.groupMembers gm).mpr ⟨hgm, isLive_of_le (Nat.le_trans env.members_le_finished hnow) hlive⟩)
          huser hlive hgroup hgid
          ((h.groupVmAccess gva).mpr
            ⟨hgva, isLive_of_le (Nat.le_trans env.grants_le_finished hnow) hgvalive⟩)
          hgvaid hgvalive hvm hprotocols

theorem permits (h : Swept env w w') (hnow : env.finishedAt ≤ now) (protocol : Protocol) :
    ProxVM.permits (allowedProtocols (resolveEffectiveAccess w'.db now userId) vmId) protocol =
      ProxVM.permits (allowedProtocols (resolveEffectiveAccess w.db now userId) vmId) protocol :=
  permits_congr (fun _ => has_iff.trans ((h.permissionSource_iff hnow).trans has_iff.symm))
    (fun _ => h.vmGrant_iff hnow) protocol

end Swept

/-! ## READ permissions and grants -/

def AccessWorld.ReadsPermitted (w : AccessWorld) (now : Time) (vmId : VmId) (userId : UserId) :
    Prop :=
  ∀ record, w.findUserRecord userId = some record → ∀ c ∈ w.listConnectionRecords vmId,
    (⟨c.guacConnectionName, record.guacUsername⟩ ∈ w.reads ↔
      permits (allowedProtocols (resolveEffectiveAccess w.db now userId) vmId) c.protocol = true)

def AccessWorld.NothingPermitted (w : AccessWorld) (now : Time) (vmId : VmId) (userId : UserId) :
    Prop :=
  ∀ record, w.findUserRecord userId = some record → ∀ c ∈ w.listConnectionRecords vmId,
    permits (allowedProtocols (resolveEffectiveAccess w.db now userId) vmId) c.protocol = false

theorem AccessWorld.Revoked.readsPermitted_iff {w : AccessWorld} {now : Time} {vmId : VmId}
    {userId : UserId} (hrevoked : w.Revoked vmId userId) :
    w.ReadsPermitted now vmId userId ↔ w.NothingPermitted now vmId userId := by
  refine forall_congr' fun record => forall_congr' fun hrecord => forall_congr' fun c =>
    forall_congr' fun hc => ?_
  have hnot : (⟨c.guacConnectionName, record.guacUsername⟩ : ReadPermission) ∉ w.reads :=
    fun hmem => hrevoked c ⟨hc, record, hrecord, hmem⟩
  rw [iff_false_left hnot, Bool.not_eq_true]

/-- **The sweep respects surviving access exactly when there is none.**  After a pass without
errors the READ permissions of the selected pairs are those their remaining grants permit if
and only if these grants permit no connection of any selected pair. -/
theorem sweep_readsPermitted_iff (env : SweepEnv) (w : AccessWorld)
    (herrors : (sweepExpiredVmAccess env w).1.errors = 0) : (∀ pair ∈ stalePairs w.db env.selectedAt,
        (sweepExpiredVmAccess env w).2.ReadsPermitted env.finishedAt pair.1 pair.2) ↔
      ∀ pair ∈ stalePairs w.db env.selectedAt, w.NothingPermitted env.finishedAt pair.1 pair.2 := by
  obtain ⟨hswept, hrevoked⟩ := sweep_spec env w
  refine forall_congr' fun pair => forall_congr' fun hpair => ?_
  rw [(hrevoked herrors pair hpair).readsPermitted_iff]
  unfold AccessWorld.NothingPermitted
  simp only [hswept.shrinks.findUserRecord, hswept.shrinks.listConnectionRecords,
    hswept.permits (Nat.le_refl _)]

/-! ## The sibling -/

def reconcileUserVmGuacAccess (env : SweepEnv) (now : Time) (vmId : VmId) (userId : UserId) :
    SweepProgram (Option (List Protocol)) := do
  let effective ← query fun w => resolveEffectiveAccess w.db now userId
  env.reach vmId userId .getGuacDb
  revokeVmAccess env vmId userId
  if (effective.vmAccess vmId).isNone then
    pure (some [])
  else
    let allowed := allowedProtocols effective vmId
    let records ← query fun w => w.listConnectionRecords vmId
    let userRecord ← query fun w => w.findUserRecord userId
    match userRecord with
    | none => pure allowed
    | some record => do
      forM (records.filter fun c => permits allowed c.protocol) fun c => do
        env.reach vmId userId (.grantConnectionRead c.guacConnectionName)
        write (AccessWorld.grantConnectionRead c.guacConnectionName record.guacUsername)
      pure allowed

/-- Connections of a VM with one name have one protocol; so do those provisioning creates,
whose names end in the protocol. -/
def AccessWorld.Named (w : AccessWorld) (vmId : VmId) : Prop :=
  ∀ c ∈ w.listConnectionRecords vmId, ∀ c' ∈ w.listConnectionRecords vmId,
    c.guacConnectionName = c'.guacConnectionName → c.protocol = c'.protocol

theorem after_grants {env : SweepEnv} {vmId : VmId} {userId : UserId} {username : String}
    {cs : List VmConnectionRow} {w : AccessWorld} : after (forM cs fun c => do
        env.reach vmId userId (.grantConnectionRead c.guacConnectionName)
        write (AccessWorld.grantConnectionRead c.guacConnectionName username))
      (fun r w' => w'.db = w.db ∧ w'.connections = w.connections ∧ w'.guacUsers = w.guacUsers ∧
        (r = .ok ⟨⟩ → ∀ p, p ∈ w'.reads ↔
          p ∈ w.reads ∨ ∃ c ∈ cs, p = ⟨c.guacConnectionName, username⟩)) w := by
  refine after_mono (after_forM_each
    (I := fun s => s.db = w.db ∧ s.connections = w.connections ∧ s.guacUsers = w.guacUsers ∧
      (∀ p ∈ w.reads, p ∈ s.reads) ∧
      ∀ p ∈ s.reads, p ∈ w.reads ∨ ∃ c ∈ cs, p = ⟨c.guacConnectionName, username⟩)
    (D := fun c s => (⟨c.guacConnectionName, username⟩ : ReadPermission) ∈ s.reads) ?_
    ⟨rfl, rfl, rfl, fun _ hp => hp, fun _ hp => .inl hp⟩) ?_
  · rintro c hc s ⟨hdb, hconnections, husers, hold, hnew⟩
    simp only [after_bind, after_reach, after_write]
    refine ⟨fun _ => ⟨⟨hdb, hconnections, husers, fun p hp => List.mem_cons_of_mem _ (hold p hp),
      fun p hp => ?_⟩, fun y hy => List.mem_cons_of_mem _ hy, fun _ => List.mem_cons_self⟩,
      fun _ => ⟨⟨hdb, hconnections, husers, hold, hnew⟩, fun _ hy => hy, fun hok => by cases hok⟩⟩
    rcases List.mem_cons.mp hp with rfl | hp
    · exact .inr ⟨c, hc, rfl⟩
    · exact hnew p hp
  · rintro r w' ⟨⟨hdb, hconnections, husers, hold, hnew⟩, -, hdone⟩
    refine ⟨hdb, hconnections, husers, fun hok p => ⟨hnew p, ?_⟩⟩
    rintro (hp | ⟨c, hc, rfl⟩)
    · exact hold p hp
    · exact hdone hok c hc

/-! ## A pair with surviving access -/

def AccessWorld.lapsing : AccessWorld where
  db :=
    { Db.sample with
      groupMembers := ⟨[⟨20, 12, some 10⟩], by decide⟩
      vmAccess := Table.empty }
  connections := [⟨30, .ssh, "lab-1-ssh"⟩]
  guacUsers := ⟨[⟨12, "ann"⟩], by decide⟩
  reads := [⟨"lab-1-ssh", "ann"⟩]

def AccessWorld.surviving : AccessWorld :=
  { AccessWorld.lapsing with
    db := { AccessWorld.lapsing.db with vmAccess := ⟨[⟨30, 12, none, none, none⟩], by decide⟩ } }

def SweepEnv.calm (now : Time) : SweepEnv := .instant now fun _ _ _ => false

theorem sweep_readsPermitted_iff_sample : (30, 12) ∈ stalePairs AccessWorld.lapsing.db 20 ∧
    (sweepExpiredVmAccess (.calm 20) AccessWorld.lapsing).2.ReadsPermitted 20 30 12 := by
  have hselected : stalePairs AccessWorld.lapsing.db 20 = [(30, 12)] := by decide
  have hnothing : ∀ pair ∈ stalePairs AccessWorld.lapsing.db 20,
      AccessWorld.lapsing.NothingPermitted 20 pair.1 pair.2 := by
    rw [hselected]
    intro pair hpair record hrecord c hc
    obtain rfl := List.mem_singleton.mp hpair
    obtain rfl := List.mem_singleton.mp hc
    decide
  have hpermitted := (sweep_readsPermitted_iff (.calm 20) AccessWorld.lapsing (by decide)).mpr hnothing
  have hmem : (30, 12) ∈ stalePairs AccessWorld.lapsing.db 20 := by
    rw [hselected]
    exact List.mem_singleton.mpr rfl
  exact ⟨hmem, hpermitted (30, 12) hmem⟩

/-- A pass at instant 20 reports no error and takes from user 12 what the direct grant
permits. -/
theorem sweep_takes_surviving : (30, 12) ∈ stalePairs AccessWorld.surviving.db 20 ∧
      (sweepExpiredVmAccess (.calm 20) AccessWorld.surviving).1 = ⟨1, 0⟩ ∧
      ¬ (sweepExpiredVmAccess (.calm 20) AccessWorld.surviving).2.ReadsPermitted 20 30 12 := by
  refine ⟨by decide, by decide, fun hpermitted => ?_⟩
  have hread := (hpermitted ⟨12, "ann"⟩ (by decide) ⟨30, .ssh, "lab-1-ssh"⟩ (by decide)).mpr
    (by decide)
  exact absurd hread (by decide)

end ProxVM
