import ProxVM.Db.Seeds
import ProxVM.Iam.Protocols

/-!
# What expiry does to effective access

With the tables fixed, every edge `resolveEffectiveAccess` reads is live at an initial
stretch of time only, so each derivation of a permission or of a VM grant at an instant
is one at every earlier instant (`PermissionSource.earlier`, `VmGrant.earlier`).

Protocols are different.  Global `protocol.*` grants narrow unscoped access, and where
such a grant expires, or the unscoped access itself does, the set that was narrowed is
replaced.  **`expiry_only_removes`** says that this is the only way a protocol is gained.
-/

namespace ProxVM

open Tables

variable {db : Db} {now now' : Time} {userId : UserId} {vmId : VmId}

variable {p : Permission} {protocol : Protocol}

theorem PermissionSource.earlier (hle : now ≤ now')
    (hsource : PermissionSource db now' userId p) : PermissionSource db now userId p := by
  cases hsource with
  | legacyRole ur role r hur huser hlive hrole hid hname hperm =>
      exact .legacyRole ur role r hur huser (isLive_of_le hle hlive) hrole hid hname hperm
  | customRole ur role hur huser hlive hrole hid hperm =>
      exact .customRole ur role hur huser (isLive_of_le hle hlive) hrole hid hperm
  | direct up hup huser hlive hperm =>
      exact .direct up hup huser (isLive_of_le hle hlive) hperm
  | groupRole gm group gr role hgm huser hlive hgroup hgid hgr hgrid hgrlive hrole hid hperm =>
      exact .groupRole gm group gr role hgm huser (isLive_of_le hle hlive) hgroup hgid hgr hgrid
        (isLive_of_le hle hgrlive) hrole hid hperm

theorem VmGrant.earlier {protocols : Option (List Protocol)} (hle : now ≤ now')
    (hgrant : VmGrant db now' userId vmId protocols) : VmGrant db now userId vmId protocols := by
  cases hgrant with
  | direct va hva huser hvm hlive hprotocols =>
      exact .direct va hva huser hvm (isLive_of_le hle hlive) hprotocols
  | group gm group gva hgm huser hlive hgroup hgid hgva hgvaid hgvalive hvm hprotocols =>
      exact .group gm group gva hgm huser (isLive_of_le hle hlive) hgroup hgid hgva hgvaid
        (isLive_of_le hle hgvalive) hvm hprotocols

theorem has_earlier (hle : now ≤ now') (hhas : (resolveEffectiveAccess db now' userId).has p = true) :
    (resolveEffectiveAccess db now userId).has p = true :=
  has_iff.mpr ((has_iff.mp hhas).earlier hle)

theorem globalProtocols_earlier (hle : now ≤ now')
    (hmem : protocol ∈ (resolveEffectiveAccess db now' userId).globalProtocols) :
    protocol ∈ (resolveEffectiveAccess db now userId).globalProtocols := by
  obtain ⟨p, hhas, hprotocol⟩ := mem_globalProtocols.mp hmem
  exact mem_globalProtocols.mpr ⟨p, has_earlier hle hhas, hprotocol⟩

theorem grant_earlier (hle : now ≤ now')
    (hcovered : ∃ grant, (resolveEffectiveAccess db now' userId).vmAccess vmId = some grant ∧
      permits grant.protocols protocol = true) :
    ∃ grant, (resolveEffectiveAccess db now userId).vmAccess vmId = some grant ∧
      permits grant.protocols protocol = true := by
  obtain ⟨protocols, hgrant, hpermits⟩ := permits_grant_iff.mp hcovered
  exact permits_grant_iff.mpr ⟨protocols, hgrant.earlier hle, hpermits⟩

theorem permits_earlier (hle : now ≤ now')
    (hstays : (resolveEffectiveAccess db now userId).isNarrowed vmId = true →
      (resolveEffectiveAccess db now' userId).isNarrowed vmId = true)
    (hpermits : permits (allowedProtocols (resolveEffectiveAccess db now' userId) vmId) protocol = true) :
    permits (allowedProtocols (resolveEffectiveAccess db now userId) vmId) protocol = true := by
  cases hnarrowed : (resolveEffectiveAccess db now userId).isNarrowed vmId with
  | false =>
      -- nothing narrowed the grants, so what they covered was permitted
      rw [permits_of_not_isNarrowed hnarrowed]
      exact grant_earlier hle (grant_of_permits hpermits)
  | true =>
      -- both times the global permissions decide, and these only go away
      have hnarrowed' := hstays hnarrowed
      rw [permits_of_isNarrowed hnarrowed'] at hpermits
      rw [permits_of_isNarrowed hnarrowed]
      exact globalProtocols_earlier hle hpermits

/-- **Expiry only removes access, but for narrowed protocols.**  As time advances over
fixed tables, the effective permissions and the accessible VMs of a user never grow; nor
do the protocols permitted on a VM, unless access to it was unscoped and narrowed by
global grants before and is not any more; and always the grants of the VM live before
cover what is permitted later. -/
theorem expiry_only_removes (db : Db) (userId : UserId) {now now' : Time} (hle : now ≤ now') :
    (∀ p, (resolveEffectiveAccess db now' userId).has p = true →
      (resolveEffectiveAccess db now userId).has p = true) ∧
    (∀ vmId, ((resolveEffectiveAccess db now' userId).vmAccess vmId).isSome = true →
      ((resolveEffectiveAccess db now userId).vmAccess vmId).isSome = true) ∧
    (∀ vmId, ((resolveEffectiveAccess db now userId).isNarrowed vmId = true →
        (resolveEffectiveAccess db now' userId).isNarrowed vmId = true) → ∀ protocol,
        permits (allowedProtocols (resolveEffectiveAccess db now' userId) vmId) protocol = true →
        permits (allowedProtocols (resolveEffectiveAccess db now userId) vmId) protocol = true) ∧
    ∀ vmId protocol, permits (allowedProtocols (resolveEffectiveAccess db now' userId) vmId) protocol = true →
      ∃ grant, (resolveEffectiveAccess db now userId).vmAccess vmId = some grant ∧
        permits grant.protocols protocol = true := by
  refine ⟨fun p hhas => has_earlier hle hhas, fun vmId hsome => ?_,
    fun vmId hstays protocol hpermits => permits_earlier hle hstays hpermits,
    fun vmId protocol hpermits => grant_earlier hle (grant_of_permits hpermits)⟩
  obtain ⟨protocols, hgrant⟩ := (vmAccess_isSome_iff.mp hsome).grant
  exact vmAccess_isSome_iff.mpr (hgrant.earlier hle).source

def Db.narrowing : Db :=
  { Db.sample with
    userPermissions := ⟨[⟨12, .protocolSsh, some 10⟩], by decide⟩
    groupMembers := ⟨[⟨20, 12, none⟩], by decide⟩
    groupVmAccess := ⟨[⟨20, 31, some [.rdp], none⟩], by decide⟩
    vmAccess := ⟨[⟨30, 12, none, none, none⟩, ⟨31, 12, none, some 10, none⟩], by decide⟩
    vms := ⟨[plainVm 30 100 "lab-1" none, plainVm 31 101 "lab-2" none], by decide⟩ }

theorem expiry_only_removes_sample :
    permits (allowedProtocols (resolveEffectiveAccess Db.narrowing 3 12) 30) .ssh = true :=
  (expiry_only_removes Db.narrowing 12 (by decide : 3 ≤ 5)).2.2.1 30 (fun _ => by decide) .ssh
    (by decide)

/-- Expiry does give access to protocols: at instant 10 the global grant is gone, which
opens every protocol of VM 30, and so is the unscoped grant of VM 31, which leaves RDP in
place of SSH. -/
theorem expiry_widens :
    (permits (allowedProtocols (resolveEffectiveAccess Db.narrowing 5 12) 30) .rdp = false ∧
      permits (allowedProtocols (resolveEffectiveAccess Db.narrowing 10 12) 30) .rdp = true) ∧
    permits (allowedProtocols (resolveEffectiveAccess Db.narrowing 5 12) 31) .rdp = false ∧
      permits (allowedProtocols (resolveEffectiveAccess Db.narrowing 10 12) 31) .rdp = true := by
  decide

end ProxVM
