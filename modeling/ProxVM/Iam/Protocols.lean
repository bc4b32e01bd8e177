import ProxVM.Iam.Effective

/-!
# Protocols of a VM

`allowedProtocols` of `services/iam.ts`, and what it says in terms
of the grants a user holds.
-/

namespace ProxVM

open Tables

/-- The protocol a catalog code `protocol.<name>` names. -/
def Permission.protocol? : Permission → Option Protocol
  | .protocolSsh => some .ssh
  | .protocolRdp => some .rdp
  | .protocolVnc => some .vnc
  | _ => none

/-- The protocols of the global `protocol.*` permissions a user holds, in catalog
order. -/
def EffectiveAccess.globalProtocols (e : EffectiveAccess) : List Protocol :=
  (Permission.all.filter e.has).filterMap Permission.protocol?

/-- `allowedProtocols`; `none` means every connection. -/
def allowedProtocols (e : EffectiveAccess) (vmId : VmId) : Option (List Protocol) :=
  match e.vmAccess vmId with
  | none => some []
  | some grant =>
    match grant.protocols with
    | some protocols => some protocols
    | none => if e.globalProtocols.isEmpty then none else some e.globalProtocols

/-- `allowed === null || allowed.includes(protocol)`. -/
def permits (allowed : Option (List Protocol)) (protocol : Protocol) : Bool :=
  match allowed with
  | none => true
  | some protocols => decide (protocol ∈ protocols)

@[simp] theorem permits_none (protocol : Protocol) : permits none protocol = true := rfl

variable {protocol : Protocol} {e : EffectiveAccess}

@[simp] theorem permits_some {protocols : List Protocol} :
    permits (some protocols) protocol = true ↔ protocol ∈ protocols := by
  simp [permits]

theorem mem_globalProtocols : protocol ∈ e.globalProtocols ↔
      ∃ p, e.has p = true ∧ Permission.protocol? p = some protocol := by
  simp [EffectiveAccess.globalProtocols, Permission.mem_all]

/-! ## Merging -/

theorem permits_mergeProtocols (protocol : Protocol) (a b : Option (List Protocol)) :
    permits (mergeProtocols a b) protocol = true ↔ permits a protocol = true ∨ permits b protocol = true := by
  cases a with
  | none => simp [mergeProtocols]
  | some a =>
      cases b with
      | none => simp [mergeProtocols]
      | some b => simp [mergeProtocols, unique, List.mem_eraseDups]

theorem mergeProtocols_eq_none (a b : Option (List Protocol)) :
    mergeProtocols a b = none ↔ a = none ∨ b = none := by
  cases a <;> cases b <;> simp [mergeProtocols]

section merged

variable {db : Db} {now : Time} {userId : UserId} {vmId : VmId}

theorem permits_grant_iff {protocol : Protocol} :
    (∃ grant, (resolveEffectiveAccess db now userId).vmAccess vmId = some grant ∧
        permits grant.protocols protocol = true) ↔
      ∃ protocols, VmGrant db now userId vmId protocols ∧ permits protocols protocol = true :=
  exists_vmAccess_iff (P := fun protocols => permits protocols protocol = true)
    (permits_mergeProtocols protocol)

theorem protocols_eq_none_iff : (∃ grant, (resolveEffectiveAccess db now userId).vmAccess vmId = some grant ∧
        grant.protocols = none) ↔ VmGrant db now userId vmId none := by
  rw [exists_vmAccess_iff (P := fun protocols => protocols = none) mergeProtocols_eq_none]
  constructor
  · rintro ⟨protocols, hgrant, rfl⟩
    exact hgrant
  · intro hgrant
    exact ⟨none, hgrant, rfl⟩

end merged

/-! ## The precedence rule -/

/-- Access to the VM is unscoped and the user holds a global `protocol.*` permission,
which then scopes it. -/
def EffectiveAccess.isNarrowed (e : EffectiveAccess) (vmId : VmId) : Bool :=
  match e.vmAccess vmId with
  | none => false
  | some grant => grant.protocols.isNone && !e.globalProtocols.isEmpty

theorem permits_of_isNarrowed {vmId : VmId} (hnarrowed : e.isNarrowed vmId = true) :
    permits (allowedProtocols e vmId) protocol = true ↔ protocol ∈ e.globalProtocols := by
  unfold EffectiveAccess.isNarrowed at hnarrowed
  cases hgrant : e.vmAccess vmId with
  | none => simp [hgrant] at hnarrowed
  | some grant =>
      simp only [hgrant, Bool.and_eq_true, Option.isNone_iff_eq_none, Bool.not_eq_true'] at hnarrowed
      simp [allowedProtocols, hgrant, hnarrowed.1, hnarrowed.2]

theorem permits_of_not_isNarrowed {vmId : VmId} (hnarrowed : e.isNarrowed vmId = false) :
    permits (allowedProtocols e vmId) protocol = true ↔
      ∃ grant, e.vmAccess vmId = some grant ∧ permits grant.protocols protocol = true := by
  unfold EffectiveAccess.isNarrowed at hnarrowed
  cases hgrant : e.vmAccess vmId with
  | none => simp [allowedProtocols, hgrant]
  | some grant =>
      cases hprotocols : grant.protocols with
      | some protocols => simp [allowedProtocols, hgrant, hprotocols]
      | none =>
          have hglobals : e.globalProtocols.isEmpty = true := by
            simpa [hgrant, hprotocols] using hnarrowed
          simp [allowedProtocols, hgrant, hprotocols, hglobals]

theorem isNarrowed_iff {vmId : VmId} : e.isNarrowed vmId = true ↔
    (∃ grant, e.vmAccess vmId = some grant ∧ grant.protocols = none) ∧
      ∃ protocol, protocol ∈ e.globalProtocols := by
  unfold EffectiveAccess.isNarrowed
  cases hgrant : e.vmAccess vmId with
  | none => simp
  | some grant =>
      have hglobals : e.globalProtocols.isEmpty = false ↔ ∃ protocol, protocol ∈ e.globalProtocols := by
        rw [List.isEmpty_eq_false_iff, List.ne_nil_iff_exists_cons]
        constructor
        · rintro ⟨protocol, rest, heq⟩
          exact ⟨protocol, by rw [heq]; exact List.mem_cons_self⟩
        · rintro ⟨protocol, hmem⟩
          cases hcons : e.globalProtocols with
          | nil => simp [hcons] at hmem
          | cons first rest => exact ⟨first, rest, rfl⟩
      simp [hglobals]

theorem grant_of_permits {vmId : VmId} (hpermits : permits (allowedProtocols e vmId) protocol = true) :
    ∃ grant, e.vmAccess vmId = some grant ∧ permits grant.protocols protocol = true := by
  cases hnarrowed : e.isNarrowed vmId with
  | false => exact (permits_of_not_isNarrowed hnarrowed).mp hpermits
  | true =>
      obtain ⟨⟨grant, hgrant, hnone⟩, -⟩ := isNarrowed_iff.mp hnarrowed
      exact ⟨grant, hgrant, by rw [hnone]; rfl⟩

theorem permits_congr {db db' : Db} {now : Time} {userId : UserId} {vmId : VmId}
    (hhas : ∀ p, (resolveEffectiveAccess db now userId).has p = true ↔
      (resolveEffectiveAccess db' now userId).has p = true)
    (hgrant : ∀ protocols, VmGrant db now userId vmId protocols ↔
      VmGrant db' now userId vmId protocols) (protocol : Protocol) :
    permits (allowedProtocols (resolveEffectiveAccess db now userId) vmId) protocol =
      permits (allowedProtocols (resolveEffectiveAccess db' now userId) vmId) protocol := by
  have hglobals : ∀ protocol, protocol ∈ (resolveEffectiveAccess db now userId).globalProtocols ↔
      protocol ∈ (resolveEffectiveAccess db' now userId).globalProtocols := fun protocol => by
    simp only [mem_globalProtocols, hhas]
  have hnarrowed : (resolveEffectiveAccess db now userId).isNarrowed vmId =
      (resolveEffectiveAccess db' now userId).isNarrowed vmId := by
    rw [Bool.eq_iff_iff, isNarrowed_iff, isNarrowed_iff, protocols_eq_none_iff,
      protocols_eq_none_iff, hgrant]
    simp only [hglobals]
  rw [Bool.eq_iff_iff]
  cases hcase : (resolveEffectiveAccess db now userId).isNarrowed vmId with
  | true =>
      rw [permits_of_isNarrowed hcase, permits_of_isNarrowed (hnarrowed ▸ hcase), hglobals]
  | false =>
      rw [permits_of_not_isNarrowed hcase, permits_of_not_isNarrowed (hnarrowed ▸ hcase),
        permits_grant_iff, permits_grant_iff]
      simp only [hgrant]

end ProxVM
