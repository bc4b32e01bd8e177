import ProxVM.Iam.AccessSync

/-!
# Reconciling a user with a VM

`reconcileUserVmGuacAccess` of `services/iam.ts` revokes every READ
permission of a user on the connections of a VM and grants again what full resolution permits.

A permission names a connection and a Guacamole user, so a revocation reaches as far as the
names do.  `Reconciled` says what a run leaves, permission by permission: the names of the VM
are decided by the records that carry them, and every other permission is as it was.  From
that **`reconcile_exact`** follows.
-/

namespace ProxVM

open Tables Fallible

def AccessWorld.connectionNames (w : AccessWorld) (vmId : VmId) : List String :=
  (w.listConnectionRecords vmId).map VmConnectionRow.guacConnectionName

def AccessWorld.NamePermitted (w : AccessWorld) (now : Time) (vmId : VmId) (userId : UserId)
    (name : String) : Prop :=
  ∃ c ∈ w.listConnectionRecords vmId, c.guacConnectionName = name ∧
    permits (allowedProtocols (resolveEffectiveAccess w.db now userId) vmId) c.protocol = true

def AccessWorld.Concerns (w : AccessWorld) (vmId : VmId) (guacUsername : String)
    (p : ReadPermission) : Prop :=
  p.guacUsername = guacUsername ∧ p.connectionName ∈ w.connectionNames vmId

structure AccessWorld.SameRecords (w w' : AccessWorld) : Prop where
  db : w'.db = w.db
  connections : w'.connections = w.connections
  guacUsers : w'.guacUsers = w.guacUsers

structure Reconciled (now : Time) (vmId : VmId) (userId : UserId) (guacUsername : String)
    (w w' : AccessWorld) : Prop where
  records : w.SameRecords w'
  own : ∀ p, w.Concerns vmId guacUsername p →
    (p ∈ w'.reads ↔ w.NamePermitted now vmId userId p.connectionName)
  frame : ∀ p, ¬ w.Concerns vmId guacUsername p → (p ∈ w'.reads ↔ p ∈ w.reads)

section reconciliation

variable {env : SweepEnv} {now : Time} {vmId : VmId} {userId : UserId} {w w' : AccessWorld}
variable {record : GuacUserRow}

namespace AccessWorld.SameRecords

theorem refl (w : AccessWorld) : w.SameRecords w := ⟨rfl, rfl, rfl⟩

theorem listConnectionRecords (h : w.SameRecords w') :
    w'.listConnectionRecords vmId = w.listConnectionRecords vmId := by
  rw [AccessWorld.listConnectionRecords, h.connections, AccessWorld.listConnectionRecords]

theorem findUserRecord (h : w.SameRecords w') : w'.findUserRecord userId = w.findUserRecord userId := by
  rw [AccessWorld.findUserRecord, h.guacUsers, AccessWorld.findUserRecord]

theorem concerns_iff (h : w.SameRecords w') {guacUsername : String} {p : ReadPermission} :
    w'.Concerns vmId guacUsername p ↔ w.Concerns vmId guacUsername p := by
  simp only [AccessWorld.Concerns, AccessWorld.connectionNames, h.listConnectionRecords]

theorem namePermitted_iff (h : w.SameRecords w') {name : String} :
    w'.NamePermitted now vmId userId name ↔ w.NamePermitted now vmId userId name := by
  simp only [AccessWorld.NamePermitted, h.listConnectionRecords, h.db]

end AccessWorld.SameRecords

theorem AccessWorld.mem_connectionNames {name : String} : name ∈ w.connectionNames vmId ↔
      ∃ c ∈ w.listConnectionRecords vmId, c.guacConnectionName = name := by
  simp only [AccessWorld.connectionNames, List.mem_map]

/-! ## The two loops -/

theorem onSuccess_revokeVmAccess_reads (haccount : w.findUserRecord userId = some record) :
    onSuccess (revokeVmAccess env vmId userId) (fun _ w' => w.SameRecords w' ∧
      ∀ p, p ∈ w'.reads ↔ p ∈ w.reads ∧ ¬ w.Concerns vmId record.guacUsername p) w := by
  simp only [revokeVmAccess, onSuccess_bind, onSuccess_reach, onSuccess_query, haccount]
  intro _ _
  -- each round keeps what is not of the VM, and what it takes is not given back
  refine onSuccess_mono (onSuccess_forM_each
    (I := fun s => w.SameRecords s ∧ (∀ p ∈ s.reads, p ∈ w.reads) ∧
      ∀ p ∈ w.reads, ¬ w.Concerns vmId record.guacUsername p → p ∈ s.reads)
    (D := fun c s => (⟨c.guacConnectionName, record.guacUsername⟩ : ReadPermission) ∉ s.reads)
    ?_ ⟨.refl w, fun _ hp => hp, fun _ hp _ => hp⟩) ?_
  · rintro c hc s ⟨hrecords, hfewer, hkept⟩
    simp only [onSuccess_bind, onSuccess_reach, onSuccess_write]
    refine fun _ => ⟨⟨⟨hrecords.db, hrecords.connections, hrecords.guacUsers⟩, fun p hp => ?_,
      fun p hp hother => ?_⟩, fun y hy hmem => ?_, fun hmem => ?_⟩
    · exact hfewer p (List.mem_filter.mp hp).1
    · refine List.mem_filter.mpr ⟨hkept p hp hother, ?_⟩
      rw [decide_eq_true_eq]
      rintro rfl
      exact hother ⟨rfl, AccessWorld.mem_connectionNames.mpr ⟨c, hc, rfl⟩⟩
    · exact hy (List.mem_filter.mp hmem).1
    · simp [AccessWorld.revokeConnectionAccess] at hmem
  · rintro _ w' ⟨⟨hrecords, hfewer, hkept⟩, -, hdone⟩
    refine ⟨hrecords, fun p => ⟨fun hp => ⟨hfewer p hp, ?_⟩, fun hp => hkept p hp.1 hp.2⟩⟩
    rintro ⟨huser, hname⟩
    obtain ⟨c, hc, hcname⟩ := AccessWorld.mem_connectionNames.mp hname
    apply hdone c hc
    rw [hcname, ← huser]
    exact hp

theorem onSuccess_grants {w₁ : AccessWorld} (hrecords : w.SameRecords w₁)
    (hreads : ∀ p, p ∈ w₁.reads ↔ p ∈ w.reads ∧ ¬ w.Concerns vmId record.guacUsername p) :
    onSuccess (forM ((w.listConnectionRecords vmId).filter fun c =>
        permits (allowedProtocols (resolveEffectiveAccess w.db now userId) vmId) c.protocol) fun c => do
        env.reach vmId userId (.grantConnectionRead c.guacConnectionName)
        write (AccessWorld.grantConnectionRead c.guacConnectionName record.guacUsername))
      (fun _ w' => Reconciled now vmId userId record.guacUsername w w') w₁ := by
  refine onSuccess_of_after after_grants ?_
  rintro _ w' ⟨hdb, hconnections, husers, hadded⟩
  have hmem := hadded rfl
  refine ⟨⟨hdb.trans hrecords.db, hconnections.trans hrecords.connections,
    husers.trans hrecords.guacUsers⟩, fun p hp => ?_, fun p hp => ?_⟩
  · rw [hmem, hreads, or_iff_right fun hold => hold.2 hp]
    constructor
    · rintro ⟨c, hc, rfl⟩
      obtain ⟨hc, hpermits⟩ := List.mem_filter.mp hc
      exact ⟨c, hc, rfl, hpermits⟩
    · rintro ⟨c, hc, hname, hpermits⟩
      refine ⟨c, List.mem_filter.mpr ⟨hc, hpermits⟩, ?_⟩
      rw [hname, ← hp.1]
  · rw [hmem, hreads, or_iff_left, and_iff_left hp]
    rintro ⟨c, hc, rfl⟩
    exact hp ⟨rfl, AccessWorld.mem_connectionNames.mpr ⟨c, (List.mem_filter.mp hc).1, rfl⟩⟩

theorem onSuccess_reconcile (haccount : w.findUserRecord userId = some record) :
    onSuccess (reconcileUserVmGuacAccess env now vmId userId)
      (fun _ w' => Reconciled now vmId userId record.guacUsername w w') w := by
  simp only [reconcileUserVmGuacAccess, onSuccess_bind, onSuccess_query, onSuccess_reach]
  intro _
  refine onSuccess_mono (onSuccess_revokeVmAccess_reads haccount) ?_
  rintro _ w₁ ⟨hrecords, hreads⟩
  rw [onSuccess_ite]
  refine ⟨fun hnone => onSuccess_pure.mpr ⟨hrecords, fun p hp => ?_, fun p hp => ?_⟩, fun _ => ?_⟩
  · -- without access no protocol is permitted
    rw [hreads, iff_false_left fun hold => hold.2 hp]
    rintro ⟨c, -, -, hpermits⟩
    simp [allowedProtocols, Option.isNone_iff_eq_none.mp hnone, permits] at hpermits
  · rw [hreads, and_iff_left hp]
  · simp only [onSuccess_bind, onSuccess_query]
    rw [hrecords.findUserRecord, haccount, hrecords.listConnectionRecords]
    simp only [onSuccess_bind, onSuccess_pure]
    exact onSuccess_grants hrecords hreads

/-! ## Exactness -/

def AccessWorld.NamesItsOwn (w : AccessWorld) (vmId : VmId) : Prop :=
  ∀ c ∈ w.connections, ∀ c' ∈ w.connections,
    c.vmId = vmId → c'.guacConnectionName = c.guacConnectionName → c'.vmId = vmId

/-- The state after an exact reconciliation of the user `record` belongs to. -/
structure ReconciledExactly (now : Time) (vmId : VmId) (record : GuacUserRow)
    (w w' : AccessWorld) : Prop where
  /-- On the connections of the VM exactly the records of a permitted protocol can be read. -/
  permitted : ∀ name ∈ w.connectionNames vmId,
    ((⟨name, record.guacUsername⟩ : ReadPermission) ∈ w'.reads ↔
      w.NamePermitted now vmId record.userId name)
  /-- Record by record, where records of one name have one protocol. -/
  perRecord : w.Named vmId → w'.ReadsPermitted now vmId record.userId
  /-- Without a live grant none can be read. -/
  withoutGrant : (∀ protocols, ¬ VmGrant w.db now record.userId vmId protocols) →
    ∀ c, ¬ w'.Reads vmId record.userId c
  /-- The user's permissions on every connection that is not one of the VM are unchanged, among
  them those of all other VMs. -/
  elsewhere : ∀ name, (∀ c ∈ w.connections, c.vmId = vmId → c.guacConnectionName ≠ name) →
    ((⟨name, record.guacUsername⟩ : ReadPermission) ∈ w'.reads ↔
      (⟨name, record.guacUsername⟩ : ReadPermission) ∈ w.reads)
  otherVms : ∀ c ∈ w.connections, c.vmId ≠ vmId →
    ((⟨c.guacConnectionName, record.guacUsername⟩ : ReadPermission) ∈ w'.reads ↔
      (⟨c.guacConnectionName, record.guacUsername⟩ : ReadPermission) ∈ w.reads)
  /-- Every other user's permissions are unchanged. -/
  otherUsers : ∀ other ∈ w.guacUsers, other.userId ≠ record.userId → ∀ name,
    ((⟨name, other.guacUsername⟩ : ReadPermission) ∈ w'.reads ↔
      (⟨name, other.guacUsername⟩ : ReadPermission) ∈ w.reads)
  records : w.SameRecords w'

theorem Reconciled.exactly (h : Reconciled now vmId record.userId record.guacUsername w w')
    (haccount : w.findUserRecord record.userId = some record) (hunique : w.UniqueNames)
    (hnames : w.NamesItsOwn vmId) : ReconciledExactly now vmId record w w' := by
  have hown : ∀ c ∈ w.listConnectionRecords vmId,
      w.Concerns vmId record.guacUsername ⟨c.guacConnectionName, record.guacUsername⟩ :=
    fun c hc => ⟨rfl, AccessWorld.mem_connectionNames.mpr ⟨c, hc, rfl⟩⟩
  have hlisted : ∀ {c}, c ∈ w.listConnectionRecords vmId ↔ c ∈ w.connections ∧ c.vmId = vmId := by
    intro c
    simp only [AccessWorld.listConnectionRecords, List.mem_filter, decide_eq_true_eq]
  refine ⟨fun name hname => h.own _ ⟨rfl, hname⟩, fun hnamed record' hrecord' c hc => ?_,
    fun hnone c hreads => ?_, fun name hother => h.frame _ ?_, fun c hc hvm => h.frame _ ?_,
    fun other hmem hne name => h.frame _ ?_, h.records⟩
  · rw [h.records.findUserRecord, haccount] at hrecord'
    cases hrecord'
    rw [h.records.listConnectionRecords] at hc
    rw [h.own _ (hown c hc), h.records.db]
    constructor
    · rintro ⟨c', hc', hname, hpermits⟩
      rw [← hnamed c' hc' c hc hname]
      exact hpermits
    · intro hpermits
      exact ⟨c, hc, rfl, hpermits⟩
  · obtain ⟨hc, record', hrecord', hmem⟩ := hreads
    rw [h.records.findUserRecord, haccount] at hrecord'
    cases hrecord'
    rw [h.records.listConnectionRecords] at hc
    obtain ⟨_, _, _, hpermits⟩ := (h.own _ (hown c hc)).mp hmem
    have hinaccessible : (resolveEffectiveAccess w.db now record.userId).vmAccess vmId = none := by
      rw [← Option.not_isSome_iff_eq_none, vmAccess_isSome_iff]
      intro hsource
      obtain ⟨protocols, hgrant⟩ := hsource.grant
      exact hnone protocols hgrant
    simp [allowedProtocols, hinaccessible, permits] at hpermits
  · rintro ⟨-, hname⟩
    obtain ⟨c, hc, hcname⟩ := AccessWorld.mem_connectionNames.mp hname
    exact hother c (hlisted.mp hc).1 (hlisted.mp hc).2 hcname
  · rintro ⟨-, hname⟩
    obtain ⟨own, howned, hsame⟩ := AccessWorld.mem_connectionNames.mp hname
    exact hvm (hnames own (hlisted.mp howned).1 c hc (hlisted.mp howned).2 hsame.symm)
  · rintro ⟨hsame, -⟩
    exact hne (hunique other hmem record (Table.mem_of_find? haccount) hsame)

theorem Reconciled.again {guacUsername : String} {w'' : AccessWorld}
    (h : Reconciled now vmId userId guacUsername w w') (h' : Reconciled now vmId userId guacUsername w' w'') :
    w'.SameRecords w'' ∧ ∀ p, p ∈ w''.reads ↔ p ∈ w'.reads := by
  refine ⟨h'.records, fun p => ?_⟩
  by_cases hp : w.Concerns vmId guacUsername p
  · rw [h'.own p (h.records.concerns_iff.mpr hp), h.own p hp, h.records.namePermitted_iff]
  · exact h'.frame p fun hp' => hp (h.records.concerns_iff.mp hp')

/-- **Reconciliation is exact and idempotent.**  For a user with a Guacamole account and a VM
whose names no other VM uses, a successful run leaves exactly the permitted READ permissions on
the VM and every other permission as it was, and a successful second run changes nothing. -/
theorem reconcile_exact (haccount : w.findUserRecord userId = some record)
    (hunique : w.UniqueNames) (hnames : w.NamesItsOwn vmId) :
    onSuccess (reconcileUserVmGuacAccess env now vmId userId) (fun _ w' =>
      ReconciledExactly now vmId record w w' ∧
        ∀ env', onSuccess (reconcileUserVmGuacAccess env' now vmId userId) (fun _ w'' =>
          w'.SameRecords w'' ∧ ∀ p, p ∈ w''.reads ↔ p ∈ w'.reads) w') w := by
  obtain rfl : record.userId = userId := Table.key_of_find? haccount
  refine onSuccess_mono (onSuccess_reconcile haccount) fun _ w' h => ?_
  refine ⟨h.exactly haccount hunique hnames, fun env' => ?_⟩
  have haccount' : w'.findUserRecord record.userId = some record := by
    rw [h.records.findUserRecord]
    exact haccount
  exact onSuccess_mono (onSuccess_reconcile haccount') fun _ w'' h' => h.again h'

end reconciliation

theorem reconcile_exact_surviving : onSuccess (reconcileUserVmGuacAccess (.calm 20) 20 30 12) (fun _ w' =>
      ReconciledExactly 20 30 ⟨12, "ann"⟩ AccessWorld.surviving w' ∧
        ∀ env', onSuccess (reconcileUserVmGuacAccess env' 20 30 12) (fun _ w'' =>
          w'.SameRecords w'' ∧ ∀ p, p ∈ w''.reads ↔ p ∈ w'.reads) w') AccessWorld.surviving := by
  have hone : ∀ c ∈ AccessWorld.surviving.connections, c = ⟨30, .ssh, "lab-1-ssh"⟩ :=
    fun _ hc => List.mem_singleton.mp hc
  refine reconcile_exact (by decide) ?_ ?_
  · intro r hr r' hr' _
    rw [List.mem_singleton.mp hr, List.mem_singleton.mp hr']
  · intro c hc c' hc' _ _
    rw [hone c' hc']

end ProxVM
