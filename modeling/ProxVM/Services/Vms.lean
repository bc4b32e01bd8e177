import ProxVM.Db.Schema

/-!
# The VM registry

The reads and statements of `VmsRepository` (`services/vms.ts`)
and the counts of `services/usage.ts` that decide about a quota.

A deleted VM keeps its row, with `deleted_at` set.  Reads see live rows only;
`listVmidsByNode` and `UNIQUE (vmid, node)` see all of them.
-/

namespace ProxVM

open Tables

/-! ## Visibility -/

/-- `VmsRepository.findById`: soft-deleted rows are hidden. -/
def findVmById (db : Db) (id : VmId) : Option VmRow :=
  (db.vms.find? id).filter fun v => v.deletedAt.isNone

/-- `VmsRepository.list`, in the order of the table. -/
def listVms (db : Db) : List VmRow :=
  db.vms.rows.filter fun v => v.deletedAt.isNone

/-- `LEFT JOIN vm_access va ON …`. -/
def joinVmAccess (db : Db) (now : Time) (userId : UserId) : List (VmRow × Option VmAccessRow) :=
  leftJoin db.vms.rows fun v => db.vmAccess.rows.filter fun va =>
    decide (va.vmId = v.id) && decide (va.userId = userId) && isLive va.expiresAt now

/-- `LEFT JOIN group_vm_access gva ON …`. -/
def joinGroupVmAccess (db : Db) (now : Time) (userId : UserId) :
    List ((VmRow × Option VmAccessRow) × Option GroupVmAccessRow) :=
  leftJoin (joinVmAccess db now userId) fun row => db.groupVmAccess.rows.filter fun gva =>
    decide (gva.vmId = row.1.id) && isLive gva.expiresAt now

/-- `LEFT JOIN group_members gm ON …`. -/
def joinGroupMembers (db : Db) (now : Time) (userId : UserId) :
    List (((VmRow × Option VmAccessRow) × Option GroupVmAccessRow) × Option GroupMemberRow) :=
  leftJoin (joinGroupVmAccess db now userId) fun row => db.groupMembers.rows.filter fun gm =>
    decide (row.2.map GroupVmAccessRow.groupId = some gm.groupId) && decide (gm.userId = userId) &&
      isLive gm.expiresAt now

/-- `VmsRepository.listAssignedToUser`, in the order of the table. -/
def listAssignedToUser (db : Db) (now : Time) (userId : UserId) : List VmRow :=
  ((joinGroupMembers db now userId).filter fun row =>
    row.1.1.1.deletedAt.isNone && (row.1.1.2.isSome || row.2.isSome ||
      decide (row.1.1.1.createdByUserId = some userId))).map (fun row => row.1.1.1) |>.dedup

/-- `VmsRepository.hasAccess`: a live direct grant, or a live group grant through
a live membership. -/
def hasAccess (db : Db) (now : Time) (vmId : VmId) (userId : UserId) : Bool :=
  (db.vmAccess.rows.any fun va =>
    decide (va.vmId = vmId) && decide (va.userId = userId) && isLive va.expiresAt now) ||
  (db.groupVmAccess.rows.any fun gva =>
    decide (gva.vmId = vmId) && isLive gva.expiresAt now &&
      db.groupMembers.rows.any fun gm =>
        decide (gm.groupId = gva.groupId) && decide (gm.userId = userId) && isLive gm.expiresAt now)

def hasAccessOrOwns (db : Db) (now : Time) (vmId : VmId) (userId : UserId) : Bool :=
  hasAccess db now vmId userId ||
    match findVmById db vmId with
    | some vm => decide (vm.createdByUserId = some userId)
    | none => false

/-- `VmsRepository.visibleTo`, the `allowed` part. -/
def visibleTo (db : Db) (now : Time) (userId : UserId) (roles : List Role) (vmId : VmId) : Bool :=
  let privileged := decide (Role.admin ∈ roles) || decide (Role.operator ∈ roles)
  match findVmById db vmId with
  | none => privileged
  | some vm =>
      if vm.privacyFlag then
        hasAccessOrOwns db now vmId userId
      else
        privileged || hasAccess db now vmId userId

section visibility

variable {db : Db} {now : Time} {userId : UserId} {vm : VmRow}

theorem findVmById_eq_some {id : VmId} :
    findVmById db id = some vm ↔ vm ∈ db.vms ∧ vm.id = id ∧ vm.deletedAt = none := by
  rw [findVmById, Option.filter_eq_some_iff, Table.find?_eq_some_iff, Option.isNone_iff_eq_none,
    and_assoc]

theorem mem_listVms : vm ∈ listVms db ↔ findVmById db vm.id = some vm := by
  rw [listVms, List.mem_filter, Option.isNone_iff_eq_none, findVmById_eq_some, and_iff_right rfl]
  exact Iff.rfl

theorem hasAccess_eq_true {vmId : VmId} : hasAccess db now vmId userId = true ↔
    (∃ va ∈ db.vmAccess, va.vmId = vmId ∧ va.userId = userId ∧ isLive va.expiresAt now = true) ∨
      ∃ gva ∈ db.groupVmAccess, gva.vmId = vmId ∧ isLive gva.expiresAt now = true ∧
        ∃ gm ∈ db.groupMembers, gm.groupId = gva.groupId ∧ gm.userId = userId ∧
          isLive gm.expiresAt now = true := by
  simp only [hasAccess, Bool.or_eq_true, List.any_eq_true, Bool.and_eq_true, decide_eq_true_eq,
    and_assoc, Table.mem_def]

section join

variable {va : Option VmAccessRow} {gva : Option GroupVmAccessRow}

theorem mem_joinVmAccess {va : VmAccessRow} : (vm, some va) ∈ joinVmAccess db now userId ↔
    vm ∈ db.vms ∧ va ∈ db.vmAccess ∧ va.vmId = vm.id ∧ va.userId = userId ∧
      isLive va.expiresAt now = true := by
  simp only [joinVmAccess, mem_leftJoin_some, List.mem_filter, Bool.and_eq_true, decide_eq_true_eq,
    and_assoc, Table.mem_def]

theorem mem_joinGroupVmAccess {gva : GroupVmAccessRow} :
    ((vm, va), some gva) ∈ joinGroupVmAccess db now userId ↔
      (vm, va) ∈ joinVmAccess db now userId ∧ gva ∈ db.groupVmAccess ∧ gva.vmId = vm.id ∧
        isLive gva.expiresAt now = true := by
  simp only [joinGroupVmAccess, mem_leftJoin_some, List.mem_filter, Bool.and_eq_true,
    decide_eq_true_eq, Table.mem_def]

theorem mem_joinGroupMembers {gm : GroupMemberRow} :
    (((vm, va), gva), some gm) ∈ joinGroupMembers db now userId ↔
      ((vm, va), gva) ∈ joinGroupVmAccess db now userId ∧ gm ∈ db.groupMembers ∧
        gva.map GroupVmAccessRow.groupId = some gm.groupId ∧ gm.userId = userId ∧
          isLive gm.expiresAt now = true := by
  simp only [joinGroupMembers, mem_leftJoin_some, List.mem_filter, Bool.and_eq_true,
    decide_eq_true_eq, and_assoc, Table.mem_def]

end join

theorem mem_listAssignedToUser : vm ∈ listAssignedToUser db now userId ↔ findVmById db vm.id = some vm ∧
      (hasAccess db now vm.id userId = true ∨ vm.createdByUserId = some userId) := by
  have hlisted : vm ∈ listAssignedToUser db now userId ↔ vm.deletedAt = none ∧
      ∃ va gva gm, (((vm, va), gva), gm) ∈ joinGroupMembers db now userId ∧
        (va.isSome = true ∨ gm.isSome = true ∨ vm.createdByUserId = some userId) := by
    simp only [listAssignedToUser, List.mem_dedup, List.mem_map, List.mem_filter, Bool.and_eq_true,
      Bool.or_eq_true, Option.isNone_iff_eq_none, decide_eq_true_eq, or_assoc]
    constructor
    · rintro ⟨⟨⟨⟨v, va⟩, gva⟩, gm⟩, ⟨hmem, hlive, hreason⟩, rfl⟩
      exact ⟨hlive, va, gva, gm, hmem, hreason⟩
    · rintro ⟨hlive, va, gva, gm, hmem, hreason⟩
      exact ⟨_, ⟨hmem, hlive, hreason⟩, rfl⟩
  rw [hlisted, findVmById_eq_some, hasAccess_eq_true]
  constructor
  · rintro ⟨hlive, va, gva, gm, hjoined, hreason⟩
    have hgrouped := mem_of_mem_leftJoin hjoined
    have hdirect := mem_of_mem_leftJoin hgrouped
    refine ⟨⟨mem_of_mem_leftJoin hdirect, rfl, hlive⟩, ?_⟩
    rcases hreason with hva | hgm | hcreated
    · obtain ⟨va, rfl⟩ := Option.isSome_iff_exists.mp hva
      exact .inl (.inl ⟨va, (mem_joinVmAccess.mp hdirect).2⟩)
    · -- A member row has joined a grant of its group.
      obtain ⟨gm, rfl⟩ := Option.isSome_iff_exists.mp hgm
      obtain ⟨-, hgm, hgroup, huser, hmember⟩ := mem_joinGroupMembers.mp hjoined
      obtain ⟨gva, rfl, hid⟩ := Option.map_eq_some_iff.mp hgroup
      obtain ⟨-, hgva, hvm, hgrant⟩ := mem_joinGroupVmAccess.mp hgrouped
      exact .inl (.inr ⟨gva, hgva, hvm, hgrant, gm, hgm, hid.symm, huser, hmember⟩)
    · exact .inr hcreated
  · rintro ⟨⟨hvm, -, hlive⟩, (⟨va, hva⟩ | ⟨gva, hgva, hid, hgrant, gm, hgm, hgroup, hmember⟩) | hcreated⟩
    · obtain ⟨gva, hgrouped⟩ := exists_mem_leftJoin (mem_joinVmAccess.mpr ⟨hvm, hva⟩)
      obtain ⟨gm, hjoined⟩ := exists_mem_leftJoin hgrouped
      exact ⟨hlive, some va, gva, gm, hjoined, .inl rfl⟩
    · obtain ⟨va, hdirect : (vm, va) ∈ joinVmAccess db now userId⟩ := exists_mem_leftJoin hvm
      have hgrouped := mem_joinGroupVmAccess.mpr ⟨hdirect, hgva, hid, hgrant⟩
      have hjoined := mem_joinGroupMembers.mpr ⟨hgrouped, hgm, congrArg some hgroup.symm, hmember⟩
      exact ⟨hlive, va, some gva, some gm, hjoined, .inr (.inl rfl)⟩
    · obtain ⟨va, hdirect : (vm, va) ∈ joinVmAccess db now userId⟩ := exists_mem_leftJoin hvm
      obtain ⟨gva, hgrouped⟩ := exists_mem_leftJoin hdirect
      obtain ⟨gm, hjoined⟩ := exists_mem_leftJoin hgrouped
      exact ⟨hlive, va, gva, gm, hjoined, .inr (.inr hcreated)⟩

end visibility

namespace Db

variable {db db' : Db} {now : Time} {user : UserId} {id : VmId}

/-! ## Reads -/

/-- `VmsRepository.listVmidsByNode`: deleted rows included. -/
def listVmidsByNode (db : Db) (node : String) : List Nat :=
  (db.vms.rows.filter fun v => decide (v.node = node)).map VmRow.vmid

/-- `VmsRepository.findByIdKey`: live rows only. -/
def findVmByIdKey (db : Db) (vmid : Nat) (node : String) : Option VmRow :=
  db.vms.rows.find? fun v => decide (v.vmid = vmid) && decide (v.node = node) && v.deletedAt.isNone

/-! ## Statements -/

/-- `INSERT INTO vms`: the id is unique, and so is `(vmid, node)`, among deleted
rows too. -/
def insertVm (db : Db) (row : VmRow) : Option Db :=
  if db.vms.rows.any fun v => decide (v.vmid = row.vmid) && decide (v.node = row.node) then
    none
  else
    (db.vms.insert? row).map fun vms => { db with vms }

theorem insertVm_eq_some {row : VmRow} (hins : db.insertVm row = some db') :
    ∃ vms, db' = { db with vms } ∧ (∀ v ∈ db.vms, v.id ≠ row.id) ∧ ∀ v, v ∈ vms ↔ v ∈ db.vms ∨ v = row := by
  unfold insertVm at hins
  split at hins
  · cases hins
  · obtain ⟨vms, hvms, rfl⟩ := Option.map_eq_some_iff.mp hins
    obtain ⟨hfresh, hmem⟩ := Table.insert?_eq_some hvms
    exact ⟨vms, rfl, hfresh, hmem⟩

/-- `UPDATE vms SET … WHERE id = $1`. -/
def updateVm (db : Db) (id : VmId) (f : VmRow → VmRow) (hkey : ∀ v, (f v).id = v.id) : Db :=
  { db with vms := db.vms.updateWhere (fun v => decide (v.id = id)) f hkey }

/-- `VmsRepository.updateStatus`. -/
def updateVmStatus (db : Db) (id : VmId) (status : VmStatus) : Db :=
  db.updateVm id (fun v => { v with status }) fun _ => rfl

/-- `VmsRepository.updateOsInfo`. -/
def updateVmOsInfo (db : Db) (id : VmId) (osName : Option String) : Db :=
  db.updateVm id (fun v => { v with osName }) fun _ => rfl

/-- The index `uq_vms_ip_address_static` admits no second live static row. -/
def staticIpTaken (db : Db) (id : VmId) (ip : String) : Bool :=
  db.vms.rows.any fun v => decide (v.id ≠ id) && decide (v.ipAddress = some ip) && v.ipStatic &&
    v.deletedAt.isNone

/-- `VmsRepository.updateIp`, rejected when a static address is taken. -/
def updateVmIp (db : Db) (id : VmId) (ip : String) (ipStatic : Bool) : Option Db :=
  if ipStatic && (findVmById db id).isSome && db.staticIpTaken id ip then
    none
  else
    some (db.updateVm id (fun v => { v with ipAddress := some ip, ipStatic }) fun _ => rfl)

/-- `VmsRepository.softDelete`. -/
def softDeleteVm (db : Db) (now : Time) (id : VmId) : Db :=
  db.updateVm id (fun v => { v with deletedAt := some now }) fun _ => rfl

/-- `VmsRepository.setAccess` without options: an existing grant keeps its scope. -/
def setVmAccess (db : Db) (vmId : VmId) (userId : UserId) : Db :=
  match db.vmAccess.find? (vmId, userId) with
  | some _ => db
  | none => { db with vmAccess := db.vmAccess.put ⟨vmId, userId, none, none, none⟩ }

/-! ## Quotas -/

/-- `getUserQuota`: `none` means unlimited. -/
def getUserQuota (db : Db) (userId : UserId) : Option Nat :=
  (db.users.find? userId).bind UserRow.maxVms

def OwnedLive (user : UserId) (v : VmRow) : Bool :=
  decide (v.createdByUserId = some user) && v.deletedAt.isNone

def countUserVms (db : Db) (user : UserId) : Nat :=
  (db.vms.rows.filter (OwnedLive user)).length

def dayMs : Time := 24 * 3600 * 1000

/-- The row counts as a provision of the user in flight: not terminal, and touched
within a day. -/
def InFlight (user : UserId) (now : Time) (j : JobRow) : Bool :=
  decide (j.createdByUserId = some user) && !j.status.isTerminal && decide (now < j.updatedAt + dayMs)

def countActiveProvisioningJobs (db : Db) (now : Time) (user : UserId) : Nat :=
  (db.jobs.rows.filter (InFlight user now)).length

def provisionLoad (db : Db) (now : Time) (user : UserId) : Nat :=
  db.countUserVms user + db.countActiveProvisioningJobs now user

end Db

end ProxVM
