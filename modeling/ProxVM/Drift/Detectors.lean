import ProxVM.Drift.Findings

/-!
# The drift detectors

The pure part of `services/drift.ts`: how a listing of the cluster is normalized,
the detectors of the six dimensions, the guard against a partial cluster view and
the map of the checks that did not complete.
-/

namespace ProxVM

/-! ## Cluster listings -/

/-- `ProxmoxQemuResource`, an entry of `/cluster/resources?type=vm`. -/
structure ProxmoxQemuResource where
  vmid : Option Nat
  node : Option String
  name : Option String
  status : Option String
  type : Option String
  template : Option Nat
  deriving DecidableEq, Repr

structure DriftLiveResource where
  vmid : Nat
  node : String
  name : Option String
  status : String
  deriving DecidableEq, Repr

structure RawLiveResource where
  resource : DriftLiveResource
  template : Bool
  deriving DecidableEq, Repr

/-- `normalizeResources`: containers are dropped. -/
def normalizeResources (resources : List ProxmoxQemuResource) : List RawLiveResource :=
  resources.filterMap fun r =>
    match r.vmid with
    | none => none
    | some vmid =>
        if r.type = some "lxc" then
          none
        else
          some
            { resource :=
                { vmid, node := r.node.getD "", name := r.name, status := r.status.getD "" }
              template := decide (r.template.getD 0 = 1) }

/-- `allQemuResources`: templates included. -/
def allQemuResources (resources : List ProxmoxQemuResource) : List DriftLiveResource :=
  (normalizeResources resources).map RawLiveResource.resource

/-- `findableResources`: templates excluded. -/
def findableResources (resources : List ProxmoxQemuResource) : List DriftLiveResource :=
  ((normalizeResources resources).filter fun r => !r.template).map RawLiveResource.resource

/-- `live.some((r) => r.vmid === vmid)`. -/
def hasVmid (live : List DriftLiveResource) (vmid : Nat) : Bool :=
  live.any fun r => decide (r.vmid = vmid)

variable {live : List DriftLiveResource} {vmid : Nat} {d : Detected} {vm : VmRow}

theorem hasVmid_iff : hasVmid live vmid = true ↔ ∃ r ∈ live, r.vmid = vmid := by
  simp [hasVmid]

/-- `live.find((r) => r.vmid === vmid)`. -/
def findLive (live : List DriftLiveResource) (vmid : Nat) : Option DriftLiveResource :=
  live.find? fun r => decide (r.vmid = vmid)

theorem findLive_isSome : (findLive live vmid).isSome = hasVmid live vmid := by
  rw [Bool.eq_iff_iff, hasVmid_iff]
  simp [findLive, List.find?_isSome]

/-! ## Deleted guests -/

def deletedFinding (vm : VmRow) : Detected :=
  { fingerprint := s!"deleted:{vm.id}"
    dimension := .deleted
    severity := .high
    vmId := some vm.id
    connectionId := none
    title := s!"VM \"{vm.name}\" no longer exists in Proxmox"
    summary := "The record is active in ProxVM but no guest with that vmid exists anywhere in " ++
      "the cluster (templates excluded). The guest was deleted out-of-band. Decommission the " ++
      "record to drop it and its Guacamole connections."
    detail := [("vmid", .number vm.vmid), ("lastKnownNode", .text vm.node)] }

def detectDeletedVms (recorded : List VmRow) (live : List DriftLiveResource) : List Detected :=
  (recorded.filter fun vm => !hasVmid live vm.vmid).map deletedFinding

theorem mem_detectDeletedVms {recorded : List VmRow} : d ∈ detectDeletedVms recorded live ↔
      ∃ vm ∈ recorded, hasVmid live vm.vmid = false ∧ d = deletedFinding vm := by
  simp only [detectDeletedVms, List.mem_map, List.mem_filter, Bool.not_eq_true']
  constructor
  · rintro ⟨vm, ⟨hvm, habsent⟩, rfl⟩
    exact ⟨vm, hvm, habsent, rfl⟩
  · rintro ⟨vm, hvm, habsent, rfl⟩
    exact ⟨vm, ⟨hvm, habsent⟩, rfl⟩

/-! ## Names and nodes -/

def nameFinding (vm : VmRow) (lr : DriftLiveResource) : Detected :=
  let shown := lr.name.getD "?"
  { fingerprint := s!"config:{vm.id}:name"
    dimension := .config
    severity := .low
    vmId := some vm.id
    connectionId := none
    title := s!"VM \"{vm.name}\" was renamed out-of-band"
    summary := s!"Proxmox reports the name as \"{shown}\" while ProxVM records \"{vm.name}\". " ++
      "Adopt to sync the record, or rename it back."
    detail := [("field", .text "name"), ("recorded", .text vm.name),
      ("live", (lr.name.map DetailValue.text).getD .null)] }

def nodeFinding (vm : VmRow) (lr : DriftLiveResource) : Detected :=
  { fingerprint := s!"config:{vm.id}:node"
    dimension := .config
    severity := .medium
    vmId := some vm.id
    connectionId := none
    title := s!"VM \"{vm.name}\" moved to node \"{lr.node}\""
    summary := s!"ProxVM records node \"{vm.node}\"; the guest now lives on \"{lr.node}\". If " ++
      "this was a manual Proxmox migration, adopt to sync."
    detail := [("field", .text "node"), ("recorded", .text vm.node), ("live", .text lr.node)] }

/-- What `detectConfigDrift` says of one record. -/
def configDriftOf (live : List DriftLiveResource) (vm : VmRow) : List Detected :=
  match findLive live.reverse vm.vmid with
  | none => []
  | some lr =>
      (if (lr.name.getD "").toLower ≠ vm.name.toLower ∧ 0 < vm.name.length then
        [nameFinding vm lr] else []) ++
      (if lr.node ≠ vm.node then [nodeFinding vm lr] else [])

/-- `detectConfigDrift`: names are compared without case. -/
def detectConfigDrift (recorded : List VmRow) (live : List DriftLiveResource) : List Detected :=
  recorded.flatMap (configDriftOf live)

theorem mem_configDriftOf
    (hd : d ∈ configDriftOf live vm) : ∃ lr, d = nameFinding vm lr ∨ d = nodeFinding vm lr := by
  unfold configDriftOf at hd
  split at hd
  · cases hd
  · rename_i lr _
    rw [List.mem_append] at hd
    refine ⟨lr, hd.imp (fun hname => ?_) fun hnode => ?_⟩
    · split at hname
      · exact List.mem_singleton.mp hname
      · cases hname
    · split at hnode
      · exact List.mem_singleton.mp hnode
      · cases hnode

/-! ## Hardware -/

structure HardwareSnapshot where
  cores : Option Int
  memoryMb : Option Int
  net : Option String
  deriving DecidableEq, Repr

/-- The hardware part of a guest's configuration, `cores` and `memory` as `Number(…)` yields them: `none` is no finite
number. -/
structure HardwareConfig where
  cores : Option Int
  memory : Option Int
  net : Option (List String)
  deriving DecidableEq, Repr

/-- `canonNet`: the JSON text of the device array. -/
def canonNet (net : Option (List String)) : Option String :=
  match net with
  | none => none
  | some [] => none
  | some (device :: devices) => some ("[" ++ String.intercalate "," (device :: devices) ++ "]")

def hardwareFinding (vmId : VmId) (vmName field : String) (recorded live : DetailValue) :
    Detected :=
  let before := recorded.toText
  let after := live.toText
  { fingerprint := s!"hw:{vmId}:{field}"
    dimension := .hw
    severity := .medium
    vmId := some vmId
    connectionId := none
    title := s!"Hardware changed on VM \"{vmName}\" ({field})"
    summary := s!"{field} changed out-of-band: {before} -> {after}. If the change was " ++
      "deliberate, adopt to record the new baseline; otherwise revert it in Proxmox."
    detail := [("field", .text field), ("recorded", recorded), ("live", live)] }

/-- `string | null` as a detail value. -/
def DetailValue.ofText? (s : Option String) : DetailValue := (s.map .text).getD .null

/-- The fields `detectHardwareDrift` compares, with both values. -/
def hardwareFields (cores memoryMb : Int) (net : Option String) (liveCores liveMemory : Int)
    (liveNet : Option String) : List (String × DetailValue × DetailValue) :=
  [("cores", .number cores, .number liveCores),
    ("memoryMb", .number memoryMb, .number liveMemory),
    ("net", .ofText? net, .ofText? liveNet)]

/-- `detectHardwareDrift`: silent as long as there is no baseline. -/
def detectHardwareDrift (vmId : VmId) (vmName : String) (stored : Option HardwareSnapshot)
    (liveCores liveMemory : Int) (liveNet : Option (List String)) : List Detected :=
  match stored with
  | some ⟨some cores, some memoryMb, net⟩ =>
      ((hardwareFields cores memoryMb net liveCores liveMemory (canonNet liveNet)).filter
        fun f => decide (f.2.1.toText ≠ f.2.2.toText)).map fun f =>
          hardwareFinding vmId vmName f.1 f.2.1 f.2.2
  | _ => []

theorem mem_detectHardwareDrift {vmId : VmId} {vmName : String} {stored : Option HardwareSnapshot}
    {liveCores liveMemory : Int} {liveNet : Option (List String)}
    (hd : d ∈ detectHardwareDrift vmId vmName stored liveCores liveMemory liveNet) :
    ∃ field recorded live, d = hardwareFinding vmId vmName field recorded live := by
  unfold detectHardwareDrift at hd
  split at hd
  · obtain ⟨f, -, rfl⟩ := List.mem_map.mp hd
    exact ⟨f.1, f.2.1, f.2.2, rfl⟩
  · cases hd

/-! ## Addresses -/

def presentText (s : Option String) : Option String := s.filter fun text => text ≠ ""

def ipFinding (vm : VmRow) (recorded live : String) : Detected :=
  { fingerprint := s!"ip:{vm.id}"
    dimension := .ip
    severity := .medium
    vmId := some vm.id
    connectionId := none
    title := s!"IP changed on VM \"{vm.name}\""
    summary := s!"The guest agent reports {live} while ProxVM records {recorded}. Re-sync to " ++
      "update the record and Guacamole connection endpoints."
    detail := [("recorded", .text recorded), ("live", .text live)] }

/-- `detectIpDrift`: static addresses are not compared. -/
def detectIpDrift (vm : VmRow) (liveIp : Option String) : List Detected :=
  match presentText vm.ipAddress, presentText liveIp with
  | some recorded, some live =>
      if vm.ipStatic ∨ live = recorded then [] else [ipFinding vm recorded live]
  | _, _ => []

theorem mem_detectIpDrift {liveIp : Option String}
    (hd : d ∈ detectIpDrift vm liveIp) : ∃ recorded live, d = ipFinding vm recorded live := by
  unfold detectIpDrift at hd
  split at hd
  · rename_i recorded live _ _
    split at hd
    · cases hd
    · exact ⟨recorded, live, List.mem_singleton.mp hd⟩
  · cases hd

/-! ## Guacamole connections -/

/-- A row of `guacamole_connections`, the columns the drift code reads. -/
structure GuacConnectionRow where
  id : ConnectionId
  vmId : VmId
  guacConnectionName : String
  deriving DecidableEq, Repr

def orphanFinding (conn : GuacConnectionRow) : Detected :=
  { fingerprint := s!"guac:{conn.id}"
    dimension := .guac
    severity := .low
    vmId := some conn.vmId
    connectionId := some conn.id
    title := s!"Orphaned Guacamole connection \"{conn.guacConnectionName}\""
    summary := "This connection record points at a VM that no longer exists in ProxVM (deleted " ++
      "or decommissioned). Delete it to clean up the real Guacamole database entry."
    detail := [("connectionRecordId", .number conn.id),
      ("guacConnectionName", .text conn.guacConnectionName)] }

def detectOrphanGuac (connections : List GuacConnectionRow) (knownVmIds : List VmId) :
    List Detected :=
  (connections.filter fun conn => decide (conn.vmId ∉ knownVmIds)).map orphanFinding

theorem mem_detectOrphanGuac {connections : List GuacConnectionRow} {known : List VmId} : d ∈ detectOrphanGuac connections known ↔
      ∃ conn ∈ connections, conn.vmId ∉ known ∧ d = orphanFinding conn := by
  simp only [detectOrphanGuac, List.mem_map, List.mem_filter, decide_eq_true_eq]
  constructor
  · rintro ⟨conn, ⟨hconn, horphan⟩, rfl⟩
    exact ⟨conn, hconn, horphan, rfl⟩
  · rintro ⟨conn, hconn, horphan, rfl⟩
    exact ⟨conn, ⟨hconn, horphan⟩, rfl⟩

/-! ## Credentials -/

def credentialFinding (vm : VmRow) (ip username detail : String) : Detected :=
  { fingerprint := s!"credential:{vm.id}"
    dimension := .credential
    severity := .high
    vmId := some vm.id
    connectionId := none
    title := s!"Credential rejected on VM \"{vm.name}\""
    summary := s!"SSH authentication at {ip} was REJECTED for \"{username}\" (not " ++
      "frozen/transport issue): the stored credential no longer works and remote sessions will " ++
      "fail. Rotate the credential, then verify."
    detail := [("mechanism", .text "ssh"), ("host", .text ip),
      ("probeDetail", .text (String.ofList (detail.toList.take 200)))] }

/-! ## Partial views -/

/-- `clusterViewLooksDegraded`: an implausible share of the fleet vanished at once. -/
def clusterViewLooksDegraded (recorded deleted : Nat) : Bool :=
  if recorded < 5 then false else decide (3 ≤ deleted) && decide (recorded ≤ 5 * deleted)

/-- `UnrefinedMap`: for each VM, the dimensions whose check did not complete. -/
abbrev UnrefinedMap := VmId → List DriftDimension

/-- `new Map()`. -/
def UnrefinedMap.empty : UnrefinedMap := fun _ => []

def markUnrefined (map : UnrefinedMap) (vmId : VmId) (dimensions : List DriftDimension) :
    UnrefinedMap :=
  Function.update map vmId (map vmId ++ dimensions)

theorem mem_markUnrefined {map : UnrefinedMap} {vmId v : VmId} {dimensions : List DriftDimension}
    {dim : DriftDimension} : dim ∈ markUnrefined map vmId dimensions v ↔
      dim ∈ map v ∨ (v = vmId ∧ dim ∈ dimensions) := by
  unfold markUnrefined
  rcases eq_or_ne v vmId with rfl | hne
  · simp
  · simp [hne]

end ProxVM
