import ProxVM.Drift.Persistence
import ProxVM.Provisioning.GuestConfig

/-!
# A drift pass

`runDriftPass` of `services/drift.ts`: read the cluster, the records and the active
jobs, check each VM that has none, look for orphaned connections and persist the
outcome.

The checks of one VM are a `try` block whose statements push findings and marks as
they go.  A throw ends the block but keeps what was pushed, so the block is a
sequence of `Check`s, each of which either extends the state of the pass or stops
the block with the three per-VM dimensions marked.
-/

namespace ProxVM

open Interaction

structure DriftPassResult where
  created : Nat
  updated : Nat
  resolved : Nat
  exempted : Nat
  liveChecked : Bool
  newFingerprints : List String
  skipped : Option SkipReason
  deriving DecidableEq, Repr

def credentialProbeCooldownMs : Nat := 24 * 60 * 60 * 1000

def maxCredentialProbesPerPass : Nat := 10

/-! ## The credential probe -/

structure ProbeOutcome where
  findings : List Detected
  conclusive : Bool
  deriving DecidableEq, Repr

def probeTarget (ip username password : String) : SshTarget :=
  { host := some ip, port := 22, username, password }

/-- The `try` block of `probeCredential`. -/
def probeWith (vm : VmRow) (ip : String) (now : Time) (cred : CredentialRow) :
    DriftTask ProbeOutcome := do
  let password : String ← askDrift (.base (.decrypt cred.passwordCiphertext))
  askDrift (.hostKeysPolicy vm.id ip 22)
  let result : SshProbe ← askDrift (.probeSsh (probeTarget ip cred.username password))
  match result.status with
  | .authenticated => do
      askDrift (.base (.credsMarkVerified vm.id))
      askDrift (.upsertVmState vm.id (.probe now (some now)))
      pure ⟨[], true⟩
  | .authFailed => do
      askDrift (.upsertVmState vm.id (.probe now none))
      pure ⟨[credentialFinding vm ip cred.username result.detail], true⟩
  | .connectionFailed => do
      askDrift (.upsertVmState vm.id (.probe now none))
      pure ⟨[], false⟩

/-- The `catch` block of `probeCredential`. -/
def probeFailed (vm : VmRow) (now : Time) : DriftTask ProbeOutcome := do
  Prog.tryCatch (askDrift (.upsertVmState vm.id (.probe now none))) fun _ => pure ()
  pure ⟨[], false⟩

def probeCredential (vm : VmRow) (ip : String) (now : Time) : DriftTask ProbeOutcome := do
  let cred : Option CredentialRow ← askDrift (.credsFindByVm vm.id)
  match cred with
  | none => pure ⟨[], true⟩
  | some cred => (probeWith vm ip now cred).tryCatch fun _ => probeFailed vm now

/-! ## The checks of one VM -/

structure PassState where
  detected : List Detected
  unrefined : UnrefinedMap
  probed : List VmId

def perVmDimensions : List DriftDimension := [.hw, .ip, .credential]

namespace PassState

/-- `detected.push(...findings)`. -/
def push (st : PassState) (findings : List Detected) : PassState :=
  { st with detected := st.detected ++ findings }

/-- `markUnrefined(unrefined, vmId, ...dimensions)`. -/
def mark (st : PassState) (vmId : VmId) (dimensions : List DriftDimension) : PassState :=
  { st with unrefined := markUnrefined st.unrefined vmId dimensions }

@[simp] theorem push_detected (st : PassState) (findings : List Detected) :
    (st.push findings).detected = st.detected ++ findings := rfl

end PassState

structure Check where
  state : PassState
  stopped : Bool

/-- The next statement of the `try` block around the checks of one VM. -/
def Check.step (vmId : VmId) (p : PassState → DriftTask PassState) (ck : Check) : DriftTask Check :=
  if ck.stopped then
    pure ck
  else
    Prog.tryCatch (do
      let st ← p ck.state
      pure ⟨st, false⟩) fun _ => pure ⟨ck.state.mark vmId perVmDimensions, true⟩

def VmStateRow.snapshot (row : VmStateRow) : HardwareSnapshot := ⟨row.cores, row.memoryMb, row.netJson⟩

def checkHardware (now : Time) (vm : VmRow) (lr : DriftLiveResource) (st : PassState) :
    DriftTask PassState := do
  askDrift (.base .getProxmoxClient)
  let cfg : HardwareConfig ← askDrift (.qemuConfig lr.node vm.vmid)
  let state : Option VmStateRow ← askDrift (.getVmState vm.id)
  match cfg.usable with
  | none => pure (st.mark vm.id [.hw])
  | some (cores, memory) =>
      let findings :=
        detectHardwareDrift vm.id vm.name (state.map VmStateRow.snapshot) cores memory cfg.net
      if findings = [] then do
        askDrift (.upsertVmState vm.id (.hardware cores memory (canonNet cfg.net) now))
        pure st
      else
        pure (st.push findings)

def bothRunning (vm : VmRow) (lr : DriftLiveResource) : Bool :=
  decide (vm.status = .running) && decide (lr.status = "running")

def checkIp (vm : VmRow) (lr : DriftLiveResource) (st : PassState) : DriftTask PassState :=
  if bothRunning vm lr then do
    askDrift (.base .getProxmoxClient)
    let agent : Option AgentInfo ← askDrift (.base (.proxmoxGuestIpAddresses lr.node vm.vmid))
    match presentText (agent.bind fun info => selectUsableIpv4 info.ipv4s) with
    | some liveIp => pure (st.push (detectIpDrift vm (some liveIp)))
    | none => pure (st.mark vm.id [.ip])
  else
    pure (st.mark vm.id [.ip])

def probeAddress (vm : VmRow) (lr : DriftLiveResource) : Option String :=
  if bothRunning vm lr ∧ vm.osType = some .linux then presentText vm.ipAddress else none

def probeDue (now : Time) (state : Option VmStateRow) : Bool :=
  decide (((state.bind VmStateRow.lastProbeAt).getD 0) + credentialProbeCooldownMs ≤ now)

def admitProbe (now : Time) (vm : VmRow) (lr : DriftLiveResource) (st : PassState) :
    DriftTask PassState :=
  match probeAddress vm lr with
  | none => pure (st.mark vm.id [.credential])
  | some _ => do
      let state : Option VmStateRow ← askDrift (.getVmState vm.id)
      if probeDue now state ∧ st.probed.length < maxCredentialProbesPerPass then
        pure { st with probed := vm.id :: st.probed }
      else
        pure (st.mark vm.id [.credential])

def checkCredential (now : Time) (vm : VmRow) (lr : DriftLiveResource) (st : PassState) :
    DriftTask PassState :=
  match probeAddress vm lr with
  | none => pure st
  | some ip =>
      if vm.id ∈ st.probed then do
        let outcome ← probeCredential vm ip now
        if outcome.conclusive then
          pure (st.push outcome.findings)
        else
          pure ((st.push outcome.findings).mark vm.id [.credential])
      else
        pure st

def checkVm (now : Time) (resources : List DriftLiveResource) (st : PassState) (vm : VmRow) :
    DriftTask PassState :=
  match findLive resources vm.vmid with
  | none => pure (st.mark vm.id perVmDimensions)
  | some lr => do
      let ck ← Check.step vm.id (checkHardware now vm lr) ⟨st, false⟩
      let ck ← Check.step vm.id (checkIp vm lr) ck
      let ck ← Check.step vm.id (admitProbe now vm lr) ck
      let ck ← Check.step vm.id (checkCredential now vm lr) ck
      pure ck.state

/-! ## The pass -/

/-- What a pass knows before the per-VM checks: the name and node comparisons, and the
missing guests unless the view looks partial. -/
def initialPass (active : List VmRow) (raw : List ProxmoxQemuResource) : PassState :=
  let config := detectConfigDrift active (findableResources raw)
  let deleted := detectDeletedVms active (allQemuResources raw)
  if clusterViewLooksDegraded active.length deleted.length then
    { detected := config
      unrefined := active.foldl (fun map vm => markUnrefined map vm.id perVmDimensions) .empty
      probed := [] }
  else
    { detected := config ++ deleted, unrefined := .empty, probed := [] }

def skippedResult (reason : SkipReason) : DriftPassResult :=
  { created := 0, updated := 0, resolved := 0, exempted := 0, liveChecked := false,
    newFingerprints := [], skipped := some reason }

/-- `skip`: the reason is persisted, unless the feature is off. -/
def skipPass (now : Time) (reason : SkipReason) : DriftTask DriftPassResult :=
  if reason = .disabled then
    pure (skippedResult reason)
  else do
    askDrift (.settingsSetLastRun
      { time := now, created := 0, updated := 0, resolved := 0, exempted := 0, liveChecked := false,
        skipped := some reason })
    pure (skippedResult reason)

def skipReasonOf (e : Failure) : SkipReason :=
  match e with
  | .app e => if e.code = .configurationError then .unconfigured else .proxmoxDown
  | _ => .proxmoxDown

/-- `(…)?.trim().toLowerCase() === "true"`. -/
def isSwitchedOn (setting : Option String) : Bool :=
  match setting with
  | none => false
  | some text =>
      decide ((((text.toList.dropWhile Char.isWhitespace).reverse.dropWhile
        Char.isWhitespace).reverse.map Char.toLower) = "true".toList)

def readCluster : DriftTask (List ProxmoxQemuResource) := do
  askDrift (.base .getProxmoxClient)
  askDrift .clusterResources

def activeVms (recorded : List VmRow) (exemptIds : List VmId) : List VmRow :=
  recorded.filter fun vm => decide (vm.id ∉ exemptIds)

def finishPass (now : Time) (recorded : List VmRow) (exemptIds : List VmId) (st : PassState) :
    DriftTask DriftPassResult := do
  let connections : List GuacConnectionRow ← askDrift .guacListAllConnectionRecords
  let detected := st.detected ++ detectOrphanGuac connections (recorded.map VmRow.id)
  let counts ← applyFindings detected
    { now, exemptVmIds := exemptIds, unrefined := st.unrefined, resolveStale := true }
  let exempted := recorded.countP fun vm => decide (vm.id ∈ exemptIds)
  askDrift (.settingsSetLastRun
    { time := now, created := counts.created, updated := counts.updated,
      resolved := counts.resolved, exempted, liveChecked := true, skipped := none })
  pure
    { created := counts.created, updated := counts.updated, resolved := counts.resolved,
      exempted, liveChecked := true, newFingerprints := counts.newFingerprints, skipped := none }

def checkFleet (now : Time) (raw : List ProxmoxQemuResource) : DriftTask DriftPassResult := do
  let recorded : List VmRow ← askDrift .vmsList
  let exemptIds : List VmId ← askDrift .jobsActiveJobVmIds
  let active := activeVms recorded exemptIds
  let st ← active.foldlM (checkVm now (findableResources raw)) (initialPass active raw)
  finishPass now recorded exemptIds st

def attempt {α : Type} (p : DriftTask α) : DriftTask (Except Failure α) :=
  Prog.tryCatch (do
    let a ← p
    pure (.ok a)) fun e => pure (.error e)

def runDriftPass (now : Time) : DriftTask DriftPassResult := do
  let setting : Option String ← askDrift .settingsDriftEnabled
  if isSwitchedOn setting then do
    let listing ← attempt readCluster
    match listing with
    | .ok raw => checkFleet now raw
    | .error e => skipPass now (skipReasonOf e)
  else
    skipPass now .disabled

end ProxVM
