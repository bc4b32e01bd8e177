import Mathlib.Algebra.GroupWithZero.Nat
import Mathlib.Order.Bounds.Basic
import Mathlib.Algebra.Order.Ring.Rat
import ProxVM.Lib.Solo
import ProxVM.Schedules.Requests

/-!
# Idle shutdown

`reconcileIdleShutdown` of `services/idle.ts`: one pass over the VMs, which shuts
down those of the class `user` that nobody uses.

The pass is run in `record`, where a call may have any outcome, and the log is what it has seen.
-/

namespace ProxVM.Power

open Interaction Context Schedules

/-! ## The policy -/

structure IdlePolicy where
  enabled : Bool
  idleMinutes : ℚ
  cpuThreshold : ℚ
  deriving DecidableEq, Repr

/-- `IdleSignals`, times in milliseconds. -/
structure IdleSignals where
  powerOn : Bool
  activeSessions : Nat
  avgCpu : Option ℚ
  lastActivityMs : Option Int
  deriving DecidableEq, Repr

structure Verdict where
  shutdown : Bool
  reason : String
  deriving DecidableEq, Repr

/-- `shouldAutoShutdown`; `toFixed` prints a number with one decimal. -/
def shouldAutoShutdown (toFixed : ℚ → String) (signals : IdleSignals) (policy : IdlePolicy)
    (nowMs : Int) : Verdict :=
  if signals.powerOn = false then ⟨false, "already stopped"⟩
  else if 0 < signals.activeSessions then ⟨false, s!"{signals.activeSessions} session(s) active"⟩
  else
    match signals.avgCpu with
    | none => ⟨false, "cpu unreadable"⟩
    | some avgCpu =>
        if policy.cpuThreshold < avgCpu then ⟨false, s!"cpu {toFixed (avgCpu * 100)}% above threshold"⟩
        else
          match signals.lastActivityMs with
          | none => ⟨false, "never used (no session history)"⟩
          | some lastActivityMs =>
              let idleMs : ℚ := nowMs - lastActivityMs
              if idleMs < policy.idleMinutes * 60 * 1000 then
                ⟨false, s!"active {(idleMs / 60000 + 1 / 2).floor}m ago"⟩
              else
                ⟨true, s!"idle {toFixed (idleMs / 3600000)}h, cpu {toFixed (avgCpu * 100)}%"⟩

def averageCpu (points : List (Option ℚ)) (windowMinutes : ℚ) : Option ℚ :=
  let take := max 1 (min (points.length : Int) (windowMinutes / 5).ceil)
  let values := (points.drop (points.length - take.toNat)).reduceOption
  if values = [] then none else some (values.foldl (· + ·) 0 / values.length)

/-! ## Calls -/

structure IdleVm where
  id : VmId
  name : String
  node : String
  vmid : Nat
  vmClass : VmClass
  deriving DecidableEq, Repr

inductive IdleCall
  | getProxmoxClient
  | getGuacDb
  | list
  | qemuStatus (node : String) (vmid : Nat)
  | listConnectionRecords (vmId : VmId)
  | countActiveSessions (connectionName : String)
  | lastSessionEnd (connectionName : String)
  | rrddata (node : String) (vmid : Nat)
  | shutdown (node : String) (vmid : Nat)
  | waitForTask (node upid : String)
  | updateStopped (vmId : VmId)
  | record (vmId : VmId) (reason : String) (idleMinutes : ℚ)
  deriving DecidableEq

/-- The type of the reply: the status of a VM, the names of its connections, a number of sessions,
the end of the last one, the load at each point if it is a finite number, the id of a task. -/
@[reducible] def IdleCall.Reply : IdleCall → Type
  | .list => List IdleVm
  | .qemuStatus _ _ => Option String
  | .listConnectionRecords _ => List String
  | .countActiveSessions _ => Nat
  | .lastSessionEnd _ => Option Int
  | .rrddata _ _ => List (Option ℚ)
  | .shutdown _ _ => String
  | _ => Unit

@[reducible] def idleCalls : Signature := ⟨IdleCall, IdleCall.Reply⟩

abbrev IdleTask (α : Type) := Prog idleCalls String α

def askIdle (c : IdleCall) : IdleTask c.Reply := Prog.perform (F := idleCalls) c

/-! ## The pass -/

def isRunning (status : Option String) : Bool := (status.getD "").map Char.toLower == "running"

def recentAvgCpu (node : String) (vmid : Nat) (windowMinutes : ℚ) : IdleTask (Option ℚ) :=
  Prog.tryCatch (do
    let points : List (Option ℚ) ← askIdle (.rrddata node vmid)
    pure (averageCpu points windowMinutes)) fun _ => pure none

def later (lastActivityMs : Option Int) (sessionEnd : Option Int) : Option Int :=
  match sessionEnd with
  | none => lastActivityMs
  | some e =>
      match lastActivityMs with
      | none => some e
      | some last => if last < e then some e else some last

def gatherConnection (seen : Nat × Option Int) (connectionName : String) : IdleTask (Nat × Option Int) := do
  let active : Nat ← askIdle (.countActiveSessions connectionName)
  let sessionEnd : Option Int ← askIdle (.lastSessionEnd connectionName)
  pure (seen.1 + active, later seen.2 sessionEnd)

def gatherSessions (guacDb : Bool) (vmId : VmId) : IdleTask (Nat × Option Int) :=
  if guacDb then do
    let records : List String ← askIdle (.listConnectionRecords vmId)
    records.foldlM gatherConnection (0, none)
  else pure (0, none)

def gatherCpu (powerOn : Bool) (vm : IdleVm) (policy : IdlePolicy) : IdleTask (Option ℚ) :=
  if powerOn then recentAvgCpu vm.node vm.vmid policy.idleMinutes else pure none

def awaitShutdown (node upid : String) : IdleTask Unit :=
  if upid = "" then pure () else askIdle (.waitForTask node upid)

structure IdleOutcome where
  vmId : VmId
  name : String
  shutdown : Bool
  reason : String
  deriving DecidableEq, Repr

section pass

variable (toFixed : ℚ → String) (policy : IdlePolicy) (nowMs : Int)

def actOn (vm : IdleVm) (verdict : Verdict) : IdleTask IdleOutcome :=
  if verdict.shutdown = false then pure ⟨vm.id, vm.name, false, verdict.reason⟩
  else do
    let upid : String ← askIdle (.shutdown vm.node vm.vmid)
    awaitShutdown vm.node upid
    askIdle (.updateStopped vm.id)
    askIdle (.record vm.id verdict.reason policy.idleMinutes)
    pure ⟨vm.id, vm.name, true, verdict.reason⟩

def checkVm (guacDb : Bool) (vm : IdleVm) : IdleTask IdleOutcome := do
  let status : Option String ← askIdle (.qemuStatus vm.node vm.vmid)
  let sessions ← gatherSessions guacDb vm.id
  let avgCpu ← gatherCpu (isRunning status) vm policy
  actOn policy vm (shouldAutoShutdown toFixed ⟨isRunning status, sessions.1, avgCpu, sessions.2⟩ policy nowMs)

def reconcileVm (guacDb : Bool) (outcomes : List IdleOutcome) (vm : IdleVm) : IdleTask (List IdleOutcome) :=
  if vm.vmClass ≠ .user then pure outcomes
  else do
    let outcome ← Prog.tryCatch (checkVm toFixed policy nowMs guacDb vm)
      fun _ => pure ⟨vm.id, vm.name, false, "check failed"⟩
    pure (outcomes ++ [outcome])

def reached (c : IdleCall) : IdleTask Bool :=
  Prog.tryCatch (askIdle c >>= fun _ => pure true) fun _ => pure false

def reconcileIdleShutdown : IdleTask (List IdleOutcome) :=
  if policy.enabled = false then pure []
  else do
    let proxmox ← reached .getProxmoxClient
    if proxmox = false then pure []
    else do
      let guacDb ← reached .getGuacDb
      let vms : List IdleVm ← askIdle .list
      vms.foldlM (reconcileVm toFixed policy nowMs guacDb) []

end pass

/-! ## The decider -/

theorem shouldAutoShutdown_shutdown {toFixed : ℚ → String} {signals : IdleSignals} {policy : IdlePolicy}
    {nowMs : Int} (hshutdown : (shouldAutoShutdown toFixed signals policy nowMs).shutdown = true) :
    signals.powerOn = true ∧ signals.activeSessions = 0 ∧
      (∃ average, signals.avgCpu = some average ∧ average ≤ policy.cpuThreshold) ∧
      ∃ last : Int, signals.lastActivityMs = some last ∧ policy.idleMinutes * 60 * 1000 ≤ nowMs - last := by
  unfold shouldAutoShutdown at hshutdown
  split at hshutdown
  · cases hshutdown
  · next hon =>
      split at hshutdown
      · cases hshutdown
      · next hactive =>
          split at hshutdown
          · cases hshutdown
          · next average hcpu =>
              split at hshutdown
              · cases hshutdown
              · next hload =>
                  split at hshutdown
                  · cases hshutdown
                  · next last hlast =>
                      simp only at hshutdown
                      split at hshutdown
                      · cases hshutdown
                      · next hidle =>
                          exact ⟨Bool.eq_true_of_not_eq_false hon, by omega,
                            ⟨average, hcpu, not_lt.mp hload⟩, last, hlast, not_lt.mp hidle⟩

variable {lastActivityMs sessionEnd : Option Int} {last : Int}

theorem le_later {t : Int}
    (ht : lastActivityMs = some t ∨ sessionEnd = some t) : ∃ last, later lastActivityMs sessionEnd = some last ∧ t ≤ last := by
  unfold later
  cases sessionEnd with
  | none => exact ⟨t, ht.resolve_right nofun, le_rfl⟩
  | some e =>
      cases lastActivityMs with
      | none => exact ⟨e, rfl, (Option.some.inj (ht.resolve_left nofun)).ge⟩
      | some l =>
          simp only [Option.some.injEq] at ht
          by_cases hlt : l < e
          · exact ⟨e, if_pos hlt, by omega⟩
          · exact ⟨l, if_neg hlt, by omega⟩

theorem later_eq_some
    (hlast : later lastActivityMs sessionEnd = some last) : lastActivityMs = some last ∨ sessionEnd = some last := by
  unfold later at hlast
  cases sessionEnd with
  | none => exact .inl hlast
  | some e =>
      cases lastActivityMs with
      | none => exact .inr hlast
      | some l =>
          by_cases hlt : l < e
          · exact .inr ((if_pos hlt).symm.trans hlast)
          · exact .inl ((if_neg hlt).symm.trans hlast)

theorem isGreatest_foldl_later (ends : List (Option Int)) {start : Option Int}
    (hlast : ends.foldl later start = some last) : IsGreatest {t | start = some t ∨ some t ∈ ends} last := by
  induction ends generalizing start with
  | nil =>
      refine ⟨.inl hlast, fun t ht => ?_⟩
      have hstart : start = some t := ht.resolve_right List.not_mem_nil
      exact (Option.some.inj (hstart.symm.trans hlast)).le
  | cons e ends ih =>
      obtain ⟨hmem, hmax⟩ := ih hlast
      constructor
      · obtain hfirst | hrest := hmem
        · obtain hstart | rfl := later_eq_some hfirst
          · exact .inl hstart
          · exact .inr List.mem_cons_self
        · exact .inr (List.mem_cons_of_mem _ hrest)
      · intro t ht
        have hcases : (start = some t ∨ e = some t) ∨ some t ∈ ends := by
          obtain hstart | hmem := ht
          · exact .inl (.inl hstart)
          · obtain heq | hrest := List.mem_cons.mp hmem
            · exact .inl (.inr heq.symm)
            · exact .inr hrest
        obtain hfirst | hrest := hcases
        · obtain ⟨l, hl, hle⟩ := le_later hfirst
          exact hle.trans (hmax (.inl hl))
        · exact hmax (.inr hrest)

/-! ## What a pass has seen -/

abbrev IdleLog : Type := Log idleCalls String

/-- The answers of the Guacamole database on the connections of a VM: for each its name, the number
of sessions and the end of the last. -/
def sessionLog : List (String × Nat × Option Int) → IdleLog
  | [] => []
  | (name, active, sessionEnd) :: rest =>
      sessionLog rest ++ [⟨.lastSessionEnd name, .ok sessionEnd⟩, ⟨.countActiveSessions name, .ok active⟩]

/-- The last calls of the log are those of a round of the VM, all of them were answered, and all the
answers speak for a shutdown. -/
def Idle (policy : IdlePolicy) (nowMs : Int) (vm : IdleVm) (log : IdleLog) : Prop :=
  ∃ status sessions points earlier,
    log = ⟨.rrddata vm.node vm.vmid, .ok points⟩ :: (sessionLog sessions ++
      ⟨.listConnectionRecords vm.id, .ok (sessions.map Prod.fst)⟩ ::
        ⟨.qemuStatus vm.node vm.vmid, .ok status⟩ :: earlier) ∧
    ⟨.getGuacDb, .ok ()⟩ ∈ earlier ∧
    isRunning status = true ∧
    (∀ s ∈ sessions, s.2.1 = 0) ∧
    (∃ average, averageCpu points policy.idleMinutes = some average ∧ average ≤ policy.cpuThreshold) ∧
    ∃ last : Int, IsGreatest {t | ∃ s ∈ sessions, s.2.2 = some t} last ∧
      policy.idleMinutes * 60 * 1000 ≤ nowMs - last

def Justified (policy : IdlePolicy) (nowMs : Int) : IdleCall → IdleLog → Prop
  | .shutdown node vmid, log => policy.enabled = true ∧ ∃ vms, ⟨.list, .ok vms⟩ ∈ log ∧
      ∃ vm ∈ vms, vm.node = node ∧ vm.vmid = vmid ∧ vm.vmClass = .user ∧ Idle policy nowMs vm log
  | _, _ => True

section round

variable {toFixed : ℚ → String} {policy : IdlePolicy} {nowMs : Int} {log : IdleLog} {vm : IdleVm}

abbrev owing (policy : IdlePolicy) (nowMs : Int) : Context idleCalls String IdleLog :=
  aloneOwing record (Justified policy nowMs)

theorem holds_gatherConnections (names : List String) (seen : Nat × Option Int) :
    (owing policy nowMs).holds (names.foldlM gatherConnection seen) (fun r log' => ∀ seen', r = .ok seen' →
      ∃ sessions, sessions.map Prod.fst = names ∧ log' = sessionLog sessions ++ log ∧
        seen'.1 = seen.1 + (sessions.map fun s => s.2.1).sum ∧
        seen'.2 = (sessions.map fun s => s.2.2).foldl later seen.2) log := by
  induction names generalizing seen log with
  | nil =>
      rintro seen' ⟨⟩
      exact ⟨[], rfl, rfl, rfl, rfl⟩
  | cons name names ih =>
      rw [List.foldlM_cons, holds_bind]
      refine holds_record_bind trivial (fun active => ?_) fun e => nofun
      refine holds_record_bind trivial (fun sessionEnd => ?_) fun e => nofun
      show (owing policy nowMs).holds (names.foldlM gatherConnection (seen.1 + active, later seen.2 sessionEnd)) _ _
      refine holds_mono (ih (seen.1 + active, later seen.2 sessionEnd)) fun r log' hr seen' hseen' => ?_
      obtain ⟨sessions, hnames, hlog, hactive, hend⟩ := hr seen' hseen'
      refine ⟨(name, active, sessionEnd) :: sessions, ?_, ?_, ?_, ?_⟩
      · rw [List.map_cons, hnames]
      · rw [hlog, sessionLog, List.append_assoc]
        rfl
      · rw [hactive, List.map_cons, List.sum_cons, Nat.add_assoc]
      · exact hend

theorem holds_gatherSessions (guacDb : Bool) (vmId : VmId) :
    (owing policy nowMs).holds (gatherSessions guacDb vmId) (fun r log' => ∀ seen, r = .ok seen → ∀ last, seen.2 = some last →
      guacDb = true ∧ ∃ sessions, log' = sessionLog sessions ++
          ⟨.listConnectionRecords vmId, .ok (sessions.map Prod.fst)⟩ :: log ∧
        seen.1 = (sessions.map fun s => s.2.1).sum ∧
        IsGreatest {t | ∃ s ∈ sessions, s.2.2 = some t} last) log := by
  unfold gatherSessions
  cases guacDb with
  | false =>
      rintro seen ⟨⟩ last hlast
      cases hlast
  | true =>
      refine holds_record_bind trivial (fun names => ?_) fun e => nofun
      refine holds_mono (holds_gatherConnections names (0, none)) fun r log' hr seen hseen last hlast => ?_
      obtain ⟨sessions, hnames, hlog, hactive, hend⟩ := hr seen hseen
      refine ⟨rfl, sessions, ?_, ?_, ?_⟩
      · rw [hnames]
        exact hlog
      · rw [hactive, Nat.zero_add]
      · have hgreatest := isGreatest_foldl_later _ (hend.symm.trans hlast)
        simpa using hgreatest

theorem holds_gatherCpu (powerOn : Bool) (vm : IdleVm) :
    (owing policy nowMs).holds (gatherCpu powerOn vm policy) (fun r log' => (∃ avgCpu, r = .ok avgCpu) ∧
      ∀ average, r = .ok (some average) → ∃ points, averageCpu points policy.idleMinutes = some average ∧
        log' = ⟨.rrddata vm.node vm.vmid, .ok points⟩ :: log) log := by
  unfold gatherCpu
  cases powerOn with
  | false => exact ⟨⟨none, rfl⟩, nofun⟩
  | true =>
      refine holds_tryCatch.mpr ?_
      refine holds_record_bind trivial (fun points => ?_) fun e => ⟨⟨none, rfl⟩, nofun⟩
      refine ⟨⟨_, rfl⟩, fun average haverage => ⟨points, ?_, rfl⟩⟩
      exact Except.ok.inj haverage

theorem holds_actOn {verdict : Verdict}
    (hjustified : verdict.shutdown = true → Justified policy nowMs (.shutdown vm.node vm.vmid) log) :
    (owing policy nowMs).holds (actOn policy vm verdict) (fun _ _ => True) log := by
  unfold actOn
  split
  · trivial
  · next hshutdown =>
      refine holds_record_bind (hjustified (Bool.eq_true_of_not_eq_false hshutdown)) (fun upid => ?_) fun _ => trivial
      refine holds_bind_of (I := fun _ => True) ?_ (fun _ log' _ => ?_) fun _ _ _ => trivial
      · unfold awaitShutdown
        split
        · trivial
        · exact holds_aloneOwing_perform.mpr ⟨trivial, fun _ _ _ => trivial⟩
      · refine holds_record_bind trivial (fun _ => ?_) fun _ => trivial
        exact holds_record_bind trivial (fun _ => trivial) fun _ => trivial

theorem holds_checkVm {guacDb : Bool} {vms : List IdleVm} (henabled : policy.enabled = true)
    (hlist : ⟨.list, .ok vms⟩ ∈ log) (hguac : guacDb = true → ⟨.getGuacDb, .ok ()⟩ ∈ log)
    (hvm : vm ∈ vms) (hclass : vm.vmClass = .user) :
    (owing policy nowMs).holds (checkVm toFixed policy nowMs guacDb vm) (fun _ _ => True) log := by
  refine holds_record_bind trivial (fun status => ?_) fun _ => trivial
  rw [holds_bind]
  refine holds_mono (holds_gatherSessions guacDb vm.id) fun r log₁ hsessions => ?_
  cases r with
  | error e => trivial
  | ok seen =>
      show (owing policy nowMs).holds (gatherCpu (isRunning status) vm policy >>= _) _ _
      rw [holds_bind]
      refine holds_mono (holds_gatherCpu (isRunning status) vm) fun r log₂ hcpu => ?_
      obtain ⟨⟨avgCpu, rfl⟩, hcpu⟩ := hcpu
      refine holds_actOn fun hshutdown => ?_
      obtain ⟨hrunning, hactive, ⟨average, haverage, hload⟩, last, hlast, hidle⟩ :=
        shouldAutoShutdown_shutdown hshutdown
      simp only at hrunning hactive haverage hlast
      obtain ⟨rfl, sessions, hlog₁, hsum, hgreatest⟩ := hsessions seen rfl last hlast
      obtain ⟨points, hpoints, hlog₂⟩ := hcpu average (by rw [haverage])
      have hnone : ∀ s ∈ sessions, s.2.1 = 0 := by
        rw [hsum, List.sum_eq_zero_iff_forall_eq_nat] at hactive
        exact fun s hs => hactive _ (List.mem_map_of_mem hs)
      refine ⟨henabled, vms, ?_, vm, hvm, rfl, rfl, hclass, status, sessions, points, log, ?_, hguac rfl, hrunning,
        hnone, ⟨average, hpoints, hload⟩, last, hgreatest, hidle⟩
      · rw [hlog₂, hlog₁]
        simp [hlist]
      · rw [hlog₂, hlog₁]

theorem holds_reached (c : IdleCall) (hjustified : Justified policy nowMs c log) :
    (owing policy nowMs).holds (reached c) (fun r log' => ∃ b reply, r = .ok b ∧ log' = ⟨c, reply⟩ :: log ∧
      (b = true → ∃ a, reply = .ok a)) log := by
  refine holds_tryCatch.mpr ?_
  exact holds_record_bind hjustified (fun a => ⟨true, .ok a, rfl, rfl, fun _ => ⟨a, rfl⟩⟩)
    fun e => ⟨false, .error e, rfl, rfl, nofun⟩

def Answered (vms : List IdleVm) (guacDb : Bool) (log : IdleLog) : Prop :=
  ⟨.list, .ok vms⟩ ∈ log ∧ (guacDb = true → ⟨.getGuacDb, .ok ()⟩ ∈ log)

theorem holds_reconcileVm {guacDb : Bool} {vms : List IdleVm} (outcomes : List IdleOutcome)
    (henabled : policy.enabled = true) (hanswered : Answered vms guacDb log) (hvm : vm ∈ vms) :
    (owing policy nowMs).holds (reconcileVm toFixed policy nowMs guacDb outcomes vm)
      (fun _ log' => Answered vms guacDb log') log := by
  have hkeep : ∀ (c : IdleCall) (log : IdleLog) (r : Except String c.Reply) (log' : IdleLog),
      Answered vms guacDb log → record c log r log' → Answered vms guacDb log' := by
    rintro c log r _ hanswered rfl
    exact ⟨List.mem_cons_of_mem _ hanswered.1, fun htrue => List.mem_cons_of_mem _ (hanswered.2 htrue)⟩
  unfold reconcileVm
  split
  · exact hanswered
  · next hclass =>
      have hround := @holds_checkVm toFixed policy nowMs log vm guacDb vms henabled hanswered.1 hanswered.2 hvm
        (not_not.mp hclass)
      rw [holds_bind, holds_tryCatch]
      refine holds_mono (holds_aloneOwing_keeping hkeep hround hanswered) fun r log' hkept => ?_
      cases r with
      | ok outcome => exact hkept.2
      | error e => exact hkept.2

theorem holds_reconcileIdleShutdown :
    (owing policy nowMs).holds (reconcileIdleShutdown toFixed policy nowMs) (fun _ _ => True) log := by
  unfold reconcileIdleShutdown
  split
  · trivial
  · next henabled =>
      have henabled : policy.enabled = true := Bool.eq_true_of_not_eq_false henabled
      rw [holds_bind]
      refine holds_mono (holds_reached .getProxmoxClient trivial) fun r log₁ hproxmox => ?_
      obtain ⟨b, -, rfl, -⟩ := hproxmox
      simp only
      split
      · trivial
      · rw [holds_bind]
        refine holds_mono (holds_reached .getGuacDb trivial) fun r log₂ hguac => ?_
        obtain ⟨guacDb, reply, rfl, hlog₂, hreply⟩ := hguac
        refine holds_record_bind trivial (fun vms => ?_) fun _ => trivial
        have hguac : guacDb = true → ⟨.getGuacDb, .ok ()⟩ ∈ log₂ := by
          intro htrue
          obtain ⟨a, rfl⟩ := hreply htrue
          rw [hlog₂]
          exact List.mem_cons_self
        show (owing policy nowMs).holds (vms.foldlM (reconcileVm toFixed policy nowMs guacDb) []) _ _
        refine holds_foldlM (I := fun _ log => Answered vms guacDb log) (fun outcomes vm hvm log₃ hanswered => ?_)
          (fun _ _ _ => trivial) ⟨List.mem_cons_self, fun htrue => List.mem_cons_of_mem _ (hguac htrue)⟩
        refine holds_mono (holds_reconcileVm outcomes henabled hanswered hvm) fun r log₄ hkept => ?_
        cases r with
        | ok _ => exact hkept
        | error _ => trivial

end round

/-- **Idle shutdown needs positive evidence.**  Whatever the calls of a pass come to, it shuts a VM
down only if the policy is enabled, the VM was listed with the class `user`, and the calls it made last
are those of a round of this VM, all answered: running, no session on any connection, the load known and
at most the threshold, the last session over for long enough. -/
theorem shutdown_justified (toFixed : ℚ → String) (policy : IdlePolicy) (nowMs : Int) (node : String)
    (vmid : Nat) (log : IdleLog)
    (hmakes : Makes record (reconcileIdleShutdown toFixed policy nowMs) [] (.shutdown node vmid) log) :
    policy.enabled = true ∧ ∃ vms, ⟨.list, .ok vms⟩ ∈ log ∧
      ∃ vm ∈ vms, vm.node = node ∧ vm.vmid = vmid ∧ vm.vmClass = .user ∧ Idle policy nowMs vm log :=
  hmakes.owes holds_reconcileIdleShutdown

/-! ## A run -/

def sampleVm : IdleVm := ⟨30, "desk", "pve1", 130, .user⟩

def samplePolicy : IdlePolicy := ⟨true, 120, 1 / 20⟩

def sampleReply : (c : IdleCall) → c.Reply
  | .list => [sampleVm]
  | .qemuStatus _ _ => some "running"
  | .listConnectionRecords _ => ["desk-rdp"]
  | .countActiveSessions _ => (0 : Nat)
  | .lastSessionEnd _ => some 1000000
  | .rrddata _ _ => [none, some (1 / 100)]
  | .shutdown _ _ => "UPID:1"
  | .getProxmoxClient => ()
  | .getGuacDb => ()
  | .waitForTask _ _ => ()
  | .updateStopped _ => ()
  | .record _ _ _ => ()

def sampleAnswer (c : IdleCall) (log : IdleLog) : Option (Except String c.Reply × IdleLog) :=
  some (.ok (sampleReply c), ⟨c, .ok (sampleReply c)⟩ :: log)

def sampleRun : IdleTask (List IdleOutcome) × IdleLog :=
  drive sampleAnswer 8 (reconcileIdleShutdown (fun _ => "0.0") samplePolicy 11800000, [])

theorem shutdown_justified_sample : ∃ vm : IdleVm, vm.vmClass = .user ∧ Idle samplePolicy 11800000 vm sampleRun.2 := by
  have hpending : sampleRun.1.pending? = some (.shutdown "pve1" 130) := by decide +kernel
  have hmakes : Makes record (reconcileIdleShutdown (fun _ => "0.0") samplePolicy 11800000) []
      (.shutdown "pve1" 130) sampleRun.2 := by
    have hserve : ∀ c log r log', sampleAnswer c log = some (r, log') → record c log r log' := by
      intro c log r log' h
      cases h
      rfl
    exact @makes_of_pending idleCalls String IdleLog _ sampleAnswer record hserve 8 _ _ _ hpending
  obtain ⟨-, vms, -, vm, -, -, -, hclass, hidle⟩ :=
    shutdown_justified (fun _ => "0.0") samplePolicy 11800000 "pve1" 130 sampleRun.2 hmakes
  exact ⟨vm, hclass, hidle⟩

end ProxVM.Power
