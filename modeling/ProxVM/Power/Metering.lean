import ProxVM.Db.Schema
import ProxVM.Lib.Intervals
import ProxVM.Lib.Prompted

/-!
# Power periods

`openPowerPeriod`, `closePowerPeriod` and `reconcileVmPower` of `services/usage.ts`,
called from the routes, and the pass `runMetering` of `app.ts` that reconciles every VM with
what Proxmox reports.

A period is opened by a look for an open one and an INSERT after it, and no index forbids a second open
period of a VM.

A statement is atomic, and it may fail before or after it takes effect.
-/

namespace ProxVM.Power

open Tables Interaction

abbrev PeriodId := Nat

/-- A row of `vm_power_periods`. -/
structure PowerPeriod where
  id : PeriodId
  vmId : VmId
  startedAt : Int
  endedAt : Option Int
  deriving DecidableEq, Repr

structure MeteredVm where
  id : VmId
  name : String
  node : String
  vmid : Nat
  deriving DecidableEq, Repr

structure MeteringWorld where
  now : Int
  vms : List MeteredVm
  periods : Table PowerPeriod.id

/-! ## Calls -/

structure AdminAlert where
  kind : String
  title : String
  body : String
  link : String
  priority : Nat
  deriving DecidableEq, Repr

inductive MeteringCall
  | list
  | getProxmoxClient
  | qemuStatus (node : String) (vmid : Nat)
  | selectLatestOpen (vmId : VmId)
  | selectAnyOpen (vmId : VmId)
  | insertPeriod (vmId : VmId)
  | endPeriods (vmId : VmId)
  | alertAdmins (alert : AdminAlert)
  deriving DecidableEq

@[reducible] def MeteringCall.Reply : MeteringCall → Type
  | .list => List MeteredVm
  | .qemuStatus _ _ => Option String
  | .selectLatestOpen _ => Option PowerPeriod
  | .selectAnyOpen _ => Option PowerPeriod
  | .insertPeriod _ => PowerPeriod
  | .endPeriods _ => Nat
  | _ => Unit

@[reducible] def meteringCalls : Signature := ⟨MeteringCall, MeteringCall.Reply⟩

abbrev MeteringTask (α : Type) := Prog meteringCalls String α

def askMetering (c : MeteringCall) : MeteringTask c.Reply := Prog.perform (F := meteringCalls) c

def isOpen (vmId : VmId) (p : PowerPeriod) : Bool := decide (p.vmId = vmId) && p.endedAt.isNone

namespace MeteringWorld

variable (w : MeteringWorld)

def Unopened (vmId : VmId) : Prop := ∀ p ∈ w.periods, isOpen vmId p = false

def Finds (vmId : VmId) : Option PowerPeriod → Prop
  | none => w.Unopened vmId
  | some p => p ∈ w.periods ∧ isOpen vmId p = true

/-- `UPDATE vm_power_periods SET ended_at = NOW() WHERE vm_id = $1 AND ended_at IS NULL`. -/
def endPeriods (vmId : VmId) : MeteringWorld :=
  { w with
    periods := w.periods.updateWhere (isOpen vmId) (fun p => { p with endedAt := some w.now }) fun _ => rfl }

/-- `INSERT INTO vm_power_periods (id, vm_id) VALUES ($1, $2)`, with a fresh id. -/
def InsertsPeriod (vmId : VmId) (p : PowerPeriod) (w' : MeteringWorld) : Prop :=
  p.vmId = vmId ∧ p.startedAt = w.now ∧ p.endedAt = none ∧
    ∃ periods, w.periods.insert? p = some periods ∧ w' = { w with periods }

end MeteringWorld

def MeteringAnswers : (c : MeteringCall) → MeteringWorld → c.Reply → MeteringWorld → Prop
  | .list, w, vms, w' => vms = w.vms ∧ w' = w
  | .selectLatestOpen vmId, w, found, w' => w.Finds vmId found ∧ w' = w ∧
      ∀ p, found = some p → ∀ q ∈ w.periods, isOpen vmId q = true → q.startedAt ≤ p.startedAt
  | .selectAnyOpen vmId, w, found, w' => w.Finds vmId found ∧ w' = w
  | .insertPeriod vmId, w, p, w' => w.InsertsPeriod vmId p w'
  | .endPeriods vmId, w, n, w' => n = w.periods.rows.countP (isOpen vmId) ∧ w' = w.endPeriods vmId
  | _, w, _, w' => w' = w

def MeteringServes (c : MeteringCall) (w : MeteringWorld) (r : Except String c.Reply) (w' : MeteringWorld) : Prop :=
  match r with
  | .ok reply => MeteringAnswers c w reply w'
  | .error _ => w' = w ∨ ∃ reply, MeteringAnswers c w reply w'

/-! ## Programs -/

def openPowerPeriod (vmId : VmId) : MeteringTask PowerPeriod := do
  let existing : Option PowerPeriod ← askMetering (.selectLatestOpen vmId)
  match existing with
  | some p => pure p
  | none => askMetering (.insertPeriod vmId)

def closePowerPeriod (vmId : VmId) : MeteringTask Nat := askMetering (.endPeriods vmId)

inductive PowerChange
  | opened
  | closed
  | unchanged
  deriving DecidableEq, Repr

def reconcileVmPower (vmId : VmId) (running : Bool) : MeteringTask PowerChange := do
  let found : Option PowerPeriod ← askMetering (.selectAnyOpen vmId)
  if running = true ∧ found = none then do
    let _ ← openPowerPeriod vmId
    pure .opened
  else if running = false ∧ found ≠ none then do
    let _ ← closePowerPeriod vmId
    pure .closed
  else
    pure .unchanged

def transitionAlert (vm : MeteredVm) : PowerChange → Option AdminAlert
  | .closed => some
      { kind := "system", title := s!"VM \"{vm.name}\" stopped"
        body := s!"\"{vm.name}\" (node {vm.node}, vmid {vm.vmid}) is no longer running."
        link := s!"/vms/{vm.id}", priority := 8 }
  | .opened => some
      { kind := "system", title := s!"VM \"{vm.name}\" running (recovered)"
        body := s!"\"{vm.name}\" (node {vm.node}, vmid {vm.vmid}) is running again."
        link := s!"/vms/{vm.id}", priority := 5 }
  | .unchanged => none

def sendAlert : Option AdminAlert → MeteringTask Unit
  | none => pure ()
  | some alert => askMetering (.alertAdmins alert)

def meterVm (vm : MeteredVm) : MeteringTask Unit := do
  let status : Option String ← askMetering (.qemuStatus vm.node vm.vmid)
  let changed ← reconcileVmPower vm.id ((status.getD "").map Char.toLower == "running")
  sendAlert (transitionAlert vm changed)

def runMetering : MeteringTask Unit :=
  Prog.tryCatch (do
    let vms : List MeteredVm ← askMetering .list
    let proxmox ← Prog.tryCatch (askMetering .getProxmoxClient >>= fun _ => pure true) fun _ => pure false
    if proxmox then
      vms.foldlM (fun _ vm => Prog.tryCatch (meterVm vm) fun _ => pure ()) ()
    else pure ()) fun _ => pure ()

/-! ## Side by side -/

inductive MeteringRole
  | openPowerPeriod (vmId : VmId)
  | closePowerPeriod (vmId : VmId)
  | reconcileVmPower (vmId : VmId) (running : Bool)
  | runMetering
  deriving DecidableEq

@[reducible] def MeteringRole.Result : MeteringRole → Type
  | .openPowerPeriod _ => PowerPeriod
  | .closePowerPeriod _ => Nat
  | .reconcileVmPower _ _ => PowerChange
  | .runMetering => Unit

def MeteringRole.prog : (role : MeteringRole) → MeteringTask role.Result
  | .openPowerPeriod vmId => Power.openPowerPeriod vmId
  | .closePowerPeriod vmId => Power.closePowerPeriod vmId
  | .reconcileVmPower vmId running => Power.reconcileVmPower vmId running
  | .runMetering => Power.runMetering

abbrev MeteringThread := Thread meteringCalls String MeteringRole.Result

abbrev MeteringPool := Pool meteringCalls String MeteringWorld MeteringRole.Result

def meteringRules (admits : MeteringPool → MeteringRole → MeteringCall → Prop) :
    Rules meteringCalls String MeteringWorld MeteringRole.Result where
  serve := MeteringServes
  admits := admits
  ends _ _ w successor w' := successor = none ∧ w' = w
  turn w newcomer w' :=
    (w.now ≤ w'.now ∧ w'.periods = w.periods) ∧ ∀ t, newcomer = some t → ∃ role, t = ⟨role, role.prog⟩

def Alternating (P : MeteringPool) : MeteringRole → MeteringCall → Prop
  | _, .insertPeriod vmId =>
      P.threads.countP (fun t => decide (t.prog.pending? = some (.insertPeriod vmId))) ≤ 1
  | _, _ => True

/-! ## The periods -/

def PowerPeriod.stop (now : Int) (p : PowerPeriod) : Int := p.endedAt.getD now

def MeteringWorld.spans (w : MeteringWorld) (vmId : VmId) : List (Int × Int) :=
  (w.periods.rows.filter fun p => decide (p.vmId = vmId)).map fun p => (p.startedAt, p.stop w.now)

/-- How long the VM was powered on between `a` and `b`, each period clipped as `monthlyUsage` does. -/
def MeteringWorld.poweredOn (w : MeteringWorld) (vmId : VmId) (a b : Int) : Int :=
  ((w.spans vmId).map (Intervals.overlap a b)).sum

def Before (p q : PowerPeriod) : Prop := p.vmId = q.vmId → ∃ e, p.endedAt = some e ∧ e ≤ q.startedAt

def Past (now : Int) (p : PowerPeriod) : Prop :=
  p.startedAt ≤ p.stop now ∧ p.stop now ≤ now

structure Metered (w : MeteringWorld) : Prop where
  before : w.periods.rows.Pairwise Before
  past : ∀ p ∈ w.periods, Past w.now p

section periods

variable {w w' : MeteringWorld} {vmId : VmId}

theorem Past.later {now now' : Int} {p : PowerPeriod} (hpast : Past now p) (hle : now ≤ now') : Past now' p := by
  unfold Past PowerPeriod.stop at hpast ⊢
  cases hend : p.endedAt with
  | none =>
      simp only [hend, Option.getD_none] at hpast ⊢
      omega
  | some e =>
      simp only [hend, Option.getD_some] at hpast ⊢
      omega

theorem Metered.insertPeriod (hmetered : Metered w) (hunopened : w.Unopened vmId) {p : PowerPeriod}
    (hinsert : w.InsertsPeriod vmId p w') : Metered w' := by
  obtain ⟨rfl, hstart, hend, periods, hins, rfl⟩ := hinsert
  have hrows : periods.rows = w.periods.rows ++ [p] := by
    unfold Table.insert? at hins
    split at hins
    · cases hins
    · cases hins
      rfl
  constructor
  · show periods.rows.Pairwise Before
    rw [hrows, List.pairwise_append]
    refine ⟨hmetered.before, List.pairwise_singleton _ _, fun q hq p' hp' hvm => ?_⟩
    obtain rfl := List.mem_singleton.mp hp'
    -- A period of the VM that was there is not open, so it ended in the past.
    have hclosed := hunopened q hq
    have hpast := hmetered.past q hq
    unfold isOpen at hclosed
    rw [decide_eq_true hvm, Bool.true_and] at hclosed
    cases hq' : q.endedAt with
    | none =>
        rw [hq'] at hclosed
        cases hclosed
    | some e =>
        refine ⟨e, rfl, ?_⟩
        unfold Past PowerPeriod.stop at hpast
        rw [hq', Option.getD_some] at hpast
        rw [hstart]
        exact hpast.2
  · intro q hq
    have hmem : q ∈ periods.rows := hq
    rw [hrows, List.mem_append, List.mem_singleton] at hmem
    obtain hold | rfl := hmem
    · exact hmetered.past q hold
    · unfold Past PowerPeriod.stop
      rw [hend, Option.getD_none, hstart]
      exact ⟨le_rfl, le_rfl⟩

theorem Metered.endPeriods (hmetered : Metered w) : Metered (w.endPeriods vmId) := by
  constructor
  · show List.Pairwise Before (w.periods.rows.map _)
    rw [List.pairwise_map]
    refine hmetered.before.imp fun {p q} hbefore hvm => ?_
    -- The earlier of two periods of a VM had ended already.
    have hids : ∀ p : PowerPeriod, (if isOpen vmId p then { p with endedAt := some w.now } else p).vmId = p.vmId ∧
        (if isOpen vmId p then { p with endedAt := some w.now } else p).startedAt = p.startedAt := by
      intro p
      split
      · exact ⟨rfl, rfl⟩
      · exact ⟨rfl, rfl⟩
    rw [(hids p).1, (hids q).1] at hvm
    obtain ⟨e, he, hle⟩ := hbefore hvm
    have hclosed : isOpen vmId p = false := by
      unfold isOpen
      rw [he, Option.isNone_some, Bool.and_false]
    refine ⟨e, ?_, ?_⟩
    · rw [hclosed]
      exact he
    · rw [(hids q).2]
      exact hle
  · intro p hp
    simp only [MeteringWorld.endPeriods, Table.mem_updateWhere] at hp
    obtain ⟨p₀, hp₀, rfl⟩ := hp
    have hpast := hmetered.past p₀ hp₀
    split
    · next hopen =>
        unfold Past PowerPeriod.stop at hpast ⊢
        unfold isOpen at hopen
        rw [Bool.and_eq_true, Option.isNone_iff_eq_none] at hopen
        rw [hopen.2, Option.getD_none] at hpast
        exact hpast
    · exact hpast

theorem Metered.turn (hmetered : Metered w) (hnow : w.now ≤ w'.now) (hperiods : w'.periods = w.periods) :
    Metered w' := by
  constructor
  · rw [hperiods]
    exact hmetered.before
  · rw [hperiods]
    exact fun p hp => (hmetered.past p hp).later hnow

theorem Metered.countP_open_le (hmetered : Metered w) (vmId : VmId) :
    w.periods.rows.countP (isOpen vmId) ≤ 1 := by
  rw [List.countP_eq_length_filter]
  have hopen : ∀ p ∈ w.periods.rows.filter (isOpen vmId), p.vmId = vmId ∧ p.endedAt = none := by
    intro p hp
    have hp := List.of_mem_filter hp
    unfold isOpen at hp
    rw [Bool.and_eq_true, decide_eq_true_eq, Option.isNone_iff_eq_none] at hp
    exact hp
  have hbefore := hmetered.before.filter (isOpen vmId)
  cases hlist : w.periods.rows.filter (isOpen vmId) with
  | nil => exact Nat.zero_le 1
  | cons p rest =>
      cases rest with
      | nil => exact le_rfl
      | cons q rest =>
          rw [hlist] at hopen hbefore
          obtain ⟨hp, hpend⟩ := hopen p List.mem_cons_self
          obtain ⟨hq, -⟩ := hopen q (List.mem_cons_of_mem p List.mem_cons_self)
          obtain ⟨e, he, -⟩ := (List.pairwise_cons.mp hbefore).1 q List.mem_cons_self (hp.trans hq.symm)
          exact absurd (hpend.symm.trans he) nofun

theorem Metered.successive (hmetered : Metered w) (vmId : VmId) : Intervals.Successive (w.spans vmId) := by
  unfold Intervals.Successive MeteringWorld.spans
  rw [List.pairwise_map]
  refine (hmetered.before.filter _).imp_of_mem fun {p q} hp hq hbefore => ?_
  have hp : p.vmId = vmId := by simpa using List.of_mem_filter hp
  have hq : q.vmId = vmId := by simpa using List.of_mem_filter hq
  have hsame : p.vmId = q.vmId := hp.trans hq.symm
  obtain ⟨e, he, hle⟩ := hbefore hsame
  unfold PowerPeriod.stop
  rw [he, Option.getD_some]
  exact hle

theorem Metered.poweredOn_le (hmetered : Metered w) (vmId : VmId) (a b : Int) :
    w.poweredOn vmId a b ≤ max 0 (b - a) := by
  refine Intervals.sum_overlap_le (hmetered.successive vmId) (fun i hi => ?_) a b
  obtain ⟨p, hp, rfl⟩ := List.mem_map.mp hi
  exact (hmetered.past p (List.mem_of_mem_filter hp)).1

end periods

/-! ## Openers -/

def missed : (c : MeteringCall) → Except String c.Reply → Option VmId
  | .selectLatestOpen vmId, .ok none => some vmId
  | _, _ => none

def MeteringCall.inserts : MeteringCall → Option VmId
  | .insertPeriod vmId => some vmId
  | _ => none

abbrev Looks {α : Type} (p : MeteringTask α) : Prop := Prompted (F := meteringCalls) missed MeteringCall.inserts none p

theorem looks_ask {c : MeteringCall} (hc : c.inserts = none) : Looks (askMetering c) :=
  Only.prompted (only_perform.mpr hc)

theorem looks_openPowerPeriod (vmId : VmId) : Looks (openPowerPeriod vmId) := by
  refine prompted_perform_bind rfl fun existing => ?_
  cases existing with
  | some p => trivial
  | none => exact ⟨fun k hneeds => hneeds, fun r => by cases r <;> trivial⟩

theorem looks_reconcileVmPower (vmId : VmId) (running : Bool) : Looks (reconcileVmPower vmId running) := by
  refine prompted_perform_bind rfl fun found => ?_
  show Prompted _ _ none (if _ then _ else _)
  split
  · exact (looks_openPowerPeriod vmId).bind fun _ => trivial
  · split
    · exact Prompted.bind (looks_ask (c := .endPeriods vmId) rfl) fun _ => trivial
    · trivial

theorem looks_meterVm (vm : MeteredVm) : Looks (meterVm vm) := by
  refine prompted_perform_bind rfl fun status => ?_
  refine Prompted.bind (looks_reconcileVmPower vm.id _) fun changed => ?_
  cases transitionAlert vm changed with
  | none => trivial
  | some alert => exact looks_ask (c := .alertAdmins alert) rfl

theorem looks_runMetering : Looks runMetering := by
  refine Prompted.tryCatch (prompted_perform_bind rfl fun vms => ?_) fun _ => trivial
  have hclient : Looks (askMetering .getProxmoxClient >>= fun _ => pure true : MeteringTask Bool) :=
    (looks_ask (c := .getProxmoxClient) rfl).bind fun _ => trivial
  have hproxmox : Looks (Prog.tryCatch (askMetering .getProxmoxClient >>= fun _ => pure true) fun _ => pure false :
      MeteringTask Bool) := hclient.tryCatch fun _ => trivial
  refine hproxmox.bind fun proxmox => ?_
  cases proxmox with
  | false => trivial
  | true =>
      refine Prompted.foldlM (fun _ vm => ?_) vms ()
      exact (looks_meterVm vm).tryCatch fun _ => trivial

theorem looks_prog (role : MeteringRole) : Looks role.prog := by
  cases role with
  | openPowerPeriod vmId => exact looks_openPowerPeriod vmId
  | closePowerPeriod vmId => exact looks_ask (c := .endPeriods vmId) rfl
  | reconcileVmPower vmId running => exact looks_reconcileVmPower vmId running
  | runMetering => exact looks_runMetering

/-! ## Runs -/

section runs

variable {w w' : MeteringWorld} {c : MeteringCall} {r : Except String c.Reply} {role : MeteringRole}

theorem serves_cases {I : MeteringWorld → Prop} (hserve : MeteringServes c w r w') (hI : I w)
    (hanswer : ∀ reply, MeteringAnswers c w reply w' → I w') : I w' := by
  cases r with
  | ok reply => exact hanswer reply hserve
  | error e =>
      obtain rfl | ⟨reply, hcarried⟩ := hserve
      · exact hI
      · exact hanswer reply hcarried

theorem answers_cases {reply : c.Reply} (hanswer : MeteringAnswers c w reply w') :
    w' = w ∨ (∃ vmId, w' = w.endPeriods vmId) ∨
      ∃ vmId p, c = .insertPeriod vmId ∧ w.InsertsPeriod vmId p w' := by
  cases c with
  | insertPeriod vmId => exact .inr (.inr ⟨vmId, reply, rfl, hanswer⟩)
  | endPeriods vmId => exact .inr (.inl ⟨vmId, hanswer.2⟩)
  | list => exact .inl hanswer.2
  | selectLatestOpen _ => exact .inl hanswer.2.1
  | selectAnyOpen _ => exact .inl hanswer.2
  | getProxmoxClient => exact .inl hanswer
  | qemuStatus _ _ => exact .inl hanswer
  | alertAdmins _ => exact .inl hanswer

theorem unopened_of_missed {vmId : VmId} (hserve : MeteringServes c w r w') (hmissed : missed c r = some vmId) :
    w'.Unopened vmId := by
  cases c with
  | selectLatestOpen vmId' =>
      match r with
      | .ok none =>
          cases hmissed
          obtain ⟨hfinds, rfl, -⟩ := hserve
          exact hfinds
      | .ok (some p) => cases hmissed
      | .error e => cases hmissed
  | _ => cases hmissed

theorem Unopened.endPeriods {vmId vmId' : VmId} (hunopened : w.Unopened vmId) :
    (w.endPeriods vmId').Unopened vmId := by
  intro p hp
  simp only [MeteringWorld.endPeriods, Table.mem_updateWhere] at hp
  obtain ⟨p₀, hp₀, rfl⟩ := hp
  split
  · unfold isOpen
    rw [Option.isNone_some, Bool.and_false]
  · exact hunopened p₀ hp₀

theorem Unopened.insertPeriod {vmId vmId' : VmId} {p : PowerPeriod} (hunopened : w.Unopened vmId)
    (hne : vmId' ≠ vmId) (hinsert : w.InsertsPeriod vmId' p w') : w'.Unopened vmId := by
  obtain ⟨hvm, -, -, periods, hins, rfl⟩ := hinsert
  intro q hq
  obtain hold | rfl := ((Table.insert?_eq_some hins).2 q).mp hq
  · exact hunopened q hold
  · unfold isOpen
    rw [decide_eq_false (hvm ▸ hne), Bool.false_and]

theorem unopened_beside {before after : List MeteringThread} {next : Except String c.Reply → MeteringTask role.Result}
    (hadmits : Alternating ⟨w, before ++ ⟨role, .call c next⟩ :: after⟩ role c) (hserve : MeteringServes c w r w')
    {t : MeteringThread} (ht : t ∈ before ++ after) {vmId : VmId}
    (hpending : t.prog.pending? = some (.insertPeriod vmId)) (hunopened : w.Unopened vmId) : w'.Unopened vmId := by
  refine serves_cases (I := fun w => w.Unopened vmId) hserve hunopened fun reply hanswer => ?_
  obtain rfl | ⟨vmId', rfl⟩ | ⟨vmId', p, rfl, hinsert⟩ := answers_cases hanswer
  · exact hunopened
  · exact Unopened.endPeriods hunopened
  · refine Unopened.insertPeriod hunopened ?_ hinsert
    rintro rfl
    have hcount : (before ++ ⟨role, .call (.insertPeriod vmId') next⟩ :: after).countP
        (fun t => decide (t.prog.pending? = some (.insertPeriod vmId'))) ≤ 1 := hadmits
    rw [List.countP_append, List.countP_cons_of_pos (by exact decide_eq_true rfl)] at hcount
    have hpos : 0 < (before ++ after).countP (fun t => decide (t.prog.pending? = some (.insertPeriod vmId'))) :=
      List.countP_pos_iff.mpr ⟨t, ht, decide_eq_true hpending⟩
    rw [List.countP_append] at hpos
    omega

theorem metered_call (hserve : MeteringServes c w r w') (hfound : ∀ vmId, c = .insertPeriod vmId → w.Unopened vmId)
    (hmetered : Metered w) : Metered w' := by
  refine serves_cases (I := Metered) hserve hmetered fun reply hanswer => ?_
  obtain rfl | ⟨vmId, rfl⟩ | ⟨vmId, p, rfl, hinsert⟩ := answers_cases hanswer
  · exact hmetered
  · exact hmetered.endPeriods
  · exact hmetered.insertPeriod (hfound vmId rfl) hinsert

theorem eq_insertPeriod {vmId : VmId} (hinserts : c.inserts = some vmId) : c = .insertPeriod vmId := by
  cases c with
  | insertPeriod vmId' =>
      cases hinserts
      rfl
  | _ => cases hinserts

structure Kept (P : MeteringPool) : Prop where
  ready : ∀ t ∈ P.threads, Ready (F := meteringCalls) missed MeteringCall.inserts MeteringWorld.Unopened P.state t
  metered : Metered P.state

theorem Kept.step {P P' : MeteringPool} (hkept : Kept P) (hstep : PoolStep (meteringRules Alternating) P P') :
    Kept P' := by
  constructor
  · refine ready_of_poolStep ?_ ?_ ?_ ?_ hkept.ready hstep
    · exact fun hserve hmissed => unopened_of_missed hserve hmissed
    · intro before after role c next s r s' t c' vmId hadmits hserve ht hpending hneeds hunopened
      obtain rfl := eq_insertPeriod hneeds
      exact unopened_beside hadmits hserve ht hpending hunopened
    · rintro role result s s' successor ⟨rfl, rfl⟩
      exact ⟨fun _ h => h, fun t ht => nomatch ht⟩
    · rintro s s' newcomer ⟨⟨-, hperiods⟩, hnewcomer⟩
      refine ⟨fun vmId hunopened p hp => hunopened p (by rwa [hperiods] at hp), fun t ht => ?_⟩
      obtain ⟨role, rfl⟩ := hnewcomer t ht
      exact looks_prog role
  · cases hstep with
    | @call before after role c next s s' r hadmits hserve =>
        have hthread := hkept.ready ⟨role, .call c next⟩ (List.mem_append_right before List.mem_cons_self)
        refine metered_call hserve (fun vmId hc => ?_) hkept.metered
        exact hthread.found_of_call (by rw [hc]; rfl)
    | ends hends =>
        obtain ⟨-, rfl⟩ := hends
        exact hkept.metered
    | turn hturn => exact hkept.metered.turn hturn.1.1 hturn.1.2

end runs

def CountsOnce (w : MeteringWorld) : Prop :=
  ∀ vmId, w.periods.rows.countP (isOpen vmId) ≤ 1 ∧ Intervals.Successive (w.spans vmId) ∧
    ∀ a b, a ≤ b → w.poweredOn vmId a b ≤ b - a

/-- **Metering.**  In every run in which no two openers of a VM stand between their look and their INSERT,
every VM has at most one open period, its periods follow one another, and it was powered on for no longer
than a window is. -/
theorem metered_of_run (w : MeteringWorld) (hmetered : Metered w) (P : MeteringPool)
    (hrun : PoolRun (meteringRules Alternating) ⟨w, []⟩ P) : CountsOnce P.state := by
  have hkept : Kept P := by
    induction hrun with
    | refl => exact ⟨fun t ht => absurd ht List.not_mem_nil, hmetered⟩
    | tail _ hstep ih => exact ih.step hstep
  intro vmId
  refine ⟨hkept.metered.countP_open_le vmId, hkept.metered.successive vmId, fun a b hle => ?_⟩
  have hbound := hkept.metered.poweredOn_le vmId a b
  omega

/-! ## Samples -/

def meteringStart : MeteringWorld := ⟨1000, [⟨30, "web", "pve1", 130⟩], Table.empty⟩

def meteringAnswer : (c : MeteringCall) → MeteringWorld → Option (Except String c.Reply × MeteringWorld)
  | .list, w => some (.ok w.vms, w)
  | .getProxmoxClient, w => some (.ok (), w)
  | .qemuStatus _ _, w => some (.ok (some "running"), w)
  | .selectLatestOpen vmId, w =>
      if (w.periods.rows.find? (isOpen vmId)).isNone then some (.ok none, w) else none
  | .selectAnyOpen vmId, w => some (.ok (w.periods.rows.find? (isOpen vmId)), w)
  | .insertPeriod vmId, w =>
      let p : PowerPeriod := ⟨w.periods.rows.length, vmId, w.now, none⟩
      (w.periods.insert? p).map fun periods => (.ok p, { w with periods })
  | .endPeriods vmId, w => some (.ok (w.periods.rows.countP (isOpen vmId)), w.endPeriods vmId)
  | .alertAdmins _, w => some (.ok (), w)

theorem serves_meteringAnswer (c : MeteringCall) (w : MeteringWorld) (r : Except String c.Reply)
    (w' : MeteringWorld) (hanswer : meteringAnswer c w = some (r, w')) : MeteringServes c w r w' := by
  cases c with
  | insertPeriod vmId =>
      obtain ⟨periods, hins, heq⟩ := Option.map_eq_some_iff.mp hanswer
      cases heq
      exact ⟨rfl, rfl, rfl, periods, hins, rfl⟩
  | selectLatestOpen vmId =>
      simp only [meteringAnswer] at hanswer
      split at hanswer
      · next hnone =>
          cases hanswer
          refine ⟨fun p hp => ?_, rfl, nofun⟩
          exact Bool.eq_false_iff.mpr (List.find?_eq_none.mp (Option.isNone_iff_eq_none.mp hnone) p hp)
      · cases hanswer
  | selectAnyOpen vmId =>
      cases hanswer
      cases hfind : w.periods.rows.find? (isOpen vmId) with
      | none =>
          refine ⟨fun p hp => ?_, rfl⟩
          exact Bool.eq_false_iff.mpr (List.find?_eq_none.mp hfind p hp)
      | some p => exact ⟨⟨List.mem_of_find?_eq_some hfind, List.find?_some hfind⟩, rfl⟩
  | list =>
      cases hanswer
      exact ⟨rfl, rfl⟩
  | endPeriods vmId =>
      cases hanswer
      exact ⟨rfl, rfl⟩
  | getProxmoxClient =>
      cases hanswer
      exact (rfl : _ = _)
  | qemuStatus _ _ =>
      cases hanswer
      exact (rfl : _ = _)
  | alertAdmins _ =>
      cases hanswer
      exact (rfl : _ = _)

def sampleRole : MeteringRole := .reconcileVmPower 30 true

theorem sample_arrives (admits : MeteringPool → MeteringRole → MeteringCall → Prop) (w : MeteringWorld)
    (others : List MeteringThread) :
    PoolStep (meteringRules admits) ⟨w, others⟩ ⟨w, ⟨sampleRole, sampleRole.prog⟩ :: others⟩ := by
  have hturn : (meteringRules admits).turn w (some ⟨sampleRole, sampleRole.prog⟩) w :=
    ⟨⟨le_rfl, rfl⟩, fun t ht => ⟨sampleRole, (Option.some.inj ht).symm⟩⟩
  exact .turn hturn

def meteringEnd : MeteringWorld := (drive meteringAnswer 3 (sampleRole.prog, meteringStart)).2

theorem metered_meteringStart : Metered meteringStart :=
  ⟨List.Pairwise.nil, fun p hp => absurd hp (Table.not_mem_empty p)⟩

theorem metered_of_run_sample : CountsOnce meteringEnd := by
  have hadmits : ∀ c next w, (meteringRules Alternating).admits ⟨w, [⟨sampleRole, .call c next⟩]⟩ sampleRole c := by
    intro c next w
    cases c with
    | insertPeriod vmId => exact List.countP_le_length
    | _ => exact trivial
  have hpass := @poolRun_drive_beside _ _ _ _ _ (meteringRules Alternating) meteringAnswer sampleRole []
    hadmits serves_meteringAnswer 3 sampleRole.prog meteringStart
  exact metered_of_run meteringStart metered_meteringStart _
    (.head (sample_arrives Alternating meteringStart []) hpass)

/-- Two reconciliations look for an open period before either has inserted one. -/
theorem overlapping_openers : ¬ ∀ (w : MeteringWorld), Metered w →
    ∀ P, PoolRun (meteringRules fun _ _ _ => True) ⟨w, []⟩ P → CountsOnce P.state := by
  intro hlaw
  have hruns := fun (others : List MeteringThread) =>
    @poolRun_drive_beside _ _ _ _ _ (meteringRules fun _ _ _ => True) meteringAnswer sampleRole others
      (fun _ _ _ => trivial) serves_meteringAnswer
  -- Each has looked, twice, and is about to insert.
  let looked : MeteringTask sampleRole.Result := (drive meteringAnswer 2 (sampleRole.prog, meteringStart)).1
  have hlooks : drive meteringAnswer 2 (sampleRole.prog, meteringStart) = (looked, meteringStart) := by rfl
  have hfirst := hruns [] 2 sampleRole.prog meteringStart
  have hsecond := hruns [⟨sampleRole, looked⟩] 2 sampleRole.prog meteringStart
  rw [hlooks] at hfirst hsecond
  -- One inserts, ends and leaves; then the other inserts.
  have hinsert := hruns [⟨sampleRole, looked⟩] 1 looked meteringStart
  have hends : (meteringRules fun _ _ _ => True).ends sampleRole (.ok .opened)
      (drive meteringAnswer 1 (looked, meteringStart)).2 none (drive meteringAnswer 1 (looked, meteringStart)).2 :=
    ⟨rfl, rfl⟩
  have hinserted : (drive meteringAnswer 1 (looked, meteringStart)).1 =
      .ofExcept (.ok PowerChange.opened) := by rfl
  rw [hinserted] at hinsert
  have hagain := hruns [] 1 looked (drive meteringAnswer 1 (looked, meteringStart)).2
  have hrun := (Relation.ReflTransGen.head (sample_arrives _ meteringStart []) hfirst).trans <|
    (Relation.ReflTransGen.head (sample_arrives _ meteringStart _) hsecond).trans <|
      hinsert.trans <| .head (.endsFirst hends) hagain
  have hcount := (hlaw meteringStart metered_meteringStart _ hrun 30).1
  exact absurd hcount (by decide +kernel)

end ProxVM.Power
