import ProxVM.Drift.Deletion
import ProxVM.Lib.Pool
import ProxVM.Routes.Migration

/-!
# Which migrations are finalized, and how often

Any number of migration requests and polls run side by side, among tasks of Proxmox and
other parties.  A poll reads the record, asks Proxmox and writes, and trusts its query.
-/

namespace ProxVM

open Tables Interaction

namespace MigrationWorld

variable {w w' : MigrationWorld} {v : VmId}

def auditsOf (w : MigrationWorld) (v : VmId) : List MigrationAudit :=
  w.audits.filter fun a => decide (a.vmId = v)

def movesOf (w : MigrationWorld) (v : VmId) : List Move := w.moves.filter fun m => decide (m.vmId = v)

def Starts (w : MigrationWorld) (upid : String) (vmid : Nat) (target : String) : Prop :=
  ∃ task ∈ w.tasks, task.upid = upid ∧ task.migrates = some (vmid, target)

def Migrated (w : MigrationWorld) (vmid : Nat) (target : String) : Prop :=
  ∃ task ∈ w.tasks, task.migrates = some (vmid, target) ∧ task.report.EndedOk

def Audited (w : MigrationWorld) (v : VmId) (upid : String) : Prop :=
  ∃ a ∈ w.auditsOf v, a.detail.upid = upid

def Records (w : MigrationWorld) (v : VmId) (vmid : Nat) : Prop := ∃ vm ∈ w.vms, vm.id = v ∧ vm.vmid = vmid

def Balanced (v : VmId) (w : MigrationWorld) : Prop :=
  (w.movesOf v).map Move.target = (w.auditsOf v).map fun a => a.detail.target

structure Extends (w w' : MigrationWorld) : Prop where
  records : ∀ v vmid, w.Records v vmid → w'.Records v vmid
  tasks : ∀ task ∈ w.tasks, ∃ task' ∈ w'.tasks, task'.upid = task.upid ∧
    task'.migrates = task.migrates ∧ (task.report.EndedOk → task'.report = task.report)

structure BesidePoll (v : VmId) (w w' : MigrationWorld) : Prop extends Extends w w' where
  audits : w'.auditsOf v = w.auditsOf v
  moves : w'.movesOf v = w.movesOf v

theorem Extends.refl (w : MigrationWorld) : Extends w w :=
  ⟨fun _ _ h => h, fun task htask => ⟨task, htask, rfl, rfl, fun _ => rfl⟩⟩

variable {w₁ w₂ w₃ : MigrationWorld} {upid target : String} {vmid : Nat}

theorem Extends.trans (h : Extends w₁ w₂) (h' : Extends w₂ w₃) : Extends w₁ w₃ := by
  refine ⟨fun v vmid hrec => h'.records v vmid (h.records v vmid hrec), fun task htask => ?_⟩
  obtain ⟨task₂, htask₂, hupid₂, hmigrates₂, hended₂⟩ := h.tasks task htask
  obtain ⟨task₃, htask₃, hupid₃, hmigrates₃, hended₃⟩ := h'.tasks task₂ htask₂
  refine ⟨task₃, htask₃, hupid₃.trans hupid₂, hmigrates₃.trans hmigrates₂, fun hended => ?_⟩
  have hsame := hended₂ hended
  exact (hended₃ (hsame ▸ hended)).trans hsame

theorem BesidePoll.refl (v : VmId) (w : MigrationWorld) : BesidePoll v w w := ⟨.refl w, rfl, rfl⟩

theorem BesidePoll.trans (h : BesidePoll v w₁ w₂) (h' : BesidePoll v w₂ w₃) : BesidePoll v w₁ w₃ :=
  ⟨h.toExtends.trans h'.toExtends, h'.audits.trans h.audits, h'.moves.trans h.moves⟩

theorem Extends.starts (h : Extends w w')
    (hstarts : w.Starts upid vmid target) : w'.Starts upid vmid target := by
  obtain ⟨task, htask, hupid, hmigrates⟩ := hstarts
  obtain ⟨task', htask', hupid', hmigrates', -⟩ := h.tasks task htask
  exact ⟨task', htask', hupid'.trans hupid, hmigrates'.trans hmigrates⟩

theorem Extends.migrated (h : Extends w w')
    (hmigrated : w.Migrated vmid target) : w'.Migrated vmid target := by
  obtain ⟨task, htask, hmigrates, hended⟩ := hmigrated
  obtain ⟨task', htask', -, hmigrates', hended'⟩ := h.tasks task htask
  exact ⟨task', htask', hmigrates'.trans hmigrates, (hended' hended).symm ▸ hended⟩

theorem BesidePoll.balanced (h : BesidePoll v w w') (hbalanced : Balanced v w) : Balanced v w' := by
  unfold Balanced
  rw [h.audits, h.moves]
  exact hbalanced

theorem BesidePoll.audited (h : BesidePoll v w w') : w'.Audited v upid ↔ w.Audited v upid := by
  unfold Audited
  rw [h.audits]

end MigrationWorld

/-! ## The installation -/

structure Poll where
  id : VmId
  query : Except Failure MigrationQuery
  prog : MigrationTask MigrationState

structure MigrationSystem where
  world : MigrationWorld
  starts : List (MigrationTask MigrationStarted)
  polls : List Poll

inductive MigrationEvent
  | arrival (id : VmId)
  | call (id : VmId) (query : Except Failure MigrationQuery) (c : MigrationCall)
      (r : Except Failure c.Reply)
  | other

inductive MigrationStep : MigrationSystem → MigrationEvent → MigrationSystem → Prop
  /-- A migration is requested. -/
  | request {s : MigrationSystem} (actor : UserId) (id : VmId) (body : Except Failure MigrateBody) :
      MigrationStep s .other { s with starts := postMigrate actor id body :: s.starts }
  /-- A migration request makes a call. -/
  | start {s : MigrationSystem} {before after : List (MigrationTask MigrationStarted)}
      {c : MigrationCall} {next : Except Failure c.Reply → MigrationTask MigrationStarted}
      {r : Except Failure c.Reply} {w' : MigrationWorld}
      (hstarts : s.starts = before ++ .call c next :: after) (hserved : MigrationServed c s.world r w') :
      MigrationStep s .other { s with world := w', starts := before ++ next r :: after }
  /-- A poll arrives. -/
  | poll {s : MigrationSystem} (actor : UserId) (id : VmId) (query : Except Failure MigrationQuery) :
      MigrationStep s (.arrival id)
        { s with polls := ⟨id, query, getMigration actor id query⟩ :: s.polls }
  /-- A poll makes a call. -/
  | observe {s : MigrationSystem} {before after : List Poll} {id : VmId}
      {query : Except Failure MigrationQuery} {c : MigrationCall}
      {next : Except Failure c.Reply → MigrationTask MigrationState} {r : Except Failure c.Reply}
      {w' : MigrationWorld} (hpolls : s.polls = before ++ ⟨id, query, .call c next⟩ :: after)
      (hserved : MigrationServed c s.world r w') :
      MigrationStep s (.call id query c r)
        { s with world := w', polls := before ++ ⟨id, query, next r⟩ :: after }
  /-- A poll is answered. -/
  | answer {s : MigrationSystem} {before after : List Poll} {id : VmId}
      {query : Except Failure MigrationQuery} {result : Except Failure MigrationState}
      (hpolls : s.polls = before ++ ⟨id, query, .ofExcept result⟩ :: after) :
      MigrationStep s .other { s with polls := before ++ after }
  /-- Something else changes: tasks go on, and other parties act. -/
  | others {s : MigrationSystem} {w' : MigrationWorld} (hextends : s.world.Extends w')
      (haudits : w'.audits = s.world.audits) (hmoves : w'.moves = s.world.moves) :
      MigrationStep s .other { s with world := w' }

/-- A poll reads the record for a migration of its VM to its target, and the migration has
not been finalized, unless the VM is still where it went; and its audit row gets written. -/
def OrderlyCall (v : VmId) (query : Except Failure MigrationQuery) (w : MigrationWorld) :
    (c : MigrationCall) → Except Failure c.Reply → Prop
  | .drift (.base (.vmsFindById _)), _ => ∀ q, query = .ok q → ∀ vm ∈ w.vms, vm.id = v →
      w.Starts q.upid vm.vmid q.target ∧ (vm.node = q.target ∨ ¬ w.Audited v q.upid)
  | .auditMigrated _ _ _, r => r = .ok ()
  | _, _ => True

def MigrationSystem.Orderly (s : MigrationSystem) : MigrationEvent → Prop
  | .arrival id => ∀ poll ∈ s.polls, poll.id ≠ id
  | .call id query c r => OrderlyCall id query s.world c r
  | .other => True

abbrev MigrationRun (meets : MigrationSystem → MigrationEvent → Prop) :
    MigrationSystem → MigrationSystem → Prop :=
  Relation.ReflTransGen fun s s' => ∃ event, MigrationStep s event s' ∧ meets s event

def MigrationSystem.idle (drift : DriftWorld) (tasks : Table ProxmoxTask.upid) : MigrationSystem :=
  ⟨⟨drift, tasks, [], []⟩, [], []⟩

/-! ## The calls -/

def MigrationCall.isPlain : MigrationCall → Bool
  | .drift c => c.sparesVms
  | _ => false

/-- `isPlain`, as a predicate on the calls of a program. -/
abbrev Plain (c : MigrationCall) : Prop := c.isPlain = true

namespace MigrationWorld

structure Uninvolved (w w' : MigrationWorld) : Prop extends Extends w w' where
  audits : w'.audits = w.audits
  moves : w'.moves = w.moves

variable {w w' : MigrationWorld} {v : VmId}

theorem Uninvolved.beside (h : Uninvolved w w') (v : VmId) : BesidePoll v w w' := by
  refine ⟨h.toExtends, ?_, ?_⟩
  · unfold auditsOf
    rw [h.audits]
  · unfold movesOf
    rw [h.moves]

theorem Extends.of_same (hvms : w'.vms = w.vms) (htasks : w'.tasks = w.tasks) : Extends w w' := by
  refine ⟨fun v vmid hrec => ?_, fun task htask => ⟨task, by rwa [htasks], rfl, rfl, fun _ => rfl⟩⟩
  unfold Records
  rwa [hvms]

theorem served_drift {c : DriftCall} {r : Except Failure c.Reply}
    (h : MigrationServed (.drift c) w r w') : DriftServed c w.drift r w'.drift := by
  obtain ⟨henabled, fate, heq⟩ := h
  cases heq
  exact ⟨henabled, fate, rfl⟩

theorem apart_drift {c : DriftCall} {r : Except Failure c.Reply}
    (h : MigrationServed (.drift c) w r w') (hc : c.sparesVms = true) : Uninvolved w w' := by
  have hvms := (served_drift h).vms hc
  obtain ⟨henabled, fate, heq⟩ := h
  cases heq
  refine ⟨.of_same hvms rfl, rfl, ?_⟩
  have hmoved : w.moved c (w.drift.serve c fate).1 = [] := by
    unfold moved
    split
    · cases hc
    · rfl
  change w.moved c _ ++ w.moves = w.moves
  rw [hmoved, List.nil_append]

variable {upid target node : String} {vmid : Nat} {actor : AuditActor} {detail : MigrationDetail}
  {r : Except Failure Unit} {vm : VmRow} {c : MigrationCall} {q : MigrationQuery}

theorem apart_startTask {tasks : Table ProxmoxTask.upid} (h : w.startTask upid vmid target = some tasks) :
    Uninvolved w { w with tasks } := by
  refine ⟨⟨fun _ _ h => h, fun task htask => ⟨task, ?_, rfl, rfl, fun _ => rfl⟩⟩, rfl, rfl⟩
  exact ((Table.insert?_eq_some h).2 task).mpr (.inl htask)

theorem Uninvolved.refl (w : MigrationWorld) : Uninvolved w w := ⟨.refl w, rfl, rfl⟩

theorem apart_migrate {online disks : Bool}
    {r : Except Failure String} (h : MigrationServed (.migrate node vmid target online disks) w r w') :
    Uninvolved w w' := by
  obtain ⟨-, fate, heq⟩ := h
  change w.acceptMigration vmid target fate = (r, w') at heq
  cases fate with
  | answer upid =>
      cases htasks : w.startTask upid vmid target with
      | none =>
          simp only [acceptMigration, htasks] at heq
          cases heq
          exact .refl w
      | some tasks =>
          simp only [acceptMigration, htasks] at heq
          cases heq
          exact apart_startTask htasks
  | refuse e =>
      cases heq
      exact .refl w
  | lose e upid =>
      cases heq
      cases htasks : w.startTask upid vmid target with
      | none => exact .refl w
      | some tasks => exact apart_startTask htasks

theorem served_taskStatus {r : Except Failure TaskReport}
    (h : MigrationServed (.taskStatus node upid) w r w') :
    w' = w ∧ ∀ report, r = .ok report → ∃ task ∈ w.tasks, task.upid = upid ∧ task.report = report := by
  obtain ⟨-, fate, heq⟩ := h
  cases heq
  refine ⟨rfl, fun report hok => ?_⟩
  cases fate with
  | answer given =>
      cases htask : w.tasks.find? upid with
      | none =>
          simp only [reportTask, htask] at hok
          cases hok
      | some task =>
          simp only [reportTask, htask] at hok
          obtain ⟨hmem, hupid⟩ := Table.find?_eq_some_iff.mp htask
          exact ⟨task, hmem, hupid, Except.ok.inj hok⟩
  | refuse e => cases hok
  | lose e given => cases hok

theorem served_auditMigrated (h : MigrationServed (.auditMigrated actor v detail) w r w') :
    (r = .ok () ∧ w' = { w with audits := ⟨v, detail⟩ :: w.audits }) ∨
      (∃ e, r = .error e) ∧ w' = w := by
  obtain ⟨-, fate, heq⟩ := h
  cases fate with
  | answer given =>
      cases heq
      exact .inl ⟨rfl, rfl⟩
  | refuse e =>
      cases heq
      exact .inr ⟨⟨e, rfl⟩, rfl⟩
  | lose e given =>
      cases heq
      exact .inr ⟨⟨e, rfl⟩, rfl⟩

theorem updateVmNode_eq_some {db db' : Db} (h : db.updateVmNode v node = some db') :
    db' = db.updateVm v (fun vm => { vm with node }) fun _ => rfl := by
  obtain ⟨-, heq⟩ := Option.ite_none_left_eq_some.mp h
  exact (Option.some.inj heq).symm

theorem mem_updateNode (v : VmId) (node : String) {db : Db} (hvm : vm ∈ db.vms) :
    ∃ vm' ∈ (db.updateVm v (fun vm => { vm with node }) fun _ => rfl).vms,
      vm'.id = vm.id ∧ vm'.vmid = vm.vmid := by
  simp only [Db.updateVm, Table.mem_updateWhere]
  refine ⟨_, ⟨vm, hvm, rfl⟩, ?_, ?_⟩
  · split <;> rfl
  · split <;> rfl

theorem served_updateNode (h : MigrationServed (.drift (.vmsUpdateNode v node)) w r w') :
    (r = .ok () ∧ Extends w w' ∧ w'.audits = w.audits ∧
      w'.moves = ((w.vms.find? v).toList.map fun vm => ⟨v, vm.vmid, node⟩) ++ w.moves) ∨
      (∃ e, r = .error e) ∧ w' = w := by
  obtain ⟨-, fate, heq⟩ := h
  cases fate with
  | answer given =>
      cases hupdate : w.drift.base.db.updateVmNode v node with
      | none =>
          have hserve : w.drift.serve (.vmsUpdateNode v node) (.answer given) =
              (.error (.uniqueViolation "duplicate key value violates unique constraint"), w.drift) := by
            change w.drift.updateVmNode v node = _
            unfold DriftWorld.updateVmNode
            rw [hupdate]
          rw [serve, hserve] at heq
          cases heq
          exact .inr ⟨⟨_, rfl⟩, rfl⟩
      | some db =>
          have hserve : w.drift.serve (.vmsUpdateNode v node) (.answer given) =
              (.ok (), w.drift.withDb db) := by
            change w.drift.updateVmNode v node = _
            unfold DriftWorld.updateVmNode
            rw [hupdate]
            rfl
          rw [serve, hserve] at heq
          cases heq
          cases updateVmNode_eq_some hupdate
          refine .inl ⟨rfl, ⟨fun v' vmid hrec => ?_, fun task htask =>
            ⟨task, htask, rfl, rfl, fun _ => rfl⟩⟩, rfl, rfl⟩
          obtain ⟨vm, hvm, hid, hvmid⟩ := hrec
          obtain ⟨vm', hvm', hid', hvmid'⟩ := mem_updateNode v node hvm
          exact ⟨vm', hvm', hid'.trans hid, hvmid'.trans hvmid⟩
  | refuse e =>
      cases heq
      exact .inr ⟨⟨e, rfl⟩, rfl⟩
  | lose e given =>
      cases heq
      exact .inr ⟨⟨e, rfl⟩, rfl⟩

/-! ## Polls -/

def PollOwes (v : VmId) : MigrationCall → MigrationWorld → Prop
  | .drift (.vmsUpdateNode id node), w => id = v ∧ ∃ vmid, w.Records v vmid ∧ w.Migrated vmid node
  | .drift c, _ => c.sparesVms = true
  | .auditMigrated _ id detail, w => id = v ∧ ¬ w.Audited v detail.upid
  | _, _ => True

def pollContext (v : VmId) (query : Except Failure MigrationQuery) :
    Context migrationCalls Failure MigrationWorld where
  serve c w r w' := MigrationServed c w r w' ∧ OrderlyCall v query w c r
  rely := BesidePoll v
  guarantee := PollOwes v
  rely_refl := BesidePoll.refl v
  rely_trans := BesidePoll.trans

variable {query : Except Failure MigrationQuery} {α β : Type}

theorem owes_of_plain (hc : Plain c) : PollOwes v c w := by
  cases c with
  | drift c =>
      unfold PollOwes
      split
      · next heq =>
          cases heq
          cases hc
      · next heq =>
          cases heq
          exact hc
      · next heq => cases heq
      · trivial
  | _ => cases hc

theorem holds_plain_bind {I : MigrationWorld → Prop} {p : MigrationTask α}
    {f : α → MigrationTask β} {Q : Except Failure β → MigrationWorld → Prop}
    (hstable : ∀ w w', I w → BesidePoll v w w' → I w') (hp : Only Plain p) (hI : I w)
    (hok : ∀ a w', I w' → (pollContext v query).holds (f a) Q w')
    (herror : ∀ e w', I w' → Q (.error e) w') : (pollContext v query).holds (p >>= f) Q w := by
  refine Context.holds_bind_of (Context.holds_of_only hstable (fun _ _ hc _ => owes_of_plain hc)
    (fun c w₁ r w₂ hc hI hserve => ?_) hp hI) hok herror
  cases c with
  | drift c => exact hstable _ _ hI ((apart_drift hserve.1 hc).beside v)
  | _ => cases hc

structure Pending (v : VmId) (vmid : Nat) (q : MigrationQuery) (w : MigrationWorld) : Prop where
  records : w.Records v vmid
  starts : w.Starts q.upid vmid q.target
  fresh : ¬ w.Audited v q.upid
  balanced : Balanced v w

theorem BesidePoll.pending (h : BesidePoll v w w') (hpending : Pending v vmid q w) : Pending v vmid q w' :=
  ⟨h.records v vmid hpending.records, h.toExtends.starts hpending.starts,
    fun haudited => hpending.fresh (h.audited.mp haudited), h.balanced hpending.balanced⟩

theorem movesOf_of_update (hrec : w.Records v vmid)
    (hmoves : w'.moves = ((w.vms.find? v).toList.map fun vm => ⟨v, vm.vmid, node⟩) ++ w.moves) :
    w'.movesOf v = ⟨v, vmid, node⟩ :: w.movesOf v := by
  obtain ⟨vm, hvm, rfl, rfl⟩ := hrec
  rw [Table.find?_of_mem hvm] at hmoves
  unfold movesOf
  rw [hmoves]
  exact List.filter_cons_of_pos (decide_eq_true rfl)

theorem auditsOf_cons :
    auditsOf { w with audits := ⟨v, detail⟩ :: w.audits } v = ⟨v, detail⟩ :: w.auditsOf v :=
  List.filter_cons_of_pos (decide_eq_true rfl)

theorem balanced_of_audit (hbalanced : Balanced v w)
    (hmoves : w'.movesOf v = ⟨v, vmid, detail.target⟩ :: w.movesOf v)
    (haudits : w'.auditsOf v = w.auditsOf v) : Balanced v { w' with audits := ⟨v, detail⟩ :: w'.audits } := by
  unfold Balanced
  rw [auditsOf_cons, haudits]
  change (w'.movesOf v).map Move.target = _
  rw [hmoves, List.map_cons, List.map_cons, hbalanced]

theorem holds_finalizeMigration (user : UserWithRoles)
    (hid : vm.id = v) (hpending : Pending v vm.vmid q w) (hmigrated : w.Migrated vm.vmid q.target) :
    (pollContext v query).holds (finalizeMigration user vm q) (fun _ w' => Balanced v w') w := by
  subst hid
  unfold finalizeMigration
  rw [Context.holds_bind]
  refine Context.holds_perform.mpr fun w₁ hrely₁ => ⟨?_, fun r w₂ hserve => ?_⟩
  · exact ⟨rfl, vm.vmid, (hrely₁.pending hpending).records, hrely₁.toExtends.migrated hmigrated⟩
  · have hpending₁ := hrely₁.pending hpending
    obtain ⟨rfl, -, haudits₂, hmoves₂⟩ | ⟨⟨e, rfl⟩, rfl⟩ := served_updateNode hserve.1
    · dsimp only
      rw [Context.holds_bind]
      have haudited : w₂.auditsOf vm.id = w₁.auditsOf vm.id := by
        unfold auditsOf
        rw [haudits₂]
      refine Context.holds_perform.mpr fun w₃ hrely₃ => ⟨⟨rfl, ?_⟩, fun r w₄ hserve => ?_⟩
      · unfold Audited
        rw [hrely₃.audits, haudited]
        exact hpending₁.fresh
      · obtain ⟨hserved, rfl⟩ := hserve
        obtain ⟨-, rfl⟩ | ⟨⟨e, he⟩, -⟩ := served_auditMigrated hserved
        · have hmoves : w₃.movesOf vm.id = ⟨vm.id, vm.vmid, q.target⟩ :: w₁.movesOf vm.id :=
            hrely₃.moves.trans (movesOf_of_update hpending₁.records hmoves₂)
          exact balanced_of_audit hpending₁.balanced hmoves (hrely₃.audits.trans haudited)
        · cases he
    · exact hpending₁.balanced

theorem holds_pollMigration (user : UserWithRoles) (hid : vm.id = v) (hbalanced : Balanced v w)
    (hpending : vm.node ≠ q.target → Pending v vm.vmid q w) :
    (pollContext v query).holds (pollMigration user vm q) (fun _ w' => Balanced v w') w := by
  unfold pollMigration
  refine Context.holds_ite.mpr ⟨fun _ => hbalanced, fun hnode => ?_⟩
  refine holds_plain_bind (fun _ _ h hbeside => BesidePoll.pending hbeside h) (only_perform.mpr rfl)
    (hpending hnode) (fun _ w₁ hpending₁ => ?_) fun _ _ h => h.balanced
  rw [Context.holds_bind]
  refine Context.holds_perform.mpr fun w₂ hrely => ⟨trivial, fun r w₃ hserve => ?_⟩
  have hpending₂ := hrely.pending hpending₁
  obtain ⟨rfl, hreport⟩ := served_taskStatus hserve.1
  cases r with
  | error e => exact hpending₂.balanced
  | ok report =>
      dsimp only [concludeMigration]
      refine Context.holds_ite.mpr ⟨fun hstopped => ?_, fun _ => hpending₂.balanced⟩
      cases hfailure : report.failure with
      | some exit => exact hpending₂.balanced
      | none =>
          obtain ⟨task, htask, hupid, rfl⟩ := hreport report rfl
          -- The task that was reported is the migration, for ids are unique.
          obtain ⟨task', htask', hupid', hmigrates⟩ := hpending₂.starts
          cases Table.eq_of_key_eq htask htask' (hupid.trans hupid'.symm)
          exact holds_finalizeMigration user hid hpending₂ ⟨task, htask, hmigrates, hstopped, hfailure⟩

theorem plain_ask {c : Call} (hc : Plain (.drift (.base c))) :
    Only (fun c : Call => Plain (.drift (.base c))) (ask c) := only_perform.mpr hc

theorem plain_requireVmAccess (actor : UserId) (id : VmId) :
    Only Plain (ofDrift (ofTask (requireVmAccess actor id))) :=
  only_ofDrift (only_ofTask ((plain_ask rfl).bind fun _ => (plain_ask rfl).bind fun _ =>
    .ite trivial trivial))

theorem found_of_served {r : Except Failure (Option VmRow)}
    (h : MigrationServed (.drift (.base (.vmsFindById v))) w r w') (hr : r = .ok (some vm)) :
    vm ∈ w.vms ∧ vm.id = v := by
  have hserved := served_drift h
  have hsame := hserved.eq_of_isLookup rfl
  rw [hsame, hr] at hserved
  obtain ⟨hvm, hid, -⟩ := findVmById_eq_some.mp (served_vmsFindById hserved).symm
  exact ⟨hvm, hid⟩

theorem holds_getMigration (actor : UserId) (hbalanced : Balanced v w) :
    (pollContext v query).holds (getMigration actor v query) (fun _ w' => Balanced v w') w := by
  unfold getMigration
  refine holds_plain_bind (fun _ _ h hbeside => BesidePoll.balanced hbeside h)
    (plain_requireVmAccess actor v) hbalanced (fun _ w₁ hbalanced₁ => ?_) fun _ _ h => h
  refine holds_plain_bind (fun _ _ h hbeside => BesidePoll.balanced hbeside h) (only_perform.mpr rfl)
    hbalanced₁ (fun user w₂ hbalanced₂ => ?_) fun _ _ h => h
  cases hquery : query with
  | error e => exact hbalanced₂
  | ok q =>
      change (pollContext v _).holds (askMigration (.drift (.base (.vmsFindById v))) >>= _) _ w₂
      rw [Context.holds_bind]
      refine Context.holds_perform.mpr fun w₃ hrely => ⟨rfl, fun r w₄ hserve => ?_⟩
      obtain ⟨hserved, horderly⟩ := hserve
      have hapart := apart_drift hserved rfl
      have hbalanced₃ := hrely.balanced hbalanced₂
      have hbalanced₄ := (hapart.beside v).balanced hbalanced₃
      cases r with
      | error e => exact hbalanced₄
      | ok found =>
          cases found with
          | none => exact hbalanced₄
          | some vm =>
              obtain ⟨hvm, hid⟩ := found_of_served hserved rfl
              obtain ⟨hstarts, hfresh⟩ := horderly q rfl vm hvm hid
              refine holds_pollMigration user hid hbalanced₄ fun hnode => ?_
              exact (hapart.beside v).pending
                ⟨⟨vm, hvm, hid, rfl⟩, hstarts, hfresh.resolve_left hnode, hbalanced₃⟩

/-! ## What a step does to the history -/

def Sound (w : MigrationWorld) : Prop := ∀ m ∈ w.moves, w.Migrated m.vmid m.target

def AuditedOnce (w : MigrationWorld) : Prop :=
  ∀ v upid, (w.auditsOf v).countP (fun a => decide (a.detail.upid = upid)) ≤ 1

structure Finalizes (v : VmId) (w w' : MigrationWorld) : Prop where
  beside : ∀ v' ≠ v, BesidePoll v' w w'
  sound : Sound w → Sound w'
  once : AuditedOnce w → AuditedOnce w'

theorem Uninvolved.finalizes (h : Uninvolved w w') (v : VmId) : Finalizes v w w' := by
  refine ⟨fun v' _ => h.beside v', fun hsound m hm => ?_, fun honce v' upid => ?_⟩
  · rw [h.moves] at hm
    exact h.toExtends.migrated (hsound m hm)
  · rw [(h.beside v').audits]
    exact honce v' upid

theorem finalizes_updateNode (h : MigrationServed (.drift (.vmsUpdateNode v node)) w r w')
    (hrec : w.Records v vmid) (hmigrated : w.Migrated vmid node) : Finalizes v w w' := by
  obtain ⟨-, hextends, haudits, hmoves⟩ | ⟨-, rfl⟩ := served_updateNode h
  · obtain ⟨vm, hvm, rfl, rfl⟩ := hrec
    rw [Table.find?_of_mem hvm] at hmoves
    have hcons : w'.moves = ⟨vm.id, vm.vmid, node⟩ :: w.moves := hmoves
    have hsame : ∀ v', w'.auditsOf v' = w.auditsOf v' := fun v' => by
      unfold auditsOf
      rw [haudits]
    refine ⟨fun v' hne => ⟨hextends, hsame v', ?_⟩, fun hsound m hm => ?_, fun honce v' upid => ?_⟩
    · unfold movesOf
      rw [hcons]
      exact List.filter_cons_of_neg fun heq => hne (of_decide_eq_true heq).symm
    · rw [hcons] at hm
      obtain rfl | hm := List.mem_cons.mp hm
      · exact hextends.migrated hmigrated
      · exact hextends.migrated (hsound m hm)
    · rw [hsame]
      exact honce v' upid
  · exact (Uninvolved.refl _).finalizes v

theorem finalizes_auditMigrated (h : MigrationServed (.auditMigrated actor v detail) w r w')
    (hfresh : ¬ w.Audited v detail.upid) : Finalizes v w w' := by
  obtain ⟨-, rfl⟩ | ⟨-, rfl⟩ := served_auditMigrated h
  · have hothers : ∀ v' ≠ v, auditsOf { w with audits := ⟨v, detail⟩ :: w.audits } v' = w.auditsOf v' :=
      fun v' hne => List.filter_cons_of_neg fun heq => hne (of_decide_eq_true heq).symm
    refine ⟨fun v' hne => ⟨⟨fun _ _ h => h, fun task htask => ⟨task, htask, rfl, rfl, fun _ => rfl⟩⟩,
      hothers v' hne, rfl⟩, fun hsound => hsound, fun honce v' upid => ?_⟩
    by_cases hv : v' = v
    · subst hv
      rw [auditsOf_cons, List.countP_cons]
      by_cases hupid : detail.upid = upid
      · subst hupid
        have hnone : (w.auditsOf v').countP (fun a => decide (a.detail.upid = detail.upid)) = 0 :=
          List.countP_eq_zero.mpr fun a ha heq => hfresh ⟨a, ha, of_decide_eq_true heq⟩
        rw [hnone]
        simp
      · simpa [hupid] using honce v' upid
    · rw [hothers v' hv]
      exact honce v' upid
  · exact (Uninvolved.refl _).finalizes v

theorem finalizes_of_owes {r : Except Failure c.Reply}
    (h : MigrationServed c w r w') (howes : PollOwes v c w) : Finalizes v w w' := by
  cases c with
  | drift c =>
      by_cases hspares : c.sparesVms = true
      · exact (apart_drift h hspares).finalizes v
      · unfold PollOwes at howes
        split at howes
        · next heq =>
            cases heq
            obtain ⟨rfl, vmid, hrec, hmigrated⟩ := howes
            exact finalizes_updateNode h hrec hmigrated
        · next heq =>
            cases heq
            exact absurd howes hspares
        · next heq => cases heq
        · next hnone _ => exact absurd rfl (hnone c)
  | migrate node vmid target online disks => exact (apart_migrate h).finalizes v
  | taskStatus node upid =>
      obtain ⟨rfl, -⟩ := served_taskStatus h
      exact (Uninvolved.refl _).finalizes v
  | auditMigrated actor id detail =>
      obtain ⟨rfl, hfresh⟩ := howes
      exact finalizes_auditMigrated h hfresh

end MigrationWorld

/-! ## Runs -/

def MigrationCall.isStart : MigrationCall → Bool
  | .drift c => c.sparesVms
  | .migrate _ _ _ _ _ => true
  | _ => false

abbrev StartCall (c : MigrationCall) : Prop := c.isStart = true

theorem start_askMigration {c : MigrationCall} (hc : StartCall c) : Only StartCall (askMigration c) :=
  only_perform.mpr hc

theorem StartCall.of_plain {α : Type} {p : MigrationTask α} (hp : Only Plain p) : Only StartCall p := by
  refine hp.mono fun c hc => ?_
  cases c with
  | drift c => exact hc
  | _ => cases hc

open MigrationWorld (plain_ask plain_requireVmAccess)

theorem plain_ejectDrives (vm : VmRow) (config : VmConfig) (ejected : List String) :
    Only (fun c : Call => Plain (.drift (.base c))) (ejectDrives vm config ejected) := by
  induction config generalizing ejected with
  | nil => trivial
  | cons entry rest ih =>
      refine .ite (Only.bind (Only.tryCatch ?_ fun _ => only_pure) fun done => ?_) (ih ejected)
      · exact (plain_ask rfl).bind fun _ => only_pure
      · exact .ite (ih _) only_pure

theorem plain_ejectLocalMedia (vm : VmRow) : Only Plain (ofDrift (ofTask (ejectLocalMedia vm))) := by
  refine only_ofDrift (only_ofTask (Only.bind (Only.tryCatch (plain_ask rfl) fun _ => only_pure) ?_))
  exact fun config => plain_ejectDrives vm config []

theorem plain_loadVm (id : VmId) : Only Plain (ofDrift (ofTask (loadVm id))) :=
  only_ofDrift (only_ofTask ((plain_ask rfl).bind fun _ => only_orRaise))

theorem only_postMigrate (actor : UserId) (id : VmId) (body : Except Failure MigrateBody) :
    Only StartCall (postMigrate actor id body) := by
  refine (StartCall.of_plain (plain_requireVmAccess actor id)).bind fun _ => ?_
  refine (start_askMigration rfl).bind fun _ => only_ofExcept.bind fun body => ?_
  refine (StartCall.of_plain (plain_loadVm id)).bind fun vm => .ite only_raise ?_
  refine (start_askMigration rfl).bind fun _ => ?_
  refine (StartCall.of_plain (plain_ejectLocalMedia vm)).bind fun _ => ?_
  exact (start_askMigration rfl).bind fun _ => only_pure

namespace MigrationSystem

open MigrationWorld

/-- What polls come to: writes follow migrations, a migration is audited once at most, and the
audit rows of a VM without a poll are its writes. -/
structure Finalized (s : MigrationSystem) : Prop where
  sound : s.world.Sound
  once : s.world.AuditedOnce
  balanced : ∀ v, (∀ poll ∈ s.polls, poll.id ≠ v) → Balanced v s.world

structure Inv (s : MigrationSystem) : Prop extends Finalized s where
  serial : (s.polls.map Poll.id).Nodup
  polls : ∀ poll ∈ s.polls, (pollContext poll.id poll.query).holds poll.prog
    (fun _ w => Balanced poll.id w) s.world
  starts : ∀ p ∈ s.starts, Only StartCall p

variable {s s' : MigrationSystem}

theorem holds_beside {poll : Poll} {w w' : MigrationWorld} (hbeside : BesidePoll poll.id w w')
    (hpoll : (pollContext poll.id poll.query).holds poll.prog (fun _ w => Balanced poll.id w) w) :
    (pollContext poll.id poll.query).holds poll.prog (fun _ w => Balanced poll.id w) w' :=
  Context.holds_of_rely (fun _ _ _ h hrely => BesidePoll.balanced hrely h) hpoll hbeside

theorem Inv.apart (h : s.Inv) {w' : MigrationWorld} (hapart : Uninvolved s.world w')
    {starts : List (MigrationTask MigrationStarted)} (hstarts : ∀ p ∈ starts, Only StartCall p) :
    Inv { s with world := w', starts } where
  sound := (hapart.finalizes 0).sound h.sound
  once := (hapart.finalizes 0).once h.once
  balanced v hv := (hapart.beside v).balanced (h.balanced v hv)
  serial := h.serial
  polls poll hpoll := holds_beside (hapart.beside poll.id) (h.polls poll hpoll)
  starts := hstarts

theorem Inv.observe (h : s.Inv) {before after : List Poll} {id : VmId}
    {query : Except Failure MigrationQuery} {c : MigrationCall}
    {next : Except Failure c.Reply → MigrationTask MigrationState} {r : Except Failure c.Reply}
    {w' : MigrationWorld} (hpolls : s.polls = before ++ ⟨id, query, .call c next⟩ :: after)
    (hserved : MigrationServed c s.world r w') (horderly : OrderlyCall id query s.world c r) :
    Inv { s with world := w', polls := before ++ ⟨id, query, next r⟩ :: after } := by
  have hcalls : (pollContext id query).holds (.call c next) (fun _ w => Balanced id w) s.world :=
    h.polls ⟨id, query, .call c next⟩ (by rw [hpolls]; exact List.mem_append_right _ List.mem_cons_self)
  have hdone := finalizes_of_owes hserved (Context.guarantee_of_holds hcalls)
  have hserial := h.serial
  rw [hpolls, List.map_append, List.map_cons, List.nodup_middle, List.nodup_cons] at hserial
  have hothers : ∀ poll ∈ before ++ after, poll.id ≠ id := by
    intro poll hpoll heq
    have hmem : poll.id ∈ (before ++ after).map Poll.id := List.mem_map_of_mem hpoll
    rw [heq, List.map_append] at hmem
    exact hserial.1 hmem
  refine ⟨⟨hdone.sound h.sound, hdone.once h.once, fun v hv => ?_⟩, ?_, ?_, h.starts⟩
  · have hne : id ≠ v := hv ⟨id, query, next r⟩ (List.mem_append_right _ List.mem_cons_self)
    refine (hdone.beside v hne.symm).balanced (h.balanced v fun poll hpoll => ?_)
    rw [hpolls] at hpoll
    obtain hbefore | hrest := List.mem_append.mp hpoll
    · exact hv poll (List.mem_append_left _ hbefore)
    · obtain rfl | hafter := List.mem_cons.mp hrest
      · exact hne
      · exact hv poll (List.mem_append_right _ (List.mem_cons_of_mem _ hafter))
  · rw [List.map_append, List.map_cons, List.nodup_middle, List.nodup_cons]
    exact hserial
  · refine (forall_mem_middle (B := fun poll : Poll => (pollContext poll.id poll.query).holds poll.prog
      (fun _ w => Balanced poll.id w) w')).mpr ⟨?_, fun poll hpoll => ?_⟩
    · exact (hcalls s.world (BesidePoll.refl id _)).2 r w' ⟨hserved, horderly⟩
    · refine holds_beside (hdone.beside poll.id (hothers poll hpoll)) (h.polls poll ?_)
      rw [hpolls]
      obtain hbefore | hafter := List.mem_append.mp hpoll
      · exact List.mem_append_left _ hbefore
      · exact List.mem_append_right _ (List.mem_cons_of_mem _ hafter)

theorem Inv.answer (h : s.Inv) {before after : List Poll} {id : VmId}
    {query : Except Failure MigrationQuery} {result : Except Failure MigrationState}
    (hpolls : s.polls = before ++ ⟨id, query, .ofExcept result⟩ :: after) :
    Inv { s with polls := before ++ after } := by
  have hmem : ∀ poll ∈ before ++ after, poll ∈ s.polls := fun poll hpoll => by
    rw [hpolls]
    obtain hbefore | hafter := List.mem_append.mp hpoll
    · exact List.mem_append_left _ hbefore
    · exact List.mem_append_right _ (List.mem_cons_of_mem _ hafter)
  have hended : Balanced id s.world := Context.holds_ofExcept.mp (h.polls ⟨id, query, .ofExcept result⟩
    (by rw [hpolls]; exact List.mem_append_right _ List.mem_cons_self))
  have hserial := h.serial
  rw [hpolls, List.map_append, List.map_cons, List.nodup_middle, List.nodup_cons] at hserial
  refine ⟨⟨h.sound, h.once, fun v hv => ?_⟩, ?_, fun poll hpoll => h.polls poll (hmem poll hpoll),
    h.starts⟩
  · by_cases hid : id = v
    · exact hid ▸ hended
    · refine h.balanced v fun poll hpoll => ?_
      rw [hpolls] at hpoll
      obtain hbefore | hrest := List.mem_append.mp hpoll
      · exact hv poll (List.mem_append_left _ hbefore)
      · obtain rfl | hafter := List.mem_cons.mp hrest
        · exact hid
        · exact hv poll (List.mem_append_right _ hafter)
  · rw [List.map_append]
    exact hserial.2

theorem Inv.step {event : MigrationEvent} (h : s.Inv) (hstep : MigrationStep s event s')
    (horderly : s.Orderly event) : s'.Inv := by
  cases hstep with
  | request actor id body =>
      refine h.apart (.refl _) (List.forall_mem_cons.mpr ⟨only_postMigrate actor id body, h.starts⟩)
  | start hstarts hserved =>
      have hprogs := h.starts
      rw [hstarts] at hprogs
      obtain ⟨hcalls, hrest⟩ := forall_mem_middle.mp hprogs
      refine h.apart ?_ (forall_mem_middle.mpr ⟨hcalls.2 _, hrest⟩)
      have hcall := hcalls.1
      unfold StartCall MigrationCall.isStart at hcall
      split at hcall
      · exact apart_drift hserved hcall
      · exact apart_migrate hserved
      · cases hcall
  | poll actor id query =>
      refine ⟨⟨h.sound, h.once, fun v hv => h.balanced v fun poll hpoll =>
        hv poll (List.mem_cons_of_mem _ hpoll)⟩, ?_, ?_, h.starts⟩
      · refine List.nodup_cons.mpr ⟨fun hmem => ?_, h.serial⟩
        obtain ⟨poll, hpoll, hid⟩ := List.mem_map.mp hmem
        exact horderly poll hpoll hid
      · exact List.forall_mem_cons.mpr ⟨holds_getMigration actor (h.balanced id horderly), h.polls⟩
  | observe hpolls hserved => exact h.observe hpolls hserved horderly
  | answer hpolls => exact h.answer hpolls
  | others hextends haudits hmoves => exact h.apart ⟨hextends, haudits, hmoves⟩ h.starts

/-- **Migrations are finalized soundly and once.**  In every run whose steps are orderly, a tracked
node is written only after a migration of that very guest to it has ended well, no migration has
two audit rows, and the audit rows of a VM that is not being polled are the writes of its node. -/
theorem migrations_finalized {drift : DriftWorld} {tasks : Table ProxmoxTask.upid}
    (hrun : MigrationRun Orderly (.idle drift tasks) s) : s.Finalized := by
  have hinv : s.Inv := by
    induction hrun with
    | refl => exact ⟨⟨nofun, fun _ _ => Nat.zero_le 1, fun _ _ => rfl⟩, .nil, nofun, nofun⟩
    | tail _ hstep ih =>
        obtain ⟨event, hstep, horderly⟩ := hstep
        exact ih.step hstep horderly
  exact hinv.toFinalized

/-! ### Sample runs -/

def plainFates : (c : MigrationCall) → Fate c.Reply
  | .drift c => .answer c.plainReply
  | .migrate _ _ _ _ _ => .answer "UPID:migrate"
  | .taskStatus _ _ => .answer ⟨"running", none⟩
  | .auditMigrated _ _ _ => .answer ()

/-- `OrderlyCall`, as a computation. -/
def isOrderlyCall (v : VmId) (q : MigrationQuery) (w : MigrationWorld) :
    (c : MigrationCall) → Except Failure c.Reply → Bool
  | .drift (.base (.vmsFindById _)), _ => w.vms.rows.all fun vm => decide (vm.id ≠ v) ||
      (w.tasks.rows.any fun task =>
        decide (task.upid = q.upid ∧ task.migrates = some (vm.vmid, q.target))) &&
      (decide (vm.node = q.target) || (w.auditsOf v).all fun a => decide (a.detail.upid ≠ q.upid))
  | .auditMigrated _ _ _, r => decide (r.toOption = some ())
  | _, _ => true

theorem orderlyCall_of_isOrderlyCall {v : VmId} {q : MigrationQuery} {w : MigrationWorld}
    {c : MigrationCall} {r : Except Failure c.Reply} (h : isOrderlyCall v q w c r = true) :
    OrderlyCall v (.ok q) w c r := by
  unfold OrderlyCall
  split
  · intro q' hq vm hvm hid
    cases hq
    have hvm := List.all_eq_true.mp h vm hvm
    simp only [Bool.or_eq_true, Bool.and_eq_true, decide_eq_true_eq, List.any_eq_true,
      List.all_eq_true] at hvm
    obtain ⟨⟨task, htask, hupid, hmigrates⟩, hfresh⟩ := hvm.resolve_left fun hne => hne hid
    refine ⟨⟨task, htask, hupid, hmigrates⟩, hfresh.imp_right fun hnone haudited => ?_⟩
    obtain ⟨a, ha, heq⟩ := haudited
    exact hnone a ha heq
  · next r =>
      have hok := of_decide_eq_true h
      cases r with
      | ok _ => rfl
      | error e => cases hok
  · trivial

def playPoll (meets : (w : MigrationWorld) → (c : MigrationCall) → Except Failure c.Reply → Bool)
    (c : MigrationCall) (w : MigrationWorld) : Option (Except Failure c.Reply × MigrationWorld) :=
  let out := w.serve c (plainFates c)
  if c.Enabled w ∧ meets w c out.1 = true then some out else none

def polling (v : VmId) (q : MigrationQuery) (cfg : MigrationTask MigrationState × MigrationWorld) :
    MigrationSystem := ⟨cfg.2, [], [⟨v, .ok q, cfg.1⟩]⟩

/-- The poll alone, for `n` calls. -/
def polled (meets : (w : MigrationWorld) → (c : MigrationCall) → Except Failure c.Reply → Bool)
    (drift : DriftWorld) (tasks : Table ProxmoxTask.upid) (actor : UserId) (v : VmId)
    (q : MigrationQuery) (n : Nat) : MigrationSystem :=
  polling v q (drive (playPoll meets) n (getMigration actor v (.ok q), ⟨drift, tasks, [], []⟩))

theorem run_polled {meets : MigrationSystem → MigrationEvent → Prop}
    {meets? : (w : MigrationWorld) → (c : MigrationCall) → Except Failure c.Reply → Bool}
    {drift : DriftWorld} {tasks : Table ProxmoxTask.upid} {actor : UserId} {v : VmId}
    {q : MigrationQuery} {n : Nat} (harrival : meets (.idle drift tasks) (.arrival v))
    (hcall : ∀ s c r, meets? s.world c r = true → meets s (.call v (.ok q) c r)) :
    MigrationRun meets (.idle drift tasks) (polled meets? drift tasks actor v q n) := by
  refine .head ⟨_, .poll actor v (.ok q), harrival⟩ ?_
  refine reaches_drive (polling v q) (fun c next w r w' hplay => ?_) n (getMigration actor v (.ok q), _)
  unfold playPoll at hplay
  dsimp only at hplay
  split at hplay
  · next hmeets =>
      obtain ⟨henabled, hmeets⟩ := hmeets
      have hserve := Option.some.inj hplay
      rw [hserve] at hmeets
      have hpolls : (polling v q (.call c next, w)).polls = [] ++ ⟨v, .ok q, .call c next⟩ :: [] := rfl
      exact ⟨_, .observe hpolls ⟨henabled, plainFates c, hserve⟩, hcall _ c r hmeets⟩
  · cases hplay

/-- The sample VM has been migrated to `pve2`. -/
def sampleTasks : Table ProxmoxTask.upid :=
  ⟨[⟨"UPID:migrate", some (500, "pve2"), ⟨"stopped", some "OK"⟩⟩], by decide⟩

def sampleQuery : MigrationQuery := ⟨"UPID:migrate", "pve2", none, none⟩

theorem migrations_finalized_sample :
    (polled (isOrderlyCall 30 sampleQuery) .sample sampleTasks 10 30 sampleQuery 8).world.moves =
        [⟨30, 500, "pve2"⟩] ∧
      (polled (isOrderlyCall 30 sampleQuery) .sample sampleTasks 10 30 sampleQuery 8).Finalized :=
  ⟨by decide +kernel, migrations_finalized (run_polled (fun _ hpoll => absurd hpoll List.not_mem_nil)
    fun _ _ _ h => orderlyCall_of_isOrderlyCall h)⟩

def backupTasks : Table ProxmoxTask.upid :=
  ⟨[⟨"UPID:vzdump", none, ⟨"stopped", some "OK"⟩⟩], by decide⟩

def forgedQuery : MigrationQuery := ⟨"UPID:vzdump", "pve9", none, none⟩

/-- A poll moves the tracked node of a VM that has never been migrated. -/
theorem forged_poll_moves : ¬ ∀ (drift : DriftWorld) (tasks : Table ProxmoxTask.upid) (s : MigrationSystem),
      MigrationRun (fun _ _ => True) (.idle drift tasks) s → s.Finalized := by
  intro hclaim
  have hrun : MigrationRun (fun _ _ => True) (.idle .sample backupTasks)
      (polled (fun _ _ _ => true) .sample backupTasks 10 30 forgedQuery 8) :=
    run_polled trivial fun _ _ _ _ => trivial
  obtain ⟨task, htask, hmigrates, -⟩ := (hclaim _ _ _ hrun).sound ⟨30, 500, "pve9"⟩ (by decide +kernel)
  have hnone : ∀ task ∈ (polled (fun _ _ _ => true) .sample backupTasks 10 30 forgedQuery
      8).world.tasks.rows, task.migrates = none := by decide +kernel
  rw [hnone task htask] at hmigrates
  cases hmigrates

end MigrationSystem

end ProxVM
