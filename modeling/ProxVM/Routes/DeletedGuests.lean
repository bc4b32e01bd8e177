import ProxVM.Drift.Deletion
import ProxVM.Routes.VmDeletion

/-!
# Whether a deleted VM has a guest

`DELETE /vms/:id` and a rollback delete a record when Proxmox has deleted the guest, or
when one of its failures reads as if there were no guest.  Both ask the node of the
record, while the guest may run on another one; a decommission looks at the whole
cluster instead.

A `Cluster` is the installation with the tasks that Proxmox has accepted.  A deletion is
such a task: the guest is gone when the task has ended well, not when it is accepted.
-/

namespace ProxVM

open Tables Interaction

structure GuestTask where
  upid : String
  vmid : Nat
  deletes : Bool
  deriving DecidableEq, Repr

structure Cluster where
  world : DriftWorld
  tasks : List GuestTask

def DriftCall.isGuestTask : DriftCall → Bool
  | .base (.proxmoxStop _ _) => true
  | .base (.proxmoxDelete _ _) => true
  | .base (.proxmoxTaskExit _ _) => true
  | _ => false

def DriftCall.isMild : DriftCall → Bool
  | .base (.proxmoxClone _) => false
  | c => c.sparesVms

abbrev Mild (c : DriftCall) : Prop := c.isMild = true

namespace Cluster

abbrev vms (s : Cluster) : Table VmRow.id := s.world.base.db.vms

abbrev guests (s : Cluster) : List Guest := s.world.base.guests

def Lacks (s : Cluster) (vmid : Nat) : Prop := ∀ g ∈ s.guests, g.vmid ≠ vmid

def Records (s : Cluster) (id : VmId) (vmid : Nat) : Prop := ∃ vm ∈ s.vms, vm.id = id ∧ vm.vmid = vmid

def accept (s : Cluster) (vmid : Nat) (deletes : Bool) : Fate String → Except Failure String × Cluster
  | .answer upid => (.ok upid, { s with tasks := ⟨upid, vmid, deletes⟩ :: s.tasks })
  | .refuse e => (.error e, s)
  | .lose e upid => (.error e, { s with tasks := ⟨upid, vmid, deletes⟩ :: s.tasks })

def isDeletedBy (s : Cluster) (upid : String) (g : Guest) : Bool :=
  s.tasks.any fun t => t.deletes && decide (t.upid = upid) && decide (t.vmid = g.vmid)

def finish (s : Cluster) (upid : String) : Cluster :=
  { s with
    world := { s.world with
      base := { s.world.base with guests := s.guests.filter fun g => !s.isDeletedBy upid g } } }

def await (s : Cluster) (upid : String) : Fate TaskExit → Except Failure TaskExit × Cluster
  | .answer .ok => (.ok .ok, s.finish upid)
  | .answer (.failed exitstatus) => (.ok (.failed exitstatus), s)
  | .refuse e => (.error e, s)
  | .lose e _ => (.error e, s)

def serve (s : Cluster) : (c : DriftCall) → Fate c.Reply → Except Failure c.Reply × Cluster
  | .base (.proxmoxStop _ vmid), fate => s.accept vmid false fate
  | .base (.proxmoxDelete _ vmid), fate => s.accept vmid true fate
  | .base (.proxmoxTaskExit _ upid), fate => s.await upid fate
  | c, fate => ((s.world.serve c fate).1, { s with world := (s.world.serve c fate).2 })

/-- In `s`, the call `c` may end with `r` and leave `s'`. -/
def Served (c : DriftCall) (s : Cluster) (r : Except Failure c.Reply) (s' : Cluster) : Prop :=
  c.Enabled s.world ∧ ∃ fate, s.serve c fate = (r, s')

/-- What the others do: records keep their vmids, tasks stay known, and nobody creates a
guest for a record that has none. -/
structure Steady (s s' : Cluster) : Prop where
  records : ∀ id vmid, s.Records id vmid → s'.Records id vmid
  tasks : s.tasks ⊆ s'.tasks
  guests : ∀ id vmid, s.Records id vmid → s.Lacks vmid → s'.Lacks vmid

theorem Steady.refl (s : Cluster) : Steady s s :=
  ⟨fun _ _ h => h, fun _ h => h, fun _ _ _ h => h⟩

theorem Steady.trans {s₁ s₂ s₃ : Cluster} (h : Steady s₁ s₂) (h' : Steady s₂ s₃) : Steady s₁ s₃ where
  records id vmid hrec := h'.records id vmid (h.records id vmid hrec)
  tasks _ ht := h'.tasks (h.tasks ht)
  guests id vmid hrec hlacks :=
    h'.guests id vmid (h.records id vmid hrec) (h.guests id vmid hrec hlacks)

def DeletesAbsent : DriftCall → Cluster → Prop
  | .base (.vmsSoftDelete id), s => ∀ vm ∈ s.vms, vm.id = id → s.Lacks vm.vmid
  | _, _ => True

def context (meets : Cluster → (c : DriftCall) → Except Failure c.Reply → Prop) :
    Context driftCalls Failure Cluster where
  serve c s r s' := Served c s r s' ∧ meets s c r
  rely := Steady
  guarantee := DeletesAbsent
  rely_refl := Steady.refl
  rely_trans := Steady.trans

/-- A failure about a guest that reads as if it were gone is right, and a deletion is
answered with its task. -/
def Truthful (gone : String → Bool) (s : Cluster) : (c : DriftCall) → Except Failure c.Reply → Prop
  | .base (.proxmoxQemuStatus _ vmid), .error e => gone e.message = true → s.Lacks vmid
  | .base (.proxmoxStop _ vmid), .error e => gone e.message = true → s.Lacks vmid
  | .base (.proxmoxDelete _ vmid), .error e => gone e.message = true → s.Lacks vmid
  | .base (.proxmoxDelete _ _), .ok upid => upid ≠ ""
  | .base (.proxmoxTaskExit _ upid), .error e =>
      gone e.message = true → ∀ t ∈ s.tasks, t.upid = upid → s.Lacks t.vmid
  | .base (.proxmoxTaskExit _ upid), .ok (.failed exitstatus) =>
      gone ("Proxmox task " ++ upid ++ " failed with exitstatus " ++ exitstatus) = true →
        ∀ t ∈ s.tasks, t.upid = upid → s.Lacks t.vmid
  | _, _ => True

/-! ## The calls -/

variable {s s' : Cluster} {r : Except Failure String} {node : String} {vmid : Nat} {upid : String}

theorem served_status (h : Served (.base (.proxmoxQemuStatus node vmid)) s r s') : s' = s := by
  obtain ⟨-, fate, heq⟩ := h
  cases fate with
  | answer given => exact (Prod.mk.inj heq).2.symm
  | refuse e => exact (Prod.mk.inj heq).2.symm
  | lose e given => exact (Prod.mk.inj heq).2.symm

theorem accept_spec {deletes : Bool} {fate : Fate String} (h : s.accept vmid deletes fate = (r, s')) :
    Steady s s' ∧ (s'.guests = s.guests) ∧ ∀ upid, r = .ok upid → ⟨upid, vmid, deletes⟩ ∈ s'.tasks := by
  cases fate with
  | answer given =>
      cases h
      exact ⟨⟨fun _ _ h => h, fun _ => List.mem_cons_of_mem _, fun _ _ _ h => h⟩, rfl,
        fun upid hok => by cases hok; exact List.mem_cons_self⟩
  | refuse e =>
      cases h
      exact ⟨.refl s, rfl, nofun⟩
  | lose e given =>
      cases h
      exact ⟨⟨fun _ _ h => h, fun _ => List.mem_cons_of_mem _, fun _ _ _ h => h⟩, rfl, nofun⟩

variable {t : GuestTask} {c : DriftCall} {β : Type}

theorem lacks_finish (ht : t ∈ s.tasks) (hdeletes : t.deletes = true) : (s.finish t.upid).Lacks t.vmid := by
  intro g hg heq
  have hspared := (List.mem_filter.mp hg).2
  rw [Bool.not_eq_true', isDeletedBy, List.any_eq_false] at hspared
  refine hspared t ht ?_
  simp [hdeletes, heq]

theorem Steady.finish (s : Cluster) (upid : String) : Steady s (s.finish upid) :=
  ⟨fun _ _ h => h, fun _ h => h, fun _ _ _ h g hg => h g (List.mem_filter.mp hg).1⟩

theorem served_await {r : Except Failure TaskExit} (h : Served (.base (.proxmoxTaskExit node upid)) s r s') :
    (r = .ok .ok ∧ s' = s.finish upid) ∨ (r ≠ .ok .ok ∧ s' = s) := by
  obtain ⟨-, fate, heq⟩ := h
  change s.await upid fate = (r, s') at heq
  cases fate with
  | answer exit =>
      cases exit with
      | ok =>
          cases heq
          exact .inl ⟨rfl, rfl⟩
      | failed exitstatus =>
          cases heq
          exact .inr ⟨nofun, rfl⟩
  | refuse e =>
      cases heq
      exact .inr ⟨nofun, rfl⟩
  | lose e given =>
      cases heq
      exact .inr ⟨nofun, rfl⟩

theorem Served.elsewhere {r : Except Failure c.Reply} (h : Served c s r s')
    (hc : c.isGuestTask = false) : DriftServed c s.world r s'.world ∧ s'.tasks = s.tasks := by
  obtain ⟨henabled, fate, heq⟩ := h
  unfold serve at heq
  split at heq
  · cases hc
  · cases hc
  · cases hc
  · cases heq
    exact ⟨⟨henabled, fate, rfl⟩, rfl⟩

theorem sparesVms_of_isMild (hc : Mild c) : c.sparesVms = true := by
  unfold Mild DriftCall.isMild at hc
  split at hc
  · cases hc
  · exact hc

theorem deletesAbsent_of_isMild (hc : Mild c) : DeletesAbsent c s := by
  unfold DeletesAbsent
  split
  · cases hc
  · trivial

theorem guests_of_isMild {w w' : DriftWorld} {r : Except Failure c.Reply}
    (hserved : DriftServed c w r w') (hc : Mild c) (htask : c.isGuestTask = false) :
    w'.base.guests = w.base.guests := by
  cases hwrites : c.writesBase with
  | false => rw [hserved.frame.base hwrites]
  | true =>
      cases c with
      | base b => exact hserved.base.1.frame.guests (by
          cases b <;> first | rfl | (cases hc; done) | cases htask)
      | vmsDeleteDirectAccess id =>
          obtain ⟨e, -, rfl⟩ | ⟨given, hanswer⟩ := hserved.cases rfl
          · rfl
          · cases hanswer
            rfl
      | vmsDeleteGroupAccess id =>
          obtain ⟨e, -, rfl⟩ | ⟨given, hanswer⟩ := hserved.cases rfl
          · rfl
          · cases hanswer
            rfl
      | vmsUpdateName id name => cases hc
      | vmsUpdateNode id node => cases hc
      | _ => cases hwrites

theorem Served.steady {r : Except Failure c.Reply} (h : Served c s r s') (hc : Mild c) : Steady s s' := by
  cases htask : c.isGuestTask with
  | false =>
      obtain ⟨hserved, htasks⟩ := h.elsewhere htask
      have hvms : s'.vms = s.vms := hserved.vms (sparesVms_of_isMild hc)
      have hguests : s'.guests = s.guests := guests_of_isMild hserved hc htask
      refine ⟨fun id vmid hrec => ?_, fun t ht => by rwa [htasks], fun _ _ _ hlacks => ?_⟩
      · unfold Records
        rwa [hvms]
      · unfold Lacks
        rwa [hguests]
  | true =>
      unfold DriftCall.isGuestTask at htask
      split at htask
      · obtain ⟨-, fate, heq⟩ := h
        exact (accept_spec heq).1
      · obtain ⟨-, fate, heq⟩ := h
        exact (accept_spec heq).1
      · obtain ⟨-, rfl⟩ | ⟨-, rfl⟩ := served_await h
        · exact .finish s _
        · exact .refl _
      · cases htask

/-! ## Programs -/

variable {gone : String → Bool} {vm : VmRow} {α : Type}

theorem holds_mild {p : DriftTask α} {I : Cluster → Prop}
    (hstable : ∀ s s', I s → Steady s s' → I s') (hp : Only Mild p) (hI : I s) :
    (context (Truthful gone)).holds p (fun _ s' => I s') s :=
  Context.holds_of_only hstable (fun _ _ hc _ => deletesAbsent_of_isMild hc)
    (fun _ _ _ _ hc hI hserved => hstable _ _ hI (hserved.1.steady hc)) hp hI

def Told (gone : String → Bool) (vm : VmRow) (r : Except Failure α) (s : Cluster) : Prop :=
  s.Records vm.id vm.vmid ∧ ∀ e, r = .error e → gone e.message = true → s.Lacks vm.vmid

theorem holds_waitForTaskIfAny (ht : t ∈ s.tasks) (hvmid : t.vmid = vm.vmid)
    (hrec : s.Records vm.id vm.vmid) :
    (context (Truthful gone)).holds (ofTask (waitForTaskIfAny node t.upid)) (fun r s' =>
      Told gone vm r s' ∧
        (t.upid ≠ "" → t.deletes = true → r = .ok () → s'.Lacks vm.vmid)) s := by
  unfold waitForTaskIfAny
  split
  · next hnone => exact ⟨⟨hrec, nofun⟩, fun hsome => absurd hnone hsome⟩
  · unfold waitForTask
    rw [ofTask_bind, ofTask_ask, Context.holds_bind]
    refine Context.holds_perform.mpr fun s₁ hrely => ⟨trivial, fun r s₂ hserve => ?_⟩
    obtain ⟨hserved, htruth⟩ := hserve
    have hrec₂ := (hserved.steady rfl).records _ _ (hrely.records _ _ hrec)
    have ht₁ := hrely.tasks ht
    obtain ⟨rfl, rfl⟩ | ⟨hr, rfl⟩ := served_await hserved
    · exact ⟨⟨hrec₂, nofun⟩, fun _ hdeletes _ => hvmid ▸ lacks_finish ht₁ hdeletes⟩
    · cases r with
      | error e =>
          refine ⟨⟨hrec₂, fun e' he hgone => ?_⟩, nofun⟩
          cases he
          exact hvmid ▸ htruth hgone t ht₁ rfl
      | ok exit =>
          cases exit with
          | ok => exact absurd rfl hr
          | failed exitstatus =>
              refine ⟨⟨hrec₂, fun e' he hgone => ?_⟩, nofun⟩
              cases he
              exact hvmid ▸ htruth hgone t ht₁ rfl

theorem holds_stopGuest (hrec : s.Records vm.id vm.vmid) :
    (context (Truthful gone)).holds (ofTask (stopGuest vm)) (Told gone vm) s := by
  unfold stopGuest
  rw [ofTask_bind, ofTask_ask, Context.holds_bind]
  refine Context.holds_perform.mpr fun s₁ hrely => ⟨trivial, fun r s₂ hserve => ?_⟩
  obtain ⟨hserved, htruth⟩ := hserve
  have hrec₁ := hrely.records _ _ hrec
  cases served_status hserved
  cases r with
  | error e =>
      refine ⟨hrec₁, fun e' he hgone => ?_⟩
      cases he
      exact htruth hgone
  | ok status =>
      dsimp only
      split
      · rw [ofTask_bind, ofTask_ask, Context.holds_bind]
        refine Context.holds_perform.mpr fun s₂ hrely => ⟨trivial, fun r s₃ hserve => ?_⟩
        obtain ⟨⟨-, fate, heq⟩, htruth⟩ := hserve
        obtain ⟨hsteady, hguests, htask⟩ := accept_spec heq
        have hrec₃ := hsteady.records _ _ (hrely.records _ _ hrec₁)
        cases r with
        | error e =>
            refine ⟨hrec₃, fun e' he hgone => ?_⟩
            cases he
            have hlacks := htruth hgone
            unfold Lacks
            rwa [hguests]
        | ok upid =>
            exact Context.holds_mono (holds_waitForTaskIfAny (htask upid rfl) rfl hrec₃)
              fun _ _ h => h.1
      · exact ⟨hrec₁, nofun⟩

theorem holds_eraseGuest (hrec : s.Records vm.id vm.vmid) :
    (context (Truthful gone)).holds (ofTask (eraseGuest vm)) (fun r s' =>
      Told gone vm r s' ∧ (r = .ok () → s'.Lacks vm.vmid)) s := by
  unfold eraseGuest
  rw [ofTask_bind, Context.holds_bind]
  refine Context.holds_mono (holds_stopGuest hrec) fun r s₁ hstop => ?_
  cases r with
  | error e =>
      refine ⟨⟨hstop.1, fun e' he => ?_⟩, nofun⟩
      cases he
      exact hstop.2 e rfl
  | ok _ =>
      dsimp only
      rw [ofTask_bind, ofTask_ask, Context.holds_bind]
      refine Context.holds_perform.mpr fun s₂ hrely => ⟨trivial, fun r s₃ hserve => ?_⟩
      obtain ⟨⟨-, fate, heq⟩, htruth⟩ := hserve
      obtain ⟨hsteady, hguests, htask⟩ := accept_spec heq
      have hrec₃ := hsteady.records _ _ (hrely.records _ _ hstop.1)
      cases r with
      | error e =>
          refine ⟨⟨hrec₃, fun e' he hgone => ?_⟩, nofun⟩
          cases he
          have hlacks := htruth hgone
          unfold Lacks
          rwa [hguests]
      | ok upid =>
          exact Context.holds_mono (holds_waitForTaskIfAny (htask upid rfl) rfl hrec₃)
            fun _ _ h => ⟨h.1, h.2 htruth rfl⟩

theorem holds_softDelete (hrec : s.Records vm.id vm.vmid) (hlacks : s.Lacks vm.vmid) :
    (context (Truthful gone)).holds (askDrift (.base (.vmsSoftDelete vm.id))) (fun _ _ => True) s := by
  refine Context.holds_perform.mpr fun s₁ hrely => ⟨fun vm' hvm' hid => ?_, fun _ _ _ => trivial⟩
  obtain ⟨vm₁, hvm₁, hid₁, hvmid⟩ := hrely.records _ _ hrec
  cases Table.eq_of_key_eq hvm' hvm₁ (hid.trans hid₁.symm)
  rw [hvmid]
  exact hrely.guests _ _ hrec hlacks

variable {p : DriftTask α} {f : α → DriftTask β}

theorem holds_recorded_bind (hrec : s.Records vm.id vm.vmid) (hp : Only Mild p)
    (hf : ∀ a s', s'.Records vm.id vm.vmid → (context (Truthful gone)).holds (f a) (fun _ _ => True) s') :
    (context (Truthful gone)).holds (p >>= f) (fun _ _ => True) s :=
  Context.holds_bind_of (holds_mild (I := fun s' => s'.Records vm.id vm.vmid)
    (fun _ _ h hsteady => hsteady.records _ _ h) hp hrec) hf fun _ _ _ => trivial

theorem holds_mild_bind (hrec : s.Records vm.id vm.vmid) (hlacks : s.Lacks vm.vmid) (hp : Only Mild p)
    (hf : ∀ a s', s'.Records vm.id vm.vmid → s'.Lacks vm.vmid →
      (context (Truthful gone)).holds (f a) (fun _ _ => True) s') :
    (context (Truthful gone)).holds (p >>= f) (fun _ _ => True) s := by
  refine Context.holds_bind_of (holds_mild (I := fun s' =>
      s'.Records vm.id vm.vmid ∧ s'.Lacks vm.vmid) (fun s₁ s₂ h hsteady => ?_) hp ⟨hrec, hlacks⟩)
    (fun a s' h => hf a s' h.1 h.2) fun _ _ _ => trivial
  exact ⟨hsteady.records _ _ h.1, hsteady.guests _ _ h.1 h.2⟩

theorem holds_before (hp : Only Mild p)
    (hf : ∀ a s', (context (Truthful gone)).holds (f a) (fun _ _ => True) s') :
    (context (Truthful gone)).holds (p >>= f) (fun _ _ => True) s :=
  Context.holds_bind_of (holds_mild (I := fun _ => True) (fun _ _ _ _ => trivial) hp trivial)
    (fun a s' _ => hf a s') fun _ _ _ => trivial

theorem records_of_found {id : VmId} (h : Served (.base (.vmsFindById id)) s (.ok (some vm)) s') :
    s'.Records vm.id vm.vmid ∧ vm.id = id := by
  obtain ⟨hserved, -⟩ := h.elsewhere rfl
  have hsame := hserved.eq_of_isLookup rfl
  rw [hsame] at hserved
  have hfound := served_vmsFindById hserved
  obtain ⟨hvm, hid, -⟩ := findVmById_eq_some.mp hfound.symm
  exact ⟨⟨vm, by rw [vms, hsame]; exact hvm, rfl, rfl⟩, hid⟩

end Cluster

theorem mild_ask {c : Call} (hc : Mild (.base c)) :
    Only (fun c : Call => Mild (.base c)) (ask c) := only_perform.mpr hc

theorem mild_askDrift {c : DriftCall} (hc : Mild c) : Only Mild (askDrift c) := only_perform.mpr hc

/-! ## `DELETE /vms/:id` -/

namespace Cluster

variable {s : Cluster} {vm : VmRow}

def deletionTakesForGone (message : String) : Bool := saysNotFound message || decide (message = "")

theorem objection_ofError {message : String} (hnone : (Erasure.ofError message).objection = none) :
    deletionTakesForGone message = true := by
  unfold Erasure.ofError at hnone
  split at hnone
  · next hsays => simp [deletionTakesForGone, hsays]
  · by_cases hempty : message = ""
    · simp [deletionTakesForGone, hempty]
    · simp [Erasure.objection, hempty] at hnone

theorem holds_attemptErasure (hrec : s.Records vm.id vm.vmid) :
    (context (Truthful deletionTakesForGone)).holds (ofTask (attemptErasure vm)) (fun r s' =>
      ∀ outcome : Erasure, r = .ok outcome → outcome.objection = none →
        s'.Records vm.id vm.vmid ∧ s'.Lacks vm.vmid) s := by
  unfold attemptErasure
  rw [ofTask_tryCatch, Context.holds_tryCatch, ofTask_bind, Context.holds_bind]
  refine Context.holds_mono (holds_eraseGuest hrec) fun r s₁ h => ?_
  obtain ⟨⟨hrec₁, htold⟩, herased⟩ := h
  cases r with
  | ok _ => exact fun _ _ _ => ⟨hrec₁, herased rfl⟩
  | error e =>
      intro outcome hok hnone
      rw [← Except.ok.inj hok] at hnone
      exact ⟨hrec₁, htold e rfl (objection_ofError hnone)⟩

theorem holds_requireErasure (hrec : s.Records vm.id vm.vmid) :
    (context (Truthful deletionTakesForGone)).holds (ofTask (requireErasure vm)) (fun r s' =>
      ∀ proxmoxDeleted, r = .ok proxmoxDeleted →
        s'.Records vm.id vm.vmid ∧ s'.Lacks vm.vmid) s := by
  unfold requireErasure
  rw [ofTask_bind, Context.holds_bind]
  refine Context.holds_mono (holds_attemptErasure hrec) fun r s₁ h => ?_
  cases r with
  | error e => exact nofun
  | ok outcome =>
      dsimp only
      split
      · next hnone => exact fun _ _ => h outcome rfl hnone
      · exact nofun

theorem mild_deleteConnections (vm : VmRow) : Only Mild (ofTask (deleteConnections vm)) :=
  only_ofTask (Only.tryCatch ((mild_ask rfl).bind fun _ => mild_ask rfl) fun _ => trivial)

theorem holds_deleteRecords (user : UserWithRoles) (hrec : s.Records vm.id vm.vmid)
    (hlacks : s.Lacks vm.vmid) :
    (context (Truthful deletionTakesForGone)).holds (deleteRecords user vm) (fun _ _ => True) s := by
  unfold deleteRecords
  refine holds_mild_bind hrec hlacks (mild_askDrift rfl) fun _ s₁ hrec₁ hlacks₁ => ?_
  refine holds_mild_bind hrec₁ hlacks₁ (mild_askDrift rfl) fun _ s₂ hrec₂ hlacks₂ => ?_
  refine Context.holds_bind_of (holds_softDelete hrec₂ hlacks₂) (fun _ s₃ _ => ?_) fun _ _ _ => trivial
  refine holds_mild (fun _ _ _ _ => trivial) ?_ trivial
  exact (mild_askDrift rfl).bind fun _ => (mild_askDrift rfl).bind fun _ => mild_askDrift rfl

theorem holds_eraseVm (user : UserWithRoles) (hrec : s.Records vm.id vm.vmid) :
    (context (Truthful deletionTakesForGone)).holds (eraseVm user vm) (fun _ _ => True) s := by
  unfold eraseVm
  refine holds_recorded_bind hrec (mild_askDrift rfl) fun _ s₁ hrec₁ => ?_
  rw [Context.holds_bind]
  refine Context.holds_mono (holds_requireErasure hrec₁) fun r s₂ herased => ?_
  cases r with
  | error e => trivial
  | ok proxmoxDeleted =>
      obtain ⟨hrec₂, hlacks₂⟩ := herased proxmoxDeleted rfl
      refine holds_mild_bind hrec₂ hlacks₂ (mild_deleteConnections vm) fun _ s₃ hrec₃ hlacks₃ => ?_
      exact Context.holds_bind_of (holds_deleteRecords user hrec₃ hlacks₃) (fun _ _ _ => trivial)
        fun _ _ _ => trivial

theorem holds_loadVm (gone : String → Bool) (id : VmId) :
    (context (Truthful gone)).holds (ofTask (loadVm id)) (fun r s' =>
      ∀ vm, r = .ok vm → s'.Records vm.id vm.vmid) s := by
  unfold loadVm
  rw [ofTask_bind, ofTask_ask, Context.holds_bind]
  refine Context.holds_perform.mpr fun s₁ _ => ⟨trivial, fun r s₂ hserve => ?_⟩
  cases r with
  | error e => exact fun vm hok => by cases hok
  | ok found =>
      cases found with
      | none => exact fun vm hok => by cases hok
      | some vm =>
          intro vm' hok
          cases hok
          exact (records_of_found hserve.1).1

theorem mild_checkPrivacyFlag (user : UserWithRoles) (vm : VmRow) :
    Only Mild (ofTask (checkPrivacyFlag user vm)) :=
  only_ofTask (.ite ((mild_ask rfl).bind fun _ => .ite trivial trivial) trivial)

theorem holds_deleteVm (actor : UserId) (id : VmId) (body : Except Failure String) :
    (context (Truthful deletionTakesForGone)).holds (deleteVm actor id body) (fun _ _ => True) s := by
  unfold deleteVm
  refine holds_before (mild_askDrift rfl) fun user s₁ => ?_
  rw [Context.holds_bind]
  refine Context.holds_mono (holds_loadVm _ id) fun r s₂ hloaded => ?_
  cases r with
  | error e => trivial
  | ok vm =>
      refine holds_recorded_bind (hloaded vm rfl) (mild_checkPrivacyFlag user vm) fun _ s₃ hrec₃ => ?_
      refine holds_recorded_bind hrec₃ only_ofExcept fun _ s₄ hrec₄ => ?_
      exact Context.holds_ite.mpr ⟨fun _ => holds_eraseVm user hrec₄, fun _ => trivial⟩

/-! ## `POST /jobs/:id/rollback` -/

theorem holds_deleteGuest (hrec : s.Records vm.id vm.vmid) :
    (context (Truthful saysNotFound)).holds (ofTask (deleteGuest vm)) (fun r s' =>
      r = .ok () → s'.Records vm.id vm.vmid ∧ s'.Lacks vm.vmid) s := by
  rw [deleteGuest_eq, ofTask_tryCatch, Context.holds_tryCatch]
  refine Context.holds_mono (holds_eraseGuest hrec) fun r s₁ h => ?_
  obtain ⟨⟨hrec₁, htold⟩, herased⟩ := h
  cases r with
  | ok _ => exact fun _ => ⟨hrec₁, herased rfl⟩
  | error e =>
      dsimp only
      rw [ofTask_ite, Context.holds_ite]
      exact ⟨fun hsays _ => ⟨hrec₁, htold e rfl hsays⟩, fun _ hok => by cases hok⟩

theorem mild_dropConnections (vm : VmRow) : Only (fun c : Call => Mild (.base c)) (bestEffort do
      ask .getGuacDb
      ask (.guacDeleteVmResources vm.id)) :=
  ((mild_ask rfl).bind fun _ => mild_ask rfl).tryCatch fun _ => trivial

theorem mild_accessibleJob (actor : UserId) (permission : Permission) (id : JobId) :
    Only Mild (ofTask (accessibleJob actor permission id)) := by
  refine only_ofTask ((mild_ask rfl).bind fun _ => (mild_ask rfl).bind fun user =>
    (mild_ask rfl).bind fun job => Only.bind ?_ fun _ => trivial)
  refine .ite trivial ?_
  cases job.vmId with
  | none => trivial
  | some id =>
      refine (mild_ask rfl).bind fun vm => ?_
      cases vm.filter VmRow.privacyFlag with
      | none => trivial
      | some vm => exact (mild_ask rfl).bind fun _ => .ite trivial trivial

theorem holds_deleteJobVm (job : JobRow) :
    (context (Truthful saysNotFound)).holds (ofTask (deleteJobVm job)) (fun _ _ => True) s := by
  unfold deleteJobVm
  cases job.vmId with
  | none => trivial
  | some id =>
      rw [ofTask_bind, ofTask_ask, Context.holds_bind]
      refine Context.holds_perform.mpr fun s₁ _ => ⟨trivial, fun r s₂ hserve => ?_⟩
      cases r with
      | error e => trivial
      | ok found =>
          cases found with
          | none => trivial
          | some vm =>
              have hrec := (records_of_found hserve.1).1
              dsimp only
              rw [ofTask_bind, ofTask_ask]
              refine holds_recorded_bind hrec (mild_askDrift rfl) fun _ s₃ hrec₃ => ?_
              rw [ofTask_bind, Context.holds_bind]
              refine Context.holds_mono (holds_deleteGuest hrec₃) fun r s₄ hgone => ?_
              cases r with
              | error e => trivial
              | ok _ =>
                  obtain ⟨hrec₄, hlacks⟩ := hgone rfl
                  dsimp only
                  rw [ofTask_bind]
                  refine holds_mild_bind hrec₄ hlacks (only_ofTask (mild_dropConnections vm))
                    fun _ s₅ hrec₅ hlacks₅ => ?_
                  rw [ofTask_bind, ofTask_ask]
                  refine holds_mild_bind hrec₅ hlacks₅ (mild_askDrift rfl)
                    fun _ s₆ hrec₆ hlacks₆ => ?_
                  rw [ofTask_ask]
                  exact holds_softDelete hrec₆ hlacks₆

theorem holds_postRollback (actor : UserId) (id : JobId) :
    (context (Truthful saysNotFound)).holds (ofTask (postRollback actor id true)) (fun _ _ => True) s := by
  unfold postRollback
  rw [ofTask_bind]
  refine holds_before (mild_accessibleJob actor .vmDelete id) fun access s₁ => ?_
  dsimp only
  rw [ofTask_bind, ofTask_ask]
  refine holds_before (mild_askDrift rfl) fun _ s₂ => ?_
  rw [if_pos rfl, ofTask_bind]
  refine Context.holds_bind_of (holds_deleteJobVm access.2) (fun _ s₃ _ => ?_) fun _ _ _ => trivial
  rw [ofTask_ask]
  exact holds_mild (fun _ _ _ _ => trivial) (mild_askDrift rfl) trivial

/-! ## Runs -/

inductive Deletion
  | vm (actor : UserId) (id : VmId) (body : Except Failure String)
  | rollback (actor : UserId) (id : JobId)

def Deletion.program : Deletion → DriftTask Unit
  | .vm actor id body => do
      let _reply ← deleteVm actor id body
  | .rollback actor id => ofTask (postRollback actor id true)

def Deletion.takesForGone : Deletion → String → Bool
  | .vm _ _ _ => deletionTakesForGone
  | .rollback _ _ => saysNotFound

theorem holds_deletion (d : Deletion) :
    (context (Truthful d.takesForGone)).holds d.program (fun _ _ => True) s := by
  cases d with
  | vm actor id body =>
      exact Context.holds_bind_of (holds_deleteVm actor id body) (fun _ _ _ => trivial)
        fun _ _ _ => trivial
  | rollback actor id => exact holds_postRollback actor id

/-- **Deletion implies absence.**  In every run in which a failure that reads as if the guest were
gone is right and every deletion is answered with its task, no guest of the cluster has the vmid
of a record that the request is about to delete. -/
theorem absent_at_softDelete {d : Deletion} {s s' : Cluster} {id : VmId}
    {next : Except Failure Unit → DriftTask Unit}
    (hreach : Reaches (context (Truthful d.takesForGone)) (d.program, s)
      (.call (.base (.vmsSoftDelete id)) next, s')) : ∀ vm ∈ s'.vms, vm.id = id → s'.Lacks vm.vmid :=
  Context.guarantee_of_holds
    (Context.holds_reaches (fun _ _ _ _ _ => trivial) (holds_deletion d) hreach)

/-! ### Sample runs -/

def play (fates : DriftFates) (c : DriftCall) (s : Cluster) :
    Option (Except Failure c.Reply × Cluster) :=
  if c.Enabled s.world then some (s.serve c (fates c)) else none

theorem serve_of_play {fates : DriftFates} {c : DriftCall} {r : Except Failure c.Reply}
    (hplay : play fates c s = some (r, s')) : c.Enabled s.world ∧ s.serve c (fates c) = (r, s') := by
  unfold play at hplay
  split at hplay
  · next henabled => exact ⟨henabled, Option.some.inj hplay⟩
  · cases hplay

theorem served_play {fates : DriftFates} {c : DriftCall} {r : Except Failure c.Reply}
    (hplay : play fates c s = some (r, s')) : Served c s r s' :=
  ⟨(serve_of_play hplay).1, fates c, (serve_of_play hplay).2⟩

def deletedBy : DriftCall → Option VmId
  | .base (.vmsSoftDelete id) => some id
  | _ => none

theorem reaches_play (meets : Cluster → (c : DriftCall) → Except Failure c.Reply → Prop)
    (fates : DriftFates) (p : DriftTask Unit) (n : Nat) {s : Cluster} {id : VmId}
    (hmeets : ∀ c s r s', play fates c s = some (r, s') → meets s c r)
    (hpending : (drive (play fates) n (p, s)).1.pending?.bind deletedBy = some id) :
    ∃ next, Reaches (context meets) (p, s)
      (.call (.base (.vmsSoftDelete id)) next, (drive (play fates) n (p, s)).2) := by
  have hcall : ∀ (c : DriftCall) (next : Except Failure c.Reply → DriftTask Unit) (s : Cluster)
      (r : Except Failure c.Reply) (s' : Cluster), play fates c s = some (r, s') →
        Moves (context meets) (.call c next, s) (next r, s') :=
    fun c next s r s' hplay => .call ⟨served_play hplay, hmeets c s r s' hplay⟩
  have hrun := reaches_drive (fun cfg => cfg) hcall n (p, s)
  obtain ⟨c, hc, hdeleted⟩ := Option.bind_eq_some_iff.mp hpending
  obtain ⟨next, hnext⟩ := Prog.eq_call_of_pending hc
  unfold deletedBy at hdeleted
  split at hdeleted
  · cases hdeleted
    exact ⟨next, hnext ▸ hrun⟩
  · cases hdeleted

def erasing : DriftFates
  | .base (.proxmoxStop _ _) => .answer "UPID:pve1:stop"
  | .base (.proxmoxDelete _ _) => .answer "UPID:pve1:delete"
  | c => .answer c.plainReply

def elsewhere : DriftFates
  | .base (.proxmoxQemuStatus _ _) =>
      .refuse (.other "VM 500 does not exist")
  | c => .answer c.plainReply

def sample : Cluster := ⟨DriftWorld.sampleCloning, []⟩

def sampleMoved : Cluster :=
  ⟨{ DriftWorld.sample with
    base := { DriftWorld.sample.base with guests := [⟨500, "pve2", "UPID:web"⟩] } }, []⟩

/-- `root` deletes the sample VM. -/
def sampleDeletion : Deletion := .vm 10 30 (.ok "DELETE web")

theorem absent_at_softDelete_sample : ∃ s', (∃ next, Reaches (context (Truthful sampleDeletion.takesForGone))
        (sampleDeletion.program, sample) (.call (.base (.vmsSoftDelete 30)) next, s')) ∧
      ∀ vm ∈ s'.vms, vm.id = 30 → s'.Lacks vm.vmid := by
  have htruthful : ∀ c s r s', play erasing c s = some (r, s') →
      Truthful sampleDeletion.takesForGone s c r := by
    intro c s r s' hplay
    have hserve := (serve_of_play hplay).2
    unfold Truthful
    split
    · cases hserve
    · cases hserve
    · cases hserve
    · cases hserve
      exact (by decide : "UPID:pve1:delete" ≠ "")
    · cases hserve
    · cases hserve
    · trivial
  obtain ⟨next, hrun⟩ := reaches_play _ _ sampleDeletion.program 12 htruthful
    (by decide +kernel : (drive (play erasing) 12 (sampleDeletion.program, sample)).1.pending?.bind
      deletedBy = some 30)
  exact ⟨_, ⟨next, hrun⟩, absent_at_softDelete hrun⟩

/-- The record of a guest that has been moved to another node is deleted, and the guest stays. -/
theorem moved_guest_survives :
    ¬ ∀ (d : Deletion) (s s' : Cluster) (id : VmId) (next : Except Failure Unit → DriftTask Unit),
      Reaches (context fun _ _ _ => True) (d.program, s) (.call (.base (.vmsSoftDelete id)) next, s') →
        ∀ vm ∈ s'.vms, vm.id = id → s'.Lacks vm.vmid := by
  intro hclaim
  obtain ⟨next, hrun⟩ := reaches_play (fun _ _ _ => True) elsewhere sampleDeletion.program 8
    (fun _ _ _ _ _ => trivial)
    (by decide +kernel : (drive (play elsewhere) 8 (sampleDeletion.program, sampleMoved)).1.pending?.bind
      deletedBy = some 30)
  have hlacks := hclaim _ _ _ 30 next hrun .web (by decide +kernel) rfl
  exact hlacks ⟨500, "pve2", "UPID:web"⟩ (by decide +kernel) rfl

end Cluster

end ProxVM
