import Mathlib.Algebra.Order.BigOperators.Group.List
import Mathlib.Algebra.Order.Ring.Nat
import Mathlib.Data.Nat.Find
import ProxVM.Provisioning.Placement
import ProxVM.Routes.Vms

/-!
# The ids of cloned guests

The clone step of a job takes the id of its request, or asks Proxmox for a free one and walks past the
ids that rows and guests have.  `POST /vms/:id/clone` asks Proxmox and walks past the ids of rows only,
so that it may walk from a free id onto a guest's.
-/

namespace ProxVM

open Tables Interaction

/-! ## The cluster -/

/-- `/cluster/nextid`: an id that no guest has. -/
structure NextId where
  propose : List Guest → Nat
  propose_free : ∀ guests, ∀ g ∈ guests, g.vmid ≠ propose guests

def Honest (ids : NextId) : (c : Call) → World → Except Failure c.Reply → Prop
  | .proxmoxNextId, w, r => ∀ vmid, r = .ok vmid → vmid = ids.propose w.guests
  | .proxmoxClusterResources, w, r => ∀ resources, r = .ok resources →
      ∀ g ∈ w.guests, g.vmid ∈ resources.map ClusterResource.vmid
  | _, _, _ => True

def ServedBy (ids : NextId) (c : Call) (w : World) (r : Except Failure c.Reply) (w' : World) : Prop :=
  Served c w r w' ∧ Honest ids c w r

def TrackedVmid (w : World) (node : String) (vmid : Nat) : Prop :=
  ∃ row ∈ w.db.vms, row.node = node ∧ row.vmid = vmid

def Unused (w : World) (node : String) (vmid : Nat) : Prop :=
  ¬ TrackedVmid w node vmid ∧ ∀ g ∈ w.guests, g.vmid ≠ vmid

section ids

variable {ids : NextId} {w w' : World} {node : String} {vmid : Nat}

theorem mem_listVmidsByNode : vmid ∈ w.db.listVmidsByNode node ↔ TrackedVmid w node vmid := by
  unfold Db.listVmidsByNode TrackedVmid
  rw [List.mem_map]
  simp only [List.mem_filter, decide_eq_true_eq, Table.mem_def, and_assoc]

theorem insertVm_of_unused {row : VmRow} (hunused : Unused w row.node row.vmid)
    (hfresh : w.db.vms.find? row.id = none) : (w.db.insertVm row).isSome := by
  have hnone : (w.db.vms.rows.any fun v =>
      decide (v.vmid = row.vmid) && decide (v.node = row.node)) = false := by
    refine List.any_eq_false.mpr fun v hv hsame => hunused.1 ⟨v, hv, ?_⟩
    obtain ⟨hvmid, hnode⟩ := Bool.and_eq_true_iff.mp hsame
    exact ⟨of_decide_eq_true hnode, of_decide_eq_true hvmid⟩
  obtain ⟨vms, hinsert⟩ := Table.insert?_isSome fun v hv heq =>
    Table.find?_eq_none_iff.mp hfresh v hv heq
  unfold Db.insertVm
  rw [if_neg (Bool.eq_false_iff.mp hnone), hinsert]
  rfl

theorem advanceVmid_eq_some_iff {busy : Nat → Bool} {fuel next : Nat} :
    StepRunner.advanceVmid busy fuel next = some vmid ↔ next ≤ vmid ∧ vmid < next + fuel ∧ busy vmid = false ∧
        ∀ v, next ≤ v → v < vmid → busy v = true := by
  induction fuel generalizing next with
  | zero =>
      constructor
      · intro hnone
        cases hnone
      · rintro ⟨hle, hlt, -⟩
        omega
  | succ fuel ih =>
      rw [StepRunner.advanceVmid]
      split
      · next hbusy =>
          rw [ih]
          constructor
          · rintro ⟨hle, hlt, hfree, hbelow⟩
            refine ⟨by omega, by omega, hfree, fun v hv hvmid => ?_⟩
            obtain rfl | hmore := Nat.eq_or_lt_of_le hv
            · exact hbusy
            · exact hbelow v hmore hvmid
          · rintro ⟨hle, hlt, hfree, hbelow⟩
            have hne : next ≠ vmid := by
              rintro rfl
              cases hbusy.symm.trans hfree
            exact ⟨by omega, by omega, hfree, fun v hv hvmid => hbelow v (by omega) hvmid⟩
      · next hfree =>
          constructor
          · intro hsome
            obtain rfl := Option.some.inj hsome
            exact ⟨Nat.le_refl _, by omega, Bool.eq_false_iff.mpr hfree, fun v hv hlt => by omega⟩
          · rintro ⟨hle, -, -, hbelow⟩
            obtain rfl | hmore := Nat.eq_or_lt_of_le hle
            · rfl
            · exact absurd (hbelow next (Nat.le_refl _) hmore) hfree

variable {c : Call} {α : Type}

theorem ServedBy.answered {a : c.Reply} (hserved : ServedBy ids c w (.ok a) w')
    (hread : c.isRead = true) : w' = w ∧ ∃ given, w.answer c given = (.ok a, w') := by
  refine ⟨hserved.1.read hread, ?_⟩
  have hlocal : c.isRemote = false := by
    cases c <;> first | rfl | cases hread
  obtain hanswer | ⟨e, hfailed⟩ := hserved.1.cases hlocal
  · exact hanswer
  · cases c <;> first | (cases (Prod.mk.inj hfailed).1; done) | cases hread

theorem ends_read {a : c.Reply} (hread : c.isRead = true) (hends : Ends (ServedBy ids) (ask c) w (.ok a) w') :
    w' = w ∧ (∃ given, w.answer c given = (.ok a, w)) ∧ Honest ids c w (.ok a) := by
  have hserved := ends_perform.mp hends
  obtain ⟨rfl, hanswer⟩ := hserved.answered hread
  exact ⟨rfl, hanswer, hserved.2⟩

def Call.plain : Call → Bool
  | .proxmoxClone _ => false
  | _ => true

theorem not_makes_clone {p : Task α} (hp : Only (fun c : Call => c.plain = true) p)
    {opts : CloneOptions} : ¬ Makes (ServedBy ids) p w (.proxmoxClone opts) w' := by
  intro hmakes
  cases hmakes.kind hp

theorem only_ask (hc : c.plain = true) : Only (fun c : Call => c.plain = true) (ask c) :=
  only_perform.mpr hc

theorem makes_of_read {f : c.Reply → Task α} {opts : CloneOptions} (hread : c.isRead = true)
    (hmakes : Makes (ServedBy ids) (ask c >>= f) w (.proxmoxClone opts) w') :
    ∃ a, (∃ given, w.answer c given = (.ok a, w)) ∧ Honest ids c w (.ok a) ∧
      Makes (ServedBy ids) (f a) w (.proxmoxClone opts) w' := by
  obtain hhere | ⟨a, w₁, hends, hthere⟩ := hmakes.of_bind
  · obtain ⟨rfl, -⟩ := makes_perform hhere
    cases hread
  · obtain ⟨rfl, hanswer, hhonest⟩ := ends_read hread hends
    exact ⟨a, hanswer, hhonest, hthere⟩

theorem makes_of_orRaise {α β : Type} {x : Option β} {e : Failure} {f : β → Task α} {opts : CloneOptions}
    (hmakes : Makes (ServedBy ids) (Prog.orRaise x e >>= f) w (.proxmoxClone opts) w') :
    ∃ b, x = some b ∧ Makes (ServedBy ids) (f b) w (.proxmoxClone opts) w' := by
  cases x with
  | none => cases hmakes
  | some b => exact ⟨b, rfl, hmakes⟩

theorem only_waitForTask {node upid : String} :
    Only (fun c : Call => c.plain = true) (waitForTask node upid) := by
  unfold waitForTask
  refine (only_ask rfl).bind fun exit => ?_
  cases exit with
  | ok => exact only_pure
  | failed exitstatus => exact only_raise

/-! ## The clone step of a job -/

namespace StepRunner

variable {k : StepRunner} {r : SharedState}

theorem chooseVmid_ok (hends : Ends (ServedBy ids) (k.chooseVmid r) w (.ok vmid) w') :
    w' = w ∧ ((k.request.vmid.filter fun n => n ≠ 0) = some vmid ∨ Unused w r.node vmid) := by
  unfold chooseVmid at hends
  cases hasked : k.request.vmid.filter fun n => n ≠ 0 with
  | some asked =>
      rw [hasked] at hends
      obtain ⟨rfl, rfl⟩ := hends.of_pure_ok
      exact ⟨rfl, .inl rfl⟩
  | none =>
      rw [hasked] at hends
      obtain ⟨next, w₁, hnext, hends⟩ := hends.of_bind_ok
      obtain ⟨rfl, -, hproposed⟩ := ends_read rfl hnext
      obtain rfl := hproposed next rfl
      obtain ⟨taken, w₂, htaken, hends⟩ := hends.of_bind_ok
      obtain ⟨rfl, ⟨_, hlisted⟩, -⟩ := ends_read rfl htaken
      obtain rfl : w₂.db.listVmidsByNode r.node = taken := Except.ok.inj (Prod.mk.inj hlisted).1
      -- no guest has the proposed id; the guests matter only once the search leaves it
      split at hends
      · obtain ⟨resources, w₃, hresources, hends⟩ := hends.of_bind_ok
        obtain ⟨rfl, -, hall⟩ := ends_read rfl hresources
        have hguests := hall resources rfl
        dsimp only at hends
        cases hfound : advanceVmid (fun v => decide (v ∈ w₃.db.listVmidsByNode r.node) ||
            decide (v ∈ resources.map ClusterResource.vmid)) 1000 (ids.propose w₃.guests) with
        | none =>
            rw [hfound] at hends
            cases hends
        | some found =>
            rw [hfound] at hends
            obtain ⟨rfl, rfl⟩ := hends.of_pure_ok
            obtain ⟨-, -, hfree, -⟩ := advanceVmid_eq_some_iff.mp hfound
            obtain ⟨huntracked, hunlisted⟩ := Bool.or_eq_false_iff.mp hfree
            refine ⟨rfl, .inr ⟨fun htracked => ?_, fun g hg hvmid => ?_⟩⟩
            · exact of_decide_eq_false huntracked (mem_listVmidsByNode.mpr htracked)
            · exact of_decide_eq_false hunlisted (hvmid ▸ hguests g hg)
      · next huntracked =>
          obtain ⟨rfl, rfl⟩ := hends.of_pure_ok
          refine ⟨rfl, .inr ⟨fun htracked => huntracked (mem_listVmidsByNode.mpr htracked), ?_⟩⟩
          exact ids.propose_free w'.guests

theorem only_chooseVmid : Only (fun c : Call => c.plain = true) (k.chooseVmid r) := by
  unfold chooseVmid
  split
  · exact only_pure
  · refine (only_ask rfl).bind fun next => (only_ask rfl).bind fun taken => Only.ite ?_ only_pure
    exact (only_ask rfl).bind fun resources => only_orRaise

variable {createdByUserId : Option UserId}

theorem cloneTemplate_makes {opts : CloneOptions}
    (hmakes : Makes (ServedBy ids) (cloneTemplate createdByUserId k r) w (.proxmoxClone opts) w') :
    w' = w ∧ r.template.isSome ∧ w.db.findVmByIdKey opts.newVmid r.node = none ∧
      ((k.request.vmid.filter fun n => n ≠ 0) = some opts.newVmid ∨ Unused w r.node opts.newVmid) := by
  unfold cloneTemplate at hmakes
  obtain ⟨_, -, -, hmakes⟩ := makes_of_read rfl hmakes
  obtain ⟨t, htemplate, hmakes⟩ := makes_of_orRaise hmakes
  obtain hhere | ⟨vmid, w₁, hchosen, hrest⟩ := hmakes.of_bind
  · exact absurd hhere (not_makes_clone only_chooseVmid)
  obtain ⟨rfl, hvmid⟩ := chooseVmid_ok hchosen
  obtain ⟨existing, ⟨_, hlooked⟩, -, hclones⟩ := makes_of_read rfl hrest
  obtain rfl : w₁.db.findVmByIdKey vmid r.node = existing := Except.ok.inj (Prod.mk.inj hlooked).1
  dsimp only at hclones
  split at hclones
  · cases hclones
  · next hnone =>
      have huntracked := Option.not_isSome_iff_eq_none.mp hnone
      obtain hhere | ⟨upid, w₂, -, hafter⟩ := hclones.of_bind
      · obtain ⟨heq, rfl⟩ := makes_perform hhere
        cases heq
        rw [htemplate]
        exact ⟨rfl, rfl, huntracked, hvmid⟩
      · -- nothing after the clone makes another one
        refine absurd hafter (not_makes_clone ?_)
        refine only_waitForTask.bind fun _ => Only.bind ?_ fun vm => ?_
        · unfold findOrCreateVm
          refine (only_ask rfl).bind fun existing => ?_
          cases existing with
          | none => exact only_ask rfl
          | some vm => exact only_pure
        · exact (only_ask rfl).bind fun _ => (only_ask rfl).bind fun _ => only_pure

theorem makes_cloneTemplate {t : TemplateRow}
    (htemplate : r.template = some t) (hasked : (k.request.vmid.filter fun n => n ≠ 0) = some vmid)
    (hlive : w.db.findVmByIdKey vmid r.node = none) : ∃ opts : CloneOptions, opts.newVmid = vmid ∧
      Makes (ServedBy ids) (cloneTemplate createdByUserId k r) w (.proxmoxClone opts) w := by
  have hclient : ServedBy ids .getProxmoxClient w (.ok ()) w :=
    ⟨⟨trivial, .answer (), rfl⟩, trivial⟩
  have hlookup : ServedBy ids (.vmsFindByIdKey vmid r.node) w (.ok none) w := by
    refine ⟨⟨trivial, .answer none, ?_⟩, trivial⟩
    exact congrArg (fun found => (Except.ok found, w)) hlive
  refine ⟨{ node := t.node, templateVmid := t.proxmoxVmid, newVmid := vmid, name := k.request.name
            full := !k.request.linkedClone
            storage := if (!k.request.linkedClone) = true then some k.request.storage else none
            target := if (!k.request.linkedClone) = true then some r.node else none }, rfl, ?_⟩
  unfold cloneTemplate chooseVmid
  rw [htemplate, hasked]
  exact .later hclient (.later hlookup .now)

theorem cloneTemplate_unused_iff :
    (∀ opts w', Makes (ServedBy ids) (cloneTemplate createdByUserId k r) w (.proxmoxClone opts) w' →
        Unused w' r.node opts.newVmid) ↔
      (r.template.isSome → ∀ vmid, (k.request.vmid.filter fun n => n ≠ 0) = some vmid →
        (w.db.findVmByIdKey vmid r.node).isSome ∨ Unused w r.node vmid) := by
  constructor
  · intro hunused htemplate vmid hasked
    obtain ⟨t, htemplate⟩ := Option.isSome_iff_exists.mp htemplate
    cases hlive : w.db.findVmByIdKey vmid r.node with
    | some row => exact .inl rfl
    | none =>
        obtain ⟨opts, rfl, hmakes⟩ := makes_cloneTemplate htemplate hasked hlive
        exact .inr (hunused opts w hmakes)
  · intro hcondition opts w' hmakes
    obtain ⟨rfl, htemplate, hlive, hchosen⟩ := cloneTemplate_makes hmakes
    obtain hasked | hunused := hchosen
    · obtain hrefused | hunused := hcondition htemplate opts.newVmid hasked
      · rw [hlive] at hrefused
        cases hrefused
      · exact hunused
    · exact hunused

end StepRunner

/-! ## `POST /vms/:id/clone` -/

/-- The first id from `next` on that no row of the node has, if it is among the first thousand. -/
def FirstUntracked (w : World) (node : String) (next vmid : Nat) : Prop :=
  next ≤ vmid ∧ vmid < next + 1000 ∧ ¬ TrackedVmid w node vmid ∧
    ∀ v, next ≤ v → v < vmid → TrackedVmid w node v

theorem advanceVmid_taken {next : Nat} :
    StepRunner.advanceVmid (fun v => decide (v ∈ w.db.listVmidsByNode node)) 1000 next = some vmid ↔
      FirstUntracked w node next vmid := by
  rw [advanceVmid_eq_some_iff]
  unfold FirstUntracked
  simp only [decide_eq_false_iff_not, decide_eq_true_eq, mem_listVmidsByNode]

section clone

variable {user : UserWithRoles} {id : VmId} {body : CloneBody} {opts : CloneOptions}

theorem loadVm_ok {vm : VmRow} (hends : Ends (ServedBy ids) (loadVm id) w (.ok vm) w') :
    w' = w ∧ findVmById w.db id = some vm := by
  unfold loadVm at hends
  obtain ⟨found, w₁, hfind, hsome⟩ := hends.of_bind_ok
  cases found with
  | none => cases hsome
  | some row =>
      obtain ⟨rfl, rfl⟩ := hsome.of_pure_ok
      obtain ⟨hok, rfl⟩ | ⟨⟨e, herror⟩, -⟩ :=
        (ends_perform.mp hfind).1.determined rfl (fun _ => rfl) fun _ => rfl
      · exact ⟨rfl, (Except.ok.inj hok).symm⟩
      · cases herror

theorem chooseCloneVmid_ok (hends : Ends (ServedBy ids) (chooseCloneVmid node) w (.ok vmid) w') :
    w' = w ∧ FirstUntracked w node (ids.propose w.guests) vmid := by
  unfold chooseCloneVmid at hends
  obtain ⟨taken, w₁, htaken, hends⟩ := hends.of_bind_ok
  obtain ⟨rfl, ⟨_, hlisted⟩, -⟩ := ends_read rfl htaken
  obtain rfl : w₁.db.listVmidsByNode node = taken := Except.ok.inj (Prod.mk.inj hlisted).1
  obtain ⟨next, w₂, hnext, hends⟩ := hends.of_bind_ok
  obtain ⟨rfl, -, hproposed⟩ := ends_read rfl hnext
  obtain rfl := hproposed next rfl
  cases hfound : StepRunner.advanceVmid (fun v => decide (v ∈ w₂.db.listVmidsByNode node)) 1000
      (ids.propose w₂.guests) with
  | none =>
      rw [hfound] at hends
      cases hends
  | some found =>
      rw [hfound] at hends
      obtain ⟨rfl, rfl⟩ := hends.of_pure_ok
      exact ⟨rfl, advanceVmid_taken.mp hfound⟩

theorem only_loadVm : Only (fun c : Call => c.plain = true) (loadVm id) := by
  unfold loadVm
  exact (only_ask rfl).bind fun found => only_orRaise

theorem only_chooseCloneVmid : Only (fun c : Call => c.plain = true) (chooseCloneVmid node) := by
  unfold chooseCloneVmid
  exact (only_ask rfl).bind fun taken => (only_ask rfl).bind fun next => only_orRaise

theorem cloneVm_makes (hmakes : Makes (ServedBy ids) (cloneVm user id body) w (.proxmoxClone opts) w') :
    w' = w ∧ ∃ vm, findVmById w.db id = some vm ∧ opts.target.getD opts.node = body.target.getD vm.node ∧
      FirstUntracked w (body.target.getD vm.node) (ids.propose w.guests) opts.newVmid := by
  unfold cloneVm at hmakes
  obtain hhere | ⟨vm, w₁, hloaded, hclient⟩ := hmakes.of_bind
  · exact absurd hhere (not_makes_clone only_loadVm)
  obtain ⟨rfl, hlive⟩ := loadVm_ok hloaded
  obtain ⟨_, -, -, hchoice⟩ := makes_of_read rfl hclient
  dsimp only at hchoice
  obtain hhere | ⟨vmid, w₂, hchosen, hclone⟩ := hchoice.of_bind
  · exact absurd hhere (not_makes_clone only_chooseCloneVmid)
  obtain ⟨rfl, hvmid⟩ := chooseCloneVmid_ok hchosen
  obtain hhere | ⟨upid, w₃, -, hafter⟩ := hclone.of_bind
  · obtain ⟨heq, rfl⟩ := makes_perform hhere
    cases heq
    exact ⟨rfl, vm, hlive, rfl, hvmid⟩
  · refine absurd hafter (not_makes_clone ?_)
    refine Only.bind ?_ fun _ => (only_ask rfl).bind fun record => ?_
    · exact Only.ite only_pure only_waitForTask
    · exact (only_ask rfl).bind fun _ => (only_ask rfl).bind fun _ => only_pure

theorem makes_cloneVm {vm : VmRow} (hlive : findVmById w.db id = some vm)
    (hfirst : FirstUntracked w (body.target.getD vm.node) (ids.propose w.guests) vmid) :
    Makes (ServedBy ids) (cloneVm user id body) w (.proxmoxClone
      { node := vm.node, templateVmid := vm.vmid, newVmid := vmid, name := body.name, full := true
        storage := body.storage, target := body.target }) w := by
  have hfound : ServedBy ids (.vmsFindById id) w (.ok (some vm)) w := by
    refine ⟨⟨trivial, .answer none, ?_⟩, trivial⟩
    exact congrArg (fun found => (Except.ok found, w)) hlive
  have hclient : ServedBy ids .getProxmoxClient w (.ok ()) w :=
    ⟨⟨trivial, .answer (), rfl⟩, trivial⟩
  have htaken : ServedBy ids (.vmsListVmidsByNode (body.target.getD vm.node)) w
      (.ok (w.db.listVmidsByNode (body.target.getD vm.node))) w :=
    ⟨⟨trivial, .answer [], rfl⟩, trivial⟩
  have hnext : ServedBy ids .proxmoxNextId w (.ok (ids.propose w.guests)) w := by
    refine ⟨⟨trivial, .answer (ids.propose w.guests), rfl⟩, fun proposed heq => ?_⟩
    exact (Except.ok.inj heq).symm
  refine .later hfound (.later hclient (.later htaken (.later hnext ?_)))
  simp only [Prog.ofExcept, Prog.bind]
  rw [advanceVmid_taken.mpr hfirst]
  exact .now

theorem cloneVm_unused_iff :
    (∀ opts w', Makes (ServedBy ids) (cloneVm user id body) w (.proxmoxClone opts) w' →
        Unused w' (opts.target.getD opts.node) opts.newVmid) ↔ ∀ vm, findVmById w.db id = some vm → ∀ vmid,
        FirstUntracked w (body.target.getD vm.node) (ids.propose w.guests) vmid →
          ∀ g ∈ w.guests, g.vmid ≠ vmid := by
  constructor
  · intro hunused vm hlive vmid hfirst
    exact (hunused _ w (makes_cloneVm hlive hfirst)).2
  · intro hcondition opts w' hmakes
    obtain ⟨rfl, vm, hlive, hnode, hfirst⟩ := cloneVm_makes hmakes
    rw [hnode]
    exact ⟨hfirst.2.2.1, hcondition vm hlive opts.newVmid hfirst⟩

end clone

end ids

/-- **The id that goes to Proxmox is one that nothing has**: in the clone step of a job unless the
request asks for the id of a deleted row or of a guest, and in `POST /vms/:id/clone` unless a guest has
the first id from the proposed one on that no row of the node has. -/
theorem vmid_choice_iff (ids : NextId) (w : World) :
    (∀ (createdByUserId : Option UserId) (k : StepRunner) (r : SharedState),
      (∀ opts w', Makes (ServedBy ids) (StepRunner.cloneTemplate createdByUserId k r) w
          (.proxmoxClone opts) w' → Unused w' r.node opts.newVmid) ↔
        (r.template.isSome → ∀ vmid, (k.request.vmid.filter fun n => n ≠ 0) = some vmid →
          (w.db.findVmByIdKey vmid r.node).isSome ∨ Unused w r.node vmid)) ∧
      ∀ (user : UserWithRoles) (id : VmId) (body : CloneBody),
        (∀ opts w', Makes (ServedBy ids) (cloneVm user id body) w (.proxmoxClone opts) w' →
            Unused w' (opts.target.getD opts.node) opts.newVmid) ↔
          ∀ vm, findVmById w.db id = some vm → ∀ vmid,
            FirstUntracked w (body.target.getD vm.node) (ids.propose w.guests) vmid →
              ∀ g ∈ w.guests, g.vmid ≠ vmid :=
  ⟨fun _ _ _ => StepRunner.cloneTemplate_unused_iff, fun _ _ _ => cloneVm_unused_iff⟩

/-! ## Ids that collide -/

theorem exists_free (guests : List Guest) : ∃ n, 100 ≤ n ∧ ∀ g ∈ guests, g.vmid ≠ n := by
  refine ⟨100 + (guests.map Guest.vmid).sum, by omega, fun g hg => ?_⟩
  have hle : g.vmid ≤ (guests.map Guest.vmid).sum :=
    List.single_le_sum (fun _ _ => Nat.zero_le _) _ (List.mem_map.mpr ⟨g, hg, rfl⟩)
  omega

def NextId.lowest : NextId where
  propose guests := Nat.find (exists_free guests)
  propose_free guests := (Nat.find_spec (exists_free guests)).2

def World.forgotten : World :=
  { World.sample with
    db := { World.sample.db with
      vms := ⟨[{ plainVm 30 100 "lab-1" (some 10) with deletedAt := some 1 }], by decide⟩ }
    guests := [] }

def World.scattered : World :=
  { World.sample with
    db := { World.sample.db with
      vms := ⟨[plainVm 30 100 "lab-1" (some 10),
        { plainVm 31 101 "lab-2" (some 10) with deletedAt := some 1 }], by decide⟩ }
    guests := [⟨100, "pve1", "u1"⟩, ⟨102, "pve1", "u2"⟩] }

/-- A job whose request asks for the id of a deleted row, and a clone that walks past such a row onto
the id of a guest. -/
theorem vmid_collides : (¬ ∀ (ids : NextId) (w : World) (createdByUserId : Option UserId) (k : StepRunner)
      (r : SharedState) opts w', Makes (ServedBy ids) (StepRunner.cloneTemplate createdByUserId k r) w
        (.proxmoxClone opts) w' → Unused w' r.node opts.newVmid) ∧
      ¬ ∀ (ids : NextId) (w : World) (user : UserWithRoles) (id : VmId) (body : CloneBody) opts w',
        Makes (ServedBy ids) (cloneVm user id body) w (.proxmoxClone opts) w' →
          Unused w' (opts.target.getD opts.node) opts.newVmid := by
  constructor
  · intro hlaw
    let k : StepRunner := ⟨1, { ProvisionRequest.sample with vmid := some 100 }, 0⟩
    have hcondition := StepRunner.cloneTemplate_unused_iff.mp
      (hlaw NextId.lowest World.forgotten none k
        { k.initial with template := some .sample, node := "pve1" }) rfl 100 rfl
    obtain hlive | hunused := hcondition
    · cases hlive
    · exact hunused.1 ⟨_, List.mem_singleton.mpr rfl, rfl, rfl⟩
  · intro hlaw
    have hnext : NextId.lowest.propose World.scattered.guests = 101 :=
      (Nat.find_eq_iff (exists_free _)).mpr (by decide)
    have hcondition := cloneVm_unused_iff.mp
      (hlaw NextId.lowest World.scattered UserWithRoles.root 30 ⟨"web-9", none, none⟩)
      (plainVm 30 100 "lab-1" (some 10)) (by decide) 102
    rw [hnext] at hcondition
    have hfirst : FirstUntracked World.scattered "pve1" 101 102 := by
      refine ⟨by decide, by decide, ?_, fun v hv hlt => ?_⟩
      · rw [← mem_listVmidsByNode]
        decide
      · obtain rfl : v = 101 := by omega
        rw [← mem_listVmidsByNode]
        decide
    exact hcondition hfirst ⟨102, "pve1", "u2"⟩ (by decide) rfl

end ProxVM
