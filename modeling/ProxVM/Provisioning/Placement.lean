import ProxVM.Lib.Solo
import ProxVM.Provisioning.Defaults
import ProxVM.Provisioning.Footprint
import ProxVM.Provisioning.Simulation

/-!
# Where a new guest is recorded

A request is resolved, and later a job validates it and clones the template: `provisioned`.  A full
clone lands on the node that the request was resolved to, and a linked one stays on the template's
node.  The row names the former in both cases.
-/

namespace ProxVM

open Tables Interaction

def Call.isRead : Call → Bool
  | .usersFindById _ => true
  | .settingsDefaultNode => true
  | .templatesRequireById _ => true
  | .templatesFindByProxmoxId _ _ => true
  | .vmsListVmidsByNode _ => true
  | .vmsFindByIdKey _ _ => true
  | .getProxmoxClient => true
  | .proxmoxNodes => true
  | .proxmoxClusterResources => true
  | .proxmoxStorages _ => true
  | .proxmoxNetworks _ => true
  | .proxmoxNextId => true
  | _ => false

variable {w w' : World}

theorem Served.read {c : Call} {r : Except Failure c.Reply} (hserved : Served c w r w')
    (hread : c.isRead = true) : w' = w := by
  have hlocal : c.isRemote = false := by
    cases c <;> first | rfl | cases hread
  rcases hserved.cases hlocal with ⟨given, heq⟩ | ⟨e, heq⟩
  · cases c with
    | templatesRequireById id =>
        change w.required (w.db.templates.find? id) _ = _ at heq
        cases hfind : w.db.templates.find? id with
        | none =>
            rw [hfind] at heq
            exact (Prod.mk.inj heq).2.symm
        | some t =>
            rw [hfind] at heq
            exact (Prod.mk.inj heq).2.symm
    | _ => first | exact (Prod.mk.inj heq).2.symm | cases hread
  · cases c <;> exact (Prod.mk.inj heq).2.symm

theorem templatesRequireById_ok {id : TemplateId} {t : TemplateRow}
    (hserved : Served (.templatesRequireById id) w (.ok t) w') : w.db.templates.find? id = some t := by
  rcases hserved.cases rfl with ⟨given, heq⟩ | ⟨e, heq⟩
  · change w.required (w.db.templates.find? id) _ = _ at heq
    cases hfind : w.db.templates.find? id with
    | none =>
        rw [hfind] at heq
        cases (Prod.mk.inj heq).1
    | some found =>
        rw [hfind] at heq
        rw [Except.ok.inj (Prod.mk.inj heq).1]
  · cases (Prod.mk.inj heq).1

/-! ## The request -/

section resolve

variable {defaults : Option ProxmoxDefaults} {sizes : TemplateId → TemplateDefaults}
  {schema : ProvisionRequest → Except AppError Unit} {input : BasicProvisionRequest}

theorem resolveProvisionRequest_ok {req : ProvisionRequest}
    (hends : Ends Served (resolveProvisionRequest defaults sizes schema input) w (.ok req) w') :
    ∃ t, w.db.templates.find? input.templateId = some t ∧ req.templateId = some input.templateId ∧
      req.node = some (resolveNode defaults t input.node) ∧ req.linkedClone = input.linkedClone := by
  unfold resolveProvisionRequest at hends
  obtain ⟨t, w₁, htemplate, hends⟩ := hends.of_bind_ok
  obtain ⟨_, w₂, -, hends⟩ := hends.of_bind_ok
  obtain ⟨_, w₃, -, hends⟩ := hends.of_bind_ok
  obtain ⟨_, w₄, -, hends⟩ := hends.of_bind_ok
  obtain ⟨storage, w₅, -, hends⟩ := hends.of_bind_ok
  refine ⟨t, templatesRequireById_ok (ends_perform.mp htemplate), ?_⟩
  dsimp only at hends
  split at hends
  · cases hends
  · obtain ⟨_, w₆, -, hends⟩ := hends.of_bind_ok
    obtain ⟨rfl, -⟩ := hends.of_pure_ok
    exact ⟨rfl, rfl, rfl⟩

end resolve

/-! ## The clone -/

def Placed (w : World) (r : SharedState) : Prop :=
  ∃ vm ∈ w.db.vms, r.vmRecId = some vm.id ∧ ∃ g ∈ w.guests, g.vmid = vm.vmid ∧ g.node = vm.node

theorem proxmoxClone_ok {opts : CloneOptions} {upid : String}
    (hserved : Served (.proxmoxClone opts) w (.ok upid) w') : (∀ g ∈ w.guests, g.vmid ≠ opts.newVmid) ∧
      w'.guests = ⟨opts.newVmid, opts.target.getD opts.node, upid⟩ :: w.guests := by
  obtain ⟨-, fate, heq⟩ := hserved
  cases fate with
  | refuse e => cases (Prod.mk.inj heq).1
  | lose e given => cases (Prod.mk.inj heq).1
  | answer given =>
      by_cases hused : w.guests.any (fun g => decide (g.vmid = opts.newVmid)) = true
      · have hrefused : w.answer (.proxmoxClone opts) given =
            (.error (.other "VM already exists"), w) := if_pos hused
        cases (Prod.mk.inj (hrefused.symm.trans heq)).1
      · have hcloned : w.answer (.proxmoxClone opts) given = (.ok given,
            { w with guests := ⟨opts.newVmid, opts.target.getD opts.node, given⟩ :: w.guests }) :=
          if_neg hused
        obtain ⟨hupid, rfl⟩ := Prod.mk.inj (hcloned.symm.trans heq)
        obtain rfl := Except.ok.inj hupid
        rw [List.any_eq_true] at hused
        exact ⟨fun g hg hvmid => hused ⟨g, hg, decide_eq_true hvmid⟩, rfl⟩

theorem waitForTask_ok {node upid : String}
    (hends : Ends Served (waitForTask node upid) w (.ok ()) w') : w' = w := by
  obtain ⟨exit, w₁, hexit, hends⟩ := hends.of_bind_ok
  cases exit with
  | failed exitstatus => cases hends
  | ok =>
      obtain ⟨-, rfl⟩ := hends.of_pure_ok
      rcases (ends_perform.mp hexit).cases rfl with ⟨given, heq⟩ | ⟨e, heq⟩
      · cases given with
        | ok => exact (Prod.mk.inj heq).2.symm
        | failed exitstatus => cases (Prod.mk.inj heq).1
      · cases (Prod.mk.inj heq).1

theorem findOrCreateVm_ok {input : CreateVmInput} {vm : VmRow}
    (hends : Ends Served (StepRunner.findOrCreateVm input) w (.ok vm) w') :
    vm ∈ w'.db.vms ∧ vm.vmid = input.vmid ∧ vm.node = input.node ∧ w'.guests = w.guests := by
  obtain ⟨existing, w₁, hfind, hends⟩ := hends.of_bind_ok
  obtain rfl : w₁ = w := (ends_perform.mp hfind).read rfl
  cases existing with
  | some found =>
      obtain ⟨rfl, rfl⟩ := hends.of_pure_ok
      rcases (ends_perform.mp hfind).cases rfl with ⟨given, heq⟩ | ⟨e, heq⟩
      · have hfound : w'.db.findVmByIdKey input.vmid input.node = some vm :=
          Except.ok.inj (Prod.mk.inj heq).1
        have hmem := List.mem_of_find?_eq_some hfound
        have hkey := List.find?_some hfound
        simp only [Bool.and_eq_true, decide_eq_true_eq] at hkey
        exact ⟨hmem, hkey.1.1, hkey.1.2, rfl⟩
      · cases (Prod.mk.inj heq).1
  | none =>
      rcases (ends_perform.mp hends).cases rfl with ⟨given, heq⟩ | ⟨e, heq⟩
      · change w₁.insertion (w₁.db.insertVm (World.newVm given.id input)) _ = _ at heq
        cases hinsert : w₁.db.insertVm (World.newVm given.id input) with
        | none =>
            rw [hinsert] at heq
            cases (Prod.mk.inj heq).1
        | some db =>
            rw [hinsert] at heq
            obtain ⟨hrow, rfl⟩ := Prod.mk.inj heq
            obtain rfl := Except.ok.inj hrow
            obtain ⟨vms, rfl, -, hmem⟩ := Db.insertVm_eq_some hinsert
            exact ⟨(hmem _).mpr (.inr rfl), rfl, rfl, rfl⟩
      · cases (Prod.mk.inj heq).1

namespace StepRunner

variable {k : StepRunner} {r r' : SharedState}

variable {id : TemplateId} {createdByUserId : Option UserId}

theorem validateResources_ok (hid : k.request.templateId = some id)
    (hends : Ends Served (k.validateResources r) w (.ok r') w') :
    ∃ t, w.db.templates.find? id = some t ∧ r'.template = some t ∧ r'.node = k.request.node.getD r.node := by
  unfold validateResources requestedTemplate at hends
  rw [hid] at hends
  obtain ⟨_, w₁, hclient, hends⟩ := hends.of_bind_ok
  obtain ⟨found, w₂, hfound, hends⟩ := hends.of_bind_ok
  obtain ⟨t', w₃, htemplate, hfound⟩ := hfound.of_bind_ok
  obtain ⟨rfl, -⟩ := hfound.of_pure_ok
  obtain ⟨t, w₄, hsome, hends⟩ := hends.of_bind_ok
  have ht : t = t' := hsome.of_pure_ok.1
  obtain ⟨_, w₅, -, hends⟩ := hends.of_bind_ok
  obtain ⟨nodes, w₆, -, hends⟩ := hends.of_bind_ok
  have hsame : w₁ = w := (ends_perform.mp hclient).read rfl
  have hfind : w.db.templates.find? id = some t := by
    rw [← hsame, ht]
    exact templatesRequireById_ok (ends_perform.mp htemplate)
  refine ⟨t, hfind, ?_⟩
  dsimp only at hends
  split at hends
  · cases hends
  obtain ⟨resources, w₇, -, hends⟩ := hends.of_bind_ok
  obtain ⟨resource, w₈, -, hends⟩ := hends.of_bind_ok
  split at hends
  · cases hends
  obtain ⟨storages, w₉, -, hends⟩ := hends.of_bind_ok
  obtain ⟨storage, w₁₀, -, hends⟩ := hends.of_bind_ok
  split at hends
  · cases hends
  obtain ⟨known, w₁₁, -, hends⟩ := hends.of_bind_ok
  split at hends
  · cases hends
  obtain ⟨rfl, -⟩ := hends.of_pure_ok
  exact ⟨rfl, rfl⟩

/-- **The row names the right node** if the clone is full, or stays where it is recorded. -/
theorem cloneTemplate_placed {t : TemplateRow} (htemplate : r.template = some t)
    (hends : Ends Served (cloneTemplate createdByUserId k r) w (.ok r') w') :
    Placed w' r' ↔ k.request.linkedClone = false ∨ r.node = t.node := by
  unfold cloneTemplate at hends
  rw [htemplate] at hends
  obtain ⟨_, w₁, -, hends⟩ := hends.of_bind_ok
  obtain ⟨t', w₂, hsome, hends⟩ := hends.of_bind_ok
  obtain rfl : t' = t := hsome.of_pure_ok.1
  obtain ⟨vmid, w₃, -, hends⟩ := hends.of_bind_ok
  obtain ⟨existing, w₄, -, hends⟩ := hends.of_bind_ok
  dsimp only at hends
  split at hends
  · cases hends
  obtain ⟨upid, w₅, hclone, hends⟩ := hends.of_bind_ok
  obtain ⟨_, w₆, hwait, hends⟩ := hends.of_bind_ok
  obtain ⟨vm, w₇, hrow, hends⟩ := hends.of_bind_ok
  obtain ⟨_, w₈, hlink, hends⟩ := hends.of_bind_ok
  obtain ⟨_, w₉, hstatus, hends⟩ := hends.of_bind_ok
  obtain ⟨rfl, rfl⟩ := hends.of_pure_ok
  obtain ⟨hfree, hguests⟩ := proxmoxClone_ok (ends_perform.mp hclone)
  obtain rfl := waitForTask_ok hwait
  obtain ⟨hmem, hvmid, hnode, hkept⟩ := findOrCreateVm_ok hrow
  have hlinked := (ends_perform.mp hlink).frame
  have hcreating := (ends_perform.mp hstatus).frame
  have hvms : w'.db.vms = w₇.db.vms := (hcreating.vms rfl).trans (hlinked.vms rfl)
  have hall : w'.guests = _ :: w₄.guests :=
    (hcreating.guests rfl).trans ((hlinked.guests rfl).trans (hkept.trans hguests))
  -- The new guest is the only one with its id.
  have hplaced : ∀ left : SharedState, left.vmRecId = some vm.id → (Placed w' left ↔
      ((if !k.request.linkedClone then some r.node else none).getD t'.node) = r.node) := by
    intro left hleft
    constructor
    · rintro ⟨row, hrow, hid, g, hg, hgvmid, hgnode⟩
      rw [hvms] at hrow
      obtain rfl := Table.eq_of_key_eq hmem hrow (Option.some.inj (hleft.symm.trans hid))
      rw [hall] at hg
      rcases List.mem_cons.mp hg with rfl | hold
      · exact hgnode.trans hnode
      · exact absurd (hgvmid.trans hvmid) (hfree g hold)
    · intro htarget
      refine ⟨vm, hvms ▸ hmem, hleft, _, hall ▸ List.mem_cons_self, hvmid.symm, ?_⟩
      exact htarget.trans hnode.symm
  rw [hplaced _ rfl]
  cases k.request.linkedClone with
  | false => simp
  | true => simp [eq_comm]

def provisioned (createdByUserId : Option UserId) (k : StepRunner) : Task SharedState := do
  let r ← k.validateResources k.initial
  cloneTemplate createdByUserId k r

theorem provisioned_placed (hid : k.request.templateId = some id)
    (hrun : Ends Served (provisioned createdByUserId k) w (.ok r') w') :
    ∃ t, w.db.templates.find? id = some t ∧
      (Placed w' r' ↔ k.request.linkedClone = false ∨ k.request.node.getD "" = t.node) := by
  obtain ⟨r, w₁, hvalidate, hclone⟩ := hrun.of_bind_ok
  obtain ⟨t, hfind, htemplate, hnode⟩ := validateResources_ok hid hvalidate
  have hchosen : r.node = k.request.node.getD "" := by
    rw [hnode, initial]
    cases k.request.node with
    | none => rfl
    | some node => rfl
  exact ⟨t, hfind, hchosen ▸ cloneTemplate_placed htemplate hclone⟩

end StepRunner

/-- **The row names the node on which the guest lives**, for a request that is resolved and a job that
clones for it later, exactly if the clone is full or the node is the template's. -/
theorem clone_placed_iff {defaults : Option ProxmoxDefaults} {sizes : TemplateId → TemplateDefaults}
    {schema : ProvisionRequest → Except AppError Unit} {input : BasicProvisionRequest}
    {req : ProvisionRequest} {k : StepRunner} {createdByUserId : Option UserId}
    {w₀ w₁ w w' : World} {r' : SharedState}
    (hresolve : Ends Served (resolveProvisionRequest defaults sizes schema input) w₀ (.ok req) w₁)
    (hjob : { k.request with password := req.password } = req)
    (hrun : Ends Served (StepRunner.provisioned createdByUserId k) w (.ok r') w') :
    ∃ t₀ t, w₀.db.templates.find? input.templateId = some t₀ ∧
      w.db.templates.find? input.templateId = some t ∧ (Placed w' r' ↔
        input.linkedClone = false ∨ resolveNode defaults t₀ input.node = t.node) := by
  obtain ⟨t₀, hfound, hid, hnode, hlinked⟩ := resolveProvisionRequest_ok hresolve
  rw [← hjob] at hid hnode hlinked
  obtain ⟨t, hfind, hplaced⟩ := StepRunner.provisioned_placed hid hrun
  refine ⟨t₀, t, hfound, hfind, ?_⟩
  rw [hplaced, ← hlinked, hnode]
  rfl

/-! ## A template on another node -/

def Fates.twoNodes : Fates
  | .proxmoxNodes => .answer ["pve1", "pve2"]
  | c => .answer c.plainReply

/-- A request for `pve2`; the template is on `pve1`. -/
def BasicProvisionRequest.sample (linkedClone : Bool) : BasicProvisionRequest :=
  { name := "web-2", templateId := 7, proxmoxTemplateVmid := none, node := some "pve2", vmid := none
    cpu := some 2, ramMb := some 2048, diskGb := some 10, storage := some "local", network := none
    osType := none, protocols := none, guestUser := none, password := "", startAfterProvision := true
    linkedClone, assignToUserIds := [] }

def ProvisionRequest.resolvedSample (linkedClone : Bool) : ProvisionRequest :=
  { name := "web-2", templateId := some 7, proxmoxTemplateVmid := none, node := some "pve2"
    vmid := none, cpu := 2, ramMb := 2048, diskGb := 10, storage := "local"
    network :=
      { bridge := "vmbr0", vlan := none, isStatic := false, ip := none, cidr := none
        gateway := none, dns := [] }
    osType := .linux, protocols := none, guestUser := "deploy", password := ""
    startAfterProvision := true, linkedClone, assignToUserIds := [] }

theorem resolves_sample (linkedClone : Bool) :
    ∃ w', Ends Served (resolveProvisionRequest none (fun _ => ⟨1, 1024, 8⟩) (fun _ => .ok ())
      (.sample linkedClone)) World.sample (.ok (.resolvedSample linkedClone)) w' := by
  refine ⟨_, ends_of_result (fun _ _ _ _ => @served_play .plain _ _ _ _) 10 ?_⟩
  cases linkedClone with
  | false => decide +kernel
  | true => decide +kernel

theorem provisions_sample (linkedClone : Bool) :
    ∃ r' w', Ends Served (StepRunner.provisioned none ⟨1, .resolvedSample linkedClone, 0⟩)
      World.sample (.ok r') w' := by
  let run := drive (World.play .twoNodes) 40
    (StepRunner.provisioned none ⟨1, .resolvedSample linkedClone, 0⟩, World.sample)
  have hok : (run.1.result?.map Except.isOk) = some true := by
    cases linkedClone with
    | false => decide +kernel
    | true => decide +kernel
  obtain ⟨result, hresult, hisOk⟩ := Option.map_eq_some_iff.mp hok
  cases result with
  | error e => cases hisOk
  | ok r' => exact ⟨r', _, ends_of_result (fun _ _ _ _ => served_play) 40 hresult⟩

theorem clone_placed_iff_sample :
    ∃ r' w', Ends Served (StepRunner.provisioned none ⟨1, .resolvedSample false, 0⟩)
      World.sample (.ok r') w' ∧ Placed w' r' := by
  obtain ⟨w₁, hresolve⟩ := resolves_sample false
  obtain ⟨r', w', hrun⟩ := provisions_sample false
  obtain ⟨t₀, t, -, -, hplaced⟩ := clone_placed_iff hresolve rfl hrun
  exact ⟨r', w', hrun, hplaced.mpr (.inl rfl)⟩

/-- A linked clone whose row names `pve2` and whose guest lives on `pve1`. -/
theorem linked_clone_misplaced : ∃ w₁ r' w',
      Ends Served (resolveProvisionRequest none (fun _ => ⟨1, 1024, 8⟩) (fun _ => .ok ())
        (.sample true)) World.sample (.ok (.resolvedSample true)) w₁ ∧
      Ends Served (StepRunner.provisioned none ⟨1, .resolvedSample true, 0⟩)
        World.sample (.ok r') w' ∧ ¬ Placed w' r' := by
  obtain ⟨w₁, hresolve⟩ := resolves_sample true
  obtain ⟨r', w', hrun⟩ := provisions_sample true
  obtain ⟨t, hfind, hplaced⟩ := StepRunner.provisioned_placed rfl hrun
  refine ⟨w₁, r', w', hresolve, hrun, fun h => ?_⟩
  obtain rfl : TemplateRow.sample = t := Option.some.inj hfind
  rcases hplaced.mp h with hfull | hnode
  · cases hfull
  · exact absurd hnode (by decide)

end ProxVM
