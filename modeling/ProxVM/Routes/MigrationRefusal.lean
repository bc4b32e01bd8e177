import ProxVM.Lib.Solo
import ProxVM.Routes.Migration

/-!
# A migration that is refused

A request to migrate ejects the install media of the node before it asks for the migration, and does not put them
back.
-/

namespace ProxVM.Migrations

open Interaction

/-! ## The guests -/

abbrev GuestConfigs := String → Nat → VmConfig

def withEntry (cfg : VmConfig) (entry : String × String) : VmConfig :=
  if (cfg.lookup entry.1).isSome then cfg.map fun old => if old.1 = entry.1 then entry else old
  else cfg ++ [entry]

def GuestConfigs.apply (w : GuestConfigs) (node : String) (vmid : Nat) (updates : VmConfig) : GuestConfigs :=
  fun node' vmid' => if node' = node ∧ vmid' = vmid then updates.foldl withEntry (w node vmid) else w node' vmid'

/-- `found` is the row of the guest. -/
def guestServed (found : Option VmRow) : Service calls Failure GuestConfigs
  | .vmsFindById _, w, r, w' => w' = w ∧ ∀ vm, r = .ok vm → vm = found
  | .proxmoxQemuConfig node vmid, w, r, w' => w' = w ∧ ∀ cfg, r = .ok cfg → cfg = w node vmid
  | .proxmoxUpdateConfig node vmid updates, w, r, w' =>
      w' = w.apply node vmid updates ∨ (∃ e, r = .error e) ∧ w' = w
  | _, w, _, w' => w' = w

def migrationServed (found : Option VmRow) : Service migrationCalls Failure GuestConfigs
  | .drift (.base c), w, r, w' => guestServed found c w r w'
  | _, w, _, w' => w' = w

def IsEjected (entry : String × String) : Prop := (isDriveKey entry.1 && holdsLocalMedium entry.2) = true

section guests

variable {found : Option VmRow} {vm : VmRow} {w w' : GuestConfigs} {α : Type}

theorem ends_lifted {p : Task α} {r : Except Failure α} :
    Ends (migrationServed found) (ofDrift (ofTask p)) w r w' ↔ Ends (guestServed found) p w r w' := by
  constructor
  · intro hends
    induction p generalizing w with
    | ret a =>
        cases hends
        exact .ret
    | raise e =>
        cases hends
        exact .raise
    | call c next ih =>
        cases hends with
        | call hserve hrest => exact .call hserve (ih _ hrest)
  · intro hends
    induction hends with
    | ret => exact .ret
    | raise => exact .raise
    | call hserve _ ih => exact .call hserve ih

def LeavesConfigs : Call → Prop
  | .proxmoxUpdateConfig _ _ _ => False
  | _ => True

theorem leavesConfigs_keeps {c : Call} {r : Except Failure c.Reply} (hc : LeavesConfigs c)
    (hserve : guestServed found c w r w') : w' = w := by
  cases c with
  | proxmoxUpdateConfig _ _ _ => exact hc.elim
  | vmsFindById _ => exact hserve.1
  | proxmoxQemuConfig _ _ => exact hserve.1
  | _ => exact hserve

theorem unchanged {p : Task α} {r : Except Failure α} (hp : Only LeavesConfigs p)
    (hends : Ends (guestServed found) p w r w') : w' = w :=
  hends.keeps (I := fun w' => w' = w) hp (fun _ _ _ _ hc hkept hserve => (leavesConfigs_keeps hc hserve).trans hkept) rfl

/-! ## The scan -/

theorem ejectDrives_of_none {cfg : VmConfig} (hnone : ∀ entry ∈ cfg, ¬ IsEjected entry) (ejected : List String) :
    ejectDrives vm cfg ejected = pure ejected := by
  induction cfg with
  | nil => rfl
  | cons entry cfg ih =>
      have hkept : ¬ (isDriveKey entry.1 && holdsLocalMedium entry.2) = true := hnone entry List.mem_cons_self
      rw [ejectDrives, if_neg hkept]
      exact ih fun entry hentry => hnone entry (List.mem_cons_of_mem _ hentry)

theorem ejectLocalMedia_unchanged {r : Except Failure (List String)}
    (hnone : ∀ entry ∈ w vm.node vm.vmid, ¬ IsEjected entry)
    (hends : Ends (guestServed found) (ejectLocalMedia vm) w r w') : w' = w := by
  have hread : ∀ {r : Except Failure VmConfig} {w₁ : GuestConfigs}, Ends (guestServed found)
      (Prog.tryCatch (ask (.proxmoxQemuConfig vm.node vm.vmid)) fun _ => pure []) w r w₁ →
        w₁ = w ∧ ∃ config, r = .ok config ∧ ∀ entry ∈ config, ¬ IsEjected entry := by
    intro r w₁ hscan
    obtain ⟨config, rfl, hread⟩ | ⟨e, w₂, hread, hcaught⟩ := hscan.of_tryCatch
    · obtain ⟨rfl, hreply⟩ := ends_perform.mp hread
      refine ⟨rfl, config, rfl, ?_⟩
      rw [hreply config rfl]
      exact hnone
    · obtain ⟨rfl, -⟩ := ends_perform.mp hread
      obtain ⟨rfl, rfl⟩ := ends_pure.mp hcaught
      exact ⟨rfl, [], rfl, by simp⟩
  obtain ⟨config, w₁, hscan, hrest⟩ | ⟨e, -, hscan⟩ := hends.of_bind
  · obtain ⟨rfl, config', hsame, hkept⟩ := hread hscan
    cases hsame
    rw [ejectDrives_of_none hkept] at hrest
    exact (ends_pure.mp hrest).2
  · obtain ⟨-, config, hsame, -⟩ := hread hscan
    cases hsame

theorem ejectDrives_stops (cfg : VmConfig) (ejected : List String) :
    ∃ result, Ends (guestServed found) (ejectDrives vm cfg ejected) w (.ok result) w := by
  induction cfg with
  | nil => exact ⟨ejected, .ret⟩
  | cons entry cfg ih =>
      rw [ejectDrives]
      split
      · have hfails : guestServed found (.proxmoxUpdateConfig vm.node vm.vmid [(entry.1, "none,media=cdrom")]) w
            (.error (.other "timeout")) w := .inr ⟨⟨_, rfl⟩, rfl⟩
        exact ⟨ejected, Ends.bind (Ends.tryCatch_error (Ends.bind_error (ends_perform.mpr hfails)) .ret) .ret⟩
      · exact ih

theorem ejectDrives_ejects {cfg : VmConfig} (hsome : ∃ entry ∈ cfg, IsEjected entry) (ejected : List String) :
    ∃ entry ∈ cfg, IsEjected entry ∧ ∃ result, Ends (guestServed found) (ejectDrives vm cfg ejected) w (.ok result)
      (w.apply vm.node vm.vmid [(entry.1, "none,media=cdrom")]) := by
  induction cfg with
  | nil =>
      obtain ⟨entry, hentry, -⟩ := hsome
      cases hentry
  | cons entry cfg ih =>
      by_cases hejected : IsEjected entry
      · have htrue : (isDriveKey entry.1 && holdsLocalMedium entry.2) = true := hejected
        obtain ⟨result, hrest⟩ := @ejectDrives_stops found vm
          (w.apply vm.node vm.vmid [(entry.1, "none,media=cdrom")]) cfg (ejected ++ [entry.1])
        refine ⟨entry, List.mem_cons_self, hejected, result, ?_⟩
        rw [ejectDrives, if_pos htrue]
        have hworks : guestServed found (.proxmoxUpdateConfig vm.node vm.vmid [(entry.1, "none,media=cdrom")]) w
            (.ok "UPID") (w.apply vm.node vm.vmid [(entry.1, "none,media=cdrom")]) := .inl rfl
        exact Ends.bind (Ends.tryCatch_ok (Ends.bind (ends_perform.mpr hworks) .ret)) hrest
      · have hfalse : ¬ (isDriveKey entry.1 && holdsLocalMedium entry.2) = true := hejected
        have hlater : ∃ entry ∈ cfg, IsEjected entry := by
          obtain ⟨entry', hmem, hthere⟩ := hsome
          obtain rfl | hmem := List.mem_cons.mp hmem
          · exact absurd hthere hejected
          · exact ⟨entry', hmem, hthere⟩
        obtain ⟨entry', hmem, hthere, result, hends⟩ := ih hlater
        refine ⟨entry', List.mem_cons_of_mem _ hmem, hthere, result, ?_⟩
        rw [ejectDrives, if_neg hfalse]
        exact hends

theorem apply_ne {entry : String × String} (hmem : entry ∈ w vm.node vm.vmid) (hejected : IsEjected entry) :
    w.apply vm.node vm.vmid [(entry.1, "none,media=cdrom")] ≠ w := by
  intro hsame
  have hconfig := congrFun (congrFun hsame vm.node) vm.vmid
  have hfound : ((w vm.node vm.vmid).lookup entry.1).isSome = true := by
    cases hlookup : (w vm.node vm.vmid).lookup entry.1 with
    | some value => rfl
    | none =>
        have hne := List.lookup_eq_none_iff.mp hlookup entry hmem
        exact absurd rfl (bne_iff_ne.mp hne)
  have happly : w.apply vm.node vm.vmid [(entry.1, "none,media=cdrom")] vm.node vm.vmid =
      (w vm.node vm.vmid).map fun old => if old.1 = entry.1 then (entry.1, "none,media=cdrom") else old := by
    refine (if_pos ⟨rfl, rfl⟩).trans ?_
    exact if_pos hfound
  have hall := (happly.symm.trans hconfig).trans (List.map_id _).symm
  have hkept : (if entry.1 = entry.1 then (entry.1, "none,media=cdrom") else entry) = entry :=
    List.map_inj_left.mp hall entry hmem
  rw [if_pos rfl] at hkept
  have hvalue : entry.2 = "none,media=cdrom" := (congrArg Prod.snd hkept).symm
  have hlocal := (Bool.and_eq_true_iff.mp hejected).2
  rw [hvalue] at hlocal
  revert hlocal
  decide +kernel

/-! ## The request -/

theorem admitted (actor : UserId) (id : VmId) :
    Ends (guestServed found) (requireVmAccess actor id) w (.ok ()) w := by
  have hauth : guestServed found (.requireAuth actor) w (.ok default) w := rfl
  have hvisible : guestServed found (.vmsVisibleTo (default : UserWithRoles).row.id (default : UserWithRoles).roles id) w
      (.ok true) w := rfl
  exact Ends.bind (ends_perform.mpr hauth) (Ends.bind (ends_perform.mpr hvisible) .ret)

theorem leaves_requireVmAccess (actor : UserId) (id : VmId) : Only LeavesConfigs (requireVmAccess actor id) := by
  refine Only.bind (only_perform.mpr trivial) fun user => Only.bind (only_perform.mpr trivial) fun allowed => ?_
  exact Only.ite only_pure only_raise

theorem leaves_loadVm (id : VmId) : Only LeavesConfigs (loadVm id) :=
  Only.bind (only_perform.mpr trivial) fun _ => only_orRaise

theorem ends_loadVm {id : VmId} (hends : Ends (guestServed found) (loadVm id) w (.ok vm) w') :
    w' = w ∧ found = some vm := by
  obtain ⟨row, w₁, hread, hrest⟩ := hends.of_bind_ok
  obtain ⟨rfl, hreply⟩ := ends_perform.mp hread
  obtain rfl := hreply row rfl
  cases row with
  | none => cases hrest
  | some row =>
      obtain ⟨rfl, rfl⟩ := hrest.of_pure_ok
      exact ⟨rfl, rfl⟩

theorem ends_ofExcept {α : Type} {outcome : Except Failure α} {r : Except Failure α} :
    Ends (migrationServed found) (Prog.ofExcept outcome) w r w' ↔ outcome = r ∧ w' = w := by
  cases outcome with
  | ok a => exact ⟨fun h => (by cases h; exact ⟨rfl, rfl⟩), fun ⟨h, h'⟩ => h ▸ h' ▸ .ret⟩
  | error e => exact ⟨fun h => (by cases h; exact ⟨rfl, rfl⟩), fun ⟨h, h'⟩ => h ▸ h' ▸ .raise⟩

theorem ends_scanned {target : String} {online : Bool} {r : Except Failure MigrationStarted}
    (hnone : ∀ entry ∈ w vm.node vm.vmid, ¬ IsEjected entry) (hends : Ends (migrationServed found) (do
      askMigration (.drift (.base .getProxmoxClient))
      let detachedIso ← ofDrift (ofTask (ejectLocalMedia vm))
      let upid : String ← askMigration (.migrate vm.node vm.vmid target online true)
      pure ({ upid, node := target, online, detachedIso } : MigrationStarted)) w r w') : w' = w := by
  obtain ⟨_, w₁, hclient, hafter⟩ | ⟨e, -, hclient⟩ := hends.of_bind
  · obtain rfl : w₁ = w := ends_perform.mp hclient
    obtain ⟨detachedIso, w₂, hscan, hlast⟩ | ⟨e, -, hscan⟩ := hafter.of_bind
    · obtain rfl := ejectLocalMedia_unchanged hnone (ends_lifted.mp hscan)
      obtain ⟨upid, w₃, hmigrate, hdone⟩ | ⟨e, -, hmigrate⟩ := hlast.of_bind
      · obtain rfl : w₃ = w₂ := ends_perform.mp hmigrate
        exact (ends_pure.mp hdone).2
      · exact ends_perform.mp hmigrate
    · exact ejectLocalMedia_unchanged hnone (ends_lifted.mp hscan)
  · exact ends_perform.mp hclient

theorem refused_after_scan (actor : UserId) (id : VmId) {b : MigrateBody} (htarget : b.target ≠ vm.node)
    (hsome : ∃ entry ∈ w vm.node vm.vmid, IsEjected entry) : ∃ entry ∈ w vm.node vm.vmid, IsEjected entry ∧
      Ends (migrationServed (some vm)) (postMigrate actor id (.ok b)) w (.error (.other "no quorum"))
        (w.apply vm.node vm.vmid [(entry.1, "none,media=cdrom")]) := by
  obtain ⟨entry, hmem, hejected, detachedIso, hdrives⟩ := @ejectDrives_ejects (some vm) vm w _ hsome []
  refine ⟨entry, hmem, hejected, ?_⟩
  have hpermission : migrationServed (some vm) (.drift (.base (.requirePermission actor .vmManage))) w (.ok default) w :=
    rfl
  have hrow : guestServed (some vm) (.vmsFindById id) w (.ok (some vm)) w := by
    refine ⟨rfl, fun row hrow => ?_⟩
    exact (Except.ok.inj hrow).symm
  have hclient : migrationServed (some vm) (.drift (.base .getProxmoxClient)) w (.ok ()) w := rfl
  have hreport : guestServed (some vm) (.proxmoxQemuConfig vm.node vm.vmid) w (.ok (w vm.node vm.vmid)) w := by
    refine ⟨rfl, fun cfg hcfg => ?_⟩
    exact (Except.ok.inj hcfg).symm
  have hscan : Ends (guestServed (some vm)) (ejectLocalMedia vm) w (.ok detachedIso)
      (w.apply vm.node vm.vmid [(entry.1, "none,media=cdrom")]) :=
    Ends.bind (Ends.tryCatch_ok (ends_perform.mpr hreport)) hdrives
  -- Proxmox refuses once the drive has been ejected.
  have hrefused : migrationServed (some vm)
      (.migrate vm.node vm.vmid b.target (b.online.getD (decide (vm.status = .running))) true)
      (w.apply vm.node vm.vmid [(entry.1, "none,media=cdrom")]) (.error (.other "no quorum"))
      (w.apply vm.node vm.vmid [(entry.1, "none,media=cdrom")]) := rfl
  unfold postMigrate
  refine Ends.bind (ends_lifted.mpr (admitted actor id)) (Ends.bind (ends_perform.mpr hpermission)
    (Ends.bind (ends_ofExcept.mpr ⟨rfl, rfl⟩) (Ends.bind (ends_lifted.mpr (Ends.bind (ends_perform.mpr hrow) .ret)) ?_)))
  rw [if_neg htarget]
  exact Ends.bind (ends_perform.mpr hclient) (Ends.bind (ends_lifted.mpr hscan)
    (Ends.bind_error (ends_perform.mpr hrefused)))

end guests

/-- **A refused migration leaves the guest as it was** exactly if the guest has no install medium of the node, or
the request does not come to the scan. -/
theorem refused_migration_iff (actor : UserId) (id : VmId) (body : Except Failure MigrateBody) (found : Option VmRow)
    (w : GuestConfigs) :
    (∀ e w', Ends (migrationServed found) (postMigrate actor id body) w (.error e) w' → w' = w) ↔
      ∀ b vm, body = .ok b → found = some vm → b.target ≠ vm.node →
        ∀ entry ∈ w vm.node vm.vmid, ¬ IsEjected entry := by
  constructor
  · rintro hlaw b vm rfl rfl htarget entry hentry hejected
    obtain ⟨ejected, hmem, hthere, hends⟩ := refused_after_scan actor id htarget ⟨entry, hentry, hejected⟩
    exact apply_ne hmem hthere (hlaw _ _ hends)
  · intro hnone e w' hends
    -- Up to the scan every part of the route leaves the configurations.
    obtain ⟨_, w₁, haccess, hallowed⟩ | ⟨e, -, haccess⟩ := hends.of_bind
    · obtain rfl := unchanged (leaves_requireVmAccess actor id) (ends_lifted.mp haccess)
      obtain ⟨_, w₂, hpermission, hpermitted⟩ | ⟨e, -, hpermission⟩ := hallowed.of_bind
      · obtain rfl : w₂ = w₁ := ends_perform.mp hpermission
        obtain ⟨b, w₃, hbody, hparsed⟩ | ⟨e, -, hbody⟩ := hpermitted.of_bind
        · obtain ⟨rfl, rfl⟩ := ends_ofExcept.mp hbody
          obtain ⟨vm, w₄, hload, hloaded⟩ | ⟨e, -, hload⟩ := hparsed.of_bind
          · obtain ⟨rfl, rfl⟩ := ends_loadVm (ends_lifted.mp hload)
            split at hloaded
            · exact (ends_raise.mp hloaded).2
            · next htarget => exact ends_scanned (hnone b vm rfl rfl htarget) hloaded
          · exact unchanged (leaves_loadVm id) (ends_lifted.mp hload)
        · exact (ends_ofExcept.mp hbody).2
      · exact ends_perform.mp hpermission
    · exact unchanged (leaves_requireVmAccess actor id) (ends_lifted.mp haccess)

/-- A guest with an install medium loses it to a migration that Proxmox refuses. -/
theorem refused_migration_ejects : ¬ ∀ (actor : UserId) (id : VmId) (body : Except Failure MigrateBody)
    (found : Option VmRow) (w : GuestConfigs) (e : Failure) (w' : GuestConfigs),
      Ends (migrationServed found) (postMigrate actor id body) w (.error e) w' → w' = w := by
  intro hlaw
  let vm : VmRow := { (default : VmRow) with node := "pve1", vmid := 100 }
  let drive : String × String := ("ide2", "local:iso/debian.iso,media=cdrom")
  have hdrive : IsEjected drive := by
    unfold IsEjected
    decide +kernel
  let w : GuestConfigs := fun _ _ => [drive]
  have hsome : ∃ entry ∈ w vm.node vm.vmid, IsEjected entry := ⟨drive, List.mem_singleton_self drive, hdrive⟩
  have htarget : (⟨"pve2", none⟩ : MigrateBody).target ≠ vm.node := by decide
  obtain ⟨entry, hentry, hejected, hends⟩ := refused_after_scan 1 1 htarget hsome
  exact apply_ne hentry hejected (hlaw _ _ _ _ _ _ _ hends)

end ProxVM.Migrations
