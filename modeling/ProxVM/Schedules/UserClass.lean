import ProxVM.Lib.Solo
import ProxVM.Schedules.Requests

/-!
# VMs of the class `user` and their schedules

Two checks keep enabled schedules away from VMs of the class `user`: a VM moves to the class only
if it has none, and a schedule is created or enabled only if its VM is not in the class.  Each is
a statement of its own before the statement that writes.
-/

namespace ProxVM.Schedules

open Tables Interaction

/-! ## Checks -/

inductive Check
  | unscheduled (vmId : VmId)
  | notUser (vmId : VmId)

def Check.Holds (w : World) : Check → Prop
  | .unscheduled vmId => ∀ s ∈ w.schedules, s.vmId = vmId → s.enabled = false
  | .notUser vmId => ∀ vm ∈ w.vms, vm.id = vmId → vm.vmClass ≠ .user

def checked : (c : Call) → Except AppError c.Reply → Option Check
  | .countEnabled vmId, .ok 0 => some (.unscheduled vmId)
  | .findById vmId, .ok found =>
      if found.any fun vm => decide (vm.vmClass = .user) then none else some (.notUser vmId)
  | _, _ => none

def listed : (c : Call) → Except AppError c.Reply → List (ScheduleId × VmId)
  | .listSchedules, .ok rows => rows.map fun s => (s.id, s.vmId)
  | _, _ => []

def Rests (schedules : List (ScheduleId × VmId)) (last : Option Check) : Call → Prop
  | .updateVmClass vmId .user => last = some (.unscheduled vmId)
  | .insertSchedule s => last = some (.notUser s.vmId)
  | .updateEnabled id true => ∃ vmId, (id, vmId) ∈ schedules ∧ last = some (.notUser vmId)
  | _ => True

def Guarded {α : Type} : List (ScheduleId × VmId) → Option Check → Task α → Prop
  | _, _, .ret _ => True
  | _, _, .raise _ => True
  | schedules, last, .call c next =>
      Rests schedules last c ∧ ∀ r, Guarded (listed c r ++ schedules) (checked c r) (next r)

section programs

variable {α β : Type} {schedules schedules' : List (ScheduleId × VmId)} {last : Option Check}

theorem Rests.mono {c : Call} (hrests : Rests schedules last c) (hsubset : schedules ⊆ schedules') :
    Rests schedules' last c := by
  cases c with
  | updateVmClass vmId vmClass => cases vmClass <;> exact hrests
  | insertSchedule s => exact hrests
  | updateEnabled id enabled =>
      cases enabled with
      | false => exact hrests
      | true =>
          obtain ⟨vmId, hmem, hlast⟩ := hrests
          exact ⟨vmId, hsubset hmem, hlast⟩
  | _ => exact hrests

theorem Rests.of_none {c : Call} (hrests : Rests schedules none c) : Rests schedules last c := by
  cases c with
  | updateVmClass vmId vmClass => cases vmClass <;> first | exact hrests | cases hrests
  | insertSchedule s => cases hrests
  | updateEnabled id enabled =>
      cases enabled with
      | false => exact hrests
      | true =>
          obtain ⟨vmId, -, hlast⟩ := hrests
          cases hlast
  | _ => exact hrests

variable {p : Task α}

theorem Guarded.mono (hguarded : Guarded schedules last p)
    (hsubset : schedules ⊆ schedules') : Guarded schedules' last p := by
  induction p generalizing schedules schedules' last with
  | ret a => trivial
  | raise e => trivial
  | call c next ih =>
      refine ⟨hguarded.1.mono hsubset, fun r => ih r (hguarded.2 r) ?_⟩
      exact List.append_subset.mpr ⟨List.subset_append_left _ _,
        List.subset_append_of_subset_right _ hsubset⟩

theorem Guarded.later {p : Task α} (hguarded : Guarded [] none p) : Guarded schedules last p := by
  cases p with
  | ret a => trivial
  | raise e => trivial
  | call c next =>
      refine ⟨(hguarded.1.mono (List.nil_subset _)).of_none, fun r => (hguarded.2 r).mono ?_⟩
      rw [List.append_nil]
      exact List.subset_append_left _ _

theorem Guarded.bind {f : α → Task β} (hp : Guarded schedules last p)
    (hf : ∀ a, Guarded [] none (f a)) : Guarded schedules last (p >>= f) := by
  induction p generalizing schedules last with
  | ret a => exact (hf a).later
  | raise e => trivial
  | call c next ih => exact ⟨hp.1, fun r => ih r (hp.2 r)⟩

theorem Guarded.tryCatch {h : AppError → Task α} (hp : Guarded schedules last p)
    (hh : ∀ e, Guarded [] none (h e)) : Guarded schedules last (Prog.tryCatch p h) := by
  induction p generalizing schedules last with
  | ret a => trivial
  | raise e => exact (hh e).later
  | call c next ih => exact ⟨hp.1, fun r => ih r (hp.2 r)⟩

theorem Guarded.foldlM {f : β → α → Task β} (hf : ∀ b a, Guarded [] none (f b a)) (xs : List α)
    (b : β) : Guarded [] none (xs.foldlM f b) := by
  induction xs generalizing b with
  | nil => trivial
  | cons x xs ih =>
      rw [List.foldlM_cons]
      exact (hf b x).bind ih

theorem guarded_ask {c : Call} {f : c.Reply → Task β} (hc : Rests schedules last c)
    (hf : ∀ a, Guarded (listed c (.ok a) ++ schedules) (checked c (.ok a)) (f a)) :
    Guarded schedules last (ask c >>= f) := by
  refine ⟨hc, fun r => ?_⟩
  cases r with
  | error e => trivial
  | ok a => exact hf a

theorem guarded_requireById {vmId : VmId} {f : ClassRow → Task β}
    (hf : ∀ vm, Guarded schedules (checked (.findById vmId) (.ok (some vm))) (f vm)) :
    Guarded schedules last (requireById vmId >>= f) := by
  refine ⟨trivial, fun r => ?_⟩
  match r with
  | .error e => trivial
  | .ok none => trivial
  | .ok (some vm) => exact hf vm

theorem guarded_setVmClass (vmId : VmId) (vmClass : VmClass) : Guarded [] none (setVmClass vmId vmClass) := by
  refine guarded_requireById fun vm => ?_
  split
  · rename_i hmoves
    obtain ⟨rfl, -⟩ := hmoves
    refine guarded_ask (c := .countEnabled vmId) trivial fun n => ?_
    cases n with
    | zero => exact guarded_ask (c := .updateVmClass vmId .user) rfl fun _ => trivial
    | succ n => trivial
  · rename_i hstays
    split
    · trivial
    · -- The class `user` has been dealt with.
      rename_i hne
      refine guarded_ask (c := .updateVmClass vmId vmClass) ?_ fun _ => trivial
      cases vmClass with
      | server => trivial
      | user => exact absurd ⟨rfl, fun h => hne h.symm⟩ hstays

theorem guarded_patchVmClass (vmId : VmId) (vmClass : VmClass) :
    Guarded [] none (patchVmClass vmId vmClass) := by
  refine guarded_ask (c := .requirePermission [.vmEdit]) trivial fun _ => ?_
  refine guarded_requireById fun vm => ?_
  split
  · refine guarded_ask (c := .hasAccessOrOwns vm.id) trivial fun granted => ?_
    cases granted with
    | false => trivial
    | true => exact (guarded_setVmClass vm.id vmClass).later
  · exact (guarded_setVmClass vm.id vmClass).later

theorem guarded_bulkClass (vmIds : List VmId) (vmClass : VmClass) :
    Guarded [] none (bulkClass vmIds vmClass) := by
  refine guarded_ask (c := .requirePermission [.vmEdit]) trivial fun _ => ?_
  refine Guarded.bind (Guarded.later (Guarded.foldlM (fun gated vmId => ?_) _ _)) fun gated => ?_
  · exact guarded_ask (c := .resolveVmAccess vmId) trivial fun allowed => trivial
  · refine Guarded.bind (Guarded.foldlM (fun results vmId => ?_) _ _) fun _ => trivial
    refine Guarded.bind (Guarded.tryCatch ?_ fun _ => trivial) fun _ => trivial
    exact (guarded_setVmClass vmId vmClass).bind fun _ => trivial

theorem guarded_postSchedules (parsesDays : String → Bool) (input : ScheduleInput) :
    Guarded [] none (postSchedules parsesDays input) := by
  refine guarded_ask (c := .requirePermission [.vmManage]) trivial fun _ => ?_
  refine guarded_ask (c := .resolveVmAccess input.vmId) trivial fun allowed => ?_
  cases allowed with
  | false => trivial
  | true =>
      refine guarded_requireById fun vm => ?_
      split
      · trivial
      · rename_i hclass
        have hfound : checked (.findById input.vmId) (.ok (some vm)) = some (.notUser input.vmId) := by
          simp only [checked, Option.any_some, decide_eq_true_eq]
          exact if_neg hclass
        rw [hfound]
        unfold createSchedule
        split
        · trivial
        · split
          · trivial
          · split
            · trivial
            · refine guarded_ask (c := .insertSchedule _) rfl fun _ => ?_
              refine guarded_ask (c := .listSchedules) trivial fun rows => ?_
              cases rows.find? fun s => decide (s.id = input.id) with
              | none => trivial
              | some schedule => trivial

theorem guarded_patchSchedules (id : ScheduleId) (enabled : Bool) :
    Guarded [] none (patchSchedules id enabled) := by
  refine guarded_ask (c := .requirePermission [.vmManage]) trivial fun _ => ?_
  refine guarded_ask (c := .listSchedules) trivial fun rows => ?_
  cases hfind : rows.find? fun s => decide (s.id = id) with
  | none => trivial
  | some schedule =>
      have hid : schedule.id = id := of_decide_eq_true (List.find?_some hfind :)
      have hlisted : (id, schedule.vmId) ∈ rows.map fun s => (s.id, s.vmId) :=
        List.mem_map.mpr ⟨schedule, List.mem_of_find?_eq_some hfind, by rw [hid]⟩
      refine guarded_ask (c := .resolveVmAccess schedule.vmId) trivial fun allowed => ?_
      cases allowed with
      | false => trivial
      | true =>
          cases enabled with
          | false => exact ⟨trivial, fun r => by cases r <;> trivial⟩
          | true =>
              refine guarded_ask (c := .findById schedule.vmId) trivial fun found => ?_
              change Guarded _ (if _ then _ else _) (if _ then _ else _)
              split
              · trivial
              · refine ⟨⟨schedule.vmId, ?_, rfl⟩, fun r => by cases r <;> trivial⟩
                exact List.mem_append_right _ (List.mem_append_right _ (List.mem_append_left _ hlisted))

theorem guarded_prog (parsesDays : String → Bool) (request : Request) :
    Guarded [] none (request.prog parsesDays) := by
  cases request with
  | patchVmClass vmId vmClass => exact guarded_patchVmClass vmId vmClass
  | bulkClass vmIds vmClass => exact guarded_bulkClass vmIds vmClass
  | postSchedules input => exact guarded_postSchedules parsesDays input
  | patchSchedules id enabled => exact guarded_patchSchedules id enabled

end programs

/-! ## The condition -/

/-- A move of a VM to the class is not written while a schedule of the VM is about to be created
or enabled, and no schedule of a VM is created or enabled while the move of the VM to the class is
about to be written. -/
def Apart (P : SchedulePool) : Request → Call → Prop
  | _, .updateVmClass vmId .user =>
      ∀ t ∈ P.threads,
        (∀ s, t.prog.pending? = some (.insertSchedule s) → s.vmId ≠ vmId) ∧
          ∀ id, t.prog.pending? = some (.updateEnabled id true) →
            ∀ s ∈ P.state.schedules, s.id = id → s.vmId ≠ vmId
  | _, .insertSchedule s => ∀ t ∈ P.threads, t.prog.pending? ≠ some (.updateVmClass s.vmId .user)
  | _, .updateEnabled id true =>
      ∀ s ∈ P.state.schedules, s.id = id →
        ∀ t ∈ P.threads, t.prog.pending? ≠ some (.updateVmClass s.vmId .user)
  | _, _ => True

/-! ## The invariant -/

def Call.Writes : Call → Prop
  | .updateVmClass _ .user => True
  | .insertSchedule _ => True
  | .updateEnabled _ true => True
  | _ => False

/-- No VM of the class `user` has an enabled schedule. -/
def Safe (w : World) : Prop :=
  ∀ s ∈ w.schedules, s.enabled = true → ∀ vm ∈ w.vms, vm.id = s.vmId → vm.vmClass ≠ .user

def Fits (w : World) (t : ScheduleThread) : Prop :=
  ∃ schedules last, Guarded schedules last t.prog ∧
    (∀ id vmId, (id, vmId) ∈ schedules → ∃ s ∈ w.schedules, s.id = id ∧ s.vmId = vmId) ∧
      ∀ c, t.prog.pending? = some c → c.Writes → ∀ check, last = some check → check.Holds w

section invariant

variable {w w' : World} {c : Call} {r : Except AppError c.Reply} {P P' : SchedulePool}
  {request : Request}

theorem fits_prog (parsesDays : String → Bool) (request : Request) :
    Fits w ⟨request, request.prog parsesDays⟩ := by
  refine ⟨[], none, guarded_prog parsesDays request, ?_, ?_⟩
  · exact fun id vmId h => absurd h List.not_mem_nil
  · exact fun c _ _ check h => nomatch h

variable {check : Check} {id : ScheduleId} {vmId : VmId} {s : VmSchedule} {write : Call} {t : ScheduleThread}

theorem holds_checked (hserve : Serves c w r w') (hcheck : checked c r = some check) : check.Holds w' := by
  rcases hserve with hanswer | ⟨e, rfl, -⟩
  · cases c with
    | countEnabled vmId =>
        obtain ⟨rfl, rfl⟩ := hanswer
        cases hcount : w'.countEnabled vmId with
        | succ n =>
            rw [hcount] at hcheck
            cases hcheck
        | zero =>
            rw [hcount] at hcheck
            cases hcheck
            intro s hs hvm
            have hnone := List.countP_eq_zero.mp hcount s hs
            simpa [hvm] using hnone
    | findById vmId =>
        obtain ⟨rfl, rfl⟩ := hanswer
        simp only [checked] at hcheck
        split at hcheck
        · cases hcheck
        · rename_i hother
          cases hcheck
          intro vm hvm hid huser
          refine hother ?_
          rw [← hid, Table.find?_of_mem hvm]
          exact decide_eq_true huser
    | _ => cases hcheck
  · cases c <;> cases hcheck

theorem mem_listed (hserve : Serves c w r w')
    (hlisted : (id, vmId) ∈ listed c r) : ∃ s ∈ w'.schedules, s.id = id ∧ s.vmId = vmId := by
  rcases hserve with hanswer | ⟨e, rfl, -⟩
  · cases c with
    | listSchedules =>
        obtain ⟨rfl, rfl⟩ := hanswer
        obtain ⟨s, hs, heq⟩ := List.mem_map.mp hlisted
        cases heq
        exact ⟨s, hs, rfl, rfl⟩
    | _ => exact absurd hlisted List.not_mem_nil
  · cases c <;> exact absurd hlisted List.not_mem_nil

theorem mem_updateEnabled {enabled : Bool} : s ∈ (w.updateEnabled id enabled).schedules ↔
      ∃ s₀ ∈ w.schedules, s = if s₀.id = id then { s₀ with enabled } else s₀ := by
  simp only [World.updateEnabled, Table.mem_updateWhere, decide_eq_true_eq]

theorem mem_updateVmClass {vmClass : VmClass} {vm : ClassRow} : vm ∈ (w.updateVmClass vmId vmClass).vms ↔
      ∃ vm₀ ∈ w.vms, vm = if vm₀.id = vmId then { vm₀ with vmClass } else vm₀ := by
  simp only [World.updateVmClass, Table.mem_updateWhere, decide_eq_true_eq]

theorem schedule_kept (hserve : Serves c w r w') (hs : s ∈ w.schedules) :
    ∃ s' ∈ w'.schedules, s'.id = s.id ∧ s'.vmId = s.vmId := by
  have hsame : ∃ s' ∈ w.schedules, s'.id = s.id ∧ s'.vmId = s.vmId := ⟨s, hs, rfl, rfl⟩
  rcases hserve with hanswer | ⟨e, -, rfl⟩
  · cases c with
    | updateEnabled id enabled =>
        obtain ⟨-, rfl⟩ := hanswer
        refine ⟨_, mem_updateEnabled.mpr ⟨s, hs, rfl⟩, ?_, ?_⟩
        · split <;> rfl
        · split <;> rfl
    | insertSchedule new =>
        obtain ⟨-, schedules, hins, rfl⟩ := hanswer
        exact ⟨s, ((Table.insert?_eq_some hins).2 s).mpr (.inl hs), rfl, rfl⟩
    | _ =>
        obtain ⟨-, rfl⟩ := hanswer
        exact hsame
  · exact hsame

theorem Guarded.rests {α : Type} {schedules : List (ScheduleId × VmId)} {last : Option Check}
    {p : Task α} (hguarded : Guarded schedules last p) (hpending : p.pending? = some c) :
    Rests schedules last c := by
  cases p with
  | ret a => cases hpending
  | raise e => cases hpending
  | call c' next =>
      cases hpending
      exact hguarded.1

theorem write_of_unscheduled {schedules : List (ScheduleId × VmId)}
    (hrests : Rests schedules (some (.unscheduled vmId)) write) (hwrites : write.Writes) :
    write = .updateVmClass vmId .user := by
  cases write with
  | updateVmClass vmId' vmClass =>
      cases vmClass with
      | server => exact absurd hwrites fun h => h
      | user =>
          cases hrests
          rfl
  | insertSchedule s => cases hrests
  | updateEnabled id enabled =>
      cases enabled with
      | false => exact absurd hwrites fun h => h
      | true =>
          obtain ⟨vmId', -, heq⟩ := hrests
          cases heq
  | _ => exact absurd hwrites fun h => h

theorem write_of_notUser {schedules : List (ScheduleId × VmId)}
    (hrests : Rests schedules (some (.notUser vmId)) write) (hwrites : write.Writes) :
    (∃ s, write = .insertSchedule s ∧ s.vmId = vmId) ∨
      ∃ id, write = .updateEnabled id true ∧ (id, vmId) ∈ schedules := by
  cases write with
  | updateVmClass vmId' vmClass =>
      cases vmClass with
      | server => exact absurd hwrites fun h => h
      | user => cases hrests
  | insertSchedule s =>
      cases hrests
      exact .inl ⟨s, rfl, rfl⟩
  | updateEnabled id enabled =>
      cases enabled with
      | false => exact absurd hwrites fun h => h
      | true =>
          obtain ⟨vmId', hmem, heq⟩ := hrests
          cases heq
          exact .inr ⟨id, rfl, hmem⟩
  | _ => exact absurd hwrites fun h => h

theorem holds_kept {schedules : List (ScheduleId × VmId)} (hadmits : Apart P request c) (hserve : Serves c P.state r w') (ht : t ∈ P.threads)
    (hlisted : ∀ id vmId, (id, vmId) ∈ schedules → ∃ s ∈ P.state.schedules, s.id = id ∧ s.vmId = vmId)
    (hpending : t.prog.pending? = some write) (hwrites : write.Writes)
    (hrests : Rests schedules (some check) write) (hholds : check.Holds P.state) : check.Holds w' := by
  rcases hserve with hanswer | ⟨e, -, rfl⟩
  · cases c with
    | updateVmClass vmId vmClass =>
        obtain ⟨-, rfl⟩ := hanswer
        cases check with
        | unscheduled vmId' => exact hholds
        | notUser vmId' =>
            intro vm hvm hid
            obtain ⟨vm₀, hvm₀, rfl⟩ := mem_updateVmClass.mp hvm
            by_cases hmoved : vm₀.id = vmId
            · rw [if_pos hmoved] at hid ⊢
              cases vmClass with
              | server => exact fun h => nomatch h
              | user =>
                  -- The schedule about to be written is one of this VM.
                  have hvmId : vmId' = vmId := hid.symm.trans hmoved
                  obtain ⟨hinsert, henable⟩ := hadmits t ht
                  rcases write_of_notUser hrests hwrites with ⟨s, rfl, rfl⟩ | ⟨id, rfl, hmem⟩
                  · exact absurd hvmId (hinsert s hpending)
                  · obtain ⟨s, hs, hid', rfl⟩ := hlisted id vmId' hmem
                    exact absurd hvmId (henable id hpending s hs hid')
            · rw [if_neg hmoved] at hid ⊢
              exact hholds vm₀ hvm₀ hid
    | insertSchedule new =>
        obtain ⟨-, schedules', hins, rfl⟩ := hanswer
        cases check with
        | notUser vmId' => exact hholds
        | unscheduled vmId' =>
            obtain rfl := write_of_unscheduled hrests hwrites
            intro s hs hvm
            rcases ((Table.insert?_eq_some hins).2 s).mp hs with hold | rfl
            · exact hholds s hold hvm
            · rw [← hvm] at hpending
              exact absurd hpending (hadmits t ht)
    | updateEnabled id enabled =>
        obtain ⟨-, rfl⟩ := hanswer
        cases check with
        | notUser vmId' => exact hholds
        | unscheduled vmId' =>
            obtain rfl := write_of_unscheduled hrests hwrites
            intro s hs hvm
            obtain ⟨s₀, hs₀, rfl⟩ := mem_updateEnabled.mp hs
            by_cases hid : s₀.id = id
            · rw [if_pos hid] at hvm ⊢
              cases enabled with
              | false => rfl
              | true =>
                  have hvm₀ : s₀.vmId = vmId' := hvm
                  rw [← hvm₀] at hpending
                  exact absurd hpending (hadmits s₀ hs₀ hid t ht)
            · rw [if_neg hid] at hvm ⊢
              exact hholds s₀ hs₀ hvm
    | _ =>
        obtain ⟨-, rfl⟩ := hanswer
        exact hholds
  · exact hholds

theorem fits_kept (hadmits : Apart P request c)
    (hserve : Serves c P.state r w') (ht : t ∈ P.threads) (hfits : Fits P.state t) : Fits w' t := by
  obtain ⟨schedules, last, hguarded, hlisted, hholds⟩ := hfits
  refine ⟨schedules, last, hguarded, fun id vmId hmem => ?_, ?_⟩
  · obtain ⟨s, hs, rfl, rfl⟩ := hlisted id vmId hmem
    exact schedule_kept hserve hs
  · rintro write hpending hwrites check rfl
    exact holds_kept hadmits hserve ht hlisted hpending hwrites (hguarded.rests hpending)
      (hholds write hpending hwrites check rfl)

variable {next : Except AppError c.Reply → Task request.Result}

theorem fits_call (hserve : Serves c w r w') (hfits : Fits w ⟨request, .call c next⟩) :
    Fits w' ⟨request, next r⟩ := by
  obtain ⟨schedules, last, hguarded, hlisted, -⟩ := hfits
  refine ⟨listed c r ++ schedules, checked c r, hguarded.2 r, fun id vmId hmem => ?_, ?_⟩
  · rcases List.mem_append.mp hmem with hnew | hold
    · exact mem_listed hserve hnew
    · obtain ⟨s, hs, rfl, rfl⟩ := hlisted id vmId hold
      exact schedule_kept hserve hs
  · exact fun _ _ _ check hcheck => holds_checked hserve hcheck

theorem safe_call (hserve : Serves c w r w') (hfits : Fits w ⟨request, .call c next⟩) (hsafe : Safe w) :
    Safe w' := by
  obtain ⟨schedules, last, hguarded, hlisted, hholds⟩ := hfits
  have hrests : Rests schedules last c := hguarded.1
  rcases hserve with hanswer | ⟨e, -, rfl⟩
  · cases c with
    | updateVmClass vmId vmClass =>
        obtain ⟨-, rfl⟩ := hanswer
        intro s hs henabled vm hvm hid
        obtain ⟨vm₀, hvm₀, rfl⟩ := mem_updateVmClass.mp hvm
        by_cases hmoved : vm₀.id = vmId
        · rw [if_pos hmoved] at hid ⊢
          cases vmClass with
          | server => exact fun h => nomatch h
          | user =>
              have hnone := hholds _ rfl trivial (.unscheduled vmId) hrests s hs
                (hid.symm.trans hmoved)
              rw [henabled] at hnone
              cases hnone
        · rw [if_neg hmoved] at hid ⊢
          exact hsafe s hs henabled vm₀ hvm₀ hid
    | insertSchedule new =>
        obtain ⟨-, schedules', hins, rfl⟩ := hanswer
        intro s hs henabled vm hvm hid
        rcases ((Table.insert?_eq_some hins).2 s).mp hs with hold | rfl
        · exact hsafe s hold henabled vm hvm hid
        · exact hholds _ rfl trivial (.notUser s.vmId) hrests vm hvm hid
    | updateEnabled id enabled =>
        obtain ⟨-, rfl⟩ := hanswer
        intro s hs henabled vm hvm hid
        obtain ⟨s₀, hs₀, rfl⟩ := mem_updateEnabled.mp hs
        by_cases hmatch : s₀.id = id
        · rw [if_pos hmatch] at henabled hid
          cases enabled with
          | false => cases henabled
          | true =>
              obtain ⟨vmId, hmem, hlast⟩ := hrests
              obtain ⟨s₁, hs₁, hid₁, rfl⟩ := hlisted id vmId hmem
              obtain rfl := Table.eq_of_key_eq hs₀ hs₁ (hmatch.trans hid₁.symm)
              exact hholds _ rfl trivial (.notUser s₀.vmId) hlast vm hvm hid
        · rw [if_neg hmatch] at henabled hid
          exact hsafe s₀ hs₀ henabled vm hvm hid
    | _ =>
        obtain ⟨-, rfl⟩ := hanswer
        exact hsafe
  · exact hsafe

structure Kept (P : SchedulePool) : Prop where
  fits : ∀ t ∈ P.threads, Fits P.state t
  safe : Safe P.state

theorem Kept.step {parsesDays : String → Bool} (hkept : Kept P)
    (hstep : PoolStep (scheduleRules parsesDays Apart) P P') : Kept P' := by
  constructor
  · refine forall_of_poolStep_in ?_ ?_ ?_ ?_ hkept.fits hstep
    · rintro role c next s r s' rfl - hserve hfits
      exact fits_call hserve hfits
    · rintro role c s r s' rfl hadmits hserve t ht hfits
      exact fits_kept hadmits hserve ht hfits
    · rintro role result s s' successor ⟨rfl, rfl⟩
      exact ⟨fun t hfits => hfits, fun t ht => nomatch ht⟩
    · rintro s s' newcomer ⟨rfl, request, rfl⟩
      refine ⟨fun t hfits => hfits, fun t ht => ?_⟩
      cases ht
      exact fits_prog parsesDays request
  · cases hstep with
    | @call before after role c next s s' r hadmits hserve =>
        have hthread := hkept.fits ⟨role, .call c next⟩
          (List.mem_append_right before List.mem_cons_self)
        exact safe_call hserve hthread hkept.safe
    | ends hends =>
        obtain ⟨-, rfl⟩ := hends
        exact hkept.safe
    | turn hturn =>
        obtain ⟨rfl, -⟩ := hturn
        exact hkept.safe

end invariant

/-- **VMs of the class `user` and their schedules.**  In every run in which the writes of a move
to the class and of a schedule of the VM keep apart, no VM of the class has an enabled schedule. -/
theorem no_user_schedule (parsesDays : String → Bool) (w : World) (hsafe : Safe w) (P : SchedulePool)
    (hrun : PoolRun (scheduleRules parsesDays Apart) ⟨w, []⟩ P) : ∀ s ∈ P.state.schedules, s.enabled = true →
      ∀ vm ∈ P.state.vms, vm.id = s.vmId → vm.vmClass ≠ .user := by
  have hkept : Kept P := by
    induction hrun with
    | refl => exact ⟨fun t ht => absurd ht List.not_mem_nil, hsafe⟩
    | tail _ hstep ih => exact ih.step hstep
  exact hkept.safe

/-! ## Runs -/

def sampleAnswer : (c : Call) → World → Option (Except AppError c.Reply × World)
  | .requirePermission _, w => some (.ok (), w)
  | .resolveVmAccess _, w => some (.ok true, w)
  | .hasAccessOrOwns _, w => some (.ok true, w)
  | .findById vmId, w => some (.ok (w.vms.find? vmId), w)
  | .countEnabled vmId, w => some (.ok (w.countEnabled vmId), w)
  | .updateVmClass vmId vmClass, w => some (.ok (), w.updateVmClass vmId vmClass)
  | .listSchedules, w => some (.ok w.schedules.rows, w)
  | .insertSchedule schedule, w =>
      (w.schedules.insert? schedule).map fun schedules => (.ok (), { w with schedules })
  | .updateEnabled id enabled, w => some (.ok (), w.updateEnabled id enabled)

theorem serves_sampleAnswer (c : Call) (w : World) (r : Except AppError c.Reply) (w' : World)
    (hanswer : sampleAnswer c w = some (r, w')) : Serves c w r w' := by
  cases c with
  | requirePermission _ =>
      cases hanswer
      exact .inl ⟨rfl, rfl⟩
  | resolveVmAccess _ =>
      cases hanswer
      exact .inl ⟨⟨true, rfl⟩, rfl⟩
  | hasAccessOrOwns _ =>
      cases hanswer
      exact .inl ⟨⟨true, rfl⟩, rfl⟩
  | insertSchedule schedule =>
      obtain ⟨schedules, hins, heq⟩ := Option.map_eq_some_iff.mp hanswer
      cases heq
      exact .inl ⟨rfl, schedules, hins, rfl⟩
  | _ =>
      cases hanswer
      exact .inl ⟨rfl, rfl⟩

def sampleInput : ScheduleInput where
  id := 1
  vmId := 30
  action := .start
  minute := 30
  hour := 8
  days := none
  createdBy := some 10

def sampleSchedule : VmSchedule where
  id := 1
  vmId := 30
  action := .start
  minute := 30
  hour := 8
  days := "*"
  enabled := true
  createdBy := some 10

def sampleWorld (vmClass : VmClass) (schedules : Table VmSchedule.id) : World where
  vms := ⟨[⟨30, vmClass, false⟩], List.nodup_singleton 30⟩
  schedules := schedules

def sampleSchedules : Table VmSchedule.id := ⟨[sampleSchedule], List.nodup_singleton 1⟩

theorem drive_postSchedules : drive sampleAnswer 5 (postSchedules (fun _ => true) sampleInput,
      sampleWorld .server Table.empty) =
        (.ofExcept (.ok sampleSchedule), sampleWorld .server sampleSchedules) := by
  rfl

theorem arrives (admits : SchedulePool → Request → Call → Prop) (request : Request) (w : World)
    (others : List ScheduleThread) : PoolStep (scheduleRules (fun _ => true) admits) ⟨w, others⟩
      ⟨w, ⟨request, request.prog fun _ => true⟩ :: others⟩ :=
  have hturn : (scheduleRules (fun _ => true) admits).turn w
      (some ⟨request, request.prog fun _ => true⟩) w := ⟨rfl, request, rfl⟩
  .turn hturn

theorem no_user_schedule_sample : ¬ ∃ s ∈ (sampleWorld .server sampleSchedules).schedules,
    s.enabled = true ∧ ∃ vm ∈ (sampleWorld .server sampleSchedules).vms,
      vm.id = s.vmId ∧ vm.vmClass = .user := by
  have hsafe : Safe (sampleWorld .server Table.empty) :=
    fun s hs => absurd hs (Table.not_mem_empty s)
  have hadmits : ∀ c next w, (scheduleRules (fun _ => true) Apart).admits
      ⟨w, [⟨.postSchedules sampleInput, .call c next⟩]⟩ (.postSchedules sampleInput) c := by
    intro c next w
    cases c with
    | updateVmClass vmId vmClass =>
        cases vmClass with
        | server => exact trivial
        | user => exact List.forall_mem_singleton.mpr ⟨fun s h => (nomatch h), fun id h => (nomatch h)⟩
    | insertSchedule s => exact List.forall_mem_singleton.mpr fun h => nomatch h
    | updateEnabled id enabled =>
        cases enabled with
        | false => exact trivial
        | true => exact fun s hs hid => List.forall_mem_singleton.mpr fun h => nomatch h
    | _ => exact trivial
  have hruns := @poolRun_drive_beside _ _ _ _ _ (scheduleRules (fun _ => true) Apart) sampleAnswer
    (.postSchedules sampleInput) [] hadmits serves_sampleAnswer 5
      (postSchedules (fun _ => true) sampleInput) (sampleWorld .server Table.empty)
  rw [drive_postSchedules] at hruns
  have hlaw := no_user_schedule (fun _ => true) _ hsafe _ (.head (arrives Apart _ _ []) hruns)
  rintro ⟨s, hs, henabled, vm, hvm, hid, hclass⟩
  exact hlaw s hs henabled vm hvm hid hclass

/-- A schedule is created after the count and before the write of a move to the class. -/
theorem schedule_during_move : ¬ ∀ (parsesDays : String → Bool) (w : World), Safe w →
    ∀ P, PoolRun (scheduleRules parsesDays fun _ _ _ => True) ⟨w, []⟩ P →
      ∀ s ∈ P.state.schedules, s.enabled = true →
        ∀ vm ∈ P.state.vms, vm.id = s.vmId → vm.vmClass ≠ .user := by
  intro hlaw
  have hsafe : Safe (sampleWorld .server Table.empty) :=
    fun s hs => absurd hs (Table.not_mem_empty s)
  have hruns := fun (request : Request) (others : List ScheduleThread) =>
    @poolRun_drive_beside _ _ _ _ _ (scheduleRules (fun _ => true) fun _ _ _ => True) sampleAnswer
      request others (fun _ _ _ => trivial) serves_sampleAnswer
  let moving : Task Bool := (drive sampleAnswer 4 (patchVmClass 30 .user,
    sampleWorld .server Table.empty)).1
  have hcounts : drive sampleAnswer 4 (patchVmClass 30 .user, sampleWorld .server Table.empty) =
      (moving, sampleWorld .server Table.empty) := by rfl
  have hwrites : drive sampleAnswer 1 (moving, sampleWorld .server sampleSchedules) =
      (.ofExcept (.ok true), sampleWorld .user sampleSchedules) := by rfl
  have hmover := hruns (.patchVmClass 30 .user) [] 4 (patchVmClass 30 .user)
    (sampleWorld .server Table.empty)
  rw [hcounts] at hmover
  have hposter := hruns (.postSchedules sampleInput) [⟨.patchVmClass 30 .user, moving⟩] 5
    (postSchedules (fun _ => true) sampleInput) (sampleWorld .server Table.empty)
  rw [drive_postSchedules] at hposter
  have hends : (scheduleRules (fun _ => true) fun _ _ _ => True).ends (.postSchedules sampleInput)
      (.ok sampleSchedule) (sampleWorld .server sampleSchedules) none
        (sampleWorld .server sampleSchedules) := ⟨rfl, rfl⟩
  have hmoved := hruns (.patchVmClass 30 .user) [] 1 moving (sampleWorld .server sampleSchedules)
  rw [hwrites] at hmoved
  have hrun : PoolRun (scheduleRules (fun _ => true) fun _ _ _ => True)
      ⟨sampleWorld .server Table.empty, []⟩
        ⟨sampleWorld .user sampleSchedules, [⟨.patchVmClass 30 .user, .ofExcept (.ok true)⟩]⟩ :=
    (Relation.ReflTransGen.head (arrives _ (.patchVmClass 30 .user) _ []) hmover).trans <|
      (Relation.ReflTransGen.head (arrives _ (.postSchedules sampleInput) _ _) hposter).trans <|
        .head (.endsFirst hends) hmoved
  exact hlaw (fun _ => true) _ hsafe _ hrun sampleSchedule List.mem_cons_self rfl ⟨30, .user, false⟩
    List.mem_cons_self rfl rfl

end ProxVM.Schedules
