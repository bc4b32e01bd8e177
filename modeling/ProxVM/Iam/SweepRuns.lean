import ProxVM.Iam.SweepSurvival

/-!
# Expired access over several passes

What must still be revoked is recorded in the expired rows only.  A pass deletes the direct
grant of a pair once the pair is revoked, but prunes group grants and memberships whatever
became of the pairs they lead to.
-/

namespace ProxVM

open Tables

structure SweepState where
  world : AccessWorld
  clock : Time

/-- A run of passes, each started in a state that meets `C` with what it encounters. -/
inductive SweepRun (C : SweepEnv → AccessWorld → Prop) (s : SweepState) : SweepState → Prop
  | start : SweepRun C s s
  | pass {s' : SweepState} (hrun : SweepRun C s s') (env : SweepEnv)
      (hclock : s'.clock ≤ env.selectedAt) (hmeets : C env s'.world) :
      SweepRun C s ⟨(sweepExpiredVmAccess env s'.world).2, env.finishedAt⟩

/-- The pass prunes a group grant or a membership only of pairs that read nothing, that it
selected and Guacamole answers for, or that have an expired direct grant as well. -/
def RevokesWhatItPrunes (env : SweepEnv) (w : AccessWorld) : Prop :=
  ∀ vmId userId c, w.Reads vmId userId c → ∀ gva gm, (VmPath.group gva gm).In w.db vmId userId →
    isExpired gva.expiresAt env.grantsPrunedAt = true ∨
      isExpired gm.expiresAt env.membersPrunedAt = true →
    ((vmId, userId) ∈ stalePairs w.db env.selectedAt ∧ env.Answers w vmId userId) ∨
      ∃ va, (VmPath.direct va).In w.db vmId userId ∧ isExpired va.expiresAt env.finishedAt = true

/-- The user may read a connection of the VM only because of a path, present at the start,
that has expired since. -/
def Overdue (w₀ w : AccessWorld) (now : Time) (vmId : VmId) (userId : UserId) : Prop :=
  ∃ c, w.Reads vmId userId c ∧
    (∃ path : VmPath, path.In w₀.db vmId userId ∧
      permits path.protocols c.protocol = true ∧ path.isLive now = false) ∧
    permits (allowedProtocols (resolveEffectiveAccess w.db now userId) vmId) c.protocol = false

/-! ## One pass -/

theorem isExpired_of_le {expiresAt : Option Time} {now now' : Time} (hle : now ≤ now')
    (hexpired : isExpired expiresAt now = true) : isExpired expiresAt now' = true := by
  rw [isExpired, Bool.not_eq_true'] at hexpired ⊢
  by_contra hlive
  rw [Bool.not_eq_false] at hlive
  rw [isLive_of_le hle hlive] at hexpired
  cases hexpired

section pass

variable {env : SweepEnv} {w w' : AccessWorld} {vmId : VmId} {userId : UserId}
  {c : VmConnectionRow}

theorem Swept.direct_kept (h : Swept env w w') (hreads : w'.Reads vmId userId c)
    {va : VmAccessRow} (hin : (VmPath.direct va).In w.db vmId userId) :
    (VmPath.direct va).In w'.db vmId userId := by
  obtain ⟨hva, rfl, rfl⟩ := hin
  rcases h.kept va hva with hkept | ⟨-, hrevoked⟩
  · exact ⟨hkept, rfl, rfl⟩
  · exact absurd hreads (hrevoked c)

theorem Swept.path_kept (h : Swept env w w') (hreads : w'.Reads vmId userId c) {path : VmPath}
    (hin : path.In w.db vmId userId) : path.In w'.db vmId userId ∨ ∃ gva gm, path = .group gva gm ∧
      (isExpired gva.expiresAt env.grantsPrunedAt = true ∨
        isExpired gm.expiresAt env.membersPrunedAt = true) := by
  cases path with
  | direct va => exact .inl (h.direct_kept hreads hin)
  | group gva gm =>
      obtain ⟨hgva, hvm, hgm, huser, hgid⟩ := hin
      by_cases hgrant : isLive gva.expiresAt env.grantsPrunedAt = true
      · by_cases hmember : isLive gm.expiresAt env.membersPrunedAt = true
        · exact .inl ⟨(h.groupVmAccess gva).mpr ⟨hgva, hgrant⟩, hvm,
            (h.groupMembers gm).mpr ⟨hgm, hmember⟩, huser, hgid⟩
        · exact .inr ⟨gva, gm, rfl, .inr (by simpa [isExpired] using hmember)⟩
      · exact .inr ⟨gva, gm, rfl, .inl (by simpa [isExpired] using hgrant)⟩

end pass

/-! ## A run of passes -/

structure NotForgotten (w₀ : AccessWorld) (s : SweepState) : Prop where
  users : s.world.db.users = w₀.db.users
  remembered : ∀ vmId userId c, s.world.Reads vmId userId c →
    ∀ path : VmPath, path.In w₀.db vmId userId → path.In s.world.db vmId userId ∨
      ∃ va, (VmPath.direct va).In s.world.db vmId userId ∧ isExpired va.expiresAt s.clock = true

theorem NotForgotten.start (w₀ : AccessWorld) (clock : Time) : NotForgotten w₀ ⟨w₀, clock⟩ :=
  ⟨rfl, fun _ _ _ _ _ hin => .inl hin⟩

theorem NotForgotten.pass {w₀ : AccessWorld} {s : SweepState} (h : NotForgotten w₀ s)
    (env : SweepEnv) (hclock : s.clock ≤ env.selectedAt) (hmeets : RevokesWhatItPrunes env s.world) :
    NotForgotten w₀ ⟨(sweepExpiredVmAccess env s.world).2, env.finishedAt⟩ := by
  obtain ⟨hswept, -⟩ := sweep_spec env s.world
  refine ⟨hswept.users.trans h.users, fun vmId userId c hreads path hin => ?_⟩
  have hbefore : s.world.Reads vmId userId c := hswept.shrinks.reads_of hreads
  have hexpiredKept : ∀ va, (VmPath.direct va).In s.world.db vmId userId →
      isExpired va.expiresAt env.finishedAt = true →
      ∃ va, (VmPath.direct va).In (sweepExpiredVmAccess env s.world).2.db vmId userId ∧
        isExpired va.expiresAt env.finishedAt = true :=
    fun va hva hexpired => ⟨va, hswept.direct_kept hreads hva, hexpired⟩
  rcases h.remembered vmId userId c hbefore path hin with hpath | ⟨va, hva, hexpired⟩
  · rcases hswept.path_kept hreads hpath with hkept | ⟨gva, gm, rfl, hpruned⟩
    · exact .inl hkept
    · rcases hmeets vmId userId c hbefore gva gm hpath hpruned with
        ⟨hselected, hanswers⟩ | ⟨va, hva, hexpired⟩
      · -- the pair was revoked, so it reads nothing
        exact absurd hreads (hswept.answered (vmId, userId) hselected hanswers c)
      · exact .inr (hexpiredKept va hva hexpired)
  · exact .inr (hexpiredKept va hva
      (isExpired_of_le (Nat.le_trans hclock env.selected_le_finished) hexpired))

theorem notForgotten_of_run {w₀ : AccessWorld} {clock : Time} {s : SweepState}
    (hrun : SweepRun RevokesWhatItPrunes ⟨w₀, clock⟩ s) : NotForgotten w₀ s := by
  induction hrun with
  | start => exact .start w₀ clock
  | pass hrun env hclock hmeets ih => exact ih.pass env hclock hmeets

/-- **No expired access is forgotten.**  In every run of passes that revoke what they prune,
at every instant from the last pass on: what a user may read only because of a path that has
expired is selected by a pass at that instant, and revoked by it if Guacamole answers. -/
theorem no_expired_access_forgotten {w₀ : AccessWorld} {clock : Time} {s : SweepState}
    (hrun : SweepRun RevokesWhatItPrunes ⟨w₀, clock⟩ s) {now : Time} (hnow : s.clock ≤ now)
    {vmId : VmId} {userId : UserId} (huser : (w₀.db.users.find? userId).isSome = true)
    (hoverdue : Overdue w₀ s.world now vmId userId) : (vmId, userId) ∈ stalePairs s.world.db now ∧
      ∀ env : SweepEnv, env.selectedAt = now → env.Answers s.world vmId userId →
        (sweepExpiredVmAccess env s.world).2.Revoked vmId userId := by
  have hinv := notForgotten_of_run hrun
  obtain ⟨c, hreads, ⟨path, hin, -, hexpired⟩, -⟩ := hoverdue
  have hselected : (vmId, userId) ∈ stalePairs s.world.db now := by
    rw [mem_stalePairs, hinv.users]
    refine ⟨huser, ?_⟩
    rcases hinv.remembered vmId userId c hreads path hin with hpath | ⟨va, hva, hva'⟩
    · exact ⟨path, hpath, hexpired⟩
    · have hdead := isExpired_of_le hnow hva'
      rw [isExpired, Bool.not_eq_true'] at hdead
      exact ⟨.direct va, hva, hdead⟩
  refine ⟨hselected, fun env hat hanswers => ?_⟩
  subst hat
  exact (sweep_spec env s.world).1.answered (vmId, userId) hselected hanswers

/-! ## A pair that is forgotten -/

def SweepEnv.outage (now : Time) : SweepEnv := .instant now fun _ _ point => decide (point = .getGuacDb)

def AccessWorld.expiringGrant : AccessWorld :=
  { AccessWorld.lapsing with
    db := { AccessWorld.lapsing.db with
      groupMembers := Table.empty
      vmAccess := ⟨[⟨30, 12, none, some 10, none⟩], by decide⟩ } }

theorem overdue_expiringGrant : Overdue .expiringGrant
    (sweepExpiredVmAccess (.outage 20) .expiringGrant).2 20 30 12 :=
  ⟨⟨30, .ssh, "lab-1-ssh"⟩, ⟨by decide, ⟨12, "ann"⟩, by decide, by decide⟩,
    ⟨.direct ⟨30, 12, none, some 10, none⟩, ⟨by decide, rfl, rfl⟩, by decide, by decide⟩, by decide⟩

theorem no_expired_access_forgotten_sample :
    (30, 12) ∈ stalePairs (sweepExpiredVmAccess (.outage 20) .expiringGrant).2.db 20 := by
  have hmeets : RevokesWhatItPrunes (.outage 20) .expiringGrant := by
    intro vmId userId c hreads gva gm hin
    exact absurd hin.2.2.1 (Table.not_mem_empty gm)
  exact (no_expired_access_forgotten
    (.pass (.start : SweepRun _ ⟨.expiringGrant, 0⟩ _) (.outage 20) (by decide) hmeets)
    (Nat.le_refl 20) (by decide) overdue_expiringGrant).1

/-- A pass during an outage prunes the membership of user 12, who may read VM 30 only because
of it, and no later pass selects the pair. -/
theorem sweep_forgets : Overdue .lapsing (sweepExpiredVmAccess (.outage 20) .lapsing).2 20 30 12 ∧
      (sweepExpiredVmAccess (.outage 20) .lapsing).1 = ⟨0, 1⟩ ∧
      ∀ now, (30, 12) ∉ stalePairs (sweepExpiredVmAccess (.outage 20) .lapsing).2.db now := by
  refine ⟨⟨⟨30, .ssh, "lab-1-ssh"⟩, ⟨by decide, ⟨12, "ann"⟩, by decide, by decide⟩,
    ⟨.group ⟨20, 30, none, none⟩ ⟨20, 12, some 10⟩, ⟨by decide, rfl, by decide, rfl, rfl⟩,
      by decide, by decide⟩, by decide⟩, by decide, fun now hselected => ?_⟩
  obtain ⟨-, path, hin, -⟩ := mem_stalePairs.mp hselected
  cases path with
  | direct va =>
      have hempty : (sweepExpiredVmAccess (.outage 20) .lapsing).2.db.vmAccess.rows = [] := by decide
      have hva := hin.1
      rw [Table.mem_def, hempty] at hva
      cases hva
  | group gva gm =>
      have hempty : (sweepExpiredVmAccess (.outage 20) .lapsing).2.db.groupMembers.rows = [] := by
        decide
      have hgm := hin.2.2.1
      rw [Table.mem_def, hempty] at hgm
      cases hgm

end ProxVM
