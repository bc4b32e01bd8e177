import ProxVM.Iam.Protocols
import ProxVM.Lib.Fallible
import ProxVM.Util.Errors

/-!
# The expiry sweep

`sweepExpiredVmAccess` and `reconcileUserVmGuacAccess` of
`services/iam.ts`, over the database and what Guacamole grants.

A pass is a sequence of statements, each at an instant of its own, and any of the steps it
takes for one pair may fail.  Both come from a `SweepEnv`: the instants, in order, and which
steps fail.  What a pass does to one pair is said once, in `PairSwept`; what it does
altogether in `sweep_spec`.
-/

namespace ProxVM

open Tables Fallible

/-! ## The state -/

/-- A row of `guacamole_connections`. -/
structure VmConnectionRow where
  vmId : VmId
  protocol : Protocol
  guacConnectionName : String
  deriving DecidableEq, Repr

/-- A row of `guacamole_users`. -/
structure GuacUserRow where
  userId : UserId
  guacUsername : String
  deriving DecidableEq, Repr

/-- A READ row of Guacamole's `guacamole_connection_permission`. -/
structure ReadPermission where
  connectionName : String
  guacUsername : String
  deriving DecidableEq, Repr

structure AccessWorld where
  db : Db
  connections : List VmConnectionRow
  guacUsers : Table GuacUserRow.userId
  reads : List ReadPermission

namespace AccessWorld

def listConnectionRecords (w : AccessWorld) (vmId : VmId) : List VmConnectionRow :=
  w.connections.filter fun c => decide (c.vmId = vmId)

def findUserRecord (w : AccessWorld) (userId : UserId) : Option GuacUserRow :=
  w.guacUsers.find? userId

def grantConnectionRead (connectionName guacUsername : String) (w : AccessWorld) : AccessWorld :=
  { w with reads := ⟨connectionName, guacUsername⟩ :: w.reads }

def revokeConnectionAccess (connectionName guacUsername : String) (w : AccessWorld) : AccessWorld :=
  { w with reads := w.reads.filter fun r => decide (r ≠ ⟨connectionName, guacUsername⟩) }

def Reads (w : AccessWorld) (vmId : VmId) (userId : UserId) (c : VmConnectionRow) : Prop :=
  c ∈ w.listConnectionRecords vmId ∧ ∃ record, w.findUserRecord userId = some record ∧
    ⟨c.guacConnectionName, record.guacUsername⟩ ∈ w.reads

end AccessWorld

/-! ## What the sweep selects -/

/-- `expires_at IS NOT NULL AND expires_at <= NOW()`. -/
def isExpired (expiresAt : Option Time) (now : Time) : Bool := !isLive expiresAt now

/-- One way from a user to a VM, live or not: a direct grant, or a membership and a grant of
its group. -/
inductive VmPath
  | direct (va : VmAccessRow)
  | group (gva : GroupVmAccessRow) (gm : GroupMemberRow)
  deriving DecidableEq, Repr

namespace VmPath

def In (path : VmPath) (db : Db) (vmId : VmId) (userId : UserId) : Prop :=
  match path with
  | .direct va => va ∈ db.vmAccess ∧ va.vmId = vmId ∧ va.userId = userId
  | .group gva gm => gva ∈ db.groupVmAccess ∧ gva.vmId = vmId ∧ gm ∈ db.groupMembers ∧
      gm.userId = userId ∧ gm.groupId = gva.groupId

def isLive (path : VmPath) (now : Time) : Bool :=
  match path with
  | .direct va => ProxVM.isLive va.expiresAt now
  | .group gva gm => ProxVM.isLive gva.expiresAt now && ProxVM.isLive gm.expiresAt now

def protocols : VmPath → Option (List Protocol)
  | .direct va => va.protocols
  | .group gva _ => gva.protocols

end VmPath

/-- The distinct pairs of `stale`. -/
def stalePairs (db : Db) (now : Time) : List (VmId × UserId) :=
  unique
    (((db.vmAccess.rows.filter fun va => isExpired va.expiresAt now).filter fun va =>
        (db.users.find? va.userId).isSome).map (fun va => (va.vmId, va.userId)) ++
      db.groupVmAccess.rows.flatMap fun gva =>
        ((db.groupMembers.rows.filter fun gm => decide (gm.groupId = gva.groupId) &&
            (isExpired gva.expiresAt now || isExpired gm.expiresAt now)).filter fun gm =>
          (db.users.find? gm.userId).isSome).map fun gm => (gva.vmId, gm.userId))

/-- **A pair is selected exactly when some path between the two has expired.** -/
theorem mem_stalePairs {db : Db} {now : Time} {vmId : VmId} {userId : UserId} :
    (vmId, userId) ∈ stalePairs db now ↔ (db.users.find? userId).isSome = true ∧
      ∃ path : VmPath, path.In db vmId userId ∧ path.isLive now = false := by
  simp only [stalePairs, unique, List.mem_eraseDups, List.mem_append, List.mem_map, List.mem_filter,
    List.mem_flatMap, Prod.mk.injEq, isExpired, Bool.not_eq_true', Bool.and_eq_true,
    Bool.or_eq_true, decide_eq_true_eq]
  constructor
  · rintro (⟨va, ⟨⟨hva, hexpired⟩, huser⟩, rfl, rfl⟩ |
      ⟨gva, hgva, gm, ⟨⟨hgm, hgid, hexpired⟩, huser⟩, rfl, rfl⟩)
    · exact ⟨huser, .direct va, ⟨hva, rfl, rfl⟩, hexpired⟩
    · refine ⟨huser, .group gva gm, ⟨hgva, rfl, hgm, rfl, hgid⟩, ?_⟩
      rw [VmPath.isLive, Bool.and_eq_false_iff]
      exact hexpired
  · rintro ⟨huser, path, hin, hexpired⟩
    cases path with
    | direct va =>
        obtain ⟨hva, rfl, rfl⟩ := hin
        exact .inl ⟨va, ⟨⟨hva, hexpired⟩, huser⟩, rfl, rfl⟩
    | group gva gm =>
        obtain ⟨hgva, rfl, hgm, rfl, hgid⟩ := hin
        rw [VmPath.isLive, Bool.and_eq_false_iff] at hexpired
        exact .inr ⟨gva, hgva, gm, ⟨⟨hgm, hgid, hexpired⟩, huser⟩, rfl, rfl⟩

/-! ## The pass -/

inductive SweepPoint
  | getGuacDb
  | listConnectionRecords
  | findUserRecord
  | revokeConnectionAccess (connectionName : String)
  | grantConnectionRead (connectionName : String)
  | deleteVmAccess
  | audit
  deriving DecidableEq, Repr

structure SweepEnv where
  selectedAt : Time
  deletedAt : VmId → UserId → Time
  grantsPrunedAt : Time
  membersPrunedAt : Time
  rolesPrunedAt : Time
  permissionsPrunedAt : Time
  fails : VmId → UserId → SweepPoint → Bool
  selected_le_deleted : ∀ vmId userId, selectedAt ≤ deletedAt vmId userId
  deleted_le_grants : ∀ vmId userId, deletedAt vmId userId ≤ grantsPrunedAt
  selected_le_grants : selectedAt ≤ grantsPrunedAt
  grants_le_members : grantsPrunedAt ≤ membersPrunedAt
  members_le_roles : membersPrunedAt ≤ rolesPrunedAt
  roles_le_permissions : rolesPrunedAt ≤ permissionsPrunedAt

abbrev SweepEnv.finishedAt (env : SweepEnv) : Time := env.permissionsPrunedAt

namespace SweepEnv

variable (env : SweepEnv)

theorem roles_le_finished : env.rolesPrunedAt ≤ env.finishedAt := env.roles_le_permissions

theorem members_le_finished : env.membersPrunedAt ≤ env.finishedAt :=
  Nat.le_trans env.members_le_roles env.roles_le_finished

theorem grants_le_finished : env.grantsPrunedAt ≤ env.finishedAt :=
  Nat.le_trans env.grants_le_members env.members_le_finished

theorem deleted_le_finished (vmId : VmId) (userId : UserId) : env.deletedAt vmId userId ≤ env.finishedAt :=
  Nat.le_trans (env.deleted_le_grants vmId userId) env.grants_le_finished

theorem selected_le_finished : env.selectedAt ≤ env.finishedAt :=
  Nat.le_trans env.selected_le_grants env.grants_le_finished

end SweepEnv

def SweepEnv.instant (now : Time) (fails : VmId → UserId → SweepPoint → Bool) : SweepEnv where
  selectedAt := now
  deletedAt := fun _ _ => now
  grantsPrunedAt := now
  membersPrunedAt := now
  rolesPrunedAt := now
  permissionsPrunedAt := now
  fails := fails
  selected_le_deleted := fun _ _ => Nat.le_refl now
  deleted_le_grants := fun _ _ => Nat.le_refl now
  selected_le_grants := Nat.le_refl now
  grants_le_members := Nat.le_refl now
  members_le_roles := Nat.le_refl now
  roles_le_permissions := Nat.le_refl now

abbrev SweepProgram (α : Type) := Program AppError AccessWorld α

def SweepEnv.reach (env : SweepEnv) (vmId : VmId) (userId : UserId) (point : SweepPoint) :
    SweepProgram Unit :=
  ensure (!env.fails vmId userId point) (AppError.external "Guacamole" "unavailable")

/-- `revokeVmAccess` of `services/guacamole.ts`. -/
def revokeVmAccess (env : SweepEnv) (vmId : VmId) (userId : UserId) : SweepProgram Unit := do
  env.reach vmId userId .listConnectionRecords
  let connections ← query fun w => w.listConnectionRecords vmId
  env.reach vmId userId .findUserRecord
  let userRecord ← query fun w => w.findUserRecord userId
  match userRecord with
  | none => pure ()
  | some record =>
    forM connections fun c => do
      env.reach vmId userId (.revokeConnectionAccess c.guacConnectionName)
      write (AccessWorld.revokeConnectionAccess c.guacConnectionName record.guacUsername)

/-- `DELETE FROM vm_access` of the expired grant of a pair. -/
def deleteExpiredGrant (vmId : VmId) (userId : UserId) (now : Time) (db : Db) : Db :=
  { db with vmAccess := db.vmAccess.deleteWhere fun va =>
      decide (va.vmId = vmId) && decide (va.userId = userId) && isExpired va.expiresAt now }

/-- What the `try` block does for one pair. -/
def sweepPair (env : SweepEnv) (vmId : VmId) (userId : UserId) : SweepProgram Unit := do
  env.reach vmId userId .getGuacDb
  revokeVmAccess env vmId userId
  env.reach vmId userId .deleteVmAccess
  write fun w => { w with db := deleteExpiredGrant vmId userId (env.deletedAt vmId userId) w.db }
  env.reach vmId userId .audit

structure SweepResult where
  revoked : Nat
  errors : Nat
  deriving DecidableEq, Repr

def sweepPairs (env : SweepEnv) : List (VmId × UserId) → SweepResult → AccessWorld →
    SweepResult × AccessWorld
  | [], result, w => (result, w)
  | (vmId, userId) :: rest, result, w =>
    match exec (sweepPair env vmId userId) w with
    | (.ok _, w') => sweepPairs env rest { result with revoked := result.revoked + 1 } w'
    | (.error _, w') => sweepPairs env rest { result with errors := result.errors + 1 } w'

def pruneExpired (env : SweepEnv) (db : Db) : Db :=
  { db with
    groupVmAccess := db.groupVmAccess.deleteWhere fun r => isExpired r.expiresAt env.grantsPrunedAt
    groupMembers := db.groupMembers.deleteWhere fun r => isExpired r.expiresAt env.membersPrunedAt
    groupRoles := db.groupRoles.deleteWhere fun r => isExpired r.expiresAt env.rolesPrunedAt
    userPermissions := db.userPermissions.deleteWhere fun r =>
      isExpired r.expiresAt env.permissionsPrunedAt }

def sweepExpiredVmAccess (env : SweepEnv) (w : AccessWorld) : SweepResult × AccessWorld :=
  let swept := sweepPairs env (stalePairs w.db env.selectedAt) ⟨0, 0⟩ w
  (swept.1, { swept.2 with db := pruneExpired env swept.2.db })

/-! ## What a pass does to one pair -/

def AccessWorld.Revoked (w : AccessWorld) (vmId : VmId) (userId : UserId) : Prop :=
  ∀ c, ¬ w.Reads vmId userId c

structure AccessWorld.Shrinks (w w' : AccessWorld) : Prop where
  connections : w'.connections = w.connections
  guacUsers : w'.guacUsers = w.guacUsers
  reads : ∀ r ∈ w'.reads, r ∈ w.reads

namespace AccessWorld.Shrinks

variable {w w' w'' : AccessWorld} {vmId : VmId} {userId : UserId}

theorem refl (w : AccessWorld) : w.Shrinks w := ⟨rfl, rfl, fun _ hr => hr⟩

theorem trans (h : w.Shrinks w') (h' : w'.Shrinks w'') : w.Shrinks w'' :=
  ⟨h'.connections.trans h.connections, h'.guacUsers.trans h.guacUsers,
    fun r hr => h.reads r (h'.reads r hr)⟩

theorem listConnectionRecords (h : w.Shrinks w') (vmId : VmId) :
    w'.listConnectionRecords vmId = w.listConnectionRecords vmId := by
  rw [AccessWorld.listConnectionRecords, h.connections, AccessWorld.listConnectionRecords]

theorem findUserRecord (h : w.Shrinks w') (userId : UserId) :
    w'.findUserRecord userId = w.findUserRecord userId := by
  rw [AccessWorld.findUserRecord, h.guacUsers, AccessWorld.findUserRecord]

theorem reads_of (h : w.Shrinks w') {c : VmConnectionRow} (hreads : w'.Reads vmId userId c) :
    w.Reads vmId userId c := by
  obtain ⟨hc, record, hrecord, hmem⟩ := hreads
  rw [h.listConnectionRecords] at hc
  rw [h.findUserRecord] at hrecord
  exact ⟨hc, record, hrecord, h.reads _ hmem⟩

theorem revoked (h : w.Shrinks w') (hrevoked : w.Revoked vmId userId) : w'.Revoked vmId userId :=
  fun c hreads => hrevoked c (h.reads_of hreads)

theorem withDb (h : w.Shrinks w') (db : Db) : w.Shrinks { w' with db } :=
  ⟨h.connections, h.guacUsers, h.reads⟩

theorem revokeConnectionAccess (h : w.Shrinks w') (connectionName guacUsername : String) :
    w.Shrinks (w'.revokeConnectionAccess connectionName guacUsername) :=
  ⟨h.connections, h.guacUsers, fun r hr => h.reads r (List.mem_filter.mp hr).1⟩

end AccessWorld.Shrinks

structure SweepEnv.Answers (env : SweepEnv) (w : AccessWorld) (vmId : VmId) (userId : UserId) :
    Prop where
  getGuacDb : env.fails vmId userId .getGuacDb = false
  listConnectionRecords : env.fails vmId userId .listConnectionRecords = false
  findUserRecord : env.fails vmId userId .findUserRecord = false
  revoke : ∀ c ∈ w.listConnectionRecords vmId,
    env.fails vmId userId (.revokeConnectionAccess c.guacConnectionName) = false

theorem SweepEnv.Answers.of_shrinks {env : SweepEnv} {w w' : AccessWorld} {vmId : VmId}
    {userId : UserId} (hanswers : env.Answers w vmId userId) (h : w.Shrinks w') :
    env.Answers w' vmId userId :=
  ⟨hanswers.getGuacDb, hanswers.listConnectionRecords, hanswers.findUserRecord,
    fun c hc => hanswers.revoke c (by rwa [h.listConnectionRecords] at hc)⟩

section pair

variable {env : SweepEnv} {w : AccessWorld} {vmId : VmId} {userId : UserId}

@[simp] theorem after_reach {point : SweepPoint} {Q : Except AppError Unit → AccessWorld → Prop} :
    after (env.reach vmId userId point) Q w ↔ (env.fails vmId userId point = false → Q (.ok ()) w) ∧
        (env.fails vmId userId point = true →
          Q (.error (AppError.external "Guacamole" "unavailable")) w) := by
  simp [SweepEnv.reach]

theorem after_revokeVmAccess : after (revokeVmAccess env vmId userId) (fun r w' =>
    w.Shrinks w' ∧ w'.db = w.db ∧ (r = .ok () → w'.Revoked vmId userId)) w := by
  simp only [revokeVmAccess, after_bind, after_reach, after_query]
  refine ⟨fun _ => ⟨fun _ => ?_, fun _ => ⟨.refl w, trivial, fun hok => by cases hok⟩⟩,
    fun _ => ⟨.refl w, trivial, fun hok => by cases hok⟩⟩
  cases hrecord : w.findUserRecord userId with
  | none =>
      refine ⟨.refl w, rfl, fun _ c hreads => ?_⟩
      obtain ⟨-, record, hsome, -⟩ := hreads
      change w.findUserRecord userId = some record at hsome
      rw [hrecord] at hsome
      cases hsome
  | some record =>
      refine after_mono (after_forM_each (I := fun s => w.Shrinks s ∧ s.db = w.db)
        (D := fun c s => (⟨c.guacConnectionName, record.guacUsername⟩ : ReadPermission) ∉ s.reads)
        ?_ ⟨.refl w, rfl⟩) ?_
      · rintro c - s ⟨hshrinks, hdb⟩
        simp only [after_bind, after_reach, after_write]
        refine ⟨fun _ => ⟨⟨hshrinks.revokeConnectionAccess _ _, hdb⟩, fun y hy hmem => ?_,
          fun _ hmem => ?_⟩, fun _ => ⟨⟨hshrinks, hdb⟩, fun _ hy => hy, fun hok => by cases hok⟩⟩
        · exact hy (List.mem_filter.mp hmem).1
        · simp [AccessWorld.revokeConnectionAccess] at hmem
      · rintro r w' ⟨⟨hshrinks, hdb⟩, -, hdone⟩
        refine ⟨hshrinks, hdb, fun hok c hreads => ?_⟩
        obtain ⟨hc, record', hrecord', hmem⟩ := hreads
        rw [hshrinks.listConnectionRecords] at hc
        rw [hshrinks.findUserRecord, hrecord] at hrecord'
        cases hrecord'
        exact hdone hok c hc hmem

theorem after_revokeVmAccess_ok (hanswers : env.Answers w vmId userId) :
    after (revokeVmAccess env vmId userId) (fun r _ => r = .ok ()) w := by
  simp only [revokeVmAccess, after_bind, after_reach, after_query, hanswers.listConnectionRecords,
    hanswers.findUserRecord, true_implies, Bool.false_eq_true, false_implies, and_true]
  cases hrecord : w.findUserRecord userId with
  | none => rfl
  | some record =>
      refine after_forM_ok fun c hc s => ?_
      simp [hanswers.revoke c hc]

structure PairSwept (env : SweepEnv) (w : AccessWorld) (vmId : VmId) (userId : UserId)
    (r : Except AppError Unit) (w' : AccessWorld) : Prop where
  shrinks : w.Shrinks w'
  db : w'.db = w.db ∨
    w'.db = deleteExpiredGrant vmId userId (env.deletedAt vmId userId) w.db ∧
      w'.Revoked vmId userId
  done : r = .ok () → w'.Revoked vmId userId
  answered : env.Answers w vmId userId → w'.Revoked vmId userId

theorem after_sweepPair : after (sweepPair env vmId userId) (PairSwept env w vmId userId) w := by
  have hstay : env.fails vmId userId .getGuacDb = true → ∀ e : AppError,
      PairSwept env w vmId userId (.error e) w := fun hfails e =>
    ⟨.refl w, .inl rfl, (fun hok => by cases hok), fun hanswers => by simp [hanswers.getGuacDb] at hfails⟩
  simp only [sweepPair, after_bind, after_reach]
  refine ⟨fun _ => ?_, fun hfails => hstay hfails _⟩
  have hrevoke : after (revokeVmAccess env vmId userId) (fun r w' =>
      (w.Shrinks w' ∧ w'.db = w.db ∧ (r = .ok () → w'.Revoked vmId userId)) ∧
        (env.Answers w vmId userId → r = .ok ())) w :=
    ⟨after_revokeVmAccess, after_revokeVmAccess_ok⟩
  refine after_mono hrevoke ?_
  rintro r w' ⟨⟨hshrinks, hdb, hdone⟩, hok⟩
  cases r with
  | error e =>
      exact ⟨hshrinks, .inl hdb, (fun hdone => by cases hdone), fun hanswers => by cases hok hanswers⟩
  | ok _ =>
      have hrevoked := hdone rfl
      have hafter : (AccessWorld.Revoked { w' with
          db := deleteExpiredGrant vmId userId (env.deletedAt vmId userId) w'.db } vmId userId) :=
        ((AccessWorld.Shrinks.refl w').withDb _).revoked hrevoked
      have hdeleted : ∀ r : Except AppError Unit, PairSwept env w vmId userId r { w' with
          db := deleteExpiredGrant vmId userId (env.deletedAt vmId userId) w'.db } := fun r =>
        ⟨hshrinks.withDb _, .inr ⟨by rw [hdb], hafter⟩, fun _ => hafter, fun _ => hafter⟩
      simp only [after_write]
      exact ⟨fun _ => ⟨fun _ => hdeleted _, fun _ => hdeleted _⟩,
        fun _ => ⟨hshrinks, .inl hdb, fun _ => hrevoked, fun _ => hrevoked⟩⟩

end pair

/-! ## What a pass does altogether -/

def SameBesideGrants (db db' : Db) : Prop := db' = { db with vmAccess := db'.vmAccess }

structure PairsSwept (env : SweepEnv) (pairs : List (VmId × UserId)) (w w' : AccessWorld) :
    Prop where
  shrinks : w.Shrinks w'
  beside : SameBesideGrants w.db w'.db
  fewer : ∀ va ∈ w'.db.vmAccess, va ∈ w.db.vmAccess
  kept : ∀ va ∈ w.db.vmAccess, va ∈ w'.db.vmAccess ∨
    isExpired va.expiresAt (env.deletedAt va.vmId va.userId) = true ∧
      w'.Revoked va.vmId va.userId
  answered : ∀ pair ∈ pairs, env.Answers w pair.1 pair.2 → w'.Revoked pair.1 pair.2

namespace PairsSwept

variable {env : SweepEnv} {w w' : AccessWorld}

theorem nil (w : AccessWorld) : PairsSwept env [] w w :=
  ⟨.refl w, rfl, fun _ hva => hva, fun _ hva => .inl hva, by simp⟩

theorem cons {vmId : VmId} {userId : UserId} {pairs : List (VmId × UserId)}
    {r : Except AppError Unit} {w₁ : AccessWorld} (hpair : PairSwept env w vmId userId r w₁)
    (hrest : PairsSwept env pairs w₁ w') : PairsSwept env ((vmId, userId) :: pairs) w w' := by
  have hbeside : SameBesideGrants w.db w₁.db ∧ (∀ va ∈ w₁.db.vmAccess, va ∈ w.db.vmAccess) ∧
      ∀ va ∈ w.db.vmAccess, va ∈ w₁.db.vmAccess ∨
        isExpired va.expiresAt (env.deletedAt va.vmId va.userId) = true ∧
          w₁.Revoked va.vmId va.userId := by
    rcases hpair.db with hdb | ⟨hdb, hrevoked⟩
    · rw [hdb]
      exact ⟨rfl, fun _ hva => hva, fun _ hva => .inl hva⟩
    · rw [hdb]
      refine ⟨rfl, fun va hva => (Table.mem_deleteWhere.mp hva).1, fun va hva => ?_⟩
      by_cases hgone : va.vmId = vmId ∧ va.userId = userId ∧
          isExpired va.expiresAt (env.deletedAt vmId userId) = true
      · obtain ⟨rfl, rfl, hexpired⟩ := hgone
        exact .inr ⟨hexpired, hrevoked⟩
      · refine .inl (Table.mem_deleteWhere.mpr ⟨hva, ?_⟩)
        rw [Bool.eq_false_iff]
        intro hcond
        simp only [Bool.and_eq_true, decide_eq_true_eq, and_assoc] at hcond
        exact hgone hcond
  obtain ⟨hbeside, hfewer, hkept⟩ := hbeside
  refine ⟨hpair.shrinks.trans hrest.shrinks, ?_, fun va hva => hfewer va (hrest.fewer va hva),
    fun va hva => ?_, List.forall_mem_cons.mpr ⟨fun hanswers => ?_, fun pair hmem hanswers => ?_⟩⟩
  · have hrest' := hrest.beside
    unfold SameBesideGrants at hrest' hbeside ⊢
    rw [hrest', hbeside]
  · rcases hkept va hva with hstays | ⟨hexpired, hrevoked⟩
    · exact hrest.kept va hstays
    · exact .inr ⟨hexpired, hrest.shrinks.revoked hrevoked⟩
  · exact hrest.shrinks.revoked (hpair.answered hanswers)
  · exact hrest.answered pair hmem (hanswers.of_shrinks hpair.shrinks)

end PairsSwept

theorem sweepPairs_spec (env : SweepEnv) (pairs : List (VmId × UserId)) (result : SweepResult)
    (w : AccessWorld) : PairsSwept env pairs w (sweepPairs env pairs result w).2 ∧
      result.errors ≤ (sweepPairs env pairs result w).1.errors ∧
      ((sweepPairs env pairs result w).1.errors = result.errors →
        ∀ pair ∈ pairs, (sweepPairs env pairs result w).2.Revoked pair.1 pair.2) := by
  induction pairs generalizing result w with
  | nil => exact ⟨.nil w, Nat.le_refl _, fun _ => by simp⟩
  | cons pair rest ih =>
      obtain ⟨vmId, userId⟩ := pair
      have hpair : PairSwept env w vmId userId (exec (sweepPair env vmId userId) w).1
          (exec (sweepPair env vmId userId) w).2 := after_sweepPair
      rw [sweepPairs]
      cases hexec : exec (sweepPair env vmId userId) w with
      | mk r w₁ =>
          rw [hexec] at hpair
          cases r with
          | ok _ =>
              obtain ⟨hrest, hle, hnone⟩ := ih { result with revoked := result.revoked + 1 } w₁
              refine ⟨hrest.cons hpair, hle, fun hsame => List.forall_mem_cons.mpr ⟨?_, hnone hsame⟩⟩
              exact hrest.shrinks.revoked (hpair.done rfl)
          | error e =>
              obtain ⟨hrest, hle, -⟩ := ih { result with errors := result.errors + 1 } w₁
              dsimp only at hle ⊢
              refine ⟨hrest.cons hpair, by omega, fun hsame => ?_⟩
              omega

structure Swept (env : SweepEnv) (w w' : AccessWorld) : Prop where
  shrinks : w.Shrinks w'
  users : w'.db.users = w.db.users
  roles : w'.db.roles = w.db.roles
  userRoles : w'.db.userRoles = w.db.userRoles
  rolePermissions : w'.db.rolePermissions = w.db.rolePermissions
  groups : w'.db.groups = w.db.groups
  groupVmAccess : ∀ r, r ∈ w'.db.groupVmAccess ↔
    r ∈ w.db.groupVmAccess ∧ isLive r.expiresAt env.grantsPrunedAt = true
  groupMembers : ∀ r, r ∈ w'.db.groupMembers ↔
    r ∈ w.db.groupMembers ∧ isLive r.expiresAt env.membersPrunedAt = true
  groupRoles : ∀ r, r ∈ w'.db.groupRoles ↔
    r ∈ w.db.groupRoles ∧ isLive r.expiresAt env.rolesPrunedAt = true
  userPermissions : ∀ r, r ∈ w'.db.userPermissions ↔
    r ∈ w.db.userPermissions ∧ isLive r.expiresAt env.permissionsPrunedAt = true
  fewer : ∀ va ∈ w'.db.vmAccess, va ∈ w.db.vmAccess
  kept : ∀ va ∈ w.db.vmAccess, va ∈ w'.db.vmAccess ∨
    isExpired va.expiresAt (env.deletedAt va.vmId va.userId) = true ∧
      w'.Revoked va.vmId va.userId
  answered : ∀ pair ∈ stalePairs w.db env.selectedAt, env.Answers w pair.1 pair.2 →
    w'.Revoked pair.1 pair.2

/-- **What a pass does.**  Without an error it also leaves no selected pair anything to
read. -/
theorem sweep_spec (env : SweepEnv) (w : AccessWorld) : Swept env w (sweepExpiredVmAccess env w).2 ∧
      ((sweepExpiredVmAccess env w).1.errors = 0 → ∀ pair ∈ stalePairs w.db env.selectedAt,
        (sweepExpiredVmAccess env w).2.Revoked pair.1 pair.2) := by
  obtain ⟨hswept, -, hdone⟩ :=
    sweepPairs_spec env (stalePairs w.db env.selectedAt) ⟨0, 0⟩ w
  have hprune : ∀ expiresAt now, isExpired expiresAt now = false ↔ isLive expiresAt now = true := by
    simp [isExpired]
  have hbeside := hswept.beside
  unfold SameBesideGrants at hbeside
  unfold sweepExpiredVmAccess
  generalize sweepPairs env (stalePairs w.db env.selectedAt) ⟨0, 0⟩ w = swept at *
  refine ⟨⟨hswept.shrinks.withDb _, ?_, ?_, ?_, ?_, ?_, fun r => ?_, fun r => ?_, fun r => ?_,
    fun r => ?_, hswept.fewer, hswept.kept, hswept.answered⟩, hdone⟩
  · show swept.2.db.users = w.db.users
    rw [hbeside]
  · show swept.2.db.roles = w.db.roles
    rw [hbeside]
  · show swept.2.db.userRoles = w.db.userRoles
    rw [hbeside]
  · show swept.2.db.rolePermissions = w.db.rolePermissions
    rw [hbeside]
  · show swept.2.db.groups = w.db.groups
    rw [hbeside]
  · simp only [pruneExpired, Table.mem_deleteWhere, hprune]
    rw [hbeside]
  · simp only [pruneExpired, Table.mem_deleteWhere, hprune]
    rw [hbeside]
  · simp only [pruneExpired, Table.mem_deleteWhere, hprune]
    rw [hbeside]
  · simp only [pruneExpired, Table.mem_deleteWhere, hprune]
    rw [hbeside]

end ProxVM
