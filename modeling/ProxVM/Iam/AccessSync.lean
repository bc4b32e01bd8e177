import ProxVM.Guacamole.Service
import ProxVM.Iam.Service
import ProxVM.Iam.SweepSurvival
import ProxVM.Services.Vms

/-!
# Access and Guacamole, operation by operation

The helpers with which the routes keep Guacamole in step with the access tables:
`ensureGuacUser` and `grantVmAccess` of `services/guacamole.ts`, as far as READ permissions
depend on them, beside `revokeVmAccess`.

`grantVmAccess` takes all connections of a VM and `revokeVmAccess` withdraws all of them, so
what they leave is what a user's access permits only under a condition:
`GrantedAll.readsPermitted_iff` and `WithdrawnAll.readsPermitted_iff` say which.  What an operation
for one user does to another is `Bystander`.
-/

namespace ProxVM

open Tables Fallible

/-! ## Operations -/

structure AccessEnv where
  fails : VmId → UserId → SweepPoint → Bool
  ensureFails : UserId → Bool

def AccessEnv.at (env : AccessEnv) (now : Time) : SweepEnv := .instant now env.fails

def onDb {α : Type} (m : Handler α) : SweepProgram α := fun w =>
  ((exec m w.db).1, { w with db := (exec m w.db).2 })

@[simp] theorem after_onDb {α : Type} {m : Handler α} {Q : Except AppError α → AccessWorld → Prop}
    {w : AccessWorld} : after (onDb m) Q w ↔ after m (fun r db => Q r { w with db }) w.db := Iff.rfl

@[simp] theorem onSuccess_onDb {α : Type} {m : Handler α} {P : α → AccessWorld → Prop} {w : AccessWorld} :
    onSuccess (onDb m) P w ↔ onSuccess m (fun a db => P a { w with db }) w.db := Iff.rfl

/-- `INSERT INTO guacamole_users … ON CONFLICT (user_id) DO UPDATE`: the user exists and
`guac_username` is unique. -/
def AccessWorld.upsertGuacUser (w : AccessWorld) (userId : UserId) (guacUsername : String) :
    Option AccessWorld :=
  if (w.db.users.find? userId).isSome && !(w.guacUsers.rows.any fun r =>
      decide (r.userId ≠ userId) && decide (r.guacUsername = guacUsername)) then
    some { w with guacUsers := w.guacUsers.put ⟨userId, guacUsername⟩ }
  else
    none

/-- `ensureGuacUser`, which touches no READ permission on a connection. -/
def ensureGuacUser (env : AccessEnv) (userId : UserId) (appUsername : String) :
    SweepProgram Unit := do
  ensure (!env.ensureFails userId) (AppError.database "Guacamole database error")
  tryWrite (fun w => w.upsertGuacUser userId (guacUsernameOf appUsername))
    (AppError.database "duplicate key value violates unique constraint")

/-- `grantVmAccess`: READ on every connection of the VM. -/
def grantVmAccess (env : SweepEnv) (vmId : VmId) (userId : UserId) : SweepProgram Unit := do
  env.reach vmId userId .listConnectionRecords
  let connections ← query fun w => w.listConnectionRecords vmId
  env.reach vmId userId .findUserRecord
  let userRecord ← query fun w => w.findUserRecord userId
  match userRecord with
  | none => pure ()
  | some record =>
    forM connections fun c => do
      env.reach vmId userId (.grantConnectionRead c.guacConnectionName)
      write (AccessWorld.grantConnectionRead c.guacConnectionName record.guacUsername)

/-! ## Bystanders -/

/-- `guac_username` is unique. -/
def AccessWorld.UniqueNames (w : AccessWorld) : Prop :=
  ∀ r ∈ w.guacUsers, ∀ r' ∈ w.guacUsers, r.guacUsername = r'.guacUsername → r.userId = r'.userId

structure Bystander (vmId : VmId) (userId : UserId) (w w' : AccessWorld) : Prop where
  connections : w'.connections = w.connections
  record : w'.findUserRecord userId = w.findUserRecord userId
  reads : ∀ record, w.findUserRecord userId = some record → ∀ name,
    ((⟨name, record.guacUsername⟩ : ReadPermission) ∈ w'.reads ↔
      (⟨name, record.guacUsername⟩ : ReadPermission) ∈ w.reads)
  grant : w'.db.vmAccess.find? (vmId, userId) = w.db.vmAccess.find? (vmId, userId)
  beside : SameBesideGrants w.db w'.db

structure Confined (vmId : VmId) (userId : UserId) (w w' : AccessWorld) : Prop where
  unique : w.UniqueNames → w'.UniqueNames
  connections : w'.connections = w.connections
  beside : SameBesideGrants w.db w'.db
  others : w.UniqueNames → ∀ other, other ≠ userId → Bystander vmId other w w'

section confined

variable {vmId : VmId} {userId other : UserId} {w w' w'' : AccessWorld}

theorem SameBesideGrants.trans {db db' db'' : Db} (h : SameBesideGrants db db')
    (h' : SameBesideGrants db' db'') : SameBesideGrants db db'' := by
  unfold SameBesideGrants at h h' ⊢
  rw [h', h]

theorem Bystander.refl (w : AccessWorld) : Bystander vmId userId w w :=
  ⟨rfl, rfl, fun _ _ _ => Iff.rfl, rfl, rfl⟩

theorem Bystander.trans (h : Bystander vmId userId w w') (h' : Bystander vmId userId w' w'') :
    Bystander vmId userId w w'' :=
  ⟨h'.connections.trans h.connections, h'.record.trans h.record,
    fun record hrecord name => (h'.reads record (h.record.trans hrecord) name).trans
      (h.reads record hrecord name),
    h'.grant.trans h.grant, h.beside.trans h'.beside⟩

theorem Confined.refl (w : AccessWorld) : Confined vmId userId w w :=
  ⟨id, rfl, rfl, fun _ _ _ => Bystander.refl w⟩

theorem Confined.trans (h : Confined vmId userId w w') (h' : Confined vmId userId w' w'') :
    Confined vmId userId w w'' :=
  ⟨fun hunique => h'.unique (h.unique hunique), h'.connections.trans h.connections,
    h.beside.trans h'.beside, fun hunique other hne =>
      (h.others hunique other hne).trans (h'.others (h.unique hunique) other hne)⟩

theorem Confined.of_reads (hconnections : w'.connections = w.connections)
    (husers : w'.guacUsers = w.guacUsers) (hdb : w'.db = w.db) {record : GuacUserRow}
    (hrecord : w.findUserRecord userId = some record)
    (hreads : ∀ p : ReadPermission, p.guacUsername ≠ record.guacUsername →
      (p ∈ w'.reads ↔ p ∈ w.reads)) : Confined vmId userId w w' := by
  refine ⟨fun hunique => ?_, hconnections, ?_, fun hunique other hne => ⟨hconnections, ?_, ?_, ?_, ?_⟩⟩
  · intro r hr r' hr'
    rw [husers] at hr hr'
    exact hunique r hr r' hr'
  · rw [hdb]
    rfl
  · rw [AccessWorld.findUserRecord, husers, AccessWorld.findUserRecord]
  · intro record' hrecord' name
    refine hreads _ fun hsame => hne ?_
    have hids := hunique record' (Table.mem_of_find? hrecord') record
      (Table.mem_of_find? hrecord) hsame
    rw [← Table.key_of_find? hrecord', ← Table.key_of_find? hrecord]
    exact hids
  · rw [hdb]
  · rw [hdb]
    rfl

theorem Confined.of_grants {t : Table VmAccessRow.key}
    (ht : ∀ other, other ≠ userId → t.find? (vmId, other) = w.db.vmAccess.find? (vmId, other)) :
    Confined vmId userId w { w with db := { w.db with vmAccess := t } } :=
  ⟨id, rfl, rfl, fun _ other hne => ⟨rfl, rfl, fun _ _ _ => Iff.rfl, ht other hne, rfl⟩⟩

end confined

/-! ## What each operation does -/

def AccessWorld.Granted (w : AccessWorld) (vmId : VmId) (userId : UserId) : Prop :=
  ∃ record, w.findUserRecord userId = some record ∧ ∀ c ∈ w.listConnectionRecords vmId,
    (⟨c.guacConnectionName, record.guacUsername⟩ : ReadPermission) ∈ w.reads

section operations

variable {env : AccessEnv} {senv : SweepEnv} {vmId : VmId} {userId : UserId} {w w' : AccessWorld}

theorem AccessWorld.upsertGuacUser_eq_some (vmId : VmId) {guacUsername : String}
    (hput : w.upsertGuacUser userId guacUsername = some w') :
    Confined vmId userId w w' ∧ w'.db = w.db ∧ w'.reads = w.reads ∧
      w'.findUserRecord userId = some ⟨userId, guacUsername⟩ := by
  unfold AccessWorld.upsertGuacUser at hput
  split at hput
  · rename_i hfree
    cases hput
    simp only [Bool.and_eq_true, Bool.not_eq_true', List.any_eq_false, decide_eq_true_eq,
      not_and] at hfree
    have hkept : ∀ other, other ≠ userId →
        (w.guacUsers.put ⟨userId, guacUsername⟩).find? other = w.guacUsers.find? other :=
      fun other hne => Table.find?_put_of_ne w.guacUsers hne.symm
    refine ⟨⟨fun hunique => ?_, rfl, rfl, fun _ other hne =>
      ⟨rfl, hkept other hne, fun _ _ _ => Iff.rfl, rfl, rfl⟩⟩, rfl, rfl,
      Table.find?_put_self w.guacUsers ⟨userId, guacUsername⟩⟩
    intro r hr r' hr' hname
    rcases Table.mem_put.mp hr with rfl | ⟨hr, hne⟩
    · rcases Table.mem_put.mp hr' with rfl | ⟨hr', hne'⟩
      · rfl
      · exact absurd hname.symm (hfree.2 r' hr' hne')
    · rcases Table.mem_put.mp hr' with rfl | ⟨hr', -⟩
      · exact absurd hname (hfree.2 r hr hne)
      · exact hunique r hr r' hr' hname
  · cases hput

@[simp] theorem onSuccess_reach {point : SweepPoint} {P : Unit → AccessWorld → Prop} :
    onSuccess (senv.reach vmId userId point) P w ↔ (senv.fails vmId userId point = false → P () w) := by
  simp [SweepEnv.reach]

theorem onSuccess_ensureGuacUser (vmId : VmId) (appUsername : String) :
    onSuccess (ensureGuacUser env userId appUsername) (fun _ w' =>
      Confined vmId userId w w' ∧ w'.db = w.db ∧ (w'.findUserRecord userId).isSome) w := by
  simp only [ensureGuacUser, onSuccess_bind, onSuccess_ensure, onSuccess_tryWrite]
  intro _ w' hput
  obtain ⟨hconfined, hdb, -, hfound⟩ := AccessWorld.upsertGuacUser_eq_some vmId hput
  exact ⟨hconfined, hdb, by rw [hfound]; rfl⟩

theorem onSuccess_grantVmAccess : onSuccess (grantVmAccess senv vmId userId) (fun _ w' =>
    Confined vmId userId w w' ∧ w'.db = w.db ∧
      ((w.findUserRecord userId).isSome → w'.Granted vmId userId)) w := by
  simp only [grantVmAccess, onSuccess_bind, onSuccess_reach, onSuccess_query]
  intro _ _
  cases hrecord : w.findUserRecord userId with
  | none => exact onSuccess_pure.mpr ⟨.refl w, rfl, fun hsome => by cases hsome⟩
  | some record =>
      refine onSuccess_of_after after_grants ?_
      rintro _ w' ⟨hdb, hconnections, husers, hreads⟩
      have hmem := hreads rfl
      have hfound : w'.findUserRecord userId = some record := by
        rw [AccessWorld.findUserRecord, husers]
        exact hrecord
      refine ⟨.of_reads hconnections husers hdb hrecord fun p hp => ?_, hdb, fun _ =>
        ⟨record, hfound, fun c hc => (hmem _).mpr (.inr ⟨c, ?_, rfl⟩)⟩⟩
      · rw [hmem, or_iff_left]
        rintro ⟨c, -, rfl⟩
        exact hp rfl
      · rw [AccessWorld.listConnectionRecords, hconnections] at hc
        exact hc

theorem confined_revokeVmAccess : onSuccess (revokeVmAccess senv vmId userId) (fun _ w' =>
    Confined vmId userId w w') w := by
  simp only [revokeVmAccess, onSuccess_bind, onSuccess_reach, onSuccess_query]
  intro _ _
  cases hrecord : w.findUserRecord userId with
  | none => exact onSuccess_pure.mpr (.refl w)
  | some record =>
      refine onSuccess_mono (onSuccess_forM (I := fun s => s.connections = w.connections ∧
        s.guacUsers = w.guacUsers ∧ s.db = w.db ∧ ∀ p : ReadPermission,
          p.guacUsername ≠ record.guacUsername → (p ∈ s.reads ↔ p ∈ w.reads)) ?_
        ⟨rfl, rfl, rfl, fun _ _ => Iff.rfl⟩)
        fun _ w' hkept => .of_reads hkept.1 hkept.2.1 hkept.2.2.1 hrecord hkept.2.2.2
      rintro c - s ⟨hconnections, husers, hdb, hreads⟩
      simp only [onSuccess_bind, onSuccess_reach, onSuccess_write]
      refine fun _ => ⟨hconnections, husers, hdb, fun p hp => ?_⟩
      rw [← hreads p hp]
      simp only [AccessWorld.revokeConnectionAccess, List.mem_filter, decide_eq_true_eq,
        and_iff_left_iff_imp]
      rintro - rfl
      exact hp rfl

theorem onSuccess_revokeVmAccess : onSuccess (revokeVmAccess senv vmId userId) (fun _ w' =>
    Confined vmId userId w w' ∧ w'.db = w.db ∧ w'.guacUsers = w.guacUsers ∧
      w'.Revoked vmId userId) w := by
  intro a ha
  obtain ⟨hshrinks, hdb, hrevoked⟩ := onSuccess_of_after (P := fun _ w' =>
    w.Shrinks w' ∧ w'.db = w.db ∧ w'.Revoked vmId userId) after_revokeVmAccess
    (fun _ w' ⟨hshrinks, hdb, hrevoked⟩ => ⟨hshrinks, hdb, hrevoked rfl⟩) a ha
  exact ⟨confined_revokeVmAccess a ha, hdb, hshrinks.guacUsers, hrevoked⟩

end operations

/-! ## Scopes of direct grants -/

def directScope (db : Db) (vmId : VmId) (userId : UserId) :
    Option (Option (List Protocol) × Option Time) :=
  (db.vmAccess.find? (vmId, userId)).map fun va => (va.protocols, va.expiresAt)

section scopes

variable {db db' : Db} {now : Time} {vmId : VmId} {userId : UserId}

theorem vmGrant_iff_scope {protocols : Option (List Protocol)} : VmGrant db now userId vmId protocols ↔
      (∃ expiresAt, directScope db vmId userId = some (protocols, expiresAt) ∧ isLive expiresAt now = true) ∨
      VmGrant { db with vmAccess := Table.empty } now userId vmId protocols := by
  constructor
  · intro hgrant
    cases hgrant with
    | direct va hva huser hvm hlive hprotocols =>
        refine .inl ⟨va.expiresAt, ?_, hlive⟩
        have hfind := Table.find?_of_mem hva
        rw [VmAccessRow.key, huser, hvm] at hfind
        rw [directScope, hfind, ← hprotocols]
        rfl
    | group gm group gva hgm huser hlive hgroup hgid hgva hgvaid hgvalive hvm hprotocols =>
        exact .inr (.group gm group gva hgm huser hlive hgroup hgid hgva hgvaid hgvalive hvm
          hprotocols)
  · rintro (⟨expiresAt, hscope, hlive⟩ | hgrant)
    · obtain ⟨va, hfind, heq⟩ := Option.map_eq_some_iff.mp hscope
      cases heq
      have hkey := Table.key_of_find? hfind
      exact .direct va (Table.mem_of_find? hfind) (congrArg Prod.snd hkey) (congrArg Prod.fst hkey)
        hlive rfl
    · cases hgrant with
      | direct va hva => exact absurd hva (Table.not_mem_empty va)
      | group gm group gva hgm huser hlive hgroup hgid hgva hgvaid hgvalive hvm hprotocols =>
          exact .group gm group gva hgm huser hlive hgroup hgid hgva hgvaid hgvalive hvm hprotocols

theorem permits_of_scope (hbeside : SameBesideGrants db db')
    (hscope : directScope db' vmId userId = directScope db vmId userId) (protocol : Protocol) :
    permits (allowedProtocols (resolveEffectiveAccess db' now userId) vmId) protocol =
      permits (allowedProtocols (resolveEffectiveAccess db now userId) vmId) protocol := by
  refine permits_congr (fun p => ?_) (fun protocols => ?_) protocol
  · rw [hbeside]
    rfl
  · rw [vmGrant_iff_scope, hscope, hbeside]
    exact vmGrant_iff_scope.symm

theorem permits_of_unscoped (hgrant : VmGrant db now userId vmId none) (protocol : Protocol) :
    permits (allowedProtocols (resolveEffectiveAccess db now userId) vmId) protocol = true ↔
      (resolveEffectiveAccess db now userId).globalProtocols = [] ∨
        protocol ∈ (resolveEffectiveAccess db now userId).globalProtocols := by
  obtain ⟨grant, hgrant, hnone⟩ := protocols_eq_none_iff.mpr hgrant
  simp only [allowedProtocols, hgrant, hnone]
  cases hglobals : (resolveEffectiveAccess db now userId).globalProtocols with
  | nil => simp
  | cons first rest => simp

end scopes

/-! ## Granting and withdrawing everything -/

namespace AccessWorld

/-- A grant of all connections is what the user's access permits: with a direct grant stored,
if the access permits every connection; without one, if the global `protocol.*` permissions of
the user, where there are any, cover every connection. -/
def AllPermitted (w : AccessWorld) (now : Time) (vmId : VmId) (userId : UserId) : Prop :=
  match directScope w.db vmId userId with
  | some _ => ∀ c ∈ w.listConnectionRecords vmId,
      permits (allowedProtocols (resolveEffectiveAccess w.db now userId) vmId) c.protocol = true
  | none => (resolveEffectiveAccess w.db now userId).globalProtocols = [] ∨
      ∀ c ∈ w.listConnectionRecords vmId,
        c.protocol ∈ (resolveEffectiveAccess w.db now userId).globalProtocols

def withoutDirect (w : AccessWorld) (vmId : VmId) (userId : UserId) : AccessWorld :=
  { w with db := w.db.deleteVmAccess vmId userId }

variable {w w' : AccessWorld} {now : Time} {vmId : VmId} {userId : UserId}

theorem Granted.readsPermitted_iff (hgranted : w.Granted vmId userId) :
    w.ReadsPermitted now vmId userId ↔ ∀ c ∈ w.listConnectionRecords vmId,
      permits (allowedProtocols (resolveEffectiveAccess w.db now userId) vmId) c.protocol = true := by
  obtain ⟨record, hrecord, hreads⟩ := hgranted
  constructor
  · intro hpermitted c hc
    exact (hpermitted record hrecord c hc).mp (hreads c hc)
  · intro hpermits record' hrecord' c hc
    obtain rfl := Option.some.inj (hrecord'.symm.trans hrecord)
    exact iff_of_true (hreads c hc) (hpermits c hc)

end AccessWorld

structure GrantedAll (vmId : VmId) (userId : UserId) (w w' : AccessWorld) : Prop where
  connections : w'.connections = w.connections
  beside : SameBesideGrants w.db w'.db
  scope : directScope w'.db vmId userId = some ((directScope w.db vmId userId).getD (none, none))
  granted : w'.Granted vmId userId

structure WithdrawnAll (vmId : VmId) (userId : UserId) (w w' : AccessWorld) : Prop where
  connections : w'.connections = w.connections
  record : w'.findUserRecord userId = w.findUserRecord userId
  beside : SameBesideGrants w.db w'.db
  scope : directScope w'.db vmId userId = none
  revoked : w'.Revoked vmId userId

section all

variable {w w' : AccessWorld} {now : Time} {vmId : VmId} {userId : UserId}

theorem GrantedAll.readsPermitted_iff (h : GrantedAll vmId userId w w') :
    w'.ReadsPermitted now vmId userId ↔ w.AllPermitted now vmId userId := by
  have hlist : w'.listConnectionRecords vmId = w.listConnectionRecords vmId := by
    rw [AccessWorld.listConnectionRecords, h.connections, AccessWorld.listConnectionRecords]
  have hscope := h.scope
  rw [h.granted.readsPermitted_iff, hlist, AccessWorld.AllPermitted]
  cases hdirect : directScope w.db vmId userId with
  | some scope =>
      rw [hdirect] at hscope
      simp only [permits_of_scope h.beside (hscope.trans hdirect.symm)]
  | none =>
      rw [hdirect] at hscope
      have hgrant : VmGrant w'.db now userId vmId none :=
        vmGrant_iff_scope.mpr (.inl ⟨none, hscope, rfl⟩)
      have hglobals : (resolveEffectiveAccess w'.db now userId).globalProtocols =
          (resolveEffectiveAccess w.db now userId).globalProtocols := by
        rw [h.beside]
        rfl
      simp only [permits_of_unscoped hgrant, hglobals]
      constructor
      · intro hcovered
        by_cases hempty : (resolveEffectiveAccess w.db now userId).globalProtocols = []
        · exact .inl hempty
        · exact .inr fun c hc => (hcovered c hc).resolve_left hempty
      · rintro (hempty | hcovered) c hc
        · exact .inl hempty
        · exact .inr (hcovered c hc)

theorem directScope_deleteVmAccess (db : Db) (vmId : VmId) (userId : UserId) :
    directScope (db.deleteVmAccess vmId userId) vmId userId = none := by
  rw [directScope, Option.map_eq_none_iff, Table.find?_eq_none_iff]
  intro va hva hkey
  simp only [Db.deleteVmAccess, Table.mem_deleteWhere, Bool.and_eq_false_iff,
    decide_eq_false_iff_not] at hva
  rcases hva.2 with hne | hne
  · exact hne (congrArg Prod.fst hkey)
  · exact hne (congrArg Prod.snd hkey)

theorem WithdrawnAll.readsPermitted_iff (h : WithdrawnAll vmId userId w w') :
    w'.ReadsPermitted now vmId userId ↔ (w.withoutDirect vmId userId).NothingPermitted now vmId userId := by
  have hlist : w'.listConnectionRecords vmId =
      (w.withoutDirect vmId userId).listConnectionRecords vmId := by
    rw [AccessWorld.listConnectionRecords, h.connections]
    rfl
  have hbeside : SameBesideGrants (w.withoutDirect vmId userId).db w'.db := by
    have hbeside := h.beside
    unfold SameBesideGrants at hbeside ⊢
    rw [hbeside]
    rfl
  have hscope : directScope w'.db vmId userId =
      directScope (w.withoutDirect vmId userId).db vmId userId :=
    h.scope.trans (directScope_deleteVmAccess w.db vmId userId).symm
  rw [h.revoked.readsPermitted_iff]
  simp only [AccessWorld.NothingPermitted, hlist, permits_of_scope hbeside hscope, h.record]
  rfl

theorem AccessWorld.readsPermitted_of_none (hnone : w.findUserRecord userId = none) :
    w.ReadsPermitted now vmId userId := by
  intro record hrecord
  rw [hnone] at hrecord
  cases hrecord

end all

/-! ## Loops over users -/

section loops

variable {env : AccessEnv} {vmId : VmId} {userId : UserId} {now : Time} {w w' w'' : AccessWorld}

theorem Bystander.listConnectionRecords (h : Bystander vmId userId w w') :
    w'.listConnectionRecords vmId = w.listConnectionRecords vmId := by
  rw [AccessWorld.listConnectionRecords, h.connections, AccessWorld.listConnectionRecords]

theorem Bystander.granted (h : Bystander vmId userId w w') (hgranted : w.Granted vmId userId) :
    w'.Granted vmId userId := by
  obtain ⟨record, hrecord, hreads⟩ := hgranted
  refine ⟨record, h.record.trans hrecord, fun c hc => ?_⟩
  rw [h.listConnectionRecords] at hc
  exact (h.reads record hrecord _).mpr (hreads c hc)

theorem Bystander.revoked (h : Bystander vmId userId w w') (hrevoked : w.Revoked vmId userId) :
    w'.Revoked vmId userId := by
  rintro c ⟨hc, record, hrecord, hread⟩
  rw [h.listConnectionRecords] at hc
  rw [h.record] at hrecord
  exact hrevoked c ⟨hc, record, hrecord, (h.reads record hrecord _).mp hread⟩

theorem Bystander.scope (h : Bystander vmId userId w w') :
    directScope w'.db vmId userId = directScope w.db vmId userId := by
  rw [directScope, h.grant, directScope]

theorem GrantedAll.trans (h : GrantedAll vmId userId w w') (h' : Bystander vmId userId w' w'') :
    GrantedAll vmId userId w w'' :=
  ⟨h'.connections.trans h.connections, h.beside.trans h'.beside, h'.scope.trans h.scope,
    h'.granted h.granted⟩

theorem WithdrawnAll.of_bystander (h : Bystander vmId userId w w')
    (h' : WithdrawnAll vmId userId w' w'') : WithdrawnAll vmId userId w w'' :=
  ⟨h'.connections.trans h.connections, h'.record.trans h.record, h.beside.trans h'.beside,
    h'.scope, h'.revoked⟩

structure Spread (vmId : VmId) (ids : List UserId) (w w' : AccessWorld) : Prop where
  connections : w'.connections = w.connections
  unique : w'.UniqueNames
  beside : SameBesideGrants w.db w'.db
  others : ∀ other, other ∉ ids → Bystander vmId other w w'

theorem Spread.refl (hunique : w.UniqueNames) (vmId : VmId) (ids : List UserId) : Spread vmId ids w w :=
  ⟨rfl, hunique, rfl, fun _ _ => .refl w⟩

theorem Spread.step {ids : List UserId} (h : Spread vmId ids w w')
    (h' : Confined vmId userId w' w'') (hmem : userId ∈ ids) : Spread vmId ids w w'' :=
  ⟨h'.connections.trans h.connections, h'.unique h.unique, h.beside.trans h'.beside,
    fun other hother => (h.others other hother).trans
      (h'.others h.unique other fun heq => hother (heq ▸ hmem))⟩

def scopeOf (w : AccessWorld) (vmId : VmId) (userId : UserId) :
    Option (List Protocol) × Option Time :=
  (directScope w.db vmId userId).getD (none, none)

structure GrantRound (vmId : VmId) (userId : UserId) (w s s' : AccessWorld) : Prop where
  confined : Confined vmId userId s s'
  scope : scopeOf s' vmId userId = scopeOf w vmId userId
  granted : (w.db.users.find? userId).isSome →
    s'.Granted vmId userId ∧ (directScope s'.db vmId userId).isSome

theorem directScope_of_scopeOf (hscope : scopeOf w' vmId userId = scopeOf w vmId userId)
    (hrow : (directScope w'.db vmId userId).isSome) : directScope w'.db vmId userId =
      some ((directScope w.db vmId userId).getD (none, none)) := by
  obtain ⟨scope, hrow⟩ := Option.isSome_iff_exists.mp hrow
  rw [scopeOf, hrow, Option.getD_some] at hscope
  rw [hrow, hscope]
  rfl

theorem GrantRound.grantedAll (h : GrantRound vmId userId w w w')
    (hfound : (w.db.users.find? userId).isSome) : GrantedAll vmId userId w w' :=
  ⟨h.confined.connections, h.confined.beside, directScope_of_scopeOf h.scope (h.granted hfound).2,
    (h.granted hfound).1⟩

theorem onSuccess_grantLoop {f : UserId → SweepProgram PUnit} {ids : List UserId}
    (hround : ∀ userId ∈ ids, ∀ s, Spread vmId ids w s → scopeOf s vmId userId = scopeOf w vmId userId →
      onSuccess (f userId) (fun _ s' => GrantRound vmId userId w s s') s)
    (hunique : w.UniqueNames) : onSuccess (forM ids f) (fun _ w' => Spread vmId ids w w' ∧
      ∀ userId ∈ ids, (w.db.users.find? userId).isSome → GrantedAll vmId userId w w') w := by
  refine onSuccess_mono (onSuccess_forM_each
    (I := fun s => Spread vmId ids w s ∧ ∀ userId, scopeOf s vmId userId = scopeOf w vmId userId)
    (D := fun userId s => (w.db.users.find? userId).isSome →
      s.Granted vmId userId ∧ (directScope s.db vmId userId).isSome) ?_
    ⟨.refl hunique vmId ids, fun _ => rfl⟩) ?_
  · rintro userId hmem s ⟨hspread, hscope⟩
    refine onSuccess_mono (hround userId hmem s hspread (hscope userId)) fun _ s' hdone => ?_
    refine ⟨⟨hspread.step hdone.confined hmem, fun other => ?_⟩, fun other hother hfound => ?_,
      hdone.granted⟩
    · by_cases hsame : other = userId
      · rw [hsame]
        exact hdone.scope
      · rw [scopeOf, (hdone.confined.others hspread.unique other hsame).scope]
        exact hscope other
    · by_cases hsame : other = userId
      · subst hsame
        exact hdone.granted hfound
      · have hby := hdone.confined.others hspread.unique other hsame
        obtain ⟨hgranted, hrow⟩ := hother hfound
        exact ⟨hby.granted hgranted, by rw [hby.scope]; exact hrow⟩
  · rintro _ w' ⟨⟨hspread, hscope⟩, -, hdone⟩
    refine ⟨hspread, fun userId hmem hfound => ?_⟩
    obtain ⟨hgranted, hrow⟩ := hdone userId hmem hfound
    exact ⟨hspread.connections, hspread.beside, directScope_of_scopeOf (hscope userId) hrow,
      hgranted⟩

/-- `revokeVmAccess` and `revokeAccess`, as every withdrawal does. -/
def withdrawVmAccess (senv : SweepEnv) (vmId : VmId) (userId : UserId) : SweepProgram Unit := do
  revokeVmAccess senv vmId userId
  write fun w => { w with db := w.db.deleteVmAccess vmId userId }

theorem find?_deleteVmAccess_of_ne {db : Db} {other : UserId} (hne : other ≠ userId) :
    (db.deleteVmAccess vmId userId).vmAccess.find? (vmId, other) = db.vmAccess.find? (vmId, other) := by
  refine Table.find?_congr fun va hkey => ?_
  have hother : va.userId ≠ userId := by
    rw [show va.userId = other from congrArg Prod.snd hkey]
    exact hne
  simp [Db.deleteVmAccess, hother]

theorem onSuccess_withdrawVmAccess {senv : SweepEnv} :
    onSuccess (withdrawVmAccess senv vmId userId) (fun _ w' =>
      Confined vmId userId w w' ∧ WithdrawnAll vmId userId w w') w := by
  simp only [withdrawVmAccess, onSuccess_bind]
  refine onSuccess_mono onSuccess_revokeVmAccess ?_
  rintro _ w₁ ⟨hconfined, hdb, husers, hrevoked⟩
  rw [onSuccess_write]
  have hdelete : Confined vmId userId w₁ { w₁ with db := w₁.db.deleteVmAccess vmId userId } :=
    .of_grants fun other hne => find?_deleteVmAccess_of_ne hne
  have hboth := hconfined.trans hdelete
  refine ⟨hboth, hboth.connections, ?_, hboth.beside, directScope_deleteVmAccess _ _ _, hrevoked⟩
  rw [AccessWorld.findUserRecord, AccessWorld.findUserRecord, ← husers]

theorem onSuccess_withdrawLoop {senv : SweepEnv} {ids : List UserId} (hunique : w.UniqueNames) :
    onSuccess (forM ids (withdrawVmAccess senv vmId)) (fun _ w' => Spread vmId ids w w' ∧
      ∀ userId ∈ ids, WithdrawnAll vmId userId w w') w := by
  refine onSuccess_mono (onSuccess_forM_each
    (I := fun s => Spread vmId ids w s ∧ ∀ userId, s.findUserRecord userId = w.findUserRecord userId)
    (D := fun userId s => s.Revoked vmId userId ∧ directScope s.db vmId userId = none) ?_
    ⟨.refl hunique vmId ids, fun _ => rfl⟩) ?_
  · rintro userId hmem s ⟨hspread, hrecord⟩
    refine onSuccess_mono onSuccess_withdrawVmAccess fun _ s' ⟨hconfined, hdone⟩ => ?_
    refine ⟨⟨hspread.step hconfined hmem, fun other => ?_⟩, fun other ⟨hrevoked, hscope⟩ => ?_,
      hdone.revoked, hdone.scope⟩
    · by_cases hsame : other = userId
      · rw [hsame, hdone.record]
        exact hrecord userId
      · exact (hconfined.others hspread.unique other hsame).record.trans (hrecord other)
    · by_cases hsame : other = userId
      · rw [hsame]
        exact ⟨hdone.revoked, hdone.scope⟩
      · have hby := hconfined.others hspread.unique other hsame
        exact ⟨hby.revoked hrevoked, hby.scope.trans hscope⟩
  · rintro _ w' ⟨⟨hspread, hrecord⟩, -, hdone⟩
    exact ⟨hspread, fun userId hmem => ⟨hspread.connections, hrecord userId, hspread.beside,
      (hdone userId hmem).2, (hdone userId hmem).1⟩⟩

end loops

end ProxVM
