import ProxVM.Db.Seeds
import ProxVM.Firewall.Isolation
import ProxVM.Lib.Answered
import ProxVM.Lib.Batch
import ProxVM.Lib.Bursts
import ProxVM.Routes.VmAccess
import ProxVM.Util.Text

/-!
# Bulk actions

The policy actions of `POST /vms/bulk-action` of `routes/vms.ts`, with the batch functions of
`VmsRepository`, and the endpoint of a single VM for each: `PATCH /vms/:id/privacy`, `class` and
`start-on-boot`, and `POST /vms/:id/firewall` of `routes/firewall.ts`.

The batch asks `visibleTo` about every VM first; `PATCH …/class` and `…/start-on-boot` do not.
-/

namespace ProxVM

open Tables Fallible Firewall

/-! ## Settings and targets -/

/-- What `guacdHostFromSettings` makes of the URL of Guacamole: it is trimmed and not empty. -/
structure GuacdHost where
  host : String
  trimmed_host : trimmed (some host) = some host

/-- What `getProxmoxClient` and the settings of Guacamole come to. -/
structure FleetSettings (P : Type) where
  getProxmoxClient : Except AppError (ProxmoxApi P)
  guacdHost : Option GuacdHost

/-- The body of `POST /vms/:id/firewall`. -/
structure FirewallBody where
  isolated : Bool
  allowFrom : Option String
  allowDnsTo : Option String
  inboundPorts : List String
  allowInternet : Option Bool
  deriving DecidableEq, Repr

structure BulkIsolation where
  allowFrom : Option String
  allowDnsTo : Option String
  allowInternet : Option Bool
  deriving DecidableEq, Repr

inductive PolicyAction
  | privacy (enabled : Bool)
  | vmClass (target : Schedules.VmClass)
  | isolation (enabled : Bool) (body : BulkIsolation)
  | startOnBoot (enabled : Bool)
  deriving DecidableEq, Repr

inductive PolicyReply
  | privacy (granted : Bool)
  | vmClass (changed : Bool)
  | isolation (rules : Nat)
  | startOnBoot
  deriving DecidableEq, Repr

/-- `isolationOpts`: the Guacamole host may come in unless the body names another. -/
def BulkIsolation.options {P : Type} (settings : FleetSettings P) (body : BulkIsolation) :
    IsolationOptions :=
  { allowFrom := trimmed body.allowFrom <|> settings.guacdHost.map GuacdHost.host
    allowDnsTo := trimmed body.allowDnsTo
    allowInternet := some (body.allowInternet.getD true) }

def FirewallBody.options (body : FirewallBody) : IsolationOptions :=
  { allowFrom := trimmed body.allowFrom
    inboundPorts := body.inboundPorts
    allowDnsTo := trimmed body.allowDnsTo
    allowInternet := some (body.allowInternet.getD true) }

def BulkIsolation.single {P : Type} (settings : FleetSettings P) (enabled : Bool)
    (body : BulkIsolation) : FirewallBody :=
  { isolated := enabled
    allowFrom := if (trimmed body.allowFrom).isSome then body.allowFrom
      else settings.guacdHost.map GuacdHost.host
    allowDnsTo := body.allowDnsTo
    inboundPorts := []
    allowInternet := body.allowInternet }

/-! ## The repository -/

/-- `UPDATE vms SET privacy_flag`. -/
def Db.setPrivacyFlag (db : Db) (vmId : VmId) (enabled : Bool) : Db :=
  { db with
    vms := db.vms.updateWhere (fun v => decide (v.id = vmId))
      (fun v => { v with privacyFlag := enabled }) fun _ => rfl }

section repository

variable {P : Type} (ctx : RequestContext)

/-- `requirePermission` of a list, of which one is enough. -/
def requireAnyPermission (anyOf : List Permission) : Handler UserWithRoles := do
  let session ← query fun db => findUserById db ctx.now ctx.userId
  let user ← orFail session AppError.unauthorized
  ensure user.row.active AppError.unauthorized
  let granted ← query fun db => anyOf.any fun permission =>
    hasPermission user permission || (resolveEffectiveAccess db ctx.now user.row.id).has permission
  ensure granted AppError.forbidden
  pure user

def resolveVmAccess (vmId : VmId) : Handler Bool := do
  let user ← requireAuth ctx
  query fun db => visibleTo db ctx.now user.row.id user.roles vmId

def FleetWorld.classRow (w : FleetWorld P) (vmId : VmId) : Option Schedules.ClassRow :=
  (findVmById w.db vmId).map fun vm => ⟨vm.id, (w.policies vm.id).vmClass, vm.privacyFlag⟩

/-- The answers to the calls of `Schedules`. -/
def classAnswers : (c : Schedules.Call) → FleetWorld P → Except AppError c.Reply × FleetWorld P
  | .requirePermission anyOf, w =>
      exec (onTables (requireAnyPermission ctx anyOf) >>= fun _ => pure ()) w
  | .resolveVmAccess vmId, w => exec (onTables (resolveVmAccess ctx vmId)) w
  | .hasAccessOrOwns vmId, w => (.ok (hasAccessOrOwns w.db ctx.now vmId ctx.userId), w)
  | .findById vmId, w => (.ok (w.classRow vmId), w)
  | .countEnabled vmId, w =>
      (.ok (w.schedules.rows.countP fun s => decide (s.vmId = vmId) && s.enabled), w)
  | .updateVmClass vmId vmClass, w =>
      exec (setPolicy vmId fun policy => { policy with vmClass }) w
  | .listSchedules, w => (.ok w.schedules.rows, w)
  | .insertSchedule schedule, w =>
      match w.schedules.insert? schedule with
      | some schedules => (.ok (), { w with schedules })
      | none => (.error (AppError.database "duplicate key value violates unique constraint"), w)
  | .updateEnabled id enabled, w =>
      (.ok (), { w with
        schedules := w.schedules.updateWhere (fun s => decide (s.id = id))
          (fun s => { s with enabled }) (Schedules.World.id_of_enabled enabled) })

def onClasses {α : Type} (p : Schedules.Task α) : FleetProgram P α :=
  Interaction.answered (classAnswers ctx) p

/-- `assertMayChangePrivacy`, which answers whether there is a grant. -/
def assertMayChangePrivacy (vm : VmRow) (user : UserWithRoles) (enabled : Bool) : Handler Bool := do
  let granted ← query fun db => hasAccessOrOwns db ctx.now vm.id user.row.id
  ensure (granted || decide (Role.admin ∈ user.roles))
    (AppError.forbidden "Toggling privacy requires a direct grant for this VM")
  if enabled = false ∧ vm.createdByUserId ≠ some user.row.id ∧ Role.admin ∉ user.roles then do
    let effective ← query fun db => resolveEffectiveAccess db ctx.now user.row.id
    ensure (effective.has .vmEdit)
      (AppError.forbidden "Clearing the privacy flag requires vm.edit, ownership, or ADMIN")
  else
    pure ()
  pure granted

end repository

/-! ## One VM -/

section single

variable {P : Type} (settings : FleetSettings P) (ctx : RequestContext)

/-- `PATCH /vms/:id/privacy`, with its own copy of the rules. -/
def patchVmPrivacy (id : VmId) (enabled : Bool) : FleetProgram P Bool := do
  let actor ← onTables (requireAuth ctx)
  let vm ← onTables (requireVmById id)
  let granted ← query fun w => hasAccessOrOwns w.db ctx.now vm.id actor.row.id
  ensure (granted || decide (Role.admin ∈ actor.roles))
    (AppError.forbidden "Toggling privacy requires a direct grant for this VM")
  if enabled = false then
    if vm.createdByUserId ≠ some actor.row.id ∧ Role.admin ∉ actor.roles then do
      let effective ← query fun w => resolveEffectiveAccess w.db ctx.now actor.row.id
      ensure (effective.has .vmEdit)
        (AppError.forbidden "Clearing the privacy flag requires vm.edit, ownership, or ADMIN")
    else
      pure ()
  else
    pure ()
  write fun w => { w with db := w.db.setPrivacyFlag vm.id enabled }
  pure granted

/-- `PATCH /vms/:id/start-on-boot`. -/
def patchVmStartOnBoot (id : VmId) (enabled : Bool) : FleetProgram P Unit := do
  let user ← onTables (requirePermission ctx .vmEdit)
  let vm ← onTables (requireVmById id)
  let reaches ← query fun w => hasAccessOrOwns w.db ctx.now vm.id user.row.id
  ensure (!vm.privacyFlag || reaches)
    (AppError.forbidden "This VM is privacy-flagged and you have no grant for it")
  let proxmox ← outcome settings.getProxmoxClient
  applyStartOnBoot proxmox vm enabled

/-- The change that `POST /vms/:id/firewall` makes. -/
def changeVmFirewall (id : VmId) (body : FirewallBody) : FleetProgram P (VmRow × Nat) := do
  let user ← onTables (requirePermission ctx .vmEdit)
  let allowed ← query fun w => visibleTo w.db ctx.now user.row.id user.roles id
  ensure allowed (AppError.forbidden "No access to this VM")
  let vm ← onTables (requireVmById id)
  let proxmox ← outcome settings.getProxmoxClient
  let rules ← if body.isolated then applyIsolation proxmox vm.id vm.node vm.vmid body.options
    else removeIsolation proxmox vm.id vm.node vm.vmid
  pure (vm, rules)

/-- `POST /vms/:id/firewall`: it makes the change and reads the status back. -/
def postVmFirewall (id : VmId) (body : FirewallBody) : FleetProgram P (Nat × IsolationStatus) := do
  let (vm, rules) ← changeVmFirewall settings ctx id body
  let proxmox ← outcome settings.getProxmoxClient
  let status ← getIsolationStatus proxmox vm.node vm.vmid
  pure (rules, status)

/-- The endpoint of a single VM for the action, `POST /vms/:id/firewall` up to the status that it
reads back. -/
def singleAction (action : PolicyAction) (id : VmId) : FleetProgram P PolicyReply :=
  match action with
  | .privacy enabled => patchVmPrivacy ctx id enabled >>= fun granted => pure (.privacy granted)
  | .vmClass target =>
      onClasses ctx (Schedules.patchVmClass id target) >>= fun changed => pure (.vmClass changed)
  | .isolation enabled body =>
      changeVmFirewall settings ctx id (body.single settings enabled) >>= fun result =>
        pure (.isolation result.2)
  | .startOnBoot enabled => patchVmStartOnBoot settings ctx id enabled >>= fun _ => pure .startOnBoot

end single

/-! ## Batches -/

section batch

variable {P : Type} (settings : FleetSettings P) (ctx : RequestContext)

/-- One VM of `bulkSetPrivacy`. -/
def bulkPrivacyItem (user : UserWithRoles) (enabled : Bool) (vmId : VmId) :
    FleetProgram P PolicyReply := do
  let found ← query fun w => findVmById w.db vmId
  let vm ← orFail found (AppError.forbidden "Toggling privacy requires a direct grant for this VM")
  let granted ← onTables (assertMayChangePrivacy ctx vm user enabled)
  if enabled ≠ vm.privacyFlag then
    write fun w => { w with db := w.db.setPrivacyFlag vm.id enabled }
  else
    pure ()
  pure (.privacy granted)

/-- One VM of `bulkSetVmClass`. -/
def bulkClassItem (target : Schedules.VmClass) (vmId : VmId) : FleetProgram P PolicyReply := do
  let changed ← onClasses ctx (Schedules.setVmClass vmId target)
  pure (.vmClass changed)

/-- One VM of `bulkSetIsolation`. -/
def bulkIsolationItem (proxmox : ProxmoxApi P) (enabled : Bool) (opts : IsolationOptions)
    (vmId : VmId) : FleetProgram P PolicyReply := do
  let vm ← onTables (requireVmById vmId)
  let rules ← if enabled then applyIsolation proxmox vm.id vm.node vm.vmid opts
    else removeIsolation proxmox vm.id vm.node vm.vmid
  pure (.isolation rules)

/-- One VM of `bulkSetStartOnBoot`. -/
def bulkStartOnBootItem (proxmox : ProxmoxApi P) (enabled : Bool) (vmId : VmId) :
    FleetProgram P PolicyReply := do
  let vm ← onTables (requireVmById vmId)
  applyStartOnBoot proxmox vm enabled
  pure .startOnBoot

abbrev BulkResults := List (VmId × Except AppError PolicyReply)

def bulkGated (action : PolicyAction) (authorized : List VmId) : FleetProgram P BulkResults :=
  match action with
  | .privacy _ => pure []
  | .vmClass target => eachItem (bulkClassItem ctx target) authorized
  | .isolation enabled body =>
      match settings.getProxmoxClient with
      | .error e => pure (authorized.map fun vmId => (vmId, .error e))
      | .ok proxmox => eachItem (bulkIsolationItem proxmox enabled (body.options settings)) authorized
  | .startOnBoot enabled =>
      match settings.getProxmoxClient with
      | .error e => pure (authorized.map fun vmId => (vmId, .error e))
      | .ok proxmox => eachItem (bulkStartOnBootItem proxmox enabled) authorized

def inOrder (ids : List VmId) (results : BulkResults) : BulkResults :=
  ids.map fun id => (id, (resultOf results id).getD
    (.error { code := .internalError, message := "not processed" }))

/-- `POST /vms/bulk-action`, for the policy actions. -/
def postBulkAction (action : PolicyAction) (ids : List VmId) : FleetProgram P BulkResults := do
  ensure (decide (1 ≤ ids.length ∧ ids.length ≤ 50)) invalidBody
  match action with
  | .privacy enabled => do
      let user ← onTables (requireAuth ctx)
      eachItem (bulkPrivacyItem ctx user enabled) (unique ids)
  | action => do
      let _ ← onTables (requirePermission ctx .vmEdit)
      let user ← onTables (requireAuth ctx)
      let allowed ← query fun w vmId => visibleTo w.db ctx.now user.row.id user.roles vmId
      let results ← bulkGated settings ctx action ((unique ids).filter allowed)
      let denied := (unique ids).filter fun vmId => !allowed vmId
      pure (inOrder (unique ids) (results ++ denied.map fun vmId =>
        (vmId, .error (AppError.forbidden "No access to this VM"))))

end batch

/-! ## Item by item -/

def SeenInBatch {P : Type} (ctx : RequestContext) (action : PolicyAction) (w : FleetWorld P)
    (id : VmId) : Prop :=
  match action with
  | .privacy _ | .isolation _ _ => True
  | .vmClass _ | .startOnBoot _ => ∀ user, findUserById w.db ctx.now ctx.userId = some user →
      visibleTo w.db ctx.now user.row.id user.roles id = true

def PolicyAction.callsProxmox : PolicyAction → Bool
  | .privacy _ | .vmClass _ => false
  | .isolation _ _ | .startOnBoot _ => true

/-- **An item does what the single endpoint does at that point**, for a VM that the caller may see,
and nothing for any other.  One that fails leaves the tables, and everything if it does not call
Proxmox. -/
structure AppliesSingle {P : Type} (settings : FleetSettings P) (ctx : RequestContext)
    (action : PolicyAction) (id : VmId) (w : FleetWorld P) (r : Except AppError PolicyReply)
    (w' : FleetWorld P) : Prop where
  reply : ∀ reply, r = .ok reply ↔
    SeenInBatch ctx action w id ∧ (exec (singleAction settings ctx action id) w).1 = .ok reply
  seen : SeenInBatch ctx action w id → w' = (exec (singleAction settings ctx action id) w).2
  unseen : ¬ SeenInBatch ctx action w id → w' = w
  failed : r.isOk = false → SameTables w w' ∧ (action.callsProxmox = false → w' = w)

section entry

variable {P α : Type} {ctx : RequestContext} {db : Db} {w : FleetWorld P} {id : VmId}

theorem exec_onTables {m : Handler α} {r : Except AppError α} (hm : exec m w.db = (r, w.db)) :
    exec (onTables m) w = (r, w) := by
  change ((exec m w.db).1, { w with db := (exec m w.db).2 }) = (r, w)
  rw [hm]

theorem exec_eq_iff {σ : Type} {m : Program AppError σ α} {s s' : σ} {r : Except AppError α} :
    exec m s = (r, s') ↔ after m (fun r' s'' => r' = r ∧ s'' = s') s := Prod.ext_iff

def EntryChecked (ctx : RequestContext) (db : Db) (r : Except AppError UserWithRoles) (db' : Db) :
    Prop :=
  db' = db ∧ ∀ user, r = .ok user →
    findUserById db ctx.now ctx.userId = some user ∧ user.row.active = true

theorem entryChecked_error {e : AppError} : EntryChecked ctx db (.error e) db := ⟨rfl, nofun⟩

theorem entryChecked_ok {user : UserWithRoles}
    (hfind : findUserById db ctx.now ctx.userId = some user) (hactive : user.row.active = true) :
    EntryChecked ctx db (.ok user) db := by
  refine ⟨rfl, ?_⟩
  rintro _ ⟨⟩
  exact ⟨hfind, hactive⟩

theorem entryChecked_requireAuth : after (requireAuth ctx) (EntryChecked ctx db) db := by
  simp only [requireAuth, after_bind, after_query, after_orFail, after_ensure, after_pure]
  exact ⟨fun user hfind => ⟨fun hactive => entryChecked_ok hfind hactive,
    fun _ => entryChecked_error⟩, fun _ => entryChecked_error⟩

theorem entryChecked_requirePermission (permission : Permission) :
    after (requirePermission ctx permission) (EntryChecked ctx db) db := by
  simp only [requirePermission, after_bind, after_query, after_orFail, after_ensure, after_pure]
  exact ⟨fun user hfind => ⟨fun hactive => ⟨fun _ => entryChecked_ok hfind hactive,
    fun _ => entryChecked_error⟩, fun _ => entryChecked_error⟩, fun _ => entryChecked_error⟩

theorem exec_requireAuth {user : UserWithRoles}
    (hfind : findUserById db ctx.now ctx.userId = some user) (hactive : user.row.active = true) :
    exec (requireAuth ctx) db = (.ok user, db) := by
  rw [exec_eq_iff]
  simp only [requireAuth, after_bind, after_query, after_orFail, after_ensure, after_pure, hfind]
  simp [hactive]

theorem entry_cases {m : Handler UserWithRoles} (hm : after m (EntryChecked ctx db) db) :
    (∃ user, exec m db = (.ok user, db) ∧ exec (requireAuth ctx) db = (.ok user, db) ∧
      findUserById db ctx.now ctx.userId = some user) ∨ ∃ e, exec m db = (.error e, db) := by
  obtain ⟨hdb, huser⟩ := hm
  cases hresult : (exec m db).1 with
  | error e => exact .inr ⟨e, Prod.ext hresult hdb⟩
  | ok user =>
      obtain ⟨hfind, hactive⟩ := huser user hresult
      exact .inl ⟨user, Prod.ext hresult hdb, exec_requireAuth hfind hactive, hfind⟩

theorem exec_requireVmById (id : VmId) : exec (requireVmById id) db = (match findVmById db id with
      | some vm => .ok vm
      | none => .error (AppError.notFound "VM not found"), db) := by
  rw [exec_eq_iff, requireVmById, after_bind, after_query]
  cases findVmById db id with
  | none => exact ⟨rfl, rfl⟩
  | some vm => exact ⟨rfl, rfl⟩

theorem requireAnyPermission_single (permission : Permission) :
    requireAnyPermission ctx [permission] = requirePermission ctx permission := by
  simp only [requireAnyPermission, requirePermission, List.any_cons, List.any_nil, Bool.or_false]

end entry

section gated

variable {P α : Type} {settings : FleetSettings P} {ctx : RequestContext} {proxmox : ProxmoxApi P}
  {db : Db} {w : FleetWorld P} {user : UserWithRoles} {vm : VmRow} {id : VmId}

variable {σ β : Type} {c : Bool} {e : AppError} {body : BulkIsolation} {action : PolicyAction}

theorem exec_ensure_true {s : σ} (hc : c = true) :
    exec (ensure c e : Program AppError σ Unit) s = (.ok (), s) := by
  rw [hc]
  rfl

theorem exec_ensure_false {s : σ} (hc : c = false) :
    exec (ensure c e : Program AppError σ Unit) s = (.error e, s) := by
  rw [hc]
  rfl

theorem exec_outcome {r r' : Except AppError α} {s : σ} (hr : r = r') :
    exec (outcome r : Program AppError σ α) s = (r', s) := by
  rw [hr]
  rfl

theorem exec_query {f : σ → α} {s : σ} : exec (query f : Program AppError σ α) s = (.ok (f s), s) := rfl

theorem exec_requireVm_some (hvm : findVmById w.db id = some vm) :
    exec (onTables (requireVmById id)) w = (.ok vm, w) := by
  refine exec_onTables ?_
  rw [exec_requireVmById, hvm]

theorem exec_requireVm_none (hvm : findVmById w.db id = none) :
    exec (onTables (requireVmById id)) w = (.error (AppError.notFound "VM not found"), w) := by
  refine exec_onTables ?_
  rw [exec_requireVmById, hvm]

theorem reaches_of_visibleTo {now : Time} {userId : UserId} {roles : List Role}
    (hvm : findVmById db id = some vm) (hvisible : visibleTo db now userId roles id = true) :
    (!vm.privacyFlag || hasAccessOrOwns db now vm.id userId) = true := by
  obtain ⟨-, rfl, -⟩ := findVmById_eq_some.mp hvm
  simp only [visibleTo, hvm] at hvisible
  split at hvisible
  · rw [hvisible, Bool.or_true]
  · rename_i hprivate
    rw [Bool.eq_false_iff.mpr hprivate]
    rfl

theorem options_single (body : BulkIsolation) (enabled : Bool) :
    (body.single settings enabled).options = body.options settings := by
  simp only [FirewallBody.options, BulkIsolation.single, BulkIsolation.options]
  cases hfrom : trimmed body.allowFrom with
  | some host => simp [hfrom]
  | none =>
      cases settings.guacdHost with
      | none => rfl
      | some guacd => simp [guacd.trimmed_host]

structure Editor (ctx : RequestContext) (user : UserWithRoles) (db : Db) : Prop where
  entry : exec (requirePermission ctx .vmEdit) db = (.ok user, db)
  session : findUserById db ctx.now ctx.userId = some user

theorem Editor.id_eq (h : Editor ctx user db) : user.row.id = ctx.userId :=
  (findUserById_eq_some h.session).2.1

/-! Past the gate a single endpoint is the item of the batch. -/

theorem single_startOnBoot {enabled : Bool} (h : Editor ctx user w.db)
    (hvisible : visibleTo w.db ctx.now user.row.id user.roles id = true)
    (hclient : settings.getProxmoxClient = .ok proxmox) :
    exec (singleAction settings ctx (.startOnBoot enabled) id) w =
      exec (bulkStartOnBootItem proxmox enabled id) w := by
  simp only [singleAction, patchVmStartOnBoot, bulkStartOnBootItem, bind_assoc]
  rw [exec_bind_ok (exec_onTables h.entry)]
  cases hvm : findVmById w.db id with
  | none => rw [exec_bind_error (exec_requireVm_none hvm), exec_bind_error (exec_requireVm_none hvm)]
  | some vm =>
      rw [exec_bind_ok (exec_requireVm_some hvm), exec_bind_ok (exec_requireVm_some hvm),
        exec_bind_ok exec_query, exec_bind_ok (exec_ensure_true (reaches_of_visibleTo hvm hvisible)),
        exec_bind_ok (exec_outcome hclient)]

theorem single_isolation {enabled : Bool} (h : Editor ctx user w.db)
    (hvisible : visibleTo w.db ctx.now user.row.id user.roles id = true)
    (hclient : settings.getProxmoxClient = .ok proxmox) :
    exec (singleAction settings ctx (.isolation enabled body) id) w =
      exec (bulkIsolationItem proxmox enabled (body.options settings) id) w := by
  simp only [singleAction, changeVmFirewall, bulkIsolationItem, bind_assoc, options_single]
  rw [exec_bind_ok (exec_onTables h.entry), exec_bind_ok exec_query,
    exec_bind_ok (exec_ensure_true hvisible)]
  cases hvm : findVmById w.db id with
  | none => rw [exec_bind_error (exec_requireVm_none hvm), exec_bind_error (exec_requireVm_none hvm)]
  | some vm =>
      rw [exec_bind_ok (exec_requireVm_some hvm), exec_bind_ok (exec_requireVm_some hvm),
        exec_bind_ok (exec_outcome hclient)]
      cases enabled with
      | true => simp only [BulkIsolation.single, if_true, bind_assoc, pure_bind]
      | false => simp only [BulkIsolation.single, Bool.false_eq_true, if_false, bind_assoc, pure_bind]

theorem single_isolation_denied {enabled : Bool} (h : Editor ctx user w.db)
    (hvisible : visibleTo w.db ctx.now user.row.id user.roles id = false) :
    exec (singleAction settings ctx (.isolation enabled body) id) w =
      (.error (AppError.forbidden "No access to this VM"), w) := by
  simp only [singleAction, changeVmFirewall, bind_assoc]
  rw [exec_bind_ok (exec_onTables h.entry), exec_bind_ok exec_query,
    exec_bind_error (exec_ensure_false hvisible)]

theorem single_unconfigured (h : Editor ctx user w.db) (hcalls : action.callsProxmox = true)
    (hvisible : visibleTo w.db ctx.now user.row.id user.roles id = true)
    (hclient : settings.getProxmoxClient = .error e) :
    ∃ e', exec (singleAction settings ctx action id) w = (.error e', w) := by
  cases action with
  | privacy enabled => cases hcalls
  | vmClass target => cases hcalls
  | isolation enabled body =>
      simp only [singleAction, changeVmFirewall, bind_assoc]
      rw [exec_bind_ok (exec_onTables h.entry), exec_bind_ok exec_query,
        exec_bind_ok (exec_ensure_true hvisible)]
      cases hvm : findVmById w.db id with
      | none => exact ⟨_, exec_bind_error (exec_requireVm_none hvm)⟩
      | some vm =>
          rw [exec_bind_ok (exec_requireVm_some hvm)]
          exact ⟨e, exec_bind_error (exec_outcome hclient)⟩
  | startOnBoot enabled =>
      simp only [singleAction, patchVmStartOnBoot, bind_assoc]
      rw [exec_bind_ok (exec_onTables h.entry)]
      cases hvm : findVmById w.db id with
      | none => exact ⟨_, exec_bind_error (exec_requireVm_none hvm)⟩
      | some vm =>
          rw [exec_bind_ok (exec_requireVm_some hvm), exec_bind_ok exec_query,
            exec_bind_ok (exec_ensure_true (reaches_of_visibleTo hvm hvisible))]
          exact ⟨e, exec_bind_error (exec_outcome hclient)⟩

theorem exec_ask {c : Schedules.Call} : exec (onClasses ctx (Schedules.ask c)) w = classAnswers ctx c w :=
  Interaction.exec_answered_perform

theorem onClasses_bind {p : Schedules.Task α} {f : α → Schedules.Task β} :
    (onClasses ctx (p >>= f) : FleetProgram P β) = onClasses ctx p >>= fun a => onClasses ctx (f a) :=
  Interaction.answered_bind

theorem exec_classRow : exec (onClasses ctx (Schedules.requireById id)) w = (match w.classRow id with
      | some row => .ok row
      | none => .error (AppError.notFound "VM not found"), w) := by
  rw [Schedules.requireById, onClasses_bind, exec_bind_ok exec_ask]
  cases w.classRow id with
  | none => rfl
  | some row => rfl

theorem single_class {target : Schedules.VmClass} (h : Editor ctx user w.db)
    (hvisible : visibleTo w.db ctx.now user.row.id user.roles id = true) :
    exec (singleAction settings ctx (.vmClass target) id) w = exec (bulkClassItem ctx target id) w := by
  have hentry : exec (onClasses ctx (Schedules.ask (.requirePermission [.vmEdit]))) w =
      (.ok (), w) := by
    rw [exec_ask]
    change exec (onTables (requireAnyPermission ctx [.vmEdit]) >>= fun _ => pure ()) w = (.ok (), w)
    rw [requireAnyPermission_single, exec_bind_ok (exec_onTables h.entry)]
    rfl
  simp only [singleAction, bulkClassItem, Schedules.patchVmClass, onClasses_bind, bind_assoc]
  rw [exec_bind_ok hentry]
  cases hvm : findVmById w.db id with
  | none =>
      have hrow : exec (onClasses ctx (Schedules.requireById id)) w =
          (.error (AppError.notFound "VM not found"), w) := by
        rw [exec_classRow, FleetWorld.classRow, hvm]
        rfl
      rw [exec_bind_error hrow, Schedules.setVmClass, onClasses_bind, bind_assoc,
        exec_bind_error hrow]
  | some vm =>
      obtain ⟨-, rfl, -⟩ := findVmById_eq_some.mp hvm
      have hrow : exec (onClasses ctx (Schedules.requireById vm.id)) w =
          (.ok ⟨vm.id, (w.policies vm.id).vmClass, vm.privacyFlag⟩, w) := by
        rw [exec_classRow, FleetWorld.classRow, hvm]
        rfl
      rw [exec_bind_ok hrow]
      cases hprivate : vm.privacyFlag with
      | false => rfl
      | true =>
          have hreaches := reaches_of_visibleTo hvm hvisible
          rw [hprivate, h.id_eq] at hreaches
          have hgranted : exec (onClasses ctx (Schedules.ask (.hasAccessOrOwns vm.id))) w =
              (.ok true, w) := by
            rw [exec_ask]
            change (Except.ok (hasAccessOrOwns w.db ctx.now vm.id ctx.userId), w) = (.ok true, w)
            rw [show hasAccessOrOwns w.db ctx.now vm.id ctx.userId = true by simpa using hreaches]
          simp only [if_true, onClasses_bind, bind_assoc]
          rw [exec_bind_ok hgranted]
          rfl

/-! ## What an item leaves -/

def ClassChange (w : FleetWorld P) (r : Except AppError α) (w' : FleetWorld P) : Prop :=
  w'.db = w.db ∧ (r.isOk = false → w' = w)

theorem classChange_refl (r : Except AppError α) : ClassChange w r w := ⟨rfl, fun _ => rfl⟩

theorem setVmClass_change (target : Schedules.VmClass) :
    after (onClasses ctx (Schedules.setVmClass id target)) (ClassChange w) w := by
  have hwrite : after (onClasses ctx (do
      Schedules.ask (.updateVmClass id target)
      pure true)) (ClassChange w) w := by
    rw [onClasses_bind]
    exact after_bind_ok exec_ask ⟨rfl, nofun⟩
  rw [Schedules.setVmClass, onClasses_bind]
  cases hrow : w.classRow id with
  | none =>
      rw [after_iff, exec_bind_error (exec_classRow.trans (by rw [hrow]))]
      exact classChange_refl _
  | some row =>
      refine after_bind_ok (exec_classRow.trans (by rw [hrow])) ?_
      split
      · rw [onClasses_bind]
        refine after_bind_ok exec_ask ?_
        split
        · exact classChange_refl _
        · exact hwrite
      · split
        · exact classChange_refl _
        · exact hwrite

theorem bulkClassItem_change (target : Schedules.VmClass) :
    after (bulkClassItem ctx target id) (ClassChange w) w := by
  rw [bulkClassItem, after_bind]
  refine after_mono (setVmClass_change target) fun r w' hchange => ?_
  cases r with
  | error e => exact hchange
  | ok changed => exact ⟨hchange.1, nofun⟩

theorem after_requireVm_then {f : VmRow → FleetProgram P α} (hf : ∀ vm, after (f vm) (TableChange w) w) :
    after (onTables (requireVmById id) >>= f) (TableChange w) w := by
  cases hvm : findVmById w.db id with
  | none =>
      rw [after_iff, exec_bind_error (exec_requireVm_none hvm)]
      exact (SameTables.refl w).change _
  | some vm =>
      exact after_bind_ok (exec_requireVm_some hvm) (hf vm)

theorem after_change_then {m : FleetProgram P α} {f : α → β}
    (hm : after m (TableChange w) w) : after (m >>= fun a => pure (f a)) (TableChange w) w := by
  rw [after_bind]
  refine after_mono hm fun r w' hchange => ?_
  cases r with
  | error e => exact hchange
  | ok a => exact ⟨hchange.1, nofun⟩

theorem bulkIsolationItem_change (proxmox : ProxmoxApi P) (enabled : Bool) (opts : IsolationOptions) :
    after (bulkIsolationItem proxmox enabled opts id) (TableChange w) w := by
  refine after_requireVm_then fun vm => ?_
  cases enabled with
  | true => exact after_change_then (applyIsolation_change proxmox vm.id vm.node vm.vmid opts)
  | false => exact after_change_then (removeIsolation_change proxmox vm.id vm.node vm.vmid)

theorem bulkStartOnBootItem_change (proxmox : ProxmoxApi P) (enabled : Bool) :
    after (bulkStartOnBootItem proxmox enabled id) (TableChange w) w :=
  after_requireVm_then fun vm => after_change_then (applyStartOnBoot_change proxmox vm enabled)

/-! ## The items of the gated actions -/

theorem appliesSingle_of_exec {item : FleetProgram P PolicyReply} (hseen : SeenInBatch ctx action w id)
    (hexec : exec (singleAction settings ctx action id) w = exec item w)
    (hfailed : after item (fun r w' => r.isOk = false →
      SameTables w w' ∧ (action.callsProxmox = false → w' = w)) w) :
    after item (AppliesSingle settings ctx action id w) w := by
  rw [after_iff] at hfailed ⊢
  refine ⟨fun reply => ?_, fun _ => ?_, fun hunseen => absurd hseen hunseen, hfailed⟩
  · rw [hexec, and_iff_right hseen]
  · rw [hexec]

theorem seenInBatch_iff (h : Editor ctx user w.db) : SeenInBatch ctx action w id ↔ match action with
      | .privacy _ | .isolation _ _ => True
      | .vmClass _ | .startOnBoot _ => visibleTo w.db ctx.now user.row.id user.roles id = true := by
  have hall : (∀ other, findUserById w.db ctx.now ctx.userId = some other →
      visibleTo w.db ctx.now other.row.id other.roles id = true) ↔
        visibleTo w.db ctx.now user.row.id user.roles id = true := by
    constructor
    · exact fun hall => hall user h.session
    · rintro hvisible other hother
      obtain rfl := Option.some.inj (hother.symm.trans h.session)
      exact hvisible
  cases action with
  | privacy enabled => exact Iff.rfl
  | vmClass target => exact hall
  | isolation enabled body => exact Iff.rfl
  | startOnBoot enabled => exact hall

theorem appliesSingle_denied (h : Editor ctx user w.db) (hgated : ∀ enabled, action ≠ .privacy enabled)
    (hvisible : visibleTo w.db ctx.now user.row.id user.roles id = false) :
    AppliesSingle settings ctx action id w (.error (AppError.forbidden "No access to this VM")) w := by
  have hunseen : SeenInBatch ctx action w id →
      exec (singleAction settings ctx action id) w =
        (.error (AppError.forbidden "No access to this VM"), w) := by
    rw [seenInBatch_iff h]
    cases action with
    | privacy enabled => exact absurd rfl (hgated enabled)
    | isolation enabled body => exact fun _ => single_isolation_denied h hvisible
    | vmClass target | startOnBoot enabled => exact fun hseen => by rw [hvisible] at hseen; cases hseen
  refine ⟨fun reply => ⟨nofun, fun ⟨hseen, hok⟩ => ?_⟩, fun hseen => ?_, fun _ => rfl,
    fun _ => ⟨SameTables.refl w, fun _ => rfl⟩⟩
  · rw [hunseen hseen] at hok
    cases hok
  · rw [hunseen hseen]

theorem appliesSingle_unconfigured (h : Editor ctx user w.db) (hcalls : action.callsProxmox = true)
    (hvisible : visibleTo w.db ctx.now user.row.id user.roles id = true)
    (hclient : settings.getProxmoxClient = .error e) :
    AppliesSingle settings ctx action id w (.error e) w := by
  obtain ⟨e', hexec⟩ := single_unconfigured h hcalls hvisible hclient
  refine ⟨fun reply => ⟨nofun, fun ⟨_, hok⟩ => ?_⟩, fun _ => ?_, fun _ => rfl,
    fun _ => ⟨SameTables.refl w, fun _ => rfl⟩⟩
  · rw [hexec] at hok
    cases hok
  · rw [hexec]

/-- **The items of a gated action**, of VMs that the caller may see. -/
theorem bulkGated_applies {authorized : List VmId}
    (h : Editor ctx user w.db) (hgated : ∀ enabled, action ≠ .privacy enabled)
    (hvisible : ∀ id ∈ authorized, visibleTo w.db ctx.now user.row.id user.roles id = true) :
    after (bulkGated settings ctx action authorized) (fun r w' => ∃ results, r = .ok results ∧
      Itemwise (fun id w₁ r w₂ => AppliesSingle settings ctx action id w₁ r w₂ ∧ w₂.db = w.db)
        authorized w results w') w := by
  -- The tables that the gate reads are never written.
  have heach : ∀ item : VmId → FleetProgram P PolicyReply,
      (∀ id ∈ authorized, ∀ w₁ : FleetWorld P, w₁.db = w.db →
        after (item id) (fun r w₂ => AppliesSingle settings ctx action id w₁ r w₂ ∧ w₂.db = w.db) w₁) →
      after (eachItem item authorized) (fun r w' => ∃ results, r = .ok results ∧
        Itemwise (fun id w₁ r w₂ => AppliesSingle settings ctx action id w₁ r w₂ ∧ w₂.db = w.db)
          authorized w results w') w := by
    intro item hitem
    refine after_eachItem (I := fun w₁ => w₁.db = w.db) (fun id hid w₁ hw₁ => ?_) rfl
    exact after_mono (hitem id hid w₁ hw₁) fun _ _ happlies => ⟨happlies, happlies.2⟩
  have hnone : ∀ e, settings.getProxmoxClient = .error e → action.callsProxmox = true →
      Itemwise (fun id w₁ r w₂ => AppliesSingle settings ctx action id w₁ r w₂ ∧ w₂.db = w.db)
        authorized w (authorized.map fun vmId => (vmId, .error e)) w := fun e hclient hcalls =>
    itemwise_const authorized w (.error e) fun id hid =>
      ⟨appliesSingle_unconfigured h hcalls (hvisible id hid) hclient, rfl⟩
  cases action with
  | privacy enabled => exact absurd rfl (hgated enabled)
  | vmClass target =>
      refine heach (bulkClassItem ctx target) fun id hid w₁ hw₁ => ?_
      have h₁ : Editor ctx user w₁.db := hw₁ ▸ h
      have hvisible₁ := hw₁ ▸ hvisible id hid
      have hchange : after (bulkClassItem ctx target id) (ClassChange w₁) w₁ :=
        bulkClassItem_change target
      have happlies : after (bulkClassItem ctx target id)
          (AppliesSingle settings ctx (.vmClass target) id w₁) w₁ :=
        appliesSingle_of_exec ((seenInBatch_iff h₁).mpr hvisible₁) (single_class h₁ hvisible₁)
          (after_mono hchange fun r w₂ hchange hfailed => by
            rw [hchange.2 hfailed]
            exact ⟨SameTables.refl w₁, fun _ => rfl⟩)
      exact ⟨happlies, hchange.1.trans hw₁⟩
  | isolation enabled body =>
      unfold bulkGated
      cases hclient : settings.getProxmoxClient with
      | error e => exact ⟨_, rfl, hnone e hclient rfl⟩
      | ok proxmox =>
          refine heach _ fun id hid w₁ hw₁ => ?_
          have h₁ : Editor ctx user w₁.db := hw₁ ▸ h
          have hchange : after (bulkIsolationItem proxmox enabled (body.options settings) id)
              (TableChange w₁) w₁ :=
            bulkIsolationItem_change proxmox enabled (body.options settings)
          have happlies := appliesSingle_of_exec ((seenInBatch_iff h₁).mpr trivial)
            (single_isolation h₁ (hw₁ ▸ hvisible id hid) hclient)
            (after_mono hchange fun r w₂ hchange hfailed => ⟨hchange.2 hfailed, nofun⟩)
          exact ⟨happlies, hchange.1.trans hw₁⟩
  | startOnBoot enabled =>
      unfold bulkGated
      cases hclient : settings.getProxmoxClient with
      | error e => exact ⟨_, rfl, hnone e hclient rfl⟩
      | ok proxmox =>
          refine heach _ fun id hid w₁ hw₁ => ?_
          have h₁ : Editor ctx user w₁.db := hw₁ ▸ h
          have hvisible₁ := hw₁ ▸ hvisible id hid
          have hchange : after (bulkStartOnBootItem proxmox enabled id) (TableChange w₁) w₁ :=
            bulkStartOnBootItem_change proxmox enabled
          have happlies := appliesSingle_of_exec ((seenInBatch_iff h₁).mpr hvisible₁)
            (single_startOnBoot h₁ hvisible₁ hclient)
            (after_mono hchange fun r w₂ hchange hfailed => ⟨hchange.2 hfailed, nofun⟩)
          exact ⟨happlies, hchange.1.trans hw₁⟩

end gated

/-! ## Privacy -/

section privacy

variable {P : Type} {settings : FleetSettings P} {ctx : RequestContext} {w : FleetWorld P}
  {user : UserWithRoles} {vm : VmRow} {id : VmId} {enabled : Bool}

theorem assertMayChangePrivacy_reads {db : Db} :
    (exec (assertMayChangePrivacy ctx vm user enabled) db).2 = db := by
  have hread : after (assertMayChangePrivacy ctx vm user enabled) (fun _ db' => db' = db) db := by
    unfold assertMayChangePrivacy
    refine after_bind_keep rfl fun granted _ h₁ => ?_
    refine after_bind_keep (after_ensure.mpr ⟨fun _ => h₁, fun _ => h₁⟩) fun _ _ h₂ => ?_
    rw [after_ite]
    refine ⟨fun _ => after_bind_keep h₂ fun _ _ h₃ => ?_, fun _ => h₂⟩
    exact after_bind_keep (after_ensure.mpr ⟨fun _ => h₃, fun _ => h₃⟩) fun _ _ h₄ => h₄
  exact hread

/-- **The two copies of the rules agree.** -/
theorem exec_patchVmPrivacy (enabled : Bool)
    (hauth : exec (requireAuth ctx) w.db = (.ok user, w.db)) (hvm : findVmById w.db id = some vm) :
    exec (patchVmPrivacy ctx id enabled) w =
      match (exec (assertMayChangePrivacy ctx vm user enabled) w.db).1 with
      | .ok granted => (.ok granted, { w with db := w.db.setPrivacyFlag vm.id enabled })
      | .error e => (.error e, w) := by
  unfold patchVmPrivacy assertMayChangePrivacy
  rw [exec_bind_ok (exec_onTables hauth), exec_bind_ok (exec_requireVm_some hvm),
    exec_bind_ok exec_query, exec_bind_ok exec_query]
  cases hgrant : hasAccessOrOwns w.db ctx.now vm.id user.row.id || decide (Role.admin ∈ user.roles) with
  | false =>
      rw [exec_bind_error (exec_ensure_false rfl), exec_bind_error (exec_ensure_false rfl)]
  | true =>
      rw [exec_bind_ok (exec_ensure_true rfl), exec_bind_ok (exec_ensure_true rfl)]
      cases enabled with
      | true => rfl
      | false =>
          by_cases hother : vm.createdByUserId ≠ some user.row.id ∧ Role.admin ∉ user.roles
          · rw [if_pos rfl, if_pos hother, if_pos ⟨rfl, hother⟩, exec_bind_ok exec_query,
              exec_bind_ok exec_query]
            cases hedit : (resolveEffectiveAccess w.db ctx.now user.row.id).has .vmEdit with
            | false =>
                rw [exec_bind_error (exec_ensure_false rfl), exec_bind_error (exec_ensure_false rfl)]
            | true =>
                rw [exec_bind_ok (exec_ensure_true rfl), exec_bind_ok (exec_ensure_true rfl)]
                rfl
          · rw [if_pos rfl, if_neg hother, if_neg fun hboth => hother hboth.2]
            rfl

theorem setPrivacyFlag_same {db : Db} (hvm : vm ∈ db.vms) : db.setPrivacyFlag vm.id vm.privacyFlag = db := by
  have hrows : db.vms.updateWhere (fun v => decide (v.id = vm.id))
      (fun v => { v with privacyFlag := vm.privacyFlag }) (fun _ => rfl) = db.vms := by
    refine Table.updateWhere_fixed fun v hv hmatch => ?_
    obtain rfl := Table.eq_of_key_eq hv hvm (of_decide_eq_true hmatch)
    rfl
  rw [Db.setPrivacyFlag, hrows]

theorem exec_bulkPrivacyItem (ctx : RequestContext) (user : UserWithRoles) (enabled : Bool)
    (hvm : findVmById w.db id = some vm) : exec (bulkPrivacyItem ctx user enabled id) w =
      match (exec (assertMayChangePrivacy ctx vm user enabled) w.db).1 with
      | .ok granted => (.ok (.privacy granted), { w with db := w.db.setPrivacyFlag vm.id enabled })
      | .error e => (.error e, w) := by
  have hfound : exec (query fun w : FleetWorld P => findVmById w.db id) w =
      ((.ok (some vm) : Except AppError (Option VmRow)), w) := by
    rw [exec_query, hvm]
  unfold bulkPrivacyItem
  rw [exec_bind_ok hfound]
  cases hverdict : (exec (assertMayChangePrivacy ctx vm user enabled) w.db).1 with
  | error e =>
      have hrules : exec (onTables (assertMayChangePrivacy ctx vm user enabled)) w = (.error e, w) :=
        exec_onTables (Prod.ext hverdict assertMayChangePrivacy_reads)
      change exec (onTables (assertMayChangePrivacy ctx vm user enabled) >>= _) w = _
      exact exec_bind_error hrules
  | ok granted =>
      have hrules : exec (onTables (assertMayChangePrivacy ctx vm user enabled)) w =
          (.ok granted, w) :=
        exec_onTables (Prod.ext hverdict assertMayChangePrivacy_reads)
      change exec (onTables (assertMayChangePrivacy ctx vm user enabled) >>= _) w = _
      rw [exec_bind_ok hrules]
      split
      · rfl
      · rename_i hsame
        obtain ⟨hmem, -, -⟩ := findVmById_eq_some.mp hvm
        rw [not_not.mp hsame, setPrivacyFlag_same hmem]
        rfl

theorem exec_requireAuth_setPrivacyFlag {db : Db} {vmId : VmId}
    (hauth : exec (requireAuth ctx) db = (.ok user, db)) :
    exec (requireAuth ctx) (db.setPrivacyFlag vmId enabled) = (.ok user, db.setPrivacyFlag vmId enabled) := by
  obtain ⟨-, hsession⟩ : EntryChecked ctx db (exec (requireAuth ctx) db).1
      (exec (requireAuth ctx) db).2 := entryChecked_requireAuth
  rw [hauth] at hsession
  obtain ⟨hfind, hactive⟩ := hsession user rfl
  exact exec_requireAuth hfind hactive

/-- **The items of the privacy action.** -/
theorem bulkPrivacyItem_applies (hauth : exec (requireAuth ctx) w.db = (.ok user, w.db)) :
    after (bulkPrivacyItem ctx user enabled id) (fun r w' =>
      AppliesSingle settings ctx (.privacy enabled) id w r w' ∧
        exec (requireAuth ctx) w'.db = (.ok user, w'.db)) w := by
  -- Both end the same way, up to the error.
  have hagree : ∀ (e e' : AppError) (hitem : exec (bulkPrivacyItem ctx user enabled id) w = (.error e, w))
      (hsingle : exec (patchVmPrivacy ctx id enabled) w = (.error e', w)),
      after (bulkPrivacyItem ctx user enabled id) (fun r w' =>
        AppliesSingle settings ctx (.privacy enabled) id w r w' ∧
          exec (requireAuth ctx) w'.db = (.ok user, w'.db)) w := by
    intro e e' hitem hsingle
    have hexec : exec (singleAction settings ctx (.privacy enabled) id) w = (.error e', w) :=
      exec_bind_error hsingle
    rw [after_iff, hitem]
    refine ⟨⟨fun reply => ⟨nofun, fun ⟨_, hok⟩ => ?_⟩, fun _ => by rw [hexec], fun _ => rfl,
      fun _ => ⟨SameTables.refl w, fun _ => rfl⟩⟩, hauth⟩
    rw [hexec] at hok
    cases hok
  cases hvm : findVmById w.db id with
  | none =>
      have hfound : exec (query fun w : FleetWorld P => findVmById w.db id) w =
          ((.ok none : Except AppError (Option VmRow)), w) := by
        rw [exec_query, hvm]
      refine hagree (AppError.forbidden "Toggling privacy requires a direct grant for this VM")
        (AppError.notFound "VM not found") ?_ ?_
      · rw [bulkPrivacyItem, exec_bind_ok hfound]
        rfl
      · rw [patchVmPrivacy, exec_bind_ok (exec_onTables hauth),
          exec_bind_error (exec_requireVm_none hvm)]
  | some vm =>
      have hitem := exec_bulkPrivacyItem ctx user enabled hvm
      have hsingle := exec_patchVmPrivacy enabled hauth hvm
      cases hverdict : (exec (assertMayChangePrivacy ctx vm user enabled) w.db).1 with
      | error e =>
          rw [hverdict] at hitem hsingle
          exact hagree e e hitem hsingle
      | ok granted =>
          rw [hverdict] at hitem hsingle
          have hexec : exec (singleAction settings ctx (.privacy enabled) id) w =
              (.ok (.privacy granted), { w with db := w.db.setPrivacyFlag vm.id enabled }) :=
            exec_bind_ok hsingle
          rw [after_iff, hitem]
          refine ⟨⟨fun reply => ?_, fun _ => by rw [hexec], fun hunseen => absurd trivial hunseen,
            nofun⟩, exec_requireAuth_setPrivacyFlag hauth⟩
          rw [hexec]
          exact ⟨fun hok => ⟨trivial, hok⟩, fun hok => hok.2⟩

end privacy

/-! ## The batch -/

theorem nodup_unique {α : Type} [DecidableEq α] (xs : List α) : (unique xs).Nodup := Bursts.nodup_eraseDups xs

section batch

variable {P : Type} (settings : FleetSettings P) (ctx : RequestContext)

theorem single_refused {action : PolicyAction} {w : FleetWorld P} {id : VmId} {e : AppError}
    (hentry : match action with
      | .privacy _ => exec (requireAuth ctx) w.db = (.error e, w.db)
      | _ => exec (requirePermission ctx .vmEdit) w.db = (.error e, w.db)) :
    exec (singleAction settings ctx action id) w = (.error e, w) := by
  cases action with
  | privacy enabled => exact exec_bind_error (exec_bind_error (exec_onTables hentry))
  | isolation enabled body => exact exec_bind_error (exec_bind_error (exec_onTables hentry))
  | startOnBoot enabled => exact exec_bind_error (exec_bind_error (exec_onTables hentry))
  | vmClass target =>
      refine exec_bind_error ?_
      rw [Schedules.patchVmClass, onClasses_bind]
      refine exec_bind_error ?_
      rw [exec_ask]
      change exec (onTables (requireAnyPermission ctx [.vmEdit]) >>= fun _ => pure ()) w = (.error e, w)
      rw [requireAnyPermission_single]
      exact exec_bind_error (exec_onTables hentry)

theorem gated_applies_single {action : PolicyAction} (hgated : ∀ enabled, action ≠ .privacy enabled)
    (ids : List VmId) (w : FleetWorld P) : after (do
      let _ ← onTables (requirePermission ctx .vmEdit)
      let user ← onTables (requireAuth ctx)
      let allowed ← query fun w vmId => visibleTo w.db ctx.now user.row.id user.roles vmId
      let results ← bulkGated settings ctx action ((unique ids).filter allowed)
      pure (inOrder (unique ids) (results ++ ((unique ids).filter fun vmId => !allowed vmId).map
        fun vmId => (vmId, .error (AppError.forbidden "No access to this VM")))) :
          FleetProgram P BulkResults) (fun r w' => match r with
        | .ok results => Itemwise (AppliesSingle settings ctx action) (unique ids) w results w'
        | .error e => w' = w ∧ ∀ id, exec (singleAction settings ctx action id) w = (.error e, w)) w := by
  rcases entry_cases (@entryChecked_requirePermission ctx w.db .vmEdit) with
    ⟨user, hentry, hauth, hfind⟩ | ⟨e, hentry⟩
  · have heditor : Editor ctx user w.db := ⟨hentry, hfind⟩
    refine after_bind_ok (exec_onTables hentry) (after_bind_ok (exec_onTables hauth)
      (after_bind_ok exec_query ?_))
    rw [after_bind]
    refine after_mono (bulkGated_applies heditor hgated fun id hid =>
      (List.mem_filter.mp hid).2) ?_
    rintro r w' ⟨results, rfl, hitems⟩
    -- The keys of the results are the ids, those of the denied ones last.
    let visible := fun vmId => visibleTo w.db ctx.now user.row.id user.roles vmId
    let denied : Except AppError PolicyReply := .error (AppError.forbidden "No access to this VM")
    have hdenied : (((unique ids).filter fun vmId => !visible vmId).map fun vmId =>
        (vmId, denied)).map Prod.fst = (unique ids).filter fun vmId => !visible vmId := by
      rw [List.map_map]
      exact List.map_id _
    have hkeys : ((results ++ ((unique ids).filter fun vmId => !visible vmId).map fun vmId =>
        (vmId, denied)).map Prod.fst).Nodup := by
      rw [List.map_append, hitems.keys, hdenied]
      exact (List.filter_append_perm visible (unique ids)).nodup_iff.mpr (nodup_unique ids)
    refine hitems.merge (I := fun w₁ => w₁.db = w.db) rfl denied
      (fun id _ w₁ r w₂ _ happlies => happlies)
      (fun id _ hturned w₁ hw₁ => ?_) (fun id result hmem => ?_) fun id hid hturned => ?_
    · exact appliesSingle_denied (hw₁ ▸ heditor) hgated (hw₁ ▸ hturned)
    · have hresult := resultOf_eq_some hkeys (List.mem_append_left _ hmem)
      exact congrArg (Option.getD · _) hresult
    · have hmem : id ∈ (unique ids).filter fun vmId => !visible vmId :=
        List.mem_filter.mpr ⟨hid, congrArg (!·) hturned⟩
      have hresult := resultOf_eq_some hkeys
        (List.mem_append_right _ (List.mem_map.mpr ⟨id, hmem, rfl⟩))
      exact congrArg (Option.getD · _) hresult
  · rw [after_iff, exec_bind_error (exec_onTables hentry)]
    refine ⟨rfl, fun id => single_refused settings ctx ?_⟩
    cases action with
    | privacy enabled => exact absurd rfl (hgated enabled)
    | vmClass target => exact hentry
    | isolation enabled body => exact hentry
    | startOnBoot enabled => exact hentry

/-- **A batch applies the single endpoint to each VM in turn**, once, to those that the caller may
see; or it is refused, as the endpoint is for every VM or because of the number of ids. -/
theorem bulk_applies_single (action : PolicyAction) (ids : List VmId) (w : FleetWorld P) :
    (unique ids).Nodup ∧ (∀ id, id ∈ unique ids ↔ id ∈ ids) ∧
      after (postBulkAction settings ctx action ids) (fun r w' => match r with
        | .ok results => Itemwise (AppliesSingle settings ctx action) (unique ids) w results w'
        | .error e => w' = w ∧ (¬ (1 ≤ ids.length ∧ ids.length ≤ 50) ∨
            ∀ id, exec (singleAction settings ctx action id) w = (.error e, w))) w := by
  refine ⟨nodup_unique ids, fun _ => mem_unique, ?_⟩
  have hgated : ∀ action : PolicyAction, (∀ enabled, action ≠ .privacy enabled) → after (do
      let _ ← onTables (requirePermission ctx .vmEdit)
      let user ← onTables (requireAuth ctx)
      let allowed ← query fun w vmId => visibleTo w.db ctx.now user.row.id user.roles vmId
      let results ← bulkGated settings ctx action ((unique ids).filter allowed)
      pure (inOrder (unique ids) (results ++ ((unique ids).filter fun vmId => !allowed vmId).map
        fun vmId => (vmId, .error (AppError.forbidden "No access to this VM")))) :
          FleetProgram P BulkResults) (fun r w' => match r with
        | .ok results => Itemwise (AppliesSingle settings ctx action) (unique ids) w results w'
        | .error e => w' = w ∧ (¬ (1 ≤ ids.length ∧ ids.length ≤ 50) ∨
            ∀ id, exec (singleAction settings ctx action id) w = (.error e, w))) w := by
    intro action hgated
    refine after_mono (gated_applies_single settings ctx hgated ids w) fun r w' h => ?_
    cases r with
    | ok results => exact h
    | error e => exact ⟨h.1, .inr h.2⟩
  unfold postBulkAction
  rw [after_bind, after_ensure]
  refine ⟨fun _ => ?_, fun hsize => ⟨rfl, .inl (of_decide_eq_false hsize)⟩⟩
  cases action with
  | privacy enabled =>
      rcases entry_cases (@entryChecked_requireAuth ctx w.db) with
        ⟨user, hauth, -, -⟩ | ⟨e, hauth⟩
      · refine after_bind_ok (exec_onTables hauth) ?_
        have hitem : ∀ id ∈ unique ids, ∀ w₁ : FleetWorld P,
            exec (requireAuth ctx) w₁.db = (.ok user, w₁.db) →
            after (bulkPrivacyItem ctx user enabled id) (fun r w₂ =>
              AppliesSingle settings ctx (.privacy enabled) id w₁ r w₂ ∧
                exec (requireAuth ctx) w₂.db = (.ok user, w₂.db)) w₁ :=
          fun id _ w₁ hauth₁ => bulkPrivacyItem_applies hauth₁
        refine after_mono (after_eachItem (I := fun w₁ : FleetWorld P =>
          exec (requireAuth ctx) w₁.db = (.ok user, w₁.db)) hitem hauth) ?_
        rintro r w' ⟨results, rfl, hitems⟩
        exact hitems
      · rw [after_iff, exec_bind_error (exec_onTables hauth)]
        exact ⟨rfl, .inr fun id => single_refused settings ctx hauth⟩
  | vmClass target => exact hgated (.vmClass target) nofun
  | isolation enabled body => exact hgated (.isolation enabled body) nofun
  | startOnBoot enabled => exact hgated (.startOnBoot enabled) nofun

end batch

/-! ## An installation -/

abbrev SampleGuest := Bool × List String

/-- Rules are made and deleted, unless `refuses`; the options cannot be read. -/
def sampleProxmox (refuses : Bool) : ProxmoxApi SampleGuest where
  clusterFirewallEnable := pure true
  guestFirewallOptions _ _ := fail (AppError.external "Proxmox" "timeout")
  setGuestFirewallOptions _ _ opts := write fun guest => (opts.enable.getD guest.1, guest.2)
  guestFirewallRules _ _ := pure []
  createGuestFirewallRule _ _ rule _ :=
    if refuses then fail (AppError.external "Proxmox" "invalid source")
    else write fun guest => (guest.1, rule.comment.getD "" :: guest.2)
  deleteGuestFirewallRule _ _ _ := pure ()
  updateOnboot _ _ _ := pure ()

def sampleSettings (refuses : Bool) : FleetSettings SampleGuest :=
  ⟨.ok (sampleProxmox refuses), none⟩

/-- `lead` may edit VMs, and has access to none. -/
def sampleFleet : FleetWorld SampleGuest where
  db := { Db.sample with userPermissions := ⟨[⟨13, .vmEdit, none⟩], by decide⟩ }
  policies := fun _ => ⟨.server, false, false⟩
  schedules := .empty
  proxmox := (false, [])

/-- `root` isolates the VM. -/
def isolateSample (refuses : Bool) : Except AppError BulkResults × FleetWorld SampleGuest :=
  exec (postBulkAction (sampleSettings refuses) ⟨10, 5, 99⟩ (.isolation true ⟨none, none, none⟩) [30])
    sampleFleet

/-- `lead` may change the class of the VM alone, and not in a batch.  A batch isolates a VM whose
status cannot be read back, where the endpoint answers with an error; and an item that fails on the
way has switched the firewall on. -/
theorem unseen_class :
    (¬ ∀ (settings : FleetSettings SampleGuest) (ctx : RequestContext) (action : PolicyAction)
      (ids : List VmId) (w : FleetWorld SampleGuest),
      after (postBulkAction settings ctx action ids) (fun r w' => ∀ results, r = .ok results →
        Itemwise (fun id w₁ result w₂ =>
          (result.isOk = true ↔ (exec (singleAction settings ctx action id) w₁).1.isOk = true) ∧
            (result.isOk = true → w₂ = (exec (singleAction settings ctx action id) w₁).2))
          (unique ids) w results w') w) ∧
      ((isolateSample false).1.toOption.getD []).map (fun item => item.2.isOk) = [true] ∧
      (exec (postVmFirewall (sampleSettings false) ⟨10, 5, 99⟩ 30 ⟨true, none, none, [], none⟩)
        sampleFleet).1.isOk = false ∧
      ((isolateSample true).1.toOption.getD []).map (fun item => item.2.isOk) = [false] ∧
      (isolateSample true).2.proxmox = (true, []) := by
  refine ⟨fun hall => ?_, by decide +kernel, by decide +kernel, by decide +kernel, by decide +kernel⟩
  have hbatch : ∃ results, (exec (postBulkAction (sampleSettings false) ⟨13, 5, 99⟩ (.vmClass .user)
      [30]) sampleFleet).1 = .ok results ∧ results.map (fun item => item.2.isOk) = [false] :=
    ⟨[(30, .error (AppError.forbidden "No access to this VM"))], by decide +kernel, rfl⟩
  have hsingle : (exec (singleAction (sampleSettings false) ⟨13, 5, 99⟩ (.vmClass .user) 30)
      sampleFleet).1.isOk = true := by decide +kernel
  obtain ⟨results, hresults, hdenied⟩ := hbatch
  obtain ⟨result, rest, w₁, rfl, ⟨hiff, -⟩, -⟩ :=
    hall (sampleSettings false) ⟨13, 5, 99⟩ (.vmClass .user) [30] sampleFleet results hresults
  rw [List.map_cons, List.cons.injEq] at hdenied
  have hok := hiff.mpr hsingle
  rw [hdenied.1] at hok
  cases hok

end ProxVM
