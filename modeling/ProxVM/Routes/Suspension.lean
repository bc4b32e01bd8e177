import ProxVM.Guacamole.Logins
import ProxVM.Iam.Protocols
import ProxVM.Routes.UserAccounts
import ProxVM.Routes.VmAccess

/-!
# Suspended accounts

A user is deactivated by `PUT /users/:id`, which disables the Guacamole account if there is a
record of one.  The account is made later if there is none: `ensureGuacUser` never looks at the
`active` flag.
-/

namespace ProxVM

open Tables Fallible Guac

/-! ## The requests -/

section handlers

variable (deps : GuacamoleServiceDeps) (ctx : RequestContext) (env : GuacContext)

/-- `POST /users`, with Guacamole, whose failure is passed over. -/
def postUsersSynced (body : CreateUserBody) : GuacProgram Unit := do
  onApp (postUsers ctx body)
  swallow do
    outcome env.guacDb
    let _ ← deps.ensureGuacUser env.draw ctx.newId body.username

/-- `syncGrantProtocols`, with the look-up of the user that precedes it; the pipeline does the same
for the users a VM is assigned to. -/
def syncGrantProtocols (vmId : VmId) (targetUserId : UserId) : GuacProgram Unit := do
  let found ← query fun w => findUserById w.db ctx.now targetUserId
  let target ← orFail found (AppError.notFound "User not found")
  outcome env.guacDb
  let _ ← deps.ensureGuacUser env.draw target.row.id target.row.username
  deps.grantVmAccess vmId target.row.id

def prepareLaunch (vmId : VmId) : GuacProgram Unit := do
  let user ← onApp (requireAuth ctx)
  outcome env.guacDb
  let _ ← deps.ensureGuacUser env.draw user.row.id user.row.username
  deps.grantVmAccess vmId user.row.id

/-- `reconcileUserVmGuacAccess`, on the Guacamole database. -/
def reconcileGuacAccess (vmId : VmId) (userId : UserId) : GuacProgram Unit := do
  let effective ← query fun w => resolveEffectiveAccess w.db ctx.now userId
  outcome env.guacDb
  deps.revokeVmAccess vmId userId
  if (effective.vmAccess vmId).isNone then
    pure ()
  else do
    let records ← query fun w => w.listConnectionRecords vmId
    let userRecord ← query fun w => w.findUserRecord userId
    match userRecord with
    | none => pure ()
    | some record =>
      forM (records.filter fun c => permits (allowedProtocols effective vmId) c.protocol) fun c =>
        sql (deps.guacDb.grantConnectionRead c.guacConnectionName record.guacUsername)

end handlers

/-- A user is created, approved, changed, granted a VM, reconciled, opens a session, or gets or
loses a direct login. -/
inductive LoginRequest
  | postUsers (body : CreateUserBody)
  | approveRegistration (id : Nat) (role : Role)
  | putUser (id : UserId) (body : UpdateUserBody)
  | grant (vmId : VmId) (userId : UserId)
  | reconcile (vmId : VmId) (userId : UserId)
  | launch (vmId : VmId)
  | postDirectLogin (id : UserId) (password : Except AppError String)
  | deleteDirectLogin (id : UserId)

structure LoginStep where
  ctx : RequestContext
  env : GuacContext
  request : LoginRequest

namespace LoginStep

def program (deps : GuacamoleServiceDeps) (step : LoginStep) : GuacProgram Unit :=
  match step.request with
  | .postUsers body => postUsersSynced deps step.ctx step.env body
  | .approveRegistration id role => onApp (postRegistrationApprove step.ctx id role)
  | .putUser id body => putUserSynced deps step.ctx step.env id body
  | .grant vmId userId => syncGrantProtocols deps step.ctx step.env vmId userId
  | .reconcile vmId userId => reconcileGuacAccess deps step.ctx step.env vmId userId
  | .launch vmId => prepareLaunch deps step.ctx step.env vmId
  | .postDirectLogin id password => ProxVM.postDirectLogin deps step.ctx step.env id password
  | .deleteDirectLogin id => ProxVM.deleteDirectLogin deps step.ctx step.env id

def run (deps : GuacamoleServiceDeps) (step : LoginStep) (w : GuacWorld) : GuacWorld :=
  (exec (step.program deps) w).2

end LoginStep

def GuacWorld.MayEnsure (w : GuacWorld) (userId : UserId) : Prop :=
  ∀ u ∈ w.db.users, u.id = userId → u.active = true ∨ (w.findUserRecord userId).isSome

def LoginStep.Allowed (w : GuacWorld) (step : LoginStep) : Prop :=
  match step.request with
  | .grant _ userId => w.MayEnsure userId
  | .postDirectLogin id _ => w.MayEnsure id
  | _ => True

structure Suspended (w : GuacWorld) : Prop where
  entities : w.guac.UniqueNames
  unique : ∀ r ∈ w.guacUsers, ∀ r' ∈ w.guacUsers, r.guacUsername = r'.guacUsername →
    r.userId = r'.userId
  named : ∀ r ∈ w.guacUsers, ∃ u ∈ w.db.users, u.id = r.userId ∧
    r.guacUsername = guacUsernameOf u.username
  known : ∀ r ∈ w.guacUsers, w.guac.Known r.guacUsername
  locked : ∀ u ∈ w.db.users, u.active = false → ∀ r ∈ w.guacUsers, r.userId = u.id →
    w.guac.mayLogIn r.guacUsername = false

section invariant

variable {deps : GuacamoleServiceDeps} {ctx : RequestContext} {env : GuacContext} {user : UserRow}
  {w w' : GuacWorld}

theorem Suspended.start (hentities : w.guac.UniqueNames) (hrecords : w.guacUsers.rows = []) :
    Suspended w := by
  have hnone : ∀ r, r ∉ w.guacUsers := by
    intro r hr
    rw [Table.mem_def, hrecords] at hr
    exact List.not_mem_nil hr
  exact ⟨hentities, fun r hr => absurd hr (hnone r), fun r hr => absurd hr (hnone r),
    fun r hr => absurd hr (hnone r), fun _ _ _ r hr => absurd hr (hnone r)⟩

variable {db : Db} {u : UserRow}

theorem Suspended.of_users (h : Suspended w)
    (hkept : ∀ u ∈ w.db.users, ∃ u' ∈ db.users, u'.id = u.id ∧ u'.username = u.username)
    (hsame : ∀ u' ∈ db.users, (∃ u ∈ w.db.users, u.id = u'.id ∧ u.active = u'.active) ∨
      ∀ u ∈ w.db.users, u.id ≠ u'.id) : Suspended { w with db } := by
  refine ⟨h.entities, h.unique, fun r hr => ?_, h.known, fun u' hu' hinactive r hr hid => ?_⟩
  · obtain ⟨u, hu, huid, hname⟩ := h.named r hr
    obtain ⟨u', hu', hid, husername⟩ := hkept u hu
    exact ⟨u', hu', hid.trans huid, by rw [hname, husername]⟩
  · rcases hsame u' hu' with ⟨u, hu, huid, hactive⟩ | hnew
    · exact h.locked u hu (hactive.trans hinactive) r hr (hid.trans huid.symm)
    · obtain ⟨u, hu, huid, -⟩ := h.named r hr
      exact absurd (huid.trans hid) (hnew u hu)

theorem Suspended.of_sameUsers (h : Suspended w) (husers : db.users = w.db.users) : Suspended { w with db } :=
  h.of_users (fun u hu => ⟨u, husers ▸ hu, rfl, rfl⟩) fun u' hu' => .inl ⟨u', husers ▸ hu', rfl, rfl⟩

theorem Suspended.updateUser (h : Suspended w) (p : UserRow → Bool) (f : UserRow → UserRow)
    (hid : ∀ u, (f u).id = u.id) (hname : ∀ u, (f u).username = u.username)
    (hactive : ∀ u, (f u).active = u.active) :
    Suspended { w with db := { w.db with users := w.db.users.updateWhere p f hid } } := by
  have hsame : ∀ u, (if p u then f u else u).id = u.id ∧
      (if p u then f u else u).username = u.username ∧
      (if p u then f u else u).active = u.active := by
    intro u
    split
    · exact ⟨hid u, hname u, hactive u⟩
    · exact ⟨rfl, rfl, rfl⟩
  refine h.of_users (fun u hu => ?_) fun u' hu' => .inl ?_
  · obtain ⟨huid, huname, -⟩ := hsame u
    refine ⟨_, ?_, huid, huname⟩
    simp only [Table.mem_updateWhere]
    exact ⟨u, hu, rfl⟩
  · simp only [Table.mem_updateWhere] at hu'
    obtain ⟨u, hu, rfl⟩ := hu'
    exact ⟨u, hu, (hsame u).1.symm, (hsame u).2.2.symm⟩

theorem Suspended.insertUser (h : Suspended w) {row : UserRow} {db db' : Db}
    (hins : w.db.insertUser row = some db) (husers : db'.users = db.users) :
    Suspended { w with db := db' } := by
  obtain ⟨users, rfl, hfresh, hmem⟩ := Db.insertUser_eq_some hins
  refine h.of_users (fun u hu => ⟨u, ?_, rfl, rfl⟩) fun u' hu' => ?_
  · rw [husers]
    exact (hmem u).mpr (.inl hu)
  · rw [husers] at hu'
    rcases (hmem u').mp hu' with hu' | rfl
    · exact .inl ⟨u', hu', rfl, rfl⟩
    · exact .inr hfresh

theorem Suspended.of_noneMade (h : Suspended w) (hnone : NoneMade w w') : Suspended w' := by
  refine ⟨hnone.quiet.unique h.entities, fun r hr r' hr' hname => ?_, fun r hr => ?_, fun r hr => ?_,
    fun u hu hinactive r hr hid => ?_⟩
  · obtain ⟨r₀, hr₀, hid₀, hname₀⟩ := hnone.records r hr
    obtain ⟨r₀', hr₀', hid₀', hname₀'⟩ := hnone.records r' hr'
    rw [← hid₀, ← hid₀']
    exact h.unique r₀ hr₀ r₀' hr₀' (hname₀.trans (hname.trans hname₀'.symm))
  · obtain ⟨r₀, hr₀, hid₀, hname₀⟩ := hnone.records r hr
    obtain ⟨u, hu, huid, huname⟩ := h.named r₀ hr₀
    exact ⟨u, hnone.db ▸ hu, huid.trans hid₀, hname₀.symm.trans huname⟩
  · obtain ⟨r₀, hr₀, -, hname₀⟩ := hnone.records r hr
    rw [← hname₀]
    exact hnone.quiet.known _ (h.known r₀ hr₀)
  · obtain ⟨r₀, hr₀, hid₀, hname₀⟩ := hnone.records r hr
    have hlocked := h.locked u (hnone.db ▸ hu) hinactive r₀ hr₀ (hid₀.trans hid)
    rw [← hname₀, ← Bool.not_eq_true]
    intro hlogin
    rw [hnone.quiet.mayLogIn _ (h.known r₀ hr₀) hlogin] at hlocked
    cases hlocked

theorem locked_of_quiet {s s' : Store} {name : String} (hquiet : Guac.Quiet s s') (hknown : s.Known name)
    (hlocked : s.mayLogIn name = false) : s'.mayLogIn name = false := by
  rw [← Bool.not_eq_true]
  intro hlogin
  rw [hquiet.mayLogIn name hknown hlogin] at hlocked
  cases hlocked

theorem Suspended.of_settles (h : Suspended w) (huser : user ∈ w.db.users)
    (hmay : user.active = true ∨ (w.findUserRecord user.id).isSome)
    (hsettles : AccountSettled user.id (guacUsernameOf user.username) w w') : Suspended w' := by
  refine ⟨hsettles.quiet.unique h.entities, fun r hr r' hr' hname => ?_, fun r hr => ?_,
    fun r hr => ?_, fun u hu hinactive r hr hid => ?_⟩
  · rcases hsettles.records r hr with ⟨r₀, hr₀, hid₀, hname₀⟩ | ⟨hid, hnew, -, hfree⟩
    · rcases hsettles.records r' hr' with ⟨r₀', hr₀', hid₀', hname₀'⟩ | ⟨hid', hnew', -, hfree'⟩
      · rw [← hid₀, ← hid₀']
        exact h.unique r₀ hr₀ r₀' hr₀' (hname₀.trans (hname.trans hname₀'.symm))
      · rw [← hid₀, hid']
        exact hfree' r₀ hr₀ (hname₀.trans (hname.trans hnew'))
    · rcases hsettles.records r' hr' with ⟨r₀', hr₀', hid₀', hname₀'⟩ | ⟨hid', -, -, -⟩
      · rw [← hid₀', hid]
        exact (hfree r₀' hr₀' (hname₀'.trans (hname.symm.trans hnew))).symm
      · exact hid.trans hid'.symm
  · rw [hsettles.db]
    rcases hsettles.records r hr with ⟨r₀, hr₀, hid₀, hname₀⟩ | ⟨hid, hnew, -, -⟩
    · obtain ⟨u, hu, huid, huname⟩ := h.named r₀ hr₀
      exact ⟨u, hu, huid.trans hid₀, hname₀.symm.trans huname⟩
    · exact ⟨user, huser, hid.symm, hnew⟩
  · rcases hsettles.records r hr with ⟨r₀, hr₀, -, hname₀⟩ | ⟨-, hnew, hknown, -⟩
    · rw [← hname₀]
      exact hsettles.quiet.known _ (h.known r₀ hr₀)
    · rwa [hnew]
  · rw [hsettles.db] at hu
    -- The account of a user who is inactive has a record already.
    obtain ⟨r₀, hr₀, hid₀, hname₀⟩ : ∃ r₀ ∈ w.guacUsers, r₀.userId = r.userId ∧
        r₀.guacUsername = r.guacUsername := by
      rcases hsettles.records r hr with hold | ⟨hruser, hnew, -, -⟩
      · exact hold
      · obtain rfl := Table.eq_of_key_eq hu huser (hid.symm.trans hruser)
        rcases hmay with hactive | hsome
        · rw [hinactive] at hactive
          cases hactive
        · obtain ⟨r₀, hfound⟩ := Option.isSome_iff_exists.mp hsome
          have hr₀ := Table.mem_of_find? hfound
          have hkey : r₀.userId = u.id := Table.key_of_find? hfound
          obtain ⟨u₀, hu₀, huid₀, huname₀⟩ := h.named r₀ hr₀
          obtain rfl := Table.eq_of_key_eq hu₀ hu (huid₀.trans hkey)
          exact ⟨r₀, hr₀, hkey.trans hid.symm, huname₀.trans hnew.symm⟩
    rw [← hname₀]
    exact locked_of_quiet hsettles.quiet (h.known r₀ hr₀)
      (h.locked u hu hinactive r₀ hr₀ (hid₀.trans hid))

theorem of_mem_setUserActive {userId : UserId} {active : Bool}
    (hu : u ∈ (db.setUserActive userId active).users) :
    u.id = userId ∧ u.active = active ∨ u.id ≠ userId ∧ u ∈ db.users := by
  simp only [Db.setUserActive, Table.mem_updateWhere] at hu
  obtain ⟨u₀, hu₀, rfl⟩ := hu
  split
  · rename_i hmatch
    exact .inl ⟨of_decide_eq_true hmatch, rfl⟩
  · rename_i hmatch
    exact .inr ⟨fun heq => hmatch (decide_eq_true heq), hu₀⟩

theorem mem_setUserActive (hu : u ∈ db.users) (userId : UserId) (active : Bool) :
    ∃ u' ∈ (db.setUserActive userId active).users, u'.id = u.id ∧ u'.username = u.username := by
  refine ⟨if decide (u.id = userId) then { u with active } else u, ?_, ?_⟩
  · simp only [Db.setUserActive, Table.mem_updateWhere]
    exact ⟨u, hu, rfl⟩
  · split
    · exact ⟨rfl, rfl⟩
    · exact ⟨rfl, rfl⟩

theorem Suspended.setActive (h : Suspended w) (userId : UserId) (active : Bool) :
    after (deps.setGuacUserDisabled userId (!active)) (fun _ w' => Suspended w')
      { w with db := w.db.setUserActive userId active } := by
  have hnamed : ∀ r ∈ w.guacUsers, ∃ u ∈ (w.db.setUserActive userId active).users,
      u.id = r.userId ∧ r.guacUsername = guacUsernameOf u.username := by
    intro r hr
    obtain ⟨u₀, hu₀, huid, huname⟩ := h.named r hr
    obtain ⟨u, hu, hid, hname⟩ := mem_setUserActive hu₀ userId active
    exact ⟨u, hu, hid.trans huid, by rw [huname, hname]⟩
  simp only [GuacamoleServiceDeps.setGuacUserDisabled, after_bind, after_query]
  cases hfound : GuacWorld.findUserRecord { w with db := w.db.setUserActive userId active } userId with
  | none =>
      refine ⟨h.entities, h.unique, hnamed, h.known, fun u hu hinactive r hr hid => ?_⟩
      rcases of_mem_setUserActive hu with ⟨heq, -⟩ | ⟨-, hu₀⟩
      · exact absurd (hid.trans heq) (Table.find?_eq_none_iff.mp hfound r hr)
      · exact h.locked u hu₀ hinactive r hr hid
  | some record =>
      have hrecord : record ∈ w.guacUsers := Table.mem_of_find? hfound
      have hkey : record.userId = userId := Table.key_of_find? hfound
      obtain ⟨result, hset, hentities, hflag⟩ :=
        deps.guacDb_steady.setUserDisabled h.entities record.guacUsername (!active)
      rw [after_sql]
      refine ⟨fun a guac hrun => ?_, fun hnone => ?_⟩
      · obtain rfl : result = (a, guac) := Option.some.inj (hset.symm.trans hrun)
        have hsame : ∀ name, guac.entitiesNamed name = w.guac.entitiesNamed name := by
          intro name
          rw [Store.entitiesNamed, hentities, Store.entitiesNamed]
        refine ⟨fun name => ?_, h.unique, hnamed, fun r hr => ?_, fun u hu hinactive r hr hid => ?_⟩
        · rw [hsame]
          exact h.entities name
        · rw [Store.Known, hsame]
          exact h.known r hr
        · rcases of_mem_setUserActive hu with ⟨heq, hactive⟩ | ⟨hne, hu₀⟩
          · obtain rfl := Table.eq_of_key_eq hr hrecord (hid.trans (heq.trans hkey.symm))
            rw [← Bool.not_eq_true]
            intro hlogin
            have hclear : (!active) = false := hflag hlogin
            rw [← hactive, hinactive] at hclear
            cases hclear
          · have hother : record.guacUsername ≠ r.guacUsername := fun hname =>
              hne (hid.symm.trans ((h.unique record hrecord r hr hname).symm.trans hkey))
            rw [mayLogIn_of_account (deps.guacDb_contained.setUserDisabled hother (!active) _ _ hset)]
            exact h.locked u hu₀ hinactive r hr hid
      · rw [hset] at hnone
        cases hnone

end invariant

/-! ## Steps -/

section steps

variable {deps : GuacamoleServiceDeps} {ctx : RequestContext} {env : GuacContext} {user : UserRow}
  {w : GuacWorld}

variable {actorId userId : UserId} {target : UserWithRoles} {body : UpdateUserBody} {α : Type} {vmId : VmId}

theorem after_updateUserActive_sets {db : Db}
    {active : Option Bool} {Q : Except AppError Unit → Db → Prop} (hnone : active = none → Q (.ok ()) db)
    (hset : ∀ flag, active = some flag → Q (.ok ()) (db.setUserActive target.row.id flag))
    (hfail : ∀ e, Q (.error e) db) : after (updateUserActive ctx actorId target active) Q db := by
  unfold updateUserActive
  cases active with
  | none => exact hnone rfl
  | some active =>
      cases active with
      | true => exact hset true rfl
      | false =>
          simp only [after_bind, after_ensure, after_query]
          refine ⟨fun _ => ⟨fun _ => ?_, fun _ => hfail _⟩, fun _ => hfail _⟩
          refine after_canDeactivate (fun allowed _ => ?_) hfail
          simp only [after_write]
          exact ⟨fun _ => hset false rfl, fun _ => hfail _⟩

theorem Suspended.updateUserRole (h : Suspended w)
    {role : Option Role} : after (ProxVM.updateUserRole ctx actorId target role)
      (fun _ db => Suspended { w with db }) w.db := by
  refine after_updateUserRole (I := fun db => Suspended { w with db }) h fun roles _ => ?_
  refine after_setRoles (I := fun db => Suspended { w with db }) (h.of_sameUsers rfl)
    fun db db' role hins hheld => ?_
  obtain ⟨userRoles, rfl, -, -⟩ := Db.insertUserRole_eq_some hins
  exact hheld.of_sameUsers rfl

theorem Suspended.updateUserProfile (h : Suspended w) :
    after (ProxVM.updateUserProfile userId body) (fun _ db => Suspended { w with db }) w.db := by
  refine after_updateUserProfile (I := fun db => Suspended { w with db }) h ?_ ?_
  · intro db hheld passwordHash
    exact hheld.updateUser _ (fun u => { u with passwordHash }) (fun _ => rfl) (fun _ => rfl)
      fun _ => rfl
  · intro db hheld email givenName
    exact hheld.updateUser _
      (fun u => { u with email := email <|> u.email, givenName := givenName <|> u.givenName })
      (fun _ => rfl) (fun _ => rfl) fun _ => rfl

theorem Suspended.createUser (h : Suspended w) (input : CreateUserInput) :
    after (ProxVM.createUser ctx input) (fun r db => Suspended { w with db } ∧
      (r.isOk = true → ∃ user ∈ db.users, user.id = ctx.newId ∧ user.username = input.username ∧
        user.active = true)) w.db := by
  simp only [ProxVM.createUser, after_bind, after_tryWrite]
  refine ⟨fun db₁ hins => ?_, fun _ => ⟨h, nofun⟩⟩
  have hroles : after (setRoles ctx.newId input.roles) (fun _ db => db.users = db₁.users) db₁ := by
    refine after_setRoles (I := fun db => db.users = db₁.users) rfl fun db db' role hrole husers => ?_
    obtain ⟨userRoles, rfl, -, -⟩ := Db.insertUserRole_eq_some hrole
    exact husers
  refine after_mono hroles fun r db₂ husers => ?_
  have hinserted := h.insertUser hins husers
  cases r with
  | error e => exact ⟨hinserted, nofun⟩
  | ok _ =>
      obtain ⟨users, rfl, -, hmem⟩ := Db.insertUser_eq_some hins
      refine after_requireUserById (fun _ _ => ⟨hinserted, fun _ => ?_⟩) fun _ => ⟨hinserted, nofun⟩
      simp only [husers]
      exact ⟨_, (hmem _).mpr (.inr rfl), rfl, rfl, rfl⟩

theorem Suspended.after_settles (h : Suspended w) {m : GuacProgram α}
    (huser : user ∈ w.db.users) (hmay : user.active = true ∨ (w.findUserRecord user.id).isSome)
    (hm : after m (fun _ w' => AccountSettled user.id (guacUsernameOf user.username) w w') w) :
    after m (fun _ w' => Suspended w') w :=
  after_mono hm fun _ _ hsettles => h.of_settles huser hmay hsettles

theorem Suspended.after_noneMade (h : Suspended w) {m : GuacProgram α}
    (hm : after m (fun _ w' => NoneMade w w') w) : after m (fun _ w' => Suspended w') w :=
  after_mono hm fun _ _ hnone => h.of_noneMade hnone

theorem Suspended.ensureAndGrant (h : Suspended w) (huser : user ∈ w.db.users)
    (hmay : user.active = true ∨ (w.findUserRecord user.id).isSome) : after (do
      let _ ← deps.ensureGuacUser env.draw user.id user.username
      deps.grantVmAccess vmId user.id : GuacProgram Unit) (fun _ w' => Suspended w') w := by
  rw [after_bind]
  refine after_mono (h.after_settles huser hmay (ensureGuacUser_settles env.draw user.username))
    fun r w₁ h₁ => ?_
  cases r with
  | error e => exact h₁
  | ok _ => exact h₁.after_noneMade (grantVmAccess_noneMade vmId)

theorem Suspended.postUsersSynced (h : Suspended w) {body : CreateUserBody} :
    after (ProxVM.postUsersSynced deps ctx env body) (fun _ w' => Suspended w') w := by
  simp only [ProxVM.postUsersSynced, postUsers, after_bind, after_onApp]
  refine after_requirePermission (fun actor _ _ => ?_) fun _ => h
  simp only [after_query, after_ensure]
  refine ⟨fun _ => ?_, fun _ => h⟩
  refine after_roleEffectivePermissions (fun _ _ => ?_) fun _ => h
  refine after_assertMayConfer (fun _ => ?_) fun _ => h
  refine after_mono (h.createUser _) ?_
  rintro r db ⟨h₁, hmade⟩
  cases r with
  | error e => exact h₁
  | ok _ =>
      obtain ⟨user, hmem, hid, hname, hactive⟩ := hmade rfl
      replace hname : user.username = body.username := hname
      simp only [after_pure, after_swallow, after_bind, after_outcome]
      cases env.guacDb with
      | error e => exact h₁
      | ok _ =>
          rw [← hid, ← hname]
          refine after_mono (h₁.after_settles hmem (.inl hactive)
            (ensureGuacUser_settles env.draw user.username)) fun r w₂ h₂ => ?_
          cases r with
          | error e => exact h₂
          | ok _ => exact h₂

theorem Suspended.putUserSynced (h : Suspended w) {id : UserId} (henv : env.guacDb = .ok ()) :
    after (ProxVM.putUserSynced deps ctx env id body) (fun _ w' => Suspended w') w := by
  -- What follows the change of the flag.
  have hrest : ∀ actorId target w₁, Suspended w₁ → after (do
      ProxVM.updateUserRole ctx actorId target body.role
      ProxVM.updateUserProfile target.row.id body : Handler Unit)
        (fun _ db => Suspended { w₁ with db }) w₁.db := by
    intro actorId target w₁ h₁
    rw [after_bind]
    refine after_mono h₁.updateUserRole fun r db₂ h₂ => ?_
    cases r with
    | error e => exact h₂
    | ok _ => exact h₂.updateUserProfile
  simp only [ProxVM.putUserSynced, after_bind, after_onApp]
  refine after_requirePermission (fun actor _ _ => ?_) fun _ => h
  simp only [after_ensure, after_query, after_orFail]
  refine ⟨fun _ => ⟨fun target _ => ?_, fun _ => h⟩, fun _ => h⟩
  refine after_assertCanAdministerTarget (fun _ => ?_) fun _ => h
  refine after_updateUserActive_sets (fun hnone => ?_) (fun active hsome => ?_) fun _ => h
  · rw [hnone]
    exact after_bind.mp (hrest actor.row.id target w h)
  · rw [hsome]
    simp only [syncGuacUserDisabled, after_swallow, after_bind, after_outcome, henv]
    refine after_mono (h.setActive target.row.id active) fun r w₁ h₁ => ?_
    cases r with
    | error e => exact after_bind.mp (hrest actor.row.id target w₁ h₁)
    | ok _ => exact after_bind.mp (hrest actor.row.id target w₁ h₁)

theorem Suspended.reconcileGuacAccess (h : Suspended w) :
    after (ProxVM.reconcileGuacAccess deps ctx env vmId userId) (fun _ w' => Suspended w') w := by
  simp only [ProxVM.reconcileGuacAccess, after_bind, after_query, after_outcome]
  cases env.guacDb with
  | error e => exact h
  | ok _ =>
      refine after_mono (h.after_noneMade (revokeVmAccess_noneMade vmId)) fun r w₁ h₁ => ?_
      cases r with
      | error e => exact h₁
      | ok _ =>
          simp only [after_ite, after_pure, after_bind, after_query]
          refine ⟨fun _ => h₁, fun _ => ?_⟩
          split
          · exact h₁
          · exact h₁.after_noneMade (forConnections_noneMade fun connectionName =>
              deps.guacDb_steady.grantConnectionRead connectionName _)

/-- **Every step keeps the invariant.** -/
theorem Suspended.step (h : Suspended w) {step : LoginStep} (hallowed : step.Allowed w)
    (henv : step.env.guacDb = .ok ()) : after (step.program deps) (fun _ w' => Suspended w') w := by
  obtain ⟨ctx, env, request⟩ := step
  replace henv : env.guacDb = .ok () := henv
  cases request with
  | postUsers body => exact h.postUsersSynced
  | approveRegistration id role =>
      simp only [LoginStep.program, after_onApp]
      exact after_postRegistrationApprove (I := fun db => Suspended { w with db }) h
        (h.of_sameUsers rfl) (fun input => after_mono (h.createUser input) fun _ _ hmade => hmade.1)
        fun _ hheld _ => hheld.of_sameUsers rfl
  | putUser id body => exact h.putUserSynced henv
  | grant vmId userId =>
      simp only [LoginStep.program, syncGrantProtocols, after_bind, after_query, after_orFail,
        after_outcome, henv]
      refine ⟨fun target htarget => ?_, fun _ => h⟩
      obtain ⟨hmem, rfl⟩ := mem_of_findUserById htarget
      exact after_bind.mp (h.ensureAndGrant hmem (hallowed target.row hmem rfl))
  | reconcile vmId userId => exact h.reconcileGuacAccess
  | launch vmId =>
      simp only [LoginStep.program, prepareLaunch, requireAuth, after_bind, after_onApp, after_query,
        after_orFail, after_ensure, after_pure, after_outcome, henv]
      refine ⟨fun user hfind => ⟨fun hactive => ?_, fun _ => h⟩, fun _ => h⟩
      exact after_bind.mp (h.ensureAndGrant (mem_of_findUserById hfind).1 (.inl hactive))
  | postDirectLogin id password =>
      simp only [LoginStep.program, ProxVM.postDirectLogin, after_bind, after_onApp]
      refine after_requirePermission (fun actor _ _ => ?_) fun _ => h
      simp only [after_query, after_orFail, after_outcome, henv]
      refine ⟨fun target htarget => ?_, fun _ => h⟩
      obtain ⟨hmem, rfl⟩ := mem_of_findUserById htarget
      cases password with
      | error e => exact h
      | ok password =>
          exact h.after_settles hmem (hallowed target.row hmem rfl)
            (setGuacDirectLoginPassword_settles env.draw target.row.username password)
  | deleteDirectLogin id =>
      simp only [LoginStep.program, ProxVM.deleteDirectLogin, after_bind, after_onApp]
      refine after_requirePermission (fun actor _ _ => ?_) fun _ => h
      simp only [after_query, after_orFail, after_outcome, henv]
      refine ⟨fun target _ => ?_, fun _ => h⟩
      refine after_mono (h.after_noneMade (disableGuacDirectLogin_noneMade env.draw))
        fun r w₁ h₁ => ?_
      cases r with
      | error e => exact h₁
      | ok _ =>
          rw [after_ensure]
          exact ⟨fun _ => h₁, fun _ => h₁⟩

end steps

/-! ## An installation -/

end ProxVM
