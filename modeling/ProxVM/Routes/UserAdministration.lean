import ProxVM.Routes.UserAccounts

/-!
# Refused changes of a user

`PUT` and `DELETE /users/:id` of `routes/users.ts` with the sessions of the user.  Both run statement
after statement, without a transaction: a change of the role that is refused comes after the change of
`active`, and a deletion that is refused comes after the removal of the Guacamole account.
-/

namespace ProxVM

open Tables Fallible Guac

/-! ## The requests -/

/-- A row of `sessions`. -/
structure UserSession where
  id : Nat
  userId : UserId
  revokedAt : Option Time
  deriving DecidableEq, Repr

structure AccountWorld where
  guac : GuacWorld
  sessions : Table UserSession.id

abbrev AccountProgram (α : Type) := Program AppError AccountWorld α

def besideSessions {α : Type} (m : GuacProgram α) : AccountProgram α := fun w =>
  ((exec m w.guac).1, { w with guac := (exec m w.guac).2 })

def AccountWorld.revokeAllForUser (w : AccountWorld) (now : Time) (userId : UserId) : AccountWorld :=
  { w with
    sessions := w.sessions.updateWhere
      (fun s => decide (s.userId = userId) && decide (s.revokedAt = none))
      (fun s => { s with revokedAt := some now }) fun _ => rfl }

/-- `DELETE FROM users` takes the sessions of the user along. -/
def AccountWorld.deleteSessions (w : AccountWorld) (userId : UserId) : AccountWorld :=
  { w with sessions := w.sessions.deleteWhere fun s => decide (s.userId = userId) }

section handlers

variable (deps : GuacamoleServiceDeps) (ctx : RequestContext) (env : GuacContext)

/-- What `PUT /users/:id` asks before it changes anything. -/
def admitUpdate (id : UserId) (body : UpdateUserBody) : Handler (UserWithRoles × UserWithRoles) := do
  let actor ← requirePermission ctx .usersManage
  ensure (decide (body.role ≠ some Role.guest)) invalidBody
  let found ← query fun db => findUserById db ctx.now id
  let target ← orFail found (AppError.notFound "User not found")
  assertCanAdministerTarget ctx actor.row.id id
  pure (actor, target)

/-- The `active` part of `PUT /users/:id`: the row, the sessions and the Guacamole account. -/
def changeActive (actorId : UserId) (target : UserWithRoles) (active : Option Bool) :
    AccountProgram Unit := do
  besideSessions (onApp (updateUserActive ctx actorId target active))
  if active = some false then
    write fun w => w.revokeAllForUser ctx.now target.row.id
  else
    pure ()
  besideSessions (syncGuacUserDisabled deps env target.row.id active)

def changeProfile (targetId : UserId) (body : UpdateUserBody) : AccountProgram Unit := do
  besideSessions (onApp (updateUserProfile targetId { body with email := none, givenName := none }))
  if body.passwordHash.isSome then
    write fun w => w.revokeAllForUser ctx.now targetId
  else
    pure ()
  besideSessions (onApp (updateUserProfile targetId { body with passwordHash := none }))

/-- `PUT /users/:id`, with Guacamole and the sessions. -/
def putUserAccount (id : UserId) (body : UpdateUserBody) : AccountProgram Unit := do
  let (actor, target) ← besideSessions (onApp (admitUpdate ctx id body))
  changeActive deps ctx env actor.row.id target body.active
  besideSessions (onApp (updateUserRole ctx actor.row.id target body.role))
  changeProfile ctx target.row.id body

/-- What `DELETE /users/:id` asks before it changes anything. -/
def admitDelete (id : UserId) : Handler UserWithRoles := do
  let actor ← requirePermission ctx .usersManage
  ensure (decide (id ≠ actor.row.id)) (AppError.validation "You cannot delete your own account")
  let found ← query fun db => findUserById db ctx.now id
  let target ← orFail found (AppError.notFound "User not found")
  assertCanAdministerTarget ctx actor.row.id id
  pure target

def cleanGuacamole (userId : UserId) : GuacProgram Unit :=
  swallow do
    outcome env.guacDb
    deps.removeUserResources userId

/-- `DELETE /users/:id`, with Guacamole and the sessions. -/
def deleteUserAccount (id : UserId) : AccountProgram Unit := do
  let target ← besideSessions (onApp (admitDelete ctx id))
  besideSessions (cleanGuacamole deps env target.row.id)
  besideSessions (onApp (mapError (fun e => AppError.validation e.message)
    (deleteGuarded ctx target.row.id)))
  besideSessions (write fun w => w.deleteGuacUser target.row.id)
  write fun w => w.deleteSessions target.row.id

end handlers

/-! ## What a refusal leaves -/

structure SameAccount (id : UserId) (w w' : AccountWorld) : Prop where
  row : w'.guac.db.users.find? id = w.guac.db.users.find? id
  roles : ∀ ur : UserRoleRow, ur.userId = id →
    (ur ∈ w'.guac.db.userRoles ↔ ur ∈ w.guac.db.userRoles)
  sessions : ∀ s : UserSession, s.userId = id → (s ∈ w'.sessions ↔ s ∈ w.sessions)
  record : w'.guac.findUserRecord id = w.guac.findUserRecord id
  account : ∀ record, w.guac.findUserRecord id = some record →
    w'.guac.guac.account record.guacUsername = w.guac.guac.account record.guacUsername

def Refusal (e : AppError) : Prop := 400 ≤ e.statusCode ∧ e.statusCode < 500

def Atomic (m : AccountProgram Unit) (id : UserId) (w : AccountWorld) : Prop :=
  ∀ e, (exec m w).1 = .error e → Refusal e → SameAccount id w (exec m w).2

theorem refusal_validation (message : String) : Refusal (AppError.validation message) :=
  ⟨Nat.le_refl 400, (by decide : 400 < 500)⟩

theorem refusal_forbidden (message : String) : Refusal (AppError.forbidden message) :=
  ⟨(by decide : 400 ≤ 403), (by decide : 403 < 500)⟩

theorem refusal_notFound (message : String) : Refusal (AppError.notFound message) :=
  ⟨(by decide : 400 ≤ 404), (by decide : 404 < 500)⟩

theorem SameAccount.refl (id : UserId) (w : AccountWorld) : SameAccount id w w :=
  ⟨rfl, fun _ _ => Iff.rfl, fun _ _ => Iff.rfl, rfl, fun _ _ => rfl⟩

def applied (deps : GuacamoleServiceDeps) (ctx : RequestContext) (env : GuacContext) (id : UserId)
    (active : Option Bool) (w : AccountWorld) : AccountWorld :=
  match active with
  | none => w
  | some active =>
      let set : AccountWorld := { w with
        guac := { w.guac with db := w.guac.db.setUserActive id active } }
      let revoked := if active then set else set.revokeAllForUser ctx.now id
      { revoked with guac := (exec (syncGuacUserDisabled deps env id (some active)) set.guac).2 }

def LastAdmin (ctx : RequestContext) (db : Db) (target : UserWithRoles) : Prop :=
  isAdmin target = true ∧ countActiveAdmins db ctx.now target.row.id = 0

/-- The change of `active` is allowed. -/
def ActiveAllowed (ctx : RequestContext) (db : Db) (actorId : UserId) (target : UserWithRoles)
    (active : Option Bool) : Prop :=
  active = some false → target.row.id ≠ actorId ∧ isInitialAdmin db target.row.id = false ∧
    ¬ LastAdmin ctx db target

def RoleRefused (ctx : RequestContext) (db : Db) (actorId : UserId) (target : UserWithRoles)
    (role : Option Role) : Prop :=
  ∃ r, role = some r ∧ (target.row.id = actorId ∧ r ≠ Role.admin ∨
    (∀ row, db.roles.find? r.id = some row →
      missingPermissions db ctx.now actorId (rolePermissionSet db row) ≠ []) ∨
    isInitialAdmin db target.row.id = true ∨ r ≠ Role.admin ∧ LastAdmin ctx db target)

section

variable {α : Type} {deps : GuacamoleServiceDeps} {ctx : RequestContext} {env : GuacContext}
  {id : UserId} {w w' : AccountWorld} {db : Db}

@[simp] theorem after_besideSessions {m : GuacProgram α} {Q : Except AppError α → AccountWorld → Prop} :
    after (besideSessions m) Q w ↔ after m (fun r guac => Q r { w with guac }) w.guac := Iff.rfl

theorem after_admitUpdate {body : UpdateUserBody} : after (admitUpdate ctx id body)
    (fun r db' => db' = db ∧ ∀ actor target, r = .ok (actor, target) →
      findUserById db ctx.now id = some target) db := by
  have herror : ∀ e : AppError, db = db ∧ ∀ actor target,
      (Except.error e : Except AppError (UserWithRoles × UserWithRoles)) = .ok (actor, target) →
        findUserById db ctx.now id = some target :=
    fun e => ⟨rfl, fun _ _ h => by cases h⟩
  simp only [admitUpdate, after_bind]
  refine after_requirePermission (fun actor _ _ => ?_) herror
  simp only [after_query, after_ensure, after_orFail]
  refine ⟨fun _ => ⟨fun target htarget => ?_, fun _ => ⟨trivial, (herror _).2⟩⟩,
    fun _ => ⟨trivial, (herror _).2⟩⟩
  refine after_assertCanAdministerTarget (fun _ => ⟨rfl, fun _ _ h => ?_⟩) herror
  cases h
  exact htarget

theorem after_admitDelete : after (admitDelete ctx id) (fun r db' => db' = db ∧ ∀ target, r = .ok target →
      findUserById db ctx.now id = some target) db := by
  have herror : ∀ e : AppError, db = db ∧ ∀ target,
      (Except.error e : Except AppError UserWithRoles) = .ok target →
        findUserById db ctx.now id = some target :=
    fun e => ⟨rfl, fun _ h => by cases h⟩
  simp only [admitDelete, after_bind]
  refine after_requirePermission (fun actor _ _ => ?_) herror
  simp only [after_query, after_ensure, after_orFail]
  refine ⟨fun _ => ⟨fun target htarget => ?_, fun _ => ⟨trivial, (herror _).2⟩⟩,
    fun _ => ⟨trivial, (herror _).2⟩⟩
  refine after_assertCanAdministerTarget (fun _ => ⟨rfl, fun _ h => ?_⟩) herror
  cases h
  exact htarget

variable {actorId : UserId} {target : UserWithRoles}

theorem row_id_of_found (hfound : findUserById db ctx.now id = some target) : target.row.id = id :=
  (findUserById_eq_some hfound).2.1

theorem after_requireFound {Q : Except AppError UserWithRoles → Db → Prop}
    (hfound : findUserById db ctx.now target.row.id = some target) (hQ : Q (.ok target) db) :
    after (requireUserById ctx target.row.id) Q db := by
  simp only [requireUserById, after_bind, after_query, after_orFail]
  refine ⟨fun user huser => ?_, fun hnone => ?_⟩
  · cases hfound.symm.trans huser
    exact hQ
  · cases hfound.symm.trans hnone

theorem after_updateUserActive_allowed {active : Bool}
    (hfound : findUserById db ctx.now target.row.id = some target) :
    after (updateUserActive ctx actorId target (some active)) (fun r db' =>
      (ActiveAllowed ctx db actorId target (some active) →
        r = .ok () ∧ db' = db.setUserActive target.row.id active) ∧
      (¬ ActiveAllowed ctx db actorId target (some active) → (∃ e, r = .error e) ∧ db' = db)) db := by
  unfold updateUserActive
  cases active with
  | true => exact ⟨fun _ => ⟨rfl, rfl⟩, fun h => absurd (fun heq => by cases heq) h⟩
  | false =>
      have hrefused : ∀ e : AppError, ¬ ActiveAllowed ctx db actorId target (some false) →
          (ActiveAllowed ctx db actorId target (some false) →
            (Except.error e : Except AppError Unit) = .ok () ∧
              db = db.setUserActive target.row.id false) ∧
          (¬ ActiveAllowed ctx db actorId target (some false) →
            (∃ e', (Except.error e : Except AppError Unit) = .error e') ∧ db = db) :=
        fun e hnot => ⟨fun h => absurd h hnot, fun _ => ⟨⟨e, rfl⟩, rfl⟩⟩
      simp only [after_bind]
      rw [after_ensure]
      refine ⟨fun hself => ?_, fun hself => hrefused _ fun h => of_decide_eq_false hself (h rfl).1⟩
      dsimp only
      rw [after_query]
      dsimp only
      rw [after_ensure]
      refine ⟨fun hinitial => ?_, fun hinitial => hrefused _ fun h => ?_⟩
      · dsimp only
        rw [canDeactivate, after_bind]
        refine after_requireFound hfound ?_
        simp only [after_bind, after_query, after_pure]
        rw [after_ensure]
        refine ⟨fun hallowed => ?_, fun hlast => hrefused _ fun h => ?_⟩
        · rw [after_write]
          refine ⟨fun _ => ⟨rfl, rfl⟩, fun h => absurd (fun _ => ?_) h⟩
          obtain ⟨hordinary, hother⟩ := Bool.and_eq_true_iff.mp hallowed
          refine ⟨of_decide_eq_true hself, (Bool.not_eq_true' _).mp hordinary, fun hlast => ?_⟩
          rw [hlast.1, decide_eq_true hlast.2] at hother
          cases hother
        · obtain ⟨-, hordinary, hnotLast⟩ := h rfl
          rw [hordinary, Bool.not_false, Bool.true_and, Bool.not_eq_false'] at hlast
          obtain ⟨hadmin, hcount⟩ := Bool.and_eq_true_iff.mp hlast
          exact hnotLast ⟨hadmin, of_decide_eq_true hcount⟩
      · rw [(h rfl).2.1] at hinitial
        cases hinitial

end

/-! ## The Guacamole account -/

namespace Guac

variable {s : Store} {name : String} {entity : EntityRow} {disabled : Bool}

theorem userId_disabled (disabled : Bool) (u : UserRow) : UserRow.userId { u with disabled } = u.userId := rfl

def Store.setDisabled (s : Store) (entityId : ℕ+) (disabled : Bool) : Store :=
  { s with
    users := s.users.updateWhere (fun u => decide (some u.entityId = some entityId))
      (fun u => { u with disabled }) (userId_disabled disabled) }

theorem account_setDisabled_iff (hone : s.entitiesNamed name = [entity]) :
    (s.setDisabled entity.entityId disabled).account name = s.account name ↔
      ∀ u ∈ s.users, u.entityId = entity.entityId → u.disabled = disabled := by
  have hbears : s.bears name entity.entityId = true := by
    rw [Store.bears, hone]
    exact List.any_eq_true.mpr ⟨entity, List.mem_singleton.mpr rfl, decide_eq_true rfl⟩
  constructor
  · intro haccount u hu hentity
    have hnew : { u with disabled } ∈ (s.setDisabled entity.entityId disabled).users := by
      rw [Store.setDisabled, Table.mem_updateWhere]
      refine ⟨u, hu, ?_⟩
      rw [if_pos (decide_eq_true (congrArg some hentity))]
    have hlisted : { u with disabled } ∈ ((s.setDisabled entity.entityId disabled).account name).users := by
      refine List.mem_filter.mpr ⟨hnew, ?_⟩
      change s.bears name u.entityId = true
      rw [hentity]
      exact hbears
    rw [haccount] at hlisted
    have hold := Table.eq_of_key_eq (List.mem_filter.mp hlisted).1 hu rfl
    exact (congrArg UserRow.disabled hold).symm
  · intro hsettled
    have hrows : (s.setDisabled entity.entityId disabled).users.rows = s.users.rows := by
      refine (List.map_congr_left fun u hu => ?_).trans (List.map_id s.users.rows)
      split
      · next hentity =>
          have hdisabled := hsettled u hu (Option.some.inj (of_decide_eq_true hentity))
          rw [← hdisabled]
          rfl
      · rfl
    refine account_of_users rfl ?_ rfl rfl
    rw [hrows]

theorem selectEntityId_one (hone : s.entitiesNamed name = [entity]) :
    selectEntityId name s = some (some entity.entityId, s) := by
  change scalar ((s.entitiesNamed name).map EntityRow.entityId) s = _
  rw [hone]
  rfl

theorem selectEntityId_none (hnone : s.entitiesNamed name = []) : selectEntityId name s = some (none, s) := by
  change scalar ((s.entitiesNamed name).map EntityRow.entityId) s = _
  rw [hnone]
  rfl

theorem selectEntityId_many {e e' : EntityRow} {rest : List EntityRow}
    (hmany : s.entitiesNamed name = e :: e' :: rest) : selectEntityId name s = none := by
  change scalar ((s.entitiesNamed name).map EntityRow.entityId) s = _
  rw [hmany]
  rfl

theorem exists_deleteUser (hfew : (s.entitiesNamed name).length < 2) :
    ∃ r, GuacamolePostgresClient.deleteUser name s = some r := by
  have hselect : ∃ entityId, ∀ s' : Store, s'.entities = s.entities →
      selectEntityId name s' = some (entityId, s') := by
    rcases hentities : s.entitiesNamed name with _ | ⟨e, _ | ⟨e', rest⟩⟩
    · refine ⟨none, fun s' hsame => selectEntityId_none ?_⟩
      rw [Store.entitiesNamed, hsame]
      exact hentities
    · refine ⟨some e.entityId, fun s' hsame => selectEntityId_one ?_⟩
      rw [Store.entitiesNamed, hsame]
      exact hentities
    · rw [hentities, List.length_cons, List.length_cons] at hfew
      omega
  obtain ⟨entityId, hselect⟩ := hselect
  have hthen : ∀ {f : Option ℕ+ → Sql Unit} {rest : Sql Unit},
      (∀ s', ∃ s'', f entityId s' = some ((), s'') ∧ s''.entities = s'.entities) →
        (∀ s', s'.entities = s.entities → ∃ r, rest s' = some r) →
          ∀ s', s'.entities = s.entities →
            ∃ r, (selectEntityId name >>= fun id => f id >>= fun _ => rest) s' = some r := by
    intro f rest hf hrest s' hsame
    obtain ⟨s'', hrun, hkept⟩ := hf s'
    rw [bind_apply, hselect s' hsame, Option.bind_some, bind_apply, hrun]
    exact hrest s'' (hkept.trans hsame)
  refine hthen (fun s' => ⟨_, rfl, by rfl⟩) ?_ s rfl
  refine hthen (fun s' => ⟨_, rfl, by rfl⟩) ?_
  refine hthen (fun s' => ⟨_, rfl, by rfl⟩) ?_
  exact hthen (fun s' => ⟨_, rfl, by rfl⟩) fun s' _ => ⟨_, rfl⟩

end Guac

section sync

variable {deps : GuacamoleServiceDeps} {env : GuacContext} {id : UserId} {g : GuacWorld}
  {active : Bool}

theorem setUserDisabled_eq (name : String) (disabled : Bool) : deps.guacDb.setUserDisabled name disabled = (do
        let entityId ← selectEntityId name
        updateUserDisabled entityId disabled : Sql Unit) := by
  unfold GuacamoleServiceDeps.guacDb
  split <;> rfl

theorem deleteUser_eq (name : String) :
    deps.guacDb.deleteUser name = GuacamolePostgresClient.deleteUser name := by
  unfold GuacamoleServiceDeps.guacDb
  split <;> rfl

theorem after_sync_frame {active : Option Bool} : after (syncGuacUserDisabled deps env id active)
    (fun r g' => r = .ok () ∧ g'.db = g.db ∧ g'.guacUsers = g.guacUsers) g := by
  unfold syncGuacUserDisabled
  cases active with
  | none => exact ⟨rfl, rfl, rfl⟩
  | some active =>
      rw [after_swallow, after_bind, after_outcome]
      cases env.guacDb with
      | error e => exact ⟨rfl, rfl, rfl⟩
      | ok _ =>
          dsimp only
          rw [GuacamoleServiceDeps.setGuacUserDisabled, after_bind, after_query]
          cases g.findUserRecord id with
          | none => exact ⟨rfl, rfl, rfl⟩
          | some record =>
              dsimp only
              rw [after_sql]
              exact ⟨fun _ _ _ => ⟨rfl, rfl, rfl⟩, fun _ => ⟨rfl, rfl, rfl⟩⟩

def GuacSettled (env : GuacContext) (id : UserId) (active : Bool) (g : GuacWorld) : Prop :=
  ∀ record, g.findUserRecord id = some record → env.guacDb = .ok () →
    ∀ entity, g.guac.entitiesNamed record.guacUsername = [entity] →
      ∀ u ∈ g.guac.users, u.entityId = entity.entityId → u.disabled = !active

theorem after_sync_account : after (syncGuacUserDisabled deps env id (some active)) (fun _ g' =>
    (∀ record, g.findUserRecord id = some record →
        g'.guac.account record.guacUsername = g.guac.account record.guacUsername) ↔
      GuacSettled env id active g) g := by
  unfold syncGuacUserDisabled GuacSettled
  rw [after_swallow, after_bind, after_outcome]
  cases hclient : env.guacDb with
  | error e => exact iff_of_true (fun _ _ => rfl) fun _ _ h => by cases h
  | ok _ =>
      dsimp only
      rw [GuacamoleServiceDeps.setGuacUserDisabled, after_bind, after_query]
      cases hrecord : g.findUserRecord id with
      | none => exact iff_of_true (fun _ h => by cases h) fun _ h => by cases h
      | some record =>
          dsimp only
          rw [after_sql, setUserDisabled_eq]
          rcases hentities : g.guac.entitiesNamed record.guacUsername with _ | ⟨e, _ | ⟨e', rest⟩⟩
          · refine ⟨fun a guac hrun => ?_, fun hrun => ?_⟩
            · rw [bind_apply, selectEntityId_none hentities] at hrun
              refine iff_of_true (fun _ h => ?_) fun _ h _ entity hentity => ?_
              · cases h
                exact account_updateUserDisabled (fun _ h => by cases h) hrun
              · cases h
                cases hentities.symm.trans hentity
            · rw [bind_apply, selectEntityId_none hentities] at hrun
              cases hrun
          · refine ⟨fun a guac hrun => ?_, fun hrun => ?_⟩
            · rw [bind_apply, selectEntityId_one hentities] at hrun
              cases hrun
              refine Iff.trans ⟨fun h => h record rfl, fun h _ hsame => ?_⟩
                ((account_setDisabled_iff hentities).trans ⟨fun h _ hsame _ entity hentity => ?_, fun h => ?_⟩)
              · cases hsame
                exact h
              · cases hsame
                cases hentities.symm.trans hentity
                exact h
              · exact h record rfl rfl e hentities
            · rw [bind_apply, selectEntityId_one hentities] at hrun
              cases hrun
          · refine ⟨fun a guac hrun => ?_, fun _ => iff_of_true (fun _ _ => rfl) fun _ h _ entity hentity => ?_⟩
            · rw [bind_apply, selectEntityId_many hentities] at hrun
              cases hrun
            · cases h
              cases hentities.symm.trans hentity

def CleanupSettled (env : GuacContext) (id : UserId) (g : GuacWorld) : Prop :=
  ∀ record, g.findUserRecord id = some record → env.guacDb = .ok () →
    2 ≤ (g.guac.entitiesNamed record.guacUsername).length

theorem after_cleanGuacamole : after (cleanGuacamole deps env id) (fun r g' => r = .ok () ∧
    g'.db = g.db ∧ ((g'.findUserRecord id = g.findUserRecord id ∧
      ∀ record, g.findUserRecord id = some record →
        g'.guac.account record.guacUsername = g.guac.account record.guacUsername) ↔
          CleanupSettled env id g)) g := by
  unfold cleanGuacamole CleanupSettled
  rw [after_swallow, after_bind, after_outcome]
  cases hclient : env.guacDb with
  | error e => exact ⟨rfl, rfl, iff_of_true ⟨rfl, fun _ _ => rfl⟩ fun _ _ h => by cases h⟩
  | ok _ =>
      dsimp only
      rw [GuacamoleServiceDeps.removeUserResources, after_bind, after_query]
      cases hrecord : g.findUserRecord id with
      | none => exact ⟨rfl, rfl, iff_of_true ⟨hrecord, fun _ h => by cases h⟩ fun _ h => by cases h⟩
      | some record =>
          dsimp only
          rw [after_bind, after_sql, deleteUser_eq]
          refine ⟨fun _ guac hrun => ?_, fun hrun => ?_⟩
          · dsimp only
            rw [after_write]
            refine ⟨rfl, rfl, iff_of_false (fun h => ?_) fun h => ?_⟩
            · have hgone : ({ g with guac := guac }.deleteGuacUser id).findUserRecord id = none := by
                refine Table.find?_eq_none_iff.mpr fun r hr hid => ?_
                exact of_decide_eq_false (Table.mem_deleteWhere.mp hr).2 hid
              cases hgone.symm.trans h.1
            · have hmany := h record rfl rfl
              rcases hentities : g.guac.entitiesNamed record.guacUsername with _ | ⟨e, _ | ⟨e', rest⟩⟩
              · rw [hentities, List.length_nil] at hmany
                omega
              · rw [hentities, List.length_singleton] at hmany
                omega
              · unfold GuacamolePostgresClient.deleteUser at hrun
                rw [bind_apply, selectEntityId_many hentities] at hrun
                cases hrun
          · refine ⟨rfl, rfl, iff_of_true ⟨hrecord, fun _ _ => rfl⟩ fun _ h _ => ?_⟩
            cases h
            by_contra hfew
            obtain ⟨r, hr⟩ := exists_deleteUser (Nat.lt_of_not_le hfew)
            cases hrun.symm.trans hr

end sync

/-! ## The role -/

section role

variable {ctx : RequestContext} {db : Db} {actorId : UserId} {target current : UserWithRoles}

theorem after_setRoles_ok {userId : UserId} {role : Role} {user : ProxVM.UserRow} {row : RoleRow}
    (huser : db.users.find? userId = some user) (hrole : db.roles.find? role.id = some row) :
    after (setRoles userId [role]) (fun r _ => r = .ok ()) db := by
  unfold setRoles
  rw [after_bind, after_write]
  dsimp only
  rw [List.forM_cons, after_bind, after_tryWrite]
  refine ⟨fun db' _ => rfl, fun hnone => ?_⟩
  have hfresh : ∀ ur ∈ (db.deleteUserRoles userId).userRoles,
      UserRoleRow.key ur ≠ UserRoleRow.key ⟨userId, role.id, none⟩ := by
    intro ur hur hkey
    exact of_decide_eq_false (Table.mem_deleteWhere.mp hur).2 (congrArg Prod.fst hkey)
  obtain ⟨userRoles, hinsert⟩ := Table.insert?_isSome hfresh
  have huser' : (db.deleteUserRoles userId).users.find? userId = some user := huser
  have hrole' : (db.deleteUserRoles userId).roles.find? role.id = some row := hrole
  unfold Db.insertUserRole at hnone
  rw [huser', hrole', hinsert] at hnone
  cases hnone

theorem after_updateUserRole_refused {r : Role} (hid : current.row.id = target.row.id)
    (hfound : findUserById db ctx.now current.row.id = some current) :
    after (updateUserRole ctx actorId target (some r)) (fun result db' =>
      (RoleRefused ctx db actorId current (some r) →
        (∃ e, result = .error e ∧ Refusal e) ∧ db' = db) ∧
      (¬ RoleRefused ctx db actorId current (some r) → result = .ok ())) db := by
  have hrefused : ∀ e : AppError, Refusal e → RoleRefused ctx db actorId current (some r) →
      (RoleRefused ctx db actorId current (some r) →
        (∃ e', (Except.error e : Except AppError Unit) = .error e' ∧ Refusal e') ∧ db = db) ∧
      (¬ RoleRefused ctx db actorId current (some r) →
        (Except.error e : Except AppError Unit) = .ok ()) :=
    fun e hstatus href => ⟨fun _ => ⟨⟨e, rfl, hstatus⟩, rfl⟩, fun hnot => absurd href hnot⟩
  unfold updateUserRole
  rw [← hid, after_bind, after_ensure]
  refine ⟨fun hself => ?_, fun hself => hrefused _ (refusal_validation _) ⟨r, rfl, .inl ?_⟩⟩
  swap
  · rw [Bool.not_eq_false'] at hself
    obtain ⟨hsame, hrole⟩ := Bool.and_eq_true_iff.mp hself
    exact ⟨of_decide_eq_true hsame, of_decide_eq_true hrole⟩
  dsimp only
  rw [after_bind, roleEffectivePermissions, after_bind, after_query]
  dsimp only
  rw [after_bind, after_orFail]
  refine ⟨fun row hrow => ?_, fun hnone =>
    hrefused _ (refusal_notFound _) ⟨r, rfl, .inr (.inl ?_)⟩⟩
  swap
  · intro row hrow
    cases hnone.symm.trans hrow
  dsimp only
  rw [after_query]
  dsimp only
  rw [after_bind, assertMayConfer, after_bind, after_query]
  dsimp only
  rw [after_ensure]
  refine ⟨fun hconfers => ?_, fun hconfers =>
    hrefused _ (refusal_forbidden _) ⟨r, rfl, .inr (.inl ?_)⟩⟩
  swap
  · intro row' hrow' hnone
    cases hrow.symm.trans hrow'
    rw [hnone] at hconfers
    cases hconfers
  dsimp only
  rw [after_mapError, setRolesGuarded, after_bind]
  refine after_requireFound hfound ?_
  dsimp only
  rw [after_bind, after_query]
  dsimp only
  rw [after_bind, after_ensure]
  refine ⟨fun hinitial => ?_, fun hinitial =>
    hrefused _ (refusal_validation _) ⟨r, rfl, .inr (.inr (.inl ?_))⟩⟩
  swap
  · exact (Bool.not_eq_false' _).mp hinitial
  dsimp only
  rw [after_bind, after_query]
  dsimp only
  rw [after_bind, after_ensure]
  refine ⟨fun hkept => ?_, fun hlast =>
    hrefused _ (refusal_validation _) ⟨r, rfl, .inr (.inr (.inr ?_))⟩⟩
  swap
  · rw [Bool.not_eq_false'] at hlast
    obtain ⟨hlast, hcount⟩ := Bool.and_eq_true_iff.mp hlast
    obtain ⟨hadmin, hrole⟩ := Bool.and_eq_true_iff.mp hlast
    refine ⟨fun heq => of_decide_eq_true hrole ?_, hadmin, of_decide_eq_true hcount⟩
    rw [heq]
    exact List.mem_singleton.mpr rfl
  dsimp only
  obtain ⟨user, huser, -⟩ := Option.map_eq_some_iff.mp hfound
  refine after_mono (after_setRoles_ok huser hrow) fun result db' hok => ?_
  subst hok
  refine ⟨fun hbad => absurd hbad ?_, fun _ => rfl⟩
  rintro ⟨_, ⟨⟩, ⟨hsame, hrole⟩ | hmissing | hroot | ⟨hrole, hadmin, hcount⟩⟩
  · rw [decide_eq_true hsame, decide_eq_true hrole] at hself
    cases hself
  · exact hmissing row hrow (List.isEmpty_iff.mp hconfers)
  · rw [hroot] at hinitial
    cases hinitial
  · have hout : Role.admin ∉ [r] := fun hmem => hrole (List.mem_singleton.mp hmem).symm
    rw [hadmin, decide_eq_true hout, decide_eq_true hcount] at hkept
    cases hkept

def DeletionRefused (ctx : RequestContext) (db : Db) (target : UserWithRoles) : Prop :=
  isInitialAdmin db target.row.id = true ∨ LastAdmin ctx db target

theorem after_deleteGuarded_refused (hfound : findUserById db ctx.now target.row.id = some target) :
    after (mapError (fun e => AppError.validation e.message) (deleteGuarded ctx target.row.id))
      (fun result db' =>
        (DeletionRefused ctx db target → (∃ e, result = .error e ∧ Refusal e) ∧ db' = db) ∧
        (¬ DeletionRefused ctx db target → result = .ok ())) db := by
  rw [after_mapError, deleteGuarded, after_bind]
  refine after_requireFound hfound ?_
  dsimp only
  rw [after_bind, after_query]
  dsimp only
  rw [after_bind, after_ensure]
  refine ⟨fun hinitial => ?_, fun hinitial => ⟨fun _ => ⟨⟨_, rfl, refusal_validation _⟩, rfl⟩,
    fun hnot => absurd (.inl ((Bool.not_eq_false' _).mp hinitial)) hnot⟩⟩
  dsimp only
  rw [after_bind, after_query]
  dsimp only
  rw [after_bind, after_ensure]
  refine ⟨fun hkept => ?_, fun hlast => ⟨fun _ => ⟨⟨_, rfl, refusal_validation _⟩, rfl⟩,
    fun hnot => absurd (.inr ?_) hnot⟩⟩
  · refine ⟨fun hbad => ?_, fun _ => rfl⟩
    obtain hroot | ⟨hadmin, hcount⟩ := hbad
    · rw [hroot] at hinitial
      cases hinitial
    · rw [hadmin, decide_eq_true hcount] at hkept
      cases hkept
  · rw [Bool.not_eq_false'] at hlast
    obtain ⟨hadmin, hcount⟩ := Bool.and_eq_true_iff.mp hlast
    exact ⟨hadmin, of_decide_eq_true hcount⟩

theorem countActiveAdmins_setUserActive (now : Time) (id : UserId) (active : Bool) :
    countActiveAdmins (db.setUserActive id active) now id = countActiveAdmins db now id := by
  unfold countActiveAdmins Db.setUserActive
  rw [Table.updateWhere, List.filter_map, List.length_map]
  refine congrArg List.length (List.filter_congr fun u _ => ?_)
  rw [Function.comp_apply]
  split
  · next hid =>
      have hself : decide (u.id ≠ id) = false := decide_eq_false (not_not.mpr (of_decide_eq_true hid))
      change (active && decide (u.id ≠ id) && _) = (u.active && decide (u.id ≠ id) && _)
      rw [hself, Bool.and_false, Bool.and_false]
      rfl
  · rfl

theorem isInitialAdmin_setUserActive (id : UserId) (active : Bool) :
    isInitialAdmin (db.setUserActive id active) id = isInitialAdmin db id := by
  unfold isInitialAdmin Db.setUserActive
  rw [Table.find?_updateWhere]
  cases db.users.find? id with
  | none => rfl
  | some u =>
      dsimp only [Option.map_some]
      split <;> rfl

theorem findUserById_setUserActive {active : Bool}
    (hfound : findUserById db ctx.now target.row.id = some target) :
    findUserById (db.setUserActive target.row.id active) ctx.now target.row.id =
      some { target with row := { target.row with active } } := by
  obtain ⟨row, hrow, htarget⟩ := Option.map_eq_some_iff.mp hfound
  have hid : row.id = target.row.id := Table.key_of_find? hrow
  unfold findUserById
  rw [Db.setUserActive, Table.find?_updateWhere, hrow, Option.map_some, if_pos (decide_eq_true hid),
    Option.map_some, ← htarget]
  rfl

theorem lastAdmin_setUserActive {active : Bool} : LastAdmin ctx (db.setUserActive target.row.id active)
        { target with row := { target.row with active } } ↔ LastAdmin ctx db target := by
  unfold LastAdmin
  rw [countActiveAdmins_setUserActive]
  rfl

theorem roleRefused_setUserActive {active : Bool} {r : Option Role} :
    RoleRefused ctx (db.setUserActive target.row.id active) actorId
        { target with row := { target.row with active } } r ↔ RoleRefused ctx db actorId target r := by
  unfold RoleRefused
  refine exists_congr fun role => and_congr_right fun _ => or_congr Iff.rfl (or_congr Iff.rfl ?_)
  exact or_congr (by rw [isInitialAdmin_setUserActive]) (and_congr_right fun _ => lastAdmin_setUserActive)

end role

/-! ## The requests, part by part -/

section parts

variable {deps : GuacamoleServiceDeps} {ctx : RequestContext} {env : GuacContext} {id actorId : UserId}
  {target : UserWithRoles} {w : AccountWorld}

theorem after_changeActive {active : Option Bool}
    (hfound : findUserById w.guac.db ctx.now target.row.id = some target) :
    after (changeActive deps ctx env actorId target active) (fun r w' =>
      (ActiveAllowed ctx w.guac.db actorId target active →
        r = .ok () ∧ w' = applied deps ctx env target.row.id active w) ∧
      (¬ ActiveAllowed ctx w.guac.db actorId target active → (∃ e, r = .error e) ∧ w' = w)) w := by
  cases active with
  | none => exact ⟨fun _ => ⟨rfl, rfl⟩, fun h => absurd (fun heq => by cases heq) h⟩
  | some active =>
      unfold changeActive
      rw [after_bind, after_besideSessions, after_onApp]
      refine after_mono (after_updateUserActive_allowed hfound) fun r db₁ ⟨hgoes, hstops⟩ => ?_
      by_cases hallowed : ActiveAllowed ctx w.guac.db actorId target (some active)
      · obtain ⟨rfl, rfl⟩ := hgoes hallowed
        dsimp only
        cases active with
        | true => exact ⟨fun _ => ⟨after_sync_frame.1, rfl⟩, fun h => absurd hallowed h⟩
        | false => exact ⟨fun _ => ⟨after_sync_frame.1, rfl⟩, fun h => absurd hallowed h⟩
      · obtain ⟨⟨e, rfl⟩, rfl⟩ := hstops hallowed
        exact ⟨fun h => absurd h hallowed, fun _ => ⟨⟨e, rfl⟩, rfl⟩⟩

variable {body : UpdateUserBody}

theorem after_updateUserProfile_ok {db : Db} :
    after (updateUserProfile id body) (fun r _ => r = .ok ()) db := by
  unfold updateUserProfile
  cases body.passwordHash with
  | none => exact after_ite.mpr ⟨fun _ => after_write.mpr rfl, fun _ => after_pure.mpr rfl⟩
  | some passwordHash =>
      dsimp only
      rw [after_bind, after_write]
      exact after_ite.mpr ⟨fun _ => after_write.mpr rfl, fun _ => after_pure.mpr rfl⟩

theorem after_changeProfile_ok : after (changeProfile ctx id body) (fun r _ => r = .ok ()) w := by
  unfold changeProfile
  rw [after_bind, after_besideSessions, after_onApp]
  refine after_mono after_updateUserProfile_ok fun r db hok => ?_
  subst hok
  refine after_ite.mpr ⟨fun _ => ?_, fun _ => after_updateUserProfile_ok⟩
  rw [after_bind, after_write]
  exact after_updateUserProfile_ok

theorem applied_db {active : Bool} : (applied deps ctx env id (some active) w).guac.db =
    w.guac.db.setUserActive id active := by
  have hframe : after (syncGuacUserDisabled deps env id (some active))
      (fun _ g' => g'.db = w.guac.db.setUserActive id active)
      { w.guac with db := w.guac.db.setUserActive id active } :=
    after_mono after_sync_frame fun _ _ h => h.2.1
  exact hframe

variable (deps env actorId) in
theorem exists_current (active : Option Bool) (r : Option Role)
    (hfound : findUserById w.guac.db ctx.now target.row.id = some target) :
    ∃ current, current.row.id = target.row.id ∧
      findUserById (applied deps ctx env target.row.id active w).guac.db ctx.now current.row.id =
        some current ∧
      (RoleRefused ctx (applied deps ctx env target.row.id active w).guac.db actorId current r ↔
        RoleRefused ctx w.guac.db actorId target r) := by
  cases active with
  | none => exact ⟨target, rfl, hfound, Iff.rfl⟩
  | some active =>
      refine ⟨{ target with row := { target.row with active } }, rfl, ?_, ?_⟩
      · rw [applied_db]
        exact findUserById_setUserActive hfound
      · rw [applied_db]
        exact roleRefused_setUserActive

/-- A request is admitted, its change of `active` goes through, and its change of the role does not. -/
def Stopped (ctx : RequestContext) (id : UserId) (body : UpdateUserBody) (db : Db) : Prop :=
  ∃ actor target, (exec (admitUpdate ctx id body) db).1 = .ok (actor, target) ∧
    ActiveAllowed ctx db actor.row.id target body.active ∧
      RoleRefused ctx db actor.row.id target body.role

theorem stopped_iff {db : Db} {actor : UserWithRoles}
    (hadmitted : (exec (admitUpdate ctx id body) db).1 = .ok (actor, target)) :
    Stopped ctx id body db ↔ ActiveAllowed ctx db actor.row.id target body.active ∧
        RoleRefused ctx db actor.row.id target body.role := by
  constructor
  · rintro ⟨actor', target', hok, hstops⟩
    cases hadmitted.symm.trans hok
    exact hstops
  · exact fun hstops => ⟨actor, target, hadmitted, hstops⟩

theorem after_putUserAccount : after (putUserAccount deps ctx env id body) (fun r w' =>
      (Stopped ctx id body w.guac.db →
        (∃ e, r = .error e ∧ Refusal e) ∧ w' = applied deps ctx env id body.active w) ∧
      (¬ Stopped ctx id body w.guac.db → (∃ e, r = .error e) → w' = w)) w := by
  unfold putUserAccount
  rw [after_bind, after_besideSessions, after_onApp]
  have hadmitted : after (admitUpdate ctx id body) (fun r db' =>
      r = (exec (admitUpdate ctx id body) w.guac.db).1 ∧ db' = w.guac.db ∧
        ∀ actor target, r = .ok (actor, target) → findUserById w.guac.db ctx.now id = some target)
      w.guac.db := ⟨rfl, after_admitUpdate⟩
  refine after_mono hadmitted fun r db' ⟨hr, hdb, hfound⟩ => ?_
  subst hdb
  cases r with
  | error e =>
      refine ⟨fun ⟨actor, target, hok, _⟩ => ?_, fun _ _ => rfl⟩
      cases hr.trans hok
  | ok pair =>
      obtain ⟨actor, target⟩ := pair
      have hfound := hfound actor target rfl
      obtain rfl : target.row.id = id := row_id_of_found hfound
      have hstopped := stopped_iff hr.symm
      dsimp only
      rw [after_bind]
      refine after_mono (after_changeActive hfound) fun r₁ w₁ ⟨hgoes, hrefuses⟩ => ?_
      -- a change of `active` that is refused comes before any effect
      by_cases hallowed : ActiveAllowed ctx w.guac.db actor.row.id target body.active
      swap
      · obtain ⟨⟨e, rfl⟩, rfl⟩ := hrefuses hallowed
        exact ⟨fun h => absurd (hstopped.mp h).1 hallowed, fun _ _ => rfl⟩
      obtain ⟨rfl, rfl⟩ := hgoes hallowed
      dsimp only
      rw [after_bind, after_besideSessions, after_onApp]
      -- once the role has passed, nothing is left that fails
      have hprofile : ¬ Stopped ctx target.row.id body w.guac.db → ∀ w₁,
          after (changeProfile ctx target.row.id body) (fun r w' =>
            (Stopped ctx target.row.id body w.guac.db →
              (∃ e, r = .error e ∧ Refusal e) ∧
                w' = applied deps ctx env target.row.id body.active w) ∧
            (¬ Stopped ctx target.row.id body w.guac.db → (∃ e, r = .error e) → w' = w)) w₁ := by
        refine fun hstop w₁ => after_mono after_changeProfile_ok fun r w' hok => ?_
        subst hok
        exact ⟨fun h => absurd h hstop, fun _ ⟨e, he⟩ => by cases he⟩
      cases hrole : body.role with
      | none =>
          refine hprofile (fun hstop => ?_) _
          obtain ⟨role, hsome, -⟩ := (hstopped.mp hstop).2
          cases hrole.symm.trans hsome
      | some role =>
          -- the guard of the role reads the row as the first part has left it
          obtain ⟨current, hid, hcurrent, hsame⟩ := exists_current deps env actor.row.id
            body.active (some role) hfound
          refine after_mono (after_updateUserRole_refused hid hcurrent) fun r₂ db₂ ⟨hbad, hgood⟩ => ?_
          by_cases hrefused : RoleRefused ctx w.guac.db actor.row.id target (some role)
          · obtain ⟨⟨e, rfl, hstatus⟩, rfl⟩ := hbad (hsame.mpr hrefused)
            refine ⟨fun _ => ⟨⟨e, rfl, hstatus⟩, rfl⟩, fun hnot => absurd ?_ hnot⟩
            exact hstopped.mpr ⟨hallowed, hrole ▸ hrefused⟩
          · obtain rfl := hgood fun h => hrefused (hsame.mp h)
            refine hprofile (fun hstop => hrefused ?_) _
            exact hrole ▸ (hstopped.mp hstop).2

def DeletionStopped (ctx : RequestContext) (id : UserId) (db : Db) : Prop :=
  ∃ target, (exec (admitDelete ctx id) db).1 = .ok target ∧ DeletionRefused ctx db target

theorem after_deleteUserAccount : after (deleteUserAccount deps ctx env id) (fun r w' =>
      (DeletionStopped ctx id w.guac.db → (∃ e, r = .error e ∧ Refusal e) ∧
        w' = { w with guac := (exec (cleanGuacamole deps env id) w.guac).2 }) ∧
      (¬ DeletionStopped ctx id w.guac.db → (∃ e, r = .error e) → w' = w)) w := by
  unfold deleteUserAccount
  rw [after_bind, after_besideSessions, after_onApp]
  have hadmitted : after (admitDelete ctx id) (fun r db' =>
      r = (exec (admitDelete ctx id) w.guac.db).1 ∧ db' = w.guac.db ∧
        ∀ target, r = .ok target → findUserById w.guac.db ctx.now id = some target)
      w.guac.db := ⟨rfl, after_admitDelete⟩
  refine after_mono hadmitted fun r db' ⟨hr, hdb, hfound⟩ => ?_
  subst hdb
  cases r with
  | error e =>
      refine ⟨fun ⟨target, hok, _⟩ => ?_, fun _ _ => rfl⟩
      cases hr.trans hok
  | ok target =>
      have hfound := hfound target rfl
      obtain rfl : target.row.id = id := row_id_of_found hfound
      have hstopped : DeletionStopped ctx target.row.id w.guac.db ↔
          DeletionRefused ctx w.guac.db target := by
        constructor
        · rintro ⟨target', hok, hstops⟩
          cases hr.trans hok
          exact hstops
        · exact fun hstops => ⟨target, hr.symm, hstops⟩
      have hclean : after (cleanGuacamole deps env target.row.id) (fun r g' => r = .ok () ∧
          g' = (exec (cleanGuacamole deps env target.row.id) w.guac).2 ∧ g'.db = w.guac.db) w.guac :=
        ⟨after_cleanGuacamole.1, rfl, after_cleanGuacamole.2.1⟩
      dsimp only
      rw [after_bind, after_besideSessions]
      refine after_mono hclean fun r₁ g₁ ⟨hok, hg₁, hdb⟩ => ?_
      subst hok
      dsimp only
      rw [after_bind, after_besideSessions, after_onApp, hdb]
      refine after_mono (after_deleteGuarded_refused hfound) fun r₂ db₂ ⟨hbad, hgood⟩ => ?_
      by_cases hrefused : DeletionRefused ctx w.guac.db target
      · obtain ⟨⟨e, rfl, hstatus⟩, rfl⟩ := hbad hrefused
        refine ⟨fun _ => ⟨⟨e, rfl, hstatus⟩, ?_⟩, fun hnot => absurd (hstopped.mpr hrefused) hnot⟩
        rw [← hg₁, ← hdb]
      · obtain rfl := hgood hrefused
        exact ⟨fun h => absurd (hstopped.mp h) hrefused, fun _ ⟨e, he⟩ => by cases he⟩

def ActiveSettled (env : GuacContext) (id : UserId) (active : Bool) (w : AccountWorld) : Prop :=
  (∀ user, w.guac.db.users.find? id = some user → user.active = active) ∧
    (active = false → ∀ s ∈ w.sessions, s.userId = id → s.revokedAt ≠ none) ∧
      GuacSettled env id active w.guac

theorem same_revoked_iff {now : Time} :
    (∀ s : UserSession, s.userId = id → (s ∈ (w.revokeAllForUser now id).sessions ↔ s ∈ w.sessions)) ↔
      ∀ s ∈ w.sessions, s.userId = id → s.revokedAt ≠ none := by
  have hmem : ∀ s : UserSession, s ∈ (w.revokeAllForUser now id).sessions ↔ ∃ s₀ ∈ w.sessions,
      s = if decide (s₀.userId = id) && decide (s₀.revokedAt = none) then
        { s₀ with revokedAt := some now } else s₀ := by
    intro s
    rw [AccountWorld.revokeAllForUser, Table.mem_updateWhere]
  constructor
  · intro hsame s hs hid hlive
    have hnew := (hmem { s with revokedAt := some now }).mpr ⟨s, hs, by
      rw [if_pos (Bool.and_eq_true_iff.mpr ⟨decide_eq_true hid, decide_eq_true hlive⟩)]⟩
    have hold : ({ s with revokedAt := some now } : UserSession) = s :=
      Table.eq_of_key_eq ((hsame { s with revokedAt := some now } hid).mp hnew) hs rfl
    have hrevoked : some now = s.revokedAt := congrArg UserSession.revokedAt hold
    rw [hlive] at hrevoked
    cases hrevoked
  · intro hrevoked s hid
    have hkept : ∀ s₀ ∈ w.sessions, (decide (s₀.userId = id) && decide (s₀.revokedAt = none)) = false := by
      intro s₀ hs₀
      refine Bool.eq_false_iff.mpr fun hmatch => ?_
      obtain ⟨hid₀, hlive⟩ := Bool.and_eq_true_iff.mp hmatch
      exact hrevoked s₀ hs₀ (of_decide_eq_true hid₀) (of_decide_eq_true hlive)
    rw [hmem]
    constructor
    · rintro ⟨s₀, hs₀, heq⟩
      rw [hkept s₀ hs₀, if_neg Bool.false_ne_true] at heq
      exact heq ▸ hs₀
    · intro hs
      refine ⟨s, hs, ?_⟩
      rw [hkept s hs, if_neg Bool.false_ne_true]

theorem same_row_iff {db : Db} {active : Bool} :
    (db.setUserActive id active).users.find? id = db.users.find? id ↔
      ∀ user, db.users.find? id = some user → user.active = active := by
  rw [Db.setUserActive, Table.find?_updateWhere]
  cases hfind : db.users.find? id with
  | none => exact iff_of_true rfl fun _ h => by cases h
  | some user =>
      have hid : user.id = id := Table.key_of_find? hfind
      rw [Option.map_some, if_pos (decide_eq_true hid)]
      constructor
      · rintro hsame _ ⟨⟩
        exact (congrArg ProxVM.UserRow.active (Option.some.inj hsame)).symm
      · intro hactive
        rw [← hactive user rfl]

theorem sameAccount_applied_iff {active : Bool} :
    SameAccount id w (applied deps ctx env id (some active) w) ↔ ActiveSettled env id active w := by
  have hframe : after (syncGuacUserDisabled deps env id (some active))
      (fun _ g' => g'.db = w.guac.db.setUserActive id active ∧ g'.guacUsers = w.guac.guacUsers)
      { w.guac with db := w.guac.db.setUserActive id active } :=
    after_mono after_sync_frame fun _ _ h => h.2
  have hsynced : ∀ g : GuacWorld, after (syncGuacUserDisabled deps env id (some active)) (fun _ g' =>
      (∀ record, g.findUserRecord id = some record →
        g'.guac.account record.guacUsername = g.guac.account record.guacUsername) ↔
          GuacSettled env id active g) g := fun g => after_sync_account
  have hguac : (∀ record, w.guac.findUserRecord id = some record →
      (applied deps ctx env id (some active) w).guac.guac.account record.guacUsername =
        w.guac.guac.account record.guacUsername) ↔ GuacSettled env id active w.guac :=
    hsynced { w.guac with db := w.guac.db.setUserActive id active }
  have hsessions : (∀ s : UserSession, s.userId = id →
      (s ∈ (applied deps ctx env id (some active) w).sessions ↔ s ∈ w.sessions)) ↔
        (active = false → ∀ s ∈ w.sessions, s.userId = id → s.revokedAt ≠ none) := by
    cases active with
    | true => exact iff_of_true (fun _ _ => Iff.rfl) fun h => by cases h
    | false => exact same_revoked_iff.trans ⟨fun h _ => h, fun h => h rfl⟩
  unfold ActiveSettled
  rw [← hguac, ← hsessions, ← same_row_iff]
  constructor
  · intro hsame
    refine ⟨?_, hsame.sessions, hsame.account⟩
    have hrow := hsame.row
    rw [applied_db] at hrow
    exact hrow
  · rintro ⟨hrow, hkept, haccount⟩
    refine ⟨?_, fun ur _ => ?_, hkept, ?_, haccount⟩
    · rw [applied_db]
      exact hrow
    · rw [applied_db]
      exact Iff.rfl
    · exact congrArg (fun t => Table.find? t id) hframe.2

theorem sameAccount_cleaned_iff :
    SameAccount id w { w with guac := (exec (cleanGuacamole deps env id) w.guac).2 } ↔
      CleanupSettled env id w.guac := by
  have hclean : after (cleanGuacamole deps env id) (fun _ g' => g'.db = w.guac.db ∧
      ((g'.findUserRecord id = w.guac.findUserRecord id ∧
        ∀ record, w.guac.findUserRecord id = some record →
          g'.guac.account record.guacUsername = w.guac.guac.account record.guacUsername) ↔
            CleanupSettled env id w.guac)) w.guac :=
    after_mono after_cleanGuacamole fun _ _ h => h.2
  obtain ⟨hdb, hsettled⟩ := hclean
  refine Iff.trans ⟨fun hsame => ⟨hsame.record, hsame.account⟩, ?_⟩ hsettled
  rintro ⟨hrecord, haccount⟩
  refine ⟨?_, fun ur _ => ?_, fun _ _ => Iff.rfl, hrecord, haccount⟩
  · exact congrArg (fun db : Db => db.users.find? id) hdb
  · exact iff_of_eq (congrArg (fun db : Db => ur ∈ db.userRoles) hdb)

end parts

section requests

variable {m : AccountProgram Unit} {S : Prop} {id : UserId} {w w₁ : AccountWorld}

def StopsAt (m : AccountProgram Unit) (S : Prop) (w w₁ : AccountWorld) : Prop :=
  after m (fun r w' => (S → (∃ e, r = .error e ∧ Refusal e) ∧ w' = w₁) ∧
    (¬ S → (∃ e, r = .error e) → w' = w)) w

theorem StopsAt.refusal (h : StopsAt m S w w₁) {e : AppError} (hfailed : (exec m w).1 = .error e) :
    Refusal e ∨ (exec m w).2 = w := by
  obtain ⟨hstops, hkeeps⟩ : after m _ w := h
  by_cases hS : S
  · obtain ⟨⟨e', he', hstatus⟩, -⟩ := hstops hS
    obtain rfl := Except.error.inj (he'.symm.trans hfailed)
    exact .inl hstatus
  · exact .inr (hkeeps hS ⟨e, hfailed⟩)

theorem StopsAt.atomic_iff (h : StopsAt m S w w₁) : Atomic m id w ↔ (S → SameAccount id w w₁) := by
  obtain ⟨hstops, hkeeps⟩ : after m _ w := h
  constructor
  · intro hatomic hS
    obtain ⟨⟨e, he, hstatus⟩, hleft⟩ := hstops hS
    have hsame := hatomic e he hstatus
    rw [hleft] at hsame
    exact hsame
  · intro hcondition e he _
    by_cases hS : S
    · rw [(hstops hS).2]
      exact hcondition hS
    · rw [hkeeps hS ⟨e, he⟩]
      exact .refl id w

theorem StopsAt.not_atomic (h : StopsAt m S w w₁) (hfailed : (exec m w).1.isOk = false)
    (hchanged : ¬ SameAccount id w (exec m w).2) : ¬ Atomic m id w := by
  intro hatomic
  cases hend : (exec m w).1 with
  | ok _ =>
      rw [hend] at hfailed
      cases hfailed
  | error e =>
      obtain hstatus | hsame := h.refusal hend
      · exact hchanged (hatomic e hend hstatus)
      · rw [hsame] at hchanged
        exact hchanged (.refl id w)

end requests

/-- **A refused change of a user leaves them as they were** exactly if no role is refused beside a change
of `active` that has an effect, and no deletion of a user whose Guacamole account is there to be
removed. -/
theorem administration_atomic_iff (deps : GuacamoleServiceDeps) (ctx : RequestContext)
    (env : GuacContext) (id : UserId) (w : AccountWorld) :
    (∀ body, Atomic (putUserAccount deps ctx env id body) id w ↔
      (Stopped ctx id body w.guac.db → ∀ active, body.active = some active →
        ActiveSettled env id active w)) ∧ (Atomic (deleteUserAccount deps ctx env id) id w ↔
        (DeletionStopped ctx id w.guac.db → CleanupSettled env id w.guac)) := by
  refine ⟨fun body => ?_, ?_⟩
  · have hstops : StopsAt (putUserAccount deps ctx env id body) (Stopped ctx id body w.guac.db) w
        (applied deps ctx env id body.active w) := after_putUserAccount
    rw [hstops.atomic_iff]
    refine imp_congr_right fun _ => ?_
    cases hactive : body.active with
    | none => exact iff_of_true (.refl id w) fun active h => by cases h
    | some active =>
        rw [sameAccount_applied_iff]
        constructor
        · rintro hsettled _ ⟨⟩
          exact hsettled
        · exact fun h => h active rfl
  · have hstops : StopsAt (deleteUserAccount deps ctx env id) (DeletionStopped ctx id w.guac.db) w
        { w with guac := (exec (cleanGuacamole deps env id) w.guac).2 } := after_deleteUserAccount
    rw [hstops.atomic_iff, sameAccount_cleaned_iff]

/-! ## Refused and applied -/

def leadAccounts : AccountWorld := ⟨leadWorld, Table.empty⟩

def disableAndPromote : UpdateUserBody := ⟨some false, some .admin, none, none, none⟩

/-- `lead`, who may manage users, disables `ann` with a request that is refused.  An administrator
takes the Guacamole account of the initial administrator with a deletion that is refused. -/
theorem refused_but_applied :
    (¬ ∀ (deps : GuacamoleServiceDeps) (ctx : RequestContext) (env : GuacContext) (id : UserId)
      (body : UpdateUserBody) (w : AccountWorld), Atomic (putUserAccount deps ctx env id body) id w) ∧
      ¬ ∀ (deps : GuacamoleServiceDeps) (ctx : RequestContext) (env : GuacContext) (id : UserId)
        (w : AccountWorld), Atomic (deleteUserAccount deps ctx env id) id w := by
  constructor
  · intro hlaw
    refine StopsAt.not_atomic after_putUserAccount ?_ (fun hsame => ?_)
      (hlaw sampleDeps ⟨13, 5, 99⟩ ⟨.ok (), ⟨"drawn", "02", "03"⟩⟩ 12 disableAndPromote leadAccounts)
    · decide +kernel
    · have hrow := hsame.row
      revert hrow
      decide +kernel
  · intro hlaw
    refine StopsAt.not_atomic after_deleteUserAccount ?_ (fun hsame => ?_)
      (hlaw sampleDeps ⟨11, 5, 99⟩ ⟨.ok (), ⟨"drawn", "02", "03"⟩⟩ 10 leadAccounts)
    · decide +kernel
    · have hrecord := hsame.record
      revert hrecord
      decide +kernel

end ProxVM
