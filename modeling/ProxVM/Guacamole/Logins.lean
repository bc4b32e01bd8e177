import ProxVM.Guacamole.Service

/-!
# Who may log in to Guacamole

An account lets its user in unless it is disabled (`Store.mayLogIn`).  Of the methods of the
clients only `setUserDisabled` changes that for an account that exists (`Quiet`), but `createUser`
makes accounts that are not disabled.
-/

namespace ProxVM.Guac

open Tables

/-! ## The store -/

def Store.mayLogIn (s : Store) (name : String) : Bool :=
  (s.account name).users.any fun u => !u.disabled

def Store.Known (s : Store) (name : String) : Prop := s.entitiesNamed name ≠ []

/-- `(type, name)` is unique among the entities. -/
def Store.UniqueNames (s : Store) : Prop := ∀ name, (s.entitiesNamed name).length ≤ 1

structure Quiet (s s' : Store) : Prop where
  unique : s.UniqueNames → s'.UniqueNames
  known : ∀ name, s.Known name → s'.Known name
  mayLogIn : ∀ name, s.Known name → s'.mayLogIn name = true → s.mayLogIn name = true

def Store.roster (s : Store) : List EntityRow × List (ℕ+ × Bool) :=
  (s.entities.rows, s.users.rows.map fun u => (u.entityId, u.disabled))

section quiet

variable {s s' s'' : Store} {name : String}

theorem Quiet.refl (s : Store) : Quiet s s := ⟨id, fun _ h => h, fun _ _ h => h⟩

theorem Quiet.trans (h : Quiet s s') (h' : Quiet s' s'') : Quiet s s'' :=
  ⟨fun hunique => h'.unique (h.unique hunique), fun name hknown => h'.known name (h.known name hknown),
    fun name hknown hlogin => h.mayLogIn name hknown (h'.mayLogIn name (h.known name hknown) hlogin)⟩

theorem mayLogIn_roster : s.mayLogIn name = s.roster.2.any fun u => s.bears name u.1 && !u.2 := by
  simp only [Store.mayLogIn, Store.account, Store.roster, List.any_filter, List.any_map]
  rfl

theorem entitiesNamed_of_roster (hsame : s'.roster = s.roster) (name : String) :
    s'.entitiesNamed name = s.entitiesNamed name := by
  have hrows : s'.entities.rows = s.entities.rows := congrArg Prod.fst hsame
  rw [Store.entitiesNamed, hrows, Store.entitiesNamed]

theorem Quiet.of_roster (hsame : s'.roster = s.roster) : Quiet s s' := by
  have hentities := entitiesNamed_of_roster hsame
  refine ⟨fun hunique name => ?_, fun name hknown => ?_, fun name _ hlogin => ?_⟩
  · rw [hentities]
    exact hunique name
  · rw [Store.Known, hentities]
    exact hknown
  · rw [mayLogIn_roster, hsame] at hlogin
    rw [mayLogIn_roster]
    simpa only [Store.bears, hentities] using hlogin

theorem entitiesNamed_account : (s.account name).entities = s.entitiesNamed name := rfl

theorem mayLogIn_of_account (hsame : s'.account name = s.account name) :
    s'.mayLogIn name = s.mayLogIn name := by
  rw [Store.mayLogIn, hsame, Store.mayLogIn]

/-! ## The methods -/

theorem roster_insertIgnoreConnectionPermission (connectionId entityId : Option ℕ+) :
    KeepsView Store.roster (insertIgnoreConnectionPermission connectionId entityId) := by
  match connectionId, entityId with
  | some _, some _ => exact keepsView_modify fun _ => rfl
  | some _, none => exact keepsView_pure ()
  | none, _ => exact keepsView_pure ()

theorem roster_insertIgnoreConnectionGroupPermission (connectionGroupId entityId : Option ℕ+) :
    KeepsView Store.roster (insertIgnoreConnectionGroupPermission connectionGroupId entityId) := by
  match connectionGroupId, entityId with
  | some _, some _ => exact keepsView_modify fun _ => rfl
  | some _, none => exact keepsView_pure ()
  | none, _ => exact keepsView_pure ()

theorem roster_setUserPassword (sha256 : String → String) (username password salt : String) :
    KeepsView Store.roster (GuacamolePostgresClient.setUserPassword sha256 username password salt) := by
  refine keepsView_bind (keepsView_selectEntityId username) fun entityId =>
    keepsView_modify fun s => ?_
  simp only [Store.roster, Table.updateWhere, List.map_map]
  refine congrArg _ (List.map_congr_left fun u _ => ?_)
  simp only [Function.comp_apply]
  split
  · rfl
  · rfl

theorem roster_revokeConnectionAccess (connectionName username : String) : KeepsView Store.roster
      (GuacamolePostgresClient.revokeConnectionAccess connectionName username) :=
  keepsView_bind (keepsView_bind (keepsView_select _) fun _ => keepsView_scalar _) fun _ =>
    keepsView_bind (keepsView_selectEntityId username) fun _ => keepsView_modify fun _ => rfl

theorem roster_grantConnectionRead (connectionName username : String) : KeepsView Store.roster
      (GuacamoleMySqlClient.grantConnectionRead connectionName username) :=
  keepsView_bind (keepsView_select _) fun _ => keepsView_bind (keepsView_select _) fun _ =>
    roster_insertIgnoreConnectionPermission _ _

theorem roster_grantRootGroupRead (username : String) :
    KeepsView Store.roster (GuacamoleMySqlClient.grantRootGroupRead username) :=
  keepsView_bind (keepsView_select _) fun _ => keepsView_bind (keepsView_select _) fun _ =>
    roster_insertIgnoreConnectionGroupPermission _ _

theorem quiet_insert {username : String} {password : PasswordHash} {f : ℕ+ → Sql Nat}
    (hf : ∀ id, KeepsView Store.roster (f id)) (hkeeps : ∀ id name, Keeps name (f id))
    (hnone : s.entitiesNamed username = []) {r : Nat × Store}
    (hrun : (insertEntity username >>= fun entityId => insertUser entityId password >>= f) s =
      some r) : Quiet s r.2 ∧ r.2.Known username := by
  have hothers : ∀ name, username ≠ name → r.2.account name = s.account name := fun name hne =>
    keeps_insert hne password (fun id => hkeeps id name) s r hrun
  have hone : ∃ e, r.2.entitiesNamed username = [e] := by
    rw [bind_apply] at hrun
    obtain ⟨⟨entityId, s₁⟩, hentity, hrun⟩ := Option.bind_eq_some_iff.mp hrun
    rw [bind_apply] at hrun
    obtain ⟨⟨userId, s₂⟩, huser, hrun⟩ := Option.bind_eq_some_iff.mp hrun
    refine ⟨⟨entityId, username, .user⟩, ?_⟩
    have hlast : r.2.entitiesNamed username = s₂.entitiesNamed username :=
      entitiesNamed_of_roster (hf userId s₂ r hrun) username
    rw [hlast, ← (insertEntity_eq_some hentity).1]
    unfold insertUser at huser
    split at huser
    · obtain ⟨users, -, heq⟩ := Option.map_eq_some_iff.mp huser
      cases heq
      rfl
    · cases huser
  obtain ⟨e, he⟩ := hone
  have hknown : r.2.Known username := by
    rw [Store.Known, he]
    exact List.cons_ne_nil e []
  refine ⟨⟨fun hunique name => ?_, fun name hname => ?_, fun name hname hlogin => ?_⟩, hknown⟩
  · by_cases hne : username = name
    · rw [← hne, he]
      exact Nat.le_refl 1
    · rw [← entitiesNamed_account, hothers name hne]
      exact hunique name
  · have hne : username ≠ name := fun heq => hname (heq ▸ hnone)
    rw [Store.Known, ← entitiesNamed_account, hothers name hne]
    exact hname
  · have hne : username ≠ name := fun heq => hname (heq ▸ hnone)
    rwa [mayLogIn_of_account (hothers name hne)] at hlogin

theorem selectEntityId_unique (hunique : s.UniqueNames) (username : String) :
    ∃ id, selectEntityId username s = some (id, s) ∧ ∀ i, s.bears username i = true → some i = id := by
  have hone := hunique username
  refine ⟨((s.entitiesNamed username).map EntityRow.entityId).head?, ?_, fun i hi => ?_⟩
  · rw [selectEntityId, bind_apply, select, Option.bind_some]
    rcases hnamed : s.entitiesNamed username with _ | ⟨e, _ | ⟨e', rest⟩⟩
    · rfl
    · rfl
    · rw [hnamed, List.length_cons, List.length_cons] at hone
      omega
  · rcases hnamed : s.entitiesNamed username with _ | ⟨e, _ | ⟨e', rest⟩⟩
    · rw [Store.bears, hnamed] at hi
      cases hi
    · rw [Store.bears, hnamed, List.any_cons, List.any_nil, Bool.or_false] at hi
      rw [← of_decide_eq_true hi]
      rfl
    · rw [hnamed, List.length_cons, List.length_cons] at hone
      omega

theorem setUserDisabled_sets (hunique : s.UniqueNames) (username : String) (disabled : Bool) :
    ∃ r, GuacamolePostgresClient.setUserDisabled username disabled s = some r ∧
      r.2.entities = s.entities ∧ (r.2.mayLogIn username = true → disabled = false) := by
  obtain ⟨id, hselect, hid⟩ := selectEntityId_unique hunique username
  rw [GuacamolePostgresClient.setUserDisabled, bind_apply, hselect, Option.bind_some]
  refine ⟨_, rfl, rfl, fun hlogin => ?_⟩
  rw [mayLogIn_roster, List.any_eq_true] at hlogin
  obtain ⟨flag, hflag, hlogin⟩ := hlogin
  obtain ⟨u, hu, rfl⟩ := List.mem_map.mp hflag
  obtain ⟨u₀, -, rfl⟩ : ∃ u₀ ∈ s.users.rows,
      (if decide (some u₀.entityId = id) then { u₀ with disabled } else u₀) = u :=
    List.mem_map.mp hu
  rw [Bool.and_eq_true, Bool.not_eq_true'] at hlogin
  obtain ⟨hbears, henabled⟩ := hlogin
  split at henabled
  · exact henabled
  · rename_i hother
    rw [if_neg hother] at hbears
    exact absurd (decide_eq_true (hid u₀.entityId hbears)) hother

end quiet

/-- Of the methods on a user name, `createUser` never enables an account that exists, and
`setUserDisabled` sets the flag. -/
structure Steady (client : GuacamoleDbClient) : Prop where
  createUser : ∀ {username password salt : String} {s : Store} {r : Nat × Store},
    client.createUser username password salt s = some r → Quiet s r.2 ∧ r.2.Known username
  setUserPassword : ∀ username password salt,
    KeepsView Store.roster (client.setUserPassword username password salt)
  setUserDisabled : ∀ {s : Store}, s.UniqueNames → ∀ username disabled,
    ∃ r, client.setUserDisabled username disabled s = some r ∧ r.2.entities = s.entities ∧
      (r.2.mayLogIn username = true → disabled = false)
  grantRootGroupRead : ∀ username, KeepsView Store.roster (client.grantRootGroupRead username)
  grantConnectionRead : ∀ connectionName username,
    KeepsView Store.roster (client.grantConnectionRead connectionName username)
  revokeConnectionAccess : ∀ connectionName username,
    KeepsView Store.roster (client.revokeConnectionAccess connectionName username)

section steady

variable {sha256 : String → String}

theorem known_of_usersNamed {s : Store} {username : String} {row : ℕ+ × Option ℕ+}
    {rest : List (ℕ+ × Option ℕ+)} (hexisting : s.usersNamed username = row :: rest) : s.Known username := by
  intro hnone
  rw [Store.usersNamed, hnone] at hexisting
  cases hexisting

theorem entitiesNamed_of_usersNamed {s : Store} {username : String}
    (hexisting : s.usersNamed username = []) : s.entitiesNamed username = [] :=
  List.map_eq_nil_iff.mp hexisting

theorem postgresClient_steady : Steady (postgresClient sha256) where
  createUser {username password salt s r} hrun := by
    change GuacamolePostgresClient.createUser sha256 username password salt s = some r at hrun
    rw [GuacamolePostgresClient.createUser, bind_apply, select, Option.bind_some] at hrun
    cases hexisting : s.usersNamed username with
    | cons row rest =>
        rw [hexisting] at hrun
        cases hrun
        exact ⟨Quiet.refl s, known_of_usersNamed hexisting⟩
    | nil =>
        rw [hexisting] at hrun
        exact quiet_insert (fun _ => keepsView_pure _) (fun _ _ => keepsView_pure _)
          (entitiesNamed_of_usersNamed hexisting) hrun
  setUserPassword username password salt := roster_setUserPassword sha256 username password salt
  setUserDisabled hunique username disabled := setUserDisabled_sets hunique username disabled
  grantRootGroupRead username := fun s r hrun =>
    roster_grantRootGroupRead username s r (grantRootGroupRead_agree hrun)
  grantConnectionRead connectionName username := fun s r hrun =>
    roster_grantConnectionRead connectionName username s r (grantConnectionRead_agree hrun)
  revokeConnectionAccess connectionName username :=
    roster_revokeConnectionAccess connectionName username

theorem mySqlClient_steady : Steady (mySqlClient sha256) where
  createUser {username password salt s r} hrun := by
    change GuacamoleMySqlClient.createUser sha256 username password salt s = some r at hrun
    rw [GuacamoleMySqlClient.createUser, bind_apply, select, Option.bind_some] at hrun
    rcases hexisting : s.usersNamed username with _ | ⟨⟨entityId, _ | userId⟩, rest⟩
    · rw [hexisting] at hrun
      exact quiet_insert
        (fun _ => keepsView_bind (keepsView_select _) fun _ => keepsView_pure _)
        (fun _ _ => keepsView_bind (keepsView_select _) fun _ => keepsView_pure _)
        (entitiesNamed_of_usersNamed hexisting) hrun
    · rw [hexisting] at hrun
      have hsame : r.2.roster = s.roster := keepsView_bind
        (roster_setUserPassword sha256 username password salt)
        (fun _ => keepsView_bind (keepsView_select _) fun _ => keepsView_pure _) s r hrun
      exact ⟨Quiet.of_roster hsame,
        (Quiet.of_roster hsame).known username (known_of_usersNamed hexisting)⟩
    · rw [hexisting] at hrun
      cases hrun
      exact ⟨Quiet.refl s, known_of_usersNamed hexisting⟩
  setUserPassword username password salt := roster_setUserPassword sha256 username password salt
  setUserDisabled hunique username disabled := setUserDisabled_sets hunique username disabled
  grantRootGroupRead := roster_grantRootGroupRead
  grantConnectionRead := roster_grantConnectionRead
  revokeConnectionAccess := roster_revokeConnectionAccess

end steady

end ProxVM.Guac

namespace ProxVM

open Tables Fallible Guac

/-! ## The functions of the service -/

structure NoneMade (w w' : GuacWorld) : Prop where
  db : w'.db = w.db
  quiet : Quiet w.guac w'.guac
  kept : ∀ r₀ ∈ w.guacUsers,
    ∃ r ∈ w'.guacUsers, r.userId = r₀.userId ∧ r.guacUsername = r₀.guacUsername
  records : ∀ r ∈ w'.guacUsers,
    ∃ r₀ ∈ w.guacUsers, r₀.userId = r.userId ∧ r₀.guacUsername = r.guacUsername

structure AccountSettled (userId : UserId) (account : String) (w w' : GuacWorld) : Prop where
  db : w'.db = w.db
  quiet : Quiet w.guac w'.guac
  kept : ∀ r₀ ∈ w.guacUsers, r₀.userId ≠ userId →
    ∃ r ∈ w'.guacUsers, r.userId = r₀.userId ∧ r.guacUsername = r₀.guacUsername
  records : ∀ r ∈ w'.guacUsers,
    (∃ r₀ ∈ w.guacUsers, r₀.userId = r.userId ∧ r₀.guacUsername = r.guacUsername) ∨
      (r.userId = userId ∧ r.guacUsername = account ∧ w'.guac.Known account ∧
        ∀ r₀ ∈ w.guacUsers, r₀.guacUsername = account → r₀.userId = userId)

section settles

variable {deps : GuacamoleServiceDeps} {userId : UserId} {account : String} {w w' w'' : GuacWorld}

theorem NoneMade.of_quiet (hdb : w'.db = w.db) (hrecords : w'.guacUsers = w.guacUsers)
    (hquiet : Quiet w.guac w'.guac) : NoneMade w w' :=
  ⟨hdb, hquiet, fun r₀ hr₀ => ⟨r₀, hrecords ▸ hr₀, rfl, rfl⟩,
    fun r hr => ⟨r, hrecords ▸ hr, rfl, rfl⟩⟩

theorem NoneMade.refl (w : GuacWorld) : NoneMade w w := .of_quiet rfl rfl (Quiet.refl w.guac)

theorem NoneMade.trans (h : NoneMade w w') (h' : NoneMade w' w'') : NoneMade w w'' := by
  refine ⟨h'.db.trans h.db, h.quiet.trans h'.quiet, fun r₀ hr₀ => ?_, fun r hr => ?_⟩
  · obtain ⟨r₁, hr₁, hid, hname⟩ := h.kept r₀ hr₀
    obtain ⟨r₂, hr₂, hid', hname'⟩ := h'.kept r₁ hr₁
    exact ⟨r₂, hr₂, hid'.trans hid, hname'.trans hname⟩
  · obtain ⟨r₁, hr₁, hid, hname⟩ := h'.records r hr
    obtain ⟨r₀, hr₀, hid', hname'⟩ := h.records r₁ hr₁
    exact ⟨r₀, hr₀, hid'.trans hid, hname'.trans hname⟩

theorem NoneMade.settles (h : NoneMade w w') : AccountSettled userId account w w' :=
  ⟨h.db, h.quiet, fun r₀ hr₀ _ => h.kept r₀ hr₀, fun r hr => .inl (h.records r hr)⟩

theorem AccountSettled.refl (w : GuacWorld) : AccountSettled userId account w w := (NoneMade.refl w).settles

theorem AccountSettled.trans (h : AccountSettled userId account w w') (h' : AccountSettled userId account w' w'') :
    AccountSettled userId account w w'' := by
  refine ⟨h'.db.trans h.db, h.quiet.trans h'.quiet, fun r₀ hr₀ hne => ?_, fun r hr => ?_⟩
  · obtain ⟨r₁, hr₁, hid, hname⟩ := h.kept r₀ hr₀ hne
    obtain ⟨r₂, hr₂, hid', hname'⟩ := h'.kept r₁ hr₁ (hid ▸ hne)
    exact ⟨r₂, hr₂, hid'.trans hid, hname'.trans hname⟩
  · rcases h'.records r hr with ⟨r₁, hr₁, hid, hname⟩ | ⟨hid, hname, hknown, hfree⟩
    · rcases h.records r₁ hr₁ with ⟨r₀, hr₀, hid₀, hname₀⟩ | ⟨hid₁, hname₁, hknown, hfree⟩
      · exact .inl ⟨r₀, hr₀, hid₀.trans hid, hname₀.trans hname⟩
      · exact .inr ⟨hid ▸ hid₁, hname ▸ hname₁, h'.quiet.known account hknown, hfree⟩
    · refine .inr ⟨hid, hname, hknown, fun r₀ hr₀ hname₀ => ?_⟩
      by_contra hne
      obtain ⟨r₁, hr₁, hid₁, hname₁⟩ := h.kept r₀ hr₀ hne
      exact hne (hid₁.symm.trans (hfree r₁ hr₁ (hname₁.trans hname₀)))

theorem after_sql_roster {α : Type} {m : Sql α} (hm : KeepsView Store.roster m)
    {Q : Except AppError α → GuacWorld → Prop} (hQ : ∀ r w', NoneMade w w' → Q r w') : after (sql m) Q w := by
  rw [after_sql]
  constructor
  · intro a guac hrun
    exact hQ _ _ (.of_quiet rfl rfl (.of_roster (hm w.guac (a, guac) hrun)))
  · intro _
    exact hQ _ w (NoneMade.refl w)

theorem GuacamoleServiceDeps.guacDb_steady (deps : GuacamoleServiceDeps) : Steady deps.guacDb := by
  unfold guacDb
  split
  · exact postgresClient_steady
  · exact mySqlClient_steady
  · exact mySqlClient_steady

theorem GuacWorld.upsertGuacUser_settles {ciphertext : String} (hknown : w.guac.Known account)
    (hput : w.upsertGuacUser userId account ciphertext = some w') : AccountSettled userId account w w' := by
  unfold GuacWorld.upsertGuacUser at hput
  split at hput
  · rename_i hfree
    cases hput
    simp only [Bool.and_eq_true, Bool.not_eq_true', List.any_eq_false, decide_eq_true_eq,
      not_and] at hfree
    refine ⟨rfl, Quiet.refl w.guac, fun r₀ hr₀ hne => ⟨r₀, Table.mem_put.mpr (.inr ⟨hr₀, hne⟩), rfl,
      rfl⟩, fun r hr => ?_⟩
    rcases Table.mem_put.mp hr with rfl | ⟨hr, -⟩
    · refine .inr ⟨rfl, rfl, hknown, fun r₀ hr₀ hname => ?_⟩
      by_contra hne
      exact hfree.2 r₀ hr₀ hne hname
    · exact .inl ⟨r, hr, rfl, rfl⟩
  · cases hput

theorem GuacWorld.updateGuacUser_noneMade (ciphertext : String) (enabled : Bool) :
    NoneMade w (w.updateGuacUser userId ciphertext enabled) := by
  have hsame : ∀ r₀ : GuacamoleUserRow, ∀ r, r = (if decide (r₀.userId = userId) then
      { r₀ with
        passwordCiphertext := ciphertext
        keyId := keyIdOf ciphertext
        directLoginEnabled := enabled } else r₀) →
      r.userId = r₀.userId ∧ r.guacUsername = r₀.guacUsername := by
    rintro r₀ _ rfl
    split
    · exact ⟨rfl, rfl⟩
    · exact ⟨rfl, rfl⟩
  refine ⟨rfl, Quiet.refl w.guac, fun r₀ hr₀ => ?_, fun r hr => ?_⟩
  · refine ⟨_, ?_, hsame r₀ _ rfl⟩
    simp only [GuacWorld.updateGuacUser, Table.mem_updateWhere]
    exact ⟨r₀, hr₀, rfl⟩
  · simp only [GuacWorld.updateGuacUser, Table.mem_updateWhere] at hr
    obtain ⟨r₀, hr₀, hr⟩ := hr
    obtain ⟨hid, hname⟩ := hsame r₀ r hr
    exact ⟨r₀, hr₀, hid.symm, hname.symm⟩

theorem ensureGuacUser_settles (draw : Draw) (appUsername : String) :
    after (deps.ensureGuacUser draw userId appUsername)
      (fun _ w' => AccountSettled userId (guacUsernameOf appUsername) w w') w := by
  have hrest : ∀ password, after (do
      let _ ← sql (deps.guacDb.createUser (guacUsernameOf appUsername) password draw.createSalt)
      sql (deps.guacDb.setUserPassword (guacUsernameOf appUsername) password draw.setSalt)
      sql (deps.guacDb.grantRootGroupRead (guacUsernameOf appUsername))
      tryWrite
        (fun w => w.upsertGuacUser userId (guacUsernameOf appUsername) (deps.encrypt password))
        (AppError.database "duplicate key value violates unique constraint")
      let row ← query fun w => w.findUserRecord userId
      orFail row (AppError.database "no row returned") : GuacProgram GuacamoleUserRow)
      (fun _ w' => AccountSettled userId (guacUsernameOf appUsername) w w') w := by
    intro password
    rw [after_bind, after_sql]
    refine ⟨fun id guac hrun => ?_, fun _ => AccountSettled.refl w⟩
    obtain ⟨hquiet, hknown⟩ := deps.guacDb_steady.createUser hrun
    have h₁ : NoneMade w { w with guac } := .of_quiet rfl rfl hquiet
    rw [after_bind]
    refine after_sql_roster (deps.guacDb_steady.setUserPassword _ _ _) fun r w₂ h₂ => ?_
    cases r with
    | error e => exact (h₁.trans h₂).settles
    | ok _ =>
        rw [after_bind]
        refine after_sql_roster (deps.guacDb_steady.grantRootGroupRead _) fun r w₃ h₃ => ?_
        have h := h₁.trans (h₂.trans h₃)
        cases r with
        | error e => exact h.settles
        | ok _ =>
            simp only [after_bind, after_tryWrite, after_query, after_orFail]
            refine ⟨fun w₄ hput => ?_, fun _ => h.settles⟩
            have hthere := h₃.quiet.known _ (h₂.quiet.known _ hknown)
            have h₄ := h.settles.trans (GuacWorld.upsertGuacUser_settles hthere hput)
            exact ⟨fun _ _ => h₄, fun _ => h₄⟩
  simp only [GuacamoleServiceDeps.ensureGuacUser, after_bind, after_query]
  cases hexisting : w.findUserRecord userId with
  | none => exact hrest draw.password
  | some row =>
      rw [after_bind, after_orFail]
      exact ⟨fun password _ => hrest password, fun _ => AccountSettled.refl w⟩

theorem setGuacDirectLoginPassword_settles (draw : Draw) (appUsername newPassword : String) :
    after (deps.setGuacDirectLoginPassword draw userId appUsername newPassword)
      (fun _ w' => AccountSettled userId (guacUsernameOf appUsername) w w') w := by
  have hset : ∀ (record : GuacamoleUserRow) w₁, AccountSettled userId (guacUsernameOf appUsername) w w₁ →
      after (do
        sql (deps.guacDb.setUserPassword record.guacUsername newPassword draw.setSalt)
        write fun w => w.updateGuacUser userId (deps.encrypt newPassword) true : GuacProgram Unit)
          (fun _ w' => AccountSettled userId (guacUsernameOf appUsername) w w') w₁ := by
    intro record w₁ h₁
    rw [after_bind]
    refine after_sql_roster (deps.guacDb_steady.setUserPassword _ _ _) fun r w₂ h₂ => ?_
    cases r with
    | error e => exact h₁.trans h₂.settles
    | ok _ => exact h₁.trans (h₂.trans (GuacWorld.updateGuacUser_noneMade _ _)).settles
  simp only [GuacamoleServiceDeps.setGuacDirectLoginPassword, after_bind, after_ensure, after_query]
  refine ⟨fun _ => ?_, fun _ => AccountSettled.refl w⟩
  cases hfound : w.findUserRecord userId with
  | some record => exact hset record w (AccountSettled.refl w)
  | none =>
      rw [after_bind]
      refine after_mono (ensureGuacUser_settles draw appUsername) fun r w₁ h₁ => ?_
      cases r with
      | error e => exact h₁
      | ok record => exact hset record w₁ h₁

theorem disableGuacDirectLogin_noneMade (draw : Draw) :
    after (deps.disableGuacDirectLogin draw userId) (fun _ w' => NoneMade w w') w := by
  simp only [GuacamoleServiceDeps.disableGuacDirectLogin, after_bind, after_query]
  cases hfound : w.findUserRecord userId with
  | none => exact NoneMade.refl w
  | some record =>
      rw [after_bind]
      refine after_sql_roster (deps.guacDb_steady.setUserPassword _ _ _) fun r w₁ h₁ => ?_
      cases r with
      | error e => exact h₁
      | ok _ => exact h₁.trans (GuacWorld.updateGuacUser_noneMade _ _)

theorem forConnections_noneMade {f : String → Sql Unit} {connections : List VmConnectionRow}
    (hf : ∀ connectionName, KeepsView Store.roster (f connectionName)) :
    after (forM connections fun c => sql (f c.guacConnectionName) : GuacProgram PUnit)
      (fun _ w' => NoneMade w w') w := by
  refine after_forM (fun c _ w₁ h₁ => ?_) (NoneMade.refl w)
  exact after_sql_roster (hf c.guacConnectionName) fun _ _ h₂ => h₁.trans h₂

theorem grantVmAccess_noneMade (vmId : VmId) :
    after (deps.grantVmAccess vmId userId) (fun _ w' => NoneMade w w') w := by
  simp only [GuacamoleServiceDeps.grantVmAccess, after_bind, after_query]
  cases hfound : w.findUserRecord userId with
  | none => exact NoneMade.refl w
  | some record =>
      exact forConnections_noneMade fun connectionName =>
        deps.guacDb_steady.grantConnectionRead connectionName record.guacUsername

theorem revokeVmAccess_noneMade (vmId : VmId) :
    after (deps.revokeVmAccess vmId userId) (fun _ w' => NoneMade w w') w := by
  simp only [GuacamoleServiceDeps.revokeVmAccess, after_bind, after_query]
  cases hfound : w.findUserRecord userId with
  | none => exact NoneMade.refl w
  | some record =>
      exact forConnections_noneMade fun connectionName =>
        deps.guacDb_steady.revokeConnectionAccess connectionName record.guacUsername

end settles

end ProxVM
