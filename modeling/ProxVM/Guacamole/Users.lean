import ProxVM.Db.Seeds
import ProxVM.Guacamole.Service

/-!
# One Guacamole account per user

`guacUsernameOf` keeps the first 40 characters of a user name, of which the schema admits up
to 64.  The result is `distinct_accounts`.
-/

namespace ProxVM

open Tables Fallible Guac

/-! ## Calls -/

inductive AccountEvent
  | createUser (row : UserRow)
  | deleteUser (userId : UserId)
  | ensureGuacUser (draw : Draw) (userId : UserId)
  | setGuacDirectLoginPassword (draw : Draw) (userId : UserId) (newPassword : String)
  | disableGuacDirectLogin (draw : Draw) (userId : UserId)
  | grantVmAccess (vmId : VmId) (userId : UserId)
  | revokeVmAccess (vmId : VmId) (userId : UserId)
  | setGuacUserDisabled (userId : UserId) (disabled : Bool)
  | removeUserResources (userId : UserId)

namespace AccountEvent

def subject : AccountEvent → UserId
  | .createUser row => row.id
  | .deleteUser userId => userId
  | .ensureGuacUser _ userId => userId
  | .setGuacDirectLoginPassword _ userId _ => userId
  | .disableGuacDirectLogin _ userId => userId
  | .grantVmAccess _ userId => userId
  | .revokeVmAccess _ userId => userId
  | .setGuacUserDisabled userId _ => userId
  | .removeUserResources userId => userId

/-- What the call leaves.  One that fails keeps what it wrote before.  The callers of the
service look the user up first. -/
def run (deps : GuacamoleServiceDeps) : AccountEvent → GuacWorld → GuacWorld
  | .createUser row, w =>
    if validUsername row.username then
      match w.db.insertUser row with
      | some db => { w with db }
      | none => w
    else
      w
  | .deleteUser userId, w => w.deleteUser userId
  | .ensureGuacUser draw userId, w =>
    match w.db.users.find? userId with
    | some user => (exec (deps.ensureGuacUser draw user.id user.username) w).2
    | none => w
  | .setGuacDirectLoginPassword draw userId newPassword, w =>
    match w.db.users.find? userId with
    | some user =>
        (exec (deps.setGuacDirectLoginPassword draw user.id user.username newPassword) w).2
    | none => w
  | .disableGuacDirectLogin draw userId, w => (exec (deps.disableGuacDirectLogin draw userId) w).2
  | .grantVmAccess vmId userId, w => (exec (deps.grantVmAccess vmId userId) w).2
  | .revokeVmAccess vmId userId, w => (exec (deps.revokeVmAccess vmId userId) w).2
  | .setGuacUserDisabled userId disabled, w => (exec (deps.setGuacUserDisabled userId disabled) w).2
  | .removeUserResources userId, w => (exec (deps.removeUserResources userId) w).2

def Fresh : AccountEvent → GuacWorld → Prop
  | .createUser row, w => ∀ u ∈ w.db.users, u.username.toList.take 40 ≠ row.username.toList.take 40
  | _, _ => True

end AccountEvent

def runAccounts (deps : GuacamoleServiceDeps) : List AccountEvent → GuacWorld → GuacWorld
  | [], w => w
  | event :: events, w => runAccounts deps events (event.run deps w)

def AllFresh (deps : GuacamoleServiceDeps) : List AccountEvent → GuacWorld → Prop
  | [], _ => True
  | event :: events, w => event.Fresh w ∧ AllFresh deps events (event.run deps w)

/-! ## User names -/

theorem flatMap_guacSafe (cs : List Char) (hsafe : ∀ c ∈ cs, guacSafe c = true) : (cs.flatMap fun c =>
      if guacSafe c then [c] else if c.toNat ≤ 0xFFFF then ['_'] else ['_', '_']) = cs := by
  induction cs with
  | nil => rfl
  | cons c rest ih =>
      rw [List.flatMap_cons, if_pos (hsafe c List.mem_cons_self),
        ih fun d hd => hsafe d (List.mem_cons_of_mem c hd)]
      rfl

theorem sanitized_of_valid {username : String} (hvalid : validUsername username = true) :
    sanitized username = username.toList := by
  simp only [validUsername, Bool.and_eq_true, List.all_eq_true, Bool.or_eq_true] at hvalid
  refine flatMap_guacSafe username.toList fun c hc => ?_
  have hadmitted := hvalid.2 c hc
  simp only [guacSafe, Bool.or_eq_true]
  tauto

/-- **Two admitted names map to one account exactly when their first 40 characters agree.** -/
theorem guacUsernameOf_eq_iff {username username' : String} (hvalid : validUsername username = true)
    (hvalid' : validUsername username' = true) : guacUsernameOf username = guacUsernameOf username' ↔
      username.toList.take 40 = username'.toList.take 40 := by
  rw [guacUsernameOf, guacUsernameOf, sanitized_of_valid hvalid, sanitized_of_valid hvalid']
  constructor
  · intro heq
    have hlists := congrArg String.toList heq
    rw [String.toList_append, String.toList_append] at hlists
    have htails := List.append_cancel_left hlists
    rwa [String.toList_ofList, String.toList_ofList] at htails
  · intro heq
    rw [heq]

/-! ## The invariant -/

def DistinctAccounts (w : GuacWorld) : Prop :=
  ∀ u ∈ w.db.users, ∀ v ∈ w.db.users, u.id ≠ v.id →
    guacUsernameOf u.username ≠ guacUsernameOf v.username

def Isolated (deps : GuacamoleServiceDeps) (w : GuacWorld) : Prop :=
  ∀ event : AccountEvent, ∀ v ∈ w.db.users, v.id ≠ event.subject →
    (event.run deps w).guac.account (guacUsernameOf v.username) =
      w.guac.account (guacUsernameOf v.username)

structure Owned (w : GuacWorld) : Prop where
  valid : ∀ u ∈ w.db.users, validUsername u.username = true
  distinct : DistinctAccounts w
  records : ∀ r ∈ w.guacUsers, ∃ u ∈ w.db.users, u.id = r.userId ∧
    r.guacUsername = guacUsernameOf u.username

section invariant

variable {deps : GuacamoleServiceDeps} {w w' : GuacWorld}

theorem Owned.recorded (howned : Owned w) {user : UserRow} (huser : user ∈ w.db.users) :
    w.Recorded user.id (guacUsernameOf user.username) := by
  intro record hrecord
  obtain ⟨u, hu, hid, hname⟩ := howned.records record (Table.mem_of_find? hrecord)
  have hsame : u = user :=
    Table.eq_of_key_eq hu huser (hid.trans (Table.key_of_find? hrecord))
  rw [hname, hsame]

theorem Owned.of_within (howned : Owned w) {user : UserRow} (huser : user ∈ w.db.users)
    (h : Within user.id (guacUsernameOf user.username) w w') : Owned w' := by
  refine ⟨h.db ▸ howned.valid, ?_, fun r hr => ?_⟩
  · intro u hu v hv hne
    rw [h.db] at hu hv
    exact howned.distinct u hu v hv hne
  · rw [h.db]
    rcases h.records r hr with ⟨hid, hname⟩ | ⟨r₀, hr₀, hid, hname⟩
    · exact ⟨user, huser, hid.symm, hname⟩
    · obtain ⟨u, hu, huid, huname⟩ := howned.records r₀ hr₀
      exact ⟨u, hu, huid.trans hid, hname.symm.trans huname⟩

theorem findUserRecord_of_none (howned : Owned w) {userId : UserId}
    (hnone : w.db.users.find? userId = none) : w.findUserRecord userId = none := by
  cases hfound : w.findUserRecord userId with
  | none => rfl
  | some record =>
      obtain ⟨u, hu, hid, -⟩ := howned.records record (Table.mem_of_find? hfound)
      have hne := Table.find?_eq_none_iff.mp hnone u hu
      exact absurd (hid.trans (Table.key_of_find? hfound)) hne

theorem run_cases (deps : GuacamoleServiceDeps) (howned : Owned w) (event : AccountEvent) :
    event.run deps w = w ∨ (∃ user ∈ w.db.users, user.id = event.subject ∧
        Within user.id (guacUsernameOf user.username) w (event.run deps w)) ∨
      (∃ row db, event = .createUser row ∧ validUsername row.username = true ∧
        w.db.insertUser row = some db ∧ event.run deps w = { w with db }) ∨
      (∃ userId, event = .deleteUser userId ∧ event.run deps w = w.deleteUser userId) := by
  -- The calls that only look at the record of the user they are for.
  have hrecord : ∀ {α : Type} (m : GuacProgram α) (userId : UserId),
      (∀ user ∈ w.db.users, user.id = userId → after m (fun _ w' =>
        Within userId (guacUsernameOf user.username) w w') w) →
      (w.findUserRecord userId = none → after m (fun _ w' => w' = w) w) →
      (exec m w).2 = w ∨ ∃ user ∈ w.db.users, user.id = userId ∧
        Within user.id (guacUsernameOf user.username) w (exec m w).2 := by
    intro α m userId hwithin hnone
    cases hfind : w.db.users.find? userId with
    | none => exact .inl (hnone (findUserRecord_of_none howned hfind))
    | some user =>
        obtain rfl := Table.key_of_find? hfind
        have hmem := Table.mem_of_find? hfind
        exact .inr ⟨user, hmem, rfl, hwithin user hmem rfl⟩
  cases event with
  | createUser row =>
      simp only [AccountEvent.run]
      split
      · rename_i hvalid
        cases hins : w.db.insertUser row with
        | none => exact .inl rfl
        | some db => exact .inr (.inr (.inl ⟨row, db, rfl, hvalid, hins, rfl⟩))
      · exact .inl rfl
  | deleteUser userId => exact .inr (.inr (.inr ⟨userId, rfl, rfl⟩))
  | ensureGuacUser draw userId =>
      simp only [AccountEvent.run]
      cases hfind : w.db.users.find? userId with
      | none => exact .inl rfl
      | some user =>
          exact .inr (.inl ⟨user, Table.mem_of_find? hfind, Table.key_of_find? hfind,
            (after_ensureGuacUser draw user.username).1⟩)
  | setGuacDirectLoginPassword draw userId newPassword =>
      simp only [AccountEvent.run]
      cases hfind : w.db.users.find? userId with
      | none => exact .inl rfl
      | some user =>
          have hmem := Table.mem_of_find? hfind
          exact .inr (.inl ⟨user, hmem, Table.key_of_find? hfind,
            after_setGuacDirectLoginPassword draw user.username newPassword (howned.recorded hmem)⟩)
  | disableGuacDirectLogin draw userId =>
      refine (hrecord (deps.disableGuacDirectLogin draw userId) userId (fun user hmem hid => ?_)
        fun hnone => ?_).imp_right .inl
      · exact hid ▸ after_disableGuacDirectLogin draw (howned.recorded hmem)
      · simp only [GuacamoleServiceDeps.disableGuacDirectLogin, after_bind, after_query, hnone]
        exact after_pure.mpr rfl
  | grantVmAccess vmId userId =>
      refine (hrecord (deps.grantVmAccess vmId userId) userId (fun user hmem hid => ?_)
        fun hnone => ?_).imp_right .inl
      · exact hid ▸ after_grantVmAccess vmId (howned.recorded hmem)
      · simp only [GuacamoleServiceDeps.grantVmAccess, after_bind, after_query, hnone]
        exact after_pure.mpr rfl
  | revokeVmAccess vmId userId =>
      refine (hrecord (deps.revokeVmAccess vmId userId) userId (fun user hmem hid => ?_)
        fun hnone => ?_).imp_right .inl
      · exact hid ▸ after_revokeVmAccess_within vmId (howned.recorded hmem)
      · simp only [GuacamoleServiceDeps.revokeVmAccess, after_bind, after_query, hnone]
        exact after_pure.mpr rfl
  | setGuacUserDisabled userId disabled =>
      refine (hrecord (deps.setGuacUserDisabled userId disabled) userId (fun user hmem hid => ?_)
        fun hnone => ?_).imp_right .inl
      · exact hid ▸ after_setGuacUserDisabled disabled (howned.recorded hmem)
      · simp only [GuacamoleServiceDeps.setGuacUserDisabled, after_bind, after_query, hnone]
        exact after_pure.mpr rfl
  | removeUserResources userId =>
      refine (hrecord (deps.removeUserResources userId) userId (fun user hmem hid => ?_)
        fun hnone => ?_).imp_right .inl
      · exact hid ▸ after_removeUserResources (howned.recorded hmem)
      · simp only [GuacamoleServiceDeps.removeUserResources, after_bind, after_query, hnone]
        exact after_pure.mpr rfl

theorem Owned.run (howned : Owned w) {event : AccountEvent} (hfresh : event.Fresh w) :
    Owned (event.run deps w) := by
  rcases run_cases deps howned event with
    hsame | ⟨user, huser, -, hwithin⟩ | ⟨row, db, rfl, hvalid, hins, hrun⟩ | ⟨userId, rfl, hrun⟩
  · rw [hsame]
    exact howned
  · exact howned.of_within huser hwithin
  · rw [hrun]
    obtain ⟨users, rfl, -, hmem⟩ := Db.insertUser_eq_some hins
    have hapart : ∀ u ∈ w.db.users, guacUsernameOf u.username ≠ guacUsernameOf row.username := by
      intro u hu heq
      exact hfresh u hu ((guacUsernameOf_eq_iff (howned.valid u hu) hvalid).mp heq)
    refine ⟨fun u hu => ?_, fun u hu v hv hne => ?_, fun r hr => ?_⟩
    · rcases (hmem u).mp hu with hu | rfl
      · exact howned.valid u hu
      · exact hvalid
    · rcases (hmem u).mp hu with hu | rfl
      · rcases (hmem v).mp hv with hv | rfl
        · exact howned.distinct u hu v hv hne
        · exact hapart u hu
      · rcases (hmem v).mp hv with hv | rfl
        · exact (hapart v hv).symm
        · exact absurd rfl hne
    · obtain ⟨u, hu, hid, hname⟩ := howned.records r hr
      exact ⟨u, (hmem u).mpr (.inl hu), hid, hname⟩
  · rw [hrun]
    have hkept : ∀ u, u ∈ (w.deleteUser userId).db.users ↔ u ∈ w.db.users ∧ u.id ≠ userId := by
      intro u
      simp [GuacWorld.deleteUser, Db.deleteUser]
    refine ⟨fun u hu => howned.valid u ((hkept u).mp hu).1, fun u hu v hv hne =>
      howned.distinct u ((hkept u).mp hu).1 v ((hkept v).mp hv).1 hne, fun r hr => ?_⟩
    simp only [GuacWorld.deleteUser, GuacWorld.deleteGuacUser, Table.mem_deleteWhere,
      decide_eq_false_iff_not] at hr
    obtain ⟨u, hu, hid, hname⟩ := howned.records r hr.1
    exact ⟨u, (hkept u).mpr ⟨hu, fun heq => hr.2 (hid.symm.trans heq)⟩, hid, hname⟩

theorem Owned.isolated (howned : Owned w) : Isolated deps w := by
  intro event v hv hne
  rcases run_cases deps howned event with
    hsame | ⟨user, huser, hid, hwithin⟩ | ⟨row, db, -, -, -, hrun⟩ | ⟨userId, -, hrun⟩
  · rw [hsame]
  · exact hwithin.others _ (howned.distinct v hv user huser (hid ▸ hne))
  · rw [hrun]
  · rw [hrun]
    rfl

theorem Owned.runAccounts (howned : Owned w) {events : List AccountEvent}
    (hfresh : AllFresh deps events w) : Owned (runAccounts deps events w) := by
  induction events generalizing w with
  | nil => exact howned
  | cons event events ih => exact ih (howned.run hfresh.1) hfresh.2

/-- **One Guacamole account per user.**  From a database without users, in every state that a
sequence of calls reaches in which no user is created whose first 40 characters are those of
another user's name, different users have different Guacamole accounts, and no call for one
user touches the account of another. -/
theorem distinct_accounts (deps : GuacamoleServiceDeps) (events : List AccountEvent) (w : GuacWorld)
    (husers : w.db.users.rows = []) (hrecords : w.guacUsers.rows = []) (hfresh : AllFresh deps events w) :
    DistinctAccounts (runAccounts deps events w) ∧ Isolated deps (runAccounts deps events w) := by
  have hnone : ∀ u, u ∉ w.db.users := by
    intro u hu
    rw [Table.mem_def, husers] at hu
    exact List.not_mem_nil hu
  have hstart : Owned w := by
    refine ⟨fun u hu => absurd hu (hnone u), fun u hu => absurd hu (hnone u), fun r hr => ?_⟩
    rw [Table.mem_def, hrecords] at hr
    exact absurd hr List.not_mem_nil
  have hend := hstart.runAccounts hfresh
  exact ⟨hend.distinct, hend.isolated⟩

end invariant

/-! ## Two names with one account -/

def sampleUser (id : UserId) (username : String) : UserRow :=
  { id, username, email := none, givenName := none, passwordHash := "", active := true
    isInitialAdmin := false, maxVms := none }

def sampleGuacWorld : GuacWorld where
  db := Db.empty
  guacUsers := Table.empty
  connections := []
  guac := { Store.empty with
    connectionGroups := Table.empty.put (⟨1, none⟩ : Guac.ConnectionGroupRow) }

def sampleDeps : GuacamoleServiceDeps where
  engine := .postgresql
  sha256 := fun text => text
  encrypt := fun password => "v1:" ++ password
  decrypt := fun stored => some (String.ofList (stored.toList.drop 3))

def sampleAccountEvents : List AccountEvent :=
  [.createUser (sampleUser 1 "alice"), .createUser (sampleUser 2 "bob"),
    .ensureGuacUser ⟨"secret", "00", "01"⟩ 1]

theorem distinct_accounts_sample :
    DistinctAccounts (runAccounts sampleDeps sampleAccountEvents sampleGuacWorld) ∧
      Isolated sampleDeps (runAccounts sampleDeps sampleAccountEvents sampleGuacWorld) := by
  have hsecond : ∀ u ∈ ((AccountEvent.createUser (sampleUser 1 "alice")).run sampleDeps
      sampleGuacWorld).db.users, u.username.toList.take 40 ≠ "bob".toList.take 40 := by
    decide +kernel
  exact distinct_accounts sampleDeps sampleAccountEvents sampleGuacWorld rfl rfl
    ⟨fun u hu => absurd hu (Table.not_mem_empty u), hsecond, trivial, trivial⟩

def longUsername (last : String) : String := String.ofList (List.replicate 40 'a') ++ last

def collidingEvents : List AccountEvent :=
  [.createUser (sampleUser 1 (longUsername ".ann")), .createUser (sampleUser 2 (longUsername ".b")),
    .ensureGuacUser ⟨"first", "00", "01"⟩ 1]

/-- The two users share an account, and a session of the second sets its password anew. -/
theorem not_distinct_accounts : ¬ ∀ (deps : GuacamoleServiceDeps) (events : List AccountEvent)
    (w : GuacWorld), w.db.users.rows = [] → w.guacUsers.rows = [] →
      DistinctAccounts (runAccounts deps events w) ∧ Isolated deps (runAccounts deps events w) := by
  intro hall
  obtain ⟨-, hisolated⟩ := hall sampleDeps collidingEvents sampleGuacWorld rfl rfl
  have hfirst : sampleUser 1 (longUsername ".ann") ∈
      (runAccounts sampleDeps collidingEvents sampleGuacWorld).db.users := by decide +kernel
  have hkept := hisolated (.ensureGuacUser ⟨"second", "02", "03"⟩ 2) _ hfirst (by decide)
  have hpassword := congrArg (fun account => account.users.map Guac.UserRow.password) hkept
  revert hpassword
  decide +kernel

end ProxVM
