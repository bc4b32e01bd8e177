import Mathlib.Data.List.Infix
import Mathlib.Logic.Function.Basic
import ProxVM.Lib.Pool
import ProxVM.Lib.Solo

/-!
# Schema migrations

`runMigrations`, `acquireLock` and `applyMigrations` of `db/migrate.ts`, called by any number of
processes side by side on connections of a pool, with statements that fail and connections that are lost anywhere.

## What is taken from Postgres

A statement that fails inside a transaction aborts it, and an aborted transaction takes no statement but its end.  A
COMMIT that fails leaves no effect.  A row that another open transaction has inserted blocks an INSERT of its key.  A
lock belongs to a session, and a session that is lost loses its lock and its transaction.
-/

namespace ProxVM.Migrate

open Interaction

/-! ## The catalogue -/

structure Migration where
  id : String
  name : String
  sql : String
  deriving DecidableEq, Repr

/-- The identifiers and names of `MIGRATIONS`. -/
def catalogue : List (String × String) :=
  [("001", "initial"), ("002", "vms"), ("003", "jobs"), ("004", "admin_guard_and_vm_meta"),
    ("005", "guac_user_unique"), ("006", "vm_access_actor"), ("007", "iam"), ("008", "guac_session_tokens"),
    ("009", "homelab"), ("010", "registration"), ("011", "vm_privacy"), ("012", "billing_foundations"),
    ("013", "firewall_isolated"), ("014", "vm_class"), ("015", "start_on_boot"), ("016", "vm_ip_unique"),
    ("017", "pbs_backups"), ("018", "ssh_host_keys"), ("019", "csrf_token_derivation"), ("020", "notifications"),
    ("021", "guac_direct_login"), ("022", "guest_role"), ("023", "drift"), ("024", "drift_permission")]

/-- `MIGRATIONS`; `sql` has the texts of the migrations. -/
def migrations (sql : String → String) : List Migration := catalogue.map fun m => ⟨m.1, m.2, sql m.1⟩

theorem nodup_ids (sql : String → String) : ((migrations sql).map Migration.id).Nodup := by
  rw [migrations, List.map_map]
  exact (by decide : (catalogue.map Prod.fst).Nodup)

/-! ## Statements -/

abbrev Client := Nat

inductive Statement
  | createTable
  | selectIds
  | beginTxn
  | run (sql : String)
  | record (id name : String)
  | commit
  | rollback
  | lock
  | unlock
  deriving DecidableEq, Repr

abbrev Statement.Reply : Statement → Type
  | selectIds => List String
  | _ => Unit

inductive MigrateCall
  | connect
  | query (client : Client) (statement : Statement)
  | release (client : Client)
  deriving DecidableEq, Repr

abbrev MigrateCall.Reply : MigrateCall → Type
  | connect => Client
  | query _ statement => statement.Reply
  | release _ => Unit

def calls : Signature := ⟨MigrateCall, MigrateCall.Reply⟩

structure PgError where
  code : Option String
  message : String
  deriving DecidableEq, Repr

abbrev Task (α : Type) := Prog calls PgError α

def query (client : Client) (statement : Statement) : Task statement.Reply :=
  Prog.perform (F := calls) (.query client statement)

/-! ## The programs -/

def mentions (message : String) (phrases : List String) : Bool :=
  phrases.any fun phrase => decide (phrase.toList <:+: message.toList.map Char.toLower)

def isUnsupportedLock (err : PgError) : Bool :=
  decide (err.code = some "42883" ∨ err.code = some "0A000") ||
    (mentions err.message ["advisorylock", "advisory_lock", "advisory lock", "advisory_ lock"] &&
      mentions err.message ["does not exist", "not supported", "not implemented", "unknown"])

def acquireLock (client : Client) : Task Bool :=
  Prog.tryCatch (do
    query client .lock
    pure true) fun err => if isUnsupportedLock err then pure false else .raise err

def applyMigration (client : Client) (applied appliedNow : List String) (migration : Migration) :
    Task (List String) :=
  if migration.id ∈ applied then pure appliedNow
  else do
    query client .beginTxn
    Prog.tryCatch (do
      query client (.run migration.sql)
      query client (.record migration.id migration.name)
      query client .commit
      pure (appliedNow ++ [migration.id])) fun err => do
        query client .rollback
        .raise err

def applyMigrations (sql : String → String) (client : Client) : Task (List String) := do
  query client .createTable
  let applied ← query client .selectIds
  (migrations sql).foldlM (applyMigration client applied) []

/-- What the `finally` of `runMigrations` does before it hands on the outcome. -/
def unlockAndRelease {α : Type} (client : Client) (locked : Bool) (outcome : Except PgError α) : Task α := do
  if locked then Prog.tryCatch (query client .unlock) fun _ => pure ()
  Prog.perform (F := calls) (.release client)
  .ofExcept outcome

/-- `p` with its outcome, which is not a failure. -/
def outcomeOf {α : Type} (p : Task α) : Task (Except PgError α) :=
  Prog.tryCatch (do pure (.ok (← p))) fun err => pure (.error err)

/-- `runMigrations` on a pool, which hands out connections. -/
def runMigrations (sql : String → String) : Task (List String) := do
  let client ← Prog.perform (F := calls) .connect
  match ← outcomeOf (acquireLock client) with
  | .error err => unlockAndRelease client false (.error err)
  | .ok locked =>
    let outcome ← outcomeOf (applyMigrations sql client)
    unlockAndRelease client locked outcome

/-! ## The database -/

inductive Write
  | table
  | effect (sql : String)
  | record (id name : String)
  deriving DecidableEq, Repr

def Write.recorded : Write → List String
  | record id _ => [id]
  | _ => []

/-- Whether `schema_migrations` exists, the texts that have taken effect, and the recorded migrations. -/
structure Database where
  table : Bool
  schema : List String
  record : List (String × String)
  deriving DecidableEq, Repr

def Database.write (db : Database) : Write → Database
  | .table => { db with table := true }
  | .effect sql => { db with schema := db.schema ++ [sql] }
  | .record id name => { db with record := db.record ++ [(id, name)] }

def Database.ids (db : Database) : List String := db.record.map Prod.fst

inductive Txn
  | idle
  | begun (writes : List Write)
  | aborted
  deriving DecidableEq, Repr

def Txn.pending : Txn → List String
  | begun writes => writes.flatMap Write.recorded
  | _ => []

def Txn.failed (t : Txn) (statement : Statement) : Txn :=
  match t with
  | begun _ => if statement = .commit then idle else aborted
  | _ => t

structure Session where
  alive : Bool
  txn : Txn
  locks : Nat
  deriving DecidableEq, Repr

def Session.lost : Session := ⟨false, .idle, 0⟩

structure World where
  db : Database
  session : Client → Session
  busy : Client → Bool

def World.setSession (w : World) (client : Client) (s : Session) : World :=
  { w with session := Function.update w.session client s }

def World.setBusy (w : World) (client : Client) (busy : Bool) : World :=
  { w with busy := Function.update w.busy client busy }

def Writes (client : Client) (write : Write) (w w' : World) : Prop :=
  match (w.session client).txn with
  | .idle => w' = { w with db := w.db.write write }
  | .begun writes => w' = w.setSession client { w.session client with txn := .begun (writes ++ [write]) }
  | .aborted => False

/-- The end of a transaction, whose writes `db` has. -/
def World.ended (w : World) (client : Client) (db : Database) : World :=
  { w.setSession client { w.session client with txn := .idle } with db := db }

def Executes (client : Client) (w : World) : (statement : Statement) → statement.Reply → World → Prop
  | .createTable, _, w' => Writes client .table w w'
  | .selectIds, ids, w' => w.db.table = true ∧ (w.session client).txn ≠ .aborted ∧
    ids = w.db.ids ++ (w.session client).txn.pending ∧ w' = w
  | .beginTxn, _, w' => match (w.session client).txn with
    | .idle => w' = w.setSession client { w.session client with txn := .begun [] }
    | .begun _ => w' = w
    | .aborted => False
  | .run sql, _, w' => Writes client (.effect sql) w w'
  | .record id name, _, w' => w.db.table = true ∧ id ∉ w.db.ids ∧ (∀ c, id ∉ (w.session c).txn.pending) ∧
    Writes client (.record id name) w w'
  | .commit, _, w' => match (w.session client).txn with
    | .begun writes => w' = w.ended client (writes.foldl Database.write w.db)
    | _ => w' = w.ended client w.db
  | .rollback, _, w' => w' = w.ended client w.db
  | .lock, _, w' => (w.session client).txn ≠ .aborted ∧ (∀ c, c ≠ client → (w.session c).locks = 0) ∧
    w' = w.setSession client { w.session client with locks := (w.session client).locks + 1 }
  | .unlock, _, w' => (w.session client).txn ≠ .aborted ∧
    w' = w.setSession client { w.session client with locks := (w.session client).locks - 1 }

def Serves : (c : MigrateCall) → World → Except PgError c.Reply → World → Prop
  | .connect, w, .ok client, w' => w.busy client = false ∧ w' = w.setBusy client true
  | .connect, w, .error _, w' => w' = w
  | .release client, w, r, w' => r = .ok () ∧ w' = w.setBusy client false
  | .query client statement, w, .ok reply, w' =>
    (w.session client).alive = true ∧ Executes client w statement reply w'
  | .query client statement, w, .error _, w' =>
    w' = w.setSession client .lost ∨
      w' = w.setSession client { w.session client with txn := (w.session client).txn.failed statement }

def Meanwhile (w w' : World) : Prop :=
  w' = w ∨ ∃ client, w' = w.setSession client .lost ∨
    (w.busy client = false ∧ w' = w.setSession client { w.session client with txn := .idle })

abbrev MigrateThread := Thread calls PgError fun _ : Unit => List String

abbrev MigratePool := Pool calls PgError World fun _ : Unit => List String

def migrateRules (sql : String → String) : Rules calls PgError World fun _ : Unit => List String where
  serve := Serves
  admits _ _ _ := True
  ends _ _ w successor w' := successor = none ∧ w' = w
  turn w newcomer w' := Meanwhile w w' ∧ ∀ t, newcomer = some t → t = ⟨(), runMigrations sql⟩

def fresh : World where
  db := ⟨false, [], []⟩
  session _ := ⟨true, .idle, 0⟩
  busy _ := false

/-! ## What a program knows -/

inductive Note
  | away
  | closed (client : Client) (seen : List String)
  | begun (client : Client) (seen : List String) (writes : List Write)

def Note.client? : Note → Option Client
  | away => none
  | closed client _ => some client
  | begun client _ _ => some client

def Statement.write? : Statement → Option Write
  | createTable => some .table
  | run sql => some (.effect sql)
  | record id name => some (.record id name)
  | _ => none

def Note.executed (client : Client) (seen : List String) (writes : List Write) (statement : Statement) : Note :=
  match statement with
  | .commit => closed client (seen ++ writes.flatMap Write.recorded)
  | .rollback => closed client seen
  | statement => begun client seen (writes ++ statement.write?.toList)

def nextNote : (c : MigrateCall) → Except PgError c.Reply → Note → Note
  | .connect, .ok client, _ => .closed client []
  | .release _, _, _ => .away
  | .query _ .selectIds, .ok ids, .closed client seen => .closed client (seen ++ ids)
  | .query _ .beginTxn, .ok _, .closed client seen => .begun client seen []
  | .query _ statement, .ok _, .begun client seen writes => .executed client seen writes statement
  | .query _ _, .error _, .begun client seen _ => .closed client seen
  | _, _, n => n

def Due (sql : String → String) (seen : List String) (writes : List Write) : Prop :=
  ∃ done m rest, migrations sql = done ++ m :: rest ∧ (∀ m' ∈ done, m'.id ∈ seen) ∧
    writes = [.effect m.sql, .record m.id m.name]

def NoteOwes (sql : String → String) : MigrateCall → Note → Prop
  | .connect, n => n = .away
  | .release client, n => ∃ seen, n = .closed client seen
  | .query client (.run _), n => ∃ seen writes, n = .begun client seen writes
  | .query client (.record _ _), n => ∃ seen writes, n = .begun client seen writes
  | .query client .commit, n => ∃ seen writes, n = .begun client seen writes ∧ Due sql seen writes
  | .query client _, n => ∃ seen, n = .closed client seen

abbrev tracking (sql : String → String) : Context calls PgError Note :=
  aloneOwing (fun c n r n' => n' = nextNote c r n) (NoteOwes sql)

variable {sql : String → String} {client : Client} {n : Note} {seen : List String}

theorem tracks_unlockAndRelease {α : Type} (locked : Bool) (outcome : Except PgError α) :
    (tracking sql).holds (unlockAndRelease client locked outcome) (fun _ _ => True) (.closed client seen) := by
  have hrelease : (tracking sql).holds (do
      Prog.perform (F := calls) (.release client)
      .ofExcept outcome) (fun _ _ => True) (.closed client seen) :=
    holds_aloneOwing_bind.mpr ⟨⟨seen, rfl⟩, fun _ _ _ => Context.holds_ofExcept.mpr trivial, fun _ _ _ => trivial⟩
  cases locked with
  | false => exact hrelease
  | true =>
      refine Context.holds_bind.mpr (Context.holds_tryCatch.mpr (holds_aloneOwing_perform.mpr ⟨⟨seen, rfl⟩, ?_⟩))
      rintro r n' rfl
      cases r with
      | ok reply => exact hrelease
      | error err => exact hrelease

theorem tracks_acquireLock : (tracking sql).holds (acquireLock client)
    (fun _ n => n = .closed client seen) (.closed client seen) := by
  refine Context.holds_tryCatch.mpr (holds_aloneOwing_bind.mpr ⟨⟨seen, rfl⟩, ?_, ?_⟩)
  · rintro reply n' rfl
    rfl
  · rintro err n' rfl
    refine Context.holds_ite.mpr ⟨fun _ => rfl, fun _ => rfl⟩

def RoundEnd (client : Client) (seen : List String) (migration : Migration) (r : Except PgError (List String))
    (n : Note) : Prop :=
  ∃ seen', n = .closed client seen' ∧ seen ⊆ seen' ∧ (∀ a, r = .ok a → migration.id ∈ seen')

theorem tracks_applyMigration {applied appliedNow : List String} {done rest : List Migration} {m : Migration}
    (hsplit : migrations sql = done ++ m :: rest) (happlied : applied ⊆ seen) (hdone : ∀ m' ∈ done, m'.id ∈ seen) :
    (tracking sql).holds (applyMigration client applied appliedNow m) (RoundEnd client seen m) (.closed client seen) := by
  rw [applyMigration, Context.holds_ite]
  refine ⟨fun hmem => ⟨seen, rfl, List.Subset.refl _, fun _ _ => happlied hmem⟩, fun _ => ?_⟩
  have hrollback : ∀ err, (tracking sql).holds (do
      query client .rollback
      .raise err : Task (List String)) (RoundEnd client seen m) (.closed client seen) := by
    intro err
    refine holds_aloneOwing_bind.mpr ⟨⟨seen, rfl⟩, ?_, ?_⟩
    · rintro reply n' rfl
      exact ⟨seen, rfl, List.Subset.refl _, fun a ha => by cases ha⟩
    · rintro err' n' rfl
      exact ⟨seen, rfl, List.Subset.refl _, fun a ha => by cases ha⟩
  refine holds_aloneOwing_bind.mpr ⟨⟨seen, rfl⟩, ?_, ?_⟩
  · rintro - n₁ rfl
    refine Context.holds_tryCatch.mpr (holds_aloneOwing_bind.mpr ⟨⟨seen, [], rfl⟩, ?_, ?_⟩)
    · rintro - n₂ rfl
      refine holds_aloneOwing_bind.mpr ⟨⟨seen, _, rfl⟩, ?_, ?_⟩
      · rintro - n₃ rfl
        refine holds_aloneOwing_bind.mpr ⟨⟨seen, _, rfl, done, m, rest, hsplit, hdone, rfl⟩, ?_, ?_⟩
        · rintro - n₄ rfl
          exact ⟨_, rfl, List.subset_append_left _ _, fun _ _ => List.mem_append_right _ List.mem_cons_self⟩
        · rintro err n₄ rfl
          exact hrollback err
      · rintro err n₃ rfl
        exact hrollback err
    · rintro err n₂ rfl
      exact hrollback err
  · rintro err n₁ rfl
    exact ⟨seen, rfl, List.Subset.refl _, fun a ha => by cases ha⟩

theorem tracks_applyMigrations : (tracking sql).holds (applyMigrations sql client)
    (fun _ n => ∃ seen', n = .closed client seen') (.closed client seen) := by
  refine holds_aloneOwing_bind.mpr ⟨⟨seen, rfl⟩, ?_, fun err n' hn' => ⟨seen, hn'⟩⟩
  rintro - n₁ rfl
  refine holds_aloneOwing_bind.mpr ⟨⟨seen, rfl⟩, ?_, fun err n' hn' => ⟨seen, hn'⟩⟩
  rintro (applied : List String) n₂ rfl
  refine Context.holds_foldlM_rest (I := fun rest n => ∃ done seen', migrations sql = done ++ rest ∧
    n = .closed client seen' ∧ applied ⊆ seen' ∧ ∀ m ∈ done, m.id ∈ seen') ?_ ?_ ?_
  · rintro appliedNow m rest n ⟨done, seen', hsplit, rfl, happlied, hdone⟩
    refine Context.holds_mono (tracks_applyMigration hsplit happlied hdone) ?_
    rintro (err | a) n' ⟨seen'', rfl, hsub, hm⟩
    · exact ⟨seen'', rfl⟩
    · refine ⟨done ++ [m], seen'', by rw [hsplit, List.append_assoc]; rfl, rfl, List.Subset.trans happlied hsub, ?_⟩
      intro m' hm'
      obtain hm' | hm' := List.mem_append.mp hm'
      · exact hsub (hdone m' hm')
      · rw [List.mem_singleton.mp hm']
        exact hm a rfl
  · rintro appliedNow n ⟨done, seen', -, rfl, -, -⟩
    exact ⟨seen', rfl⟩
  · exact ⟨[], _, rfl, rfl, List.subset_append_right _ _, fun m hm => absurd hm List.not_mem_nil⟩

theorem tracks_runMigrations : (tracking sql).holds (runMigrations sql) (fun _ _ => True) .away := by
  refine holds_aloneOwing_bind.mpr ⟨rfl, ?_, fun _ _ _ => trivial⟩
  rintro client n rfl
  have hlock : (tracking sql).holds (outcomeOf (acquireLock client)) (fun r n => (∃ o, r = .ok o) ∧
      n = .closed client []) (.closed client []) := by
    refine Context.holds_tryCatch.mpr (Context.holds_bind.mpr (Context.holds_mono tracks_acquireLock ?_))
    rintro (err | locked) n rfl
    · exact ⟨⟨_, rfl⟩, rfl⟩
    · exact ⟨⟨_, rfl⟩, rfl⟩
  refine Context.holds_bind.mpr (Context.holds_mono hlock ?_)
  rintro r n ⟨⟨outcome, rfl⟩, rfl⟩
  cases outcome with
  | error err => exact tracks_unlockAndRelease false _
  | ok locked =>
      have happly : (tracking sql).holds (outcomeOf (applyMigrations sql client)) (fun r n => (∃ o, r = .ok o) ∧
          ∃ seen, n = .closed client seen) (.closed client []) := by
        refine Context.holds_tryCatch.mpr (Context.holds_bind.mpr (Context.holds_mono tracks_applyMigrations ?_))
        rintro (err | a) n ⟨seen, rfl⟩
        · exact ⟨⟨_, rfl⟩, seen, rfl⟩
        · exact ⟨⟨_, rfl⟩, seen, rfl⟩
      refine Context.holds_bind.mpr (Context.holds_mono happly ?_)
      rintro r n ⟨⟨outcome, rfl⟩, seen, rfl⟩
      exact tracks_unlockAndRelease locked outcome

/-! ## What the database keeps -/

def Exact (sql : String → String) (db : Database) : Prop :=
  ∃ done rest, migrations sql = done ++ rest ∧ db.schema = done.map Migration.sql ∧
    db.record = done.map fun m => (m.id, m.name)

structure Sound (sql : String → String) (w : World) : Prop where
  exact : Exact sql w.db
  /-- No recorded migration is about to be recorded. -/
  unrecorded : ∀ c, ∀ id ∈ (w.session c).txn.pending, id ∉ w.db.ids
  /-- No two transactions are about to record one migration. -/
  apart : ∀ c c', c ≠ c' → ∀ id ∈ (w.session c).txn.pending, id ∉ (w.session c').txn.pending
  /-- A connection that nobody holds has no transaction. -/
  left : ∀ c, w.busy c = false → ∀ writes, (w.session c).txn ≠ .begun writes

def Note.Holds (w : World) : Note → Prop
  | away => True
  | closed client seen => w.busy client = true ∧ (∀ writes, (w.session client).txn ≠ .begun writes) ∧ seen ⊆ w.db.ids
  | begun client seen writes => w.busy client = true ∧
    (w.session client = .lost ∨ (w.session client).txn = .begun writes) ∧ seen ⊆ w.db.ids

variable {w w' : World} {s : Session} {writes : List Write} {c : MigrateCall} {r : Except PgError c.Reply}

@[simp] theorem pending_begun : (Txn.begun writes).pending = writes.flatMap Write.recorded := rfl

theorem setSession_self : (w.setSession client s).session client = s := Function.update_self ..

variable {other : Client} {write : Write} {statement : Statement} {b : Bool} {P : MigratePool}

theorem setSession_of_ne (hne : other ≠ client) :
    (w.setSession client s).session other = w.session other := Function.update_of_ne hne ..

theorem ids_write (db : Database) (write : Write) : (db.write write).ids = db.ids ++ write.recorded := by
  cases write with
  | table => exact (List.append_nil _).symm
  | effect sql => exact (List.append_nil _).symm
  | record id name => exact List.map_append

theorem ids_foldl_write (writes : List Write) (db : Database) :
    (writes.foldl Database.write db).ids = db.ids ++ writes.flatMap Write.recorded := by
  induction writes generalizing db with
  | nil => exact (List.append_nil _).symm
  | cons write rest ih => rw [List.foldl_cons, ih, ids_write, List.append_assoc, List.flatMap_cons]

theorem Sound.setSession (hsound : Sound sql w)
    (hnew : ∀ id ∈ s.txn.pending, id ∉ w.db.ids ∧ ∀ c, c ≠ client → id ∉ (w.session c).txn.pending)
    (hleft : w.busy client = false → ∀ writes, s.txn ≠ .begun writes) : Sound sql (w.setSession client s) where
  exact := hsound.exact
  unrecorded c id hid := by
    by_cases hc : c = client
    · rw [hc, setSession_self] at hid
      exact (hnew id hid).1
    · rw [setSession_of_ne hc] at hid
      exact hsound.unrecorded c id hid
  apart c c' hne id hid hid' := by
    by_cases hc : c = client
    · rw [hc, setSession_self] at hid
      have hc' : c' ≠ client := fun h => hne (hc.trans h.symm)
      rw [setSession_of_ne hc'] at hid'
      exact (hnew id hid).2 c' hc' hid'
    · rw [setSession_of_ne hc] at hid
      by_cases hc' : c' = client
      · rw [hc', setSession_self] at hid'
        exact (hnew id hid').2 c hc hid
      · rw [setSession_of_ne hc'] at hid'
        exact hsound.apart c c' hne id hid hid'
  left c hbusy writes := by
    by_cases hc : c = client
    · rw [hc, setSession_self]
      exact hleft (hc ▸ hbusy) writes
    · rw [setSession_of_ne hc]
      exact hsound.left c hbusy writes

theorem Sound.subside (hsound : Sound sql w) (hsub : s.txn.pending ⊆ (w.session client).txn.pending)
    (hleft : ∀ writes, s.txn = .begun writes → w.busy client = true) : Sound sql (w.setSession client s) := by
  refine hsound.setSession (fun id hid => ⟨hsound.unrecorded client id (hsub hid), fun c hc hid' => ?_⟩) ?_
  · exact hsound.apart c client hc id hid' (hsub hid)
  · intro hbusy writes hbegun
    rw [hleft writes hbegun] at hbusy
    cases hbusy

theorem Sound.lost (hsound : Sound sql w) : Sound sql (w.setSession client .lost) :=
  hsound.subside (List.nil_subset _) fun _ h => by cases h

theorem Sound.rollback (hsound : Sound sql w) (client : Client) : Sound sql (w.ended client w.db) :=
  hsound.subside (s := { w.session client with txn := .idle }) (List.nil_subset _) fun _ h => by cases h

/-- **A transaction that is due is that of the next migration.** -/
theorem Sound.commit (hsound : Sound sql w) (htxn : (w.session client).txn = .begun writes) (hseen : seen ⊆ w.db.ids)
    (hdue : Due sql seen writes) :
    ∃ done m rest, migrations sql = done ++ m :: rest ∧ w.db.schema = done.map Migration.sql ∧
      w.db.record = (done.map fun m => (m.id, m.name)) ∧ writes = [.effect m.sql, .record m.id m.name] := by
  obtain ⟨before, m, after, hsplit, hbefore, rfl⟩ := hdue
  obtain ⟨done, rest, hcatalogue, hschema, hrecord⟩ := hsound.exact
  have hids : w.db.ids = done.map Migration.id := by
    rw [Database.ids, hrecord, List.map_map]
    rfl
  have hfresh : m.id ∉ done.map Migration.id := by
    rw [← hids]
    refine hsound.unrecorded client m.id ?_
    rw [htxn]
    exact List.mem_cons_self
  have hnodup := nodup_ids sql
  -- the recorded ones end where the transaction begins: `m` is not among them, and those before it are
  have hsame : done = before := by
    obtain ⟨more, hmore⟩ | ⟨more, hmore⟩ := List.prefix_or_prefix_of_prefix
      (⟨rest, hcatalogue.symm⟩ : done <+: migrations sql) (⟨m :: after, hsplit.symm⟩ : before <+: migrations sql)
    · cases more with
      | nil => rw [← hmore, List.append_nil]
      | cons m' more =>
          have hmem : m'.id ∈ done.map Migration.id := by
            rw [← hids]
            exact hseen (hbefore m' (by rw [← hmore]; exact List.mem_append_right _ List.mem_cons_self))
          rw [hsplit, ← hmore, List.append_assoc, List.map_append] at hnodup
          exact absurd rfl ((List.nodup_append.mp hnodup).2.2 m'.id hmem m'.id List.mem_cons_self)
    · cases more with
      | nil => rw [← hmore, List.append_nil]
      | cons m' more =>
          rw [← hmore, List.append_assoc] at hcatalogue
          obtain ⟨rfl, -⟩ := List.cons.inj (List.append_cancel_left (hsplit.symm.trans hcatalogue))
          refine absurd (List.mem_map_of_mem ?_) hfresh
          rw [← hmore]
          exact List.mem_append_right _ List.mem_cons_self
  rw [hsame] at hschema hrecord
  exact ⟨before, m, after, hsplit, hschema, hrecord, rfl⟩

def Advances (sql : String → String) (c : MigrateCall) (r : Except PgError c.Reply) (db db' : Database) : Prop :=
  (db'.schema = db.schema ∧ db'.record = db.record) ∨
    (∃ client, c = .query client .commit) ∧ (∃ a, r = .ok a) ∧
    ∃ done m rest, migrations sql = done ++ m :: rest ∧ db.schema = done.map Migration.sql ∧
      db.record = (done.map fun m => (m.id, m.name)) ∧ db'.schema = (done ++ [m]).map Migration.sql ∧
      db'.record = (done ++ [m]).map fun m => (m.id, m.name)

theorem Note.Holds.setSession_other (hn : n.Holds w) (hother : n.client? ≠ some client) :
    n.Holds (w.setSession client s) := by
  cases n with
  | away => trivial
  | closed c seen =>
      have hc : c ≠ client := fun h => hother (congrArg some h)
      refine ⟨hn.1, fun writes => ?_, hn.2.2⟩
      rw [setSession_of_ne hc]
      exact hn.2.1 writes
  | begun c seen writes =>
      have hc : c ≠ client := fun h => hother (congrArg some h)
      refine ⟨hn.1, ?_, hn.2.2⟩
      rw [setSession_of_ne hc]
      exact hn.2.1

theorem writes_closed (hclosed : ∀ writes, (w.session client).txn ≠ .begun writes)
    (hwrites : Writes client write w w') : w' = { w with db := w.db.write write } := by
  rw [Writes] at hwrites
  split at hwrites
  · exact hwrites
  · next writes htxn => exact absurd htxn (hclosed writes)
  · exact hwrites.elim

theorem writes_begun (htxn : (w.session client).txn = .begun writes) (hwrites : Writes client write w w') :
    w' = w.setSession client { w.session client with txn := .begun (writes ++ [write]) } := by
  rw [Writes, htxn] at hwrites
  exact hwrites

theorem txn_of_alive (halive : (w.session client).alive = true)
    (htxn : w.session client = .lost ∨ (w.session client).txn = .begun writes) :
    (w.session client).txn = .begun writes := by
  obtain hlost | htxn := htxn
  · rw [hlost] at halive
    cases halive
  · exact htxn

structure Served (sql : String → String) (c : MigrateCall) (r : Except PgError c.Reply) (n : Note) (w w' : World) :
    Prop where
  sound : Sound sql w'
  note : (nextNote c r n).Holds w'
  advances : Advances sql c r w.db w'.db

theorem nextNote_error (statement : Statement) (err : PgError) (hclient : n.client? = some client) :
    ∃ seen, nextNote (.query client statement) (.error err) n = .closed client seen ∧
      ∀ w, n.Holds w → seen ⊆ w.db.ids := by
  cases n with
  | away => cases hclient
  | closed c seen =>
      obtain rfl := Option.some.inj hclient
      exact ⟨seen, by cases statement <;> rfl, fun w hn => hn.2.2⟩
  | begun c seen writes =>
      obtain rfl := Option.some.inj hclient
      exact ⟨seen, by cases statement <;> rfl, fun w hn => hn.2.2⟩

theorem Note.Holds.busy (hn : n.Holds w) (hclient : n.client? = some client) : w.busy client = true := by
  cases n with
  | away => cases hclient
  | closed c seen =>
      obtain rfl := Option.some.inj hclient
      exact hn.1
  | begun c seen writes =>
      obtain rfl := Option.some.inj hclient
      exact hn.1

theorem served_error {err : PgError} (hsound : Sound sql w) (hn : n.Holds w)
    (hclient : n.client? = some client) (hserve : Serves (.query client statement) w (.error err) w') :
    Served sql (.query client statement) (.error err) n w w' := by
  have hclosed : ∃ s, w' = w.setSession client s ∧ s.txn.pending ⊆ (w.session client).txn.pending ∧
      ∀ writes, s.txn ≠ .begun writes := by
    obtain rfl | rfl := hserve
    · exact ⟨.lost, rfl, List.nil_subset _, fun _ h => by cases h⟩
    · refine ⟨_, rfl, ?_, fun writes hbegun => ?_⟩
      · cases htxn : (w.session client).txn with
        | idle => exact List.nil_subset _
        | aborted => exact List.nil_subset _
        | begun writes =>
            simp only [Txn.failed]
            split <;> exact List.nil_subset _
      · cases htxn : (w.session client).txn with
        | idle => rw [htxn] at hbegun; cases hbegun
        | aborted => rw [htxn] at hbegun; cases hbegun
        | begun writes =>
            simp only [Txn.failed, htxn] at hbegun
            split at hbegun <;> cases hbegun
  obtain ⟨s, rfl, hsub, hnone⟩ := hclosed
  refine ⟨hsound.subside hsub fun writes h => absurd h (hnone writes), ?_, .inl ⟨rfl, rfl⟩⟩
  obtain ⟨seen, hnext, hseen⟩ := nextNote_error statement err hclient
  rw [hnext]
  refine ⟨hn.busy hclient, fun writes => ?_, hseen w hn⟩
  rw [setSession_self]
  exact hnone writes

variable {reply : statement.Reply}

theorem served_closed (hsound : Sound sql w)
    (hn : (Note.closed client seen).Holds w) (howes : NoteOwes sql (.query client statement) (.closed client seen))
    (hserve : Serves (.query client statement) w (.ok reply) w') :
    Served sql (.query client statement) (.ok reply) (.closed client seen) w w' := by
  obtain ⟨hbusy, hclosed, hseen⟩ := hn
  obtain ⟨-, hexecutes⟩ := hserve
  have hself : ∀ s : Session, (∀ writes, s.txn ≠ .begun writes) → s.txn.pending = [] →
      Sound sql (w.setSession client s) ∧ (Note.closed client seen).Holds (w.setSession client s) := by
    intro s hnone hpending
    refine ⟨hsound.subside (by rw [hpending]; exact List.nil_subset _) fun writes h => absurd h (hnone writes),
      hbusy, fun writes => ?_, hseen⟩
    rw [setSession_self]
    exact hnone writes
  have hpending : (w.session client).txn.pending = [] := by
    cases htxn : (w.session client).txn with
    | idle => rfl
    | aborted => rfl
    | begun writes => exact absurd htxn (hclosed writes)
  cases statement with
  | createTable =>
      rw [writes_closed hclosed hexecutes]
      exact ⟨⟨hsound.exact, hsound.unrecorded, hsound.apart, hsound.left⟩, ⟨hbusy, hclosed, hseen⟩, .inl ⟨rfl, rfl⟩⟩
  | selectIds =>
      obtain ⟨-, -, rfl, rfl⟩ := hexecutes
      refine ⟨hsound, ⟨hbusy, hclosed, ?_⟩, .inl ⟨rfl, rfl⟩⟩
      rw [hpending, List.append_nil]
      exact List.append_subset_of_subset_of_subset hseen (List.Subset.refl _)
  | beginTxn =>
      simp only [Executes] at hexecutes
      split at hexecutes
      · rw [hexecutes]
        refine ⟨hsound.subside (List.nil_subset _) fun _ _ => hbusy, ⟨hbusy, .inr ?_, hseen⟩, .inl ⟨rfl, rfl⟩⟩
        rw [setSession_self]
      · next writes htxn => exact absurd htxn (hclosed writes)
      · exact hexecutes.elim
  | run sql => obtain ⟨_, _, h⟩ := howes; cases h
  | record id name => obtain ⟨_, _, h⟩ := howes; cases h
  | commit => obtain ⟨_, _, h, -⟩ := howes; cases h
  | rollback =>
      obtain rfl := hexecutes
      obtain ⟨hsound', hnote⟩ := hself { w.session client with txn := .idle } (fun _ h => by cases h) rfl
      exact ⟨hsound', hnote, .inl ⟨rfl, rfl⟩⟩
  | lock =>
      obtain ⟨-, -, rfl⟩ := hexecutes
      obtain ⟨hsound', hnote⟩ := hself { w.session client with locks := (w.session client).locks + 1 } hclosed hpending
      exact ⟨hsound', hnote, .inl ⟨rfl, rfl⟩⟩
  | unlock =>
      obtain ⟨-, rfl⟩ := hexecutes
      obtain ⟨hsound', hnote⟩ := hself { w.session client with locks := (w.session client).locks - 1 } hclosed hpending
      exact ⟨hsound', hnote, .inl ⟨rfl, rfl⟩⟩

theorem begun_write (hsound : Sound sql w) (hbusy : w.busy client = true)
    (htxn : (w.session client).txn = .begun writes) (hseen : seen ⊆ w.db.ids)
    (hnew : ∀ id ∈ write.recorded, id ∉ w.db.ids ∧ ∀ c, id ∉ (w.session c).txn.pending) :
    Sound sql (w.setSession client { w.session client with txn := .begun (writes ++ [write]) }) ∧
      (Note.begun client seen (writes ++ [write])).Holds
        (w.setSession client { w.session client with txn := .begun (writes ++ [write]) }) := by
  refine ⟨hsound.setSession (fun id hid => ?_) fun hidle => ?_, hbusy, .inr ?_, hseen⟩
  · rw [pending_begun, List.flatMap_append, List.mem_append, List.flatMap_singleton] at hid
    obtain hold | hid := hid
    · have hmem : id ∈ (w.session client).txn.pending := by rwa [htxn]
      exact ⟨hsound.unrecorded client id hmem, fun c hc hid' => hsound.apart c client hc id hid' hmem⟩
    · exact ⟨(hnew id hid).1, fun c _ => (hnew id hid).2 c⟩
  · rw [hbusy] at hidle
    cases hidle
  · rw [setSession_self]

theorem Sound.committed {before after : List Migration} (hsound : Sound sql w)
    (htxn : (w.session client).txn = .begun writes) (hsplit : migrations sql = before ++ after)
    (hdb : (writes.foldl Database.write w.db).schema = before.map Migration.sql ∧
      (writes.foldl Database.write w.db).record = before.map fun m => (m.id, m.name)) :
    Sound sql (w.ended client (writes.foldl Database.write w.db)) := by
  have hrolled := hsound.rollback client
  refine ⟨⟨before, after, hsplit, hdb⟩, fun c id hid => ?_, hrolled.apart, hrolled.left⟩
  have hold : id ∉ w.db.ids := hrolled.unrecorded c id hid
  have hids : (w.ended client (writes.foldl Database.write w.db)).db.ids =
      (writes.foldl Database.write w.db).ids := rfl
  rw [hids, ids_foldl_write, List.mem_append, not_or]
  refine ⟨hold, fun hid' => ?_⟩
  -- a session with this row still pending is not the one that has just ended
  have hc : c ≠ client := by
    rintro rfl
    rw [World.ended, setSession_self] at hid
    cases hid
  have hpending : id ∈ (w.session c).txn.pending := by
    rwa [World.ended, setSession_of_ne hc] at hid
  exact hsound.apart c client hc id hpending (by rwa [htxn])

theorem served_commit {reply : Statement.commit.Reply} (hsound : Sound sql w) (hbusy : w.busy client = true)
    (htxn : (w.session client).txn = .begun writes) (hseen : seen ⊆ w.db.ids)
    (howes : NoteOwes sql (.query client .commit) (.begun client seen writes))
    (hexecutes : Executes client w .commit reply w') :
    Served sql (.query client .commit) (.ok reply) (.begun client seen writes) w w' := by
  obtain ⟨seen', writes', heq, hdue⟩ := howes
  cases heq
  obtain ⟨done, m, rest, hsplit, hschema, hrecord, hwrites⟩ := hsound.commit htxn hseen hdue
  rw [Executes, htxn] at hexecutes
  obtain rfl := hexecutes
  have hdb : (writes.foldl Database.write w.db).schema = (done ++ [m]).map Migration.sql ∧
      (writes.foldl Database.write w.db).record = (done ++ [m]).map fun m => (m.id, m.name) := by
    rw [hwrites]
    simp only [List.foldl_cons, List.foldl_nil, Database.write, hschema, hrecord, List.map_append, List.map_cons,
      List.map_nil, and_self]
  have hnow : migrations sql = (done ++ [m]) ++ rest := by
    rw [hsplit, List.append_assoc]
    rfl
  refine ⟨hsound.committed htxn hnow hdb,
    ⟨hbusy, fun writes' => ?_, ?_⟩, .inr ⟨⟨client, rfl⟩, ⟨reply, rfl⟩, done, m, rest, hsplit, hschema, hrecord, hdb⟩⟩
  · rw [World.ended, setSession_self]
    exact fun h => by cases h
  · have hids : (w.ended client (writes.foldl Database.write w.db)).db.ids =
        (writes.foldl Database.write w.db).ids := rfl
    rw [hids, ids_foldl_write]
    exact List.append_subset_of_subset_of_subset (List.Subset.trans hseen (List.subset_append_left _ _))
      (List.subset_append_right _ _)

theorem served_begun (hsound : Sound sql w) (hn : (Note.begun client seen writes).Holds w)
    (howes : NoteOwes sql (.query client statement) (.begun client seen writes))
    (hserve : Serves (.query client statement) w (.ok reply) w') :
    Served sql (.query client statement) (.ok reply) (.begun client seen writes) w w' := by
  obtain ⟨hbusy, htxn, hseen⟩ := hn
  obtain ⟨halive, hexecutes⟩ := hserve
  have htxn := txn_of_alive halive htxn
  cases statement with
  | run text =>
      rw [writes_begun htxn hexecutes]
      have hnew : ∀ id' ∈ (Write.effect text).recorded, id' ∉ w.db.ids ∧ ∀ c, id' ∉ (w.session c).txn.pending :=
        fun id' hid' => absurd hid' List.not_mem_nil
      obtain ⟨hsound', hnote⟩ := begun_write hsound hbusy htxn hseen hnew
      exact ⟨hsound', hnote, .inl ⟨rfl, rfl⟩⟩
  | record id name =>
      obtain ⟨-, hfresh, hapart, hwrites⟩ := hexecutes
      rw [writes_begun htxn hwrites]
      have hnew : ∀ id' ∈ (Write.record id name).recorded,
          id' ∉ w.db.ids ∧ ∀ c, id' ∉ (w.session c).txn.pending := by
        intro id' hid'
        rw [List.mem_singleton.mp hid']
        exact ⟨hfresh, hapart⟩
      obtain ⟨hsound', hnote⟩ := begun_write hsound hbusy htxn hseen hnew
      exact ⟨hsound', hnote, .inl ⟨rfl, rfl⟩⟩
  | commit => exact served_commit hsound hbusy htxn hseen howes hexecutes
  | createTable => obtain ⟨_, h⟩ := howes; cases h
  | selectIds => obtain ⟨_, h⟩ := howes; cases h
  | beginTxn => obtain ⟨_, h⟩ := howes; cases h
  | rollback => obtain ⟨_, h⟩ := howes; cases h
  | lock => obtain ⟨_, h⟩ := howes; cases h
  | unlock => obtain ⟨_, h⟩ := howes; cases h

theorem setBusy_of_ne (hne : other ≠ client) :
    (w.setBusy client b).busy other = w.busy other := Function.update_of_ne hne ..

theorem setBusy_self : (w.setBusy client b).busy client = b := Function.update_self ..

/-- **What any call leaves that a program makes as it owes.** -/
theorem served (hsound : Sound sql w) (hn : n.Holds w) (howes : NoteOwes sql c n) (hserve : Serves c w r w') :
    Served sql c r n w w' := by
  cases c with
  | connect =>
      obtain rfl : n = .away := howes
      cases r with
      | error err =>
          obtain rfl := hserve
          exact ⟨hsound, trivial, .inl ⟨rfl, rfl⟩⟩
      | ok client =>
          obtain ⟨hidle, rfl⟩ := hserve
          refine ⟨⟨hsound.exact, hsound.unrecorded, hsound.apart, fun c hc => ?_⟩,
            ⟨setBusy_self, hsound.left client hidle, List.nil_subset _⟩, .inl ⟨rfl, rfl⟩⟩
          by_cases hsame : c = client
          · rw [hsame, setBusy_self] at hc
            cases hc
          · exact hsound.left c (by rwa [setBusy_of_ne hsame] at hc)
  | release client =>
      obtain ⟨seen, rfl⟩ := howes
      obtain ⟨rfl, rfl⟩ := hserve
      refine ⟨⟨hsound.exact, hsound.unrecorded, hsound.apart, fun c hc => ?_⟩, trivial, .inl ⟨rfl, rfl⟩⟩
      by_cases hsame : c = client
      · rw [hsame]
        exact hn.2.1
      · exact hsound.left c (by rwa [setBusy_of_ne hsame] at hc)
  | query client statement =>
      have hholder : (∃ seen, n = .closed client seen) ∨ ∃ seen writes, n = .begun client seen writes := by
        cases statement with
        | run _ => exact .inr howes
        | record _ _ => exact .inr howes
        | commit =>
            obtain ⟨seen, writes, rfl, -⟩ := howes
            exact .inr ⟨seen, writes, rfl⟩
        | createTable => exact .inl howes
        | selectIds => exact .inl howes
        | beginTxn => exact .inl howes
        | rollback => exact .inl howes
        | lock => exact .inl howes
        | unlock => exact .inl howes
      cases r with
      | error err =>
          refine served_error hsound hn ?_ hserve
          obtain ⟨_, rfl⟩ | ⟨_, _, rfl⟩ := hholder <;> rfl
      | ok reply =>
          obtain ⟨seen, rfl⟩ | ⟨seen, writes, rfl⟩ := hholder
          · exact served_closed hsound hn howes hserve
          · exact served_begun hsound hn howes hserve

/-! ## Processes side by side -/

def MigrateCall.client? : (c : MigrateCall) → Except PgError c.Reply → Option Client
  | .connect, .ok client => some client
  | .connect, .error _ => none
  | .query client _, _ => some client
  | .release client, _ => some client

theorem ids_of_advances (hadvances : Advances sql c r w.db w'.db) : w.db.ids ⊆ w'.db.ids := by
  obtain ⟨-, hrecord⟩ | ⟨-, -, done, m, rest, -, -, hrecord, -, hrecord'⟩ := hadvances
  · rw [Database.ids, Database.ids, hrecord]
    exact List.Subset.refl _
  · rw [Database.ids, Database.ids, hrecord, hrecord', List.map_append, List.map_append]
    exact List.subset_append_left _ _

theorem executes_frame (hexecutes : Executes client w statement reply w') (hne : other ≠ client) :
    w'.session other = w.session other ∧ w'.busy other = w.busy other := by
  have hset : ∀ s, (w.setSession client s).session other = w.session other := fun s => setSession_of_ne hne
  have hwrites : ∀ write, Writes client write w w' →
      w'.session other = w.session other ∧ w'.busy other = w.busy other := by
    intro write hwrites
    rw [Writes] at hwrites
    split at hwrites
    · rw [hwrites]
      exact ⟨rfl, rfl⟩
    · rw [hwrites]
      exact ⟨hset _, rfl⟩
    · exact hwrites.elim
  cases statement with
  | createTable => exact hwrites _ hexecutes
  | run sql => exact hwrites _ hexecutes
  | record id name => exact hwrites _ hexecutes.2.2.2
  | selectIds =>
      rw [hexecutes.2.2.2]
      exact ⟨rfl, rfl⟩
  | beginTxn =>
      simp only [Executes] at hexecutes
      split at hexecutes
      · rw [hexecutes]
        exact ⟨hset _, rfl⟩
      · rw [hexecutes]
        exact ⟨rfl, rfl⟩
      · exact hexecutes.elim
  | commit =>
      simp only [Executes] at hexecutes
      split at hexecutes <;>
        (rw [hexecutes]; exact ⟨hset _, rfl⟩)
  | rollback =>
      rw [show w' = _ from hexecutes]
      exact ⟨hset _, rfl⟩
  | lock =>
      rw [hexecutes.2.2]
      exact ⟨hset _, rfl⟩
  | unlock =>
      rw [hexecutes.2]
      exact ⟨hset _, rfl⟩

theorem serves_frame (hserve : Serves c w r w') (hother : c.client? r ≠ some other) :
    w'.session other = w.session other ∧ w'.busy other = w.busy other := by
  cases c with
  | connect =>
      cases r with
      | error err =>
          obtain rfl := hserve
          exact ⟨rfl, rfl⟩
      | ok client =>
          obtain ⟨-, rfl⟩ := hserve
          exact ⟨rfl, setBusy_of_ne fun h => hother (congrArg some h.symm)⟩
  | release client =>
      obtain ⟨-, rfl⟩ := hserve
      exact ⟨rfl, setBusy_of_ne fun h => hother (congrArg some h.symm)⟩
  | query client statement =>
      have hne : other ≠ client := fun h => hother (congrArg some h.symm)
      cases r with
      | error err =>
          obtain rfl | rfl := hserve
          · exact ⟨setSession_of_ne hne, rfl⟩
          · exact ⟨setSession_of_ne hne, rfl⟩
      | ok reply => exact executes_frame hserve.2 hne

theorem Note.Holds.frame (hn : n.Holds w)
    (hframe : ∀ client, n.client? = some client → w'.session client = w.session client ∧
      w'.busy client = w.busy client) (hids : w.db.ids ⊆ w'.db.ids) : n.Holds w' := by
  cases n with
  | away => trivial
  | closed client seen =>
      obtain ⟨hsession, hbusy⟩ := hframe client rfl
      refine ⟨hbusy.trans hn.1, fun writes => ?_, List.Subset.trans hn.2.2 hids⟩
      rw [hsession]
      exact hn.2.1 writes
  | begun client seen writes =>
      obtain ⟨hsession, hbusy⟩ := hframe client rfl
      refine ⟨hbusy.trans hn.1, ?_, List.Subset.trans hn.2.2 hids⟩
      rw [hsession]
      exact hn.2.1

theorem Note.Holds.meanwhile (hn : n.Holds w) (hmeanwhile : Meanwhile w w') : n.Holds w' := by
  obtain rfl | ⟨lost, rfl | ⟨hidle, rfl⟩⟩ := hmeanwhile
  · exact hn
  · by_cases hclient : n.client? = some lost
    · cases n with
      | away => trivial
      | closed client seen =>
          obtain rfl := Option.some.inj hclient
          refine ⟨hn.1, fun writes h => ?_, hn.2.2⟩
          rw [setSession_self] at h
          cases h
      | begun client seen writes =>
          obtain rfl := Option.some.inj hclient
          exact ⟨hn.1, .inl setSession_self, hn.2.2⟩
    · exact hn.setSession_other hclient
  · refine hn.setSession_other fun hclient => ?_
    rw [hn.busy hclient] at hidle
    cases hidle

theorem Sound.meanwhile (hsound : Sound sql w) (hmeanwhile : Meanwhile w w') : Sound sql w' := by
  obtain rfl | ⟨client, rfl | ⟨-, rfl⟩⟩ := hmeanwhile
  · exact hsound
  · exact hsound.lost
  · exact hsound.rollback client

def Knower (sql : String → String) (w : World) (n : Note) (t : MigrateThread) : Prop :=
  (tracking sql).holds t.prog (fun _ _ => True) n ∧ n.Holds w

def Apart (n n' : Note) : Prop := ∀ client, n.client? = some client → n'.client? ≠ some client

structure KeptMigrations (sql : String → String) (P : MigratePool) : Prop where
  held : Held (Knower sql) Apart P
  sound : Sound sql P.state

theorem client_of_owes (howes : NoteOwes sql (.query client statement) n) : n.client? = some client := by
  cases statement with
  | run _ => obtain ⟨_, _, rfl⟩ := howes; rfl
  | record _ _ => obtain ⟨_, _, rfl⟩ := howes; rfl
  | commit => obtain ⟨_, _, rfl, -⟩ := howes; rfl
  | createTable => obtain ⟨_, rfl⟩ := howes; rfl
  | selectIds => obtain ⟨_, rfl⟩ := howes; rfl
  | beginTxn => obtain ⟨_, rfl⟩ := howes; rfl
  | rollback => obtain ⟨_, rfl⟩ := howes; rfl
  | lock => obtain ⟨_, rfl⟩ := howes; rfl
  | unlock => obtain ⟨_, rfl⟩ := howes; rfl

theorem call_apart {n' : Note} (howes : NoteOwes sql c n) (hserve : Serves c w r w')
    (happart : Apart n n') (hn' : n'.Holds w) (hother : n'.client? = some other) : c.client? r ≠ some other := by
  intro hclient
  cases c with
  | connect =>
      cases r with
      | error err => cases hclient
      | ok client =>
          obtain rfl := Option.some.inj hclient
          have hbusy := hn'.busy hother
          rw [hserve.1] at hbusy
          cases hbusy
  | release client =>
      obtain ⟨seen, rfl⟩ := howes
      exact happart client rfl (hother.trans hclient.symm)
  | query client statement => exact happart client (client_of_owes howes) (hother.trans hclient.symm)

theorem nextNote_client (howes : NoteOwes sql c n) :
    (nextNote c r n).client? = none ∨ (nextNote c r n).client? = c.client? r := by
  cases c with
  | connect =>
      cases r with
      | ok client => exact .inr rfl
      | error err =>
          obtain rfl : n = .away := howes
          exact .inl rfl
  | release client => exact .inl rfl
  | query client statement =>
      have hclient := client_of_owes howes
      refine .inr ?_
      cases n with
      | away => cases hclient
      | closed c seen =>
          obtain rfl := Option.some.inj hclient
          cases r <;> cases statement <;> rfl
      | begun c seen writes =>
          obtain rfl := Option.some.inj hclient
          cases r <;> cases statement <;> rfl

theorem KeptMigrations.owes (hkept : KeptMigrations sql P)
    {next : Except PgError c.Reply → Task (List String)} (hmem : ⟨(), .call c next⟩ ∈ P.threads) :
    ∃ n : Note, NoteOwes sql c n ∧ n.Holds P.state := by
  obtain ⟨n, hholds, hn⟩ := hkept.held.of_mem hmem
  exact ⟨n, (holds_aloneOwing_call.mp hholds).1, hn⟩

theorem KeptMigrations.step {P P' : MigratePool} (hkept : KeptMigrations sql P)
    (hstep : PoolStep (migrateRules sql) P P') : KeptMigrations sql P' := by
  constructor
  · refine held_of_poolStep (I := Sound sql) hkept.sound ?_ ?_ ?_ ?_ hkept.held hstep
    · exact fun n n' happart client hclient hclient' => happart client hclient' hclient
    · rintro before after role c next w r w' n hsound - hserve ⟨hholds, hn⟩
      obtain ⟨howes, hnext⟩ := holds_aloneOwing_call.mp hholds
      have hserved := served hsound hn howes hserve
      refine ⟨nextNote c r n, ⟨hnext r _ rfl, hserved.note⟩, fun other t happart hother => ?_⟩
      have hcall : ∀ client, other.client? = some client → c.client? r ≠ some client :=
        fun client => call_apart howes hserve happart hother.2
      refine ⟨⟨hother.1, hother.2.frame (fun client hclient => serves_frame hserve (hcall client hclient))
        (ids_of_advances hserved.advances)⟩, fun client hclient hclient' => ?_⟩
      obtain hnone | hsame := nextNote_client (r := r) howes
      · rw [hnone] at hclient
        cases hclient
      · exact hcall client hclient' (hsame.symm.trans hclient)
    · rintro role result w w' successor n ⟨rfl, rfl⟩ -
      exact ⟨fun _ _ _ hother => hother, fun t ht => by cases ht⟩
    · rintro w w' newcomer ⟨hmeanwhile, hnewcomer⟩
      refine ⟨fun n t hknower => ⟨hknower.1, hknower.2.meanwhile hmeanwhile⟩, fun t ht => ?_⟩
      obtain rfl := hnewcomer t ht
      exact ⟨.away, ⟨tracks_runMigrations, trivial⟩, fun n client hclient => by cases hclient⟩
  · cases hstep with
    | @call before after role c next w w' r hadmits hserve =>
        obtain ⟨n, howes, hn⟩ := hkept.owes (List.mem_append_right before List.mem_cons_self)
        exact (served hkept.sound hn howes hserve).sound
    | ends hends =>
        obtain ⟨-, rfl⟩ := hends
        exact hkept.sound
    | turn hturn => exact hkept.sound.meanwhile hturn.1

theorem keptMigrations_fresh : KeptMigrations sql ⟨fresh, []⟩ where
  held := ⟨[], rfl, fun p hp => absurd hp List.not_mem_nil, .nil⟩
  sound := {
    exact := ⟨[], migrations sql, rfl, rfl, rfl⟩
    unrecorded := fun c id hid => absurd hid List.not_mem_nil
    apart := fun c c' _ id hid => absurd hid List.not_mem_nil
    left := fun c _ writes h => by cases h }

theorem keptMigrations_run (hrun : PoolRun (migrateRules sql) ⟨fresh, []⟩ P) : KeptMigrations sql P := by
  induction hrun with
  | refl => exact keptMigrations_fresh
  | tail _ hstep ih => exact ih.step hstep

theorem Exact.nodup {db : Database} (hexact : Exact sql db) : db.ids.Nodup := by
  obtain ⟨done, rest, hsplit, -, hrecord⟩ := hexact
  have hids : db.ids = done.map Migration.id := by
    rw [Database.ids, hrecord, List.map_map]
    rfl
  have hnodup := nodup_ids sql
  rw [hsplit, List.map_append] at hnodup
  rw [hids]
  exact (List.nodup_append.mp hnodup).1

def StepAdvances (sql : String → String) (P P' : MigratePool) : Prop :=
  P'.state.db = P.state.db ∨ ∃ before after c r next,
    P.threads = before ++ ⟨(), .call c next⟩ :: after ∧ P'.threads = before ++ ⟨(), next r⟩ :: after ∧
    Advances sql c r P.state.db P'.state.db

theorem KeptMigrations.advances {P P' : MigratePool} (hkept : KeptMigrations sql P)
    (hstep : PoolStep (migrateRules sql) P P') : StepAdvances sql P P' := by
  cases hstep with
  | @call before after role c next w w' r hadmits hserve =>
      obtain ⟨n, howes, hn⟩ := hkept.owes (List.mem_append_right before List.mem_cons_self)
      exact .inr ⟨before, after, c, r, next, rfl, rfl, (served hkept.sound hn howes hserve).advances⟩
  | ends hends =>
      obtain ⟨-, rfl⟩ := hends
      exact .inl rfl
  | turn hturn =>
      refine .inl ?_
      obtain rfl | ⟨client, rfl | ⟨-, rfl⟩⟩ := hturn.1
      · rfl
      · rfl
      · rfl

/-- However many processes migrate, and whatever fails: the migrations that have taken effect are the first ones of the
catalogue, in order and each once, and they are the recorded ones; and only the successful COMMIT of the next migration
changes the migrated schema and the record, both at once. -/
theorem migrations_exact {P : MigratePool} (hrun : PoolRun (migrateRules sql) ⟨fresh, []⟩ P) :
    Exact sql P.state.db ∧ P.state.db.ids.Nodup ∧
      ∀ P', PoolStep (migrateRules sql) P P' → StepAdvances sql P P' := by
  have hkept := keptMigrations_run hrun
  exact ⟨hkept.sound.exact, hkept.sound.exact.nodup, fun P' hstep => hkept.advances hstep⟩

/-! ### A sample run -/

theorem run_call {c : MigrateCall} (r : Except PgError c.Reply) {next : Except PgError c.Reply → Task (List String)}
    (hrun : PoolRun (migrateRules id) ⟨fresh, []⟩ ⟨w, [⟨(), .call c next⟩]⟩) (hserve : Serves c w r w') :
    PoolRun (migrateRules id) ⟨fresh, []⟩ ⟨w', [⟨(), next r⟩]⟩ :=
  hrun.tail (.callFirst trivial hserve)

theorem migrations_exact_first : ∃ P, PoolRun (migrateRules id) ⟨fresh, []⟩ P ∧ P.state.db.ids = ["001"] ∧
    Exact id P.state.db := by
  have hturn : (migrateRules id).turn fresh (some ⟨(), runMigrations id⟩) fresh :=
    ⟨.inl rfl, fun t ht => (Option.some.inj ht).symm⟩
  have hboot : PoolRun (migrateRules id) ⟨fresh, []⟩ ⟨fresh, [⟨(), runMigrations id⟩]⟩ := .single (.turn hturn)
  have hconnect := run_call (.ok (0 : Nat)) hboot ⟨rfl, rfl⟩
  have hlock := run_call (.ok ()) hconnect ⟨rfl, by decide, fun c hc => rfl, rfl⟩
  have htable := run_call (.ok ()) hlock ⟨rfl, rfl⟩
  have hselect := run_call (.ok ([] : List String)) htable ⟨rfl, rfl, by decide, rfl, rfl⟩
  have hbegin := run_call (.ok ()) hselect ⟨rfl, rfl⟩
  have heffect := run_call (.ok ()) hbegin ⟨rfl, rfl⟩
  have hrecord := run_call (.ok ()) heffect ⟨rfl, rfl, by decide, fun c => by
    cases c with
    | zero => decide
    | succ c => exact List.not_mem_nil, rfl⟩
  have hcommit := run_call (.ok ()) hrecord ⟨rfl, rfl⟩
  exact ⟨_, hcommit, by decide, (migrations_exact hcommit).1⟩

end ProxVM.Migrate
