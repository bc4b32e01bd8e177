import ProxVM.Db.Schema
import ProxVM.Lib.Pool
import ProxVM.Util.Errors

/-!
# The lockout

`recordFailedLogin` of `services/users.ts` as a program of statements, any number
of which run side by side.  A statement is atomic; between two of them anything else may happen that
neither changes an account nor brings a session of the account to life.
-/

namespace ProxVM.Lockout

open Interaction

abbrev SessionId := Nat

/-- The columns of `users` that a login looks at. -/
structure LoginAccount where
  id : UserId
  failedAttempts : Nat
  lockedUntil : Option Time
  deriving DecidableEq, Repr

def LoginAccount.isLocked (a : LoginAccount) (now : Time) : Bool :=
  a.lockedUntil.any fun t => decide (now < t)

/-- A row of `sessions`. -/
structure LoginSession where
  userId : UserId
  revokedAt : Option Time
  deriving DecidableEq, Repr

/-- The accounts by their names and the sessions; and, for statements about what happened, how often
the counter of an account was increased and the ends of the locks that were set on it. -/
structure World where
  now : Time
  accounts : String → Option LoginAccount
  sessions : SessionId → Option LoginSession
  increments : String → Nat
  locks : String → List Time

def World.Live (w : World) (userId : UserId) (session : SessionId) : Prop :=
  ∃ row, w.sessions session = some row ∧ row.userId = userId ∧ row.revokedAt = none

/-! ## Statements -/

inductive Call
  | dateNow
  | findByUsername (username : String)
  | increment (userId : UserId) (maxAttempts lockMinutes : Nat)
  | revokeSessions (userId : UserId)

@[reducible] def Call.Reply : Call → Type
  | .dateNow => Time
  | .findByUsername _ => Option LoginAccount
  | .increment _ _ _ => Option LoginAccount
  | .revokeSessions _ => Unit

@[reducible] def calls : Signature := ⟨Call, Call.Reply⟩

abbrev Task (α : Type) := Prog calls AppError α

def ask (c : Call) : Task c.Reply := Prog.perform (F := calls) c

def LoginAccount.fail (a : LoginAccount) (maxAttempts : Nat) (lockEnd : Time) : LoginAccount :=
  { a with
    failedAttempts := a.failedAttempts + 1
    lockedUntil := if maxAttempts ≤ a.failedAttempts + 1 then some lockEnd else a.lockedUntil }

namespace World

variable (w : World)

def lockEnd (lockMinutes : Nat) : Time := w.now + lockMinutes * 60000

/-- `UPDATE users SET failed_attempts = failed_attempts + 1, … WHERE id = $1`. -/
def increment (userId : UserId) (maxAttempts lockMinutes : Nat) : World :=
  { w with
    accounts := fun name => (w.accounts name).map fun a =>
      if a.id = userId then a.fail maxAttempts (w.lockEnd lockMinutes) else a
    increments := fun name =>
      if (w.accounts name).any fun a => decide (a.id = userId) then w.increments name + 1
      else w.increments name
    locks := fun name =>
      if (w.accounts name).any fun a =>
          decide (a.id = userId) && decide (maxAttempts ≤ a.failedAttempts + 1) then
        w.lockEnd lockMinutes :: w.locks name
      else
        w.locks name }

/-- `UPDATE sessions SET revoked_at = NOW() WHERE user_id = $1 AND revoked_at IS NULL`. -/
def revokeSessions (userId : UserId) : World :=
  { w with
    sessions := fun session => (w.sessions session).map fun row =>
      if row.userId = userId ∧ row.revokedAt = none then { row with revokedAt := some w.now } else row }

end World

def Carries : (c : Call) → World → Except AppError c.Reply → World → Prop
  | .dateNow, w, r, w' => r = .ok w.now ∧ w' = w
  | .findByUsername username, w, r, w' => r = .ok (w.accounts username) ∧ w' = w
  | .increment userId maxAttempts lockMinutes, w, r, w' =>
      w' = w.increment userId maxAttempts lockMinutes ∧
        ((∃ name row, w'.accounts name = some row ∧ row.id = userId ∧ r = .ok (some row)) ∨
          (∀ name row, w.accounts name = some row → row.id ≠ userId) ∧ r = .ok none)
  | .revokeSessions userId, w, r, w' => r = .ok () ∧ w' = w.revokeSessions userId

/-! ## The program -/

/-- `{ locked, remaining }`. -/
structure Attempt where
  locked : Bool
  remaining : Int
  deriving DecidableEq, Repr

/-- `lockedUntil && lockedUntil.getTime() > Date.now()`. -/
def isLockedNow (lockedUntil : Option Time) : Task Bool :=
  match lockedUntil with
  | none => pure false
  | some t => do
      let now ← ask .dateNow
      pure (decide (now < t))

def revokeAll (userId : UserId) (lockMinutes : Nat) : Task Attempt := do
  ask (.revokeSessions userId)
  pure ⟨true, lockMinutes⟩

def settle (userId : UserId) (maxAttempts lockMinutes : Nat) (row : LoginAccount) : Task Attempt := do
  let nowLocked ← isLockedNow row.lockedUntil
  if nowLocked then revokeAll userId lockMinutes
  else pure ⟨false, max 0 ((maxAttempts : Int) - row.failedAttempts)⟩

/-- `updated.rows[0]!`. -/
def afterIncrement (userId : UserId) (maxAttempts lockMinutes : Nat)
    (r : Except AppError (Option LoginAccount)) : Task Attempt := do
  let updated ← (Prog.ofExcept r : Task (Option LoginAccount))
  let row ← Prog.orRaise updated (AppError.database "Cannot read properties of undefined")
  settle userId maxAttempts lockMinutes row

/-- An attempt on an account that is locked until `t`. -/
def stillLocked (t : Time) : Task Attempt := do
  let now ← ask .dateNow
  pure ⟨true, -(((now : Int) - (t : Nat)) / 60000)⟩

def recordFailedLogin (username : String) (maxAttempts lockMinutes : Nat) : Task Attempt := do
  let found ← ask (.findByUsername username)
  match found with
  | none => pure ⟨true, -1⟩
  | some user => do
      let locked ← isLockedNow user.lockedUntil
      if locked then stillLocked (user.lockedUntil.getD 0)
      else
        .call (.increment user.id maxAttempts lockMinutes)
          (afterIncrement user.id maxAttempts lockMinutes)

/-! ## Side by side -/

/-- A call of `recordFailedLogin` in the pool plays the role of its username. -/
abbrev Attempts := Pool calls AppError World fun _ : String => Attempt

def lockoutRules (maxAttempts lockMinutes : Nat) (userId : UserId) :
    Rules calls AppError World fun _ : String => Attempt where
  serve := Carries
  admits := fun _ _ _ => True
  ends := fun _ _ s successor s' => successor = none ∧ s' = s
  turn := fun s newcomer s' =>
    s'.accounts = s.accounts ∧ s'.increments = s.increments ∧ s'.locks = s.locks ∧ s.now ≤ s'.now ∧
      (∀ session, s'.Live userId session → s.Live userId session) ∧
      ∀ t, newcomer = some t →
        ∃ username, t = ⟨username, recordFailedLogin username maxAttempts lockMinutes⟩

def Unexpired (username : String) (w : World) : Prop := ∀ t ∈ w.locks username, w.now < t

abbrev LockoutRun (maxAttempts lockMinutes : Nat) (userId : UserId) (username : String) :
    Attempts → Attempts → Prop :=
  Relation.ReflTransGen fun P P' =>
    PoolStep (lockoutRules maxAttempts lockMinutes userId) P P' ∧ Unexpired username P'.state

/-! ## Counting -/

section counting

variable {maxAttempts lockMinutes : Nat} {userId : UserId} {username : String} {w w' : World}

structure Counted (maxAttempts : Nat) (userId : UserId) (username : String) (w : World) : Prop where
  ids : ∀ name a, w.accounts name = some a → a.id = userId → name = username
  counter : ∃ a, w.accounts username = some a ∧ a.id = userId ∧
    a.failedAttempts = w.increments username ∧
    (w.increments username < maxAttempts → ∀ t, a.lockedUntil = some t → t ≤ w.now) ∧
    (maxAttempts ≤ w.increments username → ∃ t ∈ w.locks username, a.lockedUntil = some t)

theorem Counted.congr (h : Counted maxAttempts userId username w) (haccounts : w'.accounts = w.accounts)
    (hincrements : w'.increments = w.increments) (hlocks : w'.locks = w.locks) (hnow : w.now ≤ w'.now) :
    Counted maxAttempts userId username w' := by
  obtain ⟨a, ha, hid, hcount, hopen, hlocked⟩ := h.counter
  refine ⟨fun name b hb => h.ids name b (haccounts ▸ hb), a, haccounts ▸ ha, hid, ?_, ?_, ?_⟩
  · rw [hincrements]
    exact hcount
  · rw [hincrements]
    exact fun hlt t ht => Nat.le_trans (hopen hlt t ht) hnow
  · rw [hincrements, hlocks]
    exact hlocked

theorem increments_other {a : LoginAccount} {other : UserId} (ha : w.accounts username = some a)
    (hne : a.id ≠ other) :
    (w.increment other maxAttempts lockMinutes).increments username = w.increments username := by
  simp only [World.increment, ha, Option.any_some, decide_eq_true_eq, if_neg hne]

theorem Counted.increment (h : Counted maxAttempts userId username w) (other : UserId) :
    Counted maxAttempts userId username (w.increment other maxAttempts lockMinutes) := by
  obtain ⟨a, ha, hid, hcount, hopen, hlocked⟩ := h.counter
  constructor
  · intro name b hb hbid
    obtain ⟨c, hc, rfl⟩ := Option.map_eq_some_iff.mp hb
    refine h.ids name c hc ?_
    split at hbid
    · exact hbid
    · exact hbid
  · have hrow : (w.increment other maxAttempts lockMinutes).accounts username =
        some (if a.id = other then a.fail maxAttempts (w.lockEnd lockMinutes) else a) := by
      simp only [World.increment, ha, Option.map_some]
    have hincrements : (w.increment other maxAttempts lockMinutes).increments username =
        if a.id = other then w.increments username + 1 else w.increments username := by
      simp only [World.increment, ha, Option.any_some, decide_eq_true_eq]
    have hlocks : (w.increment other maxAttempts lockMinutes).locks username =
        if a.id = other ∧ maxAttempts ≤ a.failedAttempts + 1 then
          w.lockEnd lockMinutes :: w.locks username
        else w.locks username := by
      simp only [World.increment, ha, Option.any_some, Bool.and_eq_true, decide_eq_true_eq]
    refine ⟨_, hrow, ?_⟩
    rw [hincrements, hlocks]
    by_cases hother : a.id = other
    · simp only [hother, if_true, true_and, LoginAccount.fail]
      by_cases hlast : maxAttempts ≤ a.failedAttempts + 1
      · simp only [hlast, if_true]
        refine ⟨hother ▸ hid, by rw [hcount], fun hlt => ?_, fun _ => ⟨_, List.mem_cons_self, rfl⟩⟩
        omega
      · simp only [hlast, if_false]
        refine ⟨hother ▸ hid, by rw [hcount], fun _ => hopen (by omega), fun hle => ?_⟩
        omega
    · simp only [hother, if_false, false_and]
      exact ⟨hid, hcount, hopen, hlocked⟩

theorem Counted.carries (h : Counted maxAttempts userId username w) {c : Call}
    {r : Except AppError c.Reply} (hc : ∀ id m n, c = .increment id m n → m = maxAttempts)
    (hcarries : Carries c w r w') : Counted maxAttempts userId username w' := by
  cases c with
  | dateNow =>
      obtain ⟨-, rfl⟩ := hcarries
      exact h
  | findByUsername name =>
      obtain ⟨-, rfl⟩ := hcarries
      exact h
  | increment id m n =>
      obtain ⟨rfl, -⟩ := hcarries
      obtain rfl := hc id m n rfl
      exact h.increment id
  | revokeSessions id =>
      obtain ⟨-, rfl⟩ := hcarries
      exact h.congr rfl rfl rfl (Nat.le_refl _)

end counting

/-! ## The calls of a program -/

def Proper (maxAttempts lockMinutes : Nat) : Task Attempt → Prop
  | .ret _ => True
  | .raise _ => True
  | .call c next =>
      (match c, next with
        | .increment id m n, next =>
            m = maxAttempts ∧ n = lockMinutes ∧ next = afterIncrement id maxAttempts lockMinutes
        | _, _ => True) ∧ ∀ r, Proper maxAttempts lockMinutes (next r)

section proper

variable {maxAttempts lockMinutes : Nat}

theorem proper_revokeAll (id : UserId) : Proper maxAttempts lockMinutes (revokeAll id lockMinutes) := by
  refine ⟨trivial, fun r => ?_⟩
  cases r <;> trivial

theorem proper_isLockedNow {lockedUntil : Option Time} {f : Bool → Task Attempt}
    (hf : ∀ locked, Proper maxAttempts lockMinutes (f locked)) :
    Proper maxAttempts lockMinutes (isLockedNow lockedUntil >>= f) := by
  cases lockedUntil with
  | none => exact hf false
  | some t =>
      refine ⟨trivial, fun r => ?_⟩
      cases r with
      | error e => trivial
      | ok now => exact hf _

theorem proper_settle (id : UserId) (row : LoginAccount) :
    Proper maxAttempts lockMinutes (settle id maxAttempts lockMinutes row) := by
  refine proper_isLockedNow fun nowLocked => ?_
  cases nowLocked with
  | false => trivial
  | true => exact proper_revokeAll id

theorem proper_afterIncrement (id : UserId) (r : Except AppError (Option LoginAccount)) :
    Proper maxAttempts lockMinutes (afterIncrement id maxAttempts lockMinutes r) := by
  cases r with
  | error e => trivial
  | ok updated =>
      cases updated with
      | none => trivial
      | some row => exact proper_settle id row

theorem proper_recordFailedLogin (username : String) :
    Proper maxAttempts lockMinutes (recordFailedLogin username maxAttempts lockMinutes) := by
  refine ⟨trivial, fun r => ?_⟩
  cases r with
  | error e => trivial
  | ok found =>
      cases found with
      | none => trivial
      | some user =>
          refine proper_isLockedNow fun locked => ?_
          cases locked with
          | false => exact ⟨⟨rfl, rfl, rfl⟩, proper_afterIncrement user.id⟩
          | true =>
              refine ⟨trivial, fun r => ?_⟩
              cases r <;> trivial

theorem Proper.next {c : Call} {next : Except AppError c.Reply → Task Attempt}
    (h : Proper maxAttempts lockMinutes (.call c next)) (r : Except AppError c.Reply) :
    Proper maxAttempts lockMinutes (next r) :=
  h.2 r

theorem Proper.maxAttempts_eq {c : Call} {next : Except AppError c.Reply → Task Attempt}
    (h : Proper maxAttempts lockMinutes (.call c next)) (id : UserId) (m n : Nat)
    (hc : c = .increment id m n) : m = maxAttempts := by
  subst hc
  exact h.1.1

end proper

/-! ## Runs -/

section runs

variable {maxAttempts lockMinutes : Nat} {userId : UserId} {username : String} {P P' Q : Attempts}

theorem proper_of_poolStep (hproper : ∀ t ∈ P.threads, Proper maxAttempts lockMinutes t.prog)
    (hstep : PoolStep (lockoutRules maxAttempts lockMinutes userId) P P') :
    ∀ t ∈ P'.threads, Proper maxAttempts lockMinutes t.prog := by
  have hS : ∀ t ∈ P.threads, (fun t : Thread calls AppError fun _ : String => Attempt =>
      Proper maxAttempts lockMinutes t.prog) t := hproper
  refine forall_of_poolStep (fun hprog _ _ => hprog.next _) (fun _ hends => ?_) (fun hturn => ?_) hS
    hstep
  · cases hends.1
  · obtain ⟨name, rfl⟩ := hturn.2.2.2.2.2 _ rfl
    exact proper_recordFailedLogin name

theorem counted_of_poolStep (hproper : ∀ t ∈ P.threads, Proper maxAttempts lockMinutes t.prog)
    (hcounted : Counted maxAttempts userId username P.state)
    (hstep : PoolStep (lockoutRules maxAttempts lockMinutes userId) P P') :
    Counted maxAttempts userId username P'.state := by
  cases hstep with
  | @call before after role c next s s' r _ hserve =>
      have hmoved := hproper _ (List.mem_append_right before List.mem_cons_self)
      exact hcounted.carries hmoved.maxAttempts_eq hserve
  | ends hends =>
      obtain ⟨-, rfl⟩ := hends
      exact hcounted
  | turn hturn =>
      obtain ⟨haccounts, hincrements, hlocks, hnow, -⟩ := hturn
      exact hcounted.congr haccounts hincrements hlocks hnow

structure Running (maxAttempts lockMinutes : Nat) (userId : UserId) (username : String)
    (P : Attempts) : Prop where
  proper : ∀ t ∈ P.threads, Proper maxAttempts lockMinutes t.prog
  counted : Counted maxAttempts userId username P.state
  unexpired : Unexpired username P.state

theorem running_of_run (hrun : LockoutRun maxAttempts lockMinutes userId username P Q)
    (h : Running maxAttempts lockMinutes userId username P) :
    Running maxAttempts lockMinutes userId username Q := by
  induction hrun with
  | refl => exact h
  | tail _ hstep ih =>
      exact ⟨proper_of_poolStep ih.proper hstep.1, counted_of_poolStep ih.proper ih.counted hstep.1,
        hstep.2⟩

theorem Running.locked_iff (h : Running maxAttempts lockMinutes userId username P) :
    ∃ a, P.state.accounts username = some a ∧ a.failedAttempts = P.state.increments username ∧
      (a.isLocked P.state.now = true ↔ maxAttempts ≤ P.state.increments username) := by
  obtain ⟨a, ha, -, hcount, hopen, hlocked⟩ := h.counted.counter
  refine ⟨a, ha, hcount, ?_⟩
  constructor
  · intro hnow
    unfold LoginAccount.isLocked at hnow
    cases huntil : a.lockedUntil with
    | none =>
        rw [huntil] at hnow
        cases hnow
    | some t =>
        rw [huntil, Option.any_some, decide_eq_true_eq] at hnow
        refine Nat.le_of_not_lt fun hfew => ?_
        exact absurd (hopen hfew t huntil) (Nat.not_le_of_lt hnow)
  · intro hmany
    obtain ⟨t, ht, huntil⟩ := hlocked hmany
    simp only [LoginAccount.isLocked, huntil, Option.any_some, decide_eq_true_eq]
    exact h.unexpired t ht

/-! ## Revoking -/

/-- The program is about to revoke the sessions: it holds a row with a lock in it, or has seen that
the lock is in force. -/
def Locking (maxAttempts lockMinutes : Nat) (userId : UserId) (locks : List Time)
    (p : Task Attempt) : Prop :=
  (∃ row, ∃ t ∈ locks, row.lockedUntil = some t ∧ p = settle userId maxAttempts lockMinutes row) ∨
    p = revokeAll userId lockMinutes

variable {c : Call} {session : SessionId}

theorem locks_of_carries {w w' : World} {r : Except AppError c.Reply}
    (hcarries : Carries c w r w') : w.locks username ⊆ w'.locks username := by
  cases c with
  | dateNow =>
      obtain ⟨-, rfl⟩ := hcarries
      exact fun _ ht => ht
  | findByUsername name =>
      obtain ⟨-, rfl⟩ := hcarries
      exact fun _ ht => ht
  | increment id m n =>
      obtain ⟨rfl, -⟩ := hcarries
      intro t ht
      simp only [World.increment]
      split
      · exact List.mem_cons_of_mem _ ht
      · exact ht
  | revokeSessions id =>
      obtain ⟨-, rfl⟩ := hcarries
      exact fun _ ht => ht

theorem not_live_revokeSessions (w : World) (userId : UserId) (session : SessionId) :
    ¬ (w.revokeSessions userId).Live userId session := by
  rintro ⟨row, hrow, hid, hlive⟩
  obtain ⟨old, -, rfl⟩ := Option.map_eq_some_iff.mp hrow
  by_cases hmatch : old.userId = userId ∧ old.revokedAt = none
  · rw [if_pos hmatch] at hlive
    cases hlive
  · rw [if_neg hmatch] at hid hlive
    exact hmatch ⟨hid, hlive⟩

theorem live_of_carries {w w' : World} {r : Except AppError c.Reply}
    (hcarries : Carries c w r w') (hlive : w'.Live userId session) : w.Live userId session := by
  cases c with
  | dateNow =>
      obtain ⟨-, rfl⟩ := hcarries
      exact hlive
  | findByUsername name =>
      obtain ⟨-, rfl⟩ := hcarries
      exact hlive
  | increment id m n =>
      obtain ⟨rfl, -⟩ := hcarries
      exact hlive
  | revokeSessions id =>
      obtain ⟨-, rfl⟩ := hcarries
      obtain ⟨row, hrow, hid, hrevoked⟩ := hlive
      obtain ⟨old, hold, rfl⟩ := Option.map_eq_some_iff.mp hrow
      by_cases hmatch : old.userId = id ∧ old.revokedAt = none
      · rw [if_pos hmatch] at hrevoked
        cases hrevoked
      · rw [if_neg hmatch] at hid hrevoked
        exact ⟨old, hold, hid, hrevoked⟩

theorem live_of_poolStep (hstep : PoolStep (lockoutRules maxAttempts lockMinutes userId) P P') (hlive : P'.state.Live userId session) : P.state.Live userId session := by
  cases hstep with
  | call _ hserve => exact live_of_carries hserve hlive
  | ends hends =>
      obtain ⟨-, rfl⟩ := hends
      exact hlive
  | turn hturn => exact hturn.2.2.2.2.1 session hlive

theorem locks_of_poolStep (hstep : PoolStep (lockoutRules maxAttempts lockMinutes userId) P P') :
    P.state.locks username ⊆ P'.state.locks username := by
  cases hstep with
  | call _ hserve => exact locks_of_carries hserve
  | ends hends =>
      obtain ⟨-, rfl⟩ := hends
      exact fun _ ht => ht
  | turn hturn =>
      rw [hturn.2.2.1]
      exact fun _ ht => ht

theorem Locking.mono {locks locks' : List Time} {p : Task Attempt}
    (h : Locking maxAttempts lockMinutes userId locks p) (hlocks : locks ⊆ locks') :
    Locking maxAttempts lockMinutes userId locks' p := by
  obtain ⟨row, t, ht, huntil, heq⟩ | heq := h
  · exact .inl ⟨row, t, hlocks ht, huntil, heq⟩
  · exact .inr heq

theorem Locking.call {w : World} {p : Task Attempt}
    (h : Locking maxAttempts lockMinutes userId (w.locks username) p) (hunexpired : Unexpired username w) :
    ∃ c next, p = .call c next ∧ (∃ r w', Carries c w r w' ∧ w'.now = w.now ∧ w'.locks = w.locks) ∧
      ∀ r w', Carries c w r w' →
        next r = revokeAll userId lockMinutes ∨ ∀ session, ¬ w'.Live userId session := by
  obtain ⟨row, t, ht, huntil, rfl⟩ | rfl := h
  · have hsettle : settle userId maxAttempts lockMinutes row =
        .call .dateNow fun r => (Prog.ofExcept r >>= fun now => pure (decide (now < t))) >>=
          fun nowLocked => if nowLocked then revokeAll userId lockMinutes
            else pure ⟨false, max 0 ((maxAttempts : Int) - row.failedAttempts)⟩ := by
      unfold settle isLockedNow
      rw [huntil]
      rfl
    refine ⟨_, _, hsettle, ⟨_, w, ⟨rfl, rfl⟩, rfl, rfl⟩, fun r w' hcarries => .inl ?_⟩
    obtain ⟨rfl, -⟩ := hcarries
    have hlocked : decide (w.now < t) = true := decide_eq_true (hunexpired t ht)
    show (if decide (w.now < t) = true then revokeAll userId lockMinutes else _) = _
    rw [hlocked]
    rfl
  · refine ⟨_, _, rfl, ⟨_, w.revokeSessions userId, ⟨rfl, rfl⟩, rfl, rfl⟩, fun r w' hcarries => .inr ?_⟩
    obtain ⟨-, rfl⟩ := hcarries
    exact not_live_revokeSessions w userId

theorem locking_of_poolStep (hunexpired : Unexpired username P.state)
    (h : ∃ t ∈ P.threads, Locking maxAttempts lockMinutes userId (P.state.locks username) t.prog)
    (hstep : PoolStep (lockoutRules maxAttempts lockMinutes userId) P P') :
    (∃ t ∈ P'.threads, Locking maxAttempts lockMinutes userId (P'.state.locks username) t.prog) ∨
      ∀ session, ¬ P'.state.Live userId session := by
  obtain ⟨t, ht, hlocking⟩ := h
  have hlocks : P.state.locks username ⊆ P'.state.locks username := locks_of_poolStep hstep
  have hkept := hlocking.mono hlocks
  cases hstep with
  | @call before after role c next s s' r _ hserve =>
      rcases List.mem_append.mp ht with hbefore | hrest
      · exact .inl ⟨t, List.mem_append_left _ hbefore, hkept⟩
      · rcases List.mem_cons.mp hrest with rfl | hafter
        · obtain ⟨c', next', heq, -, hmove⟩ := hlocking.call hunexpired
          cases heq
          obtain hnext | hrevoked := hmove r s' hserve
          · exact .inl ⟨⟨role, next r⟩, List.mem_append_right _ List.mem_cons_self, .inr hnext⟩
          · exact .inr hrevoked
        · exact .inl ⟨t, List.mem_append_right _ (List.mem_cons_of_mem _ hafter), hkept⟩
  | @ends before after role result s s' successor hends =>
      rcases List.mem_append.mp ht with hbefore | hrest
      · exact .inl ⟨t, List.mem_append_left _ hbefore, hkept⟩
      · rcases List.mem_cons.mp hrest with rfl | hafter
        · obtain ⟨c', next', heq, -⟩ := hlocking.call hunexpired
          cases result <;> cases heq
        · exact .inl ⟨t, List.mem_append_right _ (List.mem_append_right _ hafter), hkept⟩
  | turn hturn => exact .inl ⟨t, List.mem_append_right _ ht, hkept⟩

theorem locking_of_run (hrun : LockoutRun maxAttempts lockMinutes userId username P Q)
    (hunexpired : Unexpired username P.state)
    (h : ∃ t ∈ P.threads, Locking maxAttempts lockMinutes userId (P.state.locks username) t.prog) :
    (∃ t ∈ Q.threads, Locking maxAttempts lockMinutes userId (Q.state.locks username) t.prog) ∨
      ∀ session, ¬ Q.state.Live userId session := by
  have hboth : Unexpired username Q.state ∧
      ((∃ t ∈ Q.threads, Locking maxAttempts lockMinutes userId (Q.state.locks username) t.prog) ∨
        ∀ session, ¬ Q.state.Live userId session) := by
    induction hrun with
    | refl => exact ⟨hunexpired, .inl h⟩
    | tail _ hstep ih =>
        obtain ⟨hopen, hlocking | hrevoked⟩ := ih
        · exact ⟨hstep.2, locking_of_poolStep hopen hlocking hstep.1⟩
        · exact ⟨hstep.2, .inr fun session hlive => hrevoked session (live_of_poolStep hstep.1 hlive)⟩
  exact hboth.2

theorem revokes_of_locking (hunexpired : Unexpired username Q.state)
    (h : ∃ t ∈ Q.threads, Locking maxAttempts lockMinutes userId (Q.state.locks username) t.prog) :
    ∃ Q', LockoutRun maxAttempts lockMinutes userId username Q Q' ∧
      ∀ session, ¬ Q'.state.Live userId session := by
  obtain ⟨state, threads⟩ := Q
  obtain ⟨⟨role, prog⟩, ht, hlocking⟩ := h
  obtain ⟨before, after, rfl⟩ := List.append_of_mem ht
  have hmove : ∀ {w : World} {prog : Task Attempt}, Unexpired username w →
      Locking maxAttempts lockMinutes userId (w.locks username) prog →
      ∃ next : Task Attempt, ∃ w', Unexpired username w' ∧
        (next = revokeAll userId lockMinutes ∨ ∀ session, ¬ w'.Live userId session) ∧
        LockoutRun maxAttempts lockMinutes userId username ⟨w, before ++ ⟨role, prog⟩ :: after⟩
          ⟨w', before ++ ⟨role, next⟩ :: after⟩ := by
    intro w prog hopen hlocking
    obtain ⟨c, next, rfl, ⟨r, w', hcarries, hnow, hlocks⟩, hdone⟩ := hlocking.call hopen
    have hopen' : Unexpired username w' := by
      unfold Unexpired
      rw [hnow, hlocks]
      exact hopen
    exact ⟨next r, w', hopen', hdone r w' hcarries, .single ⟨.call trivial hcarries, hopen'⟩⟩
  obtain ⟨next, w', hopen', hnext | hrevoked, hrun⟩ := hmove hunexpired hlocking
  · subst hnext
    have hcarries : Carries (.revokeSessions userId) w' (.ok ()) (w'.revokeSessions userId) :=
      ⟨rfl, rfl⟩
    exact ⟨_, hrun.tail ⟨.call trivial hcarries, hopen'⟩, not_live_revokeSessions w' userId⟩
  · exact ⟨_, hrun, hrevoked⟩

theorem locking_of_lock (h : Running maxAttempts lockMinutes userId username P)
    (hstep : PoolStep (lockoutRules maxAttempts lockMinutes userId) P P')
    (hbefore : P.state.increments username < maxAttempts)
    (hafter : maxAttempts ≤ P'.state.increments username) : ∃ before role next after r,
      P.threads = before ++ ⟨role, .call (.increment userId maxAttempts lockMinutes) next⟩ :: after ∧
        P'.threads = before ++ ⟨role, next r⟩ :: after ∧
        Locking maxAttempts lockMinutes userId (P'.state.locks username) (next r) := by
  cases hstep with
  | @call before after role c next s s' r _ hserve =>
      have hproper := h.proper _ (List.mem_append_right before List.mem_cons_self)
      cases c with
      | dateNow =>
          obtain ⟨-, rfl⟩ := hserve
          exact absurd hafter (Nat.not_le_of_lt hbefore)
      | findByUsername name =>
          obtain ⟨-, rfl⟩ := hserve
          exact absurd hafter (Nat.not_le_of_lt hbefore)
      | revokeSessions id =>
          obtain ⟨-, rfl⟩ := hserve
          exact absurd hafter (Nat.not_le_of_lt hbefore)
      | increment id m n =>
          obtain ⟨⟨rfl, rfl, rfl⟩, -⟩ := hproper
          obtain ⟨rfl, hreply⟩ := hserve
          obtain ⟨a, ha, hid, -⟩ := h.counted.counter
          have hother : a.id = id := by
            by_contra hne
            have hsame : (s.increment id m n).increments username = s.increments username :=
              increments_other ha hne
            rw [hsame] at hafter
            exact absurd hafter (Nat.not_le_of_lt hbefore)
          obtain rfl : userId = id := hid.symm.trans hother
          refine ⟨before, role, _, after, r, rfl, rfl, ?_⟩
          have hcounted : Counted m userId username (s.increment userId m n) :=
            h.counted.increment userId
          obtain ⟨b, hb, hbid, -, -, hlocked⟩ := hcounted.counter
          obtain ⟨t, ht, huntil⟩ := hlocked hafter
          -- the increment returns the row it has written, which is the account's
          obtain ⟨name, row, hrow, hrowid, rfl⟩ | ⟨hnone, -⟩ := hreply
          · obtain rfl := hcounted.ids name row hrow hrowid
            cases hb.symm.trans hrow
            exact .inl ⟨_, t, ht, huntil, rfl⟩
          · exact absurd hid (hnone username a ha)
  | ends hends =>
      obtain ⟨-, rfl⟩ := hends
      exact absurd hafter (Nat.not_le_of_lt hbefore)
  | turn hturn =>
      rw [hturn.2.1] at hafter
      exact absurd hafter (Nat.not_le_of_lt hbefore)

/-- What a lock brings about: the increment that set it belongs to a call that is about to revoke the
sessions; such a call is there until no session that lived at the lock lives any more, and it needs
nothing else for that. -/
def LockRevokes (maxAttempts lockMinutes : Nat) (userId : UserId) (username : String)
    (P P' : Attempts) : Prop :=
  (∃ before role next after r,
    P.threads = before ++ ⟨role, .call (.increment userId maxAttempts lockMinutes) next⟩ :: after ∧
      P'.threads = before ++ ⟨role, next r⟩ :: after ∧
      Locking maxAttempts lockMinutes userId (P'.state.locks username) (next r)) ∧
  ∀ Q, LockoutRun maxAttempts lockMinutes userId username P' Q →
    (∀ session, P'.state.Live userId session → ¬ Q.state.Live userId session) ∨
    (∃ t ∈ Q.threads, Locking maxAttempts lockMinutes userId (Q.state.locks username) t.prog) ∧
      ∃ Q', LockoutRun maxAttempts lockMinutes userId username Q Q' ∧
        ∀ session, P'.state.Live userId session → ¬ Q'.state.Live userId session

/-- **Failed logins are counted, and the last one allowed locks the account and revokes its
sessions**, however the calls interleave. -/
theorem failed_logins_exact {w : World} {a : LoginAccount} (ha : w.accounts username = some a)
    (hid : a.id = userId) (hids : ∀ name b, w.accounts name = some b → b.id = userId → name = username)
    (hzero : a.failedAttempts = 0 ∧ w.increments username = 0) (hopen : a.isLocked w.now = false)
    (hlocks : w.locks username = []) (hmax : 1 ≤ maxAttempts)
    (hrun : LockoutRun maxAttempts lockMinutes userId username ⟨w, []⟩ P) :
    (∃ b, P.state.accounts username = some b ∧ b.failedAttempts = P.state.increments username ∧
      (b.isLocked P.state.now = true ↔ maxAttempts ≤ P.state.increments username)) ∧
    ∀ P', PoolStep (lockoutRules maxAttempts lockMinutes userId) P P' → Unexpired username P'.state →
      P.state.increments username < maxAttempts → maxAttempts ≤ P'.state.increments username →
      LockRevokes maxAttempts lockMinutes userId username P P' := by
  have hstart : Running maxAttempts lockMinutes userId username ⟨w, []⟩ := by
    refine ⟨fun t ht => absurd ht List.not_mem_nil, ⟨hids, a, ha, hid, ?_, fun _ t ht => ?_, fun hle => ?_⟩,
      fun t ht => ?_⟩
    · rw [hzero.1]
      exact hzero.2.symm
    · unfold LoginAccount.isLocked at hopen
      rw [ht, Option.any_some, decide_eq_false_iff_not] at hopen
      exact Nat.le_of_not_lt hopen
    · change maxAttempts ≤ w.increments username at hle
      omega
    · rw [hlocks] at ht
      exact absurd ht List.not_mem_nil
  have h := running_of_run hrun hstart
  refine ⟨h.locked_iff, fun P' hstep hunexpired hbefore hafter => ?_⟩
  have hlocking := locking_of_lock h hstep hbefore hafter
  refine ⟨hlocking, fun Q hrest => ?_⟩
  obtain ⟨before, role, next, after, r, -, hthreads, hnext⟩ := hlocking
  have hrunning := running_of_run hrest
    ⟨proper_of_poolStep h.proper hstep, counted_of_poolStep h.proper h.counted hstep, hunexpired⟩
  have hthere : ∃ t ∈ P'.threads,
      Locking maxAttempts lockMinutes userId (P'.state.locks username) t.prog :=
    ⟨_, by rw [hthreads]; exact List.mem_append_right _ List.mem_cons_self, hnext⟩
  obtain hlocking | hrevoked := locking_of_run hrest hunexpired hthere
  · obtain ⟨Q', hrun', hrevoked⟩ := revokes_of_locking hrunning.unexpired hlocking
    exact .inr ⟨hlocking, Q', hrun', fun session _ => hrevoked session⟩
  · exact .inl fun session _ => hrevoked session

/-- An account of `ann` with a session, before any attempt. -/
def World.fresh : World where
  now := 0
  accounts := fun name => if name = "ann" then some ⟨12, 0, none⟩ else none
  sessions := fun session => if session = 1 then some ⟨12, none⟩ else none
  increments := fun _ => 0
  locks := fun _ => []

theorem fresh_ids : ∀ name b, World.fresh.accounts name = some b → b.id = 12 → name = "ann" := by
  intro name b hb _
  by_contra hne
  have hnone : World.fresh.accounts name = none := if_neg hne
  rw [hnone] at hb
  cases hb

theorem fresh_run : LockoutRun 1 15 12 "ann" ⟨World.fresh, []⟩
    ⟨World.fresh.increment 12 1 15, [⟨"ann", afterIncrement 12 1 15 (.ok (some ⟨12, 1, some 900000⟩))⟩]⟩ := by
  have hfresh : Unexpired "ann" World.fresh := fun t ht => absurd ht List.not_mem_nil
  have hlocked : Unexpired "ann" (World.fresh.increment 12 1 15) := by
    intro t ht
    obtain rfl := List.mem_singleton.mp ht
    decide
  have hturn : (lockoutRules 1 15 12).turn World.fresh
      (some ⟨"ann", recordFailedLogin "ann" 1 15⟩) World.fresh :=
    ⟨rfl, rfl, rfl, Nat.le_refl _, fun _ h => h, fun t ht => ⟨"ann", (Option.some.inj ht).symm⟩⟩
  have hcomes : PoolStep (lockoutRules 1 15 12) ⟨World.fresh, []⟩
      ⟨World.fresh, [⟨"ann", recordFailedLogin "ann" 1 15⟩]⟩ := .turn hturn
  have hfinds : PoolStep (lockoutRules 1 15 12)
      ⟨World.fresh, [⟨"ann", recordFailedLogin "ann" 1 15⟩]⟩
      ⟨World.fresh, [⟨"ann", .call (.increment 12 1 15) (afterIncrement 12 1 15)⟩]⟩ := by
    have hserve : (lockoutRules 1 15 12).serve (Call.findByUsername "ann") World.fresh
        (.ok (some ⟨12, 0, none⟩)) World.fresh := ⟨rfl, rfl⟩
    exact .callFirst trivial hserve
  have hcounts : PoolStep (lockoutRules 1 15 12)
      ⟨World.fresh, [⟨"ann", .call (.increment 12 1 15) (afterIncrement 12 1 15)⟩]⟩
      ⟨World.fresh.increment 12 1 15,
        [⟨"ann", afterIncrement 12 1 15 (.ok (some ⟨12, 1, some 900000⟩))⟩]⟩ := by
    have hserve : (lockoutRules 1 15 12).serve (Call.increment 12 1 15) World.fresh
        (.ok (some ⟨12, 1, some 900000⟩)) (World.fresh.increment 12 1 15) := ⟨rfl, .inl ⟨"ann", ⟨12, 1, some 900000⟩, rfl, rfl, rfl⟩⟩
    exact .callFirst trivial hserve
  exact ((Relation.ReflTransGen.single ⟨hcomes, hfresh⟩).tail ⟨hfinds, hfresh⟩).tail ⟨hcounts, hlocked⟩

theorem failed_logins_exact_sample :
    ∃ b, (World.fresh.increment 12 1 15).accounts "ann" = some b ∧ b.isLocked 0 = true := by
  obtain ⟨⟨b, hb, -, hlocked⟩, -⟩ :=
    failed_logins_exact (a := ⟨12, 0, none⟩) rfl rfl fresh_ids ⟨rfl, rfl⟩ rfl rfl (by decide) fresh_run
  exact ⟨b, hb, hlocked.mpr (by decide)⟩

end runs

end ProxVM.Lockout
