import ProxVM.Lib.Solo
import ProxVM.Registration.Requests

/-!
# Approvals

What an approval knows of its transaction is a state of its own (`Own`): the record of its client,
and the row it has locked.  The approval owes to the others that it calls on behalf of its client
only, and that it commits only what is due (`Owes`, `MayCommit`): the deletion of an expired
request, or the account of a pending request with its approval.
-/

namespace ProxVM.Registration

open Tables Interaction Context

/-! ## What an approval knows -/

structure Own where
  txn : Option Txn
  row : Option RegistrationRow

def Own.update (o : Own) (f : Txn → Txn) : Own := { o with txn := o.txn.map f }

def Tells : (c : Call) → Own → c.Reply → Own → Prop
  | .dateNow, o, now, o' =>
      o' = o ∧ ∀ txn, o.txn = some txn → ∀ lock, txn.locked = some lock → lock.2 ≤ now
  | .connect client, _, _, o' => o' = ⟨some (Txn.idle client), none⟩
  | .begin _, o, _, o' => ∃ now, o' = o.update fun txn => { txn with began := some now }
  | .selectForUpdate _ id, o, found, o' =>
      match found with
      | none => o' = o
      | some row => row.id = id ∧ ∃ now,
          o' = ⟨o.txn.map fun txn => { txn with locked := some (id, now) }, some row⟩
  | .deleteRequest _ id, o, _, o' => o' = o.update fun txn => { txn with deleted := some id }
  | .insertUser _ row, o, _, o' => o' = o.update fun txn => { txn with inserted := some row }
  | .approveRequest _ id actorId, o, _, o' =>
      o' = o.update fun txn => { txn with approved := some (id, actorId) }
  | .commit _, o, _, o' => o' = ⟨o.txn.map fun txn => Txn.idle txn.client, none⟩
  | .rollback _, o, _, o' => o' = ⟨o.txn.map fun txn => Txn.idle txn.client, none⟩
  | .release _, _, _, o' => o' = ⟨none, none⟩
  | _, o, _, o' => o' = o

def Learns (c : Call) (o : Own) (r : Except AppError c.Reply) (o' : Own) : Prop :=
  match r with
  | .ok a => Tells c o a o'
  | .error _ => o' = if c.sure then ⟨o.txn.map fun txn => Txn.idle txn.client, none⟩ else o

def MayCommit (txn : Txn) (row : RegistrationRow) : Prop :=
  row.status = .pending ∧ ∃ lockedAt, txn.locked = some (row.id, lockedAt) ∧
    ((txn.deleted = some row.id ∧ txn.inserted = none ∧ txn.approved = none) ∨
      txn.deleted = none ∧ lockedAt ≤ row.createdAt + registrationPendingMaxMs ∧
        ∃ account actorId, txn.inserted = some account ∧ account.username = row.username ∧
          txn.approved = some (row.id, actorId))

def Owes (client : ClientId) : Call → Own → Prop
  | .dateNow, _ => True
  | .findByUsername _, _ => True
  | .connect k, _ => k = client
  | .begin k, _ => k = client
  | .selectForUpdate k _, o => k = client ∧ o.txn.isSome
  | .deleteRequest k _, _ => k = client
  | .insertUser k _, _ => k = client
  | .deleteRoles _ _, _ => True
  | .insertRole _ _ _, _ => True
  | .selectUser _ _, _ => True
  | .approveRequest k _ _, _ => k = client
  | .commit k, o => k = client ∧ ∃ txn row, o.txn = some txn ∧ o.row = some row ∧ MayCommit txn row
  | .rollback k, _ => k = client
  | .release k, _ => k = client
  | _, _ => False

abbrev knowing (client : ClientId) : Context calls AppError Own := aloneOwing Learns (Owes client)

section approval

variable {input : ApproveInput} {o : Own}

theorem holds_ask {α : Type} {client : ClientId} {c : Call} {f : c.Reply → Task α} (howes : Owes client c o)
    (hf : ∀ a o', Tells c o a o' → (knowing client).holds (f a) (fun _ _ => True) o') :
    (knowing client).holds (ask c >>= f) (fun _ _ => True) o :=
  holds_aloneOwing_bind.mpr ⟨howes, fun a o' h => hf a o' h, fun _ _ _ => trivial⟩

theorem holds_insertRoles {client userId : Nat} (roles : List Role) {Q : Own → Prop} (hQ : Q o) :
    (knowing client).holds (forM roles fun role => ask (.insertRole client userId role))
      (fun _ o' => Q o') o := by
  induction roles generalizing o with
  | nil => exact hQ
  | cons role roles ih =>
      rw [List.forM_cons]
      refine holds_aloneOwing_bind.mpr ⟨trivial, ?_, ?_⟩
      · rintro a o' rfl
        exact ih hQ
      · rintro e o' rfl
        exact hQ

theorem holds_createUser {client : ClientId} {account : AccountRow} {roles : List Role} :
    (knowing client).holds (createUser client account roles)
      (fun r o' => ∀ a, r = .ok a → o' = o.update fun txn => { txn with inserted := some account })
      o := by
  refine holds_aloneOwing_bind.mpr ⟨rfl, ?_, fun _ _ _ _ h => nomatch h⟩
  rintro a o₁ rfl
  refine holds_bind.mpr (holds_aloneOwing_bind.mpr ⟨trivial, ?_, fun _ _ _ _ h => nomatch h⟩)
  rintro a o₂ rfl
  refine holds_mono (holds_insertRoles (Q := fun o' =>
    o' = o.update fun txn => { txn with inserted := some account }) roles rfl) fun r o₃ ho₃ => ?_
  cases r with
  | error e => exact fun _ h => nomatch h
  | ok _ =>
      refine holds_aloneOwing_bind.mpr ⟨trivial, ?_, fun _ _ _ _ h => nomatch h⟩
      rintro found o₄ rfl
      cases found with
      | none => exact fun _ h => nomatch h
      | some user => exact fun _ _ => ho₃

theorem holds_approveRow {txn : Txn} {row : RegistrationRow} {lockedAt : Time}
    (hpending : row.status = .pending) (hlocked : txn.locked = some (row.id, lockedAt))
    (hid : row.id = input.id) (htime : lockedAt ≤ row.createdAt + registrationPendingMaxMs)
    (hdeleted : txn.deleted = none) :
    (knowing input.client).holds (approveRow input row) (fun _ _ => True) ⟨some txn, some row⟩ := by
  refine holds_ask trivial fun taken o' ho' => ?_
  obtain rfl := ho'
  split
  · trivial
  · refine holds_bind.mpr (holds_mono holds_createUser fun r o₁ ho₁ => ?_)
    cases r with
    | error e => trivial
    | ok user =>
        obtain rfl := ho₁ user rfl
        refine holds_ask rfl ?_
        rintro _ _ rfl
        refine holds_ask ⟨rfl, _, row, rfl, rfl, hpending, lockedAt, hlocked, .inr ?_⟩
          fun _ _ _ => trivial
        exact ⟨hdeleted, htime, _, input.actorId, rfl, rfl, by rw [hid]⟩

theorem holds_approveTxn : (knowing input.client).holds (approveTxn input) (fun _ _ => True)
      ⟨some (Txn.idle input.client), none⟩ := by
  refine holds_ask rfl ?_
  rintro _ _ ⟨began, rfl⟩
  refine holds_ask ⟨rfl, rfl⟩ fun found o₁ ho₁ => ?_
  cases found with
  | none => trivial
  | some row =>
      obtain ⟨hid, lockedAt, rfl⟩ := ho₁
      refine holds_ite.mpr ⟨fun _ => trivial, fun hpending => ?_⟩
      have hstatus : row.status = .pending := not_not.mp hpending
      refine holds_ask trivial ?_
      rintro now _ ⟨rfl, hnow⟩
      have hlooked : lockedAt ≤ now := hnow _ rfl _ rfl
      refine holds_ite.mpr ⟨fun _ => ?_, fun hfresh => ?_⟩
      · -- An expired request is deleted in a transaction of its own.
        refine holds_ask rfl ?_
        rintro _ _ rfl
        refine holds_ask ⟨rfl, _, row, rfl, rfl, hstatus, lockedAt, ?_, .inl ?_⟩ fun _ _ _ => trivial
        · rw [← hid]
        · exact ⟨congrArg some hid.symm, rfl, rfl⟩
      · have htime : lockedAt ≤ row.createdAt + registrationPendingMaxMs :=
          Nat.le_trans hlooked (Nat.le_of_not_lt hfresh)
        exact holds_approveRow hstatus (by rw [← hid]) hid htime rfl

theorem holds_approve (input : ApproveInput) :
    (knowing input.client).holds (approve input) (fun _ _ => True) ⟨none, none⟩ := by
  refine holds_ask rfl ?_
  rintro _ _ rfl
  refine holds_bind.mpr (holds_tryCatch.mpr (holds_bind.mpr
    (holds_mono holds_approveTxn fun r o₁ _ => ?_)))
  have hrelease : ∀ (result : Except AppError UserId) (o' : Own), (knowing input.client).holds
      (ask (.release input.client) >>= fun _ => Prog.ofExcept result) (fun _ _ => True) o' :=
    fun result _ => holds_ask rfl fun _ _ _ => holds_ofExcept.mpr trivial
  cases r with
  | ok userId => exact hrelease _ o₁
  | error e =>
      refine holds_bind.mpr (holds_tryCatch.mpr (holds_aloneOwing_perform.mpr ⟨rfl, ?_⟩))
      intro r o₂ _
      cases r with
      | ok _ => exact hrelease _ o₂
      | error e' => exact hrelease _ o₂

end approval

/-! ## What is true of the tables -/

structure Truth (w : World) (client : ClientId) (o : Own) : Prop where
  record : w.transactions.find? client = o.txn
  row : ∀ row, o.row = some row → row ∈ w.requests ∧
    ∃ txn lockedAt, o.txn = some txn ∧ txn.locked = some (row.id, lockedAt)
  lock : ∀ txn, o.txn = some txn → ∀ lock, txn.locked = some lock → lock.2 ≤ w.now

structure TxnsApart (txn other : Txn) : Prop where
  locks : ∀ id t t', txn.locked = some (id, t) → other.locked ≠ some (id, t')
  inserts : ∀ row row', txn.inserted = some row → other.inserted = some row' →
    row.username ≠ row'.username ∧ row.id ≠ row'.id

def InsertsNew (users : Table AccountRow.id) (txn : Txn) : Prop :=
  ∀ row, txn.inserted = some row → ∀ user ∈ users, user.username ≠ row.username ∧ user.id ≠ row.id

structure Isolated (w : World) : Prop where
  apart : ∀ txn ∈ w.transactions, ∀ other ∈ w.transactions, txn.client ≠ other.client →
    TxnsApart txn other
  new : ∀ txn ∈ w.transactions, InsertsNew w.users txn

structure Beside (client : Option ClientId) (w w' : World) : Prop where
  now : w.now ≤ w'.now
  records : ∀ k, some k ≠ client → w'.transactions.find? k = w.transactions.find? k
  rows : ∀ txn ∈ w.transactions, some txn.client ≠ client → ∀ row ∈ w.requests, ∀ lockedAt,
    txn.locked = some (row.id, lockedAt) → row ∈ w'.requests

section tables

variable {w w' : World} {client : ClientId} {o : Own}

theorem TxnsApart.symm {txn other : Txn} (h : TxnsApart txn other) : TxnsApart other txn where
  locks _ t t' hother htxn := h.locks _ t' t htxn hother
  inserts row row' hother htxn :=
    ⟨(h.inserts row' row htxn hother).1.symm, (h.inserts row' row htxn hother).2.symm⟩

theorem Truth.beside {beside : Option ClientId} (h : Truth w client o)
    (hbeside : Beside beside w w') (hne : some client ≠ beside) : Truth w' client o where
  record := (hbeside.records client hne).trans h.record
  row := by
    intro row hrow
    obtain ⟨hmem, txn, lockedAt, htxn, hlocked⟩ := h.row row hrow
    refine ⟨?_, txn, lockedAt, htxn, hlocked⟩
    have hfound := h.record.trans htxn
    refine hbeside.rows txn (Table.mem_of_find? hfound) ?_ row hmem lockedAt hlocked
    rw [show txn.client = client from Table.key_of_find? hfound]
    exact hne
  lock txn htxn lock hlock := Nat.le_trans (h.lock txn htxn lock hlock) hbeside.now

theorem not_locked {beside : Option ClientId} {id : RequestId}
    (hfree : w.lockedBeside beside id = false) {txn : Txn} (htxn : txn ∈ w.transactions)
    (hne : some txn.client ≠ beside) (lockedAt : Time) : txn.locked ≠ some (id, lockedAt) := by
  intro hlocked
  have hnone := List.any_eq_false.mp hfree txn htxn
  simp [hne, hlocked] at hnone

theorem Isolated.rewrite (h : Isolated w)
    (hrecords : ∀ k, some k ≠ some client → w'.transactions.find? k = w.transactions.find? k)
    (hothers : ∀ txn ∈ w.transactions, txn.client ≠ client → InsertsNew w'.users txn)
    (hnew : ∀ txn, w'.transactions.find? client = some txn →
      (∀ other ∈ w.transactions, other.client ≠ client → TxnsApart txn other) ∧
        InsertsNew w'.users txn) : Isolated w' := by
  have hcases : ∀ txn ∈ w'.transactions,
      w'.transactions.find? client = some txn ∨ txn ∈ w.transactions ∧ txn.client ≠ client := by
    intro txn htxn
    have hfound : w'.transactions.find? txn.client = some txn := Table.find?_of_mem htxn
    by_cases hclient : txn.client = client
    · exact .inl (hclient ▸ hfound)
    · rw [hrecords txn.client fun h => hclient (Option.some.inj h)] at hfound
      exact .inr ⟨Table.mem_of_find? hfound, hclient⟩
  constructor
  · intro txn htxn other hother hne
    rcases hcases txn htxn with hown | ⟨hold, htxnne⟩
    · rcases hcases other hother with hown' | ⟨hold', hotherne⟩
      · exact absurd (congrArg Txn.client (Option.some.inj (hown.symm.trans hown'))) hne
      · exact (hnew txn hown).1 other hold' hotherne
    · rcases hcases other hother with hown' | ⟨hold', hotherne⟩
      · exact ((hnew other hown').1 txn hold htxnne).symm
      · exact h.apart txn hold other hold' hne
  · intro txn htxn
    rcases hcases txn htxn with hown | ⟨hold, hne⟩
    · exact (hnew txn hown).2
    · exact hothers txn hold hne

theorem find?_updateTxn {f : Txn → Txn} (hf : ∀ txn, (f txn).client = txn.client) (k : ClientId) :
    (w.updateTxn client f hf).transactions.find? k =
      if k = client then (w.transactions.find? k).map f else w.transactions.find? k := by
  rw [World.updateTxn, Table.find?_updateWhere]
  cases hfound : w.transactions.find? k with
  | none => split <;> rfl
  | some txn =>
      have hkey : txn.client = k := Table.key_of_find? hfound
      by_cases hclient : k = client
      · simp only [Option.map_some, hkey, hclient, decide_true, if_true]
      · simp only [Option.map_some, hkey, hclient, decide_false, Bool.false_eq_true, if_false]

end tables

end ProxVM.Registration
