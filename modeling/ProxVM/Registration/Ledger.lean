import ProxVM.Registration.Approvals

/-!
# Decisions and accounts

A step takes no decision or one, and the table of the requests follows (`Evolves`).  A step either
makes no account (`Quiet`) or approves a request and makes its account (`Approves`).  Both keep that
decisions and decided requests agree (`Ledger`) and that accounts and approvals do (`Accounts`).

The calls outside of the transactions make no account, and leave the locked rows alone
(`plain_serves`).
-/

namespace ProxVM.Registration

open Tables Interaction

/-! ## What a step makes of the requests -/

structure Evolves (requests requests' : Table RegistrationRow.id)
    (taken : List (RequestId × RegistrationStatus)) : Prop where
  kept : ∀ row ∈ requests, row.status ≠ .pending → ∃ row' ∈ requests', row'.id = row.id ∧
    row'.status = row.status ∧ row'.username = row.username ∧ row'.createdAt = row.createdAt
  old : ∀ row' ∈ requests', row'.status ≠ .pending → (row'.id, row'.status) ∈ taken ∨
    ∃ row ∈ requests, row.id = row'.id ∧ row.status = row'.status
  decided : ∀ decision ∈ taken, decision.2 ≠ .pending ∧
    (∃ row ∈ requests, row.id = decision.1 ∧ row.status = .pending) ∧
      ∃ row' ∈ requests', row'.id = decision.1 ∧ row'.status = decision.2
  single : (taken.map Prod.fst).Nodup

section evolves

variable {requests requests' : Table RegistrationRow.id}

theorem Evolves.same : Evolves requests requests [] where
  kept row hrow _ := ⟨row, hrow, rfl, rfl, rfl, rfl⟩
  old row hrow _ := .inr ⟨row, hrow, rfl, rfl⟩
  decided _ h := absurd h List.not_mem_nil
  single := List.nodup_nil

variable {matched : RegistrationRow → Bool} {f : RegistrationRow → RegistrationRow}

theorem Evolves.delete (hmatched : ∀ row ∈ requests, matched row = true → row.status = .pending) :
    Evolves requests (requests.deleteWhere matched) [] where
  kept := by
    intro row hrow hdecided
    refine ⟨row, Table.mem_deleteWhere.mpr ⟨hrow, ?_⟩, rfl, rfl, rfl, rfl⟩
    exact Bool.eq_false_iff.mpr fun h => hdecided (hmatched row hrow h)
  old row hrow _ := .inr ⟨row, (Table.mem_deleteWhere.mp hrow).1, rfl, rfl⟩
  decided _ h := absurd h List.not_mem_nil
  single := List.nodup_nil

theorem Evolves.insert {new : RegistrationRow} (hinsert : requests.insert? new = some requests')
    (hnew : new.status = .pending) : Evolves requests requests' [] where
  kept row hrow _ :=
    ⟨row, ((Table.insert?_eq_some hinsert).2 row).mpr (.inl hrow), rfl, rfl, rfl, rfl⟩
  old := by
    intro row hrow hdecided
    rcases ((Table.insert?_eq_some hinsert).2 row).mp hrow with hold | rfl
    · exact .inr ⟨row, hold, rfl, rfl⟩
    · exact absurd hnew hdecided
  decided _ h := absurd h List.not_mem_nil
  single := List.nodup_nil

theorem Evolves.update {hf : ∀ row, (f row).id = row.id} (hsame : ∀ row, (f row).status = row.status ∧
      (f row).username = row.username ∧ (f row).createdAt = row.createdAt) :
    Evolves requests (requests.updateWhere matched f hf) [] where
  kept := by
    intro row hrow _
    refine ⟨_, Table.mem_updateWhere.mpr ⟨row, hrow, rfl⟩, ?_⟩
    split
    · exact ⟨hf row, hsame row⟩
    · exact ⟨rfl, rfl, rfl, rfl⟩
  old := by
    intro row' hrow' _
    obtain ⟨row, hrow, rfl⟩ := Table.mem_updateWhere.mp hrow'
    refine .inr ⟨row, hrow, ?_⟩
    split
    · exact ⟨(hf row).symm, (hsame row).1.symm⟩
    · exact ⟨rfl, rfl⟩
  decided _ h := absurd h List.not_mem_nil
  single := List.nodup_nil

theorem Evolves.decide {row : RegistrationRow} {status : RegistrationStatus}
    (hrow : row ∈ requests) (hpending : row.status = .pending) (hmatches : matched row = true)
    (honly : ∀ other ∈ requests, matched other = true → other.id = row.id)
    (hupdate : ∀ row', row' ∈ requests' ↔ ∃ row ∈ requests, row' = if matched row = true then f row else row)
    (hf : ∀ row, (f row).id = row.id ∧ (f row).status = status) (hdecides : status ≠ .pending) :
    Evolves requests requests' [(row.id, status)] where
  kept := by
    intro other hother hdecided
    refine ⟨other, (hupdate _).mpr ⟨other, hother, ?_⟩, rfl, rfl, rfl, rfl⟩
    refine (if_neg fun hmatched => hdecided ?_).symm
    rw [Table.eq_of_key_eq hother hrow (honly other hother hmatched)]
    exact hpending
  old := by
    intro row' hrow' _
    obtain ⟨other, hother, rfl⟩ := (hupdate _).mp hrow'
    split
    · rename_i hmatched
      rw [(hf other).1, (hf other).2, honly other hother hmatched]
      exact .inl List.mem_cons_self
    · exact .inr ⟨other, hother, rfl, rfl⟩
  decided := by
    intro decision hdecision
    obtain rfl := List.mem_singleton.mp hdecision
    refine ⟨hdecides, ⟨row, hrow, rfl, hpending⟩, f row, ?_, hf row⟩
    exact (hupdate _).mpr ⟨row, hrow, (if_pos hmatches).symm⟩
  single := List.nodup_singleton _

end evolves

structure Ledger (requests : Table RegistrationRow.id)
    (decisions : List (RequestId × RegistrationStatus)) : Prop where
  once : (decisions.map Prod.fst).Nodup
  stands : ∀ decision ∈ decisions, decision.2 ≠ .pending ∧
    ∃ row ∈ requests, row.id = decision.1 ∧ row.status = decision.2
  recorded : ∀ row ∈ requests, row.status ≠ .pending → (row.id, row.status) ∈ decisions

theorem Ledger.evolves {requests requests' : Table RegistrationRow.id}
    {decisions taken : List (RequestId × RegistrationStatus)} (h : Ledger requests decisions)
    (hevolves : Evolves requests requests' taken) : Ledger requests' (taken ++ decisions) where
  once := by
    rw [List.map_append, List.nodup_append]
    refine ⟨hevolves.single, h.once, ?_⟩
    rintro _ htaken _ hdecision rfl
    -- A request that is decided now was pending.
    obtain ⟨new, hnew, hid⟩ := List.mem_map.mp htaken
    obtain ⟨old, hold, hid'⟩ := List.mem_map.mp hdecision
    obtain ⟨-, ⟨row, hrow, hrowid, hpending⟩, -⟩ := hevolves.decided new hnew
    obtain ⟨hdecided, row', hrow', hrowid', hstatus⟩ := h.stands old hold
    have hsame : row = row' :=
      Table.eq_of_key_eq hrow hrow' (by rw [hrowid, hrowid', hid, hid'])
    rw [← hstatus, ← hsame] at hdecided
    exact hdecided hpending
  stands := by
    intro decision hmem
    rcases List.mem_append.mp hmem with hnew | hold
    · obtain ⟨hdecided, -, hrow⟩ := hevolves.decided decision hnew
      exact ⟨hdecided, hrow⟩
    · obtain ⟨hdecided, row, hrow, hid, hstatus⟩ := h.stands decision hold
      obtain ⟨row', hrow', hid', hstatus', -⟩ :=
        hevolves.kept row hrow (by rw [hstatus]; exact hdecided)
      exact ⟨hdecided, row', hrow', hid'.trans hid, hstatus'.trans hstatus⟩
  recorded := by
    intro row' hrow' hdecided
    rcases hevolves.old row' hrow' hdecided with hnew | ⟨row, hrow, hid, hstatus⟩
    · exact List.mem_append_left _ hnew
    · rw [← hid, ← hstatus]
      exact List.mem_append_right _ (h.recorded row hrow (by rw [hstatus]; exact hdecided))

structure Accounts (start : Table AccountRow.id) (w : World) : Prop where
  made : ∀ creation ∈ w.created, (creation.requestId, .approved) ∈ w.decisions ∧
    ∃ row ∈ w.requests, row.id = creation.requestId ∧ row.status = .approved ∧
      row.username = creation.account.username ∧
        creation.lockedAt ≤ row.createdAt + registrationPendingMaxMs
  approved : ∀ id, (id, .approved) ∈ w.decisions → ∃ creation ∈ w.created, creation.requestId = id
  once : (w.created.map Creation.requestId).Nodup
  users : ∀ user, user ∈ w.users ↔ user ∈ start ∨ ∃ creation ∈ w.created, creation.account = user
  usernames : ∀ user ∈ w.users, ∀ other ∈ w.users, user.username = other.username → user = other

structure Quiet (w w' : World) : Prop where
  users : w'.users = w.users
  clients : w'.clients = w.clients
  created : w'.created = w.created
  requests : ∃ taken, w'.decisions = taken ++ w.decisions ∧
    Evolves w.requests w'.requests taken ∧ ∀ decision ∈ taken, decision.2 ≠ .approved

section quiet

variable {start : Table AccountRow.id} {w w' : World}

theorem Quiet.ledger (h : Quiet w w') (hledger : Ledger w.requests w.decisions) :
    Ledger w'.requests w'.decisions := by
  obtain ⟨taken, hdecisions, hevolves, -⟩ := h.requests
  rw [hdecisions]
  exact hledger.evolves hevolves

theorem Quiet.accounts (h : Quiet w w') (haccounts : Accounts start w) : Accounts start w' := by
  obtain ⟨taken, hdecisions, hevolves, hother⟩ := h.requests
  constructor
  · intro creation hcreation
    rw [h.created] at hcreation
    obtain ⟨hdecided, row, hrow, hid, hstatus, husername, htime⟩ := haccounts.made creation hcreation
    obtain ⟨row', hrow', hid', hstatus', husername', htime'⟩ :=
      hevolves.kept row hrow (by rw [hstatus]; nofun)
    rw [hdecisions]
    refine ⟨List.mem_append_right _ hdecided, row', hrow', hid'.trans hid, hstatus'.trans hstatus,
      husername'.trans husername, ?_⟩
    rw [htime']
    exact htime
  · intro id hid
    rw [hdecisions] at hid
    rw [h.created]
    rcases List.mem_append.mp hid with hnew | hold
    · exact absurd rfl (hother _ hnew)
    · exact haccounts.approved id hold
  · rw [h.created]
    exact haccounts.once
  · rw [h.created, h.users]
    exact haccounts.users
  · rw [h.users]
    exact haccounts.usernames

end quiet

/-! ## Calls outside of the transactions -/

def Plain : Call → Prop
  | .dateNow => True
  | .passTime _ => True
  | .findByUsername _ => True
  | .deleteExpired _ _ => True
  | .selectPending _ => True
  | .insertRequest row => row.status = .pending
  | .get _ => True
  | .rejectRequest _ _ => True
  | .prunePending _ => True
  | .scrubDecided _ => True
  | _ => False

theorem only_request (input : RequestInput) : Only Plain (request input) := by
  refine Only.bind (only_perform.mpr trivial) fun user => Only.ite only_raise ?_
  refine Only.bind (only_perform.mpr trivial) fun now => ?_
  refine Only.bind (only_perform.mpr trivial) fun _ => ?_
  refine Only.bind (only_perform.mpr trivial) fun pending =>
    Only.ite only_raise ?_
  refine Only.bind (only_perform.mpr rfl) fun _ => ?_
  exact Only.bind (only_perform.mpr trivial) fun created => only_orRaise

theorem only_reject (id : RequestId) (actorId : UserId) : Only Plain (reject id actorId) := by
  refine Only.bind (only_perform.mpr trivial) fun rejected =>
    Only.ite only_pure ?_
  refine Only.bind (only_perform.mpr trivial) fun existing => ?_
  exact Only.bind only_orRaise fun row => only_raise

theorem only_pruneStaleRequests (pendingMaxDays decidedMaxDays : Nat) :
    Only Plain (pruneStaleRequests pendingMaxDays decidedMaxDays) := by
  refine Only.bind (only_perform.mpr trivial) fun now => ?_
  refine Only.bind (only_perform.mpr trivial) fun later => ?_
  refine Only.bind (only_perform.mpr trivial) fun _ => ?_
  exact only_perform.mpr trivial

section plain

variable {w w' : World} {c : Call} {r : Except AppError c.Reply}

theorem Quiet.rfl : Quiet w w := ⟨Eq.refl _, Eq.refl _, Eq.refl _, [], Eq.refl _, Evolves.same, nofun⟩

theorem Quiet.of_evolves {requests : Table RegistrationRow.id}
    (h : Evolves w.requests requests []) : Quiet w { w with requests } :=
  ⟨Eq.refl _, Eq.refl _, Eq.refl _, [], Eq.refl _, h, nofun⟩

theorem Beside.of_locked (htransactions : w'.transactions = w.transactions) (hnow : w.now ≤ w'.now)
    (hrows : ∀ row ∈ w.requests, ∀ txn ∈ w.transactions, ∀ lockedAt,
      txn.locked = some (row.id, lockedAt) → row ∈ w'.requests) : Beside none w w' where
  now := hnow
  records k _ := by rw [htransactions]
  rows txn htxn _ row hrow lockedAt hlocked := hrows row hrow txn htxn lockedAt hlocked

theorem Beside.rfl {client : Option ClientId} : Beside client w w :=
  ⟨Nat.le_refl _, fun _ _ => Eq.refl _, fun _ _ _ _ hrow _ _ => hrow⟩

variable {matched : RegistrationRow → Bool}

theorem not_matched (hfree : w.free matched)
    {row : RegistrationRow} (hrow : row ∈ w.requests) {txn : Txn} (htxn : txn ∈ w.transactions)
    {lockedAt : Time} (hlocked : txn.locked = some (row.id, lockedAt)) : matched row = false := by
  refine Bool.eq_false_iff.mpr fun hmatched => ?_
  exact not_locked (hfree row hrow hmatched) htxn nofun lockedAt hlocked

theorem beside_of_free (hfree : w.free matched)
    (htransactions : w'.transactions = w.transactions) (hnow : w.now ≤ w'.now)
    (hrows : ∀ row ∈ w.requests, matched row = false → row ∈ w'.requests) : Beside none w w' :=
  Beside.of_locked htransactions hnow fun row hrow _ htxn _ hlocked =>
    hrows row hrow (not_matched hfree hrow htxn hlocked)

theorem beside_deleteRequests (hfree : w.free matched) : Beside none w (w.deleteRequests matched) :=
  beside_of_free hfree (Eq.refl _) (Nat.le_refl _) fun _ hrow hother =>
    Table.mem_deleteWhere.mpr ⟨hrow, hother⟩

theorem reject_requests (w : World) (id : RequestId) (actorId : UserId) :
    (w.reject id actorId).requests = w.requests.updateWhere
      (fun row => decide (row.id = id) && decide (row.status = .pending)) (fun row => { row with
        status := .rejected, decidedBy := some actorId, decidedAt := some w.now }) fun _ => rfl := rfl

theorem plain_serves (hplain : Plain c) (hserve : Serves c w r w') :
    Quiet w w' ∧ Beside none w w' ∧ w'.transactions = w.transactions := by
  have hsame : Quiet w w ∧ Beside none w w ∧ w.transactions = w.transactions :=
    ⟨Quiet.rfl, Beside.rfl, rfl⟩
  rcases hserve with hcarries | ⟨-, e, -, rfl⟩
  · cases c with
    | dateNow =>
        obtain ⟨-, rfl⟩ := hcarries
        exact hsame
    | passTime ms =>
        obtain ⟨-, rfl⟩ := hcarries
        refine ⟨⟨rfl, rfl, rfl, [], rfl, Evolves.same, nofun⟩, ?_, rfl⟩
        exact Beside.of_locked (rfl) (Nat.le_add_right _ _) fun row hrow _ _ _ _ => hrow
    | findByUsername username =>
        obtain ⟨-, rfl⟩ := hcarries
        exact hsame
    | deleteExpired username cutoff =>
        obtain ⟨hfree, -, rfl⟩ := hcarries
        refine ⟨Quiet.of_evolves (Evolves.delete fun row _ hmatched => ?_),
          beside_deleteRequests hfree, rfl⟩
        simp only [Bool.and_eq_true, decide_eq_true_eq] at hmatched
        exact hmatched.1.2
    | selectPending username =>
        obtain ⟨-, rfl⟩ := hcarries
        exact hsame
    | insertRequest new =>
        obtain ⟨-, hinsert⟩ := hcarries
        split at hinsert
        · obtain ⟨-, rfl⟩ := hinsert
          exact hsame
        · obtain ⟨-, requests, hrequests, rfl⟩ := hinsert
          refine ⟨Quiet.of_evolves (Evolves.insert hrequests hplain), ?_, rfl⟩
          refine Beside.of_locked (rfl) (Nat.le_refl _) fun row hrow _ _ _ _ => ?_
          exact ((Table.insert?_eq_some hrequests).2 row).mpr (.inl hrow)
    | get id =>
        obtain ⟨-, rfl⟩ := hcarries
        exact hsame
    | rejectRequest id actorId =>
        obtain ⟨hfree, -, rfl⟩ := hcarries
        split
        · rename_i hsome
          obtain ⟨row, hrow, hmatches⟩ := List.any_eq_true.mp hsome
          have hcond := hmatches
          simp only [Bool.and_eq_true, decide_eq_true_eq] at hcond
          obtain ⟨rfl, hpending⟩ := hcond
          refine ⟨⟨rfl, rfl, rfl, [(row.id, .rejected)], rfl, ?_, ?_⟩,
            beside_of_free hfree (rfl) (Nat.le_refl _) fun other hother hfalse => ?_, rfl⟩
          · rw [reject_requests]
            refine Evolves.decide hrow hpending hmatches (fun other _ hother => ?_)
              (fun _ => Table.mem_updateWhere) (fun _ => ⟨rfl, rfl⟩) nofun
            simp only [Bool.and_eq_true, decide_eq_true_eq] at hother
            exact hother.1
          · intro decision hdecision
            obtain rfl := List.mem_singleton.mp hdecision
            nofun
          · rw [reject_requests]
            exact Table.mem_updateWhere.mpr
              ⟨other, hother, (if_neg (Bool.eq_false_iff.mp hfalse)).symm⟩
        · exact hsame
    | prunePending cutoff =>
        obtain ⟨hfree, -, rfl⟩ := hcarries
        refine ⟨Quiet.of_evolves (Evolves.delete fun row _ hmatched => ?_),
          beside_deleteRequests hfree, rfl⟩
        simp only [Bool.and_eq_true, decide_eq_true_eq] at hmatched
        exact hmatched.1
    | scrubDecided cutoff =>
        obtain ⟨hfree, -, rfl⟩ := hcarries
        refine ⟨Quiet.of_evolves (Evolves.update fun row => ⟨rfl, rfl, rfl⟩),
          beside_of_free hfree (rfl) (Nat.le_refl _) fun other hother hfalse => ?_, rfl⟩
        unfold World.scrub
        rw [Table.mem_updateWhere]
        exact ⟨other, hother, (if_neg (Bool.eq_false_iff.mp hfalse)).symm⟩
    | _ => exact absurd hplain fun h => h
  · exact hsame

end plain

structure Approves (w w' : World) (creation : Creation) : Prop where
  clients : w'.clients = w.clients
  decisions : w'.decisions = (creation.requestId, .approved) :: w.decisions
  evolves : Evolves w.requests w'.requests [(creation.requestId, .approved)]
  created : w'.created = creation :: w.created
  users : ∀ user, user ∈ w'.users ↔ user ∈ w.users ∨ user = creation.account
  fresh : ∀ user ∈ w.users, user.username ≠ creation.account.username
  row : ∃ row ∈ w'.requests, row.id = creation.requestId ∧ row.status = .approved ∧
    row.username = creation.account.username ∧
      creation.lockedAt ≤ row.createdAt + registrationPendingMaxMs

section approves

variable {start : Table AccountRow.id} {w w' : World} {creation : Creation}

theorem Approves.ledger (h : Approves w w' creation) (hledger : Ledger w.requests w.decisions) :
    Ledger w'.requests w'.decisions := by
  rw [h.decisions]
  exact hledger.evolves h.evolves

theorem Approves.accounts (h : Approves w w' creation) (hledger : Ledger w'.requests w'.decisions)
    (haccounts : Accounts start w) : Accounts start w' := by
  constructor
  · intro made hmade
    rw [h.created] at hmade
    rw [h.decisions]
    rcases List.mem_cons.mp hmade with rfl | hold
    · exact ⟨List.mem_cons_self, h.row⟩
    · obtain ⟨hdecided, row, hrow, hid, hstatus, husername, htime⟩ := haccounts.made made hold
      obtain ⟨row', hrow', hid', hstatus', husername', htime'⟩ :=
        h.evolves.kept row hrow (by rw [hstatus]; nofun)
      refine ⟨List.mem_cons_of_mem _ hdecided, row', hrow', hid'.trans hid, hstatus'.trans hstatus,
        husername'.trans husername, ?_⟩
      rw [htime']
      exact htime
  · intro id hid
    rw [h.decisions] at hid
    rw [h.created]
    rcases List.mem_cons.mp hid with hnew | hold
    · exact ⟨creation, List.mem_cons_self, (congrArg Prod.fst hnew).symm⟩
    · obtain ⟨made, hmade, hmadeid⟩ := haccounts.approved id hold
      exact ⟨made, List.mem_cons_of_mem _ hmade, hmadeid⟩
  · -- A request that has led to an account has been decided, and this one only now.
    have honce := hledger.once
    rw [h.decisions, List.map_cons, List.nodup_cons] at honce
    rw [h.created, List.map_cons, List.nodup_cons]
    refine ⟨fun hmem => honce.1 ?_, haccounts.once⟩
    obtain ⟨made, hmade, hid⟩ := List.mem_map.mp hmem
    exact List.mem_map.mpr ⟨_, (haccounts.made made hmade).1, hid⟩
  · intro user
    rw [h.users, haccounts.users, h.created, List.exists_mem_cons_iff, or_assoc, or_comm (b := _ = _)]
    refine or_congr_right (or_congr_left ?_)
    exact eq_comm
  · intro user huser other hother hname
    rcases (h.users user).mp huser with hold | rfl
    · rcases (h.users other).mp hother with hold' | rfl
      · exact haccounts.usernames user hold other hold' hname
      · exact absurd hname (h.fresh user hold)
    · rcases (h.users other).mp hother with hold' | rfl
      · exact absurd hname.symm (h.fresh other hold')
      · rfl

end approves

end ProxVM.Registration
