import ProxVM.Registration.Ledger

/-!
# Decisions on registration requests

Requests, approvals, rejections and prunings run side by side.  An approval locks the row of its
request before it looks at the status, and the other statements that write a row wait for it.
-/

namespace ProxVM.Registration

open Tables Interaction Context

/-! ## Calls of an approval -/

structure OwnStep (client : ClientId) (c : Call) (o : Own) (r : Except AppError c.Reply)
    (w w' : World) : Prop where
  learns : ∃ o', Learns c o r o' ∧ Truth w' client o'
  beside : Beside (some client) w w'
  isolated : Isolated w'

section own

variable {w w' : World} {client : ClientId} {o : Own} {c : Call} {r : Except AppError c.Reply}

theorem own_record {transactions : Table Txn.client} (o' : Own) (hisolated : Isolated w)
    (hothers : ∀ k, some k ≠ some client → transactions.find? k = w.transactions.find? k)
    (hlearns : Learns c o r o') (hrecord : transactions.find? client = o'.txn)
    (hrow : ∀ row, o'.row = some row → row ∈ w.requests ∧
      ∃ txn lockedAt, o'.txn = some txn ∧ txn.locked = some (row.id, lockedAt))
    (hnew : ∀ txn, o'.txn = some txn → (∀ lock, txn.locked = some lock → lock.2 ≤ w.now) ∧
        (∀ other ∈ w.transactions, other.client ≠ client → TxnsApart txn other) ∧ InsertsNew w.users txn) :
    OwnStep client c o r w { w with transactions } ∧ Quiet w { w with transactions } := by
  refine ⟨⟨⟨o', hlearns, hrecord, hrow, fun txn htxn => (hnew txn htxn).1⟩, ?_, ?_⟩, ?_⟩
  · exact ⟨Nat.le_refl _, hothers, fun _ _ _ _ hrow _ _ => hrow⟩
  · refine hisolated.rewrite hothers (fun txn htxn _ => hisolated.new txn htxn) fun txn htxn => ?_
    exact (hnew txn (hrecord.symm.trans htxn)).2
  · exact ⟨rfl, rfl, rfl, [], rfl, Evolves.same, nofun⟩

variable {txn : Txn} {f : Txn → Txn}

theorem Truth.apart (h : Truth w client o) (hisolated : Isolated w)
    (htxn : o.txn = some txn) : (∀ lock, txn.locked = some lock → lock.2 ≤ w.now) ∧
      (∀ other ∈ w.transactions, other.client ≠ client → TxnsApart txn other) ∧ InsertsNew w.users txn := by
  have hfound := h.record.trans htxn
  have hmem := Table.mem_of_find? hfound
  have hclient : txn.client = client := Table.key_of_find? hfound
  refine ⟨h.lock txn htxn, fun other hother hne => ?_, hisolated.new txn hmem⟩
  exact hisolated.apart txn hmem other hother fun heq => hne (heq.symm.trans hclient)

theorem own_update {hf : ∀ txn, (f txn).client = txn.client}
    (row : Option RegistrationRow) (htruth : Truth w client o) (hisolated : Isolated w)
    (hlearns : Learns c o r ⟨o.txn.map f, row⟩)
    (hrow : ∀ found, row = some found → found ∈ w.requests ∧ ∀ txn, o.txn = some txn →
      ∃ lockedAt, (f txn).locked = some (found.id, lockedAt)) (hsome : row.isSome → o.txn.isSome)
    (hnew : ∀ txn, o.txn = some txn → (∀ lock, (f txn).locked = some lock → lock.2 ≤ w.now) ∧
        (∀ other ∈ w.transactions, other.client ≠ client → TxnsApart (f txn) other) ∧
          InsertsNew w.users (f txn)) :
    OwnStep client c o r w (w.updateTxn client f hf) ∧ Quiet w (w.updateTxn client f hf) := by
  refine own_record _ hisolated (fun k hk => ?_) hlearns ?_ ?_ ?_
  · exact (find?_updateTxn hf k).trans (if_neg fun heq => hk (congrArg some heq))
  · rw [← htruth.record]
    exact (find?_updateTxn hf client).trans (if_pos rfl)
  · intro found hfound
    obtain ⟨hmem, hlocked⟩ := hrow found hfound
    obtain ⟨txn, htxn⟩ := Option.isSome_iff_exists.mp (hsome (Option.isSome_of_eq_some hfound))
    obtain ⟨lockedAt, hlock⟩ := hlocked txn htxn
    exact ⟨hmem, f txn, lockedAt, by rw [htxn]; rfl, hlock⟩
  · intro txn htxn
    obtain ⟨old, hold, rfl⟩ := Option.map_eq_some_iff.mp htxn
    exact hnew old hold

theorem own_write {hf : ∀ txn, (f txn).client = txn.client}
    (htruth : Truth w client o) (hisolated : Isolated w) (hlearns : Learns c o r (o.update f))
    (hlocked : ∀ txn, (f txn).locked = txn.locked)
    (hinserted : ∀ txn, o.txn = some txn → (f txn).inserted = txn.inserted ∨
      (∀ other ∈ w.transactions, other.client ≠ client → ∀ row row',
        (f txn).inserted = some row → other.inserted = some row' →
          row.username ≠ row'.username ∧ row.id ≠ row'.id) ∧ InsertsNew w.users (f txn)) :
    OwnStep client c o r w (w.updateTxn client f hf) ∧ Quiet w (w.updateTxn client f hf) := by
  refine own_update _ htruth hisolated hlearns (fun found hfound => ?_) (fun hsome => ?_)
    fun txn htxn => ?_
  · obtain ⟨hmem, txn, lockedAt, htxn, hlock⟩ := htruth.row found hfound
    refine ⟨hmem, fun txn' htxn' => ⟨lockedAt, ?_⟩⟩
    obtain rfl := Option.some.inj (htxn.symm.trans htxn')
    exact (hlocked txn).trans hlock
  · obtain ⟨found, hfound⟩ := Option.isSome_iff_exists.mp hsome
    obtain ⟨-, txn, -, htxn, -⟩ := htruth.row found hfound
    exact htxn ▸ rfl
  · obtain ⟨hlock, hapart, hinserts⟩ := htruth.apart hisolated htxn
    refine ⟨hlocked txn ▸ hlock, fun other hother hne => ⟨?_, ?_⟩, ?_⟩
    · rw [hlocked txn]
      exact (hapart other hother hne).locks
    · rcases hinserted txn htxn with hsame | ⟨hothers, -⟩
      · rw [hsame]
        exact (hapart other hother hne).inserts
      · exact hothers other hother hne
    · rcases hinserted txn htxn with hsame | ⟨-, hnew⟩
      · unfold InsertsNew
        rw [hsame]
        exact hinserts
      · exact hnew

theorem record_idle (k : ClientId) : (∀ lock, (Txn.idle k).locked = some lock → lock.2 ≤ w.now) ∧
    (∀ other ∈ w.transactions, other.client ≠ client → TxnsApart (Txn.idle k) other) ∧
      InsertsNew w.users (Txn.idle k) :=
  ⟨nofun, fun _ _ _ => ⟨nofun, nofun⟩, nofun⟩

theorem own_serves (htruth : Truth w client o) (hisolated : Isolated w) (howes : Owes client c o)
    (hserve : Serves c w r w') (hcommit : c ≠ .commit client) : OwnStep client c o r w w' ∧ Quiet w w' := by
  have hsame : Learns c o r o → OwnStep client c o r w w ∧ Quiet w w :=
    fun hlearns => ⟨⟨⟨o, hlearns, htruth⟩, Beside.rfl, hisolated⟩, Quiet.rfl⟩
  rcases hserve with hcarries | ⟨hsure, e, rfl, rfl⟩
  · cases c with
    | dateNow =>
        obtain ⟨rfl, rfl⟩ := hcarries
        exact hsame ⟨rfl, fun txn htxn lock hlock => htruth.lock txn htxn lock hlock⟩
    | findByUsername username =>
        obtain ⟨rfl, rfl⟩ := hcarries
        exact hsame rfl
    | connect k =>
        obtain rfl := howes
        obtain ⟨rfl, transactions, hinsert, rfl⟩ := hcarries
        obtain ⟨-, hmem⟩ := Table.insert?_eq_some hinsert
        refine own_record ⟨some (Txn.idle k), none⟩ hisolated (fun other hother => ?_) rfl
          ?_ nofun ?_
        · refine Table.find?_congr fun txn hkey => ?_
          rw [hmem]
          refine or_iff_left ?_
          rintro rfl
          exact hother (congrArg some hkey.symm)
        · exact Table.find?_of_mem ((hmem _).mpr (.inr rfl))
        · rintro txn ⟨⟩
          exact record_idle k
    | begin k =>
        obtain rfl := howes
        obtain ⟨rfl, rfl⟩ := hcarries
        exact own_write htruth hisolated ⟨w.now, rfl⟩ (fun _ => rfl) fun _ _ => .inl rfl
    | selectForUpdate k id =>
        obtain ⟨rfl, hsome⟩ := howes
        obtain ⟨hfree, rfl, rfl⟩ := hcarries
        cases hfound : w.requests.find? id with
        | none =>
            rw [hfound] at hsame
            exact hsame rfl
        | some row =>
            have hid : row.id = id := Table.key_of_find? hfound
            refine own_update _ htruth hisolated ⟨hid, w.now, rfl⟩ ?_ (fun _ => hsome) ?_
            · rintro _ ⟨⟩
              exact ⟨Table.mem_of_find? hfound, fun _ _ => ⟨w.now, by rw [hid]⟩⟩
            · intro txn htxn
              obtain ⟨-, hapart, hinserts⟩ := htruth.apart hisolated htxn
              refine ⟨?_, fun other hother hne => ⟨?_, (hapart other hother hne).inserts⟩, hinserts⟩
              · rintro _ ⟨⟩
                exact Nat.le_refl _
              · rintro _ t t' ⟨⟩
                exact not_locked hfree hother (fun heq => hne (Option.some.inj heq)) t'
    | deleteRequest k id =>
        obtain rfl := howes
        obtain ⟨-, rfl, rfl⟩ := hcarries
        exact own_write htruth hisolated rfl (fun _ => rfl) fun _ _ => .inl rfl
    | insertUser k new =>
        obtain rfl := howes
        obtain ⟨hothers, htaken⟩ := hcarries
        split at htaken
        · obtain ⟨rfl, rfl⟩ := htaken
          exact hsame rfl
        · rename_i hfree
          obtain ⟨rfl, rfl⟩ := htaken
          refine own_write htruth hisolated rfl (fun _ => rfl) fun txn htxn => .inr ⟨?_, ?_⟩
          · rintro other hother hne row row' ⟨⟩ hrow'
            have hne' := hothers other hother hne row' hrow'
            exact ⟨hne'.1.symm, hne'.2.symm⟩
          · rintro row ⟨⟩ user huser
            have hnone := List.any_eq_false.mp (Bool.eq_false_iff.mpr hfree) user huser
            simpa using hnone
    | deleteRoles k userId =>
        obtain ⟨rfl, rfl⟩ := hcarries
        exact hsame rfl
    | insertRole k userId role =>
        obtain ⟨rfl, rfl⟩ := hcarries
        exact hsame rfl
    | selectUser k userId =>
        obtain ⟨rfl, rfl⟩ := hcarries
        exact hsame rfl
    | approveRequest k id actorId =>
        obtain rfl := howes
        obtain ⟨-, rfl, rfl⟩ := hcarries
        exact own_write htruth hisolated rfl (fun _ => rfl) fun _ _ => .inl rfl
    | commit k =>
        obtain ⟨rfl, -⟩ := howes
        exact absurd rfl hcommit
    | rollback k =>
        obtain rfl := howes
        obtain rfl := hcarries
        refine own_update none htruth hisolated ?_ nofun nofun fun txn _ => record_idle _
        cases r with
        | ok _ => rfl
        | error e => rfl
    | release k =>
        obtain rfl := howes
        obtain ⟨rfl, rfl⟩ := hcarries
        refine own_record ⟨none, none⟩ hisolated (fun other hother => ?_) rfl ?_ nofun nofun
        · refine Table.find?_congr fun txn hkey => ?_
          rw [Table.mem_deleteWhere, decide_eq_false_iff_not, hkey]
          exact and_iff_left fun heq => hother (congrArg some heq)
        · refine Table.find?_eq_none_iff.mpr fun txn htxn => ?_
          exact of_decide_eq_false (Table.mem_deleteWhere.mp htxn).2
    | _ => exact absurd howes fun h => h
  · refine hsame ?_
    simp only [Learns, hsure, Bool.false_eq_true, if_false]

theorem own_commit {id : RequestId} {lockedAt : Time} (htruth : Truth w client o)
    (hisolated : Isolated w) (htxn : o.txn = some txn) (hlocked : txn.locked = some (id, lockedAt))
    (htransactions : w'.transactions = w.transactions.put (Txn.idle txn.client))
    (hnow : w'.now = w.now) (hrows : ∀ row ∈ w.requests, row.id ≠ id → row ∈ w'.requests)
    (husers : ∀ other ∈ w.transactions, other.client ≠ client → InsertsNew w'.users other) :
    OwnStep client (.commit client) o (.ok ()) w w' := by
  have hfound := htruth.record.trans htxn
  have hclient : txn.client = client := Table.key_of_find? hfound
  have hapart := (htruth.apart hisolated htxn).2.1
  have hothers : ∀ k, some k ≠ some client →
      w'.transactions.find? k = w.transactions.find? k := by
    intro k hk
    rw [htransactions]
    exact Table.find?_put_of_ne _ fun heq => hk (congrArg some (heq.symm.trans hclient))
  have hself : w'.transactions.find? client = some (Txn.idle txn.client) := by
    rw [htransactions, ← hclient]
    exact Table.find?_put_self _ (Txn.idle txn.client)
  have hlearns : Learns (.commit client) o (.ok ())
    ⟨o.txn.map fun txn => Txn.idle txn.client, none⟩ := rfl
  refine ⟨⟨_, hlearns, ?_, nofun, ?_⟩, ?_, ?_⟩
  · rw [hself, htxn]
    rfl
  · rw [htxn]
    rintro _ ⟨⟩
    nofun
  · refine ⟨Nat.le_of_eq hnow.symm, hothers, fun other hother hne row hrow t hlock => ?_⟩
    refine hrows row hrow ?_
    rintro rfl
    exact (hapart other hother fun heq => hne (congrArg some heq)).locks _ lockedAt t hlocked hlock
  · refine hisolated.rewrite hothers husers fun txn' htxn' => ?_
    obtain rfl := Option.some.inj (hself.symm.trans htxn')
    exact ⟨fun _ _ _ => ⟨nofun, nofun⟩, nofun⟩

theorem commit_serves (htruth : Truth w client o) (hisolated : Isolated w)
    (howes : Owes client (.commit client) o) {r : Except AppError Unit}
    (hserve : Serves (.commit client) w r w') :
    OwnStep client (.commit client) o r w w' ∧ (Quiet w w' ∨ ∃ creation, Approves w w' creation) := by
  rcases hserve with hcarries | ⟨hsure, e, rfl, rfl⟩
  · obtain ⟨-, txn, row, htxn, hrow, hpending, lockedAt, hlocked, hwrites⟩ := howes
    obtain ⟨hmem, -⟩ := htruth.row row hrow
    obtain ⟨rfl, hcommit⟩ := hcarries
    rw [htruth.record, htxn] at hcommit
    subst hcommit
    rcases hwrites with ⟨hdeleted, hinserted, happroved⟩ |
      ⟨hdeleted, htime, account, actorId, hinserted, husername, happroved⟩
    · have hrequests : (w.commit txn).requests =
          w.requests.deleteWhere fun row' => decide (row'.id = row.id) := by
        simp only [World.commit, hdeleted]
      have husers : (w.commit txn).users = w.users := by
        simp only [World.commit, hinserted, Option.bind_none, Option.getD_none]
      refine ⟨own_commit htruth hisolated htxn hlocked rfl rfl ?_ ?_,
        .inl ⟨husers, rfl, ?_, [], ?_, ?_, nofun⟩⟩
      · intro row' hrow' hne
        rw [hrequests]
        exact Table.mem_deleteWhere.mpr ⟨hrow', decide_eq_false hne⟩
      · intro other hother _
        rw [husers]
        exact hisolated.new other hother
      · simp only [World.commit, hinserted]
      · simp only [World.commit, happroved, List.nil_append]
      · rw [hrequests]
        refine Evolves.delete fun row' hrow' hmatched => ?_
        rw [Table.eq_of_key_eq hrow' hmem (of_decide_eq_true hmatched)]
        exact hpending
    · have hnew := (htruth.apart hisolated htxn).2.2 account hinserted
      obtain ⟨users, hinsert⟩ := Table.insert?_isSome fun user huser => (hnew user huser).2
      have hmemUsers := (Table.insert?_eq_some hinsert).2
      have hrequests : (w.commit txn).requests = w.requests.updateWhere
          (fun row' => decide (row'.id = row.id))
          (fun row' => { row' with
            status := .approved, decidedBy := some actorId, decidedAt := txn.began }) fun _ => rfl := by
        simp only [World.commit, hdeleted, happroved]
      have husers : (w.commit txn).users = users := by
        simp only [World.commit, hinserted, Option.bind_some, hinsert, Option.getD_some]
      have hapart := (htruth.apart hisolated htxn).2.1
      refine ⟨own_commit htruth hisolated htxn hlocked rfl rfl ?_ ?_,
        .inr ⟨⟨row.id, account, lockedAt, w.now⟩, rfl, ?_, ?_, ?_, ?_, ?_, ?_⟩⟩
      · intro row' hrow' hne
        rw [hrequests, Table.mem_updateWhere]
        exact ⟨row', hrow', (if_neg fun h => hne (of_decide_eq_true h)).symm⟩
      · intro other hother hne inserted hinserted' user huser
        rw [husers] at huser
        rcases (hmemUsers user).mp huser with hold | rfl
        · exact hisolated.new other hother inserted hinserted' user hold
        · exact (hapart other hother hne).inserts _ _ hinserted hinserted'
      · simp only [World.commit, happroved]
      · rw [hrequests]
        refine Evolves.decide hmem hpending (decide_eq_true rfl)
          (fun row' _ h => of_decide_eq_true h) (fun _ => Table.mem_updateWhere)
          (fun _ => ⟨rfl, rfl⟩) nofun
      · simp only [World.commit, hinserted, hlocked]
      · rw [husers]
        exact hmemUsers
      · exact fun user huser => (hnew user huser).1
      · rw [hrequests]
        refine ⟨_, Table.mem_updateWhere.mpr ⟨row, hmem, (if_pos (decide_eq_true rfl)).symm⟩, ?_⟩
        exact ⟨rfl, rfl, husername.symm, htime⟩
  · refine ⟨⟨⟨o, ?_, htruth⟩, Beside.rfl, hisolated⟩, .inl Quiet.rfl⟩
    simp only [Learns, hsure, Bool.false_eq_true, if_false]

end own

/-! ## The invariant -/

/-- An approval fulfils its part in what it knows, which is true; any other program stays outside
of the transactions. -/
def Stands (w : World) (t : RegistrationThread) : Prop :=
  match t.role.client? with
  | some client => ∃ o, (knowing client).holds t.prog (fun _ _ => True) o ∧ Truth w client o
  | none => Only Plain t.prog

structure Kept (start : Table AccountRow.id) (P : RegistrationPool) : Prop where
  clients : (P.threads.filterMap fun t => t.role.client?).Nodup
  below : ∀ t ∈ P.threads, ∀ client, t.role.client? = some client → client < P.state.clients
  records : ∀ txn ∈ P.state.transactions, txn.client < P.state.clients
  stands : ∀ t ∈ P.threads, Stands P.state t
  isolated : Isolated P.state
  ledger : Ledger P.state.requests P.state.decisions
  accounts : Accounts start P.state

section invariant

variable {start : Table AccountRow.id} {w w' : World} {P P' : RegistrationPool}

theorem stands_call {role : Request} {c : Call} {next : Except AppError c.Reply → Task role.Result}
    {r : Except AppError c.Reply} (hstands : Stands w ⟨role, .call c next⟩) (hisolated : Isolated w)
    (hserve : Serves c w r w') : Stands w' ⟨role, next r⟩ ∧ Beside role.client? w w' ∧ Isolated w' ∧
      (Quiet w w' ∨ ∃ creation, Approves w w' creation) := by
  unfold Stands at hstands ⊢
  cases hclient : role.client? with
  | none =>
      simp only [hclient] at hstands ⊢
      obtain ⟨hplain, hnext⟩ := hstands
      obtain ⟨hquiet, hbeside, htransactions⟩ := plain_serves hplain hserve
      refine ⟨hnext r, hbeside, ⟨?_, ?_⟩, .inl hquiet⟩
      · rw [htransactions]
        exact hisolated.apart
      · rw [htransactions, hquiet.users]
        exact hisolated.new
  | some client =>
      simp only [hclient] at hstands ⊢
      obtain ⟨o, hholds, htruth⟩ := hstands
      obtain ⟨howes, hnext⟩ := holds_aloneOwing_call.mp hholds
      have hstep : OwnStep client c o r w w' ∧ (Quiet w w' ∨ ∃ creation, Approves w w' creation) := by
        by_cases hcommit : c = .commit client
        · subst hcommit
          exact commit_serves htruth hisolated howes hserve
        · obtain ⟨hown, hquiet⟩ := own_serves htruth hisolated howes hserve hcommit
          exact ⟨hown, .inl hquiet⟩
      obtain ⟨⟨⟨o', hlearns, htruth'⟩, hbeside, hisolated'⟩, hmakes⟩ := hstep
      exact ⟨⟨o', hnext r o' hlearns, htruth'⟩, hbeside, hisolated', hmakes⟩

theorem Stands.beside {client? : Option ClientId} {t : RegistrationThread} (hstands : Stands w t)
    (hbeside : Beside client? w w') (hne : ∀ client, t.role.client? = some client →
      some client ≠ client?) : Stands w' t := by
  unfold Stands at hstands ⊢
  cases hclient : t.role.client? with
  | none =>
      simp only [hclient] at hstands ⊢
      exact hstands
  | some client =>
      simp only [hclient] at hstands ⊢
      obtain ⟨o, hholds, htruth⟩ := hstands
      exact ⟨o, hholds, htruth.beside hbeside (hne client hclient)⟩

theorem stands_prog {request : Request} (hfresh : ∀ client, request.client? = some client →
    w.transactions.find? client = none) : Stands w ⟨request, request.prog⟩ := by
  cases request with
  | request input => exact only_request input
  | approve input => exact ⟨⟨none, none⟩, holds_approve input, hfresh input.client rfl, nofun, nofun⟩
  | reject id actorId => exact only_reject id actorId
  | prune pendingMaxDays decidedMaxDays => exact only_pruneStaleRequests pendingMaxDays decidedMaxDays
  | clock ms =>
      change Only Plain (ask (.passTime ms))
      exact only_perform.mpr trivial

theorem others_differ {before after : List RegistrationThread} {x t : RegistrationThread}
    (hnodup : ((before ++ x :: after).filterMap fun t => t.role.client?).Nodup)
    (ht : t ∈ before ++ after) (client : ClientId) (hclient : t.role.client? = some client) :
    some client ≠ x.role.client? := by
  intro heq
  have hperm : (before ++ x :: after).Perm (x :: (before ++ after)) := List.perm_middle
  have hfront := (hperm.filterMap fun t => t.role.client?).nodup_iff.mp hnodup
  rw [List.filterMap_cons_some (f := fun t : RegistrationThread => t.role.client?) heq.symm,
    List.nodup_cons] at hfront
  exact hfront.1 (List.mem_filterMap.mpr ⟨t, ht, hclient⟩)

theorem Kept.step (hkept : Kept start P) (hstep : PoolStep registrationRules P P') : Kept start P' := by
  cases hstep with
  | @call before after role c next s s' r _ hserve =>
      obtain ⟨hmover, hothers⟩ := forall_mem_middle.mp hkept.stands
      obtain ⟨hmoved, hbeside, hisolated, hmakes⟩ := stands_call hmover hkept.isolated hserve
      have hclients : s'.clients = s.clients := by
        rcases hmakes with hquiet | ⟨creation, happroves⟩
        · exact hquiet.clients
        · exact happroves.clients
      have hbelow : ∀ t ∈ before ++ ⟨role, next r⟩ :: after, ∀ client,
          t.role.client? = some client → client < s'.clients := by
        rw [hclients]
        exact forall_mem_middle.mpr (forall_mem_middle.mp hkept.below)
      have hledger : Ledger s'.requests s'.decisions := by
        rcases hmakes with hquiet | ⟨creation, happroves⟩
        · exact hquiet.ledger hkept.ledger
        · exact happroves.ledger hkept.ledger
      refine ⟨?_, hbelow, fun txn htxn => ?_, forall_mem_middle.mpr ⟨hmoved, fun t ht => ?_⟩, hisolated,
        hledger, ?_⟩
      · have hnodup := hkept.clients
        rw [List.filterMap_append, List.filterMap_cons] at hnodup ⊢
        exact hnodup
      · by_cases hown : some txn.client = role.client?
        · exact (forall_mem_middle.mp hbelow).1 txn.client hown.symm
        · have hfound := (hbeside.records txn.client hown).symm.trans (Table.find?_of_mem htxn)
          rw [hclients]
          exact hkept.records txn (Table.mem_of_find? hfound)
      · exact (hothers t ht).beside hbeside (others_differ hkept.clients ht)
      · rcases hmakes with hquiet | ⟨creation, happroves⟩
        · exact hquiet.accounts hkept.accounts
        · exact happroves.accounts hledger hkept.accounts
  | @ends before after role result s s' successor hends =>
      obtain ⟨rfl, rfl⟩ := hends
      refine ⟨?_, (forall_mem_middle.mp hkept.below).2, hkept.records,
        (forall_mem_middle.mp hkept.stands).2, hkept.isolated, hkept.ledger, hkept.accounts⟩
      have hsub : (before ++ after).Sublist (before ++ ⟨role, .ofExcept result⟩ :: after) :=
        List.Sublist.append_left (List.sublist_cons_self _ _) before
      exact hkept.clients.sublist (hsub.filterMap _)
  | @turn threads s s' newcomer hturn =>
      obtain ⟨request, rfl, hstarts⟩ := hturn
      -- A client that nobody has is in no record.
      have hfresh : s.transactions.find? s.clients = none :=
        Table.find?_eq_none_iff.mpr fun txn htxn => Nat.ne_of_lt (hkept.records txn htxn)
      cases hclient : request.client? with
      | none =>
          have hsame : s' = s := by
            cases request with
            | approve input => cases hclient
            | _ => exact hstarts
          subst hsame
          refine ⟨?_, ?_, hkept.records, ?_, hkept.isolated, hkept.ledger, hkept.accounts⟩
          · have hnone : (⟨request, request.prog⟩ :: threads).filterMap
                (fun t : RegistrationThread => t.role.client?) =
                  threads.filterMap fun t => t.role.client? :=
              List.filterMap_cons_none (f := fun t : RegistrationThread => t.role.client?) hclient
            exact hnone ▸ hkept.clients
          · refine List.forall_mem_cons.mpr ⟨fun client h => ?_, hkept.below⟩
            exact absurd (h.symm.trans hclient) nofun
          · refine List.forall_mem_cons.mpr ⟨stands_prog fun client h => ?_, hkept.stands⟩
            exact absurd (h.symm.trans hclient) nofun
      | some client =>
          cases request with
          | approve input =>
              obtain ⟨hinput, rfl⟩ := hstarts
              cases hclient
              refine ⟨?_, ?_, fun txn htxn => Nat.lt_succ_of_lt (hkept.records txn htxn), ?_,
                ⟨hkept.isolated.apart, hkept.isolated.new⟩, hkept.ledger, ?_⟩
              · refine List.nodup_cons.mpr ⟨fun hmem => ?_, hkept.clients⟩
                obtain ⟨t, ht, hsame⟩ := List.mem_filterMap.mp hmem
                exact Nat.ne_of_lt (hkept.below t ht _ hsame) hinput
              · refine List.forall_mem_cons.mpr ⟨?_, fun t ht k hk => ?_⟩
                · rintro _ ⟨⟩
                  exact hinput ▸ Nat.lt_succ_self _
                · exact Nat.lt_succ_of_lt (hkept.below t ht k hk)
              · refine List.forall_mem_cons.mpr ⟨stands_prog ?_, fun t ht => ?_⟩
                · rintro _ ⟨⟩
                  rw [hinput]
                  exact hfresh
                · have hbeside : Beside none s { s with clients := s.clients + 1 } :=
                    Beside.of_locked rfl (Nat.le_refl _) fun row hrow _ _ _ _ => hrow
                  exact (hkept.stands t ht).beside hbeside fun _ _ => nofun
              · exact ⟨hkept.accounts.made, hkept.accounts.approved, hkept.accounts.once,
                  hkept.accounts.users, hkept.accounts.usernames⟩
          | _ => cases hclient

end invariant

/-! ## Registration decisions -/

/-- Every request has at most one decision, which is its status; the accounts that have come to be
are those of the requests approved, one each; no username has two accounts; and at the given moment
of its creation the request was not older than the retention window. -/
structure Exclusive (moment : Creation → Time) (start : Table AccountRow.id) (w : World) : Prop where
  once : (w.decisions.map Prod.fst).Nodup
  decided : ∀ id status, (id, status) ∈ w.decisions ↔
    status ≠ .pending ∧ ∃ row ∈ w.requests, row.id = id ∧ row.status = status
  created : ∀ id, (∃ row ∈ w.requests, row.id = id ∧ row.status = .approved) ↔
    ∃ creation ∈ w.created, creation.requestId = id
  createdOnce : (w.created.map Creation.requestId).Nodup
  users : ∀ user, user ∈ w.users ↔ user ∈ start ∨ ∃ creation ∈ w.created, creation.account = user
  usernames : ∀ user ∈ w.users, ∀ other ∈ w.users, user.username = other.username → user = other
  inTime : ∀ creation ∈ w.created, ∃ row ∈ w.requests, row.id = creation.requestId ∧
    row.username = creation.account.username ∧
      moment creation ≤ row.createdAt + registrationPendingMaxMs

def initialWorld (now : Time) (users : Table AccountRow.id) : World where
  now := now
  requests := Table.empty
  users := users
  transactions := Table.empty
  clients := 0
  decisions := []
  created := []

theorem kept_initial {now : Time} {users : Table AccountRow.id} (husernames : ∀ user ∈ users,
    ∀ other ∈ users, user.username = other.username → user = other) :
    Kept users ⟨initialWorld now users, []⟩ where
  clients := List.nodup_nil
  below := nofun
  records txn htxn := absurd htxn (Table.not_mem_empty txn)
  stands := nofun
  isolated :=
    ⟨fun txn htxn => absurd htxn (Table.not_mem_empty txn),
      fun txn htxn => absurd htxn (Table.not_mem_empty txn)⟩
  ledger := ⟨List.nodup_nil, nofun, fun row hrow => absurd hrow (Table.not_mem_empty row)⟩
  accounts := by
    refine ⟨nofun, nofun, List.nodup_nil, fun user => ?_, husernames⟩
    exact (or_iff_left fun ⟨creation, hcreation, _⟩ => absurd hcreation List.not_mem_nil).symm

theorem Kept.exclusive {start : Table AccountRow.id} {P : RegistrationPool} (h : Kept start P) :
    Exclusive Creation.lockedAt start P.state where
  once := h.ledger.once
  decided id status := by
    constructor
    · exact h.ledger.stands (id, status)
    · rintro ⟨hdecided, row, hrow, rfl, rfl⟩
      exact h.ledger.recorded row hrow hdecided
  created id := by
    constructor
    · rintro ⟨row, hrow, rfl, happroved⟩
      have hdecision := h.ledger.recorded row hrow (by rw [happroved]; nofun)
      rw [happroved] at hdecision
      exact h.accounts.approved row.id hdecision
    · rintro ⟨creation, hcreation, rfl⟩
      obtain ⟨-, row, hrow, hid, happroved, -⟩ := h.accounts.made creation hcreation
      exact ⟨row, hrow, hid, happroved⟩
  createdOnce := h.accounts.once
  users := h.accounts.users
  usernames := h.accounts.usernames
  inTime creation hcreation := by
    obtain ⟨-, row, hrow, hid, -, husername, htime⟩ := h.accounts.made creation hcreation
    exact ⟨row, hrow, hid, husername, htime⟩

/-- **Registration decisions.**  Whatever runs side by side, each request has at most one decision,
the accounts created are those of the approved requests, no username has two, and the request of
each was in time when its approval locked it. -/
theorem registration_decisions (now : Time) (users : Table AccountRow.id) (husernames : ∀ user ∈ users,
    ∀ other ∈ users, user.username = other.username → user = other) (P : RegistrationPool)
    (hrun : PoolRun registrationRules ⟨initialWorld now users, []⟩ P) :
    Exclusive Creation.lockedAt users P.state := by
  have hkept : Kept users P := by
    induction hrun with
    | refl => exact kept_initial husernames
    | tail _ hstep ih => exact ih.step hstep
  exact hkept.exclusive

/-! ## Runs -/

def sampleAnswer : (c : Call) → World → Option (Except AppError c.Reply × World)
  | .dateNow, w => some (.ok w.now, w)
  | .passTime ms, w => some (.ok (), { w with now := w.now + ms })
  | .findByUsername username, w =>
      some (.ok (w.users.rows.find? fun user => decide (user.username = username)), w)
  | .deleteExpired username cutoff, w =>
      if w.transactions.rows = [] then
        some (.ok (), w.deleteRequests fun row => decide (row.username = username) &&
          decide (row.status = .pending) && decide (row.createdAt < cutoff))
      else
        none
  | .selectPending username, w =>
      some (.ok (w.requests.rows.any fun row =>
        decide (row.username = username) && decide (row.status = .pending)), w)
  | .insertRequest new, w =>
      if w.transactions.rows = [] ∧
          (w.requests.rows.any fun row => decide (row.username = new.username)) = false then
        (w.requests.insert? { new with createdAt := w.now }).map fun requests =>
          (.ok (), { w with requests })
      else
        none
  | .get id, w => some (.ok (w.requests.find? id), w)
  | .connect client, w =>
      (w.transactions.insert? (Txn.idle client)).map fun transactions =>
        (.ok (), { w with transactions })
  | .begin client, w =>
      some (.ok (), w.updateTxn client (fun txn => { txn with began := some w.now }) (client_began w))
  | .selectForUpdate client id, w =>
      if w.lockedBeside (some client) id = false ∧ (w.requests.find? id).isSome then
        some (.ok (w.requests.find? id),
          w.updateTxn client (fun txn => { txn with locked := some (id, w.now) }) (client_locked w id))
      else
        none
  | .insertUser client new, w =>
      if (∀ txn ∈ w.transactions.rows, txn.client = client) ∧
          (w.users.rows.any fun row =>
            decide (row.username = new.username) || decide (row.id = new.id)) = false then
        some (.ok (), w.updateTxn client (fun txn => { txn with inserted := some new }) (client_inserted new))
      else
        none
  | .deleteRoles _ _, w => some (.ok (), w)
  | .selectUser client userId, w =>
      some (.ok (((w.transactions.find? client).bind fun txn =>
        txn.inserted.filter fun row => decide (row.id = userId)).orElse fun _ =>
          w.users.find? userId), w)
  | .approveRequest client id actorId, w =>
      if w.lockedBeside (some client) id = false then
        some (.ok (), w.updateTxn client (fun txn => { txn with approved := some (id, actorId) })
          (client_approved id actorId))
      else
        none
  | .commit client, w =>
      some (.ok (), match w.transactions.find? client with
        | some txn => w.commit txn
        | none => w)
  | .release client, w =>
      some (.ok (), { w with
        transactions := w.transactions.deleteWhere fun txn => decide (txn.client = client) })
  | _, _ => none

theorem carries_sampleAnswer (c : Call) (w : World) (r : Except AppError c.Reply) (w' : World)
    (hanswer : sampleAnswer c w = some (r, w')) : Carries c w r w' := by
  cases c with
  | deleteExpired username cutoff =>
      simp only [sampleAnswer] at hanswer
      split at hanswer
      · rename_i hnone
        cases hanswer
        refine ⟨fun row _ _ => ?_, rfl, rfl⟩
        rw [World.lockedBeside, hnone]
        rfl
      · cases hanswer
  | insertRequest new =>
      simp only [sampleAnswer] at hanswer
      split at hanswer
      · rename_i hcond
        obtain ⟨requests, hinsert, heq⟩ := Option.map_eq_some_iff.mp hanswer
        cases heq
        refine ⟨fun row _ _ txn htxn => ?_, ?_⟩
        · rw [Table.mem_def, hcond.1] at htxn
          exact absurd htxn List.not_mem_nil
        · rw [if_neg (Bool.eq_false_iff.mp hcond.2)]
          exact ⟨rfl, requests, hinsert, rfl⟩
      · cases hanswer
  | connect client =>
      obtain ⟨transactions, hinsert, heq⟩ := Option.map_eq_some_iff.mp hanswer
      cases heq
      exact ⟨rfl, transactions, hinsert, rfl⟩
  | selectForUpdate client id =>
      simp only [sampleAnswer] at hanswer
      split at hanswer
      · rename_i hcond
        cases hanswer
        exact ⟨hcond.1, rfl, (if_pos hcond.2).symm⟩
      · cases hanswer
  | insertUser client new =>
      simp only [sampleAnswer] at hanswer
      split at hanswer
      · rename_i hcond
        cases hanswer
        refine ⟨fun txn htxn hne => absurd (hcond.1 txn htxn) hne, ?_⟩
        rw [if_neg (Bool.eq_false_iff.mp hcond.2)]
        exact ⟨rfl, rfl⟩
      · cases hanswer
  | approveRequest client id actorId =>
      simp only [sampleAnswer] at hanswer
      split at hanswer
      · rename_i hfree
        cases hanswer
        exact ⟨hfree, rfl, rfl⟩
      · cases hanswer
  | deleteRequest _ _ => cases hanswer
  | insertRole _ _ _ => cases hanswer
  | rollback _ => cases hanswer
  | rejectRequest _ _ => cases hanswer
  | prunePending _ => cases hanswer
  | scrubDecided _ => cases hanswer
  | _ =>
      cases hanswer
      exact ⟨rfl, rfl⟩

theorem serves_sampleAnswer (c : Call) (w : World) (r : Except AppError c.Reply) (w' : World)
    (hanswer : sampleAnswer c w = some (r, w')) : Serves c w r w' :=
  .inl (carries_sampleAnswer c w r w' hanswer)

/-- A request of `ann`. -/
def sampleRequest : RequestInput := ⟨1, "ann", none, "hash"⟩

def sampleApprove : ApproveInput := ⟨0, 1, 10, 20, []⟩

def requested : World :=
  (drive sampleAnswer 6 (request sampleRequest, initialWorld 5 Table.empty)).2

def approving : Task UserId × World :=
  drive sampleAnswer 9 (approve sampleApprove, { requested with clients := 1 })

def waited : World := { approving.2 with now := 5 + (registrationPendingMaxMs + 1) }

def approved : Task UserId × World := drive sampleAnswer 2 (approving.1, waited)

theorem sample_runs (role : Request) (others : List RegistrationThread) (n : Nat)
    (p : Task role.Result) (w : World) : PoolRun registrationRules ⟨w, ⟨role, p⟩ :: others⟩
      ⟨(drive sampleAnswer n (p, w)).2, ⟨role, (drive sampleAnswer n (p, w)).1⟩ :: others⟩ :=
  poolRun_drive (fun _ _ _ => trivial) serves_sampleAnswer n role p w others

theorem sample_ends (role : Request) (others : List RegistrationThread) (n : Nat)
    (p : Task role.Result) (w : World) (result : Except AppError role.Result)
    (hresult : (drive sampleAnswer n (p, w)).1.result? = some result) :
    PoolRun registrationRules ⟨w, ⟨role, p⟩ :: others⟩ ⟨(drive sampleAnswer n (p, w)).2, others⟩ :=
  poolRun_to_end (R := registrationRules) (fun _ _ _ => trivial) serves_sampleAnswer n role p w
    hresult ⟨rfl, rfl⟩

theorem arrives (role : Request) (others : List RegistrationThread) {w w' : World}
    (hstarts : Starts w role w') : PoolStep registrationRules ⟨w, others⟩ ⟨w', ⟨role, role.prog⟩ :: others⟩ :=
  have hturn : registrationRules.turn w (some ⟨role, role.prog⟩) w' := ⟨role, rfl, hstarts⟩
  .turn hturn

theorem late_run : PoolRun registrationRules ⟨initialWorld 5 Table.empty, []⟩
    ⟨approved.2, [⟨.approve sampleApprove, approved.1⟩]⟩ := by
  have hrequest := sample_ends (.request sampleRequest) [] 6 (request sampleRequest)
    (initialWorld 5 Table.empty) (.ok ⟨1, "ann", none, "hash", .pending, none, none, 5⟩) (by rfl)
  have happrove := sample_runs (.approve sampleApprove) [] 9 (approve sampleApprove)
    { requested with clients := 1 }
  have hwait := sample_ends (.clock (registrationPendingMaxMs + 1))
    [⟨.approve sampleApprove, approving.1⟩] 1 (ask (.passTime (registrationPendingMaxMs + 1)))
    approving.2 (.ok ()) (by rfl)
  have hcommit := sample_runs (.approve sampleApprove) [] 2 approving.1 waited
  have hasks : PoolStep registrationRules ⟨initialWorld 5 Table.empty, []⟩
      ⟨initialWorld 5 Table.empty, [⟨.request sampleRequest, request sampleRequest⟩]⟩ :=
    arrives (.request sampleRequest) [] rfl
  have happroves : PoolStep registrationRules ⟨requested, []⟩
      ⟨{ requested with clients := 1 }, [⟨.approve sampleApprove, approve sampleApprove⟩]⟩ :=
    arrives (.approve sampleApprove) [] ⟨rfl, rfl⟩
  have hwaits := arrives (w := approving.2) (.clock (registrationPendingMaxMs + 1))
    [⟨.approve sampleApprove, approving.1⟩] rfl
  exact (Relation.ReflTransGen.head hasks hrequest).trans <|
    (Relation.ReflTransGen.head happroves happrove).trans <|
      (Relation.ReflTransGen.head hwaits hwait).trans hcommit

theorem registration_decisions_sample : Exclusive Creation.lockedAt Table.empty approved.2 :=
  registration_decisions 5 Table.empty (fun user huser => absurd huser (Table.not_mem_empty user))
    ⟨approved.2, [⟨.approve sampleApprove, approved.1⟩]⟩ late_run

/-- The account comes to be when the request is older than the retention window. -/
theorem late_creation : ¬ ∀ (now : Time) (users : Table AccountRow.id), (∀ user ∈ users,
    ∀ other ∈ users, user.username = other.username → user = other) → ∀ P : RegistrationPool,
      PoolRun registrationRules ⟨initialWorld now users, []⟩ P →
        Exclusive Creation.createdAt users P.state := by
  intro hlaw
  have hexclusive := hlaw 5 Table.empty
    (fun user huser => absurd huser (Table.not_mem_empty user)) _ late_run
  have hcreated : approved.2.created =
      [⟨1, ⟨20, "ann", none, "hash"⟩, 5, 5 + (registrationPendingMaxMs + 1)⟩] := by rfl
  have hrequests : approved.2.requests.rows =
      [⟨1, "ann", none, "hash", .approved, some 10, some 5, 5⟩] := by rfl
  obtain ⟨row, hrow, -, -, htime⟩ := hexclusive.inTime _ (by rw [hcreated]; exact List.mem_cons_self)
  rw [Table.mem_def, hrequests, List.mem_singleton] at hrow
  subst hrow
  exact absurd htime (by decide)

end ProxVM.Registration
