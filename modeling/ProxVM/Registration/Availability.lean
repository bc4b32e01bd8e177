import ProxVM.Lib.Solo
import ProxVM.Registration.Decisions

/-!
# Which usernames can be requested

Registrations, decisions and prunings one after the other, between changes of the accounts and of the
clock.  `RegistrationService.request` looks for an account and for a pending request of the username;
the table allows one row for each username whatever its status, so a row that has been decided stands
in the way as well, and its insertion fails with the error of the database.
-/

namespace ProxVM.Registration

open Tables Interaction

/-! ## Histories -/

inductive History (now : Time) (users : Table AccountRow.id) : World → Prop
  | start : History now users (initialWorld now users)
  | runs {w w₁ w' : World} {request : Request} {r : Except AppError request.Result}
      (hbefore : History now users w) (hstarts : Starts w request w₁)
      (hends : Ends Carries request.prog w₁ r w') : History now users w'
  | created {w : World} {row : AccountRow} {accounts : Table AccountRow.id}
      (hbefore : History now users w) (husername : ∀ user ∈ w.users, user.username ≠ row.username)
      (hinsert : w.users.insert? row = some accounts) : History now users { w with users := accounts }
  | deleted {w : World} {id : UserId} (hbefore : History now users w) :
      History now users { w with users := w.users.deleteWhere fun user => decide (user.id = id) }

def AtRest (w : World) : Prop := ∀ txn, ¬ txn ∈ w.transactions

section rest

variable {client : ClientId} {w w' : World}

def OnClient (client : ClientId) : Call → Prop
  | .connect k => k = client
  | _ => True

def OnlyClient (client : ClientId) (w : World) : Prop := ∀ txn ∈ w.transactions, txn.client = client

theorem onlyClient_updateTxn (h : OnlyClient client w) {k : ClientId} {f : Txn → Txn}
    (hf : ∀ txn, (f txn).client = txn.client) : OnlyClient client (w.updateTxn k f hf) := by
  intro txn htxn
  change txn ∈ w.transactions.updateWhere (fun txn => decide (txn.client = k)) f hf at htxn
  obtain ⟨old, hold, rfl⟩ := Table.mem_updateWhere.mp htxn
  split
  · rw [hf]
    exact h old hold
  · exact h old hold

theorem onlyClient_carries {c : Call} {r : Except AppError c.Reply} (hc : OnClient client c)
    (h : OnlyClient client w) (hcarries : Carries c w r w') : OnlyClient client w' := by
  cases c with
  | dateNow =>
      obtain ⟨-, rfl⟩ := hcarries
      exact h
  | passTime ms =>
      obtain ⟨-, rfl⟩ := hcarries
      exact h
  | findByUsername username =>
      obtain ⟨-, rfl⟩ := hcarries
      exact h
  | deleteExpired username cutoff =>
      obtain ⟨-, -, rfl⟩ := hcarries
      exact h
  | selectPending username =>
      obtain ⟨-, rfl⟩ := hcarries
      exact h
  | insertRequest new =>
      obtain ⟨-, hcarries⟩ := hcarries
      split at hcarries
      · obtain ⟨-, rfl⟩ := hcarries
        exact h
      · obtain ⟨-, requests, -, rfl⟩ := hcarries
        exact h
  | get id =>
      obtain ⟨-, rfl⟩ := hcarries
      exact h
  | connect k =>
      obtain ⟨-, transactions, hinsert, rfl⟩ := hcarries
      obtain rfl : k = client := hc
      intro txn htxn
      rcases ((Table.insert?_eq_some hinsert).2 txn).mp htxn with hold | rfl
      · exact h txn hold
      · rfl
  | «begin» k =>
      obtain ⟨-, rfl⟩ := hcarries
      exact onlyClient_updateTxn h _
  | selectForUpdate k id =>
      obtain ⟨-, -, rfl⟩ := hcarries
      split
      · exact onlyClient_updateTxn h _
      · exact h
  | deleteRequest k id =>
      obtain ⟨-, -, rfl⟩ := hcarries
      exact onlyClient_updateTxn h _
  | insertUser k new =>
      obtain ⟨-, hcarries⟩ := hcarries
      split at hcarries
      · obtain ⟨-, rfl⟩ := hcarries
        exact h
      · obtain ⟨-, rfl⟩ := hcarries
        exact onlyClient_updateTxn h _
  | deleteRoles k userId =>
      obtain ⟨-, rfl⟩ := hcarries
      exact h
  | insertRole k userId role =>
      obtain ⟨-, rfl⟩ := hcarries
      exact h
  | selectUser k userId =>
      obtain ⟨-, rfl⟩ := hcarries
      exact h
  | approveRequest k id actorId =>
      obtain ⟨-, -, rfl⟩ := hcarries
      exact onlyClient_updateTxn h _
  | commit k =>
      obtain ⟨-, rfl⟩ := hcarries
      split
      · next txn hfind =>
          intro other hother
          rcases Table.mem_put.mp hother with rfl | ⟨hold, -⟩
          · exact h txn (Table.mem_of_find? hfind)
          · exact h other hold
      · exact h
  | rollback k =>
      obtain rfl := hcarries
      exact onlyClient_updateTxn h _
  | release k =>
      obtain ⟨-, rfl⟩ := hcarries
      intro txn htxn
      exact h txn (Table.mem_deleteWhere.mp htxn).1
  | rejectRequest id actorId =>
      obtain ⟨-, -, rfl⟩ := hcarries
      split
      · exact h
      · exact h
  | prunePending cutoff =>
      obtain ⟨-, -, rfl⟩ := hcarries
      exact h
  | scrubDecided cutoff =>
      obtain ⟨-, -, rfl⟩ := hcarries
      exact h

theorem only_approve (input : ApproveInput) :
    Only (OnClient input.client) (Prog.tryCatch (approveTxn input >>= fun userId => pure (.ok userId))
      fun e => do
        Prog.tryCatch (ask (.rollback input.client)) fun _ => pure ()
        pure (.error (approveError e)) : Task (Except AppError UserId)) := by
  have hask : ∀ c : Call, OnClient input.client c → Only (OnClient input.client) (ask c) :=
    fun c hc => only_perform.mpr hc
  have hcreate : ∀ row roles, Only (OnClient input.client) (createUser input.client row roles) := by
    intro row roles
    unfold createUser setRoles
    refine (hask _ (by trivial)).bind fun _ => Only.bind ?_ fun _ => (hask _ (by trivial)).bind fun _ => only_orRaise
    exact (hask _ (by trivial)).bind fun _ => Only.forM fun _ => hask _ (by trivial)
  have hrow : ∀ row, Only (OnClient input.client) (approveRow input row) := by
    intro row
    unfold approveRow
    refine (hask _ (by trivial)).bind fun taken => Only.ite only_raise ?_
    refine (hcreate _ _).bind fun _ => (hask _ (by trivial)).bind fun _ => (hask _ (by trivial)).bind fun _ => ?_
    exact only_pure
  refine Only.tryCatch (Only.bind ?_ fun _ => only_pure) fun e => ?_
  · unfold approveTxn
    refine (hask _ (by trivial)).bind fun _ => (hask _ (by trivial)).bind fun found => only_orRaise.bind fun row => ?_
    refine Only.ite only_raise ((hask _ (by trivial)).bind fun now => Only.ite ?_ (hrow row))
    exact (hask _ (by trivial)).bind fun _ => (hask _ (by trivial)).bind fun _ => only_raise
  · exact (Only.tryCatch (hask _ (by trivial)) fun _ => only_pure).bind fun _ => only_pure

theorem approve_settles {input : ApproveInput} {r : Except AppError (Except AppError UserId)}
    (hends : Ends Carries (Prog.tryCatch (approveTxn input >>= fun userId => pure (.ok userId)) fun e => do
        Prog.tryCatch (ask (.rollback input.client)) fun _ => pure ()
        pure (.error (approveError e)) : Task (Except AppError UserId)) w r w') :
    ∃ result, r = .ok result := by
  obtain ⟨result, hr, -⟩ | ⟨e, w₁, -, hhandler⟩ := hends.of_tryCatch
  · exact ⟨result, hr⟩
  · obtain ⟨_, w₂, -, hpure⟩ | ⟨e', -, hrollback⟩ := hhandler.of_bind
    · exact ⟨_, (ends_pure.mp hpure).1⟩
    · obtain ⟨a, ha, -⟩ | ⟨e'', w₂, -, hpure⟩ := hrollback.of_tryCatch
      · cases ha
      · cases (ends_pure.mp hpure).1

theorem atRest_approve {input : ApproveInput} {r : Except AppError UserId} (hrest : AtRest w)
    (hends : Ends Carries (approve input) w r w') : AtRest w' := by
  unfold approve at hends
  obtain ⟨_, w₁, hconnect, hends⟩ | ⟨e, -, hconnect⟩ := hends.of_bind
  · have hfirst : OnlyClient input.client w₁ :=
      onlyClient_carries (c := .connect input.client) rfl (fun txn htxn => absurd htxn (hrest txn))
        (ends_perform.mp hconnect)
    obtain ⟨result, w₂, htxn, hends⟩ | ⟨e, -, htxn⟩ := hends.of_bind
    · have hsecond : OnlyClient input.client w₂ := htxn.keeps (only_approve input)
        (fun c s r s' hc h hcarries => onlyClient_carries hc h hcarries) hfirst
      have hreleased : ∀ {r w₃}, Ends Carries (ask (.release input.client)) w₂ r w₃ → AtRest w₃ := by
        intro r w₃ hrelease txn htxn
        obtain ⟨-, rfl⟩ := ends_perform.mp hrelease
        obtain ⟨hold, hother⟩ := Table.mem_deleteWhere.mp htxn
        exact absurd (hsecond txn hold) (of_decide_eq_false hother)
      obtain ⟨_, w₃, hrelease, hends⟩ | ⟨e, -, hrelease⟩ := hends.of_bind
      · cases result with
        | ok userId =>
            obtain ⟨-, rfl⟩ := ends_pure.mp hends
            exact hreleased hrelease
        | error e =>
            obtain ⟨-, rfl⟩ := ends_raise.mp hends
            exact hreleased hrelease
      · exact hreleased hrelease
    · obtain ⟨result, hr⟩ := approve_settles htxn
      cases hr
  · cases (ends_perform.mp hconnect).1

theorem atRest_plain {α : Type} {p : Task α} {r : Except AppError α} (hplain : Only Plain p)
    (hrest : AtRest w) (hends : Ends Carries p w r w') : AtRest w' := by
  refine hends.keeps hplain (fun c s r s' hc h hcarries => ?_) hrest
  have htransactions := (plain_serves hc (.inl hcarries)).2.2
  intro txn htxn
  rw [htransactions] at htxn
  exact h txn htxn

theorem atRest_of_history {now : Time} {users : Table AccountRow.id}
    (hhistory : History now users w) : AtRest w := by
  induction hhistory with
  | start => exact Table.not_mem_empty
  | created _ _ _ ih => exact ih
  | deleted _ ih => exact ih
  | @runs w w₁ w' request r _ hstarts hends ih =>
      cases request with
      | approve input =>
          obtain ⟨-, rfl⟩ := hstarts
          have hrest : AtRest { w with clients := w.clients + 1 } := ih
          exact atRest_approve hrest hends
      | request input =>
          obtain rfl := hstarts
          exact atRest_plain (only_request input) ih hends
      | reject id actorId =>
          obtain rfl := hstarts
          exact atRest_plain (only_reject id actorId) ih hends
      | prune pendingMaxDays decidedMaxDays =>
          obtain rfl := hstarts
          exact atRest_plain (only_pruneStaleRequests pendingMaxDays decidedMaxDays) ih hends
      | clock ms =>
          obtain rfl := hstarts
          have hplain : Only Plain (Request.prog (.clock ms)) := by
            change Only Plain (ask (.passTime ms))
            exact only_perform.mpr trivial
          exact atRest_plain hplain ih hends

end rest

/-! ## The answer to a request -/

section answers

variable {w : World} {username : String} {input : RequestInput}

def RegistrationRow.Stands (row : RegistrationRow) (now : Time) : Prop :=
  row.status = .pending ∧ ¬ row.createdAt < now - registrationPendingMaxMs

def Available (w : World) (username : String) : Prop :=
  (∀ user ∈ w.users, user.username ≠ username) ∧
    ∀ row ∈ w.requests, row.username = username → ¬ row.Stands w.now

def Undecided (w : World) (username : String) : Prop :=
  ∀ row ∈ w.requests, row.username = username → row.status = .pending

/-- A request is answered as the checks say: it succeeds where the username is available, and is
refused as a conflict where it is not. -/
def Answers (w : World) (username : String) (r : Except AppError RegistrationRow) : Prop :=
  (Available w username → ∃ row, r = .ok row) ∧
    (¬ Available w username → ∃ message, r = .error (AppError.conflict message))

def cleared (w : World) (username : String) : World :=
  w.deleteRequests fun row => decide (row.username = username) && decide (row.status = .pending) &&
    decide (row.createdAt < w.now - registrationPendingMaxMs)

def Comes (w : World) (input : RequestInput) (r : Except AppError RegistrationRow) : Prop :=
  if (w.users.rows.any fun user => decide (user.username = input.username)) ||
      (cleared w input.username).requests.rows.any fun row =>
        decide (row.username = input.username) && decide (row.status = .pending) then
    r = .error (AppError.conflict "Username already exists or has a pending request")
  else if (cleared w input.username).requests.rows.any fun row =>
      decide (row.username = input.username) then
    r = .error uniqueViolation
  else
    ∃ row, r = .ok row

theorem find?_isSome_eq_any (users : List AccountRow) (username : String) :
    (users.find? fun user => decide (user.username = username)).isSome =
      users.any fun user => decide (user.username = username) :=
  Bool.eq_iff_iff.mpr (by rw [List.find?_isSome, List.any_eq_true])

variable {r : Except AppError RegistrationRow}

theorem comes_of_ends {w' : World} (hends : Ends Carries (request input) w r w') : Comes w input r := by
  refine hends.sound (Q := fun r _ => Comes w input r) ?_
  unfold request ask
  refine holds_aloneOwing_bind.mpr ⟨trivial, fun found w₁ hfind => ?_, fun e w₁ hfind => ?_⟩
  · obtain ⟨hfound, rfl⟩ := hfind
    cases hfound
    rw [find?_isSome_eq_any]
    split
    · next htaken =>
        refine Context.holds_raise.mpr ?_
        unfold Comes
        rw [if_pos (by rw [htaken, Bool.true_or])]
    · next hnone =>
        have hfree := Bool.eq_false_iff.mpr hnone
        refine holds_aloneOwing_bind.mpr ⟨trivial, fun now w₂ hnow => ?_, fun e w₂ hnow => ?_⟩
        · obtain ⟨hnow, rfl⟩ := hnow
          cases hnow
          refine holds_aloneOwing_bind.mpr ⟨trivial, fun _ w₃ hdelete => ?_, fun e w₃ hdelete => ?_⟩
          · obtain ⟨-, -, rfl⟩ := hdelete
            refine holds_aloneOwing_bind.mpr ⟨trivial, fun pending w₄ hselect => ?_, fun e w₄ hselect => ?_⟩
            · obtain ⟨hpending, rfl⟩ := hselect
              cases hpending
              split
              · next hpending =>
                  refine Context.holds_raise.mpr ?_
                  have hthere : ((cleared w₂ input.username).requests.rows.any fun row =>
                      decide (row.username = input.username) && decide (row.status = .pending)) =
                        true := hpending
                  unfold Comes
                  rw [hfree, Bool.false_or, if_pos hthere]
              · next hclear =>
                  have hcomes : ∀ r, Comes w₂ input r ↔
                      if (cleared w₂ input.username).requests.rows.any fun row =>
                          decide (row.username = input.username) then
                        r = .error uniqueViolation
                      else ∃ row, r = .ok row := by
                    intro r
                    unfold Comes
                    rw [hfree, Bool.false_or]
                    exact iff_of_eq (if_neg hclear)
                  refine holds_aloneOwing_bind.mpr ⟨trivial, fun _ w₅ hinsert => ?_, fun e w₅ hinsert => ?_⟩
                  · obtain ⟨-, hinsert⟩ := hinsert
                    split at hinsert
                    · cases hinsert.1
                    · next hnew =>
                        have hnew' : ¬ ((cleared w₂ input.username).requests.rows.any fun row =>
                            decide (row.username = input.username)) = true := hnew
                        obtain ⟨-, requests, hrequests, rfl⟩ := hinsert
                        refine holds_aloneOwing_bind.mpr ⟨trivial, fun created w₆ hget => ?_,
                          fun e w₆ hget => ?_⟩
                        · obtain ⟨hcreated, rfl⟩ := hget
                          cases hcreated
                          have hrow := (Table.insert?_eq_some hrequests).2 _ |>.mpr (.inr rfl)
                          have hfound := Table.find?_of_mem hrow
                          refine Context.holds_orRaise.mpr ⟨fun row _ => ?_, fun hnone => ?_⟩
                          · rw [hcomes, if_neg hnew']
                            exact ⟨row, rfl⟩
                          · cases hnone.symm.trans hfound
                        · cases hget.1
                  · obtain ⟨-, hinsert⟩ := hinsert
                    rw [hcomes]
                    split at hinsert
                    · next hold =>
                        have hold' : ((cleared w₂ input.username).requests.rows.any fun row =>
                            decide (row.username = input.username)) = true := hold
                        rw [if_pos hold']
                        cases hinsert.1
                        rfl
                    · cases hinsert.1
            · cases hselect.1
          · cases hdelete.2.1
        · cases hnow.1
  · cases hfind.1

theorem ends_ask {α : Type} {c : Call} {a : c.Reply} {f : c.Reply → Task α} {w₁ w' : World}
    {r : Except AppError α} (hcarries : Carries c w (.ok a) w₁) (hrest : Ends Carries (f a) w₁ r w') :
    Ends Carries (ask c >>= f) w r w' :=
  .call hcarries hrest

theorem exists_ends (hrest : AtRest w) (hfresh : w.requests.find? input.id = none) :
    ∃ r w', Ends Carries (request input) w r w' := by
  have hfree : ∀ matched, w.free matched := by
    intro matched row _ _
    unfold World.lockedBeside
    rw [List.any_eq_false]
    intro txn htxn
    exact absurd htxn (hrest txn)
  have hdelete : Carries (.deleteExpired input.username (w.now - registrationPendingMaxMs)) w (.ok ())
      (cleared w input.username) := ⟨hfree _, rfl, rfl⟩
  have hmissing : (cleared w input.username).requests.find? input.id = none := by
    rw [cleared, World.deleteRequests, Table.find?_deleteWhere, hfresh]
    rfl
  obtain ⟨requests, hinsert⟩ : ∃ requests, (cleared w input.username).requests.insert?
      { id := input.id, username := input.username, email := input.email
        passwordHash := input.passwordHash, status := .pending, decidedBy := none
        decidedAt := none, createdAt := w.now } = some requests :=
    Table.insert?_isSome fun row hrow heq => Table.find?_eq_none_iff.mp hmissing row hrow heq
  have hfind : Carries (.findByUsername input.username) w
      (.ok (w.users.rows.find? fun user => decide (user.username = input.username))) w := ⟨rfl, rfl⟩
  have hnow : Carries .dateNow w (.ok w.now) w := ⟨rfl, rfl⟩
  have hselect : Carries (.selectPending input.username) (cleared w input.username)
      (.ok ((cleared w input.username).requests.rows.any fun row =>
        decide (row.username = input.username) && decide (row.status = .pending)))
      (cleared w input.username) := ⟨rfl, rfl⟩
  have hrest' : ∀ row ∈ (cleared w input.username).requests, row.username = input.username →
      ∀ txn ∈ (cleared w input.username).transactions, txn.deleted ≠ some row.id :=
    fun _ _ _ txn htxn => absurd htxn (hrest txn)
  cases hfound : w.users.rows.find? fun user => decide (user.username = input.username) with
  | some user =>
      rw [hfound] at hfind
      exact ⟨_, w, ends_ask hfind .raise⟩
  | none =>
      rw [hfound] at hfind
      cases hpending : (cleared w input.username).requests.rows.any fun row =>
          decide (row.username = input.username) && decide (row.status = .pending) with
      | true =>
          rw [hpending] at hselect
          exact ⟨_, _, ends_ask hfind (ends_ask hnow (ends_ask hdelete (ends_ask hselect .raise)))⟩
      | false =>
          rw [hpending] at hselect
          cases hdecided : (cleared w input.username).requests.rows.any fun row =>
              decide (row.username = input.username) with
          | true =>
              have hrefused : Carries (.insertRequest
                  { id := input.id, username := input.username, email := input.email
                    passwordHash := input.passwordHash, status := .pending, decidedBy := none
                    decidedAt := none, createdAt := 0 }) (cleared w input.username)
                  (.error uniqueViolation) (cleared w input.username) := by
                refine ⟨hrest', ?_⟩
                rw [if_pos hdecided]
                exact ⟨rfl, rfl⟩
              exact ⟨_, _, ends_ask hfind (ends_ask hnow (ends_ask hdelete (ends_ask hselect
                (.call hrefused .raise))))⟩
          | false =>
              have haccepted : Carries (.insertRequest
                  { id := input.id, username := input.username, email := input.email
                    passwordHash := input.passwordHash, status := .pending, decidedBy := none
                    decidedAt := none, createdAt := 0 }) (cleared w input.username)
                  (.ok ()) { cleared w input.username with requests } := by
                refine ⟨hrest', ?_⟩
                rw [if_neg (Bool.eq_false_iff.mp hdecided)]
                exact ⟨rfl, requests, hinsert, rfl⟩
              have hrow := (Table.insert?_eq_some hinsert).2 _ |>.mpr (.inr rfl)
              have hget : Carries (.get input.id) { cleared w input.username with requests }
                  (.ok (some { id := input.id, username := input.username, email := input.email
                               passwordHash := input.passwordHash, status := .pending
                               decidedBy := none, decidedAt := none, createdAt := w.now }))
                  { cleared w input.username with requests } :=
                ⟨congrArg Except.ok (Table.find?_of_mem hrow).symm, rfl⟩
              exact ⟨_, _, ends_ask hfind (ends_ask hnow (ends_ask hdelete (ends_ask hselect
                (ends_ask haccepted (ends_ask hget .ret)))))⟩

theorem mem_cleared {row : RegistrationRow} : row ∈ (cleared w username).requests ↔
    row ∈ w.requests ∧ ¬ (row.username = username ∧ row.status = .pending ∧
      row.createdAt < w.now - registrationPendingMaxMs) := by
  rw [cleared, World.deleteRequests, Table.mem_deleteWhere, ← Bool.not_eq_true, Bool.and_eq_true,
    Bool.and_eq_true, decide_eq_true_iff, decide_eq_true_iff, decide_eq_true_iff, and_assoc]

theorem available_iff : Available w username ↔
    (w.users.rows.any fun user => decide (user.username = username)) = false ∧
      ((cleared w username).requests.rows.any fun row =>
        decide (row.username = username) && decide (row.status = .pending)) = false := by
  rw [List.any_eq_false, List.any_eq_false]
  refine and_congr ?_ ⟨fun hrows row hrow hpending => ?_, fun hrows row hrow hname hstands => ?_⟩
  · exact forall₂_congr fun user _ => not_congr decide_eq_true_iff.symm
  · obtain ⟨hname, hstatus⟩ := (Bool.and_eq_true_iff.mp hpending).imp of_decide_eq_true of_decide_eq_true
    obtain ⟨hold, hkept⟩ := mem_cleared.mp hrow
    exact hrows row hold hname ⟨hstatus, fun hexpired => hkept ⟨hname, hstatus, hexpired⟩⟩
  · have hkept : row ∈ (cleared w username).requests :=
      mem_cleared.mpr ⟨hrow, fun h => hstands.2 h.2.2⟩
    exact hrows row hkept
      (Bool.and_eq_true_iff.mpr ⟨decide_eq_true hname, decide_eq_true hstands.1⟩)

theorem undecided_iff (havailable : Available w username) : Undecided w username ↔
    ((cleared w username).requests.rows.any fun row => decide (row.username = username)) = false := by
  rw [List.any_eq_false]
  constructor
  · intro hundecided row hrow hname
    have hstatus := hundecided row (mem_cleared.mp hrow).1 (of_decide_eq_true hname)
    refine List.any_eq_false.mp (available_iff.mp havailable).2 row hrow ?_
    exact Bool.and_eq_true_iff.mpr ⟨hname, decide_eq_true hstatus⟩
  · intro hnone row hrow hname
    by_contra hstatus
    exact hnone row (mem_cleared.mpr ⟨hrow, fun h => hstatus h.2.1⟩) (decide_eq_true hname)

theorem comes_unavailable (hunavailable : ¬ Available w input.username) (hcomes : Comes w input r) :
    r = .error (AppError.conflict "Username already exists or has a pending request") := by
  unfold Comes at hcomes
  split at hcomes
  · exact hcomes
  · next hfree =>
      refine absurd (available_iff.mpr ?_) hunavailable
      exact Bool.or_eq_false_iff.mp (Bool.eq_false_iff.mpr hfree)

theorem comes_available (havailable : Available w input.username) (hcomes : Comes w input r) :
    (Undecided w input.username → ∃ row, r = .ok row) ∧
      (¬ Undecided w input.username → r = .error uniqueViolation) := by
  obtain ⟨husers, hpending⟩ := available_iff.mp havailable
  unfold Comes at hcomes
  rw [husers, hpending, Bool.or_self, if_neg Bool.false_ne_true] at hcomes
  split at hcomes
  · next hdecided =>
      refine ⟨fun hundecided => ?_, fun _ => hcomes⟩
      cases hdecided.symm.trans ((undecided_iff havailable).mp hundecided)
  · next hnone =>
      refine ⟨fun _ => hcomes, fun hdecided => absurd ?_ hdecided⟩
      exact (undecided_iff havailable).mpr (Bool.eq_false_iff.mpr hnone)

end answers

/-- After every history a request that runs to its end is answered as its checks say exactly where
the username is unavailable or none of its requests has been decided. -/
theorem request_answers_iff {now : Time} {users : Table AccountRow.id} {w : World}
    (hhistory : History now users w) (input : RequestInput)
    (hfresh : w.requests.find? input.id = none) : (∃ r w', Ends Carries (request input) w r w') ∧
      ((∀ r w', Ends Carries (request input) w r w' → Answers w input.username r) ↔
        ¬ Available w input.username ∨ Undecided w input.username) := by
  obtain ⟨r, w', hends⟩ := exists_ends (atRest_of_history hhistory) hfresh
  refine ⟨⟨r, w', hends⟩, fun hanswers => ?_, fun hcondition r w' hends => ?_⟩
  · by_contra hdecided
    obtain ⟨havailable, hdecided⟩ := not_or.mp hdecided
    obtain ⟨row, hok⟩ := (hanswers r w' hends).1 (not_not.mp havailable)
    have herror := (comes_available (not_not.mp havailable) (comes_of_ends hends)).2 hdecided
    cases hok.symm.trans herror
  · have hcomes := comes_of_ends hends
    refine ⟨fun havailable => ?_, fun hunavailable => ⟨_, comes_unavailable hunavailable hcomes⟩⟩
    obtain hunavailable | hundecided := hcondition
    · exact absurd havailable hunavailable
    · exact (comes_available havailable hcomes).1 hundecided

theorem request_answers_iff_sample :
    (∃ r w', Ends Carries (request sampleRequest) (initialWorld 5 Table.empty) r w') ∧
      ((∀ r w', Ends Carries (request sampleRequest) (initialWorld 5 Table.empty) r w' →
          Answers (initialWorld 5 Table.empty) sampleRequest.username r) ↔
        ¬ Available (initialWorld 5 Table.empty) sampleRequest.username ∨
          Undecided (initialWorld 5 Table.empty) sampleRequest.username) :=
  request_answers_iff .start sampleRequest rfl

def refused : World := requested.reject 1 10

theorem history_refused : History 5 Table.empty refused := by
  have hrequest : Ends Carries (Request.prog (.request sampleRequest)) (initialWorld 5 Table.empty)
      (.ok ⟨1, "ann", none, "hash", .pending, none, none, 5⟩) requested :=
    ends_of_result carries_sampleAnswer 6 (by rfl)
  have hreject : Carries (.rejectRequest 1 10) requested (.ok true) refused :=
    ⟨fun row _ _ => rfl, rfl, rfl⟩
  have hends : Ends Carries (Request.prog (.reject 1 10)) requested (.ok ()) refused :=
    ends_ask hreject .ret
  have hmade : Starts (initialWorld 5 Table.empty) (.request sampleRequest)
      (initialWorld 5 Table.empty) := rfl
  have hdecided : Starts requested (.reject 1 10) requested := rfl
  exact (History.start.runs hmade hrequest).runs hdecided hends

/-- The refused request stands in the way of the next one. -/
theorem username_taken_by_refused : ¬ ∀ (now : Time) (users : Table AccountRow.id) (w : World),
    History now users w → ∀ input : RequestInput, w.requests.find? input.id = none →
      ∀ r w', Ends Carries (request input) w r w' → Answers w input.username r := by
  intro hlaw
  obtain ⟨r, w', hends⟩ := exists_ends (atRest_of_history history_refused)
    (show refused.requests.find? (RequestInput.mk 2 "ann" none "hash").id = none from rfl)
  have havailable : Available refused "ann" := available_iff.mpr ⟨rfl, rfl⟩
  have hdecided : ¬ Undecided refused "ann" := by
    intro hundecided
    cases (undecided_iff havailable).mp hundecided
  obtain ⟨row, hok⟩ := (hlaw 5 Table.empty refused history_refused _ rfl r w' hends).1 havailable
  cases hok.symm.trans ((comes_available havailable (comes_of_ends hends)).2 hdecided)

end ProxVM.Registration
