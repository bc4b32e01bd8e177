import ProxVM.Guacamole.Launch

/-!
# The live tokens of a session

A launch tracked to a session revokes the tokens on record, asks Guacamole for another one and
records it, in separate steps.
-/

namespace ProxVM.Tokens

open Interaction

/-! ## Shapes of programs -/

section shapes

variable (decrypt : String → Option String) (sessionId : SessionId)

def Ended {α : Type} (p : Task α) : Prop := ∃ a, p = .ret a

def Revoking {α : Type} (After : Task α → Prop) : List String → Task α → Prop
  | [], p => ∃ next, p = .call (.deleteTokens sessionId) next ∧ After (next (.ok ()))
  | token :: tokens, p =>
      ∃ next, p = .call (.deleteToken token) next ∧ Revoking After tokens (next (.ok ()))

def Reading {α : Type} (After : Task α → Prop) (p : Task α) : Prop :=
  ∃ next, p = .call (.selectTokens sessionId) next ∧
    ∀ rows, Revoking sessionId After (rows.filterMap decrypt) (next (.ok rows))

def Recording (token : String) (p : Task Launched) : Prop :=
  ∃ ciphertext next, decrypt ciphertext = some token ∧
    p = .call (.insertToken ⟨sessionId, ciphertext⟩) next ∧ Ended (next (.ok ()))

def Sealing (token : String) (p : Task Launched) : Prop :=
  ∃ next, p = .call (.encrypt token) next ∧ ∀ ciphertext, decrypt ciphertext = some token →
    Recording decrypt sessionId token (next (.ok ciphertext))

def Identifying (token : String) (p : Task Launched) : Prop :=
  ∃ dataSource name next, p = .call (.findConnectionIdentifier token dataSource name) next ∧
    ∀ found, Sealing decrypt sessionId token (next (.ok found))

def Minting (p : Task Launched) : Prop :=
  ∃ username password next, p = .call (.requestToken username password) next ∧
    ∀ token : GuacamoleToken, token.dataSource ≠ "" →
      Identifying decrypt sessionId token.authToken (next (.ok token))

def Before : Task Launched → Prop
  | .call (.findConnectionRecord _ _) next =>
      ∀ found : Option LaunchConnection,
        (∀ row, found = some row → ∃ id, row.guacIdentifier = some id ∧ id ≠ "") →
          Before (next (.ok found))
  | .call (.findUserRecord _) next => ∀ found, Before (next (.ok found))
  | .call (.selectTokens id) next => id = sessionId ∧
      ∀ rows, Revoking sessionId (Minting decrypt sessionId) (rows.filterMap decrypt) (next (.ok rows))
  | .call _ _ => False
  | .ret _ => True
  | .raise _ => True

variable {decrypt sessionId}

theorem Revoking.around {α β : Type} {After : Task α → Prop} {After' : Task β → Prop}
    {f : Task α → Task β} (hcall : ∀ c next, f (.call c next) = .call c fun r => f (next r))
    (hafter : ∀ p, After p → After' (f p)) {tokens : List String} {p : Task α}
    (hrevoking : Revoking sessionId After tokens p) : Revoking sessionId After' tokens (f p) := by
  induction tokens generalizing p with
  | nil =>
      obtain ⟨next, rfl, hnext⟩ := hrevoking
      exact ⟨fun r => f (next r), hcall _ next, hafter _ hnext⟩
  | cons token tokens ih =>
      obtain ⟨next, rfl, hnext⟩ := hrevoking
      exact ⟨fun r => f (next r), hcall _ next, ih hnext⟩

theorem revoking_invalidateTokens (rows : List String) (revoked : Nat) :
    Revoking sessionId Ended (rows.filterMap decrypt)
      (invalidateTokens decrypt true rows revoked >>= fun revoked =>
        ask (.deleteTokens sessionId) >>= fun _ => pure revoked) := by
  induction rows generalizing revoked with
  | nil => exact ⟨_, rfl, revoked, rfl⟩
  | cons row rows ih =>
      cases hrow : decrypt row with
      | none =>
          rw [List.filterMap_cons_none hrow, invalidateTokens, hrow]
          exact ih revoked
      | some token =>
          rw [List.filterMap_cons_some hrow, invalidateTokens, hrow]
          exact ⟨_, rfl, ih (revoked + 1)⟩

theorem reading_revokeSessionTokens :
    Reading decrypt sessionId Ended (revokeSessionTokens decrypt sessionId true) :=
  ⟨_, rfl, fun rows => revoking_invalidateTokens rows 0⟩

variable {id : String} {connection : LaunchConnection}

theorem chosenIdentifier_isSome (hid : id ≠ "") (discovered : Option String) :
    ∃ identifier, chosenIdentifier (some id) discovered = some identifier := by
  unfold chosenIdentifier
  cases hfound : discovered.filter fun id => decide (id ≠ "") with
  | none => exact ⟨id, by simp [hid]⟩
  | some found =>
      have hne : found ≠ "" := by simpa using (Option.filter_eq_some_iff.mp hfound).2
      exact ⟨found, by simp [hne]⟩

theorem sealing_handOver (connection : LaunchConnection) (token : GuacamoleToken)
    (identifier : String) (h : AppError → Task Launched) : Sealing decrypt sessionId token.authToken
      (Prog.tryCatch (handOver connection token (some sessionId) (some identifier)) h) :=
  ⟨_, rfl, fun ciphertext hcipher => ⟨ciphertext, _, hcipher, rfl, _, rfl⟩⟩

theorem identifying_openConnection
    {token : GuacamoleToken} (hrecorded : connection.guacIdentifier = some id) (hid : id ≠ "")
    (hsource : token.dataSource ≠ "") (h : AppError → Task Launched) :
    Identifying decrypt sessionId token.authToken
      (Prog.tryCatch (openConnection connection token (some sessionId)) h) := by
  unfold openConnection
  rw [if_pos hsource]
  refine ⟨token.dataSource, connection.guacConnectionName, _, rfl, fun found => ?_⟩
  obtain ⟨identifier, hidentifier⟩ := chosenIdentifier_isSome hid found
  change Sealing decrypt sessionId token.authToken (Prog.tryCatch (handOver connection token
    (some sessionId) (chosenIdentifier connection.guacIdentifier found)) h)
  rw [hrecorded, hidentifier]
  exact sealing_handOver connection token identifier h

theorem reading_launchDirect
    (hrecorded : connection.guacIdentifier = some id) (hid : id ≠ "") (username password : String)
    (h : AppError → Task Launched) : Reading decrypt sessionId (Minting decrypt sessionId)
      (Prog.tryCatch (launchDirect decrypt connection username password (some sessionId)) h) := by
  refine ⟨_, rfl, fun rows => ?_⟩
  have hrevoking : Revoking sessionId Ended (rows.filterMap decrypt) _ :=
    revoking_invalidateTokens rows 0
  refine Revoking.around (f := fun p => Prog.tryCatch (quietly p >>= fun _ =>
    ask (.requestToken username password) >>= fun token =>
      openConnection connection token (some sessionId)) h) (fun c next => rfl) ?_ hrevoking
  rintro p ⟨revoked, rfl⟩
  exact ⟨username, password, _, rfl, fun token hsource =>
    identifying_openConnection hrecorded hid hsource h⟩

theorem before_launch (vmId : VmId) (appUserId : UserId) (protocol : Option Protocol) :
    Before decrypt sessionId (launch decrypt vmId appUserId true protocol (some sessionId)) := by
  intro found hfound
  cases found with
  | none => trivial
  | some connection =>
      obtain ⟨id, hrecorded, hid⟩ := hfound connection rfl
      intro foundUser
      cases foundUser with
      | none => trivial
      | some user =>
          change Before decrypt sessionId ((Prog.orRaise (decrypt user.passwordCiphertext)
            (AppError.database "decrypt failed")).bind fun password =>
              Prog.tryCatch (launchDirect decrypt connection user.guacUsername password
                (some sessionId)) fun e => pure (.login e.message))
          cases decrypt user.passwordCiphertext with
          | none => trivial
          | some password =>
              have hreads : Reading decrypt sessionId (Minting decrypt sessionId)
                  (Prog.tryCatch (launchDirect decrypt connection user.guacUsername password
                    (some sessionId)) fun e => pure (.login e.message)) :=
                reading_launchDirect hrecorded hid user.guacUsername password _
              obtain ⟨next, hnext, hrows⟩ := hreads
              change Before decrypt sessionId (Prog.tryCatch (launchDirect decrypt connection
                user.guacUsername password (some sessionId)) fun e => pure (.login e.message))
              rw [hnext]
              exact ⟨rfl, hrows⟩

end shapes

/-! ## The condition -/

def Call.follows : Call → Bool
  | .findConnectionRecord _ _ => false
  | .findUserRecord _ => false
  | .selectTokens _ => false
  | _ => true

def between (t : TokenThread) : Bool :=
  match t.role with
  | .timeout _ => false
  | _ => t.prog.pending?.any Call.follows

/-- A launch reads the tokens while nothing stands between its reading and its last write; a
revocation reads them while no launch does, and once the launches requested before it have
nothing left to do. -/
def Separate (P : TokenPool) : Request → Call → Prop
  | .launch _ _ _ _, .selectTokens _ => ∀ t ∈ P.threads, between t = false
  | .logout since, .selectTokens _ =>
      ∀ t ∈ P.threads, ∀ number, t.role.number? = some number →
        between t = false ∧ (number < since → t.prog.pending? = none)
  | _, _ => True

/-! ## Tokens and programs -/

section invariant

variable {decrypt : String → Option String} {sessionId : SessionId} {w w' : World}

def Tracked (decrypt : String → Option String) (sessionId : SessionId) (w : World) : Prop :=
  ∀ token ∈ w.live, token ∈ (w.ciphertexts sessionId).filterMap decrypt

inductive Working (decrypt : String → Option String) (sessionId : SessionId) (w : World) :
    Task Launched → Prop
  | revokes {tokens : List String} {p : Task Launched}
      (hrevoking : Revoking sessionId (Minting decrypt sessionId) tokens p)
      (hlive : ∀ token ∈ w.live, token ∈ tokens) : Working decrypt sessionId w p
  | mints {p : Task Launched} (hminting : Minting decrypt sessionId p)
      (hlive : ∀ token ∈ w.live, token ∈ ([] : List String)) : Working decrypt sessionId w p
  | identifies {token : String} {p : Task Launched}
      (hidentifying : Identifying decrypt sessionId token p)
      (hlive : ∀ live ∈ w.live, live = token) : Working decrypt sessionId w p
  | seals {token : String} {p : Task Launched} (hsealing : Sealing decrypt sessionId token p)
      (hlive : ∀ live ∈ w.live, live = token) : Working decrypt sessionId w p
  | records {token : String} {p : Task Launched} (hrecording : Recording decrypt sessionId token p)
      (hlive : ∀ live ∈ w.live, live = token) : Working decrypt sessionId w p

def Outside (decrypt : String → Option String) (sessionId : SessionId) : TokenThread → Prop
  | ⟨.launch _ _ _ _, p⟩ => Before decrypt sessionId p
  | ⟨.logout _, p⟩ => Reading decrypt sessionId Ended p ∨ Ended p
  | ⟨.timeout _, p⟩ => Only (F := calls) (fun c => ∃ token, c = .deleteToken token) p

def Calm (decrypt : String → Option String) (sessionId : SessionId) (w : World) : TokenThread → Prop
  | ⟨.launch _ _ _ _, p⟩ => Before decrypt sessionId p
  | ⟨.logout _, p⟩ => (Reading decrypt sessionId Ended p ∨ Ended p) ∨
      ∃ tokens, Revoking sessionId Ended tokens p ∧ ∀ token ∈ w.live, token ∈ tokens
  | ⟨.timeout _, p⟩ => Only (F := calls) (fun c => ∃ token, c = .deleteToken token) p

variable {p : Task Launched} {t : TokenThread} {request : Request}

theorem Working.fewer (hworking : Working decrypt sessionId w p)
    (hfewer : w'.live.Sublist w.live) : Working decrypt sessionId w' p := by
  cases hworking with
  | revokes hrevoking hlive => exact .revokes hrevoking fun token h => hlive token (hfewer.subset h)
  | mints hminting hlive => exact .mints hminting fun token h => hlive token (hfewer.subset h)
  | identifies hidentifying hlive =>
      exact .identifies hidentifying fun token h => hlive token (hfewer.subset h)
  | seals hsealing hlive => exact .seals hsealing fun token h => hlive token (hfewer.subset h)
  | records hrecording hlive => exact .records hrecording fun token h => hlive token (hfewer.subset h)

theorem Calm.fewer (hcalm : Calm decrypt sessionId w t)
    (hfewer : w'.live.Sublist w.live) : Calm decrypt sessionId w' t := by
  match t, hcalm with
  | ⟨.launch _ _ _ _, p⟩, hcalm => exact hcalm
  | ⟨.timeout _, p⟩, hcalm => exact hcalm
  | ⟨.logout _, p⟩, .inl houtside => exact .inl houtside
  | ⟨.logout _, p⟩, .inr ⟨tokens, hrevoking, hlive⟩ =>
      exact .inr ⟨tokens, hrevoking, fun token h => hlive token (hfewer.subset h)⟩

theorem Outside.calm (houtside : Outside decrypt sessionId t) : Calm decrypt sessionId w t := by
  match t, houtside with
  | ⟨.launch _ _ _ _, p⟩, houtside => exact houtside
  | ⟨.timeout _, p⟩, houtside => exact houtside
  | ⟨.logout _, p⟩, houtside => exact .inl houtside

theorem Revoking.pending {α : Type} {After : Task α → Prop} {tokens : List String} {p : Task α}
    (hrevoking : Revoking sessionId After tokens p) : p.pending?.any Call.follows = true := by
  cases tokens with
  | nil =>
      obtain ⟨next, rfl, -⟩ := hrevoking
      rfl
  | cons token tokens =>
      obtain ⟨next, rfl, -⟩ := hrevoking
      rfl

theorem Working.pending (hworking : Working decrypt sessionId w p) : p.pending?.any Call.follows = true := by
  cases hworking with
  | revokes hrevoking hlive => exact hrevoking.pending
  | mints hminting hlive =>
      obtain ⟨_, _, _, rfl, -⟩ := hminting
      rfl
  | identifies hidentifying hlive =>
      obtain ⟨_, _, _, rfl, -⟩ := hidentifying
      rfl
  | seals hsealing hlive =>
      obtain ⟨_, rfl, -⟩ := hsealing
      rfl
  | records hrecording hlive =>
      obtain ⟨_, _, -, rfl, -⟩ := hrecording
      rfl

theorem Calm.outside (hcalm : Calm decrypt sessionId w t)
    (hbetween : between t = false) : Outside decrypt sessionId t := by
  match t, hcalm with
  | ⟨.launch _ _ _ _, p⟩, hcalm => exact hcalm
  | ⟨.timeout _, p⟩, hcalm => exact hcalm
  | ⟨.logout _, p⟩, .inl houtside => exact houtside
  | ⟨.logout _, p⟩, .inr ⟨tokens, hrevoking, _⟩ =>
      rw [show between ⟨.logout _, p⟩ = _ from hrevoking.pending] at hbetween
      cases hbetween

/-! ## One step -/

theorem Revoking.call {α : Type} {After : Task α → Prop} {tokens : List String} {c : Call}
    {next : Except AppError c.Reply → Task α} {r : Except AppError c.Reply}
    (hrevoking : Revoking sessionId After tokens (.call c next)) (hserve : Serves decrypt c w r w')
    (hlive : ∀ token ∈ w.live, token ∈ tokens) : w'.live.Sublist w.live ∧
      ((∃ tokens', w'.rows = w.rows ∧ Revoking sessionId After tokens' (next r) ∧
          ∀ token ∈ w'.live, token ∈ tokens') ∨ After (next r) ∧ w'.live = []) := by
  cases tokens with
  | nil =>
      obtain ⟨next', heq, hnext⟩ := hrevoking
      cases heq
      obtain ⟨rfl, rfl⟩ := hserve
      refine ⟨List.Sublist.refl _, .inr ⟨hnext, ?_⟩⟩
      exact List.eq_nil_iff_forall_not_mem.mpr fun token h => List.not_mem_nil (hlive token h)
  | cons given tokens =>
      obtain ⟨next', heq, hnext⟩ := hrevoking
      cases heq
      obtain ⟨rfl, rfl⟩ := hserve
      refine ⟨List.filter_sublist, .inl ⟨tokens, rfl, hnext, fun token h => ?_⟩⟩
      obtain ⟨hmem, hne⟩ := List.mem_filter.mp h
      exact (List.mem_cons.mp (hlive token hmem)).resolve_left (of_decide_eq_true hne)

theorem Working.call {c : Call} {next : Except AppError c.Reply → Task Launched}
    {r : Except AppError c.Reply} (hworking : Working decrypt sessionId w (.call c next))
    (hserve : Serves decrypt c w r w') (hsmall : w.live.length ≤ 1) :
    w'.live.length ≤ 1 ∧ (Working decrypt sessionId w' (next r) ∨
      Ended (next r) ∧ Tracked decrypt sessionId w') := by
  generalize hp : (.call c next : Task Launched) = p at hworking
  cases hworking with
  | revokes hrevoking hlive =>
      subst hp
      obtain ⟨hfewer, hnext⟩ := hrevoking.call hserve hlive
      refine ⟨Nat.le_trans hfewer.length_le hsmall, .inl ?_⟩
      rcases hnext with ⟨tokens', -, hrevoking', hlive'⟩ | ⟨hminting, hnone⟩
      · exact .revokes hrevoking' hlive'
      · exact .mints hminting fun token h => hnone ▸ h
  | mints hminting hlive =>
      obtain ⟨username, password, next', rfl, hnext⟩ := hminting
      cases hp
      obtain ⟨token, rfl, hsource, -, rfl⟩ := hserve
      have hnone : w.live = [] := List.eq_nil_iff_forall_not_mem.mpr fun token h =>
        List.not_mem_nil (hlive token h)
      rw [hnone]
      refine ⟨Nat.le_refl 1, .inl (.identifies (hnext token hsource) fun live h => ?_)⟩
      exact List.mem_singleton.mp h
  | identifies hidentifying hlive =>
      obtain ⟨dataSource, name, next', rfl, hnext⟩ := hidentifying
      cases hp
      obtain ⟨rfl, found, rfl⟩ := hserve
      exact ⟨hsmall, .inl (.seals (hnext found) hlive)⟩
  | seals hsealing hlive =>
      obtain ⟨next', rfl, hnext⟩ := hsealing
      cases hp
      obtain ⟨rfl, ciphertext, rfl, hcipher⟩ := hserve
      exact ⟨hsmall, .inl (.records (hnext ciphertext hcipher) hlive)⟩
  | @records token p hrecording hlive =>
      obtain ⟨ciphertext, next', hcipher, rfl, hended⟩ := hrecording
      cases hp
      obtain ⟨rfl, rfl⟩ := hserve
      refine ⟨hsmall, .inr ⟨hended, fun live h => ?_⟩⟩
      rw [hlive live h]
      refine List.mem_filterMap.mpr ⟨ciphertext, ?_, hcipher⟩
      refine List.mem_map.mpr ⟨⟨sessionId, ciphertext⟩, ?_, rfl⟩
      exact List.mem_filter.mpr ⟨List.mem_append_right w.rows (List.mem_singleton.mpr rfl),
        decide_eq_true rfl⟩

theorem Calm.call {role : Request} {c : Call} {next : Except AppError c.Reply → Task role.Result}
    {r : Except AppError c.Reply} (hcalm : Calm decrypt sessionId w ⟨role, .call c next⟩)
    (hserve : Serves decrypt c w r w') (htracked : Tracked decrypt sessionId w) :
    w'.live.Sublist w.live ∧ Tracked decrypt sessionId w' ∧ (Calm decrypt sessionId w' ⟨role, next r⟩ ∨
        ∃ number vmId appUserId protocol p, (⟨role, next r⟩ : TokenThread) =
          ⟨.launch number vmId appUserId protocol, p⟩ ∧ Working decrypt sessionId w' p ∧
            ∃ id, c = .selectTokens id) := by
  cases role with
  | launch number vmId appUserId protocol =>
      change Before decrypt sessionId (.call c next) at hcalm
      cases c with
      | findConnectionRecord _ _ =>
          obtain ⟨rfl, found, rfl, hfound⟩ := hserve
          exact ⟨List.Sublist.refl _, htracked, .inl (hcalm found hfound)⟩
      | findUserRecord _ =>
          obtain ⟨rfl, found, rfl⟩ := hserve
          exact ⟨List.Sublist.refl _, htracked, .inl (hcalm found)⟩
      | selectTokens id =>
          obtain ⟨rfl, rfl⟩ := hserve
          obtain ⟨rfl, hrevoking⟩ := hcalm
          refine ⟨List.Sublist.refl _, htracked, .inr ?_⟩
          exact ⟨number, vmId, appUserId, protocol, _, rfl, .revokes (hrevoking _) htracked, id, rfl⟩
      | _ => exact absurd hcalm id
  | timeout token =>
      obtain ⟨⟨token, rfl⟩, hnext⟩ := hcalm
      obtain ⟨rfl, rfl⟩ := hserve
      refine ⟨List.filter_sublist, fun live h => ?_, .inl (hnext _)⟩
      exact htracked live (List.mem_filter.mp h).1
  | logout since =>
      rcases hcalm with (hreading | ⟨a, hended⟩) | ⟨tokens, hrevoking, hlive⟩
      · obtain ⟨next', heq, hrevoking⟩ := hreading
        cases heq
        obtain ⟨rfl, rfl⟩ := hserve
        exact ⟨List.Sublist.refl _, htracked, .inl (.inr ⟨_, hrevoking _, htracked⟩)⟩
      · cases hended
      · obtain ⟨hfewer, hnext⟩ := hrevoking.call hserve hlive
        refine ⟨hfewer, ?_⟩
        rcases hnext with ⟨tokens', hrows, hrevoking', hlive'⟩ | ⟨hended, hnone⟩
        · refine ⟨fun token h => ?_, .inl (.inr ⟨tokens', hrevoking', hlive'⟩)⟩
          rw [World.ciphertexts, hrows]
          exact htracked token (hfewer.subset h)
        · refine ⟨fun token h => ?_, .inl (.inl (.inr hended))⟩
          rw [hnone] at h
          exact absurd h List.not_mem_nil

theorem Outside.call {role : Request} {c : Call} {next : Except AppError c.Reply → Task role.Result}
    {r : Except AppError c.Reply} (houtside : Outside decrypt sessionId ⟨role, .call c next⟩)
    (hserve : Serves decrypt c w r w') (hreads : ∀ id, c ≠ .selectTokens id) :
    w'.live.Sublist w.live ∧ Outside decrypt sessionId ⟨role, next r⟩ := by
  cases role with
  | launch number vmId appUserId protocol =>
      change Before decrypt sessionId (.call c next) at houtside
      cases c with
      | findConnectionRecord _ _ =>
          obtain ⟨rfl, found, rfl, hfound⟩ := hserve
          exact ⟨List.Sublist.refl _, houtside found hfound⟩
      | findUserRecord _ =>
          obtain ⟨rfl, found, rfl⟩ := hserve
          exact ⟨List.Sublist.refl _, houtside found⟩
      | selectTokens id => exact absurd rfl (hreads id)
      | _ => exact absurd houtside id
  | timeout token =>
      obtain ⟨⟨token, rfl⟩, hnext⟩ := houtside
      obtain ⟨rfl, rfl⟩ := hserve
      exact ⟨List.filter_sublist, hnext _⟩
  | logout since =>
      rcases houtside with ⟨next', heq, -⟩ | ⟨a, hended⟩
      · cases heq
        exact absurd rfl (hreads sessionId)
      · cases hended

theorem outside_prog (request : Request) :
    Outside decrypt sessionId ⟨request, request.prog decrypt sessionId⟩ := by
  cases request with
  | launch number vmId appUserId protocol => exact before_launch vmId appUserId protocol
  | logout since => exact .inl reading_revokeSessionTokens
  | timeout token => exact ⟨⟨token, rfl⟩, fun r => only_ofExcept⟩

theorem finish_same (request : Request) (r : Except AppError request.Result) (w : World) :
    (finish request r w).live = w.live ∧ (finish request r w).rows = w.rows ∧
      (finish request r w).launches = w.launches := by
  unfold finish
  split
  · exact ⟨rfl, rfl, rfl⟩
  · exact ⟨rfl, rfl, rfl⟩

theorem Starts.same (hstarts : Starts w request w') :
    w'.live = w.live ∧ w'.rows = w.rows ∧ w'.finished = w.finished := by
  cases request with
  | launch number _ _ _ =>
      obtain ⟨-, rfl⟩ := hstarts
      exact ⟨rfl, rfl, rfl⟩
  | logout since =>
      obtain ⟨-, rfl⟩ := hstarts
      exact ⟨rfl, rfl, rfl⟩
  | timeout token =>
      obtain rfl := hstarts
      exact ⟨rfl, rfl, rfl⟩

/-! ## The invariant -/

def IsWorking (decrypt : String → Option String) (sessionId : SessionId) (w : World)
    (t : TokenThread) : Prop :=
  ∃ number vmId appUserId protocol p, t = ⟨.launch number vmId appUserId protocol, p⟩ ∧
    Working decrypt sessionId w p

structure Accounted (decrypt : String → Option String) (sessionId : SessionId) (P : TokenPool) :
    Prop where
  small : P.state.live.length ≤ 1
  stands : (∀ t ∈ P.threads, Calm decrypt sessionId P.state t) ∧ Tracked decrypt sessionId P.state ∨
    Single (IsWorking decrypt sessionId P.state) (Outside decrypt sessionId) P.threads

theorem Accounted.start (rows : List SessionTokenRow) :
    Accounted decrypt sessionId (TokenPool.start rows) where
  small := Nat.zero_le 1
  stands := .inl ⟨fun _ h => absurd h List.not_mem_nil, fun _ h => absurd h List.not_mem_nil⟩

variable {P P' : TokenPool}

theorem Separate.not_selects {c : Call} (hadmits : Separate P request c) (ht : t ∈ P.threads)
    (hworking : IsWorking decrypt sessionId P.state t) (hrequest : ∀ token, request ≠ .timeout token)
    (id : SessionId) : c ≠ .selectTokens id := by
  rintro rfl
  obtain ⟨number, vmId, appUserId, protocol, p, rfl, hworking⟩ := hworking
  have hbetween : between ⟨.launch number vmId appUserId protocol, p⟩ = true := hworking.pending
  have hfree : between ⟨.launch number vmId appUserId protocol, p⟩ = false := by
    cases request with
    | launch _ _ _ _ => exact hadmits _ ht
    | logout since => exact (hadmits _ ht number rfl).1
    | timeout token => exact absurd rfl (hrequest token)
  rw [hbetween] at hfree
  cases hfree

theorem Accounted.call {before after : List TokenThread} {role : Request} {c : Call}
    {next : Except AppError c.Reply → Task role.Result} {r : Except AppError c.Reply}
    (haccounted : Accounted decrypt sessionId ⟨w, before ++ ⟨role, .call c next⟩ :: after⟩)
    (hadmits : Separate ⟨w, before ++ ⟨role, .call c next⟩ :: after⟩ role c)
    (hserve : Serves decrypt c w r w') :
    Accounted decrypt sessionId ⟨w', before ++ ⟨role, next r⟩ :: after⟩ := by
  obtain ⟨hsmall, ⟨hcalm, htracked⟩ | hsingle⟩ := haccounted
  · obtain ⟨hmover, hothers⟩ := forall_mem_middle.mp hcalm
    obtain ⟨hfewer, htracked', hnext⟩ := hmover.call hserve htracked
    refine ⟨Nat.le_trans hfewer.length_le hsmall, ?_⟩
    rcases hnext with hmoved | ⟨number, vmId, appUserId, protocol, p, heq, hworking, id, rfl⟩
    · exact .inl ⟨forall_mem_middle.mpr ⟨hmoved, fun t ht => (hothers t ht).fewer hfewer⟩, htracked'⟩
    · -- The launch has read the tokens, and nothing else stands where it does now.
      cases heq
      obtain ⟨-, hfree⟩ := forall_mem_middle.mp
        (show ∀ t ∈ before ++ ⟨_, .call (.selectTokens id) next⟩ :: after, between t = false from
          hadmits)
      exact .inr (single_of ⟨number, vmId, appUserId, protocol, _, rfl, hworking⟩ fun t ht =>
        (hothers t ht).outside (hfree t ht))
  · rcases hsingle.split with ⟨⟨number, vmId, appUserId, protocol, p, heq, hworking⟩, hothers⟩ |
      ⟨houtside, hrest⟩
    · cases heq
      obtain ⟨hsmall', hnext⟩ := hworking.call hserve hsmall
      refine ⟨hsmall', ?_⟩
      rcases hnext with hworking' | ⟨⟨launched, hended⟩, htracked'⟩
      · exact .inr (single_of ⟨number, vmId, appUserId, protocol, _, rfl, hworking'⟩ hothers)
      · refine .inl ⟨forall_mem_middle.mpr ⟨?_, fun t ht => (hothers t ht).calm⟩, htracked'⟩
        rw [hended]
        exact trivial
    · have hreads : ∀ id, c ≠ .selectTokens id := by
        obtain ⟨t, rest, hperm, hworking, -⟩ := hsingle
        have ht : t ∈ before ++ ⟨role, .call c next⟩ :: after :=
          hperm.mem_iff.mpr List.mem_cons_self
        cases role with
        | launch number vmId appUserId protocol =>
            exact hadmits.not_selects ht hworking fun _ h => nomatch h
        | logout since => exact hadmits.not_selects ht hworking fun _ h => nomatch h
        | timeout token =>
            obtain ⟨⟨token, rfl⟩, -⟩ := houtside
            exact fun id h => nomatch h
      obtain ⟨hfewer, hmoved⟩ := houtside.call hserve hreads
      refine ⟨Nat.le_trans hfewer.length_le hsmall, .inr ?_⟩
      refine Single.insert (hrest.mono ?_) hmoved
      rintro t ⟨number, vmId, appUserId, protocol, p, rfl, hworking⟩
      exact ⟨number, vmId, appUserId, protocol, p, rfl, hworking.fewer hfewer⟩

theorem Accounted.of_same {threads : List TokenThread} (hlive : w'.live = w.live)
    (hrows : w'.rows = w.rows) (haccounted : Accounted decrypt sessionId ⟨w, threads⟩) :
    Accounted decrypt sessionId ⟨w', threads⟩ := by
  have hfewer : w'.live.Sublist w.live := hlive ▸ List.Sublist.refl _
  obtain ⟨hsmall, ⟨hcalm, htracked⟩ | hsingle⟩ := haccounted
  · refine ⟨hlive ▸ hsmall, .inl ⟨fun t ht => (hcalm t ht).fewer hfewer, fun token h => ?_⟩⟩
    change token ∈ List.filterMap decrypt (w'.ciphertexts sessionId)
    rw [World.ciphertexts, hrows]
    exact htracked token (hfewer.subset h)
  · refine ⟨hlive ▸ hsmall, .inr (hsingle.mono ?_)⟩
    rintro t ⟨number, vmId, appUserId, protocol, p, rfl, hworking⟩
    exact ⟨number, vmId, appUserId, protocol, p, rfl, hworking.fewer hfewer⟩

theorem Accounted.ends {before after : List TokenThread} {role : Request}
    {result : Except AppError role.Result}
    (haccounted : Accounted decrypt sessionId ⟨w, before ++ ⟨role, .ofExcept result⟩ :: after⟩) :
    Accounted decrypt sessionId ⟨w, before ++ after⟩ := by
  obtain ⟨hsmall, ⟨hcalm, htracked⟩ | hsingle⟩ := haccounted
  · exact ⟨hsmall, .inl ⟨(forall_mem_middle.mp hcalm).2, htracked⟩⟩
  · rcases hsingle.split with ⟨⟨number, vmId, appUserId, protocol, p, heq, hworking⟩, -⟩ | ⟨-, hrest⟩
    · cases heq
      have hpending := hworking.pending
      cases result <;> cases hpending
    · exact ⟨hsmall, .inr hrest⟩

theorem Accounted.turn {threads : List TokenThread} {t : TokenThread}
    (houtside : Outside decrypt sessionId t) (haccounted : Accounted decrypt sessionId ⟨w, threads⟩) :
    Accounted decrypt sessionId ⟨w, t :: threads⟩ := by
  obtain ⟨hsmall, ⟨hcalm, htracked⟩ | hsingle⟩ := haccounted
  · exact ⟨hsmall, .inl ⟨List.forall_mem_cons.mpr ⟨houtside.calm, hcalm⟩, htracked⟩⟩
  · exact ⟨hsmall, .inr (hsingle.cons houtside)⟩

theorem Accounted.step (haccounted : Accounted decrypt sessionId P)
    (hstep : PoolStep (tokenRules decrypt sessionId Separate) P P') : Accounted decrypt sessionId P' := by
  cases hstep with
  | call hadmits hserve => exact haccounted.call hadmits hserve
  | @ends before after role result s s' successor hends =>
      obtain ⟨rfl, rfl⟩ := hends
      obtain ⟨hlive, hrows, -⟩ := finish_same role result s
      exact haccounted.ends.of_same hlive hrows
  | @turn threads s s' newcomer hturn =>
      obtain ⟨request, rfl, hstarts⟩ := hturn
      obtain ⟨hlive, hrows, -⟩ := hstarts.same
      exact (haccounted.turn (outside_prog request)).of_same hlive hrows

/-! ## The last revocation -/

def Clear (P : TokenPool) : Prop :=
  ∀ t ∈ P.threads, ∀ number, t.role.number? = some number → t.prog.pending? = none

def HasRead (t : TokenThread) : Prop := ∀ id, t.prog.pending? ≠ some (.selectTokens id)

/-- The numbers are in order; and once a revocation that started after the last launch was
requested has read the tokens, no launch has anything left to do, and no token is live when it
has finished. -/
structure Settled (P : TokenPool) : Prop where
  numbers : ∀ t ∈ P.threads, ∀ number, t.role.number? = some number → number < P.state.launches
  sinces : ∀ t ∈ P.threads, ∀ since, t.role.since? = some since → since ≤ P.state.launches
  recorded : ∀ since ∈ P.state.finished, since ≤ P.state.launches
  revoking : ∀ t ∈ P.threads, t.role.since? = some P.state.launches → HasRead t →
    Clear P ∧ (t.prog.pending? = none → P.state.live = [])
  revoked : P.state.launches ∈ P.state.finished → Clear P ∧ P.state.live = []

theorem Settled.start (rows : List SessionTokenRow) : Settled (TokenPool.start rows) where
  numbers _ h := absurd h List.not_mem_nil
  sinces _ h := absurd h List.not_mem_nil
  recorded _ h := absurd h List.not_mem_nil
  revoking _ h := absurd h List.not_mem_nil
  revoked h := absurd h List.not_mem_nil

theorem Accounted.calm_of_clear (haccounted : Accounted decrypt sessionId P) (hclear : Clear P) :
    (∀ t ∈ P.threads, Calm decrypt sessionId P.state t) ∧ Tracked decrypt sessionId P.state := by
  rcases haccounted.stands with hcalm | ⟨t, rest, hperm, hworking, -⟩
  · exact hcalm
  · obtain ⟨number, vmId, appUserId, protocol, p, rfl, hworking⟩ := hworking
    have hpending := hworking.pending
    rw [hclear _ (hperm.mem_iff.mpr List.mem_cons_self) number rfl] at hpending
    cases hpending

theorem serves_same {c : Call} {r : Except AppError c.Reply} (hserve : Serves decrypt c w r w') :
    w'.launches = w.launches ∧ w'.finished = w.finished := by
  cases c with
  | findConnectionRecord _ _ => exact hserve.1 ▸ ⟨rfl, rfl⟩
  | findUserRecord _ => exact hserve.1 ▸ ⟨rfl, rfl⟩
  | requestToken _ _ =>
      obtain ⟨token, -, -, -, rfl⟩ := hserve
      exact ⟨rfl, rfl⟩
  | findConnectionIdentifier _ _ _ => exact hserve.1 ▸ ⟨rfl, rfl⟩
  | deleteToken _ => exact hserve.2 ▸ ⟨rfl, rfl⟩
  | encrypt _ => exact hserve.1 ▸ ⟨rfl, rfl⟩
  | selectTokens _ => exact hserve.1 ▸ ⟨rfl, rfl⟩
  | insertToken _ => exact hserve.2 ▸ ⟨rfl, rfl⟩
  | deleteTokens _ => exact hserve.2 ▸ ⟨rfl, rfl⟩

theorem live_of_logout {since : Nat} {c : Call} {next : Except AppError c.Reply → Task Nat}
    {r : Except AppError c.Reply} (hcalm : Calm decrypt sessionId w ⟨.logout since, .call c next⟩)
    (hserve : Serves decrypt c w r w') (hended : (next r).pending? = none) : w'.live = [] := by
  rcases hcalm with (⟨next', heq, hrevoking⟩ | ⟨a, heq⟩) | ⟨tokens, hrevoking, hlive⟩
  · cases heq
    obtain ⟨rfl, rfl⟩ := hserve
    have hpending := (hrevoking (w'.ciphertexts sessionId)).pending
    rw [hended] at hpending
    cases hpending
  · cases heq
  · rcases (hrevoking.call hserve hlive).2 with ⟨tokens', -, hrevoking', -⟩ | ⟨-, hnone⟩
    · have hpending := hrevoking'.pending
      rw [hended] at hpending
      cases hpending
    · exact hnone

section call

variable {before after : List TokenThread} {role : Request} {c : Call}
  {next : Except AppError c.Reply → Task role.Result} {r : Except AppError c.Reply}

theorem Clear.call (hclear : Clear ⟨w, before ++ ⟨role, .call c next⟩ :: after⟩) :
    Clear ⟨w', before ++ ⟨role, next r⟩ :: after⟩ := by
  obtain ⟨hmover, hothers⟩ := forall_mem_middle.mp hclear
  refine forall_mem_middle.mpr ⟨fun number hnumber => ?_, hothers⟩
  exact absurd (hmover number hnumber) (by simp [Prog.pending?])

theorem live_of_clear (haccounted : Accounted decrypt sessionId ⟨w, before ++ ⟨role, .call c next⟩ :: after⟩)
    (hclear : Clear ⟨w, before ++ ⟨role, .call c next⟩ :: after⟩) (hserve : Serves decrypt c w r w')
    (hnone : w.live = []) : w'.live = [] := by
  obtain ⟨hcalm, htracked⟩ := haccounted.calm_of_clear hclear
  have hfewer := ((forall_mem_middle.mp hcalm).1.call hserve htracked).1
  rw [hnone] at hfewer
  exact List.sublist_nil.mp hfewer

theorem Settled.call (haccounted : Accounted decrypt sessionId ⟨w, before ++ ⟨role, .call c next⟩ :: after⟩)
    (hsettled : Settled ⟨w, before ++ ⟨role, .call c next⟩ :: after⟩)
    (hadmits : Separate ⟨w, before ++ ⟨role, .call c next⟩ :: after⟩ role c)
    (hserve : Serves decrypt c w r w') : Settled ⟨w', before ++ ⟨role, next r⟩ :: after⟩ := by
  obtain ⟨hlaunches, hfinished⟩ := serves_same hserve
  obtain ⟨hnumbers, hsinces, hrecorded, hrevoking, hrevoked⟩ := hsettled
  obtain ⟨hrevoker, hothers⟩ := forall_mem_middle.mp hrevoking
  refine ⟨?_, ?_, ?_, forall_mem_middle.mpr ⟨?_, ?_⟩, ?_⟩
  · rw [hlaunches]
    exact forall_mem_middle.mpr (forall_mem_middle.mp hnumbers)
  · rw [hlaunches]
    exact forall_mem_middle.mpr (forall_mem_middle.mp hsinces)
  · rw [hlaunches, hfinished]
    exact hrecorded
  · intro hsince hread
    rw [hlaunches] at hsince
    cases role with
    | launch _ _ _ _ => cases hsince
    | timeout _ => cases hsince
    | logout since =>
        obtain rfl : since = w.launches := Option.some.inj hsince
        have hclear : Clear ⟨w, before ++ ⟨.logout w.launches, .call c next⟩ :: after⟩ := by
          by_cases hreads : ∃ id, c = .selectTokens id
          · -- The revocation reads the tokens after all the launches.
            obtain ⟨id, rfl⟩ := hreads
            intro t ht number hnumber
            exact (hadmits t ht number hnumber).2 (hnumbers t ht number hnumber)
          · refine (hrevoker rfl fun id hid => hreads ⟨id, Option.some.inj hid⟩).1
        refine ⟨hclear.call, fun hended => ?_⟩
        have hcalm := (haccounted.calm_of_clear hclear).1
        exact live_of_logout (forall_mem_middle.mp hcalm).1 hserve hended
  · intro t ht hsince hread
    rw [hlaunches] at hsince
    obtain ⟨hclear, hended⟩ := hothers t ht hsince hread
    exact ⟨hclear.call, fun h => live_of_clear haccounted hclear hserve (hended h)⟩
  · rw [hlaunches, hfinished]
    intro hdone
    obtain ⟨hclear, hnone⟩ := hrevoked hdone
    exact ⟨hclear.call, live_of_clear haccounted hclear hserve hnone⟩

end call

theorem Settled.ends {before after : List TokenThread} {role : Request} {result : Except AppError role.Result}
    (hsettled : Settled ⟨w, before ++ ⟨role, .ofExcept result⟩ :: after⟩) :
    Settled ⟨finish role result w, before ++ after⟩ := by
  obtain ⟨hlive, -, hlaunches⟩ := finish_same role result w
  obtain ⟨hnumbers, hsinces, hrecorded, hrevoking, hrevoked⟩ := hsettled
  have hended : (Prog.ofExcept result : Task role.Result).pending? = none := by
    cases result <;> rfl
  have hclear : Clear ⟨w, before ++ ⟨role, .ofExcept result⟩ :: after⟩ →
      Clear ⟨finish role result w, before ++ after⟩ := fun h => (forall_mem_middle.mp h).2
  have hnew : ∀ since ∈ (finish role result w).finished,
      since ∈ w.finished ∨ role.since? = some since := by
    intro since hsince
    match role, result, hsince with
    | .logout given, .ok _, hsince =>
        rcases List.mem_cons.mp hsince with rfl | hold
        · exact .inr rfl
        · exact .inl hold
    | .logout _, .error _, hsince => exact .inl hsince
    | .launch _ _ _ _, .ok _, hsince => exact .inl hsince
    | .launch _ _ _ _, .error _, hsince => exact .inl hsince
    | .timeout _, .ok _, hsince => exact .inl hsince
    | .timeout _, .error _, hsince => exact .inl hsince
  refine ⟨?_, ?_, ?_, ?_, ?_⟩
  · rw [hlaunches]
    exact (forall_mem_middle.mp hnumbers).2
  · rw [hlaunches]
    exact (forall_mem_middle.mp hsinces).2
  · intro since hsince
    rw [hlaunches]
    rcases hnew since hsince with hold | hrole
    · exact hrecorded since hold
    · exact (forall_mem_middle.mp hsinces).1 since hrole
  · intro t ht hsince hread
    rw [hlaunches] at hsince
    obtain ⟨h, hnone⟩ := (forall_mem_middle.mp hrevoking).2 t ht hsince hread
    exact ⟨hclear h, fun hend => hlive.trans (hnone hend)⟩
  · intro hdone
    rw [hlaunches] at hdone
    rw [hlive]
    rcases hnew w.launches hdone with hold | hrole
    · obtain ⟨h, hnone⟩ := hrevoked hold
      exact ⟨hclear h, hnone⟩
    · have hread : HasRead ⟨role, .ofExcept result⟩ := by
        intro id hid
        rw [hended] at hid
        cases hid
      obtain ⟨h, hnone⟩ := (forall_mem_middle.mp hrevoking).1 hrole hread
      exact ⟨hclear h, hnone hended⟩

theorem Settled.turn {threads : List TokenThread} {request : Request}
    (hsettled : Settled ⟨w, threads⟩) (hstarts : Starts w request w') :
    Settled ⟨w', ⟨request, request.prog decrypt sessionId⟩ :: threads⟩ := by
  obtain ⟨hnumbers, hsinces, hrecorded, hrevoking, hrevoked⟩ := hsettled
  cases request with
  | launch number vmId appUserId protocol =>
      -- The numbers of all revocations lie behind.
      obtain ⟨rfl, rfl⟩ := hstarts
      refine ⟨List.forall_mem_cons.mpr ⟨?_, ?_⟩, List.forall_mem_cons.mpr ⟨?_, ?_⟩, ?_,
        List.forall_mem_cons.mpr ⟨?_, ?_⟩, ?_⟩
      · intro number hnumber
        cases hnumber
        exact Nat.lt_succ_self w.launches
      · exact fun t ht number hnumber => Nat.lt_succ_of_lt (hnumbers t ht number hnumber)
      · intro since hsince
        cases hsince
      · exact fun t ht since hsince => Nat.le_succ_of_le (hsinces t ht since hsince)
      · exact fun since hsince => Nat.le_succ_of_le (hrecorded since hsince)
      · intro hsince
        cases hsince
      · intro t ht hsince
        exact absurd (hsinces t ht _ hsince) (Nat.not_succ_le_self w.launches)
      · intro hdone
        exact absurd (hrecorded _ hdone) (Nat.not_succ_le_self w.launches)
  | logout since =>
      obtain ⟨rfl, rfl⟩ := hstarts
      have hclear : Clear ⟨w', threads⟩ → Clear ⟨w', ⟨.logout w'.launches,
          (Request.logout w'.launches).prog decrypt sessionId⟩ :: threads⟩ :=
        fun h => List.forall_mem_cons.mpr ⟨fun number hnumber => (nomatch hnumber), h⟩
      refine ⟨List.forall_mem_cons.mpr ⟨fun number hnumber => (nomatch hnumber), hnumbers⟩,
        List.forall_mem_cons.mpr ⟨?_, hsinces⟩, hrecorded, List.forall_mem_cons.mpr ⟨?_, ?_⟩, ?_⟩
      · intro since hsince
        cases hsince
        exact Nat.le_refl w'.launches
      · intro _ hread
        exact absurd rfl (hread sessionId)
      · intro t ht hsince hread
        obtain ⟨h, hnone⟩ := hrevoking t ht hsince hread
        exact ⟨hclear h, hnone⟩
      · intro hdone
        obtain ⟨h, hnone⟩ := hrevoked hdone
        exact ⟨hclear h, hnone⟩
  | timeout token =>
      obtain rfl := hstarts
      have hclear : Clear ⟨w', threads⟩ → Clear ⟨w', ⟨.timeout token,
          (Request.timeout token).prog decrypt sessionId⟩ :: threads⟩ :=
        fun h => List.forall_mem_cons.mpr ⟨fun number hnumber => (nomatch hnumber), h⟩
      refine ⟨List.forall_mem_cons.mpr ⟨fun number hnumber => (nomatch hnumber), hnumbers⟩,
        List.forall_mem_cons.mpr ⟨fun since hsince => (nomatch hsince), hsinces⟩, hrecorded,
        List.forall_mem_cons.mpr ⟨fun hsince => (nomatch hsince), ?_⟩, ?_⟩
      · intro t ht hsince hread
        obtain ⟨h, hnone⟩ := hrevoking t ht hsince hread
        exact ⟨hclear h, hnone⟩
      · intro hdone
        obtain ⟨h, hnone⟩ := hrevoked hdone
        exact ⟨hclear h, hnone⟩

theorem Settled.step (haccounted : Accounted decrypt sessionId P) (hsettled : Settled P)
    (hstep : PoolStep (tokenRules decrypt sessionId Separate) P P') : Settled P' := by
  cases hstep with
  | call hadmits hserve => exact hsettled.call haccounted hadmits hserve
  | @ends before after role result s s' successor hends =>
      obtain ⟨rfl, rfl⟩ := hends
      exact hsettled.ends
  | @turn threads s s' newcomer hturn =>
      obtain ⟨request, rfl, hstarts⟩ := hturn
      exact hsettled.turn hstarts

end invariant

/-- **The tokens of a session.**  In every run in which readings of the tokens keep apart from
launches and revocations under way, at most one token is live at any time, and none is once a
revocation that started after the last launch was requested has finished. -/
theorem session_tokens (decrypt : String → Option String) (sessionId : SessionId)
    (rows : List SessionTokenRow) (P : TokenPool)
    (hrun : PoolRun (tokenRules decrypt sessionId Separate) (TokenPool.start rows) P) :
    P.state.live.length ≤ 1 ∧ (P.state.launches ∈ P.state.finished → P.state.live = []) := by
  have hkept : Accounted decrypt sessionId P ∧ Settled P := by
    induction hrun with
    | refl => exact ⟨Accounted.start rows, Settled.start rows⟩
    | tail _ hstep ih => exact ⟨ih.1.step hstep, ih.2.step ih.1 hstep⟩
  exact ⟨hkept.1.small, fun hdone => (hkept.2.revoked hdone).2⟩

/-! ## Runs -/

def sampleAnswer : (c : Call) → World → Option (Except AppError c.Reply × World)
  | .findConnectionRecord _ _, w => some (.ok (some ⟨"proxvm-web", some "7"⟩), w)
  | .findUserRecord _, w => some (.ok (some ⟨"px_user", "password"⟩), w)
  | .requestToken _ _, w =>
      match w.live with
      | [] => some (.ok ⟨"first", "postgresql"⟩, { w with live := ["first"] })
      | ["first"] => some (.ok ⟨"second", "postgresql"⟩, { w with live := ["second", "first"] })
      | _ => none
  | .findConnectionIdentifier _ _ _, w => some (.ok none, w)
  | .deleteToken token, w =>
      some (.ok (), { w with live := w.live.filter fun live => decide (live ≠ token) })
  | .encrypt plaintext, w => some (.ok plaintext, w)
  | .selectTokens sessionId, w => some (.ok (w.ciphertexts sessionId), w)
  | .insertToken row, w => some (.ok (), { w with rows := w.rows ++ [row] })
  | .deleteTokens sessionId, w => some (.ok (), { w with
      rows := w.rows.filter fun row => decide (row.proxvmSessionId ≠ sessionId) })

theorem serves_sampleAnswer (c : Call) (w : World) (r : Except AppError c.Reply) (w' : World)
    (hanswer : sampleAnswer c w = some (r, w')) : Serves some c w r w' := by
  cases c with
  | findConnectionRecord _ _ =>
      cases hanswer
      refine ⟨rfl, _, rfl, ?_⟩
      rintro row ⟨⟩
      exact ⟨"7", rfl, by decide⟩
  | findUserRecord _ =>
      cases hanswer
      exact ⟨rfl, _, rfl⟩
  | requestToken _ _ =>
      obtain ⟨live, rows, launches, finished⟩ := w
      simp only [sampleAnswer] at hanswer
      split at hanswer
      · cases hanswer
        exact ⟨_, rfl, by decide, by simp_all, by simp_all⟩
      · cases hanswer
        exact ⟨_, rfl, by decide, by simp_all, by simp_all⟩
      · cases hanswer
  | findConnectionIdentifier _ _ _ =>
      cases hanswer
      exact ⟨rfl, none, rfl⟩
  | deleteToken token =>
      cases hanswer
      exact ⟨rfl, rfl⟩
  | encrypt plaintext =>
      cases hanswer
      exact ⟨rfl, plaintext, rfl, rfl⟩
  | selectTokens sessionId =>
      cases hanswer
      exact ⟨rfl, rfl⟩
  | insertToken row =>
      cases hanswer
      exact ⟨rfl, rfl⟩
  | deleteTokens sessionId =>
      cases hanswer
      exact ⟨rfl, rfl⟩

def sampleLaunch : Task Launched := launch some 30 10 true none (some 1)

theorem requests (admits : TokenPool → Request → Call → Prop) (w : World)
    (others : List TokenThread) : PoolStep (tokenRules some 1 admits) ⟨w, others⟩
      ⟨{ w with launches := w.launches + 1 }, ⟨.launch w.launches 30 10 none, sampleLaunch⟩ :: others⟩ :=
  have hturn : (tokenRules some 1 admits).turn w
      (some ⟨.launch w.launches 30 10 none, sampleLaunch⟩) { w with launches := w.launches + 1 } :=
    ⟨.launch w.launches 30 10 none, rfl, rfl, rfl⟩
  .turn hturn

theorem session_tokens_sample :
    (["first"] : List String).length ≤ 1 ∧ (1 ∈ ([] : List Nat) → ["first"] = ([] : List String)) := by
  have hadmits : ∀ (c : Call) (next : Except AppError c.Reply → Task Launched) (w : World),
      Separate ⟨w, [⟨.launch 0 30 10 none, .call c next⟩]⟩ (.launch 0 30 10 none) c := by
    intro c next w
    cases c with
    | selectTokens id => exact List.forall_mem_singleton.mpr rfl
    | _ => exact trivial
  have hdrive : drive sampleAnswer 8 (sampleLaunch, ⟨[], [], 1, []⟩) =
      (.ofExcept (.ok (.direct "7" "first" "postgresql")), ⟨["first"], [⟨1, "first"⟩], 1, []⟩) := by
    rfl
  have hruns := @poolRun_drive_beside _ _ _ _ _ (tokenRules some 1 Separate) sampleAnswer
    (.launch 0 30 10 none) [] hadmits serves_sampleAnswer 8 sampleLaunch ⟨[], [], 1, []⟩
  rw [hdrive] at hruns
  exact session_tokens some 1 [] _ (.head (requests Separate _ []) hruns)

/-- The second of two launches reads the tokens before the first has recorded its own, and both
tokens stay live. -/
theorem overlapping_launches : ¬ ∀ (decrypt : String → Option String) (sessionId : SessionId)
    (rows : List SessionTokenRow) (P : TokenPool),
      PoolRun (tokenRules decrypt sessionId fun _ _ _ => True) (TokenPool.start rows) P →
        (∀ t ∈ P.threads, t.role.number? = none) → P.state.live.length ≤ 1 ∧
            (P.state.launches ∈ P.state.finished → P.state.live = []) := by
  intro hlaw
  have hruns := fun (request : Request) (others : List TokenThread) =>
    @poolRun_drive_beside _ _ _ _ _ (tokenRules some 1 fun _ _ _ => True) sampleAnswer request others
      (fun _ _ _ => trivial) serves_sampleAnswer
  have hreads : drive sampleAnswer 4 (sampleLaunch, ⟨[], [], 1, []⟩) =
      ((drive sampleAnswer 4 (sampleLaunch, ⟨[], [], 1, []⟩)).1, ⟨[], [], 1, []⟩) := by rfl
  have hother : drive sampleAnswer 8 (sampleLaunch, ⟨[], [], 2, []⟩) =
      (.ofExcept (.ok (.direct "7" "first" "postgresql")), ⟨["first"], [⟨1, "first"⟩], 2, []⟩) := by
    rfl
  have hgoesOn : drive sampleAnswer 4 ((drive sampleAnswer 4 (sampleLaunch, ⟨[], [], 1, []⟩)).1,
      ⟨["first"], [⟨1, "first"⟩], 2, []⟩) =
        (.ofExcept (.ok (.direct "7" "second" "postgresql")),
          ⟨["second", "first"], [⟨1, "first"⟩, ⟨1, "second"⟩], 2, []⟩) := by rfl
  have hfirst := hruns (.launch 0 30 10 none) [] 4 sampleLaunch ⟨[], [], 1, []⟩
  rw [hreads] at hfirst
  have hsecond := hruns (.launch 1 30 10 none) [⟨.launch 0 30 10 none,
    (drive sampleAnswer 4 (sampleLaunch, ⟨[], [], 1, []⟩)).1⟩] 8 sampleLaunch ⟨[], [], 2, []⟩
  rw [hother] at hsecond
  have hthird := hruns (.launch 0 30 10 none) [] 4
    (drive sampleAnswer 4 (sampleLaunch, ⟨[], [], 1, []⟩)).1 ⟨["first"], [⟨1, "first"⟩], 2, []⟩
  rw [hgoesOn] at hthird
  have hleaves : ∀ (number : Nat) (launched : Launched) (w : World) (others : List TokenThread),
      PoolStep (tokenRules some 1 fun _ _ _ => True)
        ⟨w, ⟨.launch number 30 10 none, .ofExcept (.ok launched)⟩ :: others⟩ ⟨w, others⟩ := by
    intro number launched w others
    have hends : (tokenRules some 1 fun _ _ _ => True).ends (.launch number 30 10 none)
      (.ok launched) w none w := ⟨rfl, rfl⟩
    exact .endsFirst hends
  have hrun : PoolRun (tokenRules some 1 fun _ _ _ => True) (TokenPool.start [])
      ⟨⟨["second", "first"], [⟨1, "first"⟩, ⟨1, "second"⟩], 2, []⟩, []⟩ :=
    (Relation.ReflTransGen.head (requests _ _ []) hfirst).trans <|
      (Relation.ReflTransGen.head (requests _ _ _) hsecond).trans <|
        .head (hleaves 1 _ _ _) (hthird.tail (hleaves 0 _ _ _))
  have hsmall := (hlaw some 1 [] _ hrun fun t ht => absurd ht List.not_mem_nil).1
  exact absurd hsmall (by decide)

end ProxVM.Tokens
