import ProxVM.Login.Sessions

/-!
# Sessions come from logins, and do not come back
-/

namespace ProxVM.Login

open Tables Interaction
open Lockout (SessionId)

/-! ## Steps of the pool -/

theorem follows_finish (request : Request) (r : Except AppError request.Result) (w : World) :
    Follows w (finish request r w) := by
  unfold finish
  split
  · exact ⟨Nat.le_refl _, fun _ h => h⟩
  · exact .refl w

/-- A request with the token was taken to be a user's for a session that a login had opened. -/
structure Accepts (deps : Deps) (w : World) (token : String) (auth : Auth) : Prop where
  opened : ∃ o ∈ w.opened, o.Of auth.session ∧ deps.verifyPassword o.passwordHash o.password = true
  token : auth.session.sidHash = deps.hashSid token
  valid : ∃ time ≤ w.now, auth.session.ValidAt time
  user : auth.user.id = auth.session.userId
  active : auth.user.active = true

structure Sound (deps : Deps) (w : World) : Prop where
  recorded : Recorded deps w
  accepted : ∀ entry ∈ w.accepted, Accepts deps w entry.1 entry.2

def Outcome (deps : Deps) : (request : Request) → Except AppError request.Result → World → Prop
  | .visit cookie _, r, w => ∀ auth, r = .ok (some auth) → Accepts deps w cookie.token auth
  | _, _, _ => True

section accepted

variable {deps : Deps} {w w' : World} {P P' : LoginPool} {admits : LoginPool → Request → Call → Prop}

variable {request : Request} {c : Call}

theorem Accepts.later {token : String} {auth : Auth} (h : Accepts deps w token auth)
    (hfollows : Follows w w') : Accepts deps w' token auth := by
  obtain ⟨o, ho, hof⟩ := h.opened
  obtain ⟨time, htime, hvalid⟩ := h.valid
  exact ⟨⟨o, hfollows.opened o ho, hof⟩, h.token, ⟨time, Nat.le_trans htime hfollows.now, hvalid⟩,
    h.user, h.active⟩

theorem Sound.served (h : Sound deps w) (hserved : Served c w w') (hfresh : Fresh w c)
    (hgrants : Grants deps request c w) : Sound deps w' := by
  refine ⟨h.recorded.served hserved hfresh hgrants, fun entry hentry => ?_⟩
  rw [hserved.accepted] at hentry
  exact (h.accepted entry hentry).later hserved.follows

theorem Sound.drifts (h : Sound deps w) (hdrifts : Drifts w w') : Sound deps w' := by
  have hdrifted := drifted_of_drifts hdrifts
  refine ⟨h.recorded.drifts hdrifts, fun entry hentry => ?_⟩
  rw [hdrifted.accepted] at hentry
  exact (h.accepted entry hentry).later hdrifted.follows

theorem Sound.finish {r : Except AppError request.Result} (h : Sound deps w)
    (houtcome : Outcome deps request r w) : Sound deps (finish request r w) := by
  have hlater := fun entry hentry => (h.accepted entry hentry).later (follows_finish request r w)
  unfold Login.finish at hlater ⊢
  split
  · rename_i cookie handler auth
    refine ⟨⟨h.recorded.sessions, h.recorded.verified, h.recorded.ids⟩, fun entry hentry => ?_⟩
    rcases List.mem_cons.mp hentry with rfl | hold
    · exact (houtcome auth rfl).later ⟨Nat.le_refl _, fun _ h => h⟩
    · exact hlater entry hold
  · exact h

end accepted

/-! ## Sessions at their end -/

/-- The session is revoked, expired, or idle for too long with no touch on its way. -/
def SessionRecord.Ended (s : SessionRecord) (w : World) : Prop :=
  s.revokedAt.isSome ∨ s.expiresAt ≤ w.now ∨
    s.lastActiveAt + s.idleTimeoutMinutes * 60 * 1000 < w.now ∧ s.id ∉ w.touching

/-- A session of the hash was opened, and it has come to its end or is gone. -/
structure Over (hash : String) (w : World) : Prop where
  opened : ∃ o ∈ w.opened, o.session.sidHash = hash
  ended : ∀ s ∈ w.sessions, s.sidHash = hash → s.Ended w

/-- The requests with a token of the hash that were taken to be a user's. -/
def World.acceptedBy (deps : Deps) (hash : String) (w : World) : List (String × Auth) :=
  w.accepted.filter fun entry => decide (deps.hashSid entry.1 = hash)

/-- A visit with the hash touches no session. -/
def Spares (deps : Deps) (hash : String) (request : Request) (c : Call) (_ : World) : Prop :=
  ∀ cookie handler, request = .visit cookie handler → deps.hashSid cookie.token = hash → ∀ id, c ≠ .sendTouch id

def Refused (deps : Deps) (hash : String) : (request : Request) → Except AppError request.Result → Prop
  | .visit cookie _, r => deps.hashSid cookie.token = hash → ∀ auth, r ≠ .ok (some auth)
  | _, _ => True

section ended

variable {deps : Deps} {hash : String} {log : List (String × Auth)} {w w' : World} {P P' : LoginPool}

variable {request : Request} {c : Call}

def Settled (deps : Deps) (hash : String) (log : List (String × Auth)) (w : World) : Prop :=
  Over hash w ∧ w.acceptedBy deps hash = log

theorem SessionRecord.Ended.continues {s s' : SessionRecord} (h : s.Ended w) (hcont : s.Continues s')
    (hnow : w.now ≤ w'.now) (htouching : s.id ∈ w'.touching → s.id ∈ w.touching) : s'.Ended w' := by
  obtain hrevoked | hexpired | ⟨hidle, htouch⟩ := h
  · exact .inl (hcont.revoked hrevoked)
  · exact .inr (.inl (hcont.expiresAt ▸ Nat.le_trans hexpired hnow))
  · refine .inr (.inr ⟨?_, fun h => htouch (htouching (hcont.id ▸ h))⟩)
    rw [hcont.lastActiveAt, hcont.idleTimeoutMinutes]
    exact Nat.lt_of_lt_of_le hidle hnow

/-- No request touches a session of the hash. -/
theorem not_touched (hrecorded : Recorded deps w) (hgrants : Grants deps request c w)
    (hspares : Spares deps hash request c w) {id : SessionId} (hc : c = .sendTouch id) {s : SessionRecord}
    (hs : s ∈ w.sessions) (hhash : s.sidHash = hash) : s.id ≠ id := by
  rintro rfl
  obtain ⟨cookie, handler, hrequest, o, ho, hid, htoken⟩ := hgrants.2 _ hc
  obtain ⟨o', ho', hof⟩ := hrecorded.sessions s hs
  obtain rfl : o = o' := hrecorded.ids o ho o' ho' (hid.trans hof.id)
  exact hspares cookie handler hrequest (htoken.symm.trans (hof.sidHash.symm.trans hhash)) _ hc

theorem Over.served (h : Over hash w) (hserved : Served c w w') (hrecorded : Recorded deps w)
    (hfresh : Fresh w c) (hgrants : Grants deps request c w) (hspares : Spares deps hash request c w) :
    Over hash w' := by
  obtain ⟨o, ho, hopened⟩ := h.opened
  refine ⟨⟨o, hserved.follows.opened o ho, hopened⟩, fun s' hs' hhash => ?_⟩
  rcases hserved.sessions s' hs' with ⟨s, hs, hcont⟩ | ⟨new, rfl, rfl, -⟩
  · have hhash' : s.sidHash = hash := hcont.sidHash.symm.trans hhash
    refine (h.ended s hs hhash').continues hcont (Nat.le_of_eq hserved.now.symm) fun htouch => ?_
    rcases hserved.touching with hsame | ⟨id, hc, hnew⟩
    · rwa [← hsame]
    · rw [hnew] at htouch
      have hne := not_touched hrecorded hgrants hspares hc hs hhash'
      exact (List.mem_cons.mp htouch).resolve_left hne
  · exact absurd (hopened.trans hhash.symm) (hfresh o ho).2

theorem Over.drifts (h : Over hash w) (hdrifts : Drifts w w') : Over hash w' := by
  have hdrifted := drifted_of_drifts hdrifts
  obtain ⟨o, ho, hopened⟩ := h.opened
  refine ⟨⟨o, hdrifted.follows.opened o ho, hopened⟩, fun s' hs' hhash => ?_⟩
  obtain ⟨s, hs, hcont | ⟨htouch, rfl⟩⟩ := session_of_drifts hdrifts hs'
  · exact (h.ended s hs (hcont.sidHash.symm.trans hhash)).continues hcont hdrifted.now (hdrifted.touching _)
  · -- a touch was on its way, so the session was not at its end by being idle
    obtain hrevoked | hexpired | ⟨-, hno⟩ := h.ended s hs hhash
    · exact .inl hrevoked
    · exact .inr (.inl (Nat.le_trans hexpired hdrifted.now))
    · exact absurd htouch hno

theorem Settled.finish {r : Except AppError request.Result} (h : Settled deps hash log w)
    (hrefused : Refused deps hash request r) : Settled deps hash log (finish request r w) := by
  unfold Login.finish
  split
  · rename_i cookie handler auth
    refine ⟨⟨h.1.opened, h.1.ended⟩, ?_⟩
    have hother : deps.hashSid cookie.token ≠ hash := fun hsame => hrefused hsame auth rfl
    exact (List.filter_cons_of_neg (by simpa using hother)).trans h.2
  · exact h

theorem Settled.drifts (h : Settled deps hash log w) (hdrifts : Drifts w w') : Settled deps hash log w' := by
  refine ⟨h.1.drifts hdrifts, ?_⟩
  unfold World.acceptedBy
  rw [(drifted_of_drifts hdrifts).accepted]
  exact h.2

end ended

/-! ## Sessions after a revocation -/

/-- After each statement the account of the user, if it is active, has a hash that satisfies `H`. -/
def Keeps (H : String → Prop) (userId : UserId) (P : LoginPool) (_ : Request) (c : Call) : Prop :=
  ∀ a ∈ (answer c P.state).2.users, a.id = userId → a.active = true → H a.passwordHash

/-- The session was opened with a password that such a hash verifies. -/
def OpenedWith (deps : Deps) (H : String → Prop) (s : SessionRecord) (w : World) : Prop :=
  ∃ o ∈ w.opened, o.Of s ∧ H o.passwordHash ∧ deps.verifyPassword o.passwordHash o.password = true

/-- A session of the user is opened so only. -/
def Opens (deps : Deps) (H : String → Prop) (userId : UserId) (c : Call) (_ : World) : Prop :=
  ∀ o, c = .insertSession o → o.session.userId = userId →
    H o.passwordHash ∧ deps.verifyPassword o.passwordHash o.password = true

/-- Sessions that were not opened so are revoked, and requests with them were accepted before. -/
structure Renewed (deps : Deps) (H : String → Prop) (userId : UserId) (log : List (String × Auth)) (w : World) :
    Prop where
  users : ∀ a ∈ w.users, a.id = userId → a.active = true → H a.passwordHash
  sessions : ∀ s ∈ w.sessions, s.userId = userId → s.revokedAt.isSome ∨ OpenedWith deps H s w
  accepted : ∀ entry ∈ w.accepted, entry.2.user.id = userId → entry ∈ log ∨ OpenedWith deps H entry.2.session w

def Renews (deps : Deps) (H : String → Prop) (userId : UserId) :
    (request : Request) → Except AppError request.Result → World → Prop
  | .visit _ _, r, w => ∀ auth, r = .ok (some auth) → auth.user.id = userId → OpenedWith deps H auth.session w
  | _, _, _ => True

/-- The request has yet to read, or it is no visit and opens no session of the user. -/
def Unread (deps : Deps) (userId : UserId) (t : LoginThread) : Prop :=
  t.prog = t.role.prog deps ∨ (∀ cookie handler, t.role ≠ .visit cookie handler) ∧
    Only (F := calls) (fun c => ∀ o, c = .insertSession o → o.session.userId ≠ userId) t.prog

section renewed

variable {deps : Deps} {H : String → Prop} {userId : UserId} {log : List (String × Auth)} {w w' : World}

variable {P P' : LoginPool} {request : Request} {c : Call} {s : SessionRecord}

theorem OpenedWith.later (h : OpenedWith deps H s w) (hfollows : Follows w w') : OpenedWith deps H s w' := by
  obtain ⟨o, ho, hrest⟩ := h
  exact ⟨o, hfollows.opened o ho, hrest⟩

theorem OpenedWith.continues {s' : SessionRecord} (h : OpenedWith deps H s w) (hcont : s.Continues s') :
    OpenedWith deps H s' w := by
  obtain ⟨o, ho, hof, hrest⟩ := h
  exact ⟨o, ho, hof.continues hcont, hrest⟩

theorem Renewed.served (h : Renewed deps H userId log w) (hserved : Served c w w')
    (hkeeps : ∀ a ∈ (answer c w).2.users, a.id = userId → a.active = true → H a.passwordHash)
    (hopens : Opens deps H userId c w) : Renewed deps H userId log w' := by
  refine ⟨?_, fun s' hs' hid => ?_, fun entry hentry hid => ?_⟩
  · rcases hserved.users with hsame | hsame
    · rw [hsame]
      exact h.users
    · rw [hsame]
      exact hkeeps
  · rcases hserved.sessions s' hs' with ⟨s, hs, hcont⟩ | ⟨o, hc, rfl, hopened⟩
    · obtain hrevoked | hopened := h.sessions s hs (hcont.userId.symm.trans hid)
      · exact .inl (hcont.revoked hrevoked)
      · exact .inr ((hopened.later hserved.follows).continues hcont)
    · refine .inr ⟨o, ?_, ⟨rfl, rfl, rfl⟩, hopens o hc hid⟩
      rw [hopened]
      exact List.mem_cons_self
  · rw [hserved.accepted] at hentry
    exact (h.accepted entry hentry hid).imp_right fun hopened => hopened.later hserved.follows

theorem Renewed.drifts (h : Renewed deps H userId log w) (hdrifts : Drifts w w') :
    Renewed deps H userId log w' := by
  have hdrifted := drifted_of_drifts hdrifts
  refine ⟨fun a ha => h.users a (hdrifted.users ▸ ha), fun s' hs' hid => ?_, fun entry hentry hid => ?_⟩
  · obtain ⟨s, hs, hcont | ⟨-, rfl⟩⟩ := session_of_drifts hdrifts hs'
    · obtain hrevoked | hopened := h.sessions s hs (hcont.userId.symm.trans hid)
      · exact .inl (hcont.revoked hrevoked)
      · exact .inr ((hopened.later hdrifted.follows).continues hcont)
    · obtain hrevoked | ⟨o, ho, hof, hrest⟩ := h.sessions s hs hid
      · exact .inl hrevoked
      · exact .inr ⟨o, hdrifted.follows.opened o ho, ⟨hof.id, hof.sidHash, hof.userId⟩, hrest⟩
  · rw [hdrifted.accepted] at hentry
    exact (h.accepted entry hentry hid).imp_right fun hopened => hopened.later hdrifted.follows

theorem Renewed.finish {r : Except AppError request.Result} (h : Renewed deps H userId log w)
    (hrenews : Renews deps H userId request r w) : Renewed deps H userId log (finish request r w) := by
  unfold Login.finish
  split
  · rename_i cookie handler auth
    refine ⟨h.users, h.sessions, fun entry hentry hid => ?_⟩
    rcases List.mem_cons.mp hentry with rfl | hold
    · exact .inr (hrenews auth rfl hid)
    · exact h.accepted entry hold hid
  · exact h

section revoked

variable (hrevoked : ∀ s ∈ P.state.sessions, s.userId = userId → s.revokedAt.isSome)
variable (hunread : ∀ t ∈ P.threads, Unread deps userId t)

include hrevoked hunread

end revoked

end renewed

/-! ## A user with a live session and a disabled one -/

def sampleDeps : Deps where
  verifyPassword hash password := decide (hash = password)
  hashSid sid := sid
  deriveCsrfToken sid := sid
  toLowerCase text := text
  sessionDurationHours := 12
  idleTimeoutMinutes := 120

def liveSession : SessionRecord := ⟨1, "live", 10, 43200000, 0, 120, none⟩

def revokedSession : SessionRecord := ⟨2, "revoked", 11, 43200000, 0, 120, some 4000⟩

def sampleWorld : World where
  now := 5000
  users := ⟨[⟨10, "ann", "one", true, 0, none⟩, ⟨11, "bob", "two", false, 0, none⟩], by decide⟩
  sessions := ⟨[liveSession, revokedSession], by decide⟩
  touching := []
  opened := [⟨liveSession, "one", "one"⟩, ⟨{ revokedSession with revokedAt := none }, "old", "old"⟩]
  accepted := []

def Call.inserts : Call → Bool
  | .insertSession _ => true
  | _ => false

end ProxVM.Login
