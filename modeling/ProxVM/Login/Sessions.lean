import ProxVM.Login.Calls

/-!
# What logins and hooks do to sessions

`served_of_serves` says once what a statement may have done to the world.  From it, logins, hooks and
routes are described in a `context`, by what they guarantee to each other.
-/

namespace ProxVM.Login

open Tables Interaction

/-! ## What a statement does -/

/-- The same session later on. -/
structure SessionRecord.Continues (s s' : SessionRecord) : Prop where
  id : s'.id = s.id
  sidHash : s'.sidHash = s.sidHash
  userId : s'.userId = s.userId
  expiresAt : s'.expiresAt = s.expiresAt
  lastActiveAt : s'.lastActiveAt = s.lastActiveAt
  idleTimeoutMinutes : s'.idleTimeoutMinutes = s.idleTimeoutMinutes
  revoked : s.revokedAt.isSome → s'.revokedAt.isSome

theorem SessionRecord.Continues.refl (s : SessionRecord) : s.Continues s :=
  ⟨rfl, rfl, rfl, rfl, rfl, rfl, fun h => h⟩

/-- What the statement `c` may have done to the world. -/
structure Served (c : Call) (w w' : World) : Prop where
  now : w'.now = w.now
  sessions : ∀ s' ∈ w'.sessions, (∃ s ∈ w.sessions, s.Continues s') ∨
    ∃ o, c = .insertSession o ∧ o.session = s' ∧ w'.opened = o :: w.opened
  opened : w'.opened = w.opened ∨ ∃ o, c = .insertSession o ∧ w'.opened = o :: w.opened
  touching : w'.touching = w.touching ∨ ∃ id, c = .sendTouch id ∧ w'.touching = id :: w.touching
  users : w'.users = w.users ∨ w'.users = (answer c w).2.users
  accepted : w'.accepted = w.accepted

section statements

variable {c : Call} {w w' : World} {r : Except AppError c.Reply}

theorem Served.refl (c : Call) (w : World) : Served c w w :=
  ⟨rfl, fun s hs => .inl ⟨s, hs, .refl s⟩, .inl rfl, .inl rfl, .inl rfl, rfl⟩

theorem mem_opened_of_served (hserved : Served c w w') {o : Opening} (ho : o ∈ w.opened) : o ∈ w'.opened := by
  rcases hserved.opened with hsame | ⟨new, -, hnew⟩
  · rwa [hsame]
  · rw [hnew]
    exact List.mem_cons_of_mem new ho

/-- A session after time has passed, or a touch has taken effect. -/
theorem session_of_drifts (hdrifts : Drifts w w') {s' : SessionRecord} (hs' : s' ∈ w'.sessions) :
    ∃ s ∈ w.sessions, s.Continues s' ∨ s.id ∈ w.touching ∧ s' = { s with lastActiveAt := w.now } := by
  rcases hdrifts with ⟨ms, rfl⟩ | ⟨id, hid, rfl | rfl⟩
  · exact ⟨s', hs', .inl (.refl s')⟩
  · exact ⟨s', hs', .inl (.refl s')⟩
  · obtain ⟨s, hs, rfl⟩ := mem_updateSessions.mp hs'
    split
    · rename_i hp
      have hsame : s.id = id := of_decide_eq_true hp
      exact ⟨s, hs, .inr ⟨hsame ▸ hid, rfl⟩⟩
    · exact ⟨s, hs, .inl (.refl s)⟩

/-- Everything else stays, and no touch is added. -/
structure Drifted (w w' : World) : Prop where
  now : w.now ≤ w'.now
  opened : w'.opened = w.opened
  users : w'.users = w.users
  accepted : w'.accepted = w.accepted
  touching : ∀ id ∈ w'.touching, id ∈ w.touching

theorem drifted_of_drifts (hdrifts : Drifts w w') : Drifted w w' := by
  rcases hdrifts with ⟨ms, rfl⟩ | ⟨id, -, rfl | rfl⟩
  · exact ⟨Nat.le_add_right _ _, rfl, rfl, rfl, fun _ h => h⟩
  · exact ⟨Nat.le_refl _, rfl, rfl, rfl, fun _ h => List.mem_of_mem_erase h⟩
  · exact ⟨Nat.le_refl _, rfl, rfl, rfl, fun _ h => List.mem_of_mem_erase h⟩

end statements

/-! ## Contexts -/

/-- Time passes, and openings stay. -/
structure Follows (w w' : World) : Prop where
  now : w.now ≤ w'.now
  opened : ∀ o ∈ w.opened, o ∈ w'.opened

theorem Follows.refl (w : World) : Follows w w := ⟨Nat.le_refl _, fun _ h => h⟩

theorem Follows.trans {w₁ w₂ w₃ : World} (h : Follows w₁ w₂) (h' : Follows w₂ w₃) : Follows w₁ w₃ :=
  ⟨Nat.le_trans h.now h'.now, fun o ho => h'.opened o (h.opened o ho)⟩

/-- The others keep `I`. -/
def context (I : World → Prop) (guarantee : Call → World → Prop) : Context calls AppError World where
  serve := Serves
  rely w w' := Follows w w' ∧ (I w → I w')
  guarantee := guarantee
  rely_refl w := ⟨.refl w, fun h => h⟩
  rely_trans h h' := ⟨h.1.trans h'.1, fun hI => h'.2 (h.2 hI)⟩

section contexts

variable {deps : Deps} {I : World → Prop} {guarantee : Call → World → Prop} {w w' : World}

theorem Served.follows {c : Call} (hserved : Served c w w') : Follows w w' :=
  ⟨Nat.le_of_eq hserved.now.symm, fun _ => mem_opened_of_served hserved⟩

theorem Drifted.follows (hdrifted : Drifted w w') : Follows w w' :=
  ⟨hdrifted.now, fun _ ho => hdrifted.opened ▸ ho⟩

theorem holds_ask {c : Call} {Q : Except AppError c.Reply → World → Prop}
    (hask : ∀ w₁, (context I guarantee).rely w w₁ → guarantee c w₁ ∧
      Q (answer c w₁).1 (answer c w₁).2 ∧ ∀ e, Q (.error e) w₁)
    (hc : ∀ key, c ≠ .incr key := by rintro _ ⟨⟩) : (context I guarantee).holds (ask c) Q w := by
  refine Context.holds_perform.mpr fun w₁ hrely => ⟨(hask w₁ hrely).1, fun r w₂ hserve => ?_⟩
  rcases hserve with hanswer | ⟨rfl, ⟨e, rfl⟩ | ⟨key, hkey⟩⟩
  · obtain ⟨rfl, rfl⟩ := Prod.mk.inj hanswer
    exact (hask w₁ hrely).2.1
  · exact (hask _ hrely).2.2 e
  · exact absurd hkey (hc key)

end contexts

/-! ## Sessions and openings -/

/-- The session was opened so. -/
structure Opening.Of (o : Opening) (s : SessionRecord) : Prop where
  id : s.id = o.session.id
  sidHash : s.sidHash = o.session.sidHash
  userId : s.userId = o.session.userId

theorem Opening.Of.continues {o : Opening} {s s' : SessionRecord} (h : o.Of s) (hcont : s.Continues s') :
    o.Of s' :=
  ⟨hcont.id.trans h.id, hcont.sidHash.trans h.sidHash, hcont.userId.trans h.userId⟩

/-- Each session was opened with a verified password, and openings have ids of their own. -/
structure Recorded (deps : Deps) (w : World) : Prop where
  sessions : ∀ s ∈ w.sessions, ∃ o ∈ w.opened, o.Of s
  verified : ∀ o ∈ w.opened, deps.verifyPassword o.passwordHash o.password = true
  ids : ∀ o ∈ w.opened, ∀ o' ∈ w.opened, o.session.id = o'.session.id → o = o'

/-- What a request guarantees: it opens sessions with a verified password only, and touches only the
session of its own cookie. -/
def Grants (deps : Deps) (request : Request) (c : Call) (w : World) : Prop :=
  (∀ o, c = .insertSession o → deps.verifyPassword o.passwordHash o.password = true) ∧
    ∀ id, c = .sendTouch id → ∃ cookie handler, request = .visit cookie handler ∧
      ∃ o ∈ w.opened, o.session.id = id ∧ o.session.sidHash = deps.hashSid cookie.token

section recorded

variable {deps : Deps} {w w' : World} {c : Call} {request : Request}

theorem Recorded.served (h : Recorded deps w) (hserved : Served c w w') (hfresh : Fresh w c)
    (hgrants : Grants deps request c w) : Recorded deps w' := by
  obtain ⟨hverify, -⟩ := hgrants
  refine ⟨fun s' hs' => ?_, fun o ho => ?_, fun o ho o' ho' hid => ?_⟩
  · rcases hserved.sessions s' hs' with ⟨s, hs, hcont⟩ | ⟨new, rfl, rfl, hopened⟩
    · obtain ⟨o, ho, hof⟩ := h.sessions s hs
      exact ⟨o, mem_opened_of_served hserved ho, hof.continues hcont⟩
    · refine ⟨new, ?_, rfl, rfl, rfl⟩
      rw [hopened]
      exact List.mem_cons_self
  · rcases hserved.opened with hsame | ⟨new, rfl, hnew⟩
    · exact h.verified o (hsame ▸ ho)
    · rw [hnew] at ho
      rcases List.mem_cons.mp ho with rfl | hold
      · exact hverify o rfl
      · exact h.verified o hold
  · rcases hserved.opened with hsame | ⟨new, rfl, hnew⟩
    · exact h.ids o (hsame ▸ ho) o' (hsame ▸ ho') hid
    · rw [hnew] at ho ho'
      rcases List.mem_cons.mp ho with rfl | hold
      · rcases List.mem_cons.mp ho' with rfl | hold'
        · rfl
        · exact absurd hid.symm (hfresh o' hold').1
      · rcases List.mem_cons.mp ho' with rfl | hold'
        · exact absurd hid (hfresh o hold).1
        · exact h.ids o hold o' hold' hid

theorem Recorded.drifts (h : Recorded deps w) (hdrifts : Drifts w w') : Recorded deps w' := by
  have hopened := (drifted_of_drifts hdrifts).opened
  refine ⟨fun s' hs' => ?_, hopened ▸ h.verified, hopened ▸ h.ids⟩
  rw [hopened]
  obtain ⟨s, hs, hcont | ⟨-, rfl⟩⟩ := session_of_drifts hdrifts hs'
  · obtain ⟨o, ho, hof⟩ := h.sessions s hs
    exact ⟨o, ho, hof.continues hcont⟩
  · obtain ⟨o, ho, hof⟩ := h.sessions s hs
    exact ⟨o, ho, hof.id, hof.sidHash, hof.userId⟩

end recorded

/-! ## The programs in their contexts -/

/-- The statements that neither open nor touch a session. -/
def Call.plain : Call → Bool
  | .insertSession _ => false
  | .sendTouch _ => false
  | _ => true

section programs

variable {deps : Deps} {I : World → Prop} {guarantee : Call → World → Prop} {w : World} {P : Call → Prop}

end programs

/-! ## The hooks -/

/-- Neither revoked nor expired nor idle for too long. -/
structure SessionRecord.ValidAt (s : SessionRecord) (now : Time) : Prop where
  revokedAt : s.revokedAt = none
  expiresAt : now < s.expiresAt
  lastActiveAt : now ≤ s.lastActiveAt + s.idleTimeoutMinutes * 60 * 1000

/-- The session was read with the token in an earlier state with `I`, and it was valid then. -/
def Read (I : World → Prop) (deps : Deps) (token : String) (session : SessionRecord) (w : World) : Prop :=
  ∃ w₁, I w₁ ∧ Follows w₁ w ∧ session ∈ w₁.sessions ∧
    session.sidHash = deps.hashSid token ∧ session.ValidAt w₁.now

section hooks

variable {deps : Deps} {I : World → Prop} {guarantee : Call → World → Prop} {w w' : World} {token : String}

theorem Read.later {session : SessionRecord} (h : Read I deps token session w)
    (hlater : Follows w w') : Read I deps token session w' := by
  obtain ⟨w₁, hI, hfollows, hrest⟩ := h
  exact ⟨w₁, hI, hfollows.trans hlater, hrest⟩

end hooks

end ProxVM.Login
