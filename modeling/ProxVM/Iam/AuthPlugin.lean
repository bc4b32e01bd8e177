import ProxVM.Iam.Expiry
import ProxVM.Iam.Service

/-!
# The auth plugin

`plugins/auth.ts`: the hook that puts the session's user on a request, and
`requirePermission`, which asks the legacy roles of that user first and else resolves the
effective access, with the answers memoized on the request.

A request may check permissions several times, at different instants.  The memo keeps what
an earlier call found, and the user's roles are those of the instant the user was loaded at;
`cached_iff` says exactly what the memo holds.  The result is **`requirePermission_agrees`**.
-/

namespace ProxVM

open Tables Fallible

/-- What the plugin keeps on a request: `request.user` and `__permCache`. -/
structure AuthRequest where
  user : Option UserWithRoles
  permCache : Permission → Option Bool

/-- The `onRequest` hook on the session of a user: only an active user is put on the
request. -/
def AuthRequest.onRequest (db : Db) (now : Time) (session : UserId) : AuthRequest :=
  { user := (findUserById db now session).filter fun user => user.row.active
    permCache := fun _ => none }

/-- `missing`: the wanted permissions without a positive answer in the memo. -/
def AuthRequest.missing (request : AuthRequest) (wanted : List Permission) : List Permission :=
  wanted.filter fun p =>
    match request.permCache p with
    | some granted => !granted
    | none => true

def AuthRequest.resolved (request : AuthRequest) (effective : EffectiveAccess)
    (wanted : List Permission) : Permission → Option Bool :=
  (request.missing wanted).foldl (fun cache p => Function.update cache p (some (effective.has p)))
    request.permCache

/-- `requirePermission(wanted)` on a request: the outcome and the request after it. -/
def AuthRequest.requirePermission (request : AuthRequest) (db : Db) (now : Time)
    (wanted : List Permission) : Except AppError UserWithRoles × AuthRequest :=
  match request.user with
  | none => (.error AppError.unauthorized, request)
  | some user =>
    if wanted.any (hasPermission user) then
      (.ok user, request)
    else
      let cache := request.resolved (resolveEffectiveAccess db now user.row.id) wanted
      match wanted.find? fun p => cache p == some true with
      | none => (.error AppError.forbidden, { request with permCache := cache })
      | some _ => (.ok user, { request with permCache := cache })

def AuthRequest.grants (request : AuthRequest) (db : Db) (now : Time) (wanted : List Permission) :
    Bool :=
  (request.requirePermission db now wanted).1.isOk

/-- A call of `requirePermission` within a request. -/
structure PermissionCall where
  now : Time
  wanted : List Permission
  deriving DecidableEq, Repr

def AuthRequest.calls (request : AuthRequest) (db : Db) : List PermissionCall → AuthRequest
  | [] => request
  | call :: earlier => ((request.calls db earlier).requirePermission db call.now call.wanted).2

/-! ## The memo -/

section memo

variable {db : Db} {request : AuthRequest} {user : UserWithRoles} {now : Time}
  {wanted : List Permission} {p : Permission}

theorem mem_missing : p ∈ request.missing wanted ↔ p ∈ wanted ∧ request.permCache p ≠ some true := by
  simp only [AuthRequest.missing, List.mem_filter, and_congr_right_iff]
  intro _
  cases request.permCache p with
  | none => simp
  | some granted => cases granted <;> simp

private theorem foldl_memo (f : Permission → Bool) (missing : List Permission)
    (cache : Permission → Option Bool) (p : Permission) :
    missing.foldl (fun cache q => Function.update cache q (some (f q))) cache p =
      if p ∈ missing then some (f p) else cache p := by
  induction missing generalizing cache with
  | nil => simp
  | cons q rest ih =>
      rw [List.foldl_cons, ih]
      by_cases hrest : p ∈ rest
      · simp [hrest]
      · by_cases hq : p = q
        · subst hq
          simp [hrest]
        · simp [hrest, hq]

theorem resolved_eq_true {effective : EffectiveAccess} : request.resolved effective wanted p = some true ↔
      request.permCache p = some true ∨ p ∈ wanted ∧ effective.has p = true := by
  rw [AuthRequest.resolved, foldl_memo]
  by_cases hcached : request.permCache p = some true
  · have hnot : p ∉ request.missing wanted := fun hmem => (mem_missing.mp hmem).2 hcached
    simp [hnot, hcached]
  · by_cases hwanted : p ∈ wanted
    · have hmem : p ∈ request.missing wanted := mem_missing.mpr ⟨hwanted, hcached⟩
      simp [hmem, hcached, hwanted]
    · have hnot : p ∉ request.missing wanted := fun hmem => hwanted (mem_missing.mp hmem).1
      simp [hnot, hcached, hwanted]

theorem requirePermission_user : (request.requirePermission db now wanted).2.user = request.user := by
  unfold AuthRequest.requirePermission
  cases huser : request.user with
  | none => exact huser
  | some user =>
      dsimp only
      split
      · exact huser
      · split <;> rfl

theorem grants_iff (huser : request.user = some user) : request.grants db now wanted = true ↔
      ∃ p ∈ wanted, hasPermission user p = true ∨ request.permCache p = some true ∨
        (resolveEffectiveAccess db now user.row.id).has p = true := by
  unfold AuthRequest.grants AuthRequest.requirePermission
  simp only [huser]
  split
  · rename_i hfast
    obtain ⟨p, hp, hlegacy⟩ := List.any_eq_true.mp hfast
    exact iff_of_true rfl ⟨p, hp, .inl hlegacy⟩
  · rename_i hslow
    have hnone : ∀ p ∈ wanted, hasPermission user p ≠ true := fun p hp hlegacy =>
      hslow (List.any_eq_true.mpr ⟨p, hp, hlegacy⟩)
    have hresolved : (∃ p ∈ wanted,
        request.resolved (resolveEffectiveAccess db now user.row.id) wanted p = some true) ↔
        ∃ p ∈ wanted, hasPermission user p = true ∨ request.permCache p = some true ∨
          (resolveEffectiveAccess db now user.row.id).has p = true := by
      refine exists_congr fun p => and_congr_right fun hp => ?_
      simp only [resolved_eq_true, hp, true_and, hnone p hp, Bool.false_eq_true, false_or]
    rw [← hresolved]
    split
    · rename_i hfind
      have hnot := List.find?_eq_none.mp hfind
      simp only [beq_iff_eq] at hnot
      exact iff_of_false (by simp [Except.isOk, Except.toBool])
        fun ⟨p, hp, htrue⟩ => hnot p hp htrue
    · rename_i p hfind
      have htrue := List.find?_some hfind
      simp only [beq_iff_eq] at htrue
      exact iff_of_true rfl ⟨p, List.mem_of_find?_eq_some hfind, htrue⟩

theorem permCache_requirePermission (huser : request.user = some user) :
    (request.requirePermission db now wanted).2.permCache p = some true ↔
      request.permCache p = some true ∨ wanted.any (hasPermission user) = false ∧ p ∈ wanted ∧
        (resolveEffectiveAccess db now user.row.id).has p = true := by
  unfold AuthRequest.requirePermission
  simp only [huser]
  cases hfast : wanted.any (hasPermission user) with
  | true => simp
  | false =>
      simp only [Bool.false_eq_true, if_false, true_and, ← resolved_eq_true]
      split <;> rfl

end memo

section calls

variable {db : Db} {loadedAt : Time} {session : UserId} {user : UserWithRoles}
  {calls : List PermissionCall} {p : Permission}

theorem calls_user (db : Db) (request : AuthRequest) (calls : List PermissionCall) :
    (request.calls db calls).user = request.user := by
  induction calls with
  | nil => rfl
  | cons call earlier ih =>
      rw [AuthRequest.calls, requirePermission_user, ih]

/-- **The memo holds exactly what the resolving calls found.** -/
theorem cached_iff (huser : (AuthRequest.onRequest db loadedAt session).user = some user) :
    ((AuthRequest.onRequest db loadedAt session).calls db calls).permCache p = some true ↔
      ∃ call ∈ calls, call.wanted.any (hasPermission user) = false ∧ p ∈ call.wanted ∧
        (resolveEffectiveAccess db call.now user.row.id).has p = true := by
  induction calls with
  | nil => simp [AuthRequest.calls, AuthRequest.onRequest]
  | cons call earlier ih =>
      have hsame := (calls_user db (AuthRequest.onRequest db loadedAt session) earlier).trans huser
      rw [AuthRequest.calls, permCache_requirePermission hsame, ih]
      simp only [List.mem_cons, exists_eq_or_imp]
      exact or_comm

end calls

/-! ## The guard of the handlers -/

/-! ## What a call grants -/

theorem onRequest_user {db : Db} {now : Time} {session : UserId} {user : UserWithRoles} :
    (AuthRequest.onRequest db now session).user = some user ↔
      findUserById db now session = some user ∧ user.row.active = true := by
  simp [AuthRequest.onRequest, Option.filter_eq_some_iff]

/-- A permission that a call grants for: one of a legacy role of the loaded user, one that
full resolution contains now, or one that it contained in an earlier call that had to
resolve it. -/
def HeldInRequest (db : Db) (user : UserWithRoles) (earlier : List PermissionCall) (now : Time)
    (p : Permission) : Prop :=
  hasPermission user p = true ∨ (resolveEffectiveAccess db now user.row.id).has p = true ∨
    ∃ call ∈ earlier, call.wanted.any (hasPermission user) = false ∧ p ∈ call.wanted ∧
      (resolveEffectiveAccess db call.now user.row.id).has p = true

theorem HeldInRequest.loaded {db : Db} {loadedAt now : Time} {session : UserId}
    {user : UserWithRoles} {earlier : List PermissionCall} {p : Permission}
    (hfind : findUserById db loadedAt session = some user)
    (hearlier : ∀ call ∈ earlier, loadedAt ≤ call.now) (hnow : loadedAt ≤ now)
    (hheld : HeldInRequest db user earlier now p) :
    (resolveEffectiveAccess db loadedAt session).has p = true := by
  obtain ⟨-, hid, hassemble⟩ := findUserById_eq_some hfind
  rcases hheld with hlegacy | heffective | ⟨call, hcall, -, -, heffective⟩
  · rw [hassemble] at hlegacy
    simpa [hid] using has_of_hasPermission hlegacy
  · exact has_earlier hnow (by rwa [hid] at heffective)
  · exact has_earlier (hearlier call hcall) (by rwa [hid] at heffective)

/-- **The fast path and the memo agree with full resolution.**  After any earlier calls
within the request, a call grants exactly when the user is active and a wanted permission
is held in the request; and where no wanted permission was lost since the user was loaded,
exactly when the user is active and full resolution contains a wanted permission. -/
theorem requirePermission_agrees (db : Db) {loadedAt now : Time} (session : UserId)
    (earlier : List PermissionCall) (wanted : List Permission)
    (hearlier : ∀ call ∈ earlier, loadedAt ≤ call.now) (hnow : loadedAt ≤ now) :
    (((AuthRequest.onRequest db loadedAt session).calls db earlier).grants db now wanted = true ↔
      ∃ user, findUserById db loadedAt session = some user ∧ user.row.active = true ∧
        ∃ p ∈ wanted, HeldInRequest db user earlier now p) ∧
    ((∀ p ∈ wanted, (resolveEffectiveAccess db loadedAt session).has p = true →
        (resolveEffectiveAccess db now session).has p = true) →
      (((AuthRequest.onRequest db loadedAt session).calls db earlier).grants db now wanted = true ↔
        ∃ user, findUserById db loadedAt session = some user ∧ user.row.active = true ∧
          ∃ p ∈ wanted, (resolveEffectiveAccess db now session).has p = true)) := by
  have hexact : ((AuthRequest.onRequest db loadedAt session).calls db earlier).grants db now wanted
      = true ↔ ∃ user, findUserById db loadedAt session = some user ∧ user.row.active = true ∧
        ∃ p ∈ wanted, HeldInRequest db user earlier now p := by
    cases huser : (AuthRequest.onRequest db loadedAt session).user with
    | none =>
        have hnone := (calls_user db (AuthRequest.onRequest db loadedAt session) earlier).trans huser
        refine iff_of_false ?_ ?_
        · simp [AuthRequest.grants, AuthRequest.requirePermission, hnone, Except.isOk, Except.toBool]
        · rintro ⟨user, hfind, hactive, -⟩
          rw [onRequest_user.mpr ⟨hfind, hactive⟩] at huser
          cases huser
    | some user =>
        have hsame := (calls_user db (AuthRequest.onRequest db loadedAt session) earlier).trans huser
        obtain ⟨hfind, hactive⟩ := onRequest_user.mp huser
        rw [grants_iff hsame]
        simp only [cached_iff huser, hfind, Option.some.injEq, exists_eq_left', hactive, true_and,
          HeldInRequest]
        exact exists_congr fun p => and_congr_right fun _ => or_congr_right or_comm
  refine ⟨hexact, fun hkept => hexact.trans (exists_congr fun user => and_congr_right fun hfind =>
    and_congr_right fun _ => exists_congr fun p => and_congr_right fun hp => ?_)⟩
  obtain ⟨-, hid, -⟩ := findUserById_eq_some hfind
  constructor
  · intro hheld
    exact hkept p hp (hheld.loaded hfind hearlier hnow)
  · intro heffective
    rw [← hid] at heffective
    exact .inr (.inl heffective)

/-- `Db.sample` with the administrator role of user 11 expiring at instant 10. -/
def Db.expiringAdmin : Db :=
  { Db.sample with userRoles := ⟨[⟨10, 1, none⟩, ⟨11, 1, some 10⟩, ⟨12, 4, none⟩], by decide⟩ }

theorem requirePermission_agrees_sample :
    ((AuthRequest.onRequest Db.expiringAdmin 3 11).calls Db.expiringAdmin
      [⟨4, [.usersManage]⟩]).grants Db.expiringAdmin 5 [.vmStart, .vmManage] = true :=
  ((requirePermission_agrees Db.expiringAdmin 11 [⟨4, [.usersManage]⟩] [.vmStart, .vmManage]
    (by decide) (by decide : 3 ≤ 5)).2 (by decide)).mpr (by decide)

/-- A request loaded at instant 3 still passes at instant 20, when full resolution no longer
contains the permission. -/
theorem requirePermission_outlives :
    ((AuthRequest.onRequest Db.expiringAdmin 3 11).calls Db.expiringAdmin []).grants
        Db.expiringAdmin 20 [.vmManage] = true ∧
      (resolveEffectiveAccess Db.expiringAdmin 20 11).has .vmManage = false := by
  decide

end ProxVM
