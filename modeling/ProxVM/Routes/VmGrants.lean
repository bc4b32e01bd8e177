import ProxVM.Iam.Invitations

/-!
# What a grant leaves behind

`POST /vms/:id/access` merges the request with the row it finds, writes the result, and then
asks Guacamole to follow.  This module describes both ends of that request.
-/

namespace ProxVM

open Tables Fallible

def guacSyncFailed : AppError := AppError.external "Guacamole" "access synchronization failed"

def grantedRow (db : Db) (id : VmId) (target actor : UserId) (body : GrantVmBody) : VmAccessRow :=
  let existing := db.vmAccess.find? (id, target)
  { vmId := id, userId := target
    protocols := (body.protocols.map unique) <|> (existing.bind fun va => va.protocols)
    expiresAt := body.expiresAt <|> (existing.bind fun va => va.expiresAt)
    createdBy := some actor }

def ReachesVm (db : Db) (now : Time) (userId : UserId) (id : VmId)
    (requested : Option (List Protocol)) : Prop :=
  ∃ grant, (resolveEffectiveAccess db now userId).vmAccess id = some grant ∧
    ∀ protocols, requested = some protocols → ∀ p ∈ protocols, permits grant.protocols p = true

section grants

variable {ctx : RequestContext} {db : Db} {id : VmId} {body : GrantVmBody} {guacSynced : Bool}
  {target : UserWithRoles}

theorem after_postVmAccess_row {Q : Except AppError Unit → Db → Prop}
    (herr : ∀ e, e ≠ guacSyncFailed → Q (.error e) db)
    (hwritten : ∀ target actor, findTarget db ctx.now body.target = some target →
      isLive body.expiresAt ctx.now = true → (guacSynced = true →
        Q (.ok ()) (db.replaceVmAccess (grantedRow db id target.row.id actor body))) ∧
      (guacSynced = false → Q (.error guacSyncFailed)
        ((db.replaceVmAccess (grantedRow db id target.row.id actor body)).deleteVmAccess id
          target.row.id))) : after (postVmAccess ctx id body guacSynced) Q db := by
  have hunauthorized := herr AppError.unauthorized (by decide)
  have hforbidden := herr AppError.forbidden (by decide)
  have hmissing := herr (AppError.notFound "VM not found") (by decide)
  have hhidden := herr (AppError.forbidden
    "This VM is privacy-flagged: access management requires a direct grant") (by decide)
  have hunnamed := herr (AppError.validation "value: Either userId or username is required")
    (by decide)
  have hnobody := herr (AppError.notFound "User not found") (by decide)
  have hpast := herr (AppError.validation "expiresAt must be a future date-time") (by decide)
  simp only [postVmAccess, requirePermission, requireVmById, after_bind, after_query, after_orFail,
    after_ensure, after_pure, after_write, after_ite, after_fail]
  refine ⟨fun actor _ => ⟨fun _ => ⟨fun _ => ⟨fun vm hvm => ?_, fun _ => hmissing⟩,
    fun _ => hforbidden⟩, fun _ => hunauthorized⟩, fun _ => hunauthorized⟩
  obtain rfl := findVmById_id hvm
  refine ⟨fun _ => ⟨fun _ => ⟨fun target htarget => ⟨fun hfuture => ?_, fun _ => hpast⟩,
    fun _ => hnobody⟩, fun _ => hunnamed⟩, fun _ => hhidden⟩
  obtain ⟨hsynced, hfailed⟩ := hwritten target actor.row.id htarget hfuture
  exact ⟨hsynced, fun hnot => hfailed (Bool.eq_false_iff.mpr hnot)⟩

/-! ## A grant Guacamole does not follow -/

theorem find?_deleteVmAccess_self (db : Db) (id : VmId) (userId : UserId) :
    (db.deleteVmAccess id userId).vmAccess.find? (id, userId) = none := by
  have hscope := directScope_deleteVmAccess db id userId
  exact Option.map_eq_none_iff.mp hscope

/-- **A grant refused by the synchronization leaves the target's row as it was exactly when
there was none.** -/
theorem grant_restored_iff (htarget : findTarget db ctx.now body.target = some target)
    (hrefused : (exec (postVmAccess ctx id body false) db).1 = .error guacSyncFailed) :
    (exec (postVmAccess ctx id body false) db).2.vmAccess.find? (id, target.row.id) =
        db.vmAccess.find? (id, target.row.id) ↔ db.vmAccess.find? (id, target.row.id) = none := by
  have hgone : after (postVmAccess ctx id body false) (fun r db' => r = .error guacSyncFailed →
      db'.vmAccess.find? (id, target.row.id) = none) db := by
    refine after_postVmAccess_row (fun e he heq => ?_) fun found actor hfound _ =>
      ⟨fun _ hok => ?_, fun _ _ => ?_⟩
    · cases heq
      exact absurd rfl he
    · cases hok
    · cases htarget.symm.trans hfound
      exact find?_deleteVmAccess_self _ _ _
  rw [hgone hrefused]
  exact eq_comm

/-- A permanent grant of VM 30 to the guest `ann` of the sample installation. -/
def grantToAnn : GrantVmBody :=
  { target := ⟨some 12, none⟩, protocols := none, expiresAt := none }

theorem grant_restored_iff_sample :
    (exec (postVmAccess ⟨10, 5, 99⟩ 30 { grantToAnn with target := ⟨some 13, none⟩ } false)
        Db.sample).2.vmAccess.find? (30, 13) = Db.sample.vmAccess.find? (30, 13) := by
  have htarget : findTarget Db.sample 5 ⟨some 13, none⟩ =
      some (assembleUser Db.sample 5 (plainUser 13 "lead" false)) := by decide
  have hrefused : (exec (postVmAccess ⟨10, 5, 99⟩ 30 { grantToAnn with target := ⟨some 13, none⟩ }
      false) Db.sample).1 = .error guacSyncFailed := by decide
  exact (grant_restored_iff htarget hrefused).mpr (by decide)

/-- A permanent grant that was there is gone after a request that was refused. -/
theorem grant_not_restored :
    (exec (postVmAccess ⟨10, 5, 99⟩ 30 grantToAnn false) Db.sample).1 = .error guacSyncFailed ∧
      Db.sample.vmAccess.find? (30, 12) = some ⟨30, 12, none, none, some 10⟩ ∧
      (exec (postVmAccess ⟨10, 5, 99⟩ 30 grantToAnn false) Db.sample).2.vmAccess.find? (30, 12) = none := by
  decide

/-! ## A grant that succeeds -/

theorem postVmAccess_granted (htarget : findTarget db ctx.now body.target = some target)
    (hok : (exec (postVmAccess ctx id body guacSynced) db).1 = .ok ()) :
    isLive body.expiresAt ctx.now = true ∧ ∃ actor, (exec (postVmAccess ctx id body guacSynced) db).2 =
        db.replaceVmAccess (grantedRow db id target.row.id actor body) := by
  have hrow : after (postVmAccess ctx id body guacSynced) (fun r db' => r = .ok () →
      isLive body.expiresAt ctx.now = true ∧ ∃ actor,
        db' = db.replaceVmAccess (grantedRow db id target.row.id actor body)) db := by
    refine after_postVmAccess_row (fun e _ herr => ?_) fun found actor hfound hfuture =>
      ⟨fun _ _ => ⟨hfuture, actor, ?_⟩, fun _ herr => ?_⟩
    · cases herr
    · cases htarget.symm.trans hfound
      rfl
    · cases herr
  exact hrow hok

variable {now : Time} {userId : UserId} {requested : Option (List Protocol)} {row : VmAccessRow}

theorem reaches_iff : ReachesVm db now userId id requested ↔
      (∃ protocols, VmGrant db now userId id protocols) ∧ ∀ ps, requested = some ps → ∀ p ∈ ps,
          ∃ protocols, VmGrant db now userId id protocols ∧ permits protocols p = true := by
  constructor
  · rintro ⟨grant, hgrant, hcovers⟩
    refine ⟨?_, fun ps hps p hp => permits_grant_iff.mp ⟨grant, hgrant, hcovers ps hps p hp⟩⟩
    exact (vmAccess_isSome_iff.mp (Option.isSome_iff_exists.mpr ⟨grant, hgrant⟩)).grant
  · rintro ⟨⟨protocols, hgrant⟩, hcovers⟩
    obtain ⟨grant, hfound⟩ := Option.isSome_iff_exists.mp (vmAccess_isSome_iff.mpr hgrant.source)
    refine ⟨grant, hfound, fun ps hps p hp => ?_⟩
    obtain ⟨grant', hfound', hpermits⟩ := permits_grant_iff.mpr (hcovers ps hps p hp)
    cases hfound.symm.trans hfound'
    exact hpermits

theorem reaches_congr {db' : Db} (hsame : ∀ protocols,
      VmGrant db now userId id protocols ↔ VmGrant db' now userId id protocols) :
    ReachesVm db now userId id requested ↔ ReachesVm db' now userId id requested := by
  simp only [reaches_iff, hsame]

theorem directScope_replaceVmAccess (row : VmAccessRow) :
    directScope (db.replaceVmAccess row) row.vmId row.userId = some (row.protocols, row.expiresAt) := by
  have hstored : { row with
      createdBy := ((db.vmAccess.find? row.key).bind fun va => va.createdBy) <|> row.createdBy } ∈
      (db.replaceVmAccess row).vmAccess := Table.mem_put.mpr (.inl rfl)
  have hfind := Table.find?_of_mem hstored
  exact Option.map_eq_some_iff.mpr ⟨_, hfind, rfl⟩

theorem reaches_of_live (hlive : isLive row.expiresAt now = true)
    (hcovers : ∀ ps, requested = some ps → ∀ p ∈ ps, permits row.protocols p = true) :
    ReachesVm (db.replaceVmAccess row) now row.userId row.vmId requested := by
  have hgrant : VmGrant (db.replaceVmAccess row) now row.userId row.vmId row.protocols :=
    vmGrant_iff_scope.mpr (.inl ⟨row.expiresAt, directScope_replaceVmAccess row, hlive⟩)
  exact reaches_iff.mpr ⟨⟨_, hgrant⟩, fun ps hps p hp => ⟨_, hgrant, hcovers ps hps p hp⟩⟩

theorem reaches_of_expired (hexpired : isLive row.expiresAt now = false)
    (hbefore : ∀ va, db.vmAccess.find? (row.vmId, row.userId) = some va → isLive va.expiresAt now = false) :
    ReachesVm (db.replaceVmAccess row) now row.userId row.vmId requested ↔
      ReachesVm db now row.userId row.vmId requested := by
  have hbeside : ∀ db : Db, (∀ protocols expiresAt,
      directScope db row.vmId row.userId = some (protocols, expiresAt) →
        isLive expiresAt now = false) →
      ∀ protocols, VmGrant db now row.userId row.vmId protocols ↔
        VmGrant { db with vmAccess := Table.empty } now row.userId row.vmId protocols := by
    intro db hdead protocols
    rw [vmGrant_iff_scope, or_iff_right]
    rintro ⟨expiresAt, hscope, hlive⟩
    exact absurd (hdead _ _ hscope) (by simp [hlive])
  refine reaches_congr fun protocols => ?_
  have hafter := hbeside (db.replaceVmAccess row) (fun _ expiresAt hscope => by
    cases (directScope_replaceVmAccess row).symm.trans hscope
    exact hexpired) protocols
  have hprior := hbeside db (fun _ expiresAt hscope => by
    obtain ⟨va, hfind, heq⟩ := Option.map_eq_some_iff.mp hscope
    cases heq
    exact hbefore va hfind) protocols
  rw [hafter, hprior]
  rfl

theorem grantedRow_permits {userId actor : UserId} {ps : List Protocol} {p : Protocol}
    (hps : body.protocols = some ps) (hp : p ∈ ps) :
    permits (grantedRow db id userId actor body).protocols p = true := by
  simp [grantedRow, hps, unique, hp]

/-- **After a successful grant the target reaches the VM, with the protocols the request names,
exactly when the request has an expiry, or no expired direct grant was there, or the target
reached it so without the grant.** -/
theorem grant_live_iff (htarget : findTarget db ctx.now body.target = some target)
    (hok : (exec (postVmAccess ctx id body guacSynced) db).1 = .ok ()) :
    ReachesVm (exec (postVmAccess ctx id body guacSynced) db).2 ctx.now target.row.id id
        body.protocols ↔ body.expiresAt.isSome = true ∨
        (∀ va, db.vmAccess.find? (id, target.row.id) = some va → isLive va.expiresAt ctx.now = true) ∨
        ReachesVm db ctx.now target.row.id id body.protocols := by
  obtain ⟨hfuture, actor, hdone⟩ := postVmAccess_granted htarget hok
  rw [hdone]
  have hcovers : ∀ ps, body.protocols = some ps → ∀ p ∈ ps,
      permits (grantedRow db id target.row.id actor body).protocols p = true :=
    fun _ hps _ hp => grantedRow_permits hps hp
  cases hexpires : body.expiresAt with
  | some expiresAt =>
      have hlive : isLive (grantedRow db id target.row.id actor body).expiresAt ctx.now = true := by
        rw [hexpires] at hfuture
        simpa [grantedRow, hexpires] using hfuture
      exact iff_of_true (reaches_of_live hlive hcovers) (.inl rfl)
  | none =>
      cases hfind : db.vmAccess.find? (id, target.row.id) with
      | none =>
          have hlive : isLive (grantedRow db id target.row.id actor body).expiresAt ctx.now =
              true := by
            simp [grantedRow, hexpires, hfind]
          refine iff_of_true (reaches_of_live hlive hcovers) (.inr (.inl fun va hva => ?_))
          cases hva
      | some va =>
          have hkept : (grantedRow db id target.row.id actor body).expiresAt = va.expiresAt := by
            simp [grantedRow, hexpires, hfind]
          cases hva : isLive va.expiresAt ctx.now with
          | true =>
              refine iff_of_true (reaches_of_live (hkept ▸ hva) hcovers) (.inr (.inl fun va' hva' => ?_))
              cases hva'
              exact hva
          | false =>
              have hbefore : ∀ va', db.vmAccess.find? (id, target.row.id) = some va' →
                  isLive va'.expiresAt ctx.now = false := by
                intro va' hva'
                cases hfind.symm.trans hva'
                exact hva
              have hdead : isLive (grantedRow db id target.row.id actor body).expiresAt ctx.now =
                  false := hkept ▸ hva
              refine (reaches_of_expired hdead hbefore).trans ⟨fun h => .inr (.inr h), ?_⟩
              rintro (hsome | hall | hreaches)
              · cases hsome
              · exact absurd (hall va rfl) (by simp [hva])
              · exact hreaches

/-- The sample installation with the grant of `ann` run out. -/
def Db.lapsed : Db :=
  { Db.sample with vmAccess := ⟨[⟨30, 12, none, some 1, some 10⟩], by decide⟩ }

theorem grant_live_iff_sample :
    ReachesVm (exec (postVmAccess ⟨10, 5, 99⟩ 30 { grantToAnn with expiresAt := some 9 } true)
      Db.lapsed).2 5 12 30 none := by
  have htarget : findTarget Db.lapsed 5 ⟨some 12, none⟩ =
      some (assembleUser Db.lapsed 5 (plainUser 12 "ann" false)) := by decide
  have hok : (exec (postVmAccess ⟨10, 5, 99⟩ 30 { grantToAnn with expiresAt := some 9 } true)
      Db.lapsed).1 = .ok () := by decide
  exact (grant_live_iff htarget hok).mpr (.inl rfl)

/-- A grant without an expiry over one that has run out succeeds, and gives nothing. -/
theorem grant_not_live : (exec (postVmAccess ⟨10, 5, 99⟩ 30 grantToAnn true) Db.lapsed).1 = .ok () ∧
      ¬ ReachesVm (exec (postVmAccess ⟨10, 5, 99⟩ 30 grantToAnn true) Db.lapsed).2 5 12 30 none := by
  refine ⟨by decide, ?_⟩
  rintro ⟨grant, hgrant, -⟩
  have hnone : ((resolveEffectiveAccess (exec (postVmAccess ⟨10, 5, 99⟩ 30 grantToAnn true)
      Db.lapsed).2 5 12).vmAccess 30).isSome = false := by decide
  rw [hgrant] at hnone
  cases hnone

end grants

end ProxVM
