import ProxVM.Db.Schema
import ProxVM.Lib.Pool
import ProxVM.Util.Errors

/-!
# Share links

`createShareLink`, `revokeShareLink` and `redeemShareLink` of
`services/homelab.ts` as programs of statements, and the table they work on.

A statement is atomic, and it may fail without an effect.  Any number of these programs run
side by side (`shareRules`), and time passes by the steps of a clock.
-/

namespace ProxVM.Shares

open Tables Interaction

/-! ## The table -/

abbrev LinkId := Nat

/-- A row of `shared_links`. -/
structure ShareLink where
  id : LinkId
  vmId : VmId
  protocol : Protocol
  tokenHash : String
  expiresAt : Time
  maxUses : Option Nat
  useCount : Nat
  revokedAt : Option Time
  createdBy : Option UserId
  deriving DecidableEq, Repr

structure NewLink where
  id : LinkId
  vmId : VmId
  protocol : Protocol
  tokenHash : String
  expiresAt : Time
  maxUses : Option Nat
  createdBy : Option UserId
  deriving DecidableEq, Repr

def NewLink.row (new : NewLink) : ShareLink where
  id := new.id
  vmId := new.vmId
  protocol := new.protocol
  tokenHash := new.tokenHash
  expiresAt := new.expiresAt
  maxUses := new.maxUses
  useCount := 0
  revokedAt := none
  createdBy := new.createdBy

structure Use where
  link : ShareLink
  time : Time
  deriving DecidableEq, Repr

/-- The table and the time; and, for statements about what happened, the uses consumed and the
links that finished redemptions have returned. -/
structure World where
  now : Time
  links : Table ShareLink.id
  uses : List Use
  redeemed : List LinkId

/-! ## Statements -/

inductive Call
  | dateNow
  | selectValid (now : Time)
  | consumeUse (id : LinkId)
  | revoke (id : LinkId)
  | insert (new : NewLink)
  | getShareLink (id : LinkId)
  | passTime (ms : Time)

@[reducible] def Call.Reply : Call → Type
  | .dateNow => Time
  | .selectValid _ => List ShareLink
  | .consumeUse _ => Option ShareLink
  | .revoke _ => Bool
  | .getShareLink _ => Option ShareLink
  | _ => Unit

@[reducible] def calls : Signature := ⟨Call, Call.Reply⟩

abbrev Task (α : Type) := Prog calls AppError α

def ask (c : Call) : Task c.Reply := Prog.perform (F := calls) c

namespace ShareLink

/-- `revoked_at IS NULL AND expires_at > $1`. -/
def valid (link : ShareLink) (now : Time) : Bool :=
  link.revokedAt.isNone && decide (now < link.expiresAt)

/-- `max_uses IS NULL OR use_count < max_uses`. -/
def usable (link : ShareLink) : Bool := link.maxUses.all fun maxUses => decide (link.useCount < maxUses)

def used (link : ShareLink) : ShareLink := { link with useCount := link.useCount + 1 }

@[simp] theorem used_id (link : ShareLink) : link.used.id = link.id := rfl

end ShareLink

namespace World

variable (w : World)

def addUse (link : ShareLink) : World :=
  { w with
    links := w.links.updateWhere (fun l => decide (l.id = link.id)) ShareLink.used ShareLink.used_id
    uses := ⟨link, w.now⟩ :: w.uses }

/-- `UPDATE shared_links SET use_count = use_count + 1 WHERE id = $1 AND …  RETURNING *`. -/
def consumeUse (id : LinkId) : Option ShareLink × World :=
  match w.links.find? id with
  | some link => if link.usable then (some link.used, w.addUse link) else (none, w)
  | none => (none, w)

/-- `UPDATE shared_links SET revoked_at = NOW() WHERE id = $1 AND revoked_at IS NULL`. -/
def revoke (id : LinkId) : Bool × World :=
  (w.links.rows.any fun l => decide (l.id = id) && l.revokedAt.isNone,
    { w with
      links := w.links.updateWhere (fun l => decide (l.id = id) && l.revokedAt.isNone)
        (fun l => { l with revokedAt := some w.now }) fun _ => rfl })

/-- `INSERT INTO shared_links`: the id and the hash of the token are unique. -/
def insertLink (new : NewLink) : Option World :=
  if w.links.rows.any fun l => decide (l.tokenHash = new.tokenHash) then
    none
  else
    (w.links.insert? new.row).map fun links => { w with links }

end World

theorem mem_addUse {w : World} {link l : ShareLink} :
    l ∈ (w.addUse link).links ↔ ∃ l₀ ∈ w.links, l = if l₀.id = link.id then l₀.used else l₀ := by
  simp only [World.addUse, Table.mem_updateWhere, decide_eq_true_eq]

theorem mem_revoke {w : World} {id : LinkId} {l : ShareLink} : l ∈ (w.revoke id).2.links ↔ ∃ l₀ ∈ w.links,
      l = if l₀.id = id ∧ l₀.revokedAt = none then { l₀ with revokedAt := some w.now } else l₀ := by
  simp only [World.revoke, Table.mem_updateWhere, Bool.and_eq_true, decide_eq_true_eq,
    Option.isNone_iff_eq_none]

def answer : (c : Call) → World → Except AppError c.Reply × World
  | .dateNow, w => (.ok w.now, w)
  | .selectValid now, w => (.ok (w.links.rows.filter fun l => l.valid now), w)
  | .consumeUse id, w => ((.ok (w.consumeUse id).1), (w.consumeUse id).2)
  | .revoke id, w => ((.ok (w.revoke id).1), (w.revoke id).2)
  | .insert new, w =>
      match w.insertLink new with
      | some w' => (.ok (), w')
      | none => (.error (AppError.database "duplicate key value violates unique constraint"), w)
  | .getShareLink id, w => (.ok (w.links.find? id), w)
  | .passTime ms, w => (.ok (), { w with now := w.now + ms })

def Serves (c : Call) (w : World) (r : Except AppError c.Reply) (w' : World) : Prop :=
  (r, w') = answer c w ∨ ∃ e, r = .error e ∧ w' = w

/-! ## Programs -/

/-- The fields of `createShareLink`, with the id and the token it draws. -/
structure CreateInput where
  id : LinkId
  token : String
  vmId : VmId
  protocol : Protocol
  expiresInMinutes : Nat
  maxUses : Option Nat
  createdBy : Option UserId
  deriving DecidableEq, Repr

section programs

-- `sha256` of a token, in hexadecimal digits.
variable (hashShareToken : String → String)

def createShareLink (input : CreateInput) : Task ShareLink :=
  if input.expiresInMinutes < 5 ∨ 60 * 24 * 7 < input.expiresInMinutes then
    .raise (AppError.validation "expiresInMinutes must be 5-10080 (5 minutes to 7 days)")
  else if input.maxUses = some 0 then
    .raise (AppError.validation "maxUses must be a positive integer")
  else do
    let now : Time ← ask .dateNow
    let expiresAt := now + input.expiresInMinutes * 60 * 1000
    ask (.insert
      { id := input.id, vmId := input.vmId, protocol := input.protocol
        tokenHash := hashShareToken input.token, expiresAt, maxUses := input.maxUses
        createdBy := input.createdBy })
    let link : Option ShareLink ← ask (.getShareLink input.id)
    Prog.orRaise link (AppError.notFound "Share link creation failed")

def revokeShareLink (id : LinkId) : Task Bool := ask (.revoke id)

def sameHash (wanted candidate : String) : Bool :=
  decide (candidate.length = wanted.length) &&
    decide ((wanted.toList.zip candidate.toList).foldl
      (fun diff digits => diff ||| (digits.1.toNat ^^^ digits.2.toNat)) 0 = 0)

/-- The part of `redeemShareLink` after its look at the clock. -/
def useMatch (token : String) (now : Time) : Task (Option ShareLink) := do
  let candidates : List ShareLink ← ask (.selectValid now)
  match candidates.find? fun row => sameHash (hashShareToken token) row.tokenHash with
  | none => pure none
  | some link => if link.usable then ask (.consumeUse link.id) else pure none

def redeemShareLink (token : String) : Task (Option ShareLink) :=
  if token = "" ∨ 256 < token.length then
    pure none
  else do
    let now : Time ← ask .dateNow
    useMatch hashShareToken token now

end programs

/-! ## Side by side -/

inductive Request
  | create (input : CreateInput)
  | revoke (id : LinkId)
  | redeem (token : String)
  | clock (ms : Time)
  deriving DecidableEq, Repr

@[reducible] def Request.Result : Request → Type
  | .create _ => ShareLink
  | .revoke _ => Bool
  | .redeem _ => Option ShareLink
  | .clock _ => Unit

abbrev ShareThread := Thread calls AppError Request.Result

abbrev SharePool := Pool calls AppError World Request.Result

def Request.prog (hashShareToken : String → String) : (request : Request) → Task request.Result
  | .create input => createShareLink hashShareToken input
  | .revoke id => revokeShareLink id
  | .redeem token => redeemShareLink hashShareToken token
  | .clock ms => ask (.passTime ms)

def finish : (request : Request) → Except AppError request.Result → World → World
  | .redeem _, .ok (some link), w => { w with redeemed := link.id :: w.redeemed }
  | _, _, w => w

def shareRules (hashShareToken : String → String) (admits : SharePool → Request → Call → Prop) :
    Rules calls AppError World Request.Result where
  serve := Serves
  admits := admits
  ends request r w successor w' := successor = none ∧ w' = finish request r w
  turn w newcomer w' := w' = w ∧ ∃ request, newcomer = some ⟨request, request.prog hashShareToken⟩

abbrev freeRules (hashShareToken : String → String) : Rules calls AppError World Request.Result :=
  shareRules hashShareToken fun _ _ _ => True

theorem startsFirst (hashShareToken : String → String) (request : Request) (w : World)
    (others : List ShareThread) : PoolStep (freeRules hashShareToken) ⟨w, others⟩
      ⟨w, ⟨request, request.prog hashShareToken⟩ :: others⟩ :=
  have hturn : (freeRules hashShareToken).turn w
      (some ⟨request, request.prog hashShareToken⟩) w := ⟨rfl, request, rfl⟩
  .turn hturn

theorem runsFirst {hashShareToken : String → String} {request : Request} {w w' : World}
    {p p' : Task request.Result} (others : List ShareThread) (n : Nat)
    (hdrive : drive (fun c w => some (answer c w)) n (p, w) = (p', w')) :
    PoolRun (freeRules hashShareToken) ⟨w, ⟨request, p⟩ :: others⟩ ⟨w', ⟨request, p'⟩ :: others⟩ := by
  have hserve : ∀ c w r w', (fun c w => some (answer c w)) c w = some (r, w') → Serves c w r w' :=
    fun c w r w' h => .inl (Option.some.inj h).symm
  have hruns := poolRun_drive (R := freeRules hashShareToken) (fun _ _ _ => trivial) hserve n request p
    w others
  rwa [hdrive] at hruns

theorem endsFirst {hashShareToken : String → String} {request : Request} {w w' : World}
    {p : Task request.Result} {r : Except AppError request.Result} (others : List ShareThread)
    (n : Nat) (hdrive : drive (fun c w => some (answer c w)) n (p, w) = (.ofExcept r, w')) :
    PoolRun (freeRules hashShareToken) ⟨w, ⟨request, p⟩ :: others⟩ ⟨finish request r w', others⟩ := by
  have hends : (freeRules hashShareToken).ends request r w' none (finish request r w') := ⟨rfl, rfl⟩
  exact (runsFirst others n hdrive).tail (.endsFirst hends)

/-! ## A link for one use -/

def sampleInput : CreateInput where
  id := 1
  token := "token"
  vmId := 30
  protocol := .ssh
  expiresInMinutes := 5
  maxUses := some 1
  createdBy := some 10

def sampleLink : ShareLink where
  id := 1
  vmId := 30
  protocol := .ssh
  tokenHash := "token"
  expiresAt := 301000
  maxUses := some 1
  useCount := 0
  revokedAt := none
  createdBy := some 10

def sampleWorld : World := ⟨1000, ⟨[sampleLink], by decide⟩, [], []⟩

theorem sampleWorld_reached : PoolRun (freeRules fun token => token) ⟨⟨1000, Table.empty, [], []⟩, []⟩
    ⟨sampleWorld, []⟩ := by
  have hcreated : drive (fun c w => some (answer c w)) 3 (createShareLink (fun token => token)
      sampleInput, ⟨1000, Table.empty, [], []⟩) = (.ofExcept (.ok sampleLink), sampleWorld) := by rfl
  exact .head (startsFirst _ (.create sampleInput) _ []) (endsFirst [] 3 hcreated)

end ProxVM.Shares
