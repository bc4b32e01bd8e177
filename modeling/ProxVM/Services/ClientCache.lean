import ProxVM.Lib.Pool
import ProxVM.Services.Settings

/-!
# The shared infrastructure clients

`getProxmoxClient`, `getGuacDb` and `invalidateCache` of `context.ts`.  A client
is made of settings that are read one by one, is kept for a minute, and is shared by all callers.

## Strategy
-/

namespace ProxVM

open Interaction

/-! ## The clients -/

/-- `ProxmoxClientOptions`, as the context sets them; a `ProxmoxClient` is what it was given. -/
structure ProxmoxClientOptions where
  url : String
  tokenId : String
  tokenSecret : String
  verifySsl : Bool
  deriving DecidableEq, Repr

/-- `GuacamoleDbSettings`, what a client of the Guacamole database is created from. -/
structure GuacamoleDbSettings where
  engine : GuacamoleDbEngine
  dbHost : String
  dbPort : String
  dbName : String
  dbUser : String
  dbPassword : String
  dbSsl : Bool
  deriving DecidableEq, Repr

structure DbHost where
  host : String
  port : Option String
  deriving DecidableEq, Repr

/-- The test `/^[a-z][a-z0-9+.-]*:\/\//i`. -/
def hasScheme (value : String) : Bool :=
  match value.toList with
  | [] => false
  | c :: rest => c.isAlpha && [':', '/', '/'].isPrefixOf
      (rest.dropWhile fun c => c.isAlphanum || ['+', '.', '-'].contains c)

/-- What `new URL` gives: the host name and the port, which is empty if it is not there; nothing
where it throws. -/
abbrev UrlReader : Type := String → Option (String × String)

def parseDbHost (newUrl : UrlReader) (raw : String) : DbHost :=
  let value := (trimmed (some raw)).getD ""
  if hasScheme value then
    match newUrl value with
    | some (hostname, port) => ⟨hostname, if port = "" then none else some port⟩
    | none => ⟨value, none⟩
  else
    ⟨value, none⟩

def notConfigured (message : String) : AppError :=
  { code := .configurationError, message, statusCode := 400 }

inductive ClientKind
  | proxmox
  | guacDb
  deriving DecidableEq, Repr

abbrev ClientKind.Client : ClientKind → Type
  | .proxmox => ProxmoxClientOptions
  | .guacDb => GuacamoleDbSettings

def ClientKind.keys : ClientKind → List String
  | .proxmox => ["proxmox.url", "proxmox.token_secret", "proxmox.token_id", "proxmox.verify_ssl"]
  | .guacDb => ["guacamole.url", "guacamole.db_password", "guacamole.db_engine", "guacamole.db_host",
      "guacamole.db_port", "guacamole.db_name", "guacamole.db_user", "guacamole.db_ssl"]

def buildProxmoxClient : SettingsReader ProxmoxClientOptions := do
  let s ← SettingsService.proxmox
  match s with
  | none => .raise (notConfigured "Proxmox is not configured. Complete setup in Settings.")
  | some s =>
    if s.url = "" ∨ s.tokenId = "" ∨ s.tokenSecret = "" then
      .raise (notConfigured "Proxmox is not configured. Complete setup in Settings.")
    else
      pure { url := s.url, tokenId := s.tokenId, tokenSecret := s.tokenSecret, verifySsl := s.verifySsl }

def buildGuacDb (newUrl : UrlReader) : SettingsReader GuacamoleDbSettings := do
  let g ← SettingsService.guacamole
  match g with
  | none => .raise (notConfigured "Guacamole is not configured. Complete setup in Settings.")
  | some g =>
    let parsed := parseDbHost newUrl g.dbHost
    pure
      { engine := g.engine, dbHost := parsed.host, dbPort := parsed.port.getD g.dbPort
        dbName := g.dbName, dbUser := g.dbUser, dbPassword := g.dbPassword, dbSsl := g.dbSsl }

def buildClient (newUrl : UrlReader) : (kind : ClientKind) → SettingsReader kind.Client
  | .proxmox => buildProxmoxClient
  | .guacDb => buildGuacDb newUrl

/-! ## The cache -/

inductive CoreCall
  | getPlain (key : String)
  | cached (kind : ClientKind)
  | store (kind : ClientKind) (client : kind.Client)

abbrev CoreCall.Reply : CoreCall → Type
  | .getPlain _ => Option String
  | .cached kind => Option kind.Client
  | .store _ _ => Unit

def coreCalls : Signature := ⟨CoreCall, CoreCall.Reply⟩

abbrev CoreTask (α : Type) : Type := Prog coreCalls AppError α

variable {α : Type}

def ofReader : SettingsReader α → CoreTask α
  | .ret a => .ret a
  | .raise e => .raise e
  | .call key next => Prog.call (F := coreCalls) (.getPlain key) fun r => ofReader (next r)

def handOut (kind : ClientKind) (client : kind.Client) : CoreTask kind.Client := do
  Prog.perform (F := coreCalls) (.store kind client)
  pure client

def getProxmoxClient : CoreTask ProxmoxClientOptions := do
  match ← Prog.perform (F := coreCalls) (.cached .proxmox) with
  | some client => pure client
  | none => ofReader buildProxmoxClient >>= handOut .proxmox

def getGuacDb (newUrl : UrlReader) : CoreTask GuacamoleDbSettings := do
  match ← Prog.perform (F := coreCalls) (.cached .guacDb) with
  | some client => pure client
  | none => ofReader (buildGuacDb newUrl) >>= handOut .guacDb

def getClient (newUrl : UrlReader) : (kind : ClientKind) → CoreTask kind.Client
  | .proxmox => getProxmoxClient
  | .guacDb => getGuacDb newUrl

structure CoreState where
  settings : Settings
  cache : (kind : ClientKind) → Option (kind.Client × Nat)
  now : Nat

namespace CoreState

def fresh? (s : CoreState) (kind : ClientKind) : Option kind.Client :=
  match s.cache kind with
  | none => none
  | some (client, at_) => if s.now < at_ + 60000 then some client else none

def put (s : CoreState) (kind : ClientKind) (entry : Option (kind.Client × Nat)) : CoreState :=
  { s with cache := Function.update s.cache kind entry }

def looked (s : CoreState) : ClientKind → CoreState
  | .proxmox => s
  | .guacDb => if (s.fresh? .guacDb).isSome then s else s.put .guacDb none

end CoreState

def CoreServed : (c : CoreCall) → CoreState → Except AppError c.Reply → CoreState → Prop
  | .getPlain key, s, r, s' => (r = .ok (s.settings key) ∨ ∃ e, r = .error e) ∧ s' = s
  | .cached kind, s, r, s' => r = .ok (s.fresh? kind) ∧ s' = s.looked kind
  | .store kind client, s, r, s' => r = .ok () ∧ s' = s.put kind (some (client, s.now))

/-! ## The interleavings -/

/-- A call of `getProxmoxClient` or `getGuacDb`: the states of the settings since the last
invalidation before it started, up to its end, and what it has read, the latest first. -/
structure ClientCall where
  kind : ClientKind
  since : List Settings
  seen : List (String × Option String)
  prog : CoreTask kind.Client

namespace ClientCall

def Running (call : ClientCall) : Prop := call.prog.result? = none

def observe (call : ClientCall) (settings : Settings) : ClientCall :=
  match call.prog.result? with
  | none => { call with since := settings :: call.since }
  | some _ => call

def UpToDate (call : ClientCall) (settings : Settings) : Prop :=
  Agrees (· ∈ call.kind.keys) call.seen settings

def Current (newUrl : UrlReader) (call : ClientCall) : Prop :=
  ∀ client, call.prog = .ret client →
    ∃ settings ∈ call.since, (buildClient newUrl call.kind).at settings = .ok client

end ClientCall

def noteRead : (c : CoreCall) → Except AppError c.Reply → List (String × Option String) →
    List (String × Option String)
  | .getPlain key, .ok value, seen => (key, value) :: seen
  | _, _, seen => seen

structure ClientSystem where
  state : CoreState
  moments : List Settings
  calls : List ClientCall

namespace ClientSystem

def arrived (newUrl : UrlReader) (s : ClientSystem) (kind : ClientKind) :
    ClientSystem :=
  { s with calls := ⟨kind, s.moments, [], getClient newUrl kind⟩ :: s.calls }

def written (s : ClientSystem) (key : String) (value : Option String) : ClientSystem :=
  let settings := Function.update s.state.settings key value
  { state := { s.state with settings }
    moments := settings :: s.moments
    calls := s.calls.map fun call => call.observe settings }

/-- `invalidateCache`. -/
def invalidated (s : ClientSystem) : ClientSystem :=
  { s with
    state := { s.state with cache := fun _ => none }
    moments := [s.state.settings] }

end ClientSystem

inductive ClientEvent
  | write (key : String) (value : Option String)
  | invalidate
  | other

section system

variable (newUrl : UrlReader)

inductive ClientStep : ClientSystem → ClientEvent → ClientSystem → Prop
  | arrive {s : ClientSystem} (kind : ClientKind) : ClientStep s .other (s.arrived newUrl kind)
  /-- One of the calls goes on. -/
  | call {s : ClientSystem} {before after : List ClientCall} {kind : ClientKind}
      {since : List Settings} {seen : List (String × Option String)} {c : CoreCall}
      {next : Except AppError c.Reply → CoreTask kind.Client} {r : Except AppError c.Reply}
      {state' : CoreState} (hcalls : s.calls = before ++ ⟨kind, since, seen, .call c next⟩ :: after)
      (hserved : CoreServed c s.state r state') :
      ClientStep s .other
        { s with
          state := state'
          calls := before ++ ⟨kind, since, noteRead c r seen, next r⟩ :: after }
  | write {s : ClientSystem} (key : String) (value : Option String) :
      ClientStep s (.write key value) (s.written key value)
  | invalidate {s : ClientSystem} : ClientStep s .invalidate s.invalidated
  /-- Time goes on. -/
  | tick {s : ClientSystem} {now : Nat} (hlater : s.state.now ≤ now) :
      ClientStep s .other { s with state := { s.state with now } }

/-- The condition on a step.  A write leaves a build that is under way alone: it is to a key that
the build will not read or that its client is not made of, or it changes nothing, or what
the build has read so far is up to date after it.  When the cache is invalidated, what the builds
under way have read is up to date. -/
def ClientSystem.Orderly (s : ClientSystem) : ClientEvent → Prop
  | .write key value => ∀ call ∈ s.calls, call.Running →
      call.UpToDate (Function.update s.state.settings key value) ∨
        Only (F := coreCalls) (fun c : CoreCall => c ≠ .getPlain key) call.prog ∨
        key ∉ call.kind.keys ∨ s.state.settings key = value
  | .invalidate => ∀ call ∈ s.calls, call.Running → call.UpToDate s.state.settings
  | .other => True

abbrev ClientRun (meets : ClientSystem → ClientEvent → Prop) : ClientSystem → ClientSystem → Prop :=
  Relation.ReflTransGen fun s s' => ∃ event, ClientStep newUrl s event s' ∧ meets s event

end system

def ClientSystem.started (settings : Settings) (now : Nat) : ClientSystem :=
  ⟨⟨settings, fun _ => none, now⟩, [settings], []⟩

/-! ## What a build depends on -/

theorem dependsOn_buildProxmoxClient : DependsOn (· ∈ ClientKind.proxmox.keys) buildProxmoxClient := by
  refine ⟨fun _ => rfl, .inl (by decide), fun url => ?_⟩
  cases url with
  | none => trivial
  | some url =>
      refine DependsOn.ite_bind trivial ⟨fun _ => rfl, .inl (by decide), fun tokenSecret => ?_⟩
      cases tokenSecret with
      | none => trivial
      | some tokenSecret =>
          refine ⟨fun _ => rfl, .inl (by decide), fun tokenId => ?_⟩
          refine ⟨fun _ => rfl, .inl (by decide), fun verifySsl => ?_⟩
          -- the defaults are read, and do not go into the client
          refine ⟨fun _ => rfl, .inr fun _ _ _ => rfl, fun defaultNode => ?_⟩
          refine ⟨fun _ => rfl, .inr fun _ _ _ => rfl, fun defaultStorage => ?_⟩
          refine ⟨fun _ => rfl, .inr fun _ _ _ => rfl, fun defaultNetwork => ?_⟩
          exact DependsOn.ite trivial trivial

theorem dependsOn_buildGuacDb (newUrl : UrlReader) :
    DependsOn (· ∈ ClientKind.guacDb.keys) (buildGuacDb newUrl) := by
  refine ⟨fun _ => rfl, .inl (by decide), fun url => ?_⟩
  cases url with
  | none => trivial
  | some url =>
      refine DependsOn.ite_bind trivial ⟨fun _ => rfl, .inl (by decide), fun dbPassword => ?_⟩
      cases dbPassword with
      | none => trivial
      | some dbPassword =>
          refine ⟨fun _ => rfl, .inl (by decide), fun dbEngine => ?_⟩
          refine ⟨fun _ => rfl, .inr fun _ _ _ => rfl, fun publicUrl => ?_⟩
          refine ⟨fun _ => rfl, .inl (by decide), fun dbHost => ?_⟩
          refine ⟨fun _ => rfl, .inl (by decide), fun dbPort => ?_⟩
          refine ⟨fun _ => rfl, .inl (by decide), fun dbName => ?_⟩
          refine ⟨fun _ => rfl, .inl (by decide), fun dbUser => ?_⟩
          exact ⟨fun _ => rfl, .inl (by decide), fun dbSsl => trivial⟩

theorem dependsOn_buildClient (newUrl : UrlReader) (kind : ClientKind) :
    DependsOn (· ∈ kind.keys) (buildClient newUrl kind) := by
  cases kind with
  | proxmox => exact dependsOn_buildProxmoxClient
  | guacDb => exact dependsOn_buildGuacDb newUrl

theorem neverReads_of_only {kind : ClientKind} {key : String} {p : SettingsReader kind.Client}
    (honly : Only (F := coreCalls) (fun c : CoreCall => c ≠ .getPlain key)
      (ofReader p >>= handOut kind)) : NeverReads key p := by
  induction p with
  | ret client => trivial
  | raise e => trivial
  | call k next ih =>
      refine ⟨fun heq => honly.1 ?_, fun r => ih r (honly.2 r)⟩
      rw [heq]

/-! ## The invariant -/

inductive ClientProgress (newUrl : UrlReader) (s : ClientSystem) (call : ClientCall) : Prop
  | waiting (hprog : call.prog = getClient newUrl call.kind) (hseen : call.seen = [])
  | building (p : SettingsReader call.kind.Client) (moment : Settings)
      (hprog : call.prog = ofReader p >>= handOut call.kind)
      (hafter : After (buildClient newUrl call.kind) call.seen p) (hmoment : moment ∈ s.moments)
      (hfits : Fits (· ∈ call.kind.keys) call.seen p s.state.settings moment)
  | failed (e : AppError) (hprog : call.prog = .raise e)
  | returned (client : call.kind.Client) (hprog : call.prog = .ret client)

def CacheOf (newUrl : UrlReader) (moments : List Settings) (state : CoreState) : Prop :=
  ∀ kind client at_, state.cache kind = some (client, at_) →
    ∃ settings ∈ moments, (buildClient newUrl kind).at settings = .ok client

structure ClientSystem.Inv (newUrl : UrlReader) (s : ClientSystem) : Prop where
  present : s.state.settings ∈ s.moments
  cached : CacheOf newUrl s.moments s.state
  since : ∀ call ∈ s.calls, call.Running → s.moments ⊆ call.since
  progress : ∀ call ∈ s.calls, ClientProgress newUrl s call
  current : ∀ call ∈ s.calls, call.Current newUrl

section steps

variable {newUrl : UrlReader} {s s' : ClientSystem} {call : ClientCall}

theorem getClient_eq (newUrl : UrlReader) (kind : ClientKind) :
    ∃ next, getClient newUrl kind = Prog.call (F := coreCalls) (.cached kind) next ∧
      (∀ client, next (.ok (some client)) = .ret client) ∧
      next (.ok none) = ofReader (buildClient newUrl kind) >>= handOut kind := by
  cases kind with
  | proxmox => exact ⟨_, rfl, fun _ => rfl, rfl⟩
  | guacDb => exact ⟨_, rfl, fun _ => rfl, rfl⟩

theorem handOut_eq (kind : ClientKind) (client : kind.Client) :
    ∃ next, (ofReader (.ret client) >>= handOut kind) =
      Prog.call (F := coreCalls) (.store kind client) next ∧ next (.ok ()) = .ret client :=
  ⟨_, rfl, rfl⟩

theorem ofReader_eq {kind : ClientKind} (key : String)
    (nextp : Except AppError (Option String) → SettingsReader kind.Client) :
    ∃ next, (ofReader (Prog.call (F := readsOf String (Option String)) key nextp) >>= handOut kind) =
      Prog.call (F := coreCalls) (.getPlain key) next ∧
        ∀ r, next r = ofReader (nextp r) >>= handOut kind :=
  ⟨_, rfl, fun _ => rfl⟩

theorem not_ret_building {kind : ClientKind} {p : SettingsReader kind.Client} {client : kind.Client} :
    (ofReader p >>= handOut kind) ≠ .ret client := by
  intro heq
  cases p with
  | ret a => cases heq
  | raise e => cases heq
  | call k next => cases heq

theorem ClientProgress.of_same (h : ClientProgress newUrl s call) (hsettings : s'.state.settings = s.state.settings)
    (hmoments : s'.moments = s.moments) : ClientProgress newUrl s' call := by
  cases h with
  | waiting hprog hseen => exact .waiting hprog hseen
  | building p moment hprog hafter hmoment hfits =>
      exact .building p moment hprog hafter (hmoments ▸ hmoment) (hsettings ▸ hfits)
  | failed e hprog => exact .failed e hprog
  | returned client hprog => exact .returned client hprog

theorem ClientProgress.of_ended (h : ClientProgress newUrl s call) (hended : ¬ call.Running) :
    ClientProgress newUrl s' call := by
  unfold ClientCall.Running at hended
  cases h with
  | waiting hprog hseen =>
      obtain ⟨next, heq, -⟩ := getClient_eq newUrl call.kind
      rw [hprog, heq] at hended
      exact absurd rfl hended
  | building p moment hprog hafter hmoment hfits =>
      rw [hprog] at hended
      cases p with
      | ret client => exact absurd rfl hended
      | raise e => exact .failed e hprog
      | call k next => exact absurd rfl hended
  | failed e hprog => exact .failed e hprog
  | returned client hprog => exact .returned client hprog

theorem ClientSystem.Inv.arrived (h : s.Inv newUrl) (kind : ClientKind) :
    (s.arrived newUrl kind).Inv newUrl where
  present := h.present
  cached := h.cached
  since := List.forall_mem_cons.mpr ⟨fun _ => List.Subset.refl _, h.since⟩
  progress := List.forall_mem_cons.mpr
    ⟨.waiting rfl rfl, fun call hcall => (h.progress call hcall).of_same rfl rfl⟩
  current := by
    refine List.forall_mem_cons.mpr ⟨fun client hprog => ?_, h.current⟩
    obtain ⟨next, heq, -⟩ := getClient_eq newUrl kind
    cases heq.symm.trans hprog

variable {moments : List Settings} {state : CoreState} {settings : Settings}

theorem CacheOf.fresh? {kind : ClientKind}
    {client : kind.Client} (h : CacheOf newUrl moments state) (hfresh : state.fresh? kind = some client) :
    ∃ settings ∈ moments, (buildClient newUrl kind).at settings = .ok client := by
  unfold CoreState.fresh? at hfresh
  split at hfresh
  · cases hfresh
  · next cached at_ hcache =>
      split at hfresh
      · cases hfresh
        exact h kind client at_ hcache
      · cases hfresh

theorem CacheOf.put {kind : ClientKind}
    {entry : Option (kind.Client × Nat)} (h : CacheOf newUrl moments state)
    (hentry : ∀ client at_, entry = some (client, at_) →
      ∃ settings ∈ moments, (buildClient newUrl kind).at settings = .ok client) :
    CacheOf newUrl moments (state.put kind entry) := by
  intro kind' client at_ hcache
  by_cases hkind : kind' = kind
  · subst hkind
    have hself : (state.put kind' entry).cache kind' = entry := Function.update_self _ _ _
    exact hentry client at_ (hself.symm.trans hcache)
  · have hother : (state.put kind entry).cache kind' = state.cache kind' := Function.update_of_ne hkind _ _
    exact h kind' client at_ (hother.symm.trans hcache)

theorem CacheOf.looked (kind : ClientKind)
    (h : CacheOf newUrl moments state) : CacheOf newUrl moments (state.looked kind) := by
  cases kind with
  | proxmox => exact h
  | guacDb =>
      change CacheOf newUrl moments (if (state.fresh? .guacDb).isSome then state else state.put .guacDb none)
      split
      · exact h
      · refine h.put ?_
        intro client at_ hentry
        cases hentry

theorem looked_settings (kind : ClientKind) (state : CoreState) :
    (state.looked kind).settings = state.settings := by
  cases kind with
  | proxmox => rfl
  | guacDb =>
      change CoreState.settings (if (state.fresh? .guacDb).isSome then state else state.put .guacDb none) = _
      split
      · rfl
      · rfl

structure Kept (newUrl : UrlReader) (s : ClientSystem) (state' : CoreState) : Prop where
  settings : state'.settings = s.state.settings
  cache : CacheOf newUrl s.moments state'

section goesOn

variable {kind : ClientKind} {since : List Settings} {seen : List (String × Option String)} {c : CoreCall}
  {next : Except AppError c.Reply → CoreTask kind.Client} {r : Except AppError c.Reply} {state' : CoreState}

def Went (newUrl : UrlReader) (s : ClientSystem) (state' : CoreState)
    (call : ClientCall) : Prop :=
  Kept newUrl s state' ∧ ClientProgress newUrl s call ∧ call.Current newUrl

theorem went_waiting (hprog : Prog.call c next = getClient newUrl kind)
    (hpresent : s.state.settings ∈ s.moments) (hcache : CacheOf newUrl s.moments s.state)
    (hsince : s.moments ⊆ since) (hserved : CoreServed c s.state r state') :
    Went newUrl s state' ⟨kind, since, noteRead c r [], next r⟩ := by
  obtain ⟨next', heq, hhit, hmiss⟩ := getClient_eq newUrl kind
  cases hprog.trans heq
  obtain ⟨rfl, rfl⟩ := hserved
  refine ⟨⟨looked_settings kind s.state, hcache.looked kind⟩, ?_⟩
  cases hfresh : s.state.fresh? kind with
  | some client =>
      refine ⟨.returned client (hhit client), fun client' hclient => ?_⟩
      cases (hhit client).symm.trans hclient
      obtain ⟨settings, hmoment, hbuilt⟩ := hcache.fresh? hfresh
      exact ⟨settings, hsince hmoment, hbuilt⟩
  | none =>
      refine ⟨.building _ s.state.settings hmiss .start hpresent (fits_self agrees_nil),
        fun client hclient => ?_⟩
      exact (not_ret_building (hmiss.symm.trans hclient)).elim

theorem went_building {p : SettingsReader kind.Client} {moment : Settings}
    (hprog : Prog.call c next = ofReader p >>= handOut kind)
    (hafter : After (buildClient newUrl kind) seen p) (hmoment : moment ∈ s.moments)
    (hfits : Fits (· ∈ kind.keys) seen p s.state.settings moment)
    (hcache : CacheOf newUrl s.moments s.state) (hsince : s.moments ⊆ since)
    (hserved : CoreServed c s.state r state') :
    Went newUrl s state' ⟨kind, since, noteRead c r seen, next r⟩ := by
  have hdepends := dependsOn_buildClient newUrl kind
  cases p with
  | ret client =>
      obtain ⟨next', heq, hnext⟩ := handOut_eq kind client
      cases hprog.trans heq
      obtain ⟨rfl, rfl⟩ := hserved
      have hbuilt := at_of_returned hdepends hafter hfits.seen
      refine ⟨⟨rfl, hcache.put fun client' at_ hentry => ?_⟩, .returned client hnext,
        fun client' hclient => ?_⟩
      · cases hentry
        exact ⟨moment, hmoment, hbuilt⟩
      · cases hnext.symm.trans hclient
        exact ⟨moment, hsince hmoment, hbuilt⟩
  | raise e => cases hprog
  | call k nextp =>
      obtain ⟨next', heq, hnext⟩ := ofReader_eq k nextp
      cases hprog.trans heq
      obtain ⟨hread, rfl⟩ := hserved
      refine ⟨⟨rfl, hcache⟩, ?_⟩
      obtain rfl | ⟨e, rfl⟩ := hread
      · refine ⟨.building _ moment (hnext _) (.read _ hafter) hmoment hfits.read,
          fun client hclient => ?_⟩
        exact (not_ret_building ((hnext _).symm.trans hclient)).elim
      · have hraise : nextp (.error e) = .raise e := (hdepends.after hafter).1 e
        have hend : next' (.error e) = .raise e :=
          (hnext (.error e)).trans (congrArg (fun p => ofReader p >>= handOut kind) hraise)
        exact ⟨.failed e hend, fun client hclient => by cases hend.symm.trans hclient⟩

theorem ClientProgress.went (h : ClientProgress newUrl s ⟨kind, since, seen, .call c next⟩)
    (hpresent : s.state.settings ∈ s.moments) (hcache : CacheOf newUrl s.moments s.state)
    (hsince : s.moments ⊆ since) (hserved : CoreServed c s.state r state') :
    Went newUrl s state' ⟨kind, since, noteRead c r seen, next r⟩ := by
  cases h with
  | waiting hprog hseen =>
      cases hseen
      exact went_waiting hprog hpresent hcache hsince hserved
  | building p moment hprog hafter hmoment hfits =>
      exact went_building hprog hafter hmoment hfits hcache hsince hserved
  | failed e hprog => cases hprog
  | returned client hprog => cases hprog

end goesOn

theorem ClientSystem.Inv.goesOn (h : s.Inv newUrl) {before after : List ClientCall} {kind : ClientKind}
    {since : List Settings} {seen : List (String × Option String)} {c : CoreCall}
    {next : Except AppError c.Reply → CoreTask kind.Client} {r : Except AppError c.Reply}
    {state' : CoreState} (hcalls : s.calls = before ++ ⟨kind, since, seen, .call c next⟩ :: after)
    (hserved : CoreServed c s.state r state') : ClientSystem.Inv newUrl { s with
        state := state'
        calls := before ++ ⟨kind, since, noteRead c r seen, next r⟩ :: after } := by
  obtain ⟨hpresent, hcached, hsince, hprogress, hcurrent⟩ := h
  rw [hcalls, forall_mem_middle] at hsince hprogress hcurrent
  obtain ⟨hkept, hwent, hnow⟩ := hprogress.1.went hpresent hcached (hsince.1 rfl) hserved
  constructor
  · exact hkept.settings ▸ hpresent
  · exact hkept.cache
  · exact forall_mem_middle.mpr ⟨fun _ => hsince.1 rfl, hsince.2⟩
  · exact forall_mem_middle.mpr ⟨hwent.of_same hkept.settings rfl,
      fun call hcall => (hprogress.2 call hcall).of_same hkept.settings rfl⟩
  · exact forall_mem_middle.mpr ⟨hnow, hcurrent.2⟩

theorem ClientProgress.write {key : String} {value : Option String} (h : ClientProgress newUrl s call)
    (hstate : s'.state.settings = Function.update s.state.settings key value)
    (hmoments : s'.moments = Function.update s.state.settings key value :: s.moments)
    (horderly : call.UpToDate (Function.update s.state.settings key value) ∨
      Only (F := coreCalls) (fun c : CoreCall => c ≠ .getPlain key) call.prog ∨
        key ∉ call.kind.keys ∨ s.state.settings key = value) : ClientProgress newUrl s' call := by
  cases h with
  | waiting hprog hseen => exact .waiting hprog hseen
  | failed e hprog => exact .failed e hprog
  | returned client hprog => exact .returned client hprog
  | building p moment hprog hafter hmoment hfits =>
      have hold : moment ∈ s'.moments := hmoments ▸ List.mem_cons_of_mem _ hmoment
      have hnew : s'.state.settings ∈ s'.moments := by
        rw [hstate, hmoments]
        exact List.mem_cons_self
      obtain hseen | hunread | hother | hsame := horderly
      · exact .building p _ hprog hafter hnew (fits_self (hstate ▸ hseen))
      · rw [hprog] at hunread
        have hfits' := hfits.write value (.inl (neverReads_of_only hunread))
        exact .building p moment hprog hafter hold (hstate ▸ hfits')
      · have hfits' := hfits.write value (.inr hother)
        exact .building p moment hprog hafter hold (hstate ▸ hfits')
      · rw [← hsame, Function.update_eq_self] at hstate
        exact .building p moment hprog hafter hold (hstate ▸ hfits)

theorem ClientProgress.observe (h : ClientProgress newUrl s call) (settings : Settings) :
    ClientProgress newUrl s (call.observe settings) := by
  unfold ClientCall.observe
  split
  · cases h with
    | waiting hprog hseen => exact .waiting hprog hseen
    | failed e hprog => exact .failed e hprog
    | returned client hprog => exact .returned client hprog
    | building p moment hprog hafter hmoment hfits => exact .building p moment hprog hafter hmoment hfits
  · exact h

theorem ClientCall.observe_of_running (hrunning : call.Running) :
    call.observe settings = { call with since := settings :: call.since } := by
  unfold ClientCall.observe
  rw [show call.prog.result? = none from hrunning]

theorem ClientCall.observe_of_ended (hended : ¬ call.Running) : call.observe settings = call := by
  unfold ClientCall.observe
  split
  · next hnone => exact absurd hnone hended
  · rfl

theorem ClientSystem.Inv.written (h : s.Inv newUrl) (key : String) (value : Option String)
    (horderly : s.Orderly (.write key value)) : (s.written key value).Inv newUrl := by
  constructor
  · exact List.mem_cons_self
  · intro kind client at_ hcache
    obtain ⟨settings, hmoment, hbuilt⟩ := h.cached kind client at_ hcache
    exact ⟨settings, List.mem_cons_of_mem _ hmoment, hbuilt⟩
  · refine List.forall_mem_map.mpr fun call hcall hrunning => ?_
    by_cases hrun : call.Running
    · rw [ClientCall.observe_of_running hrun]
      exact List.cons_subset_cons _ (h.since call hcall hrun)
    · rw [ClientCall.observe_of_ended hrun] at hrunning
      exact absurd hrunning hrun
  · refine List.forall_mem_map.mpr fun call hcall => ?_
    refine ClientProgress.observe ?_ _
    by_cases hrun : call.Running
    · exact (h.progress call hcall).write rfl rfl (horderly call hcall hrun)
    · exact (h.progress call hcall).of_ended hrun
  · refine List.forall_mem_map.mpr fun call hcall => ?_
    by_cases hrun : call.Running
    · rw [ClientCall.observe_of_running hrun]
      intro client hclient
      have hnone : call.prog.result? = none := hrun
      rw [show call.prog = .ret client from hclient] at hnone
      cases hnone
    · rw [ClientCall.observe_of_ended hrun]
      exact h.current call hcall

theorem ClientSystem.Inv.invalidated (h : s.Inv newUrl) (horderly : s.Orderly .invalidate) :
    s.invalidated.Inv newUrl := by
  constructor
  · exact List.mem_singleton.mpr rfl
  · intro kind client at_ hcache
    cases hcache
  · intro call hcall hrunning
    exact List.cons_subset.mpr ⟨h.since call hcall hrunning h.present, List.nil_subset _⟩
  · intro call hcall
    by_cases hrun : call.Running
    · cases h.progress call hcall with
      | waiting hprog hseen => exact .waiting hprog hseen
      | failed e hprog => exact .failed e hprog
      | returned client hprog => exact .returned client hprog
      | building p moment hprog hafter hmoment hfits =>
          exact .building p s.state.settings hprog hafter (List.mem_singleton.mpr rfl)
            (fits_self (horderly call hcall hrun))
    · exact (h.progress call hcall).of_ended hrun
  · exact h.current

theorem ClientSystem.Inv.started (newUrl : UrlReader) (settings : Settings)
    (now : Nat) : (ClientSystem.started settings now).Inv newUrl where
  present := List.mem_singleton.mpr rfl
  cached := fun kind client at_ hcache => by cases hcache
  since := fun call hcall => absurd hcall List.not_mem_nil
  progress := fun call hcall => absurd hcall List.not_mem_nil
  current := fun call hcall => absurd hcall List.not_mem_nil

theorem ClientSystem.Inv.step {event : ClientEvent} (h : s.Inv newUrl) (hstep : ClientStep newUrl s event s')
    (horderly : s.Orderly event) : s'.Inv newUrl := by
  cases hstep with
  | arrive kind => exact h.arrived kind
  | call hcalls hserved => exact h.goesOn hcalls hserved
  | write key value => exact h.written key value horderly
  | invalidate => exact h.invalidated horderly
  | tick hlater =>
      exact ⟨h.present, h.cached, h.since, fun call hcall => (h.progress call hcall).of_same rfl rfl,
        h.current⟩

end steps

/-- Infrastructure clients are current and untorn. -/
theorem clients_current {newUrl : UrlReader} {settings : Settings} {now : Nat}
    {s : ClientSystem} (hrun : ClientRun newUrl ClientSystem.Orderly (.started settings now) s) :
    ∀ call ∈ s.calls, call.Current newUrl := by
  have hinv : s.Inv newUrl := by
    induction hrun with
    | refl => exact .started newUrl settings now
    | tail _ hstep ih =>
        obtain ⟨event, hstep, horderly⟩ := hstep
        exact ih.step hstep horderly
  exact hinv.current

/-! ### Sample runs -/

def answerCore (s : CoreState) : (c : CoreCall) → Except AppError c.Reply × CoreState
  | .getPlain key => (.ok (s.settings key), s)
  | .cached kind => (.ok (s.fresh? kind), s.looked kind)
  | .store kind client => (.ok (), s.put kind (some (client, s.now)))

theorem served_answerCore (s : CoreState) (c : CoreCall) :
    CoreServed c s (answerCore s c).1 (answerCore s c).2 := by
  cases c with
  | getPlain key => exact ⟨.inl rfl, rfl⟩
  | cached kind => exact ⟨rfl, rfl⟩
  | store kind client => exact ⟨rfl, rfl⟩

def ClientSystem.advance (s : ClientSystem) : ClientSystem :=
  match s.calls with
  | ⟨kind, since, seen, .call c next⟩ :: rest =>
      let out := answerCore s.state c
      { s with
        state := out.2
        calls := ⟨kind, since, noteRead c out.1 seen, next out.1⟩ :: rest }
  | _ => s

/-- The latest call makes `n` calls. -/
def ClientSystem.advances : Nat → ClientSystem → ClientSystem
  | 0, s => s
  | n + 1, s => s.advance.advances n

variable {meets : ClientSystem → ClientEvent → Prop}

theorem run_advances {newUrl : UrlReader} (hother : ∀ s, meets s .other) (n : Nat) (s : ClientSystem) :
    ClientRun newUrl meets s (s.advances n) := by
  induction n generalizing s with
  | zero => exact .refl
  | succ n ih =>
      refine .trans ?_ (ih s.advance)
      unfold ClientSystem.advance
      split
      · next kind since seen c next rest hcalls =>
          exact .single ⟨_, .call (hcalls.trans (List.nil_append _).symm)
            (served_answerCore s.state c), hother s⟩
      · exact .refl

def ClientSystem.Quiet (s : ClientSystem) : Prop := ∀ call ∈ s.calls, ¬ call.Running

theorem ClientSystem.Quiet.orderly {s : ClientSystem} (h : s.Quiet) (event : ClientEvent) :
    s.Orderly event := by
  cases event with
  | write key value => exact fun call hcall hrunning => absurd hrunning (h call hcall)
  | invalidate => exact fun call hcall hrunning => absurd hrunning (h call hcall)
  | other => trivial

theorem ClientSystem.Quiet.written {s : ClientSystem} (h : s.Quiet) (key : String)
    (value : Option String) : (s.written key value).Quiet := by
  refine List.forall_mem_map.mpr fun call hcall => ?_
  rw [ClientCall.observe_of_ended (h call hcall)]
  exact h call hcall

def ClientSystem.ended (s : ClientSystem) : List Bool := s.calls.map fun call => call.prog.result?.isSome

theorem ClientSystem.quiet_of_ended {s : ClientSystem} (h : ∀ ended ∈ s.ended, ended = true) : s.Quiet := by
  intro call hcall hrunning
  have hsome : call.prog.result?.isSome = true := h _ (List.mem_map_of_mem hcall)
  rw [show call.prog.result? = none from hrunning] at hsome
  cases hsome

def noUrl : UrlReader := fun _ => none

def sampleInstallation : Settings := fun key =>
  if key = "proxmox.url" then some "https://pve:8006"
  else if key = "proxmox.token_id" then some "proxvm"
  else if key = "proxmox.token_secret" then some "old"
  else none

/-- A client is asked for, and the method makes `n` calls. -/
def sampleAsked (n : Nat) : ClientSystem :=
  ((ClientSystem.started sampleInstallation 0).arrived noUrl .proxmox).advances n

theorem run_sampleAsked (hother : ∀ s, meets s .other)
    (n : Nat) : ClientRun noUrl meets (.started sampleInstallation 0) (sampleAsked n) :=
  .head ⟨_, .arrive .proxmox, hother _⟩ (run_advances hother n _)

def ClientSystem.rotated (s : ClientSystem) : ClientSystem :=
  (s.written "proxmox.token_secret" (some "new")).invalidated

theorem clients_current_sample :
    (((sampleAsked 9).rotated.arrived noUrl .proxmox).advances 9).ended = [true, true] ∧
      ∀ call ∈ (((sampleAsked 9).rotated.arrived noUrl .proxmox).advances 9).calls, call.Current noUrl := by
  have hquiet : (sampleAsked 9).Quiet := ClientSystem.quiet_of_ended (by decide +kernel)
  have hrun : ClientRun noUrl ClientSystem.Orderly (.started sampleInstallation 0)
      (((sampleAsked 9).rotated.arrived noUrl .proxmox).advances 9) := by
    refine .trans (run_sampleAsked (fun _ => trivial) 9) ?_
    refine .head ⟨_, .write "proxmox.token_secret" (some "new"), hquiet.orderly _⟩ ?_
    refine .head ⟨_, .invalidate, (hquiet.written _ _).orderly _⟩ ?_
    exact .head ⟨_, .arrive .proxmox, trivial⟩ (run_advances (fun _ => trivial) 9 _)
  exact ⟨by decide +kernel, clients_current hrun⟩

def ClientCall.proxmoxClient? : ClientCall → Option ProxmoxClientOptions
  | ⟨.proxmox, _, _, prog⟩ => match prog.result? with
      | some (.ok client) => some client
      | _ => none
  | ⟨.guacDb, _, _, _⟩ => none

theorem ClientCall.Current.proxmoxClient? {newUrl : UrlReader} {call : ClientCall}
    {client : ProxmoxClientOptions} (h : call.Current newUrl) (hclient : call.proxmoxClient? = some client) :
    ∃ settings ∈ call.since, (buildProxmoxClient.at settings).toOption = some client := by
  obtain ⟨kind, since, seen, prog⟩ := call
  cases kind with
  | guacDb => cases hclient
  | proxmox =>
      cases prog with
      | ret client' =>
          cases hclient
          obtain ⟨settings, hmoment, hbuilt⟩ := h client rfl
          exact ⟨settings, hmoment, congrArg Except.toOption hbuilt⟩
      | raise e => cases hclient
      | call c next => cases hclient

/-- The client that is under way when the secret changes is stored afterwards, and handed out
to a call that starts after the cache was invalidated. -/
theorem stale_client_handed_out : ¬ ∀ (settings : Settings) (now : Nat) (s : ClientSystem),
      ClientRun noUrl (fun _ _ => True) (.started settings now) s → ∀ call ∈ s.calls, call.Current noUrl := by
  intro hclaim
  have hrun : ClientRun noUrl (fun _ _ => True) (.started sampleInstallation 0)
      (((sampleAsked 8).rotated.advances 1).arrived noUrl .proxmox |>.advances 1) := by
    refine .trans (run_sampleAsked (fun _ => trivial) 8) ?_
    refine .head ⟨_, .write "proxmox.token_secret" (some "new"), trivial⟩ ?_
    refine .head ⟨_, .invalidate, trivial⟩ ?_
    refine .trans (run_advances (fun _ => trivial) 1 _) ?_
    exact .head ⟨_, .arrive .proxmox, trivial⟩ (run_advances (fun _ => trivial) 1 _)
  have hstale : ∃ call ∈ (((sampleAsked 8).rotated.advances 1).arrived noUrl .proxmox |>.advances 1).calls,
      call.proxmoxClient? = some ⟨"https://pve:8006", "proxvm", "old", true⟩ ∧ ∀ settings ∈ call.since,
        (buildProxmoxClient.at settings).toOption ≠ some ⟨"https://pve:8006", "proxvm", "old", true⟩ := by
    decide +kernel
  obtain ⟨call, hcall, hclient, hnone⟩ := hstale
  obtain ⟨settings, hmoment, hbuilt⟩ := (hclaim _ _ _ hrun call hcall).proxmoxClient? hclient
  exact hnone settings hmoment hbuilt

end ProxVM
