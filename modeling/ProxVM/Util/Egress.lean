import ProxVM.Lib.Solo
import ProxVM.Provisioning.Calls
import ProxVM.Util.Hosts
import ProxVM.Util.Text

/-!
# Requests the server makes

`fetchWithSsrfGuard` of `util/ssrf.ts` and the webhook sender of
`services/threats.ts`.  Both look a name up, check every answer, and then call
`fetch`, which looks the name up again, on the first hop and on every redirect.

## Strategy
-/

namespace ProxVM

open Interaction

/-! ## URLs and requests -/

structure Url where
  href : String
  protocol : String
  hostname : String
  deriving DecidableEq, Repr

/-- `new URL(raw)` and `new URL(location, base)`, nothing where they throw; the serialization of
a URL is a URL. -/
structure UrlApi where
  parse : String → Option Url
  resolve : (location base : String) → Option Url
  parse_href : ∀ location base url, resolve location base = some url → parse url.href = some url

structure Response where
  status : Nat
  location : Option String
  deriving DecidableEq, Repr

def Response.isRedirect (res : Response) : Bool :=
  decide (res.status = 301 ∨ res.status = 302 ∨ res.status = 307 ∨ res.status = 308)

def Response.ok (res : Response) : Bool := decide (200 ≤ res.status ∧ res.status ≤ 299)

/-- `lookup(host, { all: true })` and `fetch(url, { redirect: "manual" })`. -/
inductive EgressCall
  | lookup (host : String)
  | fetch (url : String)
  deriving DecidableEq, Repr

abbrev EgressCall.Reply : EgressCall → Type
  | .lookup _ => List String
  | .fetch _ => Response

def egressCalls : Signature := ⟨EgressCall, EgressCall.Reply⟩

abbrev EgressTask (α : Type) : Type := Prog egressCalls Failure α

/-- `lookup`. -/
def dnsLookup (host : String) : EgressTask (List String) := Prog.perform (F := egressCalls) (.lookup host)

/-- `fetch`. -/
def fetchManual (url : String) : EgressTask Response := Prog.perform (F := egressCalls) (.fetch url)

def refused (message : String) : Failure := .app (AppError.validation message)

/-- What `new URL` throws. -/
def invalidUrl : Failure := .other "Invalid URL"

def assertSafeServerHost (hostname what : String) : EgressTask Unit :=
  if isBlockedServerDestination hostname then
    .raise (refused (what ++ " must not target loopback, private, link-local, or cloud metadata endpoints"))
  else if isIP hostname then
    pure ()
  else do
    let addresses ← (dnsLookup hostname).tryCatch fun _ => .raise (refused (what ++ " does not resolve"))
    if addresses = [] ∨ addresses.any isBlockedServerDestination then
      .raise (refused (what ++ " resolves to a blocked address"))
    else
      pure ()

/-- The hops of `fetchWithSsrfGuard`. -/
def guardedHops (api : UrlApi) : Nat → String → EgressTask Response
  | 0, _ => .raise (.other "Redirect limit exceeded")
  | hops + 1, current => do
      let parsed ← Prog.orRaise (api.parse current) invalidUrl
      assertSafeServerHost parsed.hostname "redirect target"
      let res ← fetchManual current
      if !res.isRedirect then pure res else
      match res.location.filter (· ≠ "") with
      | none => .raise (.other "Redirect without Location")
      | some location =>
        let next ← Prog.orRaise (api.resolve location current) invalidUrl
        if next.protocol ≠ "http:" ∧ next.protocol ≠ "https:" then
          .raise (.other "Redirect target refused")
        else
          guardedHops api hops next.href

def fetchWithSsrfGuard (api : UrlApi) (url : String) (maxRedirects : Nat := 1) : EgressTask Response :=
  guardedHops api (maxRedirects + 1) url

/-- `assertSafeWebhookUrl`, which the sender applies to the stored URL before it posts. -/
def assertSafeWebhookUrl (api : UrlApi) (raw : String) : Except AppError String :=
  let url := (trimmed (some raw)).getD ""
  match api.parse url with
  | none => .error (AppError.validation "Webhook URL must be a valid http(s) URL")
  | some parsed =>
    if parsed.protocol ≠ "http:" ∧ parsed.protocol ≠ "https:" then
      .error (AppError.validation "Webhook URL must use http or https")
    else if isBlockedWebhookHost parsed.hostname then
      .error (AppError.validation
        "Webhook URL must not target loopback, link-local, or cloud metadata endpoints")
    else
      .ok url

def checkWebhookHop (hostname : String) : EgressTask Unit := do
  let hopAddrs ← dnsLookup hostname
  if hopAddrs = [] ∨ hopAddrs.any isBlockedWebhookHost then
    .raise (.other "Webhook redirect target resolves to a blocked address")
  else
    pure ()

/-- The hops of `defaultPost`. -/
def webhookHops (api : UrlApi) : Nat → String → EgressTask Unit
  | 0, _ => .raise (.other "Webhook redirect limit exceeded")
  | hops + 1, current => do
      let res ← fetchManual current
      if !res.isRedirect then
        if !res.ok then .raise (.other ("Webhook POST failed with status " ++ toString res.status))
        else pure ()
      else
      match res.location.filter (· ≠ "") with
      | none => .raise (.other "Webhook redirect without Location")
      | some location =>
        let next ← Prog.orRaise (api.resolve location current) invalidUrl
        if next.protocol ≠ "https:" ∨ isBlockedWebhookHost next.hostname then
          .raise (.other "Webhook redirect target refused")
        else do
          (checkWebhookHop next.hostname).tryCatch fun err => .raise (.other err.message)
          webhookHops api hops next.href

def defaultPost (api : UrlApi) (url : String) : EgressTask Unit := do
  let first ← Prog.orRaise (api.parse url) invalidUrl
  let resolved ← (dnsLookup first.hostname).tryCatch fun _ =>
    .raise (.other "Webhook hostname does not resolve")
  if resolved = [] ∨ resolved.any isBlockedWebhookHost then
    .raise (.other "Webhook hostname resolves to a blocked address")
  else
    webhookHops api 2 url

/-! ## The network -/

/-- What happens on the network: a lookup is answered, or `fetch` connects. -/
inductive Egress
  | resolved (host : String) (answers : List String)
  | connected (host address : String)
  deriving DecidableEq, Repr

/-- How a call is served, with all that has happened on the network, the latest first.  The answers
of the name server, the responses and the failures are arbitrary.  An address resolves to itself.
`fetch` connects to the address in the URL, or else to any of the addresses that its own lookup
of the name gives. -/
def EgressServed (api : UrlApi) : Service egressCalls Failure (List Egress)
  | .lookup host, trace, r, trace' => (isIP host = true → r = .ok [host]) ∧
      trace' = (match r with
        | .ok answers => .resolved host answers :: trace
        | .error _ => trace)
  | .fetch url, trace, _, trace' => match api.parse url with
      | none => trace' = trace
      | some parsed => ∃ addresses : List String,
          (∀ address, literal? parsed.hostname = some address → ∀ a ∈ addresses, a = address) ∧
            trace' = addresses.map (.connected parsed.hostname) ++ trace

def DialsAllowed (blocked : String → Bool) (trace : List Egress) : Prop :=
  ∀ host address, .connected host address ∈ trace → blocked address = false

/-- A name was looked up with allowed answers only, and when `fetch` looked it up it resolved to
a blocked address, and was dialled. -/
def Rebound (blocked : String → Bool) (trace : List Egress) : Prop :=
  ∃ host answers address, literal? host = none ∧ .resolved host answers ∈ trace ∧
    (∀ a ∈ answers, blocked a = false) ∧ .connected host address ∈ trace ∧ blocked address = true

/-! ## What a request owes -/

def Cleared (blocked : String → Bool) (host : String) (trace : List Egress) : Prop :=
  match literal? host with
  | some address => blocked address = false
  | none => ∃ answers, .resolved host answers ∈ trace ∧ ∀ a ∈ answers, blocked a = false

def EgressOwes (api : UrlApi) (blocked : String → Bool) : EgressCall → List Egress → Prop
  | .lookup _, _ => True
  | .fetch url, trace => ∀ parsed, api.parse url = some parsed → Cleared blocked parsed.hostname trace

def Backed (blocked : String → Bool) (trace : List Egress) : Prop :=
  ∀ host address, .connected host address ∈ trace →
    Cleared blocked host trace ∧ ∀ a, literal? host = some a → address = a

section egress

variable {api : UrlApi} {blocked : String → Bool} {trace trace' : List Egress} {host : String}

theorem cleared_of_literal {address : String} (hliteral : literal? host = some address)
    (hallowed : blocked address = false) : Cleared blocked host trace := by
  unfold Cleared
  rw [hliteral]
  exact hallowed

variable {answers : List String} {url raw : String} {α : Type}

theorem cleared_of_resolved (hliteral : literal? host = none)
    (hresolved : .resolved host answers ∈ trace) (hallowed : ∀ a ∈ answers, blocked a = false) :
    Cleared blocked host trace := by
  unfold Cleared
  rw [hliteral]
  exact ⟨answers, hresolved, hallowed⟩

theorem Cleared.mono (h : Cleared blocked host trace) (hsub : trace ⊆ trace') :
    Cleared blocked host trace' := by
  unfold Cleared at h ⊢
  split at h
  · exact h
  · obtain ⟨answers, hresolved, hallowed⟩ := h
    exact ⟨answers, hsub hresolved, hallowed⟩

theorem Backed.lookup (h : Backed blocked trace) {r : Except Failure (List String)}
    (hserved : EgressServed api (.lookup host) trace r trace') : Backed blocked trace' := by
  obtain ⟨-, rfl⟩ := hserved
  cases r with
  | error e => exact h
  | ok answers =>
      intro host' address hconnected
      obtain hnew | hold := List.mem_cons.mp hconnected
      · cases hnew
      · obtain ⟨hcleared, hliteral⟩ := h host' address hold
        exact ⟨hcleared.mono (List.subset_cons_self _ _), hliteral⟩

theorem Backed.fetch (h : Backed blocked trace) {r : Except Failure Response}
    (howes : EgressOwes api blocked (.fetch url) trace)
    (hserved : EgressServed api (.fetch url) trace r trace') : Backed blocked trace' := by
  cases hparse : api.parse url with
  | none =>
      simp only [EgressServed, hparse] at hserved
      exact hserved ▸ h
  | some parsed =>
      simp only [EgressServed, hparse] at hserved
      obtain ⟨addresses, hliteral, rfl⟩ := hserved
      intro host address hconnected
      obtain hnew | hold := List.mem_append.mp hconnected
      · obtain ⟨a, ha, heq⟩ := List.mem_map.mp hnew
        cases heq
        refine ⟨(howes parsed hparse).mono (List.subset_append_right _ _), fun a' ha' => ?_⟩
        exact hliteral a' ha' address ha
      · obtain ⟨hcleared, hdirect⟩ := h host address hold
        exact ⟨hcleared.mono (List.subset_append_right _ _), hdirect⟩

theorem Backed.serve {c : EgressCall} {r : Except Failure c.Reply} (howes : EgressOwes api blocked c trace)
    (h : Backed blocked trace) (hserved : EgressServed api c trace r trace') : Backed blocked trace' := by
  cases c with
  | lookup host => exact h.lookup hserved
  | fetch url => exact h.fetch howes hserved

theorem Backed.dialsAllowed_iff (h : Backed blocked trace) : DialsAllowed blocked trace ↔ ¬ Rebound blocked trace := by
  constructor
  · rintro hall ⟨host, answers, address, -, -, -, hconnected, hblocked⟩
    rw [hall host address hconnected] at hblocked
    cases hblocked
  · intro hsteady host address hconnected
    obtain ⟨hcleared, hdirect⟩ := h host address hconnected
    unfold Cleared at hcleared
    cases hliteral : literal? host with
    | some a =>
        rw [hliteral] at hcleared
        rw [hdirect a hliteral]
        exact hcleared
    | none =>
        rw [hliteral] at hcleared
        obtain ⟨answers, hresolved, hallowed⟩ := hcleared
        refine Bool.eq_false_iff.mpr fun hblocked => hsteady ?_
        exact ⟨host, answers, address, hliteral, hresolved, hallowed, hconnected, hblocked⟩

abbrev guarded (api : UrlApi) (blocked : String → Bool) : Context egressCalls Failure (List Egress) :=
  aloneOwing (EgressServed api) (EgressOwes api blocked)

theorem holds_dnsLookup {Q : Except Failure (List String) → List Egress → Prop}
    (hok : ∀ answers, Q (.ok answers) (.resolved host answers :: trace)) (herror : ∀ e, Q (.error e) trace) :
    (guarded api blocked).holds (dnsLookup host) Q trace := by
  refine holds_aloneOwing_perform.mpr ⟨trivial, fun r trace' hserved => ?_⟩
  obtain ⟨-, rfl⟩ := hserved
  cases r with
  | ok answers => exact hok answers
  | error e => exact herror e

theorem cleared_of_answers (hblocked : blocked host = false)
    (hmirror : ∀ address, literal? host = some address → blocked address = blocked host) (hanswers : ¬ (answers = [] ∨ answers.any blocked = true)) :
    Cleared blocked host (.resolved host answers :: trace) := by
  cases hliteral : literal? host with
  | some address => exact cleared_of_literal hliteral ((hmirror address hliteral).trans hblocked)
  | none =>
      refine cleared_of_resolved hliteral List.mem_cons_self fun a ha => ?_
      by_contra ha'
      exact hanswers (.inr (List.any_eq_true.mpr ⟨a, ha, Bool.of_not_eq_false ha'⟩))

theorem holds_assertSafeServerHost (what : String) :
    (guarded api isBlockedServerDestination).holds (assertSafeServerHost host what)
      (fun r trace' => r = .ok () → Cleared isBlockedServerDestination host trace') trace := by
  unfold assertSafeServerHost
  refine Context.holds_ite.mpr ⟨fun _ h => (by cases h), fun hallowed => Context.holds_ite.mpr ⟨fun hip _ => ?_, fun _ => ?_⟩⟩
  · exact cleared_of_literal (literal_of_isIP hip) (Bool.eq_false_iff.mpr hallowed)
  · rw [Context.holds_bind, Context.holds_tryCatch]
    refine holds_dnsLookup (fun answers => ?_) fun e h => (by cases h)
    refine Context.holds_ite.mpr ⟨fun _ h => (by cases h), fun hanswers _ => ?_⟩
    exact cleared_of_answers (Bool.eq_false_iff.mpr hallowed)
      (fun _ hliteral => isBlockedServerDestination_of_literal hliteral) hanswers

theorem holds_fetchManual {f : Response → EgressTask α} (howes : EgressOwes api blocked (.fetch url) trace)
    (hnext : ∀ res trace', (guarded api blocked).holds (f res) (fun _ _ => True) trace') :
    (guarded api blocked).holds (fetchManual url >>= f) (fun _ _ => True) trace :=
  holds_aloneOwing_bind.mpr ⟨howes, fun res trace' _ => hnext res trace', fun _ _ _ => trivial⟩

theorem holds_guardedHops (hops : Nat) (current : String) (trace : List Egress) :
    (guarded api isBlockedServerDestination).holds (guardedHops api hops current) (fun _ _ => True) trace := by
  induction hops generalizing current trace with
  | zero => trivial
  | succ hops ih =>
      unfold guardedHops
      refine Context.holds_orRaise_bind.mpr ⟨fun parsed hparsed => ?_, fun _ => trivial⟩
      rw [Context.holds_bind]
      refine Context.holds_mono (holds_assertSafeServerHost _) fun r trace' hcleared => ?_
      cases r with
      | error e => trivial
      | ok _ =>
          refine holds_fetchManual (fun parsed' hparsed' => ?_) fun res trace'' => ?_
          · cases hparsed.symm.trans hparsed'
            exact hcleared rfl
          · refine Context.holds_ite.mpr ⟨fun _ => trivial, fun _ => ?_⟩
            cases res.location.filter (· ≠ "") with
            | none => trivial
            | some location =>
                refine Context.holds_orRaise_bind.mpr ⟨fun next _ => ?_, fun _ => trivial⟩
                exact Context.holds_ite.mpr ⟨fun _ => trivial, fun _ => ih next.href trace''⟩

theorem holds_checkWebhookHop (hallowed : isBlockedWebhookHost host = false) :
    (guarded api isBlockedWebhookHost).holds (checkWebhookHop host)
      (fun r trace' => r = .ok () → Cleared isBlockedWebhookHost host trace') trace := by
  unfold checkWebhookHop
  rw [Context.holds_bind]
  refine holds_dnsLookup (fun answers => ?_) fun e h => (by cases h)
  refine Context.holds_ite.mpr ⟨fun _ h => (by cases h), fun hanswers _ => ?_⟩
  exact cleared_of_answers hallowed (fun _ hliteral => isBlockedWebhookHost_of_literal hliteral) hanswers

theorem holds_webhookHops (hops : Nat) {current : String} {parsed : Url} (hparsed : api.parse current = some parsed)
    (hcleared : Cleared isBlockedWebhookHost parsed.hostname trace) :
    (guarded api isBlockedWebhookHost).holds (webhookHops api hops current) (fun _ _ => True) trace := by
  induction hops generalizing current parsed trace with
  | zero => trivial
  | succ hops ih =>
      unfold webhookHops
      refine holds_fetchManual (fun parsed' hparsed' => ?_) fun res trace' => ?_
      · cases hparsed.symm.trans hparsed'
        exact hcleared
      · refine Context.holds_ite.mpr ⟨fun _ => ?_, fun _ => ?_⟩
        · exact Context.holds_ite.mpr ⟨fun _ => trivial, fun _ => trivial⟩
        · cases res.location.filter (· ≠ "") with
          | none => trivial
          | some location =>
              refine Context.holds_orRaise_bind.mpr ⟨fun next hnext => ?_, fun _ => trivial⟩
              refine Context.holds_ite.mpr ⟨fun _ => trivial, fun hsafe => ?_⟩
              obtain ⟨-, hallowed⟩ := not_or.mp hsafe
              rw [Context.holds_bind, Context.holds_tryCatch]
              refine Context.holds_mono (holds_checkWebhookHop (Bool.eq_false_iff.mpr hallowed)) fun r trace'' hr => ?_
              cases r with
              | error e => trivial
              | ok _ => exact ih (api.parse_href _ _ _ hnext) (hr rfl)

theorem parse_of_assertSafeWebhookUrl (hurl : assertSafeWebhookUrl api raw = .ok url) :
    ∃ parsed, api.parse url = some parsed ∧ isBlockedWebhookHost parsed.hostname = false := by
  unfold assertSafeWebhookUrl at hurl
  dsimp only at hurl
  split at hurl
  · cases hurl
  · next parsed hparsed =>
      split at hurl
      · cases hurl
      · split at hurl
        · cases hurl
        · next hallowed =>
            cases hurl
            exact ⟨parsed, hparsed, Bool.eq_false_iff.mpr hallowed⟩

theorem holds_defaultPost (hurl : assertSafeWebhookUrl api raw = .ok url) :
    (guarded api isBlockedWebhookHost).holds (defaultPost api url) (fun _ _ => True) [] := by
  obtain ⟨parsed, hparsed, hallowed⟩ := parse_of_assertSafeWebhookUrl hurl
  refine Context.holds_orRaise_bind.mpr ⟨fun first hfirst => ?_, fun _ => trivial⟩
  cases hparsed.symm.trans hfirst
  rw [Context.holds_bind, Context.holds_tryCatch]
  refine holds_dnsLookup (fun answers => ?_) fun e => trivial
  refine Context.holds_ite.mpr ⟨fun _ => trivial, fun hanswers => ?_⟩
  exact holds_webhookHops 2 hparsed (cleared_of_answers hallowed
    (fun _ hliteral => isBlockedWebhookHost_of_literal hliteral) hanswers)

theorem backed_of_reaches {p p' : EgressTask α} (hp : (guarded api blocked).holds p (fun _ _ => True) [])
    (hreach : Reaches (alone (EgressServed api)) (p, []) (p', trace)) : Backed blocked trace :=
  keeps_of_owing (fun _ _ _ _ howes h hserved => h.serve howes hserved) hp
    (fun _ _ hconnected => absurd hconnected List.not_mem_nil) hreach

end egress

/-- The dialled address is always allowed, unless a name is rebound. -/
theorem dialled_allowed_iff (api : UrlApi) :
    (∀ (url : String) (maxRedirects : Nat) (p : EgressTask Response) (trace : List Egress),
      Reaches (alone (EgressServed api)) (fetchWithSsrfGuard api url maxRedirects, []) (p, trace) →
        (DialsAllowed isBlockedServerDestination trace ↔ ¬ Rebound isBlockedServerDestination trace)) ∧
    ∀ (raw url : String), assertSafeWebhookUrl api raw = .ok url → ∀ (p : EgressTask Unit) (trace : List Egress),
      Reaches (alone (EgressServed api)) (defaultPost api url, []) (p, trace) →
        (DialsAllowed isBlockedWebhookHost trace ↔ ¬ Rebound isBlockedWebhookHost trace) := by
  constructor
  · intro url maxRedirects p trace hreach
    exact (backed_of_reaches (holds_guardedHops (maxRedirects + 1) url []) hreach).dialsAllowed_iff
  · intro raw url hurl p trace hreach
    exact (backed_of_reaches (holds_defaultPost hurl) hreach).dialsAllowed_iff

/-! ### Sample runs -/

def UrlApi.ofTable (urls : List Url) : UrlApi where
  parse raw := urls.find? fun url => decide (url.href = raw)
  resolve location _ := urls.find? fun url => decide (url.href = location)
  parse_href := by
    intro location base url hurl
    have hfound := List.find?_some hurl
    rw [of_decide_eq_true hfound]
    exact hurl

def sampleApi : UrlApi :=
  .ofTable [⟨"http://pve.lan/", "http:", "pve.lan"⟩, ⟨"https://pve.lan/", "https:", "pve.lan"⟩]

/-- A network in which a name resolves to `checked`, and to `dialled` when `fetch` looks it up,
and in which the server asks for TLS. -/
def network (api : UrlApi) (checked dialled : List String) (c : EgressCall) (trace : List Egress) :
    Option (Except Failure c.Reply × List Egress) :=
  match c with
  | .lookup host =>
      let answers := if isIP host then [host] else checked
      some (.ok answers, .resolved host answers :: trace)
  | .fetch url =>
      match api.parse url with
      | none => some (.error invalidUrl, trace)
      | some parsed =>
          let addresses := ((literal? parsed.hostname).map fun address => [address]).getD dialled
          some (.ok (if parsed.protocol = "http:" then ⟨301, some "https://pve.lan/"⟩ else ⟨200, none⟩),
            addresses.map (.connected parsed.hostname) ++ trace)

theorem served_network {api : UrlApi} {checked dialled : List String} {c : EgressCall}
    {trace trace' : List Egress} {r : Except Failure c.Reply}
    (hanswer : network api checked dialled c trace = some (r, trace')) : EgressServed api c trace r trace' := by
  cases c with
  | lookup host =>
      cases hanswer
      exact ⟨fun hip => congrArg Except.ok (if_pos hip), rfl⟩
  | fetch url =>
      cases hparse : api.parse url with
      | none =>
          simp only [network, hparse] at hanswer
          cases hanswer
          simp only [EgressServed, hparse]
      | some parsed =>
          simp only [network, hparse] at hanswer
          cases hanswer
          simp only [EgressServed, hparse]
          refine ⟨_, fun address hliteral a ha => ?_, rfl⟩
          rw [hliteral] at ha
          exact List.mem_singleton.mp ha

def requested {α : Type} (api : UrlApi) (checked dialled : List String) (p : EgressTask α) :
    EgressTask α × List Egress :=
  drive (network api checked dialled) 10 (p, [])

theorem reaches_requested {α : Type} (api : UrlApi) (checked dialled : List String) (p : EgressTask α) :
    Reaches (alone (EgressServed api)) (p, []) (requested api checked dialled p) :=
  reaches_drive (fun cfg => cfg) (fun _ _ _ _ _ hanswer => .call (served_network hanswer)) 10 (p, [])

theorem dialled_allowed_iff_sample :
    (requested sampleApi ["192.168.1.10"] ["192.168.1.11"] (fetchWithSsrfGuard sampleApi "http://pve.lan/")).2 =
        [.connected "pve.lan" "192.168.1.11", .resolved "pve.lan" ["192.168.1.10"],
          .connected "pve.lan" "192.168.1.11", .resolved "pve.lan" ["192.168.1.10"]] ∧
      (DialsAllowed isBlockedServerDestination (requested sampleApi ["192.168.1.10"] ["192.168.1.11"]
          (fetchWithSsrfGuard sampleApi "http://pve.lan/")).2 ↔
        ¬ Rebound isBlockedServerDestination (requested sampleApi ["192.168.1.10"] ["192.168.1.11"]
          (fetchWithSsrfGuard sampleApi "http://pve.lan/")).2) ∧
      (DialsAllowed isBlockedWebhookHost (requested sampleApi ["192.168.1.10"] ["192.168.1.11"]
          (defaultPost sampleApi "http://pve.lan/")).2 ↔
        ¬ Rebound isBlockedWebhookHost (requested sampleApi ["192.168.1.10"] ["192.168.1.11"]
          (defaultPost sampleApi "http://pve.lan/")).2) :=
  ⟨by decide +kernel,
    (dialled_allowed_iff sampleApi).1 "http://pve.lan/" 1 _ _ (reaches_requested sampleApi _ _ _),
    (dialled_allowed_iff sampleApi).2 " http://pve.lan/" "http://pve.lan/" (by decide +kernel) _ _
      (reaches_requested sampleApi _ _ _)⟩

/-- A name that resolves to an allowed address when it is checked and to a metadata service when
`fetch` looks it up. -/
theorem rebound_name_dialled :
    ¬ ∀ (api : UrlApi) (url : String) (maxRedirects : Nat) (p : EgressTask Response) (trace : List Egress),
      Reaches (alone (EgressServed api)) (fetchWithSsrfGuard api url maxRedirects, []) (p, trace) →
        DialsAllowed isBlockedServerDestination trace := by
  intro hclaim
  have hallowed := hclaim sampleApi "https://pve.lan/" 1 _ _
    (reaches_requested sampleApi ["192.168.1.10"] ["169.254.169.254"] _) "pve.lan" "169.254.169.254" (by decide +kernel)
  exact absurd hallowed (by decide +kernel)

end ProxVM
