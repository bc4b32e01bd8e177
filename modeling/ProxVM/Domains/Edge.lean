import ProxVM.Domains.Zone

/-!
# What a switch meets at Cloudflare

The settings, the records of the zone and the tunnels, and what `performDomainSwitch` chooses from them before it
writes.  Cloudflare lists the first hundred records of a zone.  What its client throws is never an `AppError`, not
for a status of 404 either.

- `Yields.bind`: programs that read, one after the other.
-/

namespace ProxVM.Domains

open Tables Interaction

/-! ## The world -/

/-- The settings, the records of the zone as Cloudflare lists them, and the rules of the tunnels that are managed
there. -/
structure Edge where
  settings : Settings
  records : Table DnsRecord.id
  ingress : Text → Text → Option (List TunnelIngressRule)
  writes : Nat

namespace Edge

def set (w : Edge) (key : SettingKey) (value : Text) : Edge :=
  { w with settings := Function.update w.settings key (some value) }

def route (w : Edge) (accountId tunnelId : Text) (rules : List TunnelIngressRule) : Edge :=
  { w with ingress := Function.update w.ingress accountId (Function.update (w.ingress accountId) tunnelId (some rules)) }

theorem id_withContent (content : Text) (proxied : Bool) (r : DnsRecord) : { r with content, proxied }.id = r.id := rfl

def update (w : Edge) (id content : Text) (proxied : Bool) : Edge :=
  { w with
    records := w.records.updateWhere (fun r => decide (r.id = id)) (fun r => { r with content, proxied })
      (id_withContent content proxied)
    writes := w.writes + 1 }

def Creates (zone : Text) (w : Edge) (type name content : Text) (proxied : Bool) (record : DnsRecord) (w' : Edge) :
    Prop :=
  ∃ id records, record = ⟨id, type, storedName zone name, content, proxied⟩ ∧ w.records.insert? record = some records ∧
    w' = { w with records := records, writes := w.writes + 1 }

def listed (w : Edge) : List DnsRecord := w.records.rows.take 100

end Edge

/-- An error that is no `AppError`. -/
def IsOther {α : Type} (r : Except Thrown α) : Prop := ∃ message, r = .error (.other message)

def edged (zone : Text) : Service calls Thrown Edge
  | .getSetting key, w, r, w' => w' = w ∧ (r = .ok (w.settings key) ∨ IsOther r)
  | .setSetting key value, w, r, w' => (w' = w.set key value ∧ (r = .ok () ∨ IsOther r)) ∨ (IsOther r ∧ w' = w)
  | .getZone _, w, r, w' => w' = w ∧ ((∃ id, r = .ok ⟨id, zone⟩) ∨ IsOther r)
  | .listDnsRecords _, w, r, w' => w' = w ∧ (r = .ok w.listed ∨ IsOther r)
  | .updateDnsRecord _ id content proxied, w, r, w' =>
      (∃ old ∈ w.records, old.id = id ∧ w' = w.update id content proxied ∧
        (r = .ok { old with content, proxied } ∨ IsOther r)) ∨ (IsOther r ∧ w' = w)
  | .createDnsRecord _ type name content proxied, w, r, w' =>
      (∃ record, w.Creates zone type name content proxied record w' ∧ (r = .ok record ∨ IsOther r)) ∨
        (IsOther r ∧ w' = w)
  | .getTunnelIngress accountId tunnelId, w, r, w' =>
      w' = w ∧ ((∃ rules, w.ingress accountId tunnelId = some rules ∧ r = .ok rules) ∨ IsOther r)
  | .putTunnelIngress accountId tunnelId rules, w, r, w' =>
      (w' = w.route accountId tunnelId rules ∧ (r = .ok () ∨ IsOther r)) ∨ (IsOther r ∧ w' = w)
  | .verifyDomain _, w, r, w' => w' = w ∧ ((∃ verification, r = .ok verification) ∨ IsOther r)
  | _, w, _, w' => w' = w

/-! ## Programs that read -/

structure Yields {α : Type} (zone : Text) (p : Task α) (w : Edge) (a : α) : Prop where
  ends : Ends (edged zone) p w (.ok a) w
  only : ∀ r w', Ends (edged zone) p w r w' → w' = w ∧ (r = .ok a ∨ IsOther r)

section reading

variable {zone : Text} {w : Edge} {α β : Type}

theorem yields_pure (a : α) : Yields zone (pure a : Task α) w a where
  ends := .ret
  only r w' hends := by
    obtain ⟨rfl, rfl⟩ := ends_pure.mp hends
    exact ⟨rfl, .inl rfl⟩

theorem Yields.bind {p : Task α} {f : α → Task β} {a : α} {b : β} (hp : Yields zone p w a)
    (hf : Yields zone (f a) w b) : Yields zone (p >>= f) w b where
  ends := Ends.bind hp.ends hf.ends
  only r w' hends := by
    obtain ⟨a', w₁, hfirst, hrest⟩ | ⟨e, rfl, hfirst⟩ := hends.of_bind
    · obtain ⟨rfl, hsame | ⟨message, hsame⟩⟩ := hp.only _ _ hfirst
      · cases hsame
        exact hf.only r w' hrest
      · cases hsame
    · obtain ⟨rfl, hsame | ⟨message, hsame⟩⟩ := hp.only _ _ hfirst
      · cases hsame
      · cases hsame
        exact ⟨rfl, .inr ⟨message, rfl⟩⟩

theorem yields_getSetting (key : SettingKey) : Yields zone (ask (.getSetting key)) w (w.settings key) where
  ends := ends_perform.mpr ⟨rfl, .inl rfl⟩
  only _ _ hends := ends_perform.mp hends

theorem yields_listDnsRecords {zoneId : Text} : Yields zone (ask (.listDnsRecords zoneId)) w w.listed where
  ends := ends_perform.mpr ⟨rfl, .inl rfl⟩
  only _ _ hends := ends_perform.mp hends

def Edge.cloudflare (env : Environment) (w : Edge) : CloudflareConfig :=
  ⟨env.zoneId <|> w.settings .cloudflareZoneId, env.accountId <|> w.settings .cloudflareAccountId,
    env.tunnelId <|> w.settings .cloudflareTunnelId⟩

theorem yields_getCloudflareConfig (env : Environment) :
    Yields zone (getCloudflareConfig env) w (w.cloudflare env) :=
  (yields_getSetting _).bind ((yields_getSetting _).bind ((yields_getSetting _).bind ((yields_getSetting _).bind
    (yields_pure _))))

def Edge.domains (api : TextApi) (w : Edge) : DomainConfig :=
  ⟨parsedCanonical api (w.settings .canonicalDomain), distinct (parsedAliases api (w.settings .domainAliases))⟩

theorem yields_getDomainConfig (api : TextApi) :
    Yields zone (getDomainConfig api) w (w.domains api, w.settings .cloudflareZoneId) :=
  (yields_getSetting _).bind ((yields_getSetting _).bind ((yields_getSetting _).bind (yields_pure _)))

end reading

/-! ## What is chosen -/

structure Choice where
  target : Text
  type : Text
  template : Option DnsRecord
  deriving DecidableEq, Repr

section choice

variable (api : TextApi) (body : SwitchDomainInput) (records : List DnsRecord) (config : DomainConfig)

def templateIn : Option (Option DnsRecord) :=
  match present body.copyFrom with
  | none => some none
  | some id => (records.find? fun r => decide (r.id = id)).map some

def currentIn : Option DnsRecord := config.canonical.bind fun canonical => recordNamed api canonical records

def targetIn (template : Option DnsRecord) : Option Text :=
  present (body.target.map trim) <|> present (template.map DnsRecord.content) <|>
    present ((currentIn api records config).map DnsRecord.content)

def typeIn (template : Option DnsRecord) : Text :=
  (body.recordType <|> template.map DnsRecord.type <|> (currentIn api records config).map DnsRecord.type).getD typeA

def chosen : Except Thrown Choice :=
  match templateIn body records with
  | none => .error (refusal "Selected source record no longer exists")
  | some template =>
      match targetIn api body records config template with
      | none => .error (refusal noTarget)
      | some target =>
          match targetError (typeIn api body records config template) target with
          | some message => .error (refusal message)
          | none => .ok ⟨target, typeIn api body records config template, template⟩

theorem templateOf_eq : templateOf body.copyFrom records = match templateIn body records with
    | none => .raise (refusal "Selected source record no longer exists")
    | some template => pure template := by
  unfold templateOf templateIn
  cases present body.copyFrom with
  | none => rfl
  | some id =>
      dsimp only
      cases records.find? fun r => decide (r.id = id) with
      | none => rfl
      | some record => rfl

/-- **What is written** is what has been chosen. -/
theorem writeTarget_eq (zoneId fqdn : Text) : writeTarget api body zoneId fqdn records config =
    match chosen api body records config with
    | .error e => .raise e
    | .ok c => writeRecord api zoneId fqdn c.target c.type records c.template body.proxied := by
  unfold writeTarget chosen
  rw [templateOf_eq]
  cases templateIn body records with
  | none => rfl
  | some template =>
      change Prog.bind (Prog.orRaise (targetIn api body records config template) _) _ = _
      dsimp only
      cases targetIn api body records config template with
      | none => rfl
      | some target =>
          change Prog.bind (refuseIf (targetError (typeIn api body records config template) target)) _ = _
          dsimp only
          cases targetError (typeIn api body records config template) target with
          | some message => rfl
          | none => rfl

end choice

/-! ## The write -/

namespace Edge

def Writes (api : TextApi) (zone fqdn : Text) (proxied : Option Bool) (c : Choice) (w : Edge) (record : DnsRecord)
    (w' : Edge) : Prop :=
  match existingRecord api fqdn w.listed with
  | some old => record = { old with content := c.target, proxied := proxied.getD old.proxied } ∧
      w' = w.update old.id c.target (proxied.getD old.proxied)
  | none => w.Creates zone c.type fqdn c.target (proxied.getD ((c.template.map DnsRecord.proxied).getD true)) record w'

structure Publishes (api : TextApi) (env : Environment) (zone : Text) (body : SwitchDomainInput) (w : Edge)
    (c : Choice) : Prop where
  configured : present (w.cloudflare env).zoneId ≠ none
  valid : isValidHostname (qualifyName api body.name zone) = true
  chosen : chosen api body w.listed (w.domains api) = .ok c

end Edge

section write

variable {api : TextApi} {env : Environment} {zone zoneId fqdn : Text} {body : SwitchDomainInput} {w w' : Edge}
  {proxied : Option Bool} {c : Choice} {record : DnsRecord}

theorem mem_of_listed (hmem : record ∈ w.listed) : record ∈ w.records := List.mem_of_mem_take hmem

theorem existing_mem (hfind : existingRecord api fqdn w.listed = some record) : record ∈ w.records :=
  mem_of_listed (List.mem_of_find?_eq_some hfind)

theorem ends_writeRecord {r : Except Thrown DnsRecord} :
    Ends (edged zone) (writeRecord api zoneId fqdn c.target c.type w.listed c.template proxied) w r w' ↔
      (∃ record, w.Writes api zone fqdn proxied c record w' ∧ (r = .ok record ∨ IsOther r)) ∨ IsOther r ∧ w' = w := by
  unfold writeRecord Edge.Writes
  cases hfind : existingRecord api fqdn w.listed with
  | none => exact ends_perform
  | some old =>
      refine ends_perform.trans (or_congr_left ?_)
      constructor
      · rintro ⟨old', hmem, hid, rfl, hr⟩
        obtain rfl : old' = old := Table.eq_of_key_eq hmem (existing_mem hfind) hid
        exact ⟨_, ⟨rfl, rfl⟩, hr⟩
      · rintro ⟨_, ⟨rfl, rfl⟩, hr⟩
        exact ⟨old, existing_mem hfind, rfl, rfl, hr⟩

theorem exists_fresh_id (records : List DnsRecord) : ∃ id : Text, ∀ record ∈ records, record.id ≠ id := by
  have hbound : ∃ n, ∀ record ∈ records, record.id.length ≤ n := by
    induction records with
    | nil => exact ⟨0, by simp⟩
    | cons record records ih =>
        obtain ⟨n, hn⟩ := ih
        refine ⟨max record.id.length n, fun record' hmem => ?_⟩
        obtain rfl | hmem := List.mem_cons.mp hmem
        · exact Nat.le_max_left _ _
        · exact (hn record' hmem).trans (Nat.le_max_right _ _)
  -- An id that is longer than all of them.
  obtain ⟨n, hn⟩ := hbound
  refine ⟨List.replicate (n + 1) 'x', fun record hmem heq => ?_⟩
  have hle := hn record hmem
  rw [heq, List.length_replicate] at hle
  exact Nat.not_succ_le_self n hle

theorem exists_write (api : TextApi) (zone fqdn : Text) (proxied : Option Bool) (c : Choice) (w : Edge) :
    ∃ record w', w.Writes api zone fqdn proxied c record w' := by
  unfold Edge.Writes
  cases existingRecord api fqdn w.listed with
  | some old => exact ⟨_, _, rfl, rfl⟩
  | none =>
      obtain ⟨id, hfresh⟩ := exists_fresh_id w.records.rows
      obtain ⟨records, hinsert⟩ := Table.insert?_isSome (t := w.records)
        (r := ⟨id, c.type, storedName zone fqdn, c.target,
          proxied.getD ((c.template.map DnsRecord.proxied).getD true)⟩) hfresh
      exact ⟨_, _, id, records, rfl, hinsert, rfl⟩

theorem Edge.Writes.frame (hwrites : w.Writes api zone fqdn proxied c record w') :
    w'.settings = w.settings ∧ w'.ingress = w.ingress ∧ w'.writes = w.writes + 1 := by
  unfold Edge.Writes at hwrites
  split at hwrites
  · rw [hwrites.2]
    exact ⟨rfl, rfl, rfl⟩
  · obtain ⟨id, records, -, -, rfl⟩ := hwrites
    exact ⟨rfl, rfl, rfl⟩

/-! ## The switch up to the write -/

def afterWrite (api : TextApi) (env : Environment) (body : SwitchDomainInput) (config : DomainConfig) (fqdn : Text)
    (record : DnsRecord) : Task SwitchDomainResult := do
  let tunnel ← routeTunnel api env config fqdn body.service
  verifyAndFlip api config fqdn record tunnel

theorem Yields.ends_bind {α β : Type} {p : Task α} {f : α → Task β} {a : α} {r : Except Thrown β}
    (hp : Yields zone p w a) (hends : Ends (edged zone) (p >>= f) w r w') :
    (IsOther r ∧ w' = w) ∨ Ends (edged zone) (f a) w r w' := by
  obtain ⟨a', w₁, hfirst, hrest⟩ | ⟨e, rfl, hfirst⟩ := hends.of_bind
  · obtain ⟨rfl, hsame | ⟨message, hsame⟩⟩ := hp.only _ _ hfirst
    · cases hsame
      exact .inr hrest
    · cases hsame
  · obtain ⟨rfl, hsame | ⟨message, hsame⟩⟩ := hp.only _ _ hfirst
    · cases hsame
    · cases hsame
      exact .inl ⟨⟨message, rfl⟩, rfl⟩

theorem ends_orRaise {α β : Type} {o : Option α} {e : Thrown} {f : α → Task β} {r : Except Thrown β}
    (hends : Ends (edged zone) (Prog.orRaise o e >>= f) w r w') :
    (∃ a, o = some a ∧ Ends (edged zone) (f a) w r w') ∨ o = none ∧ r = .error e ∧ w' = w := by
  cases o with
  | none => exact .inr ⟨rfl, ends_raise.mp (hends : Ends _ (.raise e) _ _ _)⟩
  | some a => exact .inl ⟨a, rfl, hends⟩

theorem IsOther.error {α : Type} {r : Except Thrown α} (hother : IsOther r) : ∃ e, r = .error e :=
  ⟨_, hother.choose_spec⟩

variable {r : Except Thrown SwitchDomainResult}

/-- **A switch** fails before it writes, or writes what has been chosen; then it fails at once, or goes on. -/
theorem performDomainSwitch_cases (hends : Ends (edged zone) (performDomainSwitch api env body) w r w') :
    ((∃ e, r = .error e) ∧ w' = w) ∨ ∃ c record w₁, w.Publishes api env zone body c ∧
        w.Writes api zone (qualifyName api body.name zone) body.proxied c record w₁ ∧ (IsOther r ∧ w' = w₁ ∨
            Ends (edged zone) (afterWrite api env body (w.domains api) (qualifyName api body.name zone) record) w₁ r w') := by
  -- Every step up to the write fails and leaves the world, or goes on from it.
  obtain ⟨hother, rfl⟩ | hzoneId := (yields_getCloudflareConfig env).ends_bind hends
  · exact .inl ⟨hother.error, rfl⟩
  obtain ⟨zoneId, hconfigured, hclient⟩ | ⟨-, rfl, rfl⟩ := ends_orRaise hzoneId
  swap
  · exact .inl ⟨⟨_, rfl⟩, rfl⟩
  obtain ⟨⟨⟩, w₁, hasked, hzone⟩ | ⟨e, rfl, hfailed⟩ := hclient.of_bind
  swap
  · exact .inl ⟨⟨e, rfl⟩, ends_perform.mp hfailed⟩
  obtain rfl : w₁ = w := ends_perform.mp hasked
  obtain ⟨found, w₂, hasked', hwithin⟩ | ⟨e, rfl, hfailed⟩ := hzone.of_bind
  swap
  · exact .inl ⟨⟨e, rfl⟩, (ends_perform.mp hfailed).1⟩
  obtain ⟨rfl, ⟨id, ⟨⟩⟩ | ⟨message, ⟨⟩⟩⟩ := ends_perform.mp hasked'
  obtain ⟨hvalid, hlist⟩ | ⟨herror, rfl⟩ := ends_checked hwithin
  swap
  · exact .inl ⟨herror, rfl⟩
  obtain ⟨hother, rfl⟩ | hconfig := yields_listDnsRecords.ends_bind hlist
  · exact .inl ⟨hother.error, rfl⟩
  obtain ⟨hother, rfl⟩ | htarget := (yields_getDomainConfig api).ends_bind hconfig
  · exact .inl ⟨hother.error, rfl⟩
  change Ends _ (writeTarget api body id _ w₂.listed (w₂.domains api) >>= afterWrite api env body _ _) _ _ _ at htarget
  rw [writeTarget_eq] at htarget
  cases hchosen : chosen api body w₂.listed (w₂.domains api) with
  | error e =>
      rw [hchosen] at htarget
      obtain ⟨rfl, rfl⟩ := ends_raise.mp (htarget : Ends _ (.raise e) _ _ _)
      exact .inl ⟨⟨e, rfl⟩, rfl⟩
  | ok c =>
      rw [hchosen] at htarget
      have hpublishes : w₂.Publishes api env zone body c :=
        ⟨by rw [hconfigured]; exact Option.some_ne_none _, hvalid, hchosen⟩
      obtain ⟨record, w₃, hwrite, hafter⟩ | ⟨e, rfl, hwrite⟩ := htarget.of_bind
      · obtain ⟨record', hwrites, hreply | ⟨message, hreply⟩⟩ | ⟨⟨message, hreply⟩, -⟩ := ends_writeRecord.mp hwrite
        · obtain rfl := Except.ok.inj hreply
          exact .inr ⟨c, record, w₃, hpublishes, hwrites, .inr hafter⟩
        · cases hreply
        · cases hreply
      -- An error need not mean that nothing has been written: the answer may be lost.
      · obtain ⟨record, hwrites, hreply | ⟨message, hreply⟩⟩ | ⟨-, hsame⟩ := ends_writeRecord.mp hwrite
        · cases hreply
        · cases hreply
          exact .inr ⟨c, record, w', hpublishes, hwrites, .inl ⟨⟨message, rfl⟩, rfl⟩⟩
        · exact .inl ⟨⟨e, rfl⟩, hsame⟩

/-- **A switch that publishes** writes what has been chosen and goes on, if Cloudflare answers. -/
theorem ends_switch {w₁ : Edge} (hpublishes : w.Publishes api env zone body c)
    (hwrites : w.Writes api zone (qualifyName api body.name zone) body.proxied c record w₁)
    (hafter : Ends (edged zone) (afterWrite api env body (w.domains api) (qualifyName api body.name zone) record)
      w₁ r w') : Ends (edged zone) (performDomainSwitch api env body) w r w' := by
  obtain ⟨zoneId, hzoneId⟩ := Option.ne_none_iff_exists'.mp hpublishes.configured
  have hclient : Ends (edged zone) (ask .getCloudflareClient : Task Unit) w (.ok ()) w := by
    refine ends_perform.mpr ?_
    exact (rfl : w = w)
  have hfound : Ends (edged zone) (ask (.getZone zoneId) : Task Zone) w (.ok ⟨zoneId, zone⟩) w :=
    ends_perform.mpr ⟨rfl, .inl ⟨zoneId, rfl⟩⟩
  refine Ends.bind (yields_getCloudflareConfig env).ends ?_
  rw [hzoneId]
  refine Ends.bind Ends.ret (Ends.bind hclient (Ends.bind hfound ?_))
  unfold switchWithin assertValidHostname
  dsimp only
  rw [if_pos hpublishes.valid]
  refine Ends.bind Ends.ret (Ends.bind yields_listDnsRecords.ends (Ends.bind (yields_getDomainConfig api).ends ?_))
  refine Ends.bind ?_ hafter
  rw [writeTarget_eq, hpublishes.chosen]
  exact ends_writeRecord.mpr (.inl ⟨record, hwrites, .inl rfl⟩)

end write

end ProxVM.Domains
