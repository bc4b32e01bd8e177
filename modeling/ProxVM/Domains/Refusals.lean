import ProxVM.Domains.Edge

/-!
# A switch that is refused

The service of the tunnel is looked at when the record of the name has been written, and only then.
-/

namespace ProxVM.Domains

open Tables Interaction

/-! ## Where a switch is refused late -/

def Edge.Alters (api : TextApi) (fqdn : Text) (proxied : Option Bool) (c : Choice) (w : Edge) : Prop :=
  ∀ old, existingRecord api fqdn w.listed = some old →
    c.target ≠ old.content ∨ proxied.getD old.proxied ≠ old.proxied

def NoRoute (api : TextApi) (config : DomainConfig) (service : Option Text) (rules : List TunnelIngressRule) : Prop :=
  (present (service.map trim)).bind serviceError ≠ none ∨
    present (present (service.map trim) <|> config.canonical.bind (tunnelServiceFor api rules)) = none

def Edge.RefusedLate (api : TextApi) (env : Environment) (zone : Text) (body : SwitchDomainInput) (w : Edge) : Prop :=
  ∃ c accountId tunnelId rules, w.Publishes api env zone body c ∧
    w.Alters api (qualifyName api body.name zone) body.proxied c ∧
      present (w.cloudflare env).accountId = some accountId ∧ present (w.cloudflare env).tunnelId = some tunnelId ∧
        w.ingress accountId tunnelId = some rules ∧ NoRoute api (w.domains api) body.service rules

section refusals

variable {api : TextApi} {env : Environment} {zone fqdn : Text} {body : SwitchDomainInput} {w w₁ w' : Edge}
  {config : DomainConfig} {proxied : Option Bool} {c : Choice} {record : DnsRecord} {service : Option Text}

/-! ## What a write does to the records -/

theorem Edge.update_records (hmem : record ∈ w.records) {content : Text} {proxied : Bool} :
    (w.update record.id content proxied).records = w.records ↔ content = record.content ∧ proxied = record.proxied := by
  constructor
  · intro hsame
    have hupdated : { record with content, proxied } ∈ w.records := by
      rw [← hsame, Edge.update, Table.mem_updateWhere]
      exact ⟨record, hmem, (if_pos (decide_eq_true rfl)).symm⟩
    have heq : { record with content, proxied } = record := Table.eq_of_key_eq hupdated hmem rfl
    exact ⟨congrArg DnsRecord.content heq, congrArg DnsRecord.proxied heq⟩
  · rintro ⟨rfl, rfl⟩
    have hfixed : ∀ r ∈ w.records, decide (r.id = record.id) = true →
        { r with content := record.content, proxied := record.proxied } = r := by
      intro r hr hid
      rw [Table.eq_of_key_eq hr hmem (of_decide_eq_true hid)]
    unfold Edge.update
    rw [Table.updateWhere_fixed hfixed]

theorem Edge.Creates.records_ne {type name content : Text} {proxied : Bool}
    (hcreates : w.Creates zone type name content proxied record w') : w'.records ≠ w.records := by
  obtain ⟨id, records, -, hinsert, rfl⟩ := hcreates
  intro hsame
  obtain ⟨hfresh, hmem⟩ := Table.insert?_eq_some hinsert
  have hthere : record ∈ w.records := hsame ▸ (hmem record).mpr (.inr rfl)
  exact hfresh record hthere rfl

/-- **The records stay** exactly if the write does not alter them. -/
theorem Edge.Writes.records_eq (hwrites : w.Writes api zone fqdn proxied c record w') :
    w'.records = w.records ↔ ¬ w.Alters api fqdn proxied c := by
  unfold Edge.Writes at hwrites
  unfold Edge.Alters
  cases hfind : existingRecord api fqdn w.listed with
  | none =>
      rw [hfind] at hwrites
      refine iff_of_false hwrites.records_ne ?_
      rw [not_not]
      rintro _ ⟨⟩
  | some old =>
      rw [hfind] at hwrites
      rw [hwrites.2, Edge.update_records (existing_mem hfind)]
      simp only [Option.some.injEq, forall_eq', not_or, not_not]

/-! ## Programs that refuse nothing -/

def Unrefusing {α : Type} (zone : Text) (p : Task α) : Prop :=
  ∀ w r w', Ends (edged zone) p w r w' → (∃ a, r = .ok a) ∨ IsOther r

variable {α : Type} {accountId tunnelId : Text} {rules : List TunnelIngressRule}

theorem unrefusing_pure (a : α) : Unrefusing zone (pure a : Task α) := fun _ _ _ hends =>
  .inl ⟨a, (ends_pure.mp hends).1⟩

theorem Unrefusing.bind {α β : Type} {p : Task α} {f : α → Task β} (hp : Unrefusing zone p)
    (hf : ∀ a, Unrefusing zone (f a)) : Unrefusing zone (p >>= f) := by
  intro w r w' hends
  obtain ⟨a, w₁, -, hrest⟩ | ⟨e, rfl, hfirst⟩ := hends.of_bind
  · exact hf a w₁ r w' hrest
  · obtain ⟨a, ⟨⟩⟩ | ⟨message, ⟨⟩⟩ := hp w _ w' hfirst
    exact .inr ⟨message, rfl⟩

theorem Yields.unrefusing {p : Task α} {f : Edge → α} (hp : ∀ w, Yields zone p w (f w)) :
    Unrefusing zone p := fun w r w' hends => by
  obtain ⟨-, rfl | hother⟩ := (hp w).only r w' hends
  · exact .inl ⟨_, rfl⟩
  · exact .inr hother

theorem unrefusing_setSetting {key : SettingKey} {value : Text} :
    Unrefusing zone (ask (.setSetting key value) : Task Unit) := by
  intro w r w' hends
  obtain ⟨-, rfl | hother⟩ | ⟨hother, -⟩ := ends_perform.mp hends
  · exact .inl ⟨(), rfl⟩
  · exact .inr hother
  · exact .inr hother

theorem unrefusing_putTunnelIngress :
    Unrefusing zone (ask (.putTunnelIngress accountId tunnelId rules) : Task Unit) := by
  intro w r w' hends
  obtain ⟨-, rfl | hother⟩ | ⟨hother, -⟩ := ends_perform.mp hends
  · exact .inl ⟨(), rfl⟩
  · exact .inr hother
  · exact .inr hother

theorem unrefusing_verifyDomain : Unrefusing zone (ask (.verifyDomain fqdn) : Task DomainVerification) := by
  intro w r w' hends
  obtain ⟨-, hverified | hother⟩ := ends_perform.mp hends
  · exact .inl hverified
  · exact .inr hother

theorem unrefusing_setCanonicalDomain (hvalid : isValidHostname fqdn = true) :
    Unrefusing zone (setCanonicalDomain api fqdn) := by
  unfold setCanonicalDomain assertValidHostname
  simp only [normalizeHostname_valid hvalid, hvalid, if_true]
  refine Unrefusing.bind (unrefusing_pure ()) fun _ => ?_
  refine Unrefusing.bind (Yields.unrefusing fun w => yields_getDomainConfig api) fun found => ?_
  refine Unrefusing.bind unrefusing_setSetting fun _ => ?_
  exact Unrefusing.bind unrefusing_setSetting fun _ => unrefusing_pure _

theorem unrefusing_verifyAndFlip {tunnel : TunnelState} (hvalid : isValidHostname fqdn = true) :
    Unrefusing zone (verifyAndFlip api config fqdn record tunnel) := by
  refine Unrefusing.bind unrefusing_verifyDomain fun verification => ?_
  split
  · exact unrefusing_pure _
  · exact Unrefusing.bind (unrefusing_setCanonicalDomain hvalid) fun _ => unrefusing_pure _

/-! ## The route -/

theorem ends_tunnelRules {r : Except Thrown (List TunnelIngressRule)}
    (hends : Ends (edged zone) (tunnelRules accountId tunnelId) w r w') :
    w' = w ∧ ((∃ rules, w.ingress accountId tunnelId = some rules ∧ r = .ok rules) ∨ IsOther r) := by
  obtain ⟨rules, rfl, hasked⟩ | ⟨e, w₂, hasked, hcaught⟩ := hends.of_tryCatch
  · exact ends_perform.mp hasked
  · obtain ⟨rfl, ⟨rules, -, ⟨⟩⟩ | ⟨message, ⟨⟩⟩⟩ := ends_perform.mp hasked
    obtain ⟨rfl, rfl⟩ := ends_raise.mp hcaught
    exact ⟨rfl, .inr ⟨message, rfl⟩⟩

theorem noRoute_of_refused {message : String} (hvalid : isValidHostname fqdn = true)
    (hends : Ends (edged zone) (afterWrite api env body config fqdn record) w (.error (refusal message)) w') :
    w' = w ∧ ∃ accountId tunnelId rules, present (w.cloudflare env).accountId = some accountId ∧
      present (w.cloudflare env).tunnelId = some tunnelId ∧ w.ingress accountId tunnelId = some rules ∧
        NoRoute api config body.service rules := by
  -- To verify and to flip refuses nothing, so that the route has.
  obtain ⟨tunnel, w₁, -, hflip⟩ | ⟨e, ⟨⟩, hroute⟩ := hends.of_bind
  · obtain ⟨result, ⟨⟩⟩ | ⟨other, ⟨⟩⟩ := unrefusing_verifyAndFlip hvalid w₁ _ w' hflip
  obtain ⟨⟨other, ⟨⟩⟩, -⟩ | hfound := (yields_getCloudflareConfig env).ends_bind hroute
  cases haccount : present (w.cloudflare env).accountId with
  | none =>
      simp only [haccount] at hfound
      cases (ends_pure.mp hfound).1
  | some accountId =>
      cases htunnel : present (w.cloudflare env).tunnelId with
      | none =>
          simp only [haccount, htunnel] at hfound
          cases (ends_pure.mp hfound).1
      | some tunnelId =>
          simp only [haccount, htunnel] at hfound
          obtain ⟨rules, w₁, hrules, hservice⟩ | ⟨e, ⟨⟩, hfailed⟩ := hfound.of_bind
          swap
          · obtain ⟨-, ⟨rules, -, ⟨⟩⟩ | ⟨other, ⟨⟩⟩⟩ := ends_tunnelRules hfailed
          obtain ⟨rfl, ⟨rules', hingress, ⟨⟩⟩ | ⟨other, ⟨⟩⟩⟩ := ends_tunnelRules hrules
          refine (?_ : w' = w₁ ∧ NoRoute api config body.service rules).imp_right fun hnoRoute =>
            ⟨accountId, tunnelId, rules, rfl, rfl, hingress, hnoRoute⟩
          unfold NoRoute
          cases hwrong : (present (body.service.map trim)).bind serviceError with
          | some wrong =>
              simp only [hwrong] at hservice
              exact ⟨(ends_raise.mp (hservice : Ends _ (.raise (refusal wrong)) _ _ _)).2, .inl (Option.some_ne_none _)⟩
          | none =>
              simp only [hwrong] at hservice
              obtain ⟨target, -, hrest⟩ | ⟨hnone, -, rfl⟩ :=
                ends_orRaise (hservice : Ends _ (Prog.orRaise _ _ >>= _) _ _ _)
              · split at hrest
                · obtain ⟨⟨⟩, w₂, -, hrest⟩ | ⟨e, ⟨⟩, hput⟩ := hrest.of_bind
                  · cases (ends_pure.mp hrest).1
                  · obtain ⟨a, ⟨⟩⟩ | ⟨other, ⟨⟩⟩ := unrefusing_putTunnelIngress w₁ _ w' hput
                · cases (ends_pure.mp hrest).1
              · exact ⟨rfl, .inr hnone⟩

theorem refused_of_noRoute (haccount : present (w.cloudflare env).accountId = some accountId)
    (htunnel : present (w.cloudflare env).tunnelId = some tunnelId) (hingress : w.ingress accountId tunnelId = some rules)
    (hnoRoute : NoRoute api config body.service rules) :
    ∃ message, Ends (edged zone) (afterWrite api env body config fqdn record) w (.error (refusal message)) w := by
  have hrules : Ends (edged zone) (tunnelRules accountId tunnelId) w (.ok rules) w :=
    Ends.tryCatch_ok (ends_perform.mpr ⟨rfl, .inl ⟨rules, hingress, rfl⟩⟩)
  suffices hroute : ∃ message,
      Ends (edged zone) (routeTunnel api env config fqdn body.service) w (.error (refusal message)) w from
    hroute.imp fun message hroute => Ends.bind_error hroute
  unfold NoRoute at hnoRoute
  cases hwrong : (present (body.service.map trim)).bind serviceError with
  | some wrong =>
      refine ⟨wrong, Ends.bind (yields_getCloudflareConfig env).ends ?_⟩
      simp only [haccount, htunnel]
      refine Ends.bind hrules ?_
      rw [hwrong]
      exact .raise
  | none =>
      rw [hwrong] at hnoRoute
      refine ⟨noService, Ends.bind (yields_getCloudflareConfig env).ends ?_⟩
      simp only [haccount, htunnel]
      refine Ends.bind hrules ?_
      rw [hwrong, hnoRoute.resolve_left (fun h => h rfl)]
      exact .raise

end refusals

/-- **A refused switch has no effect**, exactly if it is not refused late. -/
theorem refused_switch_iff (api : TextApi) (env : Environment) (zone : Text) (body : SwitchDomainInput) (w : Edge) :
    (∀ message w', Ends (edged zone) (performDomainSwitch api env body) w (.error (refusal message)) w' →
      w'.records = w.records ∧ w'.ingress = w.ingress ∧ w'.settings = w.settings) ↔
        ¬ w.RefusedLate api env zone body := by
  constructor
  · rintro hkept ⟨c, accountId, tunnelId, rules, hpublishes, halters, haccount, htunnel, hingress, hnoRoute⟩
    obtain ⟨record, w₁, hwrites⟩ := exists_write api zone (qualifyName api body.name zone) body.proxied c w
    obtain ⟨hsettings, hrules, -⟩ := hwrites.frame
    have hcloudflare : w₁.cloudflare env = w.cloudflare env := by
      unfold Edge.cloudflare
      rw [hsettings]
    rw [← hcloudflare] at haccount htunnel
    rw [← hrules] at hingress
    obtain ⟨message, hafter⟩ := refused_of_noRoute haccount htunnel hingress hnoRoute
    -- The write has been made, and the refusal comes after it.
    have hsame := (hkept message w₁ (ends_switch hpublishes hwrites hafter)).1
    exact hwrites.records_eq.mp hsame halters
  · intro hnever message w' hends
    obtain ⟨-, rfl⟩ | ⟨c, record, w₁, hpublishes, hwrites, ⟨⟨other, ⟨⟩⟩, -⟩ | hafter⟩ := performDomainSwitch_cases hends
    · exact ⟨rfl, rfl, rfl⟩
    obtain ⟨hsettings, hrules, -⟩ := hwrites.frame
    obtain ⟨rfl, accountId, tunnelId, rules, haccount, htunnel, hingress, hnoRoute⟩ :=
      noRoute_of_refused hpublishes.valid hafter
    have hcloudflare : w'.cloudflare env = w.cloudflare env := by
      unfold Edge.cloudflare
      rw [hsettings]
    rw [hcloudflare] at haccount htunnel
    rw [hrules] at hingress
    refine ⟨hwrites.records_eq.mpr fun halters => hnever ?_, hrules, hsettings⟩
    exact ⟨c, accountId, tunnelId, rules, hpublishes, halters, haccount, htunnel, hingress, hnoRoute⟩

/-! ## A sample -/

def schemelessInput : SwitchDomainInput where
  name := "app".toList
  target := some "203.0.113.20".toList
  recordType := none
  copyFrom := none
  proxied := none
  service := some "localhost:8080".toList

def emptyEdge : Edge where
  settings
    | .cloudflareZoneId => some "zone-1".toList
    | .cloudflareAccountId => some "account-1".toList
    | .cloudflareTunnelId => some "tunnel-1".toList
    | _ => none
  records := Table.empty
  ingress _ _ := some []
  writes := 0

/-- The record of a name whose service is refused stays. -/
theorem refusal_keeps_record :
    ¬ ∀ (api : TextApi) (env : Environment) (zone : Text) (body : SwitchDomainInput) (w : Edge) (message : String)
      (w' : Edge), Ends (edged zone) (performDomainSwitch api env body) w (.error (refusal message)) w' →
        w'.records = w.records ∧ w'.ingress = w.ingress ∧ w'.settings = w.settings := by
  intro hlaw
  have hpublishes : emptyEdge.Publishes asciiApi noEnvironment sampleZone schemelessInput
      ⟨"203.0.113.20".toList, typeA, none⟩ := ⟨by decide +kernel, by decide +kernel, by decide +kernel⟩
  obtain ⟨record, w₁, hwrites⟩ := exists_write asciiApi sampleZone "app.example.com".toList none
    ⟨"203.0.113.20".toList, typeA, none⟩ emptyEdge
  obtain ⟨hsettings, hrules, -⟩ := hwrites.frame
  have hcloudflare : w₁.cloudflare noEnvironment = emptyEdge.cloudflare noEnvironment := by
    unfold Edge.cloudflare
    rw [hsettings]
  have hnoRoute : NoRoute asciiApi (emptyEdge.domains asciiApi) schemelessInput.service [] := .inl (by decide +kernel)
  obtain ⟨message, hafter⟩ : ∃ message, Ends (edged sampleZone)
      (afterWrite asciiApi noEnvironment schemelessInput (emptyEdge.domains asciiApi) "app.example.com".toList record)
      w₁ (.error (refusal message)) w₁ :=
    refused_of_noRoute (by rw [hcloudflare]; rfl) (by rw [hcloudflare]; rfl) (by rw [hrules]; rfl) hnoRoute
  have hsame := hlaw _ _ _ _ _ _ _ (ends_switch hpublishes hwrites hafter)
  refine hwrites.records_eq.mp hsame.1 ?_
  rintro _ ⟨⟩

end ProxVM.Domains
