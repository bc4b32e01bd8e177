import ProxVM.Domains.Rotation
import ProxVM.Lib.Table

/-!
# The zone of the canonical domain

A name that is asked for with a dot is taken as it is, whatever zone it is in.  Cloudflare, asked for a record
whose name is not in its zone, appends the name of the zone.
-/

namespace ProxVM.Domains

open Tables Interaction

/-! ## Cloudflare -/

def InZone (zone name : Text) : Prop := name = zone ∨ ('.' :: zone) <:+ name

instance (zone name : Text) : Decidable (InZone zone name) := inferInstanceAs (Decidable (_ ∨ _))

def storedName (zone name : Text) : Text := if InZone zone name then name else name ++ '.' :: zone

structure Cloud where
  settings : Settings
  records : Table DnsRecord.id

def Cloud.set (w : Cloud) (key : SettingKey) (value : Text) : Cloud :=
  { w with settings := Function.update w.settings key (some value) }

theorem Cloud.set_settings (w : Cloud) (key : SettingKey) (value : Text) :
    (w.set key value).settings = Function.update w.settings key (some value) := rfl

def Cloud.Updates (w : Cloud) (id content : Text) (proxied : Bool) (record : DnsRecord) (w' : Cloud) : Prop :=
  ∃ old ∈ w.records, old.id = id ∧ record = { old with content, proxied } ∧
    w' = { w with
      records := w.records.updateWhere (fun r => decide (r.id = id)) (fun r => { r with content, proxied }) fun _ => rfl }

def Cloud.Creates (zone : Text) (w : Cloud) (type name content : Text) (proxied : Bool) (record : DnsRecord) (w' : Cloud) :
    Prop :=
  ∃ id records, record = ⟨id, type, storedName zone name, content, proxied⟩ ∧ w.records.insert? record = some records ∧
    w' = { w with records := records }

def zoned (zone : Text) : Service calls Thrown Cloud
  | .getSetting key, w, r, w' => w' = w ∧ ∀ value, r = .ok value → value = w.settings key
  | .setSetting key value, w, r, w' => w' = w.set key value ∨ ((∃ e, r = .error e) ∧ w' = w)
  | .getZone _, w, r, w' => w' = w ∧ ∀ found, r = .ok found → found.name = zone
  | .listDnsRecords _, w, r, w' => w' = w ∧ ∀ rows, r = .ok rows → ∀ record ∈ rows, record ∈ w.records
  | .updateDnsRecord _ id content proxied, w, r, w' =>
      (∃ record, w.Updates id content proxied record w' ∧ ∀ reply, r = .ok reply → reply = record) ∨
        ((∃ e, r = .error e) ∧ w' = w)
  | .createDnsRecord _ type name content proxied, w, r, w' =>
      (∃ record, w.Creates zone type name content proxied record w' ∧ ∀ reply, r = .ok reply → reply = record) ∨
        ((∃ e, r = .error e) ∧ w' = w)
  | _, w, _, w' => w' = w

/-! ## Names that stay -/

def NameStays (api : TextApi) (zone name : Text) : Prop :=
  api.lower (trim name) = ['@'] ∨ '.' ∉ api.lower (trim name) ∨
    InZone zone (normalizeHostname api (api.lower (trim name)))

instance (api : TextApi) (zone name : Text) : Decidable (NameStays api zone name) :=
  inferInstanceAs (Decidable (_ ∨ _ ∨ _))

section names

variable {api : TextApi} {zone name fqdn : Text}

theorem inZone_qualifyName : InZone zone (qualifyName api name zone) ↔ NameStays api zone name := by
  unfold qualifyName NameStays
  simp only
  by_cases hapex : api.lower (trim name) = ['@']
  · rw [if_pos hapex]
    exact ⟨fun _ => .inl hapex, fun _ => .inl rfl⟩
  · rw [if_neg hapex]
    by_cases hdot : '.' ∈ api.lower (trim name)
    · rw [if_pos hdot]
      constructor
      · exact fun hzone => .inr (.inr hzone)
      · rintro (h | h | h)
        · exact absurd h hapex
        · exact absurd hdot h
        · exact h
    · rw [if_neg hdot]
      exact ⟨fun _ => .inr (.inl hdot), fun _ => .inr (List.suffix_append _ _)⟩

theorem lower_valid (hvalid : isValidHostname fqdn = true) : api.lower fqdn = fqdn :=
  api.lower_plain fqdn (plain_of_isValidHostname hvalid)

end names

/-! ## The switch -/

def Call.Recordless : Call → Prop
  | .updateDnsRecord _ _ _ _ => False
  | .createDnsRecord _ _ _ _ _ => False
  | _ => True

section switch

variable {api : TextApi} {env : Environment} {zone fqdn : Text} {w w' : Cloud} {config : DomainConfig}

theorem recordless_keeps {c : Call} {r : Except Thrown c.Reply} (hc : c.Recordless) (hserve : zoned zone c w r w') :
    w'.records = w.records := by
  cases c with
  | updateDnsRecord _ _ _ _ => exact hc.elim
  | createDnsRecord _ _ _ _ _ => exact hc.elim
  | setSetting key value =>
      obtain rfl | ⟨-, rfl⟩ := hserve
      · rfl
      · rfl
  | getSetting _ => rw [hserve.1]
  | getZone _ => rw [hserve.1]
  | listDnsRecords _ => rw [hserve.1]
  | _ =>
      obtain rfl : w' = w := hserve
      rfl

variable {α : Type} {record : DnsRecord} {records : List DnsRecord}

variable {p : Task α} {r : Except Thrown α}

theorem records_of_recordless
    (hp : Only (F := calls) Call.Recordless p) (hends : Ends (zoned zone) p w r w') : w'.records = w.records := by
  refine hends.keeps (I := fun w' => w'.records = w.records) hp ?_ rfl
  exact fun c w₁ r w₂ hc hkept hserve => (recordless_keeps hc hserve).trans hkept

theorem recordless_of_passive (c : Call) (hc : c.Passive) : c.Recordless := by
  cases c with
  | updateDnsRecord _ _ _ _ => exact hc
  | createDnsRecord _ _ _ _ _ => exact hc
  | _ => trivial

theorem records_of_passive (hp : Only (F := calls) Call.Passive p)
    (hends : Ends (zoned zone) p w r w') : w'.records = w.records :=
  records_of_recordless (hp.mono recordless_of_passive) hends

theorem recordless_setCanonicalDomain {rawHost : Text} :
    Only (F := calls) Call.Recordless (setCanonicalDomain api rawHost) := by
  refine Only.bind (passive_checked.mono recordless_of_passive) fun _ => ?_
  refine Only.bind (passive_getDomainConfig.mono recordless_of_passive) fun found => ?_
  exact Only.bind (only_perform.mpr trivial) fun _ => Only.bind (only_perform.mpr trivial) fun _ => trivial

theorem flips_verified {tunnel : TunnelState} {result : SwitchDomainResult}
    (hvalid : isValidHostname fqdn = true)
    (hends : Ends (zoned zone) (verifyAndFlip api config fqdn record tunnel) w (.ok result) w')
    (hflipped : result.flipped = true) :
    w'.settings .canonicalDomain = some fqdn ∧ w'.records = w.records ∧ result.record = record := by
  obtain ⟨verification, w₁, hverify, hrest⟩ := hends.of_bind_ok
  obtain rfl : w₁ = w := ends_perform.mp hverify
  split at hrest
  · obtain ⟨rfl, -⟩ := hrest.of_pure_ok
    cases hflipped
  · obtain ⟨updated, w₂, hset, hlast⟩ := hrest.of_bind_ok
    obtain ⟨rfl, rfl⟩ := hlast.of_pure_ok
    refine ⟨?_, records_of_recordless recordless_setCanonicalDomain hset, rfl⟩
    obtain ⟨_, w₃, hcheck, hset⟩ := hset.of_bind_ok
    obtain ⟨found, w₄, hread, hset⟩ := hset.of_bind_ok
    obtain ⟨_, w₅, hcanonical, hset⟩ := hset.of_bind_ok
    obtain ⟨_, w₆, haliases, hset⟩ := hset.of_bind_ok
    obtain ⟨-, rfl⟩ := hset.of_pure_ok
    obtain rfl | ⟨⟨e, he⟩, -⟩ := ends_perform.mp hcanonical
    · obtain rfl | ⟨⟨e, he⟩, -⟩ := ends_perform.mp haliases
      · rw [Cloud.set_settings, Cloud.set_settings, Function.update_of_ne (by decide), Function.update_self,
          normalizeHostname_valid hvalid]
      · cases he
    · cases he

def Written (api : TextApi) (zone fqdn : Text) (w : Cloud) (record : DnsRecord) : Prop :=
  record ∈ w.records ∧ (api.lower record.name = fqdn ∨ record.name = storedName zone fqdn)

theorem written_writeRecord {zoneId target type : Text} {template : Option DnsRecord}
    {proxied : Option Bool} (hrecords : ∀ record ∈ records, record ∈ w.records)
    (hends : Ends (zoned zone) (writeRecord api zoneId fqdn target type records template proxied) w (.ok record) w') :
    Written api zone fqdn w' record := by
  unfold writeRecord at hends
  split at hends
  · next existing hfind =>
      obtain ⟨record', ⟨old, hold, hid, rfl, rfl⟩, hreply⟩ | ⟨⟨e, he⟩, -⟩ := ends_perform.mp hends
      · obtain rfl := hreply record rfl
        have hexisting : existing ∈ w.records := hrecords existing (List.mem_of_find?_eq_some hfind)
        obtain rfl : old = existing := Table.eq_of_key_eq hold hexisting hid
        refine ⟨?_, .inl ?_⟩
        · rw [Table.mem_updateWhere]
          exact ⟨old, hold, (if_pos (decide_eq_true rfl)).symm⟩
        · exact (of_decide_eq_true (List.find?_some hfind :)).1
      · cases he
  · obtain ⟨record', ⟨id, records', rfl, hinsert, rfl⟩, hreply⟩ | ⟨⟨e, he⟩, -⟩ := ends_perform.mp hends
    · obtain rfl := hreply record rfl
      exact ⟨((Table.insert?_eq_some hinsert).2 _).mpr (.inr rfl), .inr rfl⟩
    · cases he

theorem written_writeTarget {body : SwitchDomainInput} {zoneId : Text}
    (hrecords : ∀ record ∈ records, record ∈ w.records)
    (hends : Ends (zoned zone) (writeTarget api body zoneId fqdn records config) w (.ok record) w') :
    Written api zone fqdn w' record := by
  obtain ⟨template, w₁, htemplate, hends⟩ := hends.of_bind_ok
  obtain ⟨target, w₂, htarget, hends⟩ := hends.of_bind_ok
  obtain ⟨_, w₃, hrefuse, hends⟩ := hends.of_bind_ok
  have hkept : w₃.records = w.records := by
    rw [records_of_passive passive_refuseIf hrefuse, records_of_recordless only_orRaise htarget,
      records_of_passive passive_templateOf htemplate]
  refine written_writeRecord ?_ hends
  rw [hkept]
  exact hrecords

end switch

/-- **The zone is left exactly by a name that does not stay in it.** -/
theorem stays_in_zone_iff (api : TextApi) (env : Environment) (zone : Text) (body : SwitchDomainInput) (w w' : Cloud)
    (result : SwitchDomainResult) (hends : Ends (zoned zone) (performDomainSwitch api env body) w (.ok result) w')
    (hflipped : result.flipped = true) :
    (∃ name, w'.settings .canonicalDomain = some name ∧ InZone zone name ∧
      result.record ∈ w'.records ∧ api.lower result.record.name = name) ↔ NameStays api zone body.name := by
  obtain ⟨cf, w₁, hcf, hends⟩ := hends.of_bind_ok
  obtain ⟨cfZoneId, w₂, hzoneId, hends⟩ := hends.of_bind_ok
  obtain ⟨_, w₃, hclient, hends⟩ := hends.of_bind_ok
  obtain ⟨found, w₄, hzone, hends⟩ := hends.of_bind_ok
  obtain ⟨-, hname⟩ := ends_perform.mp hzone
  obtain rfl : found.name = zone := hname found rfl
  obtain ⟨_, w₅, hcheck, hends⟩ := hends.of_bind_ok
  obtain ⟨records, w₆, hlist, hends⟩ := hends.of_bind_ok
  obtain ⟨configured, w₇, hconfig, hends⟩ := hends.of_bind_ok
  obtain ⟨record, w₈, hwrite, hends⟩ := hends.of_bind_ok
  obtain ⟨tunnel, w₉, hroute, hflip⟩ := hends.of_bind_ok
  have hvalid : isValidHostname (qualifyName api body.name found.name) = true := by
    unfold assertValidHostname at hcheck
    by_contra hinvalid
    rw [if_neg hinvalid] at hcheck
    cases (ends_raise.mp (hcheck : Ends _ (.raise _) _ _ _)).1
  obtain ⟨rfl, hlisted⟩ := ends_perform.mp hlist
  have hwritten : Written api found.name (qualifyName api body.name found.name) w₈ record := by
    refine written_writeTarget ?_ hwrite
    rw [records_of_passive passive_getDomainConfig hconfig]
    exact hlisted records rfl
  obtain ⟨hcanonical, hrecords, hrecord⟩ := flips_verified hvalid hflip hflipped
  have hmem : result.record ∈ w'.records := by
    rw [hrecord, hrecords, records_of_passive passive_routeTunnel hroute]
    exact hwritten.1
  rw [← inZone_qualifyName]
  constructor
  · rintro ⟨name, hname, hin, -⟩
    rwa [Option.some.inj (hcanonical.symm.trans hname)]
  · intro hin
    refine ⟨_, hcanonical, hin, hmem, ?_⟩
    rw [hrecord]
    obtain hsame | hstored := hwritten.2
    · exact hsame
    · rw [hstored, storedName, if_pos hin, lower_valid hvalid]

/-! ## Samples -/

def cloudAnswer (zone : Text) : (c : Call) → Cloud → Option (Except Thrown c.Reply × Cloud)
  | .getSetting key, w => some (.ok (w.settings key), w)
  | .setSetting key value, w => some (.ok (), w.set key value)
  | .getCloudflareClient, w => some (.ok (), w)
  | .getZone zoneId, w => some (.ok ⟨zoneId, zone⟩, w)
  | .listDnsRecords _, w => some (.ok w.records.rows, w)
  | .createDnsRecord _ type name content proxied, w =>
      let record : DnsRecord := ⟨"created".toList, type, storedName zone name, content, proxied⟩
      (w.records.insert? record).map fun records => (.ok record, { w with records := records })
  | .verifyDomain _, w => some (.ok ⟨true, true, "ok"⟩, w)
  | _, _ => none

theorem zoned_cloudAnswer {zone : Text} (c : Call) (w : Cloud) (r : Except Thrown c.Reply) (w' : Cloud)
    (hanswer : cloudAnswer zone c w = some (r, w')) : zoned zone c w r w' := by
  cases c with
  | getSetting key =>
      cases hanswer
      exact ⟨rfl, fun value h => (Except.ok.inj h).symm⟩
  | setSetting key value =>
      cases hanswer
      exact .inl rfl
  | getZone zoneId =>
      cases hanswer
      refine ⟨rfl, fun found h => ?_⟩
      rw [← Except.ok.inj h]
  | listDnsRecords zoneId =>
      cases hanswer
      refine ⟨rfl, fun rows h record hrecord => ?_⟩
      rw [← Except.ok.inj h] at hrecord
      exact hrecord
  | createDnsRecord zoneId type name content proxied =>
      obtain ⟨records, hinsert, heq⟩ := Option.map_eq_some_iff.mp hanswer
      cases heq
      exact .inl ⟨_, ⟨_, records, rfl, hinsert, rfl⟩, fun reply h => (Except.ok.inj h).symm⟩
  | getCloudflareClient =>
      cases hanswer
      exact (rfl : _ = _)
  | verifyDomain fqdn =>
      cases hanswer
      exact (rfl : _ = _)
  | _ => cases hanswer

def sampleZone : Text := "example.com".toList

def noEnvironment : Environment := ⟨none, none, none, none⟩

def apexRecord : DnsRecord := ⟨"apex".toList, typeA, sampleZone, "203.0.113.10".toList, true⟩

def apexCloud : Cloud where
  settings
    | .canonicalDomain => some sampleZone
    | .cloudflareZoneId => some "zone-1".toList
    | _ => none
  records := ⟨[apexRecord], by decide⟩

def switchedCloud (name : Text) : Cloud :=
  (drive (cloudAnswer sampleZone) 30 (performDomainSwitch asciiApi noEnvironment (rotateInput name apexRecord), apexCloud)).2

def switchedResult (fqdn : Text) : SwitchDomainResult where
  flipped := true
  fqdn := fqdn
  record := ⟨"created".toList, typeA, storedName sampleZone fqdn, "203.0.113.10".toList, true⟩
  tunnel := ⟨false, false, none⟩
  verification := ⟨true, true, "ok"⟩
  canonical := some fqdn
  aliases := [sampleZone]
  abortReason := none

theorem stays_in_zone_iff_sample : ∃ name, (switchedCloud "app".toList).settings .canonicalDomain = some name ∧
    InZone sampleZone name ∧ (switchedResult "app.example.com".toList).record ∈ (switchedCloud "app".toList).records ∧
      asciiApi.lower (switchedResult "app.example.com".toList).record.name = name := by
  have hends : Ends (zoned sampleZone) (performDomainSwitch asciiApi noEnvironment (rotateInput "app".toList apexRecord))
      apexCloud (.ok (switchedResult "app.example.com".toList)) (switchedCloud "app".toList) :=
    ends_of_result zoned_cloudAnswer 30 (by decide +kernel)
  exact (stays_in_zone_iff asciiApi noEnvironment sampleZone _ apexCloud _ _ hends rfl).mpr (by decide +kernel)

/-- The next name of the apex leaves the zone. -/
theorem apex_leaves_zone :
    nextRotatedHostname asciiApi sampleZone [sampleZone] autoRotateMaxCandidates = some "example2.com".toList ∧
      ¬ ∀ (api : TextApi) (env : Environment) (zone : Text) (body : SwitchDomainInput) (w w' : Cloud)
        (result : SwitchDomainResult), Ends (zoned zone) (performDomainSwitch api env body) w (.ok result) w' →
          result.flipped = true → ∃ name, w'.settings .canonicalDomain = some name ∧ InZone zone name ∧
            result.record ∈ w'.records ∧ api.lower result.record.name = name := by
  refine ⟨by decide +kernel, fun hlaw => ?_⟩
  have hends : Ends (zoned sampleZone)
      (performDomainSwitch asciiApi noEnvironment (rotateInput "example2.com".toList apexRecord))
      apexCloud (.ok (switchedResult "example2.com".toList)) (switchedCloud "example2.com".toList) :=
    ends_of_result zoned_cloudAnswer 30 (by decide +kernel)
  obtain ⟨name, hname, hin, -⟩ := hlaw _ _ _ _ _ _ _ hends rfl
  have hcanonical : (switchedCloud "example2.com".toList).settings .canonicalDomain = some "example2.com".toList := by
    decide +kernel
  obtain rfl := Option.some.inj (hname.symm.trans hcanonical)
  exact absurd hin (by decide +kernel)

end ProxVM.Domains
