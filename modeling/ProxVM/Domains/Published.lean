import ProxVM.Domains.Refusals

/-!
# The record that is published

A target is checked for the type that is asked for.  A record that is updated keeps its own type, and one beyond the
first hundred is not seen at all.

- `private_address_published`: a private address that is checked as a hostname goes into an `A` record.
-/

namespace ProxVM.Domains

open Tables Interaction

/-! ## Addresses and names -/

def IsOctet (part : Text) : Prop := ∃ n, n < 256 ∧ part = (toString n).toList

def IsIpv4 (text : Text) : Prop := ∃ parts, parts.length = 4 ∧ (∀ part ∈ parts, IsOctet part) ∧
  text = ['.'].intercalate parts

def IsGroup (part : Text) : Prop := (1 ≤ part.length ∧ part.length ≤ 4) ∧ ∀ c ∈ part, isHexOrColon c = true ∧ c ≠ ':'

def SpansGroups (n : Nat) (text : Text) : Prop :=
  ∃ groups : List Text, (∀ g ∈ groups, IsGroup g) ∧
    ((n = groups.length ∧ text = [':'].intercalate groups) ∨
      ∃ v4, IsIpv4 v4 ∧ n = groups.length + 2 ∧ text = [':'].intercalate (groups ++ [v4]))

def IsIpv6 (text : Text) : Prop :=
  SpansGroups 8 text ∨
    ∃ (front : List Text) (n : Nat) (rest : Text), (∀ g ∈ front, IsGroup g) ∧ SpansGroups n rest ∧
      front.length + n ≤ 7 ∧ text = [':'].intercalate front ++ "::".toList ++ rest

def IsNameLabel (label : Text) : Prop :=
  (1 ≤ label.length ∧ label.length ≤ 63) ∧ (∀ c ∈ label, isLetterOrDigit c = true ∨ c = '-') ∧
    label.head? ≠ some '-' ∧ label.getLast? ≠ some '-'

def IsName (text : Text) : Prop :=
  text.length ≤ 253 ∧ ∃ labels, (∀ label ∈ labels, IsNameLabel label) ∧
    (∃ last, labels.getLast? = some last ∧ ∃ c ∈ last, isDigit c = false) ∧
      (text = ['.'].intercalate labels ∨ text = ['.'].intercalate labels ++ ['.'])

def WellFormed (type content : Text) : Prop :=
  (type = typeA ∧ IsIpv4 content) ∨ (type = typeAAAA ∧ IsIpv6 content) ∨ (type = typeCNAME ∧ IsName content)

/-- An address of `10/8`, `127/8`, `0/8`, `172.16/12`, `192.168/16` or `169.254/16`. -/
def IsPrivateIpv4 (text : Text) : Prop :=
  ∃ (a b : Nat) (rest : Text), text = (toString a).toList ++ '.' :: (toString b).toList ++ '.' :: rest ∧
    (a = 10 ∨ a = 127 ∨ a = 0 ∨ (a = 172 ∧ 16 ≤ b ∧ b ≤ 31) ∨ (a = 192 ∧ b = 168) ∨ (a = 169 ∧ b = 254))

def Admissible (type content : Text) : Prop := WellFormed type content ∧ (type = typeA → ¬ IsPrivateIpv4 content)

/-! ## The address records of a name -/

def AddressOf (api : TextApi) (fqdn : Text) (record : DnsRecord) : Prop :=
  api.lower record.name = fqdn ∧ record.type ∈ [typeA, typeAAAA, typeCNAME]

instance (api : TextApi) (fqdn : Text) (record : DnsRecord) : Decidable (AddressOf api fqdn record) :=
  inferInstanceAs (Decidable (_ ∧ _))

def HoldsOne (api : TextApi) (fqdn target : Text) (records : Table DnsRecord.id) : Prop :=
  ∃ record ∈ records, AddressOf api fqdn record ∧ (∀ r ∈ records, AddressOf api fqdn r → r = record) ∧
    record.content = target ∧ Admissible record.type target

def CreatesAddress (api : TextApi) (zone fqdn type : Text) : Prop :=
  api.lower (storedName zone fqdn) = fqdn ∧ type ∈ [typeA, typeAAAA, typeCNAME]

/-- The record that is found is the only one and the target suits it; or there is none, and what is checked is an
address or a name; or the new record is no address record of the name, and the one there is, unseen, is right. -/
def Edge.Sound (api : TextApi) (zone fqdn : Text) (c : Choice) (w : Edge) : Prop :=
  match existingRecord api fqdn w.listed with
  | some old => (∀ r ∈ w.records, AddressOf api fqdn r → r = old) ∧ Admissible old.type c.target
  | none =>
      (CreatesAddress api zone fqdn c.type ∧ (∀ r ∈ w.records, ¬ AddressOf api fqdn r) ∧ WellFormed c.type c.target) ∨
        (¬ CreatesAddress api zone fqdn c.type ∧ HoldsOne api fqdn c.target w.records)

section published

variable {api : TextApi} {env : Environment} {zone fqdn target : Text} {body : SwitchDomainInput} {w w₁ w' : Edge}
  {proxied : Option Bool} {c : Choice} {record : DnsRecord} {config : DomainConfig}

/-! ## Private addresses -/

theorem isPrefixOf_append {p q rest : Text} (hsame : p = q) : p.isPrefixOf (q ++ rest) = true := by
  rw [hsame, List.isPrefixOf_iff_prefix]
  exact List.prefix_append q rest

theorem isPrivateTarget_of_private (hprivate : IsPrivateIpv4 target) : isPrivateTarget target = true := by
  obtain ⟨a, b, rest, rfl, hnet⟩ := hprivate
  unfold isPrivateTarget
  rw [Bool.or_eq_true, List.any_eq_true, List.any_eq_true]
  have hfirst : (toString a).toList ++ '.' :: (toString b).toList ++ '.' :: rest =
      ((toString a).toList ++ ['.']) ++ ((toString b).toList ++ '.' :: rest) := by
    simp only [List.append_assoc, List.cons_append, List.nil_append]
  have hboth : (toString a).toList ++ '.' :: (toString b).toList ++ '.' :: rest =
      ((toString a).toList ++ '.' :: (toString b).toList ++ ['.']) ++ rest := by
    simp only [List.append_assoc, List.cons_append, List.nil_append]
  -- Three networks are known by the first number, the others by two.
  obtain rfl | rfl | rfl | ⟨rfl, hlow, hhigh⟩ | ⟨rfl, rfl⟩ | ⟨rfl, rfl⟩ := hnet
  · refine .inl ⟨"10.", by decide, ?_⟩
    rw [hfirst]
    exact isPrefixOf_append (by decide)
  · refine .inl ⟨"127.", by decide, ?_⟩
    rw [hfirst]
    exact isPrefixOf_append (by decide)
  · refine .inl ⟨"0.", by decide, ?_⟩
    rw [hfirst]
    exact isPrefixOf_append (by decide)
  · refine .inr ⟨b - 16, List.mem_range.mpr (by omega), ?_⟩
    rw [hboth]
    refine isPrefixOf_append ?_
    rw [String.toList_append, String.toList_append, Nat.add_sub_cancel' hlow]
    rfl
  · refine .inl ⟨"192.168.", by decide, ?_⟩
    rw [hboth]
    exact isPrefixOf_append (by decide)
  · refine .inl ⟨"169.254.", by decide, ?_⟩
    rw [hboth]
    exact isPrefixOf_append (by decide)

/-- **A target that is checked as that of an `A` record** is no private address. -/
theorem public_of_checked (hchecked : targetError typeA target = none) : ¬ IsPrivateIpv4 target := by
  intro hprivate
  unfold targetError at hchecked
  split at hchecked
  · cases hchecked
  · split at hchecked
    · cases hchecked
    · rw [if_pos ⟨rfl, isPrivateTarget_of_private hprivate⟩] at hchecked
      cases hchecked

theorem checked_of_chosen {records : List DnsRecord} (hchosen : chosen api body records config = .ok c) :
    targetError c.type c.target = none := by
  unfold chosen at hchosen
  split at hchosen
  · cases hchosen
  · split at hchosen
    · cases hchosen
    · split at hchosen
      · cases hchosen
      · next hnone =>
          cases hchosen
          exact hnone

/-! ## What a write leaves -/

theorem addressOf_of_existing (hfind : existingRecord api fqdn w.listed = some record) : AddressOf api fqdn record :=
  of_decide_eq_true (List.find?_some hfind :)

theorem holdsOne_update {proxied : Bool} (hmem : record ∈ w.records) (haddress : AddressOf api fqdn record) :
    HoldsOne api fqdn target (w.update record.id target proxied).records ↔
      (∀ r ∈ w.records, AddressOf api fqdn r → r = record) ∧ Admissible record.type target := by
  have hupdated : ∀ r, r ∈ (w.update record.id target proxied).records ↔ ∃ r₀ ∈ w.records,
      r = if decide (r₀.id = record.id) = true then { r₀ with content := target, proxied } else r₀ := by
    intro r
    rw [Edge.update, Table.mem_updateWhere]
  have hnew : { record with content := target, proxied } ∈ (w.update record.id target proxied).records :=
    (hupdated _).mpr ⟨record, hmem, (if_pos (decide_eq_true rfl)).symm⟩
  constructor
  · rintro ⟨found, -, -, honly, -, hadmissible⟩
    have hsame : { record with content := target, proxied } = found := honly _ hnew haddress
    refine ⟨fun r hr hraddress => ?_, ?_⟩
    -- Another address record of the name would be there beside the new one.
    · by_contra hne
      have hid : r.id ≠ record.id := fun hid => hne (Table.eq_of_key_eq hr hmem hid)
      have hkept : r ∈ (w.update record.id target proxied).records :=
        (hupdated r).mpr ⟨r, hr, (if_neg fun h => hid (of_decide_eq_true h)).symm⟩
      rw [honly r hkept hraddress, ← hsame] at hid
      exact hid rfl
    · rw [← hsame] at hadmissible
      exact hadmissible
  · rintro ⟨honly, hadmissible⟩
    refine ⟨_, hnew, haddress, fun r hr hraddress => ?_, rfl, hadmissible⟩
    obtain ⟨r₀, hr₀, rfl⟩ := (hupdated r).mp hr
    by_cases hid : r₀.id = record.id
    · obtain rfl := Table.eq_of_key_eq hr₀ hmem hid
      exact if_pos (decide_eq_true rfl)
    · rw [if_neg fun h => hid (of_decide_eq_true h)] at hraddress
      exact absurd (congrArg DnsRecord.id (honly r₀ hr₀ hraddress)) hid

variable {records : Table DnsRecord.id}

theorem holdsOne_insert (hinsert : w.records.insert? record = some records)
    (haddress : AddressOf api fqdn record) (hcontent : record.content = target) :
    HoldsOne api fqdn target records ↔
      (∀ r ∈ w.records, ¬ AddressOf api fqdn r) ∧ Admissible record.type target := by
  obtain ⟨hfresh, hmem⟩ := Table.insert?_eq_some hinsert
  constructor
  · rintro ⟨found, -, -, honly, -, hadmissible⟩
    obtain rfl : record = found := honly record ((hmem record).mpr (.inr rfl)) haddress
    refine ⟨fun r hr hraddress => ?_, hadmissible⟩
    obtain rfl := honly r ((hmem r).mpr (.inl hr)) hraddress
    exact hfresh r hr rfl
  · rintro ⟨hnone, hadmissible⟩
    refine ⟨record, (hmem record).mpr (.inr rfl), haddress, fun r hr hraddress => ?_, hcontent, hadmissible⟩
    exact ((hmem r).mp hr).resolve_left fun hold => hnone r hold hraddress

theorem holdsOne_insert_other (hinsert : w.records.insert? record = some records)
    (hother : ¬ AddressOf api fqdn record) :
    HoldsOne api fqdn target records ↔ HoldsOne api fqdn target w.records := by
  obtain ⟨-, hmem⟩ := Table.insert?_eq_some hinsert
  have hback : ∀ r, AddressOf api fqdn r → r ∈ records → r ∈ w.records := by
    intro r hraddress hr
    refine ((hmem r).mp hr).resolve_right ?_
    rintro rfl
    exact hother hraddress
  constructor
  · rintro ⟨found, hfound, haddress, honly, hrest⟩
    exact ⟨found, hback found haddress hfound, haddress, fun r hr => honly r ((hmem r).mpr (.inl hr)), hrest⟩
  · rintro ⟨found, hfound, haddress, honly, hrest⟩
    exact ⟨found, (hmem found).mpr (.inl hfound), haddress,
      fun r hr hraddress => honly r (hback r hraddress hr) hraddress, hrest⟩

/-- **A write is right** exactly if it is sound. -/
theorem Edge.Writes.holdsOne_iff (hwrites : w.Writes api zone fqdn proxied c record w')
    (hchecked : targetError c.type c.target = none) :
    HoldsOne api fqdn c.target w'.records ↔ w.Sound api zone fqdn c := by
  unfold Edge.Writes at hwrites
  unfold Edge.Sound
  cases hfind : existingRecord api fqdn w.listed with
  | some old =>
      rw [hfind] at hwrites
      rw [hwrites.2, holdsOne_update (existing_mem hfind) (addressOf_of_existing hfind)]
  | none =>
      rw [hfind] at hwrites
      obtain ⟨id, records, hrecord, hinsert, rfl⟩ := hwrites
      have haddress : AddressOf api fqdn record ↔ CreatesAddress api zone fqdn c.type := by
        rw [hrecord]
        exact Iff.rfl
      by_cases hcreates : CreatesAddress api zone fqdn c.type
      -- A new record has the type that was checked, so that nothing private comes in.
      · have hadmissible : Admissible c.type c.target ↔ WellFormed c.type c.target := by
          refine ⟨And.left, fun hwellFormed => ⟨hwellFormed, fun htype => ?_⟩⟩
          rw [htype] at hchecked
          exact public_of_checked hchecked
        refine (holdsOne_insert hinsert (haddress.mpr hcreates) (by rw [hrecord])).trans ?_
        simp only [hrecord, hcreates, not_true_eq_false, true_and, false_and, or_false, hadmissible]
      · refine (holdsOne_insert_other hinsert fun h => hcreates (haddress.mp h)).trans ?_
        simp only [hcreates, not_false_eq_true, true_and, false_and, false_or]

/-! ## What follows the write -/

theorem afterWrite_keeps {r : Except Thrown SwitchDomainResult}
    (hends : Ends (edged zone) (afterWrite api env body config fqdn record) w r w') :
    w'.records = w.records ∧ w'.writes = w.writes := by
  have hkeep : ∀ (call : Call) (w₁ : Edge) (r : Except Thrown call.Reply) (w₂ : Edge), call.Recordless →
      (w₁.records = w.records ∧ w₁.writes = w.writes) → edged zone call w₁ r w₂ →
        w₂.records = w.records ∧ w₂.writes = w.writes := by
    intro call w₁ r w₂ hcall hkept hserve
    cases call with
    | updateDnsRecord _ _ _ _ => exact hcall.elim
    | createDnsRecord _ _ _ _ _ => exact hcall.elim
    | setSetting key value =>
        obtain ⟨rfl, -⟩ | ⟨-, rfl⟩ := hserve
        · exact hkept
        · exact hkept
    | putTunnelIngress accountId tunnelId rules =>
        obtain ⟨rfl, -⟩ | ⟨-, rfl⟩ := hserve
        · exact hkept
        · exact hkept
    | getSetting _ => exact hserve.1 ▸ hkept
    | getZone _ => exact hserve.1 ▸ hkept
    | listDnsRecords _ => exact hserve.1 ▸ hkept
    | getTunnelIngress _ _ => exact hserve.1 ▸ hkept
    | verifyDomain _ => exact hserve.1 ▸ hkept
    | _ =>
        obtain rfl : w₂ = w₁ := hserve
        exact hkept
  refine hends.keeps (P := Call.Recordless) (I := fun w₁ => w₁.records = w.records ∧ w₁.writes = w.writes) ?_ hkeep
    ⟨rfl, rfl⟩
  refine Only.bind (passive_routeTunnel.mono recordless_of_passive) fun tunnel => ?_
  refine Only.bind (only_perform.mpr trivial) fun verification => ?_
  split
  · trivial
  · exact Only.bind recordless_setCanonicalDomain fun _ => trivial

theorem afterWrite_fails : Ends (edged zone) (afterWrite api env body config fqdn record) w (.error (.other "")) w := by
  refine Ends.bind_error (Ends.bind_error (Ends.bind_error (ends_perform.mpr ?_)))
  exact ⟨rfl, .inr ⟨"", rfl⟩⟩

end published

/-- **The published record is the validated one**, exactly if every write that may come is sound. -/
theorem published_iff (api : TextApi) (env : Environment) (zone : Text) (body : SwitchDomainInput) (w : Edge) :
    (∀ r w', Ends (edged zone) (performDomainSwitch api env body) w r w' → w'.writes ≠ w.writes →
      ∃ c, chosen api body w.listed (w.domains api) = .ok c ∧
        HoldsOne api (qualifyName api body.name zone) c.target w'.records) ↔
      ∀ c, w.Publishes api env zone body c → w.Sound api zone (qualifyName api body.name zone) c := by
  constructor
  · intro hright c hpublishes
    obtain ⟨record, w₁, hwrites⟩ := exists_write api zone (qualifyName api body.name zone) body.proxied c w
    -- A run that fails right after its write shows what has been written.
    have hcounted : w₁.writes ≠ w.writes := by
      rw [hwrites.frame.2.2]
      exact Nat.succ_ne_self _
    obtain ⟨c', hchosen, hholds⟩ := hright _ w₁ (ends_switch hpublishes hwrites afterWrite_fails) hcounted
    obtain rfl : c = c' := Except.ok.inj (hpublishes.chosen.symm.trans hchosen)
    exact (hwrites.holdsOne_iff (checked_of_chosen hchosen)).mp hholds
  · intro hsound r w' hends hcounted
    obtain ⟨-, rfl⟩ | ⟨c, record, w₁, hpublishes, hwrites, hrest⟩ := performDomainSwitch_cases hends
    · exact absurd rfl hcounted
    refine ⟨c, hpublishes.chosen, ?_⟩
    have hholds := (hwrites.holdsOne_iff (checked_of_chosen hpublishes.chosen)).mpr (hsound c hpublishes)
    obtain ⟨-, rfl⟩ | hafter := hrest
    · exact hholds
    · rw [(afterWrite_keeps hafter).1]
      exact hholds

/-! ## A sample -/

def appRecord : DnsRecord := ⟨"app".toList, typeA, "app.example.com".toList, "203.0.113.10".toList, false⟩

def appEdge : Edge := { emptyEdge with records := ⟨[appRecord], by decide⟩ }

def privateInput : SwitchDomainInput where
  name := "app".toList
  target := some "10.0.0.5".toList
  recordType := some typeCNAME
  copyFrom := none
  proxied := none
  service := none

theorem private_address_published :
    ¬ ∀ (api : TextApi) (env : Environment) (zone : Text) (body : SwitchDomainInput) (w : Edge)
      (r : Except Thrown SwitchDomainResult) (w' : Edge), Ends (edged zone) (performDomainSwitch api env body) w r w' →
        w'.writes ≠ w.writes → ∃ c, chosen api body w.listed (w.domains api) = .ok c ∧
          HoldsOne api (qualifyName api body.name zone) c.target w'.records := by
  intro hlaw
  have hpublishes : appEdge.Publishes asciiApi noEnvironment sampleZone privateInput
      ⟨"10.0.0.5".toList, typeCNAME, none⟩ := ⟨by decide +kernel, by decide +kernel, by decide +kernel⟩
  have hfind : existingRecord asciiApi "app.example.com".toList appEdge.listed = some appRecord := by decide +kernel
  have hwrites : appEdge.Writes asciiApi sampleZone "app.example.com".toList none ⟨"10.0.0.5".toList, typeCNAME, none⟩
      { appRecord with content := "10.0.0.5".toList } (appEdge.update appRecord.id "10.0.0.5".toList false) := by
    unfold Edge.Writes
    rw [hfind]
    exact ⟨rfl, rfl⟩
  obtain ⟨c, hchosen, hholds⟩ := hlaw _ _ _ _ _ _ _ (ends_switch hpublishes hwrites afterWrite_fails) (by decide)
  obtain rfl : _ = c := Except.ok.inj (hpublishes.chosen.symm.trans hchosen)
  obtain ⟨-, hadmissible⟩ := (holdsOne_update (existing_mem hfind) (addressOf_of_existing hfind)).mp hholds
  exact hadmissible.2 rfl ⟨10, 0, "0.5".toList, by decide, .inl rfl⟩

end ProxVM.Domains
