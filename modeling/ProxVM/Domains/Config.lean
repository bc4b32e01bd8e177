import Mathlib.Data.List.Nodup
import Mathlib.Logic.Function.Basic
import ProxVM.Domains.Calls

/-!
# The canonical domain and its aliases

`getDomainConfig`, `setCanonicalDomain`, `addDomainAlias`, `removeDomainAlias` and `resolveDomainRedirect` of
`services/domains.ts`.
-/

namespace ProxVM.Domains

open Interaction

/-! ## Configuration -/

structure DomainConfig where
  canonical : Option Text
  aliases : List Text
  deriving DecidableEq, Repr

/-- `[...new Set(xs)]`. -/
def distinct : List Text → List Text
  | [] => []
  | x :: xs => x :: (distinct xs).filter fun y => decide (y ≠ x)

section config

variable (api : TextApi)

def parsedAliases (stored : Option Text) : List Text :=
  match stored with
  | none => []
  | some value =>
      match api.parse value with
      | none => []
      | some raw => ((raw.filterMap id).map (normalizeHostname api)).filter fun h => decide (h ≠ [])

def parsedCanonical (stored : Option Text) : Option Text :=
  (stored.map (normalizeHostname api)).filter fun h => decide (h ≠ [])

/-- `getDomainConfig`, with the id of the zone. -/
def getDomainConfig : Task (DomainConfig × Option Text) := do
  let canonical : Option Text ← ask (.getSetting .canonicalDomain)
  let aliases : Option Text ← ask (.getSetting .domainAliases)
  let zone : Option Text ← ask (.getSetting .cloudflareZoneId)
  pure (⟨parsedCanonical api canonical, distinct (parsedAliases api aliases)⟩, zone)

/-- The aliases once `host` is the canonical domain. -/
def nextAliases (current : DomainConfig) (host : Text) : List Text :=
  let aliases := current.aliases.filter fun a => decide (a ≠ host)
  match current.canonical with
  | some canonical => if canonical ≠ host then aliases ++ [canonical] else aliases
  | none => aliases

def setCanonicalDomain (rawHost : Text) : Task DomainConfig := do
  checked (assertValidHostname (normalizeHostname api rawHost))
  let (current, _) ← getDomainConfig api
  ask (.setSetting .canonicalDomain (normalizeHostname api rawHost))
  ask (.setSetting .domainAliases (api.stringify (distinct (nextAliases current (normalizeHostname api rawHost)))))
  pure ⟨some (normalizeHostname api rawHost), distinct (nextAliases current (normalizeHostname api rawHost))⟩

/-- What `addDomainAlias` does to a configuration. -/
def withAlias (current : DomainConfig) (host : Text) : Task DomainConfig :=
  if current.canonical = some host then
    .raise (refusal s!"{String.ofList host} is already the current domain — nothing to redirect")
  else if host ∈ current.aliases then pure current
  else do
    ask (.setSetting .domainAliases (api.stringify (current.aliases ++ [host])))
    pure ⟨current.canonical, current.aliases ++ [host]⟩

def addDomainAlias (rawHost : Text) : Task DomainConfig := do
  checked (assertValidHostname (normalizeHostname api rawHost))
  let (current, _) ← getDomainConfig api
  withAlias api current (normalizeHostname api rawHost)

def removeDomainAlias (rawHost : Text) : Task DomainConfig := do
  let (current, _) ← getDomainConfig api
  let aliases := current.aliases.filter fun a => decide (a ≠ normalizeHostname api rawHost)
  ask (.setSetting .domainAliases (api.stringify aliases))
  pure ⟨current.canonical, aliases⟩

def isApiPath (path : Text) : Bool := "/api/".toList.isPrefixOf path && !"/api/s/".toList.isPrefixOf path

def targetPath (url : Text) : Text := url.takeWhile fun c => decide (c ≠ '?')

def targetQuery (url : Text) : Text := url.dropWhile fun c => decide (c ≠ '?')

def resolveDomainRedirect (host : Option Text) (url method : Text) (config : DomainConfig) : Option Text :=
  match config.canonical with
  | none => none
  | some canonical =>
      let name := normalizeHostname api (host.getD [])
      if name = [] ∨ name = canonical then none
      else if name ∉ config.aliases then none
      else if method ≠ "GET".toList then none
      else if isApiPath (targetPath url) then none
      else some ("https://".toList ++ canonical ++ targetPath url ++ targetQuery url)

end config

/-! ## Operations -/

inductive Op
  | setCanonicalDomain (rawHost : Text)
  | addDomainAlias (rawHost : Text)
  | removeDomainAlias (rawHost : Text)

def Op.prog (api : TextApi) : Op → Task DomainConfig
  | .setCanonicalDomain rawHost => Domains.setCanonicalDomain api rawHost
  | .addDomainAlias rawHost => Domains.addDomainAlias api rawHost
  | .removeDomainAlias rawHost => Domains.removeDomainAlias api rawHost

def Stored : Service calls Thrown Settings
  | .getSetting key, s, r, s' => r = .ok (s key) ∧ s' = s
  | .setSetting key value, s, r, s' => r = .ok () ∧ s' = Function.update s key (some value)
  | _, _, _, _ => False

inductive History (api : TextApi) : Settings → List Op → Settings → Prop
  | start {s : Settings} : History api s [] s
  | step {s s₁ s' : Settings} {ops : List Op} {op : Op} {r : Except Thrown DomainConfig}
      (hbefore : History api s ops s₁) (hends : Ends Stored (op.prog api) s₁ r s') : History api s (ops ++ [op]) s'

/-- What `getDomainConfig` returns. -/
def Reads (api : TextApi) (s : Settings) (config : DomainConfig) : Prop :=
  ∃ zone, Ends Stored (getDomainConfig api) s (.ok (config, zone)) s

/-! ## What is stored -/

section stored

variable {api : TextApi} {s s' : Settings} {config : DomainConfig} {host : Text} {xs : List Text}

theorem mem_distinct {x : Text} : x ∈ distinct xs ↔ x ∈ xs := by
  induction xs with
  | nil => exact Iff.rfl
  | cons y ys ih =>
      rw [distinct, List.mem_cons, List.mem_filter, ih, List.mem_cons, decide_eq_true_eq]
      by_cases hsame : x = y
      · simp [hsame]
      · simp [hsame]

theorem nodup_distinct : ∀ xs, (distinct xs).Nodup
  | [] => List.nodup_nil
  | x :: xs => by
      refine List.nodup_cons.mpr ⟨fun hmem => ?_, (nodup_distinct xs).filter _⟩
      exact absurd rfl (of_decide_eq_true (List.mem_filter.mp hmem).2)

theorem distinct_of_nodup (hnodup : xs.Nodup) : distinct xs = xs := by
  induction xs with
  | nil => rfl
  | cons x xs ih =>
      obtain ⟨hnew, hrest⟩ := List.nodup_cons.mp hnodup
      rw [distinct, ih hrest, List.filter_eq_self.mpr]
      intro y hy
      refine decide_eq_true ?_
      rintro rfl
      exact hnew hy

structure Keeps (api : TextApi) (s : Settings) (config : DomainConfig) : Prop where
  canonical : s .canonicalDomain = config.canonical
  aliases : s .domainAliases = some (api.stringify config.aliases) ∨ (s .domainAliases = none ∧ config.aliases = [])
  canonical_valid : ∀ host, config.canonical = some host → isValidHostname host = true
  valid : ∀ a ∈ config.aliases, isValidHostname a = true
  nodup : config.aliases.Nodup
  apart : ∀ host, config.canonical = some host → host ∉ config.aliases

theorem Keeps.parsedCanonical (hkeeps : Keeps api s config) :
    parsedCanonical api (s .canonicalDomain) = config.canonical := by
  rw [hkeeps.canonical]
  cases hcanonical : config.canonical with
  | none => rfl
  | some host =>
      have hvalid := hkeeps.canonical_valid host hcanonical
      unfold Domains.parsedCanonical
      rw [Option.map_some, normalizeHostname_valid hvalid, Option.filter_some,
        if_pos (decide_eq_true (ne_nil_of_isValidHostname hvalid))]

theorem parsedAliases_stringify (hvalid : ∀ a ∈ xs, isValidHostname a = true) :
    parsedAliases api (some (api.stringify xs)) = xs := by
  have hraw : (xs.map some).filterMap id = xs := by
    rw [List.filterMap_map]
    exact List.filterMap_some
  have hsame : xs.map (normalizeHostname api) = xs := by
    refine (List.map_congr_left fun a ha => ?_).trans (List.map_id xs)
    exact normalizeHostname_valid (hvalid a ha)
  unfold parsedAliases
  simp only [api.parse_stringify, hraw, hsame]
  exact List.filter_eq_self.mpr fun a ha => decide_eq_true (ne_nil_of_isValidHostname (hvalid a ha))

theorem Keeps.parsedAliases (hkeeps : Keeps api s config) :
    distinct (parsedAliases api (s .domainAliases)) = config.aliases := by
  obtain hstored | ⟨hnone, hempty⟩ := hkeeps.aliases
  · rw [hstored, parsedAliases_stringify hkeeps.valid, distinct_of_nodup hkeeps.nodup]
  · rw [hnone, hempty]
    rfl

/-! ## What the operations do -/

variable {α : Type} {key : SettingKey} {ops : List Op}

theorem ends_getSetting {f : Option Text → Task α} {r : Except Thrown α}
    (hends : Ends Stored (ask (.getSetting key) >>= f) s r s') : Ends Stored (f (s key)) s r s' := by
  obtain ⟨value, s₁, hget, hrest⟩ | ⟨e, rfl, hget⟩ := hends.of_bind
  · obtain ⟨hvalue, rfl⟩ := ends_perform.mp hget
    obtain rfl := Except.ok.inj hvalue
    exact hrest
  · obtain ⟨hvalue, -⟩ := ends_perform.mp hget
    cases hvalue

theorem ends_setSetting {value : Text} {f : Unit → Task α} {r : Except Thrown α}
    (hends : Ends Stored (ask (.setSetting key value) >>= f) s r s') :
    Ends Stored (f ()) (Function.update s key (some value)) r s' := by
  obtain ⟨_, s₁, hset, hrest⟩ | ⟨e, rfl, hset⟩ := hends.of_bind
  · obtain ⟨-, rfl⟩ := ends_perform.mp hset
    exact hrest
  · obtain ⟨hdone, -⟩ := ends_perform.mp hset
    cases hdone

/-- **The configuration is read as it is kept.** -/
theorem Keeps.getDomainConfig (hkeeps : Keeps api s config) {r : Except Thrown (DomainConfig × Option Text)}
    (hends : Ends Stored (getDomainConfig api) s r s') : r = .ok (config, s .cloudflareZoneId) ∧ s' = s := by
  have hread := ends_getSetting (ends_getSetting (ends_getSetting hends))
  obtain ⟨rfl, rfl⟩ := ends_pure.mp hread
  rw [hkeeps.parsedCanonical, hkeeps.parsedAliases]
  exact ⟨rfl, rfl⟩

theorem Keeps.reads (hkeeps : Keeps api s config) : Reads api s config := by
  refine ⟨s .cloudflareZoneId, ?_⟩
  refine .call (r := .ok (s .canonicalDomain)) (show Stored (.getSetting .canonicalDomain) s _ s from ⟨rfl, rfl⟩) ?_
  refine .call (r := .ok (s .domainAliases)) (show Stored (.getSetting .domainAliases) s _ s from ⟨rfl, rfl⟩) ?_
  refine .call (r := .ok (s .cloudflareZoneId)) (show Stored (.getSetting .cloudflareZoneId) s _ s from ⟨rfl, rfl⟩) ?_
  have hconfig : (⟨Domains.parsedCanonical api (s .canonicalDomain), distinct (Domains.parsedAliases api (s .domainAliases))⟩ :
      DomainConfig) = config := by
    rw [hkeeps.parsedCanonical, hkeeps.parsedAliases]
  rw [← hconfig]
  exact .ret

theorem Keeps.eq_of_reads {config' : DomainConfig} (hkeeps : Keeps api s config) (hreads : Reads api s config') :
    config' = config := by
  obtain ⟨zone, hends⟩ := hreads
  obtain ⟨hsame, -⟩ := hkeeps.getDomainConfig hends
  exact congrArg Prod.fst (Except.ok.inj hsame)

theorem ends_checked {σ α : Type} {serve : Service calls Thrown σ} {w w' : σ} {f : Unit → Task α}
    {r : Except Thrown α} (hends : Ends serve (checked (assertValidHostname host) >>= f) w r w') :
    (isValidHostname host = true ∧ Ends serve (f ()) w r w') ∨ ((∃ e, r = .error e) ∧ w' = w) := by
  unfold assertValidHostname at hends
  by_cases hvalid : isValidHostname host = true
  · rw [if_pos hvalid] at hends
    exact .inl ⟨hvalid, hends⟩
  · rw [if_neg hvalid] at hends
    obtain ⟨rfl, rfl⟩ := ends_raise.mp (hends : Ends serve (.raise _) w r w')
    exact .inr ⟨⟨_, rfl⟩, rfl⟩

theorem Keeps.ends_bind {f : DomainConfig × Option Text → Task α} {r : Except Thrown α}
    (hkeeps : Keeps api s config) (hends : Ends Stored (Domains.getDomainConfig api >>= f) s r s') :
    Ends Stored (f (config, s .cloudflareZoneId)) s r s' := by
  obtain ⟨found, s₁, hread, hrest⟩ | ⟨e, rfl, hread⟩ := hends.of_bind
  · obtain ⟨hfound, rfl⟩ := hkeeps.getDomainConfig hread
    obtain rfl := Except.ok.inj hfound
    exact hrest
  · obtain ⟨hfound, -⟩ := hkeeps.getDomainConfig hread
    cases hfound

theorem mem_nextAliases {a : Text} :
    a ∈ nextAliases config host ↔ a ≠ host ∧ (a ∈ config.aliases ∨ config.canonical = some a) := by
  unfold nextAliases
  cases hcanonical : config.canonical with
  | none => simp [and_comm]
  | some canonical =>
      by_cases hsame : canonical = host
      · simp only [hsame, ne_eq, not_true_eq_false, if_false, List.mem_filter, decide_eq_true_eq, Option.some.injEq]
        constructor
        · exact fun h => ⟨h.2, .inl h.1⟩
        · rintro ⟨hne, hmem | rfl⟩
          · exact ⟨hmem, hne⟩
          · exact absurd rfl hne
      · simp only [hsame, ne_eq, not_false_eq_true, if_true, List.mem_append, List.mem_filter, decide_eq_true_eq,
          List.mem_singleton, Option.some.injEq]
        constructor
        · rintro (⟨hmem, hne⟩ | rfl)
          · exact ⟨hne, .inl hmem⟩
          · exact ⟨hsame, .inr rfl⟩
        · rintro ⟨hne, hmem | rfl⟩
          · exact .inl ⟨hmem, hne⟩
          · exact .inr rfl

def Op.next (api : TextApi) (config : DomainConfig) : Op → DomainConfig
  | .setCanonicalDomain rawHost => ⟨some (normalizeHostname api rawHost), distinct (nextAliases config (normalizeHostname api rawHost))⟩
  | .addDomainAlias rawHost => ⟨config.canonical, config.aliases ++ [normalizeHostname api rawHost]⟩
  | .removeDomainAlias rawHost => ⟨config.canonical, config.aliases.filter fun a => decide (a ≠ normalizeHostname api rawHost)⟩

/-- **One operation.**  It leaves the configuration, or makes the next one of it. -/
theorem Keeps.op {op : Op} {r : Except Thrown DomainConfig} (hkeeps : Keeps api s config)
    (hends : Ends Stored (op.prog api) s r s') : s' = s ∨ Keeps api s' (op.next api config) := by
  cases op with
  | setCanonicalDomain rawHost =>
      obtain ⟨hvalid, hends⟩ | ⟨-, rfl⟩ := ends_checked hends
      · have hset := ends_setSetting (ends_setSetting (hkeeps.ends_bind hends))
        obtain ⟨-, rfl⟩ := ends_pure.mp hset
        refine .inr ⟨?_, .inl ?_, ?_, ?_, nodup_distinct _, ?_⟩
        · rw [Function.update_of_ne (by decide), Function.update_self]
          rfl
        · rw [Function.update_self]
          rfl
        · rintro _ ⟨⟩
          exact hvalid
        · intro a ha
          obtain ⟨-, hmem | hcanonical⟩ := mem_nextAliases.mp (mem_distinct.mp ha)
          · exact hkeeps.valid a hmem
          · exact hkeeps.canonical_valid a hcanonical
        · rintro _ ⟨⟩ hmem
          exact (mem_nextAliases.mp (mem_distinct.mp hmem)).1 rfl
      · exact .inl rfl
  | addDomainAlias rawHost =>
      obtain ⟨hvalid, hends⟩ | ⟨-, rfl⟩ := ends_checked hends
      · have hadd : Ends Stored (withAlias api config (normalizeHostname api rawHost)) s r s' := hkeeps.ends_bind hends
        unfold withAlias at hadd
        split at hadd
        · obtain ⟨-, rfl⟩ := ends_raise.mp hadd
          exact .inl rfl
        · next hother =>
            split at hadd
            · obtain ⟨-, rfl⟩ := ends_pure.mp hadd
              exact .inl rfl
            · next hnew =>
                have hset := ends_setSetting hadd
                obtain ⟨-, rfl⟩ := ends_pure.mp hset
                refine .inr ⟨?_, .inl ?_, hkeeps.canonical_valid, ?_, ?_, ?_⟩
                · rw [Function.update_of_ne (by decide)]
                  exact hkeeps.canonical
                · rw [Function.update_self]
                  rfl
                · exact List.forall_mem_append.mpr ⟨hkeeps.valid, List.forall_mem_singleton.mpr hvalid⟩
                · refine List.nodup_append.mpr ⟨hkeeps.nodup, List.nodup_singleton _, fun a ha b hb hsame => hnew ?_⟩
                  rw [← List.mem_singleton.mp hb, ← hsame]
                  exact ha
                · intro host hcanonical hmem
                  obtain hmem | hmem := List.mem_append.mp hmem
                  · exact hkeeps.apart host hcanonical hmem
                  · rw [List.mem_singleton.mp hmem] at hcanonical
                    exact hother hcanonical
      · exact .inl rfl
  | removeDomainAlias rawHost =>
      have hread := hkeeps.ends_bind hends
      have hset := ends_setSetting (show Ends Stored (ask (.setSetting _ _) >>= fun _ => pure _) s r s' from hread)
      obtain ⟨-, rfl⟩ := ends_pure.mp hset
      refine .inr ⟨?_, .inl ?_, hkeeps.canonical_valid, ?_, hkeeps.nodup.filter _, ?_⟩
      · rw [Function.update_of_ne (by decide)]
        exact hkeeps.canonical
      · rw [Function.update_self]
        rfl
      · exact fun a ha => hkeeps.valid a (List.mem_filter.mp ha).1
      · exact fun host hcanonical hmem => hkeeps.apart host hcanonical (List.mem_filter.mp hmem).1

/-! ## Histories -/

theorem Keeps.start (hcanonical : s .canonicalDomain = none) (haliases : s .domainAliases = none) :
    Keeps api s ⟨none, []⟩ :=
  ⟨hcanonical, .inr ⟨haliases, rfl⟩, nofun, nofun, List.nodup_nil, nofun⟩

/-- **Sequences of operations.** -/
theorem Keeps.history (hkeeps : ∃ config, Keeps api s config) (hhistory : History api s ops s') :
    ∃ config, Keeps api s' config := by
  induction hhistory with
  | start => exact hkeeps
  | step _ hends ih =>
      obtain ⟨config, hconfig⟩ := ih
      obtain rfl | hnext := hconfig.op hends
      · exact ⟨config, hconfig⟩
      · exact ⟨_, hnext⟩

def Known (config : DomainConfig) (host : Text) : Prop := config.canonical = some host ∨ host ∈ config.aliases

theorem known_next {op : Op} (hknown : Known config host)
    (hkept : ∀ rawHost, op = .removeDomainAlias rawHost → normalizeHostname api rawHost ≠ host) :
    Known (op.next api config) host := by
  cases op with
  | setCanonicalDomain rawHost =>
      by_cases hsame : normalizeHostname api rawHost = host
      · exact .inl (congrArg some hsame)
      · exact .inr (mem_distinct.mpr (mem_nextAliases.mpr ⟨Ne.symm hsame, hknown.symm⟩))
  | addDomainAlias rawHost => exact hknown.imp_right fun hmem => List.mem_append_left _ hmem
  | removeDomainAlias rawHost =>
      refine hknown.imp_right fun hmem => List.mem_filter.mpr ⟨hmem, decide_eq_true ?_⟩
      exact fun hsame => hkept rawHost rfl hsame.symm

theorem known_history (hkeeps : Keeps api s config) (hknown : Known config host)
    (hkept : ∀ rawHost, .removeDomainAlias rawHost ∈ ops → normalizeHostname api rawHost ≠ host)
    (hhistory : History api s ops s') : ∃ config', Keeps api s' config' ∧ Known config' host := by
  induction hhistory with
  | start => exact ⟨config, hkeeps, hknown⟩
  | @step s₁ s' ops op r _ hends ih =>
      obtain ⟨config₁, hconfig, hknown₁⟩ := ih fun rawHost hmem => hkept rawHost (List.mem_append_left _ hmem)
      obtain rfl | hnext := hconfig.op hends
      · exact ⟨config₁, hconfig, hknown₁⟩
      · refine ⟨_, hnext, known_next hknown₁ fun rawHost hop => hkept rawHost ?_⟩
        rw [hop]
        exact List.mem_append_right _ (List.mem_singleton.mpr rfl)

/-! ## Redirects -/

theorem target_append (url : Text) : targetPath url ++ targetQuery url = url := List.takeWhile_append_dropWhile

theorem resolveDomainRedirect_cases (api : TextApi) (requested : Option Text) (url method : Text)
    (config : DomainConfig) : resolveDomainRedirect api requested url method config = none ∨
      ∃ canonical, config.canonical = some canonical ∧ normalizeHostname api (requested.getD []) ≠ canonical ∧
        resolveDomainRedirect api requested url method config = some ("https://".toList ++ canonical ++ url) := by
  unfold resolveDomainRedirect
  cases config.canonical with
  | none => exact .inl rfl
  | some canonical =>
      simp only
      split
      · exact .inl rfl
      · next hother =>
          split
          · exact .inl rfl
          · split
            · exact .inl rfl
            · split
              · exact .inl rfl
              · refine .inr ⟨canonical, rfl, fun hsame => hother (.inr hsame), ?_⟩
                rw [List.append_assoc, target_append]

end stored

/-- **Coherent after every history.**  From an empty configuration, whatever operations have completed or thrown:
the canonical domain is no alias, the aliases are distinct valid hostnames in their normal form, a canonical domain
is canonical or an alias as long as it is not removed, and a request is redirected to the canonical domain only, with
its own target, and not if it is made there. -/
theorem coherent_of_history (api : TextApi) (s s' : Settings) (ops : List Op) (hcanonical : s .canonicalDomain = none)
    (haliases : s .domainAliases = none) (hhistory : History api s ops s') :
    (∃ config, Reads api s' config) ∧ ∀ config, Reads api s' config →
      (∀ canonical, config.canonical = some canonical → canonical ∉ config.aliases) ∧ config.aliases.Nodup ∧
      (∀ a ∈ config.aliases, isValidHostname a = true ∧ normalizeHostname api a = a) ∧
      (∀ canonical, config.canonical = some canonical → ∀ ops' s'', History api s' ops' s'' →
        (∀ rawHost, .removeDomainAlias rawHost ∈ ops' → normalizeHostname api rawHost ≠ canonical) →
          ∀ config', Reads api s'' config' → config'.canonical = some canonical ∨ canonical ∈ config'.aliases) ∧
      ∀ requested url method, resolveDomainRedirect api requested ('/' :: url) method config = none ∨
          ∃ canonical, config.canonical = some canonical ∧ normalizeHostname api (requested.getD []) ≠ canonical ∧
            resolveDomainRedirect api requested ('/' :: url) method config =
              some ("https://".toList ++ canonical ++ '/' :: url) := by
  obtain ⟨config, hkeeps⟩ := Keeps.history ⟨_, Keeps.start hcanonical haliases⟩ hhistory
  refine ⟨⟨config, hkeeps.reads⟩, fun config' hreads => ?_⟩
  obtain rfl := hkeeps.eq_of_reads hreads
  refine ⟨hkeeps.apart, hkeeps.nodup, fun a ha => ?_, ?_, fun requested url method => ?_⟩
  · exact ⟨hkeeps.valid a ha, normalizeHostname_valid (hkeeps.valid a ha)⟩
  · intro canonical hsome ops' s'' hlater hkept later hreads'
    obtain ⟨config₁, hkeeps₁, hknown⟩ := known_history hkeeps (.inl hsome) hkept hlater
    obtain rfl := hkeeps₁.eq_of_reads hreads'
    exact hknown
  · exact resolveDomainRedirect_cases api requested ('/' :: url) method config'

/-! ## Samples -/

def storedAnswer : (c : Call) → Settings → Option (Except Thrown c.Reply × Settings)
  | .getSetting key, s => some (.ok (s key), s)
  | .setSetting key value, s => some (.ok (), Function.update s key (some value))
  | _, _ => none

theorem stored_storedAnswer (c : Call) (s : Settings) (r : Except Thrown c.Reply) (s' : Settings)
    (hanswer : storedAnswer c s = some (r, s')) : Stored c s r s' := by
  cases c with
  | getSetting key =>
      cases hanswer
      exact ⟨rfl, rfl⟩
  | setSetting key value =>
      cases hanswer
      exact ⟨rfl, rfl⟩
  | _ => cases hanswer

def sampleOps : List Op := [.setCanonicalDomain "app.example.com".toList, .setCanonicalDomain "App2.Example.com.".toList]

def noSettings : Settings := fun _ => none

def firstDomain : Settings := (drive storedAnswer 5 (sampleOps[0].prog asciiApi, noSettings)).2

def secondDomain : Settings := (drive storedAnswer 5 (sampleOps[1].prog asciiApi, firstDomain)).2

theorem coherent_of_history_sample : ∃ config, Reads asciiApi secondDomain config ∧
    (∀ canonical, config.canonical = some canonical → canonical ∉ config.aliases) := by
  have hfirst : Ends Stored (sampleOps[0].prog asciiApi) noSettings
      (.ok ⟨some "app.example.com".toList, []⟩) firstDomain :=
    ends_of_result stored_storedAnswer 5 (by decide +kernel)
  have hsecond : Ends Stored (sampleOps[1].prog asciiApi) firstDomain
      (.ok ⟨some "app2.example.com".toList, ["app.example.com".toList]⟩) secondDomain :=
    ends_of_result stored_storedAnswer 5 (by decide +kernel)
  have hhistory : History asciiApi noSettings sampleOps secondDomain :=
    .step (.step .start hfirst) hsecond
  obtain ⟨⟨config, hreads⟩, hcoherent⟩ :=
    coherent_of_history asciiApi noSettings secondDomain sampleOps rfl rfl hhistory
  exact ⟨config, hreads, (hcoherent config hreads).1⟩

end ProxVM.Domains
