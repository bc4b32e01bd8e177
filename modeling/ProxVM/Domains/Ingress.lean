import ProxVM.Lib.FirstMatch
import ProxVM.Domains.Rotation

/-!
# Where a tunnel sends requests

The rules of a tunnel are tried in order, and the first that matches a request's hostname and path says where the
request goes.  `ensureTunnelIngressRule` changes the service of a hostname's first rule, or puts a rule for it
before the first rule without a hostname.

Hostnames of requests are in lower case.  How a pattern matches a path is a parameter.
-/

namespace ProxVM.Domains

open FirstMatch

structure Request where
  host : Text
  path : Text

def coversHost (pattern host : Text) : Bool :=
  match pattern with
  | [] => true
  | ['*'] => true
  | '*' :: '.' :: suffix => ('.' :: suffix).isSuffixOf host
  | _ => decide (pattern = host)

section

variable (api : TextApi) (pathMatches : Text → Text → Bool)

def hits (request : Request) (rule : TunnelIngressRule) : Bool :=
  coversHost (api.lower (rule.hostname.getD [])) request.host &&
    (present rule.path).all fun pattern => pathMatches pattern request.path

def route (rules : List TunnelIngressRule) (request : Request) : Option Text :=
  verdict (hits api pathMatches request) (fun rule => some rule.service) none rules

def IsCatchAll (rule : TunnelIngressRule) : Prop := present rule.hostname = none ∧ present rule.path = none

structure Merged (rules : List TunnelIngressRule) (hostname service : Text) (merged : List TunnelIngressRule) : Prop where
  own : ∀ path, route api pathMatches merged ⟨api.lower (trim hostname), path⟩ = some service
  others : ∀ other path, other ≠ api.lower (trim hostname) →
    route api pathMatches merged ⟨other, path⟩ = route api pathMatches rules ⟨other, path⟩
  last : ∀ rule, IsCatchAll rule → rules.getLast? = some rule → merged.getLast? = some rule
  again : ensureTunnelIngressRule api merged hostname service = (merged, false)

inductive Place (host : Text) : List TunnelIngressRule → List TunnelIngressRule → Option TunnelIngressRule →
    List TunnelIngressRule → Prop
  | old {front current rest} (hfront : ∀ r ∈ front, isRuleOf api host r = false) (hcurrent : isRuleOf api host current = true) :
      Place host (front ++ current :: rest) front (some current) rest
  | new {front rest} (hnone : ∀ r ∈ front ++ rest, isRuleOf api host r = false)
      (hfront : ∀ r ∈ front, present r.hostname ≠ none) (hrest : ∀ r, rest.head? = some r → present r.hostname = none) :
      Place host (front ++ rest) front none rest

/-- No rule before the place sends a request for the hostname to another service, nor does a rule after it where
the hostname's own rule has a path that the request misses. -/
def Unopposed (rules : List TunnelIngressRule) (host service : Text) : Prop :=
  ∀ front own rest, Place api host rules front own rest → ∀ path,
    (∀ r, front.find? (hits api pathMatches ⟨host, path⟩) = some r → r.service = service) ∧
      (front.find? (hits api pathMatches ⟨host, path⟩) = none → ∀ current, own = some current →
        hits api pathMatches ⟨host, path⟩ current = false →
          route api pathMatches rest ⟨host, path⟩ = some service)

end

variable {api : TextApi} {pathMatches : Text → Text → Bool} {rules front rest : List TunnelIngressRule}
  {own : Option TunnelIngressRule} {rule : TunnelIngressRule} {host hostname service other path : Text}

/-! ## The place -/

def placed (host service : Text) (own : Option TunnelIngressRule) : TunnelIngressRule :=
  match own with
  | some current => { current with service }
  | none => { hostname := some host, service }

theorem find?_isRuleOf_eq_none (hnone : ∀ r ∈ rules, isRuleOf api host r = false) :
    rules.find? (isRuleOf api host) = none :=
  List.find?_eq_none.mpr fun r hr => Bool.eq_false_iff.mp (hnone r hr)

theorem exists_place (api : TextApi) (host : Text) (rules : List TunnelIngressRule) : ∃ front own rest, Place api host rules front own rest := by
  by_cases hnone : ∀ r ∈ rules, isRuleOf api host r = false
  · let named : TunnelIngressRule → Bool := fun r => decide (present r.hostname ≠ none)
    obtain ⟨front, rest, hfront, hrest, rfl⟩ : ∃ front rest, (∀ r ∈ front, named r = true) ∧
        (∀ r, rest.head? = some r → named r = false) ∧ front ++ rest = rules := by
      refine ⟨rules.takeWhile named, rules.dropWhile named, fun r => List.mem_takeWhile_imp, fun r hr => ?_,
        List.takeWhile_append_dropWhile⟩
      have hhead := List.head?_dropWhile_not named rules
      rw [hr] at hhead
      exact hhead
    exact ⟨front, none, rest, .new hnone (fun r hr => of_decide_eq_true (hfront r hr))
      fun r hr => not_not.mp (of_decide_eq_false (hrest r hr))⟩
  · push Not at hnone
    obtain ⟨r, hr, hof⟩ := hnone
    cases hfind : rules.find? (isRuleOf api host) with
    | none => exact absurd (List.find?_eq_none.mp hfind r hr) (not_not.mpr (Bool.not_eq_false _ ▸ hof))
    | some current =>
        obtain ⟨hcurrent, front, rest, rfl, hfront⟩ := List.find?_eq_some_iff_append.mp hfind
        exact ⟨front, some current, rest, .old (fun r hr => Bool.eq_false_iff.mpr (by simpa using hfront r hr)) hcurrent⟩

theorem replaceService_append (hfront : ∀ r ∈ front, isRuleOf api host r = false)
    (hcurrent : isRuleOf api host rule = true) :
    replaceService api host service (front ++ rule :: rest) = front ++ { rule with service } :: rest := by
  induction front with
  | nil => rw [List.nil_append, replaceService, if_pos hcurrent, List.nil_append]
  | cons r front ih =>
      rw [List.cons_append, replaceService, if_neg (Bool.eq_false_iff.mp (hfront r List.mem_cons_self)),
        ih fun s hs => hfront s (List.mem_cons_of_mem r hs), List.cons_append]

theorem insertRule_append (hfront : ∀ r ∈ front, present r.hostname ≠ none)
    (hrest : ∀ r, rest.head? = some r → present r.hostname = none) :
    insertRule rule (front ++ rest) = front ++ rule :: rest := by
  induction front with
  | nil =>
      cases rest with
      | nil => rfl
      | cons r rest => exact if_pos (hrest r rfl)
  | cons r front ih =>
      rw [List.cons_append, insertRule, if_neg (hfront r List.mem_cons_self),
        ih fun s hs => hfront s (List.mem_cons_of_mem r hs), List.cons_append]

theorem find?_append_cons (hfront : ∀ r ∈ front, isRuleOf api host r = false) (hrule : isRuleOf api host rule = true) :
    (front ++ rule :: rest).find? (isRuleOf api host) = some rule := by
  rw [List.find?_append, find?_isRuleOf_eq_none hfront, Option.none_or, List.find?_cons_of_pos hrule]

theorem ensureTunnelIngressRule_place (hplace : Place api (api.lower (trim hostname)) rules front own rest) :
    (ensureTunnelIngressRule api rules hostname service).1 =
      front ++ placed (api.lower (trim hostname)) service own :: rest := by
  unfold ensureTunnelIngressRule
  cases hplace with
  | @old _ current _ hfront hcurrent =>
      simp only [find?_append_cons hfront hcurrent]
      by_cases hsame : current.service = service
      · subst hsame
        rw [if_pos rfl]
        rfl
      · rw [if_neg hsame]
        exact replaceService_append hfront hcurrent
  | new hnone hfront hrest =>
      simp only [find?_isRuleOf_eq_none hnone]
      exact insertRule_append hfront hrest

theorem front_not_ruleOf (hplace : Place api host rules front own rest) : ∀ r ∈ front, isRuleOf api host r = false := by
  cases hplace with
  | old hfront => exact hfront
  | new hnone => exact fun r hr => hnone r (List.mem_append_left _ hr)

theorem isRuleOf_placed (hplace : Place api host rules front own rest) (hlower : api.lower host = host) :
    isRuleOf api host (placed host service own) = true := by
  cases hplace with
  | old _ hcurrent => exact hcurrent
  | new => exact decide_eq_true hlower

/-! ## Hostnames -/

theorem coversHost_valid (hhost : isValidHostname host = true) : coversHost host other = decide (host = other) := by
  unfold coversHost
  split
  · exact absurd rfl (ne_nil_of_isValidHostname hhost)
  · exact absurd List.mem_cons_self (star_not_mem_of_isValidHostname hhost)
  · exact absurd List.mem_cons_self (star_not_mem_of_isValidHostname hhost)
  · rfl

theorem hits_other (hhost : isValidHostname host = true) (hrule : isRuleOf api host rule = true) (hne : other ≠ host) :
    hits api pathMatches ⟨other, path⟩ rule = false := by
  rw [hits, of_decide_eq_true hrule, coversHost_valid hhost, decide_eq_false (Ne.symm hne), Bool.false_and]

/-! ## Routes -/

theorem route_append (request : Request) : route api pathMatches (front ++ rest) request =
      ((front.find? (hits api pathMatches request)).map fun r => some r.service).getD (route api pathMatches rest request) :=
  verdict_append

theorem route_cons_of_not {request : Request} (hnot : hits api pathMatches request rule = false) :
    route api pathMatches (rule :: rest) request = route api pathMatches rest request := by
  rw [route, verdict, List.find?_cons_of_neg (Bool.eq_false_iff.mp hnot)]
  rfl

theorem route_cons_of_hits {request : Request} (hhits : hits api pathMatches request rule = true) :
    route api pathMatches (rule :: rest) request = some rule.service := by
  rw [route, verdict, List.find?_cons_of_pos hhits]
  rfl

theorem route_other (hhost : isValidHostname host = true) (hplace : Place api host rules front own rest)
    (hlower : api.lower host = host) (hne : other ≠ host) :
    route api pathMatches (front ++ placed host service own :: rest) ⟨other, path⟩ =
      route api pathMatches rules ⟨other, path⟩ := by
  rw [route_append, route_cons_of_not (hits_other hhost (isRuleOf_placed hplace hlower) hne)]
  cases hplace with
  | old _ hcurrent => rw [route_append, route_cons_of_not (hits_other hhost hcurrent hne)]
  | new => rw [route_append]

theorem hits_placed_none (hlower : api.lower host = host) (hhost : isValidHostname host = true) :
    hits api pathMatches ⟨host, path⟩ (placed host service none) = true := by
  have hcovers : coversHost (api.lower host) host = true := by
    rw [hlower, coversHost_valid hhost, decide_eq_true rfl]
  exact Bool.and_eq_true_iff.mpr ⟨hcovers, rfl⟩

theorem route_own_iff (hhost : isValidHostname host = true) (hlower : api.lower host = host) :
    route api pathMatches (front ++ placed host service own :: rest) ⟨host, path⟩ = some service ↔
      (∀ r, front.find? (hits api pathMatches ⟨host, path⟩) = some r → r.service = service) ∧
        (front.find? (hits api pathMatches ⟨host, path⟩) = none → ∀ current, own = some current →
          hits api pathMatches ⟨host, path⟩ current = false →
            route api pathMatches rest ⟨host, path⟩ = some service) := by
  rw [route_append]
  cases front.find? (hits api pathMatches ⟨host, path⟩) with
  | some r => simp
  | none =>
      rw [Option.map_none, Option.getD_none]
      cases own with
      | none =>
          -- a new rule has no path, so nothing after it is reached
          rw [route_cons_of_hits (hits_placed_none hlower hhost)]
          exact iff_of_true rfl ⟨nofun, nofun⟩
      | some current =>
          cases hhits : hits api pathMatches ⟨host, path⟩ current with
          | true =>
              rw [route_cons_of_hits (show hits api pathMatches ⟨host, path⟩ (placed host service (some current)) = true from hhits)]
              refine iff_of_true rfl ⟨nofun, ?_⟩
              rintro - _ ⟨⟩ hnot
              rw [hhits] at hnot
              cases hnot
          | false =>
              rw [route_cons_of_not (show hits api pathMatches ⟨host, path⟩ (placed host service (some current)) = false from hhits)]
              refine ⟨fun hroute => ⟨nofun, fun _ _ _ _ => hroute⟩, fun h => h.2 rfl current rfl hhits⟩

theorem hostname_of_isCatchAll (hcatch : IsCatchAll rule) : rule.hostname.getD [] = [] := by
  have hnone : present rule.hostname = none := hcatch.1
  cases hhost : rule.hostname with
  | none => rfl
  | some text =>
      rw [hhost, present, Option.filter_some] at hnone
      by_cases hne : text = []
      · exact hne
      · rw [if_pos (decide_eq_true hne)] at hnone
        cases hnone

theorem getLast_placed (hplace : Place api host rules front own rest) (hhost : isValidHostname host = true)
    (hcatch : IsCatchAll rule) (hlast : rules.getLast? = some rule) :
    (front ++ placed host service own :: rest).getLast? = some rule := by
  rw [List.getLast?_append, List.getLast?_cons]
  cases hplace with
  | @old _ current _ _ hcurrent =>
      rw [List.getLast?_append, List.getLast?_cons] at hlast
      cases hrest : rest.getLast? with
      | some last =>
          rw [hrest] at hlast
          exact hlast
      | none =>
          rw [hrest] at hlast
          cases hlast
          have hnil : api.lower [] = host := hostname_of_isCatchAll hcatch ▸ of_decide_eq_true hcurrent
          rw [api.lower_plain [] nofun] at hnil
          exact absurd hnil.symm (ne_nil_of_isValidHostname hhost)
  | new _ hfront _ =>
      rw [List.getLast?_append] at hlast
      cases hrest : rest.getLast? with
      | some last =>
          rw [hrest] at hlast
          exact hlast
      | none =>
          rw [hrest, Option.none_or] at hlast
          exact absurd hcatch.1 (hfront rule (List.mem_of_getLast? hlast))

theorem ensure_again (hplace : Place api (api.lower (trim hostname)) rules front own rest)
    (hlower : api.lower (api.lower (trim hostname)) = api.lower (trim hostname)) :
    ensureTunnelIngressRule api (front ++ placed (api.lower (trim hostname)) service own :: rest) hostname service =
      (front ++ placed (api.lower (trim hostname)) service own :: rest, false) := by
  have hservice : (placed (api.lower (trim hostname)) service own).service = service := by
    cases own <;> rfl
  unfold ensureTunnelIngressRule
  simp only [find?_append_cons (front_not_ruleOf hplace) (isRuleOf_placed hplace hlower)]
  rw [if_pos hservice]

/-- **Only requests for the hostname itself can go wrong, and they do exactly if other rules oppose it.** -/
theorem merged_iff (hhost : isValidHostname (api.lower (trim hostname)) = true) :
    Merged api pathMatches rules hostname service (ensureTunnelIngressRule api rules hostname service).1 ↔
      Unopposed api pathMatches rules (api.lower (trim hostname)) service := by
  have hlower := api.lower_plain _ (plain_of_isValidHostname hhost)
  constructor
  · intro hmerged front own rest hplace path
    have hown := hmerged.own path
    rw [ensureTunnelIngressRule_place hplace] at hown
    exact (route_own_iff hhost hlower).mp hown
  · intro hunopposed
    obtain ⟨front, own, rest, hplace⟩ := exists_place api (api.lower (trim hostname)) rules
    rw [ensureTunnelIngressRule_place hplace]
    exact
      { own := fun path => (route_own_iff hhost hlower).mpr (hunopposed front own rest hplace path)
        others := fun other path hne => route_other hhost hplace hlower hne
        last := fun rule hcatch hlast => getLast_placed hplace hhost hcatch hlast
        again := ensure_again hplace hlower }

theorem unopposed_of_apart (hown : ∀ r ∈ rules, isRuleOf api host r = false)
    (hapart : ∀ r ∈ rules, present r.hostname ≠ none → ∀ path, hits api pathMatches ⟨host, path⟩ r = false) :
    Unopposed api pathMatches rules host service := by
  intro front own rest hplace path
  cases hplace with
  | @old _ current _ _ hcurrent =>
      have hnot := hown current (List.mem_append_right _ List.mem_cons_self)
      rw [hcurrent] at hnot
      cases hnot
  | new _ hfront _ =>
      refine ⟨fun r hfind => ?_, nofun⟩
      have hr := List.mem_of_find?_eq_some hfind
      have hnot := hapart r (List.mem_append_left _ hr) (hfront r hr) path
      rw [List.find?_some hfind] at hnot
      cases hnot

/-! ## Samples -/

def sampleRules : List TunnelIngressRule :=
  [{ hostname := some "a.example.com".toList, service := "http://a".toList },
    { hostname := none, service := "http_status:404".toList }]

theorem merged_ok : Merged asciiApi (fun _ _ => true) sampleRules "b.example.com".toList "http://b".toList
    (ensureTunnelIngressRule asciiApi sampleRules "b.example.com".toList "http://b".toList).1 := by
  refine (merged_iff (by decide +kernel)).mpr (unopposed_of_apart ?_ ?_)
  · exact List.forall_mem_cons.mpr ⟨by decide +kernel, List.forall_mem_cons.mpr ⟨by decide +kernel, nofun⟩⟩
  · refine List.forall_mem_cons.mpr ⟨fun _ _ => ?_, List.forall_mem_cons.mpr ⟨fun hnamed => absurd rfl hnamed, nofun⟩⟩
    have hcovers : coversHost "a.example.com".toList (asciiApi.lower (trim "b.example.com".toList)) = false := by
      decide +kernel
    exact Bool.and_eq_false_iff.mpr (.inl hcovers)

def wildcardRules : List TunnelIngressRule :=
  [{ hostname := some "*.example.com".toList, service := "http://a".toList },
    { hostname := none, service := "http_status:404".toList }]

theorem not_merged_wildcard :
    ¬ ∀ (api : TextApi) (pathMatches : Text → Text → Bool) (rules : List TunnelIngressRule) (hostname service : Text),
      isValidHostname (api.lower (trim hostname)) = true →
        Merged api pathMatches rules hostname service (ensureTunnelIngressRule api rules hostname service).1 := by
  intro hall
  have hmerged := hall asciiApi (fun _ _ => true) wildcardRules "b.example.com".toList "http://b".toList (by decide +kernel)
  exact absurd (hmerged.own "/".toList) (by decide +kernel)

end ProxVM.Domains
