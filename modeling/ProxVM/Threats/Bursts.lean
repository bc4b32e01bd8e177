import ProxVM.Lib.Bursts
import ProxVM.Threats.Rules

/-!
# Bursts of events

What the rules that look for five events in a window find, whatever the order of the rows, and what a shared egress
address has to do with it.
-/

namespace ProxVM.Threats

open Bursts

variable {shared : String → Bool} {rows rows' : List AuditRecord} {nowMs days limit : Int} {subject : String}
  {rule : Rule} {f : ThreatFinding}

theorem fires_iff : fires limit rows = true ↔ Burst 4 limit (rows.map AuditRecord.createdAt) := scan_iff

theorem fires_perm (hperm : rows.Perm rows') : fires limit rows = fires limit rows' := scan_perm (hperm.map _)

/-! ## The rows of a subject -/

def Rule.items (rule : Rule) (rows : List AuditRecord) (subject : String) : List AuditRecord :=
  (rule.hits rows).filter fun r => decide (rule.key r = subject)

theorem mem_groupBy {key : AuditRecord → String} {items : List AuditRecord} :
    (subject, items) ∈ groupBy rows key ↔
      items = rows.filter (fun r => decide (key r = subject)) ∧ items ≠ [] := by
  simp only [groupBy, List.mem_map, List.mem_eraseDups, Prod.mk.injEq]
  constructor
  · rintro ⟨_, ⟨r, hr, rfl⟩, rfl, rfl⟩
    exact ⟨rfl, List.ne_nil_of_mem (List.mem_filter.mpr ⟨hr, decide_eq_true rfl⟩)⟩
  · rintro ⟨rfl, hne⟩
    obtain ⟨r, hr⟩ := List.exists_mem_of_ne_nil _ hne
    obtain ⟨hmem, hkey⟩ := List.mem_filter.mp hr
    exact ⟨subject, ⟨r, hmem, of_decide_eq_true hkey⟩, rfl, rfl⟩

theorem produces_iff : Produces rule rows subject f ↔
    rule.items rows subject ≠ [] ∧ rule.finding subject (rule.items rows subject) = some f := by
  simp only [Produces, mem_groupBy]
  constructor
  · rintro ⟨_, ⟨rfl, hne⟩, hf⟩
    exact ⟨hne, hf⟩
  · rintro ⟨hne, hf⟩
    exact ⟨_, ⟨rfl, hne⟩, hf⟩

/-! ## Five events in a window -/

theorem Burst.length_le {times : List Int} (hburst : Burst 4 limit times) : 5 ≤ times.length := by
  obtain ⟨picked, hsub, hlength, -⟩ := hburst
  have hle := hsub.length_le
  omega

variable {p : AuditRecord → Bool} {ip : String}

theorem mem_hostile : ip ∈ hostile rows ↔ 5 ≤ (Rule.passwordSpray.items rows ip).length ∧
    fires (15 * 60000) (Rule.passwordSpray.items rows ip) = true := by
  simp only [hostile, List.mem_filterMap, Prod.exists, mem_groupBy]
  constructor
  · rintro ⟨_, _, ⟨rfl, -⟩, hsome⟩
    rw [Option.ite_none_right_eq_some] at hsome
    obtain ⟨hburst, heq⟩ := hsome
    cases heq
    exact hburst
  · intro hburst
    refine ⟨ip, _, ⟨rfl, fun hnil => ?_⟩, if_pos hburst⟩
    have hlength := hburst.1
    rw [Rule.items] at hlength
    exact absurd (hnil ▸ hlength) (by decide)

theorem items_passwordSpray_perm (hperm : rows.Perm rows') (ip : String) :
    (Rule.passwordSpray.items rows ip).Perm (Rule.passwordSpray.items rows' ip) :=
  ((hperm.filter _).filter _).filter _

theorem hostile_perm (hperm : rows.Perm rows') (ip : String) : (hostile rows).contains ip = (hostile rows').contains ip := by
  have hitems := items_passwordSpray_perm hperm ip
  rw [Bool.eq_iff_iff, List.contains_iff_mem, List.contains_iff_mem, mem_hostile, mem_hostile, hitems.length_eq,
    fires_perm hitems]

theorem items_perm (hperm : rows.Perm rows') (rule : Rule) (subject : String) :
    (rule.items rows subject).Perm (rule.items rows' subject) := by
  refine List.Perm.filter _ ?_
  cases rule with
  | compromisedLogin =>
      simp only [Rule.hits, hostile_perm hperm]
      exact hperm.filter _
  | bruteForceAccounts => exact hperm.filter _
  | passwordSpray | lockedAccount | disabledAccount => exact (hperm.filter _).filter _
  | scanFindings | privilegeGrants | massSecretAccess | offHoursActivity | vmDeletions | firewallWeakened =>
      exact hperm.filter _

def summary (f : ThreatFinding) : String × Int := (f.id, f.count)

theorem summary_perm (hperm : rows.Perm rows') (rule : Rule) (subject : String) :
    (rule.finding subject rows).map summary = (rule.finding subject rows').map summary := by
  have hlength := hperm.length_eq
  cases rule with
  | bruteForceAccounts =>
      simp only [Rule.finding, bruteForceFinding, hlength, fires_perm hperm]
      split <;> rfl
  | passwordSpray =>
      simp only [Rule.finding, passwordSprayFinding, hlength, fires_perm hperm,
        length_eraseDups_perm (hperm.map fun r => r.actorUsername.getD "unknown")]
      split <;> rfl
  | massSecretAccess =>
      simp only [Rule.finding, massSecretAccessFinding, hlength, fires_perm hperm]
      split <;> rfl
  | scanFindings =>
      have htotal : (rows.map scanCount).foldl (· + ·) 0 = (rows'.map scanCount).foldl (· + ·) 0 := (hperm.map _).foldl_eq 0
      simp only [Rule.finding, scanFinding, htotal]
      split <;> rfl
  | compromisedLogin | lockedAccount | disabledAccount =>
      simp only [Rule.finding, compromisedLoginFinding, lockedProbeFinding, hlength]
      split <;> rfl
  | privilegeGrants | offHoursActivity | vmDeletions | firewallWeakened =>
      simp only [Rule.finding, privilegeGrantsFinding, offHoursFinding, vmDeletionsFinding, firewallWeakenedFinding,
        actorFinding, Option.map_some, summary, hlength]

def Reported (shared : String → Bool) (rows : List AuditRecord) (nowMs days : Int) (id : String) (count : Int) : Prop :=
  ∃ f ∈ detectThreats shared rows nowMs days, summary f = (id, count)

theorem stripSharedEgress_perm (hperm : rows.Perm rows') :
    (stripSharedEgress shared (windowStart rows nowMs days)).Perm
      (stripSharedEgress shared (windowStart rows' nowMs days)) :=
  (hperm.filter _).map _

theorem Reported.perm (hperm : rows.Perm rows') {id : String} {count : Int}
    (hreported : Reported shared rows nowMs days id count) : Reported shared rows' nowMs days id count := by
  obtain ⟨f, hf, hsummary⟩ := hreported
  obtain ⟨rule, subject, hproduces⟩ := mem_detectThreats.mp hf
  obtain ⟨hne, hfinding⟩ := produces_iff.mp hproduces
  have hitems := items_perm (@stripSharedEgress_perm shared rows rows' nowMs days hperm) rule subject
  have hsame := summary_perm hitems rule subject
  rw [hfinding, Option.map_some] at hsame
  obtain ⟨g, hg, heq⟩ := Option.map_eq_some_iff.mp hsame.symm
  have hproduced := produces_iff.mpr ⟨fun hnil => hne (List.perm_nil.mp (hnil ▸ hitems)), hg⟩
  exact ⟨g, mem_detectThreats.mpr ⟨rule, subject, hproduced⟩, heq.trans hsummary⟩

/-! ## Shared addresses -/

def failure (account ip : String) (time : Int) : AuditRecord := ⟨.loginFailed, some account, some ip, [], time⟩

def failedLoginsFrom (rows : List AuditRecord) (ip : String) : List AuditRecord :=
  rows.filter fun r => decide (r.event = .loginFailed) && (hasIp r && decide (r.ip = some ip))

def accounts (rows : List AuditRecord) : List String := (rows.filterMap AuditRecord.actorUsername).eraseDups

def users (rows : List AuditRecord) : List String := (rows.map fun r => r.actorUsername.getD "unknown").eraseDups

def within (start : Int) (rows : List AuditRecord) : List AuditRecord :=
  rows.filter fun r => decide (start ≤ r.createdAt ∧ r.createdAt ≤ start + 15 * 60000)

def Sprays (rows : List AuditRecord) (ip : String) : Prop :=
  ∃ start, 5 ≤ (within start (failedLoginsFrom rows ip)).length ∧
    3 ≤ (accounts (within start (failedLoginsFrom rows ip))).length

def Reports (rows : List AuditRecord) (ip : String) : Prop := ∃ f ∈ passwordSpray rows, f.ip = some ip

def OnlyApart (rows : List AuditRecord) (ip : String) : Prop :=
  Burst 4 (15 * 60000) ((failedLoginsFrom rows ip).map AuditRecord.createdAt) ∧
    3 ≤ (users (failedLoginsFrom rows ip)).length ∧ ¬ Sprays rows ip

theorem items_passwordSpray (ip : String) : Rule.passwordSpray.items rows ip = failedLoginsFrom rows ip := by
  simp only [Rule.items, Rule.hits, failedLogins, List.filter_filter, failedLoginsFrom]
  refine List.filter_congr fun r _ => ?_
  have hkey : (decide (Rule.passwordSpray.key r = ip) && hasIp r) = (hasIp r && decide (r.ip = some ip)) := by
    cases hip : r.ip with
    | none => simp [hasIp, hip]
    | some text => simp [hasIp, hip, Rule.key, Bool.and_comm]
  rw [← Bool.and_assoc, hkey, Bool.and_comm]

theorem reports_iff : Reports rows ip ↔
    Burst 4 (15 * 60000) ((failedLoginsFrom rows ip).map AuditRecord.createdAt) ∧
      3 ≤ (users (failedLoginsFrom rows ip)).length := by
  rw [← fires_iff, ← items_passwordSpray]
  constructor
  · rintro ⟨f, hf, hip⟩
    obtain ⟨subject, hproduces⟩ := Rule.mem_findings.mp hf
    have hfinding := (produces_iff.mp hproduces).2
    simp only [Rule.finding, passwordSprayFinding] at hfinding
    split at hfinding
    · cases hfinding
    · next hnot =>
        rw [← Option.some.inj hfinding] at hip
        cases hip
        rw [not_or, not_or, Nat.not_lt, Nat.not_lt, Bool.not_eq_false] at hnot
        exact ⟨hnot.2.2, hnot.2.1⟩
  · rintro ⟨hfires, husers⟩
    have hlength := Burst.length_le (fires_iff.mp hfires)
    rw [List.length_map] at hlength
    have hfinding : ∃ f, Rule.passwordSpray.finding ip (Rule.passwordSpray.items rows ip) = some f ∧ f.ip = some ip := by
      refine ⟨_, if_neg ?_, rfl⟩
      rw [not_or, not_or, Nat.not_lt, Nat.not_lt, Bool.not_eq_false]
      exact ⟨hlength, husers, hfires⟩
    obtain ⟨f, hf, hip⟩ := hfinding
    refine ⟨f, Rule.mem_findings.mpr ⟨ip, produces_iff.mpr ⟨fun hnil => ?_, hf⟩⟩, hip⟩
    rw [hnil] at hlength
    exact absurd hlength (by decide)

theorem reports_of_sprays (hsprays : Sprays rows ip) : Reports rows ip := by
  obtain ⟨start, hfive, hthree⟩ := hsprays
  refine reports_iff.mpr ⟨?_, hthree.trans (length_eraseDups_le fun account haccount => ?_)⟩
  · have hinside : ((within start (failedLoginsFrom rows ip)).map AuditRecord.createdAt).Subperm
        ((failedLoginsFrom rows ip).map AuditRecord.createdAt) := (List.filter_sublist.map _).subperm
    refine burst_of_interval start hinside (fun t ht => ?_) (by rwa [List.length_map])
    obtain ⟨r, hr, rfl⟩ := List.mem_map.mp ht
    exact of_decide_eq_true (List.mem_filter.mp hr).2
  · obtain ⟨r, hr, hname⟩ := List.mem_filterMap.mp haccount
    exact List.mem_map.mpr ⟨r, (List.mem_filter.mp hr).1, by rw [hname]; rfl⟩

/-- **A spray is reported as it should be, unless its failures and its accounts are only met apart.** -/
theorem passwordSpray_iff (rows : List AuditRecord) (ip : String) :
    (Reports rows ip ↔ Sprays rows ip) ↔ ¬ OnlyApart rows ip := by
  constructor
  · rintro hsame ⟨hburst, husers, hnot⟩
    exact hnot (hsame.mp (reports_iff.mpr ⟨hburst, husers⟩))
  · intro hapart
    refine ⟨fun hreports => by_contra fun hnot => ?_, reports_of_sprays⟩
    exact hapart ⟨(reports_iff.mp hreports).1, (reports_iff.mp hreports).2, hnot⟩

def slowFailures : List AuditRecord :=
  List.replicate 5 (failure "ann" "192.0.2.1" 0) ++
    [failure "ben" "192.0.2.1" 86400000, failure "cleo" "192.0.2.1" 172800000]

theorem not_sprays_slowFailures : ¬ Sprays slowFailures "192.0.2.1" := by
  rintro ⟨start, hfive, hthree⟩
  have hrows : failedLoginsFrom slowFailures "192.0.2.1" = slowFailures := by decide +kernel
  have hsplit : within start slowFailures = within start (List.replicate 5 (failure "ann" "192.0.2.1" 0)) ++
      within start [failure "ben" "192.0.2.1" 86400000, failure "cleo" "192.0.2.1" 172800000] := List.filter_append _ _
  rw [hrows, hsplit] at hfive hthree
  -- an interval with the failures on ann has no other account, and one without them too few
  by_cases hann : start ≤ 0 ∧ 0 ≤ start + 15 * 60000
  · have hothers : within start [failure "ben" "192.0.2.1" 86400000, failure "cleo" "192.0.2.1" 172800000] = [] := by
      refine List.filter_eq_nil_iff.mpr fun r hr => ?_
      simp only [List.mem_cons, List.not_mem_nil, or_false] at hr
      rw [decide_eq_true_eq]
      obtain rfl | rfl := hr
      · simp only [failure]
        omega
      · simp only [failure]
        omega
    have hfirst : within start (List.replicate 5 (failure "ann" "192.0.2.1" 0)) =
        List.replicate 5 (failure "ann" "192.0.2.1" 0) :=
      List.filter_eq_self.mpr fun r hr => by rw [List.eq_of_mem_replicate hr]; exact decide_eq_true hann
    rw [hothers, hfirst] at hthree
    exact absurd hthree (by decide +kernel)
  · have hnone : within start (List.replicate 5 (failure "ann" "192.0.2.1" 0)) = [] :=
      List.filter_eq_nil_iff.mpr fun r hr => by
        rw [List.eq_of_mem_replicate hr, decide_eq_true_eq]
        exact hann
    rw [hnone, List.nil_append] at hfive
    exact absurd (hfive.trans (List.length_filter_le _ _)) (by decide +kernel)

/-- A burst on one account is reported as a spray for two failures of other days. -/
theorem not_reports_iff_sprays : ¬ ∀ (rows : List AuditRecord) (ip : String), Reports rows ip ↔ Sprays rows ip := by
  intro hall
  have hreports : Reports slowFailures "192.0.2.1" := by
    have htimes : (failedLoginsFrom slowFailures "192.0.2.1").map AuditRecord.createdAt =
        [0, 0, 0, 0, 0] ++ [86400000, 172800000] := by decide +kernel
    refine reports_iff.mpr ⟨⟨[0, 0, 0, 0, 0], ?_, rfl, by decide⟩, by decide +kernel⟩
    rw [htimes]
    exact (List.sublist_append_left _ _).subperm
  exact not_sprays_slowFailures ((hall slowFailures "192.0.2.1").mp hreports)

end ProxVM.Threats
