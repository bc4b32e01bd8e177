import ProxVM.Lib.Recent
import ProxVM.Lib.Text
import ProxVM.Threats.Rules
import ProxVM.Util.Egress
import ProxVM.Util.Text

/-!
# Threat alerts

`evaluateThreatAlerts` of `services/threats.ts`, over a run of evaluations with whatever the audit
trail and the settings are at each.

An evaluation posts the findings whose identifiers are not among the last 200 alerted ones, which it keeps in a setting.
-/

namespace ProxVM.Threats

open Recent

/-! ## An evaluation -/

inductive StoredIds
  | list (items : List (Option String))
  | other
  deriving DecidableEq, Repr

/-- The alerted identifiers; nothing stands for `[]`, and what cannot be parsed counts as it. -/
def alertedIds : Option StoredIds → List String
  | some (.list items) => items.filterMap id
  | _ => []

structure Evaluation where
  webhookUrl : Except String (Option String)
  minSeverity : Except String (Option String)
  /-- The rows of the audit trail. -/
  audit : Except String (List AuditRecord)
  nowMs : Int
  /-- The alerted identifiers can be read. -/
  readsAlerted : Bool
  /-- The webhook takes the post. -/
  posts : Bool
  /-- The setting is written. -/
  saves : Bool

/-- `SEVERITY_RANK[minSev] ?? SEVERITY_RANK.high`; no number compares with the inherited members of an object. -/
def minRank (minSeverity : Option String) : Option Nat :=
  let minSev := String.ofList (((trimmed (some (minSeverity.getD "high"))).getD "").toList.flatMap lowered)
  if minSev = "critical" then some 0
  else if minSev = "high" then some 1
  else if minSev = "medium" then some 2
  else if minSev = "low" then some 3
  else if minSev = "constructor" ∨ minSev = "__proto__" then none
  else some 1

/-- `SEVERITY_RANK[f.severity] <= minRank`. -/
def AtLeast (minSeverity : Option String) (f : ThreatFinding) : Prop :=
  ∃ rank ∈ minRank minSeverity, f.severity.rank ≤ rank

instance (minSeverity : Option String) (f : ThreatFinding) : Decidable (AtLeast minSeverity f) :=
  inferInstanceAs (Decidable (∃ rank ∈ minRank minSeverity, f.severity.rank ≤ rank))

def rowsSince (history : List AuditRecord) (since : Int) : List AuditRecord :=
  (history.filter fun r => decide (since ≤ r.createdAt)).insertionSort fun a b => b.createdAt ≤ a.createdAt

/-- `audit.list`. -/
def auditList (history : List AuditRecord) (limit : Nat) (since : Int) : List AuditRecord :=
  (rowsSince history since).take limit

variable (api : UrlApi) (shared : String → Bool)

def Evaluation.findings (e : Evaluation) : Except String (List ThreatFinding) := do
  let rawUrl ← e.webhookUrl
  match trimmed rawUrl with
  | none => .ok []
  | some _ =>
    let _ ← (assertSafeWebhookUrl api (rawUrl.getD "")).mapError AppError.message
    let minSeverity ← e.minSeverity
    let history ← e.audit
    let rows := auditList history 5000 (e.nowMs - dayMs)
    .ok ((detectThreats shared rows e.nowMs 1).filter fun f => decide (AtLeast minSeverity f))

structure Outcome where
  /-- The evaluated and the fired findings. -/
  result : Except String (Nat × Nat)
  posted : List ThreatFinding
  stored : Option StoredIds

def Evaluation.remembered (e : Evaluation) (stored : Option StoredIds) : List String :=
  if e.readsAlerted then alertedIds stored else []

def evaluateThreatAlerts (stored : Option StoredIds) (e : Evaluation) : Outcome :=
  match e.findings api shared with
  | .error err => ⟨.error err, [], stored⟩
  | .ok findings =>
    let alerted := e.remembered stored
    let fresh := findings.filter fun f => decide (f.id ∉ alerted)
    if fresh = [] then ⟨.ok (findings.length, 0), [], stored⟩
    else if e.posts = false then ⟨.error "Webhook POST failed", [], stored⟩
    else if e.saves = false then ⟨.error "settings", fresh, stored⟩
    else ⟨.ok (findings.length, fresh.length), fresh,
      some (.list (((alerted ++ fresh.map ThreatFinding.id).rtake 200).map some))⟩

/-! ## What an evaluation leaves -/

variable {api shared} {e : Evaluation} {stored : Option StoredIds} {rule : Rule} {subject : String} {f : ThreatFinding}
  {findings : List ThreatFinding} {ident : String}

@[simp] theorem alertedIds_list (ids : List String) : alertedIds (some (.list (ids.map some))) = ids := by
  simp only [alertedIds, List.filterMap_map, Function.id_comp, List.filterMap_some]

theorem posted_eq (hposts : e.posts = true) (hfindings : e.findings api shared = .ok findings) :
    (evaluateThreatAlerts api shared stored e).posted =
      findings.filter fun f => decide (f.id ∉ e.remembered stored) := by
  simp only [evaluateThreatAlerts, hfindings]
  split
  · next hfresh => exact hfresh.symm
  · rw [if_neg (by rw [hposts]; exact Bool.noConfusion)]
    split <;> rfl

theorem posted_of_error {err : String} (hfindings : e.findings api shared = .error err) :
    (evaluateThreatAlerts api shared stored e).posted = [] := by
  simp only [evaluateThreatAlerts, hfindings]

theorem postedIds_eq (hposts : e.posts = true) (hfindings : e.findings api shared = .ok findings) :
    (evaluateThreatAlerts api shared stored e).posted.map ThreatFinding.id =
      fresh (e.remembered stored) (findings.map ThreatFinding.id) := by
  rw [posted_eq hposts hfindings, fresh, List.filter_map]
  rfl

variable (api shared) in
theorem stored_cases (stored : Option StoredIds) (e : Evaluation) :
    (evaluateThreatAlerts api shared stored e).stored = stored ∨
      alertedIds (evaluateThreatAlerts api shared stored e).stored =
        (e.remembered stored ++ (evaluateThreatAlerts api shared stored e).posted.map ThreatFinding.id).rtake 200 := by
  cases hfindings : e.findings api shared with
  | error err => exact .inl (by simp only [evaluateThreatAlerts, hfindings])
  | ok findings =>
      simp only [evaluateThreatAlerts, hfindings]
      split
      · exact .inl rfl
      · split
        · exact .inl rfl
        · split
          · exact .inl rfl
          · exact .inr (alertedIds_list _)

theorem stored_eq (hposts : e.posts = true) (hsaves : e.saves = true)
    (hposted : (evaluateThreatAlerts api shared stored e).posted ≠ []) :
    alertedIds (evaluateThreatAlerts api shared stored e).stored =
      (e.remembered stored ++ (evaluateThreatAlerts api shared stored e).posted.map ThreatFinding.id).rtake 200 := by
  cases hfindings : e.findings api shared with
  | error err => exact absurd (posted_of_error hfindings) hposted
  | ok findings =>
      simp only [evaluateThreatAlerts, hfindings] at hposted ⊢
      split
      · next hfresh => exact absurd (by rw [if_pos hfresh]) hposted
      · rw [if_neg (by rw [hposts]; exact Bool.noConfusion), if_neg (by rw [hsaves]; exact Bool.noConfusion)]
        exact alertedIds_list _

theorem stored_of_quiet (hposts : e.posts = true)
    (hposted : (evaluateThreatAlerts api shared stored e).posted = []) :
    (evaluateThreatAlerts api shared stored e).stored = stored := by
  cases hfindings : e.findings api shared with
  | error err => simp only [evaluateThreatAlerts, hfindings]
  | ok findings =>
      rw [posted_eq hposts hfindings] at hposted
      simp only [evaluateThreatAlerts, hfindings, hposted, if_true]

/-! ## Runs -/

structure Alerting where
  stored : Option StoredIds
  past : List (Evaluation × List ThreatFinding)

variable (api shared) in
def Alerting.step (s : Alerting) (e : Evaluation) : Alerting where
  stored := (evaluateThreatAlerts api shared s.stored e).stored
  past := s.past ++ [(e, (evaluateThreatAlerts api shared s.stored e).posted)]

variable (api shared) in
def run (es : List Evaluation) : Alerting := es.foldl (Alerting.step api shared) ⟨none, []⟩

theorem run_concat (es : List Evaluation) (e : Evaluation) :
    run api shared (es ++ [e]) = (run api shared es).step api shared e := by
  rw [run, List.foldl_append]
  rfl

/-! ## New subjects -/

variable (shared) in
def Evaluation.window (e : Evaluation) : List AuditRecord :=
  match e.audit with
  | .ok history => stripSharedEgress shared (windowStart (rowsSince history (e.nowMs - dayMs)) e.nowMs 1)
  | .error _ => []

def Evaluation.FewRows (e : Evaluation) : Prop :=
  ∀ history, e.audit = .ok history → (rowsSince history (e.nowMs - dayMs)).length ≤ 5000

variable (api shared) in
structure Evaluation.Due (e : Evaluation) (rule : Rule) (subject : String) (f : ThreatFinding) : Prop where
  configured : ∃ rawUrl url, e.webhookUrl = .ok rawUrl ∧ trimmed rawUrl ≠ none ∧
    assertSafeWebhookUrl api (rawUrl.getD "") = .ok url
  listed : ∃ history, e.audit = .ok history
  severe : ∃ minSeverity, e.minSeverity = .ok minSeverity ∧ AtLeast minSeverity f
  produced : Produces rule (e.window shared) subject f

variable {history rows : List AuditRecord} {s : Alerting}

theorem Evaluation.FewRows.listed_eq (hfew : e.FewRows) (haudit : e.audit = .ok history) :
    stripSharedEgress shared (windowStart (auditList history 5000 (e.nowMs - dayMs)) e.nowMs 1) = e.window shared := by
  rw [auditList, List.take_of_length_le (hfew history haudit), Evaluation.window, haudit]

theorem findings_eq {rawUrl minSeverity : Option String} {url : String}
    (hurl : e.webhookUrl = .ok rawUrl) (htrimmed : trimmed rawUrl ≠ none)
    (hsafe : assertSafeWebhookUrl api (rawUrl.getD "") = .ok url) (hmin : e.minSeverity = .ok minSeverity)
    (haudit : e.audit = .ok history) :
    e.findings api shared = .ok ((detectThreats shared (auditList history 5000 (e.nowMs - dayMs)) e.nowMs 1).filter
      fun f => decide (AtLeast minSeverity f)) := by
  obtain ⟨given, hgiven⟩ := Option.ne_none_iff_exists'.mp htrimmed
  simp only [Evaluation.findings, hurl, hgiven, hsafe, hmin, haudit, bind, Except.bind, Except.mapError]

theorem Evaluation.Due.mem_findings (hdue : e.Due api shared rule subject f) (hfew : e.FewRows) :
    ∃ findings, e.findings api shared = .ok findings ∧ f ∈ findings := by
  obtain ⟨⟨rawUrl, url, hurl, htrimmed, hsafe⟩, ⟨history, haudit⟩, ⟨minSeverity, hmin, hsevere⟩, hproduced⟩ := hdue
  rw [← hfew.listed_eq haudit] at hproduced
  exact ⟨_, findings_eq hurl htrimmed hsafe hmin haudit,
    List.mem_filter.mpr ⟨mem_detectThreats.mpr ⟨rule, subject, hproduced⟩, decide_eq_true hsevere⟩⟩

theorem exists_due (hfew : e.FewRows) (hfindings : e.findings api shared = .ok findings) (hmem : f ∈ findings) :
    ∃ rule subject, e.Due api shared rule subject f := by
  cases hurl : e.webhookUrl with
  | error err => simp [Evaluation.findings, hurl, bind, Except.bind] at hfindings
  | ok rawUrl =>
      cases hgiven : trimmed rawUrl with
      | none =>
          simp only [Evaluation.findings, hurl, hgiven, bind, Except.bind, Except.ok.injEq] at hfindings
          rw [← hfindings] at hmem
          cases hmem
      | some given =>
          cases hsafe : assertSafeWebhookUrl api (rawUrl.getD "") with
          | error err =>
              simp [Evaluation.findings, hurl, hgiven, hsafe, bind, Except.bind, Except.mapError] at hfindings
          | ok url =>
              cases hmin : e.minSeverity with
              | error err =>
                  simp [Evaluation.findings, hurl, hgiven, hsafe, hmin, bind, Except.bind,
                    Except.mapError] at hfindings
              | ok minSeverity =>
                  cases haudit : e.audit with
                  | error err =>
                      simp [Evaluation.findings, hurl, hgiven, hsafe, hmin, haudit, bind, Except.bind,
                        Except.mapError] at hfindings
                  | ok history =>
                      have htrimmed : trimmed rawUrl ≠ none := by
                        rw [hgiven]
                        exact Option.some_ne_none given
                      rw [findings_eq hurl htrimmed hsafe hmin haudit] at hfindings
                      rw [← Except.ok.inj hfindings, List.mem_filter, mem_detectThreats] at hmem
                      obtain ⟨⟨rule, subject, hproduced⟩, hsevere⟩ := hmem
                      rw [hfew.listed_eq haudit] at hproduced
                      exact ⟨rule, subject, ⟨rawUrl, url, hurl, htrimmed, hsafe⟩, ⟨history, haudit⟩,
                        ⟨minSeverity, hmin, of_decide_eq_true hsevere⟩, hproduced⟩

variable (shared) in
def Alerted (rule : Rule) (subject : String) (past : List (Evaluation × List ThreatFinding)) : Prop :=
  ∃ p ∈ past, ∃ f ∈ p.2, Produces rule (p.1.window shared) subject f

theorem Alerted.append {past past' : List (Evaluation × List ThreatFinding)} (h : Alerted shared rule subject past) :
    Alerted shared rule subject (past ++ past') := by
  obtain ⟨p, hp, hf⟩ := h
  exact ⟨p, List.mem_append_left _ hp, hf⟩

variable (api shared) in
def AlertsNew (s : Alerting) (e : Evaluation) : Prop :=
  ∀ rule subject f, e.Due api shared rule subject f → ¬ Alerted shared rule subject s.past →
    f ∈ (evaluateThreatAlerts api shared s.stored e).posted

variable (api shared) in
def Distinguished (s : Alerting) (e : Evaluation) : Prop :=
  ∀ rule subject f, e.Due api shared rule subject f → ¬ Alerted shared rule subject s.past →
    ∀ subject', Alerted shared rule subject' s.past → rule.ident ++ rule.tag subject' ∈ e.remembered s.stored →
      rule.tag subject' ≠ rule.tag subject

def Recorded (shared : String → Bool) (s : Alerting) : Prop :=
  ∀ ident ∈ alertedIds s.stored, ∃ rule subject, Alerted shared rule subject s.past ∧
    ident = rule.ident ++ rule.tag subject

theorem remembered_subset (e : Evaluation) (stored : Option StoredIds) : e.remembered stored ⊆ alertedIds stored := by
  rw [Evaluation.remembered]
  split
  · exact List.Subset.refl _
  · exact List.nil_subset _

theorem exists_due_of_posted (hfew : e.FewRows) (hposts : e.posts = true)
    (hmem : f ∈ (evaluateThreatAlerts api shared stored e).posted) :
    ∃ rule subject, e.Due api shared rule subject f := by
  cases hfindings : e.findings api shared with
  | error err =>
      rw [posted_of_error hfindings] at hmem
      cases hmem
  | ok findings =>
      rw [posted_eq hposts hfindings] at hmem
      exact exists_due hfew hfindings (List.mem_filter.mp hmem).1

theorem Recorded.step {s : Alerting} (h : Recorded shared s) (hfew : e.FewRows) (hposts : e.posts = true) :
    Recorded shared (s.step api shared e) := by
  intro ident hident
  have hold : ident ∈ alertedIds s.stored → ∃ rule subject,
      Alerted shared rule subject (s.step api shared e).past ∧ ident = rule.ident ++ rule.tag subject := by
    intro hmem
    obtain ⟨rule, subject, halerted, heq⟩ := h ident hmem
    exact ⟨rule, subject, halerted.append, heq⟩
  obtain hstored | hstored := stored_cases api shared s.stored e
  · rw [Alerting.step, hstored] at hident
    exact hold hident
  · rw [Alerting.step, hstored] at hident
    obtain hmem | hmem := List.mem_append.mp (rtake_subset hident)
    · exact hold (remembered_subset e _ hmem)
    · obtain ⟨f, hf, rfl⟩ := List.mem_map.mp hmem
      obtain ⟨rule, subject, hdue⟩ := exists_due_of_posted hfew hposts hf
      exact ⟨rule, subject, ⟨_, List.mem_concat_self, f, hf, hdue.produced⟩, hdue.produced.id_eq⟩

theorem recorded_run (es : List Evaluation) (hregular : ∀ e ∈ es, e.FewRows ∧ e.posts = true) :
    Recorded shared (run api shared es) := by
  induction es using List.reverseRecOn with
  | nil => intro ident hident; cases hident
  | append_singleton es e ih =>
      rw [run_concat]
      obtain ⟨hfew, hposts⟩ := hregular e List.mem_concat_self
      exact (ih fun e' he' => hregular e' (List.mem_append_left _ he')).step hfew hposts

/-- A new subject is alerted, in whatever evaluation of whatever run, exactly as long as no other subject of the rule
with the same slug is remembered. -/
theorem alertsNew_iff (es : List Evaluation) (e : Evaluation)
    (hregular : ∀ e' ∈ es ++ [e], e'.FewRows ∧ e'.posts = true) :
    AlertsNew api shared (run api shared es) e ↔ Distinguished api shared (run api shared es) e := by
  obtain ⟨hfew, hposts⟩ := hregular e List.mem_concat_self
  have hrecorded : Recorded shared (run api shared es) :=
    recorded_run es fun e' he' => hregular e' (List.mem_append_left _ he')
  constructor
  · intro halerts rule subject f hdue hnew subject' _ hremembered htag
    obtain ⟨findings, hfindings, -⟩ := hdue.mem_findings hfew
    have hposted := halerts rule subject f hdue hnew
    rw [posted_eq hposts hfindings] at hposted
    rw [htag, ← hdue.produced.id_eq] at hremembered
    exact of_decide_eq_true (List.mem_filter.mp hposted).2 hremembered
  · intro hdistinct rule subject f hdue hnew
    obtain ⟨findings, hfindings, hmem⟩ := hdue.mem_findings hfew
    rw [posted_eq hposts hfindings]
    refine List.mem_filter.mpr ⟨hmem, decide_eq_true fun hremembered => ?_⟩
    obtain ⟨rule', subject', halerted, hid⟩ := hrecorded f.id (remembered_subset e _ hremembered)
    have hsame := hid
    rw [hdue.produced.id_eq] at hsame
    obtain rfl := Rule.eq_of_ident hsame
    have htag : rule.tag subject = rule.tag subject' := by
      have hlist := congrArg String.toList hsame
      rw [String.toList_append, String.toList_append] at hlist
      exact String.toList_injective (List.append_cancel_left hlist)
    exact hdistinct rule subject f hdue hnew subject' halerted (hid ▸ hremembered) htag.symm

/-! ## Standing findings -/

def postedIds (past : List (Evaluation × List ThreatFinding)) : List String :=
  past.flatMap fun p => p.2.map ThreatFinding.id

variable (api shared) in
def Evaluation.Stands (e : Evaluation) (ident : String) : Prop :=
  ∃ findings, e.findings api shared = .ok findings ∧ ident ∈ findings.map ThreatFinding.id

variable (api shared) in
def Evaluation.occurrences (e : Evaluation) (ident : String) : Nat :=
  (((e.findings api shared).toOption.getD []).map ThreatFinding.id).count ident

theorem stands_of_occurrences (hpos : 0 < e.occurrences api shared ident) : e.Stands api shared ident := by
  have hmem := List.count_pos_iff.mp hpos
  cases hfindings : e.findings api shared with
  | error err =>
      rw [hfindings] at hmem
      cases hmem
  | ok findings =>
      rw [hfindings] at hmem
      exact ⟨findings, hfindings, hmem⟩

theorem Evaluation.Due.stands (hdue : e.Due api shared rule subject f) (hfew : e.FewRows) :
    e.Stands api shared (rule.ident ++ rule.tag subject) := by
  obtain ⟨findings, hfindings, hmem⟩ := hdue.mem_findings hfew
  exact ⟨findings, hfindings, hdue.produced.id_eq ▸ List.mem_map_of_mem hmem⟩

theorem postedIds_step (s : Alerting) (e : Evaluation) :
    postedIds (s.step api shared e).past = postedIds s.past ++
      (evaluateThreatAlerts api shared s.stored e).posted.map ThreatFinding.id := by
  simp only [postedIds, Alerting.step, List.flatMap_append, List.flatMap_cons, List.flatMap_nil, List.append_nil]

def Kept (s : Alerting) (ident : String) : Prop :=
  ∃ before older last, ident ∈ last ∧ alertedIds s.stored = (before ++ last).rtake 200 ∧
    postedIds s.past = older ++ last

theorem Kept.mem_iff (h : Kept s ident) :
    ident ∈ alertedIds s.stored ↔ newer ident (postedIds s.past) < 200 := by
  obtain ⟨before, older, last, hlast, hstored, hposted⟩ := h
  rw [hstored, mem_rtake_iff (List.mem_append_right _ hlast), newer_append_of_mem hlast, hposted,
    newer_append_of_mem hlast]

theorem kept_of_posted (hposts : e.posts = true) (hsaves : e.saves = true)
    (hmem : ident ∈ (evaluateThreatAlerts api shared s.stored e).posted.map ThreatFinding.id) :
    Kept (s.step api shared e) ident := by
  refine ⟨e.remembered s.stored, postedIds s.past, _, hmem, stored_eq hposts hsaves ?_, postedIds_step s e⟩
  intro hnone
  rw [hnone] at hmem
  cases hmem

theorem Kept.step {s : Alerting} (h : Kept s ident) (hreads : e.readsAlerted = true) (hposts : e.posts = true)
    (hsaves : e.saves = true) : Kept (s.step api shared e) ident := by
  obtain ⟨before, older, last, hlast, hstored, hposted⟩ := h
  by_cases hquiet : (evaluateThreatAlerts api shared s.stored e).posted = []
  · refine ⟨before, older, last, hlast, ?_, ?_⟩
    · rw [Alerting.step, stored_of_quiet hposts hquiet, hstored]
    · rw [postedIds_step, hquiet, List.map_nil, List.append_nil, hposted]
  · refine ⟨before, older, last ++ (evaluateThreatAlerts api shared s.stored e).posted.map ThreatFinding.id,
      List.mem_append_left _ hlast, ?_, ?_⟩
    · rw [Alerting.step, stored_eq hposts hsaves hquiet, Evaluation.remembered, if_pos hreads, hstored,
        rtake_rtake_append, List.append_assoc]
    · rw [postedIds_step, hposted, List.append_assoc]

theorem count_posted_eq_zero_iff {s : Alerting} (hposts : e.posts = true) (hstands : e.Stands api shared ident) :
    ((evaluateThreatAlerts api shared s.stored e).posted.map ThreatFinding.id).count ident = 0 ↔
      ident ∈ e.remembered s.stored := by
  obtain ⟨findings, hfindings, hmem⟩ := hstands
  rw [postedIds_eq hposts hfindings, List.count_eq_zero, announced_iff hmem, not_not]

variable (api shared) in
theorem count_le_run (rest : List Evaluation) (s : Alerting) (ident : String) :
    (postedIds s.past).count ident ≤ (postedIds (rest.foldl (Alerting.step api shared) s).past).count ident := by
  induction rest generalizing s with
  | nil => exact le_refl _
  | cons e rest ih =>
      calc (postedIds s.past).count ident
          ≤ (postedIds (s.step api shared e).past).count ident := by
            rw [postedIds_step, List.count_append]
            exact Nat.le_add_right _ _
        _ ≤ _ := ih (s.step api shared e)

theorem count_posted_eq_occurrences (hposts : e.posts = true)
    (hmem : ident ∈ (evaluateThreatAlerts api shared stored e).posted.map ThreatFinding.id) :
    ((evaluateThreatAlerts api shared stored e).posted.map ThreatFinding.id).count ident =
      e.occurrences api shared ident := by
  cases hfindings : e.findings api shared with
  | error err =>
      rw [posted_of_error hfindings] at hmem
      cases hmem
  | ok findings =>
      rw [postedIds_eq hposts hfindings] at hmem ⊢
      rw [count_fresh_of_notMem (mem_fresh.mp hmem).2, Evaluation.occurrences, hfindings]
      rfl

theorem count_run_iff (rest : List Evaluation) (hkept : Kept s ident)
    (hworks : ∀ e ∈ rest, e.posts = true ∧ e.saves = true) (hstands : ∀ e ∈ rest, e.Stands api shared ident) :
    (postedIds (rest.foldl (Alerting.step api shared) s).past).count ident = (postedIds s.past).count ident ↔
      ∀ mid e later, rest = mid ++ e :: later → e.readsAlerted = true ∧
        newer ident (postedIds (mid.foldl (Alerting.step api shared) s).past) < 200 := by
  induction rest generalizing s with
  | nil => exact iff_of_true rfl fun mid e later hsplit => absurd hsplit (by simp)
  | cons e rest ih =>
      obtain ⟨hposts, hsaves⟩ := hworks e List.mem_cons_self
      have hcount : (postedIds (s.step api shared e).past).count ident = (postedIds s.past).count ident +
          ((evaluateThreatAlerts api shared s.stored e).posted.map ThreatFinding.id).count ident := by
        rw [postedIds_step, List.count_append]
      have hzero := count_posted_eq_zero_iff (s := s) hposts (hstands e List.mem_cons_self)
      by_cases hholds : e.readsAlerted = true ∧ newer ident (postedIds s.past) < 200
      · have hremembered : ident ∈ e.remembered s.stored := by
          rw [Evaluation.remembered, if_pos hholds.1, hkept.mem_iff]
          exact hholds.2
        rw [hzero.mpr hremembered, Nat.add_zero] at hcount
        rw [List.foldl_cons, ← hcount, ih (hkept.step hholds.1 hposts hsaves)
          (fun e' he' => hworks e' (List.mem_cons_of_mem _ he'))
          (fun e' he' => hstands e' (List.mem_cons_of_mem _ he'))]
        constructor
        · intro hlater mid e' later hsplit
          cases mid with
          | nil =>
              obtain ⟨rfl, -⟩ := List.cons.inj hsplit
              exact hholds
          | cons m mid =>
              obtain ⟨rfl, htail⟩ := List.cons.inj hsplit
              exact hlater mid e' later htail
        · intro hall mid e' later hsplit
          exact hall (e :: mid) e' later (by rw [hsplit, List.cons_append])
      · have hforgotten : ident ∉ e.remembered s.stored := by
          intro hmem
          rw [Evaluation.remembered] at hmem
          split at hmem
          · next hreads => exact hholds ⟨hreads, hkept.mem_iff.mp hmem⟩
          · cases hmem
        have hposted := mt hzero.mp hforgotten
        refine iff_of_false ?_ fun hall => hholds (hall [] e rest rfl)
        have hle := count_le_run api shared rest (s.step api shared e) ident
        rw [List.foldl_cons]
        omega

/-- A finding that stands from its first alert on is posted exactly once, exactly as long as the evaluation that first
posts it has one finding with its identifier, and before every later one the list can be read and fewer than 200
findings were posted after it. -/
theorem posted_once_iff (before rest : List Evaluation) (e : Evaluation) (ident : String)
    (hworks : ∀ e' ∈ e :: rest, e'.posts = true ∧ e'.saves = true)
    (hnew : ident ∉ postedIds (run api shared before).past)
    (hfirst : ident ∈ postedIds (run api shared (before ++ [e])).past)
    (hstands : ∀ e' ∈ rest, e'.Stands api shared ident) :
    (postedIds (run api shared (before ++ e :: rest)).past).count ident = 1 ↔
      e.occurrences api shared ident = 1 ∧ ∀ mid e' later, rest = mid ++ e' :: later → e'.readsAlerted = true ∧
        newer ident (postedIds (run api shared (before ++ e :: mid)).past) < 200 := by
  obtain ⟨hposts, hsaves⟩ := hworks e List.mem_cons_self
  obtain ⟨s, hs⟩ : ∃ s, run api shared (before ++ [e]) = s := ⟨_, rfl⟩
  have hsplit : ∀ es, run api shared (before ++ e :: es) = es.foldl (Alerting.step api shared) s := by
    intro es
    rw [← hs, run, run, List.foldl_append, List.foldl_append]
    rfl
  have hpast : postedIds s.past = postedIds (run api shared before).past ++
      (evaluateThreatAlerts api shared (run api shared before).stored e).posted.map ThreatFinding.id := by
    rw [← hs, run_concat, postedIds_step]
  rw [hs] at hfirst
  have hposted := (List.mem_append.mp (hpast ▸ hfirst)).resolve_left hnew
  have hkept : Kept s ident := by
    rw [← hs, run_concat]
    exact kept_of_posted hposts hsaves hposted
  have honce : (postedIds s.past).count ident = e.occurrences api shared ident := by
    rw [hpast, List.count_append, List.count_eq_zero.mpr hnew, Nat.zero_add]
    exact count_posted_eq_occurrences hposts hposted
  have hpos : 0 < (postedIds s.past).count ident := List.count_pos_iff.mpr hfirst
  have hle := count_le_run api shared rest s ident
  have hiff := count_run_iff rest hkept (fun e' he' => hworks e' (List.mem_cons_of_mem _ he')) hstands
  rw [hsplit rest]
  simp only [hsplit]
  rw [← hiff]
  omega

/-! ## Sample evaluations -/

def hooks : UrlApi := .ofTable [⟨"https://hooks.example.com/x", "https:", "hooks.example.com"⟩]

def noon (rows : List AuditRecord) : Evaluation where
  webhookUrl := .ok (some "https://hooks.example.com/x")
  minSeverity := .ok (some "low")
  audit := .ok rows
  nowMs := 43200000
  readsAlerted := true
  posts := true
  saves := true

def burst (username : String) : List AuditRecord :=
  List.replicate 5 ⟨.loginFailed, some username, none, [], 43200000⟩

def deletion (actor : String) : AuditRecord := ⟨.vmDeleted, some actor, none, [], 43200000⟩

theorem noon_fewRows (hlength : rows.length ≤ 5000) : (noon rows).FewRows := by
  intro history haudit
  rw [← Except.ok.inj haudit, rowsSince, List.length_insertionSort]
  exact (List.length_filter_le _ _).trans hlength

theorem noon_due (hrank : f.severity.rank ≤ 3)
    (hproduced : Produces rule ((noon rows).window shared) subject f) : (noon rows).Due hooks shared rule subject f where
  configured := ⟨_, "https://hooks.example.com/x", rfl, by decide, by decide +kernel⟩
  listed := ⟨_, rfl⟩
  severe := ⟨_, rfl, 3, by decide, hrank⟩
  produced := hproduced

theorem bursts_regular {e : Evaluation} (hmem : e ∈ [noon (burst "a.b")] ++ [noon (burst "a-b")]) :
    e.FewRows ∧ e.posts = true := by
  obtain rfl | rfl : e = noon (burst "a.b") ∨ e = noon (burst "a-b") := by simpa using hmem
  all_goals exact ⟨noon_fewRows (by decide), rfl⟩

theorem alertsNew_iff_bursts :
    AlertsNew hooks (fun _ => false) (run hooks (fun _ => false) [noon (burst "a.b")]) (noon (burst "a-b")) ↔
      Distinguished hooks (fun _ => false) (run hooks (fun _ => false) [noon (burst "a.b")]) (noon (burst "a-b")) :=
  alertsNew_iff [noon (burst "a.b")] (noon (burst "a-b")) fun _ hmem => bursts_regular hmem

/-- After an alert for the account `a.b`, none is posted for the account `a-b`. -/
theorem not_alertsNew_bursts : ¬ ∀ (es : List Evaluation) (e : Evaluation),
    (∀ e' ∈ es ++ [e], e'.FewRows ∧ e'.posts = true) →
      AlertsNew hooks (fun _ => false) (run hooks (fun _ => false) es) e := by
  intro h
  have halerts := h [noon (burst "a.b")] (noon (burst "a-b")) fun _ hmem => bursts_regular hmem
  have hgroups : ((run hooks (fun _ => false) [noon (burst "a.b")]).past.all fun p =>
      (groupBy (Rule.bruteForceAccounts.hits (p.1.window fun _ => false)) Rule.bruteForceAccounts.key).all fun g =>
        decide (g.1 ≠ "a-b")) = true := by decide +kernel
  have hfinding : (bruteForceFinding "a-b" (burst "a-b")).isSome = true := by decide +kernel
  obtain ⟨f, hf⟩ := Option.isSome_iff_exists.mp hfinding
  have hproduced : Produces .bruteForceAccounts ((noon (burst "a-b")).window fun _ => false) "a-b" f :=
    ⟨burst "a-b", by decide +kernel, hf⟩
  have hrank : f.severity.rank ≤ 3 := by cases f.severity <;> decide
  have hmem := halerts .bruteForceAccounts "a-b" f (noon_due hrank hproduced) ?_
  · have hnone : (evaluateThreatAlerts hooks (fun _ => false)
        (run hooks (fun _ => false) [noon (burst "a.b")]).stored (noon (burst "a-b"))).posted = [] := by
      decide +kernel
    rw [hnone] at hmem
    cases hmem
  · rintro ⟨p, hp, f', -, items, hitems, -⟩
    exact of_decide_eq_true (List.all_eq_true.mp (List.all_eq_true.mp hgroups p hp) _ hitems) rfl

theorem posted_once_bob :
    (postedIds (run hooks (fun _ => false) ([] ++ noon (burst "bob") :: [noon (burst "bob")])).past).count
        "brute-force-account-bob" = 1 ↔
      (noon (burst "bob")).occurrences hooks (fun _ => false) "brute-force-account-bob" = 1 ∧
        ∀ mid e later, [noon (burst "bob")] = mid ++ e :: later → e.readsAlerted = true ∧
          newer "brute-force-account-bob"
            (postedIds (run hooks (fun _ => false) ([] ++ noon (burst "bob") :: mid)).past) < 200 := by
  refine posted_once_iff [] [noon (burst "bob")] (noon (burst "bob")) "brute-force-account-bob" ?_ (by decide)
    (by decide +kernel) ?_
  · intro e hmem
    obtain rfl : e = noon (burst "bob") := by simpa using hmem
    exact ⟨rfl, rfl⟩
  · intro e hmem
    rw [List.mem_singleton.mp hmem]
    exact stands_of_occurrences (by decide +kernel)

theorem noon_window (rows : List AuditRecord) (hrows : ∀ r ∈ rows, r.createdAt = 43200000) {r : AuditRecord}
    (hmem : r ∈ rows) (hip : r.ip = none) : r ∈ (noon rows).window fun _ => false := by
  have htime := hrows r hmem
  refine List.mem_map.mpr ⟨r, ?_, ?_⟩
  · simp only [noon, windowStart, rowsSince, List.mem_filter, List.mem_insertionSort, hmem, htime, dayMs,
      decide_eq_true_eq, true_and]
    omega
  · rw [hip]
    rfl

theorem deletions_stand (actors : List String) (hfew : actors.length ≤ 5000) {actor : String}
    (hactor : actor ∈ actors) :
    (noon (actors.map deletion)).Stands hooks (fun _ => false) ("vm-deletions-" ++ slug actor) := by
  have hmem : deletion actor ∈ Rule.vmDeletions.hits ((noon (actors.map deletion)).window fun _ => false) := by
    refine List.mem_filter.mpr ⟨noon_window _ ?_ (List.mem_map_of_mem hactor) rfl, rfl⟩
    intro r hr
    obtain ⟨a, -, rfl⟩ := List.mem_map.mp hr
    rfl
  obtain ⟨items, hitems⟩ := exists_mem_groupBy Rule.vmDeletions.key hmem
  have hdue : (noon (actors.map deletion)).Due hooks (fun _ => false) .vmDeletions actor _ :=
    noon_due (le_refl 3) ⟨items, hitems, rfl⟩
  exact hdue.stands (noon_fewRows (by rwa [List.length_map]))

def crowd : List String := (List.range 200).map Nat.repr

def crowdIds : List String := crowd.map fun actor => "vm-deletions-" ++ slug actor

theorem slug_repr {i : Nat} (hi : i < 200) : slug (Nat.repr i) = Nat.repr i := by
  have hdigits : ∀ c ∈ (Nat.repr i).toList, c.isDigit = true := by
    intro c hc
    rw [Nat.toList_repr] at hc
    exact Nat.isDigit_of_mem_toDigits (by decide) (by decide) hc
  refine slug_eq_self (fun c hc => ?_) ?_ ?_
  · have hdigit := hdigits c hc
    simp only [Char.isDigit, Bool.and_eq_true, decide_eq_true_eq] at hdigit
    simp only [inSlug, Bool.or_eq_true, decide_eq_true_eq]
    exact .inr hdigit
  · intro hnil
    have hpos := Nat.length_repr_pos (n := i)
    rw [hnil] at hpos
    exact absurd hpos (by decide)
  · rw [String.length_toList, Nat.length_repr_le_iff (by decide)]
    exact hi.trans (by decide)

theorem length_crowdIds : crowdIds.length = 200 := by
  rw [crowdIds, List.length_map, crowd, List.length_map, List.length_range]

theorem crowdIds_nodup : crowdIds.Nodup := by
  rw [crowdIds, crowd, List.map_map]
  refine List.Nodup.map_on ?_ List.nodup_range
  intro i hi j hj heq
  have hlist := congrArg String.toList heq
  simp only [Function.comp_apply, String.toList_append, slug_repr (List.mem_range.mp hi),
    slug_repr (List.mem_range.mp hj)] at hlist
  exact Text.repr_inj (String.toList_injective (List.append_cancel_left hlist))

theorem notMem_crowdIds : "vm-deletions-x" ∉ crowdIds := by
  intro hmem
  obtain ⟨actor, hactor, heq⟩ := List.mem_map.mp hmem
  obtain ⟨i, hi, rfl⟩ := List.mem_map.mp hactor
  rw [slug_repr (List.mem_range.mp hi)] at heq
  have hlist : "vm-deletions-".toList ++ (Nat.repr i).toList = "vm-deletions-".toList ++ "x".toList := by
    rw [← String.toList_append, heq]
    rfl
  have hx : 'x' ∈ (Nat.repr i).toList := by
    rw [List.append_cancel_left hlist]
    decide
  exact Text.not_mem_repr rfl i hx

variable (api shared) in
theorem crowd_pushes_out (s : Alerting) (hposts : e.posts = true) (hsaves : e.saves = true)
    (hremembered : e.remembered s.stored = ["vm-deletions-x"])
    (hstands : ∀ ident ∈ crowdIds, e.Stands api shared ident) :
    "vm-deletions-x" ∉ alertedIds (s.step api shared e).stored := by
  have hsubset : crowdIds ⊆ (evaluateThreatAlerts api shared s.stored e).posted.map ThreatFinding.id := by
    intro ident hident
    obtain ⟨findings, hfindings, hmem⟩ := hstands ident hident
    rw [postedIds_eq hposts hfindings, hremembered]
    refine mem_fresh.mpr ⟨hmem, fun hold => ?_⟩
    rw [List.mem_singleton.mp hold] at hident
    exact notMem_crowdIds hident
  have hlength : 200 ≤ ((evaluateThreatAlerts api shared s.stored e).posted.map ThreatFinding.id).length := by
    rw [← length_crowdIds]
    exact (List.subperm_of_subset crowdIds_nodup hsubset).length_le
  have hposted : (evaluateThreatAlerts api shared s.stored e).posted ≠ [] := by
    intro hnone
    rw [hnone] at hlength
    cases hlength
  rw [Alerting.step, stored_eq hposts hsaves hposted, hremembered]
  obtain ⟨ident, hident⟩ := List.exists_mem_of_length_pos (l := crowdIds) (by rw [length_crowdIds]; decide)
  obtain ⟨findings, hfindings, -⟩ := hstands ident hident
  rw [postedIds_eq hposts hfindings, hremembered] at hlength ⊢
  exact pushed_out List.mem_cons_self hlength

/-- A deletion by an actor, then by many more, then no more: the finding about the first one stands throughout. -/
theorem not_posted_once_crowd : ¬ ∀ (before rest : List Evaluation) (e : Evaluation) (ident : String),
    (∀ e' ∈ e :: rest, e'.posts = true ∧ e'.saves = true) →
    ident ∉ postedIds (run hooks (fun _ => false) before).past →
    ident ∈ postedIds (run hooks (fun _ => false) (before ++ [e])).past →
    (∀ e' ∈ rest, e'.Stands hooks (fun _ => false) ident) →
      (postedIds (run hooks (fun _ => false) (before ++ e :: rest)).past).count ident = 1 := by
  intro h
  have hslug : "vm-deletions-" ++ slug "x" = "vm-deletions-x" := by decide +kernel
  obtain ⟨crowded, hcrowded⟩ : ∃ e, noon (("x" :: crowd).map deletion) = e := ⟨_, rfl⟩
  have hlength : ("x" :: crowd).length ≤ 5000 := by
    rw [List.length_cons, crowd, List.length_map, List.length_range]
    decide
  have hcrowd : ∀ ident ∈ crowdIds, crowded.Stands hooks (fun _ => false) ident := by
    intro ident hident
    obtain ⟨actor, hactor, rfl⟩ := List.mem_map.mp hident
    rw [← hcrowded]
    exact deletions_stand _ hlength (List.mem_cons_of_mem "x" hactor)
  have hx : crowded.Stands hooks (fun _ => false) "vm-deletions-x" := by
    rw [← hcrowded, ← hslug]
    exact deletions_stand _ hlength List.mem_cons_self
  have hlone : (noon [deletion "x"]).Stands hooks (fun _ => false) "vm-deletions-x" := by
    rw [← hslug]
    exact deletions_stand ["x"] (by decide) List.mem_cons_self
  have hworks : crowded.posts = true ∧ crowded.saves = true ∧ crowded.readsAlerted = true := by
    rw [← hcrowded]
    exact ⟨rfl, rfl, rfl⟩
  obtain ⟨s, hs⟩ : ∃ s, run hooks (fun _ => false) [noon [deletion "x"]] = s := ⟨_, rfl⟩
  have hposted : postedIds s.past = ["vm-deletions-x"] := by
    rw [← hs]
    decide +kernel
  have hstored : alertedIds s.stored = ["vm-deletions-x"] := by
    rw [← hs]
    decide +kernel
  have honce := h [] [crowded, noon [deletion "x"]] (noon [deletion "x"]) "vm-deletions-x" ?_ (by decide) ?_ ?_
  · have hsplit : run hooks (fun _ => false) ([] ++ noon [deletion "x"] :: [crowded, noon [deletion "x"]]) =
        (s.step hooks (fun _ => false) crowded).step hooks (fun _ => false) (noon [deletion "x"]) := by
      rw [← hs]
      rfl
    have hforgotten := crowd_pushes_out hooks (fun _ => false) s hworks.1 hworks.2.1
      (by rw [Evaluation.remembered, if_pos hworks.2.2, hstored]) hcrowd
    have hagain := mt (count_posted_eq_zero_iff rfl hlone).mp hforgotten
    have hle := count_le_run hooks (fun _ => false) [crowded] s "vm-deletions-x"
    rw [hposted] at hle
    rw [hsplit, postedIds_step, List.count_append] at honce
    simp only [List.foldl_cons, List.foldl_nil, List.count_singleton_self] at hle
    omega
  · intro e hmem
    obtain rfl | rfl | rfl : e = noon [deletion "x"] ∨ e = crowded ∨ e = noon [deletion "x"] := by
      simpa using hmem
    · exact ⟨rfl, rfl⟩
    · exact ⟨hworks.1, hworks.2.1⟩
    · exact ⟨rfl, rfl⟩
  · rw [List.nil_append, hs, hposted]
    exact List.mem_cons_self
  · intro e hmem
    obtain rfl | rfl : e = crowded ∨ e = noon [deletion "x"] := by simpa using hmem
    · exact hx
    · exact hlone

end ProxVM.Threats
