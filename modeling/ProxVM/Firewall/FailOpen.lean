import Mathlib.Data.List.Infix
import ProxVM.Firewall.Chain

/-!
# What a failed change of the isolation admits

The packets that a guest's firewall admits, by the first rule of the chain that says anything of them
and else by the policy, before and after a call of `applyIsolation` or `removeIsolation` of
`services/firewall.ts` that Proxmox stops at any of its calls.
-/

namespace ProxVM

open Fallible Firewall

/-! ## Packets -/

structure Traffic where
  Packet : Type
  direction : Packet → Direction
  verdict : ChainRule → Packet → Option RuleAction

def GuestFirewall.policy (g : GuestFirewall) : Direction → RuleAction
  | .inbound => g.policyIn
  | .outbound => g.policyOut

namespace Traffic

variable (t : Traffic)

def decides (rules : List ChainRule) (p : t.Packet) : Option RuleAction :=
  rules.findSome? fun r => t.verdict r p

def accepts (g : GuestFirewall) (p : t.Packet) : Prop :=
  (t.decides g.rules p).getD (g.policy (t.direction p)) = .accept

instance (g : GuestFirewall) (p : t.Packet) : Decidable (t.accepts g p) :=
  inferInstanceAs (Decidable (_ = _))

/-- The firewall of the guest admits the packet.  One that is switched off, in the cluster or for the
guest, admits everything. -/
def admits (c : Firewalls) (node : String) (vmid : Nat) (p : t.Packet) : Prop :=
  c.clusterEnable = true → (c.guest node vmid).enable = true → t.accepts (c.guest node vmid) p

instance (c : Firewalls) (node : String) (vmid : Nat) (p : t.Packet) :
    Decidable (t.admits c node vmid p) :=
  inferInstanceAs (Decidable (_ → _ → _))

variable {t : Traffic} {p : t.Packet}

theorem decides_append (a b : List ChainRule) :
    t.decides (a ++ b) p = (t.decides a p).or (t.decides b p) := List.findSome?_append

theorem decides_cons (r : ChainRule) (rules : List ChainRule) :
    t.decides (r :: rules) p = (t.verdict r p).or (t.decides rules p) := by
  unfold decides
  rw [List.findSome?_cons]
  cases t.verdict r p with
  | none => rfl
  | some action => rfl

theorem decides_none_of_subset {a b : List ChainRule} (hsubset : a ⊆ b)
    (hnone : t.decides b p = none) : t.decides a p = none := by
  rw [decides, List.findSome?_eq_none_iff] at hnone ⊢
  exact fun r hr => hnone r (hsubset hr)

/-! ## Chains without some of ProxVM's rules -/

theorem decides_deleted (a b : List ChainRule) :
    t.decides (a ++ b.filter ChainRule.foreign) p = t.decides (a ++ b) p ∨
      t.decides (a ++ b.filter ChainRule.foreign) p = t.decides ((a ++ b).filter ChainRule.foreign) p := by
  cases hfirst : t.decides a p with
  | some action =>
      left
      rw [decides_append, decides_append, hfirst]
      rfl
  | none =>
      right
      have hforeign := decides_none_of_subset
        (List.filter_subset_self (p := ChainRule.foreign) a) hfirst
      rw [List.filter_append, decides_append, decides_append, hfirst, hforeign]

end Traffic

def onlyFirst : List ChainRule → List ChainRule
  | [] => []
  | r :: rules => r :: if r.own then rules.filter ChainRule.foreign else onlyFirst rules

theorem mem_deletions {rules chain : List ChainRule} (h : chain ∈ deletions rules) :
    ∃ a b, rules = a ++ b ∧ chain = a ++ b.filter ChainRule.foreign ∧ ∃ r ∈ a, r.own = true := by
  induction rules generalizing chain with
  | nil => cases h
  | cons r rules ih =>
      rw [deletions_cons, List.mem_append] at h
      rcases h with h | h
      · obtain ⟨chain, hchain, rfl⟩ := List.mem_map.mp h
        obtain ⟨a, b, rfl, rfl, own, hmem, hown⟩ := ih hchain
        exact ⟨r :: a, b, rfl, rfl, own, List.mem_cons_of_mem r hmem, hown⟩
      · split at h
        · next hown =>
            obtain rfl := List.mem_singleton.mp h
            exact ⟨[r], rules, rfl, rfl, r, List.mem_singleton_self r, hown⟩
        · cases h

variable {rules : List ChainRule}

theorem onlyFirst_mem_deletions (hown : ∃ r ∈ rules, r.own = true) : onlyFirst rules ∈ deletions rules := by
  induction rules with
  | nil => exact absurd hown (by simp)
  | cons r rules ih =>
      rw [deletions_cons, List.mem_append, onlyFirst]
      cases hr : r.own with
      | true => exact .inr (List.mem_singleton_self _)
      | false =>
          left
          refine List.mem_map_of_mem (ih ?_)
          obtain ⟨own, hmem, hown⟩ := hown
          rcases List.mem_cons.mp hmem with rfl | hmem
          · exact absurd hown (by rw [hr]; exact Bool.false_ne_true)
          · exact ⟨own, hmem, hown⟩

theorem onlyFirst_of_none (hnone : ¬ ∃ r ∈ rules, r.own = true) : onlyFirst rules = rules := by
  induction rules with
  | nil => rfl
  | cons r rules ih =>
      have hr : r.own = false := by
        by_contra hown
        exact hnone ⟨r, List.mem_cons_self, Bool.eq_true_of_not_eq_false hown⟩
      rw [onlyFirst, hr, if_neg Bool.false_ne_true, ih]
      exact fun ⟨own, hmem, hown⟩ => hnone ⟨own, List.mem_cons_of_mem r hmem, hown⟩

theorem onlyFirst_subset (rules : List ChainRule) : onlyFirst rules ⊆ rules := by
  induction rules with
  | nil => exact List.Subset.refl _
  | cons r rules ih =>
      rw [onlyFirst]
      refine List.cons_subset_cons r ?_
      cases r.own with
      | true => exact List.filter_subset_self rules
      | false => exact ih

theorem onlyFirst_append {a : List ChainRule} (b : List ChainRule) (hown : ∃ r ∈ a, r.own = true) :
    onlyFirst (a ++ b) = onlyFirst a ++ b.filter ChainRule.foreign := by
  induction a with
  | nil => exact absurd hown (by simp)
  | cons r a ih =>
      rw [List.cons_append, onlyFirst, onlyFirst]
      cases hr : r.own with
      | true => simp
      | false =>
          obtain ⟨own, hmem, hown⟩ := hown
          rcases List.mem_cons.mp hmem with rfl | hmem
          · exact absurd hown (by rw [hr]; exact Bool.false_ne_true)
          · exact congrArg (r :: ·) (ih ⟨own, hmem, hown⟩)

theorem Traffic.decides_released {t : Traffic} {p : t.Packet} {a b : List ChainRule}
    (hown : ∃ r ∈ a, r.own = true) : t.decides (a ++ b.filter ChainRule.foreign) p = t.decides (a ++ b) p ∨
      t.decides (a ++ b.filter ChainRule.foreign) p = t.decides (onlyFirst (a ++ b)) p := by
  cases hfirst : t.decides a p with
  | some action =>
      left
      rw [decides_append, decides_append, hfirst]
      rfl
  | none =>
      right
      have honly := decides_none_of_subset (onlyFirst_subset a) hfirst
      rw [onlyFirst_append b hown, decides_append, decides_append, hfirst, honly]

/-! ## Every failing call -/

section calls

variable (t : Traffic) (node : String) (vmid : Nat)

def FailsOpen (m : FleetProgram FirewallServer Nat) (w : FleetWorld FirewallServer) : Prop :=
  ∀ script, after m (fun r w' => r.isOk = false → ∀ p,
    t.admits w.proxmox.state node vmid p → t.admits w'.proxmox.state node vmid p)
      { w with proxmox := ⟨w.proxmox.state, script⟩ }

/-- The firewall that is switched on, and without ProxVM's rules, accepts what the guest admits; and
no new rule drops it. -/
def ApplyFailsOpen (opts : IsolationOptions) (c : Firewalls) : Prop :=
  c.clusterEnable = true → ∀ rules, buildIsolationRules opts = .ok rules →
    ∀ p, t.admits c node vmid p →
      t.accepts (c.guest node vmid) p ∧
      t.accepts ((c.guest node vmid).withRules
        ((c.guest node vmid).rules.filter ChainRule.foreign)) p ∧
      ∀ rule ∈ rules, ∀ action, t.verdict (posted rule) p = some action → action = .accept

def RemoveFailsOpen (c : Firewalls) : Prop :=
  c.clusterEnable = true → (c.guest node vmid).enable = true →
    ∀ p, t.accepts (c.guest node vmid) p →
      (t.decides (onlyFirst (c.guest node vmid).rules) p).getD .accept = .accept

variable {t node vmid} {c : Firewalls} {p : t.Packet} {vmId : VmId} {opts : IsolationOptions}
  {w : FleetWorld FirewallServer}

theorem admits_put {g : GuestFirewall} : t.admits (c.put node vmid g) node vmid p ↔
      (c.clusterEnable = true → g.enable = true → t.accepts g p) := by
  unfold Traffic.admits
  rw [Firewalls.guest_put, Firewalls.clusterEnable_put]

theorem accepts_created {g : GuestFirewall} {created : List IsolationRule} {chain : List ChainRule}
    (haccept : ∀ rule ∈ created, ∀ action, t.verdict (posted rule) p = some action → action = .accept)
    (hchain : t.accepts (g.withRules chain) p) : t.accepts (g.withRules (created.map posted ++ chain)) p := by
  induction created with
  | nil => exact hchain
  | cons rule created ih =>
      have hlater := ih fun rule hrule => haccept rule (List.mem_cons_of_mem _ hrule)
      unfold Traffic.accepts at hlater ⊢
      change (t.decides (posted rule :: (created.map posted ++ chain)) p).getD _ = _
      rw [Traffic.decides_cons]
      cases hverdict : t.verdict (posted rule) p with
      | none => exact hlater
      | some action => exact haccept rule List.mem_cons_self action hverdict

theorem applyIsolation_failsOpen (h : ApplyFailsOpen t node vmid opts w.proxmox.state) :
    FailsOpen t node vmid (applyIsolation firewallApi vmId node vmid opts) w := by
  intro script
  refine after_mono (applyIsolation_leaves opts) fun r w' hleaves hfailed p hadmits => ?_
  cases r with
  | ok n => cases hfailed
  | error e =>
      rcases hleaves with hsame | ⟨hcluster, rules, hbuild, hmem⟩
      · rwa [hsame]
      · obtain ⟨hon, hforeign, hcreated⟩ := h hcluster rules hbuild p hadmits
        rcases List.mem_append.mp hmem with hmem | hmem
        · simp only [List.mem_cons, List.not_mem_nil, or_false] at hmem
          rcases hmem with hstate | hstate | hstate
          · rwa [hstate]
          · rwa [hstate]
          · rw [hstate]
            exact admits_put.mpr fun _ _ => hon
        · obtain ⟨chain, hchain, hstate⟩ := List.mem_map.mp hmem
          rw [← hstate]
          refine admits_put.mpr fun _ _ => ?_
          rcases List.mem_append.mp hchain with hchain | hchain
          · -- Some of ProxVM's rules are deleted.
            obtain ⟨a, b, hrules, rfl, -⟩ := mem_deletions hchain
            unfold Traffic.accepts at hon hforeign ⊢
            change (w.proxmox.state.guest node vmid).rules = a ++ b at hrules
            change (t.decides ((w.proxmox.state.guest node vmid).rules.filter
              ChainRule.foreign) p).getD _ = _ at hforeign
            change (t.decides (a ++ b.filter ChainRule.foreign) p).getD _ = _
            rw [hrules] at hon hforeign
            rcases Traffic.decides_deleted a b with hdecides | hdecides
            · rw [hdecides]
              exact hon
            · rw [hdecides]
              exact hforeign
          · obtain ⟨created, hsuffix, rfl⟩ := List.mem_map.mp hchain
            rw [List.mem_reverse, List.mem_tails] at hsuffix
            exact accepts_created (fun rule hrule => hcreated rule (hsuffix.subset hrule)) hforeign

theorem removeIsolation_failsOpen (h : RemoveFailsOpen t node vmid w.proxmox.state) :
    FailsOpen t node vmid (removeIsolation firewallApi vmId node vmid) w := by
  intro script
  refine after_mono removeIsolation_leaves fun r w' hleaves hfailed p hadmits => ?_
  cases r with
  | ok n => cases hfailed
  | error e =>
      -- The open policies accept what no rule decides.
      have hopen : ∀ decision : Option RuleAction, ∀ policy : RuleAction,
          decision.getD policy = .accept → decision.getD .accept = .accept := by
        intro decision policy haccepts
        cases decision with
        | none => rfl
        | some action => exact haccepts
      have hpolicy : ∀ (direction : Direction) (rules : List ChainRule),
          (((w.proxmox.state.guest node vmid).patch
            { policyIn := some .accept, policyOut := some .accept }).withRules rules).policy
              direction = .accept := by
        intro direction rules
        cases direction with
        | inbound => rfl
        | outbound => rfl
      rcases List.mem_append.mp hleaves with hmem | hmem
      · rcases List.mem_cons.mp hmem with hstate | hmem
        · rwa [hstate]
        · obtain hstate := List.mem_singleton.mp hmem
          rw [hstate]
          refine admits_put.mpr fun hcluster henabled => ?_
          have haccepts := hadmits hcluster henabled
          unfold Traffic.accepts at haccepts ⊢
          exact (congrArg _ (hpolicy _ _)).trans (hopen _ _ haccepts)
      · obtain ⟨chain, hchain, hstate⟩ := List.mem_map.mp hmem
        rw [← hstate]
        refine admits_put.mpr fun hcluster henabled => ?_
        have haccepts := hadmits hcluster henabled
        have honly := h hcluster henabled p haccepts
        obtain ⟨a, b, hrules, rfl, hown⟩ := mem_deletions hchain
        change (w.proxmox.state.guest node vmid).rules = a ++ b at hrules
        unfold Traffic.accepts at haccepts ⊢
        rw [hpolicy]
        change (t.decides (a ++ b.filter ChainRule.foreign) p).getD .accept = .accept
        rw [hrules] at honly haccepts
        rcases Traffic.decides_released hown with hdecides | hdecides
        · rw [hdecides]
          exact hopen _ _ haccepts
        · rw [hdecides]
          exact honly

def stopped : AppError := { code := .proxmoxError, message := "Proxmox API HTTP 500", statusCode := 502 }

theorem FailsOpen.of_fault {m : Program AppError FirewallServer Nat} {f : VmPolicy → VmPolicy}
    {visited : List Firewalls} {r : Except AppError Nat} {c' s' : Firewalls}
    (h : FailsOpen t node vmid (onProxmox m >>= fun n => setPolicy vmId f >>= fun _ => pure n) w)
    (hpasses : Passes m w.proxmox.state visited r s') (hmem : c' ∈ visited)
    (hadmits : t.admits w.proxmox.state node vmid p) : t.admits c' node vmid p := by
  obtain ⟨script, hexec⟩ := hpasses.fault hmem stopped
  have hstopped : exec (onProxmox m) { w with proxmox := ⟨w.proxmox.state, script⟩ } =
      (.error stopped, { w with proxmox := ⟨c', []⟩ }) := by
    change ((exec m ⟨w.proxmox.state, script⟩).1, _) = _
    rw [hexec]
  have hleft := h script
  rw [after_iff, exec_bind_error hstopped] at hleft
  exact hleft rfl p hadmits

theorem applyFailsOpen_of_failsOpen
    (h : FailsOpen t node vmid (applyIsolation firewallApi vmId node vmid opts) w) :
    ApplyFailsOpen t node vmid opts w.proxmox.state := by
  intro hcluster rules hbuild p hadmits
  rw [applyIsolation_eq] at h
  have hkeeps : ∀ c' ∈ isolationStates node vmid w.proxmox.state rules, t.admits c' node vmid p :=
    fun c' hmem => h.of_fault (passes_isolate node vmid _ hcluster hbuild) hmem hadmits
  -- The new rules from some on, before the others.
  have hcreated : ∀ created, created <:+ rules → t.accepts ((w.proxmox.state.guest node vmid).withRules
      (created.map posted ++ (w.proxmox.state.guest node vmid).rules.filter ChainRule.foreign)) p := by
    intro created hsuffix
    have hstate := hkeeps _ (List.mem_append_right _ (List.mem_map_of_mem (List.mem_append_right _
      (List.mem_map_of_mem (List.mem_reverse.mpr ((List.mem_tails _ _).mpr hsuffix))))))
    have haccepts := admits_put.mp hstate hcluster rfl
    exact haccepts
  refine ⟨?_, hcreated [] (List.nil_suffix), fun rule hrule action hverdict => ?_⟩
  · have hstate := hkeeps _ (List.mem_append_left _
      (List.mem_cons_of_mem _ (List.mem_cons_of_mem _ (List.mem_singleton_self _))))
    have haccepts := admits_put.mp hstate hcluster rfl
    exact haccepts
  · obtain ⟨before, after, rfl⟩ := List.append_of_mem hrule
    have haccepts := hcreated (rule :: after) (List.suffix_append _ _)
    unfold Traffic.accepts at haccepts
    change (t.decides (posted rule :: _) p).getD _ = _ at haccepts
    rw [Traffic.decides_cons, hverdict] at haccepts
    exact haccepts

theorem removeFailsOpen_of_failsOpen
    (h : FailsOpen t node vmid (removeIsolation firewallApi vmId node vmid) w) :
    RemoveFailsOpen t node vmid w.proxmox.state := by
  intro hcluster henabled p haccepts
  rw [removeIsolation_eq] at h
  set g := (w.proxmox.state.guest node vmid).patch
    { policyIn := some .accept, policyOut := some .accept } with hg
  have hadmits : t.admits w.proxmox.state node vmid p := fun _ _ => haccepts
  have hkeeps : ∀ c' ∈ releaseStates node vmid w.proxmox.state, t.admits c' node vmid p :=
    fun c' hmem => h.of_fault (passes_release node vmid _) hmem hadmits
  have hstate : w.proxmox.state.put node vmid (g.withRules (onlyFirst g.rules)) ∈
      releaseStates node vmid w.proxmox.state := by
    by_cases hown : ∃ r ∈ g.rules, r.own = true
    · exact List.mem_append_right _ (List.mem_map_of_mem (onlyFirst_mem_deletions hown))
    · rw [onlyFirst_of_none hown]
      exact List.mem_append_left _ (List.mem_cons_of_mem _ (List.mem_singleton_self _))
  have honly := admits_put.mp (hkeeps _ hstate) hcluster henabled
  unfold Traffic.accepts at honly
  have hpolicy : (g.withRules (onlyFirst g.rules)).policy (t.direction p) = .accept := by
    cases t.direction p with
    | inbound => rfl
    | outbound => rfl
  rw [hpolicy] at honly
  exact honly

/-- **Every packet stays admitted, whichever call fails**, exactly if the rules that a change keeps all
along admit it. -/
theorem failed_isolation_admits_iff (t : Traffic) (vmId : VmId) (node : String) (vmid : Nat)
    (opts : IsolationOptions) (w : FleetWorld FirewallServer) :
    (FailsOpen t node vmid (applyIsolation firewallApi vmId node vmid opts) w ↔
      ApplyFailsOpen t node vmid opts w.proxmox.state) ∧
    (FailsOpen t node vmid (removeIsolation firewallApi vmId node vmid) w ↔
      RemoveFailsOpen t node vmid w.proxmox.state) :=
  ⟨⟨applyFailsOpen_of_failsOpen, applyIsolation_failsOpen⟩,
    ⟨removeFailsOpen_of_failsOpen, removeIsolation_failsOpen⟩⟩

end calls

def plainTraffic : Traffic where
  Packet := Direction × String × String
  direction := fun p => p.1
  verdict := fun r p =>
    if r.type = p.1.text ∧ (r.dport.all fun port => port = p.2.1) ∧
        (r.source.all fun source => source = p.2.2) then
      if r.action = "ACCEPT" then some .accept else some .drop
    else none

def lockoutSample : FleetWorld FirewallServer where
  db := Db.sample
  policies := fun _ => ⟨.server, true, false⟩
  schedules := .empty
  proxmox :=
    { state :=
        { clusterEnable := true
          guest := fun _ _ =>
            { enable := true, policyIn := .drop, policyOut := .drop
              rules := (remoteAccessRules ["22"] "10.0.0.5").map posted } }
      script := [] }

def remoteAccess : plainTraffic.Packet := (.inbound, "22", "10.0.0.5")

def reapplied : Except AppError Nat × FleetWorld FirewallServer :=
  exec (applyIsolation firewallApi 30 "pve1" 100
      { allowFrom := some "10.0.0.5", inboundPorts := ["22"], allowInternet := some false })
    { lockoutSample with
      proxmox := ⟨lockoutSample.proxmox.state, [none, none, none, none, some stopped]⟩ }

/-- The old rule is deleted, and the new one is refused. -/
theorem reapplied_locked_out : ¬ FailsOpen plainTraffic "pve1" 100 (applyIsolation firewallApi 30 "pve1" 100
        { allowFrom := some "10.0.0.5", inboundPorts := ["22"], allowInternet := some false })
      lockoutSample := by
  intro h
  have hleft : reapplied.1.isOk = false → ∀ p : plainTraffic.Packet,
      plainTraffic.admits lockoutSample.proxmox.state "pve1" 100 p →
        plainTraffic.admits reapplied.2.proxmox.state "pve1" 100 p :=
    h [none, none, none, none, some stopped]
  have hfailed : reapplied.1.isOk = false := by decide +kernel
  have hbefore : plainTraffic.admits lockoutSample.proxmox.state "pve1" 100 remoteAccess := by
    decide +kernel
  have hafter : ¬ plainTraffic.admits reapplied.2.proxmox.state "pve1" 100 remoteAccess := by
    decide +kernel
  exact hafter (hleft hfailed _ hbefore)

end ProxVM
