import ProxVM.Db.Seeds
import ProxVM.Firewall.Isolation
import ProxVM.Lib.Faults

/-!
# The rule chain of an isolated VM

A Proxmox server on whose guests `applyIsolation` and `removeIsolation` of
`services/firewall.ts` are run.  A rule's `pos` is its index in the chain, `POST`
with `pos` 0 puts a rule in front and `DELETE` removes the rule at an index; every call may fail, and
one that does changes nothing.
-/

namespace ProxVM

open Fallible Firewall

/-! ## The server -/

/-- A rule in the chain of a guest; `rest` is what ProxVM never sets, `iface` and `macro` say. -/
structure ChainRule where
  type : String
  action : String
  enable : Bool
  proto : Option String
  dport : Option String
  sport : Option String
  source : Option String
  dest : Option String
  comment : Option String
  rest : List (String × String) := []
  deriving DecidableEq, Repr

structure GuestFirewall where
  enable : Bool
  policyIn : RuleAction
  policyOut : RuleAction
  rules : List ChainRule
  deriving DecidableEq, Repr

structure Firewalls where
  clusterEnable : Bool
  guest : String → Nat → GuestFirewall

namespace ChainRule

def own (r : ChainRule) : Bool := isProxvmRule r.comment

def foreign (r : ChainRule) : Bool := !r.own

def listed (r : ChainRule) (pos : Nat) : GuestRule :=
  { pos := some pos, type := some r.type, action := some r.action, proto := r.proto
    dport := r.dport, source := r.source, dest := r.dest, comment := r.comment }

end ChainRule

namespace Firewall

/-- `GET …/firewall/rules`. -/
def ruleListing (rules : List ChainRule) : List GuestRule :=
  rules.zipIdx.map fun entry => entry.1.listed entry.2

/-- The rule that `createGuestFirewallRule` posts: empty fields are left out. -/
def posted (rule : IsolationRule) : ChainRule :=
  { type := rule.type.text, action := rule.action.text, enable := true, proto := given rule.proto
    dport := given rule.dport, sport := given rule.sport, source := given rule.source
    dest := given rule.dest, comment := given rule.comment }

def insertRule (rules : List ChainRule) (pos : Nat) (rule : ChainRule) : List ChainRule :=
  if pos < rules.length then rules.insertIdx pos rule else rule :: rules

end Firewall

namespace GuestFirewall

/-- `PUT …/firewall/options`. -/
def patch (g : GuestFirewall) (opts : FirewallPatch) : GuestFirewall :=
  { g with
    enable := opts.enable.getD g.enable
    policyIn := opts.policyIn.getD g.policyIn
    policyOut := opts.policyOut.getD g.policyOut }

end GuestFirewall

namespace Firewalls

def put (c : Firewalls) (node : String) (vmid : Nat) (g : GuestFirewall) : Firewalls :=
  { c with guest := fun n v => if n = node ∧ v = vmid then g else c.guest n v }

variable {c : Firewalls} {node : String} {vmid : Nat} {g g' : GuestFirewall}

@[simp] theorem guest_put : (c.put node vmid g).guest node vmid = g := if_pos ⟨rfl, rfl⟩

@[simp] theorem clusterEnable_put : (c.put node vmid g).clusterEnable = c.clusterEnable := rfl

@[simp] theorem put_put : (c.put node vmid g).put node vmid g' = c.put node vmid g' := by
  unfold put
  simp only [mk.injEq, true_and]
  funext n v
  by_cases hguest : n = node ∧ v = vmid
  · rw [if_pos hguest, if_pos hguest]
  · rw [if_neg hguest, if_neg hguest, if_neg hguest]

end Firewalls

abbrev FirewallServer := Scripted AppError Firewalls

def changeGuest (node : String) (vmid : Nat) (f : GuestFirewall → GuestFirewall) :
    Program AppError FirewallServer Unit :=
  scripted fun c => (.ok (), c.put node vmid (f (c.guest node vmid)))

/-- The calls on firewalls.  `updateOnboot` touches none. -/
def firewallApi : ProxmoxApi FirewallServer where
  clusterFirewallEnable := scripted fun c => (.ok c.clusterEnable, c)
  guestFirewallOptions node vmid := scripted fun c =>
    let g := c.guest node vmid
    (.ok { enable := g.enable, policyIn := some g.policyIn.text, policyOut := some g.policyOut.text }, c)
  setGuestFirewallOptions node vmid opts := changeGuest node vmid fun g => g.patch opts
  guestFirewallRules node vmid := scripted fun c => (.ok (ruleListing (c.guest node vmid).rules), c)
  createGuestFirewallRule node vmid rule pos := changeGuest node vmid fun g =>
    { g with rules := insertRule g.rules pos (posted rule) }
  deleteGuestFirewallRule node vmid pos := changeGuest node vmid fun g =>
    { g with rules := g.rules.eraseIdx pos }
  updateOnboot _ _ _ := scripted fun c => (.ok (), c)

/-! ## The positions of ProxVM's rules -/

def ownPositions : List ChainRule → List Nat
  | [] => []
  | r :: rules => (if r.own then [0] else []) ++ (ownPositions rules).map Nat.succ

theorem pairwise_ownPositions (rules : List ChainRule) : (ownPositions rules).Pairwise (· < ·) := by
  induction rules with
  | nil => exact List.Pairwise.nil
  | cons r rules ih =>
      have hlater : ((ownPositions rules).map Nat.succ).Pairwise (· < ·) :=
        List.pairwise_map.mpr (ih.imp fun h => Nat.succ_lt_succ h)
      unfold ownPositions
      cases r.own with
      | false => exact hlater
      | true =>
          refine List.Pairwise.cons (fun pos hpos => ?_) hlater
          obtain ⟨n, -, rfl⟩ := List.mem_map.mp hpos
          exact Nat.succ_pos n

theorem filterMap_pos_ruleListing (rules : List ChainRule) (n : Nat) :
    (((rules.zipIdx n).map fun entry => entry.1.listed entry.2).filter
      fun r => isProxvmRule r.comment).filterMap GuestRule.pos = (ownPositions rules).map (· + n) := by
  induction rules generalizing n with
  | nil => rfl
  | cons r rules ih =>
      have hlater : (ownPositions rules).map (· + (n + 1)) =
          ((ownPositions rules).map Nat.succ).map (· + n) := by
        rw [List.map_map]
        refine List.map_congr_left fun pos _ => ?_
        simp only [Function.comp_apply]
        omega
      have hown : isProxvmRule (r.listed n).comment = r.own := rfl
      rw [List.zipIdx_cons, List.map_cons, List.filter_cons, hown]
      unfold ownPositions
      cases r.own with
      | false =>
          rw [if_neg Bool.false_ne_true, ih, hlater]
          rfl
      | true =>
          have hpos : (r.listed n).pos = some n := rfl
          rw [if_pos rfl]
          dsimp only
          rw [List.filterMap_cons_some hpos, ih, hlater]
          simp

/-- **The positions are deleted from the last one on.** -/
theorem proxvmPositions_ruleListing (rules : List ChainRule) :
    proxvmPositions (ruleListing rules) = (ownPositions rules).reverse := by
  have hpositions := filterMap_pos_ruleListing rules 0
  simp only [Nat.add_zero, List.map_id'] at hpositions
  unfold proxvmPositions ruleListing
  rw [hpositions]
  refine List.Perm.eq_of_sortedGE (List.pairwise_insertionSort _ _).sortedGE ?_ ?_
  · have hdescending := List.pairwise_reverse.mpr (pairwise_ownPositions rules)
    exact (hdescending.imp fun h => Nat.le_of_lt h).sortedGE
  · exact (List.perm_insertionSort _ _).trans (List.reverse_perm _).symm

/-! ## Deleting them -/

def deletions (rules : List ChainRule) : List (List ChainRule) :=
  visits (fun pos rules => rules.eraseIdx pos) (ownPositions rules).reverse rules

theorem foldl_eraseIdx_succ (positions : List Nat) (r : ChainRule) (rules : List ChainRule) :
    (positions.map Nat.succ).foldl (fun rules pos => rules.eraseIdx pos) (r :: rules) =
      r :: positions.foldl (fun rules pos => rules.eraseIdx pos) rules := by
  induction positions generalizing rules with
  | nil => rfl
  | cons pos positions ih => exact ih (rules.eraseIdx pos)

theorem visits_eraseIdx_succ (positions : List Nat) (r : ChainRule) (rules : List ChainRule) :
    visits (fun pos rules => rules.eraseIdx pos) (positions.map Nat.succ) (r :: rules) =
      (visits (fun pos rules => rules.eraseIdx pos) positions rules).map (r :: ·) := by
  induction positions generalizing rules with
  | nil => rfl
  | cons pos positions ih => exact congrArg ((r :: rules) :: ·) (ih (rules.eraseIdx pos))

theorem reverse_ownPositions_cons (r : ChainRule) (rules : List ChainRule) :
    (ownPositions (r :: rules)).reverse =
      (ownPositions rules).reverse.map Nat.succ ++ if r.own then [0] else [] := by
  rw [ownPositions]
  cases r.own with
  | false => simp
  | true => simp

/-- **The rules that ProxVM did not make are left**, in their order. -/
theorem foldl_eraseIdx_ownPositions (rules : List ChainRule) :
    (ownPositions rules).reverse.foldl (fun rules pos => rules.eraseIdx pos) rules =
      rules.filter ChainRule.foreign := by
  induction rules with
  | nil => rfl
  | cons r rules ih =>
      rw [reverse_ownPositions_cons, List.foldl_append, foldl_eraseIdx_succ, ih, List.filter_cons]
      unfold ChainRule.foreign
      cases r.own with
      | false => rfl
      | true => rfl

theorem deletions_cons (r : ChainRule) (rules : List ChainRule) :
    deletions (r :: rules) = (deletions rules).map (r :: ·) ++
      if r.own then [r :: rules.filter ChainRule.foreign] else [] := by
  unfold deletions
  rw [reverse_ownPositions_cons, visits_append, visits_eraseIdx_succ, foldl_eraseIdx_succ,
    foldl_eraseIdx_ownPositions]
  cases r.own with
  | false => rfl
  | true => rfl

/-! ## The calls -/

section calls

variable {P : Type} (proxmox : ProxmoxApi P) (node : String) (vmid : Nat)

def deleteOwn : Program AppError P Nat := do
  let existing ← proxmox.guestFirewallRules node vmid
  forM (proxvmPositions existing) fun pos => proxmox.deleteGuestFirewallRule node vmid pos
  pure (proxvmPositions existing).length

def isolate (opts : IsolationOptions) : Program AppError P Nat := do
  let enabled ← proxmox.clusterFirewallEnable
  ensure enabled (AppError.validation ("Proxmox cluster firewall is disabled, so guest rules would " ++
    "be silently ignored. Enable it once (Datacenter → Firewall → Options) and retry — ProxVM will " ++
    "not touch datacenter config itself."))
  let rules ← outcome (buildIsolationRules opts)
  proxmox.setGuestFirewallOptions node vmid { enable := some true }
  let _ ← deleteOwn proxmox node vmid
  forM rules.reverse fun rule => proxmox.createGuestFirewallRule node vmid rule 0
  proxmox.setGuestFirewallOptions node vmid
    { enable := some true, policyIn := some .drop, policyOut := some .drop }
  pure rules.length

/-- `removeIsolation`, on the server alone. -/
def release : Program AppError P Nat := do
  proxmox.setGuestFirewallOptions node vmid
    { policyIn := some .accept, policyOut := some .accept }
  deleteOwn proxmox node vmid

variable {α β ι : Type}

theorem onProxmox_bind (m : Program AppError P α) (f : α → Program AppError P β) :
    (onProxmox (m >>= f) : FleetProgram P β) = onProxmox m >>= fun a => onProxmox (f a) := by
  funext w
  cases hm : exec m w.proxmox with
  | mk r s =>
      cases r with
      | ok a =>
          have hfirst : exec (onProxmox m) w = (.ok a, { w with proxmox := s }) := by
            change ((exec m w.proxmox).1, _) = _
            rw [hm]
          refine Eq.trans ?_ (exec_bind_ok (f := fun a => onProxmox (f a)) hfirst).symm
          change ((exec (m >>= f) w.proxmox).1, _) = _
          rw [exec_bind_ok hm]
          rfl
      | error e =>
          have hfirst : exec (onProxmox m) w = (.error e, { w with proxmox := s }) := by
            change ((exec m w.proxmox).1, _) = _
            rw [hm]
          refine Eq.trans ?_ (exec_bind_error (f := fun a => onProxmox (f a)) hfirst).symm
          change ((exec (m >>= f) w.proxmox).1, _) = _
          rw [exec_bind_error hm]

theorem onProxmox_ensure (b : Bool) (e : AppError) :
    (onProxmox (ensure b e) : FleetProgram P Unit) = ensure b e := by
  cases b with
  | false => rfl
  | true => rfl

theorem onProxmox_forM (xs : List ι) (f : ι → Program AppError P PUnit) :
    (onProxmox (forM xs f) : FleetProgram P PUnit) = forM xs fun x => onProxmox (f x) := by
  induction xs with
  | nil => rfl
  | cons x xs ih =>
      rw [List.forM_cons, List.forM_cons, onProxmox_bind]
      exact congrArg (onProxmox (f x) >>= ·) (funext fun _ => ih)

theorem onProxmox_deleteOwn : (onProxmox (deleteOwn proxmox node vmid) : FleetProgram P Nat) =
      deleteProxvmRules proxmox node vmid := by
  simp only [deleteOwn, onProxmox_bind, onProxmox_forM]
  rfl

theorem applyIsolation_eq (vmId : VmId) (opts : IsolationOptions) :
    applyIsolation proxmox vmId node vmid opts = onProxmox (isolate proxmox node vmid opts) >>= fun n =>
        setPolicy vmId (fun policy => { policy with firewallIsolated := true }) >>= fun _ =>
          pure n := by
  simp only [isolate, onProxmox_bind, onProxmox_ensure, onProxmox_forM, onProxmox_deleteOwn,
    bind_assoc]
  rfl

theorem removeIsolation_eq (vmId : VmId) : removeIsolation proxmox vmId node vmid =
      onProxmox (release proxmox node vmid) >>= fun n =>
        setPolicy vmId (fun policy => { policy with firewallIsolated := false }) >>= fun _ =>
          pure n := by
  simp only [release, onProxmox_bind, onProxmox_deleteOwn, bind_assoc]
  rfl

end calls

/-! ## The states they are made from -/

section server

variable (node : String) (vmid : Nat) (c : Firewalls)

def GuestFirewall.withRules (g : GuestFirewall) (rules : List ChainRule) : GuestFirewall :=
  { g with rules }

theorem passes_changeGuest (f : GuestFirewall → GuestFirewall) :
    Passes (changeGuest node vmid f) c [c] (.ok ()) (c.put node vmid (f (c.guest node vmid))) :=
  passes_scripted _

theorem passes_changeRules {ι : Type} {f : ι → Program AppError FirewallServer PUnit}
    (change : ι → List ChainRule → List ChainRule)
    (hf : ∀ x, f x = changeGuest node vmid fun g => g.withRules (change x g.rules)) (xs : List ι)
    (g : GuestFirewall) : Passes (forM xs f) (c.put node vmid g)
      ((visits change xs g.rules).map fun rules => c.put node vmid (g.withRules rules)) (.ok ⟨⟩)
      (c.put node vmid (g.withRules (xs.foldl (fun rules x => change x rules) g.rules))) := by
  induction xs generalizing g with
  | nil => exact passes_pure
  | cons x xs ih =>
      rw [List.forM_cons, hf x]
      have hfirst := passes_changeGuest node vmid (c.put node vmid g)
        fun g => g.withRules (change x g.rules)
      rw [Firewalls.guest_put, Firewalls.put_put] at hfirst
      exact hfirst.bind (ih (g.withRules (change x g.rules)))

theorem passes_deleteOwn (g : GuestFirewall) :
    Passes (deleteOwn firewallApi node vmid) (c.put node vmid g) (c.put node vmid g ::
        (deletions g.rules).map fun rules => c.put node vmid (g.withRules rules))
      (.ok (ownPositions g.rules).length)
      (c.put node vmid (g.withRules (g.rules.filter ChainRule.foreign))) := by
  have hlist : Passes (firewallApi.guestFirewallRules node vmid) (c.put node vmid g)
      [c.put node vmid g] (.ok (ruleListing g.rules)) (c.put node vmid g) := by
    have hcall := passes_scripted (fun c : Firewalls =>
      ((.ok (ruleListing (c.guest node vmid).rules) : Except AppError (List GuestRule)), c))
      (s := c.put node vmid g)
    rw [Firewalls.guest_put] at hcall
    exact hcall
  have hdelete := passes_changeRules node vmid c (fun pos rules => rules.eraseIdx pos)
    (f := fun pos => firewallApi.deleteGuestFirewallRule node vmid pos) (fun _ => rfl)
    (proxvmPositions (ruleListing g.rules)) g
  have hall : Passes (deleteOwn firewallApi node vmid) (c.put node vmid g) ([c.put node vmid g] ++ _)
      (.ok (proxvmPositions (ruleListing g.rules)).length) _ :=
    hlist.bind (hdelete.bind passes_pure)
  rw [proxvmPositions_ruleListing, foldl_eraseIdx_ownPositions, List.length_reverse,
    List.append_nil] at hall
  exact hall

theorem insertRule_zero (rules : List ChainRule) (rule : ChainRule) :
    insertRule rules 0 rule = rule :: rules := by
  cases rules with
  | nil => rfl
  | cons r rules => rfl

theorem foldl_posted (rules : List IsolationRule) (chain : List ChainRule) :
    rules.reverse.foldl (fun chain rule => posted rule :: chain) chain = rules.map posted ++ chain := by
  rw [List.foldl_reverse, List.foldr_cons_eq_append]

theorem visits_posted (rules : List IsolationRule) (chain : List ChainRule) :
    visits (fun rule chain => posted rule :: chain) rules.reverse chain ++ [rules.map posted ++ chain] =
      rules.tails.reverse.map fun created => created.map posted ++ chain := by
  induction rules with
  | nil => rfl
  | cons r rules ih =>
      rw [List.reverse_cons, visits_append, foldl_posted, List.tails, List.reverse_cons,
        List.map_append, ← ih]
      rfl

def isolationStates (rules : List IsolationRule) : List Firewalls :=
  let g := (c.guest node vmid).patch { enable := some true }
  [c, c, c.put node vmid g] ++
    (deletions g.rules ++
      rules.tails.reverse.map fun created =>
        created.map posted ++ g.rules.filter ChainRule.foreign).map fun chain =>
          c.put node vmid (g.withRules chain)

def isolated (rules : List IsolationRule) : GuestFirewall :=
  { enable := true, policyIn := .drop, policyOut := .drop
    rules := rules.map posted ++ (c.guest node vmid).rules.filter ChainRule.foreign }

theorem passes_clusterFirewallEnable :
    Passes firewallApi.clusterFirewallEnable c [c] (.ok c.clusterEnable) c :=
  passes_scripted fun c : Firewalls => (.ok c.clusterEnable, c)

theorem createGuestFirewallRule_zero (rule : IsolationRule) :
    firewallApi.createGuestFirewallRule node vmid rule 0 =
      changeGuest node vmid fun g => g.withRules (posted rule :: g.rules) := by
  have hinsert : (fun g : GuestFirewall => { g with rules := insertRule g.rules 0 (posted rule) }) =
      fun g => g.withRules (posted rule :: g.rules) := by
    funext g
    rw [insertRule_zero, GuestFirewall.withRules]
  exact congrArg (changeGuest node vmid) hinsert

theorem isolate_disabled (opts : IsolationOptions) (hcluster : c.clusterEnable = false) :
    ∃ e, Passes (isolate firewallApi node vmid opts) c [c] (.error e) c := by
  have henabled := passes_clusterFirewallEnable c
  rw [hcluster] at henabled
  exact ⟨_, henabled.bind (Passes.bind_error passes_outcome)⟩

variable {opts : IsolationOptions}

theorem isolate_refused {e : AppError} (hcluster : c.clusterEnable = true)
    (hrefused : buildIsolationRules opts = .error e) :
    Passes (isolate firewallApi node vmid opts) c [c] (.error e) c := by
  have henabled := passes_clusterFirewallEnable c
  rw [hcluster] at henabled
  have hbuilt : Passes (outcome (buildIsolationRules opts)) c [] (.error e) c :=
    hrefused ▸ passes_outcome
  exact henabled.bind (passes_pure.bind hbuilt.bind_error)

/-- **The states of `applyIsolation`.** -/
theorem passes_isolate {rules : List IsolationRule}
    (hcluster : c.clusterEnable = true) (hbuild : buildIsolationRules opts = .ok rules) :
    Passes (isolate firewallApi node vmid opts) c (isolationStates node vmid c rules)
      (.ok rules.length) (c.put node vmid (isolated node vmid c rules)) := by
  have henabled := passes_clusterFirewallEnable c
  rw [hcluster] at henabled
  have hbuilt : Passes (outcome (buildIsolationRules opts)) c [] (.ok rules) c :=
    hbuild ▸ passes_outcome
  have hoptions := passes_changeGuest node vmid c fun g => g.patch { enable := some true }
  set g := (c.guest node vmid).patch { enable := some true } with hg
  have hdelete := passes_deleteOwn node vmid c g
  have hcreate := passes_changeRules node vmid c (fun rule chain => posted rule :: chain)
    (createGuestFirewallRule_zero node vmid)
    rules.reverse (g.withRules (g.rules.filter ChainRule.foreign))
  have hdeny := passes_changeGuest node vmid
    (c.put node vmid (g.withRules (rules.map posted ++ g.rules.filter ChainRule.foreign)))
    fun g => g.patch { enable := some true, policyIn := some .drop, policyOut := some .drop }
  rw [foldl_posted] at hcreate
  rw [Firewalls.guest_put, Firewalls.put_put] at hdeny
  have hall : Passes (isolate firewallApi node vmid opts) c
      ([c] ++ ([] ++ ([] ++ ([c] ++ ((c.put node vmid g :: _) ++ (_ ++ ([_] ++ []))))))) _ _ :=
    henabled.bind (passes_pure.bind (hbuilt.bind (hoptions.bind (hdelete.bind
      (hcreate.bind (hdeny.bind passes_pure))))))
  have hstates : isolationStates node vmid c rules = [c, c, c.put node vmid g] ++
      ((deletions g.rules).map (fun rules => c.put node vmid (g.withRules rules)) ++
        ((visits (fun rule chain => posted rule :: chain) rules.reverse
          (g.rules.filter ChainRule.foreign)).map (fun rules => c.put node vmid (g.withRules rules)) ++
          [c.put node vmid
            (g.withRules (rules.map posted ++ g.rules.filter ChainRule.foreign))])) := by
    dsimp only [isolationStates]
    rw [← hg, ← visits_posted, List.map_append, List.map_append]
    rfl
  rw [hstates]
  exact hall

def releaseStates : List Firewalls :=
  let g := (c.guest node vmid).patch { policyIn := some .accept, policyOut := some .accept }
  [c, c.put node vmid g] ++
    (deletions g.rules).map fun chain => c.put node vmid (g.withRules chain)

def released : GuestFirewall :=
  { enable := (c.guest node vmid).enable, policyIn := .accept, policyOut := .accept
    rules := (c.guest node vmid).rules.filter ChainRule.foreign }

/-- **The states of `removeIsolation`.** -/
theorem passes_release : Passes (release firewallApi node vmid) c (releaseStates node vmid c)
      (.ok (ownPositions (c.guest node vmid).rules).length) (c.put node vmid (released node vmid c)) := by
  have hoptions := passes_changeGuest node vmid c fun g =>
    g.patch { policyIn := some .accept, policyOut := some .accept }
  exact hoptions.bind (passes_deleteOwn node vmid c _)

end server

/-! ## The chain that is left -/

theorem own_posted {rule : IsolationRule} {what : String} (hcomment : rule.comment = ruleComment what) :
    (posted rule).own = true := by
  have htext : (proxvmRuleComment ++ ": " ++ what).toList =
      proxvmRuleComment.toList ++ (": ".toList ++ what.toList) := by
    rw [String.toList_append, String.toList_append, List.append_assoc]
  have hnonempty : proxvmRuleComment ++ ": " ++ what ≠ "" := by
    intro hempty
    rw [hempty] at htext
    exact List.cons_ne_nil _ _ htext.symm
  have hgiven : given (ruleComment what) = ruleComment what := by
    unfold given ruleComment
    rw [Option.filter_some, if_pos (decide_eq_true hnonempty)]
  have hprefix : isProxvmRule (ruleComment what) = true := by
    change proxvmRuleComment.toList.isPrefixOf (proxvmRuleComment ++ ": " ++ what).toList = true
    rw [htext]
    exact List.isPrefixOf_iff_prefix.mpr (List.prefix_append _ _)
  change isProxvmRule (given rule.comment) = true
  rw [hcomment, hgiven, hprefix]

variable {rules : List IsolationRule}

/-- **ProxVM knows the rules it makes**, if there are none of the caller's own. -/
theorem own_of_build {opts : IsolationOptions}
    (hextra : opts.extraRules = []) (hbuild : buildIsolationRules opts = .ok rules) :
    ∀ rule ∈ rules, (posted rule).own = true := by
  unfold buildIsolationRules at hbuild
  cases hcheck : checkIsolationOptions opts with
  | error e =>
      rw [hcheck] at hbuild
      cases hbuild
  | ok _ =>
      rw [hcheck, hextra] at hbuild
      obtain rfl := Except.ok.inj hbuild
      intro rule hmem
      simp only [List.map_nil, List.append_nil, List.mem_append, List.mem_flatMap] at hmem
      rcases hmem with (⟨value, -, hmem⟩ | ⟨value, -, hmem⟩) | hmem
      · obtain ⟨dport, -, rfl⟩ := List.mem_map.mp hmem
        exact own_posted rfl
      · obtain ⟨proto, -, rfl⟩ := List.mem_map.mp hmem
        exact own_posted rfl
      · have hinternet : ∀ rule ∈ internetRules, ∃ what, rule.comment = ruleComment what := by
          intro rule hrule
          unfold internetRules at hrule
          rcases List.mem_append.mp hrule with hrule | hrule
          · rcases List.mem_append.mp hrule with hdhcp | hlocal
            · rcases List.mem_cons.mp hdhcp with rfl | hdhcp
              · exact ⟨_, rfl⟩
              · obtain rfl := List.mem_singleton.mp hdhcp
                exact ⟨_, rfl⟩
            · obtain ⟨dest, -, rfl⟩ := List.mem_map.mp hlocal
              exact ⟨_, rfl⟩
          · obtain rfl := List.mem_singleton.mp hrule
            exact ⟨_, rfl⟩
        split at hmem
        · cases hmem
        · obtain ⟨what, hcomment⟩ := hinternet rule hmem
          exact own_posted hcomment

theorem filter_foreign_isolated {chain : List ChainRule} (hown : ∀ rule ∈ rules, (posted rule).own = true) :
    (rules.map posted ++ chain.filter ChainRule.foreign).filter ChainRule.foreign =
      chain.filter ChainRule.foreign := by
  have hposted : (rules.map posted).filter ChainRule.foreign = [] := by
    refine List.filter_eq_nil_iff.mpr fun r hr => ?_
    obtain ⟨rule, hrule, rfl⟩ := List.mem_map.mp hr
    simp [ChainRule.foreign, hown rule hrule]
  rw [List.filter_append, hposted, List.nil_append, List.filter_filter]
  simp

section settled

variable {P α : Type} {m : Program AppError P α} {w : FleetWorld P} {vmId : VmId}
  {f : VmPolicy → VmPolicy}

theorem after_onProxmox_setPolicy {Q : Except AppError α → P → Prop} (h : after m Q w.proxmox) :
    after (onProxmox m >>= fun a => setPolicy vmId f >>= fun _ => pure a) (fun r w' => Q r w'.proxmox) w := by
  rw [after_bind, after_onProxmox]
  refine after_mono h fun r s hr => ?_
  cases r with
  | ok a => exact hr
  | error e => exact hr

end settled

section results

variable {vmId : VmId} {node : String} {vmid : Nat} {w : FleetWorld FirewallServer}

def IsolateLeaves (node : String) (vmid : Nat) (opts : IsolationOptions) (c : Firewalls)
    (r : Except AppError Nat) (c' : Firewalls) : Prop :=
  match r with
  | .ok n => ∃ rules, buildIsolationRules opts = .ok rules ∧ n = rules.length ∧
      c' = c.put node vmid (isolated node vmid c rules)
  | .error _ => c' = c ∨ c.clusterEnable = true ∧ ∃ rules, buildIsolationRules opts = .ok rules ∧
      c' ∈ isolationStates node vmid c rules

/-- **What `applyIsolation` leaves.** -/
theorem applyIsolation_leaves (opts : IsolationOptions) :
    after (applyIsolation firewallApi vmId node vmid opts)
      (fun r w' => IsolateLeaves node vmid opts w.proxmox.state r w'.proxmox.state) w := by
  rw [applyIsolation_eq]
  refine after_onProxmox_setPolicy
    (Q := fun r (s : FirewallServer) => IsolateLeaves node vmid opts w.proxmox.state r s.state) ?_
  obtain ⟨db, policies, schedules, ⟨c, script⟩⟩ := w
  cases hcluster : c.clusterEnable with
  | false =>
      obtain ⟨e, hpasses⟩ := isolate_disabled node vmid c opts hcluster
      refine hpasses.after (fun _ => .inl rfl) (fun e s₁ hmem _ => ?_) script
      exact .inl (List.mem_singleton.mp hmem)
  | true =>
      cases hbuild : buildIsolationRules opts with
      | error e =>
          refine (isolate_refused node vmid c hcluster hbuild).after (fun _ => .inl rfl)
            (fun e s₁ hmem _ => ?_) script
          exact .inl (List.mem_singleton.mp hmem)
      | ok rules =>
          refine (passes_isolate node vmid c hcluster hbuild).after (fun _ => ?_)
            (fun e s₁ hmem _ => ?_) script
          · exact ⟨rules, hbuild, rfl, rfl⟩
          · exact .inr ⟨hcluster, rules, hbuild, hmem⟩

def ReleaseLeaves (node : String) (vmid : Nat) (c : Firewalls) (r : Except AppError Nat)
    (c' : Firewalls) : Prop :=
  match r with
  | .ok _ => c' = c.put node vmid (released node vmid c)
  | .error _ => c' ∈ releaseStates node vmid c

/-- **What `removeIsolation` leaves.** -/
theorem removeIsolation_leaves : after (removeIsolation firewallApi vmId node vmid)
      (fun r w' => ReleaseLeaves node vmid w.proxmox.state r w'.proxmox.state) w := by
  rw [removeIsolation_eq]
  refine after_onProxmox_setPolicy
    (Q := fun r (s : FirewallServer) => ReleaseLeaves node vmid w.proxmox.state r s.state) ?_
  obtain ⟨db, policies, schedules, ⟨c, script⟩⟩ := w
  exact (passes_release node vmid c).after (fun _ => rfl) (fun _ _ hmem _ => hmem) script

/-- **Isolation leaves the rules of its options before those it did not make**, however often it is
applied, and drops the rest; its removal leaves those it did not make. -/
theorem isolation_chain {opts : IsolationOptions} (hextra : opts.extraRules = [])
    (w : FleetWorld FirewallServer) (vmId : VmId) (node : String) (vmid : Nat) :
    onSuccess (applyIsolation firewallApi vmId node vmid opts) (fun _ w' =>
        (∃ rules, buildIsolationRules opts = .ok rules ∧
          w'.proxmox.state.guest node vmid =
            { enable := true, policyIn := .drop, policyOut := .drop
              rules := rules.map posted ++
                (w.proxmox.state.guest node vmid).rules.filter ChainRule.foreign }) ∧
          onSuccess (applyIsolation firewallApi vmId node vmid opts) (fun _ w'' =>
            w''.proxmox.state.guest node vmid = w'.proxmox.state.guest node vmid) w') w ∧
      onSuccess (removeIsolation firewallApi vmId node vmid) (fun _ w' =>
        w'.proxmox.state.guest node vmid =
          { enable := (w.proxmox.state.guest node vmid).enable, policyIn := .accept
            policyOut := .accept
            rules := (w.proxmox.state.guest node vmid).rules.filter ChainRule.foreign }) w := by
  constructor
  · refine onSuccess_of_after (applyIsolation_leaves opts) fun n w' hleaves => ?_
    obtain ⟨rules, hbuild, -, hstate⟩ := hleaves
    have hguest : w'.proxmox.state.guest node vmid =
        isolated node vmid w.proxmox.state rules := by
      rw [hstate, Firewalls.guest_put]
    refine ⟨⟨rules, hbuild, hguest⟩, ?_⟩
    refine onSuccess_of_after (applyIsolation_leaves opts) fun n w'' hleaves => ?_
    obtain ⟨rules', hbuild', -, hstate'⟩ := hleaves
    obtain rfl := Except.ok.inj (hbuild.symm.trans hbuild')
    rw [hstate', Firewalls.guest_put, isolated, hguest, isolated,
      filter_foreign_isolated (own_of_build hextra hbuild)]
  · refine onSuccess_of_after removeIsolation_leaves fun n w' hstate => ?_
    have hguest := congrArg (fun c => c.guest node vmid) hstate
    exact hguest.trans Firewalls.guest_put

end results

def chainSample (script : List (Option AppError)) : FleetWorld FirewallServer where
  db := Db.sample
  policies := fun _ => ⟨.server, false, false⟩
  schedules := .empty
  proxmox :=
    { state :=
        { clusterEnable := true
          guest := fun _ _ =>
            { enable := false, policyIn := .accept, policyOut := .accept
              rules :=
                [⟨"in", "DROP", true, none, none, none, some "10.9.9.9", none, none, []⟩,
                 ⟨"in", "ACCEPT", true, none, none, none, none, none, some "proxvm-isolation", []⟩,
                 ⟨"out", "ACCEPT", true, none, none, none, none, none, some "ours", []⟩] } }
      script }

theorem isolation_chain_sample :
    (exec (applyIsolation firewallApi 30 "pve1" 100 {}) (chainSample [])).1 = .ok 8 ∧
      ∃ rules, buildIsolationRules {} = .ok rules ∧ (exec (applyIsolation firewallApi 30 "pve1" 100 {})
          (chainSample [])).2.proxmox.state.guest "pve1" 100 =
            { enable := true, policyIn := .drop, policyOut := .drop
              rules := rules.map posted ++
                ((chainSample []).proxmox.state.guest "pve1" 100).rules.filter ChainRule.foreign } := by
  have hexec : (exec (applyIsolation firewallApi 30 "pve1" 100 {}) (chainSample [])).1 = .ok 8 := by
    decide +kernel
  have hchain := onSuccess_iff.mp (@isolation_chain {} rfl (chainSample []) 30 "pve1" 100).1
  exact ⟨hexec, (hchain 8 hexec).1⟩

end ProxVM
