import ProxVM.Drift.Lifecycle
import ProxVM.Drift.Observation

/-!
# A pass among other programs

`runDriftPassExclusive` lets one pass run at a time, and nothing else: remediations,
acknowledgements and all other requests and workers run between its calls.  A
`DriftSystem` is the world with the running pass and the other programs; a
`DriftStep` is one call of one of them.

Four fields are there for the proofs only and start afresh with each pass: what it has
seen (`log`) and in which worlds (`scenes`), all worlds since it began (`moments`) and
which findings the others have resolved since, with what the pass had seen by then
(`settled`).
-/

namespace ProxVM

open Tables Interaction

def ofTask {α : Type} : Task α → DriftTask α
  | .ret a => .ret a
  | .raise e => .raise e
  | .call c next => .call (.base c) fun r => ofTask (next r)

variable {α : Type} {w w' : DriftWorld}

theorem ofTask_ask (c : Call) : ofTask (ask c) = askDrift (.base c) := by
  refine congrArg (Prog.call (F := driftCalls) (.base c)) (funext fun r => ?_)
  cases r with
  | ok a => rfl
  | error e => rfl

theorem ofTask_bind {α β : Type} (p : Task α) (f : α → Task β) :
    ofTask (p >>= f) = ofTask p >>= fun a => ofTask (f a) := by
  change ofTask (p.bind f) = (ofTask p).bind fun a => ofTask (f a)
  induction p with
  | ret a => rfl
  | raise e => rfl
  | call c next ih => exact congrArg (Prog.call (F := driftCalls) (.base c)) (funext ih)

theorem ofTask_ite {c : Prop} [Decidable c] (p p' : Task α) :
    ofTask (if c then p else p') = if c then ofTask p else ofTask p' := by
  split <;> rfl

theorem ofTask_tryCatch (p : Task α) (h : Failure → Task α) :
    ofTask (p.tryCatch h) = (ofTask p).tryCatch fun e => ofTask (h e) := by
  induction p with
  | ret a => rfl
  | raise e => rfl
  | call c next ih => exact congrArg (Prog.call (F := driftCalls) (.base c)) (funext ih)

theorem only_ofTask {P : DriftCall → Prop} {p : Task α}
    (hp : Only (fun c => P (.base c)) p) : Only P (ofTask p) := by
  induction p with
  | ret a => trivial
  | raise e => trivial
  | call c next ih => exact ⟨hp.1, fun r => ih r (hp.2 r)⟩

inductive DriftRequest : DriftTask Unit → Prop
  | remediation (kind : Remediation) (id : FindingId) (actor : DriftActor) (now : Time) :
      DriftRequest (kind.prog id actor now)
  | acknowledgement (id : FindingId) (actor : DriftActor) (now : Time) :
      DriftRequest (acknowledgeDriftFinding id actor now)
  | elsewhere (p : Task Unit) : DriftRequest (ofTask p)

structure DriftSystem where
  world : DriftWorld
  pass : Option (DriftTask DriftPassResult)
  tasks : List (DriftTask Unit)
  log : PassLog
  scenes : List DriftWorld
  moments : List DriftWorld
  settled : List (String × PassLog)

def DriftSystem.idle (w : DriftWorld) : DriftSystem := ⟨w, none, [], [], [], [], []⟩

def DriftCall.settles : (c : DriftCall) → Except Failure c.Reply → Option String
  | .resolveFinding fingerprint _ _, .ok _ => some fingerprint
  | _, _ => none

inductive DriftStep : DriftSystem → DriftSystem → Prop
  /-- A pass begins. -/
  | begin {s : DriftSystem} (now : Time) (hidle : s.pass = none) :
      DriftStep s
        { s with
          pass := some (runDriftPass now), log := [], scenes := [], moments := [s.world], settled := [] }
  /-- The pass makes a call. -/
  | observe {s : DriftSystem} {c : DriftCall}
      {next : Except Failure c.Reply → DriftTask DriftPassResult} {r : Except Failure c.Reply}
      {w' : DriftWorld} (hpass : s.pass = some (.call c next)) (hserved : DriftServed c s.world r w') :
      DriftStep s
        { s with
          world := w', pass := some (next r), log := ⟨c, r⟩ :: s.log, scenes := s.world :: s.scenes
          moments := w' :: s.moments }
  /-- The pass is over. -/
  | finish {s : DriftSystem} {result : Except Failure DriftPassResult}
      (hpass : s.pass = some (.ofExcept result)) : DriftStep s { s with pass := none }
  /-- A request arrives. -/
  | request {s : DriftSystem} {p : DriftTask Unit} (hrequest : DriftRequest p) :
      DriftStep s { s with tasks := p :: s.tasks }
  /-- Another program makes a call. -/
  | act {s : DriftSystem} {before after : List (DriftTask Unit)} {c : DriftCall}
      {next : Except Failure c.Reply → DriftTask Unit} {r : Except Failure c.Reply} {w' : DriftWorld}
      (htasks : s.tasks = before ++ .call c next :: after) (hserved : DriftServed c s.world r w') :
      DriftStep s
        { s with
          world := w', tasks := before ++ next r :: after, moments := w' :: s.moments
          settled := ((c.settles r).map fun fingerprint => (fingerprint, s.log)).toList ++ s.settled }
  /-- Something else changes, in the database, in Proxmox or on a guest. -/
  | others {s : DriftSystem} {w' : DriftWorld} (hfindings : w'.findings = s.world.findings) :
      DriftStep s { s with world := w', moments := w' :: s.moments }

abbrev DriftRun : DriftSystem → DriftSystem → Prop := Relation.ReflTransGen DriftStep

/-! ## What becomes of a row -/

structure DriftFindingRow.Same (row row' : DriftFindingRow) : Prop where
  fingerprint : row'.fingerprint = row.fingerprint
  dimension : row'.dimension = row.dimension
  vmId : row'.vmId = row.vmId

structure Findings.Carries (c : DriftCall) (t t' : Findings) : Prop where
  old : ∀ row ∈ t, ∃ row' ∈ t', row.Same row'
  new : ∀ row' ∈ t', (∃ row ∈ t, row.Same row') ∨
    ∃ id d now, c = .insertFinding id d ∧ row' = d.newRow id now

namespace Findings

variable {c : DriftCall} {t t' : Findings}

theorem Carries.refl (c : DriftCall) (t : Findings) : t.Carries c t :=
  ⟨fun row hrow => ⟨row, hrow, rfl, rfl, rfl⟩, fun row hrow => .inl ⟨row, hrow, rfl, rfl, rfl⟩⟩

theorem carries_updateWhere {p : DriftFindingRow → Bool} {f : DriftFindingRow → DriftFindingRow}
    {hkey : ∀ row, (f row).fingerprint = row.fingerprint}
    (hsame : ∀ row : DriftFindingRow, row.Same (f row)) : t.Carries c (t.updateWhere p f hkey) := by
  have hrow : ∀ row : DriftFindingRow, row.Same (if p row then f row else row) := by
    intro row
    split
    · exact hsame row
    · exact ⟨rfl, rfl, rfl⟩
  constructor
  · exact fun row hmem => ⟨_, Table.mem_updateWhere.mpr ⟨row, hmem, rfl⟩, hrow row⟩
  · intro row' hmem
    obtain ⟨row, hold, rfl⟩ := Table.mem_updateWhere.mp hmem
    exact .inl ⟨row, hold, hrow row⟩

theorem carries_refreshRow (t : Findings) (d : Detected) (now : Time) : t.Carries c (t.refreshRow d now) :=
  carries_updateWhere fun _ => ⟨rfl, rfl, rfl⟩

theorem carries_autoResolve (t : Findings) (fingerprints : List String) (now : Time) :
    t.Carries c (t.autoResolve fingerprints now) :=
  carries_updateWhere fun _ => ⟨rfl, rfl, rfl⟩

theorem carries_resolveManually (t : Findings) (fingerprint : String) (actor : UserId)
    (now : Time) : t.Carries c (t.resolveManually fingerprint actor now) :=
  carries_updateWhere fun _ => ⟨rfl, rfl, rfl⟩

theorem carries_acknowledge (t : Findings) (id : FindingId) (actor : UserId) (now : Time) :
    t.Carries c (t.acknowledge id actor now) :=
  carries_updateWhere fun _ => ⟨rfl, rfl, rfl⟩

end Findings

theorem DriftServed.carries {c : DriftCall} {r : Except Failure c.Reply}
    (hserved : DriftServed c w r w') : w.findings.Carries c w'.findings := by
  cases hwrites : c.writesFindings with
  | false => exact hserved.frame.findings hwrites ▸ .refl _ _
  | true =>
      have hbase : c.isBase = false := by
        cases c with
        | base b => cases hwrites
        | _ => rfl
      obtain ⟨e, -, rfl⟩ | ⟨given, hanswer⟩ := hserved.cases hbase
      · exact .refl _ _
      · cases c with
        | insertFinding id d =>
            change DriftWorld.insertFinding _ _ _ = _ at hanswer
            unfold DriftWorld.insertFinding at hanswer
            split at hanswer
            · split at hanswer
              · rename_i findings hins
                cases hanswer
                obtain ⟨-, -, hmem⟩ := Findings.insertNew_eq_some hins
                refine ⟨fun row hrow => ⟨row, (hmem row).mpr (.inl hrow), rfl, rfl, rfl⟩,
                  fun row' hrow' => ?_⟩
                obtain hold | rfl := (hmem row').mp hrow'
                · exact .inl ⟨row', hold, rfl, rfl, rfl⟩
                · exact .inr ⟨id, d, _, rfl, rfl⟩
              · cases hanswer
                exact .refl _ _
            · cases hanswer
              exact .refl _ _
        | refreshFinding d now =>
            cases hanswer
            exact Findings.carries_refreshRow w.findings d now
        | autoResolveFindings fingerprints now =>
            cases hanswer
            exact Findings.carries_autoResolve w.findings fingerprints now
        | resolveFinding fingerprint actor now =>
            cases hanswer
            exact Findings.carries_resolveManually w.findings fingerprint actor now
        | acknowledgeFinding id actor now =>
            cases hanswer
            exact Findings.carries_acknowledge w.findings id actor now
        | _ => cases hwrites

/-! ## What holds in every run -/

theorem owes_of_run {guarantee : DriftCall → PassLog → Prop} {s : DriftSystem}
    (hpass : ∀ now, (aloneOwing record guarantee).holds (runDriftPass now) (fun _ _ => True) [])
    (hrun : DriftRun (.idle w) s) {p : DriftTask DriftPassResult} (hp : s.pass = some p) :
    (aloneOwing record guarantee).holds p (fun _ _ => True) s.log := by
  induction hrun generalizing p with
  | refl => cases hp
  | tail _ hstep ih =>
      cases hstep with
      | begin now hidle =>
          cases hp
          exact hpass now
      | observe hcall hserved =>
          cases hp
          exact (holds_aloneOwing_call.mp (ih hcall)).2 _ _ rfl
      | finish hover => cases hp
      | request hrequest => exact ih hp
      | act htasks hserved => exact ih hp
      | others hfindings => exact ih hp

theorem passOwes_of_run {s : DriftSystem} (hrun : DriftRun (.idle w) s)
    {c : DriftCall} {next : Except Failure c.Reply → DriftTask DriftPassResult}
    (hpass : s.pass = some (.call c next)) : PassOwes c s.log :=
  (holds_aloneOwing_call.mp (owes_of_run pass_owes hrun hpass)).1

def DriftCall.isInsertion : DriftCall → Bool
  | .insertFinding _ _ => true
  | _ => false

abbrev Outside (c : DriftCall) : Prop := c.isInsertion = false

theorem outside_ofTask (p : Task α) : Only Outside (ofTask p) := by
  induction p with
  | ret a => trivial
  | raise e => trivial
  | call c next ih => exact ⟨rfl, ih⟩

theorem DriftRequest.outside {p : DriftTask Unit} (h : DriftRequest p) : Only Outside p := by
  cases h with
  | remediation kind id actor now =>
      refine (remedial_remediation kind id actor now).mono fun c hc => ?_
      cases c <;> first | rfl | cases hc
  | acknowledgement id actor now =>
      have hread : Only Outside (activeFinding id) :=
        (remedial_activeFinding id).mono fun c hc => by cases c <;> first | rfl | cases hc
      refine hread.bind fun finding => Only.ite only_pure ?_
      exact Only.bind (only_perform.mpr rfl) fun _ => only_perform.mpr rfl
  | elsewhere p => exact outside_ofTask p

structure DriftSystem.Inv (s : DriftSystem) : Prop where
  tasks : ∀ p ∈ s.tasks, Only Outside p
  shaped : ∀ row ∈ s.world.findings, ShapedAs row.fingerprint row.dimension row.vmId
  listed : ∀ active, activeRows s.log = some active → ∀ row ∈ active,
    ∃ row' ∈ s.world.findings, row.Same row'

theorem DriftFindingRow.Same.trans {row row' row'' : DriftFindingRow} (h : row.Same row')
    (h' : row'.Same row'') : row.Same row'' :=
  ⟨h'.fingerprint.trans h.fingerprint, h'.dimension.trans h.dimension, h'.vmId.trans h.vmId⟩

theorem Findings.Carries.shaped {c : DriftCall} {t t' : Findings} (h : t.Carries c t')
    (hshaped : ∀ row ∈ t, ShapedAs row.fingerprint row.dimension row.vmId)
    (hnew : ∀ id d, c = .insertFinding id d → ShapedAs d.fingerprint d.dimension d.vmId) :
    ∀ row ∈ t', ShapedAs row.fingerprint row.dimension row.vmId := by
  intro row' hrow'
  obtain ⟨row, hrow, hsame⟩ | ⟨id, d, now, hc, rfl⟩ := h.new row' hrow'
  · rw [hsame.fingerprint, hsame.dimension, hsame.vmId]
    exact hshaped row hrow
  · exact hnew id d hc

theorem listed_cons {c : DriftCall} {r : Except Failure c.Reply} {log : PassLog} (hserved : DriftServed c w r w')
    (hlisted : ∀ active, activeRows log = some active → ∀ row ∈ active, ∃ row' ∈ w.findings, row.Same row') :
    ∀ active, activeRows (⟨c, r⟩ :: log) = some active → ∀ row ∈ active,
      ∃ row' ∈ w'.findings, row.Same row' := by
  intro active hactive row hrow
  have hkeep : (∃ row' ∈ w.findings, row.Same row') → ∃ row' ∈ w'.findings, row.Same row' := by
    rintro ⟨row', hrow', hsame⟩
    obtain ⟨row'', hrow'', hsame'⟩ := hserved.carries.old row' hrow'
    exact ⟨row'', hrow'', hsame.trans hsame'⟩
  by_cases hc : c = .listActiveFindings
  · subst hc
    cases r with
    | error e => exact hkeep (hlisted active hactive row hrow)
    | ok found =>
        cases hactive
        obtain ⟨rfl, rfl⟩ := served_listActiveFindings hserved
        exact ⟨row, (Findings.mem_listActive.mp hrow).1, rfl, rfl, rfl⟩
  · have hsame : activeRows (⟨c, r⟩ :: log) = activeRows log := by
      cases c <;> first | rfl | exact absurd rfl hc
    rw [hsame] at hactive
    exact hkeep (hlisted active hactive row hrow)

theorem DriftSystem.Inv.step {s s' : DriftSystem} (hinv : s.Inv)
    (howes : ∀ c next, s.pass = some (.call c next) → PassOwes c s.log) (hstep : DriftStep s s') :
    s'.Inv := by
  cases hstep with
  | begin now hidle => exact ⟨hinv.tasks, hinv.shaped, nofun⟩
  | @observe c next r w' hpass hserved =>
      refine ⟨hinv.tasks, hserved.carries.shaped hinv.shaped ?_, listed_cons hserved hinv.listed⟩
      rintro id d rfl
      exact (howes (.insertFinding id d) next hpass).1.shaped
  | finish hpass => exact ⟨hinv.tasks, hinv.shaped, hinv.listed⟩
  | request hrequest =>
      exact ⟨List.forall_mem_cons.mpr ⟨hrequest.outside, hinv.tasks⟩, hinv.shaped, hinv.listed⟩
  | @act before after c next r w' htasks hserved =>
      have hcalls := hinv.tasks
      rw [htasks, List.forall_mem_append, List.forall_mem_cons] at hcalls
      refine ⟨?_, ?_, ?_⟩
      · rw [List.forall_mem_append, List.forall_mem_cons]
        exact ⟨hcalls.1, hcalls.2.1.2 r, hcalls.2.2⟩
      · refine hserved.carries.shaped hinv.shaped ?_
        rintro id d rfl
        cases hcalls.2.1.1
      · intro active hactive row hrow
        obtain ⟨row', hrow', hsame⟩ := hinv.listed active hactive row hrow
        obtain ⟨row'', hrow'', hsame'⟩ := hserved.carries.old row' hrow'
        exact ⟨row'', hrow'', hsame.trans hsame'⟩
  | @others w' hfindings =>
      refine ⟨hinv.tasks, ?_, ?_⟩
      · intro row hrow
        exact hinv.shaped row (hfindings ▸ hrow)
      · intro active hactive row hrow
        obtain ⟨row', hrow', hsame⟩ := hinv.listed active hactive row hrow
        exact ⟨row', hfindings.symm ▸ hrow', hsame⟩

/-- **The invariant holds in every run** of an installation that starts without findings. -/
theorem DriftSystem.inv_of_run {s : DriftSystem} (hempty : w.findings = Table.empty)
    (hrun : DriftRun (.idle w) s) : s.Inv := by
  induction hrun with
  | refl =>
      refine ⟨fun _ h => absurd h List.not_mem_nil, fun row hrow => ?_, nofun⟩
      have hrow' : row ∈ w.findings := hrow
      rw [hempty] at hrow'
      exact absurd hrow' List.not_mem_nil
  | tail hrun hstep ih => exact ih.step (fun _ _ hpass => passOwes_of_run hrun hpass) hstep

/-! ## Exhibiting runs -/

def DriftWorld.playPass (fates : DriftFates) (c : DriftCall)
    (s : DriftWorld × PassLog × List DriftWorld × List DriftWorld) :
    Option (Except Failure c.Reply × DriftWorld × PassLog × List DriftWorld × List DriftWorld) :=
  (DriftWorld.play fates c s.1).map fun out =>
    (out.1, out.2, ⟨c, out.1⟩ :: s.2.1, s.1 :: s.2.2.1, out.2 :: s.2.2.2)

/-- What a call of another program changes, while the pass has come as far as `log`. -/
def DriftWorld.playTask (fates : DriftFates) (log : PassLog) (c : DriftCall)
    (s : DriftWorld × List DriftWorld × List (String × PassLog)) :
    Option (Except Failure c.Reply × DriftWorld × List DriftWorld × List (String × PassLog)) :=
  (DriftWorld.play fates c s.1).map fun out =>
    (out.1, out.2, out.2 :: s.2.1,
      ((c.settles out.1).map fun fingerprint => (fingerprint, log)).toList ++ s.2.2)

namespace DriftSystem

def begin (now : Time) (s : DriftSystem) : DriftSystem :=
  { s with
    pass := some (runDriftPass now), log := [], scenes := [], moments := [s.world], settled := [] }

/-- The program `p` of the pass makes up to `n` calls. -/
def passCalls (fates : DriftFates) (n : Nat) (p : DriftTask DriftPassResult) (s : DriftSystem) :
    DriftSystem :=
  let out := drive (DriftWorld.playPass fates) n (p, s.world, s.log, s.scenes, s.moments)
  { s with
    world := out.2.1, pass := some out.1, log := out.2.2.1, scenes := out.2.2.2.1
    moments := out.2.2.2.2 }

/-- The pass makes up to `n` calls. -/
def passRun (fates : DriftFates) (n : Nat) (s : DriftSystem) : DriftSystem :=
  match s.pass with
  | none => s
  | some p => s.passCalls fates n p

/-- The program `p` arrives and makes up to `n` calls. -/
def taskRun (fates : DriftFates) (n : Nat) (p : DriftTask Unit) (s : DriftSystem) : DriftSystem :=
  let out := drive (DriftWorld.playTask fates s.log) n (p, s.world, s.moments, s.settled)
  { s with
    world := out.2.1, tasks := out.1 :: s.tasks, moments := out.2.2.1, settled := out.2.2.2 }

def finish (s : DriftSystem) : DriftSystem :=
  match s.pass with
  | none => s
  | some p => if p.result?.isSome then { s with pass := none } else s

theorem pass_of_pending {s : DriftSystem} {c : DriftCall}
    (hpending : s.pass.bind Prog.pending? = some c) : ∃ next, s.pass = some (.call c next) := by
  obtain ⟨p, hpass, hp⟩ := Option.bind_eq_some_iff.mp hpending
  obtain ⟨next, rfl⟩ := Prog.eq_call_of_pending hp
  exact ⟨next, hpass⟩

structure ByPass (s s' : DriftSystem) : Prop where
  step : DriftStep s s'
  settled : s'.settled ⊆ s.settled
  moved : s'.world = s.world ∨ s'.log ≠ s.log

structure Beside (log : PassLog) (s s' : DriftSystem) : Prop where
  step : DriftStep s s'
  before : s.log = log
  after : s'.log = log

section runs

variable {R : DriftSystem → DriftSystem → Prop} {s₀ s : DriftSystem}

theorem run_begin (hR : ∀ s s', ByPass s s' → R s s') (now : Time)
    (hrun : Relation.ReflTransGen R s₀ s) (hidle : s.pass.isNone = true) :
    Relation.ReflTransGen R s₀ (s.begin now) :=
  hrun.tail (hR _ _ ⟨.begin now (Option.isNone_iff_eq_none.mp hidle), List.nil_subset _, .inl rfl⟩)

theorem run_passCalls (hR : ∀ s s', ByPass s s' → R s s') (fates : DriftFates) (n : Nat)
    (p : DriftTask DriftPassResult) :
    Relation.ReflTransGen R { s with pass := some p } (s.passCalls fates n p) :=
  reaches_drive
    (fun cfg => { s with
      world := cfg.2.1, pass := some cfg.1, log := cfg.2.2.1, scenes := cfg.2.2.2.1
      moments := cfg.2.2.2.2 })
    (fun c next σ r σ' hanswer => by
      obtain ⟨out, hout, heq⟩ := Option.map_eq_some_iff.mp hanswer
      cases heq
      exact hR _ _ ⟨DriftStep.observe (s := { s with
        world := σ.1, pass := some (.call c next), log := σ.2.1, scenes := σ.2.2.1
        moments := σ.2.2.2 }) rfl (driftServed_play hout), fun _ h => h,
        .inr (List.cons_ne_self _ _)⟩)
    n (p, s.world, s.log, s.scenes, s.moments)

theorem run_passRun (hR : ∀ s s', ByPass s s' → R s s') (fates : DriftFates) (n : Nat)
    (hrun : Relation.ReflTransGen R s₀ s) : Relation.ReflTransGen R s₀ (s.passRun fates n) := by
  refine hrun.trans ?_
  unfold passRun
  cases hpass : s.pass with
  | none => exact .refl
  | some p =>
      have hcalls := run_passCalls (s := s) hR fates n p
      rwa [← hpass] at hcalls

theorem run_finish (hR : ∀ s s', ByPass s s' → R s s') (hrun : Relation.ReflTransGen R s₀ s) :
    Relation.ReflTransGen R s₀ s.finish := by
  refine hrun.trans ?_
  unfold finish
  cases hpass : s.pass with
  | none => exact .refl
  | some p =>
      change Relation.ReflTransGen R s (if p.result?.isSome then { s with pass := none } else s)
      split
      · next hover =>
          obtain ⟨result, hresult⟩ := Option.isSome_iff_exists.mp hover
          have hover : s.pass = some (.ofExcept result) := by
            rw [hpass, Prog.eq_ofExcept hresult]
          exact .single (hR _ _ ⟨.finish hover, fun _ h => h, .inl rfl⟩)
      · exact .refl

theorem run_taskRun (hR : ∀ s₁ s₂, Beside s.log s₁ s₂ → R s₁ s₂) (fates : DriftFates) (n : Nat)
    {p : DriftTask Unit} (hrun : Relation.ReflTransGen R s₀ s) (hrequest : DriftRequest p) :
    Relation.ReflTransGen R s₀ (s.taskRun fates n p) := by
  have hcalls : Relation.ReflTransGen R { s with tasks := p :: s.tasks } (s.taskRun fates n p) :=
    reaches_drive
      (fun cfg => { s with
        world := cfg.2.1, tasks := cfg.1 :: s.tasks, moments := cfg.2.2.1, settled := cfg.2.2.2 })
      (fun c next σ r σ' hanswer => by
        obtain ⟨out, hout, heq⟩ := Option.map_eq_some_iff.mp hanswer
        cases heq
        exact hR _ _ ⟨DriftStep.act (s := { s with
          world := σ.1, tasks := .call c next :: s.tasks, moments := σ.2.1, settled := σ.2.2 })
          (show Prog.call c next :: s.tasks = [] ++ Prog.call c next :: s.tasks from rfl)
          (driftServed_play hout), rfl, rfl⟩)
      n (p, s.world, s.moments, s.settled)
  exact (hrun.tail (hR _ _ ⟨.request hrequest, rfl, rfl⟩)).trans hcalls

end runs

end DriftSystem

end ProxVM
