import Mathlib.Algebra.Ring.Int.Defs
import Mathlib.Data.Char
import Mathlib.Data.List.AList
import Mathlib.Data.List.Lex

/-!
# Backups of the VMs

`groupBelongsToVm` and `matchSnapshotsToVms` of `services/backups.ts`: the groups that a backup
server lists, summed up for the VMs.  A group has the id `vm/136`, or `136` if its type is that of VMs or none.  The
sums are made by id, of the first 500 rows, with the type of the first row of an id; times are compared as texts.
-/

namespace ProxVM.Backups

abbrev Text := List Char

inductive Field
  | text (value : Text)
  | number (value : Int)
  | other
  deriving DecidableEq, Repr

structure Group where
  backupId : Option Field
  backupType : Option Field
  backupCount : Option Field
  lastBackup : Option Field
  deriving DecidableEq, Repr

structure Vm where
  id : Nat
  vmid : Nat
  deriving DecidableEq, Repr

def bareId (vmid : Nat) : Text := vmid.repr.toList

def prefixedId (vmid : Nat) : Text := 'v' :: 'm' :: '/' :: bareId vmid

def isVmType (type : Option Field) : Bool := decide (type = none ∨ type = some (.text ['v', 'm']))

def groupBelongsToVm (g : Group) (vmid : Nat) : Bool :=
  if g.backupId = some (.text (prefixedId vmid)) then true
  else if g.backupId = some (.text (bareId vmid)) then isVmType g.backupType
  else false

structure Entry where
  count : Int
  lastBackup : Option Text
  backupType : Option Field
  deriving DecidableEq, Repr

structure VmSnapshotMatch where
  count : Int
  lastBackup : Option Text
  deriving DecidableEq, Repr

def countOf (g : Group) : Int :=
  match g.backupCount with
  | some (.number n) => n
  | _ => 1

def later (old stamp : Option Text) : Option Text :=
  match old, stamp with
  | some a, some b => if a < b then some b else some a
  | none, stamp => stamp
  | old, none => old

section

-- `new Date(seconds * 1000).toISOString()`, which fails beyond the range of dates, and the instant a text names
variable (toIso : Int → Option Text) (instant : Text → Int)

def stampOf (g : Group) : Option (Option Text) :=
  match g.lastBackup with
  | some (.number n) => (toIso n).map some
  | some (.text t) => some (if t = [] then none else some t)
  | _ => some none

def addGroup (entries : AList fun _ : Text => Entry) (row : Option Group) : Option (AList fun _ : Text => Entry) :=
  match row with
  | none => some entries
  | some g =>
      match g.backupId with
      | some (.text id) => (stampOf toIso g).map fun stamp =>
          let entry := (entries.lookup id).getD ⟨0, none, g.backupType⟩
          entries.insert id { entry with count := entry.count + countOf g, lastBackup := later entry.lastBackup stamp }
      | _ => some entries

def matchVm (entries : AList fun _ : Text => Entry) (vmid : Nat) : Option VmSnapshotMatch :=
  let direct := entries.lookup (prefixedId vmid)
  let bare := (entries.lookup (bareId vmid)).filter fun e => isVmType e.backupType
  match direct, bare with
  | none, none => none
  | some d, none => some ⟨d.count, d.lastBackup⟩
  | none, some b => some ⟨b.count, b.lastBackup⟩
  | some d, some b => some ⟨d.count + b.count, later d.lastBackup b.lastBackup⟩

def addVm (entries : AList fun _ : Text => Entry) (out : AList fun _ : Nat => VmSnapshotMatch) (vm : Vm) :
    AList fun _ : Nat => VmSnapshotMatch :=
  match matchVm entries vm.vmid with
  | some summary => out.insert vm.id summary
  | none => out

def matchSnapshotsToVms (groups : List (Option Group)) (vms : List Vm) : Option (AList fun _ : Nat => VmSnapshotMatch) :=
  ((groups.take 500).foldlM (addGroup toIso) ∅).map fun entries => vms.foldl (addVm entries) ∅

/-! ## What is asked for -/

def ofId (rows : List (Option Group)) (id : Text) : List Group :=
  rows.filterMap fun row => row.filter fun g => decide (g.backupId = some (.text id))

def belonging (rows : List (Option Group)) (vmid : Nat) : List Group :=
  rows.filterMap fun row => row.filter fun g => groupBelongsToVm g vmid

def credited (rows : List (Option Group)) (vmid : Nat) : List Group :=
  ofId (rows.take 500) (prefixedId vmid) ++
    if ((ofId (rows.take 500) (bareId vmid)).head?.all fun g => isVmType g.backupType) = true then
      ofId (rows.take 500) (bareId vmid)
    else []

def total (rows : List Group) : Int := (rows.map countOf).sum

def stamps (rows : List Group) : List Text := rows.filterMap fun g => (stampOf toIso g).join

def IsLatest (best : Option Text) (times : List Text) : Prop :=
  match best with
  | none => times = []
  | some s => s ∈ times ∧ ∀ t ∈ times, instant t ≤ instant s

def Greatest (best : Option Text) (texts : List Text) : Prop :=
  match best with
  | none => texts = []
  | some s => s ∈ texts ∧ ∀ t ∈ texts, t ≤ s

def Agrees (rows : List (Option Group)) (out : AList fun _ : Nat => VmSnapshotMatch) (vm : Vm) : Prop :=
  match out.lookup vm.id with
  | none => belonging rows vm.vmid = []
  | some s => belonging rows vm.vmid ≠ [] ∧ s.count = total (belonging rows vm.vmid) ∧
      IsLatest instant s.lastBackup (stamps toIso (belonging rows vm.vmid))

/-- The rows a VM is credited with make up for those that belong to it: there are some if any belong to it, they
count as much, and the greatest of their times is the latest of the times of those. -/
def MakesUp (rows : List (Option Group)) (vmid : Nat) : Prop :=
  (belonging rows vmid ≠ [] → credited rows vmid ≠ []) ∧ total (credited rows vmid) = total (belonging rows vmid) ∧
    ∀ best, Greatest best (stamps toIso (credited rows vmid)) → IsLatest instant best (stamps toIso (belonging rows vmid))

def Readable (row : Option Group) : Prop :=
  ∀ g, row = some g → ∀ id, g.backupId = some (.text id) → stampOf toIso g ≠ none

end

variable {toIso : Int → Option Text} {instant : Text → Int} {rows : List (Option Group)}
  {entries entries' : AList fun _ : Text => Entry} {vmid : Nat}

/-! ## Greatest texts -/

theorem Greatest.append {a b : Option Text} {xs ys : List Text} (ha : Greatest a xs) (hb : Greatest b ys) :
    Greatest (later a b) (xs ++ ys) := by
  match a, b with
  | none, none =>
      rw [show xs = [] from ha, show ys = [] from hb]
      rfl
  | none, some b =>
      rw [show xs = [] from ha]
      exact hb
  | some a, none =>
      rw [show ys = [] from hb, List.append_nil]
      exact ha
  | some a, some b =>
      obtain ⟨hmemA, hleA⟩ := ha
      obtain ⟨hmemB, hleB⟩ := hb
      show Greatest (if a < b then some b else some a) (xs ++ ys)
      by_cases hlt : a < b
      · rw [if_pos hlt]
        exact ⟨List.mem_append_right _ hmemB, List.forall_mem_append.mpr ⟨fun t ht => (hleA t ht).trans hlt.le, hleB⟩⟩
      · rw [if_neg hlt]
        exact ⟨List.mem_append_left _ hmemA,
          List.forall_mem_append.mpr ⟨hleA, fun t ht => (hleB t ht).trans (not_lt.mp hlt)⟩⟩

theorem Greatest.unique {a b : Option Text} {xs : List Text} (ha : Greatest a xs) (hb : Greatest b xs) : a = b := by
  match a, b with
  | none, none => rfl
  | none, some b =>
      obtain ⟨hmem, -⟩ := hb
      rw [show xs = [] from ha] at hmem
      cases hmem
  | some a, none =>
      obtain ⟨hmem, -⟩ := ha
      rw [show xs = [] from hb] at hmem
      cases hmem
  | some a, some b => exact congrArg some ((hb.2 a ha.1).antisymm (ha.2 b hb.1))

/-! ## The entries -/

def absorb (toIso : Int → Option Text) (e : Option Entry) (g : Group) : Option Entry :=
  let entry := e.getD ⟨0, none, g.backupType⟩
  some { entry with count := entry.count + countOf g, lastBackup := later entry.lastBackup (stampOf toIso g).join }

theorem lookup_addGroup {row : Option Group} (hadd : addGroup toIso entries row = some entries') (id : Text) :
    entries'.lookup id = (ofId [row] id).foldl (absorb toIso) (entries.lookup id) := by
  cases row with
  | none =>
      cases hadd
      rfl
  | some g =>
      have hother : g.backupId ≠ some (.text id) → ofId [some g] id = [] := fun hne => by simp [ofId, hne]
      unfold addGroup at hadd
      dsimp only at hadd
      split at hadd
      · next key hkey =>
          obtain ⟨stamp, hstamp, rfl⟩ := Option.map_eq_some_iff.mp hadd
          by_cases hid : key = id
          · subst hid
            have hone : ofId [some g] key = [g] := by
              rw [ofId, List.filterMap_cons_some (b := g) (by rw [Option.filter_some, if_pos (decide_eq_true hkey)])]
              rfl
            rw [AList.lookup_insert, hone, List.foldl_cons, List.foldl_nil, absorb, hstamp]
            rfl
          · rw [AList.lookup_insert_ne (Ne.symm hid), hother fun h => hid (by rw [hkey] at h; cases h; rfl)]
            rfl
      · next hkey =>
          cases hadd
          rw [hother (hkey id)]
          rfl

theorem lookup_foldlM (hfold : rows.foldlM (addGroup toIso) entries = some entries') (id : Text) :
    entries'.lookup id = (ofId rows id).foldl (absorb toIso) (entries.lookup id) := by
  induction rows generalizing entries with
  | nil =>
      cases hfold
      rfl
  | cons row rows ih =>
      obtain ⟨next, hadd, hrest⟩ := Option.bind_eq_some_iff.mp hfold
      have hsplit : ofId (row :: rows) id = ofId [row] id ++ ofId rows id := List.filterMap_append (l := [row])
      rw [ih hrest, lookup_addGroup hadd id, hsplit, List.foldl_append]

theorem foldlM_ne_none_iff (entries : AList fun _ : Text => Entry) : rows.foldlM (addGroup toIso) entries ≠ none ↔ ∀ row ∈ rows, Readable toIso row := by
  have hstep : ∀ entries row, addGroup toIso entries row ≠ none ↔ Readable toIso row := by
    intro entries row
    cases row with
    | none => exact iff_of_true (Option.some_ne_none _) fun g heq => nomatch heq
    | some g =>
        unfold addGroup Readable
        dsimp only
        split
        · next id hid => simp [hid]
        · next hid => exact iff_of_true (Option.some_ne_none _) fun h heq key hkey => absurd (Option.some.inj heq ▸ hkey) (hid key)
  induction rows generalizing entries with
  | nil => exact iff_of_true (Option.some_ne_none _) (List.forall_mem_nil _)
  | cons row rows ih =>
      rw [List.forall_mem_cons, ← hstep entries row, List.foldlM_cons]
      cases hadd : addGroup toIso entries row with
      | none => exact iff_of_false (not_not.mpr rfl) fun h => h.1 rfl
      | some next => exact (ih _).trans (and_iff_right nofun).symm

theorem foldl_absorb (toIso : Int → Option Text) (g : Group) (gs : List Group) : ∃ e, (g :: gs).foldl (absorb toIso) none = some e ∧
    e.count = total (g :: gs) ∧ Greatest e.lastBackup (stamps toIso (g :: gs)) ∧ e.backupType = g.backupType := by
  have hmore : ∀ (gs pre : List Group) (e : Entry), Greatest e.lastBackup (stamps toIso pre) →
      ∃ e', gs.foldl (absorb toIso) (some e) = some e' ∧ e'.count = e.count + total gs ∧
        Greatest e'.lastBackup (stamps toIso (pre ++ gs)) ∧ e'.backupType = e.backupType := by
    intro gs
    induction gs with
    | nil => exact fun pre e he => ⟨e, rfl, (Int.add_zero _).symm, by rwa [List.append_nil], rfl⟩
    | cons g gs ih =>
        intro pre e he
        have hg : Greatest (stampOf toIso g).join (stamps toIso [g]) := by
          unfold stamps
          cases hstamp : (stampOf toIso g).join with
          | none => simp [hstamp, Greatest]
          | some s => simp [hstamp, Greatest]
        have hnext := he.append hg
        rw [stamps, stamps, ← List.filterMap_append] at hnext
        obtain ⟨e', hfold, hcount, hbest, htype⟩ :=
          ih (pre ++ [g]) { e with count := e.count + countOf g, lastBackup := later e.lastBackup (stampOf toIso g).join } hnext
        refine ⟨e', hfold, ?_, ?_, htype⟩
        · rw [hcount]
          simp only [total, List.map_cons, List.sum_cons]
          omega
        · rwa [List.append_assoc, List.singleton_append] at hbest
  obtain ⟨e, hfold, hcount, hbest, htype⟩ := hmore (g :: gs) [] ⟨0, none, g.backupType⟩ rfl
  exact ⟨e, hfold, by rw [hcount, Int.zero_add], hbest, htype⟩

theorem lookup_entries (hfold : rows.foldlM (addGroup toIso) ∅ = some entries) (id : Text) :
    (ofId rows id = [] ∧ entries.lookup id = none) ∨
      ∃ g gs e, ofId rows id = g :: gs ∧ entries.lookup id = some e ∧ e.count = total (ofId rows id) ∧
        Greatest e.lastBackup (stamps toIso (ofId rows id)) ∧ e.backupType = g.backupType := by
  have hlookup := lookup_foldlM hfold id
  rw [AList.lookup_empty] at hlookup
  cases hrows : ofId rows id with
  | nil =>
      rw [hrows] at hlookup
      exact .inl ⟨rfl, hlookup⟩
  | cons g gs =>
      obtain ⟨e, he, hcount, hbest, htype⟩ := foldl_absorb toIso g gs
      rw [hrows, he] at hlookup
      exact .inr ⟨g, gs, e, rfl, hlookup, hcount, hbest, htype⟩

theorem total_append (xs ys : List Group) : total (xs ++ ys) = total xs + total ys := by
  rw [total, List.map_append, List.sum_append]
  rfl

theorem stamps_append (xs ys : List Group) : stamps toIso (xs ++ ys) = stamps toIso xs ++ stamps toIso ys :=
  List.filterMap_append

theorem matchVm_spec (hfold : (rows.take 500).foldlM (addGroup toIso) ∅ = some entries) (vmid : Nat) :
    match matchVm entries vmid with
    | none => credited rows vmid = []
    | some s => credited rows vmid ≠ [] ∧ s.count = total (credited rows vmid) ∧
        Greatest s.lastBackup (stamps toIso (credited rows vmid)) := by
  -- the usable part of the rows with the bare id, as an entry
  have hbare : ∃ used, used = (if ((ofId (rows.take 500) (bareId vmid)).head?.all fun g => isVmType g.backupType) = true
        then ofId (rows.take 500) (bareId vmid) else []) ∧
      match (entries.lookup (bareId vmid)).filter fun e => isVmType e.backupType with
      | none => used = []
      | some e => used ≠ [] ∧ e.count = total used ∧ Greatest e.lastBackup (stamps toIso used) := by
    refine ⟨_, rfl, ?_⟩
    obtain ⟨hnone, hlookup⟩ | ⟨g, gs, e, hrows, hlookup, hcount, hbest, htype⟩ := lookup_entries hfold (bareId vmid)
    · rw [hlookup, hnone]
      exact ite_self _
    · rw [hlookup, Option.filter_some, htype, hrows, List.head?_cons, Option.all_some]
      rw [hrows] at hcount hbest
      by_cases hvm : isVmType g.backupType = true
      · rw [if_pos hvm, if_pos hvm]
        exact ⟨List.cons_ne_nil _ _, hcount, hbest⟩
      · rw [if_neg hvm, if_neg hvm]
  obtain ⟨used, hused, hbare⟩ := hbare
  rw [credited, ← hused, matchVm]
  obtain ⟨hnone, hlookup⟩ | ⟨g, gs, d, hrows, hlookup, hcount, hbest, -⟩ := lookup_entries hfold (prefixedId vmid)
  · rw [hlookup, hnone, List.nil_append]
    split at hbare
    · next hlook => rw [hlook]; exact hbare
    · next e hlook => rw [hlook]; exact hbare
  · have hne : ofId (rows.take 500) (prefixedId vmid) ≠ [] := by
      rw [hrows]
      exact List.cons_ne_nil _ _
    rw [hlookup]
    split at hbare
    · next hlook =>
        rw [hlook, hbare, List.append_nil]
        exact ⟨hne, hcount, hbest⟩
    · next e hlook =>
        obtain ⟨-, hcountB, hbestB⟩ := hbare
        rw [hlook]
        refine ⟨List.append_ne_nil_of_left_ne_nil hne _, ?_, ?_⟩
        · rw [total_append, ← hcount, ← hcountB]
        · rw [stamps_append]
          exact hbest.append hbestB

/-! ## The summaries -/

theorem mem_ofId {g : Group} {id : Text} : g ∈ ofId rows id ↔ some g ∈ rows ∧ g.backupId = some (.text id) := by
  simp only [ofId, List.mem_filterMap, Option.filter_eq_some_iff, decide_eq_true_eq]
  exact ⟨fun ⟨_, hrow, heq, hid⟩ => ⟨heq ▸ hrow, hid⟩, fun ⟨hrow, hid⟩ => ⟨_, hrow, rfl, hid⟩⟩

theorem mem_belonging {g : Group} : g ∈ belonging rows vmid ↔ some g ∈ rows ∧ groupBelongsToVm g vmid = true := by
  simp only [belonging, List.mem_filterMap, Option.filter_eq_some_iff]
  exact ⟨fun ⟨_, hrow, heq, hid⟩ => ⟨heq ▸ hrow, hid⟩, fun ⟨hrow, hid⟩ => ⟨_, hrow, rfl, hid⟩⟩

theorem belonging_of_credited (hne : credited rows vmid ≠ []) : belonging rows vmid ≠ [] := by
  obtain ⟨g, hg⟩ := List.exists_mem_of_ne_nil _ hne
  obtain hdirect | hbare := List.mem_append.mp hg
  · obtain ⟨hrow, hid⟩ := mem_ofId.mp hdirect
    exact List.ne_nil_of_mem (mem_belonging.mpr ⟨List.mem_of_mem_take hrow, if_pos hid⟩)
  · split at hbare
    · next hfirst =>
        obtain ⟨first, more, hrows⟩ := List.exists_cons_of_ne_nil (List.ne_nil_of_mem hbare)
        rw [hrows, List.head?_cons, Option.all_some] at hfirst
        obtain ⟨hrow, hid⟩ := mem_ofId.mp (hrows ▸ List.mem_cons_self : first ∈ _)
        refine List.ne_nil_of_mem (mem_belonging.mpr ⟨List.mem_of_mem_take hrow, ?_⟩)
        unfold groupBelongsToVm
        split
        · rfl
        · exact hfirst
    · cases hbare

theorem lookup_addVms {id : Nat} {vms : List Vm} {out : AList fun _ : Nat => VmSnapshotMatch}
    (hsame : ∀ v ∈ vms, v.id = id → v.vmid = vmid) : (vms.foldl (addVm entries) out).lookup id =
      if ∃ v ∈ vms, v.id = id then (matchVm entries vmid).or (out.lookup id) else out.lookup id := by
  induction vms generalizing out with
  | nil => rfl
  | cons v vms ih =>
      rw [List.foldl_cons, ih fun w hw => hsame w (List.mem_cons_of_mem v hw)]
      by_cases hid : v.id = id
      · have hvmid := hsame v List.mem_cons_self hid
        have hadd : (addVm entries out v).lookup id = (matchVm entries vmid).or (out.lookup id) := by
          rw [addVm, hvmid, ← hid]
          cases matchVm entries vmid with
          | none => rfl
          | some s => exact AList.lookup_insert _
        have hexists : ∃ w ∈ v :: vms, w.id = id := ⟨v, List.mem_cons_self, hid⟩
        rw [hadd, if_pos hexists]
        cases matchVm entries vmid <;> simp
      · have hadd : (addVm entries out v).lookup id = out.lookup id := by
          rw [addVm]
          cases matchVm entries v.vmid with
          | none => rfl
          | some s => exact AList.lookup_insert_ne (Ne.symm hid)
        have hexists : (∃ w ∈ v :: vms, w.id = id) ↔ ∃ w ∈ vms, w.id = id := by simp [hid]
        simp only [hadd, hexists]

/-- **The summaries are right exactly if for every VM the rows it is credited with make up for those that belong to
it,** and no time is beyond the range of dates. -/
theorem agrees_iff (toIso : Int → Option Text) (instant : Text → Int) (rows : List (Option Group)) {vms : List Vm}
    (hids : ∀ v ∈ vms, ∀ w ∈ vms, w.id = v.id → w.vmid = v.vmid) :
    (∃ out, matchSnapshotsToVms toIso rows vms = some out ∧ ∀ vm ∈ vms, Agrees toIso instant rows out vm) ↔
      (∀ row ∈ rows.take 500, Readable toIso row) ∧ ∀ vm ∈ vms, MakesUp toIso instant rows vm.vmid := by
  rw [← foldlM_ne_none_iff ∅, matchSnapshotsToVms]
  cases hfold : (rows.take 500).foldlM (addGroup toIso) ∅ with
  | none => exact iff_of_false nofun fun h => h.1 rfl
  | some entries =>
      rw [and_iff_right nofun]
      have hvm : ∀ vm ∈ vms, Agrees toIso instant rows (vms.foldl (addVm entries) ∅) vm ↔
          MakesUp toIso instant rows vm.vmid := by
        intro vm hvm
        have hlookup := @lookup_addVms entries vm.vmid vm.id vms ∅ (hids vm hvm)
        rw [if_pos ⟨vm, hvm, rfl⟩, AList.lookup_empty, Option.or_none] at hlookup
        have hspec := matchVm_spec hfold vm.vmid
        unfold Agrees MakesUp
        rw [hlookup]
        cases hmatch : matchVm entries vm.vmid with
        | none =>
            rw [hmatch] at hspec
            rw [show credited rows vm.vmid = [] from hspec]
            constructor
            · intro hnone
              rw [hnone]
              exact ⟨fun h => h, rfl, fun best hbest => hbest.unique (b := none) rfl ▸ rfl⟩
            · exact fun hmakes => by_contra fun hne => hmakes.1 hne rfl
        | some s =>
            rw [hmatch] at hspec
            obtain ⟨hne, hcount, hbest⟩ := hspec
            constructor
            · rintro ⟨-, hcounts, hlatest⟩
              exact ⟨fun _ => hne, hcount.symm.trans hcounts, fun best hgreatest => hbest.unique hgreatest ▸ hlatest⟩
            · rintro ⟨-, htotal, hlatest⟩
              exact ⟨belonging_of_credited hne, hcount.trans htotal, hlatest _ hbest⟩
      constructor
      · rintro ⟨out, hout, hall⟩ vm hmem
        cases hout
        exact (hvm vm hmem).mp (hall vm hmem)
      · exact fun hall => ⟨_, rfl, fun vm hmem => (hvm vm hmem).mpr (hall vm hmem)⟩

/-! ## Samples -/

def sampleGroup (id type : Text) : Group := ⟨some (.text id), some (.text type), none, some (.number 0)⟩

def sampleIso (seconds : Int) : Option Text := if seconds = 0 then some "1970-01-01T00:00:00.000Z".toList else none

theorem agrees_ok : ∃ out, matchSnapshotsToVms sampleIso [some (sampleGroup (bareId 136) ['v', 'm'])] [⟨30, 136⟩] = some out ∧
    ∀ vm ∈ [(⟨30, 136⟩ : Vm)], Agrees sampleIso (fun _ => 0) [some (sampleGroup (bareId 136) ['v', 'm'])] out vm := by
  refine (@agrees_iff sampleIso (fun _ => 0) [some (sampleGroup (bareId 136) ['v', 'm'])] [⟨30, 136⟩] (by decide)).mpr ⟨?_, ?_⟩
  · refine List.forall_mem_singleton.mpr fun g hg id _ => ?_
    cases hg
    decide
  · refine List.forall_mem_singleton.mpr ⟨fun _ => by decide, by decide, fun best hbest => ?_⟩
    have hone : stamps sampleIso (credited [some (sampleGroup (bareId 136) ['v', 'm'])] 136) =
        ["1970-01-01T00:00:00.000Z".toList] := by decide +kernel
    have hsame : stamps sampleIso (belonging [some (sampleGroup (bareId 136) ['v', 'm'])] 136) =
        ["1970-01-01T00:00:00.000Z".toList] := by decide +kernel
    rw [hone] at hbest
    rw [hsame, hbest.unique (b := some _) ⟨List.mem_singleton_self _, by simp⟩]
    exact ⟨List.mem_singleton_self _, by simp⟩

/-- A VM's group after one of a container with its number is not found. -/
theorem not_agrees_container : ¬ ∀ (toIso : Int → Option Text) (instant : Text → Int) (rows : List (Option Group))
    (vms : List Vm), (∀ v ∈ vms, ∀ w ∈ vms, w.id = v.id → w.vmid = v.vmid) →
      ∃ out, matchSnapshotsToVms toIso rows vms = some out ∧ ∀ vm ∈ vms, Agrees toIso instant rows out vm := by
  intro hall
  obtain ⟨out, hout, hagrees⟩ := hall sampleIso (fun _ => 0)
    [some (sampleGroup (bareId 136) ['c', 't']), some (sampleGroup (bareId 136) ['v', 'm'])] [⟨30, 136⟩] (by decide)
  have hnone : (matchSnapshotsToVms sampleIso [some (sampleGroup (bareId 136) ['c', 't']),
      some (sampleGroup (bareId 136) ['v', 'm'])] [⟨30, 136⟩]).map (AList.lookup 30) = some none := by decide +kernel
  rw [hout, Option.map_some] at hnone
  have hvm := hagrees ⟨30, 136⟩ List.mem_cons_self
  rw [Agrees, Option.some.inj hnone] at hvm
  exact absurd hvm (by decide +kernel)

end ProxVM.Backups
