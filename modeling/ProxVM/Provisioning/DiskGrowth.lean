import Mathlib.Algebra.Order.Field.Rat
import Mathlib.Tactic.Linarith
import Mathlib.Tactic.Positivity
import ProxVM.Lib.Solo
import ProxVM.Provisioning.Pipeline
import ProxVM.Provisioning.Simulation

/-!
# The size of the root disk

What `configureVm` writes to Proxmox, from the configuration that Proxmox reports, and how it reads the size of the
root disk.
-/

namespace ProxVM

open Interaction

/-! ## What `configureVm` writes -/

def configured (cfg : VmConfig) : Service calls Failure Unit
  | .proxmoxQemuConfig _ _, _, r, _ => ∀ found, r = .ok found → found = cfg
  | _, _, _, _ => True

def configUpdates (request : ProvisionRequest) (cfg : VmConfig) : VmConfig :=
  [("memory", toString request.ramMb), ("cores", toString request.cpu), ("sockets", "1"),
    ("agent", "enabled=1,fstrim_cloned_disks=1")] ++
    match netIndex cfg with
    | none => []
    | some key =>
        let parsed := parseNet ((cfg.lookup key).getD "")
        [(key, buildNet parsed.model parsed.macaddr request.network.bridge request.network.vlan
          (extraNetOptions (cfg.lookup key) parsed.model))]

def ProvisionRequest.diskBytes (request : ProvisionRequest) : Rat := request.diskGb * 1024 ^ 3

def ReadsSmaller (request : ProvisionRequest) (cfg : VmConfig) (disk : String) : Prop :=
  rootDisk cfg = some disk ∧ ∃ bytes, diskSizeOf ((cfg.lookup disk).getD "") = some bytes ∧ bytes < request.diskBytes

def ConfigCall (request : ProvisionRequest) (r : SharedState) (cfg : VmConfig) : Call → Prop
  | .proxmoxUpdateConfig node vmid updates => node = r.node ∧ vmid = r.vmid ∧ updates = configUpdates request cfg
  | .proxmoxResizeDisk node vmid disk sizeGb =>
      node = r.node ∧ vmid = r.vmid ∧ sizeGb = request.diskGb ∧ ReadsSmaller request cfg disk
  | _ => True

section calls

variable {k : StepRunner} {r : SharedState} {cfg : VmConfig} {disk : String}

theorem only_waitForTaskIfAny (node upid : String) :
    Only (ConfigCall k.request r cfg) (waitForTaskIfAny node upid) := by
  refine .ite only_pure (Only.bind (only_perform.mpr trivial) fun exit => ?_)
  cases exit with
  | ok => exact only_pure
  | failed exitstatus => exact only_raise

theorem makes_configureVm {c : Call} (hmakes : Makes (configured cfg) (k.configureVm r) () c ()) :
    ConfigCall k.request r cfg c := by
  obtain hhere | ⟨_, _, -, hthere⟩ := hmakes.of_bind
  · rw [← (makes_perform hhere).1]
    trivial
  obtain hhere | ⟨found, _, hfound, hthere⟩ := hthere.of_bind
  · rw [← (makes_perform hhere).1]
    trivial
  obtain rfl : found = cfg := ends_perform.mp hfound found rfl
  obtain hhere | ⟨_, _, -, hthere⟩ := hthere.of_bind
  · rw [← (makes_perform hhere).1]
    exact ⟨rfl, rfl, rfl⟩
  obtain hhere | ⟨_, _, -, hthere⟩ := hthere.of_bind
  · exact hhere.kind (only_waitForTaskIfAny _ _)
  refine hthere.kind ?_
  cases hdisk : rootDisk found with
  | none => exact only_pure
  | some disk =>
      dsimp only
      cases hsize : diskSizeOf ((found.lookup disk).getD "") with
      | none => exact only_pure
      | some bytes =>
          dsimp only
          split
          · next hless =>
              refine Only.bind (only_perform.mpr ⟨rfl, rfl, rfl, hdisk, bytes, hsize, hless⟩) fun upid => ?_
              exact Only.bind (only_waitForTaskIfAny _ upid) fun _ => only_pure
          · exact only_pure

theorem configured_report (node : String) (vmid : Nat) :
    configured cfg (.proxmoxQemuConfig node vmid) () (.ok cfg) () := by
  intro found hfound
  exact (Except.ok.inj hfound).symm

variable {node : String} {vmid : Nat}

theorem makes_updateConfig_iff {updates : VmConfig} :
    Makes (configured cfg) (k.configureVm r) () (.proxmoxUpdateConfig node vmid updates) () ↔
      node = r.node ∧ vmid = r.vmid ∧ updates = configUpdates k.request cfg := by
  refine ⟨makes_configureVm, ?_⟩
  rintro ⟨rfl, rfl, rfl⟩
  have hclient : configured cfg .getProxmoxClient () (.ok ()) () := trivial
  exact (ends_perform.mpr hclient).makes_bind ((ends_perform.mpr (configured_report _ _)).makes_bind .now)

theorem makes_resizeDisk_iff {sizeGb : Rat} :
    Makes (configured cfg) (k.configureVm r) () (.proxmoxResizeDisk node vmid disk sizeGb) () ↔
      node = r.node ∧ vmid = r.vmid ∧ sizeGb = k.request.diskGb ∧ ReadsSmaller k.request cfg disk := by
  refine ⟨makes_configureVm, ?_⟩
  rintro ⟨rfl, rfl, rfl, hdisk, bytes, hsize, hless⟩
  have hclient : configured cfg .getProxmoxClient () (.ok ()) () := trivial
  have hupdate : configured cfg (.proxmoxUpdateConfig r.node r.vmid (configUpdates k.request cfg)) () (.ok "") () :=
    trivial
  have hskip : Ends (configured cfg) (waitForTaskIfAny r.node "") () (.ok ()) () := by
    rw [waitForTaskIfAny, if_pos rfl]
    exact .ret
  refine (ends_perform.mpr hclient).makes_bind ((ends_perform.mpr (configured_report _ _)).makes_bind
    ((ends_perform.mpr hupdate).makes_bind (hskip.makes_bind ?_)))
  rw [hdisk]
  dsimp only
  rw [hsize]
  dsimp only
  have hsmaller : bytes < k.request.diskGb * 1024 ^ 3 := hless
  rw [if_pos hsmaller]
  exact .now

end calls

/-! ## Sizes -/

inductive SizeUnit
  | kilo
  | mega
  | giga
  | tera
  deriving DecidableEq, Repr

def SizeUnit.letter : SizeUnit → Char
  | .kilo => 'K'
  | .mega => 'M'
  | .giga => 'G'
  | .tera => 'T'

def SizeUnit.bytes : SizeUnit → Rat
  | .kilo => 1024
  | .mega => 1024 ^ 2
  | .giga => 1024 ^ 3
  | .tera => 1024 ^ 4

/-- A disk of a configuration: what stands before the option `size`, its number with or without a fraction and a
suffix, and what stands after it. -/
structure DiskEntry where
  lead : List Char
  whole : List Char
  fraction : List Char
  unit : Option SizeUnit
  rest : List Char
  lead_ends : lead = [] ∨ ∃ options, lead = options ++ [',']
  whole_digits : whole ≠ [] ∧ ∀ c ∈ whole, c.isDigit = true
  fraction_digits : ∀ c ∈ fraction, c.isDigit = true
  rest_begins : rest = [] ∨ ∃ options, rest = ',' :: options

namespace DiskEntry

variable (e : DiskEntry)

def tail : List Char :=
  (if e.fraction = [] then [] else '.' :: e.fraction) ++ (e.unit.map SizeUnit.letter).toList ++ e.rest

/-- The option `size` and what follows it. -/
def sized : List Char := "size=".toList ++ (e.whole ++ e.tail)

def text : String := String.ofList (e.lead ++ e.sized)

def number : Rat := digitsValue (e.whole ++ e.fraction) / (10 ^ e.fraction.length : Nat)

def bytes : Rat := e.number * (e.unit.map SizeUnit.bytes).getD 1

/-- The two readings are on the same side of what is requested.  Where the pattern matches before the option `size`,
that is what is read; else the number is read in K and M, and in G with every other suffix and without one. -/
def ReadsRight (requested : Rat) : Prop :=
  match firstDiskSize e.lead with
  | some earlier => earlier < requested ↔ e.bytes < requested
  | none =>
      match e.unit with
      | none => requested ≤ e.number ∨ e.number * 1024 ^ 3 < requested
      | some .tera => requested ≤ e.number * 1024 ^ 3 ∨ e.number * 1024 ^ 4 < requested
      | some _ => True

end DiskEntry

/-! ## What the pattern reads -/

section reading

variable {xs ys whole fraction : List Char} {c : Char}

def fractionAt : List Char → List Char
  | '.' :: rest => rest.takeWhile Char.isDigit
  | _ => []

def sizeFrom (whole fraction : List Char) (next : Option Char) : Option Rat :=
  if whole.isEmpty then none
  else
    let num : Rat := digitsValue (whole ++ fraction) / (10 ^ fraction.length : Nat)
    match next.map Char.toUpper with
    | some 'K' => some (num * 1024)
    | some 'M' => some (num * 1024 ^ 2)
    | _ => some (num * 1024 ^ 3)

def afterFraction (rest : List Char) : List Char :=
  if (fractionAt rest).isEmpty then rest else rest.drop ((fractionAt rest).length + 1)

def numberAt (rest : List Char) : Option Rat :=
  sizeFrom (rest.takeWhile Char.isDigit) (fractionAt (rest.dropWhile Char.isDigit))
    (afterFraction (rest.dropWhile Char.isDigit)).head?

theorem diskSizeAt_eq : diskSizeAt xs =
    if (xs.take 5).map Char.toLower = "size=".toList then numberAt (xs.drop 5) else none := rfl

theorem takeWhile_cut {p : Char → Bool} (hc : p c = false) : (xs ++ c :: ys).takeWhile p = xs.takeWhile p := by
  rw [List.takeWhile_append, List.takeWhile_cons_of_neg (Bool.eq_false_iff.mp hc), List.append_nil]
  split
  · next hall => exact ((List.takeWhile_prefix p).eq_of_length hall).symm
  · rfl

theorem dropWhile_cut {p : Char → Bool} (hc : p c = false) :
    (xs ++ c :: ys).dropWhile p = xs.dropWhile p ++ c :: ys := by
  rw [List.dropWhile_append, List.dropWhile_cons_of_neg (Bool.eq_false_iff.mp hc)]
  split
  · next hnil => rw [List.isEmpty_iff.mp hnil, List.nil_append]
  · rfl

theorem fractionAt_cut : fractionAt (xs ++ ',' :: ys) = fractionAt (xs ++ [',']) := by
  cases xs with
  | nil => rfl
  | cons c xs =>
      by_cases hc : c = '.'
      · subst hc
        exact (takeWhile_cut rfl).trans (takeWhile_cut rfl).symm
      · simp [fractionAt, hc]

theorem head_cut : (xs ++ ',' :: ys).head? = (xs ++ [',']).head? := by
  cases xs with
  | nil => rfl
  | cons c xs => rfl

theorem fractionAt_length (hne : fractionAt (xs ++ [',']) ≠ []) :
    (fractionAt (xs ++ [','])).length + 1 ≤ xs.length := by
  cases xs with
  | nil => exact absurd rfl hne
  | cons c xs =>
      by_cases hc : c = '.'
      · subst hc
        have hsame : fractionAt ('.' :: xs ++ [',']) = xs.takeWhile Char.isDigit := takeWhile_cut rfl
        rw [hsame]
        exact Nat.succ_le_succ (List.takeWhile_prefix _).length_le
      · exact absurd (by simp [fractionAt, hc]) hne

theorem head_afterFraction_cut :
    (afterFraction (xs ++ ',' :: ys)).head? = (afterFraction (xs ++ [','])).head? := by
  unfold afterFraction
  rw [fractionAt_cut]
  split
  · exact head_cut
  · next hne =>
      have hle := fractionAt_length (mt List.isEmpty_iff.mpr hne)
      rw [List.drop_append_of_le_length hle, List.drop_append_of_le_length hle]
      exact head_cut

theorem numberAt_cut : numberAt (xs ++ ',' :: ys) = numberAt (xs ++ [',']) := by
  unfold numberAt
  rw [takeWhile_cut (c := ',') rfl, takeWhile_cut (c := ',') rfl, dropWhile_cut (c := ',') rfl,
    dropWhile_cut (c := ',') rfl, fractionAt_cut, head_afterFraction_cut]

theorem diskSizeAt_cut : diskSizeAt (xs ++ ',' :: ys) = diskSizeAt (xs ++ [',']) := by
  rw [diskSizeAt_eq, diskSizeAt_eq]
  by_cases hlong : 5 ≤ xs.length
  · rw [List.take_append_of_le_length hlong, List.take_append_of_le_length hlong,
      List.drop_append_of_le_length hlong, List.drop_append_of_le_length hlong, numberAt_cut]
  · have hshort : ∀ ys : List Char, ((xs ++ ',' :: ys).take 5).map Char.toLower ≠ "size=".toList := by
      intro ys heq
      have hcomma : ',' ∈ (xs ++ ',' :: ys).take 5 := by
        rw [List.take_append]
        refine List.mem_append_right _ ?_
        obtain ⟨n, hn⟩ : ∃ n, 5 - xs.length = n + 1 := ⟨4 - xs.length, by omega⟩
        rw [hn]
        exact List.mem_cons_self
      have hmem : ',' ∈ "size=".toList := heq ▸ List.mem_map_of_mem (f := Char.toLower) hcomma
      revert hmem
      decide
    rw [if_neg (hshort ys), if_neg (hshort [])]

theorem firstDiskSize_cut : firstDiskSize (xs ++ ',' :: ys) = (firstDiskSize (xs ++ [',']) <|> firstDiskSize ys) := by
  induction xs with
  | nil =>
      change (diskSizeAt ([] ++ ',' :: ys) <|> firstDiskSize ys) = ((diskSizeAt [','] <|> none) <|> firstDiskSize ys)
      rw [diskSizeAt_cut]
      rfl
  | cons c xs ih =>
      change (diskSizeAt (c :: xs ++ ',' :: ys) <|> firstDiskSize (xs ++ ',' :: ys)) =
        ((diskSizeAt (c :: xs ++ [',']) <|> firstDiskSize (xs ++ [','])) <|> firstDiskSize ys)
      rw [diskSizeAt_cut, ih]
      cases diskSizeAt (c :: xs ++ [',']) with
      | none => rfl
      | some bytes => rfl

theorem takeWhile_digits (hwhole : ∀ c ∈ whole, c.isDigit = true) (hnext : ∀ c, ys.head? = some c → c.isDigit = false) :
    (whole ++ ys).takeWhile Char.isDigit = whole ∧ (whole ++ ys).dropWhile Char.isDigit = ys := by
  rw [List.takeWhile_append_of_pos hwhole, List.dropWhile_append_of_pos hwhole]
  cases ys with
  | nil => exact ⟨List.append_nil _, rfl⟩
  | cons c ys =>
      have hc := Bool.eq_false_iff.mp (hnext c rfl)
      rw [List.takeWhile_cons_of_neg hc, List.dropWhile_cons_of_neg hc]
      exact ⟨List.append_nil _, rfl⟩

end reading

namespace DiskEntry

variable (e : DiskEntry)

def suffix : List Char := (e.unit.map SizeUnit.letter).toList ++ e.rest

def readBytes : Rat :=
  match e.unit with
  | some .kilo => 1024
  | some .mega => 1024 ^ 2
  | _ => 1024 ^ 3

theorem head_suffix : e.suffix.head? = (e.unit.map SizeUnit.letter <|> e.rest.head?) := by
  unfold suffix
  cases e.unit with
  | none => rfl
  | some unit => rfl

theorem suffix_ends {c : Char} (hc : e.suffix.head? = some c) : c.isDigit = false ∧ c ≠ '.' := by
  rw [head_suffix] at hc
  cases hunit : e.unit with
  | some unit =>
      rw [hunit] at hc
      obtain rfl : unit.letter = c := Option.some.inj hc
      cases unit <;> decide
  | none =>
      rw [hunit] at hc
      obtain hrest | ⟨options, hrest⟩ := e.rest_begins <;> rw [hrest] at hc
      · cases hc
      · obtain rfl : ',' = c := Option.some.inj hc
        decide

theorem sizeFrom_suffix : sizeFrom e.whole e.fraction e.suffix.head? = some (e.number * e.readBytes) := by
  have hne : ¬ e.whole.isEmpty = true := mt List.isEmpty_iff.mp e.whole_digits.1
  unfold sizeFrom
  rw [if_neg hne, head_suffix]
  unfold readBytes number
  cases hunit : e.unit with
  | some unit => cases unit <;> rfl
  | none => obtain hrest | ⟨options, hrest⟩ := e.rest_begins <;> rw [hrest] <;> rfl

theorem fractionAt_tail : fractionAt e.tail = e.fraction ∧ (afterFraction e.tail).head? = e.suffix.head? := by
  have htail : e.tail = (if e.fraction = [] then [] else '.' :: e.fraction) ++ e.suffix := List.append_assoc _ _ _
  by_cases hnil : e.fraction = []
  · rw [htail, if_pos hnil, List.nil_append, hnil]
    have hnone : fractionAt e.suffix = [] := by
      cases hsuffix : e.suffix with
      | nil => rfl
      | cons c cs =>
          have hc := (e.suffix_ends (by rw [hsuffix]; rfl) : c.isDigit = false ∧ c ≠ '.').2
          simp [fractionAt, hc]
    unfold afterFraction
    rw [hnone]
    exact ⟨rfl, rfl⟩
  · rw [htail, if_neg hnil]
    have hfraction : fractionAt ('.' :: e.fraction ++ e.suffix) = e.fraction :=
      (takeWhile_digits e.fraction_digits fun c hc => (e.suffix_ends hc).1).1
    unfold afterFraction
    rw [hfraction, if_neg (mt List.isEmpty_iff.mp hnil)]
    refine ⟨rfl, ?_⟩
    rw [List.cons_append, List.drop_succ_cons, List.drop_left]

theorem numberAt_tail : numberAt (e.whole ++ e.tail) = some (e.number * e.readBytes) := by
  have hnext : ∀ c, e.tail.head? = some c → c.isDigit = false := by
    intro c hc
    by_cases hnil : e.fraction = []
    · refine (e.suffix_ends ?_).1
      rw [← hc, tail, if_pos hnil]
      rfl
    · rw [tail, if_neg hnil] at hc
      obtain rfl : '.' = c := Option.some.inj hc
      rfl
  obtain ⟨hwhole, htail⟩ := takeWhile_digits e.whole_digits.2 hnext
  obtain ⟨hfraction, hhead⟩ := e.fractionAt_tail
  unfold numberAt
  rw [hwhole, htail, hfraction, hhead, e.sizeFrom_suffix]

/-- **What `diskSizeOf` reads**: an earlier match, or the size with its suffix as it is read. -/
theorem diskSizeOf_text : diskSizeOf e.text = (firstDiskSize e.lead <|> some (e.number * e.readBytes)) := by
  have hsized : firstDiskSize e.sized = some (e.number * e.readBytes) := by
    change (diskSizeAt e.sized <|> _) = _
    have hat : diskSizeAt e.sized = some (e.number * e.readBytes) := e.numberAt_tail
    rw [hat]
    rfl
  unfold diskSizeOf text
  rw [String.toList_ofList]
  obtain hlead | ⟨options, hlead⟩ := e.lead_ends
  · rw [hlead, List.nil_append, hsized]
    rfl
  · rw [hlead, List.append_assoc, List.singleton_append, firstDiskSize_cut, hsized]

theorem number_nonneg : 0 ≤ e.number := by
  unfold number
  positivity

theorem sides_iff {a b r : Rat} (hle : a ≤ b) : r ≤ a ∨ b < r ↔ (a < r ↔ b < r) := by
  constructor
  · rintro (hless | hless)
    · exact iff_of_false hless.not_gt (hless.trans hle).not_gt
    · exact iff_of_true (hle.trans_lt hless) hless
  · intro hsame
    by_cases hless : b < r
    · exact .inr hless
    · exact .inl (not_lt.mp fun ha => hless (hsame.mp ha))

theorem readsRight_iff {requested : Rat} : e.ReadsRight requested ↔
    ((∃ bytes, diskSizeOf e.text = some bytes ∧ bytes < requested) ↔ e.bytes < requested) := by
  have hnumber := e.number_nonneg
  have hread : ∀ size : Rat, (∃ bytes, some size = some bytes ∧ bytes < requested) ↔ size < requested := by
    intro size
    exact ⟨fun ⟨_, hsame, hless⟩ => Option.some.inj hsame ▸ hless, fun hless => ⟨size, rfl, hless⟩⟩
  rw [diskSizeOf_text]
  unfold ReadsRight
  cases firstDiskSize e.lead with
  | some earlier => exact (iff_congr (hread earlier) Iff.rfl).symm
  | none =>
      change _ ↔ ((∃ bytes, some (e.number * e.readBytes) = some bytes ∧ bytes < requested) ↔ _)
      rw [hread]
      unfold bytes readBytes
      -- Only terabytes and a size without a suffix are read as something else.
      cases hunit : e.unit with
      | none =>
          change requested ≤ e.number ∨ _ ↔ (e.number * 1024 ^ 3 < requested ↔ e.number * 1 < requested)
          rw [mul_one, sides_iff (by linarith)]
          exact Iff.comm
      | some unit =>
          cases unit with
          | tera => exact sides_iff (by linarith)
          | kilo => exact iff_of_true trivial Iff.rfl
          | mega => exact iff_of_true trivial Iff.rfl
          | giga => exact iff_of_true trivial Iff.rfl

end DiskEntry

/-- **Disks only grow**: the root disk is resized, to the requested size, exactly if it is smaller, if and only if
its size is read right. -/
theorem disk_resize_iff {cfg : VmConfig} {disk : String} {e : DiskEntry} (k : StepRunner) (r : SharedState)
    (hdisk : rootDisk cfg = some disk) (hentry : cfg.lookup disk = some e.text) :
    (∀ node vmid disk' sizeGb, Makes (configured cfg) (k.configureVm r) () (.proxmoxResizeDisk node vmid disk' sizeGb) () ↔
      node = r.node ∧ vmid = r.vmid ∧ disk' = disk ∧ sizeGb = k.request.diskGb ∧ e.bytes < k.request.diskBytes) ↔
      e.ReadsRight k.request.diskBytes := by
  have hreads : ∀ disk', ReadsSmaller k.request cfg disk' ↔ disk' = disk ∧
      ∃ bytes, diskSizeOf e.text = some bytes ∧ bytes < k.request.diskBytes := by
    intro disk'
    constructor
    · rintro ⟨hdisk', hsmaller⟩
      obtain rfl : disk = disk' := Option.some.inj (hdisk.symm.trans hdisk')
      rw [hentry] at hsmaller
      exact ⟨rfl, hsmaller⟩
    · rintro ⟨rfl, hsmaller⟩
      refine ⟨hdisk, ?_⟩
      rw [hentry]
      exact hsmaller
  rw [e.readsRight_iff]
  constructor
  · intro hlaw
    have hcall := hlaw r.node r.vmid disk k.request.diskGb
    rw [makes_resizeDisk_iff, hreads] at hcall
    exact ⟨fun h => (hcall.mp ⟨rfl, rfl, rfl, rfl, h⟩).2.2.2.2, fun h => (hcall.mpr ⟨rfl, rfl, rfl, rfl, h⟩).2.2.2.2⟩
  · intro hsame node vmid disk' sizeGb
    rw [makes_resizeDisk_iff, hreads, hsame]
    exact ⟨fun ⟨hnode, hvmid, hsize, hdisk', hless⟩ => ⟨hnode, hvmid, hdisk', hsize, hless⟩,
      fun ⟨hnode, hvmid, hdisk', hsize, hless⟩ => ⟨hnode, hvmid, hsize, hdisk', hless⟩⟩

def DiskEntry.sample (whole : List Char) (unit : Option SizeUnit)
    (hwhole : whole ≠ [] ∧ ∀ c ∈ whole, c.isDigit = true) : DiskEntry where
  lead := "local-lvm:vm-100-disk-0".toList ++ [',']
  whole := whole
  fraction := []
  unit := unit
  rest := []
  lead_ends := .inr ⟨_, rfl⟩
  whole_digits := hwhole
  fraction_digits := by simp
  rest_begins := .inl rfl

theorem whole_of_digit {c : Char} (hc : c.isDigit = true) : [c] ≠ [] ∧ ∀ d ∈ [c], d.isDigit = true :=
  ⟨List.cons_ne_nil c [], fun _ hd => List.mem_singleton.mp hd ▸ hc⟩

theorem scsi_disk (text : String) :
    rootDisk [("scsi0", text)] = some "scsi0" ∧ List.lookup "scsi0" [("scsi0", text)] = some text := by
  have hlookup : List.lookup "scsi0" [("scsi0", text)] = some text := List.lookup_cons_self
  refine ⟨?_, hlookup⟩
  unfold rootDisk
  rw [List.find?_cons_of_pos]
  rw [hlookup]
  rfl

theorem disk_resize_iff_sample : let e := DiskEntry.sample ['8'] (some .giga) (whole_of_digit (by decide))
    let k : StepRunner := ⟨1, .sample, 0⟩
    (∀ node vmid disk' sizeGb, Makes (configured [("scsi0", e.text)]) (k.configureVm k.initial) ()
        (.proxmoxResizeDisk node vmid disk' sizeGb) () ↔
      node = k.initial.node ∧ vmid = k.initial.vmid ∧ disk' = "scsi0" ∧ sizeGb = k.request.diskGb ∧
        e.bytes < k.request.diskBytes) ↔ e.ReadsRight k.request.diskBytes :=
  disk_resize_iff ⟨1, .sample, 0⟩ _ (scsi_disk _).1 (scsi_disk _).2

/-- A disk of 1T is to be shrunk to 10G. -/
theorem disk_resize_misread : ¬ ∀ (k : StepRunner) (r : SharedState) (cfg : VmConfig) (disk : String) (e : DiskEntry),
    rootDisk cfg = some disk → cfg.lookup disk = some e.text →
    ∀ node vmid disk' sizeGb, Makes (configured cfg) (k.configureVm r) () (.proxmoxResizeDisk node vmid disk' sizeGb) () ↔
      node = r.node ∧ vmid = r.vmid ∧ disk' = disk ∧ sizeGb = k.request.diskGb ∧ e.bytes < k.request.diskBytes := by
  intro hlaw
  let e := DiskEntry.sample ['1'] (some .tera) (whole_of_digit (by decide))
  let k : StepRunner := ⟨1, .sample, 0⟩
  have hcall := hlaw k k.initial [("scsi0", e.text)] "scsi0" e (scsi_disk _).1 (scsi_disk _).2
  have hsize : diskSizeOf e.text = some (e.number * e.readBytes) := by
    rw [e.diskSizeOf_text]
    have hlead : firstDiskSize e.lead = none := by decide +kernel
    rw [hlead]
    rfl
  have hless : e.number * e.readBytes < k.request.diskBytes := by decide +kernel
  have hreads : ReadsSmaller k.request [("scsi0", e.text)] "scsi0" := by
    refine ⟨(scsi_disk _).1, _, ?_, hless⟩
    rw [(scsi_disk _).2]
    exact hsize
  have hlarger : ¬ e.bytes < k.request.diskBytes := by decide +kernel
  have hasked := hcall k.initial.node k.initial.vmid "scsi0" k.request.diskGb
  exact hlarger (hasked.mp (makes_resizeDisk_iff.mpr ⟨rfl, rfl, rfl, hreads⟩)).2.2.2.2

end ProxVM
