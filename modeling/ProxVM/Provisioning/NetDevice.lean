import ProxVM.Lib.Text
import ProxVM.Provisioning.DiskGrowth

/-!
# The network device

How Proxmox reads a `netN` entry: parts between commas, each a setting, with `model=MAC` for both the model and the
address, and a model on its own.
-/

namespace ProxVM.NetDevice

open Interaction

/-! ## The format -/

def nicModels : List (List Char) :=
  ["e1000", "e1000-82540em", "e1000-82544gc", "e1000-82545em", "e1000e", "i82551", "i82557b", "i82559er", "ne2k_isa",
    "ne2k_pci", "pcnet", "rtl8139", "virtio", "vmxnet3"].map String.toList

def settingsOf (part : List Char) : List (List Char × List Char) :=
  match cutAtEq part with
  | (name, none) => [("model".toList, name)]
  | (key, some value) =>
      if key ∈ nicModels then [("model".toList, key), ("macaddr".toList, value)] else [(key, value)]

def settings (ps : List (List Char)) : List (List Char × List Char) := ps.flatMap settingsOf

def setting (name : List Char) (value : String) : Option (List Char) := (settings (parts value)).lookup name

def IsOption (part : List Char) : Prop :=
  ∃ key value, part = key ++ '=' :: value ∧ '=' ∉ key ∧ key ∉ nicModels ∧ value ≠ []

def IsModel (part : List Char) : Prop :=
  ∃ model ∈ nicModels, part = model ∨ ∃ mac, part = model ++ '=' :: mac ∧ mac ≠ []

structure NetEntry where
  first : List Char
  others : List (List Char)
  no_comma : ∀ part ∈ first :: others, ',' ∉ part
  first_reads : IsModel first ∨ IsOption first
  others_read : ∀ part ∈ others, IsOption part
  once : ((settings (first :: others)).map Prod.fst).Nodup
  has_model : ∃ model ∈ nicModels, (settings (first :: others)).lookup "model".toList = some model

namespace NetEntry

variable (e : NetEntry)

def parts : List (List Char) := e.first :: e.others

def text : String := String.ofList ([','].intercalate e.parts)

def setting (name : List Char) : Option (List Char) := (settings e.parts).lookup name

def wanted (bridge : String) (vlan : Option Nat) (name : List Char) : Option (List Char) :=
  if name = "bridge".toList then some bridge.toList
  else if name = "tag".toList then (vlan.filter (· ≠ 0)).map fun n => (toString n).toList
  else e.setting name

theorem parts_text : ProxVM.parts e.text = e.parts := by
  unfold ProxVM.parts text
  rw [String.toList_ofList]
  exact List.splitOn_intercalate ',' e.no_comma (List.cons_ne_nil _ _)

end NetEntry

/-! ## Parts -/

section parts

variable {part key value : List Char} {ps : List (List Char)}

theorem cutAtEq_append (hkey : '=' ∉ key) : cutAtEq (key ++ '=' :: value) = (key, some value) := by
  have hall : ∀ c ∈ key, decide (c ≠ '=') = true := fun c hc => decide_eq_true fun heq => hkey (heq ▸ hc)
  unfold cutAtEq
  rw [List.dropWhile_append_of_pos hall, List.takeWhile_append_of_pos hall]
  simp

theorem cutAtEq_of_not_mem (hpart : '=' ∉ part) : cutAtEq part = (part, none) := by
  have hall : ∀ c ∈ part, decide (c ≠ '=') = true := fun c hc => decide_eq_true fun heq => hpart (heq ▸ hc)
  have hnil : (part ++ []).dropWhile (fun c => decide (c ≠ '=')) = [] := List.dropWhile_append_of_pos hall
  rw [List.append_nil] at hnil
  unfold cutAtEq
  rw [hnil]

theorem plain_of_mem_nicModels {model : List Char} (hmodel : model ∈ nicModels) :
    model ≠ [] ∧ '=' ∉ model ∧ ',' ∉ model := by
  have hplain : ∀ model ∈ nicModels, model ≠ [] ∧ '=' ∉ model ∧ ',' ∉ model :=
    List.forall_iff_forall_mem.mp (by decide)
  exact hplain model hmodel

theorem settingsOf_option (hkey : '=' ∉ key) (hnot : key ∉ nicModels) :
    settingsOf (key ++ '=' :: value) = [(key, value)] := by
  unfold settingsOf
  rw [cutAtEq_append hkey]
  exact if_neg hnot

theorem settingsOf_model {model : List Char} (hmodel : model ∈ nicModels) :
    settingsOf model = [("model".toList, model)] := by
  unfold settingsOf
  rw [cutAtEq_of_not_mem (plain_of_mem_nicModels hmodel).2.1]

theorem settingsOf_alias {model mac : List Char} (hmodel : model ∈ nicModels) :
    settingsOf (model ++ '=' :: mac) = [("model".toList, model), ("macaddr".toList, mac)] := by
  unfold settingsOf
  rw [cutAtEq_append (plain_of_mem_nicModels hmodel).2.1]
  exact if_pos hmodel

end parts

/-! ## What is read and what is written -/

section reading

variable {part key value : List Char} {ps : List (List Char)} {net : ParsedNet} {model : List Char}

def readPart (net : ParsedNet) (part : List Char) : ParsedNet :=
  match cutAtEq part with
  | (_, none) => net
  | (key, some v) =>
      if key = "bridge".toList then { net with bridge := some (String.ofList v) }
      else if key = "model".toList then { net with model := String.ofList v }
      else net

def readFirst (first : List Char) : ParsedNet :=
  match cutAtEq first with
  | (name, some mac) =>
      { model := if name.isEmpty then "virtio" else String.ofList name
        macaddr := if mac.isEmpty then none else some (String.ofList mac)
        bridge := none }
  | (name, none) =>
      { model := if name.isEmpty then "virtio" else String.ofList name, macaddr := none, bridge := none }

theorem parseNet_eq (text : String) :
    parseNet text = (parts text).foldl readPart (readFirst ((parts text).headD [])) := rfl

theorem readPart_macaddr : (readPart net part).macaddr = net.macaddr := by
  unfold readPart
  split
  · rfl
  · split
    · rfl
    · split <;> rfl

theorem foldl_macaddr : (ps.foldl readPart net).macaddr = net.macaddr := by
  induction ps generalizing net with
  | nil => rfl
  | cons part ps ih => exact ih.trans readPart_macaddr

def ModelOption (part model : List Char) : Prop := cutAtEq part = ("model".toList, some model)

theorem readPart_model_of_option (hoption : ModelOption part model) :
    (readPart net part).model = String.ofList model := by
  unfold readPart
  rw [hoption]
  rfl

theorem readPart_model_of_not (hnot : ∀ v, ¬ ModelOption part v) : (readPart net part).model = net.model := by
  unfold readPart
  split
  · rfl
  · next key v hcut =>
      split
      · rfl
      · split
        · next hkey =>
            subst hkey
            exact absurd hcut (hnot v)
        · rfl

theorem foldl_model (hall : ∀ part ∈ ps, ∀ v, ModelOption part v → v = model)
    (hmodel : net.model = String.ofList model ∨ ∃ part ∈ ps, ModelOption part model) :
    (ps.foldl readPart net).model = String.ofList model := by
  induction ps generalizing net with
  | nil =>
      obtain hmodel | ⟨part, hpart, -⟩ := hmodel
      · exact hmodel
      · cases hpart
  | cons part ps ih =>
      have hrest : ∀ part ∈ ps, ∀ v, ModelOption part v → v = model :=
        fun part hpart => hall part (List.mem_cons_of_mem _ hpart)
      refine ih hrest ?_
      by_cases hoption : ∃ v, ModelOption part v
      · obtain ⟨v, hv⟩ := hoption
        obtain rfl := hall part List.mem_cons_self v hv
        exact .inl (readPart_model_of_option hv)
      · obtain hmodel | ⟨part', hpart', hoption'⟩ := hmodel
        · exact .inl ((readPart_model_of_not fun v hv => hoption ⟨v, hv⟩).trans hmodel)
        · obtain rfl | hpart' := List.mem_cons.mp hpart'
          · exact absurd ⟨model, hoption'⟩ hoption
          · exact .inr ⟨part', hpart', hoption'⟩

end reading

/-! ## Settings -/

section settings

variable {name value : List Char} {pairs : List (List Char × List Char)} {ps : List (List Char)}

theorem lookup_of_mem (honce : (pairs.map Prod.fst).Nodup) (hmem : (name, value) ∈ pairs) :
    pairs.lookup name = some value := by
  induction pairs with
  | nil => cases hmem
  | cons pair pairs ih =>
      obtain ⟨hnot, honce⟩ := List.nodup_cons.mp honce
      obtain rfl | hmem := List.mem_cons.mp hmem
      · exact List.lookup_cons_self
      · have hne : (name == pair.1) = false := by
          refine beq_eq_false_iff_ne.mpr fun heq => hnot ?_
          exact List.mem_map.mpr ⟨(name, value), hmem, heq⟩
        rw [List.lookup_cons, hne]
        exact ih honce hmem

theorem mem_of_lookup (hlookup : pairs.lookup name = some value) : (name, value) ∈ pairs := by
  obtain ⟨before, after, rfl, -⟩ := List.lookup_eq_some_iff.mp hlookup
  exact List.mem_append_right _ List.mem_cons_self

theorem lookup_eq_none (hnone : ∀ pair ∈ pairs, pair.1 ≠ name) : pairs.lookup name = none :=
  List.lookup_eq_none_iff.mpr fun pair hpair => bne_iff_ne.mpr (hnone pair hpair).symm

theorem mem_settings {pair : List Char × List Char} :
    pair ∈ settings ps ↔ ∃ part ∈ ps, pair ∈ settingsOf part := List.mem_flatMap

theorem not_mem_nicModels : "model".toList ∉ nicModels ∧ "macaddr".toList ∉ nicModels ∧
    "bridge".toList ∉ nicModels ∧ "tag".toList ∉ nicModels := by decide

theorem settingsOf_modelOption {part model : List Char} (hoption : ModelOption part model) :
    settingsOf part = [("model".toList, model)] := by
  unfold settingsOf
  rw [hoption]
  exact if_neg not_mem_nicModels.1

end settings

namespace NetEntry

variable (e : NetEntry)

theorem readFirst_macaddr : (readFirst e.first).macaddr = (cutAtEq e.first).2.map String.ofList := by
  have hoption : ∀ key mac : List Char, '=' ∉ key → mac ≠ [] → e.first = key ++ '=' :: mac →
      (readFirst e.first).macaddr = (cutAtEq e.first).2.map String.ofList := by
    intro key mac hkey hmac hfirst
    unfold readFirst
    rw [hfirst, cutAtEq_append hkey]
    exact if_neg (mt List.isEmpty_iff.mp hmac)
  obtain ⟨model, hmodel, hfirst | ⟨mac, hfirst, hmac⟩⟩ | ⟨key, value, hfirst, hkey, -, hvalue⟩ := e.first_reads
  · unfold readFirst
    rw [hfirst, cutAtEq_of_not_mem (plain_of_mem_nicModels hmodel).2.1]
    rfl
  · exact hoption model mac (plain_of_mem_nicModels hmodel).2.1 hmac hfirst
  · exact hoption key value hkey hvalue hfirst

theorem model_read {model : List Char} (hmodel : ("model".toList, model) ∈ settings e.parts) :
    (readFirst e.first).model = String.ofList model ∨ ∃ part ∈ e.parts, ModelOption part model := by
  obtain ⟨part, hpart, hpair⟩ := mem_settings.mp hmodel
  have hoption : IsOption part → ∃ part ∈ e.parts, ModelOption part model := by
    rintro ⟨key, value, rfl, hkey, hnot, -⟩
    rw [settingsOf_option hkey hnot] at hpair
    cases List.mem_singleton.mp hpair
    exact ⟨_, hpart, cutAtEq_append hkey⟩
  obtain rfl | hother := List.mem_cons.mp hpart
  · obtain ⟨model', hmodel', hfirst | ⟨mac, hfirst, hmac⟩⟩ | hfirst := e.first_reads
    · obtain ⟨hne, hplain, -⟩ := plain_of_mem_nicModels hmodel'
      rw [hfirst, settingsOf_model hmodel'] at hpair
      cases List.mem_singleton.mp hpair
      unfold readFirst
      rw [hfirst, cutAtEq_of_not_mem hplain]
      exact .inl (if_neg (mt List.isEmpty_iff.mp hne))
    · obtain ⟨hne, hplain, -⟩ := plain_of_mem_nicModels hmodel'
      rw [hfirst, settingsOf_alias hmodel'] at hpair
      obtain hsame | hsame := List.mem_pair.mp hpair
      · cases hsame
        unfold readFirst
        rw [hfirst, cutAtEq_append hplain]
        exact .inl (if_neg (mt List.isEmpty_iff.mp hne))
      · exact absurd (Prod.mk.inj hsame).1 (by decide)
    · exact .inr (hoption hfirst)
  · exact .inr (hoption (e.others_read part hother))

/-- **What `parseNet` reads**: the model, and the address if it ends the first part. -/
theorem parseNet_text : ∃ model ∈ nicModels, e.setting "model".toList = some model ∧
    (parseNet e.text).model = String.ofList model ∧
      (parseNet e.text).macaddr = (cutAtEq e.first).2.map String.ofList := by
  obtain ⟨model, hmodel, hsetting⟩ := e.has_model
  refine ⟨model, hmodel, hsetting, ?_, ?_⟩
  · rw [parseNet_eq, e.parts_text]
    refine foldl_model (fun part hpart v hoption => ?_) (e.model_read (mem_of_lookup hsetting))
    have hmem : ("model".toList, v) ∈ settings e.parts := by
      refine mem_settings.mpr ⟨part, hpart, ?_⟩
      rw [settingsOf_modelOption hoption]
      exact List.mem_singleton_self _
    exact Option.some.inj ((lookup_of_mem e.once hmem).symm.trans hsetting)
  · rw [parseNet_eq, foldl_macaddr, e.parts_text]
    exact e.readFirst_macaddr

end NetEntry

/-! ## What is kept -/

def managed : List (List Char) := ["bridge", "tag", "model", "macaddr"].map String.toList

def isExtra (model part : List Char) : Bool :=
  !part.isEmpty && !managed.contains (cutAtEq part).1 &&
    !(decide (part = model) || (model ++ ['=']).isPrefixOf part)

theorem mem_managed : "model".toList ∈ managed ∧ "macaddr".toList ∈ managed ∧ "bridge".toList ∈ managed ∧
    "tag".toList ∈ managed := by decide

theorem extraNetOptions_eq (raw model : String) :
    extraNetOptions (some raw) model = ((parts raw).filter (isExtra model.toList)).map String.ofList := rfl

section kept

variable {model part key value name : List Char} {ps : List (List Char)}

theorem isExtra_option (hmodel : '=' ∉ model) (hkey : '=' ∉ key) (hne : key ≠ model) :
    isExtra model (key ++ '=' :: value) = !managed.contains key := by
  have hpart : decide (key ++ '=' :: value = model) = false := by
    refine decide_eq_false fun heq => hmodel ?_
    rw [← heq]
    exact List.mem_append_right _ List.mem_cons_self
  have hstarts : (model ++ ['=']).isPrefixOf (key ++ '=' :: value) = false := by
    refine Bool.eq_false_iff.mpr fun htrue => hne ?_
    obtain ⟨rest, hrest⟩ := List.isPrefixOf_iff_prefix.mp htrue
    rw [List.append_assoc, List.singleton_append] at hrest
    exact (Text.cut_inj hmodel hkey hrest).1.symm
  have hnonempty : (key ++ '=' :: value).isEmpty = false := by
    cases key <;> rfl
  unfold isExtra
  rw [hpart, hstarts, hnonempty, cutAtEq_append hkey]
  exact Bool.and_true _

theorem lookup_filter (hdropped : ∀ part ∈ ps, isExtra model part = false → ∀ pair ∈ settingsOf part, pair.1 ∈ managed)
    (hname : name ∉ managed) : (settings (ps.filter (isExtra model))).lookup name = (settings ps).lookup name := by
  induction ps with
  | nil => rfl
  | cons part ps ih =>
      have hrest := ih fun part hpart => hdropped part (List.mem_cons_of_mem _ hpart)
      unfold settings at hrest ⊢
      cases hextra : isExtra model part with
      | true =>
          rw [List.filter_cons_of_pos hextra, List.flatMap_cons, List.flatMap_cons, List.lookup_append,
            List.lookup_append, hrest]
      | false =>
          have hnone : (settingsOf part).lookup name = none := lookup_eq_none fun pair hpair heq =>
            hname (heq ▸ hdropped part List.mem_cons_self hextra pair hpair)
          rw [List.filter_cons_of_neg (Bool.eq_false_iff.mp hextra), List.flatMap_cons, List.lookup_append, hnone, hrest]
          rfl

theorem lookup_filter_managed
    (hkept : ∀ part ∈ ps, isExtra model part = true → ∀ pair ∈ settingsOf part, pair.1 ∉ managed)
    (hname : name ∈ managed) : (settings (ps.filter (isExtra model))).lookup name = none := by
  refine lookup_eq_none fun pair hpair heq => ?_
  obtain ⟨part, hpart, hpair⟩ := mem_settings.mp hpair
  obtain ⟨hpart, hextra⟩ := List.mem_filter.mp hpart
  exact hkept part hpart hextra pair hpair (heq ▸ hname)

end kept

namespace NetEntry

variable (e : NetEntry) {model : List Char}

theorem isExtra_iff (hmodel : model ∈ nicModels) (hsetting : e.setting "model".toList = some model)
    {part : List Char} (hpart : part ∈ e.parts) {pair : List Char × List Char} (hpair : pair ∈ settingsOf part) :
    isExtra model part = true ↔ pair.1 ∉ managed := by
  have hplain := (plain_of_mem_nicModels hmodel).2.1
  have hoption : IsOption part → (isExtra model part = true ↔ pair.1 ∉ managed) := by
    rintro ⟨key, value, rfl, hkey, hnot, -⟩
    rw [settingsOf_option hkey hnot] at hpair
    obtain rfl := List.mem_singleton.mp hpair
    rw [isExtra_option hplain hkey fun heq => hnot (heq ▸ hmodel), Bool.not_eq_true', ← Bool.not_eq_true,
      List.contains_iff_mem]
  have hsame : ∀ model', ("model".toList, model') ∈ settingsOf part → model' = model := by
    intro model' hmem
    have hlookup := lookup_of_mem e.once (mem_settings.mpr ⟨part, hpart, hmem⟩)
    exact Option.some.inj (hlookup.symm.trans hsetting)
  obtain rfl | hother := List.mem_cons.mp hpart
  · obtain ⟨model', hmodel', hfirst | ⟨mac, hfirst, hmac⟩⟩ | hfirst := e.first_reads
    · have hdropped : isExtra model e.first = false := by
        rw [hsame model' (by rw [hfirst, settingsOf_model hmodel']; exact List.mem_singleton_self _)] at hfirst
        unfold isExtra
        rw [decide_eq_true hfirst, Bool.true_or, Bool.not_true, Bool.and_false]
      rw [hfirst, settingsOf_model hmodel'] at hpair
      obtain rfl := List.mem_singleton.mp hpair
      rw [hdropped]
      exact iff_of_false Bool.false_ne_true (not_not.mpr mem_managed.1)
    · have hdropped : isExtra model e.first = false := by
        rw [hsame model' (by rw [hfirst, settingsOf_alias hmodel']; exact List.mem_cons_self)] at hfirst
        have hstarts : (model ++ ['=']).isPrefixOf e.first = true := by
          refine List.isPrefixOf_iff_prefix.mpr ⟨mac, ?_⟩
          rw [hfirst, List.append_assoc, List.singleton_append]
        unfold isExtra
        rw [hstarts, Bool.or_true, Bool.not_true, Bool.and_false]
      have hmanaged : pair.1 ∈ managed := by
        rw [hfirst, settingsOf_alias hmodel'] at hpair
        obtain rfl | rfl := List.mem_pair.mp hpair
        · exact mem_managed.1
        · exact mem_managed.2.1
      rw [hdropped]
      exact iff_of_false Bool.false_ne_true (not_not.mpr hmanaged)
    · exact hoption hfirst
  · exact hoption (e.others_read part hother)

end NetEntry

/-! ## What is written -/

def firstPart (model : List Char) : Option (List Char) → List Char
  | some mac => model ++ '=' :: mac
  | none => model

def tagParts (vlan : Option Nat) : List (List Char) :=
  ((vlan.filter (· ≠ 0)).map fun n => "tag=".toList ++ (toString n).toList).toList

def laterParts (vlan : Option Nat) (extra : List (List Char)) : List (List Char) := tagParts vlan ++ extra

section writing

variable {model bridge : List Char} {mac : Option (List Char)} {vlan : Option Nat} {extra : List (List Char)}

theorem intercalate_cons (part : List Char) (ps : List (List Char)) :
    [','].intercalate (part :: ps) = part ++ ps.flatMap (',' :: ·) := by
  induction ps generalizing part with
  | nil => simp
  | cons part' ps ih => rw [List.intercalate_cons_cons, ih, List.flatMap_cons, List.append_assoc]; rfl

theorem toList_buildNet (bridge : String) :
    (buildNet (String.ofList model) (mac.map String.ofList) bridge vlan (extra.map String.ofList)).toList =
      firstPart model mac ++ ',' :: ("bridge=".toList ++ bridge.toList ++
        (laterParts vlan extra).flatMap (',' :: ·)) := by
  have hextra : (extra.map String.ofList).map String.toList = extra := by
    rw [List.map_map]
    exact List.map_id'' (fun _ => String.toList_ofList) extra
  have hcomma : ",".toList = [','] := rfl
  have hwhole : ∀ first tag : String,
      (",".intercalate (first :: ("bridge=" ++ bridge ++ tag) :: extra.map String.ofList)).toList = first.toList ++ ',' ::
        ("bridge=".toList ++ bridge.toList ++ (tag.toList ++ extra.flatMap (',' :: ·))) := by
    intro first tag
    rw [String.toList_intercalate, hcomma, List.map_cons, List.map_cons, hextra, intercalate_cons, List.flatMap_cons,
      String.toList_append, String.toList_append, List.cons_append, List.append_assoc]
  have hfirst : ∀ mac, (String.ofList model ++ "=" ++ String.ofList mac).toList = firstPart model (some mac) := by
    intro mac
    have heq : "=".toList = ['='] := rfl
    rw [String.toList_append, String.toList_append, String.toList_ofList, heq, String.toList_ofList, List.append_assoc]
    rfl
  have hmodel : (String.ofList model).toList = firstPart model none := String.toList_ofList
  have htag : ∀ n : Nat, (",tag=" ++ toString (n + 1)).toList =
      (tagParts (some (n + 1))).flatMap (',' :: ·) := by
    intro n
    have hopen : ",tag=".toList = ',' :: "tag=".toList := by decide
    rw [String.toList_append, hopen]
    exact (List.append_nil _).symm
  unfold laterParts
  rw [List.flatMap_append]
  cases mac with
  | none =>
      obtain - | - | n := vlan
      · exact (hwhole (String.ofList model) "").trans (by rw [hmodel]; rfl)
      · exact (hwhole (String.ofList model) "").trans (by rw [hmodel]; rfl)
      · rw [← htag, ← hmodel]
        exact hwhole _ _
  | some mac =>
      obtain - | - | n := vlan
      · exact (hwhole (String.ofList model ++ "=" ++ String.ofList mac) "").trans (by rw [hfirst]; rfl)
      · exact (hwhole (String.ofList model ++ "=" ++ String.ofList mac) "").trans (by rw [hfirst]; rfl)
      · rw [← htag, ← hfirst]
        exact hwhole _ _

def head (model : List Char) (mac : Option (List Char)) (bridge : List Char) (vlan : Option Nat) :
    List (List Char × List Char) :=
  ("model".toList, model) :: ((mac.map fun mac => ("macaddr".toList, mac)).toList ++ ("bridge".toList, bridge) ::
    ((vlan.filter (· ≠ 0)).map fun n => ("tag".toList, (toString n).toList)).toList)

theorem settingsOf_firstPart (hmodel : model ∈ nicModels) : settingsOf (firstPart model mac) =
    ("model".toList, model) :: (mac.map fun mac => ("macaddr".toList, mac)).toList := by
  cases mac with
  | none => exact settingsOf_model hmodel
  | some mac => exact settingsOf_alias hmodel

theorem settingsOf_bridge : settingsOf ("bridge=".toList ++ bridge) = [("bridge".toList, bridge)] := by
  have hopen : "bridge=".toList ++ bridge = "bridge".toList ++ '=' :: bridge := rfl
  rw [hopen]
  exact settingsOf_option (by decide) not_mem_nicModels.2.2.1

theorem settings_tagParts : settings (tagParts vlan) =
    ((vlan.filter (· ≠ 0)).map fun n => ("tag".toList, (toString n).toList)).toList := by
  unfold tagParts
  cases vlan.filter (· ≠ 0) with
  | none => rfl
  | some n =>
      have hopen : "tag=".toList ++ (toString n).toList = "tag".toList ++ '=' :: (toString n).toList := rfl
      change settings ["tag=".toList ++ (toString n).toList] = [_]
      rw [hopen]
      unfold settings
      rw [List.flatMap_cons, settingsOf_option (by decide) not_mem_nicModels.2.2.2]
      rfl

theorem settings_written (hmodel : model ∈ nicModels) :
    settings (firstPart model mac :: ("bridge=".toList ++ bridge) :: laterParts vlan extra) =
      head model mac bridge vlan ++ settings extra := by
  have htag := @settings_tagParts vlan
  unfold settings laterParts head at *
  rw [List.flatMap_cons, List.flatMap_cons, List.flatMap_append, settingsOf_firstPart hmodel, settingsOf_bridge, htag]
  simp only [List.cons_append, List.append_assoc, List.nil_append]

theorem mem_managed_of_head {pair : List Char × List Char} (hpair : pair ∈ head model mac bridge vlan) :
    pair.1 ∈ managed := by
  obtain ⟨hmodel, hmac, hbridge, htag⟩ := mem_managed
  obtain rfl | hpair := List.mem_cons.mp hpair
  · exact hmodel
  obtain hpair | hpair := List.mem_append.mp hpair
  · obtain ⟨mac, -, rfl⟩ := Option.map_eq_some_iff.mp (Option.mem_toList.mp hpair)
    exact hmac
  obtain rfl | hpair := List.mem_cons.mp hpair
  · exact hbridge
  · obtain ⟨n, -, rfl⟩ := Option.map_eq_some_iff.mp (Option.mem_toList.mp hpair)
    exact htag

theorem lookup_head : (head model mac bridge vlan).lookup "model".toList = some model ∧
    (head model mac bridge vlan).lookup "macaddr".toList = mac ∧
    (head model mac bridge vlan).lookup "bridge".toList = some bridge ∧
    (head model mac bridge vlan).lookup "tag".toList =
      (vlan.filter (· ≠ 0)).map fun n => (toString n).toList := by
  unfold head
  generalize vlan.filter (· ≠ 0) = vlan
  refine ⟨List.lookup_cons_self, ?_, ?_, ?_⟩ <;> cases mac <;> cases vlan <;> rfl

end writing

theorem mem_of_cutAtEq {part value : List Char} (hvalue : (cutAtEq part).2 = some value) {c : Char} (hc : c ∈ value) :
    c ∈ part := by
  unfold cutAtEq at hvalue
  split at hvalue
  · cases hvalue
  · next hdrop =>
      cases hvalue
      have hmem : c ∈ part.dropWhile fun c => decide (c ≠ '=') := by
        rw [hdrop]
        exact List.mem_cons_of_mem _ hc
      exact (List.dropWhile_sublist _).subset hmem

theorem netKey_fresh {cfg : VmConfig} {key : String} (hkey : netIndex cfg = some key) :
    key ∉ ["memory", "cores", "sockets", "agent"] := by
  have hall : ∀ key ∈ (List.range 32).map fun i => "net" ++ toString i, key ∉ ["memory", "cores", "sockets", "agent"] :=
    List.forall_iff_forall_mem.mp (by decide +kernel)
  exact hall key (List.mem_of_find?_eq_some hkey)

theorem bridgePart_no_comma {bridge : List Char} (hcomma : ',' ∉ bridge) : ',' ∉ "bridge=".toList ++ bridge := by
  intro hmem
  obtain hmem | hmem := List.mem_append.mp hmem
  · revert hmem
    decide
  · exact hcomma hmem

theorem tagParts_no_comma {vlan : Option Nat} : ∀ part ∈ tagParts vlan, ',' ∉ part := by
  intro part hpart
  obtain ⟨n, -, rfl⟩ := Option.map_eq_some_iff.mp (Option.mem_toList.mp hpart)
  intro hmem
  obtain hmem | hmem := List.mem_append.mp hmem
  · revert hmem
    decide
  · exact Text.not_mem_repr rfl n hmem

namespace NetEntry

variable (e : NetEntry) {bridge : String} {vlan : Option Nat}

/-- What `configureVm` writes. -/
def written (bridge : String) (vlan : Option Nat) : String :=
  buildNet (parseNet e.text).model (parseNet e.text).macaddr bridge vlan
    (extraNetOptions (some e.text) (parseNet e.text).model)

theorem toList_written : ∃ model ∈ nicModels, e.setting "model".toList = some model ∧
    (e.written bridge vlan).toList = firstPart model (cutAtEq e.first).2 ++ ',' :: ("bridge=".toList ++ bridge.toList ++
      (laterParts vlan (e.parts.filter (isExtra model))).flatMap (',' :: ·)) := by
  obtain ⟨model, hmodel, hsetting, hread, hmac⟩ := e.parseNet_text
  refine ⟨model, hmodel, hsetting, ?_⟩
  unfold written
  rw [hread, hmac, extraNetOptions_eq, String.toList_ofList, e.parts_text]
  exact toList_buildNet bridge

theorem firstPart_no_comma {model : List Char} (hmodel : model ∈ nicModels) : ',' ∉ firstPart model (cutAtEq e.first).2 := by
  have hplain := (plain_of_mem_nicModels hmodel).2.2
  cases hmac : (cutAtEq e.first).2 with
  | none => exact hplain
  | some mac =>
      intro hcomma
      obtain hcomma | hcomma := List.mem_append.mp hcomma
      · exact hplain hcomma
      · obtain heq | hcomma := List.mem_cons.mp hcomma
        · cases heq
        · exact e.no_comma e.first List.mem_cons_self (mem_of_cutAtEq hmac hcomma)

theorem setting_bridge_of_comma (hcomma : ',' ∈ bridge.toList) :
    NetDevice.setting "bridge".toList (e.written bridge vlan) ≠ some bridge.toList := by
  obtain ⟨model, hmodel, -, htext⟩ := @toList_written e bridge vlan
  -- What is read of the bridge stops at its first comma.
  obtain ⟨front, back, hsplit, hfront⟩ := List.eq_append_cons_of_mem hcomma
  have hplain := bridgePart_no_comma hfront
  unfold NetDevice.setting ProxVM.parts settings
  rw [htext, List.splitOn_append_cons_self_of_not_mem (e.firstPart_no_comma hmodel), hsplit, ← List.append_assoc,
    List.append_assoc _ (',' :: back), List.cons_append, List.splitOn_append_cons_self_of_not_mem hplain,
    List.flatMap_cons, List.flatMap_cons, settingsOf_firstPart hmodel, settingsOf_bridge]
  have hlookup : ∀ rest : List (List Char × List Char), (("model".toList, model) ::
      ((cutAtEq e.first).2.map fun mac => ("macaddr".toList, mac)).toList ++
        ([("bridge".toList, front)] ++ rest)).lookup "bridge".toList = some front := by
    intro rest
    cases (cutAtEq e.first).2 <;> rfl
  rw [hlookup]
  intro hsame
  have hlength := congrArg List.length (Option.some.inj hsame)
  simp at hlength

theorem setting_written (hcomma : ',' ∉ bridge.toList) : ∃ model, e.setting "model".toList = some model ∧
    ∀ name, NetDevice.setting name (e.written bridge vlan) =
      if name ∈ managed then (head model (cutAtEq e.first).2 bridge.toList vlan).lookup name else e.setting name := by
  obtain ⟨model, hmodel, hsetting, htext⟩ := @toList_written e bridge vlan
  refine ⟨model, hsetting, fun name => ?_⟩
  have hparts : ProxVM.parts (e.written bridge vlan) = firstPart model (cutAtEq e.first).2 ::
      ("bridge=".toList ++ bridge.toList) :: laterParts vlan (e.parts.filter (isExtra model)) := by
    unfold ProxVM.parts
    have hjoin : [','].intercalate (firstPart model (cutAtEq e.first).2 :: ("bridge=".toList ++ bridge.toList) ::
        laterParts vlan (e.parts.filter (isExtra model))) = (e.written bridge vlan).toList := by
      rw [htext, intercalate_cons, List.flatMap_cons]
      rfl
    -- No part has a comma, so that the text splits into the parts it was joined from.
    rw [← hjoin]
    refine List.splitOn_intercalate ',' (fun part hpart => ?_) (List.cons_ne_nil _ _)
    obtain rfl | hpart := List.mem_cons.mp hpart
    · exact e.firstPart_no_comma hmodel
    obtain rfl | hpart := List.mem_cons.mp hpart
    · exact bridgePart_no_comma hcomma
    obtain hpart | hpart := List.mem_append.mp hpart
    · exact tagParts_no_comma part hpart
    · exact e.no_comma part (List.mem_filter.mp hpart).1
  have hextra : ∀ part ∈ e.parts, ∀ pair ∈ settingsOf part, (isExtra model part = true ↔ pair.1 ∉ managed) :=
    fun part hpart pair hpair => e.isExtra_iff hmodel hsetting hpart hpair
  unfold NetDevice.setting
  rw [hparts, settings_written hmodel, List.lookup_append]
  split
  · next hname =>
      rw [lookup_filter_managed (fun part hpart htrue pair hpair => (hextra part hpart pair hpair).mp htrue) hname,
        Option.or_none]
  · next hname =>
      have hnone : (head model (cutAtEq e.first).2 bridge.toList vlan).lookup name = none :=
        lookup_eq_none fun pair hpair heq => hname (heq ▸ mem_managed_of_head hpair)
      have hdropped : ∀ part ∈ e.parts, isExtra model part = false → ∀ pair ∈ settingsOf part, pair.1 ∈ managed := by
        intro part hpart hfalse pair hpair
        by_contra hnot
        exact Bool.false_ne_true (hfalse.symm.trans ((hextra part hpart pair hpair).mpr hnot))
      rw [hnone, Option.none_or, lookup_filter hdropped hname]
      rfl

/-- **The settings are those that are asked for** exactly if the first part ends with the address. -/
theorem written_iff : (∀ name, NetDevice.setting name (e.written bridge vlan) = e.wanted bridge vlan name) ↔
    (cutAtEq e.first).2 = e.setting "macaddr".toList ∧ ',' ∉ bridge.toList := by
  by_cases hcomma : ',' ∈ bridge.toList
  · refine iff_of_false (fun hlaw => @setting_bridge_of_comma e bridge vlan hcomma ?_) fun h => h.2 hcomma
    exact (hlaw "bridge".toList).trans (if_pos rfl)
  · obtain ⟨model, hmodel, hwritten⟩ := @setting_written e bridge vlan hcomma
    obtain ⟨hmodel', hmac', hbridge', htag'⟩ :=
      @lookup_head model bridge.toList (cutAtEq e.first).2 vlan
    obtain ⟨hmodelKey, hmacKey, hbridgeKey, htagKey⟩ := mem_managed
    have hfree : ∀ name, name ≠ "bridge".toList → name ≠ "tag".toList → e.wanted bridge vlan name = e.setting name :=
      fun name hbridge htag => (if_neg hbridge).trans (if_neg htag)
    constructor
    · intro hlaw
      refine ⟨?_, hcomma⟩
      have hmac := hlaw "macaddr".toList
      rw [hwritten, if_pos hmacKey, hmac', hfree _ (by decide) (by decide)] at hmac
      exact hmac
    · rintro ⟨hmac, -⟩ name
      rw [hwritten]
      split
      · next hname =>
          obtain ⟨key, hkey, rfl⟩ := List.mem_map.mp hname
          simp only [List.mem_cons, List.not_mem_nil, or_false] at hkey
          obtain rfl | rfl | rfl | rfl := hkey
          · exact hbridge'.trans (if_pos rfl).symm
          · exact htag'.trans ((if_neg (by decide)).trans (if_pos rfl)).symm
          · exact (hmodel'.trans hmodel.symm).trans (hfree _ (by decide) (by decide)).symm
          · exact (hmac'.trans hmac).trans (hfree _ (by decide) (by decide)).symm
      · next hname =>
          refine (hfree name ?_ ?_).symm
          · rintro rfl
            exact hname hbridgeKey
          · rintro rfl
            exact hname htagKey

end NetEntry

theorem lookup_configUpdates {cfg : VmConfig} {key : String} {e : NetEntry} (request : ProvisionRequest)
    (hkey : netIndex cfg = some key) (hentry : cfg.lookup key = some e.text) :
    (configUpdates request cfg).lookup key = some (e.written request.network.bridge request.network.vlan) := by
  have hfresh := netKey_fresh hkey
  unfold configUpdates
  rw [hkey, List.lookup_append]
  simp only [hentry]
  -- The key of the device is none of the four that come first.
  have hnone : List.lookup key [("memory", toString request.ramMb), ("cores", toString request.cpu),
      ("sockets", "1"), ("agent", "enabled=1,fstrim_cloned_disks=1")] = none := by
    refine List.lookup_eq_none_iff.mpr fun pair hpair => bne_iff_ne.mpr fun heq => hfresh ?_
    rw [heq]
    exact List.mem_map_of_mem (f := Prod.fst) hpair
  rw [hnone, Option.none_or]
  exact List.lookup_cons_self

/-- **Rewriting a network device** changes the bridge and the tag only, exactly if its first part ends with the
address, or has none when there is none, and the bridge has no comma. -/
theorem net_rewrite_iff {cfg : VmConfig} {key : String} {e : NetEntry} (k : StepRunner) (r : SharedState)
    (hkey : netIndex cfg = some key) (hentry : cfg.lookup key = some e.text) :
    (∀ node vmid updates, Makes (configured cfg) (k.configureVm r) () (.proxmoxUpdateConfig node vmid updates) () →
      ∃ written, updates.lookup key = some written ∧
        ∀ name, setting name written = e.wanted k.request.network.bridge k.request.network.vlan name) ↔
      (cutAtEq e.first).2 = e.setting "macaddr".toList ∧ ',' ∉ k.request.network.bridge.toList := by
  have hupdate := lookup_configUpdates k.request hkey hentry
  rw [← e.written_iff]
  constructor
  · intro hlaw
    obtain ⟨written, hwritten, hsettings⟩ := hlaw _ _ _ (makes_updateConfig_iff.mpr ⟨rfl, rfl, rfl⟩)
    obtain rfl := Option.some.inj (hupdate.symm.trans hwritten)
    exact hsettings
  · intro hsettings node vmid updates hmakes
    obtain ⟨-, -, rfl⟩ := makes_updateConfig_iff.mp hmakes
    exact ⟨_, hupdate, hsettings⟩

theorem net_entry (text : String) :
    netIndex [("net0", text)] = some "net0" ∧ List.lookup "net0" [("net0", text)] = some text := by
  have hlookup : List.lookup "net0" [("net0", text)] = some text := List.lookup_cons_self
  have hfirst : ((List.range 32).map fun i => "net" ++ toString i) =
      "net0" :: ((List.range 31).map fun i => "net" ++ toString (i + 1)) := by decide +kernel
  refine ⟨?_, hlookup⟩
  unfold netIndex
  rw [hfirst, List.find?_cons_of_pos]
  rw [hlookup]
  rfl

/-- `virtio=BC:24:11:2E:00:01,bridge=vmbr0,firewall=1` -/
def NetEntry.sample : NetEntry where
  first := "virtio=BC:24:11:2E:00:01".toList
  others := ["bridge=vmbr0".toList, "firewall=1".toList]
  no_comma := List.forall_iff_forall_mem.mp (by decide)
  first_reads := .inl ⟨"virtio".toList, by decide, .inr ⟨"BC:24:11:2E:00:01".toList, rfl, by decide⟩⟩
  others_read := List.forall_iff_forall_mem.mp
    ⟨⟨"bridge".toList, "vmbr0".toList, rfl, by decide, by decide, by decide⟩,
      "firewall".toList, "1".toList, rfl, by decide, by decide, by decide⟩
  once := by decide
  has_model := ⟨"virtio".toList, by decide, by decide⟩

def NetEntry.optionSample : NetEntry where
  first := "model=virtio".toList
  others := ["macaddr=BC:24:11:2E:00:01".toList, "bridge=vmbr0".toList]
  no_comma := List.forall_iff_forall_mem.mp (by decide)
  first_reads := .inr ⟨"model".toList, "virtio".toList, rfl, by decide, by decide, by decide⟩
  others_read := List.forall_iff_forall_mem.mp
    ⟨⟨"macaddr".toList, "BC:24:11:2E:00:01".toList, rfl, by decide, by decide, by decide⟩,
      "bridge".toList, "vmbr0".toList, rfl, by decide, by decide, by decide⟩
  once := by decide
  has_model := ⟨"virtio".toList, by decide, by decide⟩

theorem net_rewrite_iff_sample : let e := NetEntry.sample
    let k : StepRunner := ⟨1, .sample, 0⟩
    (∀ node vmid updates, Makes (configured [("net0", e.text)]) (k.configureVm k.initial) ()
        (.proxmoxUpdateConfig node vmid updates) () → ∃ written, updates.lookup "net0" = some written ∧
          ∀ name, setting name written = e.wanted k.request.network.bridge k.request.network.vlan name) ↔
      (cutAtEq e.first).2 = e.setting "macaddr".toList ∧ ',' ∉ k.request.network.bridge.toList :=
  net_rewrite_iff ⟨1, .sample, 0⟩ _ (net_entry _).1 (net_entry _).2

/-- An entry that begins with `model=virtio` gets the address `virtio`. -/
theorem net_rewrite_loses_address : ¬ ∀ (k : StepRunner) (r : SharedState) (cfg : VmConfig) (key : String) (e : NetEntry),
    netIndex cfg = some key → cfg.lookup key = some e.text → ∀ node vmid updates,
      Makes (configured cfg) (k.configureVm r) () (.proxmoxUpdateConfig node vmid updates) () →
        ∃ written, updates.lookup key = some written ∧
          ∀ name, setting name written = e.wanted k.request.network.bridge k.request.network.vlan name := by
  intro hlaw
  let e := NetEntry.optionSample
  let k : StepRunner := ⟨1, .sample, 0⟩
  obtain ⟨hkey, hentry⟩ := net_entry e.text
  obtain ⟨written, hwritten, hsettings⟩ := hlaw k k.initial [("net0", e.text)] "net0" e hkey hentry _ _ _
    (makes_updateConfig_iff.mpr ⟨rfl, rfl, rfl⟩)
  obtain rfl := Option.some.inj ((lookup_configUpdates k.request hkey hentry).symm.trans hwritten)
  have haddress := (e.written_iff.mp hsettings).1
  revert haddress
  decide

end ProxVM.NetDevice
