import ProxVM.Drift.Detectors
import ProxVM.Lib.Text

/-!
# What a fingerprint says

A fingerprint is a text such as `hw:30:cores`.  `Fingerprint` is what it stands for,
`Fingerprint.text` the text the detectors write, and **`Fingerprint.text_injective`**
says that nothing is lost: findings of different detectors, of different VMs or of
different fields never share a row.
-/

namespace ProxVM

inductive Fingerprint
  | deleted (vmId : VmId)
  | config (vmId : VmId) (field : String)
  | hw (vmId : VmId) (field : String)
  | ip (vmId : VmId)
  | guac (id : ConnectionId)
  | credential (vmId : VmId)
  deriving DecidableEq, Repr

def DriftDimension.text : DriftDimension → String
  | .deleted => "deleted"
  | .hw => "hw"
  | .config => "config"
  | .ip => "ip"
  | .guac => "guac"
  | .credential => "credential"

theorem DriftDimension.text_injective {dim dim' : DriftDimension} (heq : dim.text = dim'.text) :
    dim = dim' := by
  cases dim <;> cases dim' <;> first | rfl | exact absurd heq (by decide)

theorem DriftDimension.colon_not_mem_text (dim : DriftDimension) : ':' ∉ dim.text.toList := by
  cases dim <;> decide

namespace Fingerprint

def dimension : Fingerprint → DriftDimension
  | .deleted _ => .deleted
  | .config _ _ => .config
  | .hw _ _ => .hw
  | .ip _ => .ip
  | .guac _ => .guac
  | .credential _ => .credential

def text : Fingerprint → String
  | .deleted vmId => s!"deleted:{vmId}"
  | .config vmId field => s!"config:{vmId}:{field}"
  | .hw vmId field => s!"hw:{vmId}:{field}"
  | .ip vmId => s!"ip:{vmId}"
  | .guac id => s!"guac:{id}"
  | .credential vmId => s!"credential:{vmId}"

def rest : Fingerprint → List Char
  | .deleted vmId => vmId.repr.toList
  | .config vmId field => vmId.repr.toList ++ ':' :: field.toList
  | .hw vmId field => vmId.repr.toList ++ ':' :: field.toList
  | .ip vmId => vmId.repr.toList
  | .guac id => id.repr.toList
  | .credential vmId => vmId.repr.toList

theorem text_toList (f : Fingerprint) : f.text.toList = f.dimension.text.toList ++ ':' :: f.rest := by
  cases f <;> simp [text, dimension, DriftDimension.text, rest, toString]

theorem number_field_inj {m n : Nat} {field field' : String}
    (heq : m.repr.toList ++ ':' :: field.toList = n.repr.toList ++ ':' :: field'.toList) :
    m = n ∧ field = field' := by
  obtain ⟨hnumber, hfield⟩ :=
    Text.cut_inj (Text.not_mem_repr rfl m) (Text.not_mem_repr rfl n) heq
  exact ⟨Text.repr_inj (String.toList_injective hnumber), String.toList_injective hfield⟩

theorem text_injective {f f' : Fingerprint} (heq : f.text = f'.text) : f = f' := by
  have hlist : f.dimension.text.toList ++ ':' :: f.rest =
      f'.dimension.text.toList ++ ':' :: f'.rest := by
    rw [← text_toList, ← text_toList, heq]
  obtain ⟨hwords, hrest⟩ := Text.cut_inj f.dimension.colon_not_mem_text
    f'.dimension.colon_not_mem_text hlist
  have hdimension : f.dimension = f'.dimension :=
    DriftDimension.text_injective (String.toList_injective hwords)
  cases f with
  | config vmId field =>
      cases f' with
      | config vmId' field' =>
          obtain ⟨rfl, rfl⟩ := number_field_inj hrest
          rfl
      | _ => cases hdimension
  | hw vmId field =>
      cases f' with
      | hw vmId' field' =>
          obtain ⟨rfl, rfl⟩ := number_field_inj hrest
          rfl
      | _ => cases hdimension
  | deleted vmId =>
      cases f' with
      | deleted vmId' => rw [Text.repr_inj (String.toList_injective hrest)]
      | _ => cases hdimension
  | ip vmId =>
      cases f' with
      | ip vmId' => rw [Text.repr_inj (String.toList_injective hrest)]
      | _ => cases hdimension
  | guac id =>
      cases f' with
      | guac id' => rw [Text.repr_inj (String.toList_injective hrest)]
      | _ => cases hdimension
  | credential vmId =>
      cases f' with
      | credential vmId' => rw [Text.repr_inj (String.toList_injective hrest)]
      | _ => cases hdimension

end Fingerprint

@[simp] theorem nameFinding_fingerprint (vm : VmRow) (lr : DriftLiveResource) :
    (nameFinding vm lr).fingerprint = (Fingerprint.config vm.id "name").text := by
  refine String.toList_injective ?_
  simp [nameFinding, Fingerprint.text, toString]

@[simp] theorem nodeFinding_fingerprint (vm : VmRow) (lr : DriftLiveResource) :
    (nodeFinding vm lr).fingerprint = (Fingerprint.config vm.id "node").text := by
  refine String.toList_injective ?_
  simp [nodeFinding, Fingerprint.text, toString]

@[simp] theorem credentialFinding_fingerprint (vm : VmRow) (ip username detail : String) :
    (credentialFinding vm ip username detail).fingerprint = (Fingerprint.credential vm.id).text := rfl

end ProxVM
