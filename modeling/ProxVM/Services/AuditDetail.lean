import ProxVM.Threats.Rules

/-!
# Details of audit rows

`sanitizeDetail` of `services/audit.ts`: what a row keeps of the JSON object it is given.
A value under a key that sounds like a secret is replaced, and so is anything nested too deep.

- `sanitizeDetail_sanitizeDetail`: what is kept is kept as it is the next time.
-/

namespace ProxVM.AuditDetail

abbrev Text := List Char

inductive Json
  | null
  | bool (value : Bool)
  | number (literal : Text)
  | text (value : Text)
  | array (values : List Json)
  | object (fields : List (Text × Json))

/-! ## Keys -/

def forbiddenDetailKeys : List Text :=
  ["password", "newPassword", "token", "tokenSecret", "secret", "masterKey", "sessionKey", "credentials",
    "authorization", "cookie", "authToken", "cipassword", "passthrough"].map String.toList

def forbiddenSubstrings : List Text :=
  ["password", "passwd", "token", "secret", "apikey", "privatekey", "passphrase", "sshkey",
    "credential"].map String.toList

/-- `.toLowerCase().replace(/[_-]/g, "")`. -/
def normalized (key : Text) : Text :=
  (key.flatMap Threats.lowered).filter fun c => c != '_' && c != '-'

def isSensitiveKey (key : Text) : Bool :=
  (forbiddenDetailKeys.map normalized).contains (normalized key) ||
    forbiddenSubstrings.any fun part => decide (part <:+: normalized key)

/-! ## Values -/

def redacted : Json := .text "[REDACTED]".toList

def protoKey : Text := "__proto__".toList

mutual

def sanitizeValue : Json → Nat → Json
  | .array values, depth => if 5 < depth then redacted else .array (sanitizeValues values (depth + 1))
  | .object fields, depth => if 5 < depth then redacted else .object (sanitizeFields fields (depth + 1))
  | .null, depth => if 5 < depth then redacted else .null
  | .bool value, depth => if 5 < depth then redacted else .bool value
  | .number literal, depth => if 5 < depth then redacted else .number literal
  | .text value, depth => if 5 < depth then redacted else .text value

def sanitizeValues : List Json → Nat → List Json
  | [], _ => []
  | value :: values, depth => sanitizeValue value depth :: sanitizeValues values depth

/-- The loop of `sanitizeDetail`. -/
def sanitizeFields : List (Text × Json) → Nat → List (Text × Json)
  | [], _ => []
  | (key, value) :: fields, depth =>
      if isSensitiveKey key = true then (key, redacted) :: sanitizeFields fields depth
      else if key = protoKey then sanitizeFields fields depth
      else (key, sanitizeValue value depth) :: sanitizeFields fields depth

end

def sanitizeDetail (detail : List (Text × Json)) : List (Text × Json) := sanitizeFields detail 0

/-! ## Two details -/

mutual

inductive Alike : Json → Json → Prop
  | same (value) : Alike value value
  | array {values others} (halike : AlikeValues values others) : Alike (.array values) (.array others)
  | object {fields others} (halike : AlikeFields fields others) : Alike (.object fields) (.object others)

inductive AlikeValues : List Json → List Json → Prop
  | nil : AlikeValues [] []
  | cons {value other values others} (halike : Alike value other) (hrest : AlikeValues values others) :
      AlikeValues (value :: values) (other :: others)

inductive AlikeFields : List (Text × Json) → List (Text × Json) → Prop
  | nil : AlikeFields [] []
  | secret {key fields others} (value other : Json) (hkey : isSensitiveKey key = true)
      (hrest : AlikeFields fields others) : AlikeFields ((key, value) :: fields) ((key, other) :: others)
  | plain {key value other fields others} (halike : Alike value other) (hrest : AlikeFields fields others) :
      AlikeFields ((key, value) :: fields) ((key, other) :: others)

end

theorem sanitizeValue_deep {depth : Nat} (hdeep : 5 < depth) (value : Json) : sanitizeValue value depth = redacted := by
  cases value <;> rw [sanitizeValue, if_pos hdeep]

mutual

theorem Alike.sanitizeValue_eq {value other : Json} (halike : Alike value other) (depth : Nat) :
    sanitizeValue value depth = sanitizeValue other depth := by
  cases halike with
  | same => rfl
  | array halike => rw [sanitizeValue, sanitizeValue, halike.sanitizeValues_eq]
  | object halike => rw [sanitizeValue, sanitizeValue, halike.sanitizeFields_eq]

theorem AlikeValues.sanitizeValues_eq {values others : List Json} (halike : AlikeValues values others) (depth : Nat) :
    sanitizeValues values depth = sanitizeValues others depth := by
  cases halike with
  | nil => rfl
  | cons halike hrest => rw [sanitizeValues, sanitizeValues, halike.sanitizeValue_eq, hrest.sanitizeValues_eq]

theorem AlikeFields.sanitizeFields_eq {fields others : List (Text × Json)} (halike : AlikeFields fields others)
    (depth : Nat) : sanitizeFields fields depth = sanitizeFields others depth := by
  cases halike with
  | nil => rfl
  | secret value other hkey hrest =>
      rw [sanitizeFields, sanitizeFields, if_pos hkey, if_pos hkey, hrest.sanitizeFields_eq]
  | plain halike hrest =>
      rw [sanitizeFields, sanitizeFields, halike.sanitizeValue_eq, hrest.sanitizeFields_eq]

end

/-! ## Twice -/

mutual

theorem sanitizeValue_twice (value : Json) (depth : Nat) :
    sanitizeValue (sanitizeValue value depth) depth = sanitizeValue value depth := by
  by_cases hdeep : 5 < depth
  · rw [sanitizeValue_deep hdeep, sanitizeValue_deep hdeep]
  · cases value with
    | array values =>
        rw [sanitizeValue, if_neg hdeep, sanitizeValue, if_neg hdeep, sanitizeValues_twice]
    | object fields =>
        rw [sanitizeValue, if_neg hdeep, sanitizeValue, if_neg hdeep, sanitizeFields_twice]
    | null => rw [sanitizeValue, if_neg hdeep, sanitizeValue, if_neg hdeep]
    | bool value => rw [sanitizeValue, if_neg hdeep, sanitizeValue, if_neg hdeep]
    | number literal => rw [sanitizeValue, if_neg hdeep, sanitizeValue, if_neg hdeep]
    | text value => rw [sanitizeValue, if_neg hdeep, sanitizeValue, if_neg hdeep]

theorem sanitizeValues_twice (values : List Json) (depth : Nat) :
    sanitizeValues (sanitizeValues values depth) depth = sanitizeValues values depth := by
  cases values with
  | nil => rfl
  | cons value values =>
      rw [sanitizeValues, sanitizeValues, sanitizeValue_twice, sanitizeValues_twice]

theorem sanitizeFields_twice (fields : List (Text × Json)) (depth : Nat) :
    sanitizeFields (sanitizeFields fields depth) depth = sanitizeFields fields depth := by
  cases fields with
  | nil => rfl
  | cons field fields =>
      obtain ⟨key, value⟩ := field
      rw [sanitizeFields]
      by_cases hkey : isSensitiveKey key = true
      · rw [if_pos hkey, sanitizeFields, if_pos hkey, sanitizeFields_twice]
      · rw [if_neg hkey]
        by_cases hproto : key = protoKey
        · rw [if_pos hproto, sanitizeFields_twice]
        · rw [if_neg hproto, sanitizeFields, if_neg hkey, if_neg hproto, sanitizeValue_twice, sanitizeFields_twice]

end

/-- **What is kept of a detail does not depend on its secrets, and is kept as it is the next time.** -/
theorem sanitizeDetail_alike :
    (∀ detail other, AlikeFields detail other → sanitizeDetail detail = sanitizeDetail other) ∧
      ∀ detail, sanitizeDetail (sanitizeDetail detail) = sanitizeDetail detail :=
  ⟨fun _ _ halike => halike.sanitizeFields_eq 0, fun detail => sanitizeFields_twice detail 0⟩

theorem sanitizeDetail_ok : sanitizeDetail [("password".toList, .text ['a'])] =
    sanitizeDetail [("password".toList, .text ['b'])] :=
  sanitizeDetail_alike.1 _ _ (.secret _ _ (by decide +kernel) .nil)

end ProxVM.AuditDetail
