import ProxVM.Lib.Base64
import ProxVM.Util.Errors

/-!
# Stored secrets

`crypto/cipher.ts`, and `keyIdOf` of `services/credentials.ts`: a secret is
stored as the identifier of its key, a colon, and to base 64 what AES-256-GCM makes of it.  The configuration
takes any text that is not empty for the identifier, so also one with a colon, at which the stored text is then
cut too early.
-/

namespace ProxVM.Cipher

/-! ## Texts and bytes -/

inductive Point
  | scalar (c : Char)
  | lone (surrogate : Fin 2048)
  deriving DecidableEq, Repr

abbrev Text := List Point

abbrev Bytes := List UInt8

def ofChars (chars : List Char) : Text := chars.map .scalar

def ofString (text : String) : Text := ofChars text.toList

def colon : Point := .scalar ':'

def Point.encoded : Point → Char
  | .scalar c => c
  | .lone _ => '\uFFFD'

def WellFormed (text : Text) : Prop := ofChars (text.map Point.encoded) = text

def Point.scalar? : Point → Option Char
  | .scalar c => some c
  | .lone _ => none

/-- `toString("base64")`. -/
def toBase64 (data : Bytes) : Text := ofChars (Base64.encode data)

/-- `Buffer.from(text, "base64")`. -/
def fromBase64 (text : Text) : Bytes := Base64.decode (text.filterMap Point.scalar?)

def utf8 (chars : List Char) : Bytes := (String.ofList chars).toUTF8.data.toList

/-- AES-256-GCM under a key and an initialization vector, and the decoder of UTF-8: the cipher opens what it
sealed, its tags have 16 bytes, and the decoder reads what was encoded. -/
structure Runtime where
  encrypt : (key iv data : Bytes) → Bytes × Bytes
  decrypt : (key iv tag data : Bytes) → Option Bytes
  decodeUtf8 : Bytes → Text
  length_tag : ∀ key iv data, (encrypt key iv data).2.length = 16
  decrypt_encrypt : ∀ key iv data, decrypt key iv (encrypt key iv data).2 (encrypt key iv data).1 = some data
  decodeUtf8_utf8 : ∀ chars, decodeUtf8 (utf8 chars) = ofChars chars

/-! ## Secrets -/

def ivLength : Nat := 12

def tagLength : Nat := 16

def configurationError (message : String) : AppError :=
  { code := .configurationError, message, statusCode := 500 }

def hexValue? (point : Point) : Option Nat :=
  match point with
  | .scalar c => "0123456789abcdef".toList.findIdx? (· = c.toLower)
  | .lone _ => none

def hexBytes : List Nat → Bytes
  | high :: low :: rest => UInt8.ofNat (high * 16 + low) :: hexBytes rest
  | _ => []

/-- `/^[0-9a-fA-F]{64}$/`. -/
def isMasterKey (hex : Text) : Bool := decide (hex.length = 64) && hex.all fun point => (hexValue? point).isSome

def masterKeyFromHex (hex : Text) : Except AppError Bytes :=
  if isMasterKey hex = true then .ok (hexBytes (hex.filterMap hexValue?))
  else .error (configurationError "Master key must be 32 raw bytes as hex")

structure EncryptedValue where
  keyId : Text
  ciphertext : Text
  deriving DecidableEq, Repr

structure Decrypted where
  keyId : Text
  plaintext : Text
  deriving DecidableEq, Repr

section

variable (node : Runtime)

/-- `encryptSecret`, with the initialization vector it draws. -/
def encryptSecret (iv : Bytes) (masterKey keyId plaintext : Text) : Except AppError EncryptedValue := do
  let key ← masterKeyFromHex masterKey
  let (enc, tag) := node.encrypt key iv (utf8 (plaintext.map Point.encoded))
  return ⟨keyId, keyId ++ colon :: toBase64 (iv ++ tag ++ enc)⟩

/-- `indexOf(":")`. -/
def separator (stored : Text) : Option Nat := stored.findIdx? (· = colon)

/-- What `decryptSecret` does with the two parts of a stored text. -/
def decryptParts (masterKey keyId encoded : Text) : Except AppError Decrypted :=
  let payload := fromBase64 encoded
  if payload.length < ivLength + tagLength then .error (configurationError "Stored secret is truncated")
  else do
    let key ← masterKeyFromHex masterKey
    match node.decrypt key (payload.take ivLength) ((payload.drop ivLength).take tagLength)
        (payload.drop (ivLength + tagLength)) with
    | some data => .ok ⟨keyId, node.decodeUtf8 data⟩
    | none => .error (configurationError "Failed to decrypt secret: wrong master key or corrupted data")

def decryptSecret (masterKey stored : Text) : Except AppError Decrypted :=
  match separator stored with
  | none => .error (configurationError "Stored secret has an invalid format")
  | some 0 => .error (configurationError "Stored secret has an invalid format")
  | some (sep + 1) => decryptParts node masterKey (stored.take (sep + 1)) (stored.drop (sep + 2))

def rotateSecretKey (iv : Bytes) (oldMasterKey newMasterKey newKeyId stored : Text) :
    Except AppError EncryptedValue := do
  let opened ← decryptSecret node oldMasterKey stored
  encryptSecret node iv newMasterKey newKeyId opened.plaintext

def keyIdOf (ciphertext : Text) : Text :=
  match separator ciphertext with
  | some (sep + 1) => ciphertext.take (sep + 1)
  | _ => ofString "v1"

def Returns (iv newIv : Bytes) (masterKey keyId plaintext newMasterKey newKeyId : Text) : Prop :=
  ∃ sealed, encryptSecret node iv masterKey keyId plaintext = .ok sealed ∧
    decryptSecret node masterKey sealed.ciphertext = .ok ⟨keyId, plaintext⟩ ∧
    keyIdOf sealed.ciphertext = keyId ∧
    ∃ renewed, rotateSecretKey node newIv masterKey newMasterKey newKeyId sealed.ciphertext = .ok renewed ∧
      decryptSecret node newMasterKey renewed.ciphertext = .ok ⟨newKeyId, plaintext⟩

end

/-! ## The separator -/

variable {keyId stored masterKey : Text} {iv : Bytes}

theorem separator_of_not_mem (hcolon : colon ∉ keyId) (encoded : Text) :
    separator (keyId ++ colon :: encoded) = some keyId.length := by
  have hnone : keyId.findIdx? (· = colon) = none :=
    List.findIdx?_eq_none_iff.mpr fun point hpoint => decide_eq_false fun heq => hcolon (heq ▸ hpoint)
  rw [separator, List.findIdx?_append, hnone, Option.none_or, List.findIdx?_cons]
  simp

theorem not_mem_take_separator {sep : Nat} (hsep : separator stored = some sep) :
    colon ∉ stored.take sep := by
  obtain ⟨hlt, -, hbefore⟩ := List.findIdx?_eq_some_iff_getElem.mp hsep
  intro hmem
  obtain ⟨i, hi, heq⟩ := List.getElem_of_mem hmem
  rw [List.length_take] at hi
  rw [List.getElem_take] at heq
  exact hbefore i (by omega) (decide_eq_true heq)

theorem not_mem_of_decrypt {node : Runtime} {opened : Decrypted}
    (hopen : decryptSecret node masterKey stored = .ok opened) : colon ∉ opened.keyId := by
  unfold decryptSecret at hopen
  split at hopen
  · cases hopen
  · cases hopen
  · next sep hsep =>
      have hkeyId : opened.keyId = stored.take (sep + 1) := by
        unfold decryptParts at hopen
        cases hkey : masterKeyFromHex masterKey with
        | error e => rw [hkey] at hopen; simp only [bind, Except.bind] at hopen; split at hopen <;> cases hopen
        | ok key =>
            rw [hkey] at hopen
            simp only [bind, Except.bind] at hopen
            split at hopen
            · cases hopen
            · split at hopen
              · cases hopen
                rfl
              · cases hopen
      rw [hkeyId]
      exact not_mem_take_separator hsep

/-! ## What comes back -/

theorem filterMap_scalar (chars : List Char) : (ofChars chars).filterMap Point.scalar? = chars := by
  rw [ofChars, List.filterMap_map]
  exact List.filterMap_some

theorem fromBase64_toBase64 (data : Bytes) : fromBase64 (toBase64 data) = data := by
  rw [fromBase64, toBase64, filterMap_scalar, Base64.decode_encode]

theorem masterKeyFromHex_ok {hex : Text} (hkey : isMasterKey hex = true) : ∃ key, masterKeyFromHex hex = .ok key :=
  ⟨_, if_pos hkey⟩

theorem encryptSecret_ok {node : Runtime} {masterKey keyId plaintext : Text} {sealed : EncryptedValue}
    (hseal : encryptSecret node iv masterKey keyId plaintext = .ok sealed) : isMasterKey masterKey = true := by
  by_contra hnot
  rw [encryptSecret, masterKeyFromHex, if_neg hnot] at hseal
  cases hseal

theorem decrypt_encryptSecret (node : Runtime) (hiv : iv.length = ivLength) (plaintext : Text) (hkey : isMasterKey masterKey = true) (hne : keyId ≠ [])
    (hcolon : colon ∉ keyId) : ∃ sealed, encryptSecret node iv masterKey keyId plaintext = .ok sealed ∧
      decryptSecret node masterKey sealed.ciphertext = .ok ⟨keyId, ofChars (plaintext.map Point.encoded)⟩ ∧
      keyIdOf sealed.ciphertext = keyId := by
  obtain ⟨key, hmaster⟩ := masterKeyFromHex_ok hkey
  obtain ⟨sep, hlength⟩ := Nat.exists_eq_succ_of_ne_zero (mt List.length_eq_zero_iff.mp hne)
  let data := utf8 (plaintext.map Point.encoded)
  let enc := (node.encrypt key iv data).1
  let tag := (node.encrypt key iv data).2
  have htag : tag.length = tagLength := node.length_tag key iv data
  have hsep : separator (keyId ++ colon :: toBase64 (iv ++ tag ++ enc)) = some (sep + 1) := by
    rw [separator_of_not_mem hcolon, hlength]
  have htake : (keyId ++ colon :: toBase64 (iv ++ tag ++ enc)).take (sep + 1) = keyId := by
    rw [← Nat.succ_eq_add_one, ← hlength, List.take_left]
  have hdrop : (keyId ++ colon :: toBase64 (iv ++ tag ++ enc)).drop (sep + 2) = toBase64 (iv ++ tag ++ enc) := by
    rw [← Nat.succ_eq_add_one (sep + 1), ← Nat.succ_eq_add_one sep, ← hlength, ← Nat.add_one, ← List.drop_drop,
      List.drop_left, List.drop_one, List.tail_cons]
  refine ⟨⟨keyId, keyId ++ colon :: toBase64 (iv ++ tag ++ enc)⟩, ?_, ?_, ?_⟩
  · rw [encryptSecret, hmaster]
    rfl
  · rw [decryptSecret, hsep]
    have hlong : ¬ (iv ++ tag ++ enc).length < ivLength + tagLength := by
      rw [List.length_append, List.length_append]
      omega
    have hivs : (iv ++ tag ++ enc).take ivLength = iv := by
      rw [← hiv, List.append_assoc, List.take_left]
    have htags : ((iv ++ tag ++ enc).drop ivLength).take tagLength = tag := by
      rw [← hiv, List.append_assoc, List.drop_left, ← htag, List.take_left]
    have hrest : (iv ++ tag ++ enc).drop (ivLength + tagLength) = enc := by
      rw [← hiv, ← htag, ← List.length_append, List.drop_left]
    simp only [htake, hdrop, decryptParts, fromBase64_toBase64, if_neg hlong, hmaster, hivs, htags, hrest]
    have hopened : node.decrypt key iv tag enc = some data := node.decrypt_encrypt key iv data
    simp only [bind, Except.bind, hopened]
    rw [node.decodeUtf8_utf8]
  · rw [keyIdOf, hsep]
    exact htake

/-- **A secret comes back, and again when it was sealed anew, exactly if neither identifier has a colon, both
master keys are of 64 hexadecimal digits and the secret has no lone surrogate.** -/
theorem secret_returns_iff (node : Runtime) {iv newIv : Bytes} (hiv : iv.length = ivLength)
    (hnewIv : newIv.length = ivLength) {masterKey keyId plaintext newMasterKey newKeyId : Text} (hne : keyId ≠ [])
    (hnewNe : newKeyId ≠ []) : Returns node iv newIv masterKey keyId plaintext newMasterKey newKeyId ↔
      colon ∉ keyId ∧ colon ∉ newKeyId ∧ isMasterKey masterKey = true ∧ isMasterKey newMasterKey = true ∧
        WellFormed plaintext := by
  constructor
  · rintro ⟨sealed, hseal, hopen, -, renewed, hrotate, hreopen⟩
    have hcolon : colon ∉ keyId := not_mem_of_decrypt hopen
    have hkey := encryptSecret_ok hseal
    have hnewKey : isMasterKey newMasterKey = true := by
      rw [rotateSecretKey, hopen] at hrotate
      exact encryptSecret_ok hrotate
    obtain ⟨same, hsame, hplain, -⟩ := decrypt_encryptSecret node hiv plaintext hkey hne hcolon
    cases hseal.symm.trans hsame
    have hback := hopen.symm.trans hplain
    injection hback with hback
    exact ⟨hcolon, not_mem_of_decrypt hreopen, hkey, hnewKey, (congrArg Decrypted.plaintext hback).symm⟩
  · rintro ⟨hcolon, hnewColon, hkey, hnewKey, hwell⟩
    obtain ⟨sealed, hseal, hopen, hid⟩ := decrypt_encryptSecret node hiv plaintext hkey hne hcolon
    obtain ⟨renewed, hrenew, hreopen, -⟩ := decrypt_encryptSecret node hnewIv plaintext hnewKey hnewNe hnewColon
    rw [hwell] at hopen hreopen
    refine ⟨sealed, hseal, hopen, hid, renewed, ?_, hreopen⟩
    rw [rotateSecretKey, hopen]
    exact hrenew

/-! ## Samples -/

def emptyTag : Bytes :=
  [0x53, 0x0f, 0x8a, 0xfb, 0xc7, 0x45, 0x36, 0xb9, 0xa9, 0x63, 0xb4, 0xf1, 0xc4, 0xcb, 0x73, 0x8b]

def sampleDecodeUtf8 (data : Bytes) : Text :=
  match String.fromUTF8? ⟨data.toArray⟩ with
  | some text => ofString text
  | none => [.scalar '\uFFFD']

theorem sampleDecodeUtf8_utf8 (chars : List Char) : sampleDecodeUtf8 (utf8 chars) = ofChars chars := by
  have hread : String.fromUTF8? (String.ofList chars).toUTF8 = some (String.ofList chars) :=
    dif_pos (String.ofList chars).isValidUTF8
  unfold sampleDecodeUtf8 utf8
  rw [Array.toArray_toList, hread]
  exact congrArg ofChars String.toList_ofList

def sampleRuntime : Runtime where
  encrypt _ _ data := (data, emptyTag)
  decrypt _ _ tag data := if tag = emptyTag then some data else none
  decodeUtf8 := sampleDecodeUtf8
  length_tag _ _ _ := (rfl)
  decrypt_encrypt _ _ _ := if_pos rfl
  decodeUtf8_utf8 := sampleDecodeUtf8_utf8

def zeroKey : Text := List.replicate 64 (.scalar '0')

def zeroIv : Bytes := List.replicate 12 0

theorem secret_returns_ok :
    Returns sampleRuntime zeroIv zeroIv zeroKey (ofString "v1") [] zeroKey (ofString "v2") :=
  (secret_returns_iff sampleRuntime (rfl) (rfl) (by decide) (by decide)).mpr
    ⟨by decide, by decide, by decide, by decide, rfl⟩

theorem not_returns_colon :
    ¬ ∀ (node : Runtime) (iv newIv : Bytes), iv.length = ivLength → newIv.length = ivLength →
      ∀ masterKey keyId plaintext newMasterKey newKeyId : Text, isMasterKey masterKey = true →
        isMasterKey newMasterKey = true → keyId ≠ [] → newKeyId ≠ [] →
          Returns node iv newIv masterKey keyId plaintext newMasterKey newKeyId := by
  intro hall
  obtain ⟨sealed, -, hopen, -⟩ := hall sampleRuntime zeroIv zeroIv (rfl) (rfl) zeroKey (ofString "team:v1") []
    zeroKey (ofString "v2") (by decide) (by decide) (by decide) (by decide)
  exact not_mem_of_decrypt hopen (by decide)

end ProxVM.Cipher
