import Mathlib.Data.List.Basic

/-!
# Base 64

Bytes as text to base 64, with padding, and how a lenient reader takes it: it passes over what is no digit
and stops at the padding.

- `decode_encode`: what is written is read back.
-/

namespace Base64

def alphabet : List Char :=
  "ABCDEFGHIJKLMNOPQRSTUVWXYZabcdefghijklmnopqrstuvwxyz0123456789+/".toList

def digit (value : Nat) : Char := alphabet.getD value 'A'

def value? (c : Char) : Option Nat :=
  if c = '-' then some 62 else if c = '_' then some 63 else alphabet.findIdx? (· = c)

def encode : List UInt8 → List Char
  | [] => []
  | [a] => [digit (a.toNat / 4), digit (a.toNat % 4 * 16), '=', '=']
  | [a, b] => [digit (a.toNat / 4), digit (a.toNat % 4 * 16 + b.toNat / 16), digit (b.toNat % 16 * 4), '=']
  | a :: b :: c :: rest =>
      digit (a.toNat / 4) :: digit (a.toNat % 4 * 16 + b.toNat / 16) :: digit (b.toNat % 16 * 4 + c.toNat / 64) ::
        digit (c.toNat % 64) :: encode rest

def bytes : List Nat → List UInt8
  | a :: b :: c :: d :: rest =>
      UInt8.ofNat (a * 4 + b / 16) :: UInt8.ofNat (b % 16 * 16 + c / 4) :: UInt8.ofNat (c % 4 * 64 + d) :: bytes rest
  | [a, b, c] => [UInt8.ofNat (a * 4 + b / 16), UInt8.ofNat (b % 16 * 16 + c / 4)]
  | [a, b] => [UInt8.ofNat (a * 4 + b / 16)]
  | _ => []

def values (text : List Char) : List Nat := (text.takeWhile (· ≠ '=')).filterMap value?

def decode (text : List Char) : List UInt8 := bytes (values text)

theorem digit_spec : ∀ value < 64, digit value ≠ '=' ∧ value? (digit value) = some value := by decide +kernel

theorem values_digit {value : Nat} (hvalue : value < 64) (text : List Char) :
    values (digit value :: text) = value :: values text := by
  obtain ⟨hne, hread⟩ := digit_spec value hvalue
  simp [values, hne, hread]

theorem values_padding (text : List Char) : values ('=' :: text) = [] := rfl

theorem byte_eq {b : UInt8} {value : Nat} (hvalue : value = b.toNat) : UInt8.ofNat value = b := by
  rw [hvalue, UInt8.ofNat_toNat]

theorem decode_encode (data : List UInt8) : decode (encode data) = data := by
  unfold decode
  induction data using encode.induct with
  | case1 => rfl
  | case2 a =>
      have ha := a.toNat_lt
      rw [encode, values_digit (by omega), values_digit (by omega), values_padding, bytes,
        byte_eq (b := a) (by omega)]
  | case3 a b =>
      have ha := a.toNat_lt
      have hb := b.toNat_lt
      rw [encode, values_digit (by omega), values_digit (by omega), values_digit (by omega), values_padding, bytes,
        byte_eq (b := a) (by omega), byte_eq (b := b) (by omega)]
  | case4 a b c rest ih =>
      have ha := a.toNat_lt
      have hb := b.toNat_lt
      have hc := c.toNat_lt
      rw [encode, values_digit (by omega), values_digit (by omega), values_digit (by omega), values_digit (by omega),
        bytes, ih, byte_eq (b := a) (by omega), byte_eq (b := b) (by omega), byte_eq (b := c) (by omega)]

end Base64
