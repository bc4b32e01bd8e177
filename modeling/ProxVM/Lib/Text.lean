import Mathlib.Data.List.Basic

/-!
# Texts made of numbers and separators

Keys such as `kind:17:field` determine their parts: a number prints without the
separator, so the text can be cut where the separator first stands.

- `cut_inj`: equal texts with one separator after separator-free words have equal
  parts.
- `repr_inj`, `intRepr_inj`: a number is determined by its decimal notation.
-/

namespace Text

theorem cut_inj {c : Char} {word word' rest rest' : List Char} (hword : c ∉ word)
    (hword' : c ∉ word') (heq : word ++ c :: rest = word' ++ c :: rest') : word = word' ∧ rest = rest' := by
  induction word generalizing word' with
  | nil =>
      cases word' with
      | nil => exact ⟨rfl, (List.cons.inj heq).2⟩
      | cons d word' => exact absurd (List.cons.inj heq).1 (List.ne_of_not_mem_cons hword')
  | cons d word ih =>
      cases word' with
      | nil => exact absurd (List.cons.inj heq).1.symm (List.ne_of_not_mem_cons hword)
      | cons d' word' =>
          obtain ⟨rfl, htail⟩ := List.cons.inj heq
          obtain ⟨rfl, hrest⟩ := ih (List.not_mem_of_not_mem_cons hword)
            (List.not_mem_of_not_mem_cons hword') htail
          exact ⟨rfl, hrest⟩

theorem not_mem_repr {c : Char} (hc : c.isDigit = false) (n : Nat) : c ∉ n.repr.toList := by
  intro hmem
  rw [Nat.toList_repr] at hmem
  have hdigit : c.isDigit = true := Nat.isDigit_of_mem_toDigits (by decide) (by decide) hmem
  rw [hc] at hdigit
  cases hdigit

theorem repr_inj {m n : Nat} (heq : m.repr = n.repr) : m = n := by
  have hdigits : Nat.toDigits 10 m = Nat.toDigits 10 n := by
    rw [← Nat.toList_repr, ← Nat.toList_repr, heq]
  rw [← Nat.ofDigitChars_toDigits (b := 10) (n := m) (by decide) (by decide), hdigits,
    Nat.ofDigitChars_toDigits (by decide) (by decide)]

theorem repr_ne_neg (m n : Nat) : m.repr ≠ "-" ++ n.repr := by
  intro heq
  have hsign : '-' ∈ m.repr.toList := by
    rw [heq, String.toList_append]
    exact List.mem_cons_self
  exact not_mem_repr rfl m hsign

theorem intRepr_inj {m n : Int} (heq : m.repr = n.repr) : m = n := by
  cases m with
  | ofNat m =>
      cases n with
      | ofNat n => rw [repr_inj heq]
      | negSucc n => exact absurd heq (repr_ne_neg m n.succ)
  | negSucc m =>
      cases n with
      | ofNat n => exact absurd heq.symm (repr_ne_neg n m.succ)
      | negSucc n =>
          have hlist : ("-" ++ m.succ.repr).toList = ("-" ++ n.succ.repr).toList := congrArg _ heq
          rw [String.toList_append, String.toList_append] at hlist
          have hdigits : m.succ.repr = n.succ.repr :=
            String.toList_injective (List.append_cancel_left hlist)
          have hsucc : m.succ = n.succ := repr_inj hdigits
          rw [Nat.succ.inj hsucc]

end Text
