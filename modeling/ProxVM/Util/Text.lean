/-!
# Texts of a request

What `trim` makes of a text.
-/

namespace ProxVM

/-- White space, as `trim` sees it. -/
def isJsSpace (c : Char) : Bool :=
  decide (9 ≤ c.toNat ∧ c.toNat ≤ 13) || decide (0x2000 ≤ c.toNat ∧ c.toNat ≤ 0x200A) ||
    [0x20, 0xA0, 0x1680, 0x2028, 0x2029, 0x202F, 0x205F, 0x3000, 0xFEFF].contains c.toNat

/-- `text?.trim() || undefined`. -/
def trimmed (text : Option String) : Option String :=
  (text.map fun s => String.ofList
    (((s.toList.dropWhile isJsSpace).reverse.dropWhile isJsSpace).reverse)).filter
      fun s => decide (s ≠ "")

end ProxVM
