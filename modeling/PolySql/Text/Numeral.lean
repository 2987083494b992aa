/-!
# Numerals of a fixed width

* `digitChar` — the digits `0` to `9` and `a` to `z`.
* `numeral` — the low digits of a number in some base, padded with zeros to a width.
* `base36` — the numerals of base 36.
-/

namespace PolySql.Text

def digitChar (d : Nat) : Char := if d < 10 then Char.ofNat (48 + d) else Char.ofNat (87 + d)

/-- The `width` lowest digits, the lowest first. -/
def lowDigits (base : Nat) : Nat → Nat → List Char
  | 0, _ => []
  | width + 1, value => digitChar (value % base) :: lowDigits base width (value / base)

/-- A number in exactly `width` digits; digits above that are dropped. -/
def numeral (base value width : Nat) : String :=
  String.ofList (lowDigits base width value).reverse

def base36 (value width : Nat) : String := numeral 36 value width

theorem length_lowDigits (base width value : Nat) :
    (lowDigits base width value).length = width := by
  induction width generalizing value with
  | zero => rfl
  | succ w ih => simp [lowDigits, ih]

end PolySql.Text
