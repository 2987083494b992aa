/-!
# Numerals as doubles

A numeral becomes a double in two steps. As many of its digits as a word of 64 bits takes make a
whole number, which is rounded to a double; then that double is multiplied by a power of ten, which
is a rounded double too. So the value may differ a little from that of the numeral, and a numeral
near the largest double may be too large although its value is not.

* `Double.round` — the double nearest to a whole number.
* `Double.gather` — the digits that go into the word, and those that are left over.
* `Double.isFinite` — whether the double of a numeral is finite.
-/

namespace PolySql.Double

/-- The least number that is too large: it would round to `2 ^ 1024`. -/
def limit : Nat := Nat.pow 2 1024 - Nat.pow 2 970

/-- The nearest number with 53 significant bits; a number half way between two goes to the even
one. -/
def round (n : Nat) : Nat :=
  let spacing := Nat.pow 2 (n.log2 - 52)
  let below := n / spacing
  let rest := 2 * (n % spacing)
  if rest < spacing ∨ rest = spacing ∧ below % 2 = 0 then below * spacing
  else (below + 1) * spacing

/-- Appends decimal digits to a number as long as it fits into a word. Digits that come after one
that does not fit are left over with it. -/
def gather (value : Nat) : List Nat → Nat × List Nat
  | [] => (value, [])
  | d :: ds => if 10 * value + d < UInt64.size then gather (10 * value + d) ds else (value, d :: ds)

/-- Whether a whole number times a power of ten is finite when both are doubles. -/
def isFiniteScaled (value : Nat) (exponent : Int) : Bool :=
  if value = 0 ∨ exponent ≤ 0 then true
  else if 308 < exponent then false
  else round value * round (Nat.pow 10 exponent.toNat) < limit

/-- Whether a numeral with these digits before and after the point has a finite double. Digits left
over before the point count as zeros; those after the point do not count. -/
def isFinite (whole fraction : List Nat) (exponent : Int) : Bool :=
  let (value, zeros) := gather 0 whole
  let (value, unread) := gather value fraction
  isFiniteScaled value (exponent + zeros.length - (fraction.length - unread.length : Nat))

theorem round_of_lt {n : Nat} (h : n < Nat.pow 2 53) : round n = n := by
  have hlog : n.log2 - 52 = 0 := by
    by_cases hn : n = 0
    · subst hn; decide
    · have := (Nat.log2_lt hn).2 h
      omega
  simp [round, hlog, Nat.mod_one]

theorem gather_lt (value : Nat) (digits : List Nat) (h : value < UInt64.size) :
    (gather value digits).1 < UInt64.size := by
  induction digits generalizing value with
  | nil => exact h
  | cons d ds ih =>
    rw [gather]
    split
    · exact ih _ ‹_›
    · exact h

end PolySql.Double
