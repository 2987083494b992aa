/-!
# ASCII letter case

Keywords, type names and dialect names are compared without regard to the case of the letters
`a` to `z`. Every other letter counts as it is written.

* `sameIgnoringCase` — equality up to ASCII case.
* `startsIgnoringCase` — a lower-case word at the start of a text; `startsIgnoringCase_iff` says so.
-/

namespace PolySql.Text

def lower (s : List Char) : List Char := s.map Char.toLower

def sameIgnoringCase (a b : String) : Bool := lower a.toList == lower b.toList

/-- Whether a text begins with a word that is written in lower case. -/
def startsIgnoringCase : List Char → List Char → Bool
  | [], _ => true
  | _ :: _, [] => false
  | w :: ws, c :: r => w == c.toLower && startsIgnoringCase ws r

theorem lower_length (s : List Char) : (lower s).length = s.length := by simp [lower]

theorem lower_append (s t : List Char) : lower (s ++ t) = lower s ++ lower t := by simp [lower]

/-- Only letters change when they are written in lower case. -/
theorem eq_of_toLower_eq {c d : Char} (hd : d.isLower = false) (h : c.toLower = d) : c = d := by
  unfold Char.toLower at h
  split at h
  · rename_i hc
    subst h
    have hlow : (decide (c.val + ('a'.val - 'A'.val) ≥ 'a'.val) &&
        decide (c.val + ('a'.val - 'A'.val) ≤ 'z'.val)) = false := hd
    simp only [ge_iff_le, UInt32.le_iff_toNat_le, UInt32.toNat_add] at hc hlow
    simp at hc hlow
    omega
  · exact h

theorem startsIgnoringCase_iff (word s : List Char) :
    startsIgnoringCase word s = true ↔ word <+: lower s := by
  induction word generalizing s with
  | nil => simp [startsIgnoringCase]
  | cons w ws ih =>
    cases s with
    | nil => simp [startsIgnoringCase, lower]
    | cons c r =>
      have := ih r
      simp_all [startsIgnoringCase, lower, List.cons_prefix_cons]

theorem sameIgnoringCase_self (a : String) : sameIgnoringCase a a = true := by
  simp [sameIgnoringCase]

theorem sameIgnoringCase_comm (a b : String) : sameIgnoringCase a b = sameIgnoringCase b a := by
  simp only [sameIgnoringCase, Bool.beq_comm]

end PolySql.Text
