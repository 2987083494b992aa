/-!
# Substitution

* `replaceAll` — every occurrence of a pattern is replaced, from the left and without overlap; what
  has been put in is not read again.
* `occursIn` — whether a pattern occurs at all.

`replaceAll_of_not_contains` says that a text without the pattern stays as it is.
-/

namespace PolySql.Text

/-- Skips `skip` characters, then replaces every occurrence of `pat` by `new`. -/
def replaceFrom (pat new : List Char) : Nat → List Char → List Char
  | _, [] => []
  | skip + 1, _ :: r => replaceFrom pat new skip r
  | 0, c :: r =>
    if pat.isPrefixOf (c :: r) then new ++ replaceFrom pat new (pat.length - 1) r
    else c :: replaceFrom pat new 0 r

/-- Replaces every occurrence of the non-empty text `pat` by `new`. -/
def replaceAll (pat new s : String) : String :=
  String.ofList (replaceFrom pat.toList new.toList 0 s.toList)

def occursIn (pat : List Char) : List Char → Bool
  | [] => pat.isEmpty
  | c :: r => pat.isPrefixOf (c :: r) || occursIn pat r

/-- Whether `s` holds the text `pat`. -/
def contains (s pat : String) : Bool := occursIn pat.toList s.toList

theorem replaceFrom_of_not_occursIn {pat : List Char} (new : List Char) {s : List Char}
    (h : occursIn pat s = false) : replaceFrom pat new 0 s = s := by
  induction s with
  | nil => rfl
  | cons c r ih =>
    simp only [occursIn, Bool.or_eq_false_iff] at h
    simp [replaceFrom, h.1, ih h.2]

theorem replaceAll_of_not_contains {pat s : String} (new : String) (h : contains s pat = false) :
    replaceAll pat new s = s := by
  simp [replaceAll, replaceFrom_of_not_occursIn _ h]

/-- A text that begins with the pattern: the pattern gives way and the rest is read on. -/
theorem replaceFrom_append {pat : List Char} (new r : List Char) (h : pat ≠ []) :
    replaceFrom pat new 0 (pat ++ r) = new ++ replaceFrom pat new 0 r := by
  have skip : ∀ p s : List Char,
      replaceFrom pat new p.length (p ++ s) = replaceFrom pat new 0 s := by
    intro p s
    induction p with
    | nil => rfl
    | cons c p ih => simpa [replaceFrom] using ih
  cases pat with
  | nil => exact absurd rfl h
  | cons c p => simp [replaceFrom, skip]

end PolySql.Text
