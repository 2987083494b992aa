/-!
# Quoted spans

A scan walks a text from the left and knows, at each character, whether it is quoted. What opens a
span and what closes it is a `QuoteRule`; a doubled quote closes a span and opens the next, so it
stays quoted.

* `literalQuotes`, `nameQuotes` — the rule of statements, and that of select lists, which knows
  bracketed names as well.
* `isQuoted`, `closerAfter` — one step of the scan.
* `marks` — a whole text with the mark of each character.
* `closerAfterAll` — where a scan stands after a whole text.
-/

namespace PolySql.Text

/-- The character that closes a span opened by a character, if it opens one. -/
abbrev QuoteRule := Char → Option Char

/-- String literals and names in quotes: each quote is closed by its like. -/
def literalQuotes : QuoteRule
  | '\'' => some '\''
  | '"' => some '"'
  | '\x60' => some '\x60'
  | _ => none

/-- As `literalQuotes`, and names in brackets. -/
def nameQuotes : QuoteRule
  | '[' => some ']'
  | c => literalQuotes c

/-- Whether a character is inside a span, its quotes included, when `q` closes the open span. -/
def isQuoted (rule : QuoteRule) (q : Option Char) (c : Char) : Bool := q.isSome || (rule c).isSome

/-- What closes the span that is open after a character. -/
def closerAfter (rule : QuoteRule) (q : Option Char) (c : Char) : Option Char :=
  match q with
  | some e => if c = e then none else some e
  | none => rule c

/-- What closes the span that is open after a text. -/
def closerAfterAll (rule : QuoteRule) (q : Option Char) (s : List Char) : Option Char :=
  s.foldl (closerAfter rule) q

/-- Every character with whether it is quoted. -/
def marks (rule : QuoteRule) : Option Char → List Char → List (Char × Bool)
  | _, [] => []
  | q, c :: r => (c, isQuoted rule q c) :: marks rule (closerAfter rule q c) r

/-- An unquoted character leaves the scan outside every span. -/
theorem eq_none_of_not_isQuoted {rule : QuoteRule} {q : Option Char} {c : Char}
    (h : isQuoted rule q c = false) : q = none ∧ closerAfter rule q c = none := by
  simp only [isQuoted, Bool.or_eq_false_iff, Option.isSome_eq_false_iff, Option.isNone_iff_eq_none]
    at h
  obtain ⟨rfl, h⟩ := h
  exact ⟨rfl, h⟩

theorem marks_append (rule : QuoteRule) (q : Option Char) (s t : List Char) :
    marks rule q (s ++ t) = marks rule q s ++ marks rule (closerAfterAll rule q s) t := by
  induction s generalizing q with
  | nil => rfl
  | cons c r ih => simp [marks, closerAfterAll, ih]

theorem map_fst_marks (rule : QuoteRule) (q : Option Char) (s : List Char) :
    (marks rule q s).map Prod.fst = s := by
  induction s generalizing q with
  | nil => rfl
  | cons c r ih => simp [marks, ih]

end PolySql.Text
