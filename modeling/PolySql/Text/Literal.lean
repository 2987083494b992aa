/-!
# String literals

A quote inside an SQL string literal is written twice.

* `doubleQuotes` — the content of a literal for a text.
* `literal` — the literal with its quotes.

`count_doubleQuotes` counts the characters of the content.
-/

namespace PolySql.Text

def doubleQuotes : List Char → List Char
  | [] => []
  | c :: r => if c = '\'' then '\'' :: '\'' :: doubleQuotes r else c :: doubleQuotes r

/-- The content of the literal for a text. -/
def literalContent (s : String) : String := String.ofList (doubleQuotes s.toList)

/-- The literal for a text. -/
def literal (s : String) : String := "'" ++ literalContent s ++ "'"

/-- A quote is written twice and every other character once. -/
theorem count_doubleQuotes (x : Char) (s : List Char) :
    (doubleQuotes s).count x = (if x = '\'' then 2 else 1) * s.count x := by
  induction s with
  | nil => simp [doubleQuotes]
  | cons c r ih => by_cases h : c = '\'' <;> by_cases hx : x = c <;> grind [doubleQuotes]

end PolySql.Text
