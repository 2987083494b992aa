import PolySql.Text.Ascii
import PolySql.Text.Join
import PolySql.Text.Nesting

/-!
# Select lists

A query that wraps another one has to name the columns that the inner query returns.

* `selectList?` — the items of a query, from its start to its first top-level `from`
  (`append_of_selectList?`).
* `trailingQuoted?` — the quoted name at the end of an item.
* `outputName` — the name of the column that an item returns.
* `outputNames?` — the names of all columns, or `*` when an item stands for several.
-/

namespace PolySql.SelectList

open Text

/-- Whether a text begins with the word `from` and a blank. -/
def startsFrom (s : List Char) : Bool :=
  startsIgnoringCase "from".toList s &&
    match s.drop 4 with
    | c :: _ => isBlank c
    | [] => false

/-- The text before the first `from` that is unquoted, outside parentheses and between blanks.
`gap` says that a blank, or nothing, stands just before the text. -/
def untilFrom : Option Char → Nat → Bool → List Char → Option (List Char)
  | _, _, _, [] => none
  | q, d, gap, c :: r =>
    if isQuoted nameQuotes q c then
      (untilFrom (closerAfter nameQuotes q c) d (isBlank c) r).map (c :: ·)
    else if d = 0 ∧ gap ∧ startsFrom (c :: r) then some []
    else (untilFrom none (depthAfter d c) (isBlank c) r).map (c :: ·)

def selectList? (body : List Char) : Option (List Char) := untilFrom none 0 true body

theorem append_of_untilFrom {q : Option Char} {d : Nat} {gap : Bool} {s list : List Char}
    (h : untilFrom q d gap s = some list) : ∃ rest, s = list ++ rest ∧ startsFrom rest := by
  fun_induction untilFrom q d gap s generalizing list with
  | case1 => simp at h
  | case2 q d gap c r _ ih =>
    obtain ⟨list, hl, rfl⟩ := Option.map_eq_some_iff.1 h
    obtain ⟨rest, rfl, hf⟩ := ih hl
    exact ⟨rest, rfl, hf⟩
  | case3 q d gap c r _ hc =>
    obtain rfl : [] = list := by simpa using h
    exact ⟨c :: r, rfl, hc.2.2⟩
  | case4 q d gap c r _ _ ih =>
    obtain ⟨list, hl, rfl⟩ := Option.map_eq_some_iff.1 h
    obtain ⟨rest, rfl, hf⟩ := ih hl
    exact ⟨rest, rfl, hf⟩

/-- The items are followed by a `from`. -/
theorem append_of_selectList? {body list : List Char} (h : selectList? body = some list) :
    ∃ rest, body = list ++ rest ∧ startsFrom rest := append_of_untilFrom h

/-! ## Names of items -/

/-- Looks for a quoted span that ends with the text. Inside a span, `span` holds the closing
character and the text from the opening character on; a doubled closing character belongs to the
span. -/
def spanAtEnd? : Option (Char × List Char) → List Char → Option (List Char)
  | _, [] => none
  | none, c :: r => spanAtEnd? ((nameQuotes c).map fun e => (e, c :: r)) r
  | some (e, span), [c] => if c = e then some span else none
  | some (e, span), c :: d :: r =>
    if c ≠ e then spanAtEnd? (some (e, span)) (d :: r)
    else if d = e then spanAtEnd? (some (e, span)) r
    else spanAtEnd? none (d :: r)

/-- The quoted name that an item ends with. A string literal is not a name. -/
def trailingQuoted? (item : List Char) : Option (List Char) :=
  (spanAtEnd? none item).filter fun span => span.head? != some '\''

/-- The characters after which an expression goes on. -/
def isOperator (c : Char) : Bool := "(,+-*/|".toList.contains c

/-- Whether a text breaks off where an expression goes on. -/
def endsInOperator (s : List Char) : Bool := s.getLast?.any isOperator

def afterLastDot (s : List Char) : List Char := (s.reverse.takeWhile (· != '.')).reverse

/-- Whether none of some characters occurs in a text. -/
def lacks (chars : String) (s : List Char) : Bool := s.all fun c => !chars.toList.contains c

/-- The alias that is the last word of an item, if the word before it can be an expression. -/
def wordAlias? (item : List Char) : Option (List Char) :=
  match (words item).reverse with
  | name :: expression :: _ =>
    if !endsInOperator expression && lacks "().'" name then some name else none
  | _ => none

/-- The name of the column that an item without blanks around it returns: its alias, or the last
part of a qualified name, or else the whole item. -/
def outputName (item : List Char) : List Char :=
  match trailingQuoted? item with
  | some name =>
    if endsInOperator (trimEnd (item.take (item.length - name.length))) then item else name
  | none =>
    match wordAlias? item with
    | some name => name
    | none => if item.contains '.' && lacks "( '" item then afterLastDot item else item

/-- Whether an item stands for all columns, of the query or of a table. -/
def isWildcard (item : List Char) : Bool := item == ['*'] || ".*".toList.isSuffixOf item

/-- The names of the columns that a query returns, with commas between them. -/
def outputNames? (body : List Char) : Option String :=
  (selectList? body).map fun list =>
    let items := (splitTopLevel nameQuotes list).map trim
    if items.any isWildcard then "*"
    else joinWith ", " (items.map fun item => String.ofList (outputName item))

end PolySql.SelectList
