import PolySql.Text.Ascii
import PolySql.Text.Nesting
import PolySql.Text.Replace

/-!
# Laying out statements

A statement is laid out by moving the blanks that stand outside quotes, and nothing else.

* `squeeze`, `collapse` — every stretch of unquoted blanks becomes one space.
* `layoutCreate?` — a CREATE TABLE statement with one definition a line.
* `breakBefore` — a statement with its second clause on a line of its own.
* `layout` — a statement laid out as its first words demand.
-/

namespace PolySql.Layout

open Text

def indent : List Char := "    ".toList

/-! ## Blanks -/

/-- The text with one space for each stretch of unquoted blanks, less the blanks at its end.
`gap` says that blanks stand just before it. -/
def squeeze : Option Char → Bool → List Char → List Char
  | _, _, [] => []
  | q, gap, c :: r =>
    if isQuoted literalQuotes q c = false ∧ isBlank c then squeeze q true r
    else
      let rest := c :: squeeze (closerAfter literalQuotes q c) false r
      if gap then ' ' :: rest else rest

def collapse (s : List Char) : List Char := squeeze none false (trim s)

/-! ## Lines -/

/-- Definitions with a comma and a new line between them. -/
def lines : List (List Char) → List Char
  | [] => []
  | [d] => indent ++ d
  | d :: ds => indent ++ d ++ ',' :: '\n' :: lines ds

/-- What stands after the definitions; only a semicolon stands close to them. -/
def tail (s : List Char) : List Char :=
  match trimStart s with
  | [] => []
  | ';' :: r => ';' :: r
  | r => ' ' :: r

/-- A CREATE TABLE statement with one definition a line; `none` for other statements. -/
def layoutCreate? (s : List Char) : Option (List Char) := do
  let parts ← outerParens literalQuotes s
  let head := trimEnd parts.before
  if occursIn " table ".toList (lower head) then
    let definitions := (splitTopLevel literalQuotes parts.inside).map trim
    some (head ++ " (\n".toList ++ lines definitions ++ "\n)".toList ++ tail parts.after)
  else none

/-- A new line for the first unquoted place where `marker`, a text in lower case that begins with a
space, is found. -/
def breakBefore (marker : List Char) : Option Char → List Char → List Char
  | _, [] => []
  | q, c :: r =>
    if isQuoted literalQuotes q c = false ∧ startsIgnoringCase marker (c :: r) then
      '\n' :: indent ++ r
    else c :: breakBefore marker (closerAfter literalQuotes q c) r

/-- Lays out a text without superfluous blanks. -/
def layoutCollapsed (s : List Char) : List Char :=
  if startsIgnoringCase "create ".toList s then (layoutCreate? s).getD s
  else if startsIgnoringCase "alter table ".toList s then breakBefore " add ".toList none s
  else if startsIgnoringCase "comment on ".toList s then breakBefore " is '".toList none s
  else s

end Layout

/-- Lays out one statement for reading. -/
def layout (sql : String) : String :=
  String.ofList (Layout.layoutCollapsed (Layout.collapse sql.toList))

end PolySql
