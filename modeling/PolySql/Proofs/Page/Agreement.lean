import PolySql.Proofs.Page.Aliases
import PolySql.Proofs.Page.RowNumber

/-!
# Where the scans of a select list agree

A quoted name is read three times: by the search for the end of the list, by the cut at commas, and
by the search for the name at the end of an item. The last one looks ahead at a doubled quote, the
others close a span at the first of the two and rely on the second to open the next.

* `Quoting`, `Quoting.quote` — the ways to quote a name, and a name of any content in quotes.
* `covered_quote_iff` — the scans of lists see one span, unless a bracket is doubled.
* `trailingQuoted?_quote` — the search for the name at the end of an item sees one span always.
* `ReadAsOne` — what all of them make of a name.

Principal result: `readAsOne_iff` — they agree exactly unless a bracket is doubled.
`not_readAsOne_bracket` is a name that is torn.
-/

namespace PolySql.SelectList

open Text

/-! ## Quotes -/

/-- The ways to quote a name. -/
inductive Quoting where
  | double
  | backtick
  | brackets
  deriving DecidableEq, Repr

namespace Quoting

def opening : Quoting → Char
  | double => '"'
  | backtick => '\x60'
  | brackets => '['

def closing : Quoting → Char
  | double => '"'
  | backtick => '\x60'
  | brackets => ']'

/-- A name in quotes, with every character doubled that would close them. -/
def quote (quoting : Quoting) (content : List Char) : List Char :=
  quoting.opening :: (doubled quoting.closing content ++ [quoting.closing])

theorem nameQuotes_opening (quoting : Quoting) :
    nameQuotes quoting.opening = some quoting.closing := by
  cases quoting <;> rfl

theorem opening_ne (quoting : Quoting) : quoting.opening ≠ '\'' := by
  cases quoting <;> decide

end Quoting

/-! ## What each scan sees -/

/-- Behind a doubled bracket a scan stands outside: the second of the two opens nothing. -/
theorem not_covered_doubled_bracket {content : List Char} (h : ']' ∈ content) :
    ¬Covered nameQuotes (some ']') (doubled ']' content ++ [']']) := by
  induction content with
  | nil => cases h
  | cons c s ih =>
    intro hcovered
    rw [doubled_cons, List.append_assoc] at hcovered
    by_cases hc : c = ']'
    · rw [if_pos hc] at hcovered
      have hsecond := hcovered.of_cons.2.of_cons.1
      cases hsecond
    · rw [if_neg hc] at hcovered
      have hrest := hcovered.of_cons.2
      rw [closerAfter, if_neg hc] at hrest
      exact ih ((List.mem_cons.1 h).resolve_left (Ne.symm hc)) hrest

/-- **The scans of lists see a name as one span exactly unless a bracket is doubled.** -/
theorem covered_quote_iff {quoting : Quoting} {content : List Char} :
    Covered nameQuotes none (quoting.quote content) ↔
      (quoting = .brackets → ']' ∉ content) := by
  have hopens : isQuoted nameQuotes none quoting.opening = true := by
    rw [isQuoted_none, quoting.nameQuotes_opening]
    rfl
  have hinside : closerAfter nameQuotes none quoting.opening = some quoting.closing :=
    quoting.nameQuotes_opening
  have hcovered : Covered nameQuotes none (quoting.quote content) ↔
      Covered nameQuotes (some quoting.closing)
        (doubled quoting.closing content ++ [quoting.closing]) :=
    ⟨fun h => hinside ▸ h.of_cons.2, fun h => .cons hopens (hinside ▸ h)⟩
  rw [hcovered]
  cases quoting with
  | double =>
    have hquote : nameQuotes '"' = some '"' := rfl
    exact iff_of_true (covered_doubled hquote content) fun h => by cases h
  | backtick =>
    have hquote : nameQuotes '\x60' = some '\x60' := rfl
    exact iff_of_true (covered_doubled hquote content) fun h => by cases h
  | brackets =>
    refine ⟨fun h _ hmem => not_covered_doubled_bracket hmem h, fun h => ?_⟩
    rw [Quoting.closing, doubled_of_not_mem (h rfl)]
    exact covered_bracketed (h rfl)

/-- **The search for the name at the end of an item sees one span**, whatever is doubled in it. -/
theorem trailingQuoted?_quote {front : List Char} (h : Leaves front) (quoting : Quoting)
    (content : List Char) :
    trailingQuoted? (front ++ ' ' :: quoting.quote content) = some (quoting.quote content) := by
  have hspan : spanAtEnd? none (quoting.quote content) = some (quoting.quote content) := by
    rw [Quoting.quote, spanAtEnd?, quoting.nameQuotes_opening]
    exact spanAtEnd?_doubled quoting.closing _ content
  have hhead : (quoting.quote content).head? ≠ some '\'' :=
    fun hquote => quoting.opening_ne (Option.some.inj hquote)
  rw [trailingQuoted?, h.anew, hspan, Option.filter_some, if_pos (by simpa using hhead)]

/-! ## All of them -/

/-- An item with a quoted name. -/
def quotedItem (expression : Expression) (quoting : Quoting) (content : List Char) : List Char :=
  Item.front expression true ++ ' ' :: quoting.quote content

/-- All scans of a query whose list is an item with a quoted name read the name as one span: no
comma, no parenthesis and no `from` in it counts, and the column has this name. -/
structure ReadAsOne (expression : Expression) (quoting : Quoting) (content rest : List Char) :
    Prop where
  /-- The search for the name at the end of an item finds the whole name. -/
  trailing : trailingQuoted? (quotedItem expression quoting content) = some (quoting.quote content)
  /-- The other scans see every character of the name as quoted, and end outside of quotes. -/
  covered : Covered nameQuotes none (quoting.quote content)
  /-- The list ends behind the name. -/
  list : selectList? (quotedItem expression quoting content ++ " from ".toList ++ rest) =
    some (quotedItem expression quoting content ++ [' '])
  /-- The list is not cut in the name. -/
  one_piece : splitTopLevel nameQuotes (quotedItem expression quoting content ++ [' ']) =
    [quotedItem expression quoting content ++ [' ']]
  /-- The name is that of the column. -/
  name : outputNames? (quotedItem expression quoting content ++ " from ".toList ++ rest) =
    some (String.ofList (quoting.quote content))

/-- A name whose brackets are not doubled is one that a column may have. -/
theorem exists_name {quoting : Quoting} {content : List Char}
    (h : quoting = .brackets → ']' ∉ content) :
    ∃ name : Name, name.text = quoting.quote content ∧ ¬name.IsFrom := by
  cases quoting with
  | double => exact ⟨.quoted '"' (.inl rfl) content, rfl, id⟩
  | backtick => exact ⟨.quoted '\x60' (.inr rfl) content, rfl, id⟩
  | brackets =>
    refine ⟨.bracketed content (h rfl), ?_, id⟩
    rw [Name.text, Quoting.quote, Quoting.closing, doubled_of_not_mem (h rfl)]
    rfl

/-- **All scans of a query agree on a quoted name exactly unless a bracket is doubled in it.** -/
theorem readAsOne_iff (expression : Expression) (quoting : Quoting) (content rest : List Char) :
    trailingQuoted? (quotedItem expression quoting content) = some (quoting.quote content) ∧
      (ReadAsOne expression quoting content rest ↔ (quoting = .brackets → ']' ∉ content)) := by
  have htrailing := trailingQuoted?_quote (Item.leaves_front expression true) quoting content
  refine ⟨htrailing, fun h => covered_quote_iff.1 h.covered, fun hcontent => ?_⟩
  obtain ⟨name, hname, hfrom⟩ := exists_name hcontent
  let item : Item := .named expression true name
  have htext : quotedItem expression quoting content = item.text := by
    rw [quotedItem, ← hname]
    rfl
  have hwhole : Item.Whole item.text ' ' := Item.whole (by decide) fun h => absurd h hfrom
  have hlisted : listed [item.text] = item.text := listed_singleton item.text
  have hcomma : ∀ s ∈ [item.text], Item.Whole s ',' := by
    intro s hs
    obtain rfl := List.mem_singleton.1 hs
    exact item.whole_comma
  have hlast : ∀ s, [item.text].getLast? = some s → Item.Whole s ' ' := by
    intro s hs
    obtain rfl := Option.some.inj hs
    exact hwhole
  refine ⟨htrailing, covered_quote_iff.2 hcontent, ?_, ?_, ?_⟩
  · have hlist := selectList?_listed (List.cons_ne_nil item.text []) hcomma hlast rest
    rwa [hlisted, ← htext] at hlist
  · rw [htext]
    exact splitTopLevel_append hwhole.level hwhole.one_piece rfl
  · -- No star ends a quoted name, and the `as` before it is no operator.
    have hnames := outputNames?_listed (List.cons_ne_nil item.text []) hcomma hlast rest
    have hsingle : item.isAll = false := rfl
    have hitem : item.name = name.text := by
      simp [item, Item.name]
    rw [hlisted, List.any_cons, List.any_nil, Bool.or_false, item.isWildcard_trim, hsingle,
      if_neg Bool.false_ne_true, List.map_singleton, Item.outputName_trim, hitem, hname,
      ← htext] at hnames
    exact hnames

/-- A doubled bracket tears a name, also in a page: the list ends at the `from` behind it. -/
theorem not_readAsOne_bracket :
    (∃ expression : Expression, expression.text = "x".toList ∧
      quotedItem expression .brackets "a] from b".toList = "x as [a]] from b]".toList ∧
      ¬Covered nameQuotes none (Quoting.quote .brackets "a] from b".toList) ∧
      selectList? (quotedItem expression .brackets "a] from b".toList ++ " from t".toList) =
        some "x as [a]] ".toList ∧
      outputNames? (quotedItem expression .brackets "a] from b".toList ++ " from t".toList) =
        some "[a]]" ∧
      "[a]]" ≠ String.ofList (Quoting.quote .brackets "a] from b".toList)) ∧
    Dialect.paginate .sqlServer2005 2 10 "select x as [a]] from b] from t" =
      .ok (Template.rowNumberPage ⟨"x as [a]] from b] from t", false, "[a]]", 10, 10⟩) := by
  constructor
  · refine ⟨⟨"x".toList, by decide⟩, rfl, by decide, ?_, by decide, by decide, by decide⟩
    rw [covered_quote_iff]
    decide
  · have hpage : Dialect.PageOf 2 10 "select x as [a]] from b] from t"
        ⟨"x as [a]] from b] from t", false, "[a]]", 10, 10⟩ :=
      ⟨⟨_, rfl, by decide⟩, by decide, rfl, by rfl⟩
    exact hpage.paginate_eq (.inl rfl) (by decide) (by decide) (by decide) (by decide)

end PolySql.SelectList
