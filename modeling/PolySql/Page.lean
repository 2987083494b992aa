import PolySql.Error
import PolySql.Lookup
import PolySql.Page.SelectList
import PolySql.Page.Template

/-!
# Pages of a query

* `afterSelect` — what follows the `select` of a query.
* `fillQuery` — a template filled in for a query.
* `Dialect.paginate` — the query for one page.
* `Dialect.topLimit` — the query for the first rows.
-/

namespace PolySql

open Text

/-- What follows a keyword, written in lower case, and the blanks after it. -/
def afterKeyword? (keyword s : List Char) : Option (List Char) :=
  if startsIgnoringCase keyword s then
    match s.drop keyword.length with
    | c :: r => if isBlank c then some (trimStart r) else none
    | [] => none
  else none

/-- What follows the `select` of a query; it cannot be nothing. -/
def afterSelect (sql : String) : Except Error (List Char) :=
  orError (.notSelect sql) <|
    (afterKeyword? "select".toList (trim sql.toList)).filter fun body => !body.isEmpty

/-- The query without a leading `distinct`, and whether there was one. -/
def splitDistinct (body : List Char) : List Char × Bool :=
  match afterKeyword? "distinct".toList body with
  | some rest => (rest, true)
  | none => (body, false)

/-- A template filled in for a query. A leading `distinct` is moved only by a template that has a
place for it, and the names of the columns are looked for only by one that needs them. -/
def fillQuery (template : String) (body : List Char) (pageSize skipRows : UInt64) :
    Except Error String :=
  let (body, distinct) :=
    if contains template "($DISTINCT)" then splitDistinct body else (body, false)
  let text := String.ofList body
  let fields :=
    if contains template "$FIELDS_OR_ALIAS" then
      orError (.noFromClause text) (SelectList.outputNames? body)
    else .ok ""
  fields.map fun fields => Template.fill template ⟨text, distinct, fields, pageSize, skipRows⟩

namespace Dialect

/-- Whether the dialect can return any page, not only the first. -/
def supportsPages (dialect : Dialect) : Bool := dialect.pageTemplate?.isSome

/-- The template for a page. The first page is limited rather than cut out where that can be. -/
def templateFor (dialect : Dialect) (page : UInt64) : Except Error String :=
  match dialect.topTemplate?, dialect.pageTemplate? with
  | none, none => .error (.pagingUnsupported dialect)
  | some top, paged =>
    if page = 1 then .ok top else orError (.topOnly dialect top) paged
  | none, some paged => .ok paged

/-- The rows before a page, if all rows up to its end can be numbered. -/
def skipRows (page size : UInt64) : Except Error UInt64 :=
  let skip := (page.toNat - 1) * size.toNat
  if skip + size.toNat ≤ PageValues.maxRow then .ok (UInt64.ofNat skip)
  else .error (.invalidPage page size)

/-- The rows before an accepted page are counted exactly. -/
theorem toNat_of_skipRows {page size skip : UInt64} (h : skipRows page size = .ok skip) :
    skip.toNat = (page.toNat - 1) * size.toNat ∧
      skip.toNat + size.toNat ≤ PageValues.maxRow := by
  simp only [skipRows] at h
  split at h
  · next hle =>
    have hlt : (page.toNat - 1) * size.toNat < 18446744073709551616 := by
      simp only [PageValues.maxRow, UInt64.size] at hle
      omega
    obtain rfl := Except.ok.inj h
    rw [UInt64.toNat_ofNat_of_lt' (by simpa [UInt64.size] using hlt)]
    exact ⟨rfl, hle⟩
  · exact absurd h (by simp)

/-- The query for the page of some number, counted from one, with `size` rows a page. -/
def paginate (dialect : Dialect) (page size : UInt64) (sql : String) : Except Error String := do
  let body ← afterSelect sql
  if page = 0 ∨ size = 0 then .error (.invalidPage page size)
  let template ← dialect.templateFor page
  let skip ← skipRows page size
  fillQuery template body size skip

/-- The query for the first `limit` rows. -/
def topLimit (dialect : Dialect) (limit : UInt64) (sql : String) : Except Error String := do
  let body ← afterSelect sql
  if limit = 0 then .error (.invalidPage 1 0)
  let template ← orError (.pagingUnsupported dialect) dialect.topTemplate?
  fillQuery template body limit 0

end Dialect

end PolySql
