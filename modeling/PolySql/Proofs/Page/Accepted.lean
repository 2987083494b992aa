import PolySql.Page

/-!
# Accepted pages

* `Describes` — the values of a query for a template.
* `Template.cases_of_topTemplate?`, `Template.cases_of_pageTemplate?` — the templates that the
  dialects have.
* `templateFor_eq_ok_iff` — which template a page has.
* `fillQuery_eq_ok_iff`, `paginate_eq_ok_iff`, `topLimit_eq_ok_iff` — a page, or the first rows, are
  returned exactly if nothing on the way to them fails, and then it is their template, filled with
  the values of the query.
-/

namespace PolySql

open Text

/-- The values are those of the query `select body`. A `distinct` and the names of the columns are
looked for only where the template has a place for them. -/
structure Describes (template : String) (body : List Char) (values : PageValues) : Prop where
  query : (values.body.toList, values.distinct) =
    if contains template "($DISTINCT)" then splitDistinct body else (body, false)
  names : if contains template "$FIELDS_OR_ALIAS" then
      SelectList.outputNames? values.body.toList = some values.fields
    else values.fields = ""

theorem fillQuery_eq_ok_iff {template result : String} {body : List Char}
    {pageSize skipRows : UInt64} :
    fillQuery template body pageSize skipRows = .ok result ↔ ∃ values : PageValues,
      Describes template body values ∧ values.pageSize = pageSize ∧ values.skipRows = skipRows ∧
        result = Template.fill template values := by
  unfold fillQuery
  generalize hsplit : (if contains template "($DISTINCT)" = true then splitDistinct body
    else (body, false)) = split
  obtain ⟨query, distinct⟩ := split
  have hdescribes : ∀ values : PageValues, Describes template body values ↔
      values.body = String.ofList query ∧ values.distinct = distinct ∧
        if contains template "$FIELDS_OR_ALIAS" then
          SelectList.outputNames? query = some values.fields
        else values.fields = "" := by
    intro values
    constructor
    · rintro ⟨hquery, hnames⟩
      rw [hsplit] at hquery
      obtain ⟨hbody, hdistinct⟩ := Prod.mk.inj hquery
      rw [hbody] at hnames
      exact ⟨by rw [← hbody, String.ofList_toList], hdistinct, hnames⟩
    · rintro ⟨hbody, hdistinct, hnames⟩
      have hquery : values.body.toList = query := by rw [hbody, String.toList_ofList]
      exact ⟨by rw [hsplit, hquery, hdistinct], by rwa [hquery]⟩
  have hok : ∀ fields : String,
      (Except.ok (Template.fill template
        ⟨String.ofList query, distinct, fields, pageSize, skipRows⟩) : Except Error String) =
          .ok result ↔ ∃ values : PageValues,
            (values.body = String.ofList query ∧ values.distinct = distinct ∧
              values.fields = fields) ∧ values.pageSize = pageSize ∧ values.skipRows = skipRows ∧
                result = Template.fill template values := by
    intro fields
    constructor
    · intro h
      exact ⟨_, ⟨rfl, rfl, rfl⟩, rfl, rfl, (Except.ok.inj h).symm⟩
    · rintro ⟨⟨_, _, _, _, _⟩, ⟨rfl, rfl, rfl⟩, rfl, rfl, rfl⟩
      rfl
  simp only [hdescribes]
  by_cases hfields : contains template "$FIELDS_OR_ALIAS" = true
  · simp only [if_pos hfields]
    cases hnames : SelectList.outputNames? query with
    | none => simp [orError, Except.map]
    | some fields =>
      simp only [orError, Except.map, Option.some.injEq]
      rw [hok fields]
      simp only [eq_comm (a := fields)]
  · simp only [if_neg hfields]
    exact hok ""

namespace Template

/-- The templates for the first rows. -/
theorem cases_of_topTemplate? {dialect : Dialect} {template : String}
    (h : dialect.topTemplate? = some template) :
    template = topFetchFirst ∨ template = topLimit ∨ template = topOffsetZero ∨
      template = topRows ∨ template = topParenthesized ∨ template = topDistinct ∨
        template = topFirst ∨ template = topPlain ∨ template = topRownum := by
  cases dialect <;> cases h <;> simp

/-- The templates for any page. Two of them belong to a few dialects only. -/
theorem cases_of_pageTemplate? {dialect : Dialect} {template : String}
    (h : dialect.pageTemplate? = some template) :
    template = limitOffset ∨ template = limitSkip ∨ template = offsetFetchNext ∨
      template = offsetFetchFirst ∨ template = firstSkip ∨ template = skipFirst ∨
        template = limitLeading ∨ template = rownum ∨ template = rownumOutside ∨
          template = orderedRowNumber ∨ (template = rowsTo ∧ dialect = .interbase) ∨
            (template = rowNumber ∧ (dialect = .sqlServer2005 ∨ dialect = .sqlServer2008)) := by
  cases dialect <;> cases h <;> simp

end Template

namespace Dialect

/-- The end of a page is the end of its rows behind those that are skipped. -/
theorem toNat_pred_mul_add {page : UInt64} (hpage : 1 ≤ page) (size : UInt64) :
    (page.toNat - 1) * size.toNat + size.toNat = page.toNat * size.toNat := by
  have hone : 1 ≤ page.toNat := hpage
  rw [← Nat.succ_mul, Nat.succ_eq_add_one, Nat.sub_add_cancel hone]

/-- The first page has a template of its own where the dialect has one; every other page has the
template of any page. -/
theorem templateFor_eq_ok_iff {dialect : Dialect} {page : UInt64} {template : String} :
    dialect.templateFor page = .ok template ↔
      (page = 1 ∧ dialect.topTemplate? = some template) ∨
        (¬(page = 1 ∧ dialect.topTemplate?.isSome) ∧ dialect.pageTemplate? = some template) := by
  unfold templateFor
  cases dialect.topTemplate? <;> cases dialect.pageTemplate? <;> by_cases hpage : page = 1 <;>
    simp [hpage, orError]

/-- **A page is returned exactly if nothing on the way to it fails**; it is a filled template. -/
theorem paginate_eq_ok_iff {dialect : Dialect} {page size : UInt64} {sql result : String} :
    dialect.paginate page size sql = .ok result ↔ ∃ body template values,
      afterSelect sql = .ok body ∧ (page ≠ 0 ∧ size ≠ 0) ∧
        dialect.templateFor page = .ok template ∧ skipRows page size = .ok values.skipRows ∧
          Describes template body values ∧ values.pageSize = size ∧
            result = Template.fill template values := by
  have hsteps : dialect.paginate page size sql = .ok result ↔ ∃ body template skip,
      afterSelect sql = .ok body ∧ (page ≠ 0 ∧ size ≠ 0) ∧
        dialect.templateFor page = .ok template ∧ skipRows page size = .ok skip ∧
          fillQuery template body size skip = .ok result := by
    unfold paginate
    cases afterSelect sql with
    | error e => simp [bind, Except.bind]
    | ok body =>
      by_cases hzero : page = 0 ∨ size = 0
      · have hpage : ¬(page ≠ 0 ∧ size ≠ 0) := fun h => hzero.elim h.1 h.2
        simp [bind, Except.bind, hzero, hpage]
      · have hpage : page ≠ 0 ∧ size ≠ 0 := not_or.1 hzero
        simp only [bind, Except.bind, if_neg hzero]
        cases dialect.templateFor page with
        | error e => simp
        | ok template =>
          cases skipRows page size with
          | error e => simp
          | ok skip => simp [hpage]
  rw [hsteps]
  constructor
  · rintro ⟨body, template, skip, hbody, hpage, htemplate, hskip, hfill⟩
    obtain ⟨values, hvalues, hsize, rfl, hresult⟩ := fillQuery_eq_ok_iff.1 hfill
    exact ⟨body, template, values, hbody, hpage, htemplate, hskip, hvalues, hsize, hresult⟩
  · rintro ⟨body, template, values, hbody, hpage, htemplate, hskip, hvalues, hsize, hresult⟩
    exact ⟨body, template, values.skipRows, hbody, hpage, htemplate, hskip,
      fillQuery_eq_ok_iff.2 ⟨values, hvalues, hsize, rfl, hresult⟩⟩

/-- **The first rows are returned exactly if nothing on the way to them fails.** -/
theorem topLimit_eq_ok_iff {dialect : Dialect} {limit : UInt64} {sql result : String} :
    dialect.topLimit limit sql = .ok result ↔ ∃ body template values,
      afterSelect sql = .ok body ∧ limit ≠ 0 ∧ dialect.topTemplate? = some template ∧
        values.skipRows = 0 ∧ Describes template body values ∧ values.pageSize = limit ∧
          result = Template.fill template values := by
  have hsteps : dialect.topLimit limit sql = .ok result ↔ ∃ body template,
      afterSelect sql = .ok body ∧ limit ≠ 0 ∧ dialect.topTemplate? = some template ∧
        fillQuery template body limit 0 = .ok result := by
    unfold topLimit
    cases afterSelect sql with
    | error e => simp [bind, Except.bind]
    | ok body =>
      by_cases hlimit : limit = 0
      · simp [bind, Except.bind, hlimit]
      · simp only [bind, Except.bind, if_neg hlimit]
        cases dialect.topTemplate? with
        | none => simp [orError]
        | some template => simp [orError, hlimit]
  rw [hsteps]
  constructor
  · rintro ⟨body, template, hbody, hlimit, htemplate, hfill⟩
    obtain ⟨values, hvalues, hsize, hskip, hresult⟩ := fillQuery_eq_ok_iff.1 hfill
    exact ⟨body, template, values, hbody, hlimit, htemplate, hskip, hvalues, hsize, hresult⟩
  · rintro ⟨body, template, values, hbody, hlimit, htemplate, hskip, hvalues, hsize, hresult⟩
    exact ⟨body, template, hbody, hlimit, htemplate,
      fillQuery_eq_ok_iff.2 ⟨values, hvalues, hsize, hskip, hresult⟩⟩

end Dialect

end PolySql
