import PolySql.Proofs.Page.ListEnd
import PolySql.Proofs.Page.Request

/-!
# How a page of a query comes out

Several things may be wrong with a page at once. They are looked at in a fixed order: the text of
the query first, then the numbers that the caller gives, then what the dialect can do, then whether
the rows can be counted, and last the names of the columns.

* `checkedMul?`, `checkedAdd?` — words of 64 bits; `skipRows_eq_checked` — the rows before a page
  are counted in them.
* `templateFor_eq_error_iff`, `skipRows_eq_error_iff`, `fillQuery_eq_error_iff` — each step fails
  for the reasons given.
* `PageOutcome` — how a page comes out: each error under the conditions that none of those before it
  has, and the query where there is none.

Principal results: `paginate_outcome` — a page comes out in the way described, and in no other — and
`topLimit_eq_paginate` — the first rows are the first page.
-/

namespace PolySql

open Text

/-! ## Words of 64 bits -/

/-- The product of two words, where it is a word. -/
def checkedMul? (a b : UInt64) : Option UInt64 :=
  if a.toNat * b.toNat < UInt64.size then some (a * b) else none

/-- The sum of two words, where it is a word. -/
def checkedAdd? (a b : UInt64) : Option UInt64 :=
  if a.toNat + b.toNat < UInt64.size then some (a + b) else none

theorem lt_size_iff {n : Nat} : n < UInt64.size ↔ n ≤ PageValues.maxRow := by
  unfold PageValues.maxRow UInt64.size
  omega

theorem checkedAdd?_isSome_iff {a b : UInt64} :
    (checkedAdd? a b).isSome = true ↔ a.toNat + b.toNat ≤ PageValues.maxRow := by
  unfold checkedAdd?
  rw [← lt_size_iff]
  split <;> simp [*]

namespace Dialect

variable {dialect : Dialect} {page size : UInt64} {sql : String} {e : Error}

/-- The number before that of a page is counted down from it. -/
theorem toNat_pred (hpage : page ≠ 0) : (page - 1).toNat + 1 = page.toNat := by
  have hone : 1 ≤ page := UInt64.pos_iff_ne_zero.2 hpage
  have hle : 1 ≤ page.toNat := hone
  rw [UInt64.toNat_sub_of_le _ _ hone]
  exact Nat.sub_add_cancel hle

/-- **The rows before a page are counted in words**, whose product and sum are checked. -/
theorem skipRows_eq_checked (hpage : page ≠ 0) :
    skipRows page size = orError (.invalidPage page size)
      ((checkedMul? (page - 1) size).filter fun skip => (checkedAdd? skip size).isSome) := by
  have hpred : page.toNat - 1 = (page - 1).toNat := by
    rw [← toNat_pred hpage, Nat.add_sub_cancel]
  unfold skipRows checkedMul?
  rw [hpred]
  dsimp only
  by_cases hmul : (page - 1).toNat * size.toNat < UInt64.size
  · have hexact : ((page - 1) * size).toNat = (page - 1).toNat * size.toNat := by
      rw [UInt64.toNat_mul]
      exact Nat.mod_eq_of_lt hmul
    rw [if_pos hmul, Option.filter_some]
    by_cases hadd : (page - 1).toNat * size.toNat + size.toNat ≤ PageValues.maxRow
    · rw [if_pos hadd, if_pos (checkedAdd?_isSome_iff.2 (by rwa [hexact])), ← hexact,
        UInt64.ofNat_toNat]
      rfl
    · rw [if_neg hadd, if_neg fun h => hadd (by rw [← hexact]; exact checkedAdd?_isSome_iff.1 h)]
      rfl
  · have hadd : ¬(page - 1).toNat * size.toNat + size.toNat ≤ PageValues.maxRow := by
      rw [lt_size_iff] at hmul
      omega
    rw [if_neg hmul, if_neg hadd]
    rfl

/-! ## Each step fails for the reasons given -/

theorem afterSelect_eq_error_iff :
    afterSelect sql = .error e ↔ (¬∃ body, Selects sql body) ∧ e = .notSelect sql := by
  simp only [← afterSelect_eq_ok_iff, afterSelect]
  cases (afterKeyword? "select".toList (trim sql.toList)).filter fun body => !body.isEmpty <;>
    simp [orError, eq_comm]

theorem templateFor_eq_error_iff (hpage : page ≠ 0) :
    dialect.templateFor page = .error e ↔
      (dialect.topTemplate? = none ∧ dialect.pageTemplate? = none ∧
        e = .pagingUnsupported dialect) ∨
      ∃ top, 1 < page ∧ dialect.topTemplate? = some top ∧ dialect.pageTemplate? = none ∧
        e = .topOnly dialect top := by
  have hlater : 1 < page ↔ page ≠ 1 := by
    rw [UInt64.lt_iff_toNat_lt, Ne, ← UInt64.toNat_inj]
    have hpred := toNat_pred hpage
    have hone : (1 : UInt64).toNat = 1 := rfl
    omega
  rw [templateFor, hlater]
  cases dialect.topTemplate? <;> cases dialect.pageTemplate? <;> by_cases hone : page = 1 <;>
    simp [hone, orError, eq_comm]

theorem skipRows_eq_error_iff (hpage : page ≠ 0) :
    skipRows page size = .error e ↔
      PageValues.maxRow < page.toNat * size.toNat ∧ e = .invalidPage page size := by
  have hend := toNat_pred_mul_add (UInt64.pos_iff_ne_zero.2 hpage) size
  unfold skipRows
  dsimp only
  rw [hend]
  split
  · rename_i hfits
    exact iff_of_false (by simp) fun h => absurd hfits (Nat.not_le.2 h.1)
  · rename_i hbeyond
    simp [Nat.lt_of_not_le hbeyond, eq_comm]

/-- The rows before a page are counted exactly where its last row has a number. -/
theorem skipRows_eq_ok_iff (hpage : page ≠ 0) {skip : UInt64} :
    skipRows page size = .ok skip ↔ page.toNat * size.toNat ≤ PageValues.maxRow ∧
      skip.toNat = (page.toNat - 1) * size.toNat := by
  have hend := toNat_pred_mul_add (UInt64.pos_iff_ne_zero.2 hpage) size
  constructor
  · intro h
    obtain ⟨hcount, hfits⟩ := toNat_of_skipRows h
    rw [hcount, hend] at hfits
    exact ⟨hfits, hcount⟩
  · rintro ⟨hfits, hcount⟩
    unfold skipRows
    dsimp only
    rw [hend, if_pos hfits, ← hcount, UInt64.ofNat_toNat]

end Dialect

/-- Whether a list ends is told before a leading `distinct` as it is behind it. -/
theorem selectList?_eq_none_iff {hasPlace : Bool} {body text : List Char} {moved : Bool}
    (h : (text, moved) = if hasPlace then splitDistinct body else (body, false)) :
    SelectList.selectList? text = none ↔ SelectList.selectList? body = none := by
  have htaken := (taken_iff hasPlace).1 h
  cases moved with
  | true =>
    obtain ⟨front, -, hlist⟩ := SelectList.selectList?_distinct htaken.2
    rw [hlist, Option.map_eq_none_iff]
  | false => rw [htaken.1]

theorem fillQuery_eq_error_iff {template : String} {body text : List Char} {moved : Bool}
    (h : (text, moved) =
      if contains template "($DISTINCT)" then splitDistinct body else (body, false))
    {size skip : UInt64} {e : Error} :
    fillQuery template body size skip = .error e ↔
      contains template "$FIELDS_OR_ALIAS" = true ∧ SelectList.selectList? body = none ∧
        e = .noFromClause (String.ofList text) := by
  unfold fillQuery
  rw [← h, ← selectList?_eq_none_iff h]
  dsimp only
  by_cases hfields : contains template "$FIELDS_OR_ALIAS" = true
  · rw [if_pos hfields, SelectList.outputNames?]
    cases SelectList.selectList? text with
    | none => simp [hfields, orError, Except.map, eq_comm (a := e)]
    | some list => simp [orError, Except.map]
  · simp [hfields, Except.map]

/-! ## The outcome -/

/-- How the query for a page comes out. -/
inductive PageOutcome (dialect : Dialect) (page size : UInt64) (sql : String) :
    Except Error String → Prop
  /-- The query is not `select`, blanks and a body. -/
  | notSelect (other : ¬∃ body, Selects sql body) :
      PageOutcome dialect page size sql (.error (.notSelect sql))
  /-- Otherwise the page has no number or no rows. -/
  | noRows {body : List Char} (selects : Selects sql body) (zero : page = 0 ∨ size = 0) :
      PageOutcome dialect page size sql (.error (.invalidPage page size))
  /-- Otherwise the dialect has no template at all. -/
  | unsupported {body : List Char} (selects : Selects sql body) (rows : page ≠ 0 ∧ size ≠ 0)
      (top : dialect.topTemplate? = none) (paged : dialect.pageTemplate? = none) :
      PageOutcome dialect page size sql (.error (.pagingUnsupported dialect))
  /-- Otherwise the page is not the first, and the dialect has a template for the first only. -/
  | topOnly {body : List Char} {template : String} (selects : Selects sql body)
      (rows : page ≠ 0 ∧ size ≠ 0) (later : 1 < page) (top : dialect.topTemplate? = some template)
      (paged : dialect.pageTemplate? = none) :
      PageOutcome dialect page size sql (.error (.topOnly dialect template))
  /-- Otherwise the page has a template, and its last row has no number. -/
  | beyond {body : List Char} {template : String} (selects : Selects sql body)
      (rows : page ≠ 0 ∧ size ≠ 0) (selected : dialect.templateFor page = .ok template)
      (beyond : PageValues.maxRow < page.toNat * size.toNat) :
      PageOutcome dialect page size sql (.error (.invalidPage page size))
  /-- Otherwise the template asks for the names of the columns, and no list of them ends. -/
  | noFrom {body text : List Char} {template : String} {moved : Bool} (selects : Selects sql body)
      (rows : page ≠ 0 ∧ size ≠ 0) (selected : dialect.templateFor page = .ok template)
      (fits : page.toNat * size.toNat ≤ PageValues.maxRow)
      (names : contains template "$FIELDS_OR_ALIAS" = true)
      (missing : SelectList.selectList? body = none) (takes : Takes template sql text moved) :
      PageOutcome dialect page size sql (.error (.noFromClause (String.ofList text)))
  /-- Otherwise the page is the template, filled in for the query with exact counts. -/
  | granted {body : List Char} {template : String} {values : PageValues}
      (selects : Selects sql body) (rows : page ≠ 0 ∧ size ≠ 0)
      (selected : dialect.templateFor page = .ok template)
      (fits : page.toNat * size.toNat ≤ PageValues.maxRow)
      (describes : Describes template body values) (pageSize : values.pageSize = size)
      (skipRows : values.skipRows.toNat = (page.toNat - 1) * size.toNat)
      (totalRows : values.totalRows = page.toNat * size.toNat) :
      PageOutcome dialect page size sql (.ok (Template.fill template values))

namespace Dialect

variable {dialect : Dialect} {page size : UInt64} {sql : String} {result : Except Error String}

/-- The steps that are left where the query and the numbers of the caller are in order. -/
theorem paginate_of_selects {body : List Char} (hselects : Selects sql body)
    (hrows : page ≠ 0 ∧ size ≠ 0) :
    dialect.paginate page size sql =
      (dialect.templateFor page).bind fun template =>
        (skipRows page size).bind fun skip => fillQuery template body size skip := by
  have hzero : ¬(page = 0 ∨ size = 0) := not_or.2 hrows
  unfold paginate
  rw [afterSelect_eq_ok_iff.2 hselects]
  simp only [bind, Except.bind, if_neg hzero]

/-- The text that goes into a template is the one that a filled query takes. -/
theorem taken_of_takes {template : String} {body text : List Char} {moved : Bool}
    (hselects : Selects sql body) (h : Takes template sql text moved) : (text, moved) =
      if contains template "($DISTINCT)" then splitDistinct body else (body, false) := by
  obtain ⟨body', hbody', htaken⟩ := h
  have hsame : body' = body := Except.ok.inj
    ((afterSelect_eq_ok_iff.2 hbody').symm.trans (afterSelect_eq_ok_iff.2 hselects))
  subst hsame
  exact (taken_iff _).2 htaken

/-! ## The outcome is what is returned -/

theorem paginate_of_outcome (h : PageOutcome dialect page size sql result) :
    dialect.paginate page size sql = result := by
  cases h with
  | notSelect hother =>
    rw [paginate, afterSelect_eq_error_iff.2 ⟨hother, rfl⟩]
    rfl
  | noRows hselects hzero =>
    rw [paginate, afterSelect_eq_ok_iff.2 hselects]
    simp only [bind, Except.bind, if_pos hzero]
  | unsupported hselects hrows htop hpaged =>
    rw [paginate_of_selects hselects hrows,
      (templateFor_eq_error_iff hrows.1).2 (.inl ⟨htop, hpaged, rfl⟩)]
    rfl
  | topOnly hselects hrows hlater htop hpaged =>
    rw [paginate_of_selects hselects hrows,
      (templateFor_eq_error_iff hrows.1).2 (.inr ⟨_, hlater, htop, hpaged, rfl⟩)]
    rfl
  | beyond hselects hrows hselected hbeyond =>
    rw [paginate_of_selects hselects hrows, hselected,
      (skipRows_eq_error_iff hrows.1).2 ⟨hbeyond, rfl⟩]
    rfl
  | noFrom hselects hrows hselected hfits hnames hmissing htakes =>
    cases hskip : skipRows page size with
    | error e => exact absurd hfits (Nat.not_le.2 ((skipRows_eq_error_iff hrows.1).1 hskip).1)
    | ok skip =>
      rw [paginate_of_selects hselects hrows, hselected, hskip]
      exact (fillQuery_eq_error_iff (taken_of_takes hselects htakes)).2 ⟨hnames, hmissing, rfl⟩
  | granted hselects hrows hselected hfits hdescribes hsize hskip _ =>
    rw [paginate_of_selects hselects hrows, hselected,
      (skipRows_eq_ok_iff hrows.1).2 ⟨hfits, hskip⟩]
    exact fillQuery_eq_ok_iff.2 ⟨_, hdescribes, hsize, rfl, rfl⟩

/-- Every page comes out in some way. -/
theorem exists_pageOutcome (dialect : Dialect) (page size : UInt64) (sql : String) :
    ∃ result, PageOutcome dialect page size sql result := by
  cases hselect : afterSelect sql with
  | error e => exact ⟨_, .notSelect (afterSelect_eq_error_iff.1 hselect).1⟩
  | ok body =>
    have hselects := afterSelect_eq_ok_iff.1 hselect
    by_cases hzero : page = 0 ∨ size = 0
    · exact ⟨_, .noRows hselects hzero⟩
    have hrows : page ≠ 0 ∧ size ≠ 0 := not_or.1 hzero
    cases htemplate : dialect.templateFor page with
    | error e =>
      rcases (templateFor_eq_error_iff hrows.1).1 htemplate with
        ⟨htop, hpaged, -⟩ | ⟨top, hlater, htop, hpaged, -⟩
      · exact ⟨_, .unsupported hselects hrows htop hpaged⟩
      · exact ⟨_, .topOnly hselects hrows hlater htop hpaged⟩
    | ok template =>
      cases hskip : skipRows page size with
      | error e =>
        exact ⟨_, .beyond hselects hrows htemplate ((skipRows_eq_error_iff hrows.1).1 hskip).1⟩
      | ok skip =>
        obtain ⟨hfits, hcount⟩ := (skipRows_eq_ok_iff hrows.1).1 hskip
        cases hfill : fillQuery template body size skip with
        | error e =>
          obtain ⟨⟨text, moved⟩, htaken⟩ : ∃ taken, taken =
              if contains template "($DISTINCT)" then splitDistinct body else (body, false) :=
            ⟨_, rfl⟩
          obtain ⟨hnames, hmissing, -⟩ := (fillQuery_eq_error_iff htaken).1 hfill
          exact ⟨_, .noFrom hselects hrows htemplate hfits hnames hmissing
            ⟨body, hselects, (taken_iff _).1 htaken⟩⟩
        | ok text =>
          obtain ⟨values, hdescribes, hsize, rfl, -⟩ := fillQuery_eq_ok_iff.1 hfill
          have hend := toNat_pred_mul_add (UInt64.pos_iff_ne_zero.2 hrows.1) size
          have htotal : values.totalRows = page.toNat * size.toNat := by
            rw [← hend, ← hcount, ← hsize]
            exact PageValues.totalRows_eq (by rw [hsize, hcount, hend]; exact hfits)
          exact ⟨_, .granted hselects hrows htemplate hfits hdescribes hsize hcount htotal⟩

/-- **A page comes out as described, and in no other way**: the first thing that is wrong with it
decides, and only where nothing is wrong is there a query. No count is wrong on the way: the number
before that of the page is there, and a product or a sum of words is taken only where it is a
word. -/
theorem paginate_outcome :
    (dialect.paginate page size sql = result ↔ PageOutcome dialect page size sql result) ∧
      (page ≠ 0 → (page - 1).toNat + 1 = page.toNat ∧
        skipRows page size = orError (.invalidPage page size)
          ((checkedMul? (page - 1) size).filter fun skip => (checkedAdd? skip size).isSome)) := by
  refine ⟨⟨fun h => ?_, paginate_of_outcome⟩, fun hpage =>
    ⟨toNat_pred hpage, skipRows_eq_checked hpage⟩⟩
  obtain ⟨described, hdescribed⟩ := exists_pageOutcome dialect page size sql
  rw [← h, paginate_of_outcome hdescribed]
  exact hdescribed

/-! ## The first rows -/

/-- A dialect that can return any page has a template for the first rows. -/
theorem pageTemplate?_eq_none (h : dialect.topTemplate? = none) : dialect.pageTemplate? = none := by
  cases dialect <;> first | rfl | cases h

/-- **The first rows are the first page**, with the same query and with the same errors. -/
theorem topLimit_eq_paginate (dialect : Dialect) (limit : UInt64) (sql : String) :
    dialect.topLimit limit sql = dialect.paginate 1 limit sql := by
  have htemplate : dialect.templateFor 1 =
      orError (.pagingUnsupported dialect) dialect.topTemplate? := by
    unfold templateFor
    cases htop : dialect.topTemplate? with
    | none => rw [pageTemplate?_eq_none htop]; rfl
    | some top => rfl
  have hskip : skipRows 1 limit = .ok 0 := by
    refine (skipRows_eq_ok_iff (by decide)).2 ⟨?_, ?_⟩
    · have hlt := limit.toNat_lt_size
      have hone : (1 : UInt64).toNat = 1 := rfl
      rw [hone, Nat.one_mul]
      exact lt_size_iff.1 hlt
    · exact (Nat.zero_mul _).symm
  unfold topLimit paginate
  rw [htemplate, hskip]
  cases afterSelect sql with
  | error e => rfl
  | ok body =>
    by_cases hlimit : limit = 0
    · simp [bind, Except.bind, hlimit]
    · have hone : ¬((1 : UInt64) = 0 ∨ limit = 0) := not_or.2 ⟨by decide, hlimit⟩
      simp only [bind, Except.bind, if_neg hlimit, if_neg hone]

end Dialect

end PolySql
