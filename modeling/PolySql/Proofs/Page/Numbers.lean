import PolySql.Proofs.Page.Direct

/-!
# The numbers on a page

The rows of a page are counted in words of 64 bits. A page whose rows do not fit is refused; the
number of the row behind the page is held at the largest word.

* `Placeholder.number?` — the number that a placeholder stands for.
* `Template.Exact` — every number in a template is that number.
* `toList_fill_numbers` — the numbers of a template are put in first, each of them once.

Principal result: `paginate_numbers` — the numbers on a page are exact, but for the row behind the
last page whose rows can be counted. `paginate_holds_number` is such a page.
-/

namespace PolySql

open Text Template

/-- The number that a placeholder stands for on a page. -/
def Placeholder.number? (page size : Nat) : Placeholder → Option Nat
  | .pageSize => some size
  | .skipRows => some ((page - 1) * size)
  | .totalRows => some (page * size)
  | .skipRowsNext => some ((page - 1) * size + 1)
  | .totalRowsNext => some (page * size + 1)
  | .fields | .distinctSpace | .distinct | .body => none

namespace Template

/-- Every number that is put into a template is the one that its placeholder stands for. -/
def Exact (template : String) (page size : Nat) (values : PageValues) : Prop :=
  ∀ p n, .hole p ∈ cut 0 template.toList → p.number? page size = some n →
    values.value p = toString n

/-! ## The numbers are put in first -/

theorem neat_rowNumber : neat (cut 0 rowNumber.toList) = true ∧
    .hole .totalRowsNext ∈ cut 0 rowNumber.toList := by
  rw [cut_rowNumber.1]
  decide +kernel

theorem neat_of_templateFor {dialect : Dialect} {page : UInt64} {template : String}
    (h : dialect.templateFor page = .ok template) : neat (cut 0 template.toList) = true := by
  have hdirect := direct_of_templateFor h
  split at hdirect
  · rw [hdirect]
    exact neat_rowNumber.1
  · exact hdirect.neat

/-- **The numbers of a template are put in first**, each of them once. -/
theorem toList_fill_numbers {template : String} (hneat : neat (cut 0 template.toList) = true)
    (values : PageValues) :
    (fill template values).toList = (Placeholder.all.drop 5).foldl (replaceOne values)
      (render (current values 5) (cut 0 template.toList)) := by
  have hrun := foldl_render_self values (k := 5) (by decide) hneat fun _ => by decide
  rw [render_zero] at hrun
  rw [toList_fill, ← hrun, ← List.foldl_append, List.take_append_drop]

end Template

/-! ## Exact numbers -/

namespace PageValues

theorem rowAfter_eq_iff {n : Nat} (h : n ≤ maxRow) : rowAfter n = n + 1 ↔ n ≠ maxRow := by
  unfold rowAfter
  omega

/-- Where the rows of a page can be counted, its numbers are exact, but for that of the row behind
it, which is exact unless there are no more numbers. -/
theorem value_eq_iff {page : UInt64} {values : PageValues} (hpage : 1 ≤ page)
    (hsize : 1 ≤ values.pageSize)
    (hskip : Dialect.skipRows page values.pageSize = .ok values.skipRows) {p : Placeholder}
    {n : Nat} (hp : p.number? page.toNat values.pageSize.toNat = some n) :
    values.value p = toString n ↔
      ¬(p = .totalRowsNext ∧ page.toNat * values.pageSize.toNat = maxRow) := by
  obtain ⟨hcount, hrows⟩ := Dialect.toNat_of_skipRows hskip
  have htotal : values.totalRows = page.toNat * values.pageSize.toNat := by
    rw [totalRows_eq hrows, hcount, Dialect.toNat_pred_mul_add hpage]
  cases p <;> simp only [Placeholder.number?, Option.some.injEq, reduceCtorEq] at hp <;> subst hp
  case totalRowsNext =>
    have hbound : values.totalRows ≤ maxRow := Nat.min_le_right _ _
    simpa [value, ← htotal] using Token.toString_inj.trans (rowAfter_eq_iff hbound)
  case skipRowsNext =>
    have hpositive : 1 ≤ values.pageSize.toNat := hsize
    have hbound : values.skipRows.toNat < maxRow := by omega
    simp [value, ← hcount, rowAfter_eq hbound]
  all_goals simp [value, htotal, hcount]

end PageValues

namespace Dialect

variable {dialect : Dialect} {page size : UInt64} {sql result : String}

/-- Only the template that numbers the rows names the row behind the page. -/
theorem last_iff {template : String} (h : dialect.templateFor page = .ok template) :
    .hole .totalRowsNext ∈ cut 0 template.toList ↔
      (dialect = .sqlServer2005 ∨ dialect = .sqlServer2008) ∧ page ≠ 1 := by
  have hdirect := direct_of_templateFor h
  split at hdirect
  · rename_i hnumbered
    rw [hdirect]
    exact iff_of_true neat_rowNumber.2 hnumbered
  · rename_i hnumbered
    exact iff_of_false hdirect.last hnumbered

/-- **The numbers on a page are exact**, up to the last page whose rows can be counted. They are put
into the template of the page first, each of them once. The one that may be held is that of the row
behind the page, where the page ends with the largest number that there is. -/
theorem paginate_numbers (h : dialect.paginate page size sql = .ok result) :
    ∃ body template values, afterSelect sql = .ok body ∧ dialect.templateFor page = .ok template ∧
      Describes template body values ∧
      result.toList = (Placeholder.all.drop 5).foldl (replaceOne values)
        (render (current values 5) (cut 0 template.toList)) ∧
      (∀ p n, p.number? page.toNat size.toNat = some n → p ≠ .totalRowsNext →
        values.value p = toString n) ∧
      (Exact template page.toNat size.toNat values ↔
        ¬(((dialect = .sqlServer2005 ∨ dialect = .sqlServer2008) ∧ page ≠ 1) ∧
          page.toNat * size.toNat = PageValues.maxRow)) := by
  obtain ⟨body, template, values, hbody, ⟨hpage, hsize⟩, htemplate, hskip, hdescribes, rfl, rfl⟩ :=
    paginate_eq_ok_iff.1 h
  have hpage : 1 ≤ page := UInt64.pos_iff_ne_zero.2 hpage
  have hsize : 1 ≤ values.pageSize := UInt64.pos_iff_ne_zero.2 hsize
  have hvalue := fun p n => @PageValues.value_eq_iff page values hpage hsize hskip p n
  refine ⟨body, template, values, hbody, htemplate, hdescribes,
    toList_fill_numbers (neat_of_templateFor htemplate) values,
    fun p n hp hother => (hvalue p n hp).2 fun hlast => hother hlast.1, ?_⟩
  rw [← last_iff htemplate]
  constructor
  · rintro hexact ⟨hlast, hmax⟩
    exact (hvalue _ _ rfl).1 (hexact .totalRowsNext _ hlast rfl) ⟨rfl, hmax⟩
  · intro hbelow p n hmem hp
    rw [hvalue p n hp]
    rintro ⟨rfl, hmax⟩
    exact hbelow ⟨hmem, hmax⟩

/-- The numbers of the second page of ten rows are exact. -/
theorem paginate_numbers_secondPage : ∃ result,
    Dialect.paginate .sqlServer2005 2 10 "select a from t" = .ok result ∧
      ∃ body template values, afterSelect "select a from t" = .ok body ∧
        Dialect.templateFor .sqlServer2005 2 = .ok template ∧ Describes template body values ∧
        result.toList = (Placeholder.all.drop 5).foldl (replaceOne values)
          (render (current values 5) (cut 0 template.toList)) ∧
        Exact template 2 10 values := by
  have hpage : PageOf 2 10 "select a from t" ⟨"a from t", false, "a", 10, 10⟩ :=
    ⟨⟨_, rfl, by decide⟩, by decide, rfl, by rfl⟩
  have hresult := (paginate_eq_fill_rowNumber_iff (.inl rfl) (by decide)).2
    ⟨by decide, _, hpage, rfl⟩
  obtain ⟨body, template, values, hbody, htemplate, hdescribes, htext, -, hexact⟩ :=
    paginate_numbers hresult
  exact ⟨_, hresult, body, template, values, hbody, htemplate, hdescribes, htext,
    hexact.2 fun hlast => absurd hlast.2 (by decide)⟩

/-- The one row of the last page has the largest number. The row behind it is given the same number,
and the page is empty. -/
theorem paginate_holds_number :
    Dialect.paginate .sqlServer2005 18446744073709551615 1 "select a from t" =
        .ok ("WITH query AS (SELECT TMP_.*, ROW_NUMBER() OVER (ORDER BY CURRENT_TIMESTAMP) " ++
          "as ROW_NUM_ FROM ( select TOP(18446744073709551615) a from t ) TMP_ ) " ++
          "SELECT a FROM query WHERE ROW_NUM_ >= 18446744073709551615 " ++
          "AND ROW_NUM_ < 18446744073709551615") ∧
      Placeholder.number? 18446744073709551615 1 .totalRowsNext = some 18446744073709551616 := by
  have hpage : PageOf 18446744073709551615 1 "select a from t"
      ⟨"a from t", false, "a", 1, 18446744073709551614⟩ :=
    ⟨⟨_, rfl, by decide⟩, by decide, rfl, by rfl⟩
  have hresult := (paginate_eq_fill_rowNumber_iff (.inl rfl) (by decide)).2
    ⟨by decide, _, hpage, rfl⟩
  have hbody := SelectList.exists_letter_of_outputNames? hpage.names
  have hfill := (fill_rowNumber_eq_iff hbody).2 ⟨by decide, by decide⟩
  refine ⟨hresult.trans (congrArg _ (hfill.trans ((fillOnce_rowNumber _).trans ?_))), rfl⟩
  decide +kernel

end Dialect

end PolySql
