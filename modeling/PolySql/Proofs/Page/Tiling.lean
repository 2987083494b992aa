import PolySql.Proofs.Page.Windows

/-!
# Pages tile the rows of a query

* `Dialect.Quotes` — a page holds the query, and is otherwise made of symbols of its own.
* `exists_skipRows` — the rows before a page whose rows can be numbered are counted.
* `templateFor_isPage_iff` — whether the template of a page asks for its rows.

Principal result: `paginate_rows` — the pages of every dialect but one lie one behind the other, the
first page, which has a template of its own, and the second included. `paginate_skips_rows` is a
page of the other dialect.
-/

namespace PolySql

open Template

namespace Dialect

variable {dialect : Dialect} {page size : UInt64}

/-- A page of a query holds the query, and the names of its columns where it asks for them. The rest
of it is the page's own. -/
def Quotes (dialect : Dialect) (page : UInt64) (own : List Symbol) (sql result : String) : Prop :=
  ∃ body template values, afterSelect sql = .ok body ∧ dialect.templateFor page = .ok template ∧
    Describes template body values ∧ result.toList = render values.quoted own

theorem exists_skipRows (hpage : 1 ≤ page)
    (hbound : page.toNat * size.toNat + 1 < UInt64.size) :
    ∃ skip, skipRows page size = .ok skip ∧ skip.toNat = (page.toNat - 1) * size.toNat := by
  have hend := toNat_pred_mul_add hpage size
  have hle : (page.toNat - 1) * size.toNat + size.toNat ≤ PageValues.maxRow := by
    unfold PageValues.maxRow
    omega
  have hskip : skipRows page size = .ok (UInt64.ofNat ((page.toNat - 1) * size.toNat)) :=
    if_pos hle
  exact ⟨_, hskip, (toNat_of_skipRows hskip).1⟩

/-- A dialect that can return any page has a template for the first one. -/
theorem templates_of_supportsPages (h : dialect.supportsPages = true) :
    ∃ top paged, dialect.topTemplate? = some top ∧ dialect.pageTemplate? = some paged := by
  cases dialect <;> first | exact ⟨_, _, rfl, rfl⟩ | cases h

/-- **Whether the template of a page asks for its rows.** -/
theorem templateFor_isPage_iff (hpages : dialect.supportsPages = true) (hpage : 1 ≤ page)
    (hsize : 1 ≤ size) (hbound : page.toNat * size.toNat + 1 < UInt64.size) :
    ∃ template window, dialect.templateFor page = .ok template ∧ Asks template window ∧
      ∀ counts : PageValues, counts.pageSize = size →
        counts.skipRows.toNat = (page.toNat - 1) * size.toNat →
          ((window counts).IsPage page.toNat size.toNat ↔ (dialect = .interbase → page = 1)) := by
  obtain ⟨top, paged, htop, hpaged⟩ := templates_of_supportsPages hpages
  by_cases hone : page = 1
  · obtain ⟨window, hasks, hreturns⟩ := limits_of_topTemplate? htop
    refine ⟨top, window, ?_, hasks, fun counts hcount hskip => ?_⟩
    · unfold templateFor
      rw [htop]
      exact if_pos hone
    · have hfirst : (window counts).IsPage 1 size.toNat := by
        rw [← hcount, Window.IsPage, Nat.sub_self, Nat.zero_mul]
        exact hreturns counts
      subst hone
      exact iff_of_true hfirst fun _ => rfl
  · have hpaging : dialect.templateFor page = .ok paged := by
      unfold templateFor
      rw [htop, hpaged]
      exact if_neg hone
    by_cases hdialect : dialect = .interbase
    · subst hdialect
      obtain rfl : rowsTo = paged := Option.some.inj hpaged
      refine ⟨rowsTo, _, hpaging, asks_rowsTo, fun counts hcount hskip => ?_⟩
      have hnext : 2 ≤ page.toNat := by
        have hfirst : 1 ≤ page.toNat := hpage
        have hother : page.toNat ≠ 1 := fun h => hone (UInt64.toNat_inj.1 h)
        omega
      refine iff_of_false ?_ fun h => hone (h rfl)
      rw [hcount, hskip]
      exact Window.not_isPage_range hnext hsize
    · obtain ⟨window, hasks, hreturns⟩ := cuts_of_pageTemplate? hpaged hdialect
      refine ⟨paged, window, hpaging, hasks, fun counts hcount hskip => ?_⟩
      have hnumbered : counts.skipRows.toNat + counts.pageSize.toNat < PageValues.maxRow := by
        rw [hskip, hcount, toNat_pred_mul_add hpage size, PageValues.maxRow]
        omega
      have hrun := hreturns counts hnumbered
      rw [hskip, hcount] at hrun
      exact iff_of_true hrun fun h => absurd h hdialect

/-- **The pages of a query lie one behind the other.** The rows that a page asks for, by what stands
around the query in it, are its own ones, whatever the query is: as many as a page has, from behind
the end of the page before. The one exception is the dialect whose template names the first and the
last row of a range: it asks for other rows on every page but the first. -/
theorem paginate_rows (hpages : dialect.supportsPages = true) (hpage : 1 ≤ page) (hsize : 1 ≤ size)
    (hbound : page.toNat * size.toNat + 1 < UInt64.size) :
    ∃ own window, read (lex own) = some window ∧
      (∀ sql result, dialect.paginate page size sql = .ok result →
        dialect.Quotes page own sql result) ∧
      (window.IsPage page.toNat size.toNat ↔ (dialect = .interbase → page = 1)) ∧
      ((dialect = .interbase → page = 1) → ∀ (α : Type) (rows : List α),
        rows.take ((page.toNat - 1) * size.toNat) ++ window.apply rows =
          rows.take (page.toNat * size.toNat)) := by
  obtain ⟨template, window, htemplate, hasks, hrows⟩ :=
    templateFor_isPage_iff hpages hpage hsize hbound
  obtain ⟨skip, hskip, hcount⟩ := exists_skipRows hpage hbound
  have hiff := hrows ⟨"", false, "", size, skip⟩ rfl hcount
  obtain ⟨own, hread, hfill⟩ := hasks ⟨"", false, "", size, skip⟩
  refine ⟨own, window ⟨"", false, "", size, skip⟩, hread, fun sql result h => ?_, hiff,
    fun hcase α rows => (hiff.2 hcase).append hpage rows⟩
  obtain ⟨body, template', values, hbody, -, htemplate', hskip', hvalues, hpageSize, rfl⟩ :=
    paginate_eq_ok_iff.1 h
  obtain rfl := Except.ok.inj (htemplate.symm.trans htemplate')
  have hsame : values.skipRows = skip := Except.ok.inj (hskip'.symm.trans hskip)
  exact ⟨body, template, values, hbody, htemplate, hvalues, hfill values hpageSize hsame⟩

theorem paginate_rows_oracle10g : ∃ own window, read (lex own) = some window ∧
    (∀ sql result, Dialect.paginate .oracle10g 2 10 sql = .ok result →
      Dialect.Quotes .oracle10g 2 own sql result) ∧
    window.IsPage 2 10 ∧
    ∀ (α : Type) (rows : List α), rows.take 10 ++ window.apply rows = rows.take 20 := by
  obtain ⟨own, window, hread, hquotes, hpage, happend⟩ :=
    @paginate_rows .oracle10g 2 10 rfl (by decide) (by decide) (by decide)
  exact ⟨own, window, hread, hquotes, hpage.2 nofun, happend nofun⟩

/-- The second page is to hold the rows from the eleventh to the twentieth; it asks for the tenth. -/
theorem paginate_skips_rows :
    Dialect.paginate .interbase 2 10 "select * from t" = .ok "select * from t rows 10 to 10" ∧
      ∃ own window, Dialect.Quotes .interbase 2 own "select * from t"
          "select * from t rows 10 to 10" ∧
        read (lex own) = some window ∧ window.apply (List.range' 1 20) = [10] ∧
          ¬window.IsPage 2 10 := by
  have hrun : Window.apply ⟨[.range 10 10], []⟩ (List.range' 1 20) = [10] := by decide
  have hvalues : Describes rowsTo "* from t".toList ⟨"* from t", false, "", 10, 10⟩ :=
    ⟨by decide, by decide⟩
  have hresult : "select * from t rows 10 to 10" =
      Template.fill rowsTo ⟨"* from t", false, "", 10, 10⟩ := by
    decide +kernel
  refine ⟨?_, plain "select " ++ .hole .body :: plain " rows 10 to 10", ⟨[.range 10 10], []⟩,
    ⟨_, _, _, rfl, rfl, hvalues, by decide⟩, by decide, hrun, fun hpage => ?_⟩
  · exact paginate_eq_ok_iff.2 ⟨_, _, ⟨"* from t", false, "", 10, 10⟩, rfl, by decide, rfl, by rfl,
      hvalues, rfl, hresult⟩
  · have hrows := hpage (List.range' 1 20)
    rw [hrun] at hrows
    exact absurd hrows (by decide)

end Dialect

end PolySql
