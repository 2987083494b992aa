import PolySql.Proofs.Page.Accepted
import PolySql.Proofs.Page.SinglePass

/-!
# Pages that number the rows

A page that numbers the rows names the columns of the query in a list of its own. The names are put
in before the query is, so they are read once more for the placeholders that are still left.

* `cut_rowNumber` — the template, cut at its placeholders.
* `toList_fill_rowNumber` — what follows the names, and the names themselves, are replaced on.
* `rewriteRest_eq_self_iff` — when the last replacements leave a text alone.

Principal result: `paginate_rowNumber` — a page that numbers the rows holds the query and the names
of its columns unchanged exactly if no name spells one of two placeholders.
`paginate_rewrites_name` is a page of which it does not hold.
-/

namespace PolySql

open Text

namespace Template

/-! ## The template -/

/-- The template up to the names of the columns. -/
def rowNumberFront : List Symbol :=
  plain "WITH query AS (SELECT TMP_.*, ROW_NUMBER() OVER (ORDER BY " ++
    (plain "CURRENT_TIMESTAMP) as ROW_NUM_ FROM ( select " ++ .hole .distinctSpace ::
      (plain "TOP(" ++ .hole .totalRows :: (plain ") " ++ .hole .body ::
        plain " ) TMP_ ) SELECT")))

/-- The template after the names of the columns. -/
def rowNumberBack : List Symbol :=
  .char ' ' :: (plain "FROM query WHERE ROW_NUM_ >= " ++ .hole .skipRowsNext ::
    (plain " AND ROW_NUM_ < " ++ [.hole .totalRowsNext]))

theorem cut_rowNumber :
    cut 0 rowNumber.toList = rowNumberFront ++ .char ' ' :: .hole .fields :: rowNumberBack ∧
      (neat rowNumberFront = true ∧ .hole .fields ∉ rowNumberFront) ∧
        neat (.hole .fields :: rowNumberBack) = true := by
  have htext : rowNumber.toList = _ := toList_append_append_ofList _ _ _
  rw [htext]
  decide +kernel

/-- The page of a query, with the text of the query and the names of its columns as they are. -/
def rowNumberPage (values : PageValues) : String :=
  "WITH query AS (SELECT TMP_.*, ROW_NUMBER() OVER (ORDER BY CURRENT_TIMESTAMP) as ROW_NUM_ " ++
    "FROM ( select " ++ (if values.distinct then "distinct " else "") ++
    "TOP(" ++ toString values.totalRows ++ ") " ++ values.body ++ " ) TMP_ ) SELECT " ++
    values.fields ++ " FROM query WHERE ROW_NUM_ >= " ++
    toString (PageValues.rowAfter values.skipRows.toNat) ++ " AND ROW_NUM_ < " ++
    toString (PageValues.rowAfter values.totalRows)

theorem fillOnce_rowNumber (values : PageValues) :
    fillOnce rowNumber values = rowNumberPage values := by
  unfold rowNumberPage
  rw [← String.toList_inj, fillOnce, cut_rowNumber.1, String.toList_ofList]
  simp [rowNumberFront, rowNumberBack, render_append, PageValues.value]

/-! ## The last replacements -/

/-- The replacements that are made after the names of the columns are put in. -/
def rewriteRest (values : PageValues) (s : List Char) : List Char :=
  [Placeholder.distinctSpace, .distinct, .body].foldl (replaceOne values) s

theorem foldl_space (values : PageValues) (ps : List Placeholder) (s : List Char) :
    ps.foldl (replaceOne values) (' ' :: s) = ' ' :: ps.foldl (replaceOne values) s := by
  induction ps generalizing s with
  | nil => rfl
  | cons p ps ih =>
    have hspace : replaceOne values (' ' :: s) p = ' ' :: replaceOne values s p := by
      cases p <;> rfl
    rw [List.foldl_cons, List.foldl_cons, hspace, ih]

/-- The names of the columns are replaced on together with the text behind them. -/
theorem toList_fill_rowNumber (values : PageValues) :
    (fill rowNumber values).toList =
      render (fun p => (values.value p).toList) rowNumberFront ++ ' ' ::
        rewriteRest values (values.fields.toList ++
          render (fun p => (values.value p).toList) rowNumberBack) := by
  obtain ⟨hcut, ⟨hfront, hfields⟩, hback⟩ := cut_rowNumber
  -- The first six replacements fill every hole from the names on.
  have hfirst : (Placeholder.all.take 6).foldl (replaceOne values)
      (render (current values 0) (.hole .fields :: rowNumberBack)) = values.fields.toList ++
        render (fun p => (values.value p).toList) rowNumberBack := by
    rw [foldl_render_self values (by decide) hback fun _ => Nat.le_refl 6]
    simp [rowNumberBack, render_append, current, Placeholder.rank, PageValues.value]
  have hall : Placeholder.all =
      Placeholder.all.take 6 ++ [Placeholder.distinctSpace, .distinct, .body] := rfl
  have hrest : Placeholder.all.foldl (replaceOne values)
      (render (current values 0) (.hole .fields :: rowNumberBack)) = rewriteRest values
        (values.fields.toList ++ render (fun p => (values.value p).toList) rowNumberBack) := by
    rw [hall, List.foldl_append, hfirst, rewriteRest]
  have hspace : ∀ ps : List Placeholder, (ps.foldl (replaceOne values)
      (' ' :: render (current values 0) (.hole .fields :: rowNumberBack))).head? ≠ some '_' := by
    intro ps
    rw [foldl_space]
    simp
  have hrun := foldl_render values (Nat.le_refl 9) hfront (fun h => absurd h hfields) hspace
  rw [current_nine, foldl_space] at hrun
  rw [toList_fill, ← render_zero values rowNumber, hcut, render_append, render_char, ← hrest]
  exact hrun

/-- How often a placeholder is replaced in a text; each time the same characters come and go. -/
theorem exists_countP_replaceOne (values : PageValues) (s : List Char) (p : Placeholder) :
    ∃ n : Nat, (∀ P : Char → Bool, (replaceOne values s p).countP P + n * p.text.countP P =
        s.countP P + n * (values.value p).toList.countP P) ∧
      (n = 0 → occursIn p.text s = false) := by
  have hne : p.text ≠ [] := by cases p <;> decide
  exact ⟨replacements p.text 0 s, fun P => countP_replaceFrom hne _ P 0 s,
    not_occursIn_of_replacements hne⟩

theorem replaceOne_of_not_occursIn (values : PageValues) {s : List Char} {p : Placeholder}
    (h : occursIn p.text s = false) : replaceOne values s p = s := replaceFrom_of_not_occursIn _ h

theorem not_mem_of_occursIn {p : Placeholder} {s : List Char} (h : '$' ∉ s) :
    occursIn p.text s = false := by
  rw [Bool.eq_false_iff, Ne, occursIn_iff]
  intro hpart
  have hdollar : '$' ∈ p.text := by cases p <;> decide
  exact h (hpart.subset hdollar)

/-- A query that has an `f` is put in nowhere in a text that comes out as it went in: the `f` would
not go again. -/
theorem not_occursIn_body {values : PageValues} (hbody : ∃ c ∈ values.body.toList, c.toLower = 'f')
    {s : List Char} (h : rewriteRest values s = s) :
    occursIn Placeholder.body.text
      (replaceOne values (replaceOne values s .distinctSpace) .distinct) = false := by
  obtain ⟨i, hi, -⟩ := exists_countP_replaceOne values s .distinctSpace
  obtain ⟨j, hj, -⟩ :=
    exists_countP_replaceOne values (replaceOne values s .distinctSpace) .distinct
  obtain ⟨k, hk, hzero⟩ := exists_countP_replaceOne values
    (replaceOne values (replaceOne values s .distinctSpace) .distinct) .body
  have hend : replaceOne values (replaceOne values (replaceOne values s .distinctSpace) .distinct)
      .body = s := h
  have hi := hi fun c => c.toLower == 'f'
  have hj := hj fun c => c.toLower == 'f'
  have hk := hk fun c => c.toLower == 'f'
  have htext : ∀ p : Placeholder, 5 < p.rank → p.text.countP (fun c => c.toLower == 'f') = 0 := by
    intro p hp
    cases p <;> first | rfl | exact absurd hp (by decide)
  have hvalue : ∀ p : Placeholder, p = .distinctSpace ∨ p = .distinct →
      (values.value p).toList.countP (fun c => c.toLower == 'f') = 0 := by
    rintro p (rfl | rfl) <;> cases hdistinct : values.distinct <;>
      simp [PageValues.value, hdistinct]
  rw [htext _ (by decide), hvalue _ (.inl rfl)] at hi
  rw [htext _ (by decide), hvalue _ (.inr rfl)] at hj
  rw [htext _ (by decide), hend] at hk
  have hmul : k * (values.value .body).toList.countP (fun c => c.toLower == 'f') = 0 := by omega
  rcases Nat.mul_eq_zero.1 hmul with h | h
  · exact hzero h
  · obtain ⟨c, hc, hf⟩ := hbody
    have hpos : 0 < values.body.toList.countP fun c => c.toLower == 'f' :=
      List.countP_pos_iff.2 ⟨c, hc, by simpa using hf⟩
    exact absurd h (Nat.ne_of_gt hpos)

/-- No `distinct` is put in or taken away where the text stays the same: a dollar would go with
it. -/
theorem not_occursIn_distinct {values : PageValues} {s : List Char}
    (h : replaceOne values (replaceOne values s .distinctSpace) .distinct = s) :
    occursIn Placeholder.distinct.text s = false := by
  obtain ⟨i, hi, hiZero⟩ := exists_countP_replaceOne values s .distinctSpace
  obtain ⟨j, hj, hjZero⟩ :=
    exists_countP_replaceOne values (replaceOne values s .distinctSpace) .distinct
  have hi := hi (· == '$')
  have hj := hj (· == '$')
  have htext : ∀ p : Placeholder, p.text.countP (· == '$') = 1 := by intro p; cases p <;> rfl
  have hvalue : ∀ p : Placeholder, p = .distinctSpace ∨ p = .distinct →
      (values.value p).toList.countP (· == '$') = 0 := by
    intro p hp
    have hnot := (not_mem_value (p := p) (by rcases hp with rfl | rfl <;> decide)
      (by rcases hp with rfl | rfl <;> decide) values).1
    refine List.countP_eq_zero.2 fun c hc hdollar => hnot ?_
    rwa [← eq_of_beq hdollar]
  rw [htext, hvalue _ (.inl rfl)] at hi
  rw [htext, hvalue _ (.inr rfl), h] at hj
  have hsame := replaceOne_of_not_occursIn values (hiZero (by omega))
  rw [hsame] at hjZero
  exact hjZero (by omega)

/-- **When the last replacements leave the names of the columns alone.** A query holds the `f` of
its `from`, and no placeholder does, so a name in which the query is put stays changed. -/
theorem rewriteRest_eq_self_iff {values : PageValues}
    (hbody : ∃ c ∈ values.body.toList, c.toLower = 'f') (fields : List Char) {r : List Char}
    (hr : '$' ∉ r) :
    rewriteRest values (fields ++ ' ' :: r) = fields ++ ' ' :: r ↔
      occursIn Placeholder.distinct.text fields = false ∧
        occursIn Placeholder.body.text fields = false := by
  constructor
  · intro h
    generalize hs : fields ++ ' ' :: r = s at h
    have hquery := not_occursIn_body hbody h
    have hmiddle := replaceOne_of_not_occursIn values hquery
    have hsame := hmiddle.symm.trans h
    rw [hsame] at hquery
    have hfields : ∀ p : Placeholder, occursIn p.text s = false →
        occursIn p.text fields = false := by
      intro p hp
      rw [Bool.eq_false_iff] at hp ⊢
      exact fun hoccurs => hp (hs ▸ occursIn_append_left hoccurs _)
    exact ⟨hfields _ (not_occursIn_distinct hsame), hfields _ hquery⟩
  · rintro ⟨hdistinct, hquery⟩
    have hclear : ∀ p : Placeholder, ' ' ∉ p.text → occursIn p.text fields = false →
        occursIn p.text (fields ++ ' ' :: r) = false := by
      intro p hp hfields
      rw [Bool.eq_false_iff]
      intro hoccurs
      rcases occursIn_append_cons hp fields r hoccurs with h | h
      · rw [hfields] at h
        cases h
      · rw [not_mem_of_occursIn hr] at h
        cases h
    have hd := hclear .distinct (by decide) hdistinct
    have hprefix : Placeholder.distinct.text <+: Placeholder.distinctSpace.text := ⟨[' '], rfl⟩
    have hspace : occursIn Placeholder.distinctSpace.text (fields ++ ' ' :: r) = false := by
      rw [Bool.eq_false_iff]
      intro hoccurs
      rw [occursIn_of_start hprefix hoccurs] at hd
      cases hd
    rw [rewriteRest, List.foldl_cons, replaceOne_of_not_occursIn values hspace, List.foldl_cons,
      replaceOne_of_not_occursIn values hd, List.foldl_cons,
      replaceOne_of_not_occursIn values (hclear .body (by decide) hquery)]
    rfl

/-- **A page that numbers the rows is filled as in one pass exactly if no name spells one of the
last placeholders.** -/
theorem fill_rowNumber_eq_iff {values : PageValues}
    (hbody : ∃ c ∈ values.body.toList, c.toLower = 'f') :
    fill rowNumber values = fillOnce rowNumber values ↔
      contains values.fields "($DISTINCT)" = false ∧ contains values.fields "$BODY" = false := by
  have hback : ∃ r, render (fun p => (values.value p).toList) rowNumberBack = ' ' :: r ∧
      '$' ∉ r := by
    have hskip := (not_mem_value (p := .skipRowsNext) (by decide) (by decide) values).1
    have htotal := (not_mem_value (p := .totalRowsNext) (by decide) (by decide) values).1
    refine ⟨_, render_char _ ' ' _, ?_⟩
    simp [render_append, hskip, htotal]
  obtain ⟨r, hr, hdollar⟩ := hback
  have hdistinct : "($DISTINCT)".toList = Placeholder.distinct.text := String.toList_ofList
  have hquery : "$BODY".toList = Placeholder.body.text := String.toList_ofList
  rw [contains, contains, hdistinct, hquery, ← rewriteRest_eq_self_iff hbody _ hdollar,
    ← String.toList_inj, toList_fill_rowNumber, fillOnce, String.toList_ofList, cut_rowNumber.1,
    render_append, render_char, render_hole, hr, List.append_cancel_left_eq, List.cons.injEq]
  simp [PageValues.value]

/-- A page names the columns as the last replacements leave them. -/
theorem fill_rowNumber_of_rewriteRest {values : PageValues} {fields : String}
    (h : rewriteRest values (values.fields.toList ++
        render (fun p => (values.value p).toList) rowNumberBack) =
      fields.toList ++ render (fun p => (values.value p).toList) rowNumberBack) :
    fill rowNumber values = rowNumberPage { values with fields := fields } := by
  rw [← fillOnce_rowNumber, ← String.toList_inj, toList_fill_rowNumber, h, fillOnce,
    String.toList_ofList, cut_rowNumber.1]
  simp [rowNumberFront, rowNumberBack, render_append, PageValues.value, PageValues.totalRows]

end Template

/-- A query whose columns have names has a `from`. -/
theorem SelectList.exists_letter_of_outputNames? {body : List Char} {fields : String}
    (h : outputNames? body = some fields) : ∃ c ∈ body, c.toLower = 'f' := by
  obtain ⟨list, hlist, -⟩ := Option.map_eq_some_iff.1 h
  obtain ⟨rest, rfl, hfrom⟩ := append_of_selectList? hlist
  cases rest with
  | nil => cases hfrom
  | cons c r =>
    have hc : 'f' = c.toLower := by
      simp only [startsFrom, Bool.and_eq_true] at hfrom
      exact (List.cons_prefix_cons.1 ((startsIgnoringCase_iff _ _).1 hfrom.1)).1
    exact ⟨c, by simp, hc.symm⟩

namespace Dialect

variable {dialect : Dialect} {page size : UInt64} {sql : String}

theorem contains_rowNumber : contains Template.rowNumber "($DISTINCT)" = true ∧
    contains Template.rowNumber "$FIELDS_OR_ALIAS" = true := by
  have hmem : ∀ p, p = .distinctSpace ∨ p = .fields →
      Template.Symbol.hole p ∈ Template.cut 0 Template.rowNumber.toList := by
    rintro p (rfl | rfl) <;> simp [Template.cut_rowNumber.1, Template.rowNumberFront]
  have hspace := Template.occursIn_of_mem_cut (hmem _ (.inl rfl))
  have hfields := Template.occursIn_of_mem_cut (hmem _ (.inr rfl))
  have hdistinct := occursIn_of_start (p := Placeholder.distinct.text) ⟨[' '], rfl⟩ hspace
  have hdistinctText : "($DISTINCT)".toList = Placeholder.distinct.text := String.toList_ofList
  have hfieldsText : "$FIELDS_OR_ALIAS".toList = Placeholder.fields.text := String.toList_ofList
  rw [contains, contains, hdistinctText, hfieldsText]
  exact ⟨hdistinct, hfields⟩

/-- What a page that numbers the rows is made from. -/
structure PageOf (page size : UInt64) (sql : String) (values : PageValues) : Prop where
  query : ∃ body, afterSelect sql = .ok body ∧
    (values.body.toList, values.distinct) = splitDistinct body
  names : SelectList.outputNames? values.body.toList = some values.fields
  pageSize : values.pageSize = size
  skipRows : skipRows page size = .ok values.skipRows

theorem paginate_eq_fill_rowNumber_iff
    (hdialect : dialect = .sqlServer2005 ∨ dialect = .sqlServer2008) (hpage : 2 ≤ page)
    {result : String} :
    dialect.paginate page size sql = .ok result ↔ size ≠ 0 ∧ ∃ values,
      PageOf page size sql values ∧ result = Template.fill Template.rowNumber values := by
  have htemplate : dialect.templateFor page = .ok Template.rowNumber := by
    have hone : page ≠ 1 := by
      rintro rfl
      exact absurd hpage (by decide)
    rcases hdialect with rfl | rfl <;>
      simp [templateFor, topTemplate?, pageTemplate?, hone, orError]
  have hzero : page ≠ 0 := by
    rintro rfl
    exact absurd hpage (by decide)
  obtain ⟨hdistinct, hfields⟩ := contains_rowNumber
  rw [paginate_eq_ok_iff]
  constructor
  · rintro ⟨body, template, values, hbody, ⟨-, hsize⟩, htemplate', hskip, ⟨hquery, hnames⟩,
      hpageSize, hresult⟩
    obtain rfl := Except.ok.inj (htemplate.symm.trans htemplate')
    rw [if_pos hdistinct] at hquery
    rw [if_pos hfields] at hnames
    exact ⟨hsize, values, ⟨⟨body, hbody, hquery⟩, hnames, hpageSize, hskip⟩, hresult⟩
  · rintro ⟨hsize, values, ⟨⟨body, hbody, hquery⟩, hnames, hpageSize, hskip⟩, hresult⟩
    refine ⟨body, _, values, hbody, ⟨hzero, hsize⟩, htemplate, hskip, ⟨?_, ?_⟩, hpageSize, hresult⟩
    · rw [if_pos hdistinct, hquery]
    · rw [if_pos hfields, hnames]

/-- A page is its template with each placeholder filled in once, if no name of a column spells one
of those that are replaced after the names. -/
theorem PageOf.fill_rowNumber {values : PageValues} (h : PageOf page size sql values)
    (hdistinct : contains values.fields "($DISTINCT)" = false)
    (hquery : contains values.fields "$BODY" = false) :
    Template.fill Template.rowNumber values = Template.rowNumberPage values := by
  have hletter := SelectList.exists_letter_of_outputNames? h.names
  rw [(Template.fill_rowNumber_eq_iff hletter).2 ⟨hdistinct, hquery⟩, Template.fillOnce_rowNumber]

theorem PageOf.paginate_eq {values : PageValues} (h : PageOf page size sql values)
    (hdialect : dialect = .sqlServer2005 ∨ dialect = .sqlServer2008) (hpage : 2 ≤ page)
    (hsize : size ≠ 0) (hdistinct : contains values.fields "($DISTINCT)" = false)
    (hquery : contains values.fields "$BODY" = false) :
    dialect.paginate page size sql = .ok (Template.rowNumberPage values) := by
  rw [← h.fill_rowNumber hdistinct hquery]
  exact (paginate_eq_fill_rowNumber_iff hdialect hpage).2 ⟨hsize, values, h, rfl⟩

/-- **A page that numbers the rows holds the text of the query unchanged exactly if no name of a
column spells `($DISTINCT)` or `$BODY`.** It is then its template with each placeholder filled in
once: the query stands behind its row limit, and the names of its columns behind the outer
`SELECT`. -/
theorem paginate_rowNumber (hdialect : dialect = .sqlServer2005 ∨ dialect = .sqlServer2008)
    (hpage : 2 ≤ page) {result : String} (h : dialect.paginate page size sql = .ok result) :
    ∃ values, PageOf page size sql values ∧
      Template.fillOnce Template.rowNumber values = Template.rowNumberPage values ∧
      (result = Template.fillOnce Template.rowNumber values ↔
        contains values.fields "($DISTINCT)" = false ∧
          contains values.fields "$BODY" = false) := by
  obtain ⟨-, values, hvalues, rfl⟩ := (paginate_eq_fill_rowNumber_iff hdialect hpage).1 h
  have hbody := SelectList.exists_letter_of_outputNames? hvalues.names
  exact ⟨values, hvalues, Template.fillOnce_rowNumber values,
    Template.fill_rowNumber_eq_iff hbody⟩

theorem paginate_rowNumber_plain_name : ∃ values result,
    Dialect.paginate .sqlServer2005 2 10 "select a from t" = .ok result ∧
      PageOf 2 10 "select a from t" values ∧
      Template.fillOnce Template.rowNumber values = Template.rowNumberPage values ∧
      (result = Template.fillOnce Template.rowNumber values ↔
        contains values.fields "($DISTINCT)" = false ∧
          contains values.fields "$BODY" = false) := by
  have hnumbers : PageOf 2 10 "select a from t" ⟨"a from t", false, "a", 10, 10⟩ :=
    ⟨⟨_, rfl, by decide⟩, by decide, rfl, by rfl⟩
  have h := (paginate_eq_fill_rowNumber_iff (.inl rfl) (by decide)).2
    ⟨by decide, _, hnumbers, rfl⟩
  obtain ⟨values, hvalues⟩ := paginate_rowNumber (.inl rfl) (by decide) h
  exact ⟨values, _, h, hvalues⟩

/-- The column is named `"$BODY"`, and the whole query is put in its name. -/
theorem paginate_rewrites_name :
    PageOf 2 10 "select a as \"$BODY\" from t"
        ⟨"a as \"$BODY\" from t", false, "\"$BODY\"", 10, 10⟩ ∧
      Dialect.paginate .sqlServer2005 2 10 "select a as \"$BODY\" from t" =
        .ok (Template.rowNumberPage
          ⟨"a as \"$BODY\" from t", false, "\"a as \"$BODY\" from t\"", 10, 10⟩) ∧
      Dialect.paginate .sqlServer2005 2 10 "select a as \"$BODY\" from t" ≠
        .ok (Template.fillOnce Template.rowNumber
          ⟨"a as \"$BODY\" from t", false, "\"$BODY\"", 10, 10⟩) := by
  have hnumbers : PageOf 2 10 "select a as \"$BODY\" from t"
      ⟨"a as \"$BODY\" from t", false, "\"$BODY\"", 10, 10⟩ :=
    ⟨⟨_, rfl, by decide⟩, by decide, rfl, by rfl⟩
  have hdialect : Dialect.sqlServer2005 = .sqlServer2005 ∨ Dialect.sqlServer2005 = .sqlServer2008 :=
    .inl rfl
  have h := (paginate_eq_fill_rowNumber_iff hdialect (by decide)).2 ⟨by decide, _, hnumbers, rfl⟩
  refine ⟨hnumbers, ?_, fun heq => ?_⟩
  · exact h.trans (congrArg _ (Template.fill_rowNumber_of_rewriteRest (by decide +kernel)))
  · have hbody := SelectList.exists_letter_of_outputNames? hnumbers.names
    have hclear := ((Template.fill_rowNumber_eq_iff hbody).1 (Except.ok.inj (h.symm.trans heq))).2
    exact absurd hclear (by decide)

end Dialect

end PolySql
