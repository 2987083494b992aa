import PolySql.Proofs.Page.Reading

/-!
# What each template asks for

* `Template.asks_limitOffset` and so on — the window of one template, by its row counts.
* `Template.toList_fill_rowNumber_quoted` — the template that names the columns of the query is not
  filled in one pass; what is replaced once more are the names alone.
* `Template.Limits`, `Template.Cuts` — a template asks for the first rows, or for those behind the
  rows that are skipped.

Principal results: `limits_of_topTemplate?` and `cuts_of_pageTemplate?` — the templates of the first
rows ask for them, and those of a page for its rows, one dialect apart.
-/

namespace PolySql

namespace Template

/-! ## Templates that are filled in one pass -/

theorem asks_limitOffset : Asks limitOffset fun values =>
    ⟨[.keep values.pageSize.toNat, .skip values.skipRows.toNat], []⟩ :=
  asks_of_readsAs [.word .select, .given .body, .word .limit, .given .pageSize, .word .offset,
    .given .skipRows]
    String.toList_ofList (by rfl) fun _ => rfl

theorem asks_limitSkip : Asks limitSkip fun values =>
    ⟨[.skip values.skipRows.toNat, .keep values.pageSize.toNat], []⟩ :=
  asks_of_readsAs [.word .select, .given .body, .word .limit, .given .skipRows, .mark ',',
    .given .pageSize]
    String.toList_ofList (by rfl) fun _ => rfl

theorem asks_offsetFetchNext : Asks offsetFetchNext fun values =>
    ⟨[.skip values.skipRows.toNat, .keep values.pageSize.toNat], []⟩ :=
  asks_of_readsAs [.word .select, .given .body, .word .offset, .given .skipRows, .word .rows,
    .word .fetch, .word .next, .given .pageSize, .word .rows, .word .only]
    String.toList_ofList (by rfl) fun _ => rfl

theorem asks_offsetFetchFirst : Asks offsetFetchFirst fun values =>
    ⟨[.skip values.skipRows.toNat, .keep values.pageSize.toNat], []⟩ :=
  asks_of_readsAs [.word .select, .given .body, .word .offset, .given .skipRows, .word .fetch,
    .word .first, .given .pageSize, .word .rows, .word .only]
    String.toList_ofList (by rfl) fun _ => rfl

theorem asks_firstSkip : Asks firstSkip fun values =>
    ⟨[.keep values.pageSize.toNat, .skip values.skipRows.toNat], []⟩ :=
  asks_of_readsAs [.word .select, .word .first, .given .pageSize, .word .skip, .given .skipRows,
    .given .body]
    String.toList_ofList (by rfl) fun _ => rfl

theorem asks_skipFirst : Asks skipFirst fun values =>
    ⟨[.skip values.skipRows.toNat, .keep values.pageSize.toNat], []⟩ :=
  asks_of_readsAs [.word .select, .word .skip, .given .skipRows, .word .first, .given .pageSize,
    .given .body]
    String.toList_ofList (by rfl) fun _ => rfl

theorem asks_limitLeading : Asks limitLeading fun values =>
    ⟨[.skip values.skipRows.toNat, .keep values.pageSize.toNat], []⟩ :=
  asks_of_readsAs [.word .select, .word .limit, .given .skipRows, .given .pageSize, .given .body]
    String.toList_ofList (by rfl) fun _ => rfl

theorem asks_rowsTo : Asks rowsTo fun values =>
    ⟨[.range values.skipRows.toNat values.pageSize.toNat], []⟩ :=
  asks_of_readsAs [.word .select, .given .body, .word .rows, .given .skipRows, .word .to,
    .given .pageSize]
    String.toList_ofList (by rfl) fun _ => rfl

theorem asks_topFetchFirst : Asks topFetchFirst fun values =>
    ⟨[.keep values.pageSize.toNat], []⟩ :=
  asks_of_readsAs [.word .select, .given .body, .word .fetch, .word .first, .given .pageSize,
    .word .rows, .word .only]
    String.toList_ofList (by rfl) fun _ => rfl

theorem asks_topLimit : Asks topLimit fun values =>
    ⟨[.keep values.pageSize.toNat], []⟩ :=
  asks_of_readsAs [.word .select, .given .body, .word .limit, .given .pageSize]
    String.toList_ofList (by rfl) fun _ => rfl

theorem asks_topOffsetZero : Asks topOffsetZero fun values =>
    ⟨[.skip 0, .keep values.pageSize.toNat], []⟩ :=
  asks_of_readsAs [.word .select, .given .body, .word .offset, .number 0, .word .rows, .word .fetch,
    .word .next, .given .pageSize, .word .rows, .word .only]
    String.toList_ofList (by rfl) fun _ => rfl

theorem asks_topRows : Asks topRows fun values =>
    ⟨[.keep values.pageSize.toNat], []⟩ :=
  asks_of_readsAs [.word .select, .given .body, .word .rows, .given .pageSize]
    String.toList_ofList (by rfl) fun _ => rfl

theorem asks_topParenthesized : Asks topParenthesized fun values =>
    ⟨[.keep values.pageSize.toNat], []⟩ :=
  asks_of_readsAs [.word .select, .given .distinctSpace, .word .top, .mark '(', .given .pageSize,
    .mark ')', .given .body]
    String.toList_ofList (by rfl) fun _ => rfl

theorem asks_topDistinct : Asks topDistinct fun values =>
    ⟨[.keep values.pageSize.toNat], []⟩ :=
  asks_of_readsAs [.word .select, .given .distinctSpace, .word .top, .given .pageSize, .given .body]
    String.toList_ofList (by rfl) fun _ => rfl

theorem asks_topFirst : Asks topFirst fun values =>
    ⟨[.keep values.pageSize.toNat], []⟩ :=
  asks_of_readsAs [.word .select, .word .first, .given .pageSize, .given .body]
    String.toList_ofList (by rfl) fun _ => rfl

theorem asks_topPlain : Asks topPlain fun values =>
    ⟨[.keep values.pageSize.toNat], []⟩ :=
  asks_of_readsAs [.word .select, .word .top, .given .pageSize, .given .body]
    String.toList_ofList (by rfl) fun _ => rfl

theorem asks_topRownum : Asks topRownum fun values =>
    ⟨[], [.atMost values.pageSize.toNat]⟩ :=
  asks_of_readsAs [.word .select, .mark '*', .word .other, .mark '(', .word .select, .given .body,
    .mark ')', .word .other, .word .rowNumber, .mark '<', .mark '=', .given .pageSize]
    String.toList_ofList (by rfl) fun _ => rfl

theorem asks_rownum : Asks rownum fun values =>
    ⟨[], [.atMost values.totalRows, .greater values.skipRows.toNat]⟩ :=
  asks_of_readsAs [.word .select, .mark '*', .word .other, .mark '(', .word .select, .word .other,
    .mark '.', .mark '*', .mark ',', .word .rowNumber, .word .rowNumber, .word .other, .mark '(',
    .word .select, .given .body, .mark ')', .word .other, .word .other, .word .rowNumber, .mark '<',
    .mark '=', .given .totalRows, .mark ')', .word .other, .word .rowNumber, .mark '>',
    .given .skipRows]
    (toList_append_ofList _ _) (by rfl) fun _ => rfl

theorem asks_rownumOutside : Asks rownumOutside fun values =>
    ⟨[], [.atMost values.totalRows, .greater values.skipRows.toNat]⟩ :=
  asks_of_readsAs [.word .select, .mark '*', .word .other, .mark '(', .word .select, .word .other,
    .mark '.', .mark '*', .mark ',', .word .rowNumber, .word .rowNumber, .word .other, .mark '(',
    .word .select, .given .body, .mark ')', .word .other, .mark ')', .word .other, .word .rowNumber,
    .mark '<', .mark '=', .given .totalRows, .word .other, .word .rowNumber, .mark '>',
    .given .skipRows]
    (toList_append_ofList _ _) (by rfl) fun _ => rfl

theorem asks_orderedRowNumber : Asks orderedRowNumber fun values =>
    ⟨[.keep values.totalRows], [.greater values.skipRows.toNat]⟩ :=
  asks_of_readsAs [.word .select, .mark '*', .word .other, .mark '(', .word .select, .word .other,
    .mark '.', .mark '*', .mark ',', .word .other, .mark '(', .mark ')', .word .other, .mark '(',
    .word .other, .word .other, .word .other, .word .other, .word .other, .mark ')', .word .other,
    .word .rowNumber, .word .other, .mark '(', .word .select, .given .body, .word .fetch,
    .word .first, .given .totalRows, .word .rows, .word .only, .mark ')', .word .other,
    .word .other, .mark ')', .word .other, .word .other, .word .other, .word .rowNumber, .mark '>',
    .given .skipRows, .word .other, .word .other, .word .rowNumber]
    (toList_append_append_ofList _ _ _) (by rfl) fun _ => rfl

/-! ## The template that names the columns -/

/-- The template that numbers the rows, with the blank after the names of the columns as part of
them. -/
def rowNumberOwn : List Symbol :=
  rowNumberFront ++ .char ' ' :: .hole .fields :: rowNumberBack.tail

theorem lex_rowNumberOwn : spaced rowNumberOwn = true ∧ lex rowNumberOwn =
    [.word .other, .word .other, .word .other, .mark '(', .word .select, .word .other, .mark '.',
      .mark '*', .mark ',', .word .other, .mark '(', .mark ')', .word .other, .mark '(',
      .word .other, .word .other, .word .other, .mark ')', .word .other, .word .rowNumber,
      .word .other, .mark '(', .word .select, .given .distinctSpace, .word .top, .mark '(',
      .given .totalRows, .mark ')', .given .body, .mark ')', .word .other, .mark ')', .word .select,
      .given .fields, .word .other, .word .other, .word .other, .word .rowNumber, .mark '>',
      .mark '=', .given .skipRowsNext, .word .other, .word .rowNumber, .mark '<',
      .given .totalRowsNext] := by
  decide +kernel

/-- The last replacements end with the names of the columns. -/
theorem rewriteRest_append (values : PageValues) (fields : List Char) {c : Char} {r : List Char}
    (hc : ∀ p : Placeholder, 5 < p.rank → c ∉ p.text) (hr : '$' ∉ c :: r) :
    rewriteRest values (fields ++ c :: r) = rewriteRest values fields ++ c :: r := by
  have hstep : ∀ (p : Placeholder), 5 < p.rank → ∀ s,
      replaceOne values (s ++ c :: r) p = replaceOne values s p ++ c :: r := by
    intro p hp s
    unfold replaceOne
    rw [Text.replaceFrom_append_cons (hc p hp) _ (Nat.zero_le _),
      Text.replaceFrom_of_not_occursIn _ (not_mem_of_occursIn hr)]
  unfold rewriteRest
  simp only [List.foldl_cons, List.foldl_nil]
  rw [hstep .distinctSpace (by decide), hstep .distinct (by decide), hstep .body (by decide)]

/-- What follows the names and the blank behind them holds no placeholder. -/
theorem render_rowNumberBack_tail (values : PageValues) :
    ∃ r, render (fun p => (values.value p).toList) rowNumberBack.tail = 'F' :: r ∧
      '$' ∉ 'F' :: r := by
  have hskip := (not_mem_value (p := .skipRowsNext) (by decide) (by decide) values).1
  have htotal := (not_mem_value (p := .totalRowsNext) (by decide) (by decide) values).1
  refine ⟨"ROM query WHERE ROW_NUM_ >= ".toList ++ (values.value .skipRowsNext).toList ++
    " AND ROW_NUM_ < ".toList ++ (values.value .totalRowsNext).toList, ?_, ?_⟩
  · simp [rowNumberBack, render_append]
  · simp [hskip, htotal]

theorem toList_fill_rowNumber_quoted (values : PageValues) :
    (fill rowNumber values).toList = render values.quoted rowNumberOwn := by
  obtain ⟨r, hr, hdollar⟩ := render_rowNumberBack_tail values
  have hback : render (fun p => (values.value p).toList) rowNumberBack = ' ' :: 'F' :: r :=
    congrArg (' ' :: ·) hr
  have hletter : ∀ p : Placeholder, 5 < p.rank → 'F' ∉ p.text := by
    intro p hp
    cases p <;> first | decide | exact absurd hp (by decide)
  have hnames := rewriteRest_append values (values.fields.toList ++ [' ']) hletter hdollar
  rw [List.append_assoc, List.singleton_append, ← hback] at hnames
  have hfront : .hole .fields ∉ rowNumberFront := cut_rowNumber.2.1.2
  have htail : .hole .fields ∉ rowNumberBack.tail := by simp [rowNumberBack, plain]
  rw [toList_fill_rowNumber, hnames, rowNumberOwn, render_append, render_char, render_hole,
    render_quoted_of_not_mem values hfront, render_quoted_of_not_mem values htail, hr]
  rfl

theorem asks_rowNumber : Asks rowNumber fun values =>
    ⟨[.keep values.totalRows], [.atLeast (PageValues.rowAfter values.skipRows.toNat),
      .less (PageValues.rowAfter values.totalRows)]⟩ := by
  obtain ⟨hspaced, hlex⟩ := lex_rowNumberOwn
  intro counts
  refine ⟨fillCounts counts rowNumberOwn, ?_, ?_⟩
  · rw [lex_fillCounts counts hspaced, hlex]
    rfl
  · intro values hsize hskip
    rw [render_quoted hsize hskip, toList_fill_rowNumber_quoted]

/-! ## Runs of rows -/

/-- A template asks for the first rows. -/
def Limits (template : String) : Prop :=
  ∃ window, Asks template window ∧ ∀ counts, (window counts).Returns 0 counts.pageSize.toNat

/-- A template asks for the rows behind those that are skipped, if all of them and the row after
them can be numbered. -/
def Cuts (template : String) : Prop :=
  ∃ window, Asks template window ∧ ∀ counts : PageValues,
    counts.skipRows.toNat + counts.pageSize.toNat < PageValues.maxRow →
      (window counts).Returns counts.skipRows.toNat counts.pageSize.toNat

end Template

namespace PageValues

variable {values : PageValues}

theorem totalRows_eq (h : values.skipRows.toNat + values.pageSize.toNat ≤ maxRow) :
    values.totalRows = values.skipRows.toNat + values.pageSize.toNat :=
  Nat.min_eq_left h

theorem rowAfter_eq {n : Nat} (h : n < maxRow) : rowAfter n = n + 1 := Nat.min_eq_left h

end PageValues

namespace Template

variable {dialect : Dialect} {template : String}

theorem limits_of_topTemplate? (h : dialect.topTemplate? = some template) : Limits template := by
  rcases cases_of_topTemplate? h with
    rfl | rfl | rfl | rfl | rfl | rfl | rfl | rfl | rfl
  · exact ⟨_, asks_topFetchFirst, fun _ => Window.returns_keep _⟩
  · exact ⟨_, asks_topLimit, fun _ => Window.returns_keep _⟩
  · exact ⟨_, asks_topOffsetZero, fun _ => Window.returns_skip_keep 0 _⟩
  · exact ⟨_, asks_topRows, fun _ => Window.returns_keep _⟩
  · exact ⟨_, asks_topParenthesized, fun _ => Window.returns_keep _⟩
  · exact ⟨_, asks_topDistinct, fun _ => Window.returns_keep _⟩
  · exact ⟨_, asks_topFirst, fun _ => Window.returns_keep _⟩
  · exact ⟨_, asks_topPlain, fun _ => Window.returns_keep _⟩
  · exact ⟨_, asks_topRownum, fun _ => Window.returns_atMost _⟩

theorem cuts_of_pageTemplate? (h : dialect.pageTemplate? = some template)
    (hdialect : dialect ≠ .interbase) : Cuts template := by
  rcases cases_of_pageTemplate? h with
    rfl | rfl | rfl | rfl | rfl | rfl | rfl | rfl | rfl | rfl | ⟨-, hinterbase⟩ | ⟨rfl, -⟩
  · exact ⟨_, asks_limitOffset, fun _ _ => Window.returns_keep_skip _ _⟩
  · exact ⟨_, asks_limitSkip, fun _ _ => Window.returns_skip_keep _ _⟩
  · exact ⟨_, asks_offsetFetchNext, fun _ _ => Window.returns_skip_keep _ _⟩
  · exact ⟨_, asks_offsetFetchFirst, fun _ _ => Window.returns_skip_keep _ _⟩
  · exact ⟨_, asks_firstSkip, fun _ _ => Window.returns_keep_skip _ _⟩
  · exact ⟨_, asks_skipFirst, fun _ _ => Window.returns_skip_keep _ _⟩
  · exact ⟨_, asks_limitLeading, fun _ _ => Window.returns_skip_keep _ _⟩
  · refine ⟨_, asks_rownum, fun counts h => ?_⟩
    rw [PageValues.totalRows_eq (Nat.le_of_lt h)]
    exact Window.returns_atMost_greater _ _
  · refine ⟨_, asks_rownumOutside, fun counts h => ?_⟩
    rw [PageValues.totalRows_eq (Nat.le_of_lt h)]
    exact Window.returns_atMost_greater _ _
  · refine ⟨_, asks_orderedRowNumber, fun counts h => ?_⟩
    rw [PageValues.totalRows_eq (Nat.le_of_lt h)]
    exact Window.returns_keep_greater _ _
  · exact absurd hinterbase hdialect
  · refine ⟨_, asks_rowNumber, fun counts h => ?_⟩
    rw [PageValues.totalRows_eq (Nat.le_of_lt h), PageValues.rowAfter_eq (by omega),
      PageValues.rowAfter_eq h]
    exact Window.returns_keep_atLeast_less _ _

end Template

end PolySql
