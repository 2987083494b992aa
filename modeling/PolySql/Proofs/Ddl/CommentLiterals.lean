import PolySql.Proofs.Ddl.Accounting
import PolySql.Proofs.Layout.Words

/-!
# No comment leaves its literal

A comment may hold quotes, semicolons, new lines and the text that stands for comments in a form. It
is written as a literal all the same, between texts that do not depend on it.

* `Encloses` — a function of a comment writes its literal at one place; a reader that starts at the
  first quote of the literal gets the comment back and stops behind the last one, and so does a scan
  for quoted spans.
* `Dialect.EnclosesComments` — everything a dialect writes for comments does that.
* `commentFront`, `commentClause` — the two lines of a statement about a comment; `breakBefore_eq`
  says where it is broken, `layout_commentOn` that its literal stays as it is.

Principal result: `enclosesComments` — no dialect writes a comment that leaves its literal,
different comments have different statements, and a layout keeps the literal as it is.
-/

namespace PolySql

open Text

namespace Layout

/-! ## Where the line is broken -/

/-- The line is broken at a marker if the marker begins nowhere before, and nothing before it is
quoted. -/
theorem breakBefore_eq {marker front s : List Char} (hplain : ∀ c ∈ front, literalQuotes c = none)
    (hclear : ∀ x y, front = x ++ y → y ≠ [] →
      startsIgnoringCase (' ' :: marker) (y ++ ' ' :: s) = false)
    (hstarts : startsIgnoringCase (' ' :: marker) (' ' :: s) = true) :
    breakBefore (' ' :: marker) none (front ++ ' ' :: s) = front ++ '\n' :: (indent ++ s) := by
  induction front with
  | nil =>
    rw [List.nil_append, breakBefore, if_pos ⟨rfl, hstarts⟩]
    rfl
  | cons c front ih =>
    have hc : startsIgnoringCase (' ' :: marker) (c :: (front ++ ' ' :: s)) = false :=
      hclear [] (c :: front) rfl (List.cons_ne_nil c front)
    have hrest := ih (fun x hx => hplain x (List.mem_cons_of_mem c hx))
      fun x y hxy => hclear (c :: x) y (by rw [hxy, List.cons_append])
    rw [List.cons_append, breakBefore, if_neg (by simp [hc]),
      (unquoted_of_rule_eq_none (hplain c List.mem_cons_self)).2, hrest, List.cons_append]

/-- The quote of a literal begins no clause that is looked for in front of it. -/
theorem clear_of_plain {front : List Char} (hplain : ∀ c ∈ front, literalQuotes c = none)
    (r : List Char) : ∀ x y, front = x ++ y → y ≠ [] →
      startsIgnoringCase " is '".toList (y ++ ' ' :: ("is ".toList ++ r)) = false := by
  rintro x y rfl hne
  rw [Bool.eq_false_iff]
  intro hstarts
  -- The marker would end before the literal begins, but its last character is a quote.
  have hsplit : y ++ ' ' :: ("is ".toList ++ r) = (y ++ " is ".toList) ++ r := by simp
  rw [hsplit, startsIgnoringCase_iff, lower_append] at hstarts
  have hlength : " is '".toList.length ≤ (lower (y ++ " is ".toList)).length := by
    have hpos := List.length_pos_iff.2 hne
    rw [lower_length, List.length_append]
    simp
    omega
  have hmarker := List.prefix_of_prefix_length_le hstarts (List.prefix_append _ _) hlength
  obtain ⟨c, hc, hquote⟩ := List.mem_map.1 (hmarker.subset (by decide : '\'' ∈ " is '".toList))
  obtain rfl := eq_of_toLower_eq rfl hquote
  rcases List.mem_append.1 hc with hc | hc
  · exact absurd (hplain _ (List.mem_append_right x hc)) (by decide)
  · exact absurd hc (by decide)

/-! ## Statements about comments -/

/-- A name without blanks and quotes. -/
structure Bare (name : String) : Prop where
  ne_empty : name ≠ ""
  bare : name.toList.all isBare = true

theorem Bare.word {name : String} (h : Bare name) : Word name.toList :=
  .of_bare (mt String.toList_eq_nil_iff.1 h.ne_empty) h.bare

theorem Bare.plain {name : String} (h : Bare name) : ∀ c ∈ name.toList, literalQuotes c = none :=
  fun c hc => (isBare_iff.1 (List.all_eq_true.1 h.bare c hc)).2

theorem Bare.append {s t : String} (hs : Bare s) (ht : Bare t) : Bare (s ++ t) where
  ne_empty h := hs.ne_empty (String.append_eq_empty_iff.1 h).1
  bare := by rw [String.toList_append, List.all_append, hs.bare, ht.bare, Bool.and_true]

/-- A statement about a comment up to its clause. -/
def commentFront (kind name : String) : List Char :=
  "comment on ".toList ++ kind.toList ++ ' ' :: name.toList

/-- The clause with the comment. -/
def commentClause (comment : String) : List Char :=
  "is ".toList ++ ((literal comment).toList ++ [';'])

section CommentOn

variable {kind name : String}

theorem tight_commentOn (hkind : Bare kind) (hname : Bare name) (comment : String) :
    Tight none false (commentFront kind name ++ ' ' :: commentClause comment) := by
  have hwords : ∀ w ∈ ["comment".toList, "on".toList, kind.toList, name.toList, "is".toList,
      (literal comment).toList ++ [';']], Word w := by
    simp only [List.forall_mem_cons]
    exact ⟨.of_bare (by decide) (by decide), .of_bare (by decide) (by decide), hkind.word,
      hname.word, .of_bare (by decide) (by decide),
      (Word.of_literal comment).append (.of_bare (by decide) (by decide)), by simp⟩
  have htight := tight_words hwords false
  unfold commentFront commentClause
  simpa [List.intercalate] using htight

theorem trimmed_commentOn (kind name comment : String) :
    Trimmed (commentFront kind name ++ ' ' :: commentClause comment) := by
  unfold commentFront commentClause
  constructor
  · intro c hc
    obtain rfl : 'c' = c := by simpa using hc
    rfl
  · intro c hc
    obtain rfl : ';' = c := by simpa [List.getLast?_cons] using hc
    rfl

theorem layoutCollapsed_commentOn (hkind : Bare kind) (hname : Bare name) (comment : String) :
    layoutCollapsed (commentFront kind name ++ ' ' :: commentClause comment) =
      commentFront kind name ++ '\n' :: (indent ++ commentClause comment) := by
  have hplain : ∀ c ∈ commentFront kind name, literalQuotes c = none := by
    unfold commentFront
    simp only [List.forall_mem_append, List.forall_mem_cons]
    exact ⟨⟨by simp [literalQuotes], hkind.plain⟩, rfl, hname.plain⟩
  have hmarker : " is '".toList = ' ' :: "is '".toList := by decide
  have hclause : startsIgnoringCase (' ' :: "is '".toList) (' ' :: commentClause comment) =
      true := by
    unfold commentClause
    simp [toList_literal, startsIgnoringCase]
  have hclear := clear_of_plain hplain ((literal comment).toList ++ [';'])
  have hcreate : startsIgnoringCase "create ".toList
      (commentFront kind name ++ ' ' :: commentClause comment) = false := rfl
  have halter : startsIgnoringCase "alter table ".toList
      (commentFront kind name ++ ' ' :: commentClause comment) = false := rfl
  have hcomment : startsIgnoringCase "comment on ".toList
      (commentFront kind name ++ ' ' :: commentClause comment) = true := rfl
  rw [layoutCollapsed, if_neg (by rw [hcreate]; decide), if_neg (by rw [halter]; decide),
    if_pos hcomment]
  rw [hmarker] at hclear ⊢
  exact breakBefore_eq hplain hclear hclause

/-- **A statement about a comment is broken in front of its clause**, and its literal stays as it
is. -/
theorem layout_commentOn (hkind : Bare kind) (hname : Bare name) (comment : String) :
    layout ("comment on " ++ kind ++ " " ++ name ++ " is " ++ literal comment ++ ";") =
      "comment on " ++ kind ++ " " ++ name ++ "\n    is " ++ literal comment ++ ";" := by
  have htext : ("comment on " ++ kind ++ " " ++ name ++ " is " ++ literal comment ++ ";").toList =
      commentFront kind name ++ ' ' :: commentClause comment := by
    unfold commentFront commentClause
    simp
  rw [layout, htext, collapse_of_tight (tight_commentOn hkind hname comment)
    (trimmed_commentOn kind name comment), layoutCollapsed_commentOn hkind hname,
    ← String.toList_inj, String.toList_ofList]
  unfold commentFront commentClause
  simp [indent]

end CommentOn

end Layout

/-! ## Comments in statements -/

/-- A function of a comment writes its literal at one place, between texts that are the same for
every comment. -/
structure Encloses (write : String → String) (front back : String) : Prop where
  written : ∀ comment, write comment = front ++ literal comment ++ back
  /-- Read from its opening quote, the literal gives back the comment and ends where it should. -/
  read : ∀ comment (rest : List Char), (back.toList ++ rest).head? ≠ some '\'' →
    readLiteral? ((literal comment).toList ++ (back.toList ++ rest)) =
      some (comment.toList, back.toList ++ rest)
  /-- A scan sees every character of the literal as quoted, and stands outside behind it. -/
  covered : ∀ comment, Covered literalQuotes none (literal comment).toList
  /-- Different comments give different texts. -/
  injective : ∀ comment other, write comment = write other → comment = other

theorem Encloses.of_written {write : String → String} {front back : String}
    (h : ∀ comment, write comment = front ++ literal comment ++ back) :
    Encloses write front back where
  written := h
  read comment _ hrest := readLiteral?_literal comment hrest
  covered comment := covered_literal comment
  injective comment other hsame := by
    rw [h, h, String.append_left_inj, String.append_right_inj] at hsame
    exact literal_inj hsame

namespace Dialect

/-- Whatever a dialect writes for a comment encloses it: statements about comments, the forms for
comments inside a CREATE TABLE statement, and that statement as a whole. -/
structure EnclosesComments (dialect : Dialect) : Prop where
  onTable : ∀ table,
    Encloses (commentOnTable table) ("comment on table " ++ table ++ " is ") ";"
  onColumn : ∀ table column, Encloses (commentOnColumn table column)
    ("comment on column " ++ table ++ "." ++ column ++ " is ") ";"
  columnForm : ∀ form, dialect.features.columnComment = some form →
    Encloses form.write " comment " ""
  tableForm : ∀ form, dialect.features.tableComment = some form →
    Encloses form.write " comment=" ""
  /-- With the comment behind one of its columns. -/
  createColumn : ∀ form, dialect.features.columnComment = some form →
    ∀ table columns definition others, ∃ front back, Encloses (fun comment =>
        dialect.createTable table (columns ++ (definition ++ form.write comment) :: others))
      front back
  /-- With the comment of the table behind its definitions. -/
  createTable : ∀ form, dialect.features.commentOn = false →
    dialect.features.tableComment = some form → ∀ (table : Table) columns, ∃ front back,
      Encloses (fun comment => dialect.createTable (table.setComment comment) columns) front back

theorem columnForm_write {dialect : Dialect} {form : CommentForm}
    (h : dialect.features.columnComment = some form) (comment : String) :
    form.write comment = " comment " ++ literal comment := by
  rcases dialect.columnComment_eq with hform | hform
  · rw [hform] at h
    cases h
  · obtain rfl := Option.some.inj (hform.symm.trans h)
    exact CommentForm.write_eq (by decide) comment

theorem tableForm_write {dialect : Dialect} {form : CommentForm}
    (h : dialect.features.tableComment = some form) (comment : String) :
    form.write comment = " comment=" ++ literal comment := by
  rcases dialect.tableComment_eq with hform | hform
  · rw [hform] at h
    cases h
  · obtain rfl := Option.some.inj (hform.symm.trans h)
    exact CommentForm.write_eq (by decide) comment

theorem encloses (dialect : Dialect) : dialect.EnclosesComments where
  onTable _ := .of_written fun _ => rfl
  onColumn _ _ := .of_written fun _ => rfl
  columnForm form hform := .of_written fun comment => by
    rw [columnForm_write hform, String.append_empty]
  tableForm form hform := .of_written fun comment => by
    rw [tableForm_write hform, String.append_empty]
  createColumn form hform table columns definition others := by
    obtain ⟨front, back, hcreate⟩ := dialect.exists_createTable_column table columns others
    refine ⟨front ++ definition ++ " comment ", back, .of_written fun comment => ?_⟩
    rw [hcreate, columnForm_write hform]
    simp only [String.append_assoc]
  createTable form hon hform table columns := by
    obtain ⟨front, back, rest, hcreate⟩ := dialect.exists_createTable_comment table columns
    refine ⟨front ++ " comment=", back, .of_written fun comment => ?_⟩
    have hinline : inlineComment (some form) (some comment) = some (form.write comment) := rfl
    rw [hcreate, if_neg (by simp [hon]), hform, hinline, Option.map_some, Option.getD_some,
      tableForm_write hform]
    simp only [String.append_assoc]

/-- **No comment leaves its literal**, whatever it holds: every text that a dialect writes for
comments encloses them, so that different comments have different statements. A statement about a
comment is laid out with its literal as it was, if the table and the column have bare names. -/
theorem enclosesComments (dialect : Dialect) :
    dialect.EnclosesComments ∧
      (∀ {table : String}, Layout.Bare table → ∀ comment,
        layout (commentOnTable table comment) =
          "comment on table " ++ table ++ "\n    is " ++ literal comment ++ ";") ∧
      ∀ {table column : String}, Layout.Bare table → Layout.Bare column → ∀ comment,
        layout (commentOnColumn table column comment) =
          "comment on column " ++ table ++ "." ++ column ++ "\n    is " ++ literal comment ++
            ";" := by
  have hkinds : Layout.Bare "table" ∧ Layout.Bare "column" ∧ Layout.Bare "." :=
    ⟨⟨by decide, by decide⟩, ⟨by decide, by decide⟩, ⟨by decide, by decide⟩⟩
  have hopenings : "comment on table " = "comment on " ++ "table" ++ " " ∧
      "comment on column " = "comment on " ++ "column" ++ " " := by simp
  obtain ⟨htableKind, hcolumnKind, hpoint⟩ := hkinds
  obtain ⟨htableOpening, hcolumnOpening⟩ := hopenings
  refine ⟨dialect.encloses, fun htable comment => ?_, fun htable hcolumn comment => ?_⟩
  · unfold commentOnTable
    rw [htableOpening]
    exact Layout.layout_commentOn htableKind htable comment
  · have hlayout := Layout.layout_commentOn hcolumnKind ((htable.append hpoint).append hcolumn)
      comment
    unfold commentOnColumn
    rw [hcolumnOpening]
    simpa only [String.append_assoc] using hlayout

/-- Quotes, a semicolon, a new line and the text that stands for comments make no difference. -/
theorem enclosesComments_mySql :
    (∃ form, Features.mySql.columnComment = some form ∧
      form.write "it's; _COMMENT\n'" = " comment 'it''s; _COMMENT\n'''" ∧
      readLiteral? "'it''s; _COMMENT\n''',".toList = some ("it's; _COMMENT\n'".toList, [','])) ∧
    layout (commentOnTable "ORDERS" "it's  is ';'") =
      "comment on table ORDERS\n    is 'it''s  is '';''';" ∧
    layout (commentOnColumn "ORDERS" "TOTAL" " is '") =
      "comment on column ORDERS.TOTAL\n    is ' is ''';" := by
  have horders : Layout.Bare "ORDERS" := ⟨by decide, by decide⟩
  have htotal : Layout.Bare "TOTAL" := ⟨by decide, by decide⟩
  have hliterals : literal "it's; _COMMENT\n'" = "'it''s; _COMMENT\n'''" ∧
      literal "it's  is ';'" = "'it''s  is '';'''" ∧ literal " is '" = "' is '''" := by decide
  obtain ⟨hfirst, hsecond, hthird⟩ := hliterals
  obtain ⟨hcomments, htable, hcolumn⟩ := enclosesComments .mySql
  have hform := hcomments.columnForm _ rfl
  refine ⟨⟨_, rfl, ?_, ?_⟩, ?_, ?_⟩
  · rw [hform.written, hfirst]
    decide
  · have hread := hform.read "it's; _COMMENT\n'" [','] (by decide)
    rw [hfirst] at hread
    exact hread
  · rw [htable horders, hsecond]
    decide
  · rw [hcolumn horders htotal, hthird]
    decide

end Dialect

end PolySql
