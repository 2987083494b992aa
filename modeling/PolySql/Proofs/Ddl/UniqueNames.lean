import PolySql.Ddl.Statement
import PolySql.Lookup
import PolySql.Proofs.Text.Lexemes

/-!
# The names of unique constraints

A unique column whose constraint has no name gets one that is put together from the names of the
table and of the column, as they are written. Names in quotes keep their quotes in it.

* `Family.aroundName`, `Family.uniqueShape` — the lexemes of a statement that makes a column unique.
* `lexemes_statement` — every statement has the shape of its family, with the lexemes of the
  constraint's name where one identifier is to stand.
* `Lexeme.joined`, `lexemes_constraintName` — what these are: one lexeme if no part is in quotes,
  and up to four otherwise.
* `NameCheck.check_quote`, `NameCheck.check_word` — the name checks let every name in quotes
  through, and every word that is not reserved.

Principal result: `uniqueStatement?_names_iff` — a statement names one constraint exactly if the
names of its table and of its column are bare. `constraintName_torn` is a table with a name in
quotes that makes three lexemes of the constraint's name.
-/

namespace PolySql

open Text SelectList

variable {alphabet : Alphabet}

/-! ## Shapes -/

open Lexeme in
/-- What stands in front of the constraint's name and behind it. -/
def Family.aroundName (family : Family) (table column : Lexeme) : List Lexeme × List Lexeme :=
  let columns : List Lexeme := [.mark '(', column, .mark ')']
  match family with
  | .db2 | .derby =>
    (words ["create", "unique", "index"], words ["on"] ++ table :: (columns ++ [.mark ';']))
  | .informix =>
    (words ["alter", "table"] ++ table :: (words ["add", "constraint", "unique"] ++
      (columns ++ words ["constraint"])), [.mark ';'])
  | .mySql =>
    (words ["alter", "table"] ++ table :: words ["add", "unique", "index"],
      columns ++ [.mark ';'])
  | _ =>
    (words ["alter", "table"] ++ table :: words ["add", "constraint"],
      words ["unique"] ++ (columns ++ [.mark ';']))

/-- The lexemes of a statement that makes a column unique. -/
def Family.uniqueShape (family : Family) (name : List Lexeme) (table column : Lexeme) :
    List Lexeme :=
  (family.aroundName table column).1 ++ name ++ (family.aroundName table column).2

theorem Family.uniqueShape_inj {family : Family} {name name' : List Lexeme}
    {table column : Lexeme} :
    family.uniqueShape name table column = family.uniqueShape name' table column ↔
      name = name' := by
  unfold uniqueShape
  rw [List.append_left_inj, List.append_right_inj]

/-! ## Reading a statement -/

theorem lexemes_columns {column : Lexeme} (h : column.IsIdentifier alphabet) (r : List Char) :
    lexemes alphabet ('(' :: (column.text ++ ')' :: r)) =
      [.mark '(', column, .mark ')'] ++ lexemes alphabet r := by
  rw [lexemes_mark (by decide) (by decide) (by decide) (by decide),
    lexemes_identifier_break h breaks_parenthesis,
    lexemes_mark (by decide) (by decide) (by decide) (by decide)]
  rfl

theorem lexemes_end : lexemes alphabet [';'] = [.mark ';'] :=
  lexemes_mark (by decide) (by decide) (by decide) (by decide) []

section Statement

variable {T C : Lexeme} {table column name : String}

/-- The statement of DB2 and Derby. -/
theorem lexemes_createIndex (hT : T.IsIdentifier alphabet) (hC : C.IsIdentifier alphabet)
    (htable : table.toList = T.text) (hcolumn : column.toList = C.text)
    (hname : (Scan.run alphabet .between name.toList).2.isInside = false) :
    lexemes alphabet
        ("create unique index " ++ name ++ " on " ++ table ++ " (" ++ column ++ ");").toList =
      Family.derby.uniqueShape (lexemes alphabet name.toList) T C := by
  have htext : ("create unique index " ++ name ++ " on " ++ table ++ " (" ++ column ++
      ");").toList = phrase ["create", "unique", "index"] ++ (name.toList ++ ' ' ::
        (phrase ["on"] ++ (T.text ++ ' ' :: '(' :: (C.text ++ ')' :: [';'])))) := by
    simp [phrase, htable, hcolumn]
  rw [htext, lexemes_phrase (by decide), lexemes_break hname breaks_space, lexemes_space,
    lexemes_phrase (by decide), lexemes_identifier_break hT breaks_space, lexemes_space,
    lexemes_columns hC, lexemes_end]
  simp only [Family.uniqueShape, Family.aroundName, List.append_assoc]

/-- The statement of Informix, with the name behind the columns. -/
theorem lexemes_addConstraint_last (hT : T.IsIdentifier alphabet) (hC : C.IsIdentifier alphabet)
    (htable : table.toList = T.text) (hcolumn : column.toList = C.text)
    (hname : (Scan.run alphabet .between name.toList).2.isInside = false) :
    lexemes alphabet ("alter table " ++ table ++ " add constraint unique (" ++ column ++
        ") constraint " ++ name ++ ";").toList =
      Family.informix.uniqueShape (lexemes alphabet name.toList) T C := by
  have htext : ("alter table " ++ table ++ " add constraint unique (" ++ column ++
      ") constraint " ++ name ++ ";").toList = phrase ["alter", "table"] ++ (T.text ++ ' ' ::
        (phrase ["add", "constraint", "unique"] ++ '(' :: (C.text ++ ')' :: ' ' ::
          (phrase ["constraint"] ++ (name.toList ++ ';' :: []))))) := by
    simp [phrase, htable, hcolumn]
  rw [htext, lexemes_phrase (by decide), lexemes_identifier_break hT breaks_space, lexemes_space,
    lexemes_phrase (by decide), lexemes_columns hC, lexemes_space, lexemes_phrase (by decide),
    lexemes_break hname breaks_semicolon, lexemes_end]
  simp only [Family.uniqueShape, Family.aroundName, List.append_assoc, List.cons_append]

/-- The statement of MySQL. -/
theorem lexemes_addIndex (hT : T.IsIdentifier alphabet) (hC : C.IsIdentifier alphabet)
    (htable : table.toList = T.text) (hcolumn : column.toList = C.text)
    (hname : (Scan.run alphabet .between name.toList).2.isInside = false) :
    lexemes alphabet ("alter table " ++ table ++ " add unique index " ++ name ++ " (" ++ column ++
        ");").toList =
      Family.mySql.uniqueShape (lexemes alphabet name.toList) T C := by
  have htext : ("alter table " ++ table ++ " add unique index " ++ name ++ " (" ++ column ++
      ");").toList = phrase ["alter", "table"] ++ (T.text ++ ' ' ::
        (phrase ["add", "unique", "index"] ++ (name.toList ++ ' ' :: '(' ::
          (C.text ++ ')' :: [';'])))) := by
    simp [phrase, htable, hcolumn]
  rw [htext, lexemes_phrase (by decide), lexemes_identifier_break hT breaks_space, lexemes_space,
    lexemes_phrase (by decide), lexemes_break hname breaks_space, lexemes_space,
    lexemes_columns hC, lexemes_end]
  simp only [Family.uniqueShape, Family.aroundName, List.append_assoc, List.cons_append]

/-- The statement of the other families. -/
theorem lexemes_addConstraint (hT : T.IsIdentifier alphabet) (hC : C.IsIdentifier alphabet)
    (htable : table.toList = T.text) (hcolumn : column.toList = C.text)
    (hname : (Scan.run alphabet .between name.toList).2.isInside = false) :
    lexemes alphabet ("alter table " ++ table ++ " add constraint " ++ name ++ " unique (" ++
        column ++ ");").toList =
      Family.h2.uniqueShape (lexemes alphabet name.toList) T C := by
  have htext : ("alter table " ++ table ++ " add constraint " ++ name ++ " unique (" ++ column ++
      ");").toList = phrase ["alter", "table"] ++ (T.text ++ ' ' :: (phrase ["add", "constraint"] ++
        (name.toList ++ ' ' :: (phrase ["unique"] ++ '(' :: (C.text ++ ')' :: [';']))))) := by
    simp [phrase, htable, hcolumn]
  rw [htext, lexemes_phrase (by decide), lexemes_identifier_break hT breaks_space, lexemes_space,
    lexemes_phrase (by decide), lexemes_break hname breaks_space, lexemes_space,
    lexemes_phrase (by decide), lexemes_columns hC, lexemes_end]
  simp only [Family.uniqueShape, Family.aroundName, List.append_assoc, List.cons_append]

/-- **A statement has the shape of its family**, with whatever the constraint's name is read as. -/
theorem lexemes_statement (dialect : Dialect) {column : Column} {statement : String}
    (hT : T.IsIdentifier alphabet) (hC : C.IsIdentifier alphabet)
    (htable : table.toList = T.text) (hcolumn : column.name.toList = C.text)
    (hname : (Scan.run alphabet .between (column.constraintName table).toList).2.isInside = false)
    (h : dialect.uniqueStatement? table column = some statement) :
    lexemes alphabet statement.toList =
      dialect.family.uniqueShape (lexemes alphabet (column.constraintName table).toList) T C := by
  unfold Dialect.uniqueStatement? at h
  split at h
  case isFalse => cases h
  obtain rfl := Option.some.inj h
  cases dialect.family
  case db2 | derby => exact lexemes_createIndex hT hC htable hcolumn hname
  case informix => exact lexemes_addConstraint_last hT hC htable hcolumn hname
  case mySql => exact lexemes_addIndex hT hC htable hcolumn hname
  all_goals exact lexemes_addConstraint hT hC htable hcolumn hname

end Statement

/-! ## The name of the constraint -/

/-- The lexemes of the name that is put together from the names of a table and of a column. -/
def Lexeme.joined : Lexeme → Lexeme → List Lexeme
  | .bare table, .bare column => [.bare ("UK_".toList ++ table ++ '_' :: column)]
  | .bare table, column => [.bare ("UK_".toList ++ table ++ ['_']), column]
  | table, .bare column => [.bare "UK_".toList, table, .bare ('_' :: column)]
  | table, column => [.bare "UK_".toList, table, .bare ['_'], column]

theorem Lexeme.exists_joined_eq_singleton_iff {T C : Lexeme} :
    (∃ N, T.joined C = [N]) ↔ T.isBare = true ∧ C.isBare = true := by
  cases T <;> cases C <;> simp [joined, isBare]

/-- A word ends where a quote opens. -/
theorem Scan.run_word_quote (front : List Char) (quoting : Quoting) (content : List Char) :
    run alphabet (.word front) (quoting.quote content) =
      ([.bare front], .behind quoting content) := by
  rw [Quoting.quote, run, next, if_neg (by simp [alphabet.not_opening]), start_opening, run_inside]
  rfl

/-- A name in quotes ends where a word begins. -/
theorem Scan.run_behind_word (quoting : Quoting) (content : List Char) {c : Char}
    {letters : List Char} (hc : c ≠ quoting.closing)
    (h : ∀ d ∈ c :: letters, alphabet.holds d = true) :
    run alphabet (.behind quoting content) (c :: letters) =
      ([.quoted quoting content], .word (c :: letters)) := by
  rw [run, next, if_neg hc, start_letter (h c List.mem_cons_self),
    run_word _ fun d hd => h d (List.mem_cons_of_mem _ hd)]
  rfl

section Name

variable {T C : Lexeme} {table : String} {column : Column}

theorem toList_constraintName (htable : table.toList = T.text)
    (hcolumn : column.name.toList = C.text) (hname : column.uniqueName = none) :
    (column.constraintName table).toList = "UK_".toList ++ (T.text ++ (['_'] ++ C.text)) := by
  simp [Column.constraintName, hname, htable, hcolumn]

theorem Alphabet.holds_of_all {s : List Char} (h : s.all inWord = true) :
    ∀ c ∈ s, alphabet.holds c = true :=
  fun c hc => alphabet.letters c (List.all_eq_true.1 h c hc)

/-- **What the name is read as.** A scan of it ends outside of quotes. -/
theorem lexemes_constraintName (hT : T.IsIdentifier alphabet) (hC : C.IsIdentifier alphabet)
    (htable : table.toList = T.text) (hcolumn : column.name.toList = C.text)
    (hname : column.uniqueName = none) :
    (Scan.run alphabet .between (column.constraintName table).toList).2.isInside = false ∧
      lexemes alphabet (column.constraintName table).toList = T.joined C := by
  have hjoint : ∀ c ∈ ['_'], alphabet.holds c = true := Alphabet.holds_of_all (by decide)
  have hclosing : ∀ quoting : Quoting, '_' ≠ quoting.closing := fun quoting => by
    cases quoting <;> decide
  have hbegins : ∀ c ∈ "UK_".toList, alphabet.holds c = true := Alphabet.holds_of_all (by decide)
  have hfront := Scan.run_letters (by decide) hbegins
  rw [lexemes, toList_constraintName htable hcolumn hname]
  simp only [Scan.run_append, hfront]
  cases hT with
  | bare _ ht =>
    simp only [Lexeme.text, Scan.run_word _ ht, Scan.run_word _ hjoint]
    cases hC with
    | bare _ hc => simp [Scan.run_word _ hc, Scan.isInside, Scan.finish, Lexeme.joined]
    | quoted quoting content =>
      simp [Scan.run_word_quote, Scan.isInside, Scan.finish, Lexeme.joined]
  | quoted quoting content =>
    simp only [Lexeme.text, Scan.run_word_quote, Scan.run_behind_word _ _ (hclosing _) hjoint]
    cases hC with
    | bare _ hc => simp [Scan.run_word _ hc, Scan.isInside, Scan.finish, Lexeme.joined]
    | quoted quoting content =>
      simp [Scan.run_word_quote, Scan.isInside, Scan.finish, Lexeme.joined]

/-- **The name is an identifier exactly if no part of it is in quotes.** -/
theorem exists_identifier_constraintName_iff (hT : T.IsIdentifier alphabet)
    (hC : C.IsIdentifier alphabet) (htable : table.toList = T.text)
    (hcolumn : column.name.toList = C.text) (hname : column.uniqueName = none) :
    (∃ N : Lexeme, N.IsIdentifier alphabet ∧ (column.constraintName table).toList = N.text) ↔
      T.isBare = true ∧ C.isBare = true := by
  constructor
  · rintro ⟨N, hN, htext⟩
    have hlexemes := (lexemes_constraintName hT hC htable hcolumn hname).2
    rw [htext, lexemes_identifier hN] at hlexemes
    exact Lexeme.exists_joined_eq_singleton_iff.1 ⟨N, hlexemes.symm⟩
  · rintro ⟨hbareT, hbareC⟩
    rw [toList_constraintName htable hcolumn hname]
    cases hT with
    | quoted => cases hbareT
    | bare hne ht =>
      cases hC with
      | quoted => cases hbareC
      | bare _ hc =>
        have hfront : ∀ c ∈ "UK_".toList, alphabet.holds c = true :=
          Alphabet.holds_of_all (by decide)
        have hjoint : ∀ c ∈ ['_'], alphabet.holds c = true := Alphabet.holds_of_all (by decide)
        refine ⟨.bare _, .bare (by simp) fun d hd => ?_, rfl⟩
        simp only [List.mem_append] at hd
        rcases hd with hd | hd | hd | hd
        · exact hfront d hd
        · exact ht d hd
        · exact hjoint d hd
        · exact hc d hd

/-- **A unique statement names one constraint exactly if the names of the table and of the column
are bare.** It always has the shape of its family, with one table and one column; but a name in
quotes makes several lexemes of the constraint's name, if the column gives no other. -/
theorem uniqueStatement?_names_iff (dialect : Dialect) (hT : T.IsIdentifier alphabet)
    (hC : C.IsIdentifier alphabet) (htable : table.toList = T.text)
    (hcolumn : column.name.toList = C.text) (hunique : column.unique = true)
    (hname : column.uniqueName = none) :
    ∃ statement, dialect.uniqueStatement? table column = some statement ∧
      lexemes alphabet (column.constraintName table).toList = T.joined C ∧
      lexemes alphabet statement.toList = dialect.family.uniqueShape (T.joined C) T C ∧
      ((∃ N : Lexeme, N.IsIdentifier alphabet ∧ (column.constraintName table).toList = N.text) ↔
        T.isBare = true ∧ C.isBare = true) ∧
      ((∃ N, lexemes alphabet statement.toList = dialect.family.uniqueShape [N] T C) ↔
        T.isBare = true ∧ C.isBare = true) := by
  obtain ⟨hclosed, hjoined⟩ := lexemes_constraintName hT hC htable hcolumn hname
  obtain ⟨statement, hstatement⟩ :
      ∃ statement, dialect.uniqueStatement? table column = some statement := by
    rw [Dialect.uniqueStatement?, if_pos hunique]
    exact ⟨_, rfl⟩
  have hshape := lexemes_statement dialect hT hC htable hcolumn hclosed hstatement
  rw [hjoined] at hshape
  refine ⟨statement, hstatement, hjoined, hshape,
    exists_identifier_constraintName_iff hT hC htable hcolumn hname, ?_⟩
  simp only [hshape, Family.uniqueShape_inj]
  exact Lexeme.exists_joined_eq_singleton_iff

end Name

/-- Letters beyond ASCII are letters for some databases only; names without them are read alike. -/
theorem uniqueStatement?_names_mySql : ∃ statement,
    Dialect.uniqueStatement? .mySql57 "orders" { name := "id_2", unique := true } =
      some statement ∧
    statement = "alter table orders add unique index UK_orders_id_2 (id_2);" ∧
    ∃ N, lexemes .ofAscii statement.toList =
      Family.mySql.uniqueShape [N] (.bare "orders".toList) (.bare "id_2".toList) := by
  have horders : (Lexeme.bare "orders".toList).IsIdentifier .ofAscii :=
    .bare (by decide) (Alphabet.holds_of_all (by decide))
  have hid : (Lexeme.bare "id_2".toList).IsIdentifier .ofAscii :=
    .bare (by decide) (Alphabet.holds_of_all (by decide))
  let column : Column := { name := "id_2", unique := true }
  have hcolumn : column.name.toList = (Lexeme.bare "id_2".toList).text := rfl
  have htable : "orders".toList = (Lexeme.bare "orders".toList).text := rfl
  obtain ⟨statement, hstatement, -, -, -, hone⟩ :=
    uniqueStatement?_names_iff .mySql57 horders hid htable hcolumn rfl rfl
  have htext : Dialect.uniqueStatement? .mySql57 "orders" column =
      some "alter table orders add unique index UK_orders_id_2 (id_2);" := by rfl
  exact ⟨statement, hstatement, Option.some.inj (hstatement.symm.trans htext), hone.2 ⟨rfl, rfl⟩⟩

/-- The name checks take a name in quotes, whatever it holds. -/
theorem NameCheck.check_quote (nameCheck : NameCheck) (dialect : Dialect) {name : String}
    {quoting : Quoting} {content : List Char} (h : name.toList = quoting.quote content) :
    nameCheck.check dialect name = .ok () := by
  have htrim : trim name.toList = quoting.quote content := by
    rw [h]
    refine trim_eq_self (fun c hc => ?_) fun c hc => ?_
    · obtain rfl : quoting.opening = c := by simpa [Quoting.quote] using hc
      cases quoting <;> decide
    · obtain rfl : quoting.closing = c := by
        rw [Quoting.quote, List.getLast?_cons, List.getLast?_append] at hc
        simpa using hc
      cases quoting <;> decide
  have hopening : startsQuoted (quoting.quote content) = true := by cases quoting <;> rfl
  unfold check
  simp only [htrim, hopening]
  cases nameCheck <;> rfl

/-- They take a word that is not reserved. -/
theorem NameCheck.check_word (nameCheck : NameCheck) (dialect : Dialect) {name : String}
    (hne : name ≠ "") (hword : name.toList.all inWord = true)
    (h : dialect.isReserved name = false) : nameCheck.check dialect name = .ok () := by
  have hvisible : ∀ c ∈ name.toList, isBlank c = false := fun c hc =>
    not_isBlank_of_inWord (List.all_eq_true.1 hword c hc)
  have htrim : trim name.toList = name.toList :=
    trim_eq_self (fun c hc => hvisible c (List.mem_of_mem_head? hc)) fun c hc =>
      hvisible c (List.mem_of_getLast? hc)
  have hsome : name.toList.isEmpty = false := by simpa using hne
  unfold check
  simp only [htrim, hsome, String.ofList_toList, h]
  cases nameCheck <;> simp

/-- A table whose name is quoted because it is reserved: the constraint's name has quotes in its
middle, and the statement is no longer one about one name. -/
theorem constraintName_torn :
    let column : Column := { name := "a", type := .integer, unique := true }
    NameCheck.keywords.check .postgreSql95 "\"order\"" = .ok () ∧
    NameCheck.keywords.check .postgreSql95 "a" = .ok () ∧
    "\"order\"".toList = (Lexeme.quoted .double "order".toList).text ∧
    Dialect.uniqueStatement? .postgreSql95 "\"order\"" column =
      some "alter table \"order\" add constraint UK_\"order\"_a unique (a);" ∧
    lexemes .ofAscii (column.constraintName "\"order\"").toList =
      [.bare "UK_".toList, .quoted .double "order".toList, .bare "_a".toList] ∧
    ¬∃ N : Lexeme, N.IsIdentifier .ofAscii ∧
      (column.constraintName "\"order\"").toList = N.text := by
  have horder : (Lexeme.quoted .double "order".toList).IsIdentifier .ofAscii := .quoted _ _
  have ha : (Lexeme.bare "a".toList).IsIdentifier .ofAscii :=
    .bare (by decide) (Alphabet.holds_of_all (by decide))
  have htext : "\"order\"".toList = Quoting.double.quote "order".toList := by rfl
  refine ⟨NameCheck.check_quote _ _ htext,
    NameCheck.check_word _ _ (by decide) (by decide) (by decide +kernel), htext, by rfl, by rfl,
    fun hone => ?_⟩
  have hbare := (exists_identifier_constraintName_iff horder ha htext rfl rfl).1 hone
  exact Bool.noConfusion hbare.1

end PolySql
