import PolySql.Proofs.Ddl.CommentLiterals
import PolySql.Proofs.Ddl.Outcome
import PolySql.Proofs.Ddl.UniqueNames
import PolySql.Proofs.Layout.TornNames

/-!
# Which names in brackets a layout keeps

The name checks take names in brackets as they take names in other quotes. A layout does not.

* `bracketedName` — a name in brackets, as a table may have it.
* `Relates` — how often a name stands in each statement of a table with a layout, against how often
  it stands there without.
* `steady_of_relates` — a content in which a layout finds something to move makes a table whose
  statements lose the name; `visible_of_relates` — a content with spaces makes one whose default
  becomes the name.

Principal result: `relates_iff_steady` — a layout loses no name exactly if its content is steady,
and keeps the count of a name exactly if its content holds neither blanks nor delimiters.
`not_relates_spaces` is a name with two spaces.
-/

namespace PolySql

open Text Layout

/-- A name in brackets. -/
def bracketedName (content : List Char) : String := String.ofList (bracketed content)

theorem toList_bracketedName (content : List Char) :
    (bracketedName content).toList = bracketed content := String.toList_ofList

/-- A name in brackets is taken by the name checks of every dialect. -/
theorem check_bracketedName {content : List Char} (h : FreeOfQuotes content)
    (nameCheck : NameCheck) (dialect : Dialect) :
    nameCheck.check dialect (bracketedName content) = .ok () := by
  have htext : (bracketedName content).toList = SelectList.Quoting.brackets.quote content := by
    rw [toList_bracketedName, SelectList.Quoting.quote, SelectList.Quoting.closing,
      doubled_of_not_mem h.closing]
    rfl
  exact NameCheck.check_quote nameCheck dialect htext

namespace Generator

/-- In each statement of a table, how often a name stands there with a layout is related to how
often it stands there without. -/
def Relates (relation : Nat → Nat → Prop) (name : String) : Prop :=
  ∀ (generator : Generator) (table : Table) (plain : Generated), name ∈ identifiers table →
    (generator.setFormat false).generate table = .ok plain →
      ∃ formatted, (generator.setFormat true).generate table = .ok formatted ∧
        formatted.statements.length = plain.statements.length ∧
        ∀ (i : Nat) (before after : String), plain.statements[i]? = some before →
          formatted.statements[i]? = some after →
            relation (occurrences name.toList before.toList)
              (occurrences name.toList after.toList)

theorem generate_setFormat (generator : Generator) (table : Table) :
    (generator.setFormat true).generate table =
      ((generator.setFormat false).generate table).map fun generated =>
        { generated with statements := generated.statements.map layout } := by
  have hrender : ∀ format,
      ((generator.setFormat format).render table).result = (generator.render table).result :=
    fun format => result_render_options generator { generator.options with format } table
  rw [generate_eq_bind, generate_eq_bind, hrender, hrender]
  cases (generator.render table).result with
  | error e => rfl
  | ok generated => exact finish_setFormat generator generated

theorem Relates.mono {relation weaker : Nat → Nat → Prop} {name : String}
    (h : Relates relation name) (himp : ∀ m n, relation m n → weaker m n) :
    Relates weaker name := by
  intro generator table plain hname hplain
  obtain ⟨formatted, hformatted, hlength, hall⟩ := h generator table plain hname hplain
  exact ⟨formatted, hformatted, hlength, fun i before after hbefore hafter =>
    himp _ _ (hall i before after hbefore hafter)⟩

theorem relates_iff {relation : Nat → Nat → Prop} {name : String} :
    Relates relation name ↔
      ∀ (generator : Generator) (table : Table) (plain : Generated), name ∈ identifiers table →
        (generator.setFormat false).generate table = .ok plain → ∀ s ∈ plain.statements,
          relation (occurrences name.toList s.toList)
            (occurrences name.toList (layout s).toList) := by
  constructor
  · intro h generator table plain hname hplain s hs
    obtain ⟨formatted, hformatted, -, hall⟩ := h generator table plain hname hplain
    obtain ⟨i, hi⟩ := List.mem_iff_getElem?.1 hs
    rw [generate_setFormat, hplain] at hformatted
    obtain rfl := Except.ok.inj hformatted
    exact hall i s (layout s) hi (by rw [List.getElem?_map, hi]; rfl)
  · intro h generator table plain hname hplain
    refine ⟨{ plain with statements := plain.statements.map layout }, ?_, ?_, ?_⟩
    · rw [generate_setFormat, hplain]
      rfl
    · exact List.length_map _
    · intro i before after hbefore hafter
      rw [List.getElem?_map, hbefore] at hafter
      obtain rfl : layout before = after := Option.some.inj hafter
      exact h generator table plain hname hplain before (List.mem_of_getElem? hbefore)

/-! ## Tables of one column -/

/-- A column of integers, unique if it has a name for that. -/
def integerColumn (column : String) (unique defaultValue : Option String) : Column where
  name := column
  type := .integer
  unique := unique.isSome
  uniqueName := unique
  defaultValue := defaultValue

/-- A table of one column of integers. -/
def integerTable (name column : String) (unique defaultValue comment : Option String) : Table :=
  Table.ofColumns name [integerColumn column unique defaultValue] none comment

section IntegerTable

variable {name column : String} {unique defaultValue comment : Option String}

theorem identifiers_integerTable :
    identifiers (integerTable name column unique defaultValue comment) =
      name :: column :: unique.toList := by
  cases unique <;> rfl

/-- Its column, as H2 writes it. -/
def integerText (column : String) (defaultValue : Option String) : String :=
  column ++ " integer" ++ (defaultValue.map (" default " ++ ·)).getD ""

theorem mapM_integerTable :
    (integerTable name column unique defaultValue comment).columnList.mapM
      (Dialect.columnText .h2 name) = .ok [integerText column defaultValue] := by
  have hspell : Dialect.spell .h2 .integer {} = .ok "integer" := by rfl
  have hmark : (Dialect.features .h2).nullMark = "" := by rfl
  have hcomment : (Dialect.features .h2).columnComment = none := by rfl
  have hcolumn : Dialect.columnText .h2 name (integerColumn column unique defaultValue) =
      .ok (integerText column defaultValue) := by
    unfold integerText
    cases defaultValue <;>
      simp [integerColumn, Dialect.columnText, Dialect.columnDefinition, hspell, hmark, hcomment,
        Except.map, checkClause, inlineComment, notBlank?, String.append_assoc]
  have hlist : (integerTable name column unique defaultValue comment).columnList =
      [integerColumn column unique defaultValue] := rfl
  rw [hlist, List.mapM_cons, hcolumn]
  rfl

/-- The statement that makes it. -/
def integerCreate (name column : String) (unique defaultValue comment : Option String) : String :=
  Dialect.createTable .h2 (integerTable name column unique defaultValue comment)
    [integerText column defaultValue]

theorem toList_integerCreate :
    (integerCreate name column unique defaultValue comment).toList =
      "create table ".toList ++ (name.toList ++ (" (".toList ++ (column.toList ++
        (" integer".toList ++ (((defaultValue.map (" default " ++ ·)).getD "").toList ++
          ");".toList))))) := by
  have hcreate : ∀ text, Dialect.createTable .h2
      (integerTable name column unique defaultValue comment) [text] =
        "create table" ++ " " ++ name ++ " (" ++ text ++ ")" ++ "" ++ "" ++ ";" := fun _ => rfl
  rw [integerCreate, hcreate]
  simp [integerText]

theorem toList_integerCreate_default (name : String) (value : List Char) :
    (integerCreate name "x" none (some (String.ofList value)) none).toList =
      "create table ".toList ++ (name.toList ++
        (" (x integer default ".toList ++ (value ++ ");".toList))) := by
  have hcolumn : " (x integer default ".toList =
      " (".toList ++ ("x".toList ++ (" integer".toList ++ " default ".toList)) := by decide
  have hdefault : ((Option.map (" default " ++ ·) (some (String.ofList value))).getD "").toList =
      " default ".toList ++ value := by simp
  simp only [toList_integerCreate, hdefault, hcolumn, List.append_assoc]

theorem integerCreate_mem : integerCreate name column unique defaultValue comment ∈
    Dialect.statements .h2 (integerTable name column unique defaultValue comment)
      [integerText column defaultValue] := by
  unfold integerCreate Dialect.statements
  simp

/-- What is related in all statements is related in those of such a table. -/
theorem Relates.integerTable {relation : Nat → Nat → Prop} {content : List Char}
    (h : Relates relation (bracketedName content))
    (hname : bracketedName content ∈ name :: column :: unique.toList)
    (hchecked : ∀ other ∈ name :: column :: unique.toList,
      NameCheck.keywords.check .h2 other = .ok ())
    {s : String} {text : List Char}
    (hs : s ∈ Dialect.statements .h2 (integerTable name column unique defaultValue comment)
      [integerText column defaultValue])
    (htext : s.toList = text) :
    relation (occurrences (bracketed content) text)
      (occurrences (bracketed content) (layoutCollapsed (collapse text))) := by
  let generator : Generator := { dialect := .h2 }
  have hnames : (generator.setFormat false).TakesNames
      (Generator.integerTable name column unique defaultValue comment) := by
    intro other hother e hrefused
    have herror : NameCheck.keywords.check .h2 other = .error e :=
      NameCheck.check_eq_error_iff.2 hrefused
    rw [hchecked other (identifiers_integerTable ▸ hother)] at herror
    cases herror
  have hrelated := relates_iff.1 h (generator.setFormat false) _ _
    (identifiers_integerTable ▸ hname) (generate_of_columns hnames mapM_integerTable) s hs
  rwa [toList_bracketedName, layout, String.toList_ofList, htext] at hrelated

end IntegerTable

/-! ## Contents that are torn -/

section Torn

variable {content : List Char}

theorem checked_names (hfree : FreeOfQuotes content) : ∀ other ∈ [bracketedName content, "x"],
    NameCheck.keywords.check .h2 other = .ok () := by
  rw [List.forall_mem_cons, List.forall_mem_singleton]
  exact ⟨check_bracketedName hfree _ _,
    NameCheck.check_word _ _ (by decide) (by decide) (by decide +kernel)⟩

/-- A statement about the comment of a table is broken behind its name. -/
theorem layoutCollapsed_comment (hfree : FreeOfQuotes content) :
    layoutCollapsed ("comment on table ".toList ++ (bracketed content ++ " is 'c';".toList)) =
      "comment on table ".toList ++
        (bracketed content ++ '\n' :: (indent ++ "is 'c';".toList)) := by
  have hplain : ∀ c ∈ "comment on table ".toList ++ bracketed content, literalQuotes c = none := by
    rw [List.forall_mem_append]
    exact ⟨forall_mem_of_all (by decide), hfree.literalQuotes_eq_none⟩
  have hmarker : " is '".toList = ' ' :: "is '".toList := rfl
  have hclause : " is 'c';".toList = ' ' :: ("is ".toList ++ "'c';".toList) := rfl
  have hcomment : ∀ r, layoutCollapsed ("comment on table ".toList ++ r) =
      breakBefore " is '".toList none ("comment on table ".toList ++ r) := fun _ => rfl
  rw [hcomment, ← List.append_assoc, hclause, hmarker,
    breakBefore_eq hplain (hmarker ▸ clear_of_plain hplain "'c';".toList) (by decide),
    List.append_assoc]
  rfl

/-- **Blanks that are no single spaces are moved** in the statement about the comment of a table. -/
theorem tight_of_relates (hfree : FreeOfQuotes content)
    (h : Relates (· ≤ ·) (bracketedName content)) : Tight none false content := by
  have htext : (commentOnTable (bracketedName content) "c").toList =
      "comment on table ".toList ++ (bracketed content ++ " is 'c';".toList) := by
    have hback : " is ".toList ++ ((literal "c").toList ++ ";".toList) = " is 'c';".toList := by
      decide
    unfold commentOnTable
    simp only [String.toList_append, List.append_assoc, toList_bracketedName, hback]
  have hs : commentOnTable (bracketedName content) "c" ∈ Dialect.statements .h2
      (integerTable (bracketedName content) "x" none none (some "c"))
      [integerText "x" none] := by
    have hcomment : Dialect.tableComment? .h2
        (integerTable (bracketedName content) "x" none none (some "c")) =
          some (commentOnTable (bracketedName content) "c") := rfl
    simp [Dialect.statements, hcomment]
  have hcollapse : collapse ("comment on table ".toList ++
      (bracketed content ++ " is 'c';".toList)) =
        "comment on table ".toList ++ (bracketed (squeezed content) ++ " is 'c';".toList) := by
    have hfront : ∀ r, squeeze none false ("comment on table ".toList ++ r) =
        "comment on table".toList ++ squeeze none true r := fun _ => rfl
    have hends := (trimmed_append_iff (a := "comment on table ".toList) (b := " is 'c';".toList)
      (by decide) (by decide) (bracketed content)).2 ⟨visible_of_map rfl, visible_of_map rfl⟩
    have hspace : "comment on table ".toList = "comment on table".toList ++ spaceIf true := by
      decide
    have hback : squeeze none false " is 'c';".toList = " is 'c';".toList := by decide
    rw [collapse, hends.trim_eq, hfront, squeeze_bracketed hfree, hback, hspace,
      List.append_assoc]
  have hrelated := h.integerTable List.mem_cons_self (checked_names hfree) hs htext
  rw [hcollapse, layoutCollapsed_comment (freeOfQuotes_squeezed hfree),
    occurrences_once (by decide) hfree (by decide) hfree,
    occurrences_once (by decide) (freeOfQuotes_squeezed hfree) (by decide) hfree,
    if_pos rfl] at hrelated
  refine (squeezed_eq_iff hfree).1 ?_
  by_cases heq : squeezed content = content
  · exact heq
  · rw [if_neg heq] at hrelated
    exact absurd hrelated (by decide)

/-- A text about a name, with the name at its place, stays as it is when it is collapsed. -/
theorem collapse_statement (hfree : FreeOfQuotes content) (htight : Tight none false content)
    {front back : List Char} (hfront : Tight none false front)
    (hcloser : closerAfterAll literalQuotes none front = none)
    (hhead : front.head?.map isBlank = some false) (hback : Tight none false back)
    (hlast : back.getLast? = some ';') :
    collapse (front ++ (bracketed content ++ back)) = front ++ (bracketed content ++ back) := by
  have hsome : front ≠ [] := by
    rintro rfl
    cases hhead
  have hsomeBack : back ≠ [] := by
    rintro rfl
    cases hlast
  refine collapse_around hfree htight hfront hcloser hback
    ((trimmed_append_iff hsome hsomeBack (bracketed content)).2
      ⟨visible_of_map hhead, visible_of_map ?_⟩)
  rw [hlast]
  rfl

/-- **A clause that is looked for in a statement is found in the name of its table.** -/
theorem unbroken_of_relates (hfree : FreeOfQuotes content) (htight : Tight none false content)
    (h : Relates (· ≤ ·) (bracketedName content)) :
    occursIn " add ".toList (lower content) = false := by
  rw [Bool.eq_false_iff]
  intro hoccurs
  let rest : List Char := " add constraint c unique (x);".toList
  let statement : String := "alter table " ++ bracketedName content ++ " add constraint " ++ "c" ++
    " unique (" ++ "x" ++ ");"
  have htext : statement.toList = "alter table ".toList ++ (bracketed content ++ rest) := by
    have hrest : rest = " add constraint ".toList ++ ("c".toList ++ (" unique (".toList ++
        ("x".toList ++ ");".toList))) := by decide
    simp only [statement, hrest, String.toList_append, List.append_assoc, toList_bracketedName]
  have hchecked : ∀ other ∈ [bracketedName content, "x", "c"],
      NameCheck.keywords.check .h2 other = .ok () := by
    have hnames : [bracketedName content, "x", "c"] = [bracketedName content, "x"] ++ ["c"] := rfl
    rw [hnames, List.forall_mem_append, List.forall_mem_singleton]
    exact ⟨checked_names hfree,
      NameCheck.check_word _ _ (by decide) (by decide) (by decide +kernel)⟩
  have hs : statement ∈ Dialect.statements .h2
      (integerTable (bracketedName content) "x" (some "c") none none) [integerText "x" none] := by
    have hunique : (integerTable (bracketedName content) "x" (some "c") none
        none).columnList.filterMap (Dialect.uniqueStatement? .h2 (bracketedName content)) =
          [statement] := rfl
    have hname : (integerTable (bracketedName content) "x" (some "c") none none).name =
        bracketedName content := rfl
    simp [Dialect.statements, hname, hunique]
  have hrelated := h.integerTable List.mem_cons_self hchecked hs htext
  rw [collapse_statement hfree htight (by decide) (by decide) (by decide) (by decide)
      (by decide),
    occurrences_layout_clause hfree htight hoccurs (by decide),
    occurrences_once (by decide) hfree (by decide) hfree, if_pos rfl] at hrelated
  exact absurd hrelated (by decide)

/-- What follows the name of a table if the default of its column is closing parentheses. -/
def closings (n : Nat) : List Char :=
  " (x integer default ".toList ++ (List.replicate n ')' ++ ");".toList)

theorem mem_closings {n : Nat} {c : Char} (h : c ∈ closings n) :
    c ∈ " (x integer default );".toList := by
  have hsplit : " (x integer default );".toList =
      " (x integer default ".toList ++ ");".toList := by decide
  rw [hsplit, List.mem_append]
  rcases List.mem_append.1 h with h | h
  · exact .inl h
  · rcases List.mem_append.1 h with h | h
    · exact .inr (List.eq_of_mem_replicate h ▸ List.mem_cons_self)
    · exact .inr h

theorem tight_closings (n : Nat) : Tight none false (closings n) := by
  have hvisible : ∀ c ∈ List.replicate n ')' ++ ");".toList, isBlank c = false := by
    rw [List.forall_mem_append]
    exact ⟨fun c hc => List.eq_of_mem_replicate hc ▸ rfl, forall_mem_of_all (by decide)⟩
  unfold closings
  rw [tight_append]
  exact ⟨by decide, tight_of_blanksQuoted (.of_visible hvisible) _⟩

theorem getLast?_closings (n : Nat) : (closings n).getLast? = some ';' := by
  unfold closings
  rw [← List.append_assoc, List.getLast?_append]
  rfl

theorem count_closings (n : Nat) :
    (closings n).count '(' = 1 ∧ (closings n).count ')' = n + 1 := by
  unfold closings
  simp [List.count_append, List.count_replicate]

/-- **A parenthesis in the name of a table is taken for the one in front of the definitions**, if
enough closing ones follow in a default. -/
theorem opening_not_mem_of_relates (hfree : FreeOfQuotes content)
    (htight : Tight none false content) (h : Relates (· ≤ ·) (bracketedName content)) :
    '(' ∉ content := by
  intro hmem
  obtain ⟨front, back, rfl, hfront⟩ := List.eq_append_cons_of_mem hmem
  let rest : List Char := closings (back.count '(' + 1)
  have hrelated := h.integerTable List.mem_cons_self (checked_names hfree) integerCreate_mem
    (toList_integerCreate_default _ (List.replicate (back.count '(' + 1) ')'))
  have htext : " (x integer default ".toList ++
      (List.replicate (back.count '(' + 1) ')' ++ ");".toList) = rest := rfl
  have hcharacters : ∀ c ∈ " (x integer default );".toList,
      literalQuotes c = none ∧ c ≠ '[' := forall_mem_of_all (by decide)
  have hplain : ∀ c ∈ rest, literalQuotes c = none := fun c hc =>
    (hcharacters c (mem_closings hc)).1
  have hopening : '[' ∉ rest := fun hc => (hcharacters _ (mem_closings hc)).2 rfl
  have hcount : back.count '(' + rest.count '(' < back.count ')' + rest.count ')' := by
    obtain ⟨hopens, hcloses⟩ := count_closings (back.count '(' + 1)
    rw [hopens, hcloses]
    omega
  rw [toList_bracketedName, htext,
    collapse_statement hfree htight (by decide) (by decide) (by decide) (tight_closings _)
      (getLast?_closings _),
    occurrences_layout_opening hfree htight hfront hplain hopening hcount,
    occurrences_once (by decide) hfree hopening hfree, if_pos rfl] at hrelated
  exact absurd hrelated (by decide)

/-- Where a content has delimiters but no opening parenthesis, one of the others is the first. -/
theorem exists_first_separator (hopening : '(' ∉ content) {c : Char} (hc : c ∈ content)
    (hdelimits : Delimits c) :
    ∃ front d back, content = front ++ d :: back ∧ (d = ')' ∨ d = ',') ∧
      ∀ x ∈ front, ¬Delimits x := by
  let separates : Char → Bool := fun x => x == ')' || x == ','
  have hseparates : separates c = true := by
    rcases hdelimits with rfl | rfl | rfl
    · exact absurd hc hopening
    · rfl
    · rfl
  obtain ⟨d, hfind⟩ := Option.isSome_iff_exists.1 (List.find?_isSome.2 ⟨c, hc, hseparates⟩)
  obtain ⟨hfound, front, back, rfl, hearlier⟩ := List.find?_eq_some_iff_append.1 hfind
  refine ⟨front, d, back, rfl, by simpa [separates] using hfound, ?_⟩
  rintro x hx (rfl | rfl | rfl)
  · exact hopening (List.mem_append_left _ hx)
  · exact absurd (hearlier _ hx) (by decide)
  · exact absurd (hearlier _ hx) (by decide)

/-- **Other delimiters in the name of a column are taken for those of the definitions.** -/
theorem delimiters_of_relates (hfree : FreeOfQuotes content) (htight : Tight none false content)
    (h : Relates (· ≤ ·) (bracketedName content)) : ∀ c ∈ content, ¬Delimits c := by
  have hopening := opening_not_mem_of_relates hfree htight h
  intro c hc hdelimits
  obtain ⟨front, d, back, rfl, hd, hfront⟩ := exists_first_separator hopening hc hdelimits
  let rest : List Char := " integer);".toList
  have htext : (integerCreate "t" (bracketedName (front ++ d :: back)) none none none).toList =
      "create table t (".toList ++ (bracketed (front ++ d :: back) ++ rest) := by
    have hhead : "create table t (".toList =
        "create table ".toList ++ ("t".toList ++ " (".toList) := by decide
    have hrest : rest = " integer".toList ++ ("".toList ++ ");".toList) := by decide
    simp only [toList_integerCreate, hhead, hrest, toList_bracketedName, List.append_assoc]
    rfl
  have hchecked : ∀ other ∈ ["t", bracketedName (front ++ d :: back)],
      NameCheck.keywords.check .h2 other = .ok () := by
    rw [List.forall_mem_cons, List.forall_mem_singleton]
    exact ⟨NameCheck.check_word _ _ (by decide) (by decide) (by decide +kernel),
      check_bracketedName hfree _ _⟩
  have hrelated := h.integerTable (List.mem_cons_of_mem _ List.mem_cons_self) hchecked
    integerCreate_mem htext
  have hcount : back.count '(' + rest.count '(' < back.count ')' + rest.count ')' := by
    have hnone : back.count '(' = 0 :=
      List.count_eq_zero.2 fun hmem => hopening (by simp [hmem])
    have hrest : rest.count '(' = 0 ∧ rest.count ')' = 1 := by decide
    omega
  rw [collapse_statement hfree htight (by decide) (by decide) (by decide) (by decide) (by decide),
    occurrences_layout_separator hd hfree htight hfront (forall_mem_of_all (by decide)) (by decide)
      hcount,
    occurrences_once (by decide) hfree (by decide) hfree, if_pos rfl] at hrelated
  exact absurd hrelated (by decide)

/-- **A name that no layout loses has a steady content.** -/
theorem steady_of_relates (hfree : FreeOfQuotes content)
    (h : Relates (· ≤ ·) (bracketedName content)) : Steady content where
  delimiters := delimiters_of_relates hfree (tight_of_relates hfree h) h
  tight := tight_of_relates hfree h
  unbroken := unbroken_of_relates hfree (tight_of_relates hfree h) h

/-- A statement with two names in brackets holds one of them twice only if they are the same. -/
theorem occurrences_twoNames {other : List Char} (hopening : '(' ∉ bracketed content)
    (hfree : FreeOfQuotes content) (hother : FreeOfQuotes other) :
    occurrences (bracketed content) ("create table ".toList ++ (bracketed content ++
      (" (x integer default ".toList ++ (bracketed other ++ ");".toList)))) =
        1 + if other = content then 1 else 0 := by
  have hsplit : "create table ".toList ++ (bracketed content ++
      (" (x integer default ".toList ++ (bracketed other ++ ");".toList))) =
        ("create table ".toList ++ (bracketed content ++ " ".toList)) ++ '(' ::
          ("x integer default ".toList ++ (bracketed other ++ ");".toList)) := by
    simp
  rw [hsplit, occurrences_append_cons bracketed_ne_nil hopening,
    occurrences_once (by decide) hfree (by decide) hfree, if_pos rfl,
    occurrences_once (by decide) hother (by decide) hfree]

theorem collapse_twoNames {other : List Char} (hfree : FreeOfQuotes content)
    (hother : FreeOfQuotes other) :
    collapse ("create table ".toList ++ (bracketed content ++
      (" (x integer default ".toList ++ (bracketed other ++ ");".toList)))) =
        "create table ".toList ++ (bracketed (squeezed content) ++
          (" (x integer default ".toList ++ (bracketed (squeezed other) ++ ");".toList))) := by
  have hhead : ∀ r, squeeze none false ("create table ".toList ++ r) =
      "create table".toList ++ squeeze none true r := fun _ => rfl
  have hmiddle : ∀ r, squeeze none false (" (x integer default ".toList ++ r) =
      " (x integer default".toList ++ squeeze none true r := fun _ => rfl
  have hends := (trimmed_append_iff (a := "create table ".toList) (b := ");".toList)
    (by decide) (by decide) (bracketed content ++
      (" (x integer default ".toList ++ bracketed other))).2
        ⟨visible_of_map rfl, visible_of_map rfl⟩
  simp only [List.append_assoc] at hends
  have hspace : "create table ".toList = "create table".toList ++ spaceIf true ∧
      " (x integer default ".toList = " (x integer default".toList ++ spaceIf true := by decide
  have hback : squeeze none false ");".toList = ");".toList := by decide
  rw [collapse, hends.trim_eq, hhead, squeeze_bracketed hfree, hmiddle, squeeze_bracketed hother,
    hback, hspace.1, hspace.2]
  simp only [List.append_assoc]

/-- **A default becomes the name of the table** if it has one space more. -/
theorem visible_of_relates (hfree : FreeOfQuotes content) (hsteady : Steady content)
    (h : Relates (· = ·) (bracketedName content)) : ∀ c ∈ content, isBlank c = false := by
  intro c hc
  rw [← Bool.not_eq_true]
  intro hblank
  obtain rfl : c = ' ' := hsteady.tight.eq_space hfree.plain hc hblank
  obtain ⟨front, back, hcontent⟩ := List.append_of_mem hc
  let wider : List Char := front ++ ' ' :: ' ' :: back
  have hwider : FreeOfQuotes wider := by
    intro x hx
    have hmem : x ∈ content := by simpa [wider, hcontent] using hx
    exact hfree x hmem
  have hother : wider ≠ content := fun heq => by
    have hlength := congrArg List.length heq
    simp [wider, hcontent] at hlength
  have hsame : squeezed content = content := (squeezed_eq_iff hfree).2 hsteady.tight
  have hnarrow : squeezed wider = content := by
    have hclosed : closerAfterAll literalQuotes none front = none :=
      closerAfterAll_of_no_quote fun x hx => hfree.plain x (by simp [hcontent, hx])
    rw [squeezed_double hclosed, ← hcontent, hsame]
  have hopening : '(' ∉ bracketed content := hsteady.not_mem (.inl rfl)
  have hrelated := h.integerTable List.mem_cons_self (checked_names hfree) integerCreate_mem
    (toList_integerCreate_default _ (bracketed wider))
  rw [toList_bracketedName, collapse_twoNames hfree hwider, hsame, hnarrow,
    occurrences_layoutCollapsed hfree hsteady, occurrences_twoNames hopening hfree hwider,
    occurrences_twoNames hopening hfree hfree, if_neg hother, if_pos rfl] at hrelated
  exact absurd hrelated (by decide)

end Torn

/-- **Which names in brackets a layout keeps.** None of them is lost in a statement exactly if the
content is steady. The count of none is changed exactly if the content holds neither blanks nor
delimiters: with single spaces, the name may also come out of a text that had more of them. -/
theorem relates_iff_steady {content : List Char} (hfree : FreeOfQuotes content) :
    (Relates (· ≤ ·) (bracketedName content) ↔ Steady content) ∧
      (Relates (· = ·) (bracketedName content) ↔
        ∀ c ∈ content, isBlank c = false ∧ ¬Delimits c) := by
  refine ⟨⟨steady_of_relates hfree, fun hsteady => ?_⟩, fun h => ?_, fun hcontent => ?_⟩
  · refine relates_iff.2 fun _ _ _ _ _ s _ => ?_
    rw [toList_bracketedName]
    exact (occurrences_layout hfree hsteady s).1
  · have hsteady := steady_of_relates hfree (h.mono fun _ _ => Nat.le_of_eq)
    exact fun c hc => ⟨visible_of_relates hfree hsteady h c hc, hsteady.delimiters c hc⟩
  · have hvisible : ∀ c ∈ content, isBlank c = false := fun c hc => (hcontent c hc).1
    have hsteady : Steady content := .of_visible hvisible fun c hc => (hcontent c hc).2
    refine relates_iff.2 fun _ _ _ _ _ s _ => ?_
    rw [toList_bracketedName]
    exact ((occurrences_layout hfree hsteady s).2 hvisible).symm

/-- The name of a table with one space in it is not lost, but it may be made. -/
theorem relates_iff_steady_space :
    FreeOfQuotes "order details".toList ∧
      Relates (· ≤ ·) (bracketedName "order details".toList) ∧
        ¬Relates (· = ·) (bracketedName "order details".toList) := by
  have hfree : FreeOfQuotes "order details".toList := by decide
  have hdelimiters : ∀ c ∈ "order details".toList, c ≠ '(' ∧ c ≠ ')' ∧ c ≠ ',' :=
    forall_mem_of_all (by decide)
  have hsteady : Steady "order details".toList :=
    { delimiters := fun c hc => not_or.2 ⟨(hdelimiters c hc).1, not_or.2 (hdelimiters c hc).2⟩
      tight := by decide
      unbroken := by decide }
  refine ⟨hfree, (relates_iff_steady hfree).1.2 hsteady, fun h => ?_⟩
  exact absurd ((relates_iff_steady hfree).2.1 h ' ' (by decide)).1 (by decide)

/-- A name with two spaces stands in the statement without a layout, and in the one with a layout
it is another name. -/
theorem not_relates_spaces :
    let generator : Generator := { dialect := .sqlServer2012 }
    let table := Table.ofColumns "[a  b]" [{ name := "x", type := .integer }] none none
    NameCheck.keywords.check .sqlServer2012 "[a  b]" = .ok () ∧
    ((generator.setFormat false).generate table).toOption =
      some { statements := ["create table [a  b] (x int null);"] } ∧
    ((generator.setFormat true).generate table).toOption =
      some { statements := ["create table [a b] (\n    x int null\n);"] } ∧
    occurrences "[a  b]".toList "create table [a  b] (x int null);".toList = 1 ∧
    occurrences "[a  b]".toList "create table [a b] (\n    x int null\n);".toList = 0 ∧
    ¬Relates (· = ·) (bracketedName "a  b".toList) := by
  intro generator table
  have hplain : ((generator.setFormat false).generate table).toOption =
      some { statements := ["create table [a  b] (x int null);"] } := by decide +kernel
  have hlost : occurrences "[a  b]".toList
      (layout "create table [a  b] (x int null);").toList = 0 := by decide +kernel
  have hfree : FreeOfQuotes "a  b".toList := by decide
  refine ⟨check_bracketedName hfree _ _, hplain, by decide +kernel, by decide +kernel,
    by decide +kernel, fun h => ?_⟩
  cases hrun : (generator.setFormat false).generate table with
  | error e =>
    rw [hrun] at hplain
    cases hplain
  | ok plain =>
    rw [hrun] at hplain
    obtain rfl := Option.some.inj hplain
    have hsame := relates_iff.1 h _ table _ List.mem_cons_self hrun _ List.mem_cons_self
    rw [toList_bracketedName] at hsame
    exact absurd (hsame.trans hlost) (by decide +kernel)

end Generator

end PolySql
