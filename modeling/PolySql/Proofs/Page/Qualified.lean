import PolySql.Proofs.Page.Aliases
import PolySql.Proofs.Page.RowNumber

/-!
# Qualified names

An item of a select list may be a column behind the table that it belongs to, and that behind its
schema. A query that is wrapped around the list knows the column by its own name only, so the names
before it have to go.

* `Qualified`, `Qualified.text` — the name of a column behind other names, with points between them.
* `Qualified.LosesQualifiers` — the name of the column is quoted, or the names before it hold none
  of the characters by which an expression is told.
* `Qualified.outputName_text` — the item is named by its column then, and else by its whole text.
* `Qualified.whole` — a qualified name is one piece of a list, whatever its quoted names hold.

Principal result: `outputNames_qualified` — qualified names lose their qualifiers exactly so, each
by itself, in a list, and in a page that numbers its rows. `outputName_keeps_qualifier` is one that
does not.
-/

namespace PolySql

/-- If no text of a join is longer than its counterpart and one is shorter, so is the join. -/
theorem Text.length_joinWith_lt {α : Type} {separator : String} {f g : α → String} :
    ∀ {list : List α}, (∀ a ∈ list, (g a).length ≤ (f a).length) →
      (joinWith separator (list.map g)).length ≤ (joinWith separator (list.map f)).length ∧
        ((∃ a ∈ list, (g a).length < (f a).length) →
          (joinWith separator (list.map g)).length < (joinWith separator (list.map f)).length)
  | [], _ => by simp
  | [a], h => by simpa [joinWith] using h
  | a :: b :: list, h => by
    have ha := h a List.mem_cons_self
    have hrest : ∀ x ∈ b :: list, (g x).length ≤ (f x).length :=
      fun x hx => h x (List.mem_cons_of_mem a hx)
    obtain ⟨hle, hlt⟩ := @length_joinWith_lt α separator f g (b :: list) hrest
    simp only [List.map_cons, joinWith_cons_cons, String.length_append] at hle hlt ⊢
    refine ⟨by omega, ?_⟩
    rintro ⟨x, hx, hshorter⟩
    rcases List.mem_cons.1 hx with rfl | hx
    · omega
    · have := hlt ⟨x, hx, hshorter⟩
      omega

namespace SelectList

open Text

/-- What stands behind the last point of a text. -/
theorem afterLastDot_append (s : List Char) {t : List Char} (h : '.' ∉ t) :
    afterLastDot (s ++ '.' :: t) = t := by
  have hreverse : (s ++ '.' :: t).reverse = t.reverse ++ '.' :: s.reverse := by simp
  have hall : ∀ c ∈ t.reverse, (c != '.') = true := by
    intro c hc
    rw [bne_iff_ne]
    rintro rfl
    exact h (List.mem_reverse.1 hc)
  rw [afterLastDot, hreverse, List.takeWhile_append_of_pos hall]
  simp

theorem lacks_append (chars : String) (s t : List Char) :
    lacks chars (s ++ t) = (lacks chars s && lacks chars t) := List.all_append

/-! ## Qualified names -/

/-- The name of a column behind the names that qualify it, of which there is at least one. -/
structure Qualified where
  qualifiers : List Name
  qualified : qualifiers ≠ []
  column : Name

/-- Names with a point behind each. -/
def pointed (names : List Name) : List Char := names.flatMap fun name => name.text ++ ['.']

theorem pointed_cons (name : Name) (names : List Name) :
    pointed (name :: names) = name.text ++ '.' :: pointed names := by
  simp [pointed]

/-- Names with points end with a point. -/
theorem exists_pointed {names : List Name} (hne : names ≠ []) :
    ∃ s, pointed names = s ++ ['.'] := by
  obtain ⟨front, name, rfl⟩ := (List.eq_nil_or_concat names).resolve_left hne
  exact ⟨pointed front ++ name.text, by simp [pointed]⟩

theorem level_pointed (names : List Name) : Level nameQuotes (pointed names) := by
  induction names with
  | nil => exact ⟨rfl, rfl⟩
  | cons name names ih =>
    rw [pointed_cons, List.append_cons]
    exact (name.level.append (.of_plain (by decide))).append ih

/-- No comma cuts names with points. -/
theorem one_piece_pointed (names : List Name) :
    splitTopLevel nameQuotes (pointed names) = [pointed names] := by
  induction names with
  | nil => rfl
  | cons name names ih =>
    have hpoint : Level nameQuotes ['.'] := .of_plain (by decide)
    rw [pointed_cons, List.append_cons]
    exact splitTopLevel_append (name.level.append hpoint)
      (splitTopLevel_append name.level name.one_piece rfl) ih

theorem blanksQuoted_pointed (names : List Name) :
    BlanksQuoted nameQuotes none (pointed names) := by
  induction names with
  | nil => exact .of_covered .nil
  | cons name names ih =>
    rw [pointed_cons]
    refine name.blanksQuoted.append ?_
    rw [name.level.closer, ← List.singleton_append]
    exact .append (.of_visible (List.forall_mem_singleton.2 rfl)) ih

/-- No quoted name goes on behind the point after it. -/
theorem spanAtEnd?_pointed (names : List Name) (t : List Char) :
    spanAtEnd? none (pointed names ++ t) = spanAtEnd? none t := by
  induction names with
  | nil => rfl
  | cons name names ih =>
    rw [pointed_cons, List.append_assoc, List.cons_append,
      name.spanAtEnd?_append rfl (by decide), ih]

theorem lacks_pointed (names : List Name) :
    lacks "( '" (pointed names) = names.all fun name => lacks "( '" name.text := by
  induction names with
  | nil => rfl
  | cons name names ih =>
    have hpoint : lacks "( '" ['.'] = true := by decide
    rw [pointed_cons, List.append_cons, lacks_append, lacks_append, ih, hpoint, Bool.and_true,
      List.all_cons]

namespace Qualified

/-- A qualified name as it is written. -/
def text (ref : Qualified) : List Char := pointed ref.qualifiers ++ ref.column.text

/-- The name of the column is in quotes or brackets, or no name before it holds a parenthesis that
opens, a space or an apostrophe. -/
def LosesQualifiers (ref : Qualified) : Prop :=
  ref.column.quotedText?.isSome = true ∨
    (ref.qualifiers.all fun name => lacks "( '" name.text) = true

instance : DecidablePred LosesQualifiers := fun ref =>
  inferInstanceAs (Decidable (ref.column.quotedText?.isSome = true ∨
    (ref.qualifiers.all fun name => lacks "( '" name.text) = true))

/-! ## A qualified name is one piece of a list -/

theorem blanksQuoted_text (ref : Qualified) : BlanksQuoted nameQuotes none ref.text := by
  refine (blanksQuoted_pointed ref.qualifiers).append ?_
  rw [(level_pointed ref.qualifiers).closer]
  exact ref.column.blanksQuoted

/-- The first name is followed by a point, so it does not end a list. -/
theorem startsFrom_text (ref : Qualified) (r : List Char) : startsFrom (ref.text ++ r) = false := by
  obtain ⟨name, names, hnames⟩ := List.exists_cons_of_ne_nil ref.qualified
  obtain ⟨c, s, hname, -⟩ := name.exists_head
  have hpasses : Passes name.text ('.' :: (pointed names ++ (ref.column.text ++ r))) :=
    name.passes (by decide) fun _ => rfl
  have hstart := hpasses [] name.text rfl (by rw [hname]; exact List.cons_ne_nil c s) ⟨rfl, rfl⟩ rfl
  rw [text, hnames, pointed_cons, List.append_assoc, List.append_assoc]
  exact hstart

/-- A qualified name is whole in a list, whatever character follows. -/
theorem whole (ref : Qualified) (c : Char) : Item.Whole ref.text c where
  level := (level_pointed ref.qualifiers).append ref.column.level
  one_piece := splitTopLevel_append (level_pointed ref.qualifiers)
    (one_piece_pointed ref.qualifiers) ref.column.one_piece
  passes r := .of_blanksQuoted ref.blanksQuoted_text (ref.startsFrom_text (c :: r))

theorem getLast?_text (ref : Qualified) : ref.text.getLast? = ref.column.text.getLast? := by
  obtain ⟨c, hc, -, -⟩ := ref.column.exists_last
  rw [text, List.getLast?_append, hc]
  rfl

theorem trimmed_text (ref : Qualified) : Trimmed ref.text := by
  constructor
  · intro d hd
    obtain ⟨name, names, hnames⟩ := List.exists_cons_of_ne_nil ref.qualified
    obtain ⟨c, s, hname, hblank⟩ := name.exists_head
    rw [text, hnames, pointed_cons, hname] at hd
    obtain rfl : c = d := Option.some.inj hd
    exact hblank
  · intro d hd
    obtain ⟨c, hc, hblank, -⟩ := ref.column.exists_last
    rw [getLast?_text, hc] at hd
    obtain rfl := Option.some.inj hd
    exact hblank

/-- A qualified name does not stand for all columns. -/
theorem isWildcard_text (ref : Qualified) : isWildcard ref.text = false := by
  obtain ⟨c, hc, -, hstar⟩ := ref.column.exists_last
  exact isWildcard_eq_false (ref.getLast?_text.trans hc) hstar

/-! ## The name of a qualified name -/

theorem trailingQuoted?_text (ref : Qualified) :
    trailingQuoted? ref.text = ref.column.quotedText? :=
  trailingQuoted?_of_spanAtEnd?
    ((spanAtEnd?_pointed ref.qualifiers ref.column.text).trans ref.column.spanAtEnd?_text)

/-- The last word of a text holds the last point of it, so it is no alias. -/
theorem wordAlias?_eq_none (s : List Char) {letters : List Char}
    (hplain : letters.all inWord = true) : wordAlias? (s ++ '.' :: letters) = none := by
  have hvisible : ∀ c ∈ '.' :: letters, isBlank c = false := by
    intro c hc
    rcases List.mem_cons.1 hc with rfl | hc
    · rfl
    · exact not_isBlank_of_inWord (List.all_eq_true.1 hplain c hc)
  obtain ⟨ws, v, hwords⟩ := exists_last_word_append s (List.cons_ne_nil '.' letters) hvisible
  have hpoint : lacks "().'" (v ++ '.' :: letters) = false := by
    rw [Bool.eq_false_iff]
    intro hlacks
    have hdot := List.all_eq_true.1 hlacks '.' (by simp)
    exact absurd hdot (by decide)
  rw [wordAlias?, hwords, List.reverse_concat]
  split
  · rename_i name expression rest hsplit
    obtain rfl := (List.cons.inj hsplit).1
    rw [hpoint, Bool.and_false]
    rfl
  · rfl

/-- What stands before the name of the column ends with a point, which is no operator. -/
theorem endsInOperator_before (ref : Qualified) :
    endsInOperator (trimEnd (ref.text.take (ref.text.length - ref.column.text.length))) =
      false := by
  obtain ⟨s, hs⟩ := exists_pointed ref.qualified
  have hlength : ref.text.length - ref.column.text.length = (pointed ref.qualifiers).length := by
    rw [text, List.length_append, Nat.add_sub_cancel]
  have htrim : trimEnd (s ++ ['.']) = s ++ ['.'] := by
    refine trimEnd_eq_self fun c hc => ?_
    rw [List.getLast?_concat] at hc
    obtain rfl := Option.some.inj hc
    rfl
  rw [hlength, text, List.take_left, hs, htrim, endsInOperator, List.getLast?_concat]
  rfl

/-- **A qualified name is named by its column, or by its whole text** where it is taken for an
expression. -/
theorem outputName_text (ref : Qualified) :
    outputName ref.text = if ref.LosesQualifiers then ref.column.text else ref.text := by
  obtain ⟨qualifiers, hne, column⟩ := ref
  have hquoted := endsInOperator_before ⟨qualifiers, hne, column⟩
  rw [outputName, trailingQuoted?_text]
  cases column with
  | word letters hvisible hplain =>
    obtain ⟨s, hs⟩ := exists_pointed hne
    have htext : text ⟨qualifiers, hne, .word letters hvisible hplain⟩ = s ++ '.' :: letters := by
      rw [text, hs, List.append_assoc]
      rfl
    have hdot : '.' ∉ letters :=
      fun hmem => ne_of_inWord (List.all_eq_true.1 hplain _ hmem) rfl rfl
    have hlacks : lacks "( '" (text ⟨qualifiers, hne, .word letters hvisible hplain⟩) =
        qualifiers.all fun name => lacks "( '" name.text := by
      rw [text, lacks_append, lacks_pointed, Name.text, lacks_of_inWord (by decide) hplain,
        Bool.and_true]
    have hloses : LosesQualifiers ⟨qualifiers, hne, .word letters hvisible hplain⟩ ↔
        (qualifiers.all fun name => lacks "( '" name.text) = true := by
      rw [LosesQualifiers]
      exact or_iff_right (by simp [Name.quotedText?])
    have hcontains : (s ++ '.' :: letters).contains '.' = true := by simp
    dsimp only [Name.quotedText?]
    rw [hlacks, htext, wordAlias?_eq_none s hplain]
    dsimp only
    rw [hcontains, Bool.true_and, afterLastDot_append s hdot]
    simp only [hloses]
    rfl
  | quoted quote hquote content =>
    have hloses : LosesQualifiers ⟨qualifiers, hne, .quoted quote hquote content⟩ := .inl rfl
    dsimp only [Name.quotedText?] at hquoted ⊢
    rw [if_pos hloses, hquoted]
    rfl
  | bracketed content hinside =>
    have hloses : LosesQualifiers ⟨qualifiers, hne, .bracketed content hinside⟩ := .inl rfl
    dsimp only [Name.quotedText?] at hquoted ⊢
    rw [if_pos hloses, hquoted]
    rfl

/-- The whole text is longer than the name of the column. -/
theorem length_column_lt (ref : Qualified) : ref.column.text.length < ref.text.length := by
  obtain ⟨s, hs⟩ := exists_pointed ref.qualified
  rw [text, hs, List.length_append, List.length_append]
  simp

/-- A qualified name is named by its column exactly if its qualifiers go. -/
theorem outputName_text_eq_iff (ref : Qualified) :
    outputName ref.text = ref.column.text ↔ ref.LosesQualifiers := by
  rw [outputName_text]
  constructor
  · intro h
    refine Decidable.of_not_not fun hkeeps => ?_
    rw [if_neg hkeeps] at h
    exact absurd (congrArg List.length h) (Nat.ne_of_gt ref.length_column_lt)
  · exact fun hloses => if_pos hloses

end Qualified

/-! ## Lists of qualified names -/

/-- The names of some columns, with commas between them. -/
def columnNames (refs : List Qualified) : String :=
  joinWith ", " (refs.map fun ref => String.ofList ref.column.text)

/-- Each item of a list is named by itself. -/
theorem outputNames?_qualified {refs : List Qualified} (hne : refs ≠ []) (rest : List Char) :
    outputNames? (listed (refs.map Qualified.text) ++ " from ".toList ++ rest) =
      some (joinWith ", " (refs.map fun ref => String.ofList (outputName ref.text))) := by
  have hwhole : ∀ c, ∀ s ∈ refs.map Qualified.text, Item.Whole s c := by
    intro c s hs
    obtain ⟨ref, -, rfl⟩ := List.mem_map.1 hs
    exact ref.whole c
  have hsome : ¬(refs.map Qualified.text).any (fun s => isWildcard (trim s)) = true := by
    rw [List.any_eq_true]
    rintro ⟨s, hs, hwildcard⟩
    obtain ⟨ref, -, rfl⟩ := List.mem_map.1 hs
    rw [ref.trimmed_text.trim_eq, ref.isWildcard_text] at hwildcard
    cases hwildcard
  rw [outputNames?_listed (mt List.map_eq_nil_iff.1 hne) (hwhole ',')
    (fun s hs => hwhole ' ' s (List.mem_of_getLast? hs)), if_neg hsome]
  simp only [List.map_map, Function.comp_def, Qualified.trimmed_text, Trimmed.trim_eq]

/-- The columns of a list are named exactly if all its qualifiers go: a name that keeps them makes
the whole longer. -/
theorem outputNames?_qualified_eq_iff {refs : List Qualified} (hne : refs ≠ [])
    (rest : List Char) :
    outputNames? (listed (refs.map Qualified.text) ++ " from ".toList ++ rest) =
      some (columnNames refs) ↔ ∀ ref ∈ refs, ref.LosesQualifiers := by
  rw [outputNames?_qualified hne, Option.some.injEq, columnNames]
  constructor
  · intro h ref href
    refine Decidable.of_not_not fun hkeeps => ?_
    have hle : ∀ ref ∈ refs, (String.ofList ref.column.text).length ≤
        (String.ofList (outputName ref.text)).length := by
      intro other _
      have hlength := other.length_column_lt
      rw [String.length_ofList, String.length_ofList, other.outputName_text]
      split <;> omega
    refine absurd (congrArg String.length h)
      (Nat.ne_of_gt ((length_joinWith_lt hle).2 ⟨ref, href, ?_⟩))
    rw [String.length_ofList, String.length_ofList, ref.outputName_text, if_neg hkeeps]
    exact ref.length_column_lt
  · intro hloses
    congr 1
    refine List.map_congr_left fun ref href => ?_
    rw [ref.outputName_text_eq_iff.2 (hloses ref href)]

/-- **Qualified names lose their qualifiers exactly if none is taken for an expression.** Each item
of a list is then named by its column, and so is the whole list; and a page that numbers its rows
names these columns of the query inside it, unless a name spells a placeholder. -/
theorem outputNames_qualified {refs : List Qualified} (hne : refs ≠ []) (rest : List Char) :
    (∀ ref ∈ refs, outputName ref.text = ref.column.text ↔ ref.LosesQualifiers) ∧
      (outputNames? (listed (refs.map Qualified.text) ++ " from ".toList ++ rest) =
        some (columnNames refs) ↔ ∀ ref ∈ refs, ref.LosesQualifiers) ∧
      ∀ {dialect : Dialect} {page size : UInt64} {sql result : String},
        dialect = .sqlServer2005 ∨ dialect = .sqlServer2008 → 2 ≤ page →
          dialect.paginate page size sql = .ok result →
            ∃ values, Dialect.PageOf page size sql values ∧
              result = Template.fill Template.rowNumber values ∧
              (values.body.toList = listed (refs.map Qualified.text) ++ " from ".toList ++ rest →
                (values.fields = columnNames refs ↔ ∀ ref ∈ refs, ref.LosesQualifiers) ∧
                (contains values.fields "($DISTINCT)" = false →
                  contains values.fields "$BODY" = false →
                    result = Template.rowNumberPage values)) := by
  refine ⟨fun ref _ => ref.outputName_text_eq_iff, outputNames?_qualified_eq_iff hne rest, ?_⟩
  intro dialect page size sql result hdialect hpage hresult
  obtain ⟨-, values, hvalues, hfill⟩ :=
    (Dialect.paginate_eq_fill_rowNumber_iff hdialect hpage).1 hresult
  refine ⟨values, hvalues, hfill, fun hbody => ⟨?_, fun hdistinct hquery => ?_⟩⟩
  · rw [← outputNames?_qualified_eq_iff hne rest, ← hbody, hvalues.names, Option.some.injEq]
  · exact hfill.trans (hvalues.fill_rowNumber hdistinct hquery)

/-- Spaces and parentheses of a qualifier do no harm where the column is quoted, and points do none
anywhere. -/
theorem outputNames_qualified_quoted : ∃ refs : List Qualified, refs ≠ [] ∧
    listed (refs.map Qualified.text) ++ " from ".toList ++ "u".toList =
      "[my db].\"t (1)\".[full name], \x60a.b\x60.c from u".toList ∧
    outputNames? (listed (refs.map Qualified.text) ++ " from ".toList ++ "u".toList) =
      some "[full name], c" := by
  let refs : List Qualified := [
    ⟨[.bracketed "my db".toList (by decide), .quoted '"' (.inl rfl) "t (1)".toList],
      List.cons_ne_nil _ _, .bracketed "full name".toList (by decide)⟩,
    ⟨[.quoted '\x60' (.inr rfl) "a.b".toList], List.cons_ne_nil _ _,
      .word "c".toList (by decide) (by decide)⟩]
  have hloses : ∀ ref ∈ refs, ref.LosesQualifiers := by
    rintro ref href
    rcases List.mem_cons.1 href with rfl | href
    · exact .inl rfl
    · obtain rfl := List.mem_singleton.1 href
      exact .inr (by decide)
  refine ⟨refs, List.cons_ne_nil _ _, by decide +kernel, ?_⟩
  exact (outputNames_qualified (List.cons_ne_nil _ _) "u".toList).2.1.2 hloses

/-- A qualifier with a space stays before a column that is not quoted, also in a page. -/
theorem outputName_keeps_qualifier :
    (∃ ref : Qualified, ref.text = "[order details].id".toList ∧ ref.column.text = "id".toList ∧
      outputName ref.text = ref.text ∧ outputName ref.text ≠ ref.column.text) ∧
    Dialect.paginate .sqlServer2005 2 10 "select [order details].id from [order details]" =
      .ok (Template.rowNumberPage ⟨"[order details].id from [order details]", false,
        "[order details].id", 10, 10⟩) := by
  constructor
  · refine ⟨⟨[.bracketed "order details".toList (by decide)], List.cons_ne_nil _ _,
      .word "id".toList (by decide) (by decide)⟩, ?_⟩
    decide
  · have hpage : Dialect.PageOf 2 10 "select [order details].id from [order details]"
        ⟨"[order details].id from [order details]", false, "[order details].id", 10, 10⟩ :=
      ⟨⟨_, rfl, by decide⟩, by decide, rfl, by rfl⟩
    exact hpage.paginate_eq (.inl rfl) (by decide) (by decide) (by decide) (by decide)

end SelectList

end PolySql
