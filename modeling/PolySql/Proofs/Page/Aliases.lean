import PolySql.Proofs.Page.ItemName

/-!
# The names of the items of a select list

* `IsExpression` — a text that an item may begin with: it closes what it opens, and holds neither a
  comma nor a `from` that would end the item.
* `Item` — an expression with a name, or all columns.
* `selectList?_listed`, `map_trim_splitTopLevel_listed` — a list is cut into its texts, and so into
  its items; `outputNames?_listed` — its columns have the names of the texts.

Principal result: `outputNames_listText` — the columns of a query have the names of its items, one
each and in their order. `outputNames_unnamed_items` are two that are not named by their aliases.
-/

namespace PolySql.SelectList

open Text

/-! ## Expressions -/

/-- A text that an item may begin with. Only what stands outside quotes and parentheses counts for
it, that is, behind a level text. -/
structure IsExpression (text : List Char) : Prop where
  visible : ¬Blanks text
  level : Level nameQuotes text
  /-- No comma stands outside. -/
  noComma : ∀ x y, text = x ++ ',' :: y → ¬Level nameQuotes x
  /-- The word `from` does not stand outside, between blanks or at an end. -/
  noFrom : ∀ x word y, text = x ++ (word ++ y) → lower word = "from".toList →
    (∀ c, x.getLast? = some c → isBlank c = true) → (∀ c, y.head? = some c → isBlank c = true) →
      ¬Level nameQuotes x
  /-- No name in brackets is followed by another closing bracket. -/
  noDoubledBracket : NoDoubledBracket none text

/-- An expression, with what makes it one. -/
structure Expression where
  text : List Char
  isExpression : IsExpression text

/-- At a cut of a text, neither a comma stands behind it nor the word `from`, if the cut is outside
quotes and parentheses; and no bracket follows the end of a name in brackets. -/
def ClearAt (x y : List Char) : Prop :=
  (Level nameQuotes x → y.head? ≠ some ',' ∧
    ¬(gapAfter true x = true ∧ lower (y.take 4) = "from".toList ∧
      ((y.drop 4).head?.all isBlank) = true)) ∧
  ([']', ']'] <+: y → closerAfterAll nameQuotes none x ≠ some ']')

instance (x y : List Char) : Decidable (ClearAt x y) := inferInstanceAs (Decidable (_ ∧ _))

/-- An expression is told by looking at each of its cuts. -/
theorem isExpression_iff {text : List Char} :
    IsExpression text ↔ ¬Blanks text ∧ Level nameQuotes text ∧
      ∀ n < text.length + 1, ClearAt (text.take n) (text.drop n) := by
  constructor
  · intro h
    refine ⟨h.visible, h.level, fun n _ => ⟨fun hx => ⟨fun hcomma => ?_, ?_⟩, ?_⟩⟩
    · obtain ⟨y, hy⟩ := List.head?_eq_some_iff.1 hcomma
      exact h.noComma _ y (by rw [← hy, List.take_append_drop]) hx
    · rintro ⟨hgap, hword, hend⟩
      refine h.noFrom (text.take n) ((text.drop n).take 4) ((text.drop n).drop 4) ?_ hword
        (gapAfter_true_iff.1 hgap) (fun c hc => ?_) hx
      · rw [List.take_append_drop, List.take_append_drop]
      · rw [hc] at hend
        exact hend
    · rintro ⟨y, hy⟩
      have hcut := List.take_append_drop n text
      rw [← hy] at hcut
      exact h.noDoubledBracket _ y hcut.symm
  · rintro ⟨hvisible, hlevel, hclear⟩
    have hcut : ∀ x y, text = x ++ y → ClearAt x y := by
      rintro x y rfl
      have hplace := hclear x.length (by rw [List.length_append]; omega)
      rwa [List.take_left, List.drop_left] at hplace
    refine ⟨hvisible, hlevel, fun x y hs hx => ?_, fun x word y hs hword hgap hend hx => ?_,
      fun x y hs => ?_⟩
    · exact ((hcut x _ hs).1 hx).1 rfl
    · have hlength : word.length = 4 := by rw [← lower_length, hword]; rfl
      refine ((hcut x _ hs).1 hx).2 ⟨gapAfter_true_iff.2 hgap, ?_, ?_⟩
      · rw [← hlength, List.take_left, hword]
      · rw [← hlength, List.drop_left, Option.all_eq_true]
        exact hend
    · exact (hcut x _ hs).2 ⟨y, rfl⟩

instance : DecidablePred IsExpression := fun _ => decidable_of_iff _ isExpression_iff.symm

theorem IsExpression.leaves {text : List Char} (h : IsExpression text) : Leaves text where
  visible := h.visible
  anew t := @spanAtEnd?_append t text none (by simp) h.level.closer h.noDoubledBracket

/-! ## Items -/

/-- An item of a select list. -/
inductive Item where
  /-- An expression with a name; an `as` may stand between the two. -/
  | named (expression : Expression) (withAs : Bool) (name : Name)
  /-- All columns of the query. -/
  | all
  /-- All columns of a table. -/
  | allOf (expression : Expression) (isWildcard : ".*".toList <:+ expression.text)

namespace Item

/-- What stands before the name of an item. -/
def front (expression : Expression) (withAs : Bool) : List Char :=
  expression.text ++ if withAs then " as".toList else []

/-- An item as it is written. -/
def text : Item → List Char
  | named expression withAs name => front expression withAs ++ ' ' :: name.text
  | all => ['*']
  | allOf expression _ => expression.text

/-- The name of the column of an item: the name that is given to it, but the whole item if the
expression breaks off in an operator and there is no `as`. -/
def name : Item → List Char
  | named expression withAs name =>
    if withAs = false ∧ endsInOperator (trimEnd expression.text) then
      trim (front expression withAs ++ ' ' :: name.text)
    else name.text
  | item => item.text

/-- An item stands for several columns. -/
def isAll : Item → Bool
  | named _ _ _ => false
  | _ => true

/-- An item is named by the word that ends a list. -/
def EndsInFrom : Item → Prop
  | named _ _ name => name.IsFrom
  | _ => False

instance : DecidablePred EndsInFrom
  | named _ _ name => inferInstanceAs (Decidable name.IsFrom)
  | all => inferInstanceAs (Decidable False)
  | allOf _ _ => inferInstanceAs (Decidable False)

/-! ## An item is one piece of a list -/

/-- What an item is to the scans of a list: closed, and whole until the character behind it. -/
structure Whole (s : List Char) (c : Char) : Prop where
  level : Level nameQuotes s
  one_piece : splitTopLevel nameQuotes s = [s]
  passes : ∀ r, Passes s (c :: r)

theorem whole_expression {text : List Char} (h : IsExpression text) {c : Char}
    (hc : c.toLower ∉ "from".toList) : Whole text c :=
  ⟨h.level, splitTopLevel_eq_singleton h.level h.noComma, .of_no_word h.noFrom hc⟩

theorem Whole.append {s t : List Char} {c : Char} (hs : Whole s ' ') (ht : Whole t c) :
    Whole (s ++ ' ' :: t) c := by
  have hspace : Level nameQuotes [' '] := .blanks nameQuotes_proper .space
  have hlevel := hs.level.append hspace
  have hgap : gapAfter true (s ++ [' ']) = true := by
    rw [gapAfter_append]
    rfl
  have hsplit : s ++ ' ' :: t = (s ++ [' ']) ++ t := by simp
  rw [hsplit]
  refine ⟨hlevel.append ht.level, splitTopLevel_append hlevel ?_ ht.one_piece, fun r => ?_⟩
  · exact splitTopLevel_append hs.level hs.one_piece rfl
  · exact .append hlevel hgap (.concat (hs.passes _) (by decide)) (ht.passes r)

theorem whole_as : Whole "as".toList ' ' :=
  ⟨.of_plain (by decide), by decide, fun r => .of_lacks_f (by decide) (' ' :: r)⟩

theorem whole_front (expression : Expression) (withAs : Bool) :
    Whole (front expression withAs) ' ' := by
  have hexpression := whole_expression (c := ' ') expression.isExpression (by decide)
  cases withAs with
  | false =>
    rw [front, if_neg (by decide), List.append_nil]
    exact hexpression
  | true => exact hexpression.append whole_as

theorem whole {item : Item} {c : Char} (hc : c.toLower ∉ "from".toList)
    (hfrom : item.EndsInFrom → isBlank c = false) : Whole item.text c := by
  cases item with
  | named expression withAs name =>
    exact (whole_front expression withAs).append
      ⟨name.level, name.one_piece, fun r => name.passes hc hfrom⟩
  | all =>
    exact ⟨.of_plain (by decide), by decide, fun r => .of_lacks_f (by decide) (c :: r)⟩
  | allOf expression _ => exact whole_expression expression.isExpression hc

/-- Before a comma, an item may be named by any word. -/
theorem whole_comma (item : Item) : Whole item.text ',' := whole (by decide) fun _ => rfl

/-! ## The name of an item -/

theorem leaves_front (expression : Expression) (withAs : Bool) :
    Leaves (front expression withAs) := by
  have hexpression := expression.isExpression.leaves
  cases withAs with
  | false =>
    rw [front, if_neg (by decide), List.append_nil]
    exact hexpression
  | true => exact hexpression.word "as".toList (by decide)

/-- What stands before a name breaks off in an operator only if the expression does and no `as`
follows. -/
theorem endsInOperator_front (expression : Expression) (withAs : Bool) :
    endsInOperator (trimEnd (trimStart (front expression withAs))) = true ↔
      withAs = false ∧ endsInOperator (trimEnd expression.text) = true := by
  have hvisible := (leaves_front expression withAs).visible
  have hsame : (trimEnd (trimStart (front expression withAs))).getLast? =
      (trimEnd (front expression withAs)).getLast? := by
    obtain ⟨pre, hpre, hfront⟩ := exists_trimStart (front expression withAs)
    have hrest : ¬Blanks (trimStart (front expression withAs)) := fun hblanks =>
      hvisible (hfront ▸ hpre.append hblanks)
    conv => rhs; rw [hfront]
    rw [getLast?_trimEnd_append pre hrest]
  rw [endsInOperator, hsame]
  cases withAs with
  | false =>
    rw [front, if_neg (by decide), List.append_nil]
    exact (and_iff_right rfl).symm
  | true =>
    have hlast : (trimEnd (front expression true)).getLast? = some 's' := by
      rw [front, if_pos rfl, getLast?_trimEnd_append _ (by decide)]
      rfl
    rw [hlast]
    exact iff_of_false (by decide) fun h => by cases h.1

/-- The blanks in front of an item are those in front of its expression. -/
theorem trim_text (expression : Expression) (withAs : Bool) (name : Name) :
    trim (named expression withAs name).text =
      trimStart (front expression withAs) ++ ' ' :: name.text := by
  obtain ⟨c, hc, hblank, -⟩ := name.exists_last
  refine trim_append (fun hnil => ?_) (c := c) ?_ hblank
  · obtain ⟨pre, hpre, hfront⟩ := exists_trimStart (front expression withAs)
    rw [hnil, List.append_nil] at hfront
    exact absurd (hfront ▸ hpre) (leaves_front expression withAs).visible
  · rw [List.getLast?_cons, hc]
    rfl

/-- **An item has the name that is read off it**, without the blanks around it. -/
theorem outputName_trim (expression : Expression) (withAs : Bool) (name : Name) :
    outputName (trim (named expression withAs name).text) =
      (named expression withAs name).name := by
  rw [trim_text, outputName_append (leaves_front expression withAs).trimStart, Item.name,
    ← trim_text]
  simp only [endsInOperator_front]
  rfl

/-- The items that stand for several columns are told apart from the others. -/
theorem isWildcard_trim (item : Item) : isWildcard (trim item.text) = item.isAll := by
  cases item with
  | named expression withAs name =>
    rw [trim_text]
    exact isWildcard_append _ name
  | all => rfl
  | allOf expression hsuffix =>
    obtain ⟨x, hx⟩ := hsuffix
    have htrim : trim expression.text = trimStart x ++ ".*".toList := by
      rw [← hx]
      refine trim_append (fun _ c hc => ?_) (c := '*') rfl rfl
      obtain rfl := Option.some.inj hc
      rfl
    have hends : ".*".toList.isSuffixOf (trim expression.text) = true := by
      rw [htrim]
      exact List.isSuffixOf_iff_suffix.2 (List.suffix_append _ _)
    show isWildcard (trim expression.text) = true
    rw [isWildcard, hends, Bool.or_true]

end Item

/-! ## A list of texts -/

/-- Texts as they stand in a list. -/
def listed (texts : List (List Char)) : List Char := ", ".toList.intercalate texts

theorem listed_cons_cons (s t : List Char) (texts : List (List Char)) :
    listed (s :: t :: texts) = s ++ ',' :: ' ' :: listed (t :: texts) := by
  simp [listed, List.intercalate]

theorem listed_singleton (s : List Char) : listed [s] = s := by
  simp [listed, List.intercalate]

/-- **A list ends behind its texts**, if each of them is whole where it stands. -/
theorem selectList?_listed : ∀ {texts : List (List Char)}, texts ≠ [] →
    (∀ s ∈ texts, Item.Whole s ',') → (∀ s, texts.getLast? = some s → Item.Whole s ' ') →
      ∀ rest : List Char,
        selectList? (listed texts ++ " from ".toList ++ rest) = some (listed texts ++ [' '])
  | [], hne, _, _, _ => absurd rfl hne
  | [s], _, _, hlast, rest => by
    have hwhole := hlast s rfl
    have hfrom : selectList? ("from ".toList ++ rest) = some [] := rfl
    have hsplit : s ++ " from ".toList ++ rest = (s ++ [' ']) ++ ("from ".toList ++ rest) := by
      simp
    have hgap : gapAfter true (s ++ [' ']) = true := by
      rw [gapAfter_append]
      rfl
    rw [listed_singleton, hsplit, selectList?_append
      (hwhole.level.append (.blanks nameQuotes_proper .space))
      (.concat (hwhole.passes _) (by decide)) hgap, hfrom]
    simp
  | s :: t :: texts, _, hwhole, hlast, rest => by
    have hs := hwhole s List.mem_cons_self
    have hcomma : Level nameQuotes [',', ' '] := .of_plain (by decide)
    have hsplit : listed (s :: t :: texts) ++ " from ".toList ++ rest =
        (s ++ [',', ' ']) ++ (listed (t :: texts) ++ " from ".toList ++ rest) := by
      rw [listed_cons_cons]
      simp
    have hgap : gapAfter true (s ++ [',', ' ']) = true := by
      rw [gapAfter_append]
      rfl
    have hpasses : Passes (s ++ [',', ' ']) (listed (t :: texts) ++ " from ".toList ++ rest) := by
      have hfirst := Passes.concat (hs.passes
        (' ' :: (listed (t :: texts) ++ " from ".toList ++ rest))) (by decide)
      have hboth := Passes.concat hfirst (by decide)
      rwa [List.append_assoc] at hboth
    rw [hsplit, selectList?_append (hs.level.append hcomma) hpasses hgap,
      selectList?_listed (List.cons_ne_nil t texts)
        (fun x hx => hwhole x (List.mem_cons_of_mem s hx)) hlast rest, listed_cons_cons]
    simp

/-- A space in front of a list makes no difference to its trimmed pieces. -/
theorem map_trim_splitTopLevel_space (s : List Char) :
    (splitTopLevel nameQuotes (' ' :: s)).map trim = (splitTopLevel nameQuotes s).map trim := by
  have hcons : splitTopLevel nameQuotes (' ' :: s) =
      consHead ' ' (splitTopLevel nameQuotes s) := rfl
  obtain ⟨p, ps, hp⟩ := List.exists_cons_of_ne_nil (splitFrom_ne_nil nameQuotes none 0 s)
  have htrim : trim (' ' :: p) = trim p := by
    have hspace := trim_surround .space .nil p
    rwa [List.append_nil] at hspace
  rw [hcons, splitTopLevel, hp, consHead, List.map_cons, List.map_cons, htrim]

/-- **A list is cut into its texts.** -/
theorem map_trim_splitTopLevel_listed : ∀ {texts : List (List Char)}, texts ≠ [] →
    (∀ s ∈ texts, Item.Whole s ',') →
      (splitTopLevel nameQuotes (listed texts ++ [' '])).map trim = texts.map trim
  | [], hne, _ => absurd rfl hne
  | [s], _, hwhole => by
    have hs := hwhole s List.mem_cons_self
    have htrim : trim (s ++ [' ']) = trim s := trim_surround .nil .space s
    rw [listed_singleton, splitTopLevel_append hs.level hs.one_piece rfl]
    simp [htrim]
  | s :: t :: texts, _, hwhole => by
    have hs := hwhole s List.mem_cons_self
    have hsplit : listed (s :: t :: texts) ++ [' '] =
        s ++ ',' :: (' ' :: (listed (t :: texts) ++ [' '])) := by
      rw [listed_cons_cons]
      simp
    rw [hsplit, splitTopLevel_append_comma nameQuotes_proper hs.level.endsOutside hs.one_piece,
      List.map_cons, map_trim_splitTopLevel_space,
      map_trim_splitTopLevel_listed (List.cons_ne_nil t texts)
        fun x hx => hwhole x (List.mem_cons_of_mem s hx)]
    rfl

/-- **The columns of a query have the names of the texts of its list**, or none of their own if a
text stands for several. -/
theorem outputNames?_listed {texts : List (List Char)} (hne : texts ≠ [])
    (hwhole : ∀ s ∈ texts, Item.Whole s ',')
    (hlast : ∀ s, texts.getLast? = some s → Item.Whole s ' ') (rest : List Char) :
    outputNames? (listed texts ++ " from ".toList ++ rest) =
      some (if texts.any fun s => isWildcard (trim s) then "*"
        else joinWith ", " (texts.map fun s => String.ofList (outputName (trim s)))) := by
  rw [outputNames?, selectList?_listed hne hwhole hlast, Option.map_some,
    map_trim_splitTopLevel_listed hne hwhole]
  simp only [List.any_map, Function.comp_def, List.map_map]

/-! ## A list of items -/

/-- A list of items as it is written. -/
def listText (items : List Item) : List Char := ", ".toList.intercalate (items.map Item.text)

theorem whole_of_mem_items {items : List Item} : ∀ s ∈ items.map Item.text, Item.Whole s ',' := by
  intro s hs
  obtain ⟨item, -, rfl⟩ := List.mem_map.1 hs
  exact item.whole_comma

/-- **A list ends behind its items**, if the last of them is not named by the word that ends it. -/
theorem selectList?_items {items : List Item} (hne : items ≠ [])
    (hlast : ∀ item, items.getLast? = some item → ¬item.EndsInFrom) (rest : List Char) :
    selectList? (listText items ++ " from ".toList ++ rest) = some (listText items ++ [' ']) := by
  refine selectList?_listed (mt List.map_eq_nil_iff.1 hne) whole_of_mem_items (fun s hs => ?_) rest
  rw [List.getLast?_map] at hs
  obtain ⟨item, hitem, rfl⟩ := Option.map_eq_some_iff.1 hs
  exact Item.whole (by decide) fun h => absurd h (hlast item hitem)

/-- **A list is cut into its items.** -/
theorem map_trim_splitTopLevel {items : List Item} (hne : items ≠ []) :
    (splitTopLevel nameQuotes (listText items ++ [' '])).map trim =
      items.map fun item => trim item.text := by
  have hpieces := map_trim_splitTopLevel_listed (mt List.map_eq_nil_iff.1 hne)
    (@whole_of_mem_items items)
  rw [List.map_map] at hpieces
  exact hpieces

/-- **The columns of a query have the names of its items**, one each and in their order, or none of
their own if an item stands for several. An item is named by the name that it is given, whatever
commas, quotes, parentheses and `from`s stand in its expression or in a quoted name. -/
theorem outputNames_listText {items : List Item} (hne : items ≠ [])
    (hlast : ∀ item, items.getLast? = some item → ¬item.EndsInFrom) (rest : List Char) :
    outputNames? (listText items ++ " from ".toList ++ rest) =
      some (if items.any Item.isAll then "*"
        else joinWith ", " (items.map fun item => String.ofList item.name)) := by
  rw [outputNames?, selectList?_items hne hlast, Option.map_some, map_trim_splitTopLevel hne]
  simp only [List.any_map, Function.comp_def, Item.isWildcard_trim, List.map_map]
  by_cases hall : items.any Item.isAll = true
  · rw [if_pos hall, if_pos hall]
  · rw [if_neg hall, if_neg hall]
    congr 2
    refine List.map_congr_left fun item hitem => ?_
    cases item with
    | named expression withAs name => rw [Item.outputName_trim]
    | all => exact absurd (List.any_eq_true.2 ⟨_, hitem, rfl⟩) hall
    | allOf expression hsuffix => exact absurd (List.any_eq_true.2 ⟨_, hitem, rfl⟩) hall

/-- Commas, parentheses and a `from` in an expression or in a quoted name do not count. -/
theorem outputNames_listText_quoted : ∃ items : List Item, items ≠ [] ∧
    (∀ item, items.getLast? = some item → ¬item.EndsInFrom) ∧
    listText items ++ " from ".toList ++ "u".toList =
      ("coalesce(a, 'from') as \"Total, \"\"x\"\"\", " ++
        "2*b [from ], u.age years from u").toList ∧
    outputNames? (listText items ++ " from ".toList ++ "u".toList) =
      some "\"Total, \"\"x\"\"\", [from ], years" := by
  let items : List Item := [
    .named ⟨"coalesce(a, 'from')".toList, by decide⟩ true
      (.quoted '"' (.inl rfl) "Total, \"x\"".toList),
    .named ⟨"2*b".toList, by decide⟩ false (.bracketed "from ".toList (by decide)),
    .named ⟨"u.age".toList, by decide⟩ false (.word "years".toList (by decide) (by decide))]
  have hlast : ∀ item, items.getLast? = some item → ¬item.EndsInFrom := by
    intro item hitem
    obtain rfl := Option.some.inj hitem
    decide
  refine ⟨items, List.cons_ne_nil _ _, hlast, by decide +kernel, ?_⟩
  calc outputNames? (listText items ++ " from ".toList ++ "u".toList)
      = some (if items.any Item.isAll then "*"
          else joinWith ", " (items.map fun item => String.ofList item.name)) :=
        outputNames_listText (List.cons_ne_nil _ _) hlast "u".toList
    _ = some "\"Total, \"\"x\"\"\", [from ], years" := by decide

/-- An item whose expression ends with an operator and a blank is not named by its alias, and
neither is the last item if its alias is the word `from` in upper case. -/
theorem outputNames_unnamed_items :
    (IsExpression "a + ".toList ∧ endsInOperator "a + ".toList = false ∧
      outputNames? ("a + ".toList ++ ' ' :: "b".toList ++ " from ".toList ++ "t".toList) =
        some "a +  b" ∧ "a +  b" ≠ "b") ∧
    (IsExpression "a".toList ∧ "FROM".toList ≠ "from".toList ∧
      outputNames? ("a".toList ++ ' ' :: "FROM".toList ++ " from ".toList ++ "t".toList) =
        some "a" ∧ "a" ≠ "FROM") := by
  decide

end PolySql.SelectList
