import PolySql.Proofs.Layout.Words
import PolySql.Proofs.Text.Undivided

/-!
# One definition a line

A CREATE TABLE statement is collapsed before its definitions are looked for, and they are found by
its outer parentheses and the commas between them.

* `skeleton_collapse` — collapsing a text moves none of the characters that scans go by.
* `squeeze_eq` — a closed text is squeezed to its collapsed form, with a space before it perhaps.
* `Settled.of_undivided`, `squeeze_commaJoin` — definitions that are one piece each are found again
  in the collapsed text.
* `Opening`, `createText` — a CREATE TABLE statement by its parts.

Principal result: `layoutCollapsed_createText` — each definition of such a statement is written on a
line of its own, and no line holds anything else.
-/

namespace PolySql.Layout

open Text

/-! ## What collapsing keeps -/

theorem steers_of_isBlank {c : Char} (h : isBlank c = true) : steers c = false := by
  rw [Bool.eq_false_iff]
  intro hsteers
  have hrule := literalQuotes_proper.blank c h
  simp only [steers, hrule, Option.isSome_none, Bool.false_or, Bool.or_eq_true, beq_iff_eq]
    at hsteers
  rcases hsteers with (rfl | rfl) | rfl <;> cases h

theorem skeleton_squeeze (q : Option Char) (gap : Bool) (s : List Char) :
    skeleton (squeeze q gap s) = skeleton s := by
  have hspace : steers ' ' = false := by decide
  induction s generalizing q gap with
  | nil => rfl
  | cons c s ih =>
    unfold skeleton at ih ⊢
    rw [squeeze]
    split
    · rename_i hc
      rw [ih, List.filter_cons_of_neg (by simp [steers_of_isBlank hc.2])]
    · cases gap with
      | false => rw [if_neg Bool.false_ne_true, List.filter_cons, List.filter_cons, ih]
      | true =>
        rw [if_pos rfl, List.filter_cons_of_neg (by simp [hspace]), List.filter_cons,
          List.filter_cons, ih]

theorem skeleton_blanks {s : List Char} (h : Blanks s) : skeleton s = [] :=
  List.filter_eq_nil_iff.2 fun c hc => by simp [steers_of_isBlank (h c hc)]

theorem skeleton_trim (s : List Char) : skeleton (trim s) = skeleton s := by
  obtain ⟨pre, post, hpre, hpost, hs⟩ := exists_trim s
  conv => rhs; rw [hs]
  rw [skeleton_append, skeleton_append, skeleton_blanks hpre, skeleton_blanks hpost,
    List.nil_append, List.append_nil]

/-- **Collapsing a text moves none of the characters that scans go by.** -/
theorem skeleton_collapse (s : List Char) : skeleton (collapse s) = skeleton s := by
  rw [collapse, skeleton_squeeze, skeleton_trim]

/-- A definition that is one piece is found again on a line of its own. -/
theorem Settled.of_undivided {d : List Char} (h : Undivided literalQuotes d) :
    Settled (collapse d) := by
  have hcollapsed := h.of_skeleton_eq (skeleton_collapse d).symm
  exact ⟨trimmed_collapse d, tight_collapse d, hcollapsed.level, hcollapsed.one_piece⟩

/-! ## Squeezing parts of a text -/

theorem squeeze_trimmed {s : List Char} (hs : Trimmed s) (gap : Bool) :
    squeeze none gap s = spaceIf (gap && !s.isEmpty) ++ squeeze none false s := by
  cases gap with
  | false => rfl
  | true =>
    cases s with
    | nil => rfl
    | cons c r =>
      have hc : ¬(isQuoted literalQuotes none c = false ∧ isBlank c = true) := by
        simp [hs.head c rfl]
      unfold squeeze
      rw [if_neg hc, if_neg hc]
      rfl

/-- A text that ends outside quotes is squeezed to its collapsed form. A space stands before it if
it holds anything, and blanks stand before that. -/
theorem squeeze_eq {s : List Char} (h : closerAfterAll literalQuotes none s = none) (gap : Bool) :
    squeeze none gap s =
      spaceIf ((gap || s.head?.any isBlank) && !(trim s).isEmpty) ++ collapse s := by
  obtain ⟨pre, post, hpre, hpost, hs⟩ := exists_trim s
  have hclosed : closerAfterAll literalQuotes none (trim s) = none := by
    rw [closerAfterAll_trim literalQuotes_proper, h]
  have hback : ∀ gap, squeeze none gap post = [] := by
    intro gap
    have hblanks := squeeze_blanks hpost gap []
    rwa [List.append_nil] at hblanks
  have hsqueeze : squeeze none gap s =
      spaceIf ((gap || !pre.isEmpty) && !(trim s).isEmpty) ++ collapse s := by
    conv => lhs; rw [hs]
    rw [squeeze_blanks hpre, squeeze_append, hclosed, hback, List.append_nil,
      squeeze_trimmed (trimmed_trim s)]
    rfl
  rw [hsqueeze]
  -- Blanks stand in front of a text exactly if its first character is one.
  cases htrim : trim s with
  | nil => simp
  | cons c r =>
    have hc := (trimmed_trim s).head c (by rw [htrim]; rfl)
    have hhead : s.head?.any isBlank = !pre.isEmpty := by
      cases pre with
      | nil =>
        rw [hs, htrim]
        simpa using hc
      | cons b pre =>
        rw [hs]
        simpa using hpre.of_cons.1
    rw [hhead]

theorem squeeze_of_head {s : List Char} (h : closerAfterAll literalQuotes none s = none)
    (hhead : ∀ c, s.head? = some c → isBlank c = false) : squeeze none false s = collapse s := by
  have hblank : s.head?.any isBlank = false := by
    cases hs : s.head? with
    | none => rfl
    | some c => exact hhead c hs
  rw [squeeze_eq h, hblank]
  rfl

/-! ## Definitions -/

/-- Before a delimiter, a definition is squeezed to its collapsed form with at most a space on
either side. -/
theorem squeeze_delimited {d : List Char} (h : closerAfterAll literalQuotes none d = none)
    {k : Char} (hk : Delimits k) (gap : Bool) (t : List Char) :
    ∃ pre post, Blanks pre ∧ Blanks post ∧
      squeeze none gap (d ++ k :: t) =
        (pre ++ (collapse d ++ post)) ++ k :: squeeze none false t := by
  obtain ⟨pre, hpre, hfront⟩ : ∃ pre, Blanks pre ∧ squeeze none gap d = pre ++ collapse d :=
    ⟨_, blanks_spaceIf _, squeeze_eq h gap⟩
  refine ⟨pre, spaceIf (gapAfter none gap d), hpre, blanks_spaceIf _, ?_⟩
  rw [squeeze_append, hfront, h, squeeze_delimiter hk]
  simp only [List.append_assoc]

/-- **Definitions that are one piece each come out of a squeeze as pieces between commas**, each the
collapsed definition with at most a space on either side. -/
theorem squeeze_commaJoin : ∀ {ds : List (List Char)}, ds ≠ [] →
    (∀ d ∈ ds, Undivided literalQuotes d) → ∀ (gap : Bool) (t : List Char),
      ∃ ps : List (List Char), ps ≠ [] ∧
        squeeze none gap (commaJoin ds ++ ')' :: t) =
          commaJoin ps ++ ')' :: squeeze none false t ∧
        ps.map trim = ds.map collapse ∧
        ∀ p ∈ ps, Level literalQuotes p ∧ splitTopLevel literalQuotes p = [p]
  | [], hne, _, _, _ => absurd rfl hne
  | [d], _, h, gap, t => by
    have hd := h d List.mem_cons_self
    obtain ⟨pre, post, hpre, hpost, hsqueeze⟩ :=
      squeeze_delimited hd.level.closer (k := ')') (by simp [Delimits]) gap t
    obtain ⟨htrim, hpiece⟩ := (Settled.of_undivided hd).surround hpre hpost
    refine ⟨[pre ++ (collapse d ++ post)], List.cons_ne_nil _ _, hsqueeze, ?_, fun p hp => ?_⟩
    · rw [List.map_singleton, List.map_singleton, htrim]
    · obtain rfl := List.mem_singleton.1 hp
      exact hpiece
  | d :: e :: ds, _, h, gap, t => by
    have hd := h d List.mem_cons_self
    obtain ⟨ps, hps, hrest, htrims, hpieces⟩ := squeeze_commaJoin (List.cons_ne_nil e ds)
      (fun x hx => h x (List.mem_cons_of_mem d hx)) false t
    obtain ⟨pre, post, hpre, hpost, hsqueeze⟩ := squeeze_delimited hd.level.closer (k := ',')
      (by simp [Delimits]) gap (commaJoin (e :: ds) ++ ')' :: t)
    obtain ⟨htrim, hpiece⟩ := (Settled.of_undivided hd).surround hpre hpost
    refine ⟨(pre ++ (collapse d ++ post)) :: ps, List.cons_ne_nil _ _, ?_, ?_, fun p hp => ?_⟩
    · rw [commaJoin_cons d (List.cons_ne_nil e ds), commaJoin_cons _ hps, List.append_assoc d,
        List.cons_append, hsqueeze, hrest]
      simp only [List.append_assoc, List.cons_append]
    · rw [List.map_cons, List.map_cons, htrim, htrims]
    · rcases List.mem_cons.1 hp with rfl | hp
      · exact hpiece
      · exact hpieces p hp

/-! ## The whole statement -/

/-- What stands before the definitions of a CREATE TABLE statement. -/
structure Opening (opening : List Char) : Prop where
  visible : ∃ c r, opening = c :: r ∧ isBlank c = false
  closer : closerAfterAll literalQuotes none opening = none
  noOpening : toOpening literalQuotes none opening = none
  create : startsIgnoringCase "create ".toList (collapse opening) = true
  table : occursIn " table ".toList (lower (collapse opening)) = true

/-- The words that begin a CREATE TABLE statement, up to the name of the table. -/
structure Header (header : List Char) : Prop where
  collapsed : collapse header = header
  closer : closerAfterAll literalQuotes none header = none
  noOpening : toOpening literalQuotes none header = none
  create : startsIgnoringCase "create ".toList header = true
  table : " table".toList <:+ lower header

section Header

variable {header name : List Char}

theorem Header.trimmed (h : Header header) : Trimmed header := h.collapsed ▸ trimmed_collapse header

theorem Header.visible (h : Header header) : ∃ c r, header = c :: r ∧ isBlank c = false := by
  cases header with
  | nil => cases h.create
  | cons c r => exact ⟨c, r, rfl, h.trimmed.head c rfl⟩

/-- The name of a table is collapsed by itself. -/
theorem collapse_header (h : Header header)
    (hname : closerAfterAll literalQuotes none name = none) (hvisible : ¬Blanks name) :
    collapse (header ++ ' ' :: name) = header ++ ' ' :: collapse name := by
  obtain ⟨c, r, hheader, hc⟩ := h.visible
  have hspace : closerAfterAll literalQuotes none (' ' :: name) = none := hname
  have hclosed : closerAfterAll literalQuotes none (header ++ ' ' :: name) = none := by
    rw [closerAfterAll_append, h.closer, hspace]
  have hhead : ∀ x, (header ++ ' ' :: name).head? = some x → isBlank x = false := by
    intro x hx
    rw [hheader] at hx
    obtain rfl : c = x := by simpa using hx
    exact hc
  have hleft : squeeze none true name = ' ' :: collapse name := by
    have hsome : (trim name).isEmpty = false := by
      rw [Bool.eq_false_iff, Ne, List.isEmpty_iff, trim_eq_nil_iff]
      exact hvisible
    rw [squeeze_eq hname, hsome]
    rfl
  rw [← squeeze_of_head hclosed hhead, squeeze_append, squeeze_of_head h.closer h.trimmed.head,
    h.collapsed, h.closer, gapAfter_of_last h.trimmed.last, ← List.singleton_append,
    squeeze_blanks .space, List.isEmpty_cons, Bool.not_false, Bool.or_true, hleft]

theorem Opening.of_header (h : Header header)
    (hname : closerAfterAll literalQuotes none name = none) (hvisible : ¬Blanks name)
    (hopening : toOpening literalQuotes none name = none) : Opening (header ++ ' ' :: name) := by
  have hcollapse := collapse_header h hname hvisible
  have hspace : toOpening literalQuotes none (' ' :: name) = none := by
    rw [toOpening, if_neg (by decide)]
    exact Option.map_eq_none_iff.2 hopening
  refine ⟨?_, ?_, ?_, ?_, ?_⟩
  · obtain ⟨c, r, hheader, hc⟩ := h.visible
    exact ⟨c, r ++ ' ' :: name, by rw [hheader]; rfl, hc⟩
  · rw [closerAfterAll_append, h.closer]
    exact hname
  · rw [toOpening_append none h.noOpening, h.closer, hspace]
    rfl
  · have hcreate := h.create
    rw [startsIgnoringCase_iff] at hcreate ⊢
    rw [hcollapse, lower_append]
    exact hcreate.trans (List.prefix_append _ _)
  · obtain ⟨front, hfront⟩ := h.table
    rw [hcollapse, occursIn_iff, lower_append, ← hfront]
    exact ⟨front, lower (collapse name), by simp [lower]⟩

end Header

theorem Opening.heading {opening : List Char} (h : Opening opening) :
    Heading (collapse opening) where
  last := (trimmed_collapse opening).last
  closer := (closerAfterAll_of_skeleton_eq (skeleton_collapse opening)).trans h.closer
  opening := toOpening_of_skeleton_eq (skeleton_collapse opening).symm h.noOpening
  table := h.table

/-- A CREATE TABLE statement: what stands before its definitions, the definitions, and the clauses
behind them. -/
def createText (opening : List Char) (ds words : List (List Char)) : List Char :=
  opening ++ ' ' :: '(' :: (commaJoin ds ++ ')' :: clauses words)

section Create

variable {opening : List Char} {ds words : List (List Char)}

/-- A collapsed statement has its definitions where it had them. -/
theorem collapse_createText (hopening : Opening opening) (hne : ds ≠ [])
    (hds : ∀ d ∈ ds, Undivided literalQuotes d) (hwords : ∀ w ∈ words, Word w) :
    ∃ ps : List (List Char), ps ≠ [] ∧
      collapse (createText opening ds words) =
        collapse opening ++ ' ' :: '(' :: (commaJoin ps ++ ')' :: clauses words) ∧
      ps.map trim = ds.map collapse ∧
      ∀ p ∈ ps, Level literalQuotes p ∧ splitTopLevel literalQuotes p = [p] := by
  obtain ⟨ps, hps, hsqueeze, htrim, hpieces⟩ :=
    squeeze_commaJoin hne hds false (clauses words)
  refine ⟨ps, hps, ?_, htrim, hpieces⟩
  have hlast : ∀ c, (clauses words).getLast? = some c → isBlank c = false := by
    intro c hc
    rw [last_clauses] at hc
    obtain rfl := Option.some.inj hc
    rfl
  have htrimmed : Trimmed (createText opening ds words) := by
    obtain ⟨c, r, hc, hblank⟩ := hopening.visible
    constructor
    · intro x hx
      rw [createText, hc] at hx
      obtain rfl : c = x := by simpa using hx
      exact hblank
    · intro x hx
      refine hlast x ?_
      have hclauses := last_clauses words
      rw [createText, List.getLast?_append, List.getLast?_cons, List.getLast?_cons,
        List.getLast?_append, List.getLast?_cons, hclauses] at hx
      rw [hclauses]
      exact hx
  have hfront : squeeze none false opening = collapse opening := by
    refine squeeze_of_head hopening.closer fun x hx => ?_
    obtain ⟨c, r, hc, hblank⟩ := hopening.visible
    rw [hc] at hx
    obtain rfl : c = x := by simpa using hx
    exact hblank
  calc collapse (createText opening ds words)
      = squeeze none false
          (opening ++ ([' '] ++ '(' :: (commaJoin ds ++ ')' :: clauses words))) := by
        rw [collapse, htrimmed.trim_eq]
        rfl
    _ = collapse opening ++ (' ' :: '(' ::
          squeeze none false (commaJoin ds ++ ')' :: clauses words)) := by
        rw [squeeze_append, hfront, hopening.closer, squeeze_blanks .space,
          squeeze_delimiter (.inl rfl)]
        simp [spaceIf]
    _ = collapse opening ++ ' ' :: '(' :: (commaJoin ps ++ ')' :: clauses words) := by
        rw [hsqueeze, squeeze_of_tight (tight_clauses hwords) hlast]

/-- **Each definition of a CREATE TABLE statement is written on a line of its own**, collapsed, and
no line holds anything else: the commas and parentheses in definitions do not count, and what stands
behind them follows the closing parenthesis as it is. -/
theorem layoutCollapsed_createText (hopening : Opening opening) (hne : ds ≠ [])
    (hds : ∀ d ∈ ds, Undivided literalQuotes d)
    (hwords : ∀ w ∈ words, Word w ∧ w.head? ≠ some ';') :
    layoutCollapsed (collapse (createText opening ds words)) =
      createLines (collapse opening) (ds.map collapse) (clauses words) := by
  obtain ⟨ps, hps, hcollapse, htrim, hpieces⟩ :=
    collapse_createText hopening hne hds fun w hw => (hwords w hw).1
  have hcreate : layoutCreate? (collapse (createText opening ds words)) =
      some (createLines (collapse opening) (ds.map collapse) (clauses words)) := by
    refine layoutCreate?_eq_some_iff.2 ⟨collapse opening, [' '], commaJoin ps, clauses words,
      hcollapse, hopening.heading, .space, ?_, ?_⟩
    · exact level_commaJoin literalQuotes_proper fun p hp => (hpieces p hp).1
    · rw [splitTopLevel_commaJoin literalQuotes_proper hps hpieces, htrim, tail_clauses hwords]
  have hstarts : startsIgnoringCase "create ".toList (collapse (createText opening ds words)) =
      true := by
    have hbegins := hopening.create
    rw [startsIgnoringCase_iff] at hbegins ⊢
    rw [hcollapse, lower_append]
    exact hbegins.trans (List.prefix_append _ _)
  rw [layoutCollapsed, if_pos hstarts, hcreate, Option.getD_some]

end Create

end PolySql.Layout
