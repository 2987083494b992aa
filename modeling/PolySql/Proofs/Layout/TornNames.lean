import PolySql.Proofs.Layout.BracketedNames
import PolySql.Proofs.Text.Undivided

/-!
# How a layout tears a name in brackets

A name in brackets is torn where a layout finds something to move in it. Each way is shown on a text
with that name.

* `squeezed`, `squeezed_eq_iff` — what becomes of a content when a text is squeezed; it stays as it
  is exactly if it is tight.
* `breakBefore_inside` — a clause that is looked for is found in a name, before it is found behind
  it.
* `exists_toClosing`, `layoutCreate?_eq` — the parentheses of a name are taken for those around the
  definitions.
* `occurrences_createLines` — what is cut in two lines holds the name no more.
-/

namespace PolySql.Layout

open Text

section Torn

variable {content : List Char}

/-! ## Blanks -/

instance Tight.decidable : ∀ (q : Option Char) (gap : Bool) (s : List Char),
    Decidable (Tight q gap s)
  | _, _, [] => .isTrue trivial
  | q, gap, c :: r =>
    have := Tight.decidable q true r
    have := Tight.decidable (closerAfter literalQuotes q c) false r
    inferInstanceAs (Decidable (if isQuoted literalQuotes q c = false ∧ isBlank c then
      c = ' ' ∧ gap = false ∧ Tight q true r else Tight (closerAfter literalQuotes q c) false r))

/-- What becomes of the content of a name in brackets. -/
def squeezed (content : List Char) : List Char :=
  squeeze none false content ++ spaceIf (gapAfter none false content)

/-- An end of a text is visible if what stands there is no blank. -/
theorem visible_of_map {o : Option Char} (h : o.map isBlank = some false) :
    ∀ c, o = some c → isBlank c = false := by
  rintro c rfl
  exact Option.some.inj h

/-- **A name is squeezed on its own**, whatever stands around it. -/
theorem squeeze_bracketed (h : FreeOfQuotes content) (gap : Bool) (t : List Char) :
    squeeze none gap (bracketed content ++ t) =
      spaceIf gap ++ (bracketed (squeezed content) ++ squeeze none false t) := by
  have hopen : ¬(isQuoted literalQuotes none '[' = false ∧ isBlank '[' = true) := by decide
  have hclose : ¬(isQuoted literalQuotes none ']' = false ∧ isBlank ']' = true) := by decide
  have htext : bracketed content ++ t = '[' :: (content ++ ']' :: t) := by simp [bracketed]
  have hopened : closerAfter literalQuotes none '[' = none := rfl
  have hclosed : closerAfter literalQuotes none ']' = none := rfl
  rw [htext, squeeze_visible hopen, hopened, squeeze_append, closer_content h,
    squeeze_visible hclose, hclosed]
  simp [bracketed, squeezed]

theorem mem_squeeze {q : Option Char} {gap : Bool} {s : List Char} {c : Char}
    (h : c ∈ squeeze q gap s) : c = ' ' ∨ c ∈ s := by
  induction s generalizing q gap with
  | nil => cases h
  | cons d r ih =>
    by_cases hd : isQuoted literalQuotes q d = false ∧ isBlank d = true
    · rw [squeeze, if_pos hd] at h
      exact (ih h).imp_right (List.mem_cons_of_mem d)
    · rw [squeeze_visible hd] at h
      rcases List.mem_append.1 h with hspace | h
      · cases gap with
        | false => cases hspace
        | true => exact .inl (List.mem_singleton.1 hspace)
      · rcases List.mem_cons.1 h with rfl | h
        · exact .inr List.mem_cons_self
        · exact (ih h).imp_right (List.mem_cons_of_mem d)

theorem freeOfQuotes_squeezed (h : FreeOfQuotes content) : FreeOfQuotes (squeezed content) := by
  have hspace : nameQuotes ' ' = none ∧ ' ' ≠ ']' := ⟨rfl, by decide⟩
  intro c hc
  rcases List.mem_append.1 hc with hc | hc
  · rcases mem_squeeze hc with rfl | hc
    · exact hspace
    · exact h c hc
  · unfold spaceIf at hc
    split at hc
    · exact List.mem_singleton.1 hc ▸ hspace
    · cases hc

/-- **A content is squeezed to itself exactly if it is tight.** -/
theorem squeezed_eq_iff (h : FreeOfQuotes content) :
    squeezed content = content ↔ Tight none false content := by
  constructor
  · intro heq
    have htight : Tight none false (squeeze none false (bracketed content ++ [])) :=
      tight_squeeze (fun h => by cases h) _
    rw [squeeze_bracketed h, heq] at htight
    have hname : Tight none false (bracketed content) := by
      simpa [spaceIf, squeeze] using htight
    exact (tight_bracketed h).1 hname
  · intro htight
    exact squeeze_append_gap htight

theorem gapAfter_append (q : Option Char) (gap : Bool) (s t : List Char) :
    gapAfter q gap (s ++ t) =
      gapAfter (closerAfterAll literalQuotes q s) (gapAfter q gap s) t := by
  induction s generalizing q gap with
  | nil => rfl
  | cons c s ih =>
    rw [List.cons_append, gapAfter, gapAfter, closerAfterAll_cons]
    split
    · rename_i hc
      obtain ⟨rfl, hcloser⟩ := eq_none_of_not_isQuoted hc.1
      rw [ih, hcloser]
    · rw [ih]

/-- A space more makes no difference to what a content is squeezed to. -/
theorem squeezed_double {front back : List Char}
    (h : closerAfterAll literalQuotes none front = none) :
    squeezed (front ++ ' ' :: ' ' :: back) = squeezed (front ++ ' ' :: back) := by
  have hskip : ∀ gap, squeeze none gap (' ' :: ' ' :: back) = squeeze none gap (' ' :: back) :=
    fun _ => rfl
  have hgap : ∀ gap, gapAfter none gap (' ' :: ' ' :: back) = gapAfter none gap (' ' :: back) :=
    fun _ => rfl
  unfold squeezed
  rw [squeeze_append, squeeze_append, gapAfter_append, gapAfter_append, h, hskip, hgap]

/-- A text around a tight name is collapsed already if it is tight itself. -/
theorem collapse_around (hfree : FreeOfQuotes content) (htight : Tight none false content)
    {front back : List Char} (hfront : Tight none false front)
    (hcloser : closerAfterAll literalQuotes none front = none) (hback : Tight none false back)
    (hends : Trimmed (front ++ (bracketed content ++ back))) :
    collapse (front ++ (bracketed content ++ back)) = front ++ (bracketed content ++ back) := by
  -- The opening bracket is no blank, so it does not matter whether one stands in front of it.
  have hname : ∀ gap, Tight none gap (bracketed content) := fun _ =>
    (tight_bracketed hfree).2 htight
  have hgap : ∀ gap, gapAfter none gap (bracketed content) = false := by
    intro gap
    have hsame : gapAfter none gap (bracketed content) = gapAfter none false (bracketed content) :=
      rfl
    rw [hsame]
    exact gapAfter_of_last fun c hc => last_bracketed hc
  refine collapse_of_tight ?_ hends
  rw [tight_append, hcloser, tight_append, closerAfterAll_of_no_quote hfree.literalQuotes_eq_none,
    hgap]
  exact ⟨hfront, hname _, hback⟩

/-! ## Clauses -/

/-- **A clause is found in a text without quotes before it is found behind it.** -/
theorem breakBefore_inside {marker front : List Char}
    (hplain : ∀ c ∈ front, literalQuotes c = none)
    (h : occursIn (' ' :: marker) (lower front) = true) (s : List Char) :
    ∃ a b, front = a ++ ' ' :: b ∧
      breakBefore (' ' :: marker) none (front ++ s) = a ++ '\n' :: (indent ++ (b ++ s)) := by
  induction front with
  | nil => exact absurd h (by simp [lower, occursIn])
  | cons c front ih =>
    have hc := unquoted_of_rule_eq_none (hplain c List.mem_cons_self)
    by_cases hstarts : startsIgnoringCase (' ' :: marker) (c :: front ++ s) = true
    · have hbegins := (startsIgnoringCase_iff _ _).1 hstarts
      have hspace : c = ' ' := eq_of_toLower_eq rfl (List.cons_prefix_cons.1 hbegins).1.symm
      refine ⟨[], front, by rw [hspace]; rfl, ?_⟩
      rw [List.cons_append, breakBefore, if_pos ⟨hc.1, hstarts⟩]
      rfl
    · have hlater : occursIn (' ' :: marker) (lower front) = true := by
        rw [lower, List.map_cons, occursIn, Bool.or_eq_true, List.isPrefixOf_iff_prefix] at h
        refine h.resolve_left fun hbegins => hstarts ?_
        rw [startsIgnoringCase_iff, lower_append]
        exact hbegins.trans (List.prefix_append _ _)
      obtain ⟨a, b, rfl, hbreak⟩ :=
        ih (fun d hd => hplain d (List.mem_cons_of_mem c hd)) hlater
      refine ⟨c :: a, b, rfl, ?_⟩
      rw [List.cons_append, breakBefore, if_neg (fun h => hstarts h.2), hc.2, hbreak]
      rfl

/-! ## Parentheses -/

/-- **A parenthesis is closed if enough closing ones follow.** -/
theorem exists_toClosing {s : List Char} (hplain : ∀ c ∈ s, literalQuotes c = none) {d : Nat}
    (h : d + s.count '(' < s.count ')') :
    ∃ inside after, toClosing literalQuotes none d s = some (inside, after) := by
  induction s generalizing d with
  | nil => exact absurd h (Nat.not_lt_zero _)
  | cons c s ih =>
    have hc := unquoted_of_rule_eq_none (hplain c List.mem_cons_self)
    have hs : ∀ x ∈ s, literalQuotes x = none := fun x hx => hplain x (List.mem_cons_of_mem c hx)
    rw [toClosing, if_neg (by simp [hc.1])]
    by_cases hclose : c = ')' ∧ d = 0
    · exact ⟨[], s, if_pos hclose⟩
    · have hrest : depthAfter d c + s.count '(' < s.count ')' := by
        rw [List.count_cons, List.count_cons] at h
        by_cases hopens : c = '('
        · subst hopens
          have hcount : d + (s.count '(' + 1) < s.count ')' := by simpa using h
          simp only [depthAfter]
          omega
        · by_cases hcloses : c = ')'
          · have hd : d ≠ 0 := fun hd => hclose ⟨hcloses, hd⟩
            subst hcloses
            have hcount : d + s.count '(' < s.count ')' + 1 := by simpa using h
            simp only [depthAfter]
            omega
          · rw [depthAfter_of_ne hopens hcloses]
            simpa [hopens, hcloses] using h
      obtain ⟨inside, after, hinside⟩ := ih hs hrest
      exact ⟨c :: inside, after, by rw [if_neg hclose, hinside]; rfl⟩

/-- A text without quotes is laid out at its first parenthesis and at the one that closes it. -/
theorem layoutCreate?_eq {before rest inside after : List Char}
    (hplain : ∀ c ∈ before, literalQuotes c = none) (hopening : '(' ∉ before)
    (htable : occursIn " table ".toList (lower (trimEnd before)) = true)
    (hclosing : toClosing literalQuotes none 0 rest = some (inside, after)) :
    layoutCreate? (before ++ '(' :: rest) =
      some (createLines (trimEnd before) ((splitTopLevel literalQuotes inside).map trim)
        (tail after)) := by
  have hnone : toOpening literalQuotes none before = none := by
    rw [toOpening_eq_none_iff]
    intro hmem
    have hchars := List.mem_map_of_mem hmem (f := Prod.fst)
    rw [map_fst_marks] at hchars
    exact hopening hchars
  have hopens : toOpening literalQuotes none (before ++ '(' :: rest) = some (before, rest) :=
    (toOpening_eq_some_iff literalQuotes_proper).2
      ⟨rfl, closerAfterAll_of_no_quote hplain, hnone⟩
  simp only [layoutCreate?, outerParens, hopens, hclosing, Option.bind_eq_bind, Option.bind_some,
    Option.pure_def]
  rw [if_pos htable]
  simp [createLines]

/-! ## Lines -/

theorem not_mem_lines {x : Char} (hblank : isBlank x = false) (hcomma : x ≠ ',')
    {ds : List (List Char)} (h : ∀ d ∈ ds, x ∉ d) : x ∉ lines ds := by
  have hindent : x ∉ indent := fun hmem => by
    rw [blanks_indent x hmem] at hblank
    cases hblank
  have hnewline : x ≠ '\n' := by
    rintro rfl
    cases hblank
  match ds with
  | [] => exact List.not_mem_nil
  | [d] =>
    rw [lines, List.mem_append]
    exact fun hmem => hmem.elim hindent (h d List.mem_cons_self)
  | d :: e :: ds =>
    have hrest := not_mem_lines hblank hcomma fun d' hd' => h d' (List.mem_cons_of_mem d hd')
    have hlines : lines (d :: e :: ds) = indent ++ d ++ ',' :: '\n' :: lines (e :: ds) := rfl
    rw [hlines]
    simp only [List.mem_append, List.mem_cons, not_or]
    exact ⟨⟨hindent, h d List.mem_cons_self⟩, hcomma, hnewline, hrest⟩

theorem lines_append {front back : List (List Char)} (hfront : front ≠ []) (hback : back ≠ []) :
    lines (front ++ back) = lines front ++ ',' :: '\n' :: lines back := by
  match front, hfront with
  | [d], _ =>
    obtain ⟨e, ds, rfl⟩ := List.exists_cons_of_ne_nil hback
    rfl
  | d :: e :: ds, _ =>
    have hrest := lines_append (List.cons_ne_nil e ds) hback
    have hlines : ∀ es, lines (d :: e :: es) = indent ++ d ++ ',' :: '\n' :: lines (e :: es) :=
      fun _ => rfl
    rw [List.cons_append, List.cons_append, hlines, hlines, ← List.cons_append, hrest]
    simp

theorem mem_of_mem_trim {x : Char} {s : List Char} (h : x ∈ trim s) : x ∈ s := by
  obtain ⟨pre, post, -, -, hs⟩ := exists_trim s
  rw [hs]
  exact List.mem_append_right _ (List.mem_append_left _ h)

theorem mem_commaJoin {x : Char} : ∀ {ps : List (List Char)} {p : List Char}, p ∈ ps → x ∈ p →
    x ∈ commaJoin ps
  | [q], p, hp, hx => by
    obtain rfl := List.mem_singleton.1 hp
    exact hx
  | q :: r :: ps, p, hp, hx => by
    have hjoin : commaJoin (q :: r :: ps) = q ++ ',' :: commaJoin (r :: ps) := rfl
    rw [hjoin]
    rcases List.mem_cons.1 hp with rfl | hp
    · exact List.mem_append_left _ hx
    · exact List.mem_append_right _ (List.mem_cons_of_mem _ (mem_commaJoin hp hx))

/-- Definitions hold what stands between the parentheses, and nothing else. -/
theorem not_mem_definitions {x : Char} {inside : List Char} (h : x ∉ inside) :
    ∀ d ∈ (splitTopLevel literalQuotes inside).map trim, x ∉ d := by
  intro d hd hx
  obtain ⟨p, hp, rfl⟩ := List.mem_map.1 hd
  have hjoin := mem_commaJoin hp (mem_of_mem_trim hx)
  rw [commaJoin_splitTopLevel] at hjoin
  exact h hjoin

theorem not_mem_tail {x : Char} (hspace : x ≠ ' ') {s : List Char} (h : x ∉ s) : x ∉ tail s := by
  have htrim : x ∉ trimStart s := by
    obtain ⟨pre, -, hs⟩ := exists_trimStart s
    rw [hs] at h
    exact fun hmem => h (List.mem_append_right _ hmem)
  rcases tail_cases s with htail | ⟨-, htail⟩
  · rwa [htail]
  · rw [htail, List.mem_cons, not_or]
    exact ⟨hspace, htrim⟩

/-- **A name is torn that begins on one line and ends on another.** -/
theorem occurrences_createLines (hnewline : '\n' ∉ bracketed content) {head rest : List Char}
    {ds front back : List (List Char)} (hds : ds = front ++ back) (hhead : ']' ∉ head)
    (hfront : ∀ d ∈ front, ']' ∉ d) (hback : ∀ d ∈ back, '[' ∉ d) (hrest : '[' ∉ rest) :
    occurrences (bracketed content) (createLines head ds rest) = 0 := by
  subst hds
  obtain ⟨x, y, htext, hx, hy⟩ : ∃ x y, createLines head (front ++ back) rest = x ++ '\n' :: y ∧
      ']' ∉ x ∧ '[' ∉ y := by
    have hlinesFront : ']' ∉ lines front := not_mem_lines rfl (by decide) hfront
    have hlinesBack : '[' ∉ lines back := not_mem_lines rfl (by decide) hback
    by_cases hnone : front = []
    · refine ⟨head ++ [' ', '('], lines back ++ '\n' :: ')' :: rest, ?_, ?_, ?_⟩
      · simp [createLines, hnone]
      · simp [hhead]
      · simp [hlinesBack, hrest]
    · by_cases hend : back = []
      · refine ⟨head ++ ' ' :: '(' :: '\n' :: lines front, ')' :: rest, ?_, ?_, ?_⟩
        · simp [createLines, hend]
        · simp [hhead, hlinesFront]
        · simp [hrest]
      · refine ⟨head ++ ' ' :: '(' :: '\n' :: (lines front ++ [',']),
          lines back ++ '\n' :: ')' :: rest, ?_, ?_, ?_⟩
        · simp [createLines, lines_append hnone hend]
        · simp [hhead, hlinesFront]
        · simp [hlinesBack, hrest]
  rw [htext, occurrences_append_cons bracketed_ne_nil hnewline,
    occurrences_eq_zero closing_mem_bracketed hx, occurrences_eq_zero opening_mem_bracketed hy]

/-! ## Statements with a torn name -/

/-- **A clause that a statement is broken at is found in the name of the table.** -/
theorem occurrences_layout_clause (hfree : FreeOfQuotes content) (htight : Tight none false content)
    (hoccurs : occursIn " add ".toList (lower content) = true) {rest : List Char}
    (hrest : '[' ∉ rest) :
    occurrences (bracketed content)
      (layoutCollapsed ("alter table ".toList ++ (bracketed content ++ rest))) = 0 := by
  have halter : ∀ r, layoutCollapsed ("alter table [".toList ++ r) =
      "alter table [".toList ++ breakBefore " add ".toList none r := fun _ => rfl
  have hmarker : " add ".toList = ' ' :: "add ".toList := rfl
  have hsplit : "alter table ".toList ++ (bracketed content ++ rest) =
      "alter table [".toList ++ (content ++ ']' :: rest) := by
    simp [bracketed]
  obtain ⟨a, b, hcontent, hbreak⟩ :=
    breakBefore_inside hfree.plain (hmarker ▸ hoccurs) (']' :: rest)
  rw [hsplit, halter, hmarker, hbreak, ← List.append_assoc,
    occurrences_append_cons bracketed_ne_nil (newline_not_mem hfree htight),
    occurrences_eq_zero closing_mem_bracketed, occurrences_eq_zero opening_mem_bracketed]
  · have hopening := hfree.opening
    simp only [hcontent, List.mem_append, List.mem_cons, not_or] at hopening ⊢
    exact ⟨blanks_indent.opening_not_mem, hopening.2.2, by decide, hrest⟩
  · have hclosing := hfree.closing
    simp only [hcontent, List.mem_append, List.mem_cons, not_or] at hclosing ⊢
    exact ⟨by decide, hclosing.1⟩

theorem trimEnd_append_of_last {s : List Char}
    (h : ∀ c, s.getLast? = some c → isBlank c = false) (t : List Char) :
    trimEnd (s ++ t) = s ++ trimEnd t := by
  obtain ⟨post, hpost, ht⟩ := exists_trimEnd t
  conv => lhs; rw [ht]
  rw [← List.append_assoc, trimEnd_append hpost]
  refine trimEnd_eq_self fun c hc => ?_
  rw [List.getLast?_append] at hc
  cases hlast : (trimEnd t).getLast? with
  | none =>
    rw [hlast] at hc
    exact h c hc
  | some d =>
    rw [hlast] at hc
    obtain rfl := Option.some.inj hc
    exact last_trimEnd hlast

/-- **A parenthesis in the name of a table is taken for the one in front of the definitions.** -/
theorem occurrences_layout_opening {front back : List Char}
    (hfree : FreeOfQuotes (front ++ '(' :: back)) (htight : Tight none false (front ++ '(' :: back))
    (hfront : '(' ∉ front) {rest : List Char} (hplain : ∀ c ∈ rest, literalQuotes c = none)
    (hrest : '[' ∉ rest)
    (hcount : back.count '(' + rest.count '(' < back.count ')' + rest.count ')') :
    occurrences (bracketed (front ++ '(' :: back)) (layoutCollapsed ("create table ".toList ++
      (bracketed (front ++ '(' :: back) ++ rest))) = 0 := by
  have hcreate : ∀ r, layoutCollapsed ("create table [".toList ++ r) =
      (layoutCreate? ("create table [".toList ++ r)).getD ("create table [".toList ++ r) :=
    fun _ => rfl
  have hsplit : "create table ".toList ++ (bracketed (front ++ '(' :: back) ++ rest) =
      "create table [".toList ++ (front ++ '(' :: (back ++ ']' :: rest)) := by
    simp [bracketed]
  have hname := hfree.plain
  rw [List.forall_mem_append, List.forall_mem_cons] at hname
  obtain ⟨inside, after, hclosing⟩ :
      ∃ inside after, toClosing literalQuotes none 0 (back ++ ']' :: rest) =
        some (inside, after) := by
    refine exists_toClosing ?_ ?_
    · rw [List.forall_mem_append, List.forall_mem_cons]
      exact ⟨hname.2.2, rfl, hplain⟩
    · simp only [List.count_append, List.count_cons]
      simpa using hcount
  have hbefore : trimEnd ("create table [".toList ++ front) =
      "create table [".toList ++ trimEnd front :=
    trimEnd_append_of_last (visible_of_map rfl) front
  have htable : occursIn " table ".toList
      (lower (trimEnd ("create table [".toList ++ front))) = true := by
    rw [hbefore, lower_append]
    exact occursIn_append_left (by decide) _
  have hbeforePlain : ∀ c ∈ "create table [".toList ++ front, literalQuotes c = none := by
    rw [List.forall_mem_append]
    exact ⟨forall_mem_of_all (by decide), hname.1⟩
  have hbeforeOpening : '(' ∉ "create table [".toList ++ front := by
    rw [List.mem_append, not_or]
    exact ⟨by decide, hfront⟩
  have hlayout := layoutCreate?_eq hbeforePlain hbeforeOpening htable hclosing
  have hopening := hfree.opening
  have hends := hfree.closing
  simp only [List.mem_append, List.mem_cons, not_or] at hopening hends
  have hbehind : '[' ∉ inside ++ ')' :: after := by
    rw [← eq_append_of_toClosing hclosing]
    simp only [List.mem_append, List.mem_cons, not_or]
    exact ⟨hopening.2.2, by decide, hrest⟩
  simp only [List.mem_append, List.mem_cons, not_or] at hbehind
  have hhead : ']' ∉ trimEnd ("create table [".toList ++ front) := by
    obtain ⟨post, -, hpost⟩ := exists_trimEnd front
    rw [hpost, List.mem_append, not_or] at hends
    rw [hbefore, List.mem_append, not_or]
    exact ⟨by decide, hends.1.1⟩
  rw [hsplit, hcreate, ← List.append_assoc, hlayout, Option.getD_some]
  exact occurrences_createLines (newline_not_mem hfree htight) (List.nil_append _).symm hhead
    (by simp) (not_mem_definitions hbehind.1) (not_mem_tail (by decide) hbehind.2.2)

/-- Where a comma or a closing parenthesis stands in a name, a definition ends. -/
theorem exists_definitions {front back : List Char} {d : Char} (hd : d = ')' ∨ d = ',')
    (hplain : ∀ c ∈ '[' :: front, literalQuotes c = none) (hfront : ∀ c ∈ front, ¬Delimits c)
    (hback : ∀ c ∈ back, literalQuotes c = none) (hcount : back.count '(' < back.count ')') :
    ∃ inside after first others,
      toClosing literalQuotes none 0 ('[' :: front ++ d :: back) = some (inside, after) ∧
        (splitTopLevel literalQuotes inside).map trim = first ++ others ∧
          (∀ x ∈ first, ∀ c ∈ x, c ∈ '[' :: front) ∧ (∀ x ∈ others, ∀ c ∈ x, c ∈ back) ∧
            ∀ c ∈ after, c ∈ back := by
  have hpiece : Plain literalQuotes ('[' :: front) := by
    intro c hc
    refine ⟨hplain c hc, ?_, ?_⟩
    · rintro rfl
      exact hfront '(' (by simpa using hc) (.inl rfl)
    · rintro rfl
      exact hfront ')' (by simpa using hc) (.inr (.inl rfl))
  have hcomma : ',' ∉ '[' :: front := by
    intro hmem
    exact hfront ',' (by simpa using hmem) (.inr (.inr rfl))
  have hone : splitTopLevel literalQuotes ('[' :: front) = ['[' :: front] :=
    splitFrom_of_not_mem hcomma none 0
  rcases hd with rfl | rfl
  · refine ⟨'[' :: front, back, [trim ('[' :: front)], [], ?_, ?_, ?_, by simp, fun _ h => h⟩
    · exact (toClosing_eq_some_iff literalQuotes_proper).2
        ⟨rfl, closerAfterAll_plain hpiece, depthThrough?_plain hpiece 0⟩
    · rw [hone]
      rfl
    · rw [List.forall_mem_singleton]
      exact fun c hc => mem_of_mem_trim hc
  · obtain ⟨inside, after, hclosing⟩ := exists_toClosing hback (d := 0) (by simpa using hcount)
    obtain ⟨htext, hcloser, hdepth⟩ := (toClosing_eq_some_iff literalQuotes_proper).1 hclosing
    have hlevel : Level literalQuotes ('[' :: front) := .of_plain hpiece
    have hjoint : Level literalQuotes [','] := .of_plain (by decide)
    have hwhole := hlevel.append (hjoint.append ⟨hcloser, hdepth⟩)
    refine ⟨'[' :: front ++ ',' :: inside, after, [trim ('[' :: front)],
      (splitTopLevel literalQuotes inside).map trim, ?_, ?_, ?_, ?_, ?_⟩
    · exact (toClosing_eq_some_iff literalQuotes_proper).2
        ⟨by rw [htext]; simp, hwhole.closer, hwhole.depth⟩
    · rw [splitTopLevel_append_comma literalQuotes_proper hlevel.endsOutside hone]
      rfl
    · rw [List.forall_mem_singleton]
      exact fun c hc => mem_of_mem_trim hc
    · intro x hx c hc
      refine Decidable.by_contra fun hnone => not_mem_definitions (fun hin => hnone ?_) x hx hc
      rw [htext]
      exact List.mem_append_left _ hin
    · intro c hc
      rw [htext]
      exact List.mem_append_right _ (List.mem_cons_of_mem _ hc)

/-- **A comma or a closing parenthesis in the name of a column is taken for one between or behind
the definitions.** -/
theorem occurrences_layout_separator {front back : List Char} {d : Char} (hd : d = ')' ∨ d = ',')
    (hfree : FreeOfQuotes (front ++ d :: back)) (htight : Tight none false (front ++ d :: back))
    (hfront : ∀ c ∈ front, ¬Delimits c) {rest : List Char}
    (hplain : ∀ c ∈ rest, literalQuotes c = none) (hrest : '[' ∉ rest)
    (hcount : back.count '(' + rest.count '(' < back.count ')' + rest.count ')') :
    occurrences (bracketed (front ++ d :: back)) (layoutCollapsed ("create table t (".toList ++
      (bracketed (front ++ d :: back) ++ rest))) = 0 := by
  have hcreate : ∀ r, layoutCollapsed ("create table t (".toList ++ r) =
      (layoutCreate? ("create table t (".toList ++ r)).getD ("create table t (".toList ++ r) :=
    fun _ => rfl
  have hsplit : "create table t (".toList ++ (bracketed (front ++ d :: back) ++ rest) =
      "create table t ".toList ++ '(' :: ('[' :: front ++ d :: (back ++ ']' :: rest)) := by
    simp [bracketed]
  have hname := hfree.plain
  rw [List.forall_mem_append, List.forall_mem_cons] at hname
  have hopening := hfree.opening
  have hclosing := hfree.closing
  simp only [List.mem_append, List.mem_cons, not_or] at hopening hclosing
  have hbehind : '[' ∉ back ++ ']' :: rest := by
    simp only [List.mem_append, List.mem_cons, not_or]
    exact ⟨hopening.2.2, by decide, hrest⟩
  have hbackPlain : ∀ c ∈ back ++ ']' :: rest, literalQuotes c = none := by
    rw [List.forall_mem_append, List.forall_mem_cons]
    exact ⟨hname.2.2, rfl, hplain⟩
  have hbackCount : (back ++ ']' :: rest).count '(' < (back ++ ']' :: rest).count ')' := by
    simp only [List.count_append, List.count_cons]
    simpa using hcount
  obtain ⟨inside, after, first, others, hinside, hds, hfirst, hothers, hafter⟩ :=
    exists_definitions hd (List.forall_mem_cons.2 ⟨rfl, hname.1⟩) hfront hbackPlain hbackCount
  have hbeforePlain : ∀ c ∈ "create table t ".toList, literalQuotes c = none :=
    forall_mem_of_all (by decide)
  have hlayout := layoutCreate?_eq hbeforePlain (by decide) (by decide) hinside
  have hpiece : ']' ∉ '[' :: front := by
    rw [List.mem_cons, not_or]
    exact ⟨by decide, hclosing.1⟩
  have hlost : occurrences (bracketed (front ++ d :: back))
      (createLines (trimEnd "create table t ".toList)
        ((splitTopLevel literalQuotes inside).map trim) (tail after)) = 0 :=
    occurrences_createLines (newline_not_mem hfree htight) hds (by decide)
      (fun x hx hmem => hpiece (hfirst x hx _ hmem))
      (fun x hx hmem => hbehind (hothers x hx _ hmem))
      (not_mem_tail (by decide) fun hmem => hbehind (hafter _ hmem))
  have htext : "create table t (".toList ++ (bracketed (front ++ d :: back) ++ rest) =
      "create table t (".toList ++ ('[' :: front ++ d :: (back ++ ']' :: rest)) := by
    simp [bracketed]
  rw [htext, hcreate, ← htext, hsplit, hlayout, Option.getD_some, hlost]

end Torn

end PolySql.Layout
