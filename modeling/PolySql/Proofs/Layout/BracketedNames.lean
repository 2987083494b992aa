import PolySql.Proofs.Layout.Words
import PolySql.Proofs.Text.Occurrences

/-!
# Names in brackets under a layout

A layout knows the quotes of literals and of names, but no brackets: what stands between them is
text like any other.

* `Steady` — a content in which a layout finds nothing to move.
* `squeeze_append_bracketed` — such a name comes out of a squeeze as it went in, wherever it stands.
* `occurrences_le_squeeze`, `occurrences_squeeze` — so it is not lost; and if it holds no blanks,
  blanks that are taken out of other texts do not make new ones.
* `occurrences_layoutCollapsed` — lines are broken where the name is not.

Principal result: `occurrences_layout` — in any text whatever, a layout keeps the names with a
steady content.
-/

namespace PolySql.Layout

open Text

/-- The content of a name in brackets that holds nothing a layout goes by: neither delimiters nor
blanks other than single spaces, nor the clause that it puts on a line of its own. -/
structure Steady (content : List Char) : Prop where
  delimiters : ∀ c ∈ content, ¬Delimits c
  tight : Tight none false content
  unbroken : occursIn " add ".toList (lower content) = false

section Squeeze

variable {content : List Char}

theorem closerAfterAll_of_no_quote {s : List Char} (h : ∀ c ∈ s, literalQuotes c = none) :
    closerAfterAll literalQuotes none s = none := by
  induction s with
  | nil => rfl
  | cons c s ih =>
    rw [closerAfterAll_cons, (unquoted_of_rule_eq_none (h c List.mem_cons_self)).2,
      ih fun d hd => h d (List.mem_cons_of_mem c hd)]

/-- In a span that it does not close, every text is quoted. -/
theorem inside_of_not_mem {e : Char} {s : List Char} (h : e ∉ s) :
    Tight (some e) false s ∧ closerAfterAll literalQuotes (some e) s = some e := by
  induction s with
  | nil => exact ⟨trivial, rfl⟩
  | cons c s ih =>
    have hstays : closerAfter literalQuotes (some e) c = some e := by
      rw [closerAfter, if_neg (List.ne_of_not_mem_cons h).symm]
    have hquoted : isQuoted literalQuotes (some e) c = true := rfl
    rw [Tight, if_neg (by simp [hquoted]), closerAfterAll_cons, hstays]
    exact ih (List.not_mem_of_not_mem_cons h)

/-- The blanks of a tight text without quotes are spaces. -/
theorem Tight.eq_space {gap : Bool} {s : List Char} (h : Tight none gap s)
    (hplain : ∀ c ∈ s, literalQuotes c = none) {c : Char} (hc : c ∈ s)
    (hblank : isBlank c = true) : c = ' ' := by
  induction s generalizing gap with
  | nil => cases hc
  | cons d s ih =>
    have hd := unquoted_of_rule_eq_none (hplain d List.mem_cons_self)
    have hs : ∀ x ∈ s, literalQuotes x = none := fun x hx => hplain x (List.mem_cons_of_mem d hx)
    unfold Tight at h
    split at h
    · rcases List.mem_cons.1 hc with rfl | hc
      · exact h.1
      · exact ih h.2.2 hs hc
    · rename_i hvisible
      rcases List.mem_cons.1 hc with rfl | hc
      · exact absurd ⟨hd.1, hblank⟩ hvisible
      · exact ih (hd.2 ▸ h) hs hc

theorem closer_content (h : FreeOfQuotes content) :
    closerAfterAll literalQuotes none content = none :=
  closerAfterAll_of_no_quote h.plain

theorem tight_bracketed (hfree : FreeOfQuotes content) :
    Tight none false (bracketed content) ↔ Tight none false content := by
  have hopen : Tight none false (bracketed content) ↔ Tight none false (content ++ [']']) :=
    Iff.rfl
  rw [hopen, tight_append, closer_content hfree]
  exact ⟨fun h => h.1, fun h => ⟨h, trivial⟩⟩

theorem last_bracketed {c : Char} (h : (bracketed content).getLast? = some c) :
    isBlank c = false := by
  obtain rfl : ']' = c := by
    rw [bracketed, List.getLast?_cons, List.getLast?_append] at h
    simpa using h
  rfl

/-- The open span, if there is one, is not closed by a name. -/
def Passes (q : Option Char) (w : List Char) : Prop := ∀ e, q = some e → e ∉ w

theorem Passes.closerAfter {q : Option Char} {w : List Char}
    (hplain : ∀ c ∈ w, literalQuotes c = none) (h : Passes q w) (c : Char) :
    Passes (closerAfter literalQuotes q c) w := by
  intro e he
  cases q with
  | none =>
    intro hmem
    obtain ⟨rfl, -⟩ := literalQuotes_eq_some he
    rw [Text.closerAfter, hplain e hmem] at he
    cases he
  | some d =>
    rw [Text.closerAfter] at he
    split at he
    · cases he
    · exact h e he

/-- **A steady name comes out of a squeeze as it went in**, quoted or not. -/
theorem squeeze_append_bracketed (hfree : FreeOfQuotes content) (htight : Tight none false content)
    {q : Option Char} (hq : Passes q (bracketed content)) (t : List Char) :
    squeeze q false (bracketed content ++ t) = bracketed content ++ squeeze q false t := by
  have hstays : Tight q false (bracketed content) ∧
      closerAfterAll literalQuotes q (bracketed content) = q := by
    cases q with
    | none =>
      exact ⟨(tight_bracketed hfree).2 htight,
        closerAfterAll_of_no_quote hfree.literalQuotes_eq_none⟩
    | some e => exact inside_of_not_mem (hq e rfl)
  rw [squeeze_append, squeeze_of_tight hstays.1 fun c => last_bracketed, hstays.2,
    gapAfter_of_last fun c => last_bracketed]

/-! ## How often a name stands in a squeezed text -/

theorem occurrences_space_append (gap : Bool) (s : List Char) :
    occurrences (bracketed content) (spaceIf gap ++ s) = occurrences (bracketed content) s :=
  occurrences_append_of_opening (blanks_spaceIf gap).opening_not_mem s

theorem squeeze_visible {q : Option Char} {c : Char}
    (hc : ¬(isQuoted literalQuotes q c = false ∧ isBlank c = true)) (gap : Bool) (r : List Char) :
    squeeze q gap (c :: r) =
      spaceIf gap ++ c :: squeeze (closerAfter literalQuotes q c) false r := by
  rw [squeeze, if_neg hc]
  cases gap <;> rfl

/-- A name that begins a text begins what is squeezed of it. -/
theorem prefix_squeeze (hfree : FreeOfQuotes content) (htight : Tight none false content)
    {q : Option Char} (hq : Passes q (bracketed content)) {s : List Char}
    (h : bracketed content <+: s) : bracketed content <+: squeeze q false s := by
  obtain ⟨t, rfl⟩ := h
  rw [squeeze_append_bracketed hfree htight hq]
  exact List.prefix_append _ _

/-- **A squeeze loses no steady name.** -/
theorem occurrences_le_squeeze (hfree : FreeOfQuotes content) (htight : Tight none false content)
    (s : List Char) : ∀ {q : Option Char} (gap : Bool), Passes q (bracketed content) →
      occurrences (bracketed content) s ≤ occurrences (bracketed content) (squeeze q gap s) := by
  induction s with
  | nil => exact fun _ _ => Nat.zero_le _
  | cons c r ih =>
    intro q gap hq
    by_cases hc : isQuoted literalQuotes q c = false ∧ isBlank c = true
    · have hskip : occurrences (bracketed content) (c :: r) = occurrences (bracketed content) r :=
        occurrences_append_of_opening (Blanks.cons hc.2 .nil).opening_not_mem r
      obtain ⟨rfl, -⟩ := eq_none_of_not_isQuoted hc.1
      rw [squeeze, if_pos hc]
      exact hskip ▸ ih true hq
    · have hrest := ih false (hq.closerAfter hfree.literalQuotes_eq_none c)
      have hsqueeze : squeeze q false (c :: r) =
          c :: squeeze (closerAfter literalQuotes q c) false r := squeeze_visible hc false r
      have hhead : bracketed content <+: c :: r →
          bracketed content <+: c :: squeeze (closerAfter literalQuotes q c) false r :=
        fun h => hsqueeze ▸ prefix_squeeze hfree htight hq h
      rw [squeeze_visible hc, occurrences_space_append, occurrences, occurrences]
      refine Nat.add_le_add ?_ hrest
      split
      · rename_i hbegins
        have hkept := List.isPrefixOf_iff_prefix.2 (hhead (List.isPrefixOf_iff_prefix.1 hbegins))
        exact Nat.le_of_eq (if_pos hkept).symm
      · exact Nat.zero_le _

/-- Blanks in front of a text are squeezed to a space, if anything follows. -/
theorem squeeze_gap_head (q : Option Char) (s : List Char) :
    squeeze q true s = [] ∨ ∃ t, squeeze q true s = ' ' :: t := by
  induction s generalizing q with
  | nil => exact .inl rfl
  | cons c r ih =>
    rw [squeeze]
    split
    · exact ih q
    · exact .inr ⟨_, rfl⟩

/-- A word that begins what is squeezed of a text begins the text. -/
theorem prefix_of_squeeze {u : List Char} (hu : ∀ c ∈ u, isBlank c = false) {q : Option Char}
    {s : List Char} (h : u <+: squeeze q false s) : u <+: s := by
  induction s generalizing q u with
  | nil => exact h
  | cons c r ih =>
    cases u with
    | nil => exact List.nil_prefix
    | cons d u =>
      rw [squeeze] at h
      split at h
      · -- The text begins with a blank, and so would what is squeezed of it.
        rcases squeeze_gap_head q r with hnil | ⟨t, ht⟩
        · rw [hnil] at h
          exact absurd (List.prefix_nil.1 h) (List.cons_ne_nil d u)
        · rw [ht] at h
          obtain ⟨rfl, -⟩ := List.cons_prefix_cons.1 h
          exact absurd (hu ' ' List.mem_cons_self) (by decide)
      · obtain ⟨rfl, hrest⟩ := List.cons_prefix_cons.1 h
        exact List.cons_prefix_cons.2
          ⟨rfl, ih (fun x hx => hu x (List.mem_cons_of_mem d hx)) hrest⟩

/-- **A squeeze makes no names without blanks.** -/
theorem occurrences_squeeze (hfree : FreeOfQuotes content)
    (hvisible : ∀ c ∈ content, isBlank c = false) (htight : Tight none false content)
    (s : List Char) : ∀ {q : Option Char} (gap : Bool), Passes q (bracketed content) →
      occurrences (bracketed content) (squeeze q gap s) = occurrences (bracketed content) s := by
  have hname : ∀ c ∈ bracketed content, isBlank c = false := by
    intro c hc
    rcases mem_bracketed.1 hc with rfl | hc | rfl
    · rfl
    · exact hvisible c hc
    · rfl
  induction s with
  | nil => exact fun _ _ => rfl
  | cons c r ih =>
    intro q gap hq
    by_cases hc : isQuoted literalQuotes q c = false ∧ isBlank c = true
    · have hskip : occurrences (bracketed content) (c :: r) = occurrences (bracketed content) r :=
        occurrences_append_of_opening (Blanks.cons hc.2 .nil).opening_not_mem r
      obtain ⟨rfl, -⟩ := eq_none_of_not_isQuoted hc.1
      rw [squeeze, if_pos hc, ih true hq]
      exact hskip.symm
    · have hhead : (bracketed content).isPrefixOf
          (c :: squeeze (closerAfter literalQuotes q c) false r) =
            (bracketed content).isPrefixOf (c :: r) := by
        rw [Bool.eq_iff_iff, List.isPrefixOf_iff_prefix, List.isPrefixOf_iff_prefix]
        have hsqueeze : squeeze q false (c :: r) =
            c :: squeeze (closerAfter literalQuotes q c) false r := squeeze_visible hc false r
        rw [← hsqueeze]
        exact ⟨prefix_of_squeeze hname, prefix_squeeze hfree htight hq⟩
      rw [squeeze_visible hc, occurrences_space_append, occurrences, occurrences, hhead,
        ih false (hq.closerAfter hfree.literalQuotes_eq_none c)]

end Squeeze

/-! ## Lines -/

section Lines

variable {content : List Char}

/-- A tight name stands on one line. -/
theorem newline_not_mem (hfree : FreeOfQuotes content) (htight : Tight none false content) :
    '\n' ∉ bracketed content := by
  intro hmem
  have hspace := ((tight_bracketed hfree).2 htight).eq_space hfree.literalQuotes_eq_none hmem rfl
  cases hspace

namespace Steady

theorem not_mem (h : Steady content) {d : Char} (hd : Delimits d) : d ∉ bracketed content := by
  intro hmem
  rcases mem_bracketed.1 hmem with rfl | hmem | rfl
  · rcases hd with h | h | h <;> cases h
  · exact h.delimiters d hmem hd
  · rcases hd with h | h | h <;> cases h

/-- A content without blanks and delimiters is steady. -/
theorem of_visible (hvisible : ∀ c ∈ content, isBlank c = false)
    (hdelimiters : ∀ c ∈ content, ¬Delimits c) : Steady content where
  delimiters := hdelimiters
  tight := tight_of_blanksQuoted (.of_visible hvisible) false
  unbroken := by
    rw [Bool.eq_false_iff]
    intro hoccurs
    have hmem : ' ' ∈ lower content := ((occursIn_iff _ _).1 hoccurs).mem (by decide)
    obtain ⟨c, hc, hspace⟩ := List.mem_map.1 hmem
    obtain rfl := eq_of_toLower_eq rfl hspace
    exact absurd (hvisible _ hc) (by decide)

/-- No clause is looked for that stands in a steady name. -/
theorem not_occursIn_add (h : Steady content) :
    occursIn " add ".toList (lower (bracketed content)) = false := by
  have hbracket : ∀ {c : Char}, c = '[' ∨ c = ']' → c ∉ " add ".toList := by
    rintro c (rfl | rfl) <;> decide
  have htext : lower (bracketed content) = [] ++ '[' :: (lower content ++ ']' :: []) := by
    simp [bracketed, lower]
  rw [Bool.eq_false_iff, htext]
  intro hoccurs
  rcases occursIn_append_cons (hbracket (.inl rfl)) _ _ hoccurs with hfront | hrest
  · exact absurd hfront (by decide)
  · rcases occursIn_append_cons (hbracket (.inr rfl)) _ _ hrest with hin | hback
    · rw [h.unbroken] at hin
      cases hin
    · exact absurd hback (by decide)

end Steady

theorem not_occursIn_is (hfree : FreeOfQuotes content) :
    occursIn " is '".toList (lower (bracketed content)) = false := by
  rw [Bool.eq_false_iff]
  intro hoccurs
  have hmem : '\'' ∈ lower (bracketed content) :=
    ((occursIn_iff _ _).1 hoccurs).mem (by decide)
  obtain ⟨c, hc, hquote⟩ := List.mem_map.1 hmem
  obtain rfl := eq_of_toLower_eq rfl hquote
  exact absurd (hfree.literalQuotes_eq_none _ hc) (by decide)

/-- **A line is broken where the name is not**, if it does not hold what is looked for. -/
theorem occurrences_breakBefore {marker : List Char} (hnewline : '\n' ∉ bracketed content)
    (hclosing : ']' ∉ marker)
    (hmarker : occursIn (' ' :: marker) (lower (bracketed content)) = false) (s : List Char) :
    occurrences (bracketed content) (breakBefore (' ' :: marker) none s) =
      occurrences (bracketed content) s := by
  rcases breakBefore_cases marker none s with h | ⟨a, b, rfl, -, hfollows, h⟩
  · rw [h]
  · have hspace : '[' ∉ [' '] := by decide
    have hapart : occurrences (bracketed content) (a ++ ' ' :: b) =
        occurrences (bracketed content) a + occurrences (bracketed content) (' ' :: b) := by
      refine occurrences_append_of_apart fun u v huv hv _ _ hbegins => ?_
      -- A name that reaches over the space holds the marker, or it ends within the marker.
      obtain ⟨c, v, rfl⟩ := List.exists_cons_of_ne_nil hv
      obtain ⟨rfl, hrest⟩ := List.cons_prefix_cons.1 hbegins
      have hend : ']' ∈ v := by
        have hmem := (brackets_of_append huv).2 hv
        simpa using hmem
      have hlower : lower v <+: lower b := by
        obtain ⟨t, rfl⟩ := hrest
        rw [lower_append]
        exact List.prefix_append _ _
      rcases List.prefix_or_prefix_of_prefix hfollows hlower with hin | hout
      · have hoccurs : occursIn (' ' :: marker) (lower (bracketed content)) = true := by
          obtain ⟨t, ht⟩ := hin
          rw [occursIn_iff, huv, lower_append]
          exact ⟨lower u, t, by rw [List.append_assoc, List.cons_append, ht]; rfl⟩
        rw [hmarker] at hoccurs
        cases hoccurs
      · exact hclosing (hout.mem (List.mem_map.2 ⟨']', hend, rfl⟩))
    rw [h, occurrences_append_cons bracketed_ne_nil hnewline, hapart,
      occurrences_append_of_opening blanks_indent.opening_not_mem,
      ← List.singleton_append (x := ' '), occurrences_append_of_opening hspace]

theorem occurrences_lines (hcomma : ',' ∉ bracketed content) (hnewline : '\n' ∉ bracketed content) :
    ∀ ds : List (List Char), occurrences (bracketed content) (lines ds) =
      occurrences (bracketed content) (commaJoin ds)
  | [] => rfl
  | [d] => occurrences_append_of_opening blanks_indent.opening_not_mem d
  | d :: e :: ds => by
    have hlines : lines (d :: e :: ds) = (indent ++ d) ++ ',' :: ([] ++ '\n' :: lines (e :: ds)) :=
      rfl
    rw [hlines, occurrences_append_cons bracketed_ne_nil hcomma,
      occurrences_append_cons bracketed_ne_nil hnewline,
      occurrences_append_of_opening blanks_indent.opening_not_mem,
      occurrences_lines hcomma hnewline (e :: ds), occurrences_commaJoin_cons hcomma]
    simp [occurrences]

theorem occurrences_tail (s : List Char) :
    occurrences (bracketed content) (tail s) = occurrences (bracketed content) s := by
  obtain ⟨pre, hpre, hs⟩ := exists_trimStart s
  have htrim : occurrences (bracketed content) (trimStart s) =
      occurrences (bracketed content) s := by
    conv => rhs; rw [hs]
    exact (occurrences_append_of_opening hpre.opening_not_mem _).symm
  rcases tail_cases s with h | ⟨-, h⟩
  · rw [h, htrim]
  · rw [h, ← htrim]
    exact occurrences_append_of_opening (a := [' ']) (by decide) _

/-- **A CREATE TABLE statement is laid out around the names.** -/
theorem occurrences_layoutCreate (hfree : FreeOfQuotes content) (hsteady : Steady content)
    {s out : List Char} (h : layoutCreate? s = some out) :
    occurrences (bracketed content) out = occurrences (bracketed content) s := by
  obtain ⟨head, post, inside, after, rfl, -, hpost, -, rfl⟩ := layoutCreate?_eq_some_iff.1 h
  have hopening := hsteady.not_mem (.inl rfl)
  have hclosing := hsteady.not_mem (.inr (.inl rfl))
  have hcomma := hsteady.not_mem (.inr (.inr rfl))
  have hnewline := newline_not_mem hfree hsteady.tight
  have hdefinitions : occurrences (bracketed content)
      (lines ((splitTopLevel literalQuotes inside).map trim)) =
        occurrences (bracketed content) inside := by
    rw [occurrences_lines hcomma hnewline, occurrences_commaJoin_trim hcomma,
      commaJoin_splitTopLevel]
  have hout : createLines head ((splitTopLevel literalQuotes inside).map trim) (tail after) =
      (head ++ [' ']) ++ '(' :: ([] ++ '\n' ::
        (lines ((splitTopLevel literalQuotes inside).map trim) ++ '\n' ::
          ([] ++ ')' :: tail after))) := by
    simp [createLines]
  rw [hout, ← List.append_assoc head]
  simp only [occurrences_append_cons bracketed_ne_nil hopening,
    occurrences_append_cons bracketed_ne_nil hclosing,
    occurrences_append_cons bracketed_ne_nil hnewline, hdefinitions, occurrences_tail,
    occurrences_append_of_closing hpost.closing_not_mem,
    occurrences_append_of_closing Blanks.space.closing_not_mem]
  simp [occurrences]

/-- **Lines are broken where the name is not.** -/
theorem occurrences_layoutCollapsed (hfree : FreeOfQuotes content) (hsteady : Steady content)
    (s : List Char) :
    occurrences (bracketed content) (layoutCollapsed s) = occurrences (bracketed content) s := by
  have hnewline := newline_not_mem hfree hsteady.tight
  unfold layoutCollapsed
  split
  · cases h : layoutCreate? s with
    | none => rfl
    | some out => exact occurrences_layoutCreate hfree hsteady h
  · split
    · exact occurrences_breakBefore hnewline (by decide) hsteady.not_occursIn_add s
    · split
      · exact occurrences_breakBefore hnewline (by decide) (not_occursIn_is hfree) s
      · rfl

/-- **A layout keeps every steady name**, in any text, and makes none if they hold no blanks. -/
theorem occurrences_layout (hfree : FreeOfQuotes content) (hsteady : Steady content)
    (sql : String) :
    occurrences (bracketed content) sql.toList ≤
        occurrences (bracketed content) (layout sql).toList ∧
      ((∀ c ∈ content, isBlank c = false) →
        occurrences (bracketed content) (layout sql).toList =
          occurrences (bracketed content) sql.toList) := by
  have houtside : Passes none (bracketed content) := fun _ h => by cases h
  rw [layout, String.toList_ofList, occurrences_layoutCollapsed hfree hsteady, collapse,
    ← occurrences_trim content sql.toList]
  exact ⟨occurrences_le_squeeze hfree hsteady.tight _ false houtside,
    fun hvisible => occurrences_squeeze hfree hvisible hsteady.tight _ false houtside⟩

end Lines

end PolySql.Layout
