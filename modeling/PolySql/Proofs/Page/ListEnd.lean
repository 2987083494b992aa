import PolySql.Page.SelectList
import PolySql.Proofs.Page.Keyword
import PolySql.Proofs.Text.Spans

/-!
# Where a select list ends

A select list ends at the first `from` that stands outside quotes and parentheses and between
blanks.

* `startsFrom_iff` — a text begins with the word.
* `untilFrom_append` — a search that finds nothing in a text goes on behind it.
* `Passes` — no list ends within a text that another one follows. Texts that pass are those without
  the word, quoted ones and words of their own (`Passes.of_no_word`, `Passes.of_covered`,
  `Passes.of_letters`), those without an unquoted blank that do not begin with the word
  (`Passes.of_blanksQuoted`), and one such text behind another (`Passes.append`).

Principal results: `selectList?_append` — the list goes on behind a text that passes — and
`selectList?_distinct` — a leading `distinct` hides no `from`.
-/

namespace PolySql.SelectList

open Text

/-- A text begins with the word `from` in any letter case, and a blank. -/
theorem startsFrom_iff {s : List Char} :
    startsFrom s = true ↔ ∃ word c r, s = word ++ c :: r ∧ lower word = "from".toList ∧
      isBlank c = true := by
  unfold startsFrom
  rw [Bool.and_eq_true, startsIgnoringCase_iff]
  constructor
  · rintro ⟨hstarts, hblank⟩
    split at hblank
    · rename_i c r hdrop
      refine ⟨s.take 4, c, r, ?_, ?_, hblank⟩
      · rw [← hdrop, List.take_append_drop]
      · rw [lower, List.map_take]
        exact (List.prefix_iff_eq_take.1 hstarts).symm
    · cases hblank
  · rintro ⟨word, c, r, rfl, hword, hc⟩
    have hlength : word.length = 4 := by rw [← lower_length, hword]; rfl
    refine ⟨?_, ?_⟩
    · rw [lower_append, hword]
      exact List.prefix_append _ _
    · rw [← hlength, List.drop_left]
      exact hc

/-- A text that begins with the word begins with its letter. -/
theorem startsFrom_cons_eq_false {c : Char} (h : c.toLower ≠ 'f') (r : List Char) :
    startsFrom (c :: r) = false := by
  rw [Bool.eq_false_iff]
  intro hstarts
  obtain ⟨word, d, r', hs, hword, -⟩ := startsFrom_iff.1 hstarts
  cases word with
  | nil => cases hword
  | cons w ws =>
    obtain rfl := (List.cons.inj hs).1
    exact h (List.cons.inj hword).1

/-- A text that begins with the word whatever follows its end holds the word whole. -/
theorem exists_word_of_startsFrom {y : List Char} {c : Char} {r : List Char}
    (hc : c.toLower ∉ "from".toList) (h : startsFrom (y ++ c :: r) = true) :
    ∃ word y', y = word ++ y' ∧ lower word = "from".toList ∧
      ∀ b, (y' ++ [c]).head? = some b → isBlank b = true := by
  obtain ⟨word, b, r', hs, hword, hb⟩ := startsFrom_iff.1 h
  rcases List.append_eq_append_iff.1 hs with ⟨w', rfl, hr⟩ | ⟨y', rfl, hr⟩
  · cases w' with
    | nil =>
      obtain rfl := (List.cons.inj hr).1
      refine ⟨y, [], (List.append_nil y).symm, by simpa using hword, fun b' hb' => ?_⟩
      obtain rfl := Option.some.inj hb'
      exact hb
    | cons a w' =>
      -- The word would reach over the end of the text, and hold a letter that it does not.
      obtain rfl := (List.cons.inj hr).1
      refine absurd ?_ hc
      rw [← hword, lower_append]
      exact List.mem_append_right _ List.mem_cons_self
  · refine ⟨word, y', rfl, hword, fun b' hb' => ?_⟩
    have hhead : (y' ++ c :: r).head? = some b' := by
      rw [List.head?_append] at hb' ⊢
      exact hb'
    rw [← hr] at hhead
    obtain rfl := Option.some.inj hhead
    exact hb

/-! ## The search goes on -/

/-- Whether a blank stands at the end of a text; `gap` tells of the text before it. -/
def gapAfter (gap : Bool) (s : List Char) : Bool := (s.getLast?.map isBlank).getD gap

theorem gapAfter_true_iff {s : List Char} :
    gapAfter true s = true ↔ ∀ c, s.getLast? = some c → isBlank c = true := by
  unfold gapAfter
  cases s.getLast? <;> simp

theorem gapAfter_cons (gap : Bool) (c : Char) (s : List Char) :
    gapAfter gap (c :: s) = gapAfter (isBlank c) s := by
  unfold gapAfter
  rw [List.getLast?_cons]
  cases s.getLast? <;> rfl

theorem gapAfter_append (gap : Bool) (s t : List Char) :
    gapAfter gap (s ++ t) = gapAfter (gapAfter gap s) t := by
  unfold gapAfter
  rw [List.getLast?_append]
  cases t.getLast? <;> rfl

/-- **A search that finds nothing in a text goes on behind it** as the quotes, the parentheses and
the last character of the text say. -/
theorem untilFrom_append {q : Option Char} {d : Nat} {gap : Bool} {s t : List Char}
    (h : ∀ x y, s = x ++ y → y ≠ [] → closerAfterAll nameQuotes q x = none →
      depthAfterAll nameQuotes q d x = 0 → gapAfter gap x = true → startsFrom (y ++ t) = false) :
    untilFrom q d gap (s ++ t) =
      (untilFrom (closerAfterAll nameQuotes q s) (depthAfterAll nameQuotes q d s)
        (gapAfter gap s) t).map (s ++ ·) := by
  induction s generalizing q d gap with
  | nil => cases ht : untilFrom q d gap t <;> simp [depthAfterAll, gapAfter, ht]
  | cons c s ih =>
    rw [List.cons_append, untilFrom, closerAfterAll_cons, depthAfterAll, gapAfter_cons]
    have hrest : ∀ d', (∀ x, depthAfterAll nameQuotes q d (c :: x) =
        depthAfterAll nameQuotes (closerAfter nameQuotes q c) d' x) →
        untilFrom (closerAfter nameQuotes q c) d' (isBlank c) (s ++ t) =
          (untilFrom (closerAfterAll nameQuotes (closerAfter nameQuotes q c) s)
            (depthAfterAll nameQuotes (closerAfter nameQuotes q c) d' s)
            (gapAfter (isBlank c) s) t).map (s ++ ·) := by
      intro d' hd'
      refine ih fun x y hs hy hcloser hdepth hgap => ?_
      refine h (c :: x) y (by rw [hs, List.cons_append]) hy hcloser ?_ ?_
      · rw [hd', hdepth]
      · rw [gapAfter_cons, hgap]
    by_cases hc : isQuoted nameQuotes q c = true
    · rw [if_pos hc, if_pos hc, hrest d fun x => by rw [depthAfterAll, if_pos hc], Option.map_map]
      rfl
    · obtain ⟨rfl, hnone⟩ := eq_none_of_not_isQuoted (Bool.eq_false_iff.2 hc)
      rw [hnone] at hrest ⊢
      have hgoes : ¬(d = 0 ∧ gap = true ∧ startsFrom (c :: (s ++ t)) = true) := by
        rintro ⟨hd, hgap, hstarts⟩
        have hstop := h [] (c :: s) rfl (List.cons_ne_nil c s) rfl hd hgap
        rw [List.cons_append, hstarts] at hstop
        cases hstop
      rw [if_neg hc, if_neg hc, if_neg hgoes,
        hrest (depthAfter d c) fun x => by rw [depthAfterAll, if_neg hc], Option.map_map]
      rfl

/-- No list ends within a text: where the search may stop, it does not find the word, though it
looks at the text behind, too. -/
def Passes (s t : List Char) : Prop :=
  ∀ x y, s = x ++ y → y ≠ [] → Level nameQuotes x → gapAfter true x = true →
    startsFrom (y ++ t) = false

/-- **The search goes on behind a level text that passes**, as at the start of a text if a blank
stands there. -/
theorem untilFrom_level {s t : List Char} (hlevel : Level nameQuotes s) (h : Passes s t) :
    untilFrom none 0 true (s ++ t) = (untilFrom none 0 (gapAfter true s) t).map (s ++ ·) := by
  have hgoes := @untilFrom_append none 0 true s t fun x y hs hy hcloser hdepth hgap =>
    h x y hs hy ((hs ▸ hlevel).of_append ⟨hcloser, hdepth⟩) hgap
  rwa [hlevel.closer, hlevel.endsOutside.depth] at hgoes

/-- The list of a query goes on behind a text that passes and ends with a blank. -/
theorem selectList?_append {s t : List Char} (hlevel : Level nameQuotes s) (h : Passes s t)
    (hgap : gapAfter true s = true) : selectList? (s ++ t) = (selectList? t).map (s ++ ·) := by
  rw [selectList?, untilFrom_level hlevel h, hgap]
  rfl

/-! ## Texts that pass -/

namespace Passes

/-- A text without the letter passes. -/
theorem of_lacks_f {s : List Char} (h : 'f' ∉ lower s) (t : List Char) : Passes s t := by
  rintro x y rfl hy - -
  obtain ⟨c, r, rfl⟩ := List.exists_cons_of_ne_nil hy
  refine startsFrom_cons_eq_false (fun hc => h ?_) (r ++ t)
  rw [← hc]
  exact List.mem_map_of_mem (by simp)

/-- A text that is quoted as a whole passes: the quotes of its names are no letters. -/
theorem of_covered {s : List Char} (h : Covered nameQuotes none s) (t : List Char) :
    Passes s t := by
  rintro x y rfl hy hx -
  obtain ⟨c, r, rfl⟩ := List.exists_cons_of_ne_nil hy
  obtain ⟨e, he⟩ := Option.isSome_iff_exists.1 (h.opens hx.closer)
  refine startsFrom_cons_eq_false ?_ (r ++ t)
  rcases nameQuotes_eq_some he with ⟨rfl, -⟩ | ⟨-, rfl | rfl | rfl⟩ <;> decide

/-- A text passes in which no word `from` stands outside quotes and parentheses, if it goes on with
no letter of the word. -/
theorem of_no_word {s : List Char}
    (h : ∀ x word y, s = x ++ (word ++ y) → lower word = "from".toList →
      (∀ c, x.getLast? = some c → isBlank c = true) → (∀ c, y.head? = some c → isBlank c = true) →
        ¬Level nameQuotes x) {c : Char} (hc : c.toLower ∉ "from".toList) (r : List Char) :
    Passes s (c :: r) := by
  rintro x y rfl hy hx hgap
  rw [Bool.eq_false_iff]
  intro hstarts
  obtain ⟨word, y', rfl, hword, hblank⟩ := exists_word_of_startsFrom hc hstarts
  refine h x word y' rfl hword (gapAfter_true_iff.1 hgap) (fun b hb => hblank b ?_) hx
  rw [List.head?_append, hb]
  rfl

/-- A word passes, unless it is the word `from` and a blank follows. -/
theorem of_letters {s : List Char} (h : ∀ c ∈ s, isBlank c = false) {c : Char} {r : List Char}
    (hc : c.toLower ∉ "from".toList) (hword : lower s = "from".toList → isBlank c = false) :
    Passes s (c :: r) := by
  rintro x y rfl hy - hgap
  rw [Bool.eq_false_iff]
  intro hstarts
  obtain ⟨word, y', rfl, hlower, hblank⟩ := exists_word_of_startsFrom hc hstarts
  have hx : x = [] := by
    refine List.getLast?_eq_none_iff.1 (Option.eq_none_iff_forall_ne_some.2 fun b hb => ?_)
    have hletter := h b (List.mem_append_left _ (List.mem_of_getLast? hb))
    rw [gapAfter_true_iff.1 hgap b hb] at hletter
    cases hletter
  have hy' : y' = [] := by
    refine List.head?_eq_none_iff.1 (Option.eq_none_iff_forall_ne_some.2 fun b hb => ?_)
    have hletter := h b (by simp [List.mem_of_head? hb])
    rw [hblank b (by rw [List.head?_append, hb]; rfl)] at hletter
    cases hletter
  subst hx hy'
  have hcblank := hblank c rfl
  rw [hword (by simpa using hlower)] at hcblank
  cases hcblank

/-- A text whose blanks are quoted passes, unless it begins with the word. -/
theorem of_blanksQuoted {s t : List Char} (h : BlanksQuoted nameQuotes none s)
    (hstart : startsFrom (s ++ t) = false) : Passes s t := by
  rintro x y rfl - hx hgap
  rcases List.eq_nil_or_concat x with rfl | ⟨x, c, rfl⟩
  · exact hstart
  · rw [List.concat_eq_append] at h hx hgap
    rw [List.append_assoc] at h
    have hvisible := h.last nameQuotes_proper hx.closer
    have hblank := gapAfter_true_iff.1 hgap c (by simp)
    rw [hvisible] at hblank
    cases hblank

/-- Texts pass one after the other. -/
theorem append {s t u : List Char} (hlevel : Level nameQuotes s) (hgap : gapAfter true s = true)
    (hs : Passes s (t ++ u)) (ht : Passes t u) : Passes (s ++ t) u := by
  intro x y hst hy hx hx'
  rcases List.append_eq_append_iff.1 hst with ⟨x', rfl, ht'⟩ | ⟨y', hs', rfl⟩
  · rw [gapAfter_append, hgap] at hx'
    exact ht x' y ht' hy (hlevel.of_append_left hx) hx'
  · cases y' with
    | nil =>
      rw [List.append_nil] at hs'
      subst hs'
      exact ht [] t rfl hy ⟨rfl, rfl⟩ rfl
    | cons c r =>
      rw [List.append_assoc]
      exact hs x (c :: r) hs' (List.cons_ne_nil c r) hx hx'

/-- A text passes together with the character behind it. -/
theorem concat {s : List Char} {c : Char} {u : List Char} (hs : Passes s (c :: u))
    (hc : c.toLower ≠ 'f') : Passes (s ++ [c]) u := by
  intro x y hst hy hx hgap
  rcases List.append_eq_append_iff.1 hst with ⟨x', rfl, ht'⟩ | ⟨y', hs', rfl⟩
  · cases x' with
    | nil =>
      rw [List.nil_append] at ht'
      rw [← ht']
      exact startsFrom_cons_eq_false hc u
    | cons a r =>
      have hnil := (List.append_eq_nil_iff.1 (List.cons.inj ht').2.symm).2
      exact absurd hnil hy
  · cases y' with
    | nil => exact startsFrom_cons_eq_false hc u
    | cons a r =>
      rw [List.append_assoc]
      exact hs x (a :: r) hs' (List.cons_ne_nil a r) hx hgap

end Passes

/-! ## A leading keyword -/

/-- The letters of a keyword may be upper case in a text, other characters may not. -/
theorem plain_of_lower {s keyword : List Char} (h : lower s = keyword)
    (hplain : Plain nameQuotes keyword) : Plain nameQuotes s := by
  intro c hc
  have hmem : c.toLower ∈ keyword := by
    rw [← h]
    exact List.mem_map_of_mem hc
  obtain ⟨hrule, hopening, hclosing⟩ := hplain _ hmem
  refine ⟨Option.eq_none_iff_forall_ne_some.2 fun e he => ?_, ?_, ?_⟩
  · rcases nameQuotes_eq_some he with ⟨rfl, -⟩ | ⟨-, rfl | rfl | rfl⟩ <;> cases hrule
  · rintro rfl
    exact hopening rfl
  · rintro rfl
    exact hclosing rfl

/-- **A leading `distinct` hides no `from`**: the list of a query is that of the text behind it. -/
theorem selectList?_distinct {body text : List Char} (h : Leads "distinct".toList body text) :
    ∃ front, body = front ++ text ∧ selectList? body = (selectList? text).map (front ++ ·) := by
  obtain ⟨word, gap, rfl, hword, ⟨hne, hblanks⟩, -⟩ := h
  have hletters : Plain nameQuotes "distinct".toList ∧ 'f' ∉ "distinct".toList :=
    ⟨by decide, by decide⟩
  have hplain : Plain nameQuotes (word ++ gap) := by
    intro c hc
    rcases List.mem_append.1 hc with hc | hc
    · exact plain_of_lower hword hletters.1 c hc
    · exact hblanks.plain nameQuotes_proper c hc
  have hlacks : 'f' ∉ lower (word ++ gap) := by
    rw [lower_append, hword, List.mem_append]
    rintro (hmem | hmem)
    · exact hletters.2 hmem
    · obtain ⟨c, hc, hf⟩ := List.mem_map.1 hmem
      have hblank := hblanks c hc
      rw [← toLower_of_isBlank hblank, hf] at hblank
      cases hblank
  have hgap : gapAfter true (word ++ gap) = true := by
    refine gapAfter_true_iff.2 fun c hc => ?_
    rw [List.getLast?_append, List.getLast?_eq_some_getLast hne] at hc
    obtain rfl := Option.some.inj hc
    exact hblanks _ (List.getLast_mem hne)
  refine ⟨word ++ gap, (List.append_assoc ..).symm, ?_⟩
  rw [← List.append_assoc]
  exact selectList?_append (.of_plain hplain) (.of_lacks_f hlacks text) hgap

end PolySql.SelectList
