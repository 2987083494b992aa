import PolySql.Proofs.Layout.Statement

/-!
# A layout keeps the tokens

A layout moves unquoted blanks and touches nothing else.

* `tokens` — the characters of a text that are not unquoted blanks, each with whether it is quoted.
* `gaps` — for each token, whether unquoted blanks stand just before it.
* `isDelimiter` — an unquoted parenthesis or comma: blanks beside it part no words.
* `reading` — the tokens of a text, each with whether blanks part it from the token before it.
  This is what a layout keeps (`reading_layoutCollapsed`), because blanks beside a delimiter do not
  count (`reading_near`, `reading_before`) and a stretch of blanks counts once (`reading_blanks`).

Principal result: `tokens_layout` — a layout keeps every token of a text, and two neighbours of
which neither is a delimiter have blanks between them after it exactly if they had some before.
-/

namespace PolySql.Layout

open Text

/-- Whether a marked character is an unquoted blank. -/
def isGap (m : Char × Bool) : Bool := !m.2 && isBlank m.1

/-- The marked characters of a text, less its unquoted blanks. -/
def tokens (s : List Char) : List (Char × Bool) :=
  (marks literalQuotes none s).filter fun m => !isGap m

/-- For each token, whether unquoted blanks stand just before it; `gap` says so of the start. -/
def gapsFrom : Bool → List (Char × Bool) → List Bool
  | _, [] => []
  | gap, m :: ms => if isGap m then gapsFrom true ms else gap :: gapsFrom false ms

def gaps (s : List Char) : List Bool := gapsFrom false (marks literalQuotes none s)

/-- Whether a marked character is an unquoted parenthesis or comma. -/
def isDelimiter (m : Char × Bool) : Bool := !m.2 && (m.1 == '(' || m.1 == ')' || m.1 == ',')

/-- The tokens, each with whether blanks part it from the token before it. Blanks beside a
delimiter part nothing; `near` says that the text follows a delimiter. -/
def reading : Bool → Bool → List (Char × Bool) → List ((Char × Bool) × Bool)
  | _, _, [] => []
  | near, gap, m :: ms =>
    if isGap m then reading near true ms
    else (m, gap && !near && !isDelimiter m) :: reading (isDelimiter m) false ms

/-! ## What a reading says -/

theorem map_fst_reading (near gap : Bool) (ms : List (Char × Bool)) :
    (reading near gap ms).map Prod.fst = ms.filter fun m => !isGap m := by
  induction ms generalizing near gap with
  | nil => rfl
  | cons m ms ih =>
    unfold reading
    by_cases h : isGap m = true
    · rw [if_pos h, ih, List.filter_cons_of_neg (by simp [h])]
    · rw [if_neg h, List.map_cons, ih, List.filter_cons_of_pos (by simp [h])]

theorem length_gapsFrom (gap : Bool) (ms : List (Char × Bool)) :
    (gapsFrom gap ms).length = (ms.filter fun m => !isGap m).length := by
  induction ms generalizing gap with
  | nil => rfl
  | cons m ms ih =>
    unfold gapsFrom
    by_cases h : isGap m = true
    · rw [if_pos h, ih, List.filter_cons_of_neg (by simp [h])]
    · rw [if_neg h, List.length_cons, ih, List.filter_cons_of_pos (by simp [h]), List.length_cons]

/-- Away from delimiters a reading says of the first token whether a gap is before it. -/
theorem snd_head_reading {gap : Bool} {ms : List (Char × Bool)} {b : Char × Bool}
    (hb : (ms.filter fun m => !isGap m)[0]? = some b) (hdelimiter : isDelimiter b = false) :
    (reading false gap ms)[0]?.map Prod.snd = (gapsFrom gap ms)[0]? := by
  induction ms generalizing gap with
  | nil => rfl
  | cons m ms ih =>
    unfold reading gapsFrom
    by_cases h : isGap m = true
    · rw [List.filter_cons_of_neg (by simp [h])] at hb
      rw [if_pos h, if_pos h, ih hb]
    · rw [List.filter_cons_of_pos (by simp [h])] at hb
      obtain rfl : m = b := by simpa using hb
      rw [if_neg h, if_neg h]
      simp [hdelimiter]

/-- Between two tokens that are no delimiters a reading says whether there is a gap. -/
theorem snd_reading (near gap : Bool) {ms : List (Char × Bool)} {i : Nat} {a b : Char × Bool}
    (ha : (ms.filter fun m => !isGap m)[i]? = some a)
    (hb : (ms.filter fun m => !isGap m)[i + 1]? = some b) (hda : isDelimiter a = false)
    (hdb : isDelimiter b = false) :
    (reading near gap ms)[i + 1]?.map Prod.snd = (gapsFrom gap ms)[i + 1]? := by
  induction ms generalizing near gap i with
  | nil => rfl
  | cons m ms ih =>
    unfold reading gapsFrom
    by_cases h : isGap m = true
    · rw [List.filter_cons_of_neg (by simp [h])] at ha hb
      rw [if_pos h, if_pos h, ih near true ha hb]
    · rw [List.filter_cons_of_pos (by simp [h])] at ha hb
      rw [if_neg h, if_neg h, List.getElem?_cons_succ, List.getElem?_cons_succ]
      rw [List.getElem?_cons_succ] at hb
      cases i with
      | zero =>
        obtain rfl : m = a := by simpa using ha
        rw [hda]
        exact snd_head_reading hb hdb
      | succ i => exact ih _ false (by simpa using ha) hb

/-! ## Blanks in a reading -/

theorem isGap_unquoted (c : Char) : isGap (c, false) = isBlank c := by simp [isGap]

/-- What follows a delimiter reads the same with blanks in front of it. -/
theorem reading_near (gap gap' : Bool) (ms : List (Char × Bool)) :
    reading true gap ms = reading true gap' ms := by
  cases ms with
  | nil => rfl
  | cons m ms => simp [reading]

/-- A text reads on as its rest does. -/
theorem reading_append_congr {ns ns' : List (Char × Bool)}
    (h : ∀ near gap, reading near gap ns = reading near gap ns') (near gap : Bool)
    (ms : List (Char × Bool)) : reading near gap (ms ++ ns) = reading near gap (ms ++ ns') := by
  induction ms generalizing near gap with
  | nil => exact h near gap
  | cons m ms ih =>
    simp only [List.cons_append, reading]
    split
    · exact ih ..
    · rw [ih]

/-- A stretch of unquoted blanks is one gap. -/
theorem reading_blanks {s : List Char} (h : Blanks s) (near gap : Bool) (t : List Char) :
    reading near gap (marks literalQuotes none (s ++ t)) =
      reading near (gap || !s.isEmpty) (marks literalQuotes none t) := by
  induction s generalizing gap with
  | nil => simp
  | cons c s ih =>
    obtain ⟨hc, hs⟩ := h.of_cons
    obtain ⟨hquoted, hcloser⟩ :=
      unquoted_of_rule_eq_none (literalQuotes_proper.blank c hc)
    rw [List.cons_append, marks, hquoted, hcloser, reading, isGap_unquoted, if_pos hc, ih hs]
    simp

/-- Characters that are unquoted delimiters wherever they stand outside quotes. -/
def Delimits (d : Char) : Prop := d = '(' ∨ d = ')' ∨ d = ','

theorem Delimits.rule {d : Char} (h : Delimits d) : literalQuotes d = none := by
  rcases h with rfl | rfl | rfl <;> rfl

theorem reading_delimiter {d : Char} (h : Delimits d) (near gap : Bool) (t : List Char) :
    reading near gap (marks literalQuotes none (d :: t)) =
      ((d, false), false) :: reading true false (marks literalQuotes none t) := by
  obtain ⟨hquoted, hcloser⟩ := unquoted_of_rule_eq_none h.rule
  have hgap : isGap (d, false) = false := by rcases h with rfl | rfl | rfl <;> rfl
  have hdelimiter : isDelimiter (d, false) = true := by rcases h with rfl | rfl | rfl <;> rfl
  rw [marks, hquoted, hcloser, reading, hgap, hdelimiter]
  simp

/-- Blanks before a delimiter do not count. -/
theorem reading_before {s : List Char} (hs : Blanks s) {d : Char} (h : Delimits d)
    (near gap : Bool) (t : List Char) :
    reading near gap (marks literalQuotes none (s ++ d :: t)) =
      ((d, false), false) :: reading true false (marks literalQuotes none t) := by
  rw [reading_blanks hs, reading_delimiter h]

/-- Blanks after a delimiter do not count. -/
theorem reading_after {s : List Char} (h : Blanks s) (gap gap' : Bool) (t : List Char) :
    reading true gap (marks literalQuotes none (s ++ t)) =
      reading true gap' (marks literalQuotes none t) := by
  rw [reading_blanks h]
  exact reading_near ..

/-- A squeezed text reads as the text itself. -/
theorem reading_squeeze {q : Option Char} {gap' : Bool} (hq : gap' = true → q = none)
    (near gap : Bool) (s : List Char) :
    reading near gap (marks literalQuotes q (squeeze q gap' s)) =
      reading near (gap || gap') (marks literalQuotes q s) := by
  induction s generalizing q near gap gap' with
  | nil => rfl
  | cons c r ih =>
    unfold squeeze
    by_cases hc : isQuoted literalQuotes q c = false ∧ isBlank c = true
    · obtain ⟨rfl, hcloser⟩ := eq_none_of_not_isQuoted hc.1
      rw [if_pos hc, ih (fun _ => rfl), marks, hcloser, reading, isGap, hc.1, hc.2]
      simp
    · have hgap : isGap (c, isQuoted literalQuotes q c) = false := by simpa [isGap] using hc
      have hrest : ∀ near gap, reading near gap (marks literalQuotes q
          (c :: squeeze (closerAfter literalQuotes q c) false r)) =
            reading near gap (marks literalQuotes q (c :: r)) := by
        intro near gap
        have htail : ∀ near gap, reading near gap (marks literalQuotes
            (closerAfter literalQuotes q c) (squeeze (closerAfter literalQuotes q c) false r)) =
              reading near (gap || false) (marks literalQuotes (closerAfter literalQuotes q c) r) :=
          ih fun h => by cases h
        simp only [marks, reading, hgap, htail, Bool.or_false]
      rw [if_neg hc]
      cases gap' with
      | false => rw [Bool.or_false]; exact hrest near gap
      | true =>
        obtain rfl := hq rfl
        have := reading_blanks Blanks.space near gap
          (c :: squeeze (closerAfter literalQuotes none c) false r)
        exact this.trans (hrest near _)

/-! ## What a layout does to a reading -/

theorem reading_breakBefore (marker : List Char) (near gap : Bool) (s : List Char) :
    reading near gap (marks literalQuotes none (breakBefore (' ' :: marker) none s)) =
      reading near gap (marks literalQuotes none s) := by
  rcases breakBefore_cases marker none s with h | ⟨a, b, rfl, hcloser, -, h⟩
  · rw [h]
  · rw [h, marks_append, marks_append literalQuotes none a, hcloser]
    -- The new line and its indent take the place of the space that the marker starts with.
    refine reading_append_congr (fun near gap => ?_) ..
    exact (reading_blanks blanks_newline_indent near gap b).trans
      (reading_blanks Blanks.space near gap b).symm

/-- A piece of a text reads the same in a line of its own, up to the delimiter behind it. -/
theorem reading_piece {p : List Char} (hp : closerAfterAll literalQuotes none p = none)
    {front back : List Char} (hfront : Blanks front) (hback : Blanks back) {d : Char}
    (hd : Delimits d) (gap gap' : Bool) {t t' : List Char}
    (ht : reading true false (marks literalQuotes none t) =
      reading true false (marks literalQuotes none t')) :
    reading true gap (marks literalQuotes none (front ++ (trim p ++ (back ++ d :: t)))) =
      reading true gap' (marks literalQuotes none (p ++ d :: t')) := by
  obtain ⟨pre, post, hpre, hpost, hs⟩ := exists_trim p
  rw [← closerAfterAll_trim literalQuotes_proper] at hp
  calc reading true gap (marks literalQuotes none (front ++ (trim p ++ (back ++ d :: t))))
      = reading true gap' (marks literalQuotes none (trim p ++ (back ++ d :: t))) :=
        reading_after hfront ..
    _ = reading true gap' (marks literalQuotes none (trim p ++ (post ++ d :: t'))) := by
        rw [marks_append, marks_append literalQuotes none (trim p), hp]
        refine reading_append_congr (fun near gap => ?_) ..
        rw [reading_before hback hd, reading_before hpost hd, ht]
    _ = reading true gap' (marks literalQuotes none (p ++ d :: t')) := by
        conv => rhs; rw [hs]
        rw [List.append_assoc, List.append_assoc, reading_after hpre gap' gap']

/-- Definitions read the same on lines of their own as with commas only. -/
theorem reading_lines : ∀ {ps : List (List Char)},
    (∀ p ∈ ps, closerAfterAll literalQuotes none p = none) → ∀ (gap gap' : Bool) {t t' : List Char},
      reading true false (marks literalQuotes none t) =
        reading true false (marks literalQuotes none t') →
      reading true gap (marks literalQuotes none (lines (ps.map trim) ++ '\n' :: ')' :: t)) =
        reading true gap' (marks literalQuotes none (commaJoin ps ++ ')' :: t'))
  | [], _, gap, gap', t, t', ht => by
    have := reading_after Blanks.newline gap gap' (')' :: t)
    refine this.trans ?_
    rw [commaJoin, List.nil_append, reading_delimiter (by simp [Delimits]),
      reading_delimiter (by simp [Delimits]), ht]
  | [p], hps, gap, gap', t, t', ht => by
    have := reading_piece (hps p (by simp)) blanks_indent Blanks.newline
      (d := ')') (by simp [Delimits]) gap gap' ht
    simpa [lines, commaJoin] using this
  | p :: q :: ps, hps, gap, gap', t, t', ht => by
    have hrest := reading_lines (fun x hx => hps x (List.mem_cons_of_mem p hx)) false false ht
    have hline : reading true false (marks literalQuotes none
        ('\n' :: (lines ((q :: ps).map trim) ++ '\n' :: ')' :: t))) =
          reading true false (marks literalQuotes none (commaJoin (q :: ps) ++ ')' :: t')) :=
      (reading_after Blanks.newline false false _).trans hrest
    have := reading_piece (hps p (by simp)) blanks_indent Blanks.nil (d := ',') (by simp [Delimits])
      gap gap' hline
    simpa [lines, commaJoin] using this

theorem reading_tail (gap gap' : Bool) (s : List Char) :
    reading true gap (marks literalQuotes none (tail s)) =
      reading true gap' (marks literalQuotes none s) := by
  obtain ⟨pre, hpre, hs⟩ := exists_trimStart s
  have htrim : reading true gap' (marks literalQuotes none s) =
      reading true gap (marks literalQuotes none (trimStart s)) := by
    conv => lhs; rw [hs]
    exact reading_after hpre ..
  rw [htrim]
  unfold tail
  split
  · rename_i h
    rw [h]
  · rename_i h
    rw [h]
  · exact reading_after Blanks.space ..

theorem reading_layoutCreate {s out : List Char} (h : layoutCreate? s = some out) (gap : Bool) :
    reading true gap (marks literalQuotes none out) =
      reading true gap (marks literalQuotes none s) := by
  obtain ⟨head, post, inside, after, rfl, hhead, hpost, hinside, rfl⟩ :=
    layoutCreate?_eq_some_iff.1 h
  have hpieces : ∀ p ∈ splitTopLevel literalQuotes inside,
      closerAfterAll literalQuotes none p = none :=
    fun p hp => (level_of_mem_splitTopLevel literalQuotes_proper hinside hp).1.closer
  have hlines := reading_lines hpieces false false (reading_tail false false after)
  rw [commaJoin_splitTopLevel] at hlines
  rw [createLines, marks_append, marks_append literalQuotes none head, hhead.closer]
  refine reading_append_congr (fun near gap => ?_) ..
  refine (reading_before Blanks.space (.inl rfl) near gap _).trans ?_
  rw [reading_before hpost (.inl rfl)]
  exact congrArg _ ((reading_after Blanks.newline false false _).trans hlines)

/-- **A layout reads as the text that it lays out.** -/
theorem reading_layoutCollapsed (gap : Bool) (s : List Char) :
    reading true gap (marks literalQuotes none (layoutCollapsed s)) =
      reading true gap (marks literalQuotes none s) := by
  unfold layoutCollapsed
  split
  · cases h : layoutCreate? s with
    | none => rfl
    | some out => exact reading_layoutCreate h gap
  · split
    · exact reading_breakBefore ..
    · split
      · exact reading_breakBefore ..
      · rfl

theorem reading_layout (sql : String) :
    reading true false (marks literalQuotes none (layout sql).toList) =
      reading true false (marks literalQuotes none (trim sql.toList)) := by
  rw [layout, String.toList_ofList, reading_layoutCollapsed, collapse,
    reading_squeeze (fun h => by cases h)]
  rfl

/-- **A layout keeps the tokens of a text, in order and each quoted or not as before.** Two
neighbours of which neither is an unquoted parenthesis or comma have unquoted blanks between them
after the layout exactly if they had some before: no words are joined, and none is split. -/
theorem tokens_layout (sql : String) :
    tokens (layout sql).toList = tokens (trim sql.toList) ∧
      ∀ i a b, (tokens (trim sql.toList))[i]? = some a →
        (tokens (trim sql.toList))[i + 1]? = some b → isDelimiter a = false →
          isDelimiter b = false →
            ∃ gap, (gaps (layout sql).toList)[i + 1]? = some gap ∧
              (gaps (trim sql.toList))[i + 1]? = some gap := by
  have hreading := reading_layout sql
  have htokens : tokens (layout sql).toList = tokens (trim sql.toList) := by
    unfold tokens
    rw [← map_fst_reading true false, ← map_fst_reading true false, hreading]
  refine ⟨htokens, fun i a b ha hb hda hdb => ?_⟩
  have hlength : i + 1 < (gaps (trim sql.toList)).length := by
    rw [gaps, length_gapsFrom]
    exact (List.getElem?_eq_some_iff.1 hb).1
  have htext := snd_reading true false ha hb hda hdb
  rw [← htokens] at ha hb
  have hlayout := snd_reading true false ha hb hda hdb
  rw [hreading, htext] at hlayout
  refine ⟨_, ?_, List.getElem?_eq_getElem hlength⟩
  exact hlayout.symm.trans (List.getElem?_eq_getElem hlength)

end PolySql.Layout
