import PolySql.Ddl.Layout
import PolySql.Proofs.Text.Nesting
import PolySql.Proofs.Text.Replace

/-!
# What a layout makes of a statement

* `Heading`, `createLines` — the parts of a CREATE TABLE statement that was laid out;
  `layoutCreate?_eq_some_iff` says which statements have them.
* `breakBefore_cases` — a statement is broken in two in place of an unquoted space, if at all; what
  was looked for follows that space.
-/

namespace PolySql.Layout

open Text

theorem blanks_indent : Blanks indent := by
  have hindent : indent = [' ', ' ', ' ', ' '] := String.toList_ofList
  rw [hindent]
  exact .cons rfl (.cons rfl (.cons rfl (.cons rfl .nil)))

theorem blanks_newline_indent : Blanks ('\n' :: indent) := .cons rfl blanks_indent

/-! ## Lines -/

/-- What stands before the definitions of a CREATE TABLE statement, up to its last word. -/
structure Heading (head : List Char) : Prop where
  last : ∀ c, head.getLast? = some c → isBlank c = false
  closer : closerAfterAll literalQuotes none head = none
  opening : toOpening literalQuotes none head = none
  table : occursIn " table ".toList (lower head) = true

/-- A statement with its definitions on lines of their own. -/
def createLines (head : List Char) (ds : List (List Char)) (rest : List Char) : List Char :=
  head ++ (' ' :: '(' :: '\n' :: (lines ds ++ '\n' :: ')' :: rest))

theorem heading_trimEnd {before : List Char}
    (hcloser : closerAfterAll literalQuotes none before = none)
    (hopening : toOpening literalQuotes none before = none)
    (htable : occursIn " table ".toList (lower (trimEnd before)) = true) :
    Heading (trimEnd before) := by
  obtain ⟨post, -, hbefore⟩ := exists_trimEnd before
  refine ⟨fun c hc => last_trimEnd hc, ?_, ?_, htable⟩
  · rw [closerAfterAll_trimEnd literalQuotes_proper, hcloser]
  · rw [hbefore] at hopening
    exact toOpening_eq_none_of_append hopening

theorem layoutCreate?_eq_some_iff {s out : List Char} :
    layoutCreate? s = some out ↔ ∃ head post inside after,
      s = head ++ (post ++ '(' :: (inside ++ ')' :: after)) ∧ Heading head ∧ Blanks post ∧
        Level literalQuotes inside ∧
          out = createLines head ((splitTopLevel literalQuotes inside).map trim) (tail after) := by
  constructor
  · intro h
    unfold layoutCreate? at h
    simp only [Option.bind_eq_bind, Option.bind_eq_some_iff] at h
    obtain ⟨⟨before, inside, after⟩, hparts, h⟩ := h
    split at h
    · rename_i htable
      obtain ⟨hs, hcloser, hopening, hinside⟩ :=
        (outerParens_eq_some_iff literalQuotes_proper).1 hparts
      obtain ⟨post, hpost, hbefore⟩ := exists_trimEnd before
      refine ⟨trimEnd before, post, inside, after, ?_, heading_trimEnd hcloser hopening htable,
        hpost, hinside, ?_⟩
      · rw [← List.append_assoc, ← hbefore]
        exact hs
      · rw [← Option.some.inj h]
        simp [createLines]
    · cases h
  · rintro ⟨head, post, inside, after, rfl, hhead, hpost, hinside, rfl⟩
    have hcloser : closerAfterAll literalQuotes none (head ++ post) = none := by
      rw [closerAfterAll_append_blanks literalQuotes_proper head hpost, hhead.closer]
    have hopening : toOpening literalQuotes none (head ++ post) = none := by
      rw [toOpening_append none hhead.opening, hhead.closer,
        toOpening_blanks literalQuotes_proper hpost]
      rfl
    have hparts : outerParens literalQuotes (head ++ (post ++ '(' :: (inside ++ ')' :: after))) =
        some ⟨head ++ post, inside, after⟩ :=
      (outerParens_eq_some_iff literalQuotes_proper).2
        ⟨(List.append_assoc ..).symm, hcloser, hopening, hinside⟩
    have htrim : trimEnd (head ++ post) = head := by
      rw [trimEnd_append hpost, trimEnd_eq_self hhead.last]
    have htable := hhead.table
    simp only [layoutCreate?, hparts, Option.bind_eq_bind, Option.bind_some, htrim]
    rw [if_pos htable]
    simp [createLines]

theorem Heading.ne_nil {head : List Char} (h : Heading head) : head ≠ [] := by
  rintro rfl
  exact absurd h.table (by decide)

/-- A word before a parenthesis stands there without the blanks before the parenthesis, too. -/
theorem Heading.starts {head s : List Char} (h : Heading head)
    (hs : startsIgnoringCase "create ".toList (head ++ s) = true) (t : List Char) :
    startsIgnoringCase "create ".toList (head ++ t) = true := by
  rw [startsIgnoringCase_iff, lower_append] at hs ⊢
  have htable := ((occursIn_iff _ _).1 h.table).length_le
  have hlength : "create ".toList.length ≤ (lower head).length := by simpa using htable
  have hword := List.prefix_of_prefix_length_le hs (List.prefix_append _ _) hlength
  exact hword.trans (List.prefix_append _ _)

/-! ## Breaks -/

theorem breakBefore_cases (marker : List Char) (q : Option Char) (s : List Char) :
    breakBefore (' ' :: marker) q s = s ∨
      ∃ a b, s = a ++ ' ' :: b ∧ closerAfterAll literalQuotes q a = none ∧ marker <+: lower b ∧
        breakBefore (' ' :: marker) q s = a ++ '\n' :: (indent ++ b) := by
  induction s generalizing q with
  | nil => exact .inl rfl
  | cons c r ih =>
    unfold breakBefore
    split
    · rename_i hc
      obtain ⟨rfl, -⟩ := eq_none_of_not_isQuoted hc.1
      obtain ⟨hlower, hmarker⟩ := List.cons_prefix_cons.1 ((startsIgnoringCase_iff _ _).1 hc.2)
      have hspace : c = ' ' := eq_of_toLower_eq rfl hlower.symm
      exact .inr ⟨[], r, by rw [hspace]; rfl, rfl, hmarker, rfl⟩
    · rcases ih (closerAfter literalQuotes q c) with h | ⟨a, b, hr, hcloser, hmarker, h⟩
      · exact .inl (by rw [h])
      · exact .inr ⟨c :: a, b, by rw [hr]; rfl, hcloser, hmarker, by rw [h]; rfl⟩

end PolySql.Layout
