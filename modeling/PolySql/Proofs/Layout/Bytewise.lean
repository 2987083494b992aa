import PolySql.Ddl.Layout
import PolySql.Proofs.Text.Bytewise

/-!
# Layouts by byte offsets

A layout cuts a stored statement at its outer parentheses, at its commas and at a marker that is
looked for in a lower-case copy, and every one of these cuts is an offset that was found elsewhere
or lies one behind such an offset.

* `layoutCreate?`, `breakBefore?`, `layout?` — the layouts with their slices; `none` where a slice
  or a byte is asked for that is not there.

Principal result: `layout?_eq` — no slice is ever missing, and the slices put together are the
layout of the characters.
-/

namespace PolySql.Bytewise

open Text Layout
open String (utf8Len)

/-! ## CREATE TABLE -/

/-- A CREATE TABLE statement with one definition a line; `some none` for other statements. -/
def layoutCreate? (s : List Char) : Option (Option (List Char)) := do
  match ← outerParens? s with
  | none => some none
  | some (o, c) =>
    let head := trimEnd (← slice? s 0 o)
    if occursIn " table ".toList (lower head) then
      let inside ← slice? s (o + 1) c
      let after ← sliceFrom? s (c + 1)
      let definitions := (← bytePieces? inside).map trim
      some (some (head ++ " (\n".toList ++ lines definitions ++ "\n)".toList ++ tail after))
    else some none

/-- The cuts at the outer parentheses, and one behind each of them. -/
theorem slices_of_outerParens {s : List Char} {e : Enclosed}
    (h : outerParens literalQuotes s = some e) :
    slice? s 0 (utf8Len e.before) = some e.before ∧
      slice? s (utf8Len e.before + 1) (utf8Len e.before + 1 + utf8Len e.inside) =
        some e.inside ∧
      sliceFrom? s (utf8Len e.before + 1 + utf8Len e.inside + 1) = some e.after := by
  have hs := text_of_outerParens h
  have hopening : utf8Len (e.before ++ ['(']) = utf8Len e.before + 1 := utf8Len_concat ..
  have hclosing : utf8Len (e.before ++ ['('] ++ e.inside ++ [')']) =
      utf8Len e.before + 1 + utf8Len e.inside + 1 := by
    rw [utf8Len_concat, String.utf8Len_append, hopening]
    rfl
  refine ⟨by rw [hs, slice?_zero], ?_, ?_⟩
  · rw [hs, ← hopening, ← List.singleton_append, ← List.append_assoc, slice?_append]
  · have hbehind : s = e.before ++ ['('] ++ e.inside ++ [')'] ++ e.after := by
      rw [hs]
      simp
    rw [hbehind, ← hclosing, sliceFrom?_append]

theorem layoutCreate?_eq (s : List Char) :
    layoutCreate? s = some (Layout.layoutCreate? s) := by
  rw [layoutCreate?, outerParens?_eq, Layout.layoutCreate?]
  cases h : outerParens literalQuotes s with
  | none => rfl
  | some e =>
    obtain ⟨hbefore, hinside, hafter⟩ := slices_of_outerParens h
    simp only [Option.bind_eq_bind, Option.bind_some, Option.map_some, hbefore, hinside, hafter,
      bytePieces?_eq]
    split <;> rfl

/-! ## Markers -/

/-- The offset of the first unquoted character at which `marker` begins. -/
def findMarker? (marker s : List Char) : List (Nat × Char × Bool) → Option (Option Nat)
  | [] => some none
  | (_, _, true) :: m => findMarker? marker s m
  | (i, _, false) :: m => do
    if marker.isPrefixOf (← sliceFrom? s i) then some (some i) else findMarker? marker s m

/-- A new line for the first unquoted place where `marker` is found. It is looked for in a
lower-case copy, and the statement itself is cut. -/
def breakBefore? (marker s : List Char) : Option (List Char) := do
  match ← findMarker? marker (lower s) (scan literalQuotes (lower s)) with
  | none => some s
  | some i => some ((← slice? s 0 i) ++ '\n' :: (indent ++ (← sliceFrom? s (i + 1))))

/-- The marker begins with a space, so the cut behind its first character is one byte further. -/
theorem findMarker?_cases {s a r : List Char} (hs : s = a ++ r) (marker : List Char)
    (q : Option Char) :
    (findMarker? (' ' :: marker) (lower s)
        ((scanFrom literalQuotes q (utf8Len a) r).map fun (i, c, quoted) =>
          (i, c.toLower, quoted)) = some none ∧ breakBefore (' ' :: marker) q r = r) ∨
      ∃ x y, r = x ++ ' ' :: y ∧
        findMarker? (' ' :: marker) (lower s)
          ((scanFrom literalQuotes q (utf8Len a) r).map fun (i, c, quoted) =>
            (i, c.toLower, quoted)) = some (some (utf8Len a + utf8Len x)) ∧
        breakBefore (' ' :: marker) q r = x ++ '\n' :: (indent ++ y) := by
  induction r generalizing a q with
  | nil => exact .inl ⟨rfl, rfl⟩
  | cons c r ih =>
    have hnext : s = a ++ [c] ++ r := by rw [hs, List.append_assoc]; rfl
    have hrest := ih hnext (closerAfter literalQuotes q c)
    rw [utf8Len_concat] at hrest
    have hslice : sliceFrom? (lower s) (utf8Len a) = some (lower (c :: r)) := by
      rw [hs, lower_append, ← utf8Len_lower a, sliceFrom?_append]
    have hbegins : startsIgnoringCase (' ' :: marker) (c :: r) =
        (' ' :: marker).isPrefixOf (lower (c :: r)) := by
      rw [Bool.eq_iff_iff, startsIgnoringCase_iff, List.isPrefixOf_iff_prefix]
    rw [scanFrom, List.map_cons, breakBefore]
    by_cases hstop : isQuoted literalQuotes q c = false ∧
        startsIgnoringCase (' ' :: marker) (c :: r)
    · obtain ⟨hspace, -⟩ := List.cons_prefix_cons.1 ((startsIgnoringCase_iff _ _).1 hstop.2)
      obtain rfl : c = ' ' := eq_of_toLower_eq rfl hspace.symm
      refine .inr ⟨[], r, rfl, ?_, if_pos hstop⟩
      rw [hstop.1, findMarker?, hslice, Option.bind_eq_bind, Option.bind_some, ← hbegins,
        if_pos hstop.2]
      rfl
    · have hpass : ∀ m, findMarker? (' ' :: marker) (lower s)
          ((utf8Len a, c.toLower, isQuoted literalQuotes q c) :: m) =
            findMarker? (' ' :: marker) (lower s) m := by
        intro m
        cases hc : isQuoted literalQuotes q c with
        | true => rfl
        | false =>
          rw [findMarker?, hslice, Option.bind_eq_bind, Option.bind_some, ← hbegins,
            if_neg fun h => hstop ⟨hc, h⟩]
      rw [hpass, if_neg hstop]
      rcases hrest with ⟨hnone, hsame⟩ | ⟨x, y, hr, hfound, hbreak⟩
      · exact .inl ⟨hnone, by rw [hsame]⟩
      · refine .inr ⟨c :: x, y, by rw [hr]; rfl, ?_, by rw [hbreak]; rfl⟩
        rw [hfound, ← utf8Len_concat, utf8Len_shift]

theorem breakBefore?_eq (marker s : List Char) :
    breakBefore? (' ' :: marker) s = some (breakBefore (' ' :: marker) none s) := by
  have hcases := findMarker?_cases (List.nil_append s).symm marker none
  rw [breakBefore?, scan_lower, scan]
  rcases hcases with ⟨hnone, hsame⟩ | ⟨x, y, hxy, hfound, hbreak⟩
  · rw [String.utf8Len_nil] at hnone
    rw [hnone, hsame]
    rfl
  · rw [String.utf8Len_nil, Nat.zero_add] at hfound
    have hfront : slice? s 0 (utf8Len x) = some x := by rw [hxy, slice?_zero]
    have hback : sliceFrom? s (utf8Len x + 1) = some y := hxy ▸ sliceFrom?_append_cons x ' ' y
    rw [hfound, hbreak]
    simp only [Option.bind_eq_bind, Option.bind_some, hfront, hback]

/-! ## Statements -/

/-- Lays out one statement for reading. -/
def layout? (sql : String) : Option String := do
  let s := collapse sql.toList
  let laid ←
    if startsIgnoringCase "create ".toList s then (layoutCreate? s).map fun laid => laid.getD s
    else if startsIgnoringCase "alter table ".toList s then breakBefore? " add ".toList s
    else if startsIgnoringCase "comment on ".toList s then breakBefore? " is '".toList s
    else some s
  some (String.ofList laid)

/-- Every slice of a layout is there. -/
theorem layout?_eq (sql : String) : layout? sql = some (layout sql) := by
  have hadd := breakBefore?_eq "add ".toList (collapse sql.toList)
  have his := breakBefore?_eq "is '".toList (collapse sql.toList)
  change breakBefore? " add ".toList _ = _ at hadd
  change breakBefore? " is '".toList _ = _ at his
  rw [layout?, layout, layoutCollapsed]
  simp only [hadd, his, layoutCreate?_eq]
  split
  · rfl
  · split
    · rfl
    · split <;> rfl

end PolySql.Bytewise
