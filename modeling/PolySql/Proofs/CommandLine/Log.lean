import Mathlib.Algebra.GroupWithZero.Nat
import PolySql.CommandLine.Report

/-!
# Entries of the log

What is printed for a line of the log, spelled out: its label, what it says, and a line feed. The
text of a warning is printed with the line feeds that it has, so an entry may be broken into several
lines.

* `Text.lineFeeds` — how many line feeds a text has; `lineFeeds_message` and `lineFeeds_field` say
  what becomes of them in the log.
* `IsLine` — a text that is one line with a label in front.
* `Warning.entry`, `LogLine.summaryEntry` — what is printed for a warning, and the counts at the
  end.
* `Warning.lineFeeds` — the line feeds in the names and the text of a warning.

Principal results: `Warning.isLine_entry_iff` — an entry is one line exactly if there are none;
`Warning.lineFeeds_entries` — how many lines the entries of some warnings make.
-/

namespace PolySql

/-! ## Line feeds -/

namespace Text

/-- How many line feeds a text has. -/
def lineFeeds (s : String) : Nat := s.toList.count '\n'

@[simp] theorem lineFeeds_append (s t : String) :
    lineFeeds (s ++ t) = lineFeeds s + lineFeeds t := by
  rw [lineFeeds, String.toList_append, List.count_append]
  rfl

@[simp] theorem lineFeeds_quoted (s : String) : lineFeeds (quoted s) = lineFeeds s := by
  have hquote : lineFeeds "\"" = 0 := rfl
  rw [quoted, lineFeeds_append, lineFeeds_append, hquote, Nat.zero_add, Nat.add_zero]

theorem joinWith_eq_intercalate (separator : String) : ∀ texts : List String,
    joinWith separator texts = separator.intercalate texts
  | [] => String.intercalate_nil.symm
  | [_] => String.intercalate_singleton.symm
  | text :: next :: texts => by
    rw [joinWith_cons_cons, joinWith_eq_intercalate separator (next :: texts),
      String.intercalate_cons_cons]

theorem joinWith_empty : ∀ texts : List String, joinWith "" texts = String.join texts
  | [] => rfl
  | [text] => by rw [joinWith_singleton, String.join_cons, String.join_nil, String.append_empty]
  | text :: next :: texts => by
    rw [joinWith_cons_cons, joinWith_empty (next :: texts), String.append_empty,
      ← String.join_cons]

theorem digitChar_ne_newline : ∀ n < 16, n.digitChar ≠ '\n' := by decide

/-- No numeral holds a line feed, up to base 16. -/
theorem newline_not_mem_toDigits {b : Nat} (hb : 1 < b) (hle : b ≤ 16) (n : Nat) :
    '\n' ∉ b.toDigits n := by
  induction n using Nat.strongRecOn with
  | ind n ih =>
    rw [Nat.toDigits_eq_if hb]
    split
    · rw [List.mem_singleton]
      exact (digitChar_ne_newline n (by omega)).symm
    · have hlast : n % b < 16 := Nat.lt_of_lt_of_le (Nat.mod_lt n (by omega)) hle
      rw [List.mem_append, List.mem_singleton, not_or]
      exact ⟨ih _ (Nat.div_lt_self (by omega) hb), (digitChar_ne_newline _ hlast).symm⟩

theorem lineFeeds_toString (n : Nat) : lineFeeds (toString n) = 0 := by
  have hdigits : (toString n).toList = Nat.toDigits 10 n := Nat.toList_repr
  rw [lineFeeds, hdigits, List.count_eq_zero]
  exact newline_not_mem_toDigits (by decide) (by decide) n

theorem newline_not_mem_codePointEscape (c : Char) : '\n' ∉ codePointEscape c := by
  have hdigits : '\n' ∉ hexDigits c.toNat :=
    newline_not_mem_toDigits (by decide) (by decide) c.toNat
  simp [codePointEscape, hdigits]

/-- A line feed is no character that steers a terminal. -/
theorem count_messageChar (c : Char) : (messageChar c).count '\n' = [c].count '\n' := by
  unfold messageChar
  split
  case h_6 =>
    split
    · rename_i hcontrol
      have hne : c ≠ '\n' := by
        rintro rfl
        exact absurd hcontrol (by decide)
      rw [List.count_eq_zero.2 (newline_not_mem_codePointEscape c), List.count_eq_zero.2]
      simpa using hne.symm
    · rfl
  all_goals rfl

@[simp] theorem lineFeeds_message (s : String) : lineFeeds (message s) = lineFeeds s := by
  rw [lineFeeds, message, String.toList_ofList, lineFeeds]
  induction s.toList with
  | nil => rfl
  | cons c r ih =>
    rw [List.flatMap_cons, List.count_append, ih, count_messageChar, ← List.count_append,
      List.singleton_append]

theorem newline_not_mem_fieldChar (c : Char) : '\n' ∉ fieldChar c := by
  unfold fieldChar
  split
  case h_7 =>
    rename_i hne _ _
    split
    · exact newline_not_mem_codePointEscape c
    · rw [List.mem_singleton]
      exact fun h => hne h.symm
  all_goals decide

@[simp] theorem lineFeeds_field (s : String) : lineFeeds (field s) = 0 := by
  have hinside : '\n' ∉ s.toList.flatMap fieldChar := by
    rw [List.mem_flatMap]
    rintro ⟨c, -, hc⟩
    exact newline_not_mem_fieldChar c hc
  rw [lineFeeds, field, String.toList_ofList, List.count_eq_zero]
  simp [hinside]

end Text

open Text

@[simp] theorem Dialect.lineFeeds_name (dialect : Dialect) : lineFeeds dialect.name = 0 := by
  cases dialect <;> rfl

/-- A text that is one line with a label in front: it ends with its only line feed. -/
def IsLine (label s : String) : Prop := ∃ text, s = label ++ text ++ "\n" ∧ lineFeeds text = 0

theorem IsLine.lineFeeds {label s : String} (h : IsLine label s) (hlabel : lineFeeds label = 0) :
    lineFeeds s = 1 := by
  obtain ⟨text, rfl, hnone⟩ := h
  rw [lineFeeds_append, lineFeeds_append, hlabel, hnone]
  rfl

/-! ## Warnings -/

namespace Warning

/-- What the log says of a warning: its text, and the place that it is about. -/
def report (warning : Warning) : String :=
  Text.message warning.message ++ " dialect=" ++ warning.dialect.name ++ " table=" ++
    field warning.table ++
      match warning.skipped.column? with
      | some column => " column=" ++ field column
      | none => ""

/-- What is printed for a warning. -/
def entry (warning : Warning) : String := " WARN " ++ warning.report ++ "\n"

/-- The line feeds in the names and the text of a warning. -/
def lineFeeds (warning : Warning) : Nat :=
  Text.lineFeeds warning.table + (warning.skipped.column?.map Text.lineFeeds).getD 0 +
    Text.lineFeeds warning.text

/-- The text of a warning has the line feeds of what it names. -/
theorem lineFeeds_message (warning : Warning) :
    Text.lineFeeds warning.message = warning.lineFeeds := by
  unfold message lineFeeds
  cases warning.skipped
  -- Once the names and the text are told apart, the words between them can be looked at.
  all_goals
    simp only [Skipped.column?, Option.map_some, Option.map_none, Option.getD_some,
      Option.getD_none, lineFeeds_append, lineFeeds_quoted, Dialect.lineFeeds_name]
    simp [Text.lineFeeds, Nat.add_comm]

theorem lineFeeds_report (warning : Warning) :
    Text.lineFeeds warning.report = warning.lineFeeds := by
  unfold report
  cases warning.skipped.column?
  all_goals
    simp only [lineFeeds_append, Text.lineFeeds_message, lineFeeds_field, Dialect.lineFeeds_name,
      lineFeeds_message]
    simp [Text.lineFeeds]

theorem lineFeeds_entry (warning : Warning) :
    Text.lineFeeds warning.entry = warning.lineFeeds + 1 := by
  have hlabel : Text.lineFeeds " WARN " = 0 := rfl
  rw [entry, lineFeeds_append, lineFeeds_append, hlabel, lineFeeds_report, Nat.zero_add]
  rfl

/-- **A warning is printed as one line exactly if there is no line feed in it.** -/
theorem isLine_entry_iff (warning : Warning) :
    IsLine " WARN " warning.entry ↔ warning.lineFeeds = 0 := by
  constructor
  · intro hline
    have hone := hline.lineFeeds rfl
    rw [lineFeeds_entry] at hone
    omega
  · intro hnone
    exact ⟨warning.report, rfl, (lineFeeds_report warning).trans hnone⟩

/-- What is printed for some warnings has a line for each, and one more for each line feed in
them. -/
theorem lineFeeds_entries (warnings : List Warning) :
    Text.lineFeeds (String.join (warnings.map entry)) =
      warnings.length + (warnings.map lineFeeds).sum := by
  induction warnings with
  | nil => rfl
  | cons warning warnings ih =>
    rw [List.map_cons, String.join_cons, lineFeeds_append, ih, lineFeeds_entry, List.map_cons,
      List.sum_cons, List.length_cons]
    omega

end Warning

namespace CommandLine.LogLine

/-- What is printed for the counts at the end. -/
def summaryEntry (statements tables warnings : Nat) : String :=
  " INFO " ++ (toString statements ++ " statement(s) for " ++ toString tables ++ " table(s), " ++
    toString warnings ++ " warning(s)") ++ "\n"

theorem isLine_summaryEntry (statements tables warnings : Nat) :
    IsLine " INFO " (summaryEntry statements tables warnings) := by
  refine ⟨_, rfl, ?_⟩
  have hstatements : lineFeeds " statement(s) for " = 0 := rfl
  have htables : lineFeeds " table(s), " = 0 := rfl
  have hwarnings : lineFeeds " warning(s)" = 0 := rfl
  simp only [lineFeeds_append, lineFeeds_toString, hstatements, htables, hwarnings]

/-- A line is printed as its entry says. -/
theorem write_ofWarning (warning : Warning) : (ofWarning warning).write = warning.entry := by
  rw [Warning.entry, Warning.report, write, ofWarning]
  rfl

theorem write_summary (statements tables warnings : Nat) :
    (summary statements tables warnings).write = summaryEntry statements tables warnings := rfl

end CommandLine.LogLine

end PolySql
