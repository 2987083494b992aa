import PolySql.Proofs.Layout.Repeat
import PolySql.Proofs.Text.Literal

/-!
# Texts with single spaces

* `Word` — a text that is closed and holds no blank outside quotes; letters and literals are such
  (`Word.of_bare`, `Word.of_literal`).
* `tight_words` — words with single spaces between them are tight.
* `clauses` — words with a space before each and a semicolon behind them, as they stand after the
  definitions of a CREATE TABLE statement; a layout leaves them as they are (`tail_clauses`).
-/

namespace PolySql.Layout

open Text

/-- Whether a character is neither a blank nor a quote. -/
def isBare (c : Char) : Bool := !isBlank c && (literalQuotes c).isNone

theorem isBare_iff {c : Char} : isBare c = true ↔ isBlank c = false ∧ literalQuotes c = none := by
  simp [isBare]

/-- A text that is closed and holds no blank outside quotes. -/
structure Word (w : List Char) : Prop where
  ne_nil : w ≠ []
  blanksQuoted : BlanksQuoted literalQuotes none w
  closer : closerAfterAll literalQuotes none w = none

theorem tight_of_blanksQuoted {q : Option Char} {s : List Char}
    (h : BlanksQuoted literalQuotes q s) (gap : Bool) : Tight q gap s := by
  induction s generalizing q gap with
  | nil => trivial
  | cons c s ih =>
    rw [Tight, if_neg h.of_cons.1]
    exact ih h.of_cons.2 false

namespace Word

theorem last {w : List Char} (h : Word w) : ∀ c, w.getLast? = some c → isBlank c = false := by
  intro c hc
  obtain ⟨front, rfl⟩ := List.getLast?_eq_some_iff.1 hc
  exact h.blanksQuoted.last literalQuotes_proper h.closer

theorem head {w : List Char} (h : Word w) : ∀ c, w.head? = some c → isBlank c = false := by
  intro c hc
  obtain ⟨r, rfl⟩ := List.head?_eq_some_iff.1 hc
  rw [Bool.eq_false_iff]
  intro hblank
  have hrule := literalQuotes_proper.blank c hblank
  exact h.blanksQuoted.of_cons.1 ⟨(unquoted_of_rule_eq_none hrule).1, hblank⟩

theorem gapAfter_eq {w : List Char} (h : Word w) (gap : Bool) : gapAfter none gap w = false := by
  obtain ⟨c, r, rfl⟩ := List.exists_cons_of_ne_nil h.ne_nil
  have hc := h.blanksQuoted.of_cons.1
  have hlast := gapAfter_of_last (q := none) h.last
  rw [gapAfter, if_neg hc] at hlast ⊢
  exact hlast

/-- Behind a word, a text is tight as it is on its own. -/
theorem tight_append {w : List Char} (h : Word w) (gap : Bool) (t : List Char) :
    Tight none gap (w ++ t) ↔ Tight none false t := by
  rw [Layout.tight_append, h.closer, h.gapAfter_eq]
  exact and_iff_right (tight_of_blanksQuoted h.blanksQuoted gap)

theorem of_bare {w : List Char} (hne : w ≠ []) (h : w.all isBare = true) : Word w where
  ne_nil := hne
  blanksQuoted := .of_visible fun c hc => (isBare_iff.1 (List.all_eq_true.1 h c hc)).1
  closer := by
    clear hne
    induction w with
    | nil => rfl
    | cons c w ih =>
      rw [List.all_cons, Bool.and_eq_true] at h
      rw [closerAfterAll_cons, (unquoted_of_rule_eq_none (isBare_iff.1 h.1).2).2, ih h.2]

theorem append {v w : List Char} (hv : Word v) (hw : Word w) : Word (v ++ w) where
  ne_nil := List.append_ne_nil_of_left_ne_nil hv.ne_nil w
  blanksQuoted := hv.blanksQuoted.append (by rw [hv.closer]; exact hw.blanksQuoted)
  closer := by rw [closerAfterAll_append, hv.closer, hw.closer]

theorem of_literal (s : String) : Word (literal s).toList where
  ne_nil := by rw [toList_literal]; exact List.cons_ne_nil _ _
  blanksQuoted := .of_covered (covered_literal s)
  closer := (covered_literal s).closer

end Word

/-- Words with single spaces between them are tight. -/
theorem tight_words : ∀ {words : List (List Char)}, (∀ w ∈ words, Word w) → ∀ gap,
    Tight none gap ([' '].intercalate words)
  | [], _, _ => trivial
  | [w], h, gap => by
    have hword := ((h w List.mem_cons_self).tight_append gap []).2 trivial
    simpa [List.intercalate] using hword
  | v :: w :: words, h, gap => by
    have hrest := tight_words (fun x hx => h x (List.mem_cons_of_mem v hx)) true
    have hsplit : [' '].intercalate (v :: w :: words) =
        v ++ ' ' :: [' '].intercalate (w :: words) := by
      simp [List.intercalate]
    rw [hsplit, (h v List.mem_cons_self).tight_append, Tight, if_pos ⟨rfl, rfl⟩]
    exact ⟨rfl, rfl, hrest⟩

/-! ## Clauses -/

/-- Words with a space before each, and a semicolon. -/
def clauses (words : List (List Char)) : List Char := words.flatMap (' ' :: ·) ++ [';']

theorem clauses_cons (w : List Char) (words : List (List Char)) :
    clauses (w :: words) = ' ' :: (w ++ clauses words) := by
  simp [clauses]

theorem last_clauses (words : List (List Char)) : (clauses words).getLast? = some ';' :=
  List.getLast?_concat

theorem tight_clauses {words : List (List Char)} (h : ∀ w ∈ words, Word w) :
    Tight none false (clauses words) := by
  induction words with
  | nil => trivial
  | cons w words ih =>
    rw [clauses_cons, Tight, if_pos ⟨rfl, rfl⟩, (h w List.mem_cons_self).tight_append]
    exact ⟨rfl, rfl, ih fun x hx => h x (List.mem_cons_of_mem w hx)⟩

/-- Clauses stand behind the definitions as they are. -/
theorem tail_clauses {words : List (List Char)}
    (h : ∀ w ∈ words, Word w ∧ w.head? ≠ some ';') : tail (clauses words) = clauses words := by
  cases words with
  | nil => rfl
  | cons w words =>
    obtain ⟨hword, hsemicolon⟩ := h w List.mem_cons_self
    obtain ⟨c, r, rfl⟩ := List.exists_cons_of_ne_nil hword.ne_nil
    have hblank : isBlank c = false := hword.head c rfl
    have hne : c ≠ ';' := fun hc => hsemicolon (congrArg some hc)
    have htrim : trimStart (' ' :: (c :: r ++ clauses words)) = c :: (r ++ clauses words) := by
      rw [← List.singleton_append, trimStart_append .space]
      exact trimStart_eq_self fun x hx => Option.some.inj hx ▸ hblank
    rw [clauses_cons, tail, htrim]
    split
    · rename_i hnil
      cases hnil
    · rename_i hsame
      exact absurd (List.cons.inj hsame).1 hne
    · rfl

end PolySql.Layout
