import PolySql.Proofs.Page.SinglePass
import PolySql.Text.Ascii
import PolySql.Text.Blank

/-!
# Which rows a page asks for

A page holds the caller's query and, around it, clauses that say which of its rows are returned. The
clauses are read here with the meaning that they have in SQL. The texts of the caller are not read.

* `lex` — the words, the numbers and the marks of a page; the caller's texts are holes.
* `Clause`, `Comparison`, `Window` — what says which rows are returned: clauses that stand next to
  the query, and comparisons of the numbers of the rows.
* `Window.apply` — the rows that are returned.
* `read` — the window of a page, if every number in it belongs to a clause that is known.
* `Window.IsPage` — the window is that of a page; `Window.IsPage.append` — such pages lie one behind
  the other.
-/

namespace PolySql

/-! ## Words -/

/-- The words that matter to which rows are returned. -/
inductive Word where
  | select | limit | offset | rows | fetch | first | next | only | skip | top | to
  /-- A column that numbers the rows. -/
  | rowNumber
  /-- A word between conditions of which one may fail. -/
  | alternative
  | other
  deriving DecidableEq, Repr

/-- What a word is, in any letter case. -/
def Word.of (letters : List Char) : Word :=
  let table : List (List Char × Word) := [
    (['s', 'e', 'l', 'e', 'c', 't'], .select),
    (['l', 'i', 'm', 'i', 't'], .limit),
    (['o', 'f', 'f', 's', 'e', 't'], .offset),
    (['r', 'o', 'w', 's'], .rows),
    (['f', 'e', 't', 'c', 'h'], .fetch),
    (['f', 'i', 'r', 's', 't'], .first),
    (['n', 'e', 'x', 't'], .next),
    (['o', 'n', 'l', 'y'], .only),
    (['s', 'k', 'i', 'p'], .skip),
    (['t', 'o', 'p'], .top),
    (['t', 'o'], .to),
    (['r', 'o', 'w', 'n', 'u', 'm'], .rowNumber),
    (['r', 'o', 'w', 'n', 'u', 'm', '_'], .rowNumber),
    (['r', 'o', 'w', 'n', 'u', 'm', 'b', 'e', 'r', '_'], .rowNumber),
    (['r', 'o', 'w', '_', 'n', 'u', 'm', '_'], .rowNumber),
    (['o', 'r'], .alternative),
    (['n', 'o', 't'], .alternative)]
  ((table.find? fun entry => entry.1 = Text.lower letters).map Prod.snd).getD .other

inductive Token where
  | word (word : Word)
  | number (n : Nat)
  | mark (c : Char)
  /-- A text of the caller. -/
  | given (p : Placeholder)
  deriving DecidableEq, Repr

/-- A word of digits is a number. -/
def Token.ofWord (letters : List Char) : Token :=
  if letters.all Char.isDigit then .number (Nat.ofDigitChars 10 letters 0)
  else .word (Word.of letters)

def inWord (c : Char) : Bool := c.isAlphanum || c == '_'

/-- A word in front of tokens, if there is one. -/
def Token.consWord : List Char × List Token → List Token
  | ([], tokens) => tokens
  | (c :: r, tokens) => .ofWord (c :: r) :: tokens

open Template in
/-- The word at the start of a page, and the tokens behind it. -/
def lexFrom : List Symbol → List Char × List Token
  | [] => ([], [])
  | .hole p :: r => ([], .given p :: Token.consWord (lexFrom r))
  | .char c :: r =>
    if inWord c then (c :: (lexFrom r).1, (lexFrom r).2)
    else ([], if Text.isBlank c then Token.consWord (lexFrom r)
      else .mark c :: Token.consWord (lexFrom r))

/-- The tokens of a page. -/
def lex (page : List Template.Symbol) : List Token := Token.consWord (lexFrom page)

/-! ## Windows -/

/-- The rows whose numbers, counted from one, are wanted. -/
def rowsWhere {α : Type} (wanted : Nat → Bool) (rows : List α) : List α :=
  ((rows.zipIdx 1).filter fun row => wanted row.2).map Prod.fst

/-- A clause next to a query. -/
inductive Clause where
  | skip (n : Nat)
  | keep (n : Nat)
  /-- Both rows are counted from one and belong to the range. -/
  | range (first last : Nat)
  deriving DecidableEq, Repr

def Clause.apply {α : Type} (rows : List α) : Clause → List α
  | .skip n => rows.drop n
  | .keep n => rows.take n
  | .range first last => rowsWhere (fun i => first ≤ i && i ≤ last) rows

def Clause.isSkip : Clause → Bool
  | .skip _ => true
  | _ => false

/-- A condition on the number of a row. -/
inductive Comparison where
  | less (bound : Nat)
  | atMost (bound : Nat)
  | greater (bound : Nat)
  | atLeast (bound : Nat)
  deriving DecidableEq, Repr

def Comparison.holds (i : Nat) : Comparison → Bool
  | .less bound => i < bound
  | .atMost bound => i ≤ bound
  | .greater bound => bound < i
  | .atLeast bound => bound ≤ i

/-- The rows that clauses leave. Rows are skipped before others are kept, in whichever order the
clauses are written. -/
def Clause.applyAll {α : Type} (clauses : List Clause) (rows : List α) : List α :=
  let (skips, others) := clauses.partition Clause.isSkip
  (skips ++ others).foldl Clause.apply rows

/-- Clauses, and conditions on the numbers of the rows that the clauses leave. -/
structure Window where
  clauses : List Clause
  comparisons : List Comparison
  deriving DecidableEq, Repr

/-- The rows that are returned. -/
def Window.apply {α : Type} (window : Window) (rows : List α) : List α :=
  rowsWhere (fun i => window.comparisons.all (·.holds i)) (Clause.applyAll window.clauses rows)

/-- The window leaves out the first rows, and returns the next ones. -/
def Window.Returns (window : Window) (skip size : Nat) : Prop :=
  ∀ ⦃α : Type⦄ (rows : List α), window.apply rows = (rows.drop skip).take size

/-- The window is that of a page, counted from one, of so many rows. -/
def Window.IsPage (window : Window) (page size : Nat) : Prop :=
  window.Returns ((page - 1) * size) size

/-! ## Reading -/

/-- What stands before the first of some tokens, and what behind it. -/
def splitFirst (token : Token) : List Token → Option (List Token × List Token)
  | [] => none
  | t :: r =>
    if t = token then some ([], r)
    else (splitFirst token r).map fun (front, back) => (t :: front, back)

/-- What stands before the last of some tokens, and what behind it. -/
def splitLast (token : Token) : List Token → Option (List Token × List Token)
  | [] => none
  | t :: r =>
    match splitLast token r with
    | some (front, back) => some (t :: front, back)
    | none => if t = token then some ([], r) else none

/-- The clauses next to a query. -/
def readClauses : List Token → Option (List Clause)
  | [] => some []
  | .given .distinctSpace :: r => readClauses r
  | .word .limit :: .number k :: .mark ',' :: .number n :: r =>
    (readClauses r).map (.skip k :: .keep n :: ·)
  | .word .limit :: .number k :: .number n :: r => (readClauses r).map (.skip k :: .keep n :: ·)
  | .word .limit :: .number n :: r => (readClauses r).map (.keep n :: ·)
  | .word .offset :: .number k :: .word .rows :: r => (readClauses r).map (.skip k :: ·)
  | .word .offset :: .number k :: r => (readClauses r).map (.skip k :: ·)
  | .word .skip :: .number k :: r => (readClauses r).map (.skip k :: ·)
  | .word .fetch :: .word .next :: .number n :: .word .rows :: .word .only :: r =>
    (readClauses r).map (.keep n :: ·)
  | .word .fetch :: .word .first :: .number n :: .word .rows :: .word .only :: r =>
    (readClauses r).map (.keep n :: ·)
  | .word .first :: .number n :: r => (readClauses r).map (.keep n :: ·)
  | .word .top :: .number n :: r => (readClauses r).map (.keep n :: ·)
  | .word .top :: .mark '(' :: .number n :: .mark ')' :: r => (readClauses r).map (.keep n :: ·)
  | .word .rows :: .number a :: .word .to :: .number b :: r =>
    (readClauses r).map (.range a b :: ·)
  | .word .rows :: .number n :: r => (readClauses r).map (.keep n :: ·)
  | _ => none

/-- The conditions on the numbers of rows. Beside them there is no number, and no text of the caller
but the names of the columns. -/
def readComparisons : List Token → Option (List Comparison)
  | [] => some []
  | .word .rowNumber :: .mark '<' :: .mark '=' :: .number n :: r =>
    (readComparisons r).map (.atMost n :: ·)
  | .word .rowNumber :: .mark '<' :: .number n :: r => (readComparisons r).map (.less n :: ·)
  | .word .rowNumber :: .mark '>' :: .mark '=' :: .number n :: r =>
    (readComparisons r).map (.atLeast n :: ·)
  | .word .rowNumber :: .mark '>' :: .number n :: r => (readComparisons r).map (.greater n :: ·)
  | .given .fields :: r => readComparisons r
  | .number _ :: _ | .word .alternative :: _ | .given _ :: _ => none
  | _ :: r => readComparisons r

/-- The window of a page. The query stands behind its `select`, and the clauses next to it end where
the parentheses around it do. -/
def read (tokens : List Token) : Option Window := do
  let (front, back) ← splitFirst (.given .body) tokens
  let (outer, before) ← splitLast (.word .select) front
  let (behind, rest) := (splitFirst (.mark ')') back).getD (back, [])
  let leading ← readClauses before
  let trailing ← readClauses behind
  let comparisons ← readComparisons (outer ++ rest)
  return ⟨leading ++ trailing, comparisons⟩

/-! ## Runs of rows -/

section Runs

variable {α : Type}

/-- Of rows that are numbered one after the other, those whose numbers are in a range are a run. -/
theorem map_filter_zipIdx {wanted : Nat → Bool} {a b : Nat} (rows : List α) (k : Nat)
    (h : ∀ i, k ≤ i → i < k + rows.length → (wanted i = true ↔ a < i ∧ i ≤ b)) :
    ((rows.zipIdx k).filter fun row => wanted row.2).map Prod.fst =
      (rows.take (b + 1 - k)).drop (a + 1 - k) := by
  induction rows generalizing k with
  | nil => simp
  | cons row rows ih =>
    have hfirst := h k (Nat.le_refl k) (by simp)
    have hrest := ih (k + 1) fun i hi hlt => h i (by omega) (by rw [List.length_cons]; omega)
    rw [List.zipIdx_cons, List.filter_cons]
    by_cases hk : wanted k = true
    · obtain ⟨ha, hb⟩ := hfirst.1 hk
      have htake : b + 1 - k = b + 1 - (k + 1) + 1 := by omega
      have hdrop : a + 1 - k = 0 := by omega
      have hdropRest : a + 1 - (k + 1) = 0 := by omega
      rw [if_pos hk, List.map_cons, hrest, htake, hdrop, hdropRest]
      rfl
    · rw [if_neg hk, hrest]
      by_cases hb : b < k
      · -- The range has ended.
        have htake : b + 1 - k = 0 := by omega
        have htakeRest : b + 1 - (k + 1) = 0 := by omega
        rw [htake, htakeRest, List.take_zero, List.take_zero, List.drop_nil, List.drop_nil]
      · -- It has not yet begun.
        have ha : k ≤ a := by
          apply Nat.le_of_not_lt
          intro ha
          exact hk (hfirst.2 ⟨ha, by omega⟩)
        have htake : b + 1 - k = b + 1 - (k + 1) + 1 := by omega
        have hdrop : a + 1 - k = a + 1 - (k + 1) + 1 := by omega
        rw [htake, hdrop, List.take_succ_cons, List.drop_succ_cons]

theorem rowsWhere_eq {wanted : Nat → Bool} {a b : Nat} {rows : List α}
    (h : ∀ i, 1 ≤ i → i ≤ rows.length → (wanted i = true ↔ a < i ∧ i ≤ b)) :
    rowsWhere wanted rows = (rows.take b).drop a :=
  map_filter_zipIdx rows 1 fun i hi hlt => h i hi (by omega)

theorem rowsWhere_true (rows : List α) : rowsWhere (fun _ => true) rows = rows := by
  have hrun : rowsWhere (fun _ => true) rows = (rows.take rows.length).drop 0 :=
    rowsWhere_eq fun i hi hle => ⟨fun _ => ⟨hi, hle⟩, fun _ => rfl⟩
  rw [hrun, List.take_length, List.drop_zero]

namespace Window

variable {clauses : List Clause} {comparisons : List Comparison} {skip size : Nat}

theorem returns_of_clauses
    (h : ∀ {α : Type} (rows : List α), Clause.applyAll clauses rows = (rows.drop skip).take size) :
    Returns ⟨clauses, []⟩ skip size := by
  intro α rows
  have hall : apply ⟨clauses, []⟩ rows = Clause.applyAll clauses rows := rowsWhere_true _
  rw [hall, h]

theorem returns_of_comparisons
    (h : ∀ i, 1 ≤ i → (comparisons.all (·.holds i) = true ↔ skip < i ∧ i ≤ skip + size)) :
    Returns ⟨[], comparisons⟩ skip size := by
  intro α rows
  have hrun : apply ⟨[], comparisons⟩ rows = (rows.take (skip + size)).drop skip :=
    rowsWhere_eq fun i hi _ => h i hi
  rw [hrun, List.drop_take, Nat.add_sub_cancel_left]

/-- Where only the rows up to the end of the page are kept, their numbers need not be compared with
that end. -/
theorem returns_of_keep (h : ∀ i, 1 ≤ i → i ≤ skip + size →
    (comparisons.all (·.holds i) = true ↔ skip < i)) :
    Returns ⟨[.keep (skip + size)], comparisons⟩ skip size := by
  intro α rows
  have hrun : apply ⟨[.keep (skip + size)], comparisons⟩ rows =
      ((rows.take (skip + size)).take (skip + size)).drop skip := by
    apply rowsWhere_eq
    intro i hi hle
    have hlast : i ≤ skip + size := Nat.le_trans hle (List.length_take_le _ _)
    rw [h i hi hlast]
    exact ⟨fun hskip => ⟨hskip, hlast⟩, And.left⟩
  rw [hrun, List.take_take, Nat.min_self, List.drop_take, Nat.add_sub_cancel_left]

theorem returns_skip_keep (skip size : Nat) :
    Returns ⟨[.skip skip, .keep size], []⟩ skip size :=
  returns_of_clauses fun _ => rfl

theorem returns_keep_skip (skip size : Nat) :
    Returns ⟨[.keep size, .skip skip], []⟩ skip size :=
  returns_of_clauses fun _ => rfl

theorem returns_keep (size : Nat) : Returns ⟨[.keep size], []⟩ 0 size :=
  returns_of_clauses fun _ => rfl

theorem returns_atMost (size : Nat) : Returns ⟨[], [.atMost size]⟩ 0 size := by
  apply returns_of_comparisons
  intro i hi
  simp [Comparison.holds]
  omega

theorem returns_atMost_greater (skip size : Nat) :
    Returns ⟨[], [.atMost (skip + size), .greater skip]⟩ skip size := by
  apply returns_of_comparisons
  intro i hi
  simp [Comparison.holds, and_comm]

theorem returns_keep_greater (skip size : Nat) :
    Returns ⟨[.keep (skip + size)], [.greater skip]⟩ skip size := by
  apply returns_of_keep
  intro i hi hlast
  simp [Comparison.holds]

theorem returns_keep_atLeast_less (skip size : Nat) :
    Returns ⟨[.keep (skip + size)], [.atLeast (skip + 1), .less (skip + size + 1)]⟩ skip size := by
  apply returns_of_keep
  intro i hi hlast
  simp [Comparison.holds]
  omega

/-- A range that begins behind the first rows and ends with them leaves out the page that follows
them. -/
theorem not_returns_range (hsize : 1 ≤ size) (hskip : size ≤ skip) :
    ¬Returns ⟨[.range skip size], []⟩ skip size := by
  intro h
  have hrows : apply ⟨[.range skip size], []⟩ (List.range (skip + size)) =
      ((List.range (skip + size)).take size).drop (skip - 1) := by
    have hall : apply ⟨[.range skip size], []⟩ (List.range (skip + size)) =
        rowsWhere (fun i => skip ≤ i && i ≤ size) (List.range (skip + size)) := rowsWhere_true _
    rw [hall]
    apply rowsWhere_eq
    intro i hi hle
    simp
    omega
  -- The page begins with a row that stands behind the end of the range.
  have hmem : skip ∈ ((List.range (skip + size)).drop skip).take size := by
    rw [List.take_of_length_le (by simp), List.mem_drop_iff_getElem]
    exact ⟨0, by simp; omega, by simp⟩
  rw [← h, hrows, List.take_range] at hmem
  have hlt := List.mem_range.1 (List.mem_of_mem_drop hmem)
  omega

theorem not_isPage_range {page : Nat} (hpage : 2 ≤ page) (hsize : 1 ≤ size) :
    ¬IsPage ⟨[.range ((page - 1) * size) size], []⟩ page size :=
  not_returns_range hsize (Nat.le_mul_of_pos_left size (by omega))

/-- **The rows up to a page and the page itself are the rows up to its end.** -/
theorem IsPage.append {window : Window} {page : Nat} (h : window.IsPage page size)
    (hpage : 1 ≤ page) (rows : List α) :
    rows.take ((page - 1) * size) ++ window.apply rows = rows.take (page * size) := by
  have hend : page * size = (page - 1) * size + size := by
    rw [← Nat.succ_mul, Nat.succ_eq_add_one, Nat.sub_add_cancel hpage]
  rw [h rows, hend, List.take_add]

end Window

end Runs

end PolySql
