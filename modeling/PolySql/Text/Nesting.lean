import PolySql.Text.Blank
import PolySql.Text.Quote

/-!
# Parentheses and top-level commas

Only unquoted parentheses and commas count, so each function takes the `QuoteRule` of its text.

* `splitTopLevel` — the pieces between the commas outside every parenthesis.
* `outerParens` — a text around its first parenthesis and the one that closes it.

`commaJoin_splitTopLevel` and `text_of_outerParens` say that nothing is lost.
-/

namespace PolySql.Text

/-- How many parentheses are open after a character; one closed too often does not count. -/
def depthAfter (d : Nat) : Char → Nat
  | '(' => d + 1
  | ')' => d - 1
  | _ => d

/-! ## Commas -/

def splitFrom (rule : QuoteRule) : Option Char → Nat → List Char → List (List Char)
  | _, _, [] => [[]]
  | q, d, c :: r =>
    if isQuoted rule q c then consHead c (splitFrom rule (closerAfter rule q c) d r)
    else if c = ',' ∧ d = 0 then [] :: splitFrom rule none 0 r
    else consHead c (splitFrom rule none (depthAfter d c) r)

/-- The pieces of a text between its unquoted commas outside parentheses; one more than commas. -/
def splitTopLevel (rule : QuoteRule) (s : List Char) : List (List Char) := splitFrom rule none 0 s

/-- Pieces with commas between them. -/
def commaJoin : List (List Char) → List Char
  | [] => []
  | [p] => p
  | p :: ps => p ++ ',' :: commaJoin ps

theorem splitFrom_ne_nil (rule : QuoteRule) (q : Option Char) (d : Nat) (s : List Char) :
    splitFrom rule q d s ≠ [] := by
  have cons_ne : ∀ c ws, consHead c ws ≠ [] := by
    intro c ws
    cases ws <;> simp [consHead]
  cases s with
  | nil => simp [splitFrom]
  | cons c r =>
    rw [splitFrom]
    split
    · exact cons_ne _ _
    · split
      · simp
      · exact cons_ne _ _

theorem commaJoin_consHead {ws : List (List Char)} (c : Char) (h : ws ≠ []) :
    commaJoin (consHead c ws) = c :: commaJoin ws := by
  match ws, h with
  | [_], _ => rfl
  | _ :: _ :: _, _ => rfl

theorem commaJoin_splitFrom (rule : QuoteRule) (q : Option Char) (d : Nat) (s : List Char) :
    commaJoin (splitFrom rule q d s) = s := by
  fun_induction splitFrom rule q d s with
  | case1 => rfl
  | case2 q d c r _ ih => rw [commaJoin_consHead c (splitFrom_ne_nil _ _ _ _), ih]
  | case3 q d c r _ h ih =>
    obtain ⟨p, ps, hp⟩ := List.exists_cons_of_ne_nil (splitFrom_ne_nil rule none 0 r)
    rw [hp] at ih ⊢
    simp [commaJoin, ih, h.1]
  | case4 q d c r _ _ ih => rw [commaJoin_consHead c (splitFrom_ne_nil _ _ _ _), ih]

/-- Splitting loses nothing. -/
theorem commaJoin_splitTopLevel (rule : QuoteRule) (s : List Char) :
    commaJoin (splitTopLevel rule s) = s := commaJoin_splitFrom rule none 0 s

/-! ## Parentheses -/

/-- The text before the first unquoted opening parenthesis, and the text after it. -/
def toOpening (rule : QuoteRule) : Option Char → List Char → Option (List Char × List Char)
  | _, [] => none
  | q, c :: r =>
    if isQuoted rule q c = false ∧ c = '(' then some ([], r)
    else (toOpening rule (closerAfter rule q c) r).map fun (a, b) => (c :: a, b)

/-- The text before the unquoted parenthesis that closes the one just opened, and the text after
it. -/
def toClosing (rule : QuoteRule) : Option Char → Nat → List Char → Option (List Char × List Char)
  | _, _, [] => none
  | q, d, c :: r =>
    if isQuoted rule q c then
      (toClosing rule (closerAfter rule q c) d r).map fun (a, b) => (c :: a, b)
    else if c = ')' ∧ d = 0 then some ([], r)
    else (toClosing rule none (depthAfter d c) r).map fun (a, b) => (c :: a, b)

/-- A text cut at a parenthesis and the one that closes it. -/
structure Enclosed where
  before : List Char
  inside : List Char
  after : List Char
  deriving DecidableEq, Repr

/-- A text cut at its first unquoted opening parenthesis and at the one that closes it. -/
def outerParens (rule : QuoteRule) (s : List Char) : Option Enclosed := do
  let (before, rest) ← toOpening rule none s
  let (inside, after) ← toClosing rule none 0 rest
  return ⟨before, inside, after⟩

theorem eq_append_of_toOpening {rule : QuoteRule} {q : Option Char} {s a b : List Char}
    (h : toOpening rule q s = some (a, b)) : s = a ++ '(' :: b := by
  fun_induction toOpening rule q s generalizing a with
  | case1 => simp at h
  | case2 q c r hc => simp_all
  | case3 q c r _ ih =>
    obtain ⟨⟨x, y⟩, hx, hy⟩ := Option.map_eq_some_iff.1 h
    obtain ⟨rfl, rfl⟩ := Prod.mk.inj hy
    simp [ih hx]

theorem eq_append_of_toClosing {rule : QuoteRule} {q : Option Char} {d : Nat} {s a b : List Char}
    (h : toClosing rule q d s = some (a, b)) : s = a ++ ')' :: b := by
  fun_induction toClosing rule q d s generalizing a with
  | case1 => simp at h
  | case2 q d c r _ ih =>
    obtain ⟨⟨x, y⟩, hx, hy⟩ := Option.map_eq_some_iff.1 h
    obtain ⟨rfl, rfl⟩ := Prod.mk.inj hy
    simp [ih hx]
  | case3 q d c r _ hc => simp_all
  | case4 q d c r _ _ ih =>
    obtain ⟨⟨x, y⟩, hx, hy⟩ := Option.map_eq_some_iff.1 h
    obtain ⟨rfl, rfl⟩ := Prod.mk.inj hy
    simp [ih hx]

/-- Cutting at the outer parentheses loses nothing. -/
theorem text_of_outerParens {rule : QuoteRule} {s : List Char} {e : Enclosed}
    (h : outerParens rule s = some e) : s = e.before ++ '(' :: (e.inside ++ ')' :: e.after) := by
  simp only [outerParens, Option.bind_eq_bind, Option.bind_eq_some_iff, Prod.exists] at h
  obtain ⟨before, rest, h₁, inside, after, h₂, h₃⟩ := h
  obtain rfl : (⟨before, inside, after⟩ : Enclosed) = e := by simpa using h₃
  rw [eq_append_of_toOpening h₁, eq_append_of_toClosing h₂]

end PolySql.Text
