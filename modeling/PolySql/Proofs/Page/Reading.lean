import PolySql.Proofs.Page.Clauses
import PolySql.Proofs.Page.RowNumber

/-!
# Reading a page

A page is a template in which row counts and the texts of a query are filled in. The counts stand
apart from words and from one another, so a page is read as its template is, with numbers where the
template has the counts.

* `Template.fillCounts` — a template with its row counts filled in; the query is not known yet.
* `Template.spaced` — the counts of a template stand apart.
* `ReadAlike` — the counts do not change how the rest is read.
* `PageValues.quoted` — what a page holds in the places of the placeholders.
* `Template.Asks` — the window of a template, by its row counts.

Principal results: `lex_fillCounts` — the tokens of a template are those of its pages, with the
counts filled in — and `asks_of_readsAs` — what is read in the tokens of a template is asked for by
each of its pages, whatever the query is.
-/

namespace PolySql

open Template

/-! ## Row counts -/

/-- The row count that a placeholder stands for, if it stands for one. -/
def PageValues.count (values : PageValues) : Placeholder → Nat
  | .skipRowsNext => rowAfter values.skipRows.toNat
  | .totalRowsNext => rowAfter values.totalRows
  | .skipRows => values.skipRows.toNat
  | .totalRows => values.totalRows
  | .pageSize => values.pageSize.toNat
  | _ => 0

/-- A template with its row counts filled in. The texts of the caller are still holes. -/
def Template.fillCounts (values : PageValues) (syms : List Symbol) : List Symbol :=
  syms.flatMap fun
    | .char c => [.char c]
    | .hole p => if p.isCount then plain (values.value p) else [.hole p]

/-- A token with its row count filled in. -/
def Token.fill (values : PageValues) : Token → Token
  | .given p => if p.isCount then .number (values.count p) else .given p
  | token => token

/-- The digits of a number are read as the number. -/
theorem Token.ofWord_toString (n : Nat) : ofWord (toString n).toList = .number n := by
  have hdigits : (toString n).toList = Nat.toDigits 10 n := Nat.toList_repr
  have hall : (Nat.toDigits 10 n).all Char.isDigit = true := by
    rw [List.all_eq_true]
    exact fun c hc => Nat.isDigit_of_mem_toDigits (by decide) (by decide) hc
  unfold ofWord
  rw [hdigits, if_pos hall, Nat.ofDigitChars_ten_toDigits]

/-- Numbers are told apart by their digits. -/
theorem Token.toString_inj {m n : Nat} : toString m = toString n ↔ m = n := by
  refine ⟨fun h => number.inj ?_, fun h => by rw [h]⟩
  rw [← ofWord_toString, h, ofWord_toString]

theorem PageValues.value_eq_toString {p : Placeholder} (h : p.isCount = true)
    (values : PageValues) : values.value p = toString (values.count p) := by
  cases p <;> first | rfl | cases h

/-! ## Numbers that stand apart -/

namespace Template.Symbol

/-- Whether a symbol becomes a number. -/
def isCount : Symbol → Bool
  | .char _ => false
  | .hole p => p.isCount

/-- Whether a symbol becomes part of a word, or a number. -/
def inWord : Symbol → Bool
  | .char c => PolySql.inWord c
  | .hole p => p.isCount

end Template.Symbol

/-- Whether every number of a template stands apart from other numbers and from words. -/
def Template.spaced : List Symbol → Bool
  | [] => true
  | s :: r =>
    r.head?.all (fun t => !(s.isCount && t.inWord) && !(s.inWord && t.isCount)) && spaced r

theorem lexFrom_map_char {s : List Char} (h : ∀ c ∈ s, inWord c = true) (r : List Symbol) :
    lexFrom (s.map Symbol.char ++ r) = (s ++ (lexFrom r).1, (lexFrom r).2) := by
  induction s with
  | nil => rfl
  | cons c s ih =>
    rw [List.map_cons, List.cons_append, lexFrom, if_pos (h c List.mem_cons_self),
      ih fun d hd => h d (List.mem_cons_of_mem c hd)]
    rfl

theorem lexFrom_fst_eq_nil {syms : List Symbol} (h : syms.head?.all (fun s => !s.inWord) = true) :
    (lexFrom syms).1 = [] := by
  cases syms with
  | nil => rfl
  | cons s r =>
    cases s with
    | hole p => rfl
    | char c =>
      have hc : ¬inWord c = true := by simpa [Symbol.inWord] using h
      rw [lexFrom, if_neg hc]

theorem fill_ofWord (values : PageValues) (letters : List Char) :
    (Token.ofWord letters).fill values = Token.ofWord letters := by
  unfold Token.ofWord
  split <;> rfl

theorem consWord_map_fill (values : PageValues) (letters : List Char) (tokens : List Token) :
    Token.consWord (letters, tokens.map (Token.fill values)) =
      (Token.consWord (letters, tokens)).map (Token.fill values) := by
  cases letters with
  | nil => rfl
  | cons c r =>
    rw [Token.consWord, Token.consWord, List.map_cons, fill_ofWord]

theorem fillCounts_cons (values : PageValues) (s : Symbol) (r : List Symbol) :
    fillCounts values (s :: r) = fillCounts values [s] ++ fillCounts values r := by
  simp [fillCounts]

/-- A number that stands apart is read as it is filled in. -/
theorem lex_count {p : Placeholder} (hp : p.isCount = true) (values : PageValues) {r : List Symbol}
    (hr : (lexFrom r).1 = []) :
    lex ((values.value p).toList.map Symbol.char ++ r) =
      .number (values.count p) :: (lexFrom r).2 := by
  have hdigits : (values.value p).toList = Nat.toDigits 10 (values.count p) := by
    rw [PageValues.value_eq_toString hp]
    exact Nat.toList_repr
  have hword : ∀ c ∈ (values.value p).toList, inWord c = true := by
    intro c hc
    rw [hdigits] at hc
    have hdigit := Nat.isDigit_of_mem_toDigits (by decide) (by decide) hc
    simp [inWord, Char.isAlphanum, hdigit]
  have htoken : Token.ofWord (values.value p).toList = .number (values.count p) := by
    rw [PageValues.value_eq_toString hp]
    exact Token.ofWord_toString _
  obtain ⟨c, w, hcons⟩ : ∃ c w, (values.value p).toList = c :: w := by
    apply List.exists_cons_of_ne_nil
    rw [hdigits]
    exact Nat.toDigits_ne_nil
  unfold lex
  rw [lexFrom_map_char hword, hr, List.append_nil, ← htoken, hcons]
  rfl

/-- What has been read of a template is read of it when its numbers are filled in. A number at the
start is a word that has not ended, so the second part is about other starts only. -/
structure ReadAlike (values : PageValues) (syms : List Symbol) : Prop where
  tokens : lex (fillCounts values syms) = (lex syms).map (Token.fill values)
  start : syms.head?.all (fun s => !s.isCount) = true →
    lexFrom (fillCounts values syms) =
      ((lexFrom syms).1, (lexFrom syms).2.map (Token.fill values))

theorem ReadAlike.of_start {values : PageValues} {syms : List Symbol}
    (h : lexFrom (fillCounts values syms) =
      ((lexFrom syms).1, (lexFrom syms).2.map (Token.fill values))) : ReadAlike values syms := by
  refine ⟨?_, fun _ => h⟩
  unfold lex
  rw [h, consWord_map_fill]

theorem ReadAlike.char {values : PageValues} {c : Char} {r : List Symbol}
    (h : ReadAlike values r) (hr : inWord c = true → r.head?.all (fun s => !s.isCount) = true) :
    ReadAlike values (.char c :: r) := by
  have hcons : fillCounts values (.char c :: r) = .char c :: fillCounts values r := rfl
  apply of_start
  rw [hcons, lexFrom, lexFrom]
  by_cases hc : inWord c = true
  · rw [if_pos hc, if_pos hc, h.start (hr hc)]
  · have htokens : Token.consWord (lexFrom (fillCounts values r)) =
        (Token.consWord (lexFrom r)).map (Token.fill values) := h.tokens
    rw [if_neg hc, if_neg hc, htokens]
    split <;> rfl

theorem ReadAlike.given {values : PageValues} {p : Placeholder} (hp : ¬p.isCount = true)
    {r : List Symbol} (h : ReadAlike values r) : ReadAlike values (.hole p :: r) := by
  have hcons : fillCounts values (.hole p :: r) = .hole p :: fillCounts values r := by
    rw [fillCounts_cons]
    simp [fillCounts, hp]
  have htokens : Token.consWord (lexFrom (fillCounts values r)) =
      (Token.consWord (lexFrom r)).map (Token.fill values) := h.tokens
  apply of_start
  rw [hcons, lexFrom, lexFrom, htokens, List.map_cons]
  simp [Token.fill, hp]

theorem ReadAlike.count {values : PageValues} {p : Placeholder} (hp : p.isCount = true)
    {r : List Symbol} (h : ReadAlike values r)
    (hcount : r.head?.all (fun s => !s.isCount) = true)
    (hword : r.head?.all (fun s => !s.inWord) = true) : ReadAlike values (.hole p :: r) := by
  have hcons : fillCounts values (.hole p :: r) =
      (values.value p).toList.map Symbol.char ++ fillCounts values r := by
    rw [fillCounts_cons]
    simp [fillCounts, hp, plain]
  have hnil := lexFrom_fst_eq_nil hword
  have hstart := h.start hcount
  have hfilled : lex (fillCounts values (.hole p :: r)) =
      .number (values.count p) :: (lexFrom r).2.map (Token.fill values) := by
    rw [hcons, lex_count hp values (by rw [hstart, hnil]), hstart]
  have hread : lex (.hole p :: r) = .given p :: (lexFrom r).2 := by
    unfold lex
    rw [lexFrom]
    change Token.given p :: Token.consWord ((lexFrom r).1, (lexFrom r).2) = _
    rw [hnil]
    rfl
  refine ⟨?_, fun hhead => ?_⟩
  · rw [hfilled, hread, List.map_cons]
    simp [Token.fill, hp]
  · simp [Symbol.isCount, hp] at hhead

/-- **The numbers of a template are read where they are filled in**, and everything else is read as
before. -/
theorem lex_fillCounts (values : PageValues) {syms : List Symbol} (h : spaced syms = true) :
    lex (fillCounts values syms) = (lex syms).map (Token.fill values) := by
  have halike : ReadAlike values syms := by
    induction syms with
    | nil => exact ⟨rfl, fun _ => rfl⟩
    | cons s r ih =>
      rw [spaced, Bool.and_eq_true] at h
      obtain ⟨hfirst, hrest⟩ := h
      cases s with
      | char c =>
        refine (ih hrest).char fun hc => ?_
        simpa [Symbol.isCount, Symbol.inWord, hc] using hfirst
      | hole p =>
        by_cases hp : p.isCount = true
        · have hhead : r.head?.all (fun s => !s.inWord && !s.isCount) = true := by
            simpa [Symbol.isCount, Symbol.inWord, hp] using hfirst
          cases r with
          | nil => exact (ih hrest).count hp rfl rfl
          | cons t r =>
            simp at hhead
            exact (ih hrest).count hp (by simp [hhead.2]) (by simp [hhead.1])
        · exact (ih hrest).given hp
  exact halike.tokens

/-! ## What a template asks for -/

theorem Template.render_fillCounts (values : PageValues) (texts : Placeholder → List Char)
    (syms : List Symbol) :
    render texts (fillCounts values syms) =
      render (fun p => if p.isCount then (values.value p).toList else texts p) syms := by
  induction syms with
  | nil => rfl
  | cons s r ih =>
    rw [fillCounts_cons, render_append, ih]
    cases s with
    | char c => rfl
    | hole p =>
      by_cases hp : p.isCount = true
      · simp [fillCounts, hp]
      · simp [fillCounts, hp]

/-- What a page holds in the places of the placeholders. The names of the columns are replaced on,
together with the blank behind them. -/
def PageValues.quoted (values : PageValues) : Placeholder → List Char
  | .fields => rewriteRest values (values.fields.toList ++ [' '])
  | p => (values.value p).toList

theorem PageValues.quoted_of_ne (values : PageValues) {p : Placeholder} (h : p ≠ .fields) :
    values.quoted p = (values.value p).toList := by
  cases p <;> first | rfl | exact absurd rfl h

/-- A template asks for rows by its own words and by the row counts, whatever the query is. -/
def Template.Asks (template : String) (window : PageValues → Window) : Prop :=
  ∀ counts : PageValues, ∃ page, read (lex page) = some (window counts) ∧
    ∀ values : PageValues, values.pageSize = counts.pageSize →
      values.skipRows = counts.skipRows →
        (fill template values).toList = render values.quoted page

/-- The counts of a page do not depend on the query. -/
theorem PageValues.value_eq_of_counts {values counts : PageValues}
    (hsize : values.pageSize = counts.pageSize) (hskip : values.skipRows = counts.skipRows)
    {p : Placeholder} (hp : p.isCount = true) : values.value p = counts.value p := by
  have htotal : values.totalRows = counts.totalRows := by
    unfold totalRows
    rw [hsize, hskip]
  rw [value_eq_toString hp, value_eq_toString hp]
  cases p <;> first
    | exact absurd hp (by decide)
    | simp only [count, hsize, hskip, htotal]

/-- Every placeholder gives way to its own text, be it a count or not. -/
theorem Template.render_quoted {values counts : PageValues}
    (hsize : values.pageSize = counts.pageSize) (hskip : values.skipRows = counts.skipRows)
    (syms : List Symbol) :
    render values.quoted (fillCounts counts syms) = render values.quoted syms := by
  rw [render_fillCounts]
  congr 1
  funext p
  by_cases hp : p.isCount = true
  · have hfields : p ≠ .fields := by
      rintro rfl
      cases hp
    rw [if_pos hp, values.quoted_of_ne hfields, PageValues.value_eq_of_counts hsize hskip hp]
  · rw [if_neg hp]

/-- Where there are no names of columns, nothing is replaced on. -/
theorem Template.render_quoted_of_not_mem (values : PageValues) {syms : List Symbol}
    (h : .hole .fields ∉ syms) :
    render values.quoted syms = render (fun p => (values.value p).toList) syms := by
  induction syms with
  | nil => rfl
  | cons s r ih =>
    have hr := ih fun hmem => h (List.mem_cons_of_mem s hmem)
    cases s with
    | char c => rw [render_char, render_char, hr]
    | hole p =>
      have hfields : p ≠ .fields := by
        rintro rfl
        exact h List.mem_cons_self
      rw [render_hole, render_hole, hr, values.quoted_of_ne hfields]

/-- Whether a template is filled in one pass, its numbers stand apart, and its tokens are these. -/
def Template.readsAs (text : List Char) (tokens : List Token) : Bool :=
  let syms := cut 0 text
  neat syms && spaced syms && !syms.contains (.hole .fields) && lex syms = tokens

/-- A template asks for what is read in its tokens. -/
theorem Template.asks_of_readsAs {template : String} (tokens : List Token) {text : List Char}
    (htext : template.toList = text) (hreads : readsAs text tokens = true)
    {window : PageValues → Window}
    (hwindow : ∀ values, read (tokens.map (Token.fill values)) = some (window values)) :
    Asks template window := by
  subst htext
  simp only [readsAs, Bool.and_eq_true, Bool.not_eq_true', decide_eq_true_eq,
    List.contains_eq_mem, decide_eq_false_iff_not] at hreads
  obtain ⟨⟨⟨hneat, hspaced⟩, hfields⟩, hlex⟩ := hreads
  intro counts
  refine ⟨fillCounts counts (cut 0 template.toList), ?_, ?_⟩
  · rw [lex_fillCounts counts hspaced, hlex]
    exact hwindow counts
  · intro values hsize hskip
    rw [fill_eq_fillOnce hneat hfields, fillOnce, String.toList_ofList,
      render_quoted hsize hskip, render_quoted_of_not_mem values hfields]

end PolySql
