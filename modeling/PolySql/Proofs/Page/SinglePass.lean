import PolySql.Page.Template
import PolySql.Proofs.Text.Replace

/-!
# Filling a template in one pass

A template is filled by replacing one placeholder after the other in the whole text, values that
were put in before included. A reader of the template expects something simpler: that the template
alone is read, once, and that each of its placeholders gives way to its value.

* `Placeholder`, `PageValues.value` — what gives way, and to what.
* `cut`, `fillOnce` — a template read once, and filled as it is read.
* `neat` — the symbols of a template stand apart, so that no placeholder is read across them.
* `current` — what the holes hold while some of the placeholders are filled in.
* `replaceFrom_render` — one replacement fills one kind of holes and touches nothing else of the
  template; `foldl_render` — so does a run of them.

Principal result: `fill_eq_fillOnce` — a neat template that does not ask for the names of columns is
filled as if in one pass, whatever the query.
-/

namespace PolySql

open Text

/-! ## Placeholders -/

/-- The placeholders, in the order in which they are filled in. -/
inductive Placeholder
  | skipRowsNext
  | totalRowsNext
  | skipRows
  | totalRows
  | pageSize
  | fields
  | distinctSpace
  | distinct
  | body
  deriving DecidableEq, Repr

namespace Placeholder

def all : List Placeholder :=
  [skipRowsNext, totalRowsNext, skipRows, totalRows, pageSize, fields, distinctSpace, distinct,
    body]

def text : Placeholder → List Char
  | skipRowsNext => ['$', 'S', 'K', 'I', 'P', '_', 'R', 'O', 'W', 'S', '_', 'P', 'L', 'U', 'S', '1']
  | totalRowsNext =>
    ['$', 'T', 'O', 'T', 'A', 'L', '_', 'R', 'O', 'W', 'S', '_', 'P', 'L', 'U', 'S', '1']
  | skipRows => ['$', 'S', 'K', 'I', 'P', '_', 'R', 'O', 'W', 'S']
  | totalRows => ['$', 'T', 'O', 'T', 'A', 'L', '_', 'R', 'O', 'W', 'S']
  | pageSize => ['$', 'P', 'A', 'G', 'E', 'S', 'I', 'Z', 'E']
  | fields => ['$', 'F', 'I', 'E', 'L', 'D', 'S', '_', 'O', 'R', '_', 'A', 'L', 'I', 'A', 'S']
  | distinctSpace => ['(', '$', 'D', 'I', 'S', 'T', 'I', 'N', 'C', 'T', ')', ' ']
  | distinct => ['(', '$', 'D', 'I', 'S', 'T', 'I', 'N', 'C', 'T', ')']
  | body => ['$', 'B', 'O', 'D', 'Y']

/-- How many placeholders are filled in before this one. -/
def rank : Placeholder → Nat
  | skipRowsNext => 0
  | totalRowsNext => 1
  | skipRows => 2
  | totalRows => 3
  | pageSize => 4
  | fields => 5
  | distinctSpace => 6
  | distinct => 7
  | body => 8

theorem rank_get : ∀ i : Fin all.length, (all.get i).rank = i := by decide

/-- Whether a placeholder stands for a row count. -/
def isCount (p : Placeholder) : Bool := p.rank < 5

theorem rank_injective {p r : Placeholder} (h : p.rank = r.rank) : p = r := by
  cases p <;> cases r <;> first | rfl | cases h

theorem cases_of_ne {p : Placeholder} (hfields : p ≠ .fields) (hbody : p ≠ .body) :
    p.isCount = true ∨ p = .distinctSpace ∨ p = .distinct := by
  revert hfields hbody
  cases p <;> decide

/-- A placeholder begins with a dollar, but for those with a parenthesis before it. -/
theorem text_eq_cons (p : Placeholder) :
    (∃ w, p.text = '$' :: w) ∨ 5 ≤ p.rank ∧ ∃ w, p.text = '(' :: '$' :: w := by
  cases p <;> first
    | exact .inl ⟨_, rfl⟩
    | exact .inr ⟨by decide, _, rfl⟩

end Placeholder

/-- What a placeholder stands for. -/
def PageValues.value (values : PageValues) : Placeholder → String
  | .skipRowsNext => toString (rowAfter values.skipRows.toNat)
  | .totalRowsNext => toString (rowAfter values.totalRows)
  | .skipRows => toString values.skipRows.toNat
  | .totalRows => toString values.totalRows
  | .pageSize => toString values.pageSize.toNat
  | .fields => values.fields
  | .distinctSpace => if values.distinct then "distinct " else ""
  | .distinct => if values.distinct then "distinct" else ""
  | .body => values.body

/-! The characters of a template that is written in several pieces. -/

theorem toList_append_ofList (a b : List Char) :
    (String.ofList a ++ String.ofList b).toList = a ++ b := by
  simp

theorem toList_append_append_ofList (a b c : List Char) :
    (String.ofList a ++ String.ofList b ++ String.ofList c).toList = a ++ b ++ c := by
  simp

namespace Template

variable {values : PageValues}

/-- One of the replacements that fill a template. -/
def replaceOne (values : PageValues) (s : List Char) (p : Placeholder) : List Char :=
  replaceFrom p.text (values.value p).toList 0 s

theorem toList_fill (template : String) (values : PageValues) :
    (fill template values).toList = Placeholder.all.foldl (replaceOne values) template.toList := by
  have hfill : fill template values = Placeholder.all.foldl
      (fun text p => replaceAll (String.ofList p.text) (values.value p) text) template := rfl
  have hrun : ∀ (ps : List Placeholder) (s : String),
      (ps.foldl (fun text p => replaceAll (String.ofList p.text) (values.value p) text) s).toList =
        ps.foldl (replaceOne values) s.toList := by
    intro ps
    induction ps with
    | nil => exact fun _ => rfl
    | cons p ps ih =>
      intro s
      rw [List.foldl_cons, ih, List.foldl_cons, replaceAll, String.toList_ofList,
        String.toList_ofList, replaceOne]
  rw [hfill, hrun]

/-! ## A template read once -/

/-- What a template is made of. -/
inductive Symbol
  | char (c : Char)
  | hole (p : Placeholder)
  deriving DecidableEq, Repr

/-- The text of a template whose holes hold what `σ` says. -/
def render (σ : Placeholder → List Char) (syms : List Symbol) : List Char :=
  syms.flatMap fun
    | .char c => [c]
    | .hole p => σ p

/-- Reads a template once, after its first `skip` characters. Of several placeholders that begin at
one place the longest is read. -/
def cut : Nat → List Char → List Symbol
  | _, [] => []
  | skip + 1, _ :: r => cut skip r
  | 0, c :: r =>
    match Placeholder.all.find? fun p => p.text.isPrefixOf (c :: r) with
    | some p => .hole p :: cut (p.text.length - 1) r
    | none => .char c :: cut 0 r

/-- A template of which each placeholder gives way to its value, in a single pass. -/
def fillOnce (template : String) (values : PageValues) : String :=
  String.ofList (render (fun p => (values.value p).toList) (cut 0 template.toList))

@[simp] theorem render_nil (σ : Placeholder → List Char) : render σ [] = [] := rfl

@[simp] theorem render_char (σ : Placeholder → List Char) (c : Char) (syms : List Symbol) :
    render σ (.char c :: syms) = c :: render σ syms := rfl

@[simp] theorem render_hole (σ : Placeholder → List Char) (p : Placeholder) (syms : List Symbol) :
    render σ (.hole p :: syms) = σ p ++ render σ syms := rfl

theorem render_append (σ : Placeholder → List Char) (syms syms' : List Symbol) :
    render σ (syms ++ syms') = render σ syms ++ render σ syms' := List.flatMap_append

/-- A text without placeholders. -/
def plain (s : String) : List Symbol := s.toList.map Symbol.char

@[simp] theorem render_plain (σ : Placeholder → List Char) (s : String) :
    render σ (plain s) = s.toList := by
  unfold plain
  induction s.toList with
  | nil => rfl
  | cons c r ih => rw [List.map_cons, render_char, ih]

/-- A cut loses nothing. -/
theorem render_cut (skip : Nat) (s : List Char) :
    render Placeholder.text (cut skip s) = s.drop skip := by
  fun_induction cut skip s with
  | case1 => simp
  | case2 skip c r ih => rw [ih, List.drop_succ_cons]
  | case3 c r p hp ih =>
    have hprefix := List.find?_some (p := fun p : Placeholder => p.text.isPrefixOf (c :: r)) hp
    obtain ⟨t, ht⟩ := List.isPrefixOf_iff_prefix.1 hprefix
    rw [render_hole, ih, List.drop_zero, ← ht]
    congr 1
    obtain ⟨x, w, hx⟩ : ∃ x w, p.text = x :: w := by cases p <;> exact ⟨_, _, rfl⟩
    rw [hx] at ht ⊢
    obtain ⟨-, rfl⟩ := List.cons.inj ht
    simp
  | case4 c r _ ih => rw [render_char, ih]; rfl

/-- A template holds the placeholders at which it is cut. -/
theorem occursIn_of_mem_cut {p : Placeholder} {s : List Char} (h : .hole p ∈ cut 0 s) :
    occursIn p.text s = true := by
  obtain ⟨a, b, hab⟩ := List.append_of_mem h
  have hrender := render_cut 0 s
  rw [hab, render_append, render_hole, List.drop_zero] at hrender
  rw [occursIn_iff, ← hrender, ← List.append_assoc]
  exact List.infix_append ..

/-! ## Holes that stand apart -/

/-- Whether what follows a parenthesis keeps it from being read as the start of `($DISTINCT)`. -/
def keepsApart : Symbol → Bool
  | .char _ => true
  | .hole p => p.isCount

/-- Whether a template stays readable while it is filled. Its sigils all begin placeholders, a
parenthesis stands before no query text, and the shorter of two placeholders is not followed by what
makes it the longer one. -/
def neat : List Symbol → Bool
  | [] => true
  | .char c :: r => c != '$' && (c != '(' || r.head?.any keepsApart) && neat r
  | .hole .skipRows :: r => r.head?.all (fun | .char c => c != '_' | .hole _ => false) && neat r
  | .hole .totalRows :: r => r.head?.all (fun | .char c => c != '_' | .hole _ => false) && neat r
  | .hole .distinct :: _ => false
  | .hole _ :: r => neat r

/-- What the placeholders stand for while the first `k` of them are filled in. -/
def current (values : PageValues) (k : Nat) (p : Placeholder) : List Char :=
  if p.rank < k then (values.value p).toList else p.text

theorem neat_tail {sym : Symbol} {r : List Symbol} (h : neat (sym :: r) = true) :
    neat r = true := by
  unfold neat at h
  split at h <;> simp_all

theorem ne_sigil_of_neat {c : Char} {r : List Symbol} (h : neat (.char c :: r) = true) :
    c ≠ '$' := by
  simp [neat] at h
  exact h.1.1

/-! ## Values that were put in -/

theorem toList_count {p : Placeholder} (h : p.isCount = true) (values : PageValues) :
    (values.value p).toList ≠ [] ∧ ∀ c ∈ (values.value p).toList, c.isDigit = true := by
  have hnat : ∃ n : Nat, values.value p = toString n := by
    cases p <;> first | exact ⟨_, rfl⟩ | cases h
  obtain ⟨n, hn⟩ := hnat
  have hdigits : (values.value p).toList = Nat.toDigits 10 n := by
    rw [hn]
    exact Nat.toList_repr
  rw [hdigits]
  refine ⟨?_, fun c hc => Nat.isDigit_of_mem_toDigits (by decide) (by decide) hc⟩
  exact List.length_pos_iff.1 Nat.length_toDigits_pos

/-- No sigil is put in for a placeholder that does not stand for a text of the query. -/
theorem not_mem_value {p : Placeholder} (hfields : p ≠ .fields) (hbody : p ≠ .body)
    (values : PageValues) : '$' ∉ (values.value p).toList ∧ '(' ∉ (values.value p).toList := by
  rcases Placeholder.cases_of_ne hfields hbody with hcount | rfl | rfl
  · have hdigits := (toList_count hcount values).2
    exact ⟨fun h => absurd (hdigits _ h) (by decide), fun h => absurd (hdigits _ h) (by decide)⟩
  · cases hvalue : values.distinct <;> simp [PageValues.value, hvalue]
  · cases hvalue : values.distinct <;> simp [PageValues.value, hvalue]

/-! ## One replacement -/

theorem current_self (values : PageValues) (p : Placeholder) :
    current values p.rank p = p.text := if_neg (Nat.lt_irrefl _)

theorem current_succ_self (values : PageValues) (p : Placeholder) :
    current values (p.rank + 1) p = (values.value p).toList := if_pos (Nat.lt_succ_self _)

theorem current_succ_of_ne (values : PageValues) {p r : Placeholder} (h : r ≠ p) :
    current values (p.rank + 1) r = current values p.rank r := by
  have hrank : r.rank ≠ p.rank := fun he => h (Placeholder.rank_injective he)
  unfold current
  by_cases hlt : r.rank < p.rank
  · rw [if_pos hlt, if_pos (by omega)]
  · rw [if_neg hlt, if_neg (by omega)]

/-- What stands behind a parenthesis does not begin with a dollar once the counts are put in. -/
theorem head_ne_dollar {k : Nat} (hk : 5 ≤ k) {sym : Symbol} {r : List Symbol}
    (hneat : neat (sym :: r) = true) (hsym : keepsApart sym = true) (rest : List Char)
    {w : List Char} : render (current values k) (sym :: r) ++ rest ≠ '$' :: w := by
  cases sym with
  | char c =>
    rw [render_char, List.cons_append]
    exact fun h => ne_sigil_of_neat hneat (List.cons.inj h).1
  | hole p =>
    have hrank : p.rank < 5 := by simpa [keepsApart, Placeholder.isCount] using hsym
    obtain ⟨hne, hdigits⟩ := toList_count (p := p) hsym values
    obtain ⟨d, ds, hd⟩ := List.exists_cons_of_ne_nil hne
    rw [render_hole, current, if_pos (by omega), hd]
    intro h
    have hdollar := hdigits d (by simp [hd])
    rw [(List.cons.inj h).1] at hdollar
    cases hdollar

/-- A placeholder that is not yet filled in is not mistaken for one that is filled in before it. -/
theorem clear_text {p r : Placeholder} (hrank : p.rank < r.rank) (hdistinct : r ≠ .distinct)
    {rest : List Char}
    (hrest : r = .skipRows ∨ r = .totalRows → rest.head? ≠ some '_') :
    Clear p.text r.text rest := by
  by_cases hforeign : foreign p.text r.text = true
  · exact clear_of_foreign hforeign rest
  · have hpair : (p = .skipRowsNext ∧ r = .skipRows) ∨ (p = .totalRowsNext ∧ r = .totalRows) := by
      revert hrank hdistinct hforeign
      clear hrest
      cases p <;> cases r <;> decide
    rcases hpair with ⟨rfl, rfl⟩ | ⟨rfl, rfl⟩
    · exact clear_of_head_ne (w := Placeholder.skipRows.text.tail) (by decide) (hrest (.inl rfl))
    · exact clear_of_head_ne (w := Placeholder.totalRows.text.tail) (by decide) (hrest (.inr rfl))

/-- A count is followed by nothing that makes its placeholder a longer one. -/
theorem head_ne_underscore {k : Nat} {p : Placeholder} {r : List Symbol}
    (hneat : neat (.hole p :: r) = true) (hp : p = .skipRows ∨ p = .totalRows) {rest : List Char}
    (hrest : rest.head? ≠ some '_') : (render (current values k) r ++ rest).head? ≠ some '_' := by
  cases r with
  | nil => exact hrest
  | cons sym r =>
    cases sym with
    | char c =>
      have hc : c ≠ '_' := by rcases hp with rfl | rfl <;> simp_all [neat]
      simpa using hc
    | hole q => rcases hp with rfl | rfl <;> simp [neat] at hneat

/-- No placeholder begins at a character of a neat template. -/
theorem clear_char (values : PageValues) (p : Placeholder) {c : Char} {r : List Symbol}
    (hneat : neat (.char c :: r) = true) (rest : List Char) :
    Clear p.text [c] (render (current values p.rank) r ++ rest) := by
  rcases Placeholder.text_eq_cons p with ⟨w, hw⟩ | ⟨hrank, w, hw⟩
  · rw [hw]
    exact clear_of_head_not_mem (by simpa using (ne_sigil_of_neat hneat).symm) _
  · -- Behind a parenthesis of the template no dollar follows.
    rw [hw]
    refine clear_cons_iff.2 ⟨fun hprefix => ?_, Clear.nil _ _⟩
    obtain ⟨rfl, w', hw'⟩ := List.cons_prefix_cons.1 hprefix
    cases r with
    | nil => simp [neat] at hneat
    | cons sym r =>
      have hsym : keepsApart sym = true := by simp_all [neat]
      exact head_ne_dollar hrank (neat_tail hneat) hsym rest hw'.symm

/-- No placeholder begins at a value that was put in, be it a count or a `distinct`. -/
theorem clear_value (values : PageValues) {p q : Placeholder} (hrank : q.rank < p.rank)
    (hfields : q ≠ .fields) (rest : List Char) : Clear p.text (values.value q).toList rest := by
  have hbody : q ≠ .body := by
    rintro rfl
    revert hrank
    cases p <;> decide
  obtain ⟨hdollar, hparenthesis⟩ := not_mem_value hfields hbody values
  rcases Placeholder.text_eq_cons p with ⟨w, hw⟩ | ⟨-, w, hw⟩
  · rw [hw]
    exact clear_of_head_not_mem hdollar _
  · rw [hw]
    exact clear_of_head_not_mem hparenthesis _

/-- A replacement finds its placeholder at none of the other symbols of a neat template. -/
theorem clear_symbol (values : PageValues) {p : Placeholder} {sym : Symbol} {r : List Symbol}
    (hneat : neat (sym :: r) = true) (hne : sym ≠ .hole p)
    (hfields : sym = .hole .fields → p.rank ≤ 5) {rest : List Char}
    (hrest : rest.head? ≠ some '_') :
    Clear p.text (render (current values p.rank) [sym])
      (render (current values p.rank) r ++ rest) := by
  cases sym with
  | char c => exact clear_char values p hneat rest
  | hole q =>
    rw [render_hole, render_nil, List.append_nil, current]
    split
    · rename_i hrank
      refine clear_value values hrank (fun hq => ?_) _
      rw [hq] at hrank hfields
      exact absurd (hfields rfl) (Nat.not_le.2 hrank)
    · rename_i hrank
      have hlt : p.rank < q.rank := by
        have hrank_ne : q.rank ≠ p.rank := by
          intro h
          apply hne
          rw [Placeholder.rank_injective h]
        omega
      have hdistinct : q ≠ .distinct := by
        rintro rfl
        simp [neat] at hneat
      exact clear_text hlt hdistinct fun hq => head_ne_underscore hneat hq hrest

/-- **One replacement fills one kind of holes** of a neat template, and leaves its other symbols
alone. What follows the template is replaced on its own. -/
theorem replaceFrom_render {p : Placeholder} {syms : List Symbol} (hneat : neat syms = true)
    (hfields : .hole .fields ∈ syms → p.rank ≤ 5) {rest : List Char}
    (hrest : rest.head? ≠ some '_') :
    replaceOne values (render (current values p.rank) syms ++ rest) p =
      render (current values (p.rank + 1)) syms ++ replaceOne values rest p := by
  induction syms with
  | nil => rfl
  | cons sym r ih =>
    have hr := ih (neat_tail hneat) fun h => hfields (List.mem_cons_of_mem sym h)
    by_cases hsym : sym = .hole p
    · have hne : p.text ≠ [] := by cases p <;> decide
      rw [hsym, render_hole, render_hole, current_self, current_succ_self, List.append_assoc,
        List.append_assoc, ← hr]
      exact replaceFrom_append _ _ hne
    · have hclear := clear_symbol values hneat hsym
        (fun h => hfields (by rw [h]; exact List.mem_cons_self)) hrest
      have hsame : render (current values (p.rank + 1)) [sym] =
          render (current values p.rank) [sym] := by
        cases sym with
        | char c => rfl
        | hole q =>
          have hqp : q ≠ p := fun h => hsym (congrArg Symbol.hole h)
          rw [render_hole, render_hole, current_succ_of_ne values hqp]
          rfl
      rw [← List.singleton_append, render_append, render_append, List.append_assoc,
        List.append_assoc, hsame, ← hr]
      exact replaceFrom_append_of_clear _ hclear

/-! ## All replacements -/

/-- **The first replacements fill the first holes**, one kind after the other. -/
theorem foldl_render (values : PageValues) {k : Nat} (hk : k ≤ 9) {syms : List Symbol}
    (hneat : neat syms = true) (hfields : .hole .fields ∈ syms → k ≤ 6) {rest : List Char}
    (hrest : ∀ ps : List Placeholder, (ps.foldl (replaceOne values) rest).head? ≠ some '_') :
    (Placeholder.all.take k).foldl (replaceOne values) (render (current values 0) syms ++ rest) =
      render (current values k) syms ++
        (Placeholder.all.take k).foldl (replaceOne values) rest := by
  induction k with
  | zero => rfl
  | succ k ih =>
    have hget : Placeholder.all[k]? = some (Placeholder.all.get ⟨k, hk⟩) :=
      List.getElem?_eq_getElem hk
    have hrank := Placeholder.rank_get ⟨k, hk⟩
    generalize Placeholder.all.get ⟨k, hk⟩ = p at hget hrank
    obtain rfl : p.rank = k := hrank
    rw [List.take_add_one, hget, Option.toList_some, List.foldl_append, List.foldl_append,
      ih (by omega) fun h => by have := hfields h; omega]
    exact replaceFrom_render hneat (fun h => by have := hfields h; omega) (hrest _)

theorem foldl_nil (values : PageValues) (ps : List Placeholder) :
    ps.foldl (replaceOne values) [] = [] := by
  induction ps with
  | nil => rfl
  | cons p ps ih => exact ih

theorem foldl_render_self (values : PageValues) {k : Nat} (hk : k ≤ 9) {syms : List Symbol}
    (hneat : neat syms = true) (hfields : .hole .fields ∈ syms → k ≤ 6) :
    (Placeholder.all.take k).foldl (replaceOne values) (render (current values 0) syms) =
      render (current values k) syms := by
  have hend : ∀ ps : List Placeholder, (ps.foldl (replaceOne values) []).head? ≠ some '_' := by
    intro ps
    rw [foldl_nil]
    simp
  have hrun := foldl_render values hk hneat hfields hend
  rwa [foldl_nil, List.append_nil, List.append_nil] at hrun

theorem render_zero (values : PageValues) (template : String) :
    render (current values 0) (cut 0 template.toList) = template.toList :=
  render_cut 0 template.toList

theorem current_nine (values : PageValues) :
    current values 9 = fun p => (values.value p).toList := by
  funext p
  rw [current, if_pos (by cases p <;> decide)]

/-- **A neat template that does not ask for the names of columns is filled in a single pass**,
whatever the query holds. -/
theorem fill_eq_fillOnce {template : String} (hneat : neat (cut 0 template.toList) = true)
    (hfields : .hole .fields ∉ cut 0 template.toList) (values : PageValues) :
    fill template values = fillOnce template values := by
  have hrun := foldl_render_self values (Nat.le_refl 9) hneat fun h => absurd h hfields
  rw [render_zero, current_nine] at hrun
  rw [← String.toList_inj, toList_fill, fillOnce, String.toList_ofList]
  exact hrun

end Template

end PolySql
