import PolySql.Proofs.Text.Trim
import PolySql.Text.Nesting

/-!
# Cutting texts at parentheses and commas

A text is cut where a scan stands outside every quoted span, so a scan that starts anew behind the
cut marks the rest as the scan of the whole text does.

* `QuoteRule.Proper` — quotes are neither blanks nor parentheses nor commas.
* `depthAfterAll`, `depthThrough?` — the parentheses that are open after a text; the second fails
  where one is closed that is not open.
* `Plain` — a text without quotes and parentheses; `Level` — a text that closes what it opens.
* `EndsOutside` — a text that leaves the scan outside quotes and parentheses, whatever it closes.
* `toOpening_eq_some_iff`, `toClosing_eq_some_iff`, `outerParens_eq_some_iff` — where parentheses
  are found.
* `splitFrom_append` — how the pieces of a text go on; `splitFrom_cases` — a text is one piece, or
  cut behind its first; `splitTopLevel_commaJoin` and `level_of_mem_splitTopLevel` — the pieces of
  a level text are level and hold no comma to cut at.
-/

namespace PolySql.Text

variable {rule : QuoteRule}

/-- Quotes are neither blanks nor parentheses nor commas. -/
structure QuoteRule.Proper (rule : QuoteRule) : Prop where
  blank : ∀ c, isBlank c = true → rule c = none
  opening : rule '(' = none
  closing : rule ')' = none
  comma : rule ',' = none
  closer : ∀ c e, rule c = some e → isBlank e = false

theorem literalQuotes_eq_some {c e : Char} (h : literalQuotes c = some e) :
    e = c ∧ (c = '\'' ∨ c = '"' ∨ c = '\x60') := by
  unfold literalQuotes at h
  split at h <;> simp_all [eq_comm]

theorem literalQuotes_proper : literalQuotes.Proper where
  blank c hc := by
    refine Option.eq_none_iff_forall_ne_some.2 fun e he => ?_
    rcases (literalQuotes_eq_some he).2 with rfl | rfl | rfl <;> exact absurd hc (by decide)
  opening := rfl
  closing := rfl
  comma := rfl
  closer c e h := by
    obtain ⟨rfl, h⟩ := literalQuotes_eq_some h
    rcases h with rfl | rfl | rfl <;> decide

theorem nameQuotes_eq_some {c e : Char} (h : nameQuotes c = some e) :
    (c = '[' ∧ e = ']') ∨ (e = c ∧ (c = '\'' ∨ c = '"' ∨ c = '\x60')) := by
  unfold nameQuotes at h
  split at h
  · exact .inl ⟨rfl, (Option.some.inj h).symm⟩
  · exact .inr (literalQuotes_eq_some h)

theorem nameQuotes_proper : nameQuotes.Proper where
  blank c hc := by
    refine Option.eq_none_iff_forall_ne_some.2 fun e he => ?_
    rcases nameQuotes_eq_some he with ⟨rfl, -⟩ | ⟨-, rfl | rfl | rfl⟩ <;>
      exact absurd hc (by decide)
  opening := rfl
  closing := rfl
  comma := rfl
  closer c e h := by
    rcases nameQuotes_eq_some h with ⟨-, rfl⟩ | ⟨rfl, rfl | rfl | rfl⟩ <;> decide

/-! ## Where a scan stands -/

@[simp] theorem closerAfterAll_nil (q : Option Char) : closerAfterAll rule q [] = q := rfl

@[simp] theorem closerAfterAll_cons (q : Option Char) (c : Char) (s : List Char) :
    closerAfterAll rule q (c :: s) = closerAfterAll rule (closerAfter rule q c) s := rfl

@[simp] theorem closerAfterAll_append (q : Option Char) (s t : List Char) :
    closerAfterAll rule q (s ++ t) = closerAfterAll rule (closerAfterAll rule q s) t :=
  List.foldl_append ..

theorem isQuoted_none (rule : QuoteRule) (c : Char) :
    isQuoted rule none c = (rule c).isSome := rfl

/-- A character that opens no span leaves the scan outside. -/
theorem unquoted_of_rule_eq_none {c : Char} (h : rule c = none) :
    isQuoted rule none c = false ∧ closerAfter rule none c = none := by
  rw [isQuoted_none, h]
  exact ⟨rfl, h⟩

/-- A text without quotes and parentheses. -/
def Plain (rule : QuoteRule) (s : List Char) : Prop := ∀ c ∈ s, rule c = none ∧ c ≠ '(' ∧ c ≠ ')'

instance (rule : QuoteRule) : DecidablePred (Plain rule) :=
  fun s => List.decidableBAll (fun c => rule c = none ∧ c ≠ '(' ∧ c ≠ ')') s

theorem Blanks.plain (hrule : rule.Proper) {s : List Char} (h : Blanks s) : Plain rule s := by
  intro c hc
  have hblank := h c hc
  refine ⟨hrule.blank c hblank, ?_, ?_⟩ <;> rintro rfl <;> cases hblank

theorem closerAfterAll_plain {s : List Char} (h : Plain rule s) :
    closerAfterAll rule none s = none := by
  induction s with
  | nil => rfl
  | cons c s ih =>
    rw [closerAfterAll_cons, (unquoted_of_rule_eq_none (h c List.mem_cons_self).1).2,
      ih fun x hx => h x (List.mem_cons_of_mem c hx)]

theorem closerAfterAll_blanks (hrule : rule.Proper) {s : List Char} (h : Blanks s) :
    closerAfterAll rule none s = none := closerAfterAll_plain (h.plain hrule)

/-- An open span is closed by a character that is not a blank. -/
theorem closer_not_blank (hrule : rule.Proper) {s : List Char} {q : Option Char}
    (hq : ∀ e, q = some e → isBlank e = false) {e : Char}
    (h : closerAfterAll rule q s = some e) : isBlank e = false := by
  induction s generalizing q with
  | nil => exact hq e h
  | cons c s ih =>
    refine ih (fun e' he' => ?_) h
    unfold closerAfter at he'
    split at he'
    · rename_i open'
      split at he'
      · cases he'
      · exact hq e' he'
    · exact hrule.closer c e' he'

/-- Blanks neither open a span nor close one. -/
theorem closerAfterAll_append_blanks (hrule : rule.Proper) (s : List Char) {post : List Char}
    (h : Blanks post) : closerAfterAll rule none (s ++ post) = closerAfterAll rule none s := by
  rw [closerAfterAll_append]
  cases hs : closerAfterAll rule none s with
  | none => exact closerAfterAll_blanks hrule h
  | some e =>
    have he := closer_not_blank hrule (by intro e he; cases he) hs
    clear hs
    induction post with
    | nil => rfl
    | cons c post ih =>
      obtain ⟨hc, hpost⟩ := h.of_cons
      have hne : c ≠ e := by
        rintro rfl
        rw [hc] at he
        cases he
      rw [closerAfterAll_cons, closerAfter, if_neg hne, ih hpost]

theorem closerAfterAll_trimEnd (hrule : rule.Proper) (s : List Char) :
    closerAfterAll rule none (trimEnd s) = closerAfterAll rule none s := by
  obtain ⟨post, hpost, hs⟩ := exists_trimEnd s
  conv => rhs; rw [hs]
  rw [closerAfterAll_append_blanks hrule _ hpost]

theorem closerAfterAll_trim (hrule : rule.Proper) (s : List Char) :
    closerAfterAll rule none (trim s) = closerAfterAll rule none s := by
  obtain ⟨pre, hpre, hs⟩ := exists_trimStart s
  have : closerAfterAll rule none s = closerAfterAll rule none (trimStart s) := by
    conv => lhs; rw [hs]
    rw [closerAfterAll_append, closerAfterAll_blanks hrule hpre]
  rw [trim, closerAfterAll_trimEnd hrule, this]

/-! ## Depth -/

theorem depthAfter_of_ne {c : Char} (hopening : c ≠ '(') (hclosing : c ≠ ')') (d : Nat) :
    depthAfter d c = d := by
  unfold depthAfter
  split <;> first | rfl | contradiction

/-- How many parentheses are open after a text; one closed too often does not count. -/
def depthAfterAll (rule : QuoteRule) : Option Char → Nat → List Char → Nat
  | _, d, [] => d
  | q, d, c :: r =>
    if isQuoted rule q c then depthAfterAll rule (closerAfter rule q c) d r
    else depthAfterAll rule none (depthAfter d c) r

/-- How many parentheses are open behind a character, which may be quoted. -/
def depthBehind (rule : QuoteRule) (q : Option Char) (d : Nat) (c : Char) : Nat :=
  if isQuoted rule q c then d else depthAfter d c

theorem depthAfterAll_cons (q : Option Char) (d : Nat) (c : Char) (r : List Char) :
    depthAfterAll rule q d (c :: r) =
      depthAfterAll rule (closerAfter rule q c) (depthBehind rule q d c) r := by
  rw [depthAfterAll, depthBehind]
  by_cases hc : isQuoted rule q c = true
  · rw [if_pos hc, if_pos hc]
  · rw [if_neg hc, if_neg hc, (eq_none_of_not_isQuoted (Bool.eq_false_iff.2 hc)).2]

/-- A text that leaves the scan outside quotes and parentheses. -/
structure EndsOutside (rule : QuoteRule) (s : List Char) : Prop where
  closer : closerAfterAll rule none s = none
  depth : depthAfterAll rule none 0 s = 0

/-- How many parentheses are open after a text; `none` if one is closed that is not open. -/
def depthThrough? (rule : QuoteRule) : Option Char → Nat → List Char → Option Nat
  | _, d, [] => some d
  | q, d, c :: r =>
    if isQuoted rule q c then depthThrough? rule (closerAfter rule q c) d r
    else if c = ')' ∧ d = 0 then none
    else depthThrough? rule none (depthAfter d c) r

/-- A text that ends outside quotes, closes each parenthesis it opens and no other. -/
structure Level (rule : QuoteRule) (s : List Char) : Prop where
  closer : closerAfterAll rule none s = none
  depth : depthThrough? rule none 0 s = some 0

instance (rule : QuoteRule) : DecidablePred (Level rule) := fun s =>
  decidable_of_iff (closerAfterAll rule none s = none ∧ depthThrough? rule none 0 s = some 0)
    ⟨fun h => ⟨h.1, h.2⟩, fun h => ⟨h.closer, h.depth⟩⟩

theorem depthThrough?_append (q : Option Char) (d : Nat) (s t : List Char) :
    depthThrough? rule q d (s ++ t) =
      (depthThrough? rule q d s).bind fun k =>
        depthThrough? rule (closerAfterAll rule q s) k t := by
  induction s generalizing q d with
  | nil => rfl
  | cons c s ih =>
    simp only [List.cons_append, depthThrough?, closerAfterAll_cons]
    split
    · exact ih ..
    · rename_i hc
      rw [(eq_none_of_not_isQuoted (by simpa using hc)).2]
      split
      · rfl
      · exact ih ..

theorem depthAfterAll_of_depthThrough? {q : Option Char} {d k : Nat} {s : List Char}
    (h : depthThrough? rule q d s = some k) : depthAfterAll rule q d s = k := by
  induction s generalizing q d with
  | nil => exact Option.some.inj h
  | cons c s ih =>
    unfold depthThrough? at h
    unfold depthAfterAll
    split at h
    · rw [if_pos (by assumption), ih h]
    · rw [if_neg (by assumption)]
      split at h
      · cases h
      · exact ih h

theorem depthThrough?_plain {s : List Char} (h : Plain rule s) (d : Nat) :
    depthThrough? rule none d s = some d := by
  induction s with
  | nil => rfl
  | cons c s ih =>
    obtain ⟨hrule, hopening, hclosing⟩ := h c List.mem_cons_self
    unfold depthThrough?
    rw [(unquoted_of_rule_eq_none hrule).1, if_neg (by decide), if_neg fun h => hclosing h.1,
      depthAfter_of_ne hopening hclosing, ih fun x hx => h x (List.mem_cons_of_mem c hx)]

theorem depthThrough?_blanks (hrule : rule.Proper) {s : List Char} (h : Blanks s) (d : Nat) :
    depthThrough? rule none d s = some d := depthThrough?_plain (h.plain hrule) d

namespace Level

theorem of_plain {s : List Char} (h : Plain rule s) : Level rule s :=
  ⟨closerAfterAll_plain h, depthThrough?_plain h 0⟩

theorem blanks (hrule : rule.Proper) {s : List Char} (h : Blanks s) : Level rule s :=
  of_plain (h.plain hrule)

theorem append {s t : List Char} (hs : Level rule s) (ht : Level rule t) :
    Level rule (s ++ t) := by
  refine ⟨by rw [closerAfterAll_append, hs.closer, ht.closer], ?_⟩
  rw [depthThrough?_append, hs.depth, Option.bind_some, hs.closer, ht.depth]

theorem of_append_left {s t : List Char} (hs : Level rule s) (h : Level rule (s ++ t)) :
    Level rule t := by
  obtain ⟨hcloser, hdepth⟩ := h
  rw [closerAfterAll_append, hs.closer] at hcloser
  rw [depthThrough?_append, hs.depth, Option.bind_some, hs.closer] at hdepth
  exact ⟨hcloser, hdepth⟩

theorem of_append_blanks (hrule : rule.Proper) {s post : List Char} (hpost : Blanks post)
    (h : Level rule (s ++ post)) : Level rule s := by
  have hcloser := (closerAfterAll_append_blanks hrule s hpost).symm.trans h.closer
  refine ⟨hcloser, ?_⟩
  have hdepth := h.depth
  rw [depthThrough?_append, hcloser] at hdepth
  cases hs : depthThrough? rule none 0 s with
  | none => rw [hs] at hdepth; cases hdepth
  | some k => rwa [hs, Option.bind_some, depthThrough?_blanks hrule hpost] at hdepth

/-- A scan of a level text stands outside quotes and parentheses only where the text so far is
level. -/
theorem of_append {s t : List Char} (h : Level rule (s ++ t)) (hs : EndsOutside rule s) :
    Level rule s := by
  refine ⟨hs.closer, ?_⟩
  have hsplit := h.depth
  rw [depthThrough?_append] at hsplit
  obtain ⟨k, hk, -⟩ := Option.bind_eq_some_iff.1 hsplit
  rw [hk, ← depthAfterAll_of_depthThrough? hk, hs.depth]

theorem endsOutside {s : List Char} (h : Level rule s) : EndsOutside rule s :=
  ⟨h.closer, depthAfterAll_of_depthThrough? h.depth⟩

/-- A level text is level without the blanks at its ends. -/
theorem trim (hrule : rule.Proper) {s : List Char} (h : Level rule s) :
    Level rule (Text.trim s) := by
  obtain ⟨pre, post, hpre, hpost, hs⟩ := exists_trim s
  rw [hs] at h
  exact (of_append_left (blanks hrule hpre) h).of_append_blanks hrule hpost

end Level

/-! ## Parentheses -/

theorem toOpening_append (q : Option Char) {s : List Char} (h : toOpening rule q s = none)
    (t : List Char) :
    toOpening rule q (s ++ t) =
      (toOpening rule (closerAfterAll rule q s) t).map fun (a, b) => (s ++ a, b) := by
  induction s generalizing q with
  | nil => cases ht : toOpening rule q t <;> simp [ht]
  | cons c s ih =>
    unfold toOpening at h
    split at h
    · cases h
    · rename_i hc
      have hs : toOpening rule (closerAfter rule q c) s = none := Option.map_eq_none_iff.1 h
      rw [List.cons_append, toOpening, if_neg hc, ih _ hs, Option.map_map, closerAfterAll_cons]
      rfl

theorem toOpening_eq_none_of_append {q : Option Char} {s t : List Char}
    (h : toOpening rule q (s ++ t) = none) : toOpening rule q s = none := by
  induction s generalizing q with
  | nil => rfl
  | cons c s ih =>
    rw [List.cons_append, toOpening] at h
    split at h
    · cases h
    · rename_i hc
      rw [toOpening, if_neg hc, ih (Option.map_eq_none_iff.1 h)]
      rfl

theorem toOpening_blanks (hrule : rule.Proper) {s : List Char} (h : Blanks s) :
    toOpening rule none s = none := by
  induction s with
  | nil => rfl
  | cons c s ih =>
    obtain ⟨hc, hs⟩ := h.of_cons
    have hne : c ≠ '(' := by rintro rfl; cases hc
    rw [toOpening, if_neg fun h => hne h.2, (unquoted_of_rule_eq_none (hrule.blank c hc)).2, ih hs]
    rfl

/-- A scan finds the first unquoted opening parenthesis. -/
theorem toOpening_eq_some_iff (hrule : rule.Proper) {q : Option Char} {s a b : List Char} :
    toOpening rule q s = some (a, b) ↔
      s = a ++ '(' :: b ∧ closerAfterAll rule q a = none ∧ toOpening rule q a = none := by
  constructor
  · intro h
    refine ⟨eq_append_of_toOpening h, ?_⟩
    fun_induction toOpening rule q s generalizing a with
    | case1 => cases h
    | case2 q c r hc =>
      obtain ⟨rfl, rfl⟩ := Prod.mk.inj (Option.some.inj h)
      exact ⟨(eq_none_of_not_isQuoted hc.1).1, rfl⟩
    | case3 q c r hc ih =>
      obtain ⟨⟨x, y⟩, hx, hy⟩ := Option.map_eq_some_iff.1 h
      obtain ⟨rfl, rfl⟩ := Prod.mk.inj hy
      obtain ⟨hcloser, hnone⟩ := ih hx
      refine ⟨by rw [closerAfterAll_cons, hcloser], ?_⟩
      rw [toOpening, if_neg hc, hnone]
      rfl
  · rintro ⟨rfl, hcloser, hnone⟩
    rw [toOpening_append q hnone, hcloser, toOpening,
      if_pos ⟨(unquoted_of_rule_eq_none hrule.opening).1, rfl⟩]
    simp

/-- A scan finds the unquoted parenthesis that closes the one just opened. -/
theorem toClosing_eq_some_iff (hrule : rule.Proper) {q : Option Char} {d : Nat}
    {s a b : List Char} :
    toClosing rule q d s = some (a, b) ↔
      s = a ++ ')' :: b ∧ closerAfterAll rule q a = none ∧
        depthThrough? rule q d a = some 0 := by
  constructor
  · intro h
    refine ⟨eq_append_of_toClosing h, ?_⟩
    fun_induction toClosing rule q d s generalizing a with
    | case1 => cases h
    | case2 q d c r hc ih =>
      obtain ⟨⟨x, y⟩, hx, hy⟩ := Option.map_eq_some_iff.1 h
      obtain ⟨rfl, rfl⟩ := Prod.mk.inj hy
      obtain ⟨hcloser, hdepth⟩ := ih hx
      exact ⟨hcloser, by rw [depthThrough?, if_pos hc, hdepth]⟩
    | case3 q d c r hc hzero =>
      obtain ⟨rfl, rfl⟩ := Prod.mk.inj (Option.some.inj h)
      exact ⟨(eq_none_of_not_isQuoted (by simpa using hc)).1, by rw [depthThrough?, hzero.2]⟩
    | case4 q d c r hc hne ih =>
      obtain ⟨⟨x, y⟩, hx, hy⟩ := Option.map_eq_some_iff.1 h
      obtain ⟨rfl, rfl⟩ := Prod.mk.inj hy
      obtain ⟨hcloser, hdepth⟩ := ih hx
      refine ⟨?_, by rw [depthThrough?, if_neg hc, if_neg hne, hdepth]⟩
      rw [closerAfterAll_cons, (eq_none_of_not_isQuoted (by simpa using hc)).2, hcloser]
  · rintro ⟨rfl, hcloser, hdepth⟩
    induction a generalizing q d with
    | nil =>
      obtain rfl : d = 0 := Option.some.inj hdepth
      obtain rfl : q = none := hcloser
      rw [List.nil_append, toClosing, (unquoted_of_rule_eq_none hrule.closing).1,
        if_neg (by decide), if_pos ⟨rfl, rfl⟩]
    | cons c a ih =>
      unfold depthThrough? at hdepth
      rw [closerAfterAll_cons] at hcloser
      rw [List.cons_append, toClosing]
      split at hdepth
      · rw [if_pos (by assumption), ih hcloser hdepth]
        rfl
      · rename_i hc
        rw [(eq_none_of_not_isQuoted (by simpa using hc)).2] at hcloser
        split at hdepth
        · cases hdepth
        · rw [if_neg hc, if_neg (by assumption), ih hcloser hdepth]
          rfl

/-- The outer parentheses are the first unquoted one that opens and the one that closes it. -/
theorem outerParens_eq_some_iff (hrule : rule.Proper) {s : List Char} {e : Enclosed} :
    outerParens rule s = some e ↔
      s = e.before ++ '(' :: (e.inside ++ ')' :: e.after) ∧
        closerAfterAll rule none e.before = none ∧ toOpening rule none e.before = none ∧
          Level rule e.inside := by
  constructor
  · intro h
    refine ⟨text_of_outerParens h, ?_⟩
    simp only [outerParens, Option.bind_eq_bind, Option.bind_eq_some_iff, Prod.exists] at h
    obtain ⟨before, rest, h₁, inside, after, h₂, h₃⟩ := h
    obtain rfl : (⟨before, inside, after⟩ : Enclosed) = e := by simpa using h₃
    obtain ⟨-, hcloser, hnone⟩ := (toOpening_eq_some_iff hrule).1 h₁
    obtain ⟨-, hinside, hdepth⟩ := (toClosing_eq_some_iff hrule).1 h₂
    exact ⟨hcloser, hnone, hinside, hdepth⟩
  · rintro ⟨hs, hcloser, hnone, hlevel⟩
    have h₁ := (toOpening_eq_some_iff hrule).2 ⟨hs, hcloser, hnone⟩
    have h₂ : toClosing rule none 0 (e.inside ++ ')' :: e.after) = some (e.inside, e.after) :=
      (toClosing_eq_some_iff hrule).2 ⟨rfl, hlevel.closer, hlevel.depth⟩
    simp [outerParens, h₁, h₂]

/-! ## Pieces -/

/-- Pieces of a text and then those of the text after it: the cut between the texts is none. -/
def glue : List (List Char) → List (List Char) → List (List Char)
  | [], ws => ws
  | [p], [] => [p]
  | [p], w :: ws => (p ++ w) :: ws
  | p :: q :: ps, ws => p :: glue (q :: ps) ws

theorem nil_glue {ws : List (List Char)} (h : ws ≠ []) : glue [[]] ws = ws := by
  cases ws with
  | nil => exact absurd rfl h
  | cons w ws => rfl

theorem consHead_glue (c : Char) {ps : List (List Char)} (h : ps ≠ []) (ws : List (List Char)) :
    consHead c (glue ps ws) = glue (consHead c ps) ws := by
  match ps, h with
  | [p], _ => cases ws <;> rfl
  | p :: q :: ps, _ => rfl

theorem cons_glue (p : List Char) {ps : List (List Char)} (h : ps ≠ []) (ws : List (List Char)) :
    p :: glue ps ws = glue (p :: ps) ws := by
  obtain ⟨q, ps, rfl⟩ := List.exists_cons_of_ne_nil h
  rfl

theorem length_glue : ∀ {ps ws : List (List Char)}, ps ≠ [] → ws ≠ [] →
    (glue ps ws).length + 1 = ps.length + ws.length
  | [], _, h, _ => absurd rfl h
  | [_], [], _, h => absurd rfl h
  | [p], w :: ws, _, _ => by simp [glue]; omega
  | p :: q :: ps, ws, _, h => by
    have := length_glue (List.cons_ne_nil q ps) h
    rw [glue, List.length_cons, List.length_cons]
    omega

/-- A scan for commas goes on as the depth and the quotes of the text so far say. -/
theorem splitFrom_append (q : Option Char) (d : Nat) (s t : List Char) :
    splitFrom rule q d (s ++ t) =
      glue (splitFrom rule q d s)
        (splitFrom rule (closerAfterAll rule q s) (depthAfterAll rule q d s) t) := by
  induction s generalizing q d with
  | nil => exact (nil_glue (splitFrom_ne_nil _ _ _ _)).symm
  | cons c s ih =>
    simp only [List.cons_append, splitFrom, depthAfterAll, closerAfterAll_cons]
    split
    · rw [ih, consHead_glue c (splitFrom_ne_nil _ _ _ _)]
    · rename_i hc
      rw [(eq_none_of_not_isQuoted (by simpa using hc)).2]
      split
      · rename_i hcomma
        have hzero : depthAfter d c = 0 := by rw [hcomma.1, hcomma.2]; rfl
        rw [ih, cons_glue _ (splitFrom_ne_nil _ _ _ _), hzero]
      · rw [ih, consHead_glue c (splitFrom_ne_nil _ _ _ _)]

theorem splitFrom_cons (q : Option Char) (d : Nat) (c : Char) (r : List Char) :
    splitFrom rule q d (c :: r) =
      if isQuoted rule q c = false ∧ c = ',' ∧ d = 0 then [] :: splitTopLevel rule r
      else consHead c (splitFrom rule (closerAfter rule q c) (depthBehind rule q d c) r) := by
  rw [splitFrom, depthBehind]
  by_cases hc : isQuoted rule q c = true
  · rw [if_pos hc, if_pos hc, if_neg fun h => Bool.false_ne_true (h.1.symm.trans hc)]
  · have hunquoted := Bool.eq_false_iff.2 hc
    rw [if_neg hc, if_neg hc, (eq_none_of_not_isQuoted hunquoted).2]
    by_cases hcomma : c = ',' ∧ d = 0
    · rw [if_pos hcomma, if_pos ⟨hunquoted, hcomma⟩]
      rfl
    · rw [if_neg hcomma, if_neg fun h => hcomma h.2]

/-- A text is cut at a comma before which the scan is outside quotes and parentheses. -/
theorem splitTopLevel_append_comma (hrule : rule.Proper) {p : List Char}
    (hp : EndsOutside rule p) (hone : splitTopLevel rule p = [p]) (r : List Char) :
    splitTopLevel rule (p ++ ',' :: r) = p :: splitTopLevel rule r := by
  unfold splitTopLevel at hone ⊢
  rw [splitFrom_append, hone, hp.closer, hp.depth, splitFrom,
    (unquoted_of_rule_eq_none hrule.comma).1, if_neg (by decide), if_pos ⟨rfl, rfl⟩, glue,
    List.append_nil]

/-- Level texts without a comma to cut at are the pieces of their join. -/
theorem splitTopLevel_commaJoin (hrule : rule.Proper) : ∀ {ps : List (List Char)}, ps ≠ [] →
    (∀ p ∈ ps, Level rule p ∧ splitTopLevel rule p = [p]) →
      splitTopLevel rule (commaJoin ps) = ps
  | [], hne, _ => absurd rfl hne
  | [p], _, h => (h p (by simp)).2
  | p :: q :: ps, _, h => by
    obtain ⟨hp, hone⟩ := h p (by simp)
    rw [commaJoin, splitTopLevel_append_comma hrule hp.endsOutside hone,
      splitTopLevel_commaJoin hrule (by simp) fun x hx => h x (List.mem_cons_of_mem _ hx)]
    simp

theorem level_comma (hrule : rule.Proper) : Level rule [','] := by
  obtain ⟨hunquoted, hcloser⟩ := unquoted_of_rule_eq_none hrule.comma
  refine ⟨hcloser, ?_⟩
  simp [depthThrough?, hunquoted, depthAfter]

theorem level_commaJoin (hrule : rule.Proper) : ∀ {ps : List (List Char)},
    (∀ p ∈ ps, Level rule p) → Level rule (commaJoin ps)
  | [], _ => ⟨rfl, rfl⟩
  | [p], h => h p (by simp)
  | p :: q :: ps, h => by
    have hrest := level_commaJoin hrule fun x hx => h x (List.mem_cons_of_mem p hx)
    exact (h p (by simp)).append ((level_comma hrule).append hrest)

/-- A text without a comma to cut at is its only piece. -/
theorem splitFrom_eq_singleton_iff {q : Option Char} {d : Nat} {s : List Char} :
    splitFrom rule q d s = [s] ↔ (splitFrom rule q d s).length = 1 := by
  constructor
  · intro h
    rw [h]
    rfl
  · intro h
    obtain ⟨p, hp⟩ := List.length_eq_one_iff.1 h
    have hjoin := commaJoin_splitFrom rule q d s
    rw [hp] at hjoin ⊢
    rw [← hjoin]
    rfl

theorem splitFrom_append_eq_singleton_iff {q : Option Char} {d : Nat} {s t : List Char} :
    splitFrom rule q d (s ++ t) = [s ++ t] ↔
      splitFrom rule q d s = [s] ∧
        splitFrom rule (closerAfterAll rule q s) (depthAfterAll rule q d s) t = [t] := by
  have hs := splitFrom_ne_nil rule q d s
  have ht := splitFrom_ne_nil rule (closerAfterAll rule q s) (depthAfterAll rule q d s) t
  have hlength := length_glue hs ht
  have hs := List.length_pos_iff.2 hs
  have ht := List.length_pos_iff.2 ht
  rw [splitFrom_eq_singleton_iff, splitFrom_append, splitFrom_eq_singleton_iff,
    splitFrom_eq_singleton_iff]
  omega

/-- A text is one piece where no comma of it stands outside quotes and parentheses. -/
theorem splitFrom_eq_singleton {q : Option Char} {d : Nat} {s : List Char}
    (h : ∀ x y, s = x ++ ',' :: y →
      ¬(closerAfterAll rule q x = none ∧ depthAfterAll rule q d x = 0)) :
    splitFrom rule q d s = [s] := by
  induction s generalizing q d with
  | nil => rfl
  | cons c s ih =>
    rw [splitFrom]
    by_cases hc : isQuoted rule q c = true
    · rw [if_pos hc, ih fun x y hs => ?_]
      · rfl
      · have hstop := h (c :: x) y (by rw [hs, List.cons_append])
        rwa [closerAfterAll_cons, depthAfterAll, if_pos hc] at hstop
    · obtain ⟨rfl, hnone⟩ := eq_none_of_not_isQuoted (Bool.eq_false_iff.2 hc)
      have hcomma : ¬(c = ',' ∧ d = 0) := by
        rintro ⟨rfl, hd⟩
        exact h [] s rfl ⟨rfl, hd⟩
      rw [if_neg hc, if_neg hcomma, ih fun x y hs => ?_]
      · rfl
      · have hstop := h (c :: x) y (by rw [hs, List.cons_append])
        rwa [closerAfterAll_cons, depthAfterAll, if_neg hc, hnone] at hstop

/-- A text without a comma is one piece. -/
theorem splitFrom_of_not_mem {s : List Char} (h : ',' ∉ s) (q : Option Char) (d : Nat) :
    splitFrom rule q d s = [s] :=
  splitFrom_eq_singleton fun x y hs _ => h (by simp [hs])

theorem Blanks.comma_not_mem {s : List Char} (h : Blanks s) : ',' ∉ s := by
  intro hmem
  cases h ',' hmem

/-- A level text is one piece where no text before a comma of it is level. -/
theorem splitTopLevel_eq_singleton {s : List Char} (hs : Level rule s)
    (h : ∀ x y, s = x ++ ',' :: y → ¬Level rule x) : splitTopLevel rule s = [s] :=
  splitFrom_eq_singleton fun x y hxy hx => h x y hxy ((hxy ▸ hs).of_append ⟨hx.1, hx.2⟩)

/-- A piece stays one piece without the blanks at its ends. -/
theorem splitTopLevel_trim (hrule : rule.Proper) {p : List Char}
    (h : splitTopLevel rule p = [p]) : splitTopLevel rule (trim p) = [trim p] := by
  obtain ⟨pre, post, hpre, -, hp⟩ := exists_trim p
  unfold splitTopLevel at h ⊢
  rw [hp, splitFrom_append_eq_singleton_iff, closerAfterAll_blanks hrule hpre,
    depthAfterAll_of_depthThrough? (depthThrough?_blanks hrule hpre 0),
    splitFrom_append_eq_singleton_iff] at h
  exact h.2.1

/-- Two pieces are one if the first is level. -/
theorem splitTopLevel_append {s t : List Char} (hs : Level rule s)
    (hone : splitTopLevel rule s = [s]) (hnext : splitTopLevel rule t = [t]) :
    splitTopLevel rule (s ++ t) = [s ++ t] := by
  refine splitFrom_append_eq_singleton_iff.2 ⟨hone, ?_⟩
  rw [hs.closer, hs.endsOutside.depth]
  exact hnext

/-- A level piece stays one piece with blanks around it. -/
theorem splitTopLevel_surround (hrule : rule.Proper) {pre p post : List Char} (hpre : Blanks pre)
    (hpost : Blanks post) (hp : Level rule p) (h : splitTopLevel rule p = [p]) :
    splitTopLevel rule (pre ++ (p ++ post)) = [pre ++ (p ++ post)] := by
  have hfront := @splitFrom_of_not_mem rule pre hpre.comma_not_mem none 0
  have hback := @splitFrom_of_not_mem rule post hpost.comma_not_mem none 0
  exact splitTopLevel_append (.blanks hrule hpre) hfront (splitTopLevel_append hp h hback)

/-- A text is one piece, or it is cut behind its first piece and goes on anew. -/
theorem splitFrom_cases (rule : QuoteRule) (q : Option Char) (d : Nat) (s : List Char) :
    splitFrom rule q d s = [s] ∨ ∃ p r, s = p ++ ',' :: r ∧ splitFrom rule q d p = [p] ∧
      closerAfterAll rule q p = none ∧ depthAfterAll rule q d p = 0 ∧
        splitFrom rule q d s = p :: splitTopLevel rule r := by
  induction s generalizing q d with
  | nil => exact .inl rfl
  | cons c r ih =>
    by_cases hcut : isQuoted rule q c = false ∧ c = ',' ∧ d = 0
    · obtain ⟨hc, rfl, rfl⟩ := hcut
      refine .inr ⟨[], r, rfl, rfl, (eq_none_of_not_isQuoted hc).1, rfl, ?_⟩
      rw [splitFrom_cons, if_pos ⟨hc, rfl, rfl⟩]
    · have hpass : ∀ x, splitFrom rule q d (c :: x) =
          consHead c (splitFrom rule (closerAfter rule q c) (depthBehind rule q d c) x) := by
        intro x
        rw [splitFrom_cons, if_neg hcut]
      rcases ih (closerAfter rule q c) (depthBehind rule q d c) with
        hone | ⟨p, r, rfl, hone, hcloser, hdepth, hsplit⟩
      · exact .inl (by rw [hpass, hone]; rfl)
      · refine .inr ⟨c :: p, r, rfl, by rw [hpass, hone]; rfl, hcloser, ?_, ?_⟩
        · rw [depthAfterAll_cons, hdepth]
        · rw [hpass, hsplit]
          rfl

/-- An induction along the pieces of a text: what holds of a text that is one piece, and of a text
behind whose first piece the rest has it, holds of every text. -/
theorem induction_pieces {P : List Char → List (List Char) → Prop}
    (one : ∀ s, splitTopLevel rule s = [s] → P s [s])
    (more : ∀ p r, splitTopLevel rule p = [p] → EndsOutside rule p →
      P r (splitTopLevel rule r) → P (p ++ ',' :: r) (p :: splitTopLevel rule r))
    (s : List Char) : P s (splitTopLevel rule s) := by
  induction hn : s.length using Nat.strongRecOn generalizing s with
  | ind n ih =>
    rcases splitFrom_cases rule none 0 s with
      hone | ⟨p, r, rfl, hone, hcloser, hdepth, hsplit⟩
    · rw [splitTopLevel, hone]
      exact one s hone
    · rw [splitTopLevel, hsplit]
      refine more p r hone ⟨hcloser, hdepth⟩ (ih r.length ?_ r rfl)
      rw [← hn, List.length_append, List.length_cons]
      omega

/-- The pieces of a level text are level, and none of them is cut again. -/
theorem level_of_mem_splitTopLevel (hrule : rule.Proper) {s p : List Char} (h : Level rule s)
    (hp : p ∈ splitTopLevel rule s) : Level rule p ∧ splitTopLevel rule p = [p] := by
  refine induction_pieces (P := fun s ps =>
    Level rule s → ∀ p ∈ ps, Level rule p ∧ splitTopLevel rule p = [p]) ?_ ?_ s h p hp
  · intro s hone hs p hp
    rw [List.mem_singleton.1 hp]
    exact ⟨hs, hone⟩
  · intro p r hone houtside hpieces hs x hx
    have hlevel := hs.of_append houtside
    rcases List.mem_cons.1 hx with rfl | hx
    · exact ⟨hlevel, hone⟩
    · exact hpieces ((level_comma hrule).of_append_left (hlevel.of_append_left hs)) x hx

end PolySql.Text
