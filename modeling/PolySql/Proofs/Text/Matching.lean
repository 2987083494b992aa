import PolySql.Proofs.Text.Bytewise
import PolySql.Proofs.Text.Undivided

/-!
# Which parenthesis closes which, and where texts are cut

What the scans for parentheses and commas find, said of the marked characters of a text and without
a scan.

* `Balanced` — marked characters that close each parenthesis they open and no other, by counts.
* `Encloses` — the first unquoted opening parenthesis and the one that closes it, by their places.
* `IsCut`, `cuts` — the unquoted commas outside parentheses, and their number.
* `Pieces` — pieces that give a text when commas are put between them, each without a comma to cut
  at, and each but the last ending where a scan that starts with it is outside quotes and
  parentheses; `pieces_iff` says that there is one such list.

Principal result: `nesting_exact` — parentheses are matched, and texts are cut, exactly so.
-/

namespace PolySql.Text

open String (utf8Len)

variable {rule : QuoteRule}

/-! ## Marks -/

/-- Where an unquoted character stands, the text before it leaves the scan outside quotes. -/
theorem getElem?_marks_eq_some_iff {q : Option Char} {s : List Char} {k : Nat} {c : Char} :
    (marks rule q s)[k]? = some (c, false) ↔
      ∃ x y, s = x ++ c :: y ∧ k = x.length ∧ isQuoted rule (closerAfterAll rule q x) c = false := by
  induction s generalizing q k with
  | nil => simp [marks]
  | cons d r ih =>
    rw [marks]
    cases k with
    | zero =>
      rw [List.getElem?_cons_zero, Option.some_inj, Prod.mk.injEq]
      constructor
      · rintro ⟨rfl, h⟩
        exact ⟨[], r, rfl, rfl, h⟩
      · rintro ⟨x, y, hs, hk, h⟩
        obtain rfl := List.length_eq_zero_iff.1 hk.symm
        obtain ⟨rfl, rfl⟩ := List.cons.inj hs
        exact ⟨rfl, h⟩
    | succ k =>
      rw [List.getElem?_cons_succ, ih]
      constructor
      · rintro ⟨x, y, rfl, rfl, h⟩
        exact ⟨d :: x, y, rfl, rfl, h⟩
      · rintro ⟨x, y, hs, hk, h⟩
        cases x with
        | nil => cases hk
        | cons e x =>
          obtain ⟨rfl, rfl⟩ := List.cons.inj hs
          exact ⟨x, y, rfl, Nat.succ.inj hk, h⟩

theorem length_marks (rule : QuoteRule) (q : Option Char) (s : List Char) :
    (marks rule q s).length = s.length := by
  rw [← List.length_map (f := Prod.fst), map_fst_marks]

/-! ## Parentheses -/

/-- Marked characters that close each unquoted parenthesis they open, and no other: along the way
no more are closed than were opened, and in the end as many. -/
structure Balanced (m : List (Char × Bool)) : Prop where
  never_below : ∀ x, x <+: m → x.count (')', false) ≤ x.count ('(', false)
  settled : m.count (')', false) = m.count ('(', false)

/-- The first unquoted opening parenthesis is `o` characters into the text, and the one that closes
it `c` characters. -/
structure Encloses (m : List (Char × Bool)) (o c : Nat) : Prop where
  opening : m[o]? = some ('(', false)
  first : ('(', false) ∉ m.take o
  closing : m[c]? = some (')', false)
  lt : o < c
  balanced : Balanced ((m.take c).drop (o + 1))

theorem forall_prefix_cons {α : Type} {a : α} {l : List α} {P : List α → Prop} :
    (∀ x, x <+: a :: l → P x) ↔ P [] ∧ ∀ x, x <+: l → P (a :: x) := by
  constructor
  · intro h
    exact ⟨h [] List.nil_prefix, fun x hx => h (a :: x) ((List.prefix_cons_inj a).2 hx)⟩
  · rintro ⟨hnil, hcons⟩ x hx
    rcases List.prefix_cons_iff.1 hx with rfl | ⟨t, rfl, ht⟩
    · exact hnil
    · exact hcons t ht

/-- The depth behind a text is what is opened less what is closed, if it is never below zero. -/
theorem depthThrough?_eq_some_iff {q : Option Char} {d k : Nat} {s : List Char} :
    depthThrough? rule q d s = some k ↔
      (∀ x, x <+: marks rule q s → x.count (')', false) ≤ d + x.count ('(', false)) ∧
        k + (marks rule q s).count (')', false) = d + (marks rule q s).count ('(', false) := by
  induction s generalizing q d with
  | nil => simp [depthThrough?, marks, eq_comm]
  | cons c r ih =>
    rw [depthThrough?, marks, forall_prefix_cons]
    by_cases hc : isQuoted rule q c = true
    · rw [if_pos hc, ih, hc]
      simp
    · rw [Bool.not_eq_true] at hc
      obtain ⟨rfl, hnone⟩ := eq_none_of_not_isQuoted hc
      rw [hc, if_neg Bool.false_ne_true, hnone]
      by_cases hclosing : c = ')'
      · subst hclosing
        have hopens : ((')', false) == ('(', false)) = false := rfl
        simp only [List.count_cons_self, List.count_cons, hopens, List.count_nil]
        cases d with
        | zero =>
          rw [if_pos ⟨trivial, rfl⟩]
          refine iff_of_false (by simp) fun h => ?_
          exact absurd (h.1.2 [] List.nil_prefix) (by simp)
        | succ d =>
          rw [if_neg fun h => Nat.succ_ne_zero d h.2, ih, depthAfter, Nat.add_sub_cancel]
          have hone : ∀ n, d + 1 + n = d + n + 1 := by omega
          simp [hone, ← Nat.add_assoc]
      · rw [if_neg fun h => hclosing h.1, ih]
        have hcloses : ((c, false) == (')', false)) = false := by simpa using hclosing
        simp only [List.count_cons, hcloses, List.count_nil]
        by_cases hopening : c = '('
        · subst hopening
          have hone : ∀ n, d + 1 + n = d + (n + 1) := by omega
          simp [depthAfter, hone]
        · have hopens : ((c, false) == ('(', false)) = false := by simpa using hopening
          rw [depthAfter_of_ne hopening hclosing]
          simp [hopens]

theorem level_iff {s : List Char} :
    Level rule s ↔ closerAfterAll rule none s = none ∧ Balanced (marks rule none s) := by
  constructor
  · rintro ⟨hcloser, hdepth⟩
    obtain ⟨halong, hcount⟩ := depthThrough?_eq_some_iff.1 hdepth
    exact ⟨hcloser, ⟨by simpa using halong, by simpa using hcount⟩⟩
  · rintro ⟨hcloser, halong, hcount⟩
    exact ⟨hcloser, depthThrough?_eq_some_iff.2 ⟨by simpa using halong, by simpa using hcount⟩⟩

/-- A scan that starts anew behind an unquoted character marks the rest as the whole scan does. -/
theorem marks_append_cons {s t : List Char} {c : Char} (hs : closerAfterAll rule none s = none)
    (hc : rule c = none) :
    marks rule none (s ++ c :: t) =
      marks rule none s ++ (c, false) :: marks rule none t := by
  obtain ⟨hunquoted, hnone⟩ := unquoted_of_rule_eq_none hc
  rw [marks_append, hs, marks, hunquoted, hnone]

/-- What stands between two places of a list. -/
theorem drop_take_between {α : Type} (a b c : List α) (x y : α) :
    ((a ++ x :: (b ++ y :: c)).take (a.length + 1 + b.length)).drop (a.length + 1) = b := by
  have h : a ++ x :: (b ++ y :: c) = a ++ [x] ++ b ++ y :: c := by simp
  rw [h, List.take_left' (by simp; omega), List.drop_left' (by simp)]

/-- Two unquoted characters take a text apart, and the scan is outside quotes before each of them. -/
theorem exists_parts {s : List Char} {o c : Nat} {x y : Char} (hrule : rule x = none)
    (hx : (marks rule none s)[o]? = some (x, false))
    (hy : (marks rule none s)[c]? = some (y, false)) (hlt : o < c) :
    ∃ before inside after, s = before ++ x :: (inside ++ y :: after) ∧ o = before.length ∧
      c = before.length + 1 + inside.length ∧ closerAfterAll rule none before = none ∧
        closerAfterAll rule none inside = none := by
  obtain ⟨before, rest, hs, rfl, hbefore⟩ := getElem?_marks_eq_some_iff.1 hx
  obtain ⟨z, after, hs', rfl, hz⟩ := getElem?_marks_eq_some_iff.1 hy
  have hbefore := (eq_none_of_not_isQuoted hbefore).1
  have hz := (eq_none_of_not_isQuoted hz).1
  have hfront : before ++ [x] <+: s := ⟨rest, by rw [hs]; simp⟩
  obtain ⟨inside, rfl⟩ : before ++ [x] <+: z :=
    List.prefix_of_prefix_length_le hfront ⟨_, hs'.symm⟩ (by simpa using Nat.succ_le_of_lt hlt)
  refine ⟨before, inside, after, by rw [hs']; simp, rfl, by simp; omega, hbefore, ?_⟩
  rwa [closerAfterAll_append, closerAfterAll_append, hbefore, closerAfterAll_cons,
    (unquoted_of_rule_eq_none hrule).2] at hz

/-- The marks of a text with parentheses are those of its parts. -/
theorem marks_enclosed (hrule : rule.Proper) {before inside : List Char}
    (hbefore : closerAfterAll rule none before = none)
    (hinside : closerAfterAll rule none inside = none) (after : List Char) :
    marks rule none (before ++ '(' :: (inside ++ ')' :: after)) =
      marks rule none before ++ ('(', false) ::
        (marks rule none inside ++ (')', false) :: marks rule none after) := by
  rw [marks_append_cons hbefore hrule.opening, marks_append_cons hinside hrule.closing]

/-- The places of two matching parentheses are those at which the text is taken apart. -/
theorem encloses_iff (hrule : rule.Proper) {s : List Char} {o c : Nat} :
    Encloses (marks rule none s) o c ↔
      ∃ before inside after, s = before ++ '(' :: (inside ++ ')' :: after) ∧
        o = before.length ∧ c = before.length + 1 + inside.length ∧
        closerAfterAll rule none before = none ∧ toOpening rule none before = none ∧
          Level rule inside := by
  constructor
  · rintro ⟨hopening, hfirst, hclosing, hlt, hbalanced⟩
    obtain ⟨before, inside, after, rfl, rfl, rfl, hbefore, hinside⟩ :=
      exists_parts hrule.opening hopening hclosing hlt
    rw [marks_enclosed hrule hbefore hinside, ← length_marks rule none before] at hfirst hbalanced
    rw [← length_marks rule none inside, drop_take_between] at hbalanced
    rw [List.take_left] at hfirst
    exact ⟨before, inside, after, rfl, rfl, rfl, hbefore, toOpening_eq_none_iff.2 hfirst,
      level_iff.2 ⟨hinside, hbalanced⟩⟩
  · rintro ⟨before, inside, after, rfl, rfl, rfl, hbefore, hfirst, hlevel⟩
    obtain ⟨hinside, hbalanced⟩ := level_iff.1 hlevel
    rw [marks_enclosed hrule hbefore hinside,
      ← length_marks rule none before, ← length_marks rule none inside]
    refine ⟨by simp, ?_, ?_, by omega, ?_⟩
    · rw [List.take_left]
      exact toOpening_eq_none_iff.1 hfirst
    · rw [Nat.add_assoc, List.getElem?_append_right (Nat.le_add_right _ _), Nat.add_sub_cancel_left,
        Nat.add_comm 1, List.getElem?_cons_succ, List.getElem?_append_right (Nat.le_refl _),
        Nat.sub_self, List.getElem?_cons_zero]
    · rwa [drop_take_between]

/-- A text is taken apart at its first unquoted opening parenthesis and at the one that closes it,
if there is one. -/
theorem outerParens_eq_some_iff_encloses (hrule : rule.Proper) {s : List Char} {e : Enclosed} :
    outerParens rule s = some e ↔ ∃ o c, Encloses (marks rule none s) o c ∧
      e = ⟨s.take o, (s.take c).drop (o + 1), s.drop (c + 1)⟩ := by
  have hparts : ∀ before inside after : List Char,
      let s := before ++ '(' :: (inside ++ ')' :: after)
      (⟨s.take before.length, (s.take (before.length + 1 + inside.length)).drop (before.length + 1),
        s.drop (before.length + 1 + inside.length + 1)⟩ : Enclosed) = ⟨before, inside, after⟩ := by
    intro before inside after s
    have hbehind : s = before ++ ['('] ++ inside ++ [')'] ++ after := by simp [s]
    congr 1
    · exact List.take_left
    · exact drop_take_between ..
    · rw [hbehind, List.drop_left' (by simp; omega)]
  rw [outerParens_eq_some_iff hrule]
  constructor
  · rintro ⟨hs, hbefore, hfirst, hlevel⟩
    refine ⟨_, _, (encloses_iff hrule).2 ⟨e.before, e.inside, e.after, hs, rfl, rfl, hbefore,
      hfirst, hlevel⟩, ?_⟩
    rw [hs, hparts]
  · rintro ⟨o, c, hencloses, rfl⟩
    obtain ⟨before, inside, after, rfl, rfl, rfl, hbefore, hfirst, hlevel⟩ :=
      (encloses_iff hrule).1 hencloses
    rw [hparts]
    exact ⟨rfl, hbefore, hfirst, hlevel⟩

/-- The byte offset of the closing parenthesis, from that of the opening one. -/
theorem utf8Len_take_closing (hrule : rule.Proper) {s : List Char} {o c : Nat}
    (h : Encloses (marks rule none s) o c) :
    utf8Len (s.take o) + 1 + utf8Len ((s.take c).drop (o + 1)) = utf8Len (s.take c) := by
  obtain ⟨before, inside, after, rfl, rfl, rfl, -⟩ := (encloses_iff hrule).1 h
  have htext : before ++ '(' :: (inside ++ ')' :: after) =
      before ++ ['('] ++ inside ++ ')' :: after := by simp
  have hfront : (before ++ '(' :: (inside ++ ')' :: after)).take
      (before.length + 1 + inside.length) = before ++ ['('] ++ inside := by
    rw [htext, List.take_left' (by simp; omega)]
  rw [drop_take_between, hfront, List.take_left, String.utf8Len_append, utf8Len_concat]
  rfl

/-! ## Commas -/

/-- An unquoted comma outside every parenthesis stands `k` characters into a text; `q` and `d` say
in which quotes and in how many parentheses the text begins. -/
def IsCut (rule : QuoteRule) (q : Option Char) (d : Nat) (s : List Char) (k : Nat) : Prop :=
  (marks rule q s)[k]? = some (',', false) ∧ depthAfterAll rule q d (s.take k) = 0

instance (rule : QuoteRule) (q : Option Char) (d : Nat) (s : List Char) :
    DecidablePred (IsCut rule q d s) := fun k =>
  inferInstanceAs (Decidable ((marks rule q s)[k]? = some (',', false) ∧
    depthAfterAll rule q d (s.take k) = 0))

/-- How many commas there are to cut at. -/
def cuts (rule : QuoteRule) (q : Option Char) (d : Nat) (s : List Char) : Nat :=
  (List.range s.length).countP fun k => IsCut rule q d s k

theorem isCut_zero_iff {q : Option Char} {d : Nat} {c : Char} {r : List Char} :
    IsCut rule q d (c :: r) 0 ↔ isQuoted rule q c = false ∧ c = ',' ∧ d = 0 := by
  rw [IsCut, marks, List.getElem?_cons_zero, Option.some_inj, Prod.mk.injEq, List.take_zero,
    depthAfterAll, and_assoc, and_left_comm]

theorem isCut_succ_iff {q : Option Char} {d : Nat} {c : Char} {r : List Char} {k : Nat} :
    IsCut rule q d (c :: r) (k + 1) ↔
      IsCut rule (closerAfter rule q c) (depthBehind rule q d c) r k := by
  rw [IsCut, IsCut, marks, List.getElem?_cons_succ, List.take_succ_cons, depthAfterAll_cons]

theorem cuts_cons (q : Option Char) (d : Nat) (c : Char) (r : List Char) :
    cuts rule q d (c :: r) =
      cuts rule (closerAfter rule q c) (depthBehind rule q d c) r +
        if isQuoted rule q c = false ∧ c = ',' ∧ d = 0 then 1 else 0 := by
  rw [cuts, cuts, List.length_cons, List.range_succ_eq_map, List.countP_cons, List.countP_map]
  congr 1
  · congr 1
    funext k
    simp only [Function.comp_apply, isCut_succ_iff, Nat.succ_eq_add_one]
  · simp only [decide_eq_true_eq, isCut_zero_iff]

/-- There is one piece more than there are commas to cut at. -/
theorem length_splitFrom (q : Option Char) (d : Nat) (s : List Char) :
    (splitFrom rule q d s).length = cuts rule q d s + 1 := by
  induction s generalizing q d with
  | nil => rfl
  | cons c r ih =>
    rw [splitFrom_cons, cuts_cons]
    split
    · rename_i hcut
      obtain ⟨hc, rfl, rfl⟩ := hcut
      rw [List.length_cons, splitTopLevel, ih, (eq_none_of_not_isQuoted hc).2, depthBehind, hc]
      rfl
    · rw [length_consHead (splitFrom_ne_nil _ _ _ _), ih]

theorem splitFrom_eq_singleton_iff_uncut {q : Option Char} {d : Nat} {s : List Char} :
    splitFrom rule q d s = [s] ↔ ∀ k, ¬IsCut rule q d s k := by
  rw [splitFrom_eq_singleton_iff, length_splitFrom, Nat.add_eq_right, cuts, List.countP_eq_zero]
  constructor
  · intro h k hk
    have hlt : k < s.length := by
      rw [← length_marks rule q s]
      exact (List.getElem?_eq_some_iff.1 hk.1).1
    exact h k (List.mem_range.2 hlt) (decide_eq_true hk)
  · intro h k _ hk
    exact h k (of_decide_eq_true hk)

/-- Pieces of a text with commas between them. No piece has a comma to cut at, and all but the last
end outside quotes and parentheses, so the commas between them are such commas. -/
structure Pieces (rule : QuoteRule) (s : List Char) (ps : List (List Char)) : Prop where
  ne_nil : ps ≠ []
  join : commaJoin ps = s
  uncut : ∀ p ∈ ps, ∀ k, ¬IsCut rule none 0 p k
  outside : ∀ p ∈ ps.dropLast, EndsOutside rule p

theorem pieces_splitTopLevel (s : List Char) : Pieces rule s (splitTopLevel rule s) := by
  refine induction_pieces (P := Pieces rule) (fun s hone => ?_) (fun p r hone hp hpieces => ?_) s
  · refine ⟨by simp, rfl, fun p hp => ?_, by simp⟩
    rw [List.mem_singleton.1 hp]
    exact splitFrom_eq_singleton_iff_uncut.1 hone
  · obtain ⟨hne, hjoin, huncut, houtside⟩ := hpieces
    refine ⟨by simp, ?_, fun x hx => ?_, fun x hx => ?_⟩
    · rw [commaJoin_cons p hne, hjoin]
    · rcases List.mem_cons.1 hx with rfl | hx
      · exact splitFrom_eq_singleton_iff_uncut.1 hone
      · exact huncut x hx
    · rw [List.dropLast_cons_of_ne_nil hne] at hx
      rcases List.mem_cons.1 hx with rfl | hx
      · exact hp
      · exact houtside x hx

theorem splitTopLevel_of_pieces (hrule : rule.Proper) : ∀ {ps : List (List Char)} {s : List Char},
    Pieces rule s ps → splitTopLevel rule s = ps
  | [], _, h => absurd rfl h.ne_nil
  | [p], s, h => by
    obtain rfl : p = s := h.join
    exact splitFrom_eq_singleton_iff_uncut.2 (h.uncut p (by simp))
  | p :: p' :: ps, s, h => by
    have hp : EndsOutside rule p := h.outside p (by simp)
    have hone : splitTopLevel rule p = [p] :=
      splitFrom_eq_singleton_iff_uncut.2 (h.uncut p (by simp))
    have hrest : Pieces rule (commaJoin (p' :: ps)) (p' :: ps) :=
      ⟨by simp, rfl, fun x hx => h.uncut x (List.mem_cons_of_mem p hx),
        fun x hx => h.outside x (by simp [hx])⟩
    rw [← h.join, commaJoin_cons p (by simp), splitTopLevel_append_comma hrule hp hone,
      splitTopLevel_of_pieces hrule hrest]

/-- There is one such list of pieces. -/
theorem pieces_iff (hrule : rule.Proper) {s : List Char} {ps : List (List Char)} :
    splitTopLevel rule s = ps ↔ Pieces rule s ps := by
  constructor
  · rintro rfl
    exact pieces_splitTopLevel s
  · exact splitTopLevel_of_pieces hrule

/-- The pieces of a text, and their number. -/
structure SplitsExactly (rule : QuoteRule) (s : List Char) : Prop where
  pieces : ∀ ps, splitTopLevel rule s = ps ↔ Pieces rule s ps
  length : (splitTopLevel rule s).length = cuts rule none 0 s + 1

theorem splitsExactly (hrule : rule.Proper) (s : List Char) : SplitsExactly rule s where
  pieces _ := pieces_iff hrule
  length := length_splitFrom none 0 s

/-- The outer parentheses of a text are its first unquoted opening parenthesis and the one that
closes it, in characters and in byte offsets, and its pieces are those between the unquoted commas
outside parentheses. -/
theorem nesting_exact (s : List Char) :
    (∀ e, outerParens literalQuotes s = some e ↔
      ∃ o c, Encloses (marks literalQuotes none s) o c ∧
        e = ⟨s.take o, (s.take c).drop (o + 1), s.drop (c + 1)⟩) ∧
    (∀ i j, Bytewise.outerParens? s = some (some (i, j)) ↔
      ∃ o c, Encloses (marks literalQuotes none s) o c ∧
        i = utf8Len (s.take o) ∧ j = utf8Len (s.take c)) ∧
    SplitsExactly literalQuotes s ∧ SplitsExactly nameQuotes s := by
  refine ⟨fun e => outerParens_eq_some_iff_encloses literalQuotes_proper, fun i j => ?_,
    splitsExactly literalQuotes_proper s, splitsExactly nameQuotes_proper s⟩
  rw [Bytewise.outerParens?_eq, Option.some_inj, Option.map_eq_some_iff]
  constructor
  · rintro ⟨e, he, hij⟩
    obtain ⟨rfl, rfl⟩ := Prod.mk.inj hij
    obtain ⟨o, c, hencloses, rfl⟩ := (outerParens_eq_some_iff_encloses literalQuotes_proper).1 he
    exact ⟨o, c, hencloses, rfl, utf8Len_take_closing literalQuotes_proper hencloses⟩
  · rintro ⟨o, c, hencloses, rfl, rfl⟩
    refine ⟨_, (outerParens_eq_some_iff_encloses literalQuotes_proper).2
      ⟨o, c, hencloses, rfl⟩, ?_⟩
    exact Prod.ext rfl (utf8Len_take_closing literalQuotes_proper hencloses)

end PolySql.Text
