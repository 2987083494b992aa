import PolySql.Proofs.Text.Nesting

/-!
# Texts that are quoted as a whole

* `Covered` — every character of a text is quoted, and the text closes what it opens; neither
  parentheses nor commas count in it (`Covered.level`, `Covered.one_piece`).
* `BlanksQuoted` — a text whose blanks are quoted; where a scan of it stands outside of every span,
  no blank is behind (`BlanksQuoted.last`).
* `doubled` — a text with one of its characters doubled, as it stands between quotes.
* `covered_doubled`, `covered_bracketed` — quoted names are covered.
-/

namespace PolySql.Text

variable {rule : QuoteRule}

/-- Every character of a text is quoted, and the text closes what it opens. -/
structure Covered (rule : QuoteRule) (q : Option Char) (s : List Char) : Prop where
  quoted : ∀ m ∈ marks rule q s, m.2 = true
  closer : closerAfterAll rule q s = none

namespace Covered

variable {q : Option Char} {c : Char} {s : List Char}

theorem nil : Covered rule none [] := ⟨fun _ h => absurd h List.not_mem_nil, rfl⟩

theorem cons (hc : isQuoted rule q c = true) (h : Covered rule (closerAfter rule q c) s) :
    Covered rule q (c :: s) := by
  refine ⟨fun m hm => ?_, h.closer⟩
  rcases List.mem_cons.1 hm with rfl | hm
  · exact hc
  · exact h.quoted m hm

theorem of_cons (h : Covered rule q (c :: s)) :
    isQuoted rule q c = true ∧ Covered rule (closerAfter rule q c) s :=
  ⟨h.quoted _ List.mem_cons_self, fun m hm => h.quoted m (List.mem_cons_of_mem _ hm), h.closer⟩

/-- Where a scan of a covered text stands outside of every span, the next one is opened. -/
theorem opens {x y : List Char} (h : Covered rule q (x ++ c :: y))
    (hx : closerAfterAll rule q x = none) : (rule c).isSome = true := by
  have hc := h.quoted (c, isQuoted rule none c) (by rw [marks_append, hx]; simp [marks])
  rwa [isQuoted_none] at hc

theorem depthThrough?_eq (h : Covered rule q s) (d : Nat) : depthThrough? rule q d s = some d := by
  induction s generalizing q with
  | nil => rfl
  | cons c s ih =>
    obtain ⟨hc, hs⟩ := h.of_cons
    rw [depthThrough?, if_pos hc, ih hs]

theorem level (h : Covered rule none s) : Level rule s := ⟨h.closer, h.depthThrough?_eq 0⟩

/-- No comma of a covered text cuts it. -/
theorem one_piece (hrule : rule.Proper) (h : Covered rule none s) : splitTopLevel rule s = [s] := by
  refine splitTopLevel_eq_singleton h.level fun x y hs hx => ?_
  subst hs
  have hopens := h.opens hx.closer
  rw [hrule.comma] at hopens
  cases hopens

end Covered

/-! ## Quoted blanks -/

/-- Every blank of a text is quoted. -/
def BlanksQuoted (rule : QuoteRule) (q : Option Char) (s : List Char) : Prop :=
  ∀ m ∈ marks rule q s, isBlank m.1 = true → m.2 = true

namespace BlanksQuoted

variable {q : Option Char} {s t : List Char}

theorem of_visible (h : ∀ c ∈ s, isBlank c = false) : BlanksQuoted rule q s := by
  intro m hm hblank
  have hmem : m.1 ∈ s := by
    rw [← map_fst_marks rule q s]
    exact List.mem_map_of_mem hm
  rw [h m.1 hmem] at hblank
  cases hblank

theorem of_covered (h : Covered rule q s) : BlanksQuoted rule q s := fun m hm _ => h.quoted m hm

theorem of_cons {c : Char} (h : BlanksQuoted rule q (c :: s)) :
    ¬(isQuoted rule q c = false ∧ isBlank c = true) ∧
      BlanksQuoted rule (closerAfter rule q c) s := by
  refine ⟨?_, fun m hm => h m (List.mem_cons_of_mem _ hm)⟩
  rintro ⟨hquoted, hblank⟩
  exact Bool.noConfusion (hquoted.symm.trans (h _ List.mem_cons_self hblank))

theorem append (hs : BlanksQuoted rule q s) (ht : BlanksQuoted rule (closerAfterAll rule q s) t) :
    BlanksQuoted rule q (s ++ t) := by
  intro m hm
  rw [marks_append] at hm
  rcases List.mem_append.1 hm with hm | hm
  · exact hs m hm
  · exact ht m hm

/-- Where a scan of a text whose blanks are quoted stands outside, it has not just read a blank. -/
theorem last (hrule : rule.Proper) {x y : List Char} {c : Char}
    (h : BlanksQuoted rule none (x ++ c :: y)) (hx : closerAfterAll rule none (x ++ [c]) = none) :
    isBlank c = false := by
  rw [Bool.eq_false_iff]
  intro hblank
  have hquoted := h (c, isQuoted rule (closerAfterAll rule none x) c)
    (by rw [marks_append]; simp [marks]) hblank
  rw [closerAfterAll_append, closerAfterAll_cons, closerAfterAll_nil] at hx
  cases hopen : closerAfterAll rule none x with
  | none =>
    rw [hopen, isQuoted_none, hrule.blank c hblank] at hquoted
    cases hquoted
  | some e =>
    -- The span is closed by the blank itself, but no blank closes a span.
    have he := closer_not_blank hrule (fun _ h => by cases h) hopen
    rw [hopen, closerAfter] at hx
    split at hx
    · rename_i hc
      rw [← hc, hblank] at he
      cases he
    · cases hx

end BlanksQuoted

/-! ## Quoted names -/

/-- A text with one of its characters doubled. -/
def doubled (q : Char) (content : List Char) : List Char :=
  content.flatMap fun c => if c = q then [q, q] else [c]

theorem doubled_cons (q c : Char) (s : List Char) :
    doubled q (c :: s) = (if c = q then [q, q] else [c]) ++ doubled q s := List.flatMap_cons

theorem doubled_of_not_mem {q : Char} {content : List Char} (h : q ∉ content) :
    doubled q content = content := by
  induction content with
  | nil => rfl
  | cons c s ih =>
    rw [doubled_cons, if_neg (List.ne_of_not_mem_cons h).symm,
      ih (List.not_mem_of_not_mem_cons h)]
    rfl

/-- The rest of a name is quoted up to the quote that closes it. -/
theorem covered_doubled {q : Char} (hq : rule q = some q) (content : List Char) :
    Covered rule (some q) (doubled q content ++ [q]) := by
  have hclose : Covered rule (some q) [q] := by
    refine .cons rfl ?_
    rw [closerAfter, if_pos rfl]
    exact .nil
  induction content with
  | nil => exact hclose
  | cons c s ih =>
    rw [doubled_cons, List.append_assoc]
    by_cases hc : c = q
    · -- The first of the two closes the name, the second opens it again.
      rw [if_pos hc]
      refine .cons rfl ?_
      rw [closerAfter, if_pos rfl]
      refine .cons (by rw [isQuoted_none, hq]; rfl) ?_
      rw [closerAfter, hq]
      exact ih
    · rw [if_neg hc]
      refine .cons rfl ?_
      rw [closerAfter, if_neg hc]
      exact ih

/-- The rest of a name that does not hold its closing character is quoted up to there. -/
theorem covered_bracketed {e : Char} {content : List Char} (h : e ∉ content) :
    Covered rule (some e) (content ++ [e]) := by
  induction content with
  | nil =>
    refine .cons rfl ?_
    rw [closerAfter, if_pos rfl]
    exact .nil
  | cons c s ih =>
    refine .cons rfl ?_
    rw [closerAfter, if_neg (List.ne_of_not_mem_cons h).symm]
    exact ih (List.not_mem_of_not_mem_cons h)

end PolySql.Text
