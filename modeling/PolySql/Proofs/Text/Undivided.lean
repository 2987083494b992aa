import PolySql.Proofs.Text.Replace
import PolySql.Proofs.Text.Spans

/-!
# Texts that are one piece

* `Undivided` — a text that closes what it opens and that no comma cuts; `undivided_iff` says where
  commas may stand in it. Put behind one another, in parentheses or in quotes such texts stay one
  piece (`Undivided.append`, `Undivided.parens`, `Undivided.of_covered`).
* `steers`, `skeleton` — the characters by which scans for quotes, parentheses and commas go, and a
  text without the others. Texts with the same skeleton are alike for these scans
  (`Undivided.of_skeleton_eq`, `toOpening_of_skeleton_eq`).
* `skeleton_replaceFrom` — a substitution may leave the skeleton as it is.
-/

namespace PolySql.Text

variable {rule : QuoteRule}

/-! ## Parentheses around a text -/

/-- Within one more parenthesis, a text is as deep as before and one more. -/
theorem depthThrough?_succ {q : Option Char} {d k : Nat} {s : List Char}
    (h : depthThrough? rule q d s = some k) : depthThrough? rule q (d + 1) s = some (k + 1) := by
  induction s generalizing q d with
  | nil =>
    obtain rfl : d = k := Option.some.inj h
    rfl
  | cons c s ih =>
    unfold depthThrough? at h ⊢
    split at h
    · rw [if_pos (by assumption)]
      exact ih h
    · rename_i hc
      split at h
      · cases h
      · rename_i hclosing
        have hdepth : depthAfter (d + 1) c = depthAfter d c + 1 := by
          unfold depthAfter
          split
          · rfl
          · have : d ≠ 0 := fun hd => hclosing ⟨rfl, hd⟩
            omega
          · rfl
        rw [if_neg hc, if_neg (by simp), hdepth]
        exact ih h

theorem Level.parens (hrule : rule.Proper) {s : List Char} (h : Level rule s) :
    Level rule ('(' :: (s ++ [')'])) := by
  obtain ⟨hopens, hopen⟩ := unquoted_of_rule_eq_none hrule.opening
  obtain ⟨hcloses, hclose⟩ := unquoted_of_rule_eq_none hrule.closing
  have hinside := depthThrough?_succ h.depth
  constructor
  · rw [closerAfterAll_cons, hopen, closerAfterAll_append, h.closer, closerAfterAll_cons, hclose]
    rfl
  · rw [depthThrough?, if_neg (by simp [hopens]), if_neg (by decide)]
    show depthThrough? rule none (0 + 1) (s ++ [')']) = some 0
    rw [depthThrough?_append, hinside, Option.bind_some, h.closer, depthThrough?,
      if_neg (by simp [hcloses]), if_neg (by simp)]
    rfl

/-- No parenthesis is found in a text exactly if none of it is unquoted. -/
theorem toOpening_eq_none_iff {q : Option Char} {s : List Char} :
    toOpening rule q s = none ↔ ('(', false) ∉ marks rule q s := by
  induction s generalizing q with
  | nil => simp [toOpening, marks]
  | cons c s ih =>
    rw [toOpening, marks, List.mem_cons, not_or]
    by_cases hc : isQuoted rule q c = false ∧ c = '('
    · rw [if_pos hc]
      exact iff_of_false (by simp) fun h => h.1 (by rw [hc.1, hc.2])
    · rw [if_neg hc, Option.map_eq_none_iff, ih]
      refine (and_iff_right fun h => hc ?_).symm
      obtain ⟨hparen, hquoted⟩ := Prod.mk.inj h
      exact ⟨hquoted.symm, hparen.symm⟩

/-! ## Undivided texts -/

/-- A text that closes what it opens, and that no comma cuts. -/
structure Undivided (rule : QuoteRule) (s : List Char) : Prop where
  level : Level rule s
  one_piece : splitTopLevel rule s = [s]

instance (rule : QuoteRule) : DecidablePred (Undivided rule) := fun s =>
  decidable_of_iff (Level rule s ∧ splitTopLevel rule s = [s])
    ⟨fun h => ⟨h.1, h.2⟩, fun h => ⟨h.level, h.one_piece⟩⟩

/-- No comma of a text cuts it exactly if none stands where the text so far is level. -/
theorem undivided_iff (hrule : rule.Proper) {s : List Char} :
    Undivided rule s ↔ Level rule s ∧ ∀ x y, s = x ++ ',' :: y → ¬Level rule x := by
  refine ⟨fun h => ⟨h.level, fun x y hs hx => ?_⟩,
    fun h => ⟨h.1, splitTopLevel_eq_singleton h.1 h.2⟩⟩
  -- A text is cut at such a comma into two pieces at least.
  obtain ⟨hunquoted, hcloser⟩ := unquoted_of_rule_eq_none hrule.comma
  have hrest : splitFrom rule none 0 (',' :: y) = [] :: splitFrom rule none 0 y := by
    rw [splitFrom, if_neg (by simp [hunquoted]), if_pos ⟨rfl, rfl⟩]
  have hpieces := h.one_piece
  rw [splitTopLevel, splitFrom_eq_singleton_iff, hs, splitFrom_append, hx.closer,
    hx.endsOutside.depth, hrest] at hpieces
  have hlength := length_glue (splitFrom_ne_nil rule none 0 x)
    (List.cons_ne_nil [] (splitFrom rule none 0 y))
  have hx := List.length_pos_iff.2 (splitFrom_ne_nil rule none 0 x)
  have hy := List.length_pos_iff.2 (splitFrom_ne_nil rule none 0 y)
  rw [List.length_cons] at hlength
  omega

namespace Undivided

variable {s t : List Char}

theorem append (hs : Undivided rule s) (ht : Undivided rule t) : Undivided rule (s ++ t) :=
  ⟨hs.level.append ht.level, splitTopLevel_append hs.level hs.one_piece ht.one_piece⟩

theorem of_covered (hrule : rule.Proper) (h : Covered rule none s) : Undivided rule s :=
  ⟨h.level, h.one_piece hrule⟩

/-- **A level text in parentheses is one piece**, whatever commas it holds. -/
theorem parens (hrule : rule.Proper) (h : Level rule s) :
    Undivided rule ('(' :: (s ++ [')'])) := by
  refine ⟨h.parens hrule, splitTopLevel_eq_singleton (h.parens hrule) fun x y hxy hx => ?_⟩
  obtain ⟨hopens, hopen⟩ := unquoted_of_rule_eq_none hrule.opening
  cases x with
  | nil => exact absurd (List.cons.inj hxy).1 (by decide)
  | cons c x =>
    obtain ⟨rfl, hrest⟩ := List.cons.inj hxy
    -- The comma stands inside, so a parenthesis is open before it.
    obtain ⟨z, hz⟩ : ∃ z, s = x ++ z := by
      rcases List.append_eq_append_iff.1 hrest with ⟨z, hz, hclose⟩ | ⟨z, hz, -⟩
      · cases z with
        | nil => exact ⟨[], by rw [hz, List.append_nil, List.append_nil]⟩
        | cons c z =>
          have hlength := congrArg List.length hclose
          simp at hlength
      · exact ⟨z, hz⟩
    have hdepth := h.depth
    rw [hz, depthThrough?_append] at hdepth
    obtain ⟨k, hk, -⟩ := Option.bind_eq_some_iff.1 hdepth
    have hinside := hx.depth
    rw [depthThrough?, if_neg (by simp [hopens]), if_neg (by decide)] at hinside
    have hopenNow := (depthThrough?_succ hk).symm.trans hinside
    exact absurd (Option.some.inj hopenNow) (Nat.succ_ne_zero k)

end Undivided

theorem commaJoin_cons (p : List Char) {ps : List (List Char)} (h : ps ≠ []) :
    commaJoin (p :: ps) = p ++ ',' :: commaJoin ps := by
  obtain ⟨q, ps, rfl⟩ := List.exists_cons_of_ne_nil h
  rfl

/-! ## What scans go by -/

/-- Whether a character is a quote, a parenthesis or a comma. -/
def steers (c : Char) : Bool := (literalQuotes c).isSome || c == '(' || c == ')' || c == ','

/-- The characters of a text by which scans go. -/
def skeleton (s : List Char) : List Char := s.filter steers

theorem skeleton_append (s t : List Char) : skeleton (s ++ t) = skeleton s ++ skeleton t :=
  List.filter_append ..

/-- A scan is outside of quotes, or waits for a character that steers it. -/
def Steered (q : Option Char) : Prop := ∀ e, q = some e → steers e = true

theorem steered_none : Steered none := by
  intro e h
  cases h

section Steered

variable {q : Option Char} {c : Char} {s : List Char}

theorem Steered.closerAfter (h : Steered q) (c : Char) :
    Steered (closerAfter literalQuotes q c) := by
  intro e he
  unfold Text.closerAfter at he
  split at he
  · rename_i e'
    split at he
    · cases he
    · exact h e he
  · obtain ⟨rfl, -⟩ := literalQuotes_eq_some he
    rw [steers, he]
    rfl

/-- Another character is passed over. -/
theorem passed_of_not_steers (hq : Steered q) (hc : steers c = false) :
    closerAfter literalQuotes q c = q ∧ isQuoted literalQuotes q c = q.isSome ∧
      c ≠ ',' ∧ ∀ d, depthAfter d c = d := by
  simp only [steers, Bool.or_eq_false_iff, beq_eq_false_iff_ne, Option.isSome_eq_false_iff,
    Option.isNone_iff_eq_none] at hc
  obtain ⟨⟨⟨hrule, hopening⟩, hclosing⟩, hcomma⟩ := hc
  refine ⟨?_, ?_, hcomma, fun d => ?_⟩
  · cases q with
    | none => exact hrule
    | some e =>
      refine if_neg ?_
      rintro rfl
      have hsteers := hq c rfl
      simp [steers, hrule, hopening, hclosing, hcomma] at hsteers
  · rw [isQuoted, hrule, Option.isSome_none, Bool.or_false]
  · exact depthAfter_of_ne hopening hclosing d

theorem closerAfterAll_skeleton (hq : Steered q) (s : List Char) :
    closerAfterAll literalQuotes q (skeleton s) = closerAfterAll literalQuotes q s := by
  induction s generalizing q with
  | nil => rfl
  | cons c s ih =>
    unfold skeleton at ih ⊢
    cases hc : steers c with
    | true =>
      rw [List.filter_cons_of_pos hc, closerAfterAll_cons, closerAfterAll_cons,
        ih (hq.closerAfter c)]
    | false =>
      rw [List.filter_cons_of_neg (by simp [hc]), closerAfterAll_cons,
        (passed_of_not_steers hq hc).1, ih hq]

theorem depthThrough?_skeleton (hq : Steered q) (d : Nat) (s : List Char) :
    depthThrough? literalQuotes q d (skeleton s) = depthThrough? literalQuotes q d s := by
  induction s generalizing q d with
  | nil => rfl
  | cons c s ih =>
    unfold skeleton at ih ⊢
    cases hc : steers c with
    | true =>
      rw [List.filter_cons_of_pos hc, depthThrough?, depthThrough?, ih (hq.closerAfter c),
        ih steered_none]
    | false =>
      obtain ⟨hcloser, hquoted, -, hdepth⟩ := passed_of_not_steers hq hc
      have hclosing : c ≠ ')' := by
        rintro rfl
        cases hc
      rw [List.filter_cons_of_neg (by simp [hc]), ih hq, depthThrough?, hcloser, hquoted, hdepth]
      cases q with
      | none => rw [if_neg (by decide), if_neg fun h => hclosing h.1]
      | some e => rfl

theorem length_consHead {ws : List (List Char)} (h : ws ≠ []) (c : Char) :
    (consHead c ws).length = ws.length := by
  obtain ⟨w, ws, rfl⟩ := List.exists_cons_of_ne_nil h
  rfl

theorem length_splitFrom_skeleton (hq : Steered q) (d : Nat) (s : List Char) :
    (splitFrom literalQuotes q d (skeleton s)).length = (splitFrom literalQuotes q d s).length := by
  have hlength : ∀ c q d s, (consHead c (splitFrom literalQuotes q d s)).length =
      (splitFrom literalQuotes q d s).length :=
    fun c q d s => length_consHead (splitFrom_ne_nil literalQuotes q d s) c
  induction s generalizing q d with
  | nil => rfl
  | cons c s ih =>
    unfold skeleton at ih ⊢
    cases hc : steers c with
    | true =>
      rw [List.filter_cons_of_pos hc, splitFrom, splitFrom]
      split
      · rw [hlength, hlength, ih (hq.closerAfter c)]
      · split
        · rw [List.length_cons, List.length_cons, ih steered_none]
        · rw [hlength, hlength, ih steered_none]
    | false =>
      obtain ⟨hcloser, hquoted, hcomma, hdepth⟩ := passed_of_not_steers hq hc
      rw [List.filter_cons_of_neg (by simp [hc]), ih hq, splitFrom, hcloser, hquoted, hdepth]
      cases q with
      | none => rw [if_neg (by decide), if_neg fun h => hcomma h.1, hlength]
      | some e => exact (hlength c (some e) d s).symm

theorem toOpening_skeleton (hq : Steered q) (s : List Char) :
    toOpening literalQuotes q (skeleton s) = none ↔ toOpening literalQuotes q s = none := by
  induction s generalizing q with
  | nil => rfl
  | cons c s ih =>
    unfold skeleton at ih ⊢
    cases hc : steers c with
    | true =>
      rw [List.filter_cons_of_pos hc, toOpening, toOpening]
      split
      · simp
      · rw [Option.map_eq_none_iff, Option.map_eq_none_iff, ih (hq.closerAfter c)]
    | false =>
      have hopening : c ≠ '(' := by
        rintro rfl
        cases hc
      rw [List.filter_cons_of_neg (by simp [hc]), ih hq, toOpening, if_neg fun h => hopening h.2,
        (passed_of_not_steers hq hc).1, Option.map_eq_none_iff]

end Steered

theorem closerAfterAll_of_skeleton_eq {s t : List Char} (h : skeleton s = skeleton t) :
    closerAfterAll literalQuotes none s = closerAfterAll literalQuotes none t := by
  rw [← closerAfterAll_skeleton steered_none, h, closerAfterAll_skeleton steered_none]

theorem toOpening_of_skeleton_eq {s t : List Char} (h : skeleton s = skeleton t)
    (hs : toOpening literalQuotes none s = none) : toOpening literalQuotes none t = none := by
  rwa [← toOpening_skeleton steered_none, ← h, toOpening_skeleton steered_none]

/-- **A text is one piece if its skeleton is that of one.** -/
theorem Undivided.of_skeleton_eq {s t : List Char} (hs : Undivided literalQuotes s)
    (h : skeleton s = skeleton t) : Undivided literalQuotes t := by
  refine ⟨⟨?_, ?_⟩, ?_⟩
  · rw [← closerAfterAll_of_skeleton_eq h, hs.level.closer]
  · rw [← depthThrough?_skeleton steered_none, ← h, depthThrough?_skeleton steered_none,
      hs.level.depth]
  · have hpiece := hs.one_piece
    unfold splitTopLevel at hpiece ⊢
    rw [splitFrom_eq_singleton_iff, ← length_splitFrom_skeleton steered_none] at hpiece ⊢
    rw [← h, hpiece]

/-- A substitution of texts that steer nothing leaves the skeleton as it is. -/
theorem skeleton_replaceFrom {pat new : List Char} (hne : pat ≠ []) (hpat : skeleton pat = [])
    (hnew : skeleton new = []) (skip : Nat) (s : List Char) :
    skeleton (replaceFrom pat new skip s) = skeleton (s.drop skip) := by
  induction s generalizing skip with
  | nil => cases skip <;> rfl
  | cons c s ih =>
    cases skip with
    | succ skip => exact ih skip
    | zero =>
      rw [replaceFrom, List.drop_zero]
      split
      · rename_i hprefix
        obtain ⟨rest, hrest⟩ := List.isPrefixOf_iff_prefix.1 hprefix
        have hdrop : s.drop (pat.length - 1) = rest := by
          obtain ⟨p, pat, rfl⟩ := List.exists_cons_of_ne_nil hne
          obtain ⟨-, rfl⟩ := List.cons.inj hrest
          simp
        rw [skeleton_append, hnew, List.nil_append, ih, hdrop, ← hrest, skeleton_append, hpat,
          List.nil_append]
      · have hs := ih 0
        unfold skeleton at hs ⊢
        rw [List.filter_cons, List.filter_cons, hs, List.drop_zero]

end PolySql.Text
