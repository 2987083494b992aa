import PolySql.Text.Replace

/-!
# What a substitution does

* `occursIn_iff` — a pattern occurs in a text exactly if it is an infix of it.
* `Clear` — a pattern begins nowhere in a text; a substitution then leaves the text alone, whatever
  it does to what follows (`replaceFrom_append_of_clear`).
* `replacements` — how often a pattern gives way. Each time the characters of the pattern go and
  those of the new text come, and nothing else changes (`countP_replaceFrom`).
-/

namespace PolySql.Text

variable {pat : List Char}

theorem occursIn_iff (pat s : List Char) : occursIn pat s = true ↔ pat <:+: s := by
  induction s with
  | nil => simp [occursIn]
  | cons c r ih =>
    rw [occursIn, Bool.or_eq_true, ih, List.isPrefixOf_iff_prefix, List.infix_cons_iff]

theorem occursIn_append_left {s : List Char} (h : occursIn pat s = true) (t : List Char) :
    occursIn pat (s ++ t) = true := by
  rw [occursIn_iff] at h ⊢
  exact h.trans (List.prefix_append s t).isInfix

/-- A text that holds a pattern holds every part of it. -/
theorem occursIn_of_start {p s : List Char} (hp : p <+: pat) (h : occursIn pat s = true) :
    occursIn p s = true := by
  rw [occursIn_iff] at h ⊢
  exact hp.isInfix.trans h

/-- A character that is not in a pattern keeps apart what the pattern may be found in. -/
theorem occursIn_append_cons {x : Char} (hx : x ∉ pat) (s t : List Char) :
    occursIn pat (s ++ x :: t) = true → occursIn pat s = true ∨ occursIn pat t = true := by
  simp only [occursIn_iff]
  rintro ⟨a, b, h⟩
  rw [List.append_assoc] at h
  rcases List.append_eq_append_iff.1 h with ⟨m, rfl, hm⟩ | ⟨m, rfl, hm⟩
  · -- The occurrence begins inside the first text, and the character stands behind its end.
    rcases List.append_eq_append_iff.1 hm with ⟨k, rfl, -⟩ | ⟨k, hk, htail⟩
    · exact .inl ⟨a, k, by simp⟩
    · cases k with
      | nil => exact .inl ⟨a, [], by simp [hk]⟩
      | cons y k =>
        obtain ⟨rfl, -⟩ := List.cons.inj htail
        exact absurd (by simp [hk]) hx
  · -- The occurrence begins behind the first text.
    cases m with
    | nil =>
      cases pat with
      | nil => exact .inr ⟨[], t, rfl⟩
      | cons y p =>
        obtain ⟨rfl, -⟩ := List.cons.inj hm
        exact absurd (by simp) hx
    | cons y m =>
      obtain ⟨rfl, ht⟩ := List.cons.inj hm
      exact .inr ⟨m, b, by rw [ht]; simp⟩

/-! ## Texts that are left alone -/

/-- No place in `s` is one where the pattern begins, when `t` follows `s`. -/
def Clear (pat s t : List Char) : Prop := ∀ b, b <:+ s → b ≠ [] → ¬pat <+: b ++ t

theorem Clear.nil (pat t : List Char) : Clear pat [] t :=
  fun _ hb hne => absurd (List.suffix_nil.1 hb) hne

theorem clear_cons_iff {c : Char} {s t : List Char} :
    Clear pat (c :: s) t ↔ ¬pat <+: c :: (s ++ t) ∧ Clear pat s t := by
  constructor
  · exact fun h => ⟨h (c :: s) List.suffix_rfl (by simp),
      fun b hb => h b (hb.trans (List.suffix_cons c s))⟩
  · rintro ⟨hhead, hs⟩ b hb hne
    rcases List.suffix_cons_iff.1 hb with rfl | hb
    · exact hhead
    · exact hs b hb hne

theorem replaceFrom_append_of_clear (new : List Char) {s t : List Char} (h : Clear pat s t) :
    replaceFrom pat new 0 (s ++ t) = s ++ replaceFrom pat new 0 t := by
  induction s with
  | nil => rfl
  | cons c s ih =>
    obtain ⟨hhead, hs⟩ := clear_cons_iff.1 h
    have hprefix : pat.isPrefixOf (c :: (s ++ t)) = false := by
      simpa [← List.isPrefixOf_iff_prefix] using hhead
    rw [List.cons_append, replaceFrom, hprefix, ih hs]
    rfl

/-- No occurrence goes past a character that is not in the pattern. -/
theorem replaceFrom_append_cons {x : Char} (hx : x ∉ pat) (new : List Char) {skip : Nat}
    {s : List Char} (hskip : skip ≤ s.length) (t : List Char) :
    replaceFrom pat new skip (s ++ x :: t) =
      replaceFrom pat new skip s ++ replaceFrom pat new 0 (x :: t) := by
  induction s generalizing skip with
  | nil =>
    obtain rfl : skip = 0 := Nat.le_zero.1 hskip
    rfl
  | cons c s ih =>
    cases skip with
    | succ skip => exact ih (Nat.le_of_succ_le_succ hskip)
    | zero =>
      have hsame : pat.isPrefixOf (c :: (s ++ x :: t)) = pat.isPrefixOf (c :: s) := by
        rw [Bool.eq_iff_iff, List.isPrefixOf_iff_prefix, List.isPrefixOf_iff_prefix]
        refine ⟨fun hprefix => ?_, fun hprefix => hprefix.trans (List.prefix_append (c :: s) _)⟩
        rcases List.prefix_or_prefix_of_prefix hprefix (List.prefix_append (c :: s) (x :: t)) with
          h | ⟨u, hu⟩
        · exact h
        · cases u with
          | nil => exact ⟨[], by rw [← hu, List.append_nil, List.append_nil]⟩
          | cons y u =>
            rw [← hu, ← List.cons_append, List.prefix_append_right_inj] at hprefix
            obtain ⟨rfl, -⟩ := List.cons_prefix_cons.1 hprefix
            exact absurd (by rw [← hu]; simp) hx
      rw [List.cons_append, replaceFrom, replaceFrom, hsame]
      split
      · rename_i h
        have hlength := (List.isPrefixOf_iff_prefix.1 h).length_le
        rw [List.length_cons] at hlength
        rw [ih (by omega), List.append_assoc]
      · rw [ih (Nat.zero_le _), List.cons_append]

/-- A pattern begins nowhere in a text that lacks its first character. -/
theorem clear_of_head_not_mem {p : Char} {s : List Char} (h : p ∉ s) (t : List Char) :
    Clear (p :: pat) s t := by
  intro b hb hne hprefix
  cases b with
  | nil => exact hne rfl
  | cons x b =>
    obtain ⟨rfl, -⟩ := List.cons_prefix_cons.1 hprefix
    exact h (hb.mem (by simp))

/-- Whether no end of a text agrees with the pattern as far as both go. -/
def foreign (pat : List Char) : List Char → Bool
  | [] => true
  | c :: r => !pat.isPrefixOf (c :: r) && !(c :: r).isPrefixOf pat && foreign pat r

/-- A pattern does not begin in a foreign text, whatever follows. -/
theorem clear_of_foreign {s : List Char} (h : foreign pat s = true) (t : List Char) :
    Clear pat s t := by
  induction s with
  | nil => exact Clear.nil pat t
  | cons c r ih =>
    simp only [foreign, Bool.and_eq_true, Bool.not_eq_true', Bool.eq_false_iff, Ne,
      List.isPrefixOf_iff_prefix] at h
    obtain ⟨⟨hpat, htext⟩, hr⟩ := h
    refine clear_cons_iff.2 ⟨fun hprefix => ?_, ih hr⟩
    rcases List.prefix_or_prefix_of_prefix hprefix (List.prefix_append (c :: r) t) with h | h
    · exact hpat h
    · exact htext h

/-- A pattern does not begin in its own start where something else follows than in the pattern. -/
theorem clear_of_head_ne {p x : Char} {w s : List Char} (hp : p ∉ w) {t : List Char}
    (ht : t.head? ≠ some x) : Clear (p :: (w ++ x :: s)) (p :: w) t := by
  refine clear_cons_iff.2 ⟨fun hprefix => ?_, clear_of_head_not_mem hp t⟩
  have hrest := (List.prefix_append_right_inj w).1 (List.cons_prefix_cons.1 hprefix).2
  cases t with
  | nil => exact absurd (List.prefix_nil.1 hrest) (by simp)
  | cons y t =>
    obtain ⟨rfl, -⟩ := List.cons_prefix_cons.1 hrest
    exact ht rfl

/-! ## How often a pattern gives way -/

/-- How often the pattern is replaced in a text, after its first `skip` characters. -/
def replacements (pat : List Char) : Nat → List Char → Nat
  | _, [] => 0
  | skip + 1, _ :: r => replacements pat skip r
  | 0, c :: r =>
    if pat.isPrefixOf (c :: r) then replacements pat (pat.length - 1) r + 1
    else replacements pat 0 r

/-- The characters of the pattern go, those of the new text come. -/
theorem countP_replaceFrom (hpat : pat ≠ []) (new : List Char) (P : Char → Bool) (skip : Nat)
    (s : List Char) :
    (replaceFrom pat new skip s).countP P + replacements pat skip s * pat.countP P =
      (s.drop skip).countP P + replacements pat skip s * new.countP P := by
  induction s generalizing skip with
  | nil => cases skip <;> simp [replaceFrom, replacements]
  | cons c r ih =>
    cases skip with
    | succ skip => exact ih skip
    | zero =>
      unfold replaceFrom replacements
      split
      · rename_i h
        obtain ⟨rest, hrest⟩ := List.isPrefixOf_iff_prefix.1 h
        have hdrop : r.drop (pat.length - 1) = rest := by
          obtain ⟨p, pat, rfl⟩ := List.exists_cons_of_ne_nil hpat
          obtain ⟨-, rfl⟩ := List.cons.inj hrest
          simp
        have := ih (pat.length - 1)
        rw [hdrop] at this
        rw [List.countP_append, List.drop_zero, ← hrest, List.countP_append, Nat.succ_mul,
          Nat.succ_mul]
        omega
      · rw [List.countP_cons, List.drop_zero, List.countP_cons]
        have := ih 0
        rw [List.drop_zero] at this
        omega

theorem not_occursIn_of_replacements {s : List Char} (hpat : pat ≠ [])
    (h : replacements pat 0 s = 0) : occursIn pat s = false := by
  induction s with
  | nil => simpa [occursIn] using hpat
  | cons c r ih =>
    unfold replacements at h
    split at h
    · cases h
    · rename_i hc
      rw [occursIn, ih h, Bool.or_false]
      exact Bool.eq_false_iff.2 hc

end PolySql.Text
