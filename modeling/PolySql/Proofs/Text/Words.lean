import PolySql.Proofs.Text.Trim

/-!
# The words of a text

* `words_append_blank` — a blank separates the words before it from those after it.
* `words_of_letters` — a text without a blank is one word.
* `exists_last_word` — the last word of a text ends as the text does; `exists_last_word_append` —
  it ends with the letters that the text ends with.
-/

namespace PolySql.Text

theorem consHead_append (c : Char) {ws : List (List Char)} (h : ws ≠ []) (vs : List (List Char)) :
    consHead c (ws ++ vs) = consHead c ws ++ vs := by
  cases ws with
  | nil => exact absurd rfl h
  | cons w ws => rfl

theorem words_cons_blank {c : Char} (hc : isBlank c = true) (s : List Char) :
    words (c :: s) = words s := by
  rw [words.eq_def]
  exact if_pos hc

theorem words_cons_ne_nil {c : Char} (hc : ¬isBlank c = true) (s : List Char) :
    words (c :: s) ≠ [] := by
  cases s with
  | nil =>
    rw [words, if_neg hc]
    exact List.cons_ne_nil _ _
  | cons d r =>
    rw [words, if_neg hc]
    split
    · exact List.cons_ne_nil _ _
    · cases words (d :: r) <;> exact List.cons_ne_nil _ _

/-- **A blank separates the words before it from those after it.** -/
theorem words_append_blank {b : Char} (hb : isBlank b = true) (s t : List Char) :
    words (s ++ b :: t) = words s ++ words t := by
  fun_induction words s with
  | case1 => exact words_cons_blank hb t
  | case2 c r hc ih => rw [List.cons_append, words_cons_blank hc, ih]
  | case3 c hc =>
    rw [List.singleton_append, words, if_neg hc, if_pos hb, words_cons_blank hb]
    rfl
  | case4 c hc d r hd ih =>
    rw [List.cons_append, List.cons_append, words, if_neg hc, if_pos hd, ← List.cons_append, ih]
    rfl
  | case5 c hc d r hd ih =>
    rw [List.cons_append, List.cons_append, words, if_neg hc, if_neg hd, ← List.cons_append, ih,
      consHead_append c (words_cons_ne_nil hd r)]

theorem words_blanks {s : List Char} (h : Blanks s) : words s = [] := by
  induction s with
  | nil => rfl
  | cons c s ih =>
    obtain ⟨hc, hs⟩ := h.of_cons
    rw [words_cons_blank hc, ih hs]

theorem words_append_blanks (s : List Char) {post : List Char} (h : Blanks post) :
    words (s ++ post) = words s := by
  cases post with
  | nil => rw [List.append_nil]
  | cons b post =>
    obtain ⟨hb, hpost⟩ := h.of_cons
    rw [words_append_blank hb, words_blanks hpost, List.append_nil]

/-- A text without a blank is one word. -/
theorem words_of_letters {w : List Char} (hne : w ≠ []) (h : ∀ c ∈ w, isBlank c = false) :
    words w = [w] := by
  induction w with
  | nil => exact absurd rfl hne
  | cons c w ih =>
    have hc := h c List.mem_cons_self
    cases w with
    | nil => simp [words, hc]
    | cons d r =>
      have hd := h d (by simp)
      rw [words, if_neg (by simp [hc]), if_neg (by simp [hd]),
        ih (List.cons_ne_nil d r) fun x hx => h x (List.mem_cons_of_mem c hx)]
      rfl

/-- The last word of a text that ends with no blank ends as the text does. -/
theorem exists_last_word_of_last {s : List Char} (hne : s ≠ [])
    (h : ∀ c, s.getLast? = some c → isBlank c = false) :
    ∃ ws w, words s = ws ++ [w] ∧ w.getLast? = s.getLast? := by
  fun_induction words s with
  | case1 => exact absurd rfl hne
  | case2 c r hc ih =>
    cases r with
    | nil =>
      rw [h c rfl] at hc
      cases hc
    | cons d r => exact ih (List.cons_ne_nil d r) h
  | case3 c hc => exact ⟨[], [c], rfl, rfl⟩
  | case4 c hc d r hd ih =>
    obtain ⟨ws, w, hwords, hlast⟩ := ih (List.cons_ne_nil d r) h
    exact ⟨[c] :: ws, w, by rw [hwords]; rfl, hlast⟩
  | case5 c hc d r hd ih =>
    obtain ⟨ws, w, hwords, hlast⟩ := ih (List.cons_ne_nil d r) h
    rw [hwords]
    cases ws with
    | nil =>
      refine ⟨[], c :: w, rfl, ?_⟩
      rw [List.getLast?_cons_cons, ← hlast, List.getLast?_cons, hlast, List.getLast?_cons]
      rfl
    | cons v vs => exact ⟨(c :: v) :: vs, w, rfl, hlast⟩

/-- **The last word of a text ends as the text does**, less the blanks at the end of the text. -/
theorem exists_last_word {s : List Char} (h : ¬Blanks s) :
    ∃ ws w, words s = ws ++ [w] ∧ w.getLast? = (trimEnd s).getLast? := by
  obtain ⟨post, hpost, hs⟩ := exists_trimEnd s
  have hne : trimEnd s ≠ [] := by
    intro hnil
    rw [hnil, List.nil_append] at hs
    exact h (hs ▸ hpost)
  obtain ⟨ws, w, hwords, hlast⟩ := exists_last_word_of_last hne fun _ hc => last_trimEnd hc
  refine ⟨ws, w, ?_, hlast⟩
  rw [← hwords]
  conv => lhs; rw [hs]
  rw [words_append_blanks _ hpost]

/-- **The last word of a text ends with the letters that the text ends with.** -/
theorem exists_last_word_append (s : List Char) {w : List Char} (hne : w ≠ [])
    (h : ∀ c ∈ w, isBlank c = false) : ∃ ws v, words (s ++ w) = ws ++ [v ++ w] := by
  induction s with
  | nil => exact ⟨[], [], words_of_letters hne h⟩
  | cons c s ih =>
    obtain ⟨ws, v, hwords⟩ := ih
    by_cases hc : isBlank c = true
    · exact ⟨ws, v, by rw [List.cons_append, words_cons_blank hc, hwords]⟩
    · obtain ⟨d, r, hr⟩ := List.exists_cons_of_ne_nil (List.append_ne_nil_of_right_ne_nil s hne)
      rw [List.cons_append, hr, words, if_neg hc, ← hr, hwords]
      split
      · exact ⟨[c] :: ws, v, rfl⟩
      · cases ws with
        | nil => exact ⟨[], c :: v, rfl⟩
        | cons u us => exact ⟨(c :: u) :: us, v, rfl⟩

end PolySql.Text
