import PolySql.Text.Blank

/-!
# What trimming leaves

* `Blanks` — a text of blanks only; `Trimmed` — a text with no blank at either end.
* `exists_trimStart`, `exists_trimEnd`, `exists_trim` — what a trim takes away are blanks.
* `trimmed_trim`, `Trimmed.trim_eq` — the texts that a trim leaves alone are those it returns.
* `trim_surround` — blanks put around a text make no difference to its trim; `trim_append` — where
  nothing but blanks in front of a text goes.
* `trim_eq_nil_iff` — nothing is left of blanks only.
-/

namespace PolySql.Text

/-- A text of blanks only. -/
def Blanks (s : List Char) : Prop := ∀ c ∈ s, isBlank c = true

/-- A text that neither begins nor ends with a blank. -/
structure Trimmed (s : List Char) : Prop where
  head : ∀ c, s.head? = some c → isBlank c = false
  last : ∀ c, s.getLast? = some c → isBlank c = false

instance : DecidablePred Blanks := fun s => List.decidableBAll (isBlank · = true) s

namespace Blanks

theorem nil : Blanks [] := by intro c hc; cases hc

theorem cons {c : Char} {s : List Char} (hc : isBlank c = true) (hs : Blanks s) :
    Blanks (c :: s) := by
  intro x hx
  rcases List.mem_cons.1 hx with rfl | hx
  · exact hc
  · exact hs x hx

theorem space : Blanks [' '] := cons rfl nil

theorem newline : Blanks ['\n'] := cons rfl nil

theorem of_cons {c : Char} {s : List Char} (h : Blanks (c :: s)) : isBlank c = true ∧ Blanks s :=
  ⟨h c (by simp), fun x hx => h x (by simp [hx])⟩

theorem append {s t : List Char} (hs : Blanks s) (ht : Blanks t) : Blanks (s ++ t) := by
  intro c hc
  rcases List.mem_append.1 hc with hc | hc
  · exact hs c hc
  · exact ht c hc

theorem reverse {s : List Char} (hs : Blanks s) : Blanks s.reverse :=
  fun c hc => hs c (List.mem_reverse.1 hc)

end Blanks

/-! ## One end -/

theorem head_trimStart {s : List Char} {c : Char} (h : (trimStart s).head? = some c) :
    isBlank c = false := by
  have := List.head?_dropWhile_not isBlank s
  unfold trimStart at h
  rw [h] at this
  simpa using this

theorem exists_trimStart (s : List Char) : ∃ pre, Blanks pre ∧ s = pre ++ trimStart s := by
  refine ⟨s.takeWhile isBlank, ?_, (List.takeWhile_append_dropWhile ..).symm⟩
  intro c hc
  exact List.all_eq_true.1 List.all_takeWhile c hc

/-- Blanks in front of a text go. -/
theorem trimStart_append {pre : List Char} (h : Blanks pre) (s : List Char) :
    trimStart (pre ++ s) = trimStart s := by
  induction pre with
  | nil => rfl
  | cons c pre ih =>
    obtain ⟨hc, hpre⟩ := h.of_cons
    have := ih hpre
    unfold trimStart at this ⊢
    rw [List.cons_append, List.dropWhile_cons, if_pos hc, this]

theorem trimEnd_eq_reverse (s : List Char) : trimEnd s = (trimStart s.reverse).reverse := rfl

theorem last_trimEnd {s : List Char} {c : Char} (h : (trimEnd s).getLast? = some c) :
    isBlank c = false := by
  rw [trimEnd_eq_reverse, List.getLast?_reverse] at h
  exact head_trimStart h

theorem exists_trimEnd (s : List Char) : ∃ post, Blanks post ∧ s = trimEnd s ++ post := by
  obtain ⟨pre, hpre, h⟩ := exists_trimStart s.reverse
  refine ⟨pre.reverse, hpre.reverse, ?_⟩
  have := congrArg List.reverse h
  rwa [List.reverse_reverse, List.reverse_append, ← trimEnd_eq_reverse] at this

/-- Blanks after a text go. -/
theorem trimEnd_append {post : List Char} (h : Blanks post) (s : List Char) :
    trimEnd (s ++ post) = trimEnd s := by
  rw [trimEnd_eq_reverse, trimEnd_eq_reverse, List.reverse_append, trimStart_append h.reverse]

/-- The start of a text stays where a trim of its end leaves anything. -/
theorem head_trimEnd {s : List Char} {c : Char} (h : (trimEnd s).head? = some c) :
    s.head? = some c := by
  obtain ⟨post, -, hs⟩ := exists_trimEnd s
  rw [hs, List.head?_append, h]
  rfl

/-- A text ends as what stands behind a part of it, if anything does. -/
theorem getLast?_trimEnd_append (s : List Char) {t : List Char} (h : ¬Blanks t) :
    (trimEnd (s ++ t)).getLast? = (trimEnd t).getLast? := by
  obtain ⟨post, hpost, ht⟩ := exists_trimEnd t
  have hne : trimEnd t ≠ [] := by
    intro hnil
    rw [hnil, List.nil_append] at ht
    exact h (ht ▸ hpost)
  have hlast := List.getLast?_eq_some_getLast hne
  have hwhole : (s ++ trimEnd t).getLast? = (trimEnd t).getLast? := by
    rw [List.getLast?_append, hlast]
    rfl
  conv => lhs; rw [ht]
  rw [← List.append_assoc, trimEnd_append hpost,
    trimEnd_eq_self fun c hc => last_trimEnd (hwhole ▸ hc), hwhole]

theorem last_trimStart {s : List Char} {c : Char} (h : (trimStart s).getLast? = some c) :
    s.getLast? = some c := by
  obtain ⟨pre, -, hs⟩ := exists_trimStart s
  rw [hs, List.getLast?_append, h]
  rfl

/-! ## Both ends -/

theorem trimmed_trim (s : List Char) : Trimmed (trim s) :=
  ⟨fun _ hc => head_trimStart (head_trimEnd hc), fun _ hc => last_trimEnd hc⟩

theorem Trimmed.trim_eq {s : List Char} (h : Trimmed s) : trim s = s := trim_eq_self h.head h.last

theorem exists_trim (s : List Char) :
    ∃ pre post, Blanks pre ∧ Blanks post ∧ s = pre ++ (trim s ++ post) := by
  obtain ⟨pre, hpre, hs⟩ := exists_trimStart s
  obtain ⟨post, hpost, ht⟩ := exists_trimEnd (trimStart s)
  exact ⟨pre, post, hpre, hpost, by rw [trim, ← ht, ← hs]⟩

/-- Blanks put around a text make no difference to its trim. -/
theorem trim_surround {pre post : List Char} (hpre : Blanks pre) (hpost : Blanks post)
    (s : List Char) : trim (pre ++ (s ++ post)) = trim s := by
  obtain ⟨front, hfront, hs⟩ := exists_trimStart s
  unfold trim
  rw [trimStart_append hpre]
  -- A text of blanks is trimmed away whole, so the blanks after it are trimmed from the start too.
  cases hcase : trimStart s with
  | nil =>
    rw [hcase, List.append_nil] at hs
    subst hs
    have hall := trimStart_append (hfront.append hpost) []
    rw [List.append_nil] at hall
    rw [hall]
    rfl
  | cons c r =>
    have hhead : trimStart (s ++ post) = trimStart s ++ post := by
      rw [hs, List.append_assoc, trimStart_append hfront, trimStart_append hfront]
      rw [trimStart_eq_self (s := trimStart s) fun _ h => head_trimStart h]
      refine trimStart_eq_self fun x hx => ?_
      rw [hcase, List.cons_append, List.head?_cons] at hx
      exact head_trimStart (s := s) (by rw [hcase]; exact hx)
    rw [hhead, trimEnd_append hpost, hcase]

/-- The blanks in front of a text go, and no others if the text ends with none. -/
theorem trim_append {s t : List Char}
    (ht : trimStart s = [] → ∀ c, t.head? = some c → isBlank c = false) {c : Char}
    (hlast : t.getLast? = some c) (hc : isBlank c = false) : trim (s ++ t) = trimStart s ++ t := by
  obtain ⟨pre, hpre, hs⟩ := exists_trimStart s
  have htrimmed : Trimmed (trimStart s ++ t) := by
    refine ⟨fun d hd => ?_, fun d hd => ?_⟩
    · rw [List.head?_append] at hd
      cases hhead : (trimStart s).head? with
      | some a =>
        rw [hhead] at hd
        obtain rfl := Option.some.inj hd
        exact head_trimStart hhead
      | none =>
        rw [hhead] at hd
        exact ht (List.head?_eq_none_iff.1 hhead) d hd
    · rw [List.getLast?_append, hlast] at hd
      obtain rfl := Option.some.inj hd
      exact hc
  have htext := trim_surround hpre .nil (trimStart s ++ t)
  rw [List.append_nil, ← List.append_assoc, ← hs, htrimmed.trim_eq] at htext
  exact htext

/-- Nothing is left of a text exactly if it is blanks only. -/
theorem trim_eq_nil_iff {s : List Char} : trim s = [] ↔ Blanks s := by
  constructor
  · intro h
    obtain ⟨pre, post, hpre, hpost, hs⟩ := exists_trim s
    rw [hs, h]
    exact hpre.append hpost
  · intro h
    have hall := trim_surround h .nil []
    rw [List.append_nil, List.append_nil] at hall
    rw [hall]
    rfl

end PolySql.Text
