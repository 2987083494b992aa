import PolySql.Proofs.Text.Nesting

/-!
# How often a name stands in a text

* `occurrences` — at how many places of a text another one begins.
* `occurrences_append_of_apart`, `occurrences_append_cons` — what stands on either side of a
  character is counted on its own, if no occurrence reaches over it.
* `bracketed` — a name in brackets; `FreeOfQuotes` — what may stand between them.
* `occurrences_trim`, `occurrences_commaJoin_trim` — where names in brackets are looked for, blanks
  at the ends of a text do not count, and neither do those around commas that the name does not
  hold.
* `occurrences_once` — a text with one opening bracket holds the name that stands there.
-/

namespace PolySql.Text

/-- What is checked character by character holds of every character. -/
theorem forall_mem_of_all {p : Char → Prop} [DecidablePred p] {s : List Char}
    (h : s.all (fun c => decide (p c)) = true) : ∀ c ∈ s, p c :=
  fun c hc => of_decide_eq_true (List.all_eq_true.1 h c hc)

/-- At how many places of a text a name begins that is not empty. -/
def occurrences (w : List Char) : List Char → Nat
  | [] => 0
  | c :: r => (if w.isPrefixOf (c :: r) then 1 else 0) + occurrences w r

variable {w a b : List Char}

theorem occurrences_eq_zero {s : List Char} {c : Char} (hw : c ∈ w) (hs : c ∉ s) :
    occurrences w s = 0 := by
  induction s with
  | nil => rfl
  | cons d r ih =>
    have hbegins : w.isPrefixOf (d :: r) = false := by
      rw [Bool.eq_false_iff, Ne, List.isPrefixOf_iff_prefix]
      exact fun h => hs (h.mem hw)
    rw [occurrences, hbegins, ih (List.not_mem_of_not_mem_cons hs)]
    rfl

/-- Two texts are searched one by one if no occurrence reaches from the one into the other. -/
theorem occurrences_append_of_apart
    (h : ∀ u v, w = u ++ v → v ≠ [] → u ≠ [] → u <:+ a → ¬v <+: b) :
    occurrences w (a ++ b) = occurrences w a + occurrences w b := by
  induction a with
  | nil => rw [List.nil_append, occurrences, Nat.zero_add]
  | cons c a ih =>
    have hsame : w.isPrefixOf (c :: (a ++ b)) = w.isPrefixOf (c :: a) := by
      rw [Bool.eq_iff_iff, List.isPrefixOf_iff_prefix, List.isPrefixOf_iff_prefix]
      refine ⟨fun hbegins => ?_, fun hbegins => hbegins.trans (List.prefix_append (c :: a) b)⟩
      rcases List.prefix_or_prefix_of_prefix hbegins (List.prefix_append (c :: a) b) with
        hin | ⟨v, hv⟩
      · exact hin
      · by_cases hnil : v = []
        · exact ⟨[], by rw [← hv, hnil, List.append_nil, List.append_nil]⟩
        · rw [← hv, ← List.cons_append, List.prefix_append_right_inj] at hbegins
          exact absurd hbegins
            (h (c :: a) v hv.symm hnil (List.cons_ne_nil c a) List.suffix_rfl)
    rw [List.cons_append, occurrences, occurrences, hsame,
      ih fun u v huv hv hu hsuffix => h u v huv hv hu (hsuffix.trans (List.suffix_cons c a)),
      Nat.add_assoc]

/-- A character that a name does not hold keeps apart what it is looked for in. -/
theorem occurrences_append_cons {x : Char} (hw : w ≠ []) (hx : x ∉ w) (a b : List Char) :
    occurrences w (a ++ x :: b) = occurrences w a + occurrences w b := by
  have hhead : occurrences w (x :: b) = occurrences w b := by
    have hbegins : w.isPrefixOf (x :: b) = false := by
      rw [Bool.eq_false_iff, Ne, List.isPrefixOf_iff_prefix]
      intro h
      obtain ⟨c, w', rfl⟩ := List.exists_cons_of_ne_nil hw
      obtain ⟨rfl, -⟩ := List.cons_prefix_cons.1 h
      exact hx List.mem_cons_self
    rw [occurrences, hbegins]
    exact Nat.zero_add _
  rw [occurrences_append_of_apart, hhead]
  rintro u v rfl hv - - hbegins
  obtain ⟨c, v, rfl⟩ := List.exists_cons_of_ne_nil hv
  obtain ⟨rfl, -⟩ := List.cons_prefix_cons.1 hbegins
  exact hx (by simp)

/-! ## Names in brackets -/

/-- A name in brackets. -/
def bracketed (content : List Char) : List Char := '[' :: (content ++ [']'])

/-- No brackets and no quotes. -/
def FreeOfQuotes (content : List Char) : Prop := ∀ c ∈ content, nameQuotes c = none ∧ c ≠ ']'

instance : DecidablePred FreeOfQuotes := fun content =>
  List.decidableBAll (fun c => nameQuotes c = none ∧ c ≠ ']') content

namespace FreeOfQuotes

variable {content : List Char}

theorem opening (h : FreeOfQuotes content) : '[' ∉ content := fun hmem => by cases (h _ hmem).1

theorem closing (h : FreeOfQuotes content) : ']' ∉ content := fun hmem => (h _ hmem).2 rfl

theorem plain (h : FreeOfQuotes content) : ∀ c ∈ content, literalQuotes c = none := by
  intro c hc
  have hrule := (h c hc).1
  unfold nameQuotes at hrule
  split at hrule
  · cases hrule
  · exact hrule

theorem literalQuotes_eq_none (h : FreeOfQuotes content) :
    ∀ c ∈ bracketed content, literalQuotes c = none := by
  rw [bracketed, List.forall_mem_cons, List.forall_mem_append, List.forall_mem_singleton]
  exact ⟨rfl, h.plain, rfl⟩

end FreeOfQuotes

section Bracketed

variable {content : List Char}

theorem bracketed_ne_nil : bracketed content ≠ [] := List.cons_ne_nil _ _

theorem mem_bracketed {c : Char} : c ∈ bracketed content ↔ c = '[' ∨ c ∈ content ∨ c = ']' := by
  simp [bracketed]

theorem opening_mem_bracketed : '[' ∈ bracketed content := mem_bracketed.2 (.inl rfl)

theorem closing_mem_bracketed : ']' ∈ bracketed content := mem_bracketed.2 (.inr (.inr rfl))

/-- What begins a name in brackets begins with the opening one, what ends it ends with the closing
one. -/
theorem brackets_of_append {u v : List Char} (h : bracketed content = u ++ v) :
    (u ≠ [] → '[' ∈ u) ∧ (v ≠ [] → ']' ∈ v) := by
  constructor
  · intro hu
    obtain ⟨c, u, rfl⟩ := List.exists_cons_of_ne_nil hu
    obtain ⟨rfl, -⟩ := List.cons.inj h
    exact List.mem_cons_self
  · intro hv
    have hlast := congrArg List.getLast? h
    rw [List.getLast?_append, List.getLast?_eq_some_getLast hv, bracketed, List.getLast?_cons,
      List.getLast?_append] at hlast
    have hclosing : v.getLast hv = ']' := by simpa using hlast.symm
    exact hclosing ▸ List.getLast_mem hv

theorem occurrences_append_of_opening (h : '[' ∉ a) (b : List Char) :
    occurrences (bracketed content) (a ++ b) = occurrences (bracketed content) b := by
  rw [occurrences_append_of_apart, occurrences_eq_zero opening_mem_bracketed h,
    Nat.zero_add]
  intro u v huv _ hu hsuffix _
  exact h (hsuffix.mem ((brackets_of_append huv).1 hu))

theorem occurrences_append_of_closing (h : ']' ∉ b) (a : List Char) :
    occurrences (bracketed content) (a ++ b) = occurrences (bracketed content) a := by
  rw [occurrences_append_of_apart, occurrences_eq_zero closing_mem_bracketed h,
    Nat.add_zero]
  intro u v huv hv _ _ hbegins
  exact h (hbegins.mem ((brackets_of_append huv).2 hv))

theorem Blanks.opening_not_mem {s : List Char} (h : Blanks s) : '[' ∉ s := fun hmem => by
  cases h _ hmem

theorem Blanks.closing_not_mem {s : List Char} (h : Blanks s) : ']' ∉ s := fun hmem => by
  cases h _ hmem

/-- Blanks at the ends of a text do not count. -/
theorem occurrences_trim (content s : List Char) :
    occurrences (bracketed content) (trim s) = occurrences (bracketed content) s := by
  obtain ⟨pre, post, hpre, hpost, hs⟩ := exists_trim s
  conv => rhs; rw [hs]
  rw [occurrences_append_of_opening hpre.opening_not_mem,
    occurrences_append_of_closing hpost.closing_not_mem]

theorem occurrences_commaJoin_cons (hcomma : ',' ∉ bracketed content) (p q : List Char)
    (ps : List (List Char)) : occurrences (bracketed content) (commaJoin (p :: q :: ps)) =
      occurrences (bracketed content) p + occurrences (bracketed content) (commaJoin (q :: ps)) :=
  occurrences_append_cons bracketed_ne_nil hcomma p (commaJoin (q :: ps))

theorem occurrences_commaJoin_trim (hcomma : ',' ∉ bracketed content) : ∀ ps : List (List Char),
    occurrences (bracketed content) (commaJoin (ps.map trim)) =
      occurrences (bracketed content) (commaJoin ps)
  | [] => rfl
  | [p] => occurrences_trim content p
  | p :: q :: ps => by
    have hrest := occurrences_commaJoin_trim hcomma (q :: ps)
    rw [List.map_cons] at hrest
    rw [List.map_cons, List.map_cons, occurrences_commaJoin_cons hcomma,
      occurrences_commaJoin_cons hcomma, hrest, occurrences_trim]

theorem append_cons_inj_of_not_mem {x : Char} {s t : List Char} (ha : x ∉ a) (hb : x ∉ b)
    (h : a ++ x :: s = b ++ x :: t) : a = b := by
  -- The longer of the two texts would hold the character that ends the shorter one.
  have hlonger : ∀ {a m s t : List Char}, x ∉ a ++ m → x :: s = m ++ x :: t → m = [] := by
    intro a m s t hmem hm
    cases m with
    | nil => rfl
    | cons y m =>
      obtain ⟨rfl, -⟩ := List.cons.inj hm
      exact absurd (by simp) hmem
  rcases List.append_eq_append_iff.1 h with ⟨m, rfl, hm⟩ | ⟨m, rfl, hm⟩
  · rw [hlonger hb hm, List.append_nil]
  · rw [hlonger ha hm, List.append_nil]

/-- **A text with one opening bracket holds the name that stands there**, and no other. -/
theorem occurrences_once {front other back : List Char} (hfront : '[' ∉ front)
    (hother : FreeOfQuotes other) (hback : '[' ∉ back) (hcontent : FreeOfQuotes content) :
    occurrences (bracketed content) (front ++ (bracketed other ++ back)) =
      if other = content then 1 else 0 := by
  have hrest : occurrences (bracketed content) (other ++ ']' :: back) = 0 := by
    refine occurrences_eq_zero opening_mem_bracketed fun hmem => ?_
    rcases List.mem_append.1 hmem with h | h
    · exact hother.opening h
    · exact hback (by simpa using h)
  have hsame : (bracketed content).isPrefixOf ('[' :: (other ++ ']' :: back)) =
      decide (other = content) := by
    rw [Bool.eq_iff_iff, List.isPrefixOf_iff_prefix, decide_eq_true_eq]
    constructor
    · rintro ⟨r, hr⟩
      have hsplit : content ++ ']' :: r = other ++ ']' :: back := by
        simpa [bracketed] using hr
      exact (append_cons_inj_of_not_mem hcontent.closing hother.closing hsplit).symm
    · rintro rfl
      exact ⟨back, by simp [bracketed]⟩
  have htext : bracketed other ++ back = '[' :: (other ++ ']' :: back) := by simp [bracketed]
  rw [occurrences_append_of_opening hfront, htext, occurrences, hsame, hrest]
  simp

end Bracketed

end PolySql.Text
