import PolySql.Proofs.Ddl.Definitions

/-!
# What the spelling of a type tells

The text of a rule holds marks for numbers, and each kind of mark is replaced in the whole text in
turn. In the texts of all dialects the marks stand apart, so the numbers can be told from a
spelling, and so can whether the spelling is the ordinary one or that of longer values.

* `Parameter`, `Lengths.value` — the numbers that a spelling may hold.
* `Piece`, `pieces`, `render` — the text of a rule read once, and written with numbers in place of
  its marks.
* `orderly` — no mark comes about by a replacement, and none stands before a digit;
  `replaceFrom_render` — then a replacement writes one parameter and touches nothing else.
* `render_eq_iff` — the numbers are told from what is written; `render_ne_of_partsWays` — so are
  texts that part ways before any number.
* `TypeRule.Selects` — the text of a rule that lengths select: the one for longer values, or not.
* `TypeRule.Legible`, `legible_of_typeRule?` — the rules of all dialects are of this kind.

Principal result: `Dialect.spell_eq_iff` — two spellings of a type are the same exactly if they come
from one text and from the same numbers, as far as the text holds them.
-/

namespace PolySql

open Text

/-! ## Parameters -/

/-- The numbers that a spelling may hold. -/
inductive Parameter where
  | length
  | precision
  | scale
  deriving DecidableEq, Repr

namespace Parameter

def letter : Parameter → Char
  | .length => 'l'
  | .precision => 'p'
  | .scale => 's'

/-- What stands for the number in the text of a rule. -/
def mark (p : Parameter) : List Char := ['$', p.letter]

/-- Whether a text asks for the number. -/
def AskedBy (p : Parameter) (text : String) : Prop := occursIn p.mark text.toList = true

/-- The marks share no more than their first character. -/
theorem foreign_mark {p q : Parameter} (h : q ≠ p) : foreign p.mark q.mark = true := by
  revert h
  cases p <;> cases q <;> decide

end Parameter

/-- The number that is written for a parameter: 255, 19 or 2 where it is not set. -/
def Lengths.value (lengths : Lengths) : Parameter → UInt32
  | .length => lengths.length.getD 255
  | .precision => lengths.precision.getD 19
  | .scale => lengths.scale.getD 2

namespace Spelling

/-! ## A text read once -/

/-- What the text of a rule is made of. -/
inductive Piece where
  | char (c : Char)
  | number (p : Parameter)
  deriving DecidableEq, Repr

def pieces : List Char → List Piece
  | [] => []
  | '$' :: 'l' :: r => .number .length :: pieces r
  | '$' :: 'p' :: r => .number .precision :: pieces r
  | '$' :: 's' :: r => .number .scale :: pieces r
  | c :: r => .char c :: pieces r

/-- A text with `σ` in the places of the numbers. -/
def render (σ : Parameter → List Char) : List Piece → List Char
  | [] => []
  | .char c :: ps => c :: render σ ps
  | .number p :: ps => σ p ++ render σ ps

/-- Reading loses nothing. -/
theorem render_pieces (s : List Char) : render Parameter.mark (pieces s) = s := by
  fun_induction pieces s with
  | case1 => rfl
  | case2 r ih => exact congrArg (['$', 'l'] ++ ·) ih
  | case3 r ih => exact congrArg (['$', 'p'] ++ ·) ih
  | case4 r ih => exact congrArg (['$', 's'] ++ ·) ih
  | case5 c r _ _ _ ih => exact congrArg (c :: ·) ih

/-- Whether a piece can stand behind a number. -/
def endsNumber : Piece → Bool
  | .char c => !c.isDigit
  | .number _ => false

/-- Whether every `$` is that of a mark, and what follows a number is seen not to belong to it. -/
def orderly : List Piece → Bool
  | [] => true
  | .char c :: ps => c != '$' && orderly ps
  | .number _ :: ps => ps.head?.all endsNumber && orderly ps

theorem orderly_char {c : Char} {ps : List Piece} (h : orderly (.char c :: ps) = true) :
    c ≠ '$' ∧ orderly ps = true := by
  simpa [orderly] using h

theorem orderly_number {p : Parameter} {ps : List Piece}
    (h : orderly (.number p :: ps) = true) :
    ps.head?.all endsNumber = true ∧ orderly ps = true := by
  simpa only [orderly, Bool.and_eq_true] using h

/-- In a text where every `$` is that of a mark, the marks are the pieces that are numbers. -/
theorem number_mem_iff {p : Parameter} {ps : List Piece} (h : orderly ps = true) :
    .number p ∈ ps ↔ occursIn p.mark (render Parameter.mark ps) = true := by
  induction ps with
  | nil => simp [render, occursIn, Parameter.mark]
  | cons piece ps ih =>
    cases piece with
    | char c =>
      obtain ⟨hc, hps⟩ := orderly_char h
      have hhead : p.mark.isPrefixOf (c :: render Parameter.mark ps) = false := by
        simp [Parameter.mark, List.isPrefixOf, hc.symm]
      rw [render, occursIn, hhead, Bool.false_or, ← ih hps]
      simp
    | number q =>
      have hrest := ih (orderly_number h).2
      -- Behind its first character the mark holds no `$`.
      have hletter : p.mark.isPrefixOf (q.letter :: render Parameter.mark ps) = false := by
        cases q <;> rfl
      have hmark : p.mark.isPrefixOf ('$' :: q.letter :: render Parameter.mark ps) =
          decide (p = q) := by
        cases p <;> cases q <;> rfl
      show _ ↔ occursIn p.mark ('$' :: q.letter :: render Parameter.mark ps) = true
      rw [occursIn, occursIn, hmark, hletter, Bool.false_or, Bool.or_eq_true, decide_eq_true_iff,
        ← hrest, List.mem_cons, Piece.number.injEq]

/-! ## Replacing marks -/

/-- What stands in the places of the numbers after one more kind of mark has been replaced. -/
def put (σ : Parameter → List Char) (p : Parameter) (new : List Char) (q : Parameter) :
    List Char :=
  if q = p then new else σ q

/-- **A replacement writes one number** wherever its mark stands. Other marks and what has been
written are left alone. -/
theorem replaceFrom_render {σ : Parameter → List Char} {p : Parameter} (hp : σ p = p.mark)
    (hothers : ∀ q, q ≠ p → σ q = q.mark ∨ '$' ∉ σ q) (new : List Char) {ps : List Piece}
    (h : orderly ps = true) :
    replaceFrom p.mark new 0 (render σ ps) = render (put σ p new) ps := by
  induction ps with
  | nil => rfl
  | cons piece ps ih =>
    cases piece with
    | char c =>
      obtain ⟨hc, hps⟩ := orderly_char h
      have hclear : Clear p.mark [c] (render σ ps) :=
        clear_of_head_not_mem (by simpa using hc.symm) _
      have hreplace := replaceFrom_append_of_clear new hclear
      rw [ih hps] at hreplace
      exact hreplace
    | number q =>
      have hrest := ih (orderly_number h).2
      rw [render, render, ← hrest]
      by_cases hq : q = p
      · rw [put, if_pos hq, hq, hp, replaceFrom_append _ _ (by simp [Parameter.mark])]
      · have hclear : Clear p.mark (σ q) (render σ ps) := by
          rcases hothers q hq with hmark | hdollar
          · rw [hmark]
            exact clear_of_foreign (Parameter.foreign_mark hq) _
          · exact clear_of_head_not_mem hdollar _
        rw [put, if_neg hq, replaceFrom_append_of_clear new hclear]

/-- The digits of some numbers. -/
def numerals (values : Parameter → Nat) (p : Parameter) : List Char := Nat.toDigits 10 (values p)

theorem isDigit_of_mem_numerals {values : Parameter → Nat} {p : Parameter} {c : Char}
    (h : c ∈ numerals values p) : c.isDigit = true :=
  Nat.isDigit_of_mem_toDigits (by decide) (by decide) h

theorem dollar_not_mem_numerals (values : Parameter → Nat) (p : Parameter) :
    '$' ∉ numerals values p := fun h => absurd (isDigit_of_mem_numerals h) (by decide)

theorem dollar_not_mem_render (values : Parameter → Nat) {ps : List Piece}
    (h : orderly ps = true) : '$' ∉ render (numerals values) ps := by
  induction ps with
  | nil => exact List.not_mem_nil
  | cons piece ps ih =>
    cases piece with
    | char c =>
      obtain ⟨hc, hps⟩ := orderly_char h
      rw [render, List.mem_cons, not_or]
      exact ⟨hc.symm, ih hps⟩
    | number p =>
      rw [render, List.mem_append, not_or]
      exact ⟨dollar_not_mem_numerals values p, ih (orderly_number h).2⟩

/-! ## Reading numbers back -/

/-- Digits are read up to what is no digit. -/
theorem append_inj_of_digits {a b s t : List Char} (ha : ∀ c ∈ a, c.isDigit = true)
    (hb : ∀ c ∈ b, c.isDigit = true) (hs : ∀ c, s.head? = some c → c.isDigit = false)
    (ht : ∀ c, t.head? = some c → c.isDigit = false) (h : a ++ s = b ++ t) : a = b ∧ s = t := by
  have hstop : ∀ u : List Char, (∀ c, u.head? = some c → c.isDigit = false) →
      u.takeWhile Char.isDigit = [] := by
    intro u hu
    cases u with
    | nil => rfl
    | cons c u => simp [hu c rfl]
  have htake := congrArg (List.takeWhile Char.isDigit) h
  rw [List.takeWhile_append_of_pos ha, List.takeWhile_append_of_pos hb, hstop s hs, hstop t ht,
    List.append_nil, List.append_nil] at htake
  subst htake
  exact ⟨rfl, List.append_cancel_left h⟩

/-- What follows a number does not begin with a digit. -/
theorem head?_render_of_endsNumber {values : Parameter → Nat} {ps : List Piece}
    (h : ps.head?.all endsNumber = true) (c : Char)
    (hc : (render (numerals values) ps).head? = some c) : c.isDigit = false := by
  cases ps with
  | nil => cases hc
  | cons piece ps =>
    cases piece with
    | char d =>
      obtain rfl : d = c := Option.some.inj hc
      simpa [endsNumber] using h
    | number p => simp [endsNumber] at h

/-- **The numbers of a text are told from what is written.** -/
theorem render_eq_iff {values others : Parameter → Nat} {ps : List Piece}
    (h : orderly ps = true) :
    render (numerals values) ps = render (numerals others) ps ↔
      ∀ p, .number p ∈ ps → values p = others p := by
  induction ps with
  | nil => simp [render]
  | cons piece ps ih =>
    cases piece with
    | char c =>
      rw [render, render, List.cons.injEq, ih (orderly_char h).2]
      simp
    | number p =>
      obtain ⟨hends, hps⟩ := orderly_number h
      rw [render, render]
      constructor
      · intro heq q hq
        obtain ⟨hdigits, hrest⟩ := append_inj_of_digits (fun _ => isDigit_of_mem_numerals)
          (fun _ => isDigit_of_mem_numerals) (head?_render_of_endsNumber hends)
          (head?_render_of_endsNumber hends) heq
        rcases List.mem_cons.1 hq with hqp | hq
        · obtain rfl := Piece.number.inj hqp
          have hread := congrArg (Nat.ofDigitChars 10 · 0) hdigits
          simpa only [numerals, Nat.ofDigitChars_ten_toDigits] using hread
        · exact (ih hps).1 hrest q hq
      · intro hall
        have hp : numerals values p = numerals others p :=
          congrArg (Nat.toDigits 10) (hall p List.mem_cons_self)
        rw [hp, (ih hps).2 fun q hq => hall q (List.mem_cons_of_mem _ hq)]

/-- Whether two texts come to differ before they both come to a number. -/
def partsWays : List Piece → List Piece → Bool
  | .char c :: ps, .char d :: qs => c != d || partsWays ps qs
  | .char c :: _, .number _ :: _ => !c.isDigit
  | .number _ :: _, .char c :: _ => !c.isDigit
  | [], _ :: _ => true
  | _ :: _, [] => true
  | _, _ => false

theorem exists_digit (values : Parameter → Nat) (p : Parameter) :
    ∃ c s, numerals values p = c :: s ∧ c.isDigit = true := by
  obtain ⟨c, s, hdigits⟩ := List.exists_cons_of_length_pos
    (Nat.length_toDigits_pos (b := 10) (n := values p))
  have hmem : c ∈ numerals values p := by
    rw [numerals, hdigits]
    exact List.mem_cons_self
  exact ⟨c, s, hdigits, isDigit_of_mem_numerals hmem⟩

/-- **Texts that part ways are told apart**, whatever numbers are written in them. -/
theorem render_ne_of_partsWays (values others : Parameter → Nat) {ps qs : List Piece}
    (h : partsWays ps qs = true) :
    render (numerals values) ps ≠ render (numerals others) qs := by
  fun_induction partsWays ps qs with
  | case1 c ps d qs ih =>
    intro heq
    obtain ⟨rfl, hrest⟩ := List.cons.inj heq
    exact ih (by simpa using h) hrest
  | case2 c ps p qs =>
    obtain ⟨d, s, hdigits, hd⟩ := exists_digit others p
    rw [render, render, hdigits]
    rintro heq
    obtain ⟨rfl, -⟩ := List.cons.inj heq
    simp [hd] at h
  | case3 p ps c qs =>
    obtain ⟨d, s, hdigits, hd⟩ := exists_digit values p
    rw [render, render, hdigits]
    rintro heq
    obtain ⟨rfl, -⟩ := List.cons.inj heq
    simp [hd] at h
  | case4 q qs =>
    cases q with
    | char c => exact fun heq => nomatch heq
    | number p =>
      obtain ⟨d, s, hdigits, -⟩ := exists_digit others p
      rw [render, render, hdigits]
      exact fun heq => nomatch heq
  | case5 q qs =>
    cases q with
    | char c => exact fun heq => nomatch heq
    | number p =>
      obtain ⟨d, s, hdigits, -⟩ := exists_digit values p
      rw [render, render, hdigits]
      exact fun heq => nomatch heq
  | case6 => cases h

end Spelling

/-! ## Rules -/

namespace TypeRule

open Spelling

/-- A rule whose texts can be read back, and told from one another. -/
structure Legible (rule : TypeRule) : Prop where
  orderly : ∀ text ∈ rule.texts, orderly (pieces text.toList) = true
  partsWays : ∀ longest beyond, rule.ceiling = some (longest, beyond) →
    partsWays (pieces rule.template.toList) (pieces beyond.toList) = true

variable {rule : TypeRule}

/-- The text that applies to a length is the template, or that of longer values. -/
theorem chosen_cases (rule : TypeRule) (length : UInt32) :
    rule.chosen length = rule.template ∨
      ∃ longest, rule.ceiling = some (longest, rule.chosen length) ∧ longest < length := by
  unfold chosen
  split
  · rename_i longest beyond hceiling
    split
    · exact .inr ⟨longest, hceiling, by assumption⟩
    · exact .inl rfl
  · exact .inl rfl

theorem chosen_mem_texts (rule : TypeRule) (length : UInt32) :
    rule.chosen length ∈ rule.texts := by
  rcases rule.chosen_cases length with h | ⟨longest, h, -⟩
  · rw [h]
    exact List.mem_cons_self
  · exact List.mem_cons_of_mem _ (by simp [h])

/-- The text of a rule that lengths select: that for longer values if their length is beyond the
longest one of the template, which applies otherwise. -/
inductive Selects (rule : TypeRule) (lengths : Lengths) : String → Prop
  | template (fits : ∀ longest beyond, rule.ceiling = some (longest, beyond) →
      lengths.value .length ≤ longest) : Selects rule lengths rule.template
  | beyond {longest : UInt32} {beyond : String} (ceiling : rule.ceiling = some (longest, beyond))
      (long : longest < lengths.value .length) : Selects rule lengths beyond

theorem selects_iff {rule : TypeRule} {lengths : Lengths} {text : String} :
    rule.Selects lengths text ↔ text = rule.chosen (lengths.value .length) := by
  unfold chosen
  constructor
  · intro h
    cases h with
    | template hfits =>
      split
      · rename_i longest beyond hceiling
        rw [if_neg (UInt32.not_lt.2 (hfits longest beyond hceiling))]
      · rfl
    | beyond hceiling hlong =>
      rw [hceiling]
      exact (if_pos hlong).symm
  · rintro rfl
    split
    · rename_i longest beyond hceiling
      split
      · exact .beyond hceiling (by assumption)
      · rename_i hshort
        refine .template fun longest' beyond' h => ?_
        rw [hceiling] at h
        obtain ⟨rfl, rfl⟩ := Prod.mk.inj (Option.some.inj h)
        exact UInt32.not_lt.1 hshort
    · rename_i hnone
      exact .template fun longest beyond h => absurd (hnone.symm.trans h) nofun

/-- **A spelling is the text of the rule with the numbers in it**, each at the places of its
mark. -/
theorem toList_write (h : rule.Legible) (lengths : Lengths) :
    (rule.write lengths).toList = render (numerals fun p => (lengths.value p).toNat)
      (pieces (rule.chosen (lengths.value .length)).toList) := by
  have horderly := h.orderly _ (rule.chosen_mem_texts (lengths.value .length))
  have hdigits : ∀ n : Nat, (toString n).toList = Nat.toDigits 10 n := fun _ => Nat.toList_repr
  have hdollar : ∀ n : Nat, '$' ∉ Nat.toDigits 10 n := fun n hn =>
    absurd (Nat.isDigit_of_mem_toDigits (by decide) (by decide) hn) (by decide)
  have hlength := replaceFrom_render (p := .length) rfl (fun q _ => .inl rfl)
    (Nat.toDigits 10 (lengths.value .length).toNat) horderly
  have hprecision := replaceFrom_render (p := .precision)
    (σ := put Parameter.mark .length (Nat.toDigits 10 (lengths.value .length).toNat)) rfl
    (fun q _ => by cases q <;> first | exact .inr (hdollar _) | exact .inl rfl)
    (Nat.toDigits 10 (lengths.value .precision).toNat) horderly
  have hscale := replaceFrom_render (p := .scale)
    (σ := put (put Parameter.mark .length (Nat.toDigits 10 (lengths.value .length).toNat))
      .precision (Nat.toDigits 10 (lengths.value .precision).toNat)) rfl
    (fun q hq => by cases q <;> first | exact .inr (hdollar _) | exact absurd rfl hq)
    (Nat.toDigits 10 (lengths.value .scale).toNat) horderly
  rw [render_pieces] at hlength
  rw [← hlength] at hprecision
  rw [← hprecision] at hscale
  rw [write]
  simp only [replaceAll, String.toList_ofList, hdigits]
  refine hscale.trans (congrArg (render · _) (funext fun q => ?_))
  cases q <;> rfl

theorem dollar_not_mem_write (h : rule.Legible) (lengths : Lengths) :
    '$' ∉ (rule.write lengths).toList := by
  rw [toList_write h]
  exact dollar_not_mem_render _ (h.orderly _ (rule.chosen_mem_texts _))

theorem askedBy_iff (h : rule.Legible) {p : Parameter} {length : UInt32} :
    p.AskedBy (rule.chosen length) ↔ .number p ∈ pieces (rule.chosen length).toList := by
  rw [number_mem_iff (h.orderly _ (rule.chosen_mem_texts length)), render_pieces]
  rfl

/-- Different texts of a rule give different spellings. -/
theorem chosen_eq_of_write_eq (h : rule.Legible) {a b : Lengths}
    (heq : rule.write a = rule.write b) :
    rule.chosen (a.value .length) = rule.chosen (b.value .length) := by
  have htexts := congrArg String.toList heq
  rw [toList_write h, toList_write h] at htexts
  rcases rule.chosen_cases (a.value .length) with ha | ⟨longest, ha, -⟩ <;>
    rcases rule.chosen_cases (b.value .length) with hb | ⟨longest', hb, -⟩
  · rw [ha, hb]
  · rw [ha] at htexts
    exact absurd htexts (render_ne_of_partsWays _ _ (h.partsWays _ _ hb))
  · rw [hb] at htexts
    exact absurd htexts.symm (render_ne_of_partsWays _ _ (h.partsWays _ _ ha))
  · rw [ha] at hb
    exact (Prod.mk.inj (Option.some.inj hb)).2

/-- **Two spellings of a rule are the same exactly if the rule has one text for both and the numbers
that this text asks for are the same.** -/
theorem write_eq_iff (h : rule.Legible) (a b : Lengths) :
    rule.write a = rule.write b ↔
      rule.chosen (a.value .length) = rule.chosen (b.value .length) ∧
        ∀ p : Parameter, p.AskedBy (rule.chosen (a.value .length)) → a.value p = b.value p := by
  have hsame : ∀ hchosen : rule.chosen (a.value .length) = rule.chosen (b.value .length),
      rule.write a = rule.write b ↔
        ∀ p : Parameter, p.AskedBy (rule.chosen (a.value .length)) → a.value p = b.value p := by
    intro hchosen
    rw [← String.toList_inj, toList_write h, toList_write h, ← hchosen,
      render_eq_iff (h.orderly _ (rule.chosen_mem_texts _))]
    simp only [askedBy_iff h, UInt32.toNat_inj]
  refine ⟨fun heq => ?_, fun ⟨hchosen, hvalues⟩ => (hsame hchosen).2 hvalues⟩
  have hchosen := chosen_eq_of_write_eq h heq
  exact ⟨hchosen, (hsame hchosen).1 heq⟩

/-- A length that is too long for the template is written only by the text for longer values. -/
theorem askedBy_beyond {longest length : UInt32} {beyond : String}
    (hceiling : rule.ceiling = some (longest, beyond)) (hlong : longest < length) {p : Parameter}
    (h : p.AskedBy (rule.chosen length)) : p.AskedBy beyond := by
  simpa only [chosen, hceiling, if_pos hlong] using h

end TypeRule

namespace Dialect

open Spelling

/-- **The texts of all dialects are legible.** -/
theorem legible_rules : ∀ rules ∈ Spelling.rules, ∀ type ∈ ColumnType.all,
    (rules type).all (fun rule =>
      rule.texts.all (fun text => orderly (pieces text.toList)) &&
        rule.ceiling.all fun (_, beyond) =>
          partsWays (pieces rule.template.toList) (pieces beyond.toList)) = true := by
  decide +kernel

theorem legible_of_typeRule? {dialect : Dialect} {type : ColumnType} {rule : TypeRule}
    (h : dialect.typeRule? type = some rule) : rule.Legible := by
  have hrule := legible_rules _ dialect.typeRule?_mem type type.mem_all
  rw [h, Option.all_some, Bool.and_eq_true, List.all_eq_true] at hrule
  refine ⟨hrule.1, fun longest beyond hceiling => ?_⟩
  have hpartsWays := hrule.2
  rwa [hceiling, Option.all_some] at hpartsWays

/-- **The spelling of a type is faithful to its lengths.** Every mark gives way, and two spellings
are the same exactly if they come from one text of the rule and the numbers that it asks for are the
same. A length beyond the longest one is written only where the text for longer values asks for it,
and numbers that are both written are told apart. -/
theorem spell_eq_iff {dialect : Dialect} {type : ColumnType} {rule : TypeRule}
    (hrule : dialect.typeRule? type = some rule) (a b : Lengths) :
    ∃ s t x y, dialect.spell type a = .ok s ∧ dialect.spell type b = .ok t ∧
      rule.Selects a x ∧ rule.Selects b y ∧ '$' ∉ s.toList ∧ '$' ∉ t.toList ∧
      (s = t ↔ x = y ∧ ∀ p : Parameter, p.AskedBy x → a.value p = b.value p) ∧
      (∀ longest beyond, rule.ceiling = some (longest, beyond) → longest < a.value .length →
        Parameter.length.AskedBy x → Parameter.length.AskedBy beyond) ∧
      (∀ p : Parameter, p.AskedBy x → p.AskedBy y → a.value p ≠ b.value p → s ≠ t) := by
  have hlegible := legible_of_typeRule? hrule
  have hspell : ∀ lengths, dialect.spell type lengths = .ok (rule.write lengths) :=
    fun lengths => orError_eq_ok_iff.2 (Option.map_eq_some_iff.2 ⟨rule, hrule, rfl⟩)
  have hiff := TypeRule.write_eq_iff hlegible a b
  refine ⟨_, _, _, _, hspell a, hspell b, TypeRule.selects_iff.2 rfl, TypeRule.selects_iff.2 rfl,
    TypeRule.dollar_not_mem_write hlegible a, TypeRule.dollar_not_mem_write hlegible b, hiff,
    fun longest beyond hceiling hlong hasked => ?_,
    fun p hasked _ hne heq => hne ((hiff.1 heq).2 p hasked)⟩
  exact TypeRule.askedBy_beyond hceiling hlong hasked

/-- A length beyond the longest one selects another text. Of a decimal type the precision and the
scale are told from the spelling, and those that are not set are 19 and 2. -/
theorem spell_eq_iff_informix :
    Dialect.informix.typeRule? .varchar = some ⟨"varchar($l)", some (255, "lvarchar($l)")⟩ ∧
    Dialect.informix.typeRule? .decimal = some ⟨"decimal($p,$s)", none⟩ ∧
    Dialect.informix.spell .varchar { length := some 255 } ≠
      Dialect.informix.spell .varchar { length := some 256 } ∧
    Dialect.informix.spell .decimal { precision := some 10 } ≠
      Dialect.informix.spell .decimal {} ∧
    Dialect.informix.spell .decimal { scale := some 3 } ≠ Dialect.informix.spell .decimal {} ∧
    Dialect.informix.spell .decimal { precision := some 19, scale := some 2 } =
      Dialect.informix.spell .decimal {} := by
  have hvarchar : Dialect.informix.typeRule? .varchar =
      some ⟨"varchar($l)", some (255, "lvarchar($l)")⟩ := rfl
  have hdecimal : Dialect.informix.typeRule? .decimal = some ⟨"decimal($p,$s)", none⟩ := rfl
  have hdiffer : ∀ (a : Lengths) (p : Parameter), p.AskedBy "decimal($p,$s)" →
      a.value p ≠ Lengths.value {} p →
        Dialect.informix.spell .decimal a ≠ Dialect.informix.spell .decimal {} := by
    intro a p hasked hne
    obtain ⟨s, t, x, y, hs, ht, hx, hy, -, -, -, -, htold⟩ := spell_eq_iff hdecimal a {}
    rw [TypeRule.selects_iff.1 hx, TypeRule.selects_iff.1 hy] at htold
    rw [hs, ht]
    exact fun heq => htold p hasked hasked hne (Except.ok.inj heq)
  refine ⟨hvarchar, hdecimal, ?_, hdiffer _ .precision rfl (by decide),
    hdiffer _ .scale rfl (by decide), ?_⟩
  · obtain ⟨s, t, x, y, hs, ht, hx, hy, -, -, hiff, -⟩ :=
      spell_eq_iff hvarchar { length := some 255 } { length := some 256 }
    rw [hs, ht]
    intro heq
    have htexts := (hiff.1 (Except.ok.inj heq)).1
    rw [TypeRule.selects_iff.1 hx, TypeRule.selects_iff.1 hy] at htexts
    exact absurd htexts (by decide)
  · obtain ⟨s, t, x, y, hs, ht, hx, hy, -, -, hiff, -⟩ :=
      spell_eq_iff hdecimal { precision := some 19, scale := some 2 } {}
    rw [hs, ht]
    refine congrArg Except.ok (hiff.2 ⟨?_, fun p _ => by cases p <;> rfl⟩)
    rw [TypeRule.selects_iff.1 hx, TypeRule.selects_iff.1 hy]
    rfl

end Dialect

end PolySql
