import PolySql.Proofs.Page.Clauses
import PolySql.Proofs.Page.ListEnd
import PolySql.Proofs.Text.Words

/-!
# The name at the end of an item

An item of a select list is an expression and a name. The name is looked for from the start of the
item, so the expression must not leave a quoted name open.

* `Name`, `Name.text` — what may stand for a column: a word, or a quoted name of any content.
* `Leaves` — a text behind which the search for a quoted name starts anew;
  `spanAtEnd?_append` says which texts do that.
* `trailingQuoted?_append`, `wordAlias?_append` — the name behind such a text is found.

Principal result: `outputName_append` — an item is named by the name at its end, unless what stands
before the name breaks off in an operator.
-/

namespace PolySql.SelectList

open Text

/-! ## Names -/

/-- A name that may be given to a column. -/
inductive Name where
  /-- A word of letters, digits and underscores. -/
  | word (letters : List Char) (visible : letters ≠ []) (plain : letters.all inWord = true)
  /-- Any text in quotes, with the quotes in it doubled. -/
  | quoted (quote : Char) (isQuote : quote = '"' ∨ quote = '\x60') (content : List Char)
  /-- A text in brackets that does not close them. -/
  | bracketed (content : List Char) (inside : ']' ∉ content)

/-- A letter of a word is no other character, and no blank. -/
theorem ne_of_inWord {c d : Char} (hc : inWord c = true) (hd : inWord d = false) : c ≠ d := by
  rintro rfl
  rw [hc] at hd
  cases hd

theorem not_isBlank_of_inWord {c : Char} (h : inWord c = true) : isBlank c = false := by
  rw [Bool.eq_false_iff]
  intro hblank
  simp only [isBlank, Bool.or_eq_true, Bool.and_eq_true, decide_eq_true_eq, beq_iff_eq] at hblank
  change (((decide (c.val ≥ 65 ∧ c.val ≤ 90) ||
    (decide (c.val ≥ 97) && decide (c.val ≤ 122))) ||
      (decide (c.val ≥ 48) && decide (c.val ≤ 57))) || c == '_') = true at h
  simp only [Bool.or_eq_true, Bool.and_eq_true, decide_eq_true_eq, beq_iff_eq, ge_iff_le,
    UInt32.le_iff_toNat_le] at h
  change (((65 ≤ c.toNat ∧ c.toNat ≤ 90) ∨ (97 ≤ c.toNat ∧ c.toNat ≤ 122)) ∨
    (48 ≤ c.toNat ∧ c.toNat ≤ 57)) ∨ c = '_' at h
  rcases h with h | rfl
  · omega
  · exact absurd hblank (by decide)

theorem nameQuotes_of_inWord {c : Char} (h : inWord c = true) : nameQuotes c = none := by
  refine Option.eq_none_iff_forall_ne_some.2 fun e he => ?_
  rcases nameQuotes_eq_some he with ⟨rfl, -⟩ | ⟨-, rfl | rfl | rfl⟩ <;> cases h

namespace Name

/-- A name as it is written. -/
def text : Name → List Char
  | word letters _ _ => letters
  | quoted quote _ content => quote :: (doubled quote content ++ [quote])
  | bracketed content _ => '[' :: (content ++ [']'])

/-- The text of a name in quotes or brackets. -/
def quotedText? : Name → Option (List Char)
  | word _ _ _ => none
  | name => some name.text

/-- A name in quotes or brackets is quoted as a whole. -/
theorem covered {name : Name} (h : name.quotedText?.isSome = true) :
    Covered nameQuotes none name.text := by
  cases name with
  | word letters _ _ => cases h
  | quoted quote hquote content =>
    have hopens : nameQuotes quote = some quote := by rcases hquote with rfl | rfl <;> rfl
    refine .cons (by rw [isQuoted_none, hopens]; rfl) ?_
    rw [closerAfter, hopens]
    exact covered_doubled hopens content
  | bracketed content hinside => exact .cons rfl (covered_bracketed hinside)

/-- Every blank of a name is quoted. -/
theorem blanksQuoted (name : Name) : BlanksQuoted nameQuotes none name.text := by
  cases name with
  | word letters _ hplain =>
    exact .of_visible fun c hc => not_isBlank_of_inWord (List.all_eq_true.1 hplain c hc)
  | quoted quote hquote content => exact .of_covered (covered rfl)
  | bracketed content hinside => exact .of_covered (covered rfl)

theorem level (name : Name) : Level nameQuotes name.text := by
  cases name with
  | word letters _ hplain =>
    have hplain := List.all_eq_true.1 hplain
    exact .of_plain fun c hc => ⟨nameQuotes_of_inWord (hplain c hc),
      ne_of_inWord (hplain c hc) rfl, ne_of_inWord (hplain c hc) rfl⟩
  | quoted quote hquote content => exact (covered rfl).level
  | bracketed content hinside => exact (covered rfl).level

/-- No comma of a name cuts it. -/
theorem one_piece (name : Name) : splitTopLevel nameQuotes name.text = [name.text] := by
  cases name with
  | word letters _ hplain =>
    exact splitFrom_of_not_mem
      (fun hcomma => ne_of_inWord (List.all_eq_true.1 hplain _ hcomma) rfl rfl) none 0
  | quoted quote hquote content => exact (covered rfl).one_piece nameQuotes_proper
  | bracketed content hinside => exact (covered rfl).one_piece nameQuotes_proper

/-- A name is the word that ends a list. -/
def IsFrom : Name → Prop
  | word letters _ _ => lower letters = "from".toList
  | _ => False

instance : DecidablePred IsFrom
  | word letters _ _ => inferInstanceAs (Decidable (lower letters = "from".toList))
  | quoted _ _ _ => inferInstanceAs (Decidable False)
  | bracketed _ _ => inferInstanceAs (Decidable False)

/-- No list ends within a name, unless it is the word `from` and a blank follows. -/
theorem passes {name : Name} {c : Char} {r : List Char} (hc : c.toLower ∉ "from".toList)
    (hfrom : name.IsFrom → isBlank c = false) : Passes name.text (c :: r) := by
  cases name with
  | word letters _ hplain =>
    exact .of_letters (fun d hd => not_isBlank_of_inWord (List.all_eq_true.1 hplain d hd)) hc hfrom
  | quoted quote hquote content => exact .of_covered (covered rfl) (c :: r)
  | bracketed content hinside => exact .of_covered (covered rfl) (c :: r)

/-- A name begins with a character, which is no blank. -/
theorem exists_head (name : Name) : ∃ c r, name.text = c :: r ∧ isBlank c = false := by
  cases name with
  | word letters hne hplain =>
    obtain ⟨c, r, rfl⟩ := List.exists_cons_of_ne_nil hne
    exact ⟨c, r, rfl, not_isBlank_of_inWord (List.all_eq_true.1 hplain c List.mem_cons_self)⟩
  | quoted quote hquote content =>
    exact ⟨quote, _, rfl, by rcases hquote with rfl | rfl <;> rfl⟩
  | bracketed content hinside => exact ⟨'[', _, rfl, rfl⟩

/-- A name ends with a character, which is neither a blank nor a star. -/
theorem exists_last (name : Name) :
    ∃ c, name.text.getLast? = some c ∧ isBlank c = false ∧ c ≠ '*' := by
  cases name with
  | word letters hne hplain =>
    have hlast := List.all_eq_true.1 hplain _ (List.getLast_mem hne)
    exact ⟨_, List.getLast?_eq_some_getLast hne, not_isBlank_of_inWord hlast,
      ne_of_inWord hlast rfl⟩
  | quoted quote hquote content =>
    refine ⟨quote, ?_, ?_, ?_⟩
    · rw [text, List.getLast?_cons, List.getLast?_concat]
      rfl
    · rcases hquote with rfl | rfl <;> rfl
    · rcases hquote with rfl | rfl <;> decide
  | bracketed content hinside =>
    refine ⟨']', ?_, rfl, by decide⟩
    rw [text, List.getLast?_cons, List.getLast?_concat]
    rfl

end Name

/-! ## The search for a quoted name -/

/-- Inside a span, a character that does not close it belongs to it. -/
theorem spanAtEnd?_inside {c e : Char} (hc : c ≠ e) (span : List Char) {s : List Char}
    (hs : s ≠ []) : spanAtEnd? (some (e, span)) (c :: s) = spanAtEnd? (some (e, span)) s := by
  obtain ⟨d, r, rfl⟩ := List.exists_cons_of_ne_nil hs
  rw [spanAtEnd?, if_pos hc]

/-- A span ends where its closing character is not doubled. -/
theorem spanAtEnd?_doubled (q : Char) (span content : List Char) :
    spanAtEnd? (some (q, span)) (doubled q content ++ [q]) = some span := by
  induction content with
  | nil => simp [doubled, spanAtEnd?]
  | cons c s ih =>
    rw [doubled_cons, List.append_assoc]
    by_cases hc : c = q
    · rw [if_pos hc]
      simp only [List.cons_append, List.nil_append]
      rw [spanAtEnd?, if_neg (by simp), if_pos rfl, ih]
    · rw [if_neg hc, List.singleton_append, spanAtEnd?_inside hc _ (by simp), ih]

/-- A span is left behind its closing character where that is not doubled. -/
theorem spanAtEnd?_doubled_append {q d : Char} (hd : d ≠ q) (span content t : List Char) :
    spanAtEnd? (some (q, span)) (doubled q content ++ q :: d :: t) = spanAtEnd? none (d :: t) := by
  generalize hbehind : spanAtEnd? none (d :: t) = behind
  induction content with
  | nil =>
    have hnil : doubled q [] = [] := rfl
    rw [hnil, List.nil_append, spanAtEnd?, if_neg (by simp), if_neg hd, hbehind]
  | cons c s ih =>
    rw [doubled_cons, List.append_assoc]
    by_cases hc : c = q
    · rw [if_pos hc]
      simp only [List.cons_append, List.nil_append]
      rw [spanAtEnd?, if_neg (by simp), if_pos rfl, ih]
    · rw [if_neg hc, List.singleton_append, spanAtEnd?_inside hc _ (by simp), ih]

/-- No quoted name begins in a text without quotes. -/
theorem spanAtEnd?_plain_append {s : List Char} (h : ∀ c ∈ s, nameQuotes c = none)
    (t : List Char) : spanAtEnd? none (s ++ t) = spanAtEnd? none t := by
  induction s with
  | nil => rfl
  | cons c s ih =>
    rw [List.cons_append, spanAtEnd?, h c List.mem_cons_self]
    exact ih fun x hx => h x (List.mem_cons_of_mem c hx)

/-- A quoted name is found, a word is none. -/
theorem Name.spanAtEnd?_text (name : Name) : spanAtEnd? none name.text = name.quotedText? := by
  cases name with
  | word letters _ hplain =>
    have hnone := spanAtEnd?_plain_append
      (fun c hc => nameQuotes_of_inWord (List.all_eq_true.1 hplain c hc)) []
    rwa [List.append_nil] at hnone
  | quoted quote hquote content =>
    have hopens : nameQuotes quote = some quote := by rcases hquote with rfl | rfl <;> rfl
    rw [text, spanAtEnd?, hopens]
    exact spanAtEnd?_doubled quote _ content
  | bracketed content hinside =>
    have hname := spanAtEnd?_doubled ']' ('[' :: (content ++ [']'])) content
    rw [doubled_of_not_mem hinside] at hname
    exact hname

/-- Behind a name and a character that quotes nothing, the search starts anew. -/
theorem Name.spanAtEnd?_append (name : Name) {d : Char} (hd : nameQuotes d = none)
    (hbracket : d ≠ ']') (t : List Char) :
    spanAtEnd? none (name.text ++ d :: t) = spanAtEnd? none t := by
  have hbehind : spanAtEnd? none (d :: t) = spanAtEnd? none t := by
    rw [spanAtEnd?, hd]
    rfl
  cases name with
  | word letters _ hplain =>
    rw [text, spanAtEnd?_plain_append
      fun c hc => nameQuotes_of_inWord (List.all_eq_true.1 hplain c hc), hbehind]
  | quoted quote hquote content =>
    have hopens : nameQuotes quote = some quote := by rcases hquote with rfl | rfl <;> rfl
    have hne : d ≠ quote := by
      rintro rfl
      rw [hd] at hopens
      cases hopens
    rw [text, List.cons_append, List.append_assoc, List.singleton_append, spanAtEnd?, hopens,
      Option.map_some, spanAtEnd?_doubled_append hne, hbehind]
  | bracketed content hinside =>
    have hspan := spanAtEnd?_doubled_append hbracket ('[' :: (content ++ ']' :: d :: t)) content t
    rw [doubled_of_not_mem hinside, hbehind] at hspan
    rw [text, List.cons_append, List.append_assoc, List.singleton_append]
    exact hspan

/-- No bracketed name in a text is followed by a bracket that would be read into it. -/
def NoDoubledBracket (q : Option Char) (s : List Char) : Prop :=
  ∀ x y, s = x ++ ']' :: ']' :: y → closerAfterAll nameQuotes q x ≠ some ']'

theorem NoDoubledBracket.of_cons {q : Option Char} {c : Char} {s : List Char}
    (h : NoDoubledBracket q (c :: s)) : NoDoubledBracket (closerAfter nameQuotes q c) s :=
  fun x y hs => h (c :: x) y (by rw [hs]; rfl)

/-- Inside a quoted span, whatever closes it may open another one, but for brackets. -/
theorem nameQuotes_closer {c e : Char} (h : nameQuotes c = some e) :
    nameQuotes e = some e ∨ e = ']' := by
  rcases nameQuotes_eq_some h with ⟨-, rfl⟩ | ⟨rfl, -⟩
  · exact .inr rfl
  · exact .inl h

/-- **The search for a quoted name starts anew behind a text that closes what it opens**, and a
space. It reads a doubled quote as a part of the name, which ends one name and opens the next for
any other scan; that makes no difference where the text ends. -/
theorem spanAtEnd?_append (t : List Char) : ∀ {s : List Char} {state : Option (Char × List Char)},
    (∀ e span, state = some (e, span) → nameQuotes e = some e ∨ e = ']') →
    closerAfterAll nameQuotes (state.map Prod.fst) s = none →
    NoDoubledBracket (state.map Prod.fst) s →
    spanAtEnd? state (s ++ ' ' :: t) = spanAtEnd? none t
  | [], none, _, _, _ => rfl
  | [], some (e, span), _, hclosed, _ => by cases hclosed
  | c :: s, none, _, hclosed, hbrackets => by
    rw [List.cons_append, spanAtEnd?]
    have hfst : ((nameQuotes c).map fun e => (e, c :: (s ++ ' ' :: t))).map Prod.fst =
        closerAfter nameQuotes none c := by
      unfold closerAfter
      cases nameQuotes c <;> rfl
    refine spanAtEnd?_append t (s := s) (fun e span he => ?_) ?_ ?_
    · obtain ⟨e', he', hspan⟩ := Option.map_eq_some_iff.1 he
      obtain ⟨rfl, -⟩ := Prod.mk.inj hspan
      exact nameQuotes_closer he'
    · rw [hfst]
      exact hclosed
    · rw [hfst]
      exact hbrackets.of_cons
  | [c], some (e, span), hopens, hclosed, _ => by
    have hc : c = e := Decidable.of_not_not fun hne => by
      rw [closerAfterAll_cons, Option.map_some, closerAfter, if_neg hne] at hclosed
      cases hclosed
    have hspace : ' ' ≠ e := by
      rintro rfl
      rcases hopens ' ' span rfl with h | h <;> cases h
    subst hc
    rw [List.singleton_append, spanAtEnd?, if_neg (by simp), if_neg hspace]
    rfl
  | c :: d :: s, some (e, span), hopens, hclosed, hbrackets => by
    rw [closerAfterAll_cons, Option.map_some, closerAfter] at hclosed
    have htail := hbrackets.of_cons
    rw [Option.map_some, closerAfter] at htail
    rw [List.cons_append, List.cons_append, spanAtEnd?]
    by_cases hc : c = e
    · rw [if_pos hc] at hclosed htail
      rw [if_neg (by simp [hc])]
      by_cases hd : d = e
      · -- The text cannot hold a doubled bracket, so the second quote opens what the first closed.
        have hquote : nameQuotes e = some e := by
          refine (hopens e span rfl).resolve_right fun hbracket => ?_
          exact hbrackets [] s (by rw [hc, hd, hbracket]; rfl) (by rw [hbracket]; rfl)
        have hagain : closerAfter nameQuotes none d = some e := by rw [hd]; exact hquote
        rw [if_pos hd]
        refine spanAtEnd?_append t (s := s) hopens ?_ ?_
        · rwa [closerAfterAll_cons, hagain] at hclosed
        · have hrest := htail.of_cons
          rwa [hagain] at hrest
      · rw [if_neg hd, ← List.cons_append]
        exact spanAtEnd?_append t (s := d :: s) (by simp) hclosed htail
    · rw [if_neg hc] at hclosed htail
      rw [if_pos hc, ← List.cons_append]
      exact spanAtEnd?_append t (s := d :: s) hopens hclosed htail

/-! ## The name of an item -/

/-- A text is seen, and the search for a quoted name starts anew behind it and a space. -/
structure Leaves (front : List Char) : Prop where
  visible : ¬Blanks front
  anew : ∀ t, spanAtEnd? none (front ++ ' ' :: t) = spanAtEnd? none t

variable {front : List Char}

/-- Blanks in front of a text begin no name. -/
theorem Leaves.trimStart (h : Leaves front) : Leaves (trimStart front) := by
  obtain ⟨pre, hpre, hfront⟩ := exists_trimStart front
  refine ⟨fun hblanks => h.visible ?_, fun t => ?_⟩
  · rw [hfront]
    exact hpre.append hblanks
  · have hquotes : ∀ c ∈ pre, nameQuotes c = none :=
      fun c hc => nameQuotes_proper.blank c (hpre c hc)
    rw [← spanAtEnd?_plain_append hquotes, ← List.append_assoc, ← hfront, h.anew]

/-- Neither does a word behind a text. -/
theorem Leaves.word (h : Leaves front) (letters : List Char)
    (hplain : letters.all inWord = true) : Leaves (front ++ ' ' :: letters) := by
  refine ⟨fun hblanks => h.visible fun c hc => hblanks c (List.mem_append_left _ hc), fun t => ?_⟩
  rw [List.append_assoc, List.cons_append, h.anew,
    spanAtEnd?_plain_append fun c hc => nameQuotes_of_inWord (List.all_eq_true.1 hplain c hc)]
  rfl

/-- No name in quotes or brackets is a string literal. -/
theorem trailingQuoted?_of_spanAtEnd? {item : List Char} {name : Name}
    (h : spanAtEnd? none item = name.quotedText?) : trailingQuoted? item = name.quotedText? := by
  rw [trailingQuoted?, h]
  cases name with
  | word letters _ _ => rfl
  | quoted quote hquote content =>
    have hhead : some quote ≠ some '\'' := by rcases hquote with rfl | rfl <;> decide
    simp [Name.quotedText?, Name.text, hhead]
  | bracketed content _ => rfl

theorem trailingQuoted?_append (h : Leaves front) (name : Name) :
    trailingQuoted? (front ++ ' ' :: name.text) = name.quotedText? :=
  trailingQuoted?_of_spanAtEnd? ((h.anew name.text).trans name.spanAtEnd?_text)

/-- A word lacks every character that words are not made of. -/
theorem lacks_of_inWord {chars : String} (hchars : chars.toList.any inWord = false)
    {letters : List Char} (hplain : letters.all inWord = true) : lacks chars letters = true := by
  refine List.all_eq_true.2 fun c hc => ?_
  rw [Bool.not_eq_true', Bool.eq_false_iff, Ne, List.contains_iff_mem]
  have hother : ∀ d ∈ chars.toList, inWord d = false := by simpa using hchars
  exact fun hmem => ne_of_inWord (List.all_eq_true.1 hplain c hc) (hother c hmem) rfl

/-- A word is the alias of what stands before it, unless that breaks off in an operator. -/
theorem wordAlias?_append (hfront : ¬Blanks front) {letters : List Char} (hne : letters ≠ [])
    (hplain : letters.all inWord = true) :
    wordAlias? (front ++ ' ' :: letters) =
      if endsInOperator (trimEnd front) then none else some letters := by
  have hlacks : lacks "().'" letters = true := lacks_of_inWord (by decide) hplain
  have hplain := List.all_eq_true.1 hplain
  obtain ⟨ws, w, hwords, hlast⟩ := exists_last_word hfront
  have hall : words (front ++ ' ' :: letters) = ws ++ [w] ++ [letters] := by
    rw [words_append_blank rfl, hwords,
      words_of_letters hne fun c hc => not_isBlank_of_inWord (hplain c hc)]
  have hoperator : endsInOperator w = endsInOperator (trimEnd front) := by
    rw [endsInOperator, endsInOperator, hlast]
  rw [wordAlias?, hall, List.reverse_concat, List.reverse_concat]
  dsimp only
  rw [hlacks, Bool.and_true, hoperator]
  cases endsInOperator (trimEnd front) <;> rfl

/-- **An item is named by the name at its end**, unless what stands before the name breaks off in an
operator: then the item is an expression, and its own name. -/
theorem outputName_append (h : Leaves front) (name : Name) :
    outputName (front ++ ' ' :: name.text) =
      if endsInOperator (trimEnd front) then front ++ ' ' :: name.text else name.text := by
  rw [outputName, trailingQuoted?_append h]
  have hquoted : ∀ text : List Char, endsInOperator (trimEnd ((front ++ ' ' :: text).take
      ((front ++ ' ' :: text).length - text.length))) = endsInOperator (trimEnd front) := by
    intro text
    have hlength : (front ++ ' ' :: text).length - text.length = (front ++ [' ']).length := by
      simp only [List.length_append, List.length_cons, List.length_nil]
      omega
    have hsplit : front ++ ' ' :: text = (front ++ [' ']) ++ text := by simp
    rw [hlength, hsplit, List.take_left, trimEnd_append .space]
  cases name with
  | word letters hne hplain =>
    rw [Name.quotedText?, Name.text, wordAlias?_append h.visible hne hplain]
    have hspace : lacks "( '" (front ++ ' ' :: letters) = false := by
      simp [lacks]
    cases endsInOperator (trimEnd front) <;> simp [hspace]
  | quoted quote hquote content =>
    dsimp only [Name.quotedText?]
    rw [hquoted]
  | bracketed content hinside =>
    dsimp only [Name.quotedText?]
    rw [hquoted]

/-- An item that ends with no star does not stand for all columns. -/
theorem isWildcard_eq_false {item : List Char} {c : Char} (hlast : item.getLast? = some c)
    (hstar : c ≠ '*') : isWildcard item = false := by
  rw [Bool.eq_false_iff]
  intro hwildcard
  rw [isWildcard, Bool.or_eq_true] at hwildcard
  have hends : item.getLast? = some '*' := by
    rcases hwildcard with hall | hsuffix
    · rw [eq_of_beq hall]
      rfl
    · obtain ⟨x, hx⟩ := List.isSuffixOf_iff_suffix.1 hsuffix
      rw [← hx, List.getLast?_append]
      rfl
  rw [hlast] at hends
  exact hstar (Option.some.inj hends)

/-- An item with a name at its end does not stand for all columns. -/
theorem isWildcard_append (front : List Char) (name : Name) :
    isWildcard (front ++ ' ' :: name.text) = false := by
  obtain ⟨c, hc, -, hstar⟩ := name.exists_last
  refine isWildcard_eq_false (c := c) ?_ hstar
  rw [List.getLast?_append, List.getLast?_cons, hc]
  rfl

end PolySql.SelectList
