import PolySql.Proofs.Page.Agreement
import PolySql.Proofs.Page.Clauses

/-!
# The lexemes of a statement

A database reads a statement as words, names in quotes and marks. Which characters a bare word may
have differs from one database to the next, as far as letters beyond ASCII are concerned.

* `Alphabet` — the characters of bare words: letters, digits and underscores.
* `Lexeme`, `Lexeme.text` — a word, a name in quotes or a mark, and how it is written.
* `Lexeme.IsIdentifier` — a lexeme that can name something.
* `Scan`, `Scan.run`, `lexemes` — a text read character by character.
* `lexemes_identifier` — an identifier is read as itself.
* `Breaks`, `lexemes_break` — up to a character that goes on with nothing, a text whose quotes are
  closed is read on its own.
* `phrase`, `lexemes_phrase` — keywords are read as words.
-/

namespace PolySql

open Text SelectList

/-! ## Lexemes -/

/-- The characters of bare words. Of the ASCII characters they are the letters, the digits and the
underscore. -/
structure Alphabet where
  holds : Char → Bool
  letters : ∀ c, inWord c = true → holds c = true
  ascii : ∀ c : Char, c.toNat < 128 → inWord c = false → holds c = false
  blanks : ∀ c, isBlank c = true → holds c = false

/-- Words of ASCII characters only. -/
def Alphabet.ofAscii : Alphabet where
  holds := inWord
  letters _ h := h
  ascii _ _ h := h
  blanks c h := by
    rw [Bool.eq_false_iff]
    intro hword
    rw [not_isBlank_of_inWord hword] at h
    cases h

inductive Lexeme where
  | bare (letters : List Char)
  | quoted (quoting : Quoting) (content : List Char)
  /-- A quote that nothing closes, with all that follows. -/
  | unclosed (quoting : Quoting) (content : List Char)
  | mark (c : Char)
  deriving DecidableEq, Repr

namespace Lexeme

/-- How a lexeme is written. -/
def text : Lexeme → List Char
  | bare letters => letters
  | quoted quoting content => quoting.quote content
  | unclosed quoting content => quoting.opening :: doubled quoting.closing content
  | mark c => [c]

def isBare : Lexeme → Bool
  | bare _ => true
  | _ => false

/-- A word, or anything in quotes. -/
inductive IsIdentifier (alphabet : Alphabet) : Lexeme → Prop where
  | bare {letters : List Char} (hne : letters ≠ []) (h : ∀ c ∈ letters, alphabet.holds c = true) :
    IsIdentifier alphabet (.bare letters)
  | quoted (quoting : Quoting) (content : List Char) :
    IsIdentifier alphabet (.quoted quoting content)

end Lexeme

/-! ## Reading -/

/-- The quotes that a character opens. -/
def SelectList.Quoting.openedBy? (c : Char) : Option Quoting :=
  if c = '"' then some .double
  else if c = '\x60' then some .backtick
  else if c = '[' then some .brackets
  else none

/-- Where a scan of a text is. -/
inductive Scan where
  | between
  | word (letters : List Char)
  | inside (quoting : Quoting) (content : List Char)
  /-- Behind the closing quote of a name, unless another one follows, which makes it part of it. -/
  | behind (quoting : Quoting) (content : List Char)
  deriving DecidableEq, Repr

namespace Scan

/-- The first character of a lexeme, or a blank. -/
def start (alphabet : Alphabet) (c : Char) : List Lexeme × Scan :=
  if isBlank c then ([], .between)
  else if alphabet.holds c then ([], .word [c])
  else
    match Quoting.openedBy? c with
    | some quoting => ([], .inside quoting [])
    | none => ([.mark c], .between)

/-- What is complete where the text ends. -/
def finish : Scan → List Lexeme
  | between => []
  | word letters => [.bare letters]
  | inside quoting content => [.unclosed quoting content]
  | behind quoting content => [.quoted quoting content]

/-- One character: what it completes, and where the scan is then. -/
def next (alphabet : Alphabet) (scan : Scan) (c : Char) : List Lexeme × Scan :=
  match scan with
  | between => start alphabet c
  | word letters =>
    if alphabet.holds c then ([], .word (letters ++ [c]))
    else (.bare letters :: (start alphabet c).1, (start alphabet c).2)
  | inside quoting content =>
    if c = quoting.closing then ([], .behind quoting content)
    else ([], .inside quoting (content ++ [c]))
  | behind quoting content =>
    if c = quoting.closing then ([], .inside quoting (content ++ [c]))
    else (.quoted quoting content :: (start alphabet c).1, (start alphabet c).2)

def isInside : Scan → Bool
  | inside _ _ => true
  | _ => false

/-- A text: what it completes, and where the scan is then. -/
def run (alphabet : Alphabet) : Scan → List Char → List Lexeme × Scan
  | scan, [] => ([], scan)
  | scan, c :: r =>
    ((scan.next alphabet c).1 ++ (run alphabet (scan.next alphabet c).2 r).1,
      (run alphabet (scan.next alphabet c).2 r).2)

end Scan

/-- The lexemes of a text. -/
def lexemes (alphabet : Alphabet) (s : List Char) : List Lexeme :=
  (Scan.run alphabet .between s).1 ++ (Scan.run alphabet .between s).2.finish

variable {alphabet : Alphabet}

/-! ## One lexeme -/

theorem Alphabet.not_blank {c : Char} (h : alphabet.holds c = true) : isBlank c = false := by
  rw [Bool.eq_false_iff]
  intro hblank
  rw [alphabet.blanks c hblank] at h
  cases h

theorem Alphabet.not_opening (alphabet : Alphabet) (quoting : Quoting) :
    alphabet.holds quoting.opening = false := by
  cases quoting <;> exact alphabet.ascii _ (by decide) (by decide)

theorem SelectList.Quoting.openedBy?_opening (quoting : Quoting) :
    Quoting.openedBy? quoting.opening = some quoting := by
  cases quoting <;> rfl

namespace Scan

theorem start_letter {c : Char} (h : alphabet.holds c = true) :
    start alphabet c = ([], .word [c]) := by
  rw [start, if_neg (by simp [alphabet.not_blank h]), if_pos h]

theorem start_opening (quoting : Quoting) :
    start alphabet quoting.opening = ([], .inside quoting []) := by
  have hblank : isBlank quoting.opening = false := by cases quoting <;> decide
  rw [start, if_neg (by simp [hblank]), if_neg (by simp [alphabet.not_opening]),
    Quoting.openedBy?_opening]

theorem run_append (scan : Scan) (s t : List Char) :
    run alphabet scan (s ++ t) =
      ((run alphabet scan s).1 ++ (run alphabet (run alphabet scan s).2 t).1,
        (run alphabet (run alphabet scan s).2 t).2) := by
  induction s generalizing scan with
  | nil => rfl
  | cons c s ih => simp [run, ih]

/-- Letters go on with a word. -/
theorem run_word (front : List Char) {letters : List Char}
    (h : ∀ c ∈ letters, alphabet.holds c = true) :
    run alphabet (.word front) letters = ([], .word (front ++ letters)) := by
  induction letters generalizing front with
  | nil => rw [List.append_nil]; rfl
  | cons c r ih =>
    rw [run, next, if_pos (h c List.mem_cons_self),
      ih _ fun d hd => h d (List.mem_cons_of_mem _ hd), List.append_assoc]
    rfl

theorem run_letters {letters : List Char} (hne : letters ≠ [])
    (h : ∀ c ∈ letters, alphabet.holds c = true) :
    run alphabet .between letters = ([], .word letters) := by
  cases letters with
  | nil => exact absurd rfl hne
  | cons c r =>
    rw [run, next, start_letter (h c List.mem_cons_self),
      run_word _ fun d hd => h d (List.mem_cons_of_mem _ hd)]
    rfl

/-- The rest of a name in quotes is read up to the quote that is not doubled. -/
theorem run_inside (quoting : Quoting) (front content : List Char) :
    run alphabet (.inside quoting front)
      (doubled quoting.closing content ++ [quoting.closing]) =
        ([], .behind quoting (front ++ content)) := by
  induction content generalizing front with
  | nil => simp [doubled, run, next]
  | cons c r ih =>
    have hfront : front ++ c :: r = (front ++ [c]) ++ r := by simp
    rw [doubled_cons, hfront, ← ih]
    by_cases hc : c = quoting.closing
    · subst hc
      simp [run, next]
    · simp [run, next, hc]

theorem run_quote (quoting : Quoting) (content : List Char) :
    run alphabet .between (quoting.quote content) = ([], .behind quoting content) := by
  rw [Quoting.quote, run, next, start_opening, run_inside]
  rfl

end Scan

/-- **An identifier is read as itself.** -/
theorem lexemes_identifier {lexeme : Lexeme} (h : lexeme.IsIdentifier alphabet) :
    lexemes alphabet lexeme.text = [lexeme] := by
  cases h with
  | bare hne h => rw [lexemes, Lexeme.text, Scan.run_letters hne h]; rfl
  | quoted quoting content => rw [lexemes, Lexeme.text, Scan.run_quote]; rfl

/-! ## Texts that are put together -/

/-- A character that goes on with no lexeme that is complete. -/
structure Breaks (alphabet : Alphabet) (c : Char) : Prop where
  not_letter : alphabet.holds c = false
  not_closing : ∀ quoting : Quoting, c ≠ quoting.closing

theorem Breaks.of_ascii {c : Char} (hcode : c.toNat < 128) (hword : inWord c = false)
    (hclosing : ∀ quoting : Quoting, c ≠ quoting.closing) : Breaks alphabet c :=
  ⟨alphabet.ascii c hcode hword, hclosing⟩

theorem breaks_space : Breaks alphabet ' ' :=
  .of_ascii (by decide) (by decide) fun quoting => by cases quoting <;> decide

theorem breaks_parenthesis : Breaks alphabet ')' :=
  .of_ascii (by decide) (by decide) fun quoting => by cases quoting <;> decide

theorem breaks_semicolon : Breaks alphabet ';' :=
  .of_ascii (by decide) (by decide) fun quoting => by cases quoting <;> decide

theorem Scan.next_break {scan : Scan} {c : Char} (hscan : scan.isInside = false)
    (hc : Breaks alphabet c) :
    scan.next alphabet c = (scan.finish ++ (start alphabet c).1, (start alphabet c).2) := by
  cases scan with
  | between => rfl
  | word letters => rw [next, if_neg (by simp [hc.not_letter]), finish, List.singleton_append]
  | inside quoting content => cases hscan
  | behind quoting content =>
    rw [next, if_neg (hc.not_closing quoting), finish, List.singleton_append]

/-- **A text whose quotes are closed is read on its own**, up to a character that breaks. -/
theorem lexemes_break {s : List Char} {c : Char}
    (hs : (Scan.run alphabet .between s).2.isInside = false) (hc : Breaks alphabet c)
    (r : List Char) :
    lexemes alphabet (s ++ c :: r) = lexemes alphabet s ++ lexemes alphabet (c :: r) := by
  simp only [lexemes, Scan.run_append, Scan.run, Scan.next_break hs hc, List.append_assoc]
  rfl

theorem lexemes_identifier_break {lexeme : Lexeme} (h : lexeme.IsIdentifier alphabet) {c : Char}
    (hc : Breaks alphabet c) (r : List Char) :
    lexemes alphabet (lexeme.text ++ c :: r) = lexeme :: lexemes alphabet (c :: r) := by
  have hclosed : (Scan.run alphabet .between lexeme.text).2.isInside = false := by
    cases h with
    | bare hne h => rw [Lexeme.text, Scan.run_letters hne h]; rfl
    | quoted quoting content => rw [Lexeme.text, Scan.run_quote]; rfl
  rw [lexemes_break hclosed hc, lexemes_identifier h, List.singleton_append]

theorem lexemes_space (r : List Char) : lexemes alphabet (' ' :: r) = lexemes alphabet r := rfl

/-- What begins no word, no name in quotes and is no blank is a mark. -/
theorem lexemes_mark {c : Char} (hcode : c.toNat < 128) (hword : inWord c = false)
    (hblank : isBlank c = false) (hquote : Quoting.openedBy? c = none) (r : List Char) :
    lexemes alphabet (c :: r) = .mark c :: lexemes alphabet r := by
  have hstart : Scan.start alphabet c = ([.mark c], .between) := by
    rw [Scan.start, if_neg (by simp [hblank]), if_neg (by simp [alphabet.ascii c hcode hword]),
      hquote]
  simp [lexemes, Scan.run, Scan.next, hstart]

/-- Bare words. -/
def Lexeme.words (texts : List String) : List Lexeme := texts.map fun text => .bare text.toList

/-- Some words, each with a space behind it. -/
def phrase (texts : List String) : List Char := texts.flatMap fun text => text.toList ++ [' ']

/-- **Keywords are read as words.** -/
theorem lexemes_phrase {texts : List String}
    (h : ∀ text ∈ texts, text ≠ "" ∧ text.toList.all inWord = true) (r : List Char) :
    lexemes alphabet (phrase texts ++ r) = Lexeme.words texts ++ lexemes alphabet r := by
  induction texts with
  | nil => rfl
  | cons text texts ih =>
    obtain ⟨hne, hletters⟩ := h text List.mem_cons_self
    have hword : (Lexeme.bare text.toList).IsIdentifier alphabet :=
      .bare (by simpa using hne) fun c hc => alphabet.letters c (List.all_eq_true.1 hletters c hc)
    have hbreak := lexemes_identifier_break hword breaks_space (phrase texts ++ r)
    rw [Lexeme.text, lexemes_space, ih fun other hother => h other (List.mem_cons_of_mem _ hother)]
      at hbreak
    simpa [phrase, Lexeme.words] using hbreak

end PolySql
