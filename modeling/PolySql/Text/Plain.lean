/-!
# Text for terminals

A terminal takes sequences that begin with an escape character as orders. What is not shown on a
terminal is written without them, and without control characters that are no white space.

* `bold`, `heading` — a text with orders around it.
* `Terminal` — where in such a sequence a character is; `Terminal.within` says where the next one is.
* `TerminalReader.next` — one character: where the reader is then, and whether the character stays.
* `plain` — what stays of a text.

White space may break in on a sequence. Then text follows, up to a control character, and after that
the sequence goes on. `plain_of_visible` says that a text without control characters stays as it is.
-/

namespace PolySql.Text

def bold (s : String) : String := "\x1b[1m" ++ s ++ "\x1b[0m"

/-- A text in bold with a line below it. -/
def heading (s : String) : String := "\x1b[1m\x1b[4m" ++ s ++ "\x1b[0m"

inductive Terminal where
  /-- Between sequences. -/
  | text
  /-- After an escape character. -/
  | escape
  /-- After an escape character and characters that a letter has to follow. -/
  | letterDue
  /-- Among the numbers of a control sequence. -/
  | numbers
  /-- In a text for the terminal itself, which a bell ends. -/
  | title
  /-- Where data for a device begin. -/
  | device
  /-- Among the numbers in front of the data. -/
  | deviceNumbers
  /-- Among the marks between those numbers and the data. -/
  | deviceMarks
  /-- In data, which only a control character ends. -/
  | data
  deriving DecidableEq, Repr

/-- White space that moves the cursor. -/
def isLayout (c : Char) : Bool := c == '\t' || c == '\n' || c == '\x0c' || c == '\r'

def isVisible (c : Char) : Bool := ' ' ≤ c && c != '\x7f'

/-- Whether one of the bytes of a character is the one that ends data. -/
def endsData (c : Char) : Bool := (String.utf8EncodeChar c).contains 0x9C

namespace Terminal

/-- Where an escape character and this one lead. -/
def afterEscape (c : Char) : Terminal :=
  if c = '[' then .numbers
  else if c = ']' then .title
  else if c = 'P' then .device
  else if c = 'X' ∨ c = '^' ∨ c = '_' then .data
  else if ' ' ≤ c ∧ c ≤ '/' then .letterDue
  else if '0' ≤ c ∧ c ≤ '~' then .text
  else .escape

/-- Where a character leads that orders consist of. -/
def within (c : Char) : Terminal → Terminal
  | .text => .text
  | .escape => afterEscape c
  | .letterDue => if '0' ≤ c ∧ c ≤ '~' then .text else .letterDue
  | .numbers => if '@' ≤ c ∧ c ≤ '~' then .text else .numbers
  | .title => if c = '\x07' then .text else .title
  | .device =>
    if ' ' ≤ c ∧ c ≤ '/' then .deviceMarks
    else if '0' ≤ c ∧ c ≤ '?' then .deviceNumbers
    else if '@' ≤ c ∧ c ≤ '~' then .data
    else .device
  | .deviceNumbers =>
    if ' ' ≤ c ∧ c ≤ '/' then .deviceMarks
    else if '<' ≤ c ∧ c ≤ '~' then .data
    else .deviceNumbers
  | .deviceMarks => if '0' ≤ c ∧ c ≤ '~' then .data else .deviceMarks
  | .data => if endsData c then .text else .data

/-- Whether white space may break in on a sequence. -/
def isBreakable : Terminal → Bool
  | .escape | .letterDue | .numbers => true
  | .text | .title | .device | .deviceNumbers | .deviceMarks | .data => false

end Terminal

structure TerminalReader where
  state : Terminal := .text
  /-- Whether white space has broken in on the sequence. -/
  interrupted : Bool := false
  deriving DecidableEq, Repr

/-- One character. A sequence that was broken in on is given up at a character of several bytes. -/
def TerminalReader.next (reader : TerminalReader) (c : Char) : TerminalReader × Bool :=
  if c = '\x1b' then (⟨.escape, false⟩, false)
  else if c = '\x18' ∨ c = '\x1a' then ({}, false)
  else if reader.interrupted then
    if isLayout c ∨ isVisible c ∧ c < '\x7f' then (reader, true)
    else if isVisible c then ({}, true)
    else ({ reader with interrupted := false }, false)
  else if reader.state = .text then (reader, isVisible c || isLayout c)
  else if reader.state.isBreakable ∧ isLayout c then ({ reader with interrupted := true }, true)
  else (⟨reader.state.within c, false⟩, false)

def plainFrom (reader : TerminalReader) : List Char → List Char
  | [] => []
  | c :: r =>
    match reader.next c with
    | (reader, true) => c :: plainFrom reader r
    | (reader, false) => plainFrom reader r

/-- A text without orders for a terminal. -/
def plain (s : String) : String := String.ofList (plainFrom {} s.toList)

theorem next_of_visible {c : Char} (h : isVisible c = true) :
    TerminalReader.next {} c = ({}, true) := by
  have hc : c ≠ '\x1b' ∧ c ≠ '\x18' ∧ c ≠ '\x1a' := by
    refine ⟨?_, ?_, ?_⟩ <;> rintro rfl <;> simp [isVisible] at h
  simp [TerminalReader.next, hc, h]

theorem plain_of_visible {s : String} (h : ∀ c ∈ s.toList, isVisible c = true) : plain s = s := by
  have key : ∀ cs : List Char, (∀ c ∈ cs, isVisible c = true) → plainFrom {} cs = cs := by
    intro cs
    induction cs with
    | nil => intro _; rfl
    | cons c r ih =>
      intro hcs
      have hr := ih fun d hd => hcs d (List.mem_cons_of_mem _ hd)
      simp [plainFrom, next_of_visible (hcs c List.mem_cons_self), hr]
  rw [plain, key _ h, String.ofList_toList]

end PolySql.Text
