import PolySql.Json

/-!
# Reading JSON

`Json.parse?` reads a text that holds one value and nothing else but white space. The reader is
strict: no comments, no commas at the end, no leading zeros, no control characters in strings.

* `readDigits`, `readNumber` — numerals.
* `readUnits`, `wholeText` — strings, first as units and then as characters.
* `readValue`, `readItems`, `readMembers` — values. Each call takes one step less than the call
  that made it, and a text of `n` characters needs no more than `2 * n + 2` steps.
-/

namespace PolySql.Json

/-- The four characters that may stand between tokens. -/
def isSpace (c : Char) : Bool := c == ' ' || c == '\t' || c == '\n' || c == '\r'

def skipSpace (s : List Char) : List Char := s.dropWhile isSpace

/-- The rest of a text after a word. -/
def afterWord? (word s : List Char) : Option (List Char) :=
  if word.isPrefixOf s then some (s.drop word.length) else none

/-! ## Numerals -/

def digitValue (c : Char) : Nat := c.toNat - 48

def natOfDigits (digits : List Char) : Nat :=
  digits.foldl (fun n c => 10 * n + digitValue c) 0

/-- One digit or more, and the rest. -/
def readDigits (s : List Char) : Option (List Char × List Char) :=
  match s.takeWhile Char.isDigit with
  | [] => none
  | digits => some (digits, s.dropWhile Char.isDigit)

/-- Digits without a superfluous zero in front, and the rest. -/
def readWhole (s : List Char) : Option (List Char × List Char) :=
  match s with
  | '0' :: r => some (['0'], r)
  | _ => readDigits s

/-- The digits after the point, if there is a point. -/
def readFraction (s : List Char) : Option (Option (List Char) × List Char) :=
  match s with
  | '.' :: r => (readDigits r).map fun (digits, rest) => (some digits, rest)
  | _ => some (none, s)

/-- The exponent, if there is one. -/
def readExponent (s : List Char) : Option (Option Int × List Char) :=
  let signed (negative : Bool) (r : List Char) : Option (Option Int × List Char) :=
    (readDigits r).map fun (digits, rest) =>
      let n : Int := natOfDigits digits
      (some (if negative then -n else n), rest)
  match s with
  | c :: r =>
    if c = 'e' ∨ c = 'E' then
      match r with
      | '-' :: r => signed true r
      | '+' :: r => signed false r
      | r => signed false r
    else some (none, s)
  | [] => some (none, s)

def readUnsigned (negative : Bool) (s : List Char) : Option (Json × List Char) := do
  let (whole, s) ← readWhole s
  let (fraction, s) ← readFraction s
  let (exponent, s) ← readExponent s
  if negative = false ∧ fraction = none ∧ exponent = none then
    return (.natural (natOfDigits whole), s)
  else
    return (.decimal negative (whole.map digitValue) ((fraction.getD []).map digitValue)
      (exponent.getD 0), s)

def readNumber (s : List Char) : Option (Json × List Char) :=
  match s with
  | '-' :: r => readUnsigned true r
  | _ => readUnsigned false s

/-! ## Strings -/

def hexDigit? (c : Char) : Option Nat :=
  if '0' ≤ c ∧ c ≤ '9' then some (c.toNat - 48)
  else if 'a' ≤ c ∧ c ≤ 'f' then some (c.toNat - 87)
  else if 'A' ≤ c ∧ c ≤ 'F' then some (c.toNat - 55)
  else none

def hexUnit? (a b c d : Char) : Option Nat := do
  let a ← hexDigit? a
  let b ← hexDigit? b
  let c ← hexDigit? c
  let d ← hexDigit? d
  return ((a * 16 + b) * 16 + c) * 16 + d

/-- The character that an escape of one letter names. -/
def escaped? : Char → Option Nat
  | '"' => some 0x22
  | '\\' => some 0x5C
  | '/' => some 0x2F
  | 'b' => some 0x08
  | 'f' => some 0x0C
  | 'n' => some 0x0A
  | 'r' => some 0x0D
  | 't' => some 0x09
  | _ => none

/-- The code points and surrogates of a string after its opening quote, and the rest after its
closing quote. -/
def readUnits : List Char → Option (List Nat × List Char)
  | [] => none
  | '"' :: r => some ([], r)
  | '\\' :: 'u' :: a :: b :: c :: d :: r => do
    let unit ← hexUnit? a b c d
    let (units, rest) ← readUnits r
    return (unit :: units, rest)
  | '\\' :: e :: r => do
    let unit ← escaped? e
    let (units, rest) ← readUnits r
    return (unit :: units, rest)
  | c :: r => do
    if c.toNat < 0x20 then none
    let (units, rest) ← readUnits r
    return (c.toNat :: units, rest)

/-- The characters of some units: surrogates have to come in pairs, a high one and a low one. -/
def wholeText : List Nat → Option (List Char)
  | [] => some []
  | [u] => if 0xD800 ≤ u ∧ u < 0xE000 then none else some [Char.ofNat u]
  | u :: v :: r =>
    if 0xD800 ≤ u ∧ u < 0xDC00 then
      if 0xDC00 ≤ v ∧ v < 0xE000 then
        (wholeText r).map (Char.ofNat (0x10000 + (u - 0xD800) * 0x400 + (v - 0xDC00)) :: ·)
      else none
    else if 0xDC00 ≤ u ∧ u < 0xE000 then none
    else (wholeText (v :: r)).map (Char.ofNat u :: ·)

/-- A string after its opening quote, and the rest. -/
def readText (s : List Char) : Option (JsonText × List Char) :=
  (readUnits s).map fun (units, rest) => ((wholeText units).map String.ofList, rest)

/-! ## Values -/

mutual

/-- A value, perhaps with space before it, and the rest. -/
def readValue : Nat → List Char → Option (Json × List Char)
  | 0, _ => none
  | steps + 1, s =>
    match skipSpace s with
    | '"' :: r => (readText r).map fun (value, rest) => (.text value, rest)
    | '[' :: r =>
      match skipSpace r with
      | ']' :: rest => some (.array [], rest)
      | r => (readItems steps r).map fun (items, rest) => (.array items, rest)
    | '\x7b' :: r =>
      match skipSpace r with
      | '\x7d' :: rest => some (.object [], rest)
      | r => (readMembers steps r).map fun (members, rest) => (.object members, rest)
    | 'n' :: r => (afterWord? "ull".toList r).map (Json.null, ·)
    | 't' :: r => (afterWord? "rue".toList r).map (Json.bool true, ·)
    | 'f' :: r => (afterWord? "alse".toList r).map (Json.bool false, ·)
    | r => readNumber r

/-- The items of an array up to its closing bracket, and the rest. -/
def readItems : Nat → List Char → Option (List Json × List Char)
  | 0, _ => none
  | steps + 1, s => do
    let (item, s) ← readValue steps s
    match skipSpace s with
    | ']' :: rest => some ([item], rest)
    | ',' :: r => (readItems steps r).map fun (items, rest) => (item :: items, rest)
    | _ => none

/-- The members of an object up to its closing brace, and the rest. -/
def readMembers : Nat → List Char → Option (List (JsonText × Json) × List Char)
  | 0, _ => none
  | steps + 1, s =>
    match skipSpace s with
    | '"' :: r => do
      let (name, s) ← readText r
      match skipSpace s with
      | ':' :: r => do
        let (value, s) ← readValue steps r
        match skipSpace s with
        | '\x7d' :: rest => some ([(name, value)], rest)
        | ',' :: r =>
          (readMembers steps r).map fun (members, rest) => ((name, value) :: members, rest)
        | _ => none
      | _ => none
    | _ => none

end

/-- The value that a text holds. -/
def parse? (text : String) : Option Json := do
  let s := text.toList
  let (value, rest) ← readValue (2 * s.length + 2) s
  if (skipSpace rest).isEmpty then some value else none

end PolySql.Json
