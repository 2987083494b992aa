import PolySql.Json
import PolySql.Text.Numeral

/-!
# Writing JSON

`Json.write` writes a value without superfluous space. Quotes, backslashes and control characters
are escaped, by a letter where there is one for them; every other character stands for itself.
-/

namespace PolySql.Json

def writeChar (c : Char) : List Char :=
  match c with
  | '"' => ['\\', '"']
  | '\\' => ['\\', '\\']
  | '\x08' => ['\\', 'b']
  | '\t' => ['\\', 't']
  | '\n' => ['\\', 'n']
  | '\x0c' => ['\\', 'f']
  | '\r' => ['\\', 'r']
  | _ =>
    if c.toNat < 0x20 then '\\' :: 'u' :: (Text.numeral 16 c.toNat 4).toList
    else [c]

def writeText (s : String) : String :=
  String.ofList ('"' :: s.toList.flatMap writeChar ++ ['"'])

def writeDigits (digits : List Nat) : String :=
  String.ofList (digits.map fun d => Char.ofNat (48 + d))

mutual

/-- A value on one line; a text that is not whole is written as `null`. -/
def write : Json → String
  | .null => "null"
  | .bool value => if value then "true" else "false"
  | .natural value => toString value
  | .decimal negative whole fraction exponent =>
    (if negative then "-" else "") ++ writeDigits whole ++
      (if fraction.isEmpty then "" else "." ++ writeDigits fraction) ++ "e" ++ toString exponent
  | .text (some value) => writeText value
  | .text none => "null"
  | .array items => "[" ++ writeItems items ++ "]"
  | .object members => "\x7b" ++ writeMembers members ++ "\x7d"

def writeItems : List Json → String
  | [] => ""
  | [item] => write item
  | item :: items => write item ++ "," ++ writeItems items

def writeMembers : List (JsonText × Json) → String
  | [] => ""
  | [(name, value)] => writeText (name.getD "") ++ ":" ++ write value
  | (name, value) :: members =>
    writeText (name.getD "") ++ ":" ++ write value ++ "," ++ writeMembers members

end

end PolySql.Json
