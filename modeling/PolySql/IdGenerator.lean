import PolySql.Text.Ascii
import PolySql.Text.Numeral

/-!
# Generators of keys

A column can name the generator that an application uses to fill it. The generators draw 128 bits
and differ in how they write them.

* `IdGenerator`, `IdGenerator.name`, `IdGenerator.find?` — the generators and their names.
* `IdGenerator.write` — the key for 128 bits.
-/

namespace PolySql

inductive IdGenerator where
  /-- Hexadecimal digits in five groups. -/
  | uuid36
  /-- Hexadecimal digits. -/
  | uuid32
  /-- Digits of base 36. -/
  | uuid25
  deriving DecidableEq, Repr

namespace IdGenerator

def all : List IdGenerator := [.uuid36, .uuid32, .uuid25]

def name : IdGenerator → String
  | .uuid36 => "uuid36"
  | .uuid32 => "uuid32"
  | .uuid25 => "uuid25"

/-- The generator of a name, in any letter case. -/
def find? (name : String) : Option IdGenerator :=
  all.find? fun generator => Text.sameIgnoringCase generator.name name

/-- Hyphens after the groups of 8, 4, 4 and 4 digits. -/
def hyphenated (digits : List Char) : List Char :=
  digits.take 8 ++ '-' :: ((digits.drop 8).take 4 ++ '-' :: ((digits.drop 12).take 4 ++
    '-' :: ((digits.drop 16).take 4 ++ '-' :: digits.drop 20)))

def write (bits : BitVec 128) : IdGenerator → String
  | .uuid36 => String.ofList (hyphenated (Text.numeral 16 bits.toNat 32).toList)
  | .uuid32 => Text.numeral 16 bits.toNat 32
  | .uuid25 => Text.base36 bits.toNat 25

end IdGenerator

end PolySql
