/-!
# Lengths of a column type

A column may say how long its values are, and how many digits its numbers have. What it leaves
open is filled in by a default.
-/

namespace PolySql

/-- Length, precision and scale of a column type, as far as they are set. -/
structure Lengths where
  /-- Length in characters or bytes. -/
  length : Option UInt32 := none
  /-- Digits of a number. -/
  precision : Option UInt32 := none
  /-- Digits of a number after the point. -/
  scale : Option UInt32 := none
  deriving DecidableEq, Repr

namespace Lengths

def ofLength (length : UInt32) : Lengths := ⟨some length, none, none⟩

def ofPrecision (precision scale : UInt32) : Lengths := ⟨none, some precision, some scale⟩

/-- The length that is written. -/
def lengthOrDefault (lengths : Lengths) : UInt32 := lengths.length.getD 255

/-- The precision that is written. -/
def precisionOrDefault (lengths : Lengths) : UInt32 := lengths.precision.getD 19

/-- The scale that is written. -/
def scaleOrDefault (lengths : Lengths) : UInt32 := lengths.scale.getD 2

end Lengths

end PolySql
