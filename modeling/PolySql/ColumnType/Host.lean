import PolySql.ColumnType

/-!
# Host types

A column can take its type from the type of the value that an application keeps in it.

* `HostType` — the types of such values.
* `HostType.columnType?` — the column type for a host type, where there is one.
* `HostType.name` — the name by which a message speaks of a host type.
-/

namespace PolySql

inductive HostType where
  | truth
  | signed8 | signed16 | signed32 | signed64 | signed128 | signedSize
  | unsigned8 | unsigned16 | unsigned32 | unsigned64 | unsigned128 | unsignedSize
  | float32 | float64
  | character | text | staticText
  | nothing | bytes | optionalSigned32
  | date | time | dateTime | utcDateTime
  | clob | blob
  deriving DecidableEq, Repr

namespace HostType

/-- Unsigned integers, integers of the size of an address, optional values, plain bytes and the
empty value have no column type. -/
def columnType? : HostType → Option ColumnType
  | .truth => some .boolean
  | .signed8 => some .tinyint
  | .signed16 => some .smallint
  | .signed32 => some .integer
  | .signed64 => some .bigint
  | .signed128 => some .numeric
  | .float32 => some .float
  | .float64 => some .double
  | .character => some .char
  | .text | .staticText => some .varchar
  | .date => some .date
  | .time => some .time
  | .dateTime | .utcDateTime => some .timestamp
  | .clob => some .clob
  | .blob => some .blob
  | .signedSize | .unsigned8 | .unsigned16 | .unsigned32 | .unsigned64 | .unsigned128
  | .unsignedSize | .nothing | .bytes | .optionalSigned32 => none

def name : HostType → String
  | .truth => "bool"
  | .signed8 => "i8"
  | .signed16 => "i16"
  | .signed32 => "i32"
  | .signed64 => "i64"
  | .signed128 => "i128"
  | .signedSize => "isize"
  | .unsigned8 => "u8"
  | .unsigned16 => "u16"
  | .unsigned32 => "u32"
  | .unsigned64 => "u64"
  | .unsigned128 => "u128"
  | .unsignedSize => "usize"
  | .float32 => "f32"
  | .float64 => "f64"
  | .character => "char"
  | .text => "String"
  | .staticText => "str"
  | .nothing => "()"
  | .bytes => "alloc::vec::Vec<u8>"
  | .optionalSigned32 => "core::option::Option<i32>"
  | .date => "Date"
  | .time => "Time"
  | .dateTime => "DateTime"
  | .utcDateTime => "DateTime<Utc>"
  | .clob => "Clob"
  | .blob => "Blob"

end HostType

end PolySql
