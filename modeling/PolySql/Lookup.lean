import PolySql.ColumnType.Host
import PolySql.ColumnType.Lengths
import PolySql.Dialect.Keyword
import PolySql.Dialect.Spelling
import PolySql.Error

/-!
# Names that users give

* `ColumnType.ofName`, `ColumnType.ofHost`, `Dialect.ofName` — what a name or a host type stands
  for, or the error that says that it stands for nothing.
* `Dialect.spell` — the spelling of a column type, or the error that the dialect lacks it.
* `NameCheck`, `NameCheck.check` — which identifiers a table may use.
-/

namespace PolySql

/-- The value of an option, or an error. -/
def orError {α : Type} (error : Error) : Option α → Except Error α
  | some a => .ok a
  | none => .error error

theorem orError_eq_ok_iff {α : Type} {error : Error} {value : Option α} {a : α} :
    orError error value = .ok a ↔ value = some a := by
  cases value <;> simp [orError]

def ColumnType.ofName (name : String) : Except Error ColumnType :=
  orError (.unknownType name) (ColumnType.find? name)

def ColumnType.ofHost (host : HostType) : Except Error ColumnType :=
  orError (.unmappable host.name) host.columnType?

def Dialect.ofName (name : String) : Except Error Dialect :=
  orError (.unknownDialect name) (Dialect.find? name)

def Dialect.spell (dialect : Dialect) (type : ColumnType) (lengths : Lengths) :
    Except Error String :=
  orError (.typeUnsupported dialect type) (dialect.spell? type lengths)

/-! ## Identifiers -/

/-- How strictly identifiers are checked. -/
inductive NameCheck where
  /-- Reserved words are refused unless they are quoted. -/
  | keywords
  /-- Every name that is not blank is accepted. -/
  | anyName
  deriving DecidableEq, Repr

/-- Whether a name begins with a quote of some dialect. -/
def startsQuoted : List Char → Bool
  | c :: _ => c == '"' || c == '\x60' || c == '['
  | [] => false

def NameCheck.check (nameCheck : NameCheck) (dialect : Dialect) (identifier : String) :
    Except Error Unit :=
  let trimmed := Text.trim identifier.toList
  if trimmed.isEmpty then .error .emptyIdentifier
  else
    match nameCheck with
    | .anyName => .ok ()
    | .keywords =>
      if startsQuoted trimmed then .ok ()
      else if dialect.isReserved (String.ofList trimmed) then
        .error (.reservedWord identifier dialect)
      else .ok ()

end PolySql
