import PolySql.Json.Double

/-!
# JSON values

* `Json` — a value with everything that a reader can tell apart: the members of an object as they
  came, and numerals of digits alone apart from all other numerals.
* `Json.members?`, `Json.fields?` — the fields of a record, which is written as an object or as an
  array of its values in order.
* `Json.isHeld` — values that fit in memory as they are: finite numbers, whole characters, and
  nesting up to a limit.
-/

namespace PolySql

/-- A text, or `none` for one that names half of a pair of surrogates. -/
abbrev JsonText := Option String

inductive Json where
  | null
  | bool (value : Bool)
  /-- A numeral of digits alone. -/
  | natural (value : Nat)
  /-- Any other numeral, by its digits before and after the point, perhaps with a minus sign. -/
  | decimal (negative : Bool) (whole fraction : List Nat) (exponent : Int)
  | text (value : JsonText)
  | array (items : List Json)
  | object (members : List (JsonText × Json))

namespace Json

/-! ## Records -/

/-- The value of the member called `name`: an error if there are several. -/
def member? (name : String) (members : List (JsonText × Json)) : Option (Option Json) :=
  match members.filter fun entry => entry.1 == some name with
  | [] => some none
  | [(_, value)] => some (some value)
  | _ => none

/-- The values of the named members of an object. Members of other names do not count, but their
names have to be whole. -/
def members? (names : List String) (members : List (JsonText × Json)) :
    Option (List (Option Json)) :=
  if members.all fun entry => entry.1.isSome then names.mapM fun name => member? name members
  else none

/-- The values of the fields called `names`, in that order: from an object, or from an array that
leaves out fields at its end only. -/
def fields? (names : List String) : Json → Option (List (Option Json))
  | .object entries => members? names entries
  | .array items =>
    if items.length ≤ names.length then
      some (items.map some ++ List.replicate (names.length - items.length) none)
    else none
  | _ => none

/-! ## Values that can be held -/

/-- The decimal digits of a number. -/
def digitsOf (n : Nat) : List Nat := (Nat.toDigits 10 n).map fun c => c.toNat - 48

/-- The deepest nesting of arrays and objects that is read into memory. -/
def depthLimit : Nat := 127

mutual

/-- Whether a value can be held when `depth` more levels of nesting are allowed. -/
def isHeldWithin (depth : Nat) : Json → Bool
  | .null | .bool _ => true
  | .natural value => Double.isFinite (digitsOf value) [] 0
  | .decimal _ whole fraction exponent => Double.isFinite whole fraction exponent
  | .text value => value.isSome
  | .array items => 0 < depth && itemsHeld (depth - 1) items
  | .object members => 0 < depth && membersHeld (depth - 1) members

def itemsHeld (depth : Nat) : List Json → Bool
  | [] => true
  | item :: items => isHeldWithin depth item && itemsHeld depth items

def membersHeld (depth : Nat) : List (JsonText × Json) → Bool
  | [] => true
  | (name, value) :: members =>
    name.isSome && isHeldWithin depth value && membersHeld depth members

end

def isHeld (json : Json) : Bool := json.isHeldWithin depthLimit

end Json

end PolySql
