/-!
# Lists with keys

A `KeyedList` holds a value for each of some keys, in the order in which the keys came.

* `get?` — the value of a key.
* `insert` — a new key goes to the end; the value of a present key is replaced where it stands.
* `erase` — a key and its value go; the order of the others stays.
* `modify` — the value of a key is changed where it stands.
* `keys`, `values` — in order.

`keys_insert`, `keys_erase` and `keys_modify` say what becomes of the keys, `get?_insert` and
`get?_insert_of_ne` what becomes of the values.
-/

namespace PolySql

structure KeyedList (α : Type) where
  entries : List (String × α) := []
  deriving DecidableEq, Repr

namespace KeyedList

variable {α : Type}

def insertEntry (key : String) (value : α) : List (String × α) → List (String × α)
  | [] => [(key, value)]
  | entry :: rest =>
    if entry.1 = key then (key, value) :: rest else entry :: insertEntry key value rest

def eraseEntry (key : String) : List (String × α) → List (String × α)
  | [] => []
  | entry :: rest => if entry.1 = key then rest else entry :: eraseEntry key rest

def modifyEntry (key : String) (change : α → α) : List (String × α) → List (String × α)
  | [] => []
  | entry :: rest =>
    if entry.1 = key then (entry.1, change entry.2) :: rest
    else entry :: modifyEntry key change rest

def getEntry? (key : String) : List (String × α) → Option α
  | [] => none
  | entry :: rest => if entry.1 = key then some entry.2 else getEntry? key rest

def keys (list : KeyedList α) : List String := list.entries.map Prod.fst

def values (list : KeyedList α) : List α := list.entries.map Prod.snd

def get? (list : KeyedList α) (key : String) : Option α := getEntry? key list.entries

def insert (list : KeyedList α) (key : String) (value : α) : KeyedList α :=
  ⟨insertEntry key value list.entries⟩

def erase (list : KeyedList α) (key : String) : KeyedList α := ⟨eraseEntry key list.entries⟩

def modify (list : KeyedList α) (key : String) (change : α → α) : KeyedList α :=
  ⟨modifyEntry key change list.entries⟩

/-! ## Keys -/

theorem map_fst_insertEntry (key : String) (value : α) (entries : List (String × α)) :
    (insertEntry key value entries).map Prod.fst =
      if key ∈ entries.map Prod.fst then entries.map Prod.fst
      else entries.map Prod.fst ++ [key] := by
  induction entries with
  | nil => simp [insertEntry]
  | cons entry rest ih =>
    by_cases h : entry.1 = key
    · simp [insertEntry, h]
    · by_cases hm : key ∈ rest.map Prod.fst
      · simp [insertEntry, h, ih, hm]
      · simp [insertEntry, h, ih, hm, Ne.symm h]

theorem keys_insert (list : KeyedList α) (key : String) (value : α) :
    (list.insert key value).keys =
      if key ∈ list.keys then list.keys else list.keys ++ [key] :=
  map_fst_insertEntry key value list.entries

theorem keys_erase (list : KeyedList α) (key : String) :
    (list.erase key).keys = list.keys.erase key := by
  obtain ⟨entries⟩ := list
  simp only [erase, keys]
  induction entries with
  | nil => rfl
  | cons entry rest ih =>
    by_cases h : entry.1 = key
    · simp [eraseEntry, h]
    · simp [eraseEntry, h, ih, List.erase_cons_tail]

theorem keys_modify (list : KeyedList α) (key : String) (change : α → α) :
    (list.modify key change).keys = list.keys := by
  obtain ⟨entries⟩ := list
  simp only [modify, keys]
  induction entries with
  | nil => rfl
  | cons entry rest ih =>
    by_cases h : entry.1 = key <;> simp [modifyEntry, h, ih]

/-! ## Values -/

theorem get?_insert (list : KeyedList α) (key : String) (value : α) :
    (list.insert key value).get? key = some value := by
  obtain ⟨entries⟩ := list
  simp only [insert, get?]
  induction entries with
  | nil => simp [insertEntry, getEntry?]
  | cons entry rest ih => by_cases h : entry.1 = key <;> simp [insertEntry, getEntry?, h, ih]

theorem get?_insert_of_ne (list : KeyedList α) {key other : String} (value : α) (h : other ≠ key) :
    (list.insert key value).get? other = list.get? other := by
  obtain ⟨entries⟩ := list
  simp only [insert, get?]
  induction entries with
  | nil => simp [insertEntry, getEntry?, Ne.symm h]
  | cons entry rest ih =>
    by_cases he : entry.1 = key
    · simp [insertEntry, getEntry?, he, Ne.symm h]
    · simp [insertEntry, getEntry?, he, ih]

end KeyedList

end PolySql
