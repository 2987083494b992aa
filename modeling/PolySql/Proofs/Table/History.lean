import PolySql.Proofs.Table.Stored

/-!
# Tables that are built step by step

A table is made by operations, one after the other. A history lists them, the latest first, and says
on its own which columns there have to be and in which order.

* `Operation`, `Table.step?`, `Table.run?` — what can be done to a table, and a new table to which
  it was done; `Table.Reachable` — such a table.
* `Effect`, `Operation.effect?` — what an operation does to the column of one key.
* `History.column?` — the column of a key by a look back: that of the latest addition, with the
  changes since.
* `History.arrival?` — when a key came: at its first addition since it was last absent.
* `Table.Reflects` — a table holds what its history says; each step keeps this
  (`Table.Reflects.step`).
* `Step` — one operation leaves the columns of all other keys and their order alone.

Principal result: `reflects_run` — after every history the table reflects it, and so does what each
further operation makes of it.
-/

namespace PolySql

/-! ## Operations -/

/-- What can be done to a table. -/
inductive Operation where
  /-- A new column is added and then changed. -/
  | addNew (name : String) (settings : List Setting)
  | add (column : Column)
  | edit (name : String) (settings : List Setting)
  | remove (name : String)
  | setCheck (expression : String)
  | setComment (text : String)
  /-- The table is written and read back. -/
  | store
  deriving DecidableEq, Repr

/-- Operations, the latest first. -/
abbrev History := List Operation

namespace Table

/-- The table after an operation; `none` if it is written and cannot be read back. -/
def step? (table : Table) : Operation → Option Table
  | .addNew name settings => some ((table.addColumn { name }).edit name settings).1
  | .add column => some (table.addColumn column)
  | .edit name settings => some (table.edit name settings).1
  | .remove name => some (table.removeColumn name)
  | .setCheck expression => some (table.setCheck expression)
  | .setComment text => some (table.setComment text)
  | .store => Stored.ofJson? (Stored.toJson table)

/-- A new table after some operations. -/
def run? (name : String) : History → Option Table
  | [] => some (empty name)
  | operation :: earlier => (run? name earlier).bind fun table => table.step? operation

/-- A table that comes about by operations on a new one. -/
def Reachable (table : Table) : Prop := ∃ name history, run? name history = some table

end Table

/-! ## What a history says -/

/-- What becomes of the column of a key. -/
inductive Effect where
  /-- There is this column, whatever there was before. -/
  | give (column : Column)
  | change (settings : List Setting)
  | drop

/-- The key on which an operation acts, if it acts on one, and what it does there. The key of a name
is its upper-case form. -/
def Operation.effect? : Operation → Option (String × Effect)
  | .addNew name settings => some (Text.upper name, .give (Column.setAll { name } settings).1)
  | .add column => some (Text.upper column.name, .give column)
  | .edit name settings => some (Text.upper name, .change settings)
  | .remove name => some (Text.upper name, .drop)
  | .setCheck _ | .setComment _ | .store => none

/-- What an operation does to the column of a key. -/
def Operation.effectOn? (operation : Operation) (key : String) : Option Effect :=
  operation.effect?.bind fun (k, effect) => if k = key then some effect else none

namespace History

/-- The column of a key: that of its latest addition, with the changes since. -/
def column? (key : String) : History → Option Column
  | [] => none
  | operation :: earlier =>
    match operation.effectOn? key with
    | some (.give column) => some column
    | some (.change settings) => (column? key earlier).map fun column => (column.setAll settings).1
    | some .drop => none
    | none => column? key earlier

/-- How many operations came before the first addition of a key since it was last absent. -/
def arrival? (key : String) : History → Option Nat
  | [] => none
  | operation :: earlier =>
    match operation.effectOn? key with
    | some (.give _) => some ((arrival? key earlier).getD earlier.length)
    | some (.change _) => arrival? key earlier
    | some .drop => none
    | none => arrival? key earlier

/-- Of two keys that are present, the first came first. -/
def Precedes (history : History) (key other : String) : Prop :=
  ∃ i j, arrival? key history = some i ∧ arrival? other history = some j ∧ i < j

theorem arrival?_lt {key : String} {history : History} {i : Nat}
    (h : arrival? key history = some i) : i < history.length := by
  induction history generalizing i with
  | nil => cases h
  | cons operation earlier ih =>
    rw [List.length_cons]
    unfold arrival? at h
    split at h
    · obtain rfl := Option.some.inj h
      cases hearlier : arrival? key earlier with
      | none =>
        rw [Option.getD_none]
        omega
      | some j =>
        have := ih hearlier
        rw [Option.getD_some]
        omega
    · have := ih h
      omega
    · cases h
    · have := ih h
      omega

section

variable {operation : Operation} {key : String} {effect : Effect}

theorem effectOn?_self (h : operation.effect? = some (key, effect)) :
    operation.effectOn? key = some effect := by
  simp [Operation.effectOn?, h]

theorem effectOn?_of_ne (h : operation.effect? = some (key, effect)) {other : String}
    (hne : other ≠ key) : operation.effectOn? other = none := by
  simp [Operation.effectOn?, h, Ne.symm hne]

theorem effectOn?_of_none (h : operation.effect? = none) (other : String) :
    operation.effectOn? other = none := by
  simp [Operation.effectOn?, h]

/-- An operation that does nothing to a key leaves what the history says of it. -/
theorem cons_of_effectOn?_eq_none (h : operation.effectOn? key = none) (earlier : History) :
    column? key (operation :: earlier) = column? key earlier ∧
      arrival? key (operation :: earlier) = arrival? key earlier := by
  simp [column?, arrival?, h]

/-- What is added is the column whose name, in upper case, is the key. -/
theorem key_of_give {column : Column} (h : operation.effect? = some (key, .give column)) :
    key = Text.upper column.name := by
  cases operation with
  | addNew name settings =>
    simp only [Operation.effect?, Option.some.injEq, Prod.mk.injEq, Effect.give.injEq] at h
    obtain ⟨rfl, rfl⟩ := h
    rw [Column.name_setAll]
  | add column =>
    simp only [Operation.effect?, Option.some.injEq, Prod.mk.injEq, Effect.give.injEq] at h
    obtain ⟨rfl, rfl⟩ := h
    rfl
  | _ => simp [Operation.effect?] at h

end

end History

/-! ## What an operation does to the columns -/

namespace Effect

/-- The columns after an effect on a key. -/
def apply (key : String) (columns : KeyedList Column) : Effect → KeyedList Column
  | .give column => columns.insert key column
  | .change settings => columns.modify key fun column => (column.setAll settings).1
  | .drop => columns.erase key

/-- The keys after an effect on one of them: a new key comes last, a dropped one goes. -/
def keysAfter (key : String) (keys : List String) : Effect → List String
  | .give _ => if key ∈ keys then keys else keys ++ [key]
  | .change _ => keys
  | .drop => keys.erase key

theorem keys_apply (effect : Effect) (key : String) (columns : KeyedList Column) :
    (effect.apply key columns).keys = effect.keysAfter key columns.keys := by
  cases effect with
  | give column => exact columns.keys_insert key column
  | change settings => exact columns.keys_modify key _
  | drop => exact columns.keys_erase key

theorem others_apply (effect : Effect) (key : String) (columns : KeyedList Column) :
    (effect.apply key columns).others key = columns.others key := by
  cases effect with
  | give column => exact columns.others_insert key column
  | change settings => exact columns.others_modify key _
  | drop => exact columns.others_erase key

theorem get?_apply_of_ne (effect : Effect) {key other : String} (columns : KeyedList Column)
    (h : other ≠ key) : (effect.apply key columns).get? other = columns.get? other := by
  cases effect with
  | give column => exact columns.get?_insert_of_ne column h
  | change settings => exact columns.get?_modify_of_ne _ h
  | drop => exact columns.get?_erase_of_ne h

end Effect

/-- What one operation makes of some columns. Those of the other keys stay as they are and where
they are; the key itself keeps its place if it was and is present. -/
def Step (operation : Operation) (columns next : KeyedList Column) : Prop :=
  match operation.effect? with
  | some (key, effect) =>
    next.others key = columns.others key ∧ next.keys = effect.keysAfter key columns.keys
  | none => next = columns

namespace Table

theorem columns_edit (table : Table) (name : String) (settings : List Setting) :
    (table.edit name settings).1.columns =
      table.columns.modify (Text.upper name) fun column => (column.setAll settings).1 := by
  unfold edit column? Column.key KeyedList.get? KeyedList.modify
  by_cases h : Text.upper name ∈ table.columns.entries.map Prod.fst
  · obtain ⟨front, column, back, hentries, hfront⟩ := KeyedList.exists_split h
    rw [hentries, KeyedList.getEntry?_split hfront]
    simp only [KeyedList.modifyEntry_split hfront]
  · rw [KeyedList.getEntry?_of_not_mem h, KeyedList.modifyEntry_of_not_mem h]

theorem modify_insert (columns : KeyedList Column) (key : String) (column : Column)
    (change : Column → Column) :
    (columns.insert key column).modify key change = columns.insert key (change column) := by
  unfold KeyedList.insert KeyedList.modify
  congr 1
  by_cases h : key ∈ columns.entries.map Prod.fst
  · obtain ⟨front, old, back, hentries, hfront⟩ := KeyedList.exists_split h
    rw [hentries, KeyedList.insertEntry_split hfront, KeyedList.insertEntry_split hfront,
      KeyedList.modifyEntry_split hfront]
  · rw [KeyedList.insertEntry_of_not_mem h, KeyedList.insertEntry_of_not_mem h,
      KeyedList.modifyEntry_split h]

/-- **Each operation on a table whose columns have keys of their own succeeds**, and acts on the
columns as its effect says. -/
theorem exists_step {table : Table} (h : table.Keyed) (operation : Operation) :
    ∃ next, table.step? operation = some next ∧
      next.columns = match operation.effect? with
        | some (key, effect) => effect.apply key table.columns
        | none => table.columns := by
  cases operation with
  | addNew name settings =>
    refine ⟨_, rfl, ?_⟩
    rw [columns_edit, addColumn, Column.key, modify_insert]
    rfl
  | add column => exact ⟨_, rfl, rfl⟩
  | edit name settings => exact ⟨_, rfl, columns_edit table name settings⟩
  | remove name => exact ⟨_, rfl, rfl⟩
  | setCheck expression => exact ⟨_, rfl, rfl⟩
  | setComment text => exact ⟨_, rfl, rfl⟩
  | store =>
    refine ⟨table, ?_, rfl⟩
    rw [step?, Stored.ofJson?_toJson_table, ofColumns_of_keyed h]

/-! ## Tables and their histories -/

/-- A table holds what its history says: the columns that were added and not removed, each as it
was last added and changed since, in the order in which their keys came. -/
structure Reflects (table : Table) (history : History) : Prop extends table.Keyed where
  present : ∀ key, key ∈ table.columns.keys ↔ (History.arrival? key history).isSome
  order : table.columns.keys.Pairwise (History.Precedes history)
  column : ∀ key, table.columns.get? key = History.column? key history

/-- A table finds a column exactly if the name of one of its columns has the same upper-case
form. -/
theorem Keyed.isSome_column? {table : Table} (h : table.Keyed) (name : String) :
    (table.column? name).isSome ↔
      ∃ column ∈ table.columnList, Text.upper column.name = Text.upper name := by
  unfold column? Column.key columnList KeyedList.values
  rw [KeyedList.isSome_get?, KeyedList.keys]
  constructor
  · intro hmem
    obtain ⟨entry, hentry, hkey⟩ := List.mem_map.1 hmem
    refine ⟨entry.2, List.mem_map.2 ⟨entry, hentry, rfl⟩, ?_⟩
    rw [← h.held entry hentry, hkey]
  · rintro ⟨column, hcolumn, hkey⟩
    obtain ⟨entry, hentry, rfl⟩ := List.mem_map.1 hcolumn
    exact List.mem_map.2 ⟨entry, hentry, by rw [h.held entry hentry, hkey]⟩

theorem reflects_empty (name : String) : (empty name).Reflects [] := by
  have hentries : (empty name).columns.entries = [] := rfl
  have hkeys : (empty name).columns.keys = [] := rfl
  constructor
  · constructor
    · simp [hentries]
    · simp [hkeys]
  · simp [hkeys, History.arrival?]
  · simp [hkeys]
  · intro key
    rfl

namespace Reflects

variable {table next : Table} {history : History} {operation : Operation} {key : String}

/-- An operation without an effect on any column. -/
theorem idle (h : table.Reflects history) (heffect : operation.effect? = none)
    (hcolumns : next.columns = table.columns) : next.Reflects (operation :: history) := by
  have hsame := fun key =>
    History.cons_of_effectOn?_eq_none (History.effectOn?_of_none heffect key) history
  constructor
  · constructor
    · rw [hcolumns]
      exact h.held
    · rw [hcolumns]
      exact h.distinct
  · intro key
    rw [hcolumns, (hsame key).2]
    exact h.present key
  · rw [hcolumns]
    refine h.order.imp fun {k l} hkl => ?_
    unfold History.Precedes
    rw [(hsame k).2, (hsame l).2]
    exact hkl
  · intro key
    rw [hcolumns, (hsame key).1]
    exact h.column key

/-- A key that is not touched is held as before. -/
theorem of_ne (h : table.Reflects history) {effect : Effect}
    (heffect : operation.effect? = some (key, effect))
    (hcolumns : next.columns = effect.apply key table.columns) {other : String}
    (hne : other ≠ key) :
    (other ∈ next.columns.keys ↔ (History.arrival? other (operation :: history)).isSome) ∧
      next.columns.get? other = History.column? other (operation :: history) := by
  have hsame :=
    History.cons_of_effectOn?_eq_none (History.effectOn?_of_ne heffect hne) history
  have hget : next.columns.get? other = table.columns.get? other := by
    rw [hcolumns, Effect.get?_apply_of_ne effect table.columns hne]
  constructor
  · rw [← KeyedList.isSome_get?, hget, KeyedList.isSome_get?, hsame.2]
    exact h.present other
  · rw [hget, hsame.1]
    exact h.column other

/-- Keys that are present and stay so keep the order in which they came. -/
theorem precedes_of_arrival {history later : History} {k l : String}
    (h : History.Precedes history k l)
    (hk : History.arrival? k later = History.arrival? k history)
    (hl : History.arrival? l later = History.arrival? l history) : History.Precedes later k l := by
  unfold History.Precedes
  rw [hk, hl]
  exact h

/-- A key that is given a column came then, if it was not present before. -/
theorem arrival?_give {column : Column} (heffect : operation.effect? = some (key, .give column))
    (history : History) : History.arrival? key (operation :: history) =
      some ((History.arrival? key history).getD history.length) := by
  simp [History.arrival?, History.effectOn?_self heffect]

/-- A key that was present before came when it did before, also if it is given a column again. -/
theorem arrival?_give_of_mem (h : table.Reflects history) {column : Column}
    (heffect : operation.effect? = some (key, .give column)) {k : String}
    (hk : k ∈ table.columns.keys) :
    History.arrival? k (operation :: history) = History.arrival? k history := by
  by_cases hne : k = key
  · obtain ⟨i, hi⟩ := Option.isSome_iff_exists.1 ((h.present k).1 hk)
    rw [hne] at hi ⊢
    rw [arrival?_give heffect, hi, Option.getD_some]
  · exact (History.cons_of_effectOn?_eq_none (History.effectOn?_of_ne heffect hne) history).2

theorem keyed_give (h : table.Reflects history) {column : Column}
    (heffect : operation.effect? = some (key, .give column))
    (hcolumns : next.columns = table.columns.insert key column) : next.Keyed := by
  constructor
  · intro entry hentry
    rw [hcolumns] at hentry
    rcases KeyedList.mem_entries_insert hentry with rfl | hentry
    · exact History.key_of_give heffect
    · exact h.held entry hentry
  · rw [hcolumns, KeyedList.keys_insert]
    split
    · exact h.distinct
    · rename_i hmem
      refine List.nodup_append.2 ⟨h.distinct, by simp, ?_⟩
      intro k hk l hl hkl
      rw [List.mem_singleton] at hl
      rw [hkl, hl] at hk
      exact hmem hk

/-- A new key comes behind those that are present. -/
theorem order_give (h : table.Reflects history) {column : Column}
    (heffect : operation.effect? = some (key, .give column))
    (hcolumns : next.columns = table.columns.insert key column) :
    next.columns.keys.Pairwise (History.Precedes (operation :: history)) := by
  have hpairs : table.columns.keys.Pairwise (History.Precedes (operation :: history)) :=
    h.order.imp_of_mem fun hk hl hkl =>
      precedes_of_arrival hkl (h.arrival?_give_of_mem heffect hk) (h.arrival?_give_of_mem heffect hl)
  rw [hcolumns, KeyedList.keys_insert]
  split
  · exact hpairs
  · rename_i hmem
    refine List.pairwise_append.2 ⟨hpairs, List.pairwise_singleton _ _, ?_⟩
    intro k hk l hl
    rw [List.mem_singleton] at hl
    obtain ⟨i, hi⟩ := Option.isSome_iff_exists.1 ((h.present k).1 hk)
    have habsent : History.arrival? key history = none := by
      rw [← Option.not_isSome_iff_eq_none, ← h.present key]
      exact hmem
    refine ⟨i, history.length, ?_, ?_, History.arrival?_lt hi⟩
    · rw [h.arrival?_give_of_mem heffect hk, hi]
    · rw [hl, arrival?_give heffect, habsent, Option.getD_none]

theorem give (h : table.Reflects history) {column : Column}
    (heffect : operation.effect? = some (key, .give column))
    (hcolumns : next.columns = table.columns.insert key column) :
    next.Reflects (operation :: history) := by
  refine ⟨h.keyed_give heffect hcolumns, ?_, h.order_give heffect hcolumns, ?_⟩
  · intro other
    by_cases hne : other = key
    · have hpresent : key ∈ next.columns.keys := by
        rw [hcolumns, KeyedList.keys_insert]
        split
        · assumption
        · simp
      rw [hne, arrival?_give heffect]
      exact iff_of_true hpresent rfl
    · exact (of_ne h heffect hcolumns hne).1
  · intro other
    by_cases hne : other = key
    · rw [hne, hcolumns, KeyedList.get?_insert]
      simp [History.column?, History.effectOn?_self heffect]
    · exact (of_ne h heffect hcolumns hne).2

theorem change (h : table.Reflects history) {settings : List Setting}
    (heffect : operation.effect? = some (key, .change settings))
    (hcolumns : next.columns = table.columns.modify key fun column => (column.setAll settings).1) :
    next.Reflects (operation :: history) := by
  have hkeys : next.columns.keys = table.columns.keys := by
    rw [hcolumns, KeyedList.keys_modify]
  have harrival : ∀ k, History.arrival? k (operation :: history) = History.arrival? k history := by
    intro k
    by_cases hne : k = key
    · rw [hne]
      simp [History.arrival?, History.effectOn?_self heffect]
    · exact (History.cons_of_effectOn?_eq_none (History.effectOn?_of_ne heffect hne) history).2
  constructor
  · constructor
    · intro entry hentry
      rw [hcolumns] at hentry
      rcases KeyedList.mem_entries_modify hentry with ⟨old, hold, rfl⟩ | hentry
      · rw [Column.name_setAll]
        exact h.held _ hold
      · exact h.held entry hentry
    · rw [hkeys]
      exact h.distinct
  · intro k
    rw [hkeys, harrival]
    exact h.present k
  · rw [hkeys]
    exact h.order.imp fun hkl => precedes_of_arrival hkl (harrival _) (harrival _)
  · intro other
    by_cases hne : other = key
    · rw [hne, hcolumns, KeyedList.get?_modify, h.column key]
      simp [History.column?, History.effectOn?_self heffect]
    · exact (of_ne h heffect hcolumns hne).2

theorem drop (h : table.Reflects history)
    (heffect : operation.effect? = some (key, .drop))
    (hcolumns : next.columns = table.columns.erase key) : next.Reflects (operation :: history) := by
  have hkeys : next.columns.keys = table.columns.keys.erase key := by
    rw [hcolumns, KeyedList.keys_erase]
  have hother : ∀ k ∈ table.columns.keys.erase key,
      History.arrival? k (operation :: history) = History.arrival? k history := by
    intro k hk
    have hne : k ≠ key := (h.distinct.mem_erase_iff.1 hk).1
    exact (History.cons_of_effectOn?_eq_none (History.effectOn?_of_ne heffect hne) history).2
  constructor
  · constructor
    · intro entry hentry
      rw [hcolumns] at hentry
      exact h.held entry (KeyedList.mem_entries_erase hentry)
    · rw [hkeys]
      exact h.distinct.erase key
  · intro other
    by_cases hne : other = key
    · rw [hne, hkeys]
      simp [History.arrival?, History.effectOn?_self heffect, h.distinct.not_mem_erase]
    · exact (of_ne h heffect hcolumns hne).1
  · rw [hkeys]
    exact (h.order.sublist List.erase_sublist).imp_of_mem fun hk hl hkl =>
      precedes_of_arrival hkl (hother _ hk) (hother _ hl)
  · intro other
    by_cases hne : other = key
    · rw [hne, hcolumns, KeyedList.get?_erase h.distinct]
      simp [History.column?, History.effectOn?_self heffect]
    · exact (of_ne h heffect hcolumns hne).2

/-- **Each operation keeps a table and its history together.** -/
theorem step (h : table.Reflects history) (operation : Operation) :
    ∃ next, table.step? operation = some next ∧ Step operation table.columns next.columns ∧
      next.Reflects (operation :: history) := by
  obtain ⟨next, hnext, hcolumns⟩ := exists_step h.toKeyed operation
  refine ⟨next, hnext, ?_⟩
  unfold Step
  cases heffect : operation.effect? with
  | none =>
    rw [heffect] at hcolumns
    exact ⟨hcolumns, h.idle heffect hcolumns⟩
  | some found =>
    obtain ⟨key, effect⟩ := found
    rw [heffect] at hcolumns
    refine ⟨⟨?_, ?_⟩, ?_⟩
    · rw [hcolumns]
      exact effect.others_apply key table.columns
    · rw [hcolumns]
      exact effect.keys_apply key table.columns
    · cases effect with
      | give column => exact h.give heffect hcolumns
      | change settings => exact h.change heffect hcolumns
      | drop => exact h.drop heffect hcolumns

end Reflects

/-! ## All histories -/

theorem exists_run (name : String) (history : History) :
    ∃ table, run? name history = some table ∧ table.Reflects history := by
  induction history with
  | nil => exact ⟨empty name, rfl, reflects_empty name⟩
  | cons operation earlier ih =>
    obtain ⟨table, hrun, htable⟩ := ih
    obtain ⟨next, hstep, -, hnext⟩ := htable.step operation
    refine ⟨next, ?_, hnext⟩
    rw [run?, hrun]
    exact hstep

theorem Reachable.keyed {table : Table} (h : table.Reachable) : table.Keyed := by
  obtain ⟨name, history, hrun⟩ := h
  obtain ⟨found, hfound, hreflects⟩ := exists_run name history
  obtain rfl : table = found := Option.some.inj (hrun.symm.trans hfound)
  exact hreflects.toKeyed

/-- **After every history a table holds what the history says.** Each column is held under its name
in upper case and no key is held twice; the keys stand in the order in which they came; a name finds
the column that was last added under its upper-case form, with the changes since, and finds one
exactly if the name of a column has that form. A further operation acts on one key at most and
leaves all other columns and their order alone. -/
theorem reflects_run (name : String) (history : History) :
    ∃ table, run? name history = some table ∧ table.Reflects history ∧
      (∀ wanted, table.column? wanted = History.column? (Text.upper wanted) history ∧
        ((table.column? wanted).isSome ↔
          ∃ column ∈ table.columnList, Text.upper column.name = Text.upper wanted)) ∧
      ∀ operation, ∃ next, run? name (operation :: history) = some next ∧
        Step operation table.columns next.columns := by
  obtain ⟨table, hrun, hreflects⟩ := exists_run name history
  refine ⟨table, hrun, hreflects, ?_, ?_⟩
  · intro wanted
    exact ⟨hreflects.column (Text.upper wanted), hreflects.isSome_column? wanted⟩
  · intro operation
    obtain ⟨next, hnext, hstep, -⟩ := hreflects.step operation
    refine ⟨next, ?_, hstep⟩
    rw [run?, hrun]
    exact hnext

/-- Names that differ in letter case have one key, also if one of them is longer. The column that is
added last takes the place of the first. -/
theorem reflects_run_letterCase :
    ∃ table, run? "t" [.edit "B" [.unique], .add { name := "STRASSE", type := .integer },
        .addNew "b" [], .addNew "straße" [.notNull]] = some table ∧
      table.columns.keys = ["STRASSE", "B"] ∧
      table.column? "Straße" = some { name := "STRASSE", type := .integer } ∧
      table.column? "B" = some { name := "b", unique := true } := by
  obtain ⟨table, hrun, -, hcolumns, -⟩ := reflects_run "t" [.edit "B" [.unique],
    .add { name := "STRASSE", type := .integer }, .addNew "b" [], .addNew "straße" [.notNull]]
  have hkeys : (run? "t" [.edit "B" [.unique], .add { name := "STRASSE", type := .integer },
      .addNew "b" [], .addNew "straße" [.notNull]]).map (·.columns.keys) =
        some ["STRASSE", "B"] := by
    decide +kernel
  rw [hrun] at hkeys
  refine ⟨table, hrun, Option.some.inj hkeys, ?_, ?_⟩
  · rw [(hcolumns "Straße").1]
    decide +kernel
  · rw [(hcolumns "B").1]
    decide +kernel

end Table

end PolySql
