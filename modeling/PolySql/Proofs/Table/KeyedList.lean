import PolySql.Table.KeyedList

/-!
# What operations do to a list with keys

* `exists_split` — a list at the first entry of a present key.
* `insertEntry_split`, `modifyEntry_split`, `eraseEntry_split` — an operation on a present key acts
  on its first entry and on nothing else.
* `insertEntry_of_not_mem`, `modifyEntry_of_not_mem`, `eraseEntry_of_not_mem` — what it does to an
  absent key.
* `get?_modify`, `get?_erase` and their `_of_ne` — the value of a key afterwards.
* `others_insert`, `others_modify`, `others_erase` — the entries of the other keys stay as they are,
  in their order.
-/

namespace PolySql.KeyedList

variable {α : Type}

/-! ## A list at a key -/

/-- The first entry of a present key, with what stands before and after it. -/
theorem exists_split {key : String} :
    ∀ {entries : List (String × α)}, key ∈ entries.map Prod.fst →
      ∃ front value back, entries = front ++ (key, value) :: back ∧ key ∉ front.map Prod.fst
  | [], h => by simp at h
  | (k, v) :: rest, h => by
    by_cases hk : k = key
    · subst hk
      exact ⟨[], v, rest, rfl, by simp⟩
    · have hrest : key ∈ rest.map Prod.fst := by
        rcases List.mem_cons.1 h with h | h
        · exact absurd h.symm hk
        · exact h
      obtain ⟨front, value, back, rfl, hfront⟩ := exists_split hrest
      refine ⟨(k, v) :: front, value, back, rfl, ?_⟩
      intro hmem
      rcases List.mem_cons.1 hmem with hmem | hmem
      · exact hk hmem.symm
      · exact hfront hmem

section

variable {key : String} {front : List (String × α)}

/-- Where a key is absent, its entry goes to the end. -/
theorem insertEntry_of_not_mem {entries : List (String × α)} (h : key ∉ entries.map Prod.fst)
    (value : α) : insertEntry key value entries = entries ++ [(key, value)] := by
  induction entries with
  | nil => rfl
  | cons entry rest ih =>
    simp only [List.map_cons, List.mem_cons, not_or] at h
    rw [insertEntry, if_neg (Ne.symm h.1), ih h.2]
    rfl

theorem modifyEntry_of_not_mem {entries : List (String × α)} (h : key ∉ entries.map Prod.fst)
    (change : α → α) : modifyEntry key change entries = entries := by
  induction entries with
  | nil => rfl
  | cons entry rest ih =>
    simp only [List.map_cons, List.mem_cons, not_or] at h
    rw [modifyEntry, if_neg (Ne.symm h.1), ih h.2]

theorem eraseEntry_of_not_mem {entries : List (String × α)} (h : key ∉ entries.map Prod.fst) :
    eraseEntry key entries = entries := by
  induction entries with
  | nil => rfl
  | cons entry rest ih =>
    simp only [List.map_cons, List.mem_cons, not_or] at h
    rw [eraseEntry, if_neg (Ne.symm h.1), ih h.2]

theorem getEntry?_of_not_mem {entries : List (String × α)} (h : key ∉ entries.map Prod.fst) :
    getEntry? key entries = none := by
  induction entries with
  | nil => rfl
  | cons entry rest ih =>
    simp only [List.map_cons, List.mem_cons, not_or] at h
    unfold getEntry?
    rw [if_neg (Ne.symm h.1), ih h.2]

variable (h : key ∉ front.map Prod.fst) (old : α) (back : List (String × α))

include h

/-- The value of a present key is replaced where it stands. -/
theorem insertEntry_split (value : α) :
    insertEntry key value (front ++ (key, old) :: back) = front ++ (key, value) :: back := by
  induction front with
  | nil => simp [insertEntry]
  | cons entry front ih =>
    simp only [List.map_cons, List.mem_cons, not_or] at h
    rw [List.cons_append, insertEntry, if_neg (Ne.symm h.1), ih h.2]
    rfl

theorem modifyEntry_split (change : α → α) :
    modifyEntry key change (front ++ (key, old) :: back) =
      front ++ (key, change old) :: back := by
  induction front with
  | nil => simp [modifyEntry]
  | cons entry front ih =>
    simp only [List.map_cons, List.mem_cons, not_or] at h
    rw [List.cons_append, modifyEntry, if_neg (Ne.symm h.1), ih h.2]
    rfl

theorem eraseEntry_split : eraseEntry key (front ++ (key, old) :: back) = front ++ back := by
  induction front with
  | nil => simp [eraseEntry]
  | cons entry front ih =>
    simp only [List.map_cons, List.mem_cons, not_or] at h
    rw [List.cons_append, eraseEntry, if_neg (Ne.symm h.1), ih h.2]
    rfl

theorem getEntry?_split : getEntry? key (front ++ (key, old) :: back) = some old := by
  induction front with
  | nil =>
    unfold getEntry?
    simp
  | cons entry front ih =>
    simp only [List.map_cons, List.mem_cons, not_or] at h
    rw [List.cons_append, getEntry?, if_neg (Ne.symm h.1), ih h.2]

end

/-! ## Values -/

theorem isSome_get? (list : KeyedList α) (key : String) :
    (list.get? key).isSome ↔ key ∈ list.keys := by
  unfold get? keys
  by_cases h : key ∈ list.entries.map Prod.fst
  · obtain ⟨front, value, back, hentries, hfront⟩ := exists_split h
    simp [hentries, getEntry?_split hfront]
  · simp [getEntry?_of_not_mem h, h]

theorem get?_modify (list : KeyedList α) (key : String) (change : α → α) :
    (list.modify key change).get? key = (list.get? key).map change := by
  unfold modify get?
  by_cases h : key ∈ list.entries.map Prod.fst
  · obtain ⟨front, value, back, hentries, hfront⟩ := exists_split h
    simp only [hentries, modifyEntry_split hfront, getEntry?_split hfront, Option.map_some]
  · simp [modifyEntry_of_not_mem h, getEntry?_of_not_mem h]

theorem get?_modify_of_ne (list : KeyedList α) {key other : String} (change : α → α)
    (h : other ≠ key) : (list.modify key change).get? other = list.get? other := by
  unfold modify get?
  induction list.entries with
  | nil => rfl
  | cons entry rest ih =>
    by_cases hk : entry.1 = key
    · simp [modifyEntry, getEntry?, hk, Ne.symm h]
    · simp [modifyEntry, getEntry?, hk, ih]

/-- Where the keys are distinct, an erased key is gone. -/
theorem get?_erase {list : KeyedList α} (hdistinct : list.keys.Nodup) (key : String) :
    (list.erase key).get? key = none := by
  rw [← Option.not_isSome_iff_eq_none, isSome_get?, keys_erase]
  exact hdistinct.not_mem_erase

theorem get?_erase_of_ne (list : KeyedList α) {key other : String} (h : other ≠ key) :
    (list.erase key).get? other = list.get? other := by
  unfold erase get?
  induction list.entries with
  | nil => rfl
  | cons entry rest ih =>
    by_cases hk : entry.1 = key
    · simp [eraseEntry, getEntry?, hk, Ne.symm h]
    · simp [eraseEntry, getEntry?, hk, ih]

/-! ## Entries -/

theorem mem_entries_insert {list : KeyedList α} {key : String} {value : α} {entry : String × α}
    (h : entry ∈ (list.insert key value).entries) :
    entry = (key, value) ∨ entry ∈ list.entries := by
  unfold insert at h
  by_cases hmem : key ∈ list.entries.map Prod.fst
  · obtain ⟨front, old, back, hentries, hfront⟩ := exists_split hmem
    rw [hentries] at h ⊢
    rw [insertEntry_split hfront] at h
    simp only [List.mem_append, List.mem_cons] at h ⊢
    rcases h with h | h | h
    · exact .inr (.inl h)
    · exact .inl h
    · exact .inr (.inr (.inr h))
  · rw [insertEntry_of_not_mem hmem] at h
    simp only [List.mem_append, List.mem_singleton] at h
    exact h.symm

theorem mem_entries_modify {list : KeyedList α} {key : String} {change : α → α}
    {entry : String × α} (h : entry ∈ (list.modify key change).entries) :
    (∃ old, (key, old) ∈ list.entries ∧ entry = (key, change old)) ∨ entry ∈ list.entries := by
  unfold modify at h
  by_cases hmem : key ∈ list.entries.map Prod.fst
  · obtain ⟨front, old, back, hentries, hfront⟩ := exists_split hmem
    rw [hentries] at h ⊢
    rw [modifyEntry_split hfront] at h
    simp only [List.mem_append, List.mem_cons] at h ⊢
    rcases h with h | h | h
    · exact .inr (.inl h)
    · exact .inl ⟨old, .inr (.inl rfl), h⟩
    · exact .inr (.inr (.inr h))
  · rw [modifyEntry_of_not_mem hmem] at h
    exact .inr h

theorem mem_entries_erase {list : KeyedList α} {key : String} {entry : String × α}
    (h : entry ∈ (list.erase key).entries) : entry ∈ list.entries := by
  unfold erase at h
  by_cases hmem : key ∈ list.entries.map Prod.fst
  · obtain ⟨front, old, back, hentries, hfront⟩ := exists_split hmem
    rw [hentries] at h ⊢
    rw [eraseEntry_split hfront] at h
    simp only [List.mem_append, List.mem_cons] at h ⊢
    rcases h with h | h
    · exact .inl h
    · exact .inr (.inr h)
  · rwa [eraseEntry_of_not_mem hmem] at h

/-- The entries of the keys other than one, in order. -/
def others (list : KeyedList α) (key : String) : List (String × α) :=
  list.entries.filter fun entry => entry.1 ≠ key

theorem others_split (front back : List (String × α)) (key : String) (value : α) :
    others ⟨front ++ (key, value) :: back⟩ key = others ⟨front ++ back⟩ key := by
  simp [others]

theorem others_insert (list : KeyedList α) (key : String) (value : α) :
    (list.insert key value).others key = list.others key := by
  obtain ⟨entries⟩ := list
  unfold insert
  by_cases hmem : key ∈ entries.map Prod.fst
  · obtain ⟨front, old, back, rfl, hfront⟩ := exists_split hmem
    rw [insertEntry_split hfront, others_split, others_split]
  · rw [insertEntry_of_not_mem hmem, others_split, List.append_nil]

theorem others_modify (list : KeyedList α) (key : String) (change : α → α) :
    (list.modify key change).others key = list.others key := by
  obtain ⟨entries⟩ := list
  unfold modify
  by_cases hmem : key ∈ entries.map Prod.fst
  · obtain ⟨front, old, back, rfl, hfront⟩ := exists_split hmem
    rw [modifyEntry_split hfront, others_split, others_split]
  · rw [modifyEntry_of_not_mem hmem]

theorem others_erase (list : KeyedList α) (key : String) :
    (list.erase key).others key = list.others key := by
  obtain ⟨entries⟩ := list
  unfold erase
  by_cases hmem : key ∈ entries.map Prod.fst
  · obtain ⟨front, old, back, rfl, hfront⟩ := exists_split hmem
    rw [eraseEntry_split hfront, others_split]
  · rw [eraseEntry_of_not_mem hmem]

end PolySql.KeyedList
