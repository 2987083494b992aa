import PolySql.Proofs.Json.Scalars

/-!
# Values are read back

* `Plain` — values of whole texts and of numbers that fit into a word, nested up to a limit.
* `ReadsBack` — what is written for a value is read back as that value, whatever follows.
* `readItems_writeItems`, `readMembers_writeMembers` — lists of values that are read back are read
  back.
* `Plain.readsBack` — so are all plain values, by induction on how they are made.

Principal results: `Plain.parse?_write` — a plain value is parsed from what is written for it;
`Plain.isHeld` — it can be held in memory.
-/

namespace PolySql.Json

/-- Values of whole texts and of numbers that fit into a word, with at most so many levels of
nesting. -/
inductive Plain : Nat → Json → Prop
  | null {depth : Nat} : Plain depth .null
  | bool {depth : Nat} {value : Bool} : Plain depth (.bool value)
  | natural {depth n : Nat} (fits : n < UInt64.size) : Plain depth (.natural n)
  | text {depth : Nat} {value : String} : Plain depth (.text (some value))
  | array {depth : Nat} {items : List Json} (each : ∀ item ∈ items, Plain depth item) :
      Plain (depth + 1) (.array items)
  | object {depth : Nat} {members : List (JsonText × Json)}
      (names : ∀ entry ∈ members, ∃ name, entry.1 = some name)
      (each : ∀ entry ∈ members, Plain depth entry.2) : Plain (depth + 1) (.object members)

/-! ## What is written -/

theorem toList_writeText (s : String) :
    (writeText s).toList = '"' :: (s.toList.flatMap writeChar ++ ['"']) := String.toList_ofList

theorem toList_write_natural (n : Nat) : (write (.natural n)).toList = Nat.toDigits 10 n :=
  Nat.toList_repr

theorem toList_write_array (items : List Json) :
    (write (.array items)).toList = '[' :: ((writeItems items).toList ++ [']']) := by
  simp [write]

theorem toList_write_object (members : List (JsonText × Json)) :
    (write (.object members)).toList = '\x7b' :: ((writeMembers members).toList ++ ['\x7d']) := by
  simp [write]

theorem toList_writeItems_cons_cons (item other : Json) (items : List Json) :
    (writeItems (item :: other :: items)).toList =
      (write item).toList ++ ',' :: (writeItems (other :: items)).toList := by
  simp [writeItems]

/-- A member: its name, a colon and its value. -/
theorem toList_writeMembers_singleton (name : String) (value : Json) :
    (writeMembers [(some name, value)]).toList =
      '"' :: (name.toList.flatMap writeChar ++ '"' :: ':' :: (write value).toList) := by
  simp [writeMembers, toList_writeText]

theorem toList_writeMembers_cons_cons (name : String) (value : Json)
    (entry : JsonText × Json) (members : List (JsonText × Json)) :
    (writeMembers ((some name, value) :: entry :: members)).toList =
      (writeMembers [(some name, value)]).toList ++
        ',' :: (writeMembers (entry :: members)).toList := by
  simp [writeMembers]

/-- A character that a value begins with: no space, and nothing that closes a list. -/
def Begins (c : Char) : Prop := isSpace c = false ∧ c ≠ ']' ∧ c ≠ '\x7d'

instance (c : Char) : Decidable (Begins c) :=
  inferInstanceAs (Decidable (isSpace c = false ∧ c ≠ ']' ∧ c ≠ '\x7d'))

theorem ne_of_isDigit {c d : Char} (hc : c.isDigit = true) (hd : d.isDigit = false) : c ≠ d := by
  rintro rfl
  exact Bool.false_ne_true (hd.symm.trans hc)

theorem begins_of_isDigit {c : Char} (h : c.isDigit = true) : Begins c := by
  have hne : ∀ d : Char, d.isDigit = false → c ≠ d := fun d => ne_of_isDigit h
  refine ⟨?_, hne _ (by decide), hne _ (by decide)⟩
  simp [isSpace, hne ' ' (by decide), hne '\t' (by decide), hne '\n' (by decide),
    hne '\r' (by decide)]

/-- What is written for a plain value begins with a character of its own. -/
theorem Plain.exists_cons {depth : Nat} {json : Json} (h : Plain depth json) :
    ∃ c s, (write json).toList = c :: s ∧ Begins c := by
  cases h with
  | null => exact ⟨'n', _, String.toList_ofList, by decide⟩
  | @bool _ value =>
    cases value
    · exact ⟨'f', _, String.toList_ofList, by decide⟩
    · exact ⟨'t', _, String.toList_ofList, by decide⟩
  | @natural _ n =>
    obtain ⟨c, s, hdigits, hc, -⟩ := exists_toDigits n
    exact ⟨c, s, (toList_write_natural n).trans hdigits, begins_of_isDigit hc⟩
  | text => exact ⟨'"', _, toList_writeText _, by decide⟩
  | array => exact ⟨'[', _, toList_write_array _, by decide⟩
  | object => exact ⟨'\x7b', _, toList_write_object _, by decide⟩

/-! ## What is read -/

/-- What is written for a value is read back as that value, whatever follows. -/
def ReadsBack (json : Json) : Prop :=
  ∀ steps r, Ends r → 2 * (write json).toList.length ≤ steps →
    readValue steps ((write json).toList ++ r) = some (json, r)

theorem skipSpace_cons {c : Char} (h : isSpace c = false) (s : List Char) :
    skipSpace (c :: s) = c :: s :=
  List.dropWhile_cons_of_neg (by simp [h])

/-- It is enough to read a value whose first character is known. -/
theorem readsBack_of_cons {json : Json} {c : Char} {s : List Char}
    (hwrite : (write json).toList = c :: s)
    (hread : ∀ steps r, Ends r → 2 * s.length + 1 ≤ steps →
      readValue (steps + 1) (c :: (s ++ r)) = some (json, r)) : ReadsBack json := by
  intro steps r hr hsteps
  rw [hwrite, List.length_cons] at hsteps
  obtain ⟨steps, rfl⟩ : ∃ n, steps = n + 1 := ⟨steps - 1, by omega⟩
  rw [hwrite]
  exact hread steps r hr (by omega)

theorem readsBack_natural (n : Nat) : ReadsBack (.natural n) := by
  obtain ⟨c, s, hdigits, hc, -⟩ := exists_toDigits n
  refine readsBack_of_cons ((toList_write_natural n).trans hdigits) fun steps r hr _ => ?_
  rw [← readNumber_toDigits n hr, hdigits, List.cons_append, readValue,
    skipSpace_cons (begins_of_isDigit hc).1]
  split
  all_goals
    first
    | rfl
    | rename_i heq
      rw [(List.cons.inj heq).1] at hc
      exact absurd hc (by decide)

/-- Items that are read back are read back as a list. -/
theorem readItems_writeItems {items : List Json} (hne : items ≠ [])
    (hitems : ∀ item ∈ items, ReadsBack item) (r : List Char) {steps : Nat}
    (hsteps : 2 * (writeItems items).toList.length + 1 ≤ steps) :
    readItems steps ((writeItems items).toList ++ ']' :: r) = some (items, r) := by
  induction items generalizing steps with
  | nil => exact absurd rfl hne
  | cons item items ih =>
    obtain ⟨steps, rfl⟩ : ∃ n, steps = n + 1 := ⟨steps - 1, by omega⟩
    obtain ⟨hitem, hrest⟩ := List.forall_mem_cons.1 hitems
    cases items with
    | nil =>
      have hlast : (writeItems [item]).toList = (write item).toList := rfl
      rw [hlast] at hsteps ⊢
      rw [readItems, hitem steps (']' :: r) (ends_cons (.inr (.inl rfl)) r) (by omega)]
      rfl
    | cons other items =>
      rw [toList_writeItems_cons_cons] at hsteps ⊢
      rw [List.length_append, List.length_cons] at hsteps
      have hothers := @ih (by simp) hrest steps (by omega)
      rw [List.append_assoc, List.cons_append, readItems,
        hitem steps (',' :: _) (ends_cons (.inl rfl) _) (by omega)]
      simp only [Option.bind_eq_bind, Option.bind_some, skipSpace_cons (c := ',') rfl, hothers]
      rfl

/-- A member that is read back is followed by the next one or by the end of the object. -/
theorem readMembers_writeMembers_singleton {name : String} {value : Json} (hvalue : ReadsBack value)
    {r : List Char} (hr : Ends r) {steps : Nat}
    (hsteps : 2 * (writeMembers [(some name, value)]).toList.length ≤ steps) :
    readMembers (steps + 1) ((writeMembers [(some name, value)]).toList ++ r) =
      match skipSpace r with
      | '\x7d' :: rest => some ([(some name, value)], rest)
      | ',' :: r =>
        (readMembers steps r).map fun (members, rest) => ((some name, value) :: members, rest)
      | _ => none := by
  rw [toList_writeMembers_singleton] at hsteps ⊢
  simp only [List.length_cons, List.length_append] at hsteps
  have hname := readText_writeText name (':' :: ((write value).toList ++ r))
  have hread := hvalue steps r hr (by omega)
  rw [List.cons_append, List.append_assoc, List.cons_append, List.cons_append, readMembers]
  change (readText _ >>= _) = _
  rw [hname, Option.bind_eq_bind, Option.bind_some]
  change (readValue _ _ >>= _) = _
  rw [hread]
  rfl

/-- Members whose values are read back are read back as a list. -/
theorem readMembers_writeMembers {members : List (JsonText × Json)} (hne : members ≠ [])
    (hnames : ∀ entry ∈ members, ∃ name, entry.1 = some name)
    (hvalues : ∀ entry ∈ members, ReadsBack entry.2) (r : List Char) {steps : Nat}
    (hsteps : 2 * (writeMembers members).toList.length + 1 ≤ steps) :
    readMembers steps ((writeMembers members).toList ++ '\x7d' :: r) = some (members, r) := by
  induction members generalizing steps with
  | nil => exact absurd rfl hne
  | cons entry members ih =>
    obtain ⟨key, value⟩ := entry
    obtain ⟨steps, rfl⟩ : ∃ n, steps = n + 1 := ⟨steps - 1, by omega⟩
    obtain ⟨⟨name, rfl⟩, hothernames⟩ := List.forall_mem_cons.1 hnames
    have hvalue : ReadsBack value := hvalues (some name, value) List.mem_cons_self
    have hothers := (List.forall_mem_cons.1 hvalues).2
    cases members with
    | nil =>
      rw [readMembers_writeMembers_singleton hvalue (ends_cons (.inr (.inr rfl)) r) (by omega)]
      rfl
    | cons other members =>
      rw [toList_writeMembers_cons_cons] at hsteps ⊢
      rw [List.length_append, List.length_cons] at hsteps
      have hrest := @ih (by simp) hothernames hothers steps (by omega)
      rw [List.append_assoc, List.cons_append,
        readMembers_writeMembers_singleton hvalue (ends_cons (.inl rfl) _) (by omega)]
      simp only [skipSpace_cons (c := ',') rfl, hrest]
      rfl

/-- An array that does not close at once has items. -/
theorem readValue_of_readItems {steps : Nat} {c : Char} {s r : List Char} {items : List Json}
    (hc : Begins c) (hread : readItems steps (c :: s) = some (items, r)) :
    readValue (steps + 1) ('[' :: c :: s) = some (.array items, r) := by
  rw [readValue, skipSpace_cons (c := '[') rfl]
  simp only [skipSpace_cons hc.1]
  split
  · rename_i heq
    exact absurd (List.cons.inj heq).1 hc.2.1
  · rw [hread]
    rfl

/-- An object that does not close at once has members. -/
theorem readValue_of_readMembers {steps : Nat} {c : Char} {s r : List Char}
    {members : List (JsonText × Json)} (hc : Begins c)
    (hread : readMembers steps (c :: s) = some (members, r)) :
    readValue (steps + 1) ('\x7b' :: c :: s) = some (.object members, r) := by
  rw [readValue, skipSpace_cons (c := '\x7b') rfl]
  simp only [skipSpace_cons hc.1]
  split
  · rename_i heq
    exact absurd (List.cons.inj heq).1 hc.2.2
  · rw [hread]
    rfl

theorem readsBack_array {items : List Json} (hitems : ∀ item ∈ items, ReadsBack item)
    (hbegins : ∀ item ∈ items, ∃ c s, (write item).toList = c :: s ∧ Begins c) :
    ReadsBack (.array items) := by
  refine readsBack_of_cons (toList_write_array items) fun steps r _ hsteps => ?_
  cases items with
  | nil => rfl
  | cons item items =>
    rw [List.length_append, List.length_singleton] at hsteps
    have hlength : 2 * (writeItems (item :: items)).toList.length + 1 ≤ steps := by omega
    have hread := readItems_writeItems (List.cons_ne_nil item items) hitems r hlength
    have hbegin : ∃ c s, (writeItems (item :: items)).toList = c :: s ∧ Begins c := by
      obtain ⟨c, s, hwrite, hc⟩ := hbegins item List.mem_cons_self
      cases items with
      | nil => exact ⟨c, s, hwrite, hc⟩
      | cons other items =>
        exact ⟨c, _, by rw [toList_writeItems_cons_cons, hwrite, List.cons_append], hc⟩
    obtain ⟨c, s, hwrite, hc⟩ := hbegin
    rw [hwrite, List.cons_append] at hread ⊢
    rw [List.cons_append, List.append_assoc]
    exact readValue_of_readItems hc hread

theorem readsBack_object {members : List (JsonText × Json)}
    (hnames : ∀ entry ∈ members, ∃ name, entry.1 = some name)
    (hvalues : ∀ entry ∈ members, ReadsBack entry.2) : ReadsBack (.object members) := by
  refine readsBack_of_cons (toList_write_object members) fun steps r _ hsteps => ?_
  cases members with
  | nil => rfl
  | cons entry members =>
    rw [List.length_append, List.length_singleton] at hsteps
    have hlength : 2 * (writeMembers (entry :: members)).toList.length + 1 ≤ steps := by omega
    have hread := readMembers_writeMembers (List.cons_ne_nil entry members) hnames hvalues r hlength
    have hbegin : ∃ s, (writeMembers (entry :: members)).toList = '"' :: s := by
      obtain ⟨key, value⟩ := entry
      obtain ⟨name, rfl⟩ := hnames _ List.mem_cons_self
      cases members with
      | nil => exact ⟨_, toList_writeMembers_singleton name value⟩
      | cons other members =>
        exact ⟨_, by rw [toList_writeMembers_cons_cons, toList_writeMembers_singleton,
          List.cons_append]⟩
    obtain ⟨s, hwrite⟩ := hbegin
    rw [hwrite, List.cons_append] at hread ⊢
    rw [List.cons_append, List.append_assoc]
    exact readValue_of_readMembers (by decide) hread

/-- **What is written for a plain value is read back.** The induction is on how the value is
made. -/
theorem Plain.readsBack {depth : Nat} {json : Json} (h : Plain depth json) : ReadsBack json := by
  induction h with
  | null => exact readsBack_of_cons String.toList_ofList fun _ _ _ _ => rfl
  | @bool depth value =>
    cases value <;> exact readsBack_of_cons String.toList_ofList fun _ _ _ _ => rfl
  | natural => exact readsBack_natural _
  | @text depth value =>
    refine readsBack_of_cons (toList_writeText value) fun steps r _ _ => ?_
    rw [List.append_assoc, readValue, skipSpace_cons (c := '"') rfl]
    simp only [List.singleton_append, readText_writeText, Option.map_some]
  | array hitems ih => exact readsBack_array ih fun item hitem => (hitems item hitem).exists_cons
  | object hnames _ ih => exact readsBack_object hnames ih

/-- **A plain value is parsed from what is written for it.** -/
theorem Plain.parse?_write {depth : Nat} {json : Json} (h : Plain depth json) :
    parse? json.write = some json := by
  have hread := h.readsBack (2 * json.write.toList.length + 2) [] ends_nil (by omega)
  rw [List.append_nil] at hread
  unfold parse?
  simp only [hread, Option.bind_eq_bind, Option.bind_some]
  rfl

/-! ## Values in memory -/

/-- The digits of a number that fits into a word make that word, and none is left over. -/
theorem gather_digits {digits : List Char} {value : Nat}
    (h : Nat.ofDigitChars 10 digits value < UInt64.size) :
    Double.gather value (digits.map fun c => c.toNat - 48) =
      (Nat.ofDigitChars 10 digits value, []) := by
  induction digits generalizing value with
  | nil => rfl
  | cons c digits ih =>
    rw [Nat.ofDigitChars_cons] at h ⊢
    generalize hnext : 10 * value + (c.toNat - '0'.toNat) = next at h ⊢
    have hle : next ≤ Nat.ofDigitChars 10 digits next := by
      rw [Nat.ofDigitChars_eq_ofDigitChars_zero]
      have hpower : 0 < 10 ^ digits.length := Nat.pow_pos (by decide)
      exact Nat.le_add_right_of_le (Nat.le_mul_of_pos_left next hpower)
    have hfits : 10 * value + (c.toNat - 48) < UInt64.size := hnext ▸ Nat.lt_of_le_of_lt hle h
    rw [List.map_cons, Double.gather, if_pos hfits, ← ih h, ← hnext]
    rfl

theorem isFinite_digitsOf {n : Nat} (h : n < UInt64.size) :
    Double.isFinite (digitsOf n) [] 0 = true := by
  rw [← @Nat.ofDigitChars_ten_toDigits n] at h
  unfold Double.isFinite digitsOf
  rw [gather_digits h]
  simp [Double.gather, Double.isFiniteScaled]

theorem itemsHeld_of_forall {depth : Nat} {items : List Json}
    (h : ∀ item ∈ items, item.isHeldWithin depth = true) : itemsHeld depth items = true := by
  induction items with
  | nil => rfl
  | cons item items ih =>
    obtain ⟨hitem, hitems⟩ := List.forall_mem_cons.1 h
    rw [itemsHeld, hitem, ih hitems]
    rfl

theorem membersHeld_of_forall {depth : Nat} {members : List (JsonText × Json)}
    (hnames : ∀ entry ∈ members, ∃ name, entry.1 = some name)
    (hvalues : ∀ entry ∈ members, entry.2.isHeldWithin depth = true) :
    membersHeld depth members = true := by
  induction members with
  | nil => rfl
  | cons entry members ih =>
    obtain ⟨key, value⟩ := entry
    obtain ⟨⟨name, rfl⟩, hothernames⟩ := List.forall_mem_cons.1 hnames
    have hvalue : value.isHeldWithin depth = true := hvalues (some name, value) List.mem_cons_self
    have hothers := (List.forall_mem_cons.1 hvalues).2
    rw [membersHeld, hvalue, ih hothernames hothers]
    rfl

/-- **A plain value can be held in memory**, if the nesting may be as deep as it is. -/
theorem Plain.isHeldWithin {depth : Nat} {json : Json} (h : Plain depth json) :
    json.isHeldWithin depth = true := by
  induction h with
  | null => rfl
  | bool => rfl
  | natural hfits => exact isFinite_digitsOf hfits
  | text => rfl
  | array _ ih => exact itemsHeld_of_forall ih
  | object hnames _ ih => exact membersHeld_of_forall hnames ih

end PolySql.Json
