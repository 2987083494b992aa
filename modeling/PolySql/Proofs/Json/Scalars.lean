import PolySql.Json.Reader
import PolySql.Json.Writer

/-!
# Numerals and strings are read back

* `Ends` — a text that does not go on with a numeral before it.
* `readNumber_toDigits` — the digits of a number are read as the number.
* `readUnits_writeChar` — a character is read back, escaped or not.
* `wholeText_toNat` — the code points of characters are whole.

Principal result: `readText_writeText` — a string is read back, whatever it holds.
-/

namespace PolySql.Json

/-! ## Numerals -/

/-- A text that does not go on with a numeral before it. -/
def Ends (s : List Char) : Prop :=
  ∀ c ∈ s.head?, c.isDigit = false ∧ c ≠ '.' ∧ c ≠ 'e' ∧ c ≠ 'E'

theorem ends_nil : Ends [] := nofun

theorem ends_cons {c : Char} (h : c = ',' ∨ c = ']' ∨ c = '\x7d') (s : List Char) :
    Ends (c :: s) := by
  intro d hd
  obtain rfl := Option.some.inj hd
  rcases h with rfl | rfl | rfl <;> decide

theorem isDigit_of_mem_toDigits {n : Nat} {c : Char} (h : c ∈ Nat.toDigits 10 n) :
    c.isDigit = true :=
  Nat.isDigit_of_mem_toDigits (by decide) (by decide) h

/-- A numeral has a first digit, and that of a positive number is not zero. -/
theorem exists_toDigits (n : Nat) :
    ∃ c s, Nat.toDigits 10 n = c :: s ∧ c.isDigit = true ∧ (c = '0' → n = 0) := by
  induction n using Nat.strongRecOn with
  | ind n ih =>
    by_cases hsmall : n < 10
    · have hdigit : ∀ k, k < 10 → k.digitChar.isDigit = true ∧ (k.digitChar = '0' → k = 0) := by
        decide
      exact ⟨_, [], Nat.toDigits_of_lt_base hsmall, hdigit n hsmall⟩
    · obtain ⟨c, s, htoDigits, hc, hzero⟩ := ih (n / 10) (by omega)
      refine ⟨c, s ++ [(n % 10).digitChar], ?_, hc, fun h => ?_⟩
      · rw [Nat.toDigits_of_base_le (by decide) (by omega), htoDigits, List.cons_append]
      · have := hzero h
        omega

theorem takeWhile_toDigits (n : Nat) {r : List Char} (h : Ends r) :
    (Nat.toDigits 10 n ++ r).takeWhile Char.isDigit = Nat.toDigits 10 n ∧
      (Nat.toDigits 10 n ++ r).dropWhile Char.isDigit = r := by
  have hrest : r.takeWhile Char.isDigit = [] ∧ r.dropWhile Char.isDigit = r := by
    cases r with
    | nil => exact ⟨rfl, rfl⟩
    | cons c s =>
      have hc := (h c rfl).1
      simp [hc]
  rw [List.takeWhile_append_of_pos fun _ => isDigit_of_mem_toDigits,
    List.dropWhile_append_of_pos fun _ => isDigit_of_mem_toDigits, hrest.1, hrest.2,
    List.append_nil]
  exact ⟨rfl, rfl⟩

theorem readWhole_toDigits (n : Nat) {r : List Char} (h : Ends r) :
    readWhole (Nat.toDigits 10 n ++ r) = some (Nat.toDigits 10 n, r) := by
  obtain ⟨c, s, hdigits, -, hzero⟩ := exists_toDigits n
  by_cases hc : c = '0'
  · rw [hzero hc]
    rfl
  · obtain ⟨htake, hdrop⟩ := takeWhile_toDigits n h
    have hwhole : readWhole (Nat.toDigits 10 n ++ r) = readDigits (Nat.toDigits 10 n ++ r) := by
      rw [hdigits, List.cons_append]
      unfold readWhole
      split
      · rename_i heq
        exact absurd (List.cons.inj heq).1 hc
      · rfl
    rw [hwhole, readDigits, htake, hdrop, hdigits]

theorem readFraction_of_ends {r : List Char} (h : Ends r) : readFraction r = some (none, r) := by
  unfold readFraction
  split
  · exact absurd rfl (h _ rfl).2.1
  · rfl

theorem readExponent_of_ends {r : List Char} (h : Ends r) : readExponent r = some (none, r) := by
  unfold readExponent
  cases r with
  | nil => rfl
  | cons c s =>
    have hc := (h c rfl).2.2
    exact if_neg (not_or.2 hc)

/-- **The digits of a number are read as the number.** -/
theorem readNumber_toDigits (n : Nat) {r : List Char} (h : Ends r) :
    readNumber (Nat.toDigits 10 n ++ r) = some (.natural n, r) := by
  have hunsigned : readNumber (Nat.toDigits 10 n ++ r) =
      readUnsigned false (Nat.toDigits 10 n ++ r) := by
    obtain ⟨c, s, hdigits, hc, -⟩ := exists_toDigits n
    rw [hdigits, List.cons_append]
    unfold readNumber
    split
    · rename_i heq
      rw [(List.cons.inj heq).1] at hc
      exact absurd hc (by decide)
    · rfl
  have hvalue : natOfDigits (Nat.toDigits 10 n) = n := Nat.ofDigitChars_ten_toDigits
  rw [hunsigned, readUnsigned, readWhole_toDigits n h]
  simp only [Option.bind_eq_bind, Option.bind_some, readFraction_of_ends h, readExponent_of_ends h]
  rw [hvalue]
  rfl

/-! ## Strings -/

/-- The control characters without a letter of their own are written by their code points. -/
theorem hexUnit?_numeral {n : Nat} (h : n < 0x20) (r : List Char) :
    ∃ a b c d, (Text.numeral 16 n 4).toList ++ r = a :: b :: c :: d :: r ∧
      hexUnit? a b c d = some n := by
  have hunit : ∀ n, n < 0x20 → hexUnit? (Text.digitChar (n / 16 / 16 / 16 % 16))
      (Text.digitChar (n / 16 / 16 % 16)) (Text.digitChar (n / 16 % 16))
      (Text.digitChar (n % 16)) = some n := by
    decide
  refine ⟨_, _, _, _, ?_, hunit n h⟩
  rw [Text.numeral, String.toList_ofList]
  rfl

/-- **A character is read back**, escaped or not. -/
theorem readUnits_writeChar (c : Char) (r : List Char) :
    readUnits (writeChar c ++ r) =
      (readUnits r).map fun (units, rest) => (c.toNat :: units, rest) := by
  unfold writeChar
  split
  case h_8 hquote hbackslash _ _ _ _ _ =>
    split
    · next hcontrol =>
      obtain ⟨a, b, c', d, happend, hunit⟩ := hexUnit?_numeral hcontrol r
      rw [List.cons_append, List.cons_append, happend, readUnits, hunit]
      cases readUnits r <;> rfl
    · next hplain =>
      rw [List.singleton_append, readUnits]
      · rw [if_neg hplain]
        cases readUnits r <;> rfl
      · exact hquote
      · exact fun _ _ _ _ _ h => absurd h hbackslash
      · exact fun _ _ h => absurd h hbackslash
  all_goals
    rw [List.cons_append, List.singleton_append, readUnits]
    · cases readUnits r <;> rfl
    · exact fun _ _ _ _ _ h => absurd h (by decide)

/-- Characters are whole. -/
theorem wholeText_toNat (s : List Char) : wholeText (s.map Char.toNat) = some s := by
  have hvalid : ∀ c : Char, c.toNat < 0xD800 ∨ 0xE000 ≤ c.toNat := by
    intro c
    rcases c.valid with h | h
    · exact .inl h
    · exact .inr h.1
  induction s with
  | nil => rfl
  | cons c s ih =>
    have hsurrogate : ¬(0xD800 ≤ c.toNat ∧ c.toNat < 0xE000) := by
      have := hvalid c
      omega
    have hhigh : ¬(0xD800 ≤ c.toNat ∧ c.toNat < 0xDC00) := by omega
    have hlow : ¬(0xDC00 ≤ c.toNat ∧ c.toNat < 0xE000) := by omega
    cases s with
    | nil => rw [List.map_singleton, wholeText, if_neg hsurrogate, Char.ofNat_toNat]
    | cons d s =>
      rw [List.map_cons, List.map_cons, wholeText, if_neg hhigh, if_neg hlow, ← List.map_cons, ih,
        Char.ofNat_toNat]
      rfl

/-- **A string is read back**, whatever it holds. -/
theorem readText_writeText (s : String) (r : List Char) :
    readText (s.toList.flatMap writeChar ++ '"' :: r) = some (some s, r) := by
  have hunits : ∀ cs : List Char, readUnits (cs.flatMap writeChar ++ '"' :: r) =
      some (cs.map Char.toNat, r) := by
    intro cs
    induction cs with
    | nil => rfl
    | cons c cs ih =>
      rw [List.flatMap_cons, List.append_assoc, readUnits_writeChar, ih]
      rfl
  rw [readText, hunits, Option.map_some]
  simp only [wholeText_toNat, Option.map_some, String.ofList_toList]

end PolySql.Json
