import PolySql.IdGenerator

/-!
# Numerals that lose nothing

A numeral of a fixed width drops the digits that it has no place for, and nothing else.

* `readDigit?`, `readNumeral?` — the value of a digit, and of a numeral, its highest digit first;
  `readNumeral?_numeral` says what a numeral of a fixed width is read as.
* `bytes` — the bytes of a text, by which databases compare keys.
* `bytes_numeral_lt_iff` — numerals of one width are in the order of their numbers.

Principal result: `IdGenerator.readNumeral?_write` — the keys of base 36 hold all 128 bits, and come
in the order of the numbers that the bits stand for.
-/

namespace PolySql.Text

/-! ## Digits -/

/-- Whether a character is one of `0` to `9` and `a` to `z`. -/
def IsDigit (c : Char) : Prop := ('0' ≤ c ∧ c ≤ '9') ∨ ('a' ≤ c ∧ c ≤ 'z')

instance : DecidablePred IsDigit := fun c =>
  inferInstanceAs (Decidable (('0' ≤ c ∧ c ≤ '9') ∨ ('a' ≤ c ∧ c ≤ 'z')))

/-- The value of a digit. -/
def readDigit? (c : Char) : Option Nat :=
  if '0' ≤ c ∧ c ≤ '9' then some (c.toNat - '0'.toNat)
  else if 'a' ≤ c ∧ c ≤ 'z' then some (c.toNat - 'a'.toNat + 10)
  else none

theorem isDigit_digitChar {d : Nat} (h : d < 36) : IsDigit (digitChar d) := by
  have hall : ∀ d, d < 36 → IsDigit (digitChar d) := by decide
  exact hall d h

theorem readDigit?_digitChar {d : Nat} (h : d < 36) : readDigit? (digitChar d) = some d := by
  have hall : ∀ d, d < 36 → readDigit? (digitChar d) = some d := by decide
  exact hall d h

/-- The byte of a digit; the digits are in the order of their values. -/
def digitByte (d : Nat) : Nat := if d < 10 then 48 + d else 87 + d

theorem utf8EncodeChar_digitChar {d : Nat} (h : d < 36) :
    String.utf8EncodeChar (digitChar d) = [UInt8.ofNat (digitByte d)] := by
  have hall : ∀ d, d < 36 →
      String.utf8EncodeChar (digitChar d) = [UInt8.ofNat (digitByte d)] := by decide
  exact hall d h

theorem ofNat_digitByte_lt_iff {d e : Nat} (hd : d < 36) (he : e < 36) :
    UInt8.ofNat (digitByte d) < UInt8.ofNat (digitByte e) ↔ d < e := by
  have hbyte : ∀ d, d < 36 → (UInt8.ofNat (digitByte d)).toNat = digitByte d := by decide
  rw [UInt8.lt_iff_toNat_lt, hbyte d hd, hbyte e he]
  unfold digitByte
  split <;> split <;> omega

/-! ## Reading a numeral -/

/-- Goes on reading a numeral after the number read so far. -/
def readOn (base : Nat) (n : Nat) (c : Char) : Option Nat :=
  (readDigit? c).bind fun d => if d < base then some (n * base + d) else none

/-- The number that a numeral stands for. -/
def readNumeral? (base : Nat) (s : String) : Option Nat := s.toList.foldlM (readOn base) 0

variable {base : Nat}

theorem readOn_digitChar (hbase : base ≤ 36) (n : Nat) {d : Nat} (hd : d < base) :
    readOn base n (digitChar d) = some (n * base + d) := by
  rw [readOn, readDigit?_digitChar (Nat.lt_of_lt_of_le hd hbase), Option.bind_some, if_pos hd]

/-- A wider numeral goes on with one digit more. -/
theorem reverse_lowDigits_succ (base width value : Nat) :
    (lowDigits base (width + 1) value).reverse =
      (lowDigits base width (value / base)).reverse ++ [digitChar (value % base)] := by
  rw [lowDigits, List.reverse_cons]

/-- One place more makes room for `base` times as many numbers. -/
theorem pow_succ_eq (base width : Nat) : Nat.pow base (width + 1) = base * Nat.pow base width :=
  Nat.pow_succ'

theorem readOn_lowDigits (hpos : 0 < base) (hbase : base ≤ 36) (width value : Nat) :
    (lowDigits base width value).reverse.foldlM (readOn base) 0 =
      some (value % Nat.pow base width) := by
  induction width generalizing value with
  | zero => exact congrArg some (Nat.mod_one value).symm
  | succ width ih =>
    rw [reverse_lowDigits_succ, List.foldlM_append, ih]
    show (readOn base (value / base % Nat.pow base width) (digitChar (value % base))).bind some = _
    rw [readOn_digitChar hbase _ (Nat.mod_lt value hpos), Option.bind_some, pow_succ_eq,
      Nat.mod_mul, Nat.mul_comm, Nat.add_comm]

/-- **A numeral is read as its number without the digits above its width.** -/
theorem readNumeral?_numeral (hpos : 0 < base) (hbase : base ≤ 36) (value width : Nat) :
    readNumeral? base (numeral base value width) = some (value % Nat.pow base width) := by
  rw [readNumeral?, numeral, String.toList_ofList, readOn_lowDigits hpos hbase]

theorem isDigit_of_mem_lowDigits (hpos : 0 < base) (hbase : base ≤ 36) {width value : Nat}
    {c : Char} (h : c ∈ lowDigits base width value) : IsDigit c := by
  induction width generalizing value with
  | zero => cases h
  | succ width ih =>
    rcases List.mem_cons.1 h with rfl | h
    · exact isDigit_digitChar (Nat.lt_of_lt_of_le (Nat.mod_lt value hpos) hbase)
    · exact ih h

theorem isDigit_of_mem_numeral (hpos : 0 < base) (hbase : base ≤ 36) {value width : Nat}
    {c : Char} (h : c ∈ (numeral base value width).toList) : IsDigit c := by
  rw [numeral, String.toList_ofList, List.mem_reverse] at h
  exact isDigit_of_mem_lowDigits hpos hbase h

theorem length_numeral (base value width : Nat) : (numeral base value width).length = width := by
  rw [numeral, String.length_ofList, List.length_reverse, length_lowDigits]

/-! ## The order of numerals -/

/-- The bytes of a text, as they are stored and compared. -/
def bytes (s : String) : List UInt8 := s.toByteArray.data.toList

theorem bytes_ofList (s : List Char) :
    bytes (String.ofList s) = s.flatMap String.utf8EncodeChar := by
  simp [bytes, List.utf8Encode]

/-- Of texts of one length, with one more byte each, that byte counts only if they are the same. -/
theorem append_lt_append_iff {xs ys : List UInt8} (h : xs.length = ys.length) (x y : UInt8) :
    xs ++ [x] < ys ++ [y] ↔ xs < ys ∨ (xs = ys ∧ x < y) := by
  induction xs generalizing ys with
  | nil =>
    obtain rfl := List.length_eq_zero_iff.1 h.symm
    simp [List.cons_lt_cons_iff]
  | cons z xs ih =>
    obtain ⟨w, ys, rfl⟩ := List.exists_cons_of_length_eq_add_one h.symm
    have hlength : xs.length = ys.length := Nat.succ.inj h
    simp only [List.cons_append, List.cons_lt_cons_iff, ih hlength, List.cons.injEq, and_or_left,
      or_assoc, and_assoc]

/-- Numbers compare as their quotients do, and by their remainders if these are the same. -/
theorem div_lt_or_mod_lt_iff (hpos : 0 < base) (m n : Nat) :
    (m / base < n / base ∨ (m / base = n / base ∧ m % base < n % base)) ↔ m < n := by
  have hm := Nat.div_add_mod m base
  have hn := Nat.div_add_mod n base
  have hlt := Nat.mod_lt m hpos
  constructor
  · rintro (h | ⟨h, hmod⟩)
    · exact Nat.lt_of_div_lt_div h
    · rw [h] at hm
      omega
  · intro h
    rcases Nat.lt_or_eq_of_le (Nat.div_le_div_right (Nat.le_of_lt h)) with hdiv | hdiv
    · exact .inl hdiv
    · rw [hdiv] at hm
      exact .inr ⟨hdiv, by omega⟩

theorem bytes_numeral_succ (hpos : 0 < base) (hbase : base ≤ 36) (value width : Nat) :
    bytes (numeral base value (width + 1)) =
      bytes (numeral base (value / base) width) ++ [UInt8.ofNat (digitByte (value % base))] := by
  have hdigit := Nat.lt_of_lt_of_le (Nat.mod_lt value hpos) hbase
  simp only [numeral, bytes_ofList]
  rw [reverse_lowDigits_succ, List.flatMap_append, List.flatMap_singleton,
    utf8EncodeChar_digitChar hdigit]

theorem length_bytes_numeral (hpos : 0 < base) (hbase : base ≤ 36) (value width : Nat) :
    (bytes (numeral base value width)).length = width := by
  induction width generalizing value with
  | zero => rfl
  | succ width ih => rw [bytes_numeral_succ hpos hbase, List.length_append, ih]; rfl

/-- **Numerals of one width are in the order of their numbers**, if the numbers fit. -/
theorem bytes_numeral_lt_iff (hpos : 0 < base) (hbase : base ≤ 36) {m n width : Nat}
    (hm : m < Nat.pow base width) (hn : n < Nat.pow base width) :
    bytes (numeral base m width) < bytes (numeral base n width) ↔ m < n := by
  induction width generalizing m n with
  | zero =>
    obtain rfl : m = 0 := Nat.lt_one_iff.1 hm
    obtain rfl : n = 0 := Nat.lt_one_iff.1 hn
    exact iff_of_false (List.lt_irrefl _) (Nat.lt_irrefl 0)
  | succ width ih =>
    rw [pow_succ_eq] at hm hn
    have hbytes := ih (Nat.div_lt_of_lt_mul hm) (Nat.div_lt_of_lt_mul hn)
    have hother := ih (Nat.div_lt_of_lt_mul hn) (Nat.div_lt_of_lt_mul hm)
    have hsame : bytes (numeral base (m / base) width) = bytes (numeral base (n / base) width) ↔
        m / base = n / base := by
      refine ⟨fun h => ?_, fun h => by rw [h]⟩
      rw [h] at hbytes hother
      have hle := mt hbytes.2 (List.lt_irrefl _)
      have hge := mt hother.2 (List.lt_irrefl _)
      omega
    have hlength := (length_bytes_numeral hpos hbase (m / base) width).trans
      (length_bytes_numeral hpos hbase (n / base) width).symm
    rw [bytes_numeral_succ hpos hbase, bytes_numeral_succ hpos hbase,
      append_lt_append_iff hlength, hbytes, hsame,
      ofNat_digitByte_lt_iff (Nat.lt_of_lt_of_le (Nat.mod_lt m hpos) hbase)
        (Nat.lt_of_lt_of_le (Nat.mod_lt n hpos) hbase),
      div_lt_or_mod_lt_iff hpos]

end PolySql.Text

namespace PolySql.IdGenerator

open Text

/-- The digits of a key have room for all 128 bits. -/
theorem toNat_lt_base36 (bits : BitVec 128) : bits.toNat < Nat.pow 36 25 :=
  Nat.lt_trans bits.isLt (by decide)

/-- **Nothing of a number is lost in base 36** but the digits that have no place: there are exactly
as many digits as asked for, and they are read as the rest of the number. The keys of 25 digits
have room for 128 bits. So the bits are read back from a key, different bits have different keys,
and the keys, compared byte by byte, are in the order of the numbers that the bits stand for. -/
theorem readNumeral?_write (bits other : BitVec 128) (width : Nat) :
    ((base36 bits.toNat width).length = width ∧
      (∀ c ∈ (base36 bits.toNat width).toList, IsDigit c) ∧
      readNumeral? 36 (base36 bits.toNat width) = some (bits.toNat % Nat.pow 36 width)) ∧
    readNumeral? 36 (uuid25.write bits) = some bits.toNat ∧
    (bits ≠ other → uuid25.write bits ≠ uuid25.write other) ∧
    (bytes (uuid25.write bits) < bytes (uuid25.write other) ↔ bits.toNat < other.toNat) := by
  have hread : ∀ bits : BitVec 128, readNumeral? 36 (uuid25.write bits) = some bits.toNat := by
    intro bits
    have hnumeral : readNumeral? 36 (uuid25.write bits) = some (bits.toNat % Nat.pow 36 25) :=
      readNumeral?_numeral (by decide) (by decide) bits.toNat 25
    rwa [Nat.mod_eq_of_lt (toNat_lt_base36 bits)] at hnumeral
  refine ⟨⟨length_numeral .., fun c => isDigit_of_mem_numeral (by decide) (by decide),
    readNumeral?_numeral (by decide) (by decide) ..⟩, hread bits, fun hne hwrite => hne ?_,
    bytes_numeral_lt_iff (by decide) (by decide) (toNat_lt_base36 bits) (toNat_lt_base36 other)⟩
  have hvalue := (hread bits).symm.trans ((congrArg _ hwrite).trans (hread other))
  exact BitVec.eq_of_toNat_eq (Option.some.inj hvalue)

/-- The largest key of 128 bits uses all 25 digits. -/
example : uuid25.write (BitVec.allOnes 128) = "f5lxx1zz5pnorynqglhzmsp33" := by decide +kernel

end PolySql.IdGenerator
