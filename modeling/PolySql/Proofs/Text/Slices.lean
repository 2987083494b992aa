import Mathlib.Data.String.Basic
import PolySql.Proofs.Text.Nesting
import PolySql.Text.Ascii

/-!
# Byte offsets

A text is stored in UTF-8, and a place in the stored text is a byte offset. Not every offset is a
place to cut at: a character may take up to four bytes, and a cut must not fall between them.

* `slice?`, `sliceFrom?` — the text between two offsets; `none` where there is no such text.
  `slice?_eq_some_iff` says that the offsets have to be those of whole characters.
* `byteAt?` — the byte at an offset; `exists_byteAt?` says what it tells of a character.
* `scan` — the characters of a text, each with its offset and whether it is quoted;
  `scan_lower` says that the lower-case copy of a text has the same offsets.
-/

namespace PolySql.Text

open String (utf8Len)

variable {rule : QuoteRule}

/-! ## Slices -/

/-- The text between two byte offsets. There is none unless they are in order, not behind the end
of the text, and each at the boundary of a character. -/
def slice? (s : List Char) (i j : Nat) : Option (List Char) :=
  if i ≤ j ∧ String.Pos.Raw.IsValid (.ofList s) ⟨i⟩ ∧ String.Pos.Raw.IsValid (.ofList s) ⟨j⟩ then
    some (String.Pos.Raw.extract (.ofList s) ⟨i⟩ ⟨j⟩).toList
  else none

/-- The text from a byte offset on. -/
def sliceFrom? (s : List Char) (i : Nat) : Option (List Char) := slice? s i (utf8Len s)

/-- A place to cut at is where some number of whole characters end. -/
theorem isValid_iff {s : List Char} {i : Nat} :
    String.Pos.Raw.IsValid (String.ofList s) ⟨i⟩ ↔ ∃ a b, s = a ++ b ∧ i = utf8Len a := by
  rw [String.Pos.Raw.isValid_ofList]
  constructor
  · rintro ⟨k, hk⟩
    exact ⟨s.take k, s.drop k, (List.take_append_drop k s).symm,
      hk.trans (String.utf8ByteSize_ofList _)⟩
  · rintro ⟨a, b, rfl, rfl⟩
    exact ⟨a.length, by rw [List.take_left, String.utf8ByteSize_ofList]⟩

theorem slice?_append (a t b : List Char) :
    slice? (a ++ (t ++ b)) (utf8Len a) (utf8Len a + utf8Len t) = some t := by
  have hfrom : String.Pos.Raw.IsValid (String.ofList (a ++ (t ++ b))) ⟨utf8Len a⟩ :=
    isValid_iff.2 ⟨a, t ++ b, rfl, rfl⟩
  have hto : String.Pos.Raw.IsValid (String.ofList (a ++ (t ++ b))) ⟨utf8Len a + utf8Len t⟩ :=
    isValid_iff.2 ⟨a ++ t, b, by simp, by simp⟩
  rw [slice?, if_pos ⟨Nat.le_add_right _ _, hfrom, hto⟩, ← List.append_assoc,
    String.extract_of_valid, String.toList_ofList]

/-- A text that ends where another does, and is no longer, is what the other ends with. -/
theorem append_cases {a b x y : List Char} (h : a ++ b = x ++ y) (hle : utf8Len a ≤ utf8Len x) :
    ∃ t, x = a ++ t ∧ b = t ++ y := by
  rcases List.append_eq_append_iff.1 h with ⟨t, hx, hb⟩ | ⟨t, ha, hy⟩
  · exact ⟨t, hx, hb⟩
  · have ht : t = [] := by
      rw [ha, String.utf8Len_append] at hle
      exact String.utf8Len_eq_zero.1 (by omega)
    subst ht
    exact ⟨[], by simpa using ha.symm, by simpa using hy.symm⟩

/-- What there is between two offsets. -/
theorem slice?_eq_some_iff {s t : List Char} {i j : Nat} :
    slice? s i j = some t ↔
      ∃ a b, s = a ++ (t ++ b) ∧ i = utf8Len a ∧ j = utf8Len a + utf8Len t := by
  constructor
  · intro h
    have hcond := h
    unfold slice? at hcond
    split at hcond
    · rename_i hbounds
      obtain ⟨hle, hi, hj⟩ := hbounds
      obtain ⟨a, r, hs, rfl⟩ := isValid_iff.1 hi
      obtain ⟨x, b, hx, rfl⟩ := isValid_iff.1 hj
      obtain ⟨u, rfl, rfl⟩ := append_cases (hs.symm.trans hx) hle
      rw [hs, String.utf8Len_append, slice?_append] at h
      obtain rfl := Option.some.inj h
      exact ⟨a, b, hs, rfl, String.utf8Len_append ..⟩
    · cases hcond
  · rintro ⟨a, b, rfl, rfl, rfl⟩
    exact slice?_append a t b

theorem slice?_zero (a b : List Char) : slice? (a ++ b) 0 (utf8Len a) = some a := by
  simpa using slice?_append [] a b

theorem sliceFrom?_append (a b : List Char) : sliceFrom? (a ++ b) (utf8Len a) = some b := by
  simpa [sliceFrom?] using slice?_append a b []

theorem utf8Len_concat (a : List Char) (c : Char) :
    utf8Len (a ++ [c]) = utf8Len a + c.utf8Size := by
  simp

/-- The text behind a character begins as many bytes further as the character takes. -/
theorem sliceFrom?_append_cons (a : List Char) (c : Char) (b : List Char) :
    sliceFrom? (a ++ c :: b) (utf8Len a + c.utf8Size) = some b := by
  rw [List.append_cons, ← utf8Len_concat, sliceFrom?_append]

/-- What there is before an offset. -/
theorem slice?_zero_eq_some_iff {s t : List Char} {j : Nat} :
    slice? s 0 j = some t ↔ ∃ b, s = t ++ b ∧ j = utf8Len t := by
  rw [slice?_eq_some_iff]
  constructor
  · rintro ⟨a, b, rfl, ha, rfl⟩
    obtain rfl := String.utf8Len_eq_zero.1 ha.symm
    exact ⟨b, rfl, by simp⟩
  · rintro ⟨b, rfl, rfl⟩
    exact ⟨[], b, rfl, by simp, by simp⟩

/-- A cut must not fall inside a character. -/
example : slice? "é(".toList 1 2 = none ∧ slice? "é(".toList 2 3 = some ['('] := by
  decide +kernel

/-! ## Bytes -/

/-- The byte at an offset. -/
def byteAt? (s : List Char) (i : Nat) : Option UInt8 := (String.ofList s).toByteArray.data[i]?

/-- A byte that stands for a character of ASCII, or for the start of another character. -/
def SeenAs (c x : Char) : Prop := x = c ∨ (128 ≤ c.toNat ∧ 128 ≤ x.toNat)

theorem toNat_ofUInt8_ofNat {n : Nat} (h : n < 256) : (Char.ofUInt8 (UInt8.ofNat n)).toNat = n := by
  change (UInt8.ofNat n).toUInt32.toNat = n
  rw [UInt8.toNat_toUInt32, UInt8.toNat_ofNat']
  exact Nat.mod_eq_of_lt h

/-- A character of ASCII is stored as one byte, and any other begins with a byte beyond ASCII. -/
theorem exists_utf8EncodeChar (c : Char) :
    ∃ b r, String.utf8EncodeChar c = b :: r ∧ SeenAs c (Char.ofUInt8 b) := by
  unfold String.utf8EncodeChar
  simp only
  split
  · rename_i hone
    refine ⟨_, _, rfl, .inl (Char.toNat_inj.1 ?_)⟩
    rw [toNat_ofUInt8_ofNat (by omega)]
    rfl
  · rename_i hmany
    have hc : 128 ≤ c.toNat := Nat.lt_of_not_le hmany
    split
    · refine ⟨_, _, rfl, .inr ⟨hc, ?_⟩⟩
      rw [toNat_ofUInt8_ofNat (by omega)]
      omega
    · split
      · refine ⟨_, _, rfl, .inr ⟨hc, ?_⟩⟩
        rw [toNat_ofUInt8_ofNat (by omega)]
        omega
      · refine ⟨_, _, rfl, .inr ⟨hc, ?_⟩⟩
        rw [toNat_ofUInt8_ofNat (by omega)]
        omega

theorem length_stored (s : List Char) : (s.flatMap String.utf8EncodeChar).length = utf8Len s := by
  induction s with
  | nil => rfl
  | cons c s ih =>
    rw [List.flatMap_cons, List.length_append, String.length_utf8EncodeChar, ih,
      String.utf8Len_cons, Nat.add_comm]

/-- Where a character begins there is a byte, and it tells the characters of ASCII apart. -/
theorem exists_byteAt? (a : List Char) (c : Char) (b : List Char) :
    ∃ x, byteAt? (a ++ c :: b) (utf8Len a) = some x ∧ SeenAs c (Char.ofUInt8 x) := by
  obtain ⟨x, r, hx, hseen⟩ := exists_utf8EncodeChar c
  have hstored : (String.ofList (a ++ c :: b)).toByteArray.data.toList =
      a.flatMap String.utf8EncodeChar ++ x :: (r ++ b.flatMap String.utf8EncodeChar) := by
    simp [List.utf8Encode, hx]
  refine ⟨x, ?_, hseen⟩
  rw [byteAt?, ← Array.getElem?_toList, hstored,
    List.getElem?_append_right (Nat.le_of_eq (length_stored a)), length_stored, Nat.sub_self,
    List.getElem?_cons_zero]

namespace SeenAs

variable {c x : Char}

/-- What is seen as a character of ASCII is that character. -/
theorem eq_iff (h : SeenAs c x) {d : Char} (hd : d.toNat < 128) : x = d ↔ c = d := by
  rcases h with rfl | ⟨hc, hx⟩
  · rfl
  · constructor <;> rintro rfl <;> omega

theorem depthAfter_eq (h : SeenAs c x) (d : Nat) : depthAfter d x = depthAfter d c := by
  rcases h with rfl | ⟨hc, hx⟩
  · rfl
  · have hother : ∀ y : Char, 128 ≤ y.toNat → depthAfter d y = d := by
      intro y hy
      refine depthAfter_of_ne ?_ ?_ d <;> rintro rfl <;> exact absurd hy (by decide)
    rw [hother x hx, hother c hc]

end SeenAs

/-! ## Offsets -/

/-- The characters of a text, each with its offset and whether it is quoted; the text itself begins
at the offset `n`. -/
def scanFrom (rule : QuoteRule) : Option Char → Nat → List Char → List (Nat × Char × Bool)
  | _, _, [] => []
  | q, n, c :: r =>
    (n, c, isQuoted rule q c) :: scanFrom rule (closerAfter rule q c) (n + c.utf8Size) r

def scan (rule : QuoteRule) (s : List Char) : List (Nat × Char × Bool) := scanFrom rule none 0 s

/-- A letter takes one byte in either case. -/
theorem utf8Size_toLower (c : Char) : c.toLower.utf8Size = c.utf8Size := by
  unfold Char.toLower
  split
  · rename_i h
    have hone : c.utf8Size = 1 := by
      simp only [Char.utf8Size_eq_one_iff, UInt32.le_iff_toNat_le, ge_iff_le] at h ⊢
      simp at h ⊢
      omega
    rw [hone, Char.utf8Size_eq_one_iff]
    simp only [UInt32.le_iff_toNat_le, ge_iff_le, UInt32.toNat_add] at h ⊢
    simp at h ⊢
    omega
  · rfl

theorem utf8Len_lower (s : List Char) : utf8Len (lower s) = utf8Len s := by
  induction s with
  | nil => rfl
  | cons c s ih =>
    rw [lower] at ih ⊢
    rw [List.map_cons, String.utf8Len_cons, String.utf8Len_cons, utf8Size_toLower, ih]

/-- No letter is a quote in either case. -/
theorem toLower_eq_quote_iff {c e : Char} (he : literalQuotes e = some e) :
    c.toLower = e ↔ c = e := by
  rcases (literalQuotes_eq_some he).2 with rfl | rfl | rfl
  · exact ⟨eq_of_toLower_eq (by decide), by rintro rfl; rfl⟩
  · exact ⟨eq_of_toLower_eq (by decide), by rintro rfl; rfl⟩
  · exact ⟨eq_of_toLower_eq (by decide), by rintro rfl; rfl⟩

theorem literalQuotes_eq_some_iff {c e : Char} :
    literalQuotes c = some e ↔ c = e ∧ literalQuotes e = some e := by
  constructor
  · intro h
    obtain ⟨rfl, -⟩ := literalQuotes_eq_some h
    exact ⟨rfl, h⟩
  · rintro ⟨rfl, h⟩
    exact h

theorem literalQuotes_toLower (c : Char) : literalQuotes c.toLower = literalQuotes c := by
  refine Option.ext fun e => ?_
  rw [literalQuotes_eq_some_iff, literalQuotes_eq_some_iff (c := c)]
  constructor
  · rintro ⟨h, he⟩
    exact ⟨(toLower_eq_quote_iff he).1 h, he⟩
  · rintro ⟨h, he⟩
    exact ⟨(toLower_eq_quote_iff he).2 h, he⟩

/-- The lower-case copy of a text has its characters at the same offsets, and the same of them
are quoted. -/
theorem scanFrom_lower {q : Option Char} (hq : ∀ e, q = some e → literalQuotes e = some e)
    (n : Nat) (s : List Char) :
    scanFrom literalQuotes q n (lower s) =
      (scanFrom literalQuotes q n s).map fun (i, c, quoted) => (i, c.toLower, quoted) := by
  induction s generalizing q n with
  | nil => rfl
  | cons c s ih =>
    have hcloser : closerAfter literalQuotes q c.toLower = closerAfter literalQuotes q c := by
      cases q with
      | none => exact literalQuotes_toLower c
      | some e => simp only [closerAfter, toLower_eq_quote_iff (hq e rfl)]
    have hnext : ∀ e, closerAfter literalQuotes q c = some e → literalQuotes e = some e := by
      intro e he
      unfold closerAfter at he
      split at he
      · rename_i close
        split at he
        · cases he
        · exact hq e he
      · exact (literalQuotes_eq_some_iff.1 he).2
    have hquoted : isQuoted literalQuotes q c.toLower = isQuoted literalQuotes q c := by
      rw [isQuoted, isQuoted, literalQuotes_toLower]
    rw [lower, List.map_cons, scanFrom, scanFrom, List.map_cons, ← lower, hcloser, hquoted,
      utf8Size_toLower, ih hnext]

theorem scan_lower (s : List Char) :
    scan literalQuotes (lower s) =
      (scan literalQuotes s).map fun (i, c, quoted) => (i, c.toLower, quoted) :=
  scanFrom_lower (fun e he => by cases he) 0 s

end PolySql.Text
