import PolySql.Proofs.Text.Slices

/-!
# Parentheses and commas by byte offsets

The cuts of `PolySql.Text.Nesting` once more, for a text that is stored in bytes: a scan hands out
offsets, bytes are looked at where it stands, and pieces are sliced out between offsets. Each
function is `none` where a byte or a slice is asked for that is not there; what it finds is the
value inside.

* `outerParens?` — the offsets of the first unquoted parenthesis and the one that closes it.
* `bytePieces?`, `charPieces?` — the pieces between unquoted commas outside parentheses, of a
  statement by its bytes, and of a select list by its characters.

Principal results: `outerParens?_eq`, `bytePieces?_eq` and `charPieces?_eq` — none of them is ever
`none`, and each finds what the cut of the characters finds.
-/

namespace PolySql.Bytewise

open Text
open String (utf8Len)

/-- What is found behind a character is that much further from it. -/
theorem utf8Len_shift (a : List Char) (c : Char) (x : List Char) :
    utf8Len (a ++ [c]) + utf8Len x = utf8Len a + utf8Len (c :: x) := by
  simp only [utf8Len_concat, String.utf8Len_cons]
  omega

/-! ## Parentheses -/

/-- Looks for the parenthesis that closes the first one, which stands at the offset `opened`;
`d` parentheses are open. -/
def parensFrom? (s : List Char) :
    Option Nat → Nat → List (Nat × Char × Bool) → Option (Option (Nat × Nat))
  | _, _, [] => some none
  | opened, d, (_, _, true) :: m => parensFrom? s opened d m
  | opened, d, (i, _, false) :: m => do
    let x := Char.ofUInt8 (← byteAt? s i)
    if x = '(' then parensFrom? s (some (opened.getD i)) (d + 1) m
    else if x = ')' ∧ 0 < d then
      if d - 1 = 0 then some (opened.map fun o => (o, i)) else parensFrom? s opened (d - 1) m
    else parensFrom? s opened d m

/-- The offsets of the first unquoted opening parenthesis and of the one that closes it. -/
def outerParens? (s : List Char) : Option (Option (Nat × Nat)) :=
  parensFrom? s none 0 (scan literalQuotes s)

/-- The byte at an unquoted character tells whether it is a parenthesis. -/
theorem parensFrom?_unquoted {s a r : List Char} {c : Char} (hs : s = a ++ c :: r)
    (opened : Option Nat) (d : Nat) (m : List (Nat × Char × Bool)) :
    parensFrom? s opened d ((utf8Len a, c, false) :: m) =
      if c = '(' then parensFrom? s (some (opened.getD (utf8Len a))) (d + 1) m
      else if c = ')' ∧ 0 < d then
        if d - 1 = 0 then some (opened.map fun o => (o, utf8Len a))
        else parensFrom? s opened (d - 1) m
      else parensFrom? s opened d m := by
  obtain ⟨x, hx, hseen⟩ := exists_byteAt? a c r
  rw [← hs] at hx
  rw [parensFrom?, hx]
  simp only [Option.bind_eq_bind, Option.bind_some, hseen.eq_iff (d := '(') (by decide),
    hseen.eq_iff (d := ')') (by decide)]

theorem parensFrom?_opened {s a r : List Char} (hs : s = a ++ r) (q : Option Char) (o d : Nat) :
    parensFrom? s (some o) (d + 1) (scanFrom literalQuotes q (utf8Len a) r) =
      some ((toClosing literalQuotes q d r).map fun p => (o, utf8Len a + utf8Len p.1)) := by
  induction r generalizing a q d with
  | nil => rfl
  | cons c r ih =>
    have hnext : s = a ++ [c] ++ r := by rw [hs, List.append_assoc]; rfl
    have hrest : ∀ q d, parensFrom? s (some o) (d + 1)
        (scanFrom literalQuotes q (utf8Len a + c.utf8Size) r) =
          some ((toClosing literalQuotes q d r).map
            fun p => (o, utf8Len a + utf8Len (c :: p.1))) := by
      intro q d
      rw [← utf8Len_concat, ih hnext]
      simp only [utf8Len_shift]
    rw [scanFrom, toClosing]
    by_cases hc : isQuoted literalQuotes q c = true
    · rw [hc, parensFrom?, hrest, if_pos rfl, Option.map_map]
      rfl
    · rw [Bool.not_eq_true] at hc
      obtain ⟨rfl, hnone⟩ := eq_none_of_not_isQuoted hc
      rw [hc, parensFrom?_unquoted hs, hnone, if_neg Bool.false_ne_true, Option.getD_some]
      by_cases hopening : c = '('
      · subst hopening
        rw [if_pos rfl, if_neg (by simp), hrest, Option.map_map]
        rfl
      · rw [if_neg hopening]
        by_cases hclosing : c = ')'
        · subst hclosing
          rw [if_pos ⟨rfl, Nat.succ_pos d⟩, Nat.add_sub_cancel]
          cases d with
          | zero => simp
          | succ d =>
            rw [if_neg (Nat.succ_ne_zero d), if_neg (by simp), hrest, Option.map_map]
            rfl
        · rw [if_neg fun h => hclosing h.1, if_neg fun h => hclosing h.1, hrest,
            depthAfter_of_ne hopening hclosing, Option.map_map]
          rfl

theorem parensFrom?_unopened {s a r : List Char} (hs : s = a ++ r) (q : Option Char) :
    parensFrom? s none 0 (scanFrom literalQuotes q (utf8Len a) r) =
      some ((toOpening literalQuotes q r).bind fun p =>
        (toClosing literalQuotes none 0 p.2).map fun p' =>
          (utf8Len a + utf8Len p.1, utf8Len a + utf8Len p.1 + 1 + utf8Len p'.1)) := by
  induction r generalizing a q with
  | nil => rfl
  | cons c r ih =>
    have hnext : s = a ++ [c] ++ r := by rw [hs, List.append_assoc]; rfl
    have hrest : ∀ q, parensFrom? s none 0
        (scanFrom literalQuotes q (utf8Len a + c.utf8Size) r) =
          some ((toOpening literalQuotes q r).bind fun p =>
            (toClosing literalQuotes none 0 p.2).map fun p' =>
              (utf8Len a + utf8Len (c :: p.1),
                utf8Len a + utf8Len (c :: p.1) + 1 + utf8Len p'.1)) := by
      intro q
      rw [← utf8Len_concat, ih hnext]
      simp only [utf8Len_shift]
    rw [scanFrom, toOpening]
    by_cases hc : isQuoted literalQuotes q c = true
    · rw [hc, parensFrom?, hrest, if_neg (by simp), Option.bind_map]
      rfl
    · rw [Bool.not_eq_true] at hc
      obtain ⟨rfl, hnone⟩ := eq_none_of_not_isQuoted hc
      rw [hc, parensFrom?_unquoted hs, hnone]
      by_cases hopening : c = '('
      · subst hopening
        rw [if_pos rfl, if_pos ⟨rfl, rfl⟩, ← utf8Len_concat, Option.getD_none,
          parensFrom?_opened hnext, Option.bind_some, String.utf8Len_nil, utf8Len_concat]
        rfl
      · rw [if_neg hopening, if_neg fun h => Nat.lt_irrefl 0 h.2, if_neg fun h => hopening h.2,
          hrest, Option.bind_map]
        rfl

/-- The parentheses are found, and where they are found in the characters. -/
theorem outerParens?_eq (s : List Char) :
    outerParens? s = some ((outerParens literalQuotes s).map fun e =>
      (utf8Len e.before, utf8Len e.before + 1 + utf8Len e.inside)) := by
  have h := parensFrom?_unopened (List.nil_append s).symm none
  rw [String.utf8Len_nil] at h
  rw [outerParens?, scan, h, outerParens]
  cases hopening : toOpening literalQuotes none s with
  | none => rfl
  | some p => cases hclosing : toClosing literalQuotes none 0 p.2 <;> simp [hclosing]

/-- The first character takes two bytes. -/
example : outerParens? "é(à)".toList = some (some (2, 5)) := by decide +kernel

/-! ## Commas -/

/-- The pieces of a text from the offset `start` on, with `d` parentheses open; `see` looks at the
character at an offset. -/
def piecesFrom? (s : List Char) (see : Nat → Char → Option Char) :
    Nat → Nat → List (Nat × Char × Bool) → Option (List (List Char))
  | start, _, [] => (sliceFrom? s start).map fun p => [p]
  | start, d, (_, _, true) :: m => piecesFrom? s see start d m
  | start, d, (i, c, false) :: m => do
    let x ← see i c
    if x = ',' ∧ d = 0 then
      let p ← slice? s start i
      let ps ← piecesFrom? s see (i + 1) 0 m
      some (p :: ps)
    else piecesFrom? s see start (depthAfter d x) m

/-- The byte at an offset, as the character of ASCII that it may stand for. -/
def seeByte (s : List Char) (i : Nat) (_ : Char) : Option Char := (byteAt? s i).map Char.ofUInt8

/-- The pieces of a statement, which is read by its bytes. -/
def bytePieces? (s : List Char) : Option (List (List Char)) :=
  piecesFrom? s (seeByte s) 0 0 (scan literalQuotes s)

/-- The pieces of a select list, which is read by its characters. -/
def charPieces? (s : List Char) : Option (List (List Char)) :=
  piecesFrom? s (fun _ c => some c) 0 0 (scan nameQuotes s)

theorem exists_seeByte {s a r : List Char} {c : Char} (hs : s = a ++ c :: r) :
    ∃ x, seeByte s (utf8Len a) c = some x ∧ SeenAs c x := by
  obtain ⟨x, hx, hseen⟩ := exists_byteAt? a c r
  exact ⟨Char.ofUInt8 x, by rw [seeByte, hs, hx]; rfl, hseen⟩

theorem glue_consHead (p : List Char) (c : Char) {ws : List (List Char)} (h : ws ≠ []) :
    glue [p] (consHead c ws) = glue [p ++ [c]] ws := by
  obtain ⟨w, ws, rfl⟩ := List.exists_cons_of_ne_nil h
  simp [consHead, glue]

/-- A scan for commas slices out the pieces that the characters have; `p` is what it has passed
since the last cut. -/
theorem piecesFrom?_eq (rule : QuoteRule) {s : List Char} (see : Nat → Char → Option Char)
    (hsee : ∀ {a r c}, s = a ++ c :: r → ∃ x, see (utf8Len a) c = some x ∧ SeenAs c x)
    {a p r : List Char} (hs : s = a ++ (p ++ r)) (q : Option Char) (d : Nat) :
    piecesFrom? s see (utf8Len a) d (scanFrom rule q (utf8Len (a ++ p)) r) =
      some (glue [p] (splitFrom rule q d r)) := by
  induction r generalizing a p q d with
  | nil =>
    rw [scanFrom, piecesFrom?, hs, sliceFrom?_append, splitFrom]
    simp [glue]
  | cons c r ih =>
    have hnext : s = a ++ (p ++ [c] ++ r) := by rw [hs, List.append_assoc p]; rfl
    have hwhole : s = a ++ p ++ c :: r := by rw [hs, List.append_assoc]
    have hrest : ∀ q d, piecesFrom? s see (utf8Len a) d
        (scanFrom rule q (utf8Len (a ++ p) + c.utf8Size) r) =
          some (glue [p] (consHead c (splitFrom rule q d r))) := by
      intro q d
      rw [← utf8Len_concat, List.append_assoc, ih hnext,
        glue_consHead p c (splitFrom_ne_nil rule q d r)]
    rw [scanFrom, splitFrom]
    by_cases hc : isQuoted rule q c = true
    · rw [hc, piecesFrom?, hrest, if_pos rfl]
    · rw [Bool.not_eq_true] at hc
      obtain ⟨rfl, hnone⟩ := eq_none_of_not_isQuoted hc
      obtain ⟨x, hx, hseen⟩ := hsee hwhole
      rw [hc, piecesFrom?, hx, hnone]
      simp only [Option.bind_eq_bind, Option.bind_some, hseen.eq_iff (d := ',') (by decide),
        hseen.depthAfter_eq]
      by_cases hcomma : c = ',' ∧ d = 0
      · obtain ⟨rfl, rfl⟩ := hcomma
        have hpiece : slice? s (utf8Len a) (utf8Len (a ++ p)) = some p := by
          rw [hs, String.utf8Len_append]
          exact slice?_append a p _
        -- The comma takes one byte, so the next piece starts one behind it.
        have hbehind : s = a ++ p ++ [','] ++ ([] ++ r) := by rw [hwhole]; simp
        have hpieces := ih hbehind none 0
        have hone : ','.utf8Size = 1 := rfl
        rw [List.append_nil, utf8Len_concat, hone, nil_glue (splitFrom_ne_nil rule none 0 r)]
          at hpieces
        rw [if_pos ⟨rfl, rfl⟩, if_neg (by simp), if_pos ⟨rfl, rfl⟩, hpiece, hone, hpieces]
        simp [glue]
      · rw [if_neg hcomma, if_neg (by simp), if_neg hcomma, hrest]

theorem bytePieces?_eq (s : List Char) :
    bytePieces? s = some (splitTopLevel literalQuotes s) := by
  have h := piecesFrom?_eq literalQuotes (seeByte s) (fun hs => exists_seeByte hs)
    (List.nil_append ([] ++ s)).symm none 0
  simpa [bytePieces?, scan, splitTopLevel, nil_glue (splitFrom_ne_nil _ none 0 s)] using h

theorem charPieces?_eq (s : List Char) : charPieces? s = some (splitTopLevel nameQuotes s) := by
  have h := piecesFrom?_eq nameQuotes (fun _ c => some c)
    (fun _ => ⟨_, rfl, .inl rfl⟩) (List.nil_append ([] ++ s)).symm none 0
  simpa [charPieces?, scan, splitTopLevel, nil_glue (splitFrom_ne_nil _ none 0 s)] using h

end PolySql.Bytewise
