/-!
# Blank characters

* `isBlank` — the characters that separate words.
* `trimStart`, `trimEnd`, `trim` — a text without the blanks at its ends.
* `words` — the longest stretches without a blank, in order.

`trim_eq_self` says that a text with no blank at either end is its own trim, and
`not_isBlank_of_mem_words` that no word holds a blank.
-/

namespace PolySql.Text

/-- The white-space characters of Unicode. Zero-width spaces are not among them. -/
def isBlank (c : Char) : Bool :=
  let n := c.toNat
  (9 ≤ n && n ≤ 13) || n == 0x20 || n == 0x85 || n == 0xA0 || n == 0x1680 ||
    (0x2000 ≤ n && n ≤ 0x200A) || n == 0x2028 || n == 0x2029 || n == 0x202F ||
    n == 0x205F || n == 0x3000

def trimStart (s : List Char) : List Char := s.dropWhile isBlank

def trimEnd (s : List Char) : List Char := (s.reverse.dropWhile isBlank).reverse

def trim (s : List Char) : List Char := trimEnd (trimStart s)

/-- Whether a text holds nothing but blanks. -/
def allBlank (s : String) : Bool := (trim s.toList).isEmpty

/-- Puts a character in front of the first of some pieces. -/
def consHead (c : Char) : List (List Char) → List (List Char)
  | [] => [[c]]
  | w :: ws => (c :: w) :: ws

def words : List Char → List (List Char)
  | [] => []
  | c :: r =>
    if isBlank c then words r
    else
      match r with
      | [] => [[c]]
      | d :: _ => if isBlank d then [c] :: words r else consHead c (words r)

/-! ## Trimming -/

theorem trimStart_eq_self {s : List Char} (h : ∀ c, s.head? = some c → isBlank c = false) :
    trimStart s = s := by
  cases s with
  | nil => rfl
  | cons c r => simp [trimStart, h c rfl]

theorem trimEnd_eq_self {s : List Char} (h : ∀ c, s.getLast? = some c → isBlank c = false) :
    trimEnd s = s := by
  unfold trimEnd
  have := trimStart_eq_self (s := s.reverse) fun c hc => h c (by simpa using hc)
  rw [trimStart] at this
  rw [this, List.reverse_reverse]

theorem trim_eq_self {s : List Char} (hd : ∀ c, s.head? = some c → isBlank c = false)
    (hl : ∀ c, s.getLast? = some c → isBlank c = false) : trim s = s := by
  rw [trim, trimStart_eq_self hd, trimEnd_eq_self hl]

/-! ## Words -/

theorem mem_consHead {c : Char} {ws : List (List Char)} {w : List Char}
    (h : w ∈ consHead c ws) : w = [c] ∨ w ∈ ws ∨ ∃ v ∈ ws, w = c :: v := by
  cases ws with
  | nil => simp [consHead] at h; exact .inl h
  | cons v vs =>
    simp only [consHead, List.mem_cons] at h
    rcases h with rfl | h
    · exact .inr (.inr ⟨v, by simp, rfl⟩)
    · exact .inr (.inl (by simp [h]))

/-- No word holds a blank. -/
theorem not_isBlank_of_mem_words {s w : List Char} (h : w ∈ words s) :
    ∀ c ∈ w, isBlank c = false := by
  fun_induction words s generalizing w with
  | case1 => simp at h
  | case2 c r hc ih => exact ih h
  | case3 c hc => simp_all
  | case4 c hc d r hd ih =>
    rcases List.mem_cons.1 h with rfl | h
    · simpa using hc
    · exact ih h
  | case5 c hc d r hd ih =>
    rcases mem_consHead h with rfl | h | ⟨v, hv, rfl⟩
    · simpa using hc
    · exact ih h
    · intro x hx
      rcases List.mem_cons.1 hx with rfl | hx
      · simpa using hc
      · exact ih hv x hx

end PolySql.Text
