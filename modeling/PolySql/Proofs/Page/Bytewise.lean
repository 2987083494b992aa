import PolySql.Proofs.Layout.Bytewise
import PolySql.Proofs.Page.Qualified

/-!
# Pages by byte offsets

A page is made from slices of the caller's query: what follows its first words, the list before its
`from`, the items of the list, and the names in them.

* `afterKeyword?`, `untilFrom?`, `trailingQuoted?`, `outputName?`, `outputNames?` — the parts of a
  query with their slices; `none` where a slice is asked for that is not there.
* `paginate?`, `topLimit?` — the queries for a page and for the first rows.

Principal result: `slices_total` — for every query, every slice that a layout, a page or the first
rows ask for is there, and what they make of the slices is what the characters give.
-/

namespace PolySql.Bytewise

open Text SelectList
open String (utf8Len)

/-! ## Keywords -/

/-- Whether a text begins with a blank. -/
def startsBlank (s : List Char) : Bool := s.head?.any isBlank

/-- What follows a keyword, written in lower case, and the blanks after it; `some none` if the text
does not begin so. Whether there is a text as long as the keyword is asked first. -/
def afterKeyword? (keyword s : List Char) : Option (Option (List Char)) :=
  match slice? s 0 (utf8Len keyword) with
  | none => some none
  | some head => do
    let rest ← sliceFrom? s (utf8Len keyword)
    if lower head = keyword ∧ startsBlank rest then some (some (trimStart rest)) else some none

/-- Whether a text begins with the word `from` and a blank. -/
def startsFrom? (s : List Char) : Option Bool :=
  match slice? s 0 4 with
  | none => some false
  | some word =>
    if lower word = "from".toList then (sliceFrom? s 4).map startsBlank else some false

/-- A text is cut behind a keyword if it is cut at that offset at all. -/
theorem keyword_cases (keyword s : List Char) :
    (∃ head rest, slice? s 0 (utf8Len keyword) = some head ∧
      sliceFrom? s (utf8Len keyword) = some rest ∧
      (lower head = keyword ↔ startsIgnoringCase keyword s = true) ∧
      (lower head = keyword → s.drop keyword.length = rest)) ∨
    (slice? s 0 (utf8Len keyword) = none ∧ startsIgnoringCase keyword s = false) := by
  cases h : slice? s 0 (utf8Len keyword) with
  | none =>
    refine .inr ⟨rfl, Bool.eq_false_iff.2 fun hstarts => ?_⟩
    have hword : lower (s.take keyword.length) = keyword := by
      rw [lower, List.map_take]
      exact (List.prefix_iff_eq_take.1 ((startsIgnoringCase_iff keyword s).1 hstarts)).symm
    have hslice := slice?_zero (s.take keyword.length) (s.drop keyword.length)
    rw [List.take_append_drop, ← utf8Len_lower, hword, h] at hslice
    cases hslice
  | some head =>
    obtain ⟨rest, rfl, hlength⟩ := slice?_zero_eq_some_iff.1 h
    refine .inl ⟨head, rest, rfl, by rw [hlength, sliceFrom?_append], ?_, ?_⟩
    · rw [startsIgnoringCase_iff, lower_append]
      constructor
      · rintro rfl
        exact List.prefix_append _ _
      · rintro ⟨t, ht⟩
        obtain ⟨u, hu, -⟩ := append_cases ht (by rw [utf8Len_lower, hlength])
        have hnil : u = [] := by
          have hsame := congrArg utf8Len hu
          rw [utf8Len_lower, String.utf8Len_append] at hsame
          exact String.utf8Len_eq_zero.1 (by omega)
        rw [hu, hnil, List.append_nil]
    · rintro rfl
      rw [lower_length, List.drop_left]

theorem afterKeyword?_eq (keyword s : List Char) :
    afterKeyword? keyword s = some (PolySql.afterKeyword? keyword s) := by
  rw [afterKeyword?, PolySql.afterKeyword?]
  rcases keyword_cases keyword s with ⟨head, rest, hhead, hrest, hstarts, hdrop⟩ | ⟨hnone, hfalse⟩
  · rw [hhead, hrest]
    simp only [Option.bind_eq_bind, Option.bind_some]
    by_cases hkeyword : lower head = keyword
    · rw [if_pos (hstarts.1 hkeyword), hdrop hkeyword]
      cases rest with
      | nil => rw [if_neg fun h => Bool.false_ne_true h.2]
      | cons c r => by_cases hc : isBlank c = true <;> simp [startsBlank, trimStart, hkeyword, hc]
    · rw [if_neg fun h => hkeyword h.1, if_neg fun h => hkeyword (hstarts.2 h)]
  · rw [hnone, hfalse]
    rfl

theorem startsFrom_eq (s : List Char) :
    startsFrom s = (startsIgnoringCase "from".toList s && startsBlank (s.drop 4)) := by
  rw [startsFrom]
  cases s.drop 4 <;> rfl

theorem startsFrom?_eq (s : List Char) : startsFrom? s = some (startsFrom s) := by
  rw [startsFrom?, startsFrom_eq]
  have hfour : utf8Len "from".toList = 4 := rfl
  rcases keyword_cases "from".toList s with
    ⟨head, rest, hhead, hrest, hstarts, hdrop⟩ | ⟨hnone, hfalse⟩
  · rw [hfour] at hhead hrest
    rw [hhead]
    by_cases hword : lower head = "from".toList
    · simp only [if_pos hword, hrest, hstarts.1 hword, Option.map_some, Bool.true_and]
      rw [← hdrop hword]
      rfl
    · have hother : startsIgnoringCase "from".toList s = false :=
        Bool.eq_false_iff.2 fun h => hword (hstarts.2 h)
      simp only [if_neg hword, hother, Bool.false_and]
  · rw [hfour] at hnone
    rw [hnone, hfalse]
    rfl

/-! ## Select lists -/

/-- Whether the word `from` is found at an offset; it is only looked for at a letter F, outside
parentheses and behind a blank. -/
def fromAt? (s : List Char) (i : Nat) (c : Char) (d : Nat) (previous : Char) : Option Bool :=
  if (c = 'f' ∨ c = 'F') ∧ d = 0 ∧ isBlank previous then (sliceFrom? s i).bind startsFrom?
  else some false

/-- The text before the first `from` that is unquoted, outside parentheses and between blanks;
`previous` is the character before. -/
def untilFrom? (s : List Char) :
    Nat → Char → List (Nat × Char × Bool) → Option (Option (List Char))
  | _, _, [] => some none
  | d, _, (_, c, true) :: m => untilFrom? s d c m
  | d, previous, (i, c, false) :: m => do
    let found ← fromAt? s i c d previous
    if found then (slice? s 0 i).map some else untilFrom? s (depthAfter d c) c m

/-- The items of a query, from its start to its first top-level `from`. -/
def selectList? (body : List Char) : Option (Option (List Char)) :=
  untilFrom? body 0 ' ' (scan nameQuotes body)

theorem eq_of_toLower_eq_f {c : Char} (h : c.toLower = 'f') : c = 'f' ∨ c = 'F' := by
  unfold Char.toLower at h
  split at h
  · right
    have hval := congrArg (fun x : Char => x.val.toNat) h
    rename_i hupper
    simp only [ge_iff_le, UInt32.le_iff_toNat_le] at hupper
    refine Char.ext (UInt32.toNat_inj.1 ?_)
    simp at hval hupper ⊢
    omega
  · exact .inl h

/-- No other letter begins the word. -/
theorem fromAt?_eq {s a r : List Char} {c : Char} (hs : s = a ++ c :: r) (d : Nat)
    (previous : Char) :
    fromAt? s (utf8Len a) c d previous =
      some (decide (d = 0 ∧ isBlank previous ∧ startsFrom (c :: r))) := by
  rw [fromAt?, hs, sliceFrom?_append, Option.bind_some, startsFrom?_eq]
  by_cases hf : c = 'f' ∨ c = 'F'
  · by_cases hplace : d = 0 ∧ isBlank previous = true
    · rw [if_pos ⟨hf, hplace⟩]
      simp [hplace]
    · rw [if_neg fun h => hplace h.2, decide_eq_false fun h => hplace ⟨h.1, h.2.1⟩]
  · have hother := startsFrom_cons_eq_false (fun h => hf (eq_of_toLower_eq_f h)) r
    rw [if_neg fun h => hf h.1, decide_eq_false fun h => Bool.false_ne_true (hother ▸ h.2.2)]

theorem untilFrom?_eq {s a r : List Char} (hs : s = a ++ r) (q : Option Char) (d : Nat)
    (previous : Char) :
    untilFrom? s d previous (scanFrom nameQuotes q (utf8Len a) r) =
      some ((untilFrom q d (isBlank previous) r).map (a ++ ·)) := by
  induction r generalizing a q d previous with
  | nil => rfl
  | cons c r ih =>
    have hnext : s = a ++ [c] ++ r := by rw [hs, List.append_assoc]; rfl
    have hrest : ∀ q d, untilFrom? s d c (scanFrom nameQuotes q (utf8Len a + c.utf8Size) r) =
        some (((untilFrom q d (isBlank c) r).map (c :: ·)).map (a ++ ·)) := by
      intro q d
      rw [← utf8Len_concat, ih hnext, Option.map_map]
      simp only [Function.comp_def, List.append_assoc, List.singleton_append]
    rw [scanFrom, untilFrom]
    by_cases hc : isQuoted nameQuotes q c = true
    · rw [hc, untilFrom?, hrest, if_pos rfl]
    · rw [Bool.not_eq_true] at hc
      obtain ⟨rfl, hnone⟩ := eq_none_of_not_isQuoted hc
      rw [hc, untilFrom?, fromAt?_eq hs, hnone, hrest, if_neg Bool.false_ne_true]
      simp only [Option.bind_eq_bind, Option.bind_some, decide_eq_true_eq]
      split
      · rw [hs, slice?_zero]
        simp
      · rfl

theorem selectList?_eq (body : List Char) :
    selectList? body = some (SelectList.selectList? body) := by
  have h := untilFrom?_eq (List.nil_append body).symm none 0 ' '
  have hblank : isBlank ' ' = true := rfl
  simpa [selectList?, scan, SelectList.selectList?, hblank] using h

/-! ## Names of items -/

/-- The start, the end and the opening character of the last quoted span that is closed, if no
other is open at the end. `n` is the offset of the text, and `span` holds the closing character,
the start and the opening character of the open span. -/
def lastSpan? : Option (Nat × Nat × Char) → Option (Char × Nat × Char) → Nat → List Char →
    Option (Nat × Nat × Char)
  | last, none, _, [] => last
  | _, some _, _, [] => none
  | last, none, n, c :: r =>
    lastSpan? last ((nameQuotes c).map fun e => (e, n, c)) (n + c.utf8Size) r
  | _, some (e, start, opening), n, [c] =>
    if c = e then some (start, n + c.utf8Size, opening) else none
  | last, some (e, start, opening), n, c :: d :: r =>
    if c ≠ e then lastSpan? last (some (e, start, opening)) (n + c.utf8Size) (d :: r)
    else if d = e then
      lastSpan? last (some (e, start, opening)) (n + c.utf8Size + d.utf8Size) r
    else lastSpan? (some (start, n + c.utf8Size, opening)) none (n + c.utf8Size) (d :: r)

/-- The quoted name that an item ends with. -/
def trailingQuoted? (item : List Char) : Option (Option (List Char)) :=
  match lastSpan? none none 0 item with
  | some (start, stop, opening) =>
    if stop = utf8Len item ∧ opening ≠ '\'' then (sliceFrom? item start).map some else some none
  | none => some none

/-- What the offsets of the last span say of the span that a text ends with. -/
def Locates (s : List Char) (last : Option (Nat × Nat × Char)) : Option (List Char) → Prop
  | some span => ∃ a opening t, s = a ++ span ∧ span = opening :: t ∧
      last = some (utf8Len a, utf8Len s, opening)
  | none => ∀ start stop opening, last = some (start, stop, opening) → stop ≠ utf8Len s

/-- The span that is open, by its offset and by its characters. -/
def SameSpan (s : List Char) (span : Option (Char × Nat × Char)) :
    Option (Char × List Char) → Prop
  | none => span = none
  | some (e, chars) => ∃ a opening t, s = a ++ chars ∧ chars = opening :: t ∧
      span = some (e, utf8Len a, opening)

/-- Both scans follow the same spans: the one by offsets remembers where the last closed one ends,
and that is the end of the text only if nothing comes behind it. -/
theorem locates_lastSpan? {s a r : List Char} (hs : s = a ++ r)
    {last : Option (Nat × Nat × Char)}
    (hlast : ∀ start stop opening, last = some (start, stop, opening) → stop < utf8Len s)
    {span : Option (Char × Nat × Char)} {chars : Option (Char × List Char)}
    (hspan : SameSpan s span chars) :
    Locates s (lastSpan? last span (utf8Len a) r) (spanAtEnd? chars r) := by
  fun_induction spanAtEnd? chars r generalizing a last span with
  | case1 chars =>
    cases span with
    | none => exact fun start stop opening h => Nat.ne_of_lt (hlast start stop opening h)
    | some _ => exact fun start stop opening h => by cases h
  | case2 c r ih =>
    obtain rfl : span = none := hspan
    rw [lastSpan?, ← utf8Len_concat]
    refine ih (by rw [hs]; simp) hlast ?_
    cases nameQuotes c with
    | none => rfl
    | some e => exact ⟨a, c, r, hs, rfl, rfl⟩
  | case3 chars c =>
    obtain ⟨b, opening, t, hb, hchars, rfl⟩ := hspan
    refine ⟨b, opening, t, hb, hchars, ?_⟩
    rw [lastSpan?, if_pos rfl, hs, utf8Len_concat]
  | case4 e chars c hne =>
    obtain ⟨b, opening, t, -, -, rfl⟩ := hspan
    rw [lastSpan?, if_neg hne]
    exact fun start stop opening h => by cases h
  | case5 e chars c d r hne ih =>
    obtain ⟨b, opening, t, hb, hchars, rfl⟩ := hspan
    rw [lastSpan?, if_pos hne, ← utf8Len_concat]
    exact ih (by rw [hs]; simp) hlast ⟨b, opening, t, hb, hchars, rfl⟩
  | case6 chars c d r heq ih =>
    obtain ⟨b, opening, t, hb, hchars, rfl⟩ := hspan
    rw [lastSpan?, if_neg heq, if_pos rfl, ← utf8Len_concat, ← utf8Len_concat]
    exact ih (by rw [hs]; simp) hlast ⟨b, opening, t, hb, hchars, rfl⟩
  | case7 e chars c d r heq hne ih =>
    obtain ⟨b, opening, t, -, -, rfl⟩ := hspan
    rw [lastSpan?, if_neg heq, if_neg hne, ← utf8Len_concat]
    refine ih (by rw [hs]; simp) ?_ rfl
    rintro start stop opening' h
    have hstop : utf8Len (a ++ [c]) = stop := congrArg (fun p => p.2.1) (Option.some.inj h)
    have hsize : utf8Len s = utf8Len (a ++ [c]) + (utf8Len r + d.utf8Size) := by
      rw [hs, List.append_cons, String.utf8Len_append, String.utf8Len_cons]
    have hpos := d.utf8Size_pos
    omega

theorem locates_spanAtEnd? (item : List Char) :
    Locates item (lastSpan? none none 0 item) (spanAtEnd? none item) := by
  have hlast : ∀ start stop opening,
      (none : Option (Nat × Nat × Char)) = some (start, stop, opening) → stop < utf8Len item := by
    simp
  have hspan : SameSpan item none none := rfl
  have h := locates_lastSpan? (List.nil_append item).symm hlast hspan
  rwa [String.utf8Len_nil] at h

theorem exists_append_of_trailingQuoted? {item name : List Char}
    (h : SelectList.trailingQuoted? item = some name) : ∃ before, item = before ++ name := by
  have hlocates := locates_spanAtEnd? item
  rw [(Option.filter_eq_some_iff.1 h).1] at hlocates
  obtain ⟨before, -, -, hitem, -⟩ := hlocates
  exact ⟨before, hitem⟩

theorem trailingQuoted?_eq (item : List Char) :
    trailingQuoted? item = some (SelectList.trailingQuoted? item) := by
  have h := locates_spanAtEnd? item
  rw [trailingQuoted?, SelectList.trailingQuoted?]
  cases hspan : spanAtEnd? none item with
  | some span =>
    rw [hspan] at h
    obtain ⟨a, opening, t, hs, rfl, hlast⟩ := h
    rw [hlast]
    have hslice : sliceFrom? item (utf8Len a) = some (opening :: t) := by
      rw [hs, sliceFrom?_append]
    by_cases hopening : opening = '\''
    · simp [hopening, Option.filter]
    · simp [hopening, hslice, Option.filter]
  | none =>
    rw [hspan] at h
    cases hlast : lastSpan? none none 0 item with
    | none => rfl
    | some found =>
      obtain ⟨start, stop, opening⟩ := found
      have hstop := h start stop opening hlast
      simp [hstop]

/-- The offset of the last point of a text that begins at the offset `n`. -/
def lastDot? : Nat → List Char → Option Nat
  | _, [] => none
  | n, c :: r => (lastDot? (n + c.utf8Size) r).or (if c = '.' then some n else none)

theorem lastDot?_cases (n : Nat) (s : List Char) :
    (lastDot? n s = none ∧ '.' ∉ s) ∨
      ∃ x y, s = x ++ '.' :: y ∧ '.' ∉ y ∧ lastDot? n s = some (n + utf8Len x) := by
  induction s generalizing n with
  | nil => exact .inl ⟨rfl, List.not_mem_nil⟩
  | cons c r ih =>
    rw [lastDot?]
    rcases ih (n + c.utf8Size) with ⟨hnone, hmem⟩ | ⟨x, y, hr, hy, hsome⟩
    · by_cases hc : c = '.'
      · subst hc
        exact .inr ⟨[], r, rfl, hmem, by rw [hnone]; rfl⟩
      · refine .inl ⟨by rw [hnone, if_neg hc]; rfl, ?_⟩
        rw [List.mem_cons, not_or]
        exact ⟨Ne.symm hc, hmem⟩
    · refine .inr ⟨c :: x, y, by rw [hr]; rfl, hy, ?_⟩
      rw [hsome, Option.some_or, String.utf8Len_cons]
      congr 1
      omega

/-- The name of the column that an item without blanks around it returns. -/
def outputName? (item : List Char) : Option (List Char) := do
  match ← trailingQuoted? item with
  | some name =>
    -- The difference of the sizes is an offset only if it is not below zero.
    if utf8Len name ≤ utf8Len item then
      let before ← slice? item 0 (utf8Len item - utf8Len name)
      some (if endsInOperator (trimEnd before) then item else name)
    else none
  | none =>
    match wordAlias? item with
    | some name => some name
    | none =>
      match lastDot? 0 item with
      | some dot => if lacks "( '" item then sliceFrom? item (dot + 1) else some item
      | none => some item

theorem outputName?_eq (item : List Char) :
    outputName? item = some (SelectList.outputName item) := by
  rw [outputName?, trailingQuoted?_eq, SelectList.outputName]
  cases hname : SelectList.trailingQuoted? item with
  | some name =>
    obtain ⟨before, hitem⟩ := exists_append_of_trailingQuoted? hname
    have hle : utf8Len name ≤ utf8Len item := by
      rw [hitem, String.utf8Len_append]
      omega
    have hsub : utf8Len item - utf8Len name = utf8Len before := by
      rw [hitem, String.utf8Len_append]
      omega
    have htake : item.take (item.length - name.length) = before := by
      rw [hitem, List.length_append, Nat.add_sub_cancel, List.take_left]
    have hslice : slice? item 0 (utf8Len before) = some before := by rw [hitem, slice?_zero]
    simp only [Option.bind_eq_bind, Option.bind_some, if_pos hle, hsub, hslice, htake]
  | none =>
    simp only [Option.bind_eq_bind, Option.bind_some]
    cases wordAlias? item with
    | some name => rfl
    | none =>
      rcases lastDot?_cases 0 item with ⟨hnone, hmem⟩ | ⟨x, y, hxy, hy, hsome⟩
      · have hcontains : item.contains '.' = false := by simpa using hmem
        simp only [hnone, hcontains, Bool.false_and, Bool.false_eq_true, if_false]
      · have hcontains : item.contains '.' = true := by rw [hxy]; simp
        have hslice : sliceFrom? item (utf8Len x + 1) = some y :=
          hxy ▸ sliceFrom?_append_cons x '.' y
        have hlast : afterLastDot item = y := by rw [hxy, afterLastDot_append x hy]
        simp only [hsome, hcontains, Nat.zero_add, hslice, hlast, Bool.true_and]
        split <;> rfl

/-- The names of items, one after the other; `some none` as soon as an item stands for several
columns. -/
def itemNames? : List (List Char) → Option (Option (List String))
  | [] => some (some [])
  | item :: items =>
    if isWildcard (trim item) then some none
    else do
      let name ← outputName? (trim item)
      let names ← itemNames? items
      some (names.map fun names => String.ofList name :: names)

/-- The names of the columns that a query returns, with commas between them. -/
def outputNames? (body : List Char) : Option (Option String) := do
  match ← selectList? body with
  | none => some none
  | some list =>
    let names ← itemNames? (← charPieces? list)
    some (some ((names.map fun names => joinWith ", " names).getD "*"))

theorem itemNames?_eq (items : List (List Char)) :
    itemNames? items = some (if (items.map trim).any isWildcard then none
      else some ((items.map trim).map fun item => String.ofList (outputName item))) := by
  induction items with
  | nil => rfl
  | cons item items ih =>
    rw [itemNames?, ih, outputName?_eq, List.map_cons, List.any_cons]
    cases isWildcard (trim item) with
    | true => rfl
    | false =>
      simp only [Option.bind_eq_bind, Option.bind_some, Bool.false_or, Bool.false_eq_true, if_false]
      split <;> rfl

theorem outputNames?_eq (body : List Char) :
    outputNames? body = some (SelectList.outputNames? body) := by
  rw [outputNames?, selectList?_eq, SelectList.outputNames?]
  cases SelectList.selectList? body with
  | none => rfl
  | some list =>
    simp only [Option.bind_eq_bind, Option.bind_some, charPieces?_eq, itemNames?_eq,
      Option.map_some]
    split <;> rfl

/-! ## Queries -/

/-- The query without a leading `distinct`, if the template has a place for the word. The word is
looked for in any case. -/
def splitDistinct? (template : String) (body : List Char) : Option (List Char × Bool) := do
  match ← afterKeyword? "distinct".toList body with
  | some rest => some (if contains template "($DISTINCT)" then (rest, true) else (body, false))
  | none => some (body, false)

/-- The names of the columns, if the template asks for them. -/
def fields? (template : String) (body : List Char) : ExceptT Error Option String :=
  if contains template "$FIELDS_OR_ALIAS" then
    ExceptT.mk ((outputNames? body).map (orError (.noFromClause (String.ofList body))))
  else ExceptT.mk (some (.ok ""))

/-- A template filled in for a query. -/
def fillQuery? (template : String) (body : List Char) (pageSize skipRows : UInt64) :
    ExceptT Error Option String := do
  let (body, distinct) ← splitDistinct? template body
  let fields ← fields? template body
  return Template.fill template ⟨String.ofList body, distinct, fields, pageSize, skipRows⟩

/-- What follows the `select` of a query. -/
def afterSelect? (sql : String) : ExceptT Error Option (List Char) :=
  ExceptT.mk <| (afterKeyword? "select".toList (trim sql.toList)).map fun body =>
    orError (.notSelect sql) (body.filter fun body => !body.isEmpty)

/-- The query for the page of some number. -/
def paginate? (dialect : Dialect) (page size : UInt64) (sql : String) :
    ExceptT Error Option String := do
  let body ← afterSelect? sql
  if page = 0 ∨ size = 0 then throw (.invalidPage page size)
  let template ← ExceptT.mk (some (dialect.templateFor page))
  let skip ← ExceptT.mk (some (Dialect.skipRows page size))
  fillQuery? template body size skip

/-- The query for the first `limit` rows. -/
def topLimit? (dialect : Dialect) (limit : UInt64) (sql : String) :
    ExceptT Error Option String := do
  let body ← afterSelect? sql
  if limit = 0 then throw (.invalidPage 1 0)
  let template ← ExceptT.mk (some (orError (.pagingUnsupported dialect) dialect.topTemplate?))
  fillQuery? template body limit 0

/-- Steps that are all there make a query that is there. -/
theorem mk_some_bind {α β : Type} {x : Except Error α} {f : α → Except Error β}
    {g : α → ExceptT Error Option β} (h : ∀ a, g a = ExceptT.mk (some (f a))) :
    (ExceptT.mk (some x) >>= g) = ExceptT.mk (some (x >>= f)) := by
  cases x with
  | error e => rfl
  | ok a => exact h a

theorem splitDistinct?_eq (template : String) (body : List Char) :
    splitDistinct? template body =
      some (if contains template "($DISTINCT)" then splitDistinct body else (body, false)) := by
  rw [splitDistinct?, afterKeyword?_eq, splitDistinct]
  cases PolySql.afterKeyword? "distinct".toList body with
  | none => exact congrArg some (ite_self _).symm
  | some rest => rfl

theorem fields?_eq (template : String) (body : List Char) :
    fields? template body = ExceptT.mk (some (
      if contains template "$FIELDS_OR_ALIAS" then
        orError (.noFromClause (String.ofList body)) (SelectList.outputNames? body)
      else .ok "")) := by
  rw [fields?, outputNames?_eq]
  split <;> rfl

theorem fillQuery?_eq (template : String) (body : List Char) (pageSize skipRows : UInt64) :
    fillQuery? template body pageSize skipRows =
      ExceptT.mk (some (fillQuery template body pageSize skipRows)) := by
  rw [fillQuery?, fillQuery, splitDistinct?_eq]
  generalize (if contains template "($DISTINCT)" then splitDistinct body else (body, false)) = q
  obtain ⟨body, distinct⟩ := q
  change (fields? template body >>= _) = _
  rw [fields?_eq]
  exact (mk_some_bind fun _ => rfl).trans
    (congrArg (fun x => ExceptT.mk (some x)) (bind_pure_comp _ _))

theorem afterSelect?_eq (sql : String) :
    afterSelect? sql = ExceptT.mk (some (afterSelect sql)) := by
  rw [afterSelect?, afterKeyword?_eq, Option.map_some, afterSelect]

theorem paginate?_eq (dialect : Dialect) (page size : UInt64) (sql : String) :
    paginate? dialect page size sql = ExceptT.mk (some (dialect.paginate page size sql)) := by
  rw [paginate?, Dialect.paginate, afterSelect?_eq]
  refine mk_some_bind fun body => ?_
  by_cases hzero : page = 0 ∨ size = 0
  · simp only [if_pos hzero]
    rfl
  · simp only [if_neg hzero]
    exact mk_some_bind fun template => mk_some_bind fun skip => fillQuery?_eq template body size skip

theorem topLimit?_eq (dialect : Dialect) (limit : UInt64) (sql : String) :
    topLimit? dialect limit sql = ExceptT.mk (some (dialect.topLimit limit sql)) := by
  rw [topLimit?, Dialect.topLimit, afterSelect?_eq]
  refine mk_some_bind fun body => ?_
  by_cases hzero : limit = 0
  · simp only [if_pos hzero]
    rfl
  · simp only [if_neg hzero]
    exact mk_some_bind fun template => fillQuery?_eq template body limit 0

/-- Every slice that a layout, a page or the first rows ask for is there, whatever the text. -/
theorem slices_total (dialect : Dialect) (page size limit : UInt64) (sql : String) :
    layout? sql = some (layout sql) ∧
      (paginate? dialect page size sql).run = some (dialect.paginate page size sql) ∧
      (topLimit? dialect limit sql).run = some (dialect.topLimit limit sql) :=
  ⟨layout?_eq sql, paginate?_eq dialect page size sql, topLimit?_eq dialect limit sql⟩

end PolySql.Bytewise
