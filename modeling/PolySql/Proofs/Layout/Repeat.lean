import PolySql.Proofs.Layout.Tokens

/-!
# Laying out twice

What has been laid out is left alone by a second layout.

* `Tight` — a text whose stretches of unquoted blanks are single spaces, as a collapsed text is
  (`tight_collapse`); collapsing it again changes nothing (`squeeze_of_tight`).
* `squeeze_lines` — collapsing the lines of a CREATE TABLE statement gives pieces that trim to the
  same definitions.
* `collapse_breakBefore` — collapsing what was broken in two gives back the collapsed text.
* `layoutCollapsed_collapse_layoutCreate` — a CREATE TABLE statement that was laid out, collapsed
  and laid out again.

Principal result: `layout_layout` — for every text, a layout of its layout is that layout.
-/

namespace PolySql.Layout

open Text

/-! ## Collapsed texts -/

/-- Every stretch of unquoted blanks is one space; `gap` says that one stands just before. -/
def Tight : Option Char → Bool → List Char → Prop
  | _, _, [] => True
  | q, gap, c :: r =>
    if isQuoted literalQuotes q c = false ∧ isBlank c then c = ' ' ∧ gap = false ∧ Tight q true r
    else Tight (closerAfter literalQuotes q c) false r

/-- Whether unquoted blanks stand at the end of a text; `gap` says so of the text before it. -/
def gapAfter : Option Char → Bool → List Char → Bool
  | _, gap, [] => gap
  | q, _, c :: r =>
    if isQuoted literalQuotes q c = false ∧ isBlank c then gapAfter q true r
    else gapAfter (closerAfter literalQuotes q c) false r

theorem squeeze_append (q : Option Char) (gap : Bool) (s t : List Char) :
    squeeze q gap (s ++ t) =
      squeeze q gap s ++ squeeze (closerAfterAll literalQuotes q s) (gapAfter q gap s) t := by
  induction s generalizing q gap with
  | nil => rfl
  | cons c s ih =>
    simp only [List.cons_append, squeeze, gapAfter, closerAfterAll_cons]
    split
    · rename_i hc
      obtain ⟨rfl, hcloser⟩ := eq_none_of_not_isQuoted hc.1
      rw [ih, hcloser]
    · rw [ih]
      split <;> simp

theorem tight_append (q : Option Char) (gap : Bool) (s t : List Char) :
    Tight q gap (s ++ t) ↔
      Tight q gap s ∧ Tight (closerAfterAll literalQuotes q s) (gapAfter q gap s) t := by
  induction s generalizing q gap with
  | nil => simp [Tight, gapAfter]
  | cons c s ih =>
    simp only [List.cons_append, Tight, gapAfter, closerAfterAll_cons]
    split
    · rename_i hc
      obtain ⟨rfl, hcloser⟩ := eq_none_of_not_isQuoted hc.1
      rw [ih, hcloser]
      simp only [and_assoc]
    · rw [ih]

/-- A text that is tight with a space before it is tight without. -/
theorem Tight.gap_false {q : Option Char} {gap : Bool} {s : List Char} (h : Tight q gap s) :
    Tight q false s := by
  cases s with
  | nil => trivial
  | cons c r =>
    unfold Tight at h ⊢
    split
    · rename_i hc
      rw [if_pos hc] at h
      exact ⟨h.1, rfl, h.2.2⟩
    · rename_i hc
      rwa [if_neg hc] at h

theorem tight_squeeze {q : Option Char} {gap : Bool} (hq : gap = true → q = none)
    (s : List Char) : Tight q false (squeeze q gap s) := by
  induction s generalizing q gap with
  | nil => trivial
  | cons c r ih =>
    unfold squeeze
    split
    · rename_i hc
      obtain ⟨rfl, -⟩ := eq_none_of_not_isQuoted hc.1
      exact ih fun _ => rfl
    · rename_i hc
      have hrest : Tight (closerAfter literalQuotes q c) false
          (squeeze (closerAfter literalQuotes q c) false r) := ih fun h => by cases h
      have htoken : ∀ g, Tight q g (c :: squeeze (closerAfter literalQuotes q c) false r) := by
        intro g
        rw [Tight, if_neg hc]
        exact hrest
      cases gap with
      | false => exact htoken false
      | true =>
        obtain rfl := hq rfl
        refine (?_ : Tight none false (' ' :: _))
        rw [Tight, if_pos ⟨rfl, rfl⟩]
        exact ⟨rfl, rfl, htoken true⟩

/-- A squeeze of a tight text drops only the space at its end. -/
theorem squeeze_append_gap {q : Option Char} {gap : Bool} {s : List Char} (h : Tight q gap s) :
    squeeze q gap s ++ (if gapAfter q gap s then [' '] else []) =
      (if gap then [' '] else []) ++ s := by
  induction s generalizing q gap with
  | nil => cases gap <;> rfl
  | cons c r ih =>
    unfold Tight at h
    unfold squeeze gapAfter
    split
    · rename_i hc
      rw [if_pos hc] at h
      obtain ⟨rfl, rfl, h⟩ := h
      exact ih h
    · rename_i hc
      rw [if_neg hc] at h
      have := ih h
      cases gap <;> simpa using this

theorem gapAfter_of_last {q : Option Char} {s : List Char}
    (h : ∀ c, s.getLast? = some c → isBlank c = false) : gapAfter q false s = false := by
  -- Only the last character matters, so the state before it may be any.
  have step : ∀ (r : List Char) (q : Option Char) (c : Char) (gap : Bool), isBlank c = false →
      gapAfter q gap (r ++ [c]) = false := by
    intro r
    induction r with
    | nil =>
      intro q c gap hc
      rw [List.nil_append, gapAfter, if_neg (by simp [hc])]
      rfl
    | cons x r ih =>
      intro q c gap hc
      rw [List.cons_append, gapAfter]
      split
      · exact ih _ _ _ hc
      · exact ih _ _ _ hc
  rcases List.eq_nil_or_concat s with rfl | ⟨r, c, rfl⟩
  · rfl
  · rw [List.concat_eq_append] at h ⊢
    exact step r q c false (h c (by simp))

theorem squeeze_of_tight {q : Option Char} {s : List Char} (h : Tight q false s)
    (hlast : ∀ c, s.getLast? = some c → isBlank c = false) : squeeze q false s = s := by
  have := squeeze_append_gap h
  rw [gapAfter_of_last hlast] at this
  simpa using this

/-! ## Squeezing around blanks -/

theorem squeeze_blanks {s : List Char} (h : Blanks s) (gap : Bool) (t : List Char) :
    squeeze none gap (s ++ t) = squeeze none (gap || !s.isEmpty) t := by
  induction s generalizing gap with
  | nil => simp
  | cons c s ih =>
    obtain ⟨hc, hs⟩ := h.of_cons
    have hquoted := (unquoted_of_rule_eq_none (literalQuotes_proper.blank c hc)).1
    rw [List.cons_append, squeeze, if_pos ⟨hquoted, hc⟩, ih hs]
    simp

/-- The space that a squeeze puts before a character that is not a blank. -/
def spaceIf (gap : Bool) : List Char := if gap then [' '] else []

theorem blanks_spaceIf (gap : Bool) : Blanks (spaceIf gap) := by
  cases gap
  · exact Blanks.nil
  · exact Blanks.space

theorem squeeze_delimiter {d : Char} (h : Delimits d) (gap : Bool) (t : List Char) :
    squeeze none gap (d :: t) = spaceIf gap ++ d :: squeeze none false t := by
  obtain ⟨hquoted, hcloser⟩ := unquoted_of_rule_eq_none h.rule
  have hblank : isBlank d = false := by rcases h with rfl | rfl | rfl <;> rfl
  rw [squeeze, if_neg (by simp [hblank]), hcloser]
  cases gap <;> rfl

/-- Blanks before a tight text that does not end in one come to one space. -/
theorem squeeze_gap_of_tight {s : List Char} (h : Tight none false s) (hs : Trimmed s)
    (gap : Bool) : squeeze none gap s = spaceIf (gap && !s.isEmpty) ++ s := by
  cases gap with
  | false => exact squeeze_of_tight h hs.last
  | true =>
    cases s with
    | nil => rfl
    | cons c r =>
      have hsqueeze := squeeze_of_tight h hs.last
      have hblank := hs.head c rfl
      rw [squeeze, if_neg (by simp [hblank])] at hsqueeze ⊢
      exact congrArg (' ' :: ·) hsqueeze

theorem tight_collapse (s : List Char) : Tight none false (collapse s) :=
  tight_squeeze (fun h => by cases h) _

/-- A squeeze keeps the first character of a text and its last, if they are no blanks. -/
theorem trimmed_squeeze {s : List Char} (h : Trimmed s) : Trimmed (squeeze none false s) := by
  constructor
  · intro x hx
    cases s with
    | nil => cases hx
    | cons c r =>
      have hc := h.head c rfl
      rw [squeeze, if_neg (by simp [hc])] at hx
      obtain rfl : c = x := by simpa using hx
      exact hc
  · intro x hx
    rcases List.eq_nil_or_concat s with rfl | ⟨r, c, rfl⟩
    · cases hx
    · rw [List.concat_eq_append] at h hx
      have hc := h.last c (by simp)
      rw [squeeze_append, squeeze, if_neg (by simp [hc])] at hx
      obtain rfl : c = x := by
        split at hx <;> simpa [squeeze] using hx
      exact hc

theorem trimmed_collapse (s : List Char) : Trimmed (collapse s) := trimmed_squeeze (trimmed_trim s)

/-- A collapsed text stays as it is when it is collapsed again. -/
theorem collapse_of_tight {s : List Char} (h : Tight none false s) (hs : Trimmed s) :
    collapse s = s := by
  rw [collapse, hs.trim_eq, squeeze_of_tight h hs.last]

theorem trimmed_append_iff {a b : List Char} (ha : a ≠ []) (hb : b ≠ []) (m : List Char) :
    Trimmed (a ++ (m ++ b)) ↔
      (∀ c, a.head? = some c → isBlank c = false) ∧
        ∀ c, b.getLast? = some c → isBlank c = false := by
  have hhead : (a ++ (m ++ b)).head? = a.head? := by
    rw [List.head?_append, List.head?_eq_some_head ha]
    rfl
  have hlast : (a ++ (m ++ b)).getLast? = b.getLast? := by
    rw [List.getLast?_append, List.getLast?_append, List.getLast?_eq_some_getLast hb]
    rfl
  constructor
  · rintro ⟨h₁, h₂⟩
    rw [hhead] at h₁
    rw [hlast] at h₂
    exact ⟨h₁, h₂⟩
  · rintro ⟨h₁, h₂⟩
    exact ⟨hhead ▸ h₁, hlast ▸ h₂⟩

/-! ## A statement that was broken in two -/

/-- Collapsing what was broken in two puts it together again. -/
theorem collapse_breakBefore {s : List Char} (h : Tight none false s) (hs : Trimmed s)
    (marker : List Char) : collapse (breakBefore (' ' :: marker) none s) = s := by
  rcases breakBefore_cases marker none s with
    hbreak | ⟨a, b, rfl, hcloser, -, hbreak⟩
  · rw [hbreak, collapse_of_tight h hs]
  · have ha : a ≠ [] := by
      rintro rfl
      cases hs.head ' ' rfl
    have hb : b ≠ [] := by
      rintro rfl
      cases hs.last ' ' (by simp)
    have hends := (trimmed_append_iff ha hb [' ']).1 hs
    have hbreakTrimmed := (trimmed_append_iff ha hb ('\n' :: indent)).2 hends
    calc collapse (breakBefore (' ' :: marker) none (a ++ ' ' :: b))
        = squeeze none false (a ++ ('\n' :: indent ++ b)) := by
          rw [hbreak, collapse]
          exact congrArg (squeeze none false) hbreakTrimmed.trim_eq
      _ = squeeze none false (a ++ ([' '] ++ b)) := by
          rw [squeeze_append, squeeze_append none false a, hcloser,
            squeeze_blanks blanks_newline_indent, squeeze_blanks Blanks.space]
          rfl
      _ = a ++ ' ' :: b := squeeze_of_tight h hs.last

/-! ## Definitions -/

theorem tight_delimiter {d : Char} (h : Delimits d) (gap : Bool) (t : List Char) :
    Tight none gap (d :: t) ↔ Tight none false t := by
  have hblank : isBlank d = false := by rcases h with rfl | rfl | rfl <;> rfl
  rw [Tight, if_neg (by simp [hblank]), (unquoted_of_rule_eq_none h.rule).2]

/-- The pieces of a tight text are tight. -/
theorem tight_of_mem_commaJoin : ∀ {ps : List (List Char)} {gap : Bool},
    (∀ p ∈ ps, Level literalQuotes p) → Tight none gap (commaJoin ps) →
      ∀ p ∈ ps, Tight none false p
  | [], _, _, _ => by simp
  | [p], _, _, h => by
    intro x hx
    obtain rfl : x = p := by simpa using hx
    exact h.gap_false
  | p :: q :: ps, _, hlevel, h => by
    rw [commaJoin, tight_append, (hlevel p (by simp)).closer,
      tight_delimiter (by simp [Delimits])] at h
    · intro x hx
      rcases List.mem_cons.1 hx with rfl | hx
      · exact h.1.gap_false
      · exact tight_of_mem_commaJoin (fun y hy => hlevel y (List.mem_cons_of_mem p hy)) h.2 x hx
    · simp

theorem tight_trim {p : List Char} (h : Tight none false p) : Tight none false (trim p) := by
  obtain ⟨pre, post, hpre, -, hp⟩ := exists_trim p
  rw [hp, tight_append, closerAfterAll_blanks literalQuotes_proper hpre, tight_append] at h
  exact h.2.1.gap_false

/-- A definition that a layout writes on a line of its own, and that it finds there again. -/
structure Settled (d : List Char) : Prop where
  trimmed : Trimmed d
  tight : Tight none false d
  level : Level literalQuotes d
  single : splitTopLevel literalQuotes d = [d]

theorem settled_trim {s p : List Char} (hlevel : Level literalQuotes s)
    (htight : Tight none false s) (hp : p ∈ splitTopLevel literalQuotes s) :
    Settled (trim p) := by
  have hpieces := fun x => level_of_mem_splitTopLevel literalQuotes_proper (p := x) hlevel
  rw [← commaJoin_splitTopLevel literalQuotes s] at htight
  have hpTight := tight_of_mem_commaJoin (fun x hx => (hpieces x hx).1) htight p hp
  exact ⟨trimmed_trim p, tight_trim hpTight, (hpieces p hp).1.trim literalQuotes_proper,
    splitTopLevel_trim literalQuotes_proper (hpieces p hp).2⟩

/-- With blanks around it a definition is still one piece. -/
theorem Settled.surround {d pre post : List Char} (h : Settled d) (hpre : Blanks pre)
    (hpost : Blanks post) :
    trim (pre ++ (d ++ post)) = d ∧ Level literalQuotes (pre ++ (d ++ post)) ∧
      splitTopLevel literalQuotes (pre ++ (d ++ post)) = [pre ++ (d ++ post)] := by
  have hfront := Level.blanks literalQuotes_proper hpre
  have hback := Level.blanks literalQuotes_proper hpost
  refine ⟨?_, hfront.append (h.level.append hback), ?_⟩
  · rw [trim_surround hpre hpost, h.trimmed.trim_eq]
  · exact splitTopLevel_surround literalQuotes_proper hpre hpost h.level h.single

/-- Between a definition and the blanks around it a squeeze leaves at most a space. -/
theorem squeeze_definition {d : List Char} (h : Settled d) {front back : List Char}
    (hfront : Blanks front) (hback : Blanks back) {k : Char} (hk : Delimits k) (gap : Bool)
    (t : List Char) :
    ∃ pre post, Blanks pre ∧ Blanks post ∧
      squeeze none gap (front ++ (d ++ (back ++ k :: t))) =
        (pre ++ (d ++ post)) ++ k :: squeeze none false t := by
  refine ⟨spaceIf ((gap || !front.isEmpty) && !d.isEmpty),
    spaceIf (gapAfter none (gap || !front.isEmpty) d || !back.isEmpty), blanks_spaceIf _,
    blanks_spaceIf _, ?_⟩
  rw [squeeze_blanks hfront, squeeze_append, squeeze_gap_of_tight h.tight h.trimmed,
    h.level.closer, squeeze_blanks hback, squeeze_delimiter hk]
  simp only [List.append_assoc]

/-- Lines come out of a squeeze as pieces between commas, each the definition of its line with at
most a space on either side. -/
theorem squeeze_lines : ∀ {ds : List (List Char)}, ds ≠ [] → (∀ d ∈ ds, Settled d) →
    ∀ (gap : Bool) (t : List Char), ∃ ps : List (List Char), ps ≠ [] ∧
      squeeze none gap (lines ds ++ '\n' :: ')' :: t) =
        commaJoin ps ++ ')' :: squeeze none false t ∧
      ps.map trim = ds ∧
      ∀ p ∈ ps, Level literalQuotes p ∧ splitTopLevel literalQuotes p = [p]
  | [], hne, _, _, _ => absurd rfl hne
  | [d], _, hds, gap, t => by
    have hd := hds d (by simp)
    obtain ⟨pre, post, hpre, hpost, hsqueeze⟩ := squeeze_definition hd blanks_indent
      Blanks.newline (k := ')') (by simp [Delimits]) gap t
    obtain ⟨htrim, hpiece⟩ := hd.surround hpre hpost
    refine ⟨[pre ++ (d ++ post)], by simp, ?_, ?_, fun p hp => ?_⟩
    · rw [lines, commaJoin, ← hsqueeze]
      simp
    · rw [List.map_singleton, htrim]
    · obtain rfl : p = pre ++ (d ++ post) := by simpa using hp
      exact hpiece
  | d :: e :: ds, _, hds, gap, t => by
    have hd := hds d (by simp)
    obtain ⟨ps, hps, hrest, htrim, hpieces⟩ := squeeze_lines (List.cons_ne_nil e ds)
      (fun x hx => hds x (List.mem_cons_of_mem d hx)) true t
    obtain ⟨pre, post, hpre, hpost, hsqueeze⟩ := squeeze_definition hd blanks_indent Blanks.nil
      (k := ',') (by simp [Delimits]) gap (['\n'] ++ (lines (e :: ds) ++ '\n' :: ')' :: t))
    obtain ⟨htrimHead, hpiece⟩ := hd.surround hpre hpost
    refine ⟨(pre ++ (d ++ post)) :: ps, by simp, ?_, ?_, fun p hp => ?_⟩
    · obtain ⟨p, ps, rfl⟩ := List.exists_cons_of_ne_nil hps
      rw [squeeze_blanks Blanks.newline, Bool.false_or] at hsqueeze
      have hlines : lines (d :: e :: ds) ++ '\n' :: ')' :: t =
          indent ++ (d ++ ([] ++ ',' :: (['\n'] ++ (lines (e :: ds) ++ '\n' :: ')' :: t)))) := by
        simp [lines]
      rw [hlines, hsqueeze, commaJoin, List.append_assoc _ (',' :: _)]
      · exact congrArg _ (congrArg _ hrest)
      · simp
    · rw [List.map_cons, htrimHead, htrim]
    · rcases List.mem_cons.1 hp with rfl | hp
      · exact hpiece
      · exact hpieces p hp

/-! ## What stands after the definitions -/

theorem tail_cases (s : List Char) :
    tail s = trimStart s ∨ (trimStart s ≠ [] ∧ tail s = ' ' :: trimStart s) := by
  unfold tail
  split
  · rename_i h
    exact .inl h.symm
  · rename_i h
    exact .inl h.symm
  · rename_i h _
    exact .inr ⟨h, rfl⟩

theorem tail_tail (s : List Char) : tail (tail s) = tail s := by
  have htrim : trimStart (tail s) = trimStart s := by
    have hself : trimStart (trimStart s) = trimStart s :=
      trimStart_eq_self fun c hc => head_trimStart hc
    rcases tail_cases s with h | ⟨-, h⟩
    · rw [h, hself]
    · rw [h]
      exact (trimStart_append Blanks.space _).trans hself
  rw [tail, htrim]
  rfl

theorem last_tail {s : List Char} {c : Char} (h : (tail s).getLast? = some c) :
    s.getLast? = some c := by
  rcases tail_cases s with hs | ⟨hne, hs⟩
  · rw [hs] at h
    exact last_trimStart h
  · obtain ⟨x, r, hr⟩ := List.exists_cons_of_ne_nil hne
    rw [hs, hr, List.getLast?_cons_cons, ← hr] at h
    exact last_trimStart h

theorem tight_tail {s : List Char} (h : Tight none false s) : Tight none false (tail s) := by
  obtain ⟨pre, hpre, hs⟩ := exists_trimStart s
  rw [hs, tight_append, closerAfterAll_blanks literalQuotes_proper hpre] at h
  rcases tail_cases s with htail | ⟨hne, htail⟩
  · rw [htail]
    exact h.2.gap_false
  · -- What is left of the text begins with no blank, so a space may stand before it.
    obtain ⟨c, r, hr⟩ := List.exists_cons_of_ne_nil hne
    have hc : isBlank c = false := head_trimStart (s := s) (by rw [hr]; rfl)
    have hrest := h.2.gap_false
    rw [hr, Tight, if_neg (by simp [hc])] at hrest
    rw [htail, hr, Tight, if_pos ⟨rfl, rfl⟩, Tight, if_neg (by simp [hc])]
    exact ⟨rfl, rfl, hrest⟩

/-! ## CREATE TABLE statements -/

/-- Collapsing the lines of a statement puts its definitions behind one another again. -/
theorem collapse_createLines {head rest : List Char} {ds : List (List Char)}
    (hhead : Heading head) (htight : Tight none false head)
    (hfirst : ∀ c, head.head? = some c → isBlank c = false) (hne : ds ≠ [])
    (hds : ∀ d ∈ ds, Settled d) (hrest : Tight none false rest)
    (hlast : ∀ c, rest.getLast? = some c → isBlank c = false) :
    ∃ ps : List (List Char), ps ≠ [] ∧
      collapse (createLines head ds rest) =
        head ++ ([' '] ++ '(' :: (commaJoin ps ++ ')' :: rest)) ∧
      ps.map trim = ds ∧
      ∀ p ∈ ps, Level literalQuotes p ∧ splitTopLevel literalQuotes p = [p] := by
  obtain ⟨ps, hps, hlines, htrim, hpieces⟩ := squeeze_lines hne hds true rest
  refine ⟨ps, hps, ?_, htrim, hpieces⟩
  have htrimmed : Trimmed (createLines head ds rest) := by
    have hclose : ∀ c, (')' :: rest).getLast? = some c → isBlank c = false := by
      intro c hc
      cases rest with
      | nil =>
        obtain rfl : ')' = c := by simpa using hc
        rfl
      | cons x r => exact hlast c (by simpa using hc)
    have := (trimmed_append_iff hhead.ne_nil (b := ')' :: rest) (by simp)
      (' ' :: '(' :: '\n' :: (lines ds ++ ['\n']))).2 ⟨hfirst, hclose⟩
    simpa [createLines] using this
  calc collapse (createLines head ds rest)
      = squeeze none false (head ++ ([' '] ++ '(' :: (['\n'] ++
          (lines ds ++ '\n' :: ')' :: rest)))) := by
        rw [collapse, htrimmed.trim_eq]
        rfl
    _ = head ++ (' ' :: '(' :: squeeze none true (lines ds ++ '\n' :: ')' :: rest)) := by
        rw [squeeze_append, squeeze_of_tight htight hhead.last, hhead.closer,
          gapAfter_of_last hhead.last, squeeze_blanks Blanks.space, squeeze_delimiter (.inl rfl),
          squeeze_blanks Blanks.newline]
        rfl
    _ = head ++ ([' '] ++ '(' :: (commaJoin ps ++ ')' :: rest)) := by
        rw [hlines, squeeze_of_tight hrest hlast]
        rfl

/-- **A CREATE TABLE statement that was laid out is laid out the same again.** -/
theorem layoutCollapsed_collapse_layoutCreate {s out : List Char} (hs : Trimmed s)
    (htight : Tight none false s) (hcreate : startsIgnoringCase "create ".toList s = true)
    (h : layoutCreate? s = some out) : layoutCollapsed (collapse out) = out := by
  obtain ⟨head, post, inside, after, rfl, hhead, hpost, hinside, rfl⟩ :=
    layoutCreate?_eq_some_iff.1 h
  have hends := (trimmed_append_iff hhead.ne_nil (b := '(' :: (inside ++ ')' :: after)) (by simp)
    post).1 hs
  have hafterLast : ∀ c, after.getLast? = some c → isBlank c = false := by
    intro c hc
    refine hends.2 c ?_
    rw [List.getLast?_cons, List.getLast?_append, List.getLast?_cons, hc]
    rfl
  -- Every part of the text is tight, as a scan meets each of them outside quotes.
  rw [tight_append, hhead.closer, tight_append, closerAfterAll_blanks literalQuotes_proper hpost,
    tight_delimiter (.inl rfl), tight_append, hinside.closer,
    tight_delimiter (.inr (.inl rfl))] at htight
  obtain ⟨hheadTight, -, hinsideTight, hafterTight⟩ := htight
  have hne : (splitTopLevel literalQuotes inside).map trim ≠ [] := by
    rw [Ne, List.map_eq_nil_iff]
    exact splitFrom_ne_nil literalQuotes none 0 inside
  have hsettled : ∀ d ∈ (splitTopLevel literalQuotes inside).map trim, Settled d := by
    intro d hd
    obtain ⟨p, hp, rfl⟩ := List.mem_map.1 hd
    exact settled_trim hinside hinsideTight hp
  obtain ⟨ps, hps, hcollapse, htrim, hpieces⟩ := collapse_createLines hhead hheadTight hends.1 hne
    hsettled (tight_tail hafterTight) fun c hc => hafterLast c (last_tail hc)
  have hagain : layoutCreate? (collapse (createLines head
      ((splitTopLevel literalQuotes inside).map trim) (tail after))) =
        some (createLines head ((splitTopLevel literalQuotes inside).map trim) (tail after)) := by
    refine layoutCreate?_eq_some_iff.2 ⟨head, [' '], commaJoin ps, tail after, hcollapse, hhead,
      Blanks.space, ?_, ?_⟩
    · exact level_commaJoin literalQuotes_proper fun p hp => (hpieces p hp).1
    · rw [splitTopLevel_commaJoin literalQuotes_proper hps hpieces, htrim, tail_tail]
  have hstart : startsIgnoringCase "create ".toList (collapse (createLines head
      ((splitTopLevel literalQuotes inside).map trim) (tail after))) = true := by
    rw [hcollapse]
    exact hhead.starts hcreate _
  rw [layoutCollapsed, if_pos hstart, hagain]
  rfl

/-! ## Any statement -/

/-- **A layout leaves alone what has been laid out.** -/
theorem layout_layout (sql : String) : layout (layout sql) = layout sql := by
  have htight := tight_collapse sql.toList
  have htrimmed := trimmed_collapse sql.toList
  generalize hs : collapse sql.toList = s at htight htrimmed
  have hstays : collapse s = s := collapse_of_tight htight htrimmed
  have hmain : layoutCollapsed (collapse (layoutCollapsed s)) = layoutCollapsed s := by
    by_cases hcreate : startsIgnoringCase "create ".toList s = true
    · have hout : layoutCollapsed s = (layoutCreate? s).getD s := by
        rw [layoutCollapsed, if_pos hcreate]
      cases h : layoutCreate? s with
      | none =>
        rw [h, Option.getD_none] at hout
        rw [hout, hstays, hout]
      | some out =>
        rw [h, Option.getD_some] at hout
        rw [hout]
        exact layoutCollapsed_collapse_layoutCreate htrimmed htight hcreate h
    · -- The other statements are collapsed to what they were before their clause moved down.
      have hback : collapse (layoutCollapsed s) = s := by
        rw [layoutCollapsed, if_neg hcreate]
        split
        · exact collapse_breakBefore htight htrimmed _
        · split
          · exact collapse_breakBefore htight htrimmed _
          · exact hstays
      rw [hback]
  rw [layout, layout, String.toList_ofList, hs, hmain]

end PolySql.Layout
