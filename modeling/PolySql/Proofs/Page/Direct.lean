import PolySql.Proofs.Page.Windows

/-!
# Templates that are filled in one pass

* `Template.Direct` — a template with one place for the query, none for the names of its columns and
  none for the number of the row behind the page.
* `direct_of_topTemplate?`, `direct_of_pageTemplate?`, `direct_of_templateFor` — the templates of the
  dialects are of this kind, but for the one that numbers the rows.
* `Template.Frame` — what a page has in front of the query and behind it.

Principal result: `exists_frame` — a direct template leaves nothing around the query but a frame,
which depends on the row counts and on whether a `distinct` was moved.
-/

namespace PolySql

open Text

namespace Template

/-! ## The templates of the dialects -/

/-- Whether a template is filled in one pass, has one place for the query, and numbers no row behind
the page. -/
def isDirect (text : List Char) : Bool :=
  let syms := cut 0 text
  neat syms && syms.count (.hole .body) == 1 && !syms.contains (.hole .totalRowsNext) &&
    !occursIn Placeholder.fields.text text

structure Direct (template : String) : Prop where
  neat : neat (cut 0 template.toList) = true
  query : (cut 0 template.toList).count (.hole .body) = 1
  last : .hole .totalRowsNext ∉ cut 0 template.toList
  names : contains template "$FIELDS_OR_ALIAS" = false

theorem direct_of_isDirect {template : String} {text : List Char} (htext : template.toList = text)
    (h : isDirect text = true) : Direct template := by
  subst htext
  simp only [isDirect, Bool.and_eq_true, Bool.not_eq_true', beq_iff_eq, List.contains_eq_mem,
    decide_eq_false_iff_not] at h
  obtain ⟨⟨⟨hneat, hquery⟩, hlast⟩, hnames⟩ := h
  have hfields : "$FIELDS_OR_ALIAS".toList = Placeholder.fields.text := String.toList_ofList
  refine ⟨hneat, hquery, hlast, ?_⟩
  rw [contains, hfields]
  exact hnames

theorem direct_of_topTemplate? {dialect : Dialect} {template : String}
    (h : dialect.topTemplate? = some template) : Direct template := by
  rcases cases_of_topTemplate? h with
    rfl | rfl | rfl | rfl | rfl | rfl | rfl | rfl | rfl
  all_goals exact direct_of_isDirect String.toList_ofList (by rfl)

theorem direct_of_pageTemplate? {dialect : Dialect} {template : String}
    (h : dialect.pageTemplate? = some template)
    (hdialect : ¬(dialect = .sqlServer2005 ∨ dialect = .sqlServer2008)) : Direct template := by
  rcases cases_of_pageTemplate? h with
    rfl | rfl | rfl | rfl | rfl | rfl | rfl | rfl | rfl | rfl | ⟨rfl, -⟩ | ⟨-, hnumbered⟩
  iterate 7
    · exact direct_of_isDirect String.toList_ofList (by rfl)
  · exact direct_of_isDirect (toList_append_ofList _ _) (by rfl)
  · exact direct_of_isDirect (toList_append_ofList _ _) (by rfl)
  · exact direct_of_isDirect (toList_append_append_ofList _ _ _) (by rfl)
  · exact direct_of_isDirect String.toList_ofList (by rfl)
  · exact absurd hnumbered hdialect

theorem direct_of_templateFor {dialect : Dialect} {page : UInt64} {template : String}
    (h : dialect.templateFor page = .ok template) :
    if (dialect = .sqlServer2005 ∨ dialect = .sqlServer2008) ∧ page ≠ 1 then template = rowNumber
    else Direct template := by
  rcases Dialect.templateFor_eq_ok_iff.1 h with ⟨hpage, htop⟩ | ⟨hother, hpaged⟩
  · rw [if_neg fun hnumbered => hnumbered.2 hpage]
    exact direct_of_topTemplate? htop
  · split
    · rename_i hnumbered
      rcases hnumbered.1 with rfl | rfl <;> exact (Option.some.inj hpaged).symm
    · rename_i hnumbered
      refine direct_of_pageTemplate? hpaged fun hdialect => hnumbered ⟨hdialect, fun hpage => ?_⟩
      rcases hdialect with rfl | rfl <;> exact hother ⟨hpage, rfl⟩

/-! ## Around the query -/

/-- The text of a symbol depends on what the symbol is filled with. -/
theorem render_congr {σ τ : Placeholder → List Char} {syms : List Symbol}
    (h : ∀ p, .hole p ∈ syms → σ p = τ p) : render σ syms = render τ syms := by
  induction syms with
  | nil => rfl
  | cons sym r ih =>
    have hr := ih fun p hp => h p (List.mem_cons_of_mem sym hp)
    cases sym with
    | char c => rw [render_char, render_char, hr]
    | hole p => rw [render_hole, render_hole, hr, h p List.mem_cons_self]

theorem ne_sigil_of_mem {syms : List Symbol} (hneat : neat syms = true) {c : Char}
    (hc : .char c ∈ syms) : c ≠ '$' := by
  induction syms with
  | nil => cases hc
  | cons sym r ih =>
    rcases List.mem_cons.1 hc with rfl | hc
    · exact ne_sigil_of_neat hneat
    · exact ih (neat_tail hneat) hc

/-- A sigil of a filled template is one of a text that was put in. -/
theorem not_mem_render {σ : Placeholder → List Char} {syms : List Symbol}
    (hchars : ∀ c, .char c ∈ syms → c ≠ '$') (hholes : ∀ p, .hole p ∈ syms → '$' ∉ σ p) :
    '$' ∉ render σ syms := by
  intro hmem
  obtain ⟨sym, hsym, hc⟩ := List.mem_flatMap.1 hmem
  cases sym with
  | char c => exact hchars c hsym (List.mem_singleton.1 hc).symm
  | hole p => exact hholes p hsym hc

end Template

/-- The values of a page without the texts of a query. -/
def PageValues.ofCounts (moved : Bool) (pageSize skipRows : UInt64) : PageValues :=
  ⟨"", moved, "", pageSize, skipRows⟩

/-- What is put in for a row count or a `distinct` does not depend on the texts of the query. -/
theorem PageValues.value_ofCounts (values : PageValues) {p : Placeholder}
    (h : p ≠ .fields ∧ p ≠ .body) :
    values.value p = (ofCounts values.distinct values.pageSize values.skipRows).value p := by
  cases p <;> first | rfl | exact absurd rfl h.1 | exact absurd rfl h.2

namespace Template

/-- What a page has in front of the query and behind it. -/
structure Frame where
  before : String
  after : String
  deriving DecidableEq, Repr

namespace Frame

def around (frame : Frame) (body : String) : String := frame.before ++ body ++ frame.after

/-- No placeholder is left in a complete frame, for each of them has a dollar. -/
def Complete (frame : Frame) : Prop := '$' ∉ frame.before.toList ∧ '$' ∉ frame.after.toList

/-- The parts of a template, with what they are filled with. -/
def ofParts (front back : List Symbol) (values : PageValues) : Frame :=
  ⟨String.ofList (render (fun p => (values.value p).toList) front),
    String.ofList (render (fun p => (values.value p).toList) back)⟩

end Frame

/-- The parts of a direct template in front of the query and behind it. -/
theorem Direct.exists_cut {template : String} (h : Direct template) : ∃ front back,
    cut 0 template.toList = front ++ .hole .body :: back ∧
      ∀ p, .hole p ∈ front ∨ .hole p ∈ back → p ≠ .fields ∧ p ≠ .body := by
  have hmem : .hole .body ∈ cut 0 template.toList :=
    List.one_le_count_iff.1 (Nat.le_of_eq h.query.symm)
  obtain ⟨front, back, hcut⟩ := List.append_of_mem hmem
  refine ⟨front, back, hcut, fun p hp => ⟨?_, ?_⟩⟩
  · rintro rfl
    have hfields : .hole .fields ∈ cut 0 template.toList := by
      rw [hcut]
      rcases hp with hp | hp <;> simp [hp]
    have htext : "$FIELDS_OR_ALIAS".toList = Placeholder.fields.text := String.toList_ofList
    have hnames := h.names
    rw [contains, htext, occursIn_of_mem_cut hfields] at hnames
    cases hnames
  · rintro rfl
    have hcount := h.query
    have hpos : 1 ≤ front.count (.hole .body) + back.count (.hole .body) := by
      rw [← List.count_append, List.one_le_count_iff]
      exact List.mem_append.2 hp
    rw [hcut, List.count_append, List.count_cons_self] at hcount
    omega

/-- Parts without query and names make a complete frame. -/
theorem Frame.complete_ofParts {syms front back : List Symbol} (hneat : neat syms = true)
    (hfront : front ⊆ syms) (hback : back ⊆ syms)
    (hholes : ∀ p, .hole p ∈ front ∨ .hole p ∈ back → p ≠ .fields ∧ p ≠ .body)
    (values : PageValues) : (ofParts front back values).Complete := by
  have hpart : ∀ part ⊆ syms, (∀ p, .hole p ∈ part → p ≠ .fields ∧ p ≠ .body) →
      '$' ∉ render (fun p => (values.value p).toList) part := by
    intro part hpart hholes
    refine not_mem_render (fun c hc => ne_sigil_of_mem hneat (hpart hc)) fun p hp => ?_
    exact (not_mem_value (hholes p hp).1 (hholes p hp).2 values).1
  unfold Complete ofParts
  rw [String.toList_ofList, String.toList_ofList]
  exact ⟨hpart front hfront fun p hp => hholes p (.inl hp),
    hpart back hback fun p hp => hholes p (.inr hp)⟩

/-- **A direct template leaves a frame around the query.** It is the frame of the template filled in
a single pass, whatever the query is, and no placeholder is left in it. -/
theorem exists_frame {template : String} (h : Direct template) (pageSize skipRows : UInt64) :
    ∃ frame : Bool → Frame, (∀ moved, (frame moved).Complete) ∧
      ∀ values : PageValues, values.pageSize = pageSize → values.skipRows = skipRows →
        fill template values = (frame values.distinct).around values.body ∧
          fillOnce template values = (frame values.distinct).around values.body := by
  obtain ⟨front, back, hcut, hholes⟩ := h.exists_cut
  have hfields : .hole .fields ∉ cut 0 template.toList := by
    rw [hcut, List.mem_append, List.mem_cons]
    rintro (hmem | hmem | hmem)
    · exact (hholes _ (.inl hmem)).1 rfl
    · cases hmem
    · exact (hholes _ (.inr hmem)).1 rfl
  have hfront : front ⊆ cut 0 template.toList := by
    rw [hcut]
    exact List.subset_append_left _ _
  have hback : back ⊆ cut 0 template.toList := by
    rw [hcut]
    exact List.subset_append_of_subset_right _ (List.subset_cons_self _ _)
  refine ⟨fun moved => Frame.ofParts front back (.ofCounts moved pageSize skipRows),
    fun moved => Frame.complete_ofParts h.neat hfront hback hholes _, ?_⟩
  intro values hsize hskip
  subst hsize hskip
  have honce : fillOnce template values = (Frame.ofParts front back
      (.ofCounts values.distinct values.pageSize values.skipRows)).around values.body := by
    have hcounts : ∀ part : List Symbol, (∀ p, .hole p ∈ part → p ≠ .fields ∧ p ≠ .body) →
        render (fun p => (values.value p).toList) part = render (fun p =>
          ((PageValues.ofCounts values.distinct values.pageSize values.skipRows).value p).toList)
            part :=
      fun part hpart => render_congr fun p hp => by rw [values.value_ofCounts (hpart p hp)]
    rw [← String.toList_inj, fillOnce, hcut, String.toList_ofList, render_append, render_hole,
      hcounts front fun p hp => hholes p (.inl hp), hcounts back fun p hp => hholes p (.inr hp)]
    simp [Frame.around, Frame.ofParts, PageValues.value]
  exact ⟨(fill_eq_fillOnce h.neat hfields values).trans honce, honce⟩

end Template

end PolySql
