import PolySql.Page
import PolySql.Proofs.Text.Trim

/-!
# What stands behind a keyword

* `Leads` — a text is a keyword, blanks, and a rest.
* `Selects` — a query is `select` and a body, with blanks around it.
* `afterKeyword?_eq_some_iff`, `afterSelect_eq_ok_iff` — what is read behind a keyword is what stands
  there.
-/

namespace PolySql

open Text

/-- A text is a keyword in any letter case, then blanks, then the rest, which begins with no
blank. -/
def Leads (keyword text rest : List Char) : Prop :=
  ∃ word gap, text = word ++ (gap ++ rest) ∧ lower word = keyword ∧ (gap ≠ [] ∧ Blanks gap) ∧
    ∀ c, rest.head? = some c → isBlank c = false

/-- A query is `select` and a body, with blanks around it. -/
def Selects (sql : String) (body : List Char) : Prop :=
  ∃ front text back, sql.toList = front ++ (text ++ back) ∧ Blanks front ∧ Blanks back ∧
    Leads "select".toList text body ∧ body ≠ [] ∧ Trimmed body

theorem afterKeyword?_of_leads {keyword text rest : List Char} (h : Leads keyword text rest) :
    afterKeyword? keyword text = some rest := by
  obtain ⟨word, gap, rfl, rfl, ⟨hgap, hblanks⟩, hrest⟩ := h
  have hstarts : startsIgnoringCase (lower word) (word ++ (gap ++ rest)) = true := by
    rw [startsIgnoringCase_iff, lower_append]
    exact List.prefix_append _ _
  obtain ⟨c, r, rfl⟩ := List.exists_cons_of_ne_nil hgap
  obtain ⟨hc, hr⟩ := hblanks.of_cons
  unfold afterKeyword?
  rw [if_pos hstarts, lower_length, List.drop_left, List.cons_append]
  dsimp only
  rw [if_pos hc, trimStart_append hr, trimStart_eq_self hrest]

theorem leads_of_afterKeyword? {keyword text rest : List Char}
    (h : afterKeyword? keyword text = some rest) : Leads keyword text rest := by
  unfold afterKeyword? at h
  split at h
  · rename_i hstarts
    have hprefix := (startsIgnoringCase_iff keyword text).1 hstarts
    split at h
    · rename_i c r hdrop
      split at h
      · rename_i hc
        obtain rfl := Option.some.inj h
        obtain ⟨pre, hpre, hr⟩ := exists_trimStart r
        refine ⟨text.take keyword.length, c :: pre, ?_, ?_,
          ⟨List.cons_ne_nil c pre, .cons hc hpre⟩, fun _ => head_trimStart⟩
        · rw [List.cons_append, ← hr, ← hdrop, List.take_append_drop]
        · rw [lower, List.map_take]
          exact (List.prefix_iff_eq_take.1 hprefix).symm
      · cases h
    · cases h
  · cases h

/-- **What is read behind a keyword is what stands there.** -/
theorem afterKeyword?_eq_some_iff {keyword text rest : List Char} :
    afterKeyword? keyword text = some rest ↔ Leads keyword text rest :=
  ⟨leads_of_afterKeyword?, afterKeyword?_of_leads⟩

/-- A blank is no letter. -/
theorem toLower_of_isBlank {c : Char} (h : isBlank c = true) : c.toLower = c := by
  unfold Char.toLower
  split
  · rename_i hupper
    simp only [isBlank, Bool.or_eq_true, Bool.and_eq_true, decide_eq_true_eq, beq_iff_eq] at h
    simp only [ge_iff_le, UInt32.le_iff_toNat_le] at hupper
    change 65 ≤ c.toNat ∧ c.toNat ≤ 90 at hupper
    omega
  · rfl

/-- A text begins with the first letter of its keyword. -/
theorem Leads.head {text rest : List Char} (h : Leads "select".toList text rest) {c : Char}
    (hc : text.head? = some c) : isBlank c = false := by
  obtain ⟨word, gap, rfl, hword, -⟩ := h
  cases word with
  | nil => cases hword
  | cons d w =>
    obtain rfl : d = c := Option.some.inj hc
    have hd : d.toLower = 's' := (List.cons.inj hword).1
    rw [Bool.eq_false_iff]
    intro hblank
    rw [toLower_of_isBlank hblank] at hd
    rw [hd] at hblank
    cases hblank

/-- A text ends as its rest does, unless that is empty. -/
theorem Leads.getLast? {keyword text rest : List Char} (h : Leads keyword text rest)
    (hne : rest ≠ []) : text.getLast? = rest.getLast? := by
  obtain ⟨word, gap, rfl, -⟩ := h
  rw [List.getLast?_append, List.getLast?_append, List.getLast?_eq_some_getLast hne]
  rfl

/-- **The body of a query is what stands behind its `select`**, without the blanks around it. -/
theorem afterSelect_eq_ok_iff {sql : String} {body : List Char} :
    afterSelect sql = .ok body ↔ Selects sql body := by
  have hread : afterSelect sql = .ok body ↔
      Leads "select".toList (trim sql.toList) body ∧ body ≠ [] := by
    rw [afterSelect, orError_eq_ok_iff, Option.filter_eq_some_iff, afterKeyword?_eq_some_iff]
    simp
  rw [hread]
  constructor
  · rintro ⟨hleads, hne⟩
    obtain ⟨front, back, hfront, hback, hsql⟩ := exists_trim sql.toList
    refine ⟨front, _, back, hsql, hfront, hback, hleads, hne, ?_, fun c hc => ?_⟩
    · obtain ⟨_, _, _, _, _, hhead⟩ := hleads
      exact hhead
    · rw [← hleads.getLast? hne] at hc
      exact (trimmed_trim sql.toList).last c hc
  · rintro ⟨front, text, back, hsql, hfront, hback, hleads, hne, htrimmed⟩
    have htext : Trimmed text := ⟨fun _ => hleads.head, fun c hc =>
      htrimmed.last c (by rwa [← hleads.getLast? hne])⟩
    rw [hsql, trim_surround hfront hback, htext.trim_eq]
    exact ⟨hleads, hne⟩

end PolySql
