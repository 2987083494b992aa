import PolySql.Proofs.Page.Accepted
import PolySql.Proofs.Page.Direct
import PolySql.Proofs.Page.Keyword

/-!
# The text of a query stays as it is

A caller asks for a page of a query or for its first rows. Two queries that are asked for in the
same way come out alike but for their own text.

* `Request`, `Request.run` — what a caller asks for, and the query that does it.
* `Takes` — the text of a query that goes into a template, and whether a `distinct` was moved.
* `run_eq_ok_iff` — a request is granted exactly if nothing on the way fails.
* `names_iff` — which requests ask for the names of the columns.

Principal result: `run_around` — any other request puts the text of the query, as it is, into a
frame that does not depend on the query.
-/

namespace PolySql

open Text Template

/-! ## Requests -/

/-- What is asked of a query. -/
inductive Request where
  /-- A page by its number, and the rows of a page. -/
  | page (number size : UInt64)
  /-- The first rows. -/
  | top (limit : UInt64)
  deriving DecidableEq, Repr

namespace Request

/-- The query that does what is asked. -/
def run (dialect : Dialect) (sql : String) : Request → Except Error String
  | .page number size => dialect.paginate number size sql
  | .top limit => dialect.topLimit limit sql

/-- The template for what is asked. -/
def template (dialect : Dialect) : Request → Except Error String
  | .page number _ => dialect.templateFor number
  | .top _ => orError (.pagingUnsupported dialect) dialect.topTemplate?

/-- How many rows are asked for. -/
def pageSize : Request → UInt64
  | .page _ size => size
  | .top limit => limit

/-- How many rows are skipped. -/
def skipRows : Request → Except Error UInt64
  | .page number size => Dialect.skipRows number size
  | .top _ => .ok 0

/-- Some rows are asked for, of a page that has a number. -/
def AsksRows : Request → Prop
  | .page number size => number ≠ 0 ∧ size ≠ 0
  | .top limit => limit ≠ 0

instance : DecidablePred AsksRows
  | .page number size => inferInstanceAs (Decidable (number ≠ 0 ∧ size ≠ 0))
  | .top limit => inferInstanceAs (Decidable (limit ≠ 0))

/-- Whether a page other than the first is asked for. -/
def isLater : Request → Bool
  | .page number _ => number != 1
  | .top _ => false

variable {dialect : Dialect} {sql result : String}

/-- **A request is granted exactly if nothing on the way to it fails.** -/
theorem run_eq_ok_iff {request : Request} :
    request.run dialect sql = .ok result ↔ ∃ body template values,
      afterSelect sql = .ok body ∧ request.AsksRows ∧ request.template dialect = .ok template ∧
        request.skipRows = .ok values.skipRows ∧ Describes template body values ∧
          values.pageSize = request.pageSize ∧ result = Template.fill template values := by
  cases request with
  | page number size => exact Dialect.paginate_eq_ok_iff
  | top limit =>
    have hskip : ∀ skip : UInt64, (Except.ok 0 : Except Error UInt64) = .ok skip ↔ skip = 0 :=
      fun skip => by rw [Except.ok.injEq, eq_comm]
    simp only [run, AsksRows, template, skipRows, pageSize, orError_eq_ok_iff, hskip]
    exact Dialect.topLimit_eq_ok_iff

end Request

/-! ## The text that is put in -/

/-- The text of a query that goes into a template: what stands behind its `select`, less a leading
`distinct` where the template has a place for that. -/
def Takes (template sql : String) (text : List Char) (moved : Bool) : Prop :=
  ∃ body, Selects sql body ∧
    if moved then contains template "($DISTINCT)" = true ∧ Leads "distinct".toList body text
    else text = body ∧
      ¬(contains template "($DISTINCT)" = true ∧ ∃ rest, Leads "distinct".toList body rest)

theorem splitDistinct_eq_iff {body text : List Char} {moved : Bool} :
    splitDistinct body = (text, moved) ↔
      if moved then Leads "distinct".toList body text
      else text = body ∧ ¬∃ rest, Leads "distinct".toList body rest := by
  simp only [← afterKeyword?_eq_some_iff]
  unfold splitDistinct
  cases afterKeyword? "distinct".toList body <;> cases moved <;> simp [eq_comm]

/-- A `distinct` is looked for only where there is a place for it. -/
theorem taken_iff (hasPlace : Bool) {body text : List Char} {moved : Bool} :
    (text, moved) = (if hasPlace then splitDistinct body else (body, false)) ↔
      if moved then hasPlace = true ∧ Leads "distinct".toList body text
      else text = body ∧ ¬(hasPlace = true ∧ ∃ rest, Leads "distinct".toList body rest) := by
  cases hasPlace with
  | true =>
    rw [if_pos rfl, eq_comm, splitDistinct_eq_iff]
    simp only [true_and]
  | false =>
    rw [if_neg Bool.false_ne_true]
    generalize Leads "distinct".toList body = leads
    cases moved <;> simp

/-- Where no names are asked for, the values describe a query exactly if they hold its text. -/
theorem describes_iff_takes {template sql : String}
    (hnames : contains template "$FIELDS_OR_ALIAS" = false) {values : PageValues} :
    (∃ body, afterSelect sql = .ok body ∧ Describes template body values) ↔
      Takes template sql values.body.toList values.distinct ∧ values.fields = "" := by
  unfold Takes
  simp only [← taken_iff, ← afterSelect_eq_ok_iff]
  constructor
  · rintro ⟨body, hbody, hquery, hfields⟩
    rw [hnames] at hfields
    exact ⟨⟨body, hbody, hquery⟩, hfields⟩
  · rintro ⟨⟨body, hbody, hquery⟩, hfields⟩
    refine ⟨body, hbody, hquery, ?_⟩
    rw [hnames]
    exact hfields

/-! ## What does not depend on the query -/

namespace Request

variable {dialect : Dialect} {template : String} {request : Request}

/-- The template of a request is filled in one pass, but for that of a later page of the dialects
that number the rows. -/
theorem direct_of_template (h : request.template dialect = .ok template) :
    if (dialect = .sqlServer2005 ∨ dialect = .sqlServer2008) ∧ request.isLater = true then
      template = rowNumber
    else Direct template := by
  cases request with
  | page number size =>
    have hdirect := direct_of_templateFor h
    simpa only [isLater, bne_iff_ne] using hdirect
  | top limit =>
    rw [if_neg fun hlater => Bool.false_ne_true hlater.2]
    exact direct_of_topTemplate? (orError_eq_ok_iff.1 h)

/-- **Which requests ask for the names of the columns.** -/
theorem names_iff (h : request.template dialect = .ok template) :
    contains template "$FIELDS_OR_ALIAS" = true ↔
      (dialect = .sqlServer2005 ∨ dialect = .sqlServer2008) ∧ request.isLater = true := by
  have hdirect := direct_of_template h
  split at hdirect
  · rename_i hnumbered
    subst hdirect
    exact iff_of_true Dialect.contains_rowNumber.2 hnumbered
  · rename_i hnumbered
    exact iff_of_false (by rw [hdirect.names]; decide) hnumbered

/-- **The text of a query stays as it is, and what stands around it does not depend on it.** Only
the later pages of two dialects ask for the names of the columns. Any other request is granted for
each query that begins with `select`, if its rows can be counted; the result is the text of the
query in a frame. The frame is that of the template filled in a single pass, and no placeholder is
left in it. -/
theorem run_around (h : request.template dialect = .ok template) :
    (contains template "$FIELDS_OR_ALIAS" = true ↔
      (dialect = .sqlServer2005 ∨ dialect = .sqlServer2008) ∧ request.isLater = true) ∧
    (contains template "$FIELDS_OR_ALIAS" = false → ∃ frame : Bool → Frame,
      (∀ moved, (frame moved).Complete) ∧
      (∀ skip moved, request.skipRows = .ok skip →
        fillOnce template ⟨"$BODY", moved, "", request.pageSize, skip⟩ =
          (frame moved).around "$BODY") ∧
      ∀ sql result, request.run dialect sql = .ok result ↔
        (request.AsksRows ∧ ∃ skip, request.skipRows = .ok skip) ∧
          ∃ text moved, Takes template sql text moved ∧
            result = (frame moved).around (String.ofList text)) := by
  refine ⟨names_iff h, fun hnames => ?_⟩
  have hdirect : Direct template := by
    have hdirect := direct_of_template h
    rwa [if_neg fun hlater => by rw [← names_iff h, hnames] at hlater; cases hlater] at hdirect
  obtain ⟨frame, hcomplete, hfill⟩ :=
    exists_frame hdirect request.pageSize (request.skipRows.toOption.getD 0)
  have hskip : ∀ skip, request.skipRows = .ok skip →
      skip = request.skipRows.toOption.getD 0 := by
    intro skip hskip
    rw [hskip]
    rfl
  refine ⟨frame, hcomplete, fun skip moved hcount => ?_, fun sql result => ?_⟩
  · exact (hfill ⟨"$BODY", moved, "", request.pageSize, skip⟩ rfl (hskip skip hcount)).2
  · rw [run_eq_ok_iff]
    constructor
    · rintro ⟨body, template', values, hbody, hasks, htemplate, hcount, hvalues, hsize, rfl⟩
      obtain rfl := Except.ok.inj (h.symm.trans htemplate)
      obtain ⟨htakes, -⟩ := (describes_iff_takes hnames).1 ⟨body, hbody, hvalues⟩
      refine ⟨⟨hasks, _, hcount⟩, _, _, htakes, ?_⟩
      rw [String.ofList_toList]
      exact (hfill values hsize (hskip _ hcount)).1
    · rintro ⟨⟨hasks, skip, hcount⟩, text, moved, htakes, rfl⟩
      obtain ⟨body, hbody, hdescribes⟩ := (@describes_iff_takes template sql hnames
        ⟨String.ofList text, moved, "", request.pageSize, skip⟩).2
          ⟨by rwa [String.toList_ofList], rfl⟩
      have hpage := (hfill ⟨String.ofList text, moved, "", request.pageSize, skip⟩ rfl
        (hskip skip hcount)).1
      exact ⟨body, template, _, hbody, hasks, h, hcount, hdescribes, rfl, hpage.symm⟩

theorem run_around_distinct :
    Request.template .sqlServer (.top 5) = .ok topDistinct ∧
      contains topDistinct "$FIELDS_OR_ALIAS" = false ∧
      run .sqlServer "select distinct a as '$BODY' from t" (.top 5) =
        .ok "select distinct top 5 a as '$BODY' from t" ∧
      ∃ frame : Bool → Frame, (∀ moved, (frame moved).Complete) ∧
        ∀ sql result, run .sqlServer sql (.top 5) = .ok result →
          ∃ text moved, Takes topDistinct sql text moved ∧
            result = (frame moved).around (String.ofList text) := by
  have htemplate : Request.template .sqlServer (.top 5) = .ok topDistinct := rfl
  have htop : Dialect.topTemplate? .sqlServer = some topDistinct := rfl
  have hnames := (direct_of_topTemplate? htop).names
  obtain ⟨frame, hcomplete, -, hrun⟩ := (run_around htemplate).2 hnames
  refine ⟨htemplate, hnames, ?_, frame, hcomplete, fun sql result h => ((hrun sql result).1 h).2⟩
  have hvalues : Describes topDistinct "distinct a as '$BODY' from t".toList
      ⟨"a as '$BODY' from t", true, "", 5, 0⟩ := ⟨by decide, by decide⟩
  have hresult : "select distinct top 5 a as '$BODY' from t" =
      fill topDistinct ⟨"a as '$BODY' from t", true, "", 5, 0⟩ := by
    have htext : topDistinct.toList = _ := String.toList_ofList
    rw [← String.toList_inj, toList_fill, htext, String.toList_ofList]
    rfl
  exact run_eq_ok_iff.2 ⟨_, _, _, rfl, by decide, htemplate, rfl, hvalues, rfl, hresult⟩

end Request

end PolySql
