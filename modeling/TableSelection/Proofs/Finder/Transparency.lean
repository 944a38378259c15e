import TableSelection.Proofs.Finder.Lasting
import TableSelection.Proofs.Table.Rows

/-!
# A pipeline that keeps all rows

The row finder of a pipeline may choose every row. Then the column finder is asked about a copy of
the table with all its rows, which is the table itself, and the pipeline answers as its column
finder alone would, if that had been trained on the first table that was asked about:

    data.columns ≠ []  →  (RowSelector.plain .all).Keeps data data              (keeps_all)
    replies of (pipeline rows columns .ready) = replies of columns              (replies_ready)
    replies of (pipeline rows columns .columnPending)
      = replies of columns, trained on the first table                          (replies_pending)

where `rows` keeps the tables of all queries as they are.
-/

namespace TableSelection

variable {α : Type} [CustomFinder α] {data : Table}

/-- The finder of all rows keeps a table as it is. -/
theorem RowSelector.keeps_all (h : data.columns ≠ []) :
    (RowSelector.plain .all : RowSelector α).Keeps data data :=
  ⟨List.range data.rowCount, rfl, Table.selectRows_range h⟩

namespace Pipeline

variable {rows : RowSelector α} {columns : ColumnSelector α} {queries : List Table}

/-- By induction on the queries: the pipeline and its column finder go through the same changes. -/
theorem replies_ready (hkeeps : ∀ data ∈ queries, rows.Keeps data data) :
    (Finder.column (.pipeline rows columns .ready)).replies (queries.map .find) =
      (Finder.columnSelector columns).replies (queries.map .find) := by
  induction queries generalizing columns with
  | nil => rfl
  | cons data queries ih =>
    obtain ⟨hdata, hqueries⟩ := List.forall_mem_cons.1 hkeeps
    have hsubset := RowSelector.value_subset_eq_ok_iff.2 hdata
    have hfind : (ColumnFinder.pipeline rows columns .ready).find data = _ :=
      ColumnFinder.find_ready hsubset
    rw [List.map_cons, Finder.replies, Finder.replies, Finder.respond, Finder.respond, Finder.find,
      Finder.find, hfind]
    exact congrArg _ (ih hqueries)

/-- The first query trains the column finder, and then all are passed on to it. -/
theorem replies_pending (hkeeps : ∀ other ∈ data :: queries, rows.Keeps other other)
    (ht : (columns.train data).value.1 = .ok ()) :
    (Finder.column (.pipeline rows columns .columnPending)).replies ((data :: queries).map .find) =
      (Finder.columnSelector (columns.train data).value.2).replies
        ((data :: queries).map .find) := by
  obtain ⟨hdata, hqueries⟩ := List.forall_mem_cons.1 hkeeps
  have hsubset := RowSelector.value_subset_eq_ok_iff.2 hdata
  have hfind := ColumnFinder.find_pending_of_ok hsubset ht
  rw [List.map_cons, Finder.replies, Finder.replies, Finder.respond, Finder.respond, Finder.find,
    Finder.find, hfind]
  exact congrArg _ (replies_ready hqueries)

end Pipeline

namespace Finder

/-! ## Top theorem -/

/-- **A pipeline that keeps all rows is transparent.** After it was trained, on whatever table, it
answers every query as its column finder does that is trained on the table of the first query, and
changes as that does. If the column finder cannot be trained on that table, the reason is the answer
to all queries. -/
theorem pipeline_transparent (s : ColumnSelector α) (first next : Table) (rest : List Table)
    (hcolumns : ∀ data ∈ next :: rest, data.columns ≠ []) :
    let p : Finder α := column (.pipeline (.plain .all) s .untrained)
    let trained := (columnSelector s).train next
    let queries := (next :: rest).map Request.find
    (p.train first).1 = .ok () ∧
      (∀ e, trained.1 = .error e → (p.train first).2.replies queries =
        (next :: rest).map fun _ => .found (.error (.columnTrainingFailed e.message))) ∧
      (trained.1 = .ok () → (p.train first).2.replies queries = trained.2.replies queries) := by
  intro p trained queries
  have hkeeps : ∀ data ∈ next :: rest, (RowSelector.plain .all : RowSelector α).Keeps data data :=
    fun data hdata => RowSelector.keeps_all (hcolumns data hdata)
  have htrain : p.train first = (.ok (), column (.pipeline (.plain .all) s .columnPending)) := rfl
  rw [htrain]
  refine ⟨rfl, fun e he => ?_, fun ht => ?_⟩
  · exact Pipeline.replies_of_failing (p := ⟨.plain .all, s, .columnPending⟩) rfl
      (hkeeps next List.mem_cons_self) he rest
  · exact Pipeline.replies_pending hkeeps ht

/-- A column finder that can be trained, a pipeline itself, and one that cannot. -/
theorem pipeline_transparent_nested :
    let varying : ColumnSelector Empty :=
      .trainable (.variance { candidates := Range.single (.placeholder .third) } none)
    let nested : ColumnSelector Empty := .trainable (.pipeline (.plain .all) varying .untrained)
    let around (s : ColumnSelector Empty) : Finder Empty :=
      column (.pipeline (.plain .all) s .untrained)
    ∃ data, Table.ofColumns [⟨"x", .integer true 64, [some 1, some 3]⟩] = .ok data ∧
      (∀ other ∈ [data, data], other.columns ≠ []) ∧
      ((columnSelector nested).train data).1 = .ok () ∧
      ((around nested).train (.withoutColumns 2)).2.replies ([data, data].map .find) =
        ((columnSelector nested).train data).2.replies ([data, data].map .find) ∧
      ((columnSelector varying).train data).1 = .error (.range (.outOfBounds "third" 1)) ∧
      ((around varying).train (.withoutColumns 2)).2.replies ([data, data].map .find) =
        [data, data].map fun _ => .found (.error (.columnTrainingFailed
          "Range error: 'third' is out of bounds for 1 entries")) := by
  intro varying nested around
  obtain ⟨data, hdata⟩ : ∃ data,
      Table.ofColumns [⟨"x", .integer true 64, [some 1, some 3]⟩] = .ok data := ⟨_, rfl⟩
  have hcolumns : ∀ other ∈ [data, data], other.columns ≠ [] := by cases hdata; simp
  have hnested : ((columnSelector nested).train data).1 = .ok () := rfl
  have hvarying : ((columnSelector varying).train data).1 =
      .error (.range (.outOfBounds "third" 1)) := by cases hdata; rfl
  obtain ⟨-, -, hanswers⟩ := pipeline_transparent nested (.withoutColumns 2) data [data] hcolumns
  obtain ⟨-, hfails, -⟩ := pipeline_transparent varying (.withoutColumns 2) data [data] hcolumns
  exact ⟨data, hdata, hcolumns, hnested, hanswers hnested, hvarying, hfails _ hvarying⟩

end Finder

end TableSelection
