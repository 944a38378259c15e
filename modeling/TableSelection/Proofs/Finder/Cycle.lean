import TableSelection.Proofs.Finder.Stages

/-!
# The training cycle of a pipeline

A successful training of a pipeline starts a cycle, which ends with the next training, reset or change
of a part. In a cycle the column finder is trained at most once: by the first query that keeps a table,
on that table. A query that keeps none leaves the pipeline as it is.

To see the calls that a pipeline makes on its two selectors, they are put into the pipeline as custom
finders that do what the selectors do (`Part`). The calls of such a pipeline are those on its selectors,
and otherwise it behaves as the pipeline itself (`actAll_watched`). What one query does is said once
(`Pipeline.Query`), and what the queries of a cycle do follows by induction on them.

    no query keeps a table                   nothing changes         (actAll_of_not_keeps)
    one keeps a table in columnPending       one column training     (actAll_of_keeps)
    the stage is not columnPending           no column training      (actAll_of_not_pending)
    the pipeline is untrained                no call at all          (actAll_of_not_isTrained)
-/

namespace TableSelection

variable {α : Type}

/-! ## Actions on a pipeline -/

/-- What is done to a pipeline: a request, or a change of one of its parts. -/
inductive Action (α : Type)
  | request (r : Request)
  | withRows (rows : RowSelector α)
  | withColumns (columns : ColumnSelector α)

def Action.find (data : Table) : Action α := .request (.find data)

def Pipeline.finder (p : Pipeline α) : ColumnFinder α := .pipeline p.rows p.columns p.stage

section

variable [CustomFinder α]

/-- The reply to an action, and the finder after it. -/
def ColumnFinder.act (f : ColumnFinder α) : Action α → Logged α (Reply × ColumnFinder α)
  | .request (.train data) => do
      let (result, f) ← f.train data
      return (.trained result, f)
  | .request (.find data) => do
      let (result, f) ← f.find data
      return (.found result, f)
  | .request .reset => do
      let f ← f.reset
      return (.done, f)
  | .withRows rows => pure (.done, f.withRows rows)
  | .withColumns columns => pure (.done, f.withColumns columns)

/-- The replies to actions taken one after the other, and the finder after them. -/
def ColumnFinder.actAll (f : ColumnFinder α) :
    List (Action α) → Logged α (List Reply × ColumnFinder α)
  | [] => pure ([], f)
  | a :: rest => do
      let (reply, f) ← f.act a
      let (replies, f) ← f.actAll rest
      return (reply :: replies, f)

/-- What a row selector keeps of some data. -/
def RowSelector.Keeps (s : RowSelector α) (data kept : Table) : Prop :=
  ∃ rows, (s.find data).value = .ok rows ∧ data.selectRows rows = .ok kept

/-! ## Watching the parts -/

/-- A selector of a pipeline, as a finder of its own. -/
inductive Part (α : Type)
  | rows (selector : RowSelector α)
  | columns (selector : ColumnSelector α)

/-- A part does what its selector does. A row selector is never asked for columns, and a column
selector never for rows. -/
instance : CustomFinder (Part α) where
  isTrained
    | .rows s => s.isTrained
    | .columns s => s.isTrained
  train
    | .rows s, data => Prod.map id .rows (s.train data).value
    | .columns s, data => Prod.map id .columns (s.train data).value
  findRows
    | .rows s, data => (s.find data).value
    | .columns _, _ => .ok []
  findColumns
    | .rows s, _ => (.ok [], .rows s)
    | .columns s, data => Prod.map id .columns (s.find data).value
  reset
    | .rows s => .rows s.reset.value
    | .columns s => .columns s.reset.value

end

/-- A row selector whose calls are seen. -/
def RowSelector.watched (s : RowSelector α) : RowSelector (Part α) :=
  .trainable (.custom (.rows s))

def ColumnSelector.watched (s : ColumnSelector α) : ColumnSelector (Part α) :=
  .trainable (.custom (.columns s))

def Pipeline.watched (p : Pipeline α) : Pipeline (Part α) :=
  ⟨p.rows.watched, p.columns.watched, p.stage⟩

def Action.watched : Action α → Action (Part α)
  | .request r => .request r
  | .withRows rows => .withRows rows.watched
  | .withColumns columns => .withColumns columns.watched

/-- The trainings of column selectors among some calls, each with its selector and its table. -/
def columnTrainings (calls : List (Call (Part α))) : List (ColumnSelector α × Table) :=
  calls.filterMap fun
    | .train (.columns s) data => some (s, data)
    | _ => none

@[simp] theorem columnTrainings_append (calls more : List (Call (Part α))) :
    columnTrainings (calls ++ more) = columnTrainings calls ++ columnTrainings more :=
  List.filterMap_append

variable [CustomFinder α] {data : Table}

namespace RowSelector

variable {s : RowSelector α}

/-- A query keeps one table at most. -/
theorem Keeps.unique {kept other : Table} (h : s.Keeps data kept) (h' : s.Keeps data other) :
    kept = other :=
  Except.ok.inj ((value_subset_eq_ok_iff.2 h).symm.trans (value_subset_eq_ok_iff.2 h'))

theorem find_watched : s.watched.find data = ⟨(s.find data).value, [.find (.rows s) data]⟩ := rfl

theorem value_subset_watched : (s.watched.subset data).value = (s.subset data).value := by
  simp only [subset, Logged.value_bind, find_watched]
  cases (s.find data).value <;> rfl

theorem calls_subset_watched : (s.watched.subset data).calls = [.find (.rows s) data] := by
  rw [calls_subset, find_watched]

end RowSelector

namespace ColumnSelector

variable {s : ColumnSelector α}

theorem train_watched : s.watched.train data =
    ⟨((s.train data).value.1, (s.train data).value.2.watched), [.train (.columns s) data]⟩ := rfl

theorem find_watched : s.watched.find data =
    ⟨((s.find data).value.1, (s.find data).value.2.watched), [.find (.columns s) data]⟩ := by
  rw [watched, find, ColumnFinder.find]
  rfl

end ColumnSelector

/-! ## One query -/

/-- The stage after the column finder was trained with some result. -/
def Stage.ofColumnTraining : Except TrainError Unit → Stage
  | .ok () => .ready
  | .error e => .columnTrainingFailed e.message

/-- What a query can do to a pipeline: its reply, the pipeline after it, and the calls it makes on the
selectors. -/
inductive Pipeline.Query (p : Pipeline α) (data : Table) :
    Except FindError (List Nat) → Pipeline α → List (Call (Part α)) → Prop
  | refused (hstage : p.stage.isTrained = false) : Query p data (.error p.stage.refusal) p []
  | missed {e : FindError} (hstage : p.stage.isTrained = true)
      (hs : (p.rows.subset data).value = .error e) :
      Query p data (.error e) p [.find (.rows p.rows) data]
  | failed {kept : Table} {e : TrainError} (hstage : p.stage = .columnPending)
      (hkeeps : p.rows.Keeps data kept) (ht : (p.columns.train kept).value.1 = .error e) :
      Query p data (.error (.columnTrainingFailed e.message))
        ⟨p.rows, (p.columns.train kept).value.2, .columnTrainingFailed e.message⟩
        [.find (.rows p.rows) data, .train (.columns p.columns) kept]
  | trained {kept : Table} {columns : ColumnSelector α} (hstage : p.stage = .columnPending)
      (hkeeps : p.rows.Keeps data kept) (ht : (p.columns.train kept).value = (.ok (), columns)) :
      Query p data (columns.find kept).value.1 ⟨p.rows, (columns.find kept).value.2, .ready⟩
        [.find (.rows p.rows) data, .train (.columns p.columns) kept, .find (.columns columns) kept]
  | answered {kept : Table} (hstage : p.stage = .ready) (hkeeps : p.rows.Keeps data kept) :
      Query p data (p.columns.find kept).value.1 ⟨p.rows, (p.columns.find kept).value.2, .ready⟩
        [.find (.rows p.rows) data, .find (.columns p.columns) kept]

namespace Pipeline

/-- A query does one of these things, and the watched pipeline shows which. -/
theorem query (p : Pipeline α) (data : Table) : ∃ found q calls, p.Query data found q calls ∧
    (p.finder.find data).value = (found, q.finder) ∧
    p.watched.finder.find data = ⟨(found, q.watched.finder), calls⟩ := by
  obtain ⟨rows, columns, stage⟩ := p
  have hwatched : (rows.watched.subset data).value = (rows.subset data).value :=
    RowSelector.value_subset_watched
  have hcalls : (rows.watched.subset data).calls = [.find (.rows rows) data] :=
    RowSelector.calls_subset_watched
  simp only [finder, watched]
  obtain ⟨hstage, hfind⟩ | ⟨e, hstage, hs, hfind⟩ | ⟨kept, e, rfl, hs, ht, hfind⟩ |
    ⟨kept, rfl, hs, ht, hfind⟩ | ⟨kept, rfl, hs, hfind⟩ :=
      ColumnFinder.find_pipeline_cases rows columns stage data
  · exact ⟨_, _, _, .refused hstage, by rw [hfind], ColumnFinder.find_refused hstage⟩
  · refine ⟨_, _, _, .missed hstage hs, by rw [hfind], ?_⟩
    rw [ColumnFinder.find_missed hstage (hwatched.trans hs), hcalls]
  · refine ⟨_, _, _, .failed rfl (RowSelector.value_subset_eq_ok_iff.1 hs) ht,
      by rw [hfind], ?_⟩
    rw [ColumnFinder.find_pending_of_error (hwatched.trans hs) ht, hcalls]
    rfl
  · have htrain : (columns.train kept).value = (.ok (), (columns.train kept).value.2) :=
      Prod.ext ht rfl
    refine ⟨_, _, _, .trained rfl (RowSelector.value_subset_eq_ok_iff.1 hs) htrain,
      by rw [hfind], ?_⟩
    rw [ColumnFinder.find_pending_of_ok (hwatched.trans hs) ht, hcalls,
      ColumnSelector.train_watched, ColumnSelector.find_watched]
    rfl
  · refine ⟨_, _, _, .answered rfl (RowSelector.value_subset_eq_ok_iff.1 hs),
      by rw [hfind], ?_⟩
    rw [ColumnFinder.find_ready (hwatched.trans hs), hcalls, ColumnSelector.find_watched]
    rfl

namespace Query

variable {p q : Pipeline α} {found : Except FindError (List Nat)} {calls : List (Call (Part α))}
  {kept : Table}

/-- Columns are searched in what is kept of the table of the query. -/
theorem keeps_of_mem (h : p.Query data found q calls) {columns : ColumnSelector α}
    (hmem : .find (.columns columns) kept ∈ calls) : p.rows.Keeps data kept := by
  cases h with
  | refused => cases hmem
  | missed => simp at hmem
  | failed => simp at hmem
  | trained _ hkeeps _ =>
    simp only [List.mem_cons, reduceCtorEq, Call.find.injEq, Part.columns.injEq, List.not_mem_nil,
      or_false, false_or, false_and] at hmem
    exact hmem.2 ▸ hkeeps
  | answered _ hkeeps =>
    simp only [List.mem_cons, reduceCtorEq, Call.find.injEq, Part.columns.injEq, List.not_mem_nil,
      or_false, false_or, false_and] at hmem
    exact hmem.2 ▸ hkeeps

/-- A query that keeps no table changes nothing and trains nothing. -/
theorem of_not_keeps (h : p.Query data found q calls) (hmiss : ∀ kept, ¬p.rows.Keeps data kept) :
    q = p ∧ columnTrainings calls = [] := by
  cases h with
  | refused => exact ⟨rfl, rfl⟩
  | missed => exact ⟨rfl, rfl⟩
  | failed _ hkeeps _ => exact absurd hkeeps (hmiss _)
  | trained _ hkeeps _ => exact absurd hkeeps (hmiss _)
  | answered _ hkeeps => exact absurd hkeeps (hmiss _)

/-- The first query that keeps a table trains the column finder on it. -/
theorem of_keeps (h : p.Query data found q calls) (hstage : p.stage = .columnPending)
    (hkeeps : p.rows.Keeps data kept) :
    q.stage = .ofColumnTraining (p.columns.train kept).value.1 ∧
      columnTrainings calls = [(p.columns, kept)] := by
  cases h with
  | refused h => rw [hstage] at h; cases h
  | missed _ hs => rw [RowSelector.value_subset_eq_ok_iff.2 hkeeps] at hs; cases hs
  | failed _ h ht => cases h.unique hkeeps; rw [ht]; exact ⟨rfl, rfl⟩
  | trained _ h ht => cases h.unique hkeeps; rw [ht]; exact ⟨rfl, rfl⟩
  | answered h => rw [hstage] at h; cases h

/-- Only in the stage `columnPending` a query trains the column finder or changes the stage. -/
theorem of_not_pending (h : p.Query data found q calls) (hstage : p.stage ≠ .columnPending) :
    q.stage = p.stage ∧ columnTrainings calls = [] := by
  cases h with
  | refused => exact ⟨rfl, rfl⟩
  | missed => exact ⟨rfl, rfl⟩
  | failed h => exact absurd h hstage
  | trained h => exact absurd h hstage
  | answered h => exact ⟨h.symm, rfl⟩

end Query

end Pipeline

/-! ## Runs -/

namespace ColumnFinder

variable {f : ColumnFinder α} {actions : List (Action α)}

theorem act_find : f.act (.find data) =
    ⟨(.found (f.find data).value.1, (f.find data).value.2), (f.find data).calls⟩ := by
  simp only [Action.find, act, Logged.bind_eq, Logged.pure_eq, List.append_nil]

theorem actAll_cons {a : Action α} : f.actAll (a :: actions) =
    let rest := (f.act a).value.2.actAll actions
    ⟨((f.act a).value.1 :: rest.value.1, rest.value.2), (f.act a).calls ++ rest.calls⟩ := by
  simp only [actAll, Logged.bind_eq, Logged.pure_eq, List.append_nil]

theorem actAll_append {more : List (Action α)} : f.actAll (actions ++ more) =
    let rest := (f.actAll actions).value.2.actAll more
    ⟨((f.actAll actions).value.1 ++ rest.value.1, rest.value.2),
      (f.actAll actions).calls ++ rest.calls⟩ := by
  induction actions generalizing f with
  | nil => rfl
  | cons a actions ih => simp only [List.cons_append, actAll_cons, ih, List.append_assoc]

end ColumnFinder

namespace Pipeline

def afterTraining (p : Pipeline α) (data : Table) : Pipeline α where
  rows := (p.rows.train data).value.2
  columns := p.columns
  stage := if (p.rows.train data).value.1.isOk then .columnPending else .rowTrainingFailed

theorem train_finder (p : Pipeline α) (data : Table) : p.finder.train data =
    ⟨((p.rows.train data).value.1, (p.afterTraining data).finder), (p.rows.train data).calls⟩ := by
  cases ht : (p.rows.train data).value.1 with
  | error e =>
    rw [finder, ColumnFinder.train_pipeline_of_error ht, finder, afterTraining, ht]
    rfl
  | ok _ =>
    rw [finder, ColumnFinder.train_pipeline_of_ok ht, finder, afterTraining, ht]
    rfl

/-- The watched pipeline replies as the pipeline does, and stays the watched form of it. -/
theorem act_watched (p : Pipeline α) (a : Action α) : ∃ (reply : Reply) (q : Pipeline α),
    (p.finder.act a).value = (reply, q.finder) ∧
      (p.watched.finder.act a.watched).value = (reply, q.watched.finder) := by
  cases a with
  | withRows rows => exact ⟨.done, ⟨rows, p.columns, .untrained⟩, rfl, rfl⟩
  | withColumns columns => exact ⟨.done, ⟨p.rows, columns, .untrained⟩, rfl, rfl⟩
  | request r => cases r with
    | train data =>
      refine ⟨.trained (p.rows.train data).value.1, p.afterTraining data, ?_, ?_⟩
      · simp only [ColumnFinder.act, train_finder, Logged.value_bind, Logged.value_pure]
      · simp only [Action.watched, ColumnFinder.act, train_finder, Logged.value_bind,
          Logged.value_pure]
        rfl
    | find data =>
      obtain ⟨found, q, calls, -, hfind, hwatched⟩ := p.query data
      refine ⟨.found found, q, ?_, ?_⟩
      · simp only [ColumnFinder.act, hfind, Logged.value_bind, Logged.value_pure]
      · simp only [Action.watched, ColumnFinder.act, hwatched, Logged.value_bind,
          Logged.value_pure]
    | reset => exact ⟨.done, ⟨p.rows.reset.value, p.columns.reset.value, .untrained⟩, rfl, rfl⟩

theorem actAll_watched (p : Pipeline α) (run : List (Action α)) :
    ∃ (replies : List Reply) (q : Pipeline α), (p.finder.actAll run).value = (replies, q.finder) ∧
      (p.watched.finder.actAll (run.map .watched)).value = (replies, q.watched.finder) := by
  induction run generalizing p with
  | nil => exact ⟨[], p, rfl, rfl⟩
  | cons a run ih =>
    obtain ⟨reply, q, hact, hwatched⟩ := p.act_watched a
    obtain ⟨replies, last, hrun, hrunwatched⟩ := ih q
    refine ⟨reply :: replies, last, ?_, ?_⟩
    · simp only [ColumnFinder.actAll_cons, hact, hrun]
    · simp only [List.map_cons, ColumnFinder.actAll_cons, hwatched, hrunwatched]

/-- Only queries train the column finder. -/
theorem columnTrainings_act (p : Pipeline α) {a : Action α} (h : ∀ data, a ≠ .find data) :
    columnTrainings (p.watched.finder.act a.watched).calls = [] := by
  cases a with
  | withRows rows => rfl
  | withColumns columns => rfl
  | request r => cases r with
    | train data =>
      simp only [Action.watched, ColumnFinder.act, train_finder, Logged.calls_bind,
        Logged.calls_pure, List.append_nil]
      rfl
    | find data => exact absurd rfl (h data)
    | reset => rfl

section

variable {p : Pipeline α} {queries : List Table}

/-- An untrained pipeline refuses all queries without a call. -/
theorem actAll_of_not_isTrained (h : p.stage.isTrained = false) :
    p.watched.finder.actAll (queries.map .find) =
      ⟨(queries.map fun _ => .found (.error p.stage.refusal), p.watched.finder), []⟩ := by
  have hfind (data : Table) : p.watched.finder.find data =
      ⟨(.error p.stage.refusal, p.watched.finder), []⟩ := ColumnFinder.find_refused h
  induction queries with
  | nil => rfl
  | cons data queries ih =>
    rw [List.map_cons, ColumnFinder.actAll_cons, ColumnFinder.act_find, hfind, ih]
    rfl

/-- Queries that keep no table change nothing and train nothing. -/
theorem actAll_of_not_keeps (hmiss : ∀ data ∈ queries, ∀ kept, ¬p.rows.Keeps data kept) :
    (p.watched.finder.actAll (queries.map .find)).value.2 = p.watched.finder ∧
      columnTrainings (p.watched.finder.actAll (queries.map .find)).calls = [] := by
  induction queries with
  | nil => exact ⟨rfl, rfl⟩
  | cons data queries ih =>
    obtain ⟨hfirst, hrest⟩ := List.forall_mem_cons.1 hmiss
    obtain ⟨found, q, calls, hquery, -, hfind⟩ := p.query data
    obtain ⟨rfl, hcalls⟩ := hquery.of_not_keeps hfirst
    rw [List.map_cons, ColumnFinder.actAll_cons, ColumnFinder.act_find, hfind,
      columnTrainings_append, hcalls]
    exact ih hrest

/-- In a stage other than `columnPending`, queries leave the stage alone and train nothing. -/
theorem actAll_of_not_pending (h : p.stage ≠ .columnPending) (queries : List Table) :
    ∃ last : Pipeline α, last.stage = p.stage ∧
      (p.watched.finder.actAll (queries.map .find)).value.2 = last.watched.finder ∧
      columnTrainings (p.watched.finder.actAll (queries.map .find)).calls = [] := by
  induction queries generalizing p with
  | nil => exact ⟨p, rfl, rfl, rfl⟩
  | cons data queries ih =>
    obtain ⟨found, q, calls, hquery, -, hfind⟩ := p.query data
    obtain ⟨hstage, hcalls⟩ := hquery.of_not_pending h
    obtain ⟨last, hlast, hvalue, htrainings⟩ := ih (hstage ▸ h)
    refine ⟨last, hlast.trans hstage, ?_⟩
    rw [List.map_cons, ColumnFinder.actAll_cons, ColumnFinder.act_find, hfind,
      columnTrainings_append, hcalls]
    exact ⟨hvalue, htrainings⟩

/-- The first of some queries that keeps a table trains the column finder on it, and no later one
does. -/
theorem actAll_of_keeps {missed later : List Table} {kept : Table}
    (hstage : p.stage = .columnPending)
    (hmiss : ∀ other ∈ missed, ∀ kept, ¬p.rows.Keeps other kept)
    (hkeeps : p.rows.Keeps data kept) :
    ∃ last : Pipeline α, last.stage = .ofColumnTraining (p.columns.train kept).value.1 ∧
      (p.watched.finder.actAll ((missed ++ data :: later).map .find)).value.2 =
        last.watched.finder ∧
      columnTrainings (p.watched.finder.actAll ((missed ++ data :: later).map .find)).calls =
        [(p.columns, kept)] := by
  obtain ⟨hbefore, hnone⟩ := actAll_of_not_keeps hmiss
  obtain ⟨found, q, calls, hquery, -, hfind⟩ := p.query data
  obtain ⟨hafter, hcalls⟩ := hquery.of_keeps hstage hkeeps
  -- both outcomes of the training end the wait for it, so no later query trains again
  have hsettled : q.stage ≠ .columnPending := by
    rw [hafter]
    cases (p.columns.train kept).value.1 <;> nofun
  obtain ⟨last, hlast, hvalue, htrainings⟩ := actAll_of_not_pending hsettled later
  refine ⟨last, hlast.trans hafter, ?_⟩
  rw [List.map_append, List.map_cons, ColumnFinder.actAll_append, hbefore, ColumnFinder.actAll_cons,
    ColumnFinder.act_find, hfind, columnTrainings_append, columnTrainings_append, hnone, hcalls]
  exact ⟨hvalue, by rw [htrainings]; rfl⟩

end

/-! ## Top theorem -/

/-- What the queries of a cycle do, if the row finder was trained and the column finder was not. -/
structure TrainsOnFirstKept (p : Pipeline α) : Prop where
  /-- As long as no table is kept, nothing changes and the column finder is not trained. -/
  missed : ∀ queries : List Table, (∀ data ∈ queries, ∀ kept, ¬p.rows.Keeps data kept) →
    (p.watched.finder.actAll (queries.map .find)).value.2 = p.watched.finder ∧
      columnTrainings (p.watched.finder.actAll (queries.map .find)).calls = []
  /-- The first table that is kept is the one that the column finder is trained on, once. The stage
  says from then on whether that succeeded. -/
  kept : ∀ (missed : List Table) (data kept : Table) (later : List Table),
    (∀ other ∈ missed, ∀ kept, ¬p.rows.Keeps other kept) → p.rows.Keeps data kept →
    ∃ last : Pipeline α, last.stage = .ofColumnTraining (p.columns.train kept).value.1 ∧
      (p.watched.finder.actAll ((missed ++ data :: later).map .find)).value.2 =
        last.watched.finder ∧
      columnTrainings (p.watched.finder.actAll ((missed ++ data :: later).map .find)).calls =
        [(p.columns, kept)]

/-- What holds of a pipeline between any two actions. -/
structure TrainsOnce (p : Pipeline α) : Prop where
  /-- In a stage in which it is not trained, queries call nothing, change nothing and are refused for
  the same reason. -/
  refuses : p.stage.isTrained = false → ∀ queries : List Table,
    p.watched.finder.actAll (queries.map .find) =
      ⟨(queries.map fun _ => .found (.error p.stage.refusal), p.watched.finder), []⟩
  /-- Columns are searched in what is kept of the table of the query. -/
  searches : ∀ data columns kept,
    .find (.columns columns) kept ∈ (p.watched.finder.find data).calls → p.rows.Keeps data kept
  /-- Only queries train the column finder. -/
  only_queries : ∀ a : Action α, (∀ data, a ≠ .find data) →
    columnTrainings (p.watched.finder.act a.watched).calls = []
  /-- A successful training starts a cycle with the same column finder. -/
  cycle : ∀ data, ∀ q : Pipeline α, (p.finder.train data).value = (.ok (), q.finder) →
    q.columns = p.columns ∧ q.stage = .columnPending ∧ q.TrainsOnFirstKept

/-- **Column training happens at most once per cycle.** After every run, watching the calls on its
selectors does not change what a pipeline does, and it trains its column finder at most once between
a successful training and the next training, reset or change. -/
theorem trains_columns_once (start : Pipeline α) (run : List (Action α)) :
    ∃ (replies : List Reply) (p : Pipeline α),
      (start.finder.actAll run).value = (replies, p.finder) ∧
      (start.watched.finder.actAll (run.map .watched)).value = (replies, p.watched.finder) ∧
      p.TrainsOnce := by
  obtain ⟨replies, p, hrun, hwatched⟩ := start.actAll_watched run
  refine ⟨replies, p, hrun, hwatched, fun h queries => actAll_of_not_isTrained h,
    fun data columns kept hmem => ?_, fun a => p.columnTrainings_act, fun data q htrain => ?_⟩
  · obtain ⟨found, q, calls, hquery, -, hfind⟩ := p.query data
    rw [hfind] at hmem
    exact hquery.keeps_of_mem hmem
  · rw [train_finder] at htrain
    obtain ⟨hok, hq⟩ := Prod.mk.inj htrain
    obtain ⟨-, hcolumns, hstage⟩ := ColumnFinder.pipeline.inj hq
    have hpending : q.stage = .columnPending := by
      rw [← hstage, afterTraining, hok]
      rfl
    exact ⟨hcolumns.symm, hpending, fun queries => actAll_of_not_keeps,
      fun missed data kept later => actAll_of_keeps hpending⟩

end Pipeline

end TableSelection
