import TableSelection.Proofs.Finder.Cycle

/-!
# Asking again

A query may train what it passes, so it may change a column finder. The same query once more gives
the same answer, the same error too, and finds nothing left to train or to change:

    ((f.find data).value.2.find data).value = (f.find data).value          (find_find)
    no selector is trained in (f.find data).value.2.find data              (not_queryTrains_find)

`QueryTrains` says which selectors a query trains, at any depth and on which tables. All calls that
train a custom finder come from there (`queryTrains_of_mem_calls`). A custom finder that is asked
for columns has to answer in the same way again (`SteadyFinder`); of finders of rows nothing is
asked.
-/

namespace TableSelection

/-- Custom finders that answer the same query for columns once more as before, and do not change by
it again. -/
class SteadyFinder (α : Type) [CustomFinder α] : Prop where
  findColumns_findColumns (f : α) (data : Table) :
    CustomFinder.findColumns (CustomFinder.findColumns f data).2 data =
      CustomFinder.findColumns f data

instance : SteadyFinder Empty where
  findColumns_findColumns := nofun

variable {α : Type} [CustomFinder α] {data : Table}

/-! ## Trainings in a query -/

mutual

/-- A query of a finder trains a selector on a table. -/
inductive ColumnFinder.QueryTrains :
    ColumnFinder α → Table → ColumnSelector α → Table → Prop
  | group {how : Combination} {finders : List (ColumnSelector α)} {data other : Table}
      {s : ColumnSelector α} (h : ColumnSelector.QueryAllTrains finders data s other) :
      ColumnFinder.QueryTrains (.group how finders) data s other
  /-- The first query that keeps a table. -/
  | pending {rows : RowSelector α} {columns : ColumnSelector α} {data kept : Table}
      (hkeeps : rows.Keeps data kept) :
      ColumnFinder.QueryTrains (.pipeline rows columns .columnPending) data columns kept
  /-- The column finder has just been trained, and trains in turn. -/
  | trained {rows : RowSelector α} {columns : ColumnSelector α} {data kept other : Table}
      {s : ColumnSelector α} (hkeeps : rows.Keeps data kept)
      (ht : (columns.train kept).value.1 = .ok ())
      (h : ColumnSelector.QueryTrains (columns.train kept).value.2 kept s other) :
      ColumnFinder.QueryTrains (.pipeline rows columns .columnPending) data s other
  | ready {rows : RowSelector α} {columns : ColumnSelector α} {data kept other : Table}
      {s : ColumnSelector α} (hkeeps : rows.Keeps data kept)
      (h : ColumnSelector.QueryTrains columns kept s other) :
      ColumnFinder.QueryTrains (.pipeline rows columns .ready) data s other

inductive ColumnSelector.QueryTrains :
    ColumnSelector α → Table → ColumnSelector α → Table → Prop
  | plain {f : ColumnFinder α} {data other : Table} {s : ColumnSelector α}
      (h : ColumnFinder.QueryTrains f data s other) :
      ColumnSelector.QueryTrains (.plain f) data s other
  | trainable {f : ColumnFinder α} {data other : Table} {s : ColumnSelector α}
      (h : ColumnFinder.QueryTrains f data s other) :
      ColumnSelector.QueryTrains (.trainable f) data s other

/-- A query of several selectors, up to the first error, trains a selector in one of them. -/
inductive ColumnSelector.QueryAllTrains :
    List (ColumnSelector α) → Table → ColumnSelector α → Table → Prop
  | head {t s : ColumnSelector α} {rest : List (ColumnSelector α)} {data other : Table}
      (h : ColumnSelector.QueryTrains t data s other) :
      ColumnSelector.QueryAllTrains (t :: rest) data s other
  | tail {t s : ColumnSelector α} {rest : List (ColumnSelector α)} {data other : Table}
      {columns : List Nat} (ht : (t.find data).value.1 = .ok columns)
      (h : ColumnSelector.QueryAllTrains rest data s other) :
      ColumnSelector.QueryAllTrains (t :: rest) data s other

end

/-! ## Calls -/

theorem RowSelector.train_not_mem_calls_findAll {ss : List (RowSelector α)} {g : α} {other : Table}
    (h : ∀ s ∈ ss, .train g other ∉ (s.find data).calls) :
    .train g other ∉ (findAll ss data).calls := by
  induction ss with
  | nil => exact List.not_mem_nil
  | cons s ss ih =>
    obtain ⟨hs, hss⟩ := List.forall_mem_cons.1 h
    simp only [findAll, Logged.calls_bind, List.mem_append, not_or]
    refine ⟨hs, ?_⟩
    cases (s.find data).value with
    | error e => exact List.not_mem_nil
    | ok rows =>
      simp only [Logged.calls_bind, Logged.calls_pure, List.append_nil]
      exact ih hss

/-- A query for rows trains nothing. -/
theorem RowFinder.train_not_mem_calls_find (f : RowFinder α) (data : Table) (g : α)
    (other : Table) : .train g other ∉ (f.find data).calls := by
  induction f with
  | group how finders ih =>
    simp only [find, Logged.calls_bind, Logged.calls_pure, List.append_nil]
    refine RowSelector.train_not_mem_calls_findAll fun s hs => ?_
    rw [s.find_eq]
    exact ih s hs
  | custom finder => simp [find]
  | _ => exact List.not_mem_nil

theorem RowSelector.train_not_mem_calls_find (s : RowSelector α) (data : Table) (g : α)
    (other : Table) : .train g other ∉ (s.find data).calls := by
  rw [find_eq]
  exact s.finder.train_not_mem_calls_find data g other

namespace ColumnSelector

variable {f : ColumnFinder α} {s : ColumnSelector α} {rest : List (ColumnSelector α)}

theorem calls_find_plain : ((plain f).find data).calls = (f.find data).calls := by
  rw [find, Logged.calls_bind, Logged.calls_pure, List.append_nil]

theorem calls_find_trainable : ((trainable f).find data).calls = (f.find data).calls := by
  rw [find, Logged.calls_bind, Logged.calls_pure, List.append_nil]

theorem calls_findAll_cons_of_ok {columns : List Nat} (h : (s.find data).value.1 = .ok columns) :
    (findAll (s :: rest) data).calls = (s.find data).calls ++ (findAll rest data).calls := by
  rcases hs : (s.find data).value with ⟨found, s'⟩
  rw [hs] at h
  subst h
  rw [findAll]
  simp only [Logged.calls_bind, hs, Logged.calls_pure, List.append_nil]

theorem calls_findAll_cons_of_error {e : FindError} (h : (s.find data).value.1 = .error e) :
    (findAll (s :: rest) data).calls = (s.find data).calls := by
  rcases hs : (s.find data).value with ⟨found, s'⟩
  rw [hs] at h
  subst h
  rw [findAll]
  simp only [Logged.calls_bind, hs, Logged.calls_pure, List.append_nil]

end ColumnSelector

theorem ColumnFinder.calls_find_group {how : Combination} {finders : List (ColumnSelector α)} :
    ((group how finders).find data).calls = (ColumnSelector.findAll finders data).calls := by
  rw [find, Logged.calls_bind, Logged.calls_pure, List.append_nil]

theorem RowSelector.train_not_mem_calls_subset {s : RowSelector α} {g : α} {other : Table} :
    .train g other ∉ (s.subset data).calls := by
  rw [calls_subset]
  exact s.train_not_mem_calls_find data g other

theorem ColumnSelector.queryTrains_of_finder {t s : ColumnSelector α} {kept : Table}
    (h : t.finder.QueryTrains data s kept) : t.QueryTrains data s kept := by
  cases t with
  | plain finder => exact .plain h
  | trainable finder => exact .trainable h

theorem ColumnSelector.calls_find (t : ColumnSelector α) :
    (t.find data).calls = (t.finder.find data).calls := by
  cases t with
  | plain finder => exact calls_find_plain
  | trainable finder => exact calls_find_trainable

/-- A call that trains a custom finder comes from a selector that the query trains. -/
theorem ColumnSelector.queryTrains_of_mem_calls_of_finder {t : ColumnSelector α} {g : α}
    {other : Table}
    (ih : .train g other ∈ (t.finder.find data).calls →
      ∃ s kept, t.finder.QueryTrains data s kept ∧ .train g other ∈ (s.train kept).calls)
    (h : .train g other ∈ (t.find data).calls) :
    ∃ s kept, t.QueryTrains data s kept ∧ .train g other ∈ (s.train kept).calls := by
  rw [t.calls_find] at h
  obtain ⟨s, kept, htrains, hcall⟩ := ih h
  exact ⟨s, kept, queryTrains_of_finder htrains, hcall⟩

theorem ColumnSelector.queryAllTrains_of_mem_calls {ts : List (ColumnSelector α)} {g : α}
    {other : Table}
    (hts : ∀ t ∈ ts, .train g other ∈ (t.find data).calls →
      ∃ s kept, t.QueryTrains data s kept ∧ .train g other ∈ (s.train kept).calls)
    (h : .train g other ∈ (findAll ts data).calls) :
    ∃ s kept, QueryAllTrains ts data s kept ∧ .train g other ∈ (s.train kept).calls := by
  induction ts with
  | nil => rw [findAll] at h; cases h
  | cons t ts ih =>
    obtain ⟨ht, hts⟩ := List.forall_mem_cons.1 hts
    have hhead (hcall : .train g other ∈ (t.find data).calls) :
        ∃ s kept, QueryAllTrains (t :: ts) data s kept ∧ .train g other ∈ (s.train kept).calls := by
      obtain ⟨s, kept, htrains, hcall⟩ := ht hcall
      exact ⟨s, kept, .head htrains, hcall⟩
    cases hfound : (t.find data).value.1 with
    | error e =>
      rw [calls_findAll_cons_of_error hfound] at h
      exact hhead h
    | ok columns =>
      rw [calls_findAll_cons_of_ok hfound] at h
      rcases List.mem_append.1 h with hcall | hcall
      · exact hhead hcall
      · obtain ⟨s, kept, htrains, hcall⟩ := ih hts hcall
        exact ⟨s, kept, .tail hfound htrains, hcall⟩

/-- A query trains custom finders only in the selectors that it trains. -/
theorem ColumnFinder.queryTrains_of_mem_calls (f : ColumnFinder α) (data : Table) {g : α}
    {other : Table} (h : .train g other ∈ (f.find data).calls) :
    ∃ s kept, f.QueryTrains data s kept ∧ .train g other ∈ (s.train kept).calls := by
  induction f generalizing data with
  | all => rw [find] at h; cases h
  | range columns => rw [find] at h; cases h
  | variance filter trained => rw [find] at h; cases h
  | group how finders ih =>
    rw [calls_find_group] at h
    obtain ⟨s, kept, htrains, hcall⟩ := ColumnSelector.queryAllTrains_of_mem_calls
      (fun t ht => ColumnSelector.queryTrains_of_mem_calls_of_finder (ih t ht data)) h
    exact ⟨s, kept, .group htrains, hcall⟩
  | pipeline rows columns stage ih =>
    have hrows : .train g other ∉ (rows.subset data).calls :=
      RowSelector.train_not_mem_calls_subset
    obtain ⟨-, hfind⟩ | ⟨e, -, -, hfind⟩ | ⟨kept, e, rfl, hs, -, hfind⟩ |
      ⟨kept, rfl, hs, ht, hfind⟩ | ⟨kept, rfl, hs, hfind⟩ :=
        find_pipeline_cases rows columns stage data
    · rw [hfind] at h; cases h
    · rw [hfind] at h; exact absurd h hrows
    · rw [hfind] at h
      have hcall := (List.mem_append.1 h).resolve_left hrows
      exact ⟨columns, kept, .pending (RowSelector.value_subset_eq_ok_iff.1 hs), hcall⟩
    · have hkeeps := RowSelector.value_subset_eq_ok_iff.1 hs
      rw [hfind] at h
      rcases List.mem_append.1 ((List.mem_append.1 h).resolve_left hrows) with hcall | hcall
      · exact ⟨columns, kept, .pending hkeeps, hcall⟩
      · obtain ⟨s, inner, htrains, hcall⟩ := ColumnSelector.queryTrains_of_mem_calls_of_finder
          (ih _ (columns.size_train kept) kept) hcall
        exact ⟨s, inner, .trained hkeeps ht htrains, hcall⟩
    · rw [hfind] at h
      have hcall := (List.mem_append.1 h).resolve_left hrows
      obtain ⟨s, inner, htrains, hcall⟩ :=
        ColumnSelector.queryTrains_of_mem_calls_of_finder (ih columns rfl kept) hcall
      exact ⟨s, inner, .ready (RowSelector.value_subset_eq_ok_iff.1 hs) htrains, hcall⟩
  | custom finder =>
    rw [find] at h
    simp at h

/-! ## The second answer -/

theorem ColumnFinder.value_find_custom {g : α} : ((custom g).find data).value =
    Prod.map id .custom (CustomFinder.findColumns g data) := by
  rw [find]
  rfl

theorem ColumnSelector.find_find_of_finder {s : ColumnSelector α}
    (h : ((s.finder.find data).value.2.find data).value = (s.finder.find data).value) :
    ((s.find data).value.2.find data).value = (s.find data).value := by
  cases s with
  | plain finder =>
    rw [value_find_plain, value_find_plain]
    exact congrArg (Prod.map id plain) h
  | trainable finder =>
    rw [value_find_trainable, value_find_trainable]
    exact congrArg (Prod.map id trainable) h

section Steady

variable [SteadyFinder α]

/-- The same query once more has the same answer and changes nothing. -/
theorem ColumnFinder.find_find (f : ColumnFinder α) (data : Table) :
    ((f.find data).value.2.find data).value = (f.find data).value := by
  induction f generalizing data with
  | all =>
    have h : ((all : ColumnFinder α).find data).value.2 = .all := by
      rw [find]; rfl
    rw [h]
  | range columns =>
    have h : ((range columns : ColumnFinder α).find data).value.2 = .range columns := by
      rw [find]; rfl
    rw [h]
  | variance filter trained =>
    have h : ((variance filter trained : ColumnFinder α).find data).value.2 =
        .variance filter trained := by
      rw [find]; rfl
    rw [h]
  | group how finders ih =>
    rw [value_find_group, value_find_group, ColumnSelector.value_findAll,
      ColumnSelector.value_findAll,
      stepAll_stepAll fun s hs => ColumnSelector.find_find_of_finder (ih s hs data)]
  | pipeline rows columns stage ih =>
    obtain ⟨-, hfind⟩ | ⟨e, -, -, hfind⟩ | ⟨kept, e, -, -, -, hfind⟩ |
      ⟨kept, -, hs, -, hfind⟩ | ⟨kept, -, hs, hfind⟩ :=
        find_pipeline_cases rows columns stage data
    · rw [hfind, hfind]
    · rw [hfind, hfind]
    · rw [hfind, find_refused rfl]
      rfl
    · -- the second query meets the column finder that the first one has trained and asked
      have hagain := ColumnSelector.find_find_of_finder (ih _ (columns.size_train kept) kept)
      rw [hfind, find_ready hs, hagain]
    · have hagain := ColumnSelector.find_find_of_finder (ih columns rfl kept)
      rw [hfind, find_ready hs, hagain]
  | custom finder =>
    have hagain := SteadyFinder.findColumns_findColumns finder data
    rw [value_find_custom]
    show ((custom (CustomFinder.findColumns finder data).2).find data).value = _
    rw [value_find_custom, hagain]

theorem ColumnSelector.find_find (s : ColumnSelector α) (data : Table) :
    ((s.find data).value.2.find data).value = (s.find data).value :=
  find_find_of_finder (s.finder.find_find data)

end Steady

theorem ColumnFinder.not_queryTrains_ready {rows : RowSelector α} {columns : ColumnSelector α}
    {kept : Table} (hkept : rows.Keeps data kept) (h : ∀ s other, ¬columns.QueryTrains kept s other)
    (s : ColumnSelector α) (other : Table) :
    ¬(ColumnFinder.pipeline rows columns .ready).QueryTrains data s other := by
  intro htrains
  cases htrains with
  | ready hkeeps htrains =>
    obtain rfl := hkept.unique hkeeps
    exact h s other htrains

theorem ColumnSelector.not_queryTrains_find_of_finder {t : ColumnSelector α}
    (ih : ∀ s other, ¬(t.finder.find data).value.2.QueryTrains data s other)
    (s : ColumnSelector α) (other : Table) : ¬(t.find data).value.2.QueryTrains data s other := by
  intro h
  cases t with
  | plain finder =>
    rw [value_find_plain] at h
    cases h with
    | plain h => exact ih s other h
  | trainable finder =>
    rw [value_find_trainable] at h
    cases h with
    | trainable h => exact ih s other h

variable [SteadyFinder α]

theorem ColumnSelector.not_queryAllTrains_findAll {ts : List (ColumnSelector α)}
    (hts : ∀ t ∈ ts, ∀ s other, ¬(t.find data).value.2.QueryTrains data s other)
    (s : ColumnSelector α) (other : Table) :
    ¬QueryAllTrains (findAll ts data).value.2 data s other := by
  intro h
  induction ts with
  | nil => rw [value_findAll_nil] at h; cases h
  | cons t ts ih =>
    obtain ⟨ht, hts⟩ := List.forall_mem_cons.1 hts
    cases hfound : (t.find data).value.1 with
    | error e =>
      rw [findAll_cons_of_error hfound] at h
      cases h with
      | head h => exact ht s other h
      | tail hagain h =>
        -- the selectors behind the error are not reached this time either
        rw [t.find_find data, hfound] at hagain
        cases hagain
    | ok columns =>
      rw [findAll_cons_of_ok hfound] at h
      cases h with
      | head h => exact ht s other h
      | tail _ h => exact ih hts h

/-- The same query once more trains nothing. -/
theorem ColumnFinder.not_queryTrains_find (f : ColumnFinder α) (data : Table)
    (s : ColumnSelector α) (other : Table) : ¬(f.find data).value.2.QueryTrains data s other := by
  induction f generalizing data s other with
  | all => rw [find]; exact fun h => by cases h
  | range columns => rw [find]; exact fun h => by cases h
  | variance filter trained => rw [find]; exact fun h => by cases h
  | group how finders ih =>
    rw [value_find_group]
    intro h
    cases h with
    | group h =>
      exact ColumnSelector.not_queryAllTrains_findAll
        (fun t ht => ColumnSelector.not_queryTrains_find_of_finder (ih t ht data)) s other h
  | pipeline rows columns stage ih =>
    obtain ⟨hstage, hfind⟩ | ⟨e, -, hs, hfind⟩ | ⟨kept, e, -, -, -, hfind⟩ |
      ⟨kept, -, hs, -, hfind⟩ | ⟨kept, -, hs, hfind⟩ :=
        find_pipeline_cases rows columns stage data
    · rw [hfind]
      intro h
      cases h with
      | pending => cases hstage
      | trained => cases hstage
      | ready => cases hstage
    · have hmiss : ∀ kept, ¬rows.Keeps data kept := by
        intro kept hkeeps
        rw [RowSelector.value_subset_eq_ok_iff.2 hkeeps] at hs
        cases hs
      rw [hfind]
      intro h
      cases h with
      | pending hkeeps => exact hmiss _ hkeeps
      | trained hkeeps => exact hmiss _ hkeeps
      | ready hkeeps => exact hmiss _ hkeeps
    · rw [hfind]
      intro h
      cases h
    · rw [hfind]
      exact not_queryTrains_ready (RowSelector.value_subset_eq_ok_iff.1 hs)
        (ColumnSelector.not_queryTrains_find_of_finder (ih _ (columns.size_train kept) kept)) s other
    · rw [hfind]
      exact not_queryTrains_ready (RowSelector.value_subset_eq_ok_iff.1 hs)
        (ColumnSelector.not_queryTrains_find_of_finder (ih columns rfl kept)) s other
  | custom finder => rw [find]; exact fun h => by cases h

/-! ## Top theorem -/

/-- The selectors of a pipeline may take part in a tree themselves. -/
instance : SteadyFinder (Part α) where
  findColumns_findColumns
    | .rows _, _ => rfl
    | .columns s, data =>
        congrArg (Prod.map id Part.columns) (ColumnSelector.find_find s data)

/-- **Repeating a query changes nothing.** Whatever a column finder was asked before and whatever
its first answer is, the same query once more has that answer, leaves every part of the finder as it
is, and trains nothing in it, at no depth. -/
theorem ColumnFinder.query_repeats (f : ColumnFinder α) (data : Table) :
    let first := (f.find data).value
    let again := first.2.find data
    again.value = first ∧ (∀ s other, ¬first.2.QueryTrains data s other) ∧
      ∀ g other, .train g other ∉ again.calls := by
  intro first again
  have hnone := f.not_queryTrains_find data
  refine ⟨f.find_find data, hnone, fun g other h => ?_⟩
  obtain ⟨s, kept, htrains, -⟩ := queryTrains_of_mem_calls first.2 data h
  exact hnone s kept htrains

theorem ColumnFinder.query_repeats_watched :
    let columns : ColumnSelector Empty :=
      .trainable (.pipeline (.plain .all) (.plain .all) .untrained)
    let rows : RowSelector Empty := .plain .all
    let f := ColumnFinder.pipeline rows.watched columns.watched .columnPending
    ∃ data, Table.ofColumns [⟨"x", .integer true 64, [some 1]⟩] = .ok data ∧
      .train (.columns columns) data ∈ (f.find data).calls ∧
      let first := (f.find data).value
      (first.2.find data).value = first ∧
        ∀ g other, .train g other ∉ (first.2.find data).calls := by
  intro columns rows f
  obtain ⟨data, hdata⟩ : ∃ data,
      Table.ofColumns [⟨"x", .integer true 64, [some 1]⟩] = .ok data := ⟨_, rfl⟩
  have hsubset : (rows.watched.subset data).value = .ok data := by
    cases hdata; rfl
  have htrain : (columns.watched.train data).value.1 = .ok () := rfl
  have hcall : .train (.columns columns) data ∈ (f.find data).calls := by
    rw [find_pending_of_ok hsubset htrain, ColumnSelector.train_watched]
    simp
  obtain ⟨hvalue, -, hcalls⟩ := query_repeats f data
  exact ⟨data, hdata, hcall, hvalue, hcalls⟩

end TableSelection
