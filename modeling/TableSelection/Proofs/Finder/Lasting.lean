import TableSelection.Proofs.Finder.Cycle
import TableSelection.Proofs.Outcome

/-!
# A successful training lasts

If training reaches every part of a finder that needs it (`FullyTrainable`), a finder that was
trained successfully is never found untrained by a query, however many queries come and whether they
succeed or fail. The column finder of a pipeline is not yet trained then; it may be trained by any
of the queries, and that may fail, after which the pipeline answers with the reason. `Serves` says
how far the training of every part has come that a query can reach:

    f.train data succeeds → (f.train data).2.Serves                    (serves_train)
    f.Serves → f.find data has not the error notTrained,
      and (f.find data).2.Serves                                       (Serves.find)
-/

namespace TableSelection

/-! ## Parts that need training -/

/-- The finders of all rows and of a range of rows have nothing to learn. -/
def RowFinder.NeedsNoTraining : RowFinder Empty → Prop
  | .all | .range _ => True
  | .numeric _ _ | .group _ _ => False

/-- The finders of all columns and of a range of columns have nothing to learn. -/
def ColumnFinder.NeedsNoTraining : ColumnFinder Empty → Prop
  | .all | .range _ => True
  | .variance _ _ | .group _ _ | .pipeline _ _ _ => False

mutual

/-- Training reaches every part of a row finder that needs it. -/
def RowFinder.FullyTrainable : RowFinder Empty → Prop
  | .all | .range _ | .numeric _ _ => True
  | .group _ finders => RowSelector.AllFullyTrainable finders

/-- A plain selector, which passes no training on, holds a finder that needs none. -/
def RowSelector.FullyTrainable : RowSelector Empty → Prop
  | .plain finder => finder.NeedsNoTraining
  | .trainable finder => finder.FullyTrainable

def RowSelector.AllFullyTrainable : List (RowSelector Empty) → Prop
  | [] => True
  | s :: rest => s.FullyTrainable ∧ RowSelector.AllFullyTrainable rest

end

mutual

def ColumnFinder.FullyTrainable : ColumnFinder Empty → Prop
  | .all | .range _ | .variance _ _ => True
  | .group _ finders => ColumnSelector.AllFullyTrainable finders
  | .pipeline rows columns _ => rows.FullyTrainable ∧ columns.FullyTrainable

def ColumnSelector.FullyTrainable : ColumnSelector Empty → Prop
  | .plain finder => finder.NeedsNoTraining
  | .trainable finder => finder.FullyTrainable

def ColumnSelector.AllFullyTrainable : List (ColumnSelector Empty) → Prop
  | [] => True
  | s :: rest => s.FullyTrainable ∧ ColumnSelector.AllFullyTrainable rest

end

def Finder.FullyTrainable : Finder Empty → Prop
  | row f => f.FullyTrainable
  | column f => f.FullyTrainable
  | rowSelector s => s.FullyTrainable
  | columnSelector s => s.FullyTrainable

/-! ## Row finders -/

/-- An error that does not say that a finder is untrained. -/
def FindError.IsOfTrained (e : FindError) : Prop := ∀ finder, e ≠ .notTrained finder

theorem FindError.isOfTrained_range (source : LookupError) : (range source).IsOfTrained := nofun

theorem FindError.isOfTrained_columnTrainingFailed (reason : String) :
    (columnTrainingFailed reason).IsOfTrained := nofun

theorem NumericFilter.isOfTrained_find {f : NumericFilter} {column : Nat} {data : Table}
    {e : FindError} (h : f.find (some column) data = .error e) : e.IsOfTrained := by
  unfold find at h
  split at h
  · next hnone => cases hnone
  · split at h
    · cases h
    · cases h; nofun

theorem RowFinder.NeedsNoTraining.isOfTrained_find {f : RowFinder Empty} (hf : f.NeedsNoTraining)
    {data : Table} {e : FindError} (h : (f.find data).value = .error e) : e.IsOfTrained := by
  cases f with
  | all => cases h
  | range rows =>
    obtain ⟨source, -, rfl⟩ := mapError_eq_error_iff.1 h
    exact FindError.isOfTrained_range source
  | numeric filter trained => exact hf.elim
  | group how finders => exact hf.elim
  | custom finder => exact finder.elim

theorem RowSelector.allFullyTrainable_iff {ss : List (RowSelector Empty)} :
    AllFullyTrainable ss ↔ ∀ s ∈ ss, s.FullyTrainable := by
  induction ss with
  | nil => exact iff_of_true trivial (List.forall_mem_nil _)
  | cons s ss ih => rw [AllFullyTrainable, ih, List.forall_mem_cons]

theorem RowSelector.isOfTrained_find_of_finder {s : RowSelector Empty} {data other : Table}
    {e : FindError}
    (ih : s.finder.FullyTrainable → (s.finder.train data).value.1 = .ok () →
      ((s.finder.train data).value.2.find other).value = .error e → e.IsOfTrained)
    (hs : s.FullyTrainable) (ht : (s.train data).value.1 = .ok ())
    (h : ((s.train data).value.2.find other).value = .error e) : e.IsOfTrained := by
  cases s with
  | plain finder => exact RowFinder.NeedsNoTraining.isOfTrained_find hs h
  | trainable finder => exact ih hs ht h

/-- A query after a successful training finds no untrained part. -/
theorem RowFinder.isOfTrained_find {f : RowFinder Empty} (hf : f.FullyTrainable) {data : Table}
    (ht : (f.train data).value.1 = .ok ()) {other : Table} {e : FindError}
    (h : ((f.train data).value.2.find other).value = .error e) : e.IsOfTrained := by
  induction f with
  | all => exact NeedsNoTraining.isOfTrained_find (f := .all) trivial h
  | range rows => exact NeedsNoTraining.isOfTrained_find (f := .range rows) trivial h
  | numeric filter trained =>
    unfold RowFinder.train at ht h
    cases hfilter : filter.train data with
    | error source => rw [hfilter] at ht; cases ht
    | ok column => rw [hfilter] at h; exact NumericFilter.isOfTrained_find h
  | group how finders ih =>
    rw [FullyTrainable, RowSelector.allFullyTrainable_iff] at hf
    have hall : ∀ s ∈ finders, (s.train data).value.1 = .ok () :=
      RowSelector.trainAll_eq_ok_iff.1 ht
    have hfail : (RowSelector.findAll (RowSelector.trainAll finders 0 data).value.2 other).value =
        .error e := map_eq_error_iff.1 h
    rw [(RowSelector.trainAll_steps finders 0 data).1,
      snd_stepAll_of_ok fun s hs => ⟨(), hall s hs⟩, RowSelector.value_findAll] at hfail
    obtain ⟨before, t, after, hsplit, -, herror⟩ := mapM_eq_error_iff.1 hfail
    obtain ⟨s, hs, rfl⟩ := List.mem_map.1 (hsplit ▸ List.mem_append_right before List.mem_cons_self)
    exact RowSelector.isOfTrained_find_of_finder (ih s hs) (hf s hs) (hall s hs) herror
  | custom finder => exact finder.elim

theorem RowSelector.isOfTrained_find {s : RowSelector Empty} (hs : s.FullyTrainable) {data : Table}
    (ht : (s.train data).value.1 = .ok ()) {other : Table} {e : FindError}
    (h : ((s.train data).value.2.find other).value = .error e) : e.IsOfTrained :=
  isOfTrained_find_of_finder (fun hf ht h => RowFinder.isOfTrained_find hf ht h) hs ht h

/-- No query of the selector finds an untrained part. -/
def RowSelector.Serves (s : RowSelector Empty) : Prop :=
  ∀ data e, (s.find data).value = .error e → e.IsOfTrained

theorem RowSelector.serves_train {s : RowSelector Empty} (hs : s.FullyTrainable) {data : Table}
    (ht : (s.train data).value.1 = .ok ()) : (s.train data).value.2.Serves :=
  fun _ _ h => isOfTrained_find hs ht h

theorem RowSelector.Serves.isOfTrained_subset {s : RowSelector Empty} (h : s.Serves) {data : Table}
    {e : FindError} (hsubset : (s.subset data).value = .error e) : e.IsOfTrained := by
  unfold RowSelector.subset at hsubset
  rw [Logged.value_bind] at hsubset
  cases hfound : (s.find data).value with
  | error source =>
    rw [hfound] at hsubset
    cases hsubset
    exact h data _ hfound
  | ok rows =>
    rw [hfound] at hsubset
    obtain ⟨source, -, rfl⟩ := mapError_eq_error_iff.1 hsubset
    nofun

/-! ## Column finders -/

mutual

/-- Every part of a column finder that a query can reach is trained, or will be before it is asked,
or has failed to be. -/
inductive ColumnFinder.Serves : ColumnFinder Empty → Prop
  | basic {f : ColumnFinder Empty} (h : f.NeedsNoTraining) : ColumnFinder.Serves f
  | variance (filter : VarianceFilter) (choice : VarianceChoice) :
      ColumnFinder.Serves (.variance filter (some choice))
  | group {how : Combination} {finders : List (ColumnSelector Empty)}
      (h : ∀ s ∈ finders, ColumnSelector.Serves s) : ColumnFinder.Serves (.group how finders)
  | pending {rows : RowSelector Empty} {columns : ColumnSelector Empty} (hrows : rows.Serves)
      (hcolumns : columns.FullyTrainable) :
      ColumnFinder.Serves (.pipeline rows columns .columnPending)
  | ready {rows : RowSelector Empty} {columns : ColumnSelector Empty} (hrows : rows.Serves)
      (hcolumns : ColumnSelector.Serves columns) :
      ColumnFinder.Serves (.pipeline rows columns .ready)
  | failed (rows : RowSelector Empty) (columns : ColumnSelector Empty) (reason : String) :
      ColumnFinder.Serves (.pipeline rows columns (.columnTrainingFailed reason))

/-- A plain selector serves if there is nothing to train in it. -/
inductive ColumnSelector.Serves : ColumnSelector Empty → Prop
  | plain {f : ColumnFinder Empty} (h : f.NeedsNoTraining) : ColumnSelector.Serves (.plain f)
  | trainable {f : ColumnFinder Empty} (h : ColumnFinder.Serves f) :
      ColumnSelector.Serves (.trainable f)

end

theorem ColumnSelector.allFullyTrainable_iff {ss : List (ColumnSelector Empty)} :
    AllFullyTrainable ss ↔ ∀ s ∈ ss, s.FullyTrainable := by
  induction ss with
  | nil => exact iff_of_true trivial (List.forall_mem_nil _)
  | cons s ss ih => rw [AllFullyTrainable, ih, List.forall_mem_cons]

theorem ColumnSelector.serves_train_of_finder {s : ColumnSelector Empty} {data : Table}
    (ih : s.finder.FullyTrainable → (s.finder.train data).value.1 = .ok () →
      (s.finder.train data).value.2.Serves)
    (hs : s.FullyTrainable) (ht : (s.train data).value.1 = .ok ()) :
    (s.train data).value.2.Serves := by
  cases s with
  | plain finder => exact .plain hs
  | trainable finder => exact .trainable (ih hs ht)

theorem ColumnFinder.serves_train {f : ColumnFinder Empty} (hf : f.FullyTrainable) {data : Table}
    (ht : (f.train data).value.1 = .ok ()) : (f.train data).value.2.Serves := by
  induction f with
  | all => exact .basic trivial
  | range columns => exact .basic trivial
  | variance filter trained =>
    unfold ColumnFinder.train at ht ⊢
    cases hfilter : filter.train data with
    | error e => rw [hfilter] at ht; cases ht
    | ok choice => exact .variance filter choice
  | group how finders ih =>
    rw [FullyTrainable, ColumnSelector.allFullyTrainable_iff] at hf
    have hall : ∀ s ∈ finders, (s.train data).value.1 = .ok () :=
      ColumnSelector.trainAll_eq_ok_iff.1 ht
    show (group how (ColumnSelector.trainAll finders 0 data).value.2).Serves
    rw [(ColumnSelector.trainAll_steps finders 0 data).1,
      snd_stepAll_of_ok fun s hs => ⟨(), hall s hs⟩]
    refine .group (List.forall_mem_map.2 fun s hs => ?_)
    exact ColumnSelector.serves_train_of_finder (ih s hs) (hf s hs) (hall s hs)
  | pipeline rows columns stage =>
    obtain ⟨hrows, hcolumns⟩ := hf
    cases hrowsTrain : (rows.train data).value.1 with
    | error e => rw [train_pipeline_of_error hrowsTrain] at ht; cases ht
    | ok _ =>
      -- the column finder was not trained along; what counts is that a query will be able to
      rw [train_pipeline_of_ok hrowsTrain]
      exact .pending (RowSelector.serves_train hrows hrowsTrain) hcolumns
  | custom finder => exact finder.elim

theorem ColumnSelector.serves_train {s : ColumnSelector Empty} (hs : s.FullyTrainable)
    {data : Table} (ht : (s.train data).value.1 = .ok ()) : (s.train data).value.2.Serves :=
  serves_train_of_finder (fun hf ht => ColumnFinder.serves_train hf ht) hs ht

/-- A finder that needs no training answers without it, and stays as it is. -/
theorem ColumnFinder.NeedsNoTraining.find {f : ColumnFinder Empty} (hf : f.NeedsNoTraining)
    (data : Table) : (∀ e, (f.find data).value.1 = .error e → e.IsOfTrained) ∧
      (f.find data).value.2 = f := by
  cases f with
  | all =>
    rw [ColumnFinder.find]
    refine ⟨fun e h => ?_, rfl⟩
    cases h
  | range columns =>
    rw [ColumnFinder.find]
    refine ⟨fun e h => ?_, rfl⟩
    obtain ⟨source, -, rfl⟩ := mapError_eq_error_iff.1 h
    exact FindError.isOfTrained_range source
  | variance filter trained => exact hf.elim
  | group how finders => exact hf.elim
  | pipeline rows columns stage => exact hf.elim
  | custom finder => exact finder.elim

theorem ColumnFinder.NeedsNoTraining.serves_find {f : ColumnFinder Empty} (h : f.NeedsNoTraining)
    (data : Table) : (∀ e, (f.find data).value.1 = .error e → e.IsOfTrained) ∧
      (f.find data).value.2.Serves := by
  obtain ⟨herror, hafter⟩ := h.find data
  rw [hafter]
  exact ⟨herror, .basic h⟩

theorem VarianceFilter.isOfTrained_find {choice : VarianceChoice} {data : Table} {e : FindError}
    (h : find (some choice) data = .error e) : e.IsOfTrained := by
  unfold find at h
  split at h
  · next hnone => cases hnone
  · split at h
    · cases h
    · cases h; nofun

theorem ColumnSelector.Serves.find_of_finder {s : ColumnSelector Empty} {data : Table}
    (ih : s.finder.Serves → (∀ e, (s.finder.find data).value.1 = .error e → e.IsOfTrained) ∧
      (s.finder.find data).value.2.Serves) (h : s.Serves) :
    (∀ e, (s.find data).value.1 = .error e → e.IsOfTrained) ∧ (s.find data).value.2.Serves := by
  cases h with
  | plain h =>
    obtain ⟨herror, hafter⟩ := h.find data
    rw [value_find_plain, hafter]
    exact ⟨herror, .plain h⟩
  | trainable h =>
    obtain ⟨herror, hafter⟩ := ih h
    rw [value_find_trainable]
    exact ⟨herror, .trainable hafter⟩

/-- A query finds no untrained part, and leaves none behind that a later one could find. -/
theorem ColumnFinder.Serves.find {f : ColumnFinder Empty} (h : f.Serves) (data : Table) :
    (∀ e, (f.find data).value.1 = .error e → e.IsOfTrained) ∧ (f.find data).value.2.Serves := by
  induction f generalizing data with
  | all => exact NeedsNoTraining.serves_find (f := .all) trivial data
  | range columns => exact NeedsNoTraining.serves_find (f := .range columns) trivial data
  | variance filter trained => cases h with
    | basic h => exact h.elim
    | variance filter choice =>
      rw [ColumnFinder.find]
      exact ⟨fun _ => VarianceFilter.isOfTrained_find, .variance filter choice⟩
  | group how finders ih => cases h with
    | basic h => exact h.elim
    | group h =>
      rw [value_find_group, ColumnSelector.value_findAll, fst_stepAll]
      refine ⟨fun e he => ?_, .group fun t ht => ?_⟩
      · obtain ⟨before, s, after, rfl, -, herror⟩ := mapM_eq_error_iff.1 (map_eq_error_iff.1 he)
        have hs : s ∈ before ++ s :: after := List.mem_append_right before List.mem_cons_self
        exact ((h s hs).find_of_finder (ih s hs · data)).1 e herror
      · obtain ⟨s, hs, rfl | rfl⟩ := exists_of_mem_stepAll ht
        · exact ((h s hs).find_of_finder (ih s hs · data)).2
        · exact h t hs
  | pipeline rows columns stage ih => cases h with
    | basic h => exact h.elim
    | pending hrows hcolumns =>
      cases hs : (rows.subset data).value with
      | error e =>
        rw [find_missed rfl hs]
        refine ⟨fun e' he => ?_, .pending hrows hcolumns⟩
        cases he
        exact hrows.isOfTrained_subset hs
      | ok kept =>
        cases ht : (columns.train kept).value.1 with
        | error e =>
          rw [find_pending_of_error hs ht]
          refine ⟨fun e' he => ?_, .failed _ _ _⟩
          cases he
          exact FindError.isOfTrained_columnTrainingFailed _
        | ok _ =>
          -- the column finder was trained just now, so it serves the query that comes next
          have hserves := ColumnSelector.serves_train hcolumns ht
          have hfind := hserves.find_of_finder (ih _ (columns.size_train kept) · kept)
          rw [find_pending_of_ok hs ht]
          exact ⟨hfind.1, .ready hrows hfind.2⟩
    | ready hrows hcolumns =>
      cases hs : (rows.subset data).value with
      | error e =>
        rw [find_missed rfl hs]
        refine ⟨fun e' he => ?_, .ready hrows hcolumns⟩
        cases he
        exact hrows.isOfTrained_subset hs
      | ok kept =>
        have hfind := hcolumns.find_of_finder (ih columns rfl · kept)
        rw [find_ready hs]
        exact ⟨hfind.1, .ready hrows hfind.2⟩
    | failed rows columns reason =>
      rw [find_refused rfl]
      refine ⟨fun e he => ?_, .failed _ _ _⟩
      cases he
      exact FindError.isOfTrained_columnTrainingFailed reason
  | custom finder => exact finder.elim

theorem ColumnSelector.Serves.find {s : ColumnSelector Empty} (h : s.Serves) (data : Table) :
    (∀ e, (s.find data).value.1 = .error e → e.IsOfTrained) ∧ (s.find data).value.2.Serves :=
  h.find_of_finder (ColumnFinder.Serves.find · data)

/-! ## Failed pipelines -/

namespace Pipeline

variable {α : Type} [CustomFinder α] {p : Pipeline α} {data kept : Table} {e : TrainError}
  {reason : String}

theorem replies_of_failed (h : p.stage = .columnTrainingFailed reason) (queries : List Table) :
    (Finder.column p.finder).replies (queries.map .find) =
      queries.map fun _ => .found (.error (.columnTrainingFailed reason)) := by
  have hfind (data : Table) : (Finder.column p.finder).find data =
      (.error (.columnTrainingFailed reason), .column p.finder) := by
    rw [finder, h, Finder.find, ColumnFinder.find_refused rfl]
    rfl
  induction queries with
  | nil => rfl
  | cons data queries ih =>
    rw [List.map_cons, Finder.replies, Finder.respond, hfind, List.map_cons]
    exact congrArg _ ih

theorem replies_of_failing (h : p.stage = .columnPending) (hkept : p.rows.Keeps data kept)
    (htrain : (p.columns.train kept).value.1 = .error e) (queries : List Table) :
    (Finder.column p.finder).replies ((data :: queries).map .find) =
      (data :: queries).map fun _ => .found (.error (.columnTrainingFailed e.message)) := by
  obtain ⟨rows, columns, stage⟩ := p
  subst h
  have hsubset := RowSelector.value_subset_eq_ok_iff.2 hkept
  have hfind := ColumnFinder.find_pending_of_error hsubset htrain
  rw [List.map_cons, Finder.replies, Finder.respond, finder, Finder.find, hfind, List.map_cons]
  exact congrArg _ (replies_of_failed
    (p := ⟨rows, (columns.train kept).value.2, .columnTrainingFailed e.message⟩) rfl queries)

/-- A failure to train the column finder is the answer to the query that fails to, and to all later
ones. -/
structure ReportsFailure (p : Pipeline Empty) : Prop where
  failing : ∀ data kept e, p.stage = .columnPending → p.rows.Keeps data kept →
    (p.columns.train kept).value.1 = .error e → ∀ queries : List Table,
      (Finder.column p.finder).replies ((data :: queries).map .find) =
        (data :: queries).map fun _ => .found (.error (.columnTrainingFailed e.message))
  failed : ∀ reason, p.stage = .columnTrainingFailed reason → ∀ queries : List Table,
    (Finder.column p.finder).replies (queries.map .find) =
      queries.map fun _ => .found (.error (.columnTrainingFailed reason))

end Pipeline

/-! ## Finders of either kind -/

namespace Finder

variable {f : Finder Empty} {data : Table}

/-- No query of the finder finds an untrained part. -/
def Serves : Finder Empty → Prop
  | row f => ∀ data e, (f.find data).value = .error e → e.IsOfTrained
  | column f => f.Serves
  | rowSelector s => s.Serves
  | columnSelector s => s.Serves

theorem serves_train (hf : f.FullyTrainable) (ht : (f.train data).1 = .ok ()) :
    (f.train data).2.Serves := by
  cases f with
  | row f => exact fun _ _ h => RowFinder.isOfTrained_find hf ht h
  | column f => exact ColumnFinder.serves_train hf ht
  | rowSelector s => exact RowSelector.serves_train hf ht
  | columnSelector s => exact ColumnSelector.serves_train hf ht

theorem Serves.find (h : f.Serves) (data : Table) :
    (∀ e, (f.find data).1 = .error e → e.IsOfTrained) ∧ (f.find data).2.Serves := by
  cases f with
  | row f => exact ⟨h data, h⟩
  | column f => exact ColumnFinder.Serves.find h data
  | rowSelector s => exact ⟨h data, h⟩
  | columnSelector s => exact ColumnSelector.Serves.find h data

/-- By induction on the queries: each leaves the finder so that the next finds no untrained part. -/
theorem Serves.replies (h : f.Serves) (queries : List Table) :
    ∀ reply ∈ f.replies (queries.map .find), ∀ finder,
      reply ≠ .found (.error (.notTrained finder)) := by
  induction queries generalizing f with
  | nil => nofun
  | cons data queries ih =>
    obtain ⟨herror, hafter⟩ := h.find data
    refine List.forall_mem_cons.2 ⟨fun finder hreply => ?_, ih hafter⟩
    exact herror _ (Reply.found.inj hreply) finder rfl

/-! ## Top theorem -/

/-- **A successful training lasts.** If training reaches every part of a finder that needs it, then
no query after a successful training finds an untrained part, whatever tables the queries before it
were about and whether they failed. If a query fails to train the column finder of a pipeline in the
tree, the pipeline gives the reason as its answer to that query and to all later ones. -/
theorem training_lasts (hf : f.FullyTrainable) (htrain : (f.train data).1 = .ok ())
    (queries : List Table) :
    let g := (f.train data).2
    (∀ reply ∈ g.replies (queries.map .find), ∀ finder,
        reply ≠ .found (.error (.notTrained finder))) ∧
      ∀ p ∈ (g.after (queries.map .find)).pipelines, p.ReportsFailure := by
  refine ⟨(serves_train hf htrain).replies queries, fun p _ => ⟨?_, ?_⟩⟩
  · exact fun data kept e hstage hkept ht => p.replies_of_failing hstage hkept ht
  · exact fun reason hstage => p.replies_of_failed hstage

theorem training_lasts_in_pipeline :
    let varying : ColumnFinder Empty :=
      .variance { candidates := Range.single (.placeholder .third) } none
    let f : Finder Empty := column (.pipeline (.plain .all) (.trainable varying) .untrained)
    let g := (f.train (.withoutColumns 1)).2
    f.FullyTrainable ∧ (f.train (.withoutColumns 1)).1 = .ok () ∧
      (∀ queries : List Table, ∀ reply ∈ g.replies (queries.map .find), ∀ finder,
        reply ≠ .found (.error (.notTrained finder))) ∧
      ∃ data, Table.ofColumns [⟨"x", .integer true 64, [some 1]⟩] = .ok data ∧
        g.replies ([data, data].map .find) = [data, data].map fun _ =>
          .found (.error (.columnTrainingFailed
            "Range error: 'third' is out of bounds for 1 entries")) := by
  intro varying f g
  have hf : f.FullyTrainable := ⟨trivial, trivial⟩
  have htrain : (f.train (.withoutColumns 1)).1 = .ok () := rfl
  obtain ⟨data, hdata⟩ : ∃ data,
      Table.ofColumns [⟨"x", .integer true 64, [some 1]⟩] = .ok data := ⟨_, rfl⟩
  have hkept : (RowSelector.plain .all : RowSelector Empty).Keeps data data := by
    cases hdata; exact ⟨[0], rfl, rfl⟩
  have hfails : ((ColumnSelector.trainable varying).train data).value.1 =
      .error (.range (.outOfBounds "third" 1)) := by
    cases hdata; rfl
  refine ⟨hf, htrain, fun queries => (training_lasts hf htrain queries).1, data, hdata, ?_⟩
  have hreports := (training_lasts hf htrain []).2 _ List.mem_cons_self
  exact hreports.failing data data _ rfl hkept hfails [data]

end Finder

end TableSelection
