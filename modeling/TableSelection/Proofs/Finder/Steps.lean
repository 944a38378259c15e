import TableSelection.Finder.ColumnFinder
import TableSelection.Proofs.Outcome

/-!
# What one operation does

Training, queries and resets work off a group selector by selector, and a query of a pipeline goes
through its parts. Here each way that such an operation can take is one equation, for its result, the
finder after it and, for a pipeline, the calls made:

    trainAll stops at the first selector that fails     (trainAll_cons_of_ok, trainAll_cons_of_error)
    findAll stops at the first selector that fails      (findAll_cons_of_ok, findAll_cons_of_error)
    as a whole both are steps of the selectors          (trainAll_steps, value_findAll)
    resetAll goes to all selectors                      (value_resetAll)
    a query of a pipeline is refused, misses the rows,
    trains the column finder first, or is passed on     (find_refused, find_missed, find_pending_of_ok,
                                                         find_pending_of_error, find_ready)
    a variance filter learns a choice and answers it    (train_variance_of_ok, find_variance_of_some)
-/

namespace TableSelection

namespace Logged

variable {α β γ : Type}

theorem pure_eq (b : β) : (pure b : Logged α β) = ⟨b, []⟩ := rfl

theorem bind_eq (x : Logged α β) (f : β → Logged α γ) :
    x >>= f = ⟨(f x.value).value, x.calls ++ (f x.value).calls⟩ := rfl

end Logged

variable {α : Type} [CustomFinder α] {data : Table}

/-! ## Groups of row finders -/

namespace RowSelector

variable {s : RowSelector α} {rest : List (RowSelector α)} {number : Nat}

theorem trainAll_cons_of_ok (h : (s.train data).value.1 = .ok ()) :
    (trainAll (s :: rest) number data).value =
      ((trainAll rest (number + 1) data).value.1,
        (s.train data).value.2 :: (trainAll rest (number + 1) data).value.2) := by
  rcases hs : (s.train data).value with ⟨result, s'⟩
  rw [hs] at h
  subst h
  simp only [trainAll, Logged.value_bind, hs, Logged.value_pure]

theorem trainAll_cons_of_error {e : TrainError} (h : (s.train data).value.1 = .error e) :
    (trainAll (s :: rest) number data).value =
      (.error (.child number e), (s.train data).value.2 :: rest) := by
  rcases hs : (s.train data).value with ⟨result, s'⟩
  rw [hs] at h
  subst h
  simp only [trainAll, Logged.value_bind, hs, Logged.value_pure]

theorem findAll_cons_of_ok {rows : List Nat} (h : (s.find data).value = .ok rows) :
    (findAll (s :: rest) data).value = (findAll rest data).value.map (rows :: ·) := by
  simp only [findAll, Logged.value_bind, h, Logged.value_pure]

theorem findAll_cons_of_error {e : FindError} (h : (s.find data).value = .error e) :
    (findAll (s :: rest) data).value = .error e := by
  simp only [findAll, Logged.value_bind, h, Logged.value_pure]

/-- Several selectors are trained as a list of states is worked off; only the error is another. -/
theorem trainAll_steps (ss : List (RowSelector α)) (number : Nat) (data : Table) :
    (trainAll ss number data).value.2 = (stepAll (fun s => (s.train data).value) ss).2 ∧
      (trainAll ss number data).value.1.isOk =
        (stepAll (fun s => (s.train data).value) ss).1.isOk := by
  induction ss generalizing number with
  | nil => exact ⟨rfl, rfl⟩
  | cons s ss ih =>
    obtain ⟨hafter, hresult⟩ := ih (number + 1)
    cases h : (s.train data).value.1 with
    | error e =>
      rw [trainAll_cons_of_error h, stepAll_cons_of_error h]
      exact ⟨rfl, rfl⟩
    | ok _ =>
      rw [trainAll_cons_of_ok h, stepAll_cons_of_ok h, hafter, hresult]
      exact ⟨rfl, by cases (stepAll _ ss).1 <;> rfl⟩

theorem trainAll_eq_ok_iff {ss : List (RowSelector α)} :
    (trainAll ss number data).value.1 = .ok () ↔ ∀ s ∈ ss, (s.train data).value.1 = .ok () := by
  rw [← isOk_unit_iff, (trainAll_steps ss number data).2, isOk_iff, fst_stepAll,
    exists_mapM_eq_ok_iff]
  exact forall₂_congr fun s _ => by rw [← isOk_iff, isOk_unit_iff]

theorem find_eq (s : RowSelector α) (data : Table) : s.find data = s.finder.find data := by
  cases s <;> rfl

/-- The rows that several selectors choose are looked for one by one. -/
theorem value_findAll (ss : List (RowSelector α)) (data : Table) :
    (findAll ss data).value = ss.mapM fun s => (s.find data).value := by
  induction ss with
  | nil => rfl
  | cons s ss ih =>
    rw [List.mapM_cons, ← ih]
    cases h : (s.find data).value with
    | error e => rw [findAll_cons_of_error h]; rfl
    | ok rows => rw [findAll_cons_of_ok h]; rfl

theorem value_resetAll (ss : List (RowSelector α)) :
    (resetAll ss).value = ss.map fun s => s.reset.value := by
  induction ss with
  | nil => rfl
  | cons s ss ih => exact congrArg _ ih

theorem allTrained_eq_all (ss : List (RowSelector α)) : allTrained ss = ss.all isTrained := by
  induction ss with
  | nil => rfl
  | cons s ss ih => rw [allTrained, ih, List.all_cons]

/-- A subset is what is kept of a table if the rows found in it are selected. -/
theorem value_subset_eq_ok_iff {t : Table} : (s.subset data).value = .ok t ↔
    ∃ rows, (s.find data).value = .ok rows ∧ data.selectRows rows = .ok t := by
  simp only [subset, Logged.value_bind]
  cases (s.find data).value with
  | error e => simp
  | ok rows =>
    simp only [Logged.value_pure, Except.ok.injEq, exists_eq_left']
    cases data.selectRows rows with
    | error e => exact iff_of_false nofun nofun
    | ok kept =>
      show (.ok kept : Except FindError Table) = .ok t ↔ _
      rw [Except.ok.injEq, Except.ok.injEq]

theorem calls_subset : (s.subset data).calls = (s.find data).calls := by
  simp only [subset, Logged.calls_bind]
  cases (s.find data).value <;> simp

end RowSelector

theorem RowFinder.value_reset_group {how : Combination} {finders : List (RowSelector α)} :
    (group how finders).reset.value = .group how (RowSelector.resetAll finders).value := rfl

/-! ## Groups of column finders -/

namespace ColumnSelector

variable {f : ColumnFinder α} {s : ColumnSelector α} {rest : List (ColumnSelector α)} {number : Nat}

theorem trainAll_cons_of_ok (h : (s.train data).value.1 = .ok ()) :
    (trainAll (s :: rest) number data).value =
      ((trainAll rest (number + 1) data).value.1,
        (s.train data).value.2 :: (trainAll rest (number + 1) data).value.2) := by
  rcases hs : (s.train data).value with ⟨result, s'⟩
  rw [hs] at h
  subst h
  simp only [trainAll, Logged.value_bind, hs, Logged.value_pure]

theorem trainAll_cons_of_error {e : TrainError} (h : (s.train data).value.1 = .error e) :
    (trainAll (s :: rest) number data).value =
      (.error (.child number e), (s.train data).value.2 :: rest) := by
  rcases hs : (s.train data).value with ⟨result, s'⟩
  rw [hs] at h
  subst h
  simp only [trainAll, Logged.value_bind, hs, Logged.value_pure]

theorem value_train_trainable : ((trainable f).train data).value =
    ((f.train data).value.1, .trainable (f.train data).value.2) := rfl

theorem value_find_plain : ((plain f).find data).value =
    ((f.find data).value.1, .plain (f.find data).value.2) := by
  rw [find]
  rfl

theorem value_find_trainable : ((trainable f).find data).value =
    ((f.find data).value.1, .trainable (f.find data).value.2) := by
  rw [find]
  rfl

theorem value_findAll_nil : (findAll ([] : List (ColumnSelector α)) data).value = (.ok [], []) := by
  rw [findAll]
  rfl

theorem findAll_cons_of_ok {columns : List Nat} (h : (s.find data).value.1 = .ok columns) :
    (findAll (s :: rest) data).value =
      ((findAll rest data).value.1.map (columns :: ·),
        (s.find data).value.2 :: (findAll rest data).value.2) := by
  rcases hs : (s.find data).value with ⟨found, s'⟩
  rw [hs] at h
  subst h
  rw [findAll]
  simp only [Logged.value_bind, hs, Logged.value_pure]

theorem findAll_cons_of_error {e : FindError} (h : (s.find data).value.1 = .error e) :
    (findAll (s :: rest) data).value = (.error e, (s.find data).value.2 :: rest) := by
  rcases hs : (s.find data).value with ⟨found, s'⟩
  rw [hs] at h
  subst h
  rw [findAll]
  simp only [Logged.value_bind, hs, Logged.value_pure]

theorem fst_find (s : ColumnSelector α) (data : Table) :
    (s.find data).value.1 = (s.finder.find data).value.1 := by
  cases s with
  | plain finder => rw [value_find_plain]; rfl
  | trainable finder => rw [value_find_trainable]; rfl

theorem finder_train (s : ColumnSelector α) (data : Table) :
    (s.train data).value.2.finder = s.finder ∨
      (s.train data).value.2.finder = (s.finder.train data).value.2 := by
  cases s with
  | plain finder => exact .inl rfl
  | trainable finder => exact .inr rfl

theorem finder_reset (s : ColumnSelector α) :
    s.reset.value.finder = s.finder ∨ s.reset.value.finder = s.finder.reset.value := by
  cases s with
  | plain finder => exact .inl rfl
  | trainable finder => exact .inr rfl

theorem finder_find (s : ColumnSelector α) (data : Table) :
    (s.find data).value.2.finder = (s.finder.find data).value.2 := by
  cases s with
  | plain finder => rw [value_find_plain]; rfl
  | trainable finder => rw [value_find_trainable]; rfl

/-- Several selectors are trained as a list of states is worked off; only the error is another. -/
theorem trainAll_steps (ss : List (ColumnSelector α)) (number : Nat) (data : Table) :
    (trainAll ss number data).value.2 = (stepAll (fun s => (s.train data).value) ss).2 ∧
      (trainAll ss number data).value.1.isOk =
        (stepAll (fun s => (s.train data).value) ss).1.isOk := by
  induction ss generalizing number with
  | nil => exact ⟨rfl, rfl⟩
  | cons s ss ih =>
    obtain ⟨hafter, hresult⟩ := ih (number + 1)
    cases h : (s.train data).value.1 with
    | error e =>
      rw [trainAll_cons_of_error h, stepAll_cons_of_error h]
      exact ⟨rfl, rfl⟩
    | ok _ =>
      rw [trainAll_cons_of_ok h, stepAll_cons_of_ok h, hafter, hresult]
      exact ⟨rfl, by cases (stepAll _ ss).1 <;> rfl⟩

theorem trainAll_eq_ok_iff {ss : List (ColumnSelector α)} :
    (trainAll ss number data).value.1 = .ok () ↔ ∀ s ∈ ss, (s.train data).value.1 = .ok () := by
  rw [← isOk_unit_iff, (trainAll_steps ss number data).2, isOk_iff, fst_stepAll,
    exists_mapM_eq_ok_iff]
  exact forall₂_congr fun s _ => by rw [← isOk_iff, isOk_unit_iff]

theorem value_findAll (ss : List (ColumnSelector α)) (data : Table) :
    (findAll ss data).value = stepAll (fun s => (s.find data).value) ss := by
  induction ss with
  | nil => exact value_findAll_nil
  | cons s ss ih =>
    cases h : (s.find data).value.1 with
    | error e => rw [findAll_cons_of_error h, stepAll_cons_of_error h]
    | ok columns => rw [findAll_cons_of_ok h, stepAll_cons_of_ok h, ih]

theorem value_resetAll (ss : List (ColumnSelector α)) :
    (resetAll ss).value = ss.map fun s => s.reset.value := by
  induction ss with
  | nil => rfl
  | cons s ss ih => exact congrArg _ ih

theorem allTrained_eq_all (ss : List (ColumnSelector α)) : allTrained ss = ss.all isTrained := by
  induction ss with
  | nil => rfl
  | cons s ss ih => rw [allTrained, ih, List.all_cons]

end ColumnSelector

/-! ## Column finders -/

/-- What a pipeline answers in a stage in which it is not trained. -/
def Stage.refusal : Stage → FindError
  | .columnTrainingFailed reason => .columnTrainingFailed reason
  | _ => .notTrained "RowFilteredColumnFinder"

namespace ColumnFinder

variable {how : Combination} {finders : List (ColumnSelector α)} {rows : RowSelector α}
  {columns : ColumnSelector α} {stage : Stage} {subset : Table}

/-! ### Variance filters -/

section Variance

variable {f : VarianceFilter} {learnt : Option VarianceChoice}

theorem train_variance_of_ok {c : VarianceChoice} (h : f.train data = .ok c) :
    ((variance f learnt : ColumnFinder α).train data).value = (.ok (), .variance f (some c)) := by
  simp only [train, h]
  rfl

theorem train_variance_of_error {e : TrainError} (h : f.train data = .error e) :
    ((variance f learnt : ColumnFinder α).train data).value = (.error e, .variance f none) := by
  simp only [train, h]
  rfl

/-- A filter that has learnt something answers tables with as many columns. -/
theorem find_variance_of_some (c : VarianceChoice) :
    ((variance f (some c) : ColumnFinder α).find data).value =
      (if c.columns = data.columnCount then .ok c.selected
        else .error (.layoutMismatch c.columns data.columnCount), .variance f (some c)) := by
  rw [find]
  rfl

end Variance

/-! ### Groups and pipelines -/

theorem value_find_group : ((group how finders).find data).value =
    ((ColumnSelector.findAll finders data).value.1.map how.combine,
      .group how (ColumnSelector.findAll finders data).value.2) := by
  rw [find]
  rfl

theorem value_reset_group :
    (group how finders).reset.value = .group how (ColumnSelector.resetAll finders).value := rfl

theorem value_reset_pipeline : (pipeline rows columns stage).reset.value =
    .pipeline rows.reset.value columns.reset.value .untrained := rfl

theorem train_pipeline_of_ok (h : (rows.train data).value.1 = .ok ()) :
    (pipeline rows columns stage).train data =
      ⟨(.ok (), .pipeline (rows.train data).value.2 columns .columnPending),
        (rows.train data).calls⟩ := by
  rcases hs : (rows.train data).value with ⟨result, rows'⟩
  rw [hs] at h
  subst h
  simp only [train, Logged.bind_eq, hs, Logged.pure_eq, List.append_nil]

theorem train_pipeline_of_error {e : TrainError} (h : (rows.train data).value.1 = .error e) :
    (pipeline rows columns stage).train data =
      ⟨(.error e, .pipeline (rows.train data).value.2 columns .rowTrainingFailed),
        (rows.train data).calls⟩ := by
  rcases hs : (rows.train data).value with ⟨result, rows'⟩
  rw [hs] at h
  subst h
  simp only [train, Logged.bind_eq, hs, Logged.pure_eq, List.append_nil]

theorem find_refused (h : stage.isTrained = false) :
    (pipeline rows columns stage).find data =
      ⟨(.error stage.refusal, .pipeline rows columns stage), []⟩ := by
  cases stage with
  | columnPending => cases h
  | ready => cases h
  | untrained => rw [find]; rfl
  | rowTrainingFailed => rw [find]; rfl
  | columnTrainingFailed reason => rw [find]; rfl

theorem find_missed (h : stage.isTrained = true) {e : FindError}
    (hs : (rows.subset data).value = .error e) :
    (pipeline rows columns stage).find data =
      ⟨(.error e, .pipeline rows columns stage), (rows.subset data).calls⟩ := by
  cases stage with
  | columnPending =>
    rw [find]
    simp only [Logged.bind_eq, hs, Logged.pure_eq, List.append_nil]
  | ready =>
    rw [find]
    simp only [Logged.bind_eq, hs, Logged.pure_eq, List.append_nil]
  | untrained => cases h
  | rowTrainingFailed => cases h
  | columnTrainingFailed reason => cases h

theorem find_pending_of_ok (hs : (rows.subset data).value = .ok subset)
    (ht : (columns.train subset).value.1 = .ok ()) :
    (pipeline rows columns .columnPending).find data =
      let found := (columns.train subset).value.2.find subset
      ⟨(found.value.1, .pipeline rows found.value.2 .ready),
        (rows.subset data).calls ++ ((columns.train subset).calls ++ found.calls)⟩ := by
  rw [find]
  simp only [Logged.bind_eq, hs, ht]

theorem find_pending_of_error (hs : (rows.subset data).value = .ok subset) {e : TrainError}
    (ht : (columns.train subset).value.1 = .error e) :
    (pipeline rows columns .columnPending).find data =
      ⟨(.error (.columnTrainingFailed e.message),
          .pipeline rows (columns.train subset).value.2 (.columnTrainingFailed e.message)),
        (rows.subset data).calls ++ (columns.train subset).calls⟩ := by
  rw [find]
  simp only [Logged.bind_eq, hs, ht]

/-- What the first query answers and leaves behind, in terms of the column finder that it trained. -/
theorem value_find_pending {trained : ColumnSelector α}
    (hs : (rows.subset data).value = .ok subset)
    (ht : (columns.train subset).value = (.ok (), trained)) :
    ((pipeline rows columns .columnPending).find data).value =
      ((trained.find subset).value.1, .pipeline rows (trained.find subset).value.2 .ready) := by
  rw [find_pending_of_ok hs (congrArg Prod.fst ht), ht]

theorem find_ready (hs : (rows.subset data).value = .ok subset) :
    (pipeline rows columns .ready).find data =
      ⟨((columns.find subset).value.1, .pipeline rows (columns.find subset).value.2 .ready),
        (rows.subset data).calls ++ (columns.find subset).calls⟩ := by
  rw [find]
  simp only [Logged.bind_eq, hs, Logged.pure_eq, List.append_nil]

/-- Everything that a query of a pipeline can do. -/
theorem find_pipeline_cases (rows : RowSelector α) (columns : ColumnSelector α) (stage : Stage)
    (data : Table) :
    (stage.isTrained = false ∧ (pipeline rows columns stage).find data =
      ⟨(.error stage.refusal, .pipeline rows columns stage), []⟩) ∨
    (∃ e, stage.isTrained = true ∧ (rows.subset data).value = .error e ∧
      (pipeline rows columns stage).find data =
        ⟨(.error e, .pipeline rows columns stage), (rows.subset data).calls⟩) ∨
    (∃ subset e, stage = .columnPending ∧ (rows.subset data).value = .ok subset ∧
      (columns.train subset).value.1 = .error e ∧
      (pipeline rows columns stage).find data =
        ⟨(.error (.columnTrainingFailed e.message),
            .pipeline rows (columns.train subset).value.2 (.columnTrainingFailed e.message)),
          (rows.subset data).calls ++ (columns.train subset).calls⟩) ∨
    (∃ subset, stage = .columnPending ∧ (rows.subset data).value = .ok subset ∧
      (columns.train subset).value.1 = .ok () ∧
      (pipeline rows columns stage).find data =
        let found := (columns.train subset).value.2.find subset
        ⟨(found.value.1, .pipeline rows found.value.2 .ready),
          (rows.subset data).calls ++ ((columns.train subset).calls ++ found.calls)⟩) ∨
    ∃ subset, stage = .ready ∧ (rows.subset data).value = .ok subset ∧
      (pipeline rows columns stage).find data =
        ⟨((columns.find subset).value.1, .pipeline rows (columns.find subset).value.2 .ready),
          (rows.subset data).calls ++ (columns.find subset).calls⟩ := by
  cases hstage : stage.isTrained with
  | false => exact .inl ⟨rfl, find_refused hstage⟩
  | true =>
    cases hs : (rows.subset data).value with
    | error e => exact .inr (.inl ⟨e, rfl, rfl, find_missed hstage hs⟩)
    | ok subset =>
      cases stage with
      | untrained => cases hstage
      | rowTrainingFailed => cases hstage
      | columnTrainingFailed reason => cases hstage
      | ready => exact .inr (.inr (.inr (.inr ⟨subset, rfl, rfl, find_ready hs⟩)))
      | columnPending =>
        cases ht : (columns.train subset).value.1 with
        | error e =>
          exact .inr (.inr (.inl ⟨subset, e, rfl, rfl, ht, find_pending_of_error hs ht⟩))
        | ok _ => exact .inr (.inr (.inr (.inl ⟨subset, rfl, rfl, ht, find_pending_of_ok hs ht⟩)))

end ColumnFinder

end TableSelection
