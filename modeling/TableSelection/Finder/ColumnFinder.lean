import TableSelection.Finder.RowFinder

/-!
# Column finders

A column finder chooses columns of a table. One kind is a pipeline: it chooses rows first, and its
column finder sees only the table that these rows make up. Training a pipeline trains its row
finder; the column finder is trained by the first query after that, on the rows chosen for that
query. So a query may change a column finder, and gives it back as it is then.

A query recurses into a column finder that it has just trained. Training keeps the size of a
finder (`size_train`), which bounds that recursion.
-/

namespace TableSelection

/-- How far a pipeline has come. -/
inductive Stage
  /-- Not trained since it was built, reset or changed. -/
  | untrained
  /-- The row finder could not be trained. -/
  | rowTrainingFailed
  /-- The row finder is trained, and the next query trains the column finder. -/
  | columnPending
  /-- A query has trained the column finder. -/
  | ready
  /-- The column finder could not be trained, and no query is answered. -/
  | columnTrainingFailed (reason : String)
  deriving DecidableEq, Repr

instance : Inhabited Stage := ⟨.untrained⟩

/-- Whether a pipeline in this stage counts as trained. -/
def Stage.isTrained : Stage → Bool
  | .columnPending | .ready => true
  | .untrained | .rowTrainingFailed | .columnTrainingFailed _ => false

mutual

/-- A finder of columns, together with what it has learnt in training. -/
inductive ColumnFinder (α : Type)
  /-- Chooses every column. -/
  | all
  | range (columns : Range)
  /-- Chooses the columns that varied enough in training. -/
  | variance (filter : VarianceFilter) (trained : Option VarianceChoice)
  /-- Combines the columns of several finders. -/
  | group (how : Combination) (finders : List (ColumnSelector α))
  /-- Chooses columns of the rows that a row finder chooses. -/
  | pipeline (rows : RowSelector α) (columns : ColumnSelector α) (stage : Stage)
  | custom (finder : α)

/-- A column finder with or without the ability to be trained. -/
inductive ColumnSelector (α : Type)
  | plain (finder : ColumnFinder α)
  | trainable (finder : ColumnFinder α)

end

instance {α : Type} : Inhabited (ColumnFinder α) := ⟨.all⟩

instance {α : Type} : Inhabited (ColumnSelector α) := ⟨.plain .all⟩

variable {α : Type}

def ColumnSelector.finder : ColumnSelector α → ColumnFinder α
  | .plain finder => finder
  | .trainable finder => finder

mutual

/-- How many finders there are in a column finder. -/
def ColumnFinder.size : ColumnFinder α → Nat
  | .all | .range _ | .variance _ _ | .custom _ => 1
  | .group _ finders => ColumnSelector.sizeAll finders + 1
  | .pipeline _ columns _ => columns.size + 1

/-- The size of a selector, which counts as one more than its finder. -/
def ColumnSelector.size : ColumnSelector α → Nat
  | .plain finder => finder.size + 1
  | .trainable finder => finder.size + 1

def ColumnSelector.sizeAll : List (ColumnSelector α) → Nat
  | [] => 0
  | s :: rest => s.size + ColumnSelector.sizeAll rest + 1

end

theorem ColumnSelector.size_finder (s : ColumnSelector α) : s.size = s.finder.size + 1 := by
  cases s <;> rfl

theorem ColumnSelector.size_le_sizeAll {s : ColumnSelector α} {ss : List (ColumnSelector α)}
    (h : s ∈ ss) : s.size ≤ sizeAll ss := by
  induction ss with
  | nil => cases h
  | cons t ss ih =>
      rw [sizeAll]
      rcases List.mem_cons.1 h with rfl | h
      · omega
      · have hs := ih h
        omega

/-- Induction on a tree of column finders: a group holds the finders of its selectors, and a
pipeline that of any selector as large as its own. A selector that was just trained is one. -/
@[elab_as_elim, induction_eliminator]
theorem ColumnFinder.tree_induction {motive : ColumnFinder α → Prop} (all : motive .all)
    (range : ∀ columns, motive (.range columns))
    (variance : ∀ filter trained, motive (.variance filter trained))
    (group : ∀ how finders, (∀ s ∈ finders, motive s.finder) → motive (.group how finders))
    (pipeline : ∀ rows columns stage,
      (∀ s : ColumnSelector α, s.size = columns.size → motive s.finder) →
        motive (.pipeline rows columns stage))
    (custom : ∀ finder, motive (.custom finder)) (f : ColumnFinder α) : motive f := by
  cases f with
  | all => exact all
  | range columns => exact range columns
  | variance filter trained => exact variance filter trained
  | group how finders =>
      exact group how finders fun s _ =>
        tree_induction all range variance group pipeline custom s.finder
  | pipeline rows columns stage =>
      exact pipeline rows columns stage fun s _ =>
        tree_induction all range variance group pipeline custom s.finder
  | custom finder => exact custom finder
termination_by f.size
decreasing_by
  · next hs =>
    have hsize := ColumnSelector.size_le_sizeAll hs
    have hfinder := s.size_finder
    subst_vars
    simp only [ColumnFinder.size]
    omega
  · next hs =>
    have hfinder := s.size_finder
    subst_vars
    simp only [ColumnFinder.size]
    omega

variable [CustomFinder α]

/-! ## Training -/

mutual

def ColumnFinder.isTrained : ColumnFinder α → Bool
  | .all => true
  | .range _ => true
  | .variance _ trained => trained.isSome
  | .group _ finders => ColumnSelector.allTrained finders
  | .pipeline _ _ stage => stage.isTrained
  | .custom finder => CustomFinder.isTrained finder

def ColumnSelector.isTrained : ColumnSelector α → Bool
  | .plain _ => true
  | .trainable finder => finder.isTrained

def ColumnSelector.allTrained : List (ColumnSelector α) → Bool
  | [] => true
  | s :: rest => s.isTrained && ColumnSelector.allTrained rest

end

mutual

/-- Trains a finder on a table. Of a pipeline only the row finder is trained. -/
def ColumnFinder.train : ColumnFinder α → Table → Logged α (Except TrainError Unit × ColumnFinder α)
  | .all, _ => pure (.ok (), .all)
  | .range columns, _ => pure (.ok (), .range columns)
  | .variance filter _, data =>
      match filter.train data with
      | .ok choice => pure (.ok (), .variance filter (some choice))
      | .error e => pure (.error e, .variance filter none)
  | .group how finders, data => do
      let (result, finders) ← ColumnSelector.trainAll finders 0 data
      return (result, .group how finders)
  | .pipeline rows columns _, data => do
      match ← rows.train data with
      | (.ok (), rows) => return (.ok (), .pipeline rows columns .columnPending)
      | (.error e, rows) => return (.error e, .pipeline rows columns .rowTrainingFailed)
  | .custom finder, data =>
      let (result, after) := CustomFinder.train finder data
      ⟨(result, .custom after), [.train finder data]⟩

def ColumnSelector.train : ColumnSelector α → Table →
    Logged α (Except TrainError Unit × ColumnSelector α)
  | .plain finder, _ => pure (.ok (), .plain finder)
  | .trainable finder, data => do
      let (result, finder) ← finder.train data
      return (result, .trainable finder)

/-- Trains selectors one after the other; the first of them has the given number in its group. Those
behind a failure are left as they are. -/
def ColumnSelector.trainAll : List (ColumnSelector α) → (number : Nat) → Table →
    Logged α (Except TrainError Unit × List (ColumnSelector α))
  | [], _, _ => pure (.ok (), [])
  | s :: rest, number, data => do
      match ← s.train data with
      | (.error e, s) => return (.error (.child number e), s :: rest)
      | (.ok (), s) => do
          let (result, rest) ← ColumnSelector.trainAll rest (number + 1) data
          return (result, s :: rest)

end

theorem ColumnSelector.size_train_of_finder {s : ColumnSelector α} {data : Table}
    (h : (s.finder.train data).value.2.size = s.finder.size) :
    (s.train data).value.2.size = s.size := by
  cases s with
  | plain finder => rfl
  | trainable finder => exact congrArg (· + 1) h

theorem ColumnSelector.sizeAll_trainAll {ss : List (ColumnSelector α)} {data : Table}
    (h : ∀ s ∈ ss, (s.train data).value.2.size = s.size) (number : Nat) :
    sizeAll (trainAll ss number data).value.2 = sizeAll ss := by
  induction ss generalizing number with
  | nil => rfl
  | cons s rest ih =>
      obtain ⟨hs, hrest⟩ := List.forall_mem_cons.1 h
      simp only [trainAll, Logged.value_bind]
      split
      · next ht => rw [ht] at hs; simp only [Logged.value_pure, sizeAll, hs]
      · next ht => rw [ht] at hs; simp only [Logged.value_bind, Logged.value_pure, sizeAll, hs, ih hrest]

theorem ColumnFinder.size_train (f : ColumnFinder α) (data : Table) :
    (f.train data).value.2.size = f.size := by
  induction f with
  | all => rfl
  | range columns => rfl
  | variance filter trained =>
      unfold ColumnFinder.train
      cases filter.train data <;> rfl
  | group how finders ih =>
      exact congrArg (· + 1) (ColumnSelector.sizeAll_trainAll
        (fun s hs => ColumnSelector.size_train_of_finder (ih s hs)) 0)
  | pipeline rows columns stage =>
      simp only [ColumnFinder.train, Logged.value_bind]
      split <;> rfl
  | custom finder => rfl

theorem ColumnSelector.size_train (s : ColumnSelector α) (data : Table) :
    (s.train data).value.2.size = s.size :=
  size_train_of_finder (s.finder.size_train data)

/-! ## Queries -/

mutual

/-- The columns that a finder chooses from a table, and the finder after the query. -/
def ColumnFinder.find (f : ColumnFinder α) (data : Table) :
    Logged α (Except FindError (List Nat) × ColumnFinder α) :=
  match f with
  | .all => pure (.ok (List.range data.columnCount), .all)
  | .range columns =>
      pure ((columns.evaluate data.columnDomain).mapError .range, .range columns)
  | .variance filter trained => pure (VarianceFilter.find trained data, .variance filter trained)
  | .group how finders => do
      let (found, finders) ← ColumnSelector.findAll finders data
      return (found.map how.combine, .group how finders)
  | .pipeline rows columns stage =>
      match stage with
      | .untrained | .rowTrainingFailed =>
          pure (.error (.notTrained "RowFilteredColumnFinder"), .pipeline rows columns stage)
      | .columnTrainingFailed reason =>
          pure (.error (.columnTrainingFailed reason), .pipeline rows columns stage)
      | .columnPending => do
          match ← rows.subset data with
          | .error e => return (.error e, .pipeline rows columns stage)
          | .ok subset =>
              let trained := columns.train subset
              let after := trained.value.2
              match trained.value.1 with
              | .error e =>
                  let reason := e.message
                  ⟨(.error (.columnTrainingFailed reason),
                    .pipeline rows after (.columnTrainingFailed reason)), trained.calls⟩
              | .ok () =>
                  let found := after.find subset
                  ⟨(found.value.1, .pipeline rows found.value.2 .ready),
                    trained.calls ++ found.calls⟩
      | .ready => do
          match ← rows.subset data with
          | .error e => return (.error e, .pipeline rows columns stage)
          | .ok subset =>
              let (found, columns) ← columns.find subset
              return (found, .pipeline rows columns stage)
  | .custom finder =>
      let (found, after) := CustomFinder.findColumns finder data
      ⟨(found, .custom after), [.find finder data]⟩
termination_by f.size
decreasing_by
  · simp only [ColumnFinder.size]; omega
  · have hs := ColumnSelector.size_train columns subset
    simp only [ColumnFinder.size]
    omega
  · simp only [ColumnFinder.size]; omega

def ColumnSelector.find (s : ColumnSelector α) (data : Table) :
    Logged α (Except FindError (List Nat) × ColumnSelector α) :=
  match s with
  | .plain finder => do
      let (found, finder) ← finder.find data
      return (found, .plain finder)
  | .trainable finder => do
      let (found, finder) ← finder.find data
      return (found, .trainable finder)
termination_by s.size
decreasing_by all_goals simp only [ColumnSelector.size]; omega

/-- The columns that each of several selectors chooses, up to the first error; those behind it are
left as they are. -/
def ColumnSelector.findAll (ss : List (ColumnSelector α)) (data : Table) :
    Logged α (Except FindError (List (List Nat)) × List (ColumnSelector α)) :=
  match ss with
  | [] => pure (.ok [], [])
  | s :: rest => do
      match ← s.find data with
      | (.error e, s) => return (.error e, s :: rest)
      | (.ok columns, s) => do
          let (found, rest) ← ColumnSelector.findAll rest data
          return (found.map (columns :: ·), s :: rest)
termination_by ColumnSelector.sizeAll ss
decreasing_by all_goals simp only [ColumnSelector.sizeAll]; omega

end

/-! ## Reset -/

mutual

def ColumnFinder.reset : ColumnFinder α → Logged α (ColumnFinder α)
  | .all => pure .all
  | .range columns => pure (.range columns)
  | .variance filter _ => pure (.variance filter none)
  | .group how finders => do
      let finders ← ColumnSelector.resetAll finders
      return .group how finders
  | .pipeline rows columns _ => do
      let rows ← rows.reset
      let columns ← columns.reset
      return .pipeline rows columns .untrained
  | .custom finder => ⟨.custom (CustomFinder.reset finder), [.reset finder]⟩

def ColumnSelector.reset : ColumnSelector α → Logged α (ColumnSelector α)
  | .plain finder => pure (.plain finder)
  | .trainable finder => do
      let finder ← finder.reset
      return .trainable finder

def ColumnSelector.resetAll : List (ColumnSelector α) → Logged α (List (ColumnSelector α))
  | [] => pure []
  | s :: rest => do
      let s ← s.reset
      let rest ← ColumnSelector.resetAll rest
      return s :: rest

end

/-! ## Changes -/

/-- Another row finder for a pipeline, which has to be trained again. -/
def ColumnFinder.withRows (f : ColumnFinder α) (rows : RowSelector α) : ColumnFinder α :=
  match f with
  | .pipeline _ columns _ => .pipeline rows columns .untrained
  | other => other

def ColumnFinder.withColumns (f : ColumnFinder α) (columns : ColumnSelector α) : ColumnFinder α :=
  match f with
  | .pipeline rows _ _ => .pipeline rows columns .untrained
  | other => other

def ColumnFinder.push (f : ColumnFinder α) (s : ColumnSelector α) : ColumnFinder α :=
  match f with
  | .group how finders => .group how (finders ++ [s])
  | other => other

def ColumnSelector.isTrainable : ColumnSelector α → Bool
  | .plain _ => false
  | .trainable _ => true

end TableSelection
