import TableSelection.Finder.Filters

/-!
# Row finders

A row finder chooses rows of a table. Finders that have to see a table first are trained; a selector
says of a finder whether training reaches it. A plain selector passes no training on and counts as
trained, whatever its finder.

A group trains its finders from first to last and stops at the first that fails. A query changes
nothing.
-/

namespace TableSelection

mutual

/-- A finder of rows, together with what it has learnt in training. -/
inductive RowFinder (α : Type)
  /-- Chooses every row. -/
  | all
  | range (rows : Range)
  /-- Keeps the rows that pass the filter in the column that training found. -/
  | numeric (filter : NumericFilter) (trained : Option Nat)
  /-- Combines the rows of several finders. -/
  | group (how : Combination) (finders : List (RowSelector α))
  | custom (finder : α)

/-- A row finder with or without the ability to be trained. -/
inductive RowSelector (α : Type)
  | plain (finder : RowFinder α)
  | trainable (finder : RowFinder α)

end

instance {α : Type} : Inhabited (RowFinder α) := ⟨.all⟩

instance {α : Type} : Inhabited (RowSelector α) := ⟨.plain .all⟩

variable {α : Type}

def RowSelector.finder : RowSelector α → RowFinder α
  | .plain finder => finder
  | .trainable finder => finder

theorem RowSelector.sizeOf_finder_lt (s : RowSelector α) : sizeOf s.finder < sizeOf s := by
  cases s <;> simp [finder]

/-- Induction on a tree of row finders: a group holds the finders of its selectors. -/
@[elab_as_elim, induction_eliminator]
theorem RowFinder.tree_induction {motive : RowFinder α → Prop} (all : motive .all)
    (range : ∀ rows, motive (.range rows))
    (numeric : ∀ filter trained, motive (.numeric filter trained))
    (group : ∀ how finders, (∀ s ∈ finders, motive s.finder) → motive (.group how finders))
    (custom : ∀ finder, motive (.custom finder)) (f : RowFinder α) : motive f := by
  cases f with
  | all => exact all
  | range rows => exact range rows
  | numeric filter trained => exact numeric filter trained
  | group how finders =>
      exact group how finders fun s _ => tree_induction all range numeric group custom s.finder
  | custom finder => exact custom finder
termination_by sizeOf f
decreasing_by
  next hs =>
  have hsize := List.sizeOf_lt_of_mem hs
  have hfinder := s.sizeOf_finder_lt
  subst_vars
  simp only [RowFinder.group.sizeOf_spec]
  omega

variable [CustomFinder α]

/-! ## Training -/

mutual

def RowFinder.isTrained : RowFinder α → Bool
  | .all => true
  | .range _ => true
  | .numeric _ trained => trained.isSome
  | .group _ finders => RowSelector.allTrained finders
  | .custom finder => CustomFinder.isTrained finder

def RowSelector.isTrained : RowSelector α → Bool
  | .plain _ => true
  | .trainable finder => finder.isTrained

def RowSelector.allTrained : List (RowSelector α) → Bool
  | [] => true
  | s :: rest => s.isTrained && RowSelector.allTrained rest

end

mutual

/-- Trains a finder on a table. A finder whose training fails forgets what it had learnt. -/
def RowFinder.train : RowFinder α → Table → Logged α (Except TrainError Unit × RowFinder α)
  | .all, _ => pure (.ok (), .all)
  | .range rows, _ => pure (.ok (), .range rows)
  | .numeric filter _, data =>
      match filter.train data with
      | .ok column => pure (.ok (), .numeric filter (some column))
      | .error e => pure (.error e, .numeric filter none)
  | .group how finders, data => do
      let (result, finders) ← RowSelector.trainAll finders 0 data
      return (result, .group how finders)
  | .custom finder, data =>
      let (result, after) := CustomFinder.train finder data
      ⟨(result, .custom after), [.train finder data]⟩

def RowSelector.train : RowSelector α → Table → Logged α (Except TrainError Unit × RowSelector α)
  | .plain finder, _ => pure (.ok (), .plain finder)
  | .trainable finder, data => do
      let (result, finder) ← finder.train data
      return (result, .trainable finder)

/-- Trains selectors one after the other; the first of them has the given number in its group. Those
behind a failure are left as they are. -/
def RowSelector.trainAll : List (RowSelector α) → (number : Nat) → Table →
    Logged α (Except TrainError Unit × List (RowSelector α))
  | [], _, _ => pure (.ok (), [])
  | s :: rest, number, data => do
      match ← s.train data with
      | (.error e, s) => return (.error (.child number e), s :: rest)
      | (.ok (), s) => do
          let (result, rest) ← RowSelector.trainAll rest (number + 1) data
          return (result, s :: rest)

end

/-! ## Queries -/

mutual

def RowFinder.find : RowFinder α → Table → Logged α (Except FindError (List Nat))
  | .all, data => pure (.ok (List.range data.rowCount))
  | .range rows, data => pure ((rows.evaluate data.rowDomain).mapError .range)
  | .numeric filter trained, data => pure (filter.find trained data)
  | .group how finders, data => do
      let found ← RowSelector.findAll finders data
      return found.map how.combine
  | .custom finder, data => ⟨CustomFinder.findRows finder data, [.find finder data]⟩

def RowSelector.find : RowSelector α → Table → Logged α (Except FindError (List Nat))
  | .plain finder, data => finder.find data
  | .trainable finder, data => finder.find data

/-- The rows that each of several selectors chooses, up to the first error. -/
def RowSelector.findAll : List (RowSelector α) → Table → Logged α (Except FindError (List (List Nat)))
  | [], _ => pure (.ok [])
  | s :: rest, data => do
      match ← s.find data with
      | .error e => return .error e
      | .ok rows => do
          let found ← RowSelector.findAll rest data
          return found.map (rows :: ·)

end

/-- The table that is left of some data if only the chosen rows are kept. -/
def RowSelector.subset (s : RowSelector α) (data : Table) : Logged α (Except FindError Table) := do
  match ← s.find data with
  | .error e => return .error e
  | .ok rows => return (data.selectRows rows).mapError .data

/-! ## Reset -/

mutual

def RowFinder.reset : RowFinder α → Logged α (RowFinder α)
  | .all => pure .all
  | .range rows => pure (.range rows)
  | .numeric filter _ => pure (.numeric filter none)
  | .group how finders => do
      let finders ← RowSelector.resetAll finders
      return .group how finders
  | .custom finder => ⟨.custom (CustomFinder.reset finder), [.reset finder]⟩

def RowSelector.reset : RowSelector α → Logged α (RowSelector α)
  | .plain finder => pure (.plain finder)
  | .trainable finder => do
      let finder ← finder.reset
      return .trainable finder

def RowSelector.resetAll : List (RowSelector α) → Logged α (List (RowSelector α))
  | [] => pure []
  | s :: rest => do
      let s ← s.reset
      let rest ← RowSelector.resetAll rest
      return s :: rest

end

def RowFinder.push (f : RowFinder α) (s : RowSelector α) : RowFinder α :=
  match f with
  | .group how finders => .group how (finders ++ [s])
  | other => other

def RowSelector.isTrainable : RowSelector α → Bool
  | .plain _ => false
  | .trainable _ => true

end TableSelection
