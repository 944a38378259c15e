import TableSelection.Table.Basic

/-!
# Errors of finders and custom finders

`TrainError` says why a finder could not be trained on a table, `FindError` why it gives no answer.

Finders of any other kind can take part in a tree: `CustomFinder` says what they must offer. An
operation on a tree reports, besides its value, the calls it made on them. `Logged` carries the two
through a computation; calls are in the order in which they were made.
-/

namespace TableSelection

/-! ## Errors -/

/-- Why a finder could not be trained. -/
inductive TrainError
  /-- The column to filter on is not there. -/
  | missingColumn (name : String)
  /-- The range should name one column. -/
  | ambiguousColumn (range : String) (count : Nat)
  | notNumeric (name : String)
  /-- One of several finders could not be trained. -/
  | child (index : Nat) (source : TrainError)
  | range (source : LookupError)
  | data (source : TableError)
  deriving DecidableEq, Repr

def TrainError.message : TrainError → String
  | .missingColumn name => s!"Column '{name}' not found"
  | .ambiguousColumn text count =>
      s!"Range '{text}' selects {count} columns, expected exactly one"
  | .notNumeric name => s!"Column '{name}' is not numeric"
  | .child index source => s!"Finder #{index} failed to train: {source.message}"
  | .range source => s!"Range error: {source.message}"
  | .data source => s!"Data error: {source.message}"

/-- Why a finder gives no answer. -/
inductive FindError
  | notTrained (finder : String)
  /-- The column finder of a pipeline could not be trained on the chosen rows. -/
  | columnTrainingFailed (reason : String)
  /-- The table has another number of columns than the one trained on. -/
  | layoutMismatch (expected found : Nat)
  | range (source : LookupError)
  | data (source : TableError)
  deriving DecidableEq, Repr

def FindError.message : FindError → String
  | .notTrained finder => s!"{finder} has not been trained"
  | .columnTrainingFailed reason =>
      s!"Column finder could not be trained on the row subset: {reason}"
  | .layoutMismatch expected found =>
      s!"Dataset has {found} columns, finder was trained on {expected}"
  | .range source => s!"Range error: {source.message}"
  | .data source => s!"Data error: {source.message}"

/-! ## Custom finders and the calls on them -/

/-- What a finder from outside offers: training, which may fail, queries for rows and for columns,
and a reset. Only a query for columns may change it. -/
class CustomFinder (α : Type) where
  isTrained : α → Bool
  train : α → Table → Except TrainError Unit × α
  findRows : α → Table → Except FindError (List Nat)
  findColumns : α → Table → Except FindError (List Nat) × α
  reset : α → α

instance : CustomFinder Empty where
  isTrained := nofun
  train := nofun
  findRows := nofun
  findColumns := nofun
  reset := nofun

/-- A call on a custom finder, which is given as it was before the call. -/
inductive Call (α : Type)
  | train (finder : α) (data : Table)
  | find (finder : α) (data : Table)
  | reset (finder : α)

/-- A value with the calls that were made for it. -/
structure Logged (α β : Type) where
  value : β
  calls : List (Call α)

namespace Logged

variable {α β γ : Type}

protected def pure (b : β) : Logged α β := ⟨b, []⟩

/-- Goes on with the value; later calls follow the earlier ones. -/
protected def bind (x : Logged α β) (f : β → Logged α γ) : Logged α γ :=
  ⟨(f x.value).value, x.calls ++ (f x.value).calls⟩

instance : Monad (Logged α) where
  pure := Logged.pure
  bind := Logged.bind

@[simp] theorem value_pure (b : β) : (pure b : Logged α β).value = b := rfl

@[simp] theorem calls_pure (b : β) : (pure b : Logged α β).calls = [] := rfl

@[simp] theorem value_bind (x : Logged α β) (f : β → Logged α γ) :
    (x >>= f).value = (f x.value).value := rfl

@[simp] theorem calls_bind (x : Logged α β) (f : β → Logged α γ) :
    (x >>= f).calls = x.calls ++ (f x.value).calls := rfl

end Logged

end TableSelection
