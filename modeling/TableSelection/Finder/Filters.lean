import TableSelection.Finder.Basic
import TableSelection.Finder.Combination

/-!
# Filters

A numeric filter keeps the rows whose value in one column lies within bounds. Training finds the
column: its range must name one numeric column. Cells that are empty or not a number never pass.

A variance filter chooses numeric columns whose sample variance is above a threshold. The choice is
made in training; after that it holds for every table with as many columns.
-/

namespace TableSelection

/-! ## Filtering rows by a number -/

/-- A range that names the column, and optional bounds that belong to the filter or not. -/
structure NumericFilter where
  column : Range := Range.single (.placeholder .last)
  minimum : Option Float := none
  maximum : Option Float := none
  minimumExclusive : Bool := false
  maximumExclusive : Bool := false

instance : Inhabited NumericFilter := ⟨{}⟩

namespace NumericFilter

/-- Whether a value is not below the minimum. -/
def above (f : NumericFilter) (x : Float) : Bool :=
  match f.minimum with
  | none => true
  | some minimum => if f.minimumExclusive then minimum < x else minimum ≤ x

/-- Whether a value is not above the maximum. -/
def below (f : NumericFilter) (x : Float) : Bool :=
  match f.maximum with
  | none => true
  | some maximum => if f.maximumExclusive then x < maximum else x ≤ maximum

def accepts (f : NumericFilter) (x : Float) : Bool := !x.isNaN && f.above x && f.below x

/-- The column that the filter looks at in a table. -/
def train (f : NumericFilter) (data : Table) : Except TrainError Nat :=
  match f.column.evaluate data.columnDomain with
  | .error (.unknownName name) => .error (.missingColumn name)
  | .error e => .error (.range e)
  | .ok [] => .error (.missingColumn f.column.render)
  | .ok [column] =>
      if data.isNumeric column then .ok column
      else .error (.notNumeric ((data.columnName? column).getD ""))
  | .ok columns => .error (.ambiguousColumn f.column.render columns.length)

/-- The positions of the cells that pass the filter. -/
def passing (f : NumericFilter) (cells : List (Option Float)) : List Nat :=
  cells.zipIdx.filterMap fun (cell, row) => if cell.any f.accepts then some row else none

/-- The rows that pass the filter in the column it was trained on, if it was. -/
def find (f : NumericFilter) (trained : Option Nat) (data : Table) : Except FindError (List Nat) :=
  match trained with
  | none => .error (.notTrained "NumericRangeRowFinder")
  | some column =>
      match data.numericColumn column with
      | .ok cells => .ok (f.passing cells)
      | .error e => .error (.data e)

end NumericFilter

/-! ## Choosing columns by variance -/

/-- The threshold, and the range of columns that come into question. -/
structure VarianceFilter where
  threshold : Float := 0.0
  candidates : Range := Range.all

instance : Inhabited VarianceFilter := ⟨{}⟩

/-- What a variance filter has learnt: how many columns the table had, and which it chose. -/
structure VarianceChoice where
  columns : Nat
  selected : List Nat
  deriving DecidableEq, Repr

/-- The sample variance of the cells that are numbers, if there are at least two. -/
def sampleVariance (cells : List (Option Float)) : Option Float :=
  let values := cells.filterMap (·.filter (!·.isNaN))
  if values.length < 2 then none
  else
    let count := Float.ofNat values.length
    let mean := values.foldl (· + ·) 0.0 / count
    let squares := values.foldl (fun sum x => sum + (x - mean) * (x - mean)) 0.0
    some (squares / (count - 1.0))

namespace VarianceFilter

/-- Whether some cells vary more than the threshold. -/
def exceeds (f : VarianceFilter) (cells : List (Option Float)) : Bool :=
  (sampleVariance cells).any (f.threshold < ·)

/-- Those of the columns that are numeric and vary enough. -/
def choose (f : VarianceFilter) (data : Table) : List Nat → Except TableError (List Nat)
  | [] => .ok []
  | column :: rest =>
      if data.isNumeric column then do
        let cells ← data.numericColumn column
        let chosen ← choose f data rest
        return if f.exceeds cells then column :: chosen else chosen
      else choose f data rest

/-- The choice that the filter makes on a table. -/
def train (f : VarianceFilter) (data : Table) : Except TrainError VarianceChoice :=
  match f.candidates.evaluate data.columnDomain with
  | .error e => .error (.range e)
  | .ok candidates =>
      match f.choose data candidates with
      | .error e => .error (.data e)
      | .ok chosen => .ok ⟨data.columnCount, ascending chosen⟩

/-- The columns chosen in training, if the table has as many columns. -/
def find (trained : Option VarianceChoice) (data : Table) : Except FindError (List Nat) :=
  match trained with
  | none => .error (.notTrained "VarianceColumnFinder")
  | some choice =>
      if choice.columns = data.columnCount then .ok choice.selected
      else .error (.layoutMismatch choice.columns data.columnCount)

end VarianceFilter

end TableSelection
