import TableSelection.Table.Cell
import TableSelection.Text.Lowercase
import Std.Data.HashMap

/-!
# Columns

A column is a name, a cell type and a list of cells, some of them empty. Its rows can be shown,
converted to doubles, and picked in any order.

The names of the columns of a table are kept in an index: in lower case they lead to the first column
that has them. `getElem?_columnIndex` says that the index gives the same answers as a search through
the list of names.
-/

namespace TableSelection

/-! ## Errors -/

/-- Why a table has no answer or cannot be built. -/
inductive TableError
  /-- There is no column to take the number of rows from. -/
  | noColumns
  /-- The columns differ in length. -/
  | unequalLengths
  /-- The type of the column does not convert to doubles. -/
  | notConvertible (type : String)
  | rowOutOfBounds (row rows : Nat)
  | columnOutOfBounds (column columns : Nat)
  /-- The number of row names is not the number of rows. -/
  | rowNameCount (expected found : Nat)
  deriving DecidableEq, Repr

def TableError.message : TableError → String
  | .noColumns =>
      "Arrow error: Invalid argument error: must either specify a row count or at least one column"
  | .unequalLengths =>
      "Arrow error: Invalid argument error: all columns in a record batch must have the same length"
  | .notConvertible type => s!"Arrow error: Cast error: Casting from {type} to Float64 not supported"
  | .rowOutOfBounds row rows => s!"Row index {row} out of bounds ({rows} rows)"
  | .columnOutOfBounds column columns => s!"Column index {column} out of bounds ({columns} columns)"
  | .rowNameCount expected found => s!"Expected {expected} row names, got {found}"

namespace Table

open Text

/-! ## Columns -/

/-- A named column; `none` is an empty cell. -/
structure Column where
  name : String
  type : CellType
  cells : List (Option type.Cell)

namespace Column

def length (c : Column) : Nat := c.cells.length

/-- The text of the cell in a row; a cell that is empty or not there has the empty text. -/
def text (c : Column) (row : Nat) : String := (c.cells[row]?.join).elim "" c.type.text

/-- The doubles that the cells stand for. -/
def numbers (c : Column) : Except TableError (List (Option Float)) :=
  if c.type.isConvertible then .ok (c.cells.map (·.bind c.type.number?))
  else .error (.notConvertible c.type.name)

/-- The cells of the given rows, in their order. -/
def pick (rows : List Nat) (c : Column) : Column :=
  { c with cells := rows.map fun row => c.cells[row]?.join }

@[simp] theorem length_pick (rows : List Nat) (c : Column) : (c.pick rows).length = rows.length := by
  simp [pick, length]

@[simp] theorem name_pick (rows : List Nat) (c : Column) : (c.pick rows).name = c.name := rfl

theorem cells_pick (rows : List Nat) (c : Column) :
    (c.pick rows).cells = rows.map fun row => c.cells[row]?.join := rfl

/-- The text of a picked row is the text of the row it was picked from. -/
theorem text_pick (rows : List Nat) (c : Column) (i : Nat) (h : i < rows.length) :
    (c.pick rows).text i = c.text rows[i] := by
  change ((rows.map fun row => c.cells[row]?.join)[i]?.join).elim "" c.type.text = c.text rows[i]
  rw [List.getElem?_map, List.getElem?_eq_getElem h]
  rfl

end Column

/-! ## The index of names -/

/-- The names, counted from `start`, are put into an index that keeps the first of equal names. -/
def extendIndex (index : Std.HashMap String Nat) : (names : List String) → (start : Nat) →
    Std.HashMap String Nat
  | [], _ => index
  | name :: names, start => extendIndex (index.insertIfNew (foldCase name) start) names (start + 1)

def columnIndex (names : List String) : Std.HashMap String Nat := extendIndex ∅ names 0

theorem getElem?_extendIndex (index : Std.HashMap String Nat) (names : List String) (start : Nat)
    (folded : String) :
    (extendIndex index names start)[folded]? =
      (index[folded]?).or ((names.findIdx? (foldCase · == folded)).map (· + start)) := by
  induction names generalizing index start with
  | nil => simp [extendIndex]
  | cons name names ih =>
      rw [extendIndex, ih, Std.HashMap.getElem?_insertIfNew, List.findIdx?_cons]
      by_cases h : foldCase name = folded
      · by_cases hm : folded ∈ index <;> simp [h, hm]
      · have hk : (foldCase name == folded) = false := by simpa using h
        simp only [hk, Bool.false_eq_true, false_and, if_false, Option.map_map]
        congr 2
        funext i
        simp [Nat.add_assoc, Nat.add_comm 1]

/-- A look-up in the index finds the first name that is equal in lower case. -/
theorem getElem?_columnIndex (names : List String) (folded : String) :
    (columnIndex names)[folded]? = names.findIdx? (foldCase · == folded) := by
  simp [columnIndex, getElem?_extendIndex]

end Table

end TableSelection
