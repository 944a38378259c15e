import TableSelection.Range.Evaluate
import TableSelection.Table.Column

/-!
# Tables

A table holds columns of equal length and, where they are known, names of its rows. Tables are
built from columns, get row names, and are cut down to chosen rows; nothing else changes them. Its
columns and its rows are domains for ranges.
-/

namespace TableSelection

open Text Table

/-- Columns of one length, an index of their names, and the names of the rows if there are any. A
table without columns may still have rows. -/
structure Table where
  columns : List Column
  rowCount : Nat
  rowNames : Option (List String)
  index : Std.HashMap String Nat
  length_column : ∀ c ∈ columns, c.length = rowCount
  length_rowNames : ∀ names ∈ rowNames, names.length = rowCount
  index_eq : index = columnIndex (columns.map Column.name)

namespace Table

/-! ## Building tables -/

/-- The table of some columns, whose length must be the same. -/
def ofColumns (columns : List Column) : Except TableError Table :=
  match columns with
  | [] => .error .noColumns
  | first :: rest =>
      if h : ∀ c ∈ rest, c.length = first.length then
        .ok {
          columns := first :: rest
          rowCount := first.length
          rowNames := none
          index := columnIndex ((first :: rest).map Column.name)
          length_column := by simpa using h
          length_rowNames := by simp
          index_eq := rfl }
      else .error .unequalLengths

/-- The table without columns that has the given number of rows. -/
def withoutColumns (rowCount : Nat) : Table where
  columns := []
  rowCount
  rowNames := none
  index := columnIndex []
  length_column := by simp
  length_rowNames := by simp
  index_eq := rfl

/-- The table with these row names in place of its own. -/
def withRowNames (t : Table) (names : List String) : Except TableError Table :=
  if h : names.length = t.rowCount then
    .ok { t with rowNames := some names, length_rowNames := by simpa using h }
  else .error (.rowNameCount t.rowCount names.length)

/-- The given rows of the table, in their order. Row names follow their rows. -/
def selectRows (t : Table) (rows : List Nat) : Except TableError Table :=
  match rows.find? (t.rowCount ≤ ·) with
  | some row => .error (.rowOutOfBounds row t.rowCount)
  | none =>
      if t.columns.isEmpty then .error .noColumns
      else .ok {
        columns := t.columns.map (·.pick rows)
        rowCount := rows.length
        rowNames := t.rowNames.map fun names => rows.map fun row => names[row]?.getD ""
        index := t.index
        length_column := by simp
        length_rowNames := by simp
        index_eq := by rw [t.index_eq]; simp [Function.comp_def] }

/-! ## Looking at a table -/

def columnCount (t : Table) : Nat := t.columns.length

def columnNames (t : Table) : List String := t.columns.map Column.name

def columnName? (t : Table) (column : Nat) : Option String := t.columns[column]?.map Column.name

def rowName? (t : Table) (row : Nat) : Option String := t.rowNames.bind fun names => names[row]?

/-- The first column that has the name up to case. -/
def columnIndex? (t : Table) (name : String) : Option Nat := t.index[foldCase name]?

/-- Whether there is such a column and it holds numbers. -/
def isNumeric (t : Table) (column : Nat) : Bool :=
  t.columns[column]?.any fun c => c.type.isNumeric

def column (t : Table) (column : Nat) : Except TableError Column :=
  match t.columns[column]? with
  | some c => .ok c
  | none => .error (.columnOutOfBounds column t.columnCount)

/-- The text of a cell. The column is checked before the row. -/
def value (t : Table) (row column : Nat) : Except TableError String := do
  let c ← t.column column
  if row < t.rowCount then return c.text row else throw (.rowOutOfBounds row t.rowCount)

/-- The doubles that the cells of a column stand for. -/
def numericColumn (t : Table) (column : Nat) : Except TableError (List (Option Float)) := do
  let c ← t.column column
  c.numbers

/-! ## Domains -/

theorem columnIndex?_eq (t : Table) (name : String) :
    t.columnIndex? name = t.columnNames.findIdx? (foldCase · == foldCase name) := by
  rw [columnIndex?, t.index_eq, getElem?_columnIndex]
  rfl

/-- The columns as a domain; names that ignore case are looked up in the index. -/
def columnDomain (t : Table) : Domain where
  size := t.columnCount
  find? name exact :=
    if exact then t.columnNames.findIdx? (· == name) else t.columnIndex? name
  find?_lt name exact i h := by
    have hl : t.columnNames.length = t.columnCount := by simp [columnNames, columnCount]
    rw [columnIndex?_eq] at h
    split at h
    all_goals exact hl ▸ (List.findIdx?_eq_some_iff_findIdx_eq.1 h).1

/-- The rows as a domain; without row names they are found by position only. -/
def rowDomain (t : Table) : Domain :=
  match t.rowNames with
  | some names => .ofNames names
  | none => .unnamed t.rowCount

/-! ## Lemmas -/

@[simp] theorem size_rowDomain (t : Table) : t.rowDomain.size = t.rowCount := by
  unfold rowDomain
  split
  · next names h => exact t.length_rowNames names (by simp [h])
  · rfl

theorem columnNames_of_selectRows {t s : Table} {rows : List Nat} (h : t.selectRows rows = .ok s) :
    s.columnNames = t.columnNames := by
  unfold selectRows at h
  split at h
  · cases h
  · split at h
    · cases h
    · cases h; simp [columnNames, Function.comp_def]

theorem rowCount_of_selectRows {t s : Table} {rows : List Nat} (h : t.selectRows rows = .ok s) :
    s.rowCount = rows.length := by
  unfold selectRows at h
  split at h
  · cases h
  · split at h
    · cases h
    · cases h; rfl

end Table

end TableSelection
