import TableSelection.Proofs.Outcome
import TableSelection.Table.Basic

/-!
# Selecting rows

Rows are selected by a list of positions, in any order and with repetitions. The cells of every
column and the row names are lists along the rows, and a selection does the same to all of them: it
keeps the entries at the given positions (`entriesAt`). What is known of a selection follows from
three facts about lists:

    (entriesAt l rows)[i]? = rows[i]?.bind (l[·]?)                          (getElem?_entriesAt)
    entriesAt (entriesAt l rows) again = entriesAt l (entriesAt rows again)  (entriesAt_entriesAt)
    entriesAt l (List.range l.length) = l                                   (entriesAt_range)

where the rows are positions of `l`. So a selection copies rows exactly, selecting again is one
selection of the rows that are left, and selecting all rows in order changes nothing.
-/

namespace TableSelection

/-! ## Entries at positions -/

/-- The entries of a list at the given positions, in the order of the positions. -/
def entriesAt {α : Type} (l : List α) (positions : List Nat) : List α :=
  positions.filterMap fun i => l[i]?

section Entries

variable {α β : Type} {l : List α} {rows : List Nat}

theorem mem_of_mem_entriesAt {a : α} (h : a ∈ entriesAt l rows) : a ∈ l := by
  obtain ⟨i, -, hi⟩ := List.mem_filterMap.1 h
  exact List.mem_of_getElem? hi

/-- Every position of the list gives one entry. -/
theorem entriesAt_cons {row : Nat} (h : row < l.length) (rows : List Nat) :
    entriesAt l (row :: rows) = l[row] :: entriesAt l rows := by
  rw [entriesAt, List.filterMap_cons, List.getElem?_eq_getElem h]
  rfl

theorem entriesAt_eq_map (h : ∀ row ∈ rows, row < l.length) (default : α) :
    entriesAt l rows = rows.map fun row => l[row]?.getD default := by
  induction rows with
  | nil => rfl
  | cons row rows ih =>
    obtain ⟨hrow, hrows⟩ := List.forall_mem_cons.1 h
    rw [entriesAt_cons hrow, List.map_cons, ih hrows, List.getElem?_eq_getElem hrow]
    rfl

theorem getElem?_entriesAt (h : ∀ row ∈ rows, row < l.length) (i : Nat) :
    (entriesAt l rows)[i]? = rows[i]?.bind fun row => l[row]? := by
  induction rows generalizing i with
  | nil => rfl
  | cons row rows ih =>
    obtain ⟨hrow, hrows⟩ := List.forall_mem_cons.1 h
    rw [entriesAt_cons hrow]
    cases i with
    | zero => exact (List.getElem?_eq_getElem hrow).symm
    | succ i => exact ih hrows i

theorem map_entriesAt (f : α → β) (l : List α) (rows : List Nat) :
    (entriesAt l rows).map f = entriesAt (l.map f) rows := by
  rw [entriesAt, entriesAt, List.map_filterMap]
  simp only [List.getElem?_map]

/-- Positions among chosen entries are positions in the list of the choices. -/
theorem entriesAt_entriesAt (h : ∀ row ∈ rows, row < l.length) (again : List Nat) :
    entriesAt (entriesAt l rows) again = entriesAt l (entriesAt rows again) := by
  have hentry : ∀ i ∈ again, (entriesAt l rows)[i]? = rows[i]?.bind fun row => l[row]? :=
    fun i _ => getElem?_entriesAt h i
  rw [entriesAt, List.filterMap_congr hentry, entriesAt, entriesAt, List.filterMap_filterMap]

theorem entriesAt_range (l : List α) : entriesAt l (List.range l.length) = l := by
  apply List.ext_getElem?
  intro i
  rw [getElem?_entriesAt fun row hrow => List.mem_range.1 hrow]
  by_cases hi : i < l.length
  · rw [List.getElem?_range hi]
    rfl
  · rw [List.getElem?_eq_none (by simpa using hi), List.getElem?_eq_none (by omega)]
    rfl

end Entries

/-! ## Columns -/

namespace Table.Column

variable {c : Column} {rows : List Nat}

/-- In a column, rows that are there are selected cell by cell. -/
theorem pick_eq (h : ∀ row ∈ rows, row < c.length) :
    c.pick rows = ⟨c.name, c.type, entriesAt c.cells rows⟩ := by
  have hcells : (c.pick rows).cells = entriesAt c.cells rows := by
    rw [cells_pick, entriesAt_eq_map h none]
    refine List.map_congr_left fun row _ => ?_
    cases c.cells[row]? with
    | none => rfl
    | some cell => rfl
  exact congrArg (Column.mk c.name c.type) hcells

theorem pick_pick (h : ∀ row ∈ rows, row < c.length) {again : List Nat}
    (hagain : ∀ i ∈ again, i < rows.length) :
    (c.pick rows).pick again = c.pick (entriesAt rows again) := by
  have hrows : ∀ row ∈ entriesAt rows again, row < c.length :=
    fun row hrow => h row (mem_of_mem_entriesAt hrow)
  have hpicked : ∀ i ∈ again, i < (c.pick rows).length := by simpa using hagain
  rw [pick_eq h] at hpicked ⊢
  rw [pick_eq hpicked, pick_eq hrows, entriesAt_entriesAt h]

theorem pick_range (c : Column) : c.pick (List.range c.length) = c := by
  rw [pick_eq fun row hrow => List.mem_range.1 hrow, length, entriesAt_range]

/-- The numbers of the selected cells are the selected numbers. -/
theorem numbers_pick (h : ∀ row ∈ rows, row < c.length) :
    (c.pick rows).numbers = c.numbers.map fun cells => entriesAt cells rows := by
  rw [pick_eq h, numbers, numbers, map_entriesAt]
  by_cases hconvertible : c.type.isConvertible = true
  · rw [if_pos hconvertible, if_pos hconvertible]
    rfl
  · rw [if_neg hconvertible, if_neg hconvertible]
    rfl

end Table.Column

/-! ## Tables -/

namespace Table

variable {t s s' : Table} {rows again : List Nat}

/-- A table is given by its columns, the number of its rows and their names. -/
theorem eq_of_parts (hcolumns : s.columns = s'.columns) (hcount : s.rowCount = s'.rowCount)
    (hnames : s.rowNames = s'.rowNames) : s = s' := by
  obtain ⟨columns, rowCount, rowNames, index, _, _, hindex⟩ := s
  obtain ⟨columns', rowCount', rowNames', index', _, _, hindex'⟩ := s'
  obtain rfl : columns = columns' := hcolumns
  obtain rfl : rowCount = rowCount' := hcount
  obtain rfl : rowNames = rowNames' := hnames
  obtain rfl : index = index' := hindex.trans hindex'.symm
  rfl

theorem mem_columns_of_column {column : Nat} {c : Column} (h : t.column column = .ok c) :
    c ∈ t.columns := by
  unfold Table.column at h
  split at h
  · next hget => cases h; exact List.mem_of_getElem? hget
  · cases h

theorem length_of_numericColumn {column : Nat} {cells : List (Option Float)}
    (h : t.numericColumn column = .ok cells) : cells.length = t.rowCount := by
  obtain ⟨c, hc, hcells⟩ := bind_eq_ok_iff.1 h
  unfold Column.numbers at hcells
  split at hcells
  · cases hcells
    rw [List.length_map]
    exact t.length_column c (mem_columns_of_column hc)
  · cases hcells

theorem selectRows_eq_error_iff_find? (hcolumns : t.columns ≠ []) {e : TableError} :
    t.selectRows rows = .error e ↔
      ∃ row, rows.find? (t.rowCount ≤ ·) = some row ∧ e = .rowOutOfBounds row t.rowCount := by
  have hempty : ¬t.columns.isEmpty = true := by simpa using hcolumns
  unfold selectRows
  cases hfind : rows.find? (t.rowCount ≤ ·) with
  | none => simp only [if_neg hempty, reduceCtorEq, false_and, exists_false]
  | some row => simp [eq_comm]

/-- A selection fails with the first row that is not there. -/
theorem selectRows_eq_error_iff (hcolumns : t.columns ≠ []) {e : TableError} :
    t.selectRows rows = .error e ↔ ∃ before row after, rows = before ++ row :: after ∧
      (∀ r ∈ before, r < t.rowCount) ∧ t.rowCount ≤ row ∧ e = .rowOutOfBounds row t.rowCount := by
  rw [selectRows_eq_error_iff_find? hcolumns]
  simp only [List.find?_eq_some_iff_append, decide_eq_true_eq, Bool.not_eq_true',
    decide_eq_false_iff_not, Nat.not_le]
  constructor
  · rintro ⟨row, ⟨hrow, before, after, hrows, hbefore⟩, he⟩
    exact ⟨before, row, after, hrows, hbefore, hrow, he⟩
  · rintro ⟨before, row, after, hrows, hbefore, hrow, he⟩
    exact ⟨row, ⟨hrow, before, after, hrows, hbefore⟩, he⟩

theorem exists_selectRows_iff (hcolumns : t.columns ≠ []) :
    (∃ s, t.selectRows rows = .ok s) ↔ ∀ row ∈ rows, row < t.rowCount := by
  have hfind : rows.find? (t.rowCount ≤ ·) = none ↔ ∀ row ∈ rows, row < t.rowCount := by simp
  rw [exists_ok_iff, ← hfind, Option.eq_none_iff_forall_ne_some]
  simp only [ne_eq, selectRows_eq_error_iff_find? hcolumns]
  constructor
  · intro h row hrow
    exact h _ ⟨row, hrow, rfl⟩
  · rintro h e ⟨row, hrow, -⟩
    exact h row hrow

/-- What a selection of rows consists of. -/
theorem parts_of_selectRows (h : t.selectRows rows = .ok s) :
    (∀ row ∈ rows, row < t.rowCount) ∧ s.columns = t.columns.map (·.pick rows) ∧
      s.rowCount = rows.length ∧ s.rowNames = t.rowNames.map fun names => entriesAt names rows := by
  unfold selectRows at h
  split at h
  · cases h
  · next hfind =>
    have hrows : ∀ row ∈ rows, row < t.rowCount := by simpa using hfind
    split at h
    · cases h
    · cases h
      refine ⟨hrows, rfl, rfl, Option.map_congr fun names hnames => ?_⟩
      rw [entriesAt_eq_map _ ""]
      rwa [t.length_rowNames names hnames]

/-- Selecting all rows in order changes nothing. -/
theorem selectRows_range (hcolumns : t.columns ≠ []) :
    t.selectRows (List.range t.rowCount) = .ok t := by
  obtain ⟨s, hs⟩ : ∃ s, t.selectRows (List.range t.rowCount) = .ok s :=
    (exists_selectRows_iff hcolumns).2 fun row => List.mem_range.1
  obtain ⟨-, hpicked, hcount, hnames⟩ := parts_of_selectRows hs
  rw [hs]
  refine congrArg Except.ok (eq_of_parts ?_ (by simpa using hcount) ?_)
  · rw [hpicked]
    refine (List.map_congr_left fun c hc => ?_).trans (List.map_id _)
    rw [← t.length_column c hc, Column.pick_range]
    rfl
  · rw [hnames]
    refine (Option.map_congr fun names hmem => ?_).trans Option.map_id_apply
    rw [← t.length_rowNames names hmem, entriesAt_range]
    rfl

/-- A selection from a selection is a selection from the table. -/
theorem selectRows_selectRows (hcolumns : t.columns ≠ []) (h : t.selectRows rows = .ok s)
    (hagain : ∀ i ∈ again, i < rows.length) :
    s.selectRows again = t.selectRows (entriesAt rows again) := by
  obtain ⟨hrows, hpicked, hcount, hnames⟩ := parts_of_selectRows h
  have hcolumns' : s.columns ≠ [] := by simpa [hpicked] using hcolumns
  obtain ⟨s₁, hs₁⟩ := (exists_selectRows_iff hcolumns').2 (hcount ▸ hagain)
  obtain ⟨s₂, hs₂⟩ : ∃ s, t.selectRows (entriesAt rows again) = .ok s :=
    (exists_selectRows_iff hcolumns).2 fun row hrow => hrows row (mem_of_mem_entriesAt hrow)
  obtain ⟨-, hpicked₁, hcount₁, hnames₁⟩ := parts_of_selectRows hs₁
  obtain ⟨-, hpicked₂, hcount₂, hnames₂⟩ := parts_of_selectRows hs₂
  rw [hs₁, hs₂]
  refine congrArg Except.ok (eq_of_parts ?_ ?_ ?_)
  · rw [hpicked₁, hpicked₂, hpicked, List.map_map]
    refine List.map_congr_left fun c hc => ?_
    exact Column.pick_pick (by rwa [t.length_column c hc]) hagain
  · rw [hcount₁, hcount₂, entriesAt_eq_map hagain 0, List.length_map]
  · rw [hnames₁, hnames₂, hnames, Option.map_map]
    refine Option.map_congr fun names hmem => ?_
    exact entriesAt_entriesAt (by rwa [t.length_rowNames names hmem]) again

/-! ## Looking at a selection -/

variable {i : Nat}

theorem columnCount_of_selectRows (h : t.selectRows rows = .ok s) :
    s.columnCount = t.columnCount := by
  have hnames := congrArg List.length (columnNames_of_selectRows h)
  rwa [columnNames, columnNames, List.length_map, List.length_map] at hnames

theorem column_of_selectRows (h : t.selectRows rows = .ok s) (column : Nat) :
    s.column column = (t.column column).map (·.pick rows) := by
  obtain ⟨-, hpicked, -, -⟩ := parts_of_selectRows h
  rw [Table.column, Table.column, columnCount, columnCount, hpicked, List.length_map,
    List.getElem?_map]
  cases t.columns[column]? with
  | none => rfl
  | some c => rfl

theorem value_of_selectRows (h : t.selectRows rows = .ok s) (hi : i < rows.length) (column : Nat) :
    s.value i column = t.value rows[i] column := by
  have hcolumn := column_of_selectRows h column
  have hrow : rows[i] < t.rowCount := (parts_of_selectRows h).1 _ (List.getElem_mem hi)
  have hi' : i < s.rowCount := by rwa [rowCount_of_selectRows h]
  unfold Table.value
  rw [hcolumn]
  simp only [if_pos hi', if_pos hrow]
  cases t.column column with
  | error e => rfl
  | ok c => exact congrArg Except.ok (Column.text_pick rows c i hi)

theorem rowName?_of_selectRows (h : t.selectRows rows = .ok s) (hi : i < rows.length) :
    s.rowName? i = t.rowName? rows[i] := by
  obtain ⟨hrows, -, -, hnames⟩ := parts_of_selectRows h
  rw [Table.rowName?, Table.rowName?, hnames]
  cases hname : t.rowNames with
  | none => rfl
  | some names =>
    have hbound : ∀ row ∈ rows, row < names.length := by rwa [t.length_rowNames names hname]
    have hentry := getElem?_entriesAt hbound i
    rwa [List.getElem?_eq_getElem hi] at hentry

theorem numericColumn_of_selectRows (h : t.selectRows rows = .ok s) (column : Nat) :
    s.numericColumn column = (t.numericColumn column).map fun cells => entriesAt cells rows := by
  obtain ⟨hrows, -, -, -⟩ := parts_of_selectRows h
  rw [Table.numericColumn, Table.numericColumn, column_of_selectRows h]
  cases hc : t.column column with
  | error e => rfl
  | ok c =>
    have hlength := t.length_column c (mem_columns_of_column hc)
    exact Column.numbers_pick (by rwa [hlength])

/-! ## Top theorem -/

/-- What it means that `s` holds copies of the given rows of `t`, and nothing else. -/
structure CopiesRows (t : Table) (rows : List Nat) (s : Table) : Prop where
  rowCount : s.rowCount = rows.length
  columnNames : s.columnNames = t.columnNames
  columnTypes : s.columns.map Column.type = t.columns.map Column.type
  columnIndex? : ∀ name, s.columnIndex? name = t.columnIndex? name
  hasRowNames : s.rowNames.isSome = t.rowNames.isSome
  value : ∀ i (h : i < rows.length) column, s.value i column = t.value rows[i] column
  rowName? : ∀ i (h : i < rows.length), s.rowName? i = t.rowName? rows[i]
  numericColumn : ∀ column,
    s.numericColumn column = (t.numericColumn column).map fun cells => entriesAt cells rows

theorem copiesRows_of_selectRows (h : t.selectRows rows = .ok s) : CopiesRows t rows s where
  rowCount := rowCount_of_selectRows h
  columnNames := columnNames_of_selectRows h
  columnTypes := by
    obtain ⟨-, hpicked, -, -⟩ := parts_of_selectRows h
    rw [hpicked, List.map_map]
    rfl
  columnIndex? name := by rw [columnIndex?_eq, columnIndex?_eq, columnNames_of_selectRows h]
  hasRowNames := by
    obtain ⟨-, -, -, hnames⟩ := parts_of_selectRows h
    rw [hnames, Option.isSome_map]
  value _ hi := value_of_selectRows h hi
  rowName? _ hi := rowName?_of_selectRows h hi
  numericColumn := numericColumn_of_selectRows h

/-- **A selection of rows is an exact copy.** From a table with columns it fails just if a row is
not there, with the first such row. Otherwise it has the rows asked for, in their order and with
their repetitions, cell by cell and name by name, and selecting from it is the same as selecting
what is left of the rows at once. -/
theorem selectRows_copies (t : Table) (rows : List Nat) (hcolumns : t.columns ≠ []) :
    ((∃ s, t.selectRows rows = .ok s) ↔ ∀ row ∈ rows, row < t.rowCount) ∧
      (∀ e, t.selectRows rows = .error e ↔ ∃ before row after, rows = before ++ row :: after ∧
        (∀ r ∈ before, r < t.rowCount) ∧ t.rowCount ≤ row ∧ e = .rowOutOfBounds row t.rowCount) ∧
      ∀ s, t.selectRows rows = .ok s → CopiesRows t rows s ∧
        ∀ again, (∀ i ∈ again, i < rows.length) →
          s.selectRows again = t.selectRows (entriesAt rows again) := by
  refine ⟨exists_selectRows_iff hcolumns, fun e => selectRows_eq_error_iff hcolumns,
    fun s hs => ⟨copiesRows_of_selectRows hs, fun again hagain => ?_⟩⟩
  exact selectRows_selectRows hcolumns hs hagain

/-- Rows of a table with row names and an empty cell, out of order and one of them twice. -/
theorem selectRows_copies_repeated : ∃ t,
    (ofColumns [⟨"x", .integer true 64, [some 7, none, some 9]⟩,
      ⟨"X", .utf8, [some "a", some "b", some "c"]⟩] >>= (withRowNames · ["r", "s", "r"])) = .ok t ∧
    t.columns ≠ [] ∧ ∃ s, t.selectRows [2, 0, 2] = .ok s ∧ s.rowCount = 3 ∧
      s.value 1 0 = .ok "7" ∧ s.value 2 1 = .ok "c" ∧ s.rowName? 2 = some "r" ∧
      s.selectRows [1, 0] = t.selectRows [0, 2] ∧
      s.selectRows [0, 4, 3] = .error (.rowOutOfBounds 4 3) := by
  obtain ⟨t, ht⟩ : ∃ t, (ofColumns [⟨"x", .integer true 64, [some 7, none, some 9]⟩,
      ⟨"X", .utf8, [some "a", some "b", some "c"]⟩] >>= (withRowNames · ["r", "s", "r"])) =
        .ok t := ⟨_, rfl⟩
  have hcolumns : t.columns ≠ [] := by cases ht; simp
  obtain ⟨hok, -, hcopy⟩ := selectRows_copies t [2, 0, 2] hcolumns
  obtain ⟨s, hs⟩ := hok.2 (by cases ht; decide)
  obtain ⟨hcopies, hagain⟩ := hcopy s hs
  have hcolumns' : s.columns ≠ [] := by cases ht; cases hs; simp
  have herror := (selectRows_copies s [0, 4, 3] hcolumns').2.1 (.rowOutOfBounds 4 3)
  rw [hcopies.rowCount] at herror
  refine ⟨t, ht, hcolumns, s, hs, hcopies.rowCount, ?_, ?_, ?_, hagain [1, 0] (by decide), ?_⟩
  · rw [hcopies.value 1 (by decide)]
    cases ht
    rfl
  · rw [hcopies.value 2 (by decide)]
    cases ht
    rfl
  · rw [hcopies.rowName? 2 (by decide)]
    cases ht
    rfl
  · exact herror.2 ⟨[0], 4, [3], rfl, by decide, by decide, rfl⟩

end Table

end TableSelection
