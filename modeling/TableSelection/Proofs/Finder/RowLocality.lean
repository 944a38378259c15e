import Mathlib.Data.List.Sort
import TableSelection.Proofs.Finder.Answers

/-!
# Filters that look at one row at a time

A numeric filter decides on each row by the cell in it, and a group of such filters by what they
decide. So it does not matter where in a table a row stands, and which rows stand beside it: on a
selection of rows a filter finds what it finds in the table, at the positions that the selection has
given to those rows (`positionsIn`), and where it has an error, it has the same error.

    i ∈ positionsIn rows kept ↔ the row at i of rows is in kept                (mem_positionsIn)
    f.passing (entriesAt cells rows) = positionsIn rows (f.passing cells)      (passing_entriesAt)
    how.combine (lists.map (positionsIn rows)) = positionsIn rows (how.combine lists)
                                                                               (combine_positionsIn)
    f.find s = (f.find t).map (positionsIn rows)                               (find_of_selectRows)

where `s` holds the given rows of `t`, in any order and with repetitions.
-/

namespace TableSelection

/-! ## Positions of rows -/

/-- The positions in a list of rows at which one of the kept rows stands, in ascending order. -/
def positionsIn (rows kept : List Nat) : List Nat :=
  (List.range rows.length).filter fun i => rows[i]?.any kept.contains

section Positions

variable {rows kept : List Nat} {i : Nat}

theorem mem_positionsIn : i ∈ positionsIn rows kept ↔ ∃ row, rows[i]? = some row ∧ row ∈ kept := by
  rw [positionsIn, List.mem_filter, List.mem_range, Option.any_eq_true]
  simp only [List.contains_iff_mem]
  refine and_iff_right_of_imp ?_
  rintro ⟨row, hrow, -⟩
  exact (List.getElem?_eq_some_iff.1 hrow).1

theorem pairwise_positionsIn (rows kept : List Nat) : (positionsIn rows kept).Pairwise (· < ·) :=
  List.Pairwise.filter _ List.pairwise_lt_range

theorem mem_positionsIn_of_getElem? {row : Nat} (h : rows[i]? = some row) :
    i ∈ positionsIn rows kept ↔ row ∈ kept := by
  rw [mem_positionsIn, h]
  simp

/-- If all rows are kept, they stand at all positions. -/
theorem positionsIn_eq_range (h : ∀ row ∈ rows, row ∈ kept) :
    positionsIn rows kept = List.range rows.length := by
  refine List.filter_eq_self.2 fun i hi => ?_
  rw [List.getElem?_eq_getElem (List.mem_range.1 hi), Option.any_some, List.contains_iff_mem]
  exact h _ (List.getElem_mem _)

/-- Combined rows stand where the combination of their positions says. -/
theorem Combination.combine_positionsIn (how : Combination) (rows : List Nat)
    (lists : List (List Nat)) :
    how.combine (lists.map (positionsIn rows)) = positionsIn rows (how.combine lists) := by
  apply (pairwise_combine how _).eq_of_mem_iff (pairwise_positionsIn rows _)
  intro i
  rw [mem_positionsIn]
  cases how with
  | union =>
    rw [mem_combine_union]
    constructor
    · rintro ⟨_, hmem, hi⟩
      obtain ⟨l, hl, rfl⟩ := List.mem_map.1 hmem
      obtain ⟨row, hrow, hkept⟩ := mem_positionsIn.1 hi
      exact ⟨row, hrow, mem_combine_union.2 ⟨l, hl, hkept⟩⟩
    · rintro ⟨row, hrow, hkept⟩
      obtain ⟨l, hl, hkept⟩ := mem_combine_union.1 hkept
      exact ⟨_, List.mem_map_of_mem hl, mem_positionsIn.2 ⟨row, hrow, hkept⟩⟩
  | intersection =>
    rw [mem_combine_intersection, List.forall_mem_map, ne_eq, List.map_eq_nil_iff]
    constructor
    · -- some list has to show which row stands at the position
      rintro ⟨hne, hall⟩
      obtain ⟨l, hl⟩ := List.exists_mem_of_ne_nil lists hne
      obtain ⟨row, hrow, -⟩ := mem_positionsIn.1 (hall l hl)
      refine ⟨row, hrow, mem_combine_intersection.2 ⟨hne, fun l hl => ?_⟩⟩
      exact (mem_positionsIn_of_getElem? hrow).1 (hall l hl)
    · rintro ⟨row, hrow, hkept⟩
      obtain ⟨hne, hall⟩ := mem_combine_intersection.1 hkept
      exact ⟨hne, fun l hl => (mem_positionsIn_of_getElem? hrow).2 (hall l hl)⟩

end Positions

/-! ## Numeric filters -/

namespace NumericFilter

variable {f : NumericFilter} {cells : List (Option Float)} {rows : List Nat} {row : Nat}

/-- The rows that pass are those whose cell is a number that the filter accepts. -/
theorem mem_passing :
    row ∈ f.passing cells ↔ ∃ x, cells[row]? = some (some x) ∧ f.accepts x = true := by
  simp only [passing, List.mem_filterMap, Option.ite_none_right_eq_some, Option.some.injEq,
    Option.any_eq_true]
  constructor
  · rintro ⟨⟨cell, i⟩, hmem, ⟨x, rfl, haccepts⟩, rfl⟩
    exact ⟨x, List.mk_mem_zipIdx_iff_getElem?.1 hmem, haccepts⟩
  · rintro ⟨x, hcell, haccepts⟩
    exact ⟨(some x, row), List.mk_mem_zipIdx_iff_getElem?.2 hcell, ⟨x, rfl, haccepts⟩, rfl⟩

/-- Among selected cells those pass that pass where they were selected from. -/
theorem passing_entriesAt (h : ∀ row ∈ rows, row < cells.length) :
    f.passing (entriesAt cells rows) = positionsIn rows (f.passing cells) := by
  apply (f.pairwise_passing _).eq_of_mem_iff (pairwise_positionsIn rows _)
  intro i
  simp only [mem_passing, mem_positionsIn, getElem?_entriesAt h, Option.bind_eq_some_iff]
  constructor
  · rintro ⟨x, ⟨row, hrow, hcell⟩, haccepts⟩
    exact ⟨row, hrow, x, hcell, haccepts⟩
  · rintro ⟨row, hrow, x, hcell, haccepts⟩
    exact ⟨x, ⟨row, hrow, hcell⟩, haccepts⟩

theorem find_of_selectRows {trained : Option Nat} {t s : Table} (h : t.selectRows rows = .ok s) :
    f.find trained s = (f.find trained t).map (positionsIn rows) := by
  cases trained with
  | none => rfl
  | some column =>
    have hcells := Table.numericColumn_of_selectRows h column
    cases ht : t.numericColumn column with
    | error e =>
      rw [ht] at hcells
      simp only [find, hcells, ht]
      rfl
    | ok cells =>
      have hrows := (Table.parts_of_selectRows h).1
      rw [← Table.length_of_numericColumn ht] at hrows
      rw [ht] at hcells
      simp only [find, hcells, ht, Except.map, passing_entriesAt hrows]

end NumericFilter

/-! ## Row finders -/

mutual

/-- A finder that looks at nothing but the values in each row, at any depth. -/
def RowFinder.IsValueFilter : RowFinder Empty → Prop
  | .all | .numeric _ _ => True
  | .range _ => False
  | .group _ finders => RowSelector.AllValueFilters finders

def RowSelector.IsValueFilter : RowSelector Empty → Prop
  | .plain finder => finder.IsValueFilter
  | .trainable finder => finder.IsValueFilter

def RowSelector.AllValueFilters : List (RowSelector Empty) → Prop
  | [] => True
  | s :: rest => s.IsValueFilter ∧ RowSelector.AllValueFilters rest

end

theorem RowSelector.isValueFilter_iff (s : RowSelector Empty) :
    s.IsValueFilter ↔ s.finder.IsValueFilter := by
  cases s <;> rfl

theorem RowSelector.allValueFilters_iff {ss : List (RowSelector Empty)} :
    AllValueFilters ss ↔ ∀ s ∈ ss, s.finder.IsValueFilter := by
  induction ss with
  | nil => simp [AllValueFilters]
  | cons s ss ih => rw [AllValueFilters, ih, s.isValueFilter_iff, List.forall_mem_cons]

/-- On selected rows a value filter finds what it finds in the table. -/
theorem RowFinder.find_of_selectRows {f : RowFinder Empty} (hf : f.IsValueFilter) {t s : Table}
    {rows : List Nat} (h : t.selectRows rows = .ok s) :
    (f.find s).value = (f.find t).value.map (positionsIn rows) := by
  induction f with
  | all =>
    have hrows : ∀ row ∈ rows, row ∈ List.range t.rowCount :=
      fun row hrow => List.mem_range.2 ((Table.parts_of_selectRows h).1 row hrow)
    show Except.ok (List.range s.rowCount) = .ok (positionsIn rows (List.range t.rowCount))
    rw [positionsIn_eq_range hrows, Table.rowCount_of_selectRows h]
  | range r => exact hf.elim
  | numeric filter trained => exact NumericFilter.find_of_selectRows h
  | group how finders ih =>
    have hall : (RowSelector.findAll finders s).value =
        (RowSelector.findAll finders t).value.map (List.map (positionsIn rows)) := by
      rw [RowSelector.value_findAll, RowSelector.value_findAll, ← mapM_map]
      refine mapM_congr fun selector hmem => ?_
      rw [selector.find_eq, selector.find_eq]
      exact ih selector hmem (RowSelector.allValueFilters_iff.1 hf selector hmem)
    show (RowSelector.findAll finders s).value.map how.combine =
      ((RowSelector.findAll finders t).value.map how.combine).map (positionsIn rows)
    rw [hall]
    cases (RowSelector.findAll finders t).value with
    | error e => rfl
    | ok lists => exact congrArg Except.ok (how.combine_positionsIn rows lists)
  | custom finder => exact finder.elim

namespace RowFinder

/-! ## Top theorem -/

/-- **A value filter is local to rows.** On rows that are selected from a table, in any order and
with repetitions, it finds the positions of the rows that it finds in the table, in ascending order,
and it fails where it fails on the table, with the same error. On the rows that it has found itself
it finds every row. -/
theorem finds_row_by_row (f : RowFinder Empty) (hf : f.IsValueFilter) (t : Table)
    (hcolumns : t.columns ≠ []) (rows : List Nat) (hrows : ∀ row ∈ rows, row < t.rowCount) :
    (∃ s, t.selectRows rows = .ok s ∧
      (∀ kept, (f.find t).value = .ok kept → (f.find s).value = .ok (positionsIn rows kept)) ∧
      ∀ e, (f.find t).value = .error e → (f.find s).value = .error e) ∧
    ∀ kept, (f.find t).value = .ok kept →
      ∃ s, t.selectRows kept = .ok s ∧ (f.find s).value = .ok (List.range s.rowCount) := by
  refine ⟨?_, fun kept hkept => ?_⟩
  · obtain ⟨s, hs⟩ := (Table.exists_selectRows_iff hcolumns).2 hrows
    have hfind := find_of_selectRows hf hs
    refine ⟨s, hs, fun kept hkept => ?_, fun e he => ?_⟩
    · rw [hfind, hkept]
      rfl
    · rw [hfind, he]
      rfl
  · obtain ⟨s, hs⟩ := (Table.exists_selectRows_iff hcolumns).2 (f.isSelection_find t hkept).lt
    have hfind := find_of_selectRows hf hs
    refine ⟨s, hs, ?_⟩
    rw [hfind, hkept, Table.rowCount_of_selectRows hs]
    exact congrArg Except.ok (positionsIn_eq_range fun row hrow => hrow)

/-- A group in a group on rows out of order, one of them twice and one with an empty cell, and a
filter on a column that is not there. -/
theorem finds_row_by_row_reordered :
    let above : RowFinder Empty := .numeric { minimum := some 2.0 } (some 0)
    let f : RowFinder Empty := .group .intersection
      [.trainable above, .plain (.group .union [.trainable above, .plain .all])]
    let missing : RowFinder Empty := .numeric { maximum := some 4.0 } (some 7)
    f.IsValueFilter ∧ missing.IsValueFilter ∧
      ∃ t, Table.ofColumns [⟨"x", .float64, [some 1.0, none, some 5.0, some 3.0]⟩] = .ok t ∧
        t.columns ≠ [] ∧ (∀ row ∈ [3, 0, 3, 1, 2], row < t.rowCount) ∧
        (f.find t).value = .ok [2, 3] ∧
        (∃ s, t.selectRows [3, 0, 3, 1, 2] = .ok s ∧ (f.find s).value = .ok [0, 2, 4]) ∧
        (∃ s, t.selectRows [2, 3] = .ok s ∧ (f.find s).value = .ok (List.range s.rowCount)) ∧
        (missing.find t).value = .error (.data (.columnOutOfBounds 7 1)) ∧
        ∃ s, t.selectRows [3, 0, 3, 1, 2] = .ok s ∧
          (missing.find s).value = .error (.data (.columnOutOfBounds 7 1)) := by
  intro above f missing
  have hf : f.IsValueFilter := ⟨trivial, ⟨trivial, trivial, trivial⟩, trivial⟩
  have hmissing : missing.IsValueFilter := trivial
  obtain ⟨t, ht⟩ : ∃ t,
      Table.ofColumns [⟨"x", .float64, [some 1.0, none, some 5.0, some 3.0]⟩] = .ok t := ⟨_, rfl⟩
  have hcolumns : t.columns ≠ [] := by cases ht; simp
  have hrows : ∀ row ∈ [3, 0, 3, 1, 2], row < t.rowCount := by cases ht; decide
  have hfound : (f.find t).value = .ok [2, 3] := by cases ht; rfl
  have herror : (missing.find t).value = .error (.data (.columnOutOfBounds 7 1)) := by
    cases ht; rfl
  obtain ⟨⟨s, hs, hkept, -⟩, hagain⟩ := finds_row_by_row f hf t hcolumns _ hrows
  obtain ⟨⟨s', hs', -, hfails⟩, -⟩ := finds_row_by_row missing hmissing t hcolumns _ hrows
  exact ⟨hf, hmissing, t, ht, hcolumns, hrows, hfound, ⟨s, hs, hkept _ hfound⟩, hagain _ hfound,
    herror, s', hs', hfails _ herror⟩

end RowFinder

end TableSelection
