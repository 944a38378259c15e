import Mathlib.Data.List.Sort
import TableSelection.Proofs.Finder.RowLocality

/-!
# The two sides of a numeric filter

A filter with a minimum and a maximum does the work of two, one with each bound. Both look for the
column of the filter, and a number passes the filter just if it passes both of them:

    f.accepts x ↔ x is a number within both bounds                    (accepts_iff)
    the rows of f are those that both sides have in common            (combine_sides)

So an intersection of the two sides trains where the filter does, with the error of the filter as
that of its first child, and then it finds the rows of the filter, or fails with the same error
(`filters_by_sides`).
-/

namespace TableSelection

namespace NumericFilter

variable {f : NumericFilter} {x : Float}

/-! ## Within bounds -/

/-- A value that lies within the bounds that a filter has. -/
structure Within (f : NumericFilter) (x : Float) : Prop where
  minimum : ∀ minimum, f.minimum = some minimum →
    if f.minimumExclusive then minimum < x else minimum ≤ x
  maximum : ∀ maximum, f.maximum = some maximum →
    if f.maximumExclusive then x < maximum else x ≤ maximum

theorem above_iff : f.above x = true ↔ ∀ minimum, f.minimum = some minimum →
    if f.minimumExclusive then minimum < x else minimum ≤ x := by
  rw [above]
  cases f.minimum with
  | none => simp
  | some minimum => cases f.minimumExclusive <;> simp

theorem below_iff : f.below x = true ↔ ∀ maximum, f.maximum = some maximum →
    if f.maximumExclusive then x < maximum else x ≤ maximum := by
  rw [below]
  cases f.maximum with
  | none => simp
  | some maximum => cases f.maximumExclusive <;> simp

/-- The values that pass are the numbers within the bounds. -/
theorem accepts_iff : f.accepts x = true ↔ x.isNaN = false ∧ f.Within x := by
  rw [accepts, Bool.and_eq_true, Bool.and_eq_true, Bool.not_eq_true', above_iff, below_iff,
    and_assoc]
  exact and_congr_right fun _ => ⟨fun h => ⟨h.1, h.2⟩, fun h => ⟨h.minimum, h.maximum⟩⟩

/-! ## The sides -/

/-- The filter with the minimum alone. -/
def lowerSide (f : NumericFilter) : NumericFilter :=
  { column := f.column, minimum := f.minimum, minimumExclusive := f.minimumExclusive }

/-- The filter with the maximum alone. -/
def upperSide (f : NumericFilter) : NumericFilter :=
  { column := f.column, maximum := f.maximum, maximumExclusive := f.maximumExclusive }

/-- A value passes a filter just if it passes both sides. -/
theorem accepts_sides (f : NumericFilter) (x : Float) :
    f.accepts x = (f.lowerSide.accepts x && f.upperSide.accepts x) := by
  have hlower : f.lowerSide.accepts x = (!x.isNaN && f.above x && true) := rfl
  have hupper : f.upperSide.accepts x = (!x.isNaN && true && f.below x) := rfl
  rw [hlower, hupper, accepts]
  cases x.isNaN <;> simp

/-- The rows that pass a filter are those that pass both sides. -/
theorem combine_sides (f : NumericFilter) (cells : List (Option Float)) :
    Combination.intersection.combine [f.lowerSide.passing cells, f.upperSide.passing cells] =
      f.passing cells := by
  apply (Combination.pairwise_combine _ _).eq_of_mem_iff (f.pairwise_passing cells)
  intro row
  rw [Combination.mem_combine_intersection, and_iff_right (List.cons_ne_nil _ _),
    List.forall_mem_cons, List.forall_mem_singleton]
  simp only [mem_passing, accepts_sides f, Bool.and_eq_true]
  constructor
  · rintro ⟨⟨x, hx, hlower⟩, y, hy, hupper⟩
    obtain rfl : x = y := Option.some.inj (Option.some.inj (hx.symm.trans hy))
    exact ⟨x, hx, hlower, hupper⟩
  · rintro ⟨x, hx, hlower, hupper⟩
    exact ⟨⟨x, hx, hlower⟩, x, hx, hupper⟩

/-! ## Training and queries -/

variable {before lower upper : Option Nat} {t u : Table} {column : Nat} {e : TrainError}

/-- Training leaves a filter with the column that its range names, if it does name one. -/
theorem value_train_numeric (f : NumericFilter) (before : Option Nat) (t : Table) :
    ((.numeric f before : RowFinder Empty).train t).value =
      ((f.train t).map fun _ => (), .numeric f (f.train t).toOption) := by
  rw [RowFinder.train]
  cases f.train t <;> rfl

theorem find_of_ok {cells : List (Option Float)} (h : u.numericColumn column = .ok cells) :
    f.find (some column) u = .ok (f.passing cells) := by
  simp only [find, h]

theorem find_of_error {error : TableError} (h : u.numericColumn column = .error error) :
    f.find (some column) u = .error (.data error) := by
  simp only [find, h]

/-- What a filter finds: the rows in ascending order whose cell in its column is a number within the
bounds, if it has a column and that has numbers. -/
theorem find_eq_ok_iff {trained : Option Nat} {rows : List Nat} : f.find trained u = .ok rows ↔
    rows.Pairwise (· < ·) ∧ ∃ column cells, trained = some column ∧
      u.numericColumn column = .ok cells ∧
      ∀ row, row ∈ rows ↔ ∃ x, cells[row]? = some (some x) ∧ x.isNaN = false ∧ f.Within x := by
  simp only [← accepts_iff, ← mem_passing]
  constructor
  · intro h
    cases trained with
    | none => cases h
    | some column =>
      cases hcells : u.numericColumn column with
      | error error => rw [find_of_error hcells] at h; cases h
      | ok cells =>
        rw [find_of_ok hcells, Except.ok.injEq] at h
        subst h
        exact ⟨f.pairwise_passing cells, column, cells, rfl, hcells, fun row => Iff.rfl⟩
  · rintro ⟨hrows, column, cells, rfl, hcells, hmem⟩
    rw [find_of_ok hcells, Except.ok.injEq]
    exact (f.pairwise_passing cells).eq_of_mem_iff hrows fun row => (hmem row).symm

def trainable (f : NumericFilter) (trained : Option Nat) : RowSelector Empty :=
  .trainable (.numeric f trained)

theorem value_train_trainable (f : NumericFilter) (before : Option Nat) (t : Table) :
    ((f.trainable before).train t).value =
      ((f.train t).map fun _ => (), f.trainable (f.train t).toOption) :=
  congrArg (Prod.map id RowSelector.trainable) (f.value_train_numeric before t)

/-- The intersection of both sides, with the columns that they have learnt. -/
def sides (f : NumericFilter) (lower upper : Option Nat) : RowFinder Empty :=
  .group .intersection [f.lowerSide.trainable lower, f.upperSide.trainable upper]

theorem train_sides_of_ok (h : f.train t = .ok column) :
    ((f.sides lower upper).train t).value = (.ok (), f.sides (some column) (some column)) := by
  have hside : ∀ g : NumericFilter, g.train t = .ok column → ∀ before,
      ((g.trainable before).train t).value = (.ok (), g.trainable (some column)) :=
    fun g hg before => by rw [value_train_trainable, hg]; rfl
  have hlower := hside f.lowerSide h lower
  have hupper := hside f.upperSide h upper
  have hboth : (RowSelector.trainAll
      [f.lowerSide.trainable lower, f.upperSide.trainable upper] 0 t).value =
      (.ok (), [f.lowerSide.trainable (some column), f.upperSide.trainable (some column)]) := by
    rw [RowSelector.trainAll_cons_of_ok (congrArg Prod.fst hlower),
      RowSelector.trainAll_cons_of_ok (congrArg Prod.fst hupper), hlower, hupper]
    rfl
  exact congrArg (Prod.map id (RowFinder.group .intersection)) hboth

/-- The side with the minimum comes first, so training ends with its error. -/
theorem train_sides_of_error (h : f.train t = .error e) :
    ((f.sides lower upper).train t).value = (.error (.child 0 e), f.sides none upper) := by
  have hlower : ((f.lowerSide.trainable lower).train t).value =
      (.error e, f.lowerSide.trainable none) := by
    have hside : f.lowerSide.train t = .error e := h
    rw [value_train_trainable, hside]
    rfl
  have hfirst : (RowSelector.trainAll
      [f.lowerSide.trainable lower, f.upperSide.trainable upper] 0 t).value =
      (.error (.child 0 e), [f.lowerSide.trainable none, f.upperSide.trainable upper]) := by
    rw [RowSelector.trainAll_cons_of_error (congrArg Prod.fst hlower), hlower]
  exact congrArg (Prod.map id (RowFinder.group .intersection)) hfirst

/-- A query has the error that the side with the minimum has. -/
theorem find_sides_of_error {error : FindError} (h : f.lowerSide.find lower u = .error error) :
    ((f.sides lower upper).find u).value = .error error := by
  have hlower : ((f.lowerSide.trainable lower).find u).value = .error error := h
  have hfirst : (RowSelector.findAll
      [f.lowerSide.trainable lower, f.upperSide.trainable upper] u).value = .error error :=
    RowSelector.findAll_cons_of_error hlower
  exact congrArg (Except.map Combination.intersection.combine) hfirst

/-- If both sides have learnt the same column, they find together what the filter finds in it. -/
theorem find_sides (f : NumericFilter) (column : Nat) (u : Table) :
    ((f.sides (some column) (some column)).find u).value = f.find (some column) u := by
  cases hcells : u.numericColumn column with
  | error error => rw [find_sides_of_error (find_of_error hcells), find_of_error hcells]
  | ok cells =>
    have hlower : ((f.lowerSide.trainable (some column)).find u).value =
        .ok (f.lowerSide.passing cells) := find_of_ok hcells
    have hupper : ((f.upperSide.trainable (some column)).find u).value =
        .ok (f.upperSide.passing cells) := find_of_ok hcells
    have hboth : (RowSelector.findAll
        [f.lowerSide.trainable (some column), f.upperSide.trainable (some column)] u).value =
        .ok [f.lowerSide.passing cells, f.upperSide.passing cells] := by
      rw [RowSelector.findAll_cons_of_ok hlower, RowSelector.findAll_cons_of_ok hupper]
      rfl
    rw [find_of_ok hcells, ← f.combine_sides cells]
    exact congrArg (Except.map Combination.intersection.combine) hboth

/-! ## Top theorem -/

/-- **A filter is the intersection of its sides.** Whatever was learnt before, training on a table
succeeds for the filter just if it does for the intersection, whose error is that of the filter as
the error of the first child. After that, also if the training has failed, a query of any table has
the same answer. If it is a list, it has the rows, in ascending order, whose cell in the column that
the filter was trained on is not empty, a number, and within both bounds. -/
theorem filters_by_sides (f : NumericFilter) (before lower upper : Option Nat) (t u : Table) :
    let whole : RowFinder Empty := .numeric f before
    let sides : RowFinder Empty := f.sides lower upper
    ((whole.train t).value.1 = .ok () ↔ (sides.train t).value.1 = .ok ()) ∧
      (∀ e, (whole.train t).value.1 = .error e → (sides.train t).value.1 = .error (.child 0 e)) ∧
      ((sides.train t).value.2.find u).value = ((whole.train t).value.2.find u).value ∧
      ∀ rows, ((whole.train t).value.2.find u).value = .ok rows ↔
        rows.Pairwise (· < ·) ∧ ∃ column cells,
          (whole.train t).value.2 = .numeric f (some column) ∧
          u.numericColumn column = .ok cells ∧
          ∀ row, row ∈ rows ↔ ∃ x, cells[row]? = some (some x) ∧ x.isNaN = false ∧ f.Within x := by
  intro whole sides
  have hwhole := f.value_train_numeric before t
  cases h : f.train t with
  | error e =>
    have hsides : (sides.train t).value = (.error (.child 0 e), f.sides none upper) :=
      train_sides_of_error h
    rw [h] at hwhole
    rw [hwhole, hsides]
    refine ⟨iff_of_false nofun nofun, ?_, find_sides_of_error rfl, fun rows => ?_⟩
    · rintro _ ⟨⟩
      rfl
    · refine iff_of_false nofun ?_
      rintro ⟨-, column, cells, ⟨⟩, -⟩
  | ok column =>
    have hsides : (sides.train t).value = (.ok (), f.sides (some column) (some column)) :=
      train_sides_of_ok h
    rw [h] at hwhole
    rw [hwhole, hsides]
    refine ⟨Iff.rfl, nofun, find_sides f column u, fun rows => ?_⟩
    show f.find (some column) u = .ok rows ↔ _
    rw [find_eq_ok_iff]
    simp only [Except.toOption, RowFinder.numeric.injEq, true_and]

/-- A filter that passes five but not one, on rows with an empty cell and one that is not a number,
after a training on another table; and a filter whose column is not there. -/
theorem filters_by_sides_with_gaps :
    let f : NumericFilter := { minimum := some 1.0, maximum := some 5.0, minimumExclusive := true }
    let missing : NumericFilter := { f with column := Range.single (.placeholder .third) }
    let cells : List (Option Float) := [some 1.0, none, some 5.0, some (0.0 / 0.0), some 3.0]
    ∃ t u, Table.ofColumns [⟨"x", .float64, [some 2.0]⟩] = .ok t ∧
      Table.ofColumns [⟨"y", .float64, cells⟩] = .ok u ∧
      ((.numeric f (some 7) : RowFinder Empty).train t).value = (.ok (), .numeric f (some 0)) ∧
      ((f.sides none (some 3)).train t).value.1 = .ok () ∧
      (((f.sides none (some 3)).train t).value.2.find u).value = .ok [2, 4] ∧
      (∀ row, row ∈ [2, 4] ↔
        ∃ x, cells[row]? = some (some x) ∧ x.isNaN = false ∧ f.Within x) ∧
      ((.numeric missing none : RowFinder Empty).train t).value.1 =
        .error (.range (.outOfBounds "third" 1)) ∧
      ((missing.sides none none).train t).value.1 =
        .error (.child 0 (.range (.outOfBounds "third" 1))) ∧
      (((missing.sides none none).train t).value.2.find u).value =
        .error (.notTrained "NumericRangeRowFinder") := by
  intro f missing cells
  obtain ⟨t, ht⟩ : ∃ t, Table.ofColumns [⟨"x", .float64, [some 2.0]⟩] = .ok t := ⟨_, rfl⟩
  obtain ⟨u, hu⟩ : ∃ u, Table.ofColumns [⟨"y", .float64, cells⟩] = .ok u := ⟨_, rfl⟩
  have htrain : ((.numeric f (some 7) : RowFinder Empty).train t).value =
      (.ok (), .numeric f (some 0)) := by cases ht; rfl
  have hfails : ((.numeric missing none : RowFinder Empty).train t).value =
      (.error (.range (.outOfBounds "third" 1)), .numeric missing none) := by cases ht; rfl
  have hfind : ((.numeric f (some 0) : RowFinder Empty).find u).value = .ok [2, 4] := by
    cases hu; rfl
  have hcells : u.numericColumn 0 = .ok cells := by cases hu; rfl
  obtain ⟨hok, -, hsame, hrows⟩ := filters_by_sides f (some 7) none (some 3) t u
  obtain ⟨-, herror, hsame', -⟩ := filters_by_sides missing none none none t u
  rw [htrain] at hok hsame hrows
  rw [hfails] at herror hsame'
  obtain ⟨-, column, cells', hcolumn, hcells', hmem⟩ := (hrows [2, 4]).1 hfind
  cases hcolumn
  obtain rfl : cells = cells' := Except.ok.inj (hcells.symm.trans hcells')
  exact ⟨t, u, ht, hu, htrain, hok.1 rfl, hsame.trans hfind, hmem, congrArg Prod.fst hfails,
    herror _ rfl, hsame'⟩

end NumericFilter

end TableSelection
