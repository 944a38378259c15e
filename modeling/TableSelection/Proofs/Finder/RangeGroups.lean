import Mathlib.Data.List.Sort
import TableSelection.Proofs.Finder.Reachable
import TableSelection.Proofs.Finder.Steps
import TableSelection.Proofs.Range.Composition
import TableSelection.Proofs.Range.Evaluation

/-!
# Groups of range finders

Ranges are put together in two ways. The segments of two ranges make one range, whose positions are
collected in the order in which they are covered first, and of whose positions an inversion takes
the complement. Or the ranges are given to finders of their own, whose positions a group combines in
ascending order. Both are the same operations on sets, and both look bounds up in written order:

    union.combine [l, l'] = ascending of l and what l' adds                     (union_pair)
    the intersection of two complements is the complement of both               (intersection_pair)
    a group of range finders combines the evaluations of its ranges             (find_group)

So a union of two ranges is their segments in one range, in ascending order, and an intersection of
two inverted ranges is their segments in one inverted range (`groups_as_ranges`).
-/

namespace TableSelection

/-! ## Two lists -/

namespace Combination

variable (l l' : List Nat)

theorem union_pair : union.combine [l, l'] = ascending (l ++ l'.filter fun i => i ∉ l) := by
  apply (pairwise_combine union _).eq_of_mem_iff (pairwise_ascending _)
  intro i
  rw [mem_combine_union, mem_ascending, List.mem_append, List.mem_filter, decide_eq_true_eq]
  simp only [List.exists_mem_cons_iff, List.not_mem_nil, false_and, exists_false, or_false]
  by_cases hi : i ∈ l
  · simp [hi]
  · simp [hi]

/-- What two complements have in common is the complement of both lists. -/
theorem intersection_pair (size : Nat) :
    intersection.combine [(List.range size).filter fun i => i ∉ l,
        (List.range size).filter fun i => i ∉ l'] =
      (List.range size).filter fun i => i ∉ l ++ l'.filter fun i => i ∉ l := by
  apply (pairwise_combine intersection _).eq_of_mem_iff (List.pairwise_lt_range.filter _)
  intro i
  rw [mem_combine_intersection, and_iff_right (List.cons_ne_nil _ _)]
  simp only [List.forall_mem_cons, List.mem_filter, List.mem_range, List.mem_append,
    decide_eq_true_eq]
  by_cases hi : i ∈ l
  · simp [hi]
  · simp [hi]

end Combination

/-! ## Finders of ranges -/

section Ranges

variable {α : Type} [CustomFinder α] {data : Table}

theorem RowSelector.findAll_ranges (ranges : List Range) :
    (findAll (ranges.map fun r => (.plain (.range r) : RowSelector α)) data).value =
      (ranges.mapM (Range.evaluate · data.rowDomain)).mapError .range := by
  rw [value_findAll, List.mapM_map, ← mapM_mapError]
  rfl

theorem ColumnSelector.findAll_ranges (ranges : List Range) :
    (findAll (ranges.map fun r => (.plain (.range r) : ColumnSelector α)) data).value.1 =
      (ranges.mapM (Range.evaluate · data.columnDomain)).mapError .range := by
  rw [value_findAll, fst_stepAll, List.mapM_map, ← mapM_mapError]
  refine mapM_congr fun r _ => ?_
  show ((plain (.range r)).find data).value.1 = _
  rw [value_find_plain, ColumnFinder.find]
  rfl

end Ranges

/-- What a finder chooses from. -/
inductive Axis
  | rows
  | columns

namespace Axis

def entries : Axis → Table → Entries
  | rows, data => .rows data
  | columns, data => .columns data

def range : Axis → Range → Finder Empty
  | rows, r => .row (.range r)
  | columns, r => .column (.range r)

/-- A group of finders, one for each of some ranges. -/
def group (axis : Axis) (how : Combination) (ranges : List Range) : Finder Empty :=
  match axis with
  | rows => .row (.group how (ranges.map fun r => .plain (.range r)))
  | columns => .column (.group how (ranges.map fun r => .plain (.range r)))

variable {axis : Axis} {how : Combination} {data : Table}

theorem find_range (r : Range) : ((axis.range r).find data).1 =
    (r.evaluate (axis.entries data).domain).mapError .range := by
  cases axis with
  | rows => rfl
  | columns =>
    show ((ColumnFinder.range r).find data).value.1 = _
    rw [ColumnFinder.find]
    rfl

/-- A group of range finders combines what its ranges choose. -/
theorem find_group (ranges : List Range) : ((axis.group how ranges).find data).1 =
    ((ranges.mapM (Range.evaluate · (axis.entries data).domain)).map how.combine).mapError
      .range := by
  cases axis with
  | rows =>
    show (RowSelector.findAll _ data).value.map how.combine = _
    rw [RowSelector.findAll_ranges]
    exact map_mapError _ _ _
  | columns =>
    show ((ColumnFinder.group how _).find data).value.1 = _
    rw [ColumnFinder.value_find_group, ColumnSelector.findAll_ranges]
    exact map_mapError _ _ _

end Axis

/-! ## Ranges together -/

namespace Range

variable (segments segments' : List Segment) (d : Domain)

theorem union_evaluate :
    ([⟨segments, false, none⟩, ⟨segments', false, none⟩].mapM (evaluate · d)).map
        Combination.union.combine =
      (evaluate ⟨segments ++ segments', false, none⟩ d).map ascending := by
  rw [evaluate_append]
  simp only [List.mapM_cons, List.mapM_nil]
  cases evaluate ⟨segments, false, none⟩ d with
  | error e => rfl
  | ok l =>
    cases evaluate ⟨segments', false, none⟩ d with
    | error e => rfl
    | ok l' => exact congrArg Except.ok (Combination.union_pair l l')

theorem intersection_evaluate :
    ([⟨segments, true, none⟩, ⟨segments', true, none⟩].mapM (evaluate · d)).map
        Combination.intersection.combine = evaluate ⟨segments ++ segments', true, none⟩ d := by
  simp only [List.mapM_cons, List.mapM_nil, evaluate_inverted, evaluate_append]
  cases evaluate ⟨segments, false, none⟩ d with
  | error e => rfl
  | ok l =>
    cases evaluate ⟨segments', false, none⟩ d with
    | error e => rfl
    | ok l' => exact congrArg Except.ok (Combination.intersection_pair l l' d.size)

end Range

namespace Axis

/-! ## Top theorem -/

/-- **Groups of range finders agree with ranges.** On the rows and on the columns of every table,
the intersection of two inverted ranges is what the inverted range of all their segments chooses,
and the union of two plain ranges is what the range of all their segments chooses, in ascending
order. If a bound does not resolve, the first of them in written order gives the error on both
sides. -/
theorem groups_as_ranges (axis : Axis) (segments segments' : List Segment)
    (limit limit' limit'' : Option Nat) (data : Table) :
    let a : Range := ⟨segments, false, limit⟩
    let b : Range := ⟨segments', false, limit'⟩
    let joined : Range := ⟨segments ++ segments', false, limit''⟩
    ((axis.group .intersection [a.invert, b.invert]).find data).1 =
        ((axis.range joined.invert).find data).1 ∧
      ((axis.group .union [a, b]).find data).1 = ((axis.range joined).find data).1.map ascending ∧
      ∀ e, (((axis.range joined.invert).find data).1 = .error e ↔
          ∃ err, joined.FailsWith (axis.entries data) err ∧ e = .range err) ∧
        (((axis.range joined).find data).1 = .error e ↔
          ∃ err, joined.FailsWith (axis.entries data) err ∧ e = .range err) := by
  intro a b joined
  have hfails : ∀ r : Range, r.segments = joined.segments → ∀ e,
      ((axis.range r).find data).1 = .error e ↔
        ∃ err, joined.FailsWith (axis.entries data) err ∧ e = .range err := by
    intro r hr e
    rw [find_range, mapError_eq_error_iff]
    simp only [Range.evaluate_eq_error_iff, Range.FailsWith, hr, eq_comm (a := e)]
  refine ⟨?_, ?_, fun e => ⟨hfails joined.invert rfl e, hfails joined rfl e⟩⟩
  · rw [find_group, find_range]
    exact congrArg (Except.mapError _)
      (Range.intersection_evaluate segments segments' (axis.entries data).domain)
  · rw [find_group, find_range]
    have hunion : ([a, b].mapM (Range.evaluate · (axis.entries data).domain)).map
        Combination.union.combine = (joined.evaluate (axis.entries data).domain).map ascending :=
      Range.union_evaluate segments segments' (axis.entries data).domain
    rw [hunion, map_mapError]

end Axis

end TableSelection
