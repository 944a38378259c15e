import Mathlib.Data.List.Sort
import TableSelection.Finder.Combination

/-!
# Combining lists of positions

A combination makes a set of positions out of several, and shows it as its ascending list. Ascending
lists with the same members are equal, so what is known of a combination follows from its members. A
common position can also be found list by list: each list takes out of the positions that are still
common those that it does not hold.

    i ∈ retain common l                      ↔ i ∈ common ∧ i ∈ l                  (mem_retain)
    i ∈ lists.foldl retain common            ↔ i ∈ common ∧ i is in all lists      (mem_foldl_retain)
    intersection.combine (first :: rest)     = rest.foldl retain (ascending first) (intersection_cons)
    how.combine (groups.map how.combine)     = how.combine groups.flatten          (combine_groups)

where no group is empty.
-/

namespace TableSelection.Combination

variable {how : Combination} {common l : List Nat} {lists lists' : List (List Nat)} {i : Nat}

/-! ## One list after the other -/

/-- What is left of the common positions if one more list has to hold them. -/
def retain (common l : List Nat) : List Nat := common.filter (l.contains ·)

theorem mem_retain : i ∈ retain common l ↔ i ∈ common ∧ i ∈ l := by simp [retain]

theorem pairwise_retain (h : common.Pairwise (· < ·)) : (retain common l).Pairwise (· < ·) :=
  h.filter _

/-- By induction on the lists: what is left are the positions that every list so far holds. -/
theorem mem_foldl_retain : i ∈ lists.foldl retain common ↔ i ∈ common ∧ ∀ l ∈ lists, i ∈ l := by
  induction lists generalizing common with
  | nil => simp
  | cons l lists ih => rw [List.foldl_cons, ih, mem_retain, List.forall_mem_cons, and_assoc]

theorem pairwise_foldl_retain (h : common.Pairwise (· < ·)) :
    (lists.foldl retain common).Pairwise (· < ·) := by
  induction lists generalizing common with
  | nil => exact h
  | cons l lists ih => exact ih (pairwise_retain h)

/-- The intersection is what the first list has in common with one list after the other. -/
theorem intersection_cons (first : List Nat) (rest : List (List Nat)) :
    intersection.combine (first :: rest) = rest.foldl retain (ascending first) := by
  apply (pairwise_combine _ _).eq_of_mem_iff (pairwise_foldl_retain (pairwise_ascending first))
  intro i
  rw [mem_combine_intersection, mem_foldl_retain, mem_ascending, List.forall_mem_cons,
    and_iff_right (List.cons_ne_nil first rest)]

/-! ## Order and repetition -/

theorem combine_congr (hnil : lists = [] ↔ lists' = [])
    (hsome : ∀ i, (∃ l ∈ lists, i ∈ l) ↔ ∃ l ∈ lists', i ∈ l)
    (hevery : ∀ i, (∀ l ∈ lists, i ∈ l) ↔ ∀ l ∈ lists', i ∈ l) :
    how.combine lists = how.combine lists' := by
  apply (pairwise_combine how lists).eq_of_mem_iff (pairwise_combine how lists')
  intro i
  cases how with
  | union => rw [mem_combine_union, mem_combine_union, hsome]
  | intersection =>
    rw [mem_combine_intersection, mem_combine_intersection, ne_eq, hnil, hevery]

/-- The order of the lists does not matter. -/
theorem combine_of_perm (h : lists.Perm lists') : how.combine lists = how.combine lists' := by
  apply combine_congr
  · exact ⟨fun hnil => List.nil_perm.1 (hnil ▸ h), fun hnil => List.perm_nil.1 (hnil ▸ h)⟩
  · simp only [h.mem_iff, implies_true]
  · simp only [h.mem_iff, implies_true]

/-- Of a list only the members matter, not their order and not how often they occur. -/
theorem combine_of_forall₂ (h : List.Forall₂ (fun l l' => ∀ i, i ∈ l ↔ i ∈ l') lists lists') :
    how.combine lists = how.combine lists' := by
  apply combine_congr
  · cases h <;> simp
  · intro i
    induction h with
    | nil => rfl
    | cons hl _ ih => rw [List.exists_mem_cons_iff, List.exists_mem_cons_iff, hl, ih]
  · intro i
    induction h with
    | nil => rfl
    | cons hl _ ih => rw [List.forall_mem_cons, List.forall_mem_cons, hl, ih]

/-! ## Groups -/

/-- Lists may be combined group by group. An empty group would leave no position to an intersection,
though it takes none away from the lists together. -/
theorem combine_groups {groups : List (List (List Nat))} (h : ∀ group ∈ groups, group ≠ []) :
    how.combine (groups.map how.combine) = how.combine groups.flatten := by
  apply (pairwise_combine how _).eq_of_mem_iff (pairwise_combine how _)
  intro i
  cases how with
  | union =>
    simp only [mem_combine_union, List.mem_map, List.mem_flatten]
    constructor
    · rintro ⟨_, ⟨group, hgroup, rfl⟩, hi⟩
      obtain ⟨l, hl, hi⟩ := mem_combine_union.1 hi
      exact ⟨l, ⟨group, hgroup, hl⟩, hi⟩
    · rintro ⟨l, ⟨group, hgroup, hl⟩, hi⟩
      exact ⟨_, ⟨group, hgroup, rfl⟩, mem_combine_union.2 ⟨l, hl, hi⟩⟩
  | intersection =>
    have hnil : groups.map intersection.combine = [] ↔ groups.flatten = [] := by
      rw [List.map_eq_nil_iff, List.flatten_eq_nil_iff]
      refine ⟨fun hgroups => by rw [hgroups]; nofun, fun hgroups => ?_⟩
      exact List.eq_nil_iff_forall_not_mem.2 fun group hgroup => h group hgroup (hgroups group hgroup)
    rw [mem_combine_intersection, mem_combine_intersection, ne_eq, hnil, List.forall_mem_map]
    simp only [mem_combine_intersection, List.mem_flatten]
    refine and_congr_right fun _ => ⟨?_, fun hi group hgroup => ?_⟩
    · rintro hi l ⟨group, hgroup, hl⟩
      exact (hi group hgroup).2 l hl
    · exact ⟨h group hgroup, fun l hl => hi l ⟨group, hgroup, hl⟩⟩

example : intersection.combine ([[[3, 1]], []].map intersection.combine) = [] ∧
    intersection.combine [[[3, 1]], []].flatten = [1, 3] := by decide

/-! ## Top theorem -/

/-- **A combination is the ascending list of a set.** The union has the positions of some list and
the intersection, which can be found list by list, has those of every list, if there are lists.
Neither the order of the lists nor the order and the repetitions in them matter, and the lists may be
combined group by group where no group is empty. -/
theorem combine_as_sets (how : Combination) (lists : List (List Nat)) :
    (how.combine lists).Pairwise (· < ·) ∧
      (∀ i, i ∈ union.combine lists ↔ ∃ l ∈ lists, i ∈ l) ∧
      (∀ i, i ∈ intersection.combine lists ↔ lists ≠ [] ∧ ∀ l ∈ lists, i ∈ l) ∧
      (∀ first rest, intersection.combine (first :: rest) = rest.foldl retain (ascending first)) ∧
      (∀ lists', lists.Perm lists' → how.combine lists' = how.combine lists) ∧
      (∀ lists', List.Forall₂ (fun l l' => ∀ i, i ∈ l ↔ i ∈ l') lists lists' →
        how.combine lists' = how.combine lists) ∧
      ∀ groups : List (List (List Nat)), (∀ group ∈ groups, group ≠ []) →
        how.combine (groups.map how.combine) = how.combine groups.flatten := by
  refine ⟨pairwise_combine how lists, fun i => mem_combine_union,
    fun i => mem_combine_intersection, intersection_cons, ?_, ?_, ?_⟩
  · exact fun lists' hperm => (combine_of_perm hperm).symm
  · exact fun lists' hsame => (combine_of_forall₂ hsame).symm
  · exact fun groups hgroups => combine_groups hgroups

/-- Lists out of order with a repetition, the members of one in another order, and two groups. -/
theorem combine_as_sets_regrouped :
    let lists := [[4, 1, 2, 4], [2, 4, 3], [9, 4, 2]]
    let moved := [[2, 4, 3], [9, 4, 2], [4, 1, 2, 4]]
    let reordered := [[4, 2, 1], [2, 4, 3], [9, 4, 2]]
    let groups := [[[4, 1, 2, 4]], [[2, 4, 3], [9, 4, 2]]]
    lists.Perm moved ∧ List.Forall₂ (fun l l' => ∀ i, i ∈ l ↔ i ∈ l') lists reordered ∧
      (∀ group ∈ groups, group ≠ []) ∧ groups.flatten = lists ∧
      intersection.combine lists = [2, 4] ∧ intersection.combine moved = [2, 4] ∧
      intersection.combine reordered = [2, 4] ∧
      intersection.combine (groups.map intersection.combine) = [2, 4] := by
  intro lists moved reordered groups
  have hmoved : lists.Perm moved := by decide
  have hreordered : List.Forall₂ (fun l l' => ∀ i, i ∈ l ↔ i ∈ l') lists reordered := by
    refine .cons (fun i => ?_) (.cons (fun _ => Iff.rfl) (.cons (fun _ => Iff.rfl) .nil))
    simp only [List.mem_cons, List.not_mem_nil, or_false]
    omega
  have hgroups : ∀ group ∈ groups, group ≠ [] := by decide
  have hflatten : groups.flatten = lists := rfl
  obtain ⟨-, -, -, hloop, horder, hmembers, hregroup⟩ := combine_as_sets intersection lists
  have hlists : intersection.combine lists = [2, 4] := hloop [4, 1, 2, 4] [[2, 4, 3], [9, 4, 2]]
  refine ⟨hmoved, hreordered, hgroups, hflatten, hlists, ?_, ?_, ?_⟩
  · rw [horder moved hmoved, hlists]
  · rw [hmembers reordered hreordered, hlists]
  · rw [hregroup groups hgroups, hflatten, hlists]

end TableSelection.Combination
