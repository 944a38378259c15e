/-!
# Combining positions

`ascending` puts numbers into ascending order without repeats. Several finders give several lists of
positions; a combination makes one ascending list of them.

    x ∈ ascending l ↔ x ∈ l                                  (mem_ascending)
    i ∈ union.combine lists ↔ i is in some list              (mem_combine_union)
    i ∈ intersection.combine lists ↔ i is in every list      (mem_combine_intersection)
-/

namespace TableSelection

/-! ## Ascending lists -/

/-- Puts a number into its place in an ascending list, unless it is there already. -/
def insertAscending (x : Nat) : List Nat → List Nat
  | [] => [x]
  | y :: ys =>
      if x < y then x :: y :: ys
      else if x = y then y :: ys
      else y :: insertAscending x ys

/-- The numbers of a list in ascending order, each once. -/
def ascending (l : List Nat) : List Nat := l.foldr insertAscending []

theorem mem_insertAscending {x z : Nat} {l : List Nat} :
    z ∈ insertAscending x l ↔ z = x ∨ z ∈ l := by
  induction l with
  | nil => simp [insertAscending]
  | cons y ys ih =>
      unfold insertAscending
      split
      · simp
      · split
        · next h => subst h; simp
        · rw [List.mem_cons, ih, List.mem_cons]; exact or_left_comm

theorem pairwise_insertAscending {x : Nat} {l : List Nat} (h : l.Pairwise (· < ·)) :
    (insertAscending x l).Pairwise (· < ·) := by
  induction l with
  | nil => simp [insertAscending]
  | cons y ys ih =>
      obtain ⟨hy, hys⟩ := List.pairwise_cons.1 h
      unfold insertAscending
      split
      · next hxy =>
          refine List.pairwise_cons.2 ⟨fun z hz => ?_, h⟩
          rcases List.mem_cons.1 hz with rfl | hz
          · exact hxy
          · exact Nat.lt_trans hxy (hy z hz)
      · next hxy =>
          split
          · exact h
          · next hne =>
              refine List.pairwise_cons.2 ⟨fun z hz => ?_, ih hys⟩
              rcases mem_insertAscending.1 hz with rfl | hz
              · omega
              · exact hy z hz

/-- The members stay the same. -/
theorem mem_ascending {z : Nat} {l : List Nat} : z ∈ ascending l ↔ z ∈ l := by
  induction l with
  | nil => simp [ascending]
  | cons x xs ih => simp [ascending, mem_insertAscending, ← ih]

/-- The list is strictly ascending. -/
theorem pairwise_ascending (l : List Nat) : (ascending l).Pairwise (· < ·) := by
  induction l with
  | nil => simp [ascending]
  | cons x xs ih => exact pairwise_insertAscending ih

/-! ## Combinations -/

/-- How the positions of several finders are combined. -/
inductive Combination
  /-- The positions that some finder chooses. -/
  | union
  /-- The positions that every finder chooses. -/
  | intersection
  deriving DecidableEq, Repr

instance : Inhabited Combination := ⟨.union⟩

/-- The combined positions in ascending order. No lists at all have no positions in common. -/
def Combination.combine (how : Combination) (lists : List (List Nat)) : List Nat :=
  match how, lists with
  | .union, lists => ascending lists.flatten
  | .intersection, [] => []
  | .intersection, first :: rest =>
      (ascending first).filter fun position => rest.all (·.contains position)

namespace Combination

theorem mem_combine_union {lists : List (List Nat)} {i : Nat} :
    i ∈ union.combine lists ↔ ∃ l ∈ lists, i ∈ l := by
  simp [combine, mem_ascending]

theorem mem_combine_intersection {lists : List (List Nat)} {i : Nat} :
    i ∈ intersection.combine lists ↔ lists ≠ [] ∧ ∀ l ∈ lists, i ∈ l := by
  cases lists <;> simp [combine, mem_ascending]

/-- Combined positions are strictly ascending. -/
theorem pairwise_combine (how : Combination) (lists : List (List Nat)) :
    (how.combine lists).Pairwise (· < ·) := by
  unfold combine
  split
  · exact pairwise_ascending _
  · exact List.Pairwise.nil
  · exact List.Pairwise.filter _ (pairwise_ascending _)

end Combination

end TableSelection
