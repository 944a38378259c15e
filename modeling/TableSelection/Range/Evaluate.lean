import TableSelection.Range.Basic
import TableSelection.Text.Lowercase

/-!
# Evaluating a range

A domain is what a range chooses from: a number of entries, some of which can be found by name. A
plain list of names is one, and so is a bare number of entries without names.

On a domain every bound stands for a position, so every segment stands for a stretch of positions.
A range chooses the positions of its stretches, each where it is covered first; an inverted range
chooses the positions that no stretch covers. Bounds are looked up in written order, and the first
one without a position is the error.

    i ∈ union [] l ↔ some stretch of l covers i             (mem_union)
    i ∈ complement n l ↔ i < n and no stretch covers i      (mem_complement)
-/

namespace TableSelection

open Text

/-! ## Errors -/

/-- Why a range has no answer on a domain. -/
inductive LookupError
  /-- No entry has the name. -/
  | unknownName (name : String)
  /-- The domain is too small for the bound. -/
  | outOfBounds (bound : String) (size : Nat)
  /-- The size of the domain is not known. -/
  | unknownSize (range : String)
  deriving DecidableEq, Repr

/-- The part of the range that has no answer. -/
def LookupError.token : LookupError → String
  | .unknownName name => name
  | .outOfBounds bound _ => bound
  | .unknownSize range => range

def LookupError.message : LookupError → String
  | .unknownName name => s!"Unknown name '{name}'"
  | .outOfBounds bound size => s!"'{bound}' is out of bounds for {size} entries"
  | .unknownSize range => s!"Range '{range}' has no maximum to resolve against"

/-! ## Domains -/

/-- Entries counted from zero. `find?` gives the first entry with a name, letter by letter if the
flag is set and up to case otherwise. -/
structure Domain where
  size : Nat
  find? : (name : String) → (exact : Bool) → Option Nat
  find?_lt : ∀ name exact i, find? name exact = some i → i < size

namespace Domain

/-- Whether an entry has the name asked for. -/
def hasName (name : String) (exact : Bool) (entry : String) : Bool :=
  if exact then entry == name else sameIgnoringCase entry name

def unnamed (size : Nat) : Domain where
  size
  find? _ _ := none
  find?_lt := by simp

/-- The domain of a list of names, which may repeat. -/
def ofNames (names : List String) : Domain where
  size := names.length
  find? name exact := names.findIdx? (hasName name exact)
  find?_lt _ _ _ h := (List.findIdx?_eq_some_iff_findIdx_eq.1 h).1

end Domain

/-! ## Stretches -/

/-- The positions from `first` to `last`, both included. -/
structure Stretch where
  first : Nat
  last : Nat
  deriving DecidableEq, Repr

namespace Stretch

/-- The stretch between two positions in either order. -/
def between (i j : Nat) : Stretch := ⟨min i j, max i j⟩

def covers (s : Stretch) (i : Nat) : Bool := s.first ≤ i && i ≤ s.last

/-- The positions of the stretch in ascending order. -/
def positions (s : Stretch) : List Nat := List.range' s.first (s.last + 1 - s.first)

/-- The positions of all stretches. Each stands where a stretch covers it first, so those that a
stretch in `before` covers are left out. -/
def union (before : List Stretch) : List Stretch → List Nat
  | [] => []
  | s :: rest =>
      (s.positions.filter fun i => !before.any (·.covers i)) ++ union (s :: before) rest

/-- The positions below `size` that no stretch covers. -/
def complement (size : Nat) (stretches : List Stretch) : List Nat :=
  (List.range size).filter fun i => !stretches.any (·.covers i)

end Stretch

/-- The position of a bound in a domain. An index that is no position of the domain is looked up as
a name, letter by letter, unless it is forced. -/
def Bound.resolve (d : Domain) (b : Bound) : Except LookupError Nat :=
  match b with
  | .placeholder meant =>
      match meant.position? d.size with
      | some i => .ok i
      | none => .error (.outOfBounds meant.keyword d.size)
  | .index position digits forced =>
      if 1 ≤ position ∧ position ≤ d.size then .ok (position - 1)
      else
        match if forced then none else d.find? digits true with
        | some i => .ok i
        | none => .error (.outOfBounds b.render d.size)
  | .name text exact =>
      match d.find? text exact with
      | some i => .ok i
      | none => .error (.unknownName text)

def Segment.resolve (d : Domain) : Segment → Except LookupError Stretch
  | .single bound => do
      let i ← bound.resolve d
      return .between i i
  | .span start stop => do
      let i ← start.resolve d
      let j ← stop.resolve d
      return .between i j

/-! ## Lemmas -/

namespace Stretch

theorem mem_positions {s : Stretch} {i : Nat} : i ∈ s.positions ↔ s.covers i = true := by
  simp only [positions, List.mem_range'_1, covers, Bool.and_eq_true, decide_eq_true_eq]
  omega

/-- The union holds what some stretch covers and no earlier one does. -/
theorem mem_union {before stretches : List Stretch} {i : Nat} :
    i ∈ union before stretches ↔
      (∃ s ∈ stretches, s.covers i = true) ∧ ∀ s ∈ before, s.covers i = false := by
  induction stretches generalizing before with
  | nil => simp [union]
  | cons s rest ih =>
      have hb : (!before.any (·.covers i)) = true ↔ ∀ b ∈ before, b.covers i = false := by
        simp
      rw [union, List.mem_append, List.mem_filter, mem_positions, hb, ih]
      constructor
      · rintro (⟨hs, hbefore⟩ | ⟨⟨r, hr, hc⟩, hbefore⟩)
        · exact ⟨⟨s, List.mem_cons_self, hs⟩, hbefore⟩
        · exact ⟨⟨r, List.mem_cons_of_mem _ hr, hc⟩,
            fun b h => hbefore b (List.mem_cons_of_mem _ h)⟩
      · rintro ⟨⟨r, hr, hc⟩, hbefore⟩
        cases hs : s.covers i with
        | true => exact Or.inl ⟨rfl, hbefore⟩
        | false =>
            refine Or.inr ⟨?_, fun b h => ?_⟩
            · rcases List.mem_cons.1 hr with rfl | hr
              · rw [hs] at hc; cases hc
              · exact ⟨r, hr, hc⟩
            · rcases List.mem_cons.1 h with rfl | h
              · exact hs
              · exact hbefore b h

/-- No position is chosen twice. -/
theorem nodup_union (before stretches : List Stretch) : (union before stretches).Nodup := by
  induction stretches generalizing before with
  | nil => simp [union]
  | cons s rest ih =>
      rw [union, List.nodup_append]
      refine ⟨List.Nodup.sublist List.filter_sublist List.nodup_range', ih _, ?_⟩
      rintro a ha _ hb rfl
      have hs := mem_positions.1 (List.mem_filter.1 ha).1
      rw [(mem_union.1 hb).2 s List.mem_cons_self] at hs
      cases hs

theorem mem_complement {size : Nat} {stretches : List Stretch} {i : Nat} :
    i ∈ complement size stretches ↔ i < size ∧ ∀ s ∈ stretches, s.covers i = false := by
  simp [complement]

/-- The complement is strictly ascending. -/
theorem pairwise_complement (size : Nat) (stretches : List Stretch) :
    (complement size stretches).Pairwise (· < ·) :=
  List.Pairwise.filter _ List.pairwise_lt_range

end Stretch

/-! ## Ranges -/

namespace Range

/-- The positions that a range chooses from a domain. -/
def evaluate (r : Range) (d : Domain) : Except LookupError (List Nat) := do
  let stretches ← r.segments.mapM (Segment.resolve d)
  return if r.inverted then Stretch.complement d.size stretches else Stretch.union [] stretches

/-- The positions that a range chooses from as many unnamed entries as its limit says. Without a
limit only the empty range has an answer. -/
def indices (r : Range) : Except LookupError (List Nat) :=
  match r.limit with
  | some limit => r.evaluate (.unnamed limit)
  | none => if r.isEmpty && !r.inverted then .ok [] else .error (.unknownSize r.render)

end Range

end TableSelection
