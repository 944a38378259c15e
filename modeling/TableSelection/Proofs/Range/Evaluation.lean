import TableSelection.Proofs.Outcome
import TableSelection.Proofs.Range.Meaning

/-!
# Evaluating a range

An evaluation gives what a range means on the entries. The positions are collected stretch by
stretch; `pairwise_union` says that this puts them in the order in which they are covered first, and
a list with these positions in this order is the only one (`Chooses.unique`). The top theorem

    r.evaluate e.domain = .ok l        ↔ r.Resolves e ∧ r.Chooses e l
    r.evaluate e.domain = .error err   ↔ r.FailsWith e err

has no assumption on the range or the entries (`evaluate_iff_meaning`).
-/

namespace TableSelection

/-! ## Covered first -/

section Cover

variable {α β : Type} {covers : α → Nat → Prop} {l : List α} {i j m n : Nat}

theorem exists_firstCover_iff : (∃ n, FirstCover covers l n i) ↔ ∃ a ∈ l, covers a i := by
  constructor
  · rintro ⟨n, h⟩
    induction h with
    | here h => exact ⟨_, List.mem_cons_self, h⟩
    | later _ _ ih =>
      obtain ⟨a, ha, hcovers⟩ := ih
      exact ⟨a, List.mem_cons_of_mem _ ha, hcovers⟩
  · induction l with
    | nil => rintro ⟨a, ha, -⟩; cases ha
    | cons b l ih =>
      rintro ⟨a, ha, hcovers⟩
      by_cases hb : covers b i
      · exact ⟨0, .here hb⟩
      · rcases List.mem_cons.1 ha with rfl | ha
        · exact absurd hcovers hb
        · obtain ⟨n, hn⟩ := ih ⟨a, ha, hcovers⟩
          exact ⟨n + 1, .later hb hn⟩

theorem FirstCover.unique (h : FirstCover covers l m i) (h' : FirstCover covers l n i) : m = n := by
  induction h generalizing n with
  | here h =>
    cases h' with
    | here => rfl
    | later hn => exact absurd h hn
  | later h _ ih =>
    cases h' with
    | here h' => exact absurd h' h
    | later _ rest => rw [ih rest]

theorem Precedes.asymm (h : Precedes covers l i j) : ¬Precedes covers l j i := by
  rintro ⟨n', m', hn', hm', hlt'⟩
  obtain ⟨m, n, hm, hn, hlt⟩ := h
  obtain rfl := hm.unique hm'
  obtain rfl := hn.unique hn'
  omega

theorem precedes_cons_of_not_covers {a : α} (hi : ¬covers a i) (hj : ¬covers a j)
    (h : Precedes covers l i j) : Precedes covers (a :: l) i j := by
  obtain ⟨m, n, hm, hn, hlt⟩ := h
  exact ⟨m + 1, n + 1, .later hi hm, .later hj hn, by omega⟩

theorem precedes_cons_of_covers {a : α} (hi : covers a i) (hj : ¬covers a j)
    (h : ∃ b ∈ l, covers b j) : Precedes covers (a :: l) i j := by
  obtain ⟨n, hn⟩ := exists_firstCover_iff.2 h
  exact ⟨0, n + 1, .here hi, .later hj hn, by omega⟩

variable {covers' : β → Nat → Prop} {l' : List β}

/-- Lists whose elements cover the same positions. -/
theorem FirstCover.of_forall₂ (hl : List.Forall₂ (fun a b => ∀ i, covers a i ↔ covers' b i) l l')
    (h : FirstCover covers' l' n i) : FirstCover covers l n i := by
  induction h generalizing l with
  | here h =>
    cases hl with
    | cons hab _ => exact .here ((hab _).2 h)
  | later h _ ih =>
    cases hl with
    | cons hab hl => exact .later (fun ha => h ((hab _).1 ha)) (ih hl)

theorem Precedes.of_forall₂ (hl : List.Forall₂ (fun a b => ∀ i, covers a i ↔ covers' b i) l l')
    (h : Precedes covers' l' i j) : Precedes covers l i j := by
  obtain ⟨m, n, hm, hn, hlt⟩ := h
  exact ⟨m, n, hm.of_forall₂ hl, hn.of_forall₂ hl, hlt⟩

theorem exists_covers_iff_of_forall₂
    (hl : List.Forall₂ (fun a b => ∀ i, covers a i ↔ covers' b i) l l') :
    (∃ a ∈ l, covers a i) ↔ ∃ b ∈ l', covers' b i := by
  induction hl with
  | nil => simp
  | cons hab _ ih => simp only [List.exists_mem_cons_iff, hab, ih]

end Cover

/-! ## Stretches -/

namespace Stretch

/-- The union holds the positions in the order in which the stretches cover them first. -/
theorem pairwise_union (before stretches : List Stretch) :
    (union before stretches).Pairwise (Precedes (fun s i => s.covers i = true) stretches) := by
  induction stretches generalizing before with
  | nil => exact List.Pairwise.nil
  | cons s rest ih =>
    have hfirst : ∀ i ∈ s.positions.filter fun i => !before.any (·.covers i), s.covers i = true :=
      fun i hi => mem_positions.1 (List.mem_filter.1 hi).1
    have hrest : ∀ i ∈ union (s :: before) rest,
        ¬s.covers i = true ∧ ∃ t ∈ rest, t.covers i = true := fun i hi => by
      obtain ⟨hcovered, hbefore⟩ := mem_union.1 hi
      exact ⟨Bool.eq_false_iff.1 (hbefore s List.mem_cons_self), hcovered⟩
    rw [union, List.pairwise_append]
    refine ⟨?_, ?_, ?_⟩
    · have hascending := List.Pairwise.filter (fun i => !before.any (·.covers i))
        (List.pairwise_lt_range' (s := s.first) (n := s.last + 1 - s.first))
      refine hascending.imp_of_mem fun {i j} hi hj hlt => ?_
      exact ⟨0, 0, .here (hfirst i hi), .here (hfirst j hj), Or.inr ⟨rfl, hlt⟩⟩
    · refine (ih (s :: before)).imp_of_mem fun {i j} hi hj h => ?_
      exact precedes_cons_of_not_covers (hrest i hi).1 (hrest j hj).1 h
    · intro i hi j hj
      exact precedes_cons_of_covers (hfirst i hi) (hrest j hj).1 (hrest j hj).2

theorem covers_between {i j k : Nat} :
    (between i j).covers k = true ↔ i ≤ k ∧ k ≤ j ∨ j ≤ k ∧ k ≤ i := by
  rw [between, covers, Bool.and_eq_true, decide_eq_true_eq, decide_eq_true_eq]
  show min i j ≤ k ∧ k ≤ max i j ↔ _
  omega

end Stretch

/-! ## Segments -/

namespace Segment

variable {e : Entries} {s : Segment} {stretch : Stretch} {i : Nat}

/-- The stretch of a segment is what it covers. -/
theorem covers_iff_of_resolve (h : s.resolve e.domain = .ok stretch) :
    s.Covers e i ↔ stretch.covers i = true := by
  cases s with
  | single bound =>
    obtain ⟨k, hk, hstretch⟩ := bind_eq_ok_iff.1 h
    cases hstretch
    rw [Stretch.covers_between]
    constructor
    · rintro ⟨hi⟩
      rw [← Bound.resolve_eq_ok_iff, hk] at hi
      cases hi
      omega
    · intro hi
      obtain rfl : k = i := by omega
      exact .single (Bound.resolve_eq_ok_iff.1 hk)
  | span start stop =>
    obtain ⟨j, hj, h⟩ := bind_eq_ok_iff.1 h
    obtain ⟨k, hk, hstretch⟩ := bind_eq_ok_iff.1 h
    cases hstretch
    rw [Stretch.covers_between]
    constructor
    · intro hi
      cases hi with
      | span hstart hstop between =>
        rw [← Bound.resolve_eq_ok_iff, hj] at hstart
        rw [← Bound.resolve_eq_ok_iff, hk] at hstop
        cases hstart
        cases hstop
        exact between
    · exact .span (Bound.resolve_eq_ok_iff.1 hj) (Bound.resolve_eq_ok_iff.1 hk)

theorem Covers.lt_size (h : s.Covers e i) : i < e.size := by
  cases h with
  | single h => exact h.lt_size
  | span hstart hstop between =>
    have hi := hstart.lt_size
    have hj := hstop.lt_size
    omega

/-- A segment fails as its bounds do in written order. -/
theorem resolve_eq_error_iff (d : Domain) (s : Segment) (err : LookupError) :
    s.resolve d = .error err ↔ s.bounds.mapM (Bound.resolve d) = .error err := by
  cases s with
  | single bound =>
    simp only [resolve, bounds, List.mapM_cons, List.mapM_nil, bind_eq_error_iff, pure_ne_error,
      and_false, exists_false, or_false]
  | span start stop =>
    simp only [resolve, bounds, List.mapM_cons, List.mapM_nil, bind_eq_error_iff, pure_ne_error,
      and_false, exists_false, or_false]

theorem exists_resolve_iff :
    (∃ stretch, s.resolve e.domain = .ok stretch) ↔ ∀ b ∈ s.bounds, ∃ i, b.Resolves e i := by
  have hbounds := exists_mapM_eq_ok_iff (f := Bound.resolve e.domain) (l := s.bounds)
  simp only [Bound.resolve_eq_ok_iff] at hbounds
  rw [← hbounds, exists_ok_iff, exists_ok_iff]
  simp only [ne_eq, resolve_eq_error_iff]

end Segment

/-! ## Ranges -/

namespace Range

variable {r : Range} {e : Entries}

/-- Only one list has the right positions in the right order. -/
theorem Chooses.unique {l l' : List Nat} (h : r.Chooses e l) (h' : r.Chooses e l') : l = l' := by
  cases h with
  | plain mem bounded nodup sorted =>
    cases h' with
    | plain mem' bounded' nodup' sorted' =>
      have hperm := (List.perm_ext_iff_of_nodup nodup nodup').2 fun i => (mem i).trans (mem' i).symm
      exact hperm.eq_of_pairwise (fun _ _ _ _ h h' => absurd h' h.asymm) sorted sorted'
  | inverted mem sorted =>
    cases h' with
    | inverted mem' sorted' =>
      have hperm := (List.perm_ext_iff_of_nodup (sorted.imp Nat.ne_of_lt)
        (sorted'.imp Nat.ne_of_lt)).2 fun i => (mem i).trans (mem' i).symm
      exact hperm.eq_of_pairwise (fun _ _ _ _ h h' => absurd h' (Nat.lt_asymm h)) sorted sorted'

theorem chooses_of_resolve {stretches : List Stretch}
    (h : List.Forall₂ (fun s stretch => s.resolve e.domain = .ok stretch) r.segments stretches) :
    r.Chooses e (if r.inverted then Stretch.complement e.domain.size stretches
      else Stretch.union [] stretches) := by
  have hcovers := h.imp fun s stretch hs (i : Nat) => Segment.covers_iff_of_resolve (i := i) hs
  obtain ⟨segments, inverted, limit⟩ := r
  cases inverted with
  | true =>
    refine .inverted (fun i => ?_) (Stretch.pairwise_complement _ _)
    rw [if_pos rfl, Stretch.mem_complement, exists_covers_iff_of_forall₂ hcovers,
      Entries.size_domain]
    simp
  | false =>
    have hmem : ∀ i, i ∈ Stretch.union [] stretches ↔ ∃ s ∈ segments, s.Covers e i := fun i => by
      rw [Stretch.mem_union, exists_covers_iff_of_forall₂ hcovers]
      simp
    refine .plain hmem (fun i hi => ?_) (Stretch.nodup_union _ _) ?_
    · obtain ⟨s, -, hi⟩ := (hmem i).1 hi
      exact hi.lt_size
    · exact (Stretch.pairwise_union [] stretches).imp fun h => h.of_forall₂ hcovers

theorem resolves_iff : r.Resolves e ↔
    ∃ stretches, r.segments.mapM (Segment.resolve e.domain) = .ok stretches := by
  rw [exists_mapM_eq_ok_iff]
  exact forall₂_congr fun s _ => Segment.exists_resolve_iff.symm

/-- An evaluation gives the positions that the range chooses. -/
theorem evaluate_eq_ok_iff {l : List Nat} :
    r.evaluate e.domain = .ok l ↔ r.Resolves e ∧ r.Chooses e l := by
  rw [evaluate, bind_eq_ok_iff, resolves_iff]
  constructor
  · rintro ⟨stretches, hstretches, hl⟩
    cases hl
    exact ⟨⟨stretches, hstretches⟩, chooses_of_resolve (mapM_eq_ok_iff.1 hstretches)⟩
  · rintro ⟨⟨stretches, hstretches⟩, hl⟩
    refine ⟨stretches, hstretches, congrArg Except.ok ?_⟩
    exact (chooses_of_resolve (mapM_eq_ok_iff.1 hstretches)).unique hl

/-- The error of an evaluation is that of the first bound that fails. -/
theorem evaluate_eq_error_iff {err : LookupError} :
    r.evaluate e.domain = .error err ↔ r.FailsWith e err := by
  rw [evaluate, bind_eq_error_iff]
  simp only [pure_ne_error, and_false, exists_false, or_false]
  rw [mapM_eq_error_iff_flatMap (Segment.resolve_eq_error_iff e.domain), mapM_eq_error_iff]
  simp only [Bound.resolve_eq_ok_iff, Bound.resolve_eq_error_iff]
  rfl

/-! ## Top theorems -/

/-- **An evaluation gives exactly what the range means.** It succeeds if all bounds resolve, with
the one list that the range chooses, and fails otherwise, with the error of the first bound that
does not resolve. -/
theorem evaluate_iff_meaning (r : Range) (e : Entries) :
    ((∃ l, r.evaluate e.domain = .ok l) ↔ r.Resolves e) ∧
      (∀ l, r.evaluate e.domain = .ok l ↔ r.Resolves e ∧ r.Chooses e l) ∧
      ∀ err, r.evaluate e.domain = .error err ↔ r.FailsWith e err := by
  refine ⟨?_, fun l => evaluate_eq_ok_iff, fun err => evaluate_eq_error_iff⟩
  constructor
  · rintro ⟨l, h⟩
    exact (evaluate_eq_ok_iff.1 h).1
  · intro h
    obtain ⟨stretches, hstretches⟩ := resolves_iff.1 h
    exact ⟨_, bind_eq_ok_iff.2 ⟨stretches, hstretches, rfl⟩⟩

/-- A position stands where it is covered first, and a span may be written backwards. -/
example : evaluate ⟨[.single (.name "B" false), .span (.placeholder .last) (.name "b" true),
    .single (.placeholder .first)], false, none⟩ (.ofNames ["a", "b", "c", "d"]) =
    .ok [1, 2, 3, 0] := by decide

end Range

end TableSelection
