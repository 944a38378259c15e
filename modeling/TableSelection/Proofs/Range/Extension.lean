import TableSelection.Finder.RowFinder
import TableSelection.Proofs.Outcome
import TableSelection.Proofs.Range.Meaning

/-!
# Domains that grow

A domain extends another one if it has at least as many entries and finds by name whatever the other
finds by name. A list of names extends its beginnings, and every domain extends as many unnamed
entries. A bound that resolves keeps its position in an extension, if the size has not changed or the
bound is anchored: it is neither counted from the end nor a row of digits that is looked up as a name.

    d'.Extends d, r.evaluate d = .ok l  →  r.evaluate d' = .ok l                       (plain)
                                           r.evaluate d' = .ok (l ++ the new entries)  (inverted)

So entries that are added at the end disturb no range that is anchored at the front
(`evaluate_append_names`), and names disturb no range that resolves without them
(`positions_before_names`).
-/

namespace TableSelection

/-- A domain with at least as many entries as another one, in which a name that is found there is found
at the same position. -/
structure Domain.Extends (d' d : Domain) : Prop where
  size_le : d.size ≤ d'.size
  find? : ∀ text exact i, d.find? text exact = some i → d'.find? text exact = some i

/-- Whether a placeholder is counted from the first entry. -/
def Placeholder.isFront : Placeholder → Bool
  | .first | .second | .third => true
  | .last | .lastButOne | .lastButTwo => false

/-- Whether a bound stands for the same entry of `size` entries however many more come behind them, if
it stands for one at all. -/
def Bound.isAnchored (size : Nat) : Bound → Bool
  | .placeholder meant => meant.isFront
  | .index position _ forced => forced || (1 ≤ position && position ≤ size)
  | .name _ _ => true

/-! ## Extensions -/

namespace Domain

theorem extends_unnamed (d : Domain) : d.Extends (.unnamed d.size) where
  size_le := Nat.le_refl _
  find? _ _ _ h := by cases h

/-- The first entry with a name stays the first one if entries are added behind. -/
theorem extends_append (names more : List String) :
    (ofNames (names ++ more)).Extends (ofNames names) where
  size_le := by simp [ofNames]
  find? text exact i h := by
    have hfound : names.findIdx? (hasName text exact) = some i := h
    show (names ++ more).findIdx? (hasName text exact) = some i
    rw [List.findIdx?_append, hfound]
    rfl

end Domain

namespace Table

variable {t t' : Table}

theorem rowCount_of_withRowNames {names : List String} (h : t.withRowNames names = .ok t') :
    t'.rowCount = t.rowCount := by
  unfold withRowNames at h
  split at h
  · cases h; rfl
  · cases h

/-- A table keeps its rows however often they are named. -/
theorem rowCount_of_foldlM_withRowNames {given : List (List String)}
    (h : given.foldlM withRowNames t = .ok t') : t'.rowCount = t.rowCount := by
  refine foldlM_invariant (P := fun s => s.rowCount = t.rowCount) (fun names _ s s' hs hnames => ?_)
    rfl h
  exact (rowCount_of_withRowNames hnames).trans hs

end Table

variable {d d' : Domain}

/-! ## Bounds and segments -/

theorem Placeholder.position?_of_le {meant : Placeholder} {size size' i : Nat}
    (hfront : meant.isFront = true) (hle : size ≤ size') (h : meant.position? size = some i) :
    meant.position? size' = some i := by
  rw [position?_eq_some_iff] at h ⊢
  cases h with
  | first h => exact .first (by omega)
  | second h => exact .second (by omega)
  | third h => exact .third (by omega)
  | last => cases hfront
  | lastButOne => cases hfront
  | lastButTwo => cases hfront

/-- A bound keeps its position in an extension of the same size, or if it is anchored. -/
theorem Bound.resolve_of_extends {b : Bound} {i : Nat} (hd : d'.Extends d)
    (hb : d'.size = d.size ∨ b.isAnchored d.size = true) (h : b.resolve d = .ok i) :
    b.resolve d' = .ok i := by
  cases b with
  | placeholder meant =>
    rw [resolve_placeholder_iff] at h ⊢
    rcases hb with hsize | hfront
    · rw [hsize, h]
    · exact Placeholder.position?_of_le hfront hd.size_le h
  | index position digits forced =>
    rw [resolve_index_iff] at h ⊢
    rcases h with ⟨hleast, hmost, hi⟩ | ⟨hout, hforced, hfind⟩
    · exact Or.inl ⟨hleast, Nat.le_trans hmost hd.size_le, hi⟩
    · -- digits that were looked up as a name must not have become a position
      rcases hb with hsize | hanchored
      · exact Or.inr ⟨hsize ▸ hout, hforced, hd.find? _ _ _ hfind⟩
      · rw [isAnchored, hforced, Bool.false_or, Bool.and_eq_true, decide_eq_true_eq,
          decide_eq_true_eq] at hanchored
        exact absurd hanchored hout
  | name text exact =>
    rw [resolve_name_iff] at h ⊢
    exact hd.find? _ _ _ h

namespace Segment

variable {s : Segment} {stretch : Stretch}

theorem resolve_of_extends (hd : d'.Extends d)
    (hs : ∀ b ∈ s.bounds, d'.size = d.size ∨ b.isAnchored d.size = true)
    (h : s.resolve d = .ok stretch) : s.resolve d' = .ok stretch := by
  cases s with
  | single bound =>
    obtain ⟨i, hi, hstretch⟩ := bind_eq_ok_iff.1 h
    have hbound := hs bound List.mem_cons_self
    exact bind_eq_ok_iff.2 ⟨i, Bound.resolve_of_extends hd hbound hi, hstretch⟩
  | span start stop =>
    obtain ⟨i, hi, h⟩ := bind_eq_ok_iff.1 h
    obtain ⟨j, hj, hstretch⟩ := bind_eq_ok_iff.1 h
    have hstart := hs start List.mem_cons_self
    have hstop := hs stop (List.mem_cons_of_mem _ List.mem_cons_self)
    exact bind_eq_ok_iff.2 ⟨i, Bound.resolve_of_extends hd hstart hi,
      bind_eq_ok_iff.2 ⟨j, Bound.resolve_of_extends hd hstop hj, hstretch⟩⟩

/-- A segment reaches no further than its domain. -/
theorem last_lt_of_resolve (h : s.resolve d = .ok stretch) : stretch.last < d.size := by
  cases s with
  | single bound =>
    obtain ⟨i, hi, hstretch⟩ := bind_eq_ok_iff.1 h
    cases hstretch
    exact Nat.max_lt.2 ⟨Bound.resolve_lt hi, Bound.resolve_lt hi⟩
  | span start stop =>
    obtain ⟨i, hi, h⟩ := bind_eq_ok_iff.1 h
    obtain ⟨j, hj, hstretch⟩ := bind_eq_ok_iff.1 h
    cases hstretch
    exact Nat.max_lt.2 ⟨Bound.resolve_lt hi, Bound.resolve_lt hj⟩

end Segment

/-! ## Ranges -/

/-- Entries behind all stretches are part of the complement. -/
theorem Stretch.complement_add (size more : Nat) (stretches : List Stretch)
    (h : ∀ s ∈ stretches, s.last < size) : complement (size + more) stretches =
      complement size stretches ++ List.range' size more := by
  have hnew : ∀ i ∈ List.range' size more, (!stretches.any (·.covers i)) = true := by
    intro i hi
    have hsize := (List.mem_range'_1.1 hi).1
    rw [Bool.not_eq_true', List.any_eq_false]
    intro s hs hcovers
    have hlast := h s hs
    rw [covers, Bool.and_eq_true, decide_eq_true_eq, decide_eq_true_eq] at hcovers
    omega
  rw [complement, complement, List.range_eq_range', ← List.range'_append_1, List.filter_append,
    Nat.zero_add, List.filter_eq_self.2 hnew, List.range_eq_range']

namespace Range

variable {r : Range} {l : List Nat}

/-- A range chooses the same entries from an extension, and the new ones too if it is inverted. -/
theorem evaluate_of_extends (hd : d'.Extends d)
    (hr : ∀ s ∈ r.segments, ∀ b ∈ s.bounds, d'.size = d.size ∨ b.isAnchored d.size = true)
    (h : r.evaluate d = .ok l) : r.evaluate d' =
      .ok (if r.inverted then l ++ List.range' d.size (d'.size - d.size) else l) := by
  obtain ⟨stretches, hstretches, hl⟩ := bind_eq_ok_iff.1 h
  cases hl
  have hlast : ∀ stretch ∈ stretches, stretch.last < d.size := by
    intro stretch hstretch
    obtain ⟨s, -, hs⟩ := exists_of_mem_of_mapM hstretches hstretch
    exact Segment.last_lt_of_resolve hs
  have hagain : r.segments.mapM (Segment.resolve d') = .ok stretches := by
    rw [mapM_eq_ok_iff] at hstretches ⊢
    refine ((List.forall₂_and_left _ _).2 ⟨hr, hstretches⟩).imp fun s stretch hs => ?_
    exact Segment.resolve_of_extends hd hs.1 hs.2
  refine bind_eq_ok_iff.2 ⟨stretches, hagain, congrArg Except.ok ?_⟩
  cases r.inverted with
  | false => rfl
  | true =>
    have hcomplement := Stretch.complement_add d.size (d'.size - d.size) stretches hlast
    rw [Nat.add_sub_cancel' hd.size_le] at hcomplement
    exact hcomplement

/-- Names have no say in a range that resolves without them. -/
theorem evaluate_of_unnamed (h : r.evaluate (.unnamed d.size) = .ok l) : r.evaluate d = .ok l := by
  have hsame := evaluate_of_extends d.extends_unnamed (fun _ _ _ _ => Or.inl rfl) h
  have hnone : d.size - (Domain.unnamed d.size).size = 0 := Nat.sub_self _
  rwa [hnone, List.range'_zero, List.append_nil, ite_self] at hsame

/-! ## Top theorems -/

/-- **Entries at the end disturb no range that is anchored at the front.** If all bounds of a range are
anchored in a list of names and the range resolves, more names at the end of the list leave its answer
as it is; to that of an inverted range they are added in ascending order. -/
theorem evaluate_append_names (r : Range) (names more : List String) (l : List Nat)
    (hr : ∀ s ∈ r.segments, ∀ b ∈ s.bounds, b.isAnchored names.length = true)
    (h : r.evaluate (.ofNames names) = .ok l) :
    (r.inverted = false → r.evaluate (.ofNames (names ++ more)) = .ok l) ∧
      (r.inverted = true → r.evaluate (.ofNames (names ++ more)) =
        .ok (l ++ List.range' names.length more.length)) := by
  have hextends := Domain.extends_append names more
  have heval := evaluate_of_extends hextends (fun s hs b hb => Or.inr (hr s hs b hb)) h
  have hmore : (Domain.ofNames (names ++ more)).size - (Domain.ofNames names).size = more.length := by
    simp [Domain.ofNames]
  rw [hmore] at heval
  constructor
  · intro hplain
    rwa [hplain, if_neg Bool.false_ne_true] at heval
  · intro hinverted
    rwa [hinverted, if_pos rfl] at heval

/-- A span that is written backwards, a forced index, and names of which one is the digits of another
position; the new entries have the names of old ones. -/
theorem evaluate_append_names_repeated :
    let names := ["b", "2", "B", "x"]
    let segments : List Segment := [.span (.name "2" true) (.placeholder .first),
      .single (.name "b" false), .single (.index 3 "3" true)]
    (∀ s ∈ segments, ∀ b ∈ s.bounds, b.isAnchored names.length = true) ∧
      evaluate ⟨segments, false, none⟩ (.ofNames names) = .ok [0, 1, 2] ∧
      evaluate ⟨segments, true, none⟩ (.ofNames names) = .ok [3] ∧
      evaluate ⟨segments, false, none⟩ (.ofNames (names ++ ["b", "2"])) = .ok [0, 1, 2] ∧
      evaluate ⟨segments, true, none⟩ (.ofNames (names ++ ["b", "2"])) = .ok [3, 4, 5] := by
  intro names segments
  have hanchored : ∀ s ∈ segments, ∀ b ∈ s.bounds, b.isAnchored names.length = true := by decide
  have hplain : evaluate ⟨segments, false, none⟩ (.ofNames names) = .ok [0, 1, 2] := by decide
  have hinverted : evaluate ⟨segments, true, none⟩ (.ofNames names) = .ok [3] := by decide
  exact ⟨hanchored, hplain, hinverted,
    (evaluate_append_names _ names ["b", "2"] _ hanchored hplain).1 rfl,
    (evaluate_append_names _ names ["b", "2"] _ hanchored hinverted).2 rfl⟩

/-- Digits that are no position yet become one. -/
example : evaluate (single (.index 2 "2" false)) (.ofNames ["2"]) = .ok [0] ∧
    evaluate (single (.index 2 "2" false)) (.ofNames ["2", "x"]) = .ok [1] := by decide

/-- **Positions win over names.** A range that resolves on unnamed entries chooses the same positions
from every domain of that size, whatever its names are. So a range finder that finds rows of a table
without row names finds the same ones after any number of row names were given to it in turn. -/
theorem positions_before_names (r : Range) :
    (∀ size l, (r.withLimit size).indices = .ok l → r.evaluate (.unnamed size) = .ok l ∧
      (∀ names : List String, names.length = size → r.evaluate (.ofNames names) = .ok l) ∧
      ∀ d : Domain, d.size = size → r.evaluate d = .ok l) ∧
    ∀ (t : Table) (rows : List Nat), t.rowNames = none →
      ((.range r : RowFinder Empty).find t).value = .ok rows →
      ∀ (given : List (List String)) (t' : Table), given.foldlM Table.withRowNames t = .ok t' →
        ((.range r : RowFinder Empty).find t').value = .ok rows := by
  constructor
  · intro size l h
    have hall : ∀ d : Domain, d.size = size → r.evaluate d = .ok l := by
      rintro d rfl
      exact evaluate_of_unnamed h
    exact ⟨h, fun names hnames => hall _ hnames, hall⟩
  · intro t rows hunnamed hfound given t' hgiven
    have hunnamed' : t.rowDomain = .unnamed t.rowCount := by
      rw [Table.rowDomain, hunnamed]
    have hrows : r.evaluate t.rowDomain = .ok rows := mapError_eq_ok_iff.1 hfound
    rw [hunnamed', ← Table.rowCount_of_foldlM_withRowNames hgiven, ← t'.size_rowDomain] at hrows
    exact mapError_eq_ok_iff.2 (evaluate_of_unnamed hrows)

/-- Names that are digits, keywords and other bounds, and row names that are replaced. -/
theorem positions_before_names_of_digits :
    let r : Range := ⟨[.span (.placeholder .lastButOne) (.index 2 "2" false),
      .single (.index 1 "1" true)], false, none⟩
    let t := Table.withoutColumns 4
    (r.withLimit 4).indices = .ok [1, 2, 0] ∧
      r.evaluate (.ofNames ["2", "#1", "last-1", "1"]) = .ok [1, 2, 0] ∧
      t.rowNames = none ∧ ((.range r : RowFinder Empty).find t).value = .ok [1, 2, 0] ∧
      ∃ t', [["2", "1", "2", "1"], ["first", "last-1", "1", "2"]].foldlM Table.withRowNames t =
          .ok t' ∧
        ((.range r : RowFinder Empty).find t').value = .ok [1, 2, 0] := by
  intro r t
  have hindices : (r.withLimit 4).indices = .ok [1, 2, 0] := by decide
  have hfound : ((.range r : RowFinder Empty).find t).value = .ok [1, 2, 0] := by rfl
  obtain ⟨t', ht'⟩ : ∃ t', [["2", "1", "2", "1"], ["first", "last-1", "1", "2"]].foldlM
      Table.withRowNames t = .ok t' := ⟨_, rfl⟩
  obtain ⟨hnames, hrows⟩ := positions_before_names r
  exact ⟨hindices, (hnames 4 _ hindices).2.1 _ rfl, rfl, hfound, t', ht',
    hrows t _ rfl hfound _ t' ht'⟩

end Range

end TableSelection
