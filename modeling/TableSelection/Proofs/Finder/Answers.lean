import TableSelection.Proofs.Finder.Stages
import TableSelection.Proofs.Finder.Variance
import TableSelection.Proofs.Range.Evaluation
import TableSelection.Proofs.Table.Rows

/-!
# Answers are positions of the table

What a finder answers is a selection: different positions of the table that was asked about. Only a
variance filter answers with what it learnt from another table; its choice is a selection from that
table, and it is given only for tables with as many columns. So the invariant is about the choices
in a finder (`choices`), and it is kept by everything that is done with the finder:

    f.train data = .ok c → c.IsValid                               (VarianceFilter.isValid_train)
    all choices of f are valid → those of (f.find data).2 are,
      and the answer is a selection from the columns of data       (ColumnFinder.find_of_valid)

Rows are selections whatever the row finder has learnt (`RowFinder.isSelection_find`), so a pipeline
never selects rows that are not there.
-/

namespace TableSelection

/-! ## Selections -/

/-- Different positions among `size` entries. -/
structure IsSelection (size : Nat) (l : List Nat) : Prop where
  nodup : l.Nodup
  lt : ∀ i ∈ l, i < size

theorem isSelection_range (size : Nat) : IsSelection size (List.range size) :=
  ⟨List.nodup_range, fun _ => List.mem_range.1⟩

theorem IsSelection.of_ascending {size : Nat} {l : List Nat} (h : l.Pairwise (· < ·))
    (hlt : ∀ i ∈ l, i < size) : IsSelection size l :=
  ⟨h.imp Nat.ne_of_lt, hlt⟩

theorem Range.Chooses.isSelection {r : Range} {e : Entries} {l : List Nat} (h : r.Chooses e l) :
    IsSelection e.size l := by
  cases h with
  | plain mem bounded nodup sorted => exact ⟨nodup, bounded⟩
  | inverted mem sorted => exact .of_ascending sorted fun i hi => ((mem i).1 hi).1

/-- An evaluation chooses positions of the domain. -/
theorem Range.isSelection_evaluate {r : Range} {e : Entries} {l : List Nat}
    (h : r.evaluate e.domain = .ok l) : IsSelection e.size l :=
  (evaluate_eq_ok_iff.1 h).2.isSelection

theorem Combination.isSelection_combine {size : Nat} (how : Combination) {lists : List (List Nat)}
    (h : ∀ l ∈ lists, IsSelection size l) : IsSelection size (how.combine lists) := by
  apply IsSelection.of_ascending (pairwise_combine how lists)
  intro i hi
  cases how with
  | union =>
    obtain ⟨l, hl, hil⟩ := mem_combine_union.1 hi
    exact (h l hl).lt i hil
  | intersection =>
    obtain ⟨hne, hall⟩ := mem_combine_intersection.1 hi
    obtain ⟨l, hl⟩ := List.exists_mem_of_ne_nil lists hne
    exact (h l hl).lt i (hall l hl)

/-! ## Tables -/

namespace Table

variable {t s : Table} {rows : List Nat}

/-- Rows that are there are not out of bounds. -/
theorem selectRows_ne_rowOutOfBounds (h : ∀ i ∈ rows, i < t.rowCount) (row count : Nat) :
    t.selectRows rows ≠ .error (.rowOutOfBounds row count) := by
  intro hselect
  unfold selectRows at hselect
  split at hselect
  · next i hfind =>
    have hi := h i (List.mem_of_find?_eq_some hfind)
    have hout := List.find?_some hfind
    rw [decide_eq_true_eq] at hout
    omega
  · split at hselect <;> cases hselect

end Table

/-! ## Row finders -/

/-- The cells that pass are given by their positions, in ascending order. -/
theorem NumericFilter.pairwise_passing (f : NumericFilter) (cells : List (Option Float)) :
    (f.passing cells).Pairwise (· < ·) := by
  have hascending : cells.zipIdx.Pairwise (fun a b => a.2 < b.2) := by
    apply List.pairwise_map.1
    rw [List.zipIdx_map_snd]
    exact List.pairwise_lt_range'
  apply hascending.filterMap
  rintro ⟨a, i⟩ ⟨b, j⟩ hij i' hi' j' hj'
  obtain ⟨-, hi'⟩ := Option.ite_none_right_eq_some.1 hi'
  obtain ⟨-, hj'⟩ := Option.ite_none_right_eq_some.1 hj'
  cases hi'
  cases hj'
  exact hij

theorem NumericFilter.isSelection_passing (f : NumericFilter) (cells : List (Option Float)) :
    IsSelection cells.length (f.passing cells) := by
  apply IsSelection.of_ascending (f.pairwise_passing cells)
  intro i hi
  obtain ⟨⟨a, j⟩, hmem, hj⟩ := List.mem_filterMap.1 hi
  obtain ⟨-, hj⟩ := Option.ite_none_right_eq_some.1 hj
  have hlt := (List.mem_zipIdx hmem).2.1
  cases hj
  omega

theorem NumericFilter.isSelection_find {f : NumericFilter} {trained : Option Nat} {data : Table}
    {rows : List Nat} (h : f.find trained data = .ok rows) : IsSelection data.rowCount rows := by
  unfold find at h
  split at h
  · cases h
  · next column =>
    split at h
    · next cells hcells =>
      cases h
      rw [← Table.length_of_numericColumn hcells]
      exact f.isSelection_passing cells
    · cases h

/-- Rows are found at positions of the table, also by a finder that learnt from another table. -/
theorem RowFinder.isSelection_find (f : RowFinder Empty) (data : Table) {rows : List Nat}
    (h : (f.find data).value = .ok rows) : IsSelection data.rowCount rows := by
  induction f generalizing rows with
  | all => cases h; exact isSelection_range _
  | range r => exact Range.isSelection_evaluate (e := .rows data) (mapError_eq_ok_iff.1 h)
  | numeric filter trained => exact NumericFilter.isSelection_find h
  | group how finders ih =>
    obtain ⟨lists, hall, rfl⟩ := map_eq_ok_iff.1 h
    rw [RowSelector.value_findAll] at hall
    refine how.isSelection_combine fun l hl => ?_
    obtain ⟨s, hs, hfound⟩ := exists_of_mem_of_mapM hall hl
    rw [s.find_eq] at hfound
    exact ih s hs hfound
  | custom finder => exact finder.elim

theorem RowSelector.isSelection_find (s : RowSelector Empty) (data : Table) {rows : List Nat}
    (h : (s.find data).value = .ok rows) : IsSelection data.rowCount rows := by
  rw [find_eq] at h
  exact s.finder.isSelection_find data h

/-! ## Choices -/

/-- A choice names different columns of the table that it was made on. -/
def VarianceChoice.IsValid (c : VarianceChoice) : Prop := IsSelection c.columns c.selected

namespace VarianceFilter

variable {f : VarianceFilter} {data : Table}

/-- What is learnt is ascending, and among the candidates. -/
theorem isValid_train {c : VarianceChoice} (h : f.train data = .ok c) : c.IsValid := by
  cases hcandidates : f.candidates.evaluate data.columnDomain with
  | error e =>
    rw [train, hcandidates] at h
    cases h
  | ok candidates =>
    have hselection := Range.isSelection_evaluate (e := .columns data) hcandidates
    obtain ⟨selected, hlearns⟩ := exists_learns hcandidates
    rw [hlearns.train] at h
    cases h
    exact .of_ascending hlearns.ascending fun i hi => hselection.lt i ((hlearns.mem i).1 hi).1

/-- A valid choice is given as an answer only where it is a selection. -/
theorem isSelection_find {trained : Option VarianceChoice} (h : ∀ c ∈ trained, c.IsValid)
    {columns : List Nat} (hfound : find trained data = .ok columns) :
    IsSelection data.columnCount columns := by
  unfold find at hfound
  split at hfound
  · cases hfound
  · next c =>
    split at hfound
    · next hcount =>
      cases hfound
      rw [← hcount]
      exact h c rfl
    · cases hfound

end VarianceFilter

section

variable {α : Type}

mutual

/-- What the variance filters in a column finder have learnt, at any depth. -/
def ColumnFinder.choices : ColumnFinder α → List VarianceChoice
  | .all | .range _ | .custom _ => []
  | .variance _ trained => trained.toList
  | .group _ finders => ColumnSelector.choicesAll finders
  | .pipeline _ columns _ => columns.choices

def ColumnSelector.choices : ColumnSelector α → List VarianceChoice
  | .plain finder => finder.choices
  | .trainable finder => finder.choices

def ColumnSelector.choicesAll : List (ColumnSelector α) → List VarianceChoice
  | [] => []
  | s :: rest => s.choices ++ ColumnSelector.choicesAll rest

end

theorem ColumnSelector.choices_eq (s : ColumnSelector α) : s.choices = s.finder.choices := by
  cases s <;> rfl

theorem ColumnSelector.choicesAll_eq_flatMap (ss : List (ColumnSelector α)) :
    choicesAll ss = ss.flatMap choices := by
  induction ss with
  | nil => rfl
  | cons s ss ih => rw [choicesAll, ih, List.flatMap_cons]

theorem ColumnFinder.forall_choices_group {P : VarianceChoice → Prop} {how : Combination}
    {finders : List (ColumnSelector α)} :
    (∀ c ∈ (group how finders).choices, P c) ↔ ∀ s ∈ finders, ∀ c ∈ s.finder.choices, P c := by
  rw [choices, ColumnSelector.choicesAll_eq_flatMap, List.forall_mem_flatMap]
  simp only [ColumnSelector.choices_eq]

/-- What the variance filters in a finder have learnt. There are none in a finder of rows. -/
def Finder.choices : Finder α → List VarianceChoice
  | row _ | rowSelector _ => []
  | column f => f.choices
  | columnSelector s => s.choices

end

/-! ## Column finders -/

theorem ColumnSelector.isValid_train_of_finder {s : ColumnSelector Empty} {data : Table}
    (ih : ∀ c ∈ (s.finder.train data).value.2.choices, c.IsValid)
    (h : ∀ c ∈ s.finder.choices, c.IsValid) :
    ∀ c ∈ (s.train data).value.2.finder.choices, c.IsValid := by
  rcases s.finder_train data with hs | hs
  · rwa [hs]
  · rwa [hs]

theorem ColumnFinder.isValid_train (f : ColumnFinder Empty) (data : Table)
    (h : ∀ c ∈ f.choices, c.IsValid) : ∀ c ∈ (f.train data).value.2.choices, c.IsValid := by
  induction f with
  | all => exact h
  | range columns => exact h
  | variance filter trained =>
    unfold ColumnFinder.train
    cases ht : filter.train data with
    | error e => exact List.forall_mem_nil _
    | ok choice => exact List.forall_mem_singleton.2 (VarianceFilter.isValid_train ht)
  | group how finders ih =>
    rw [forall_choices_group] at h
    show ∀ c ∈ (group how (ColumnSelector.trainAll finders 0 data).value.2).choices, c.IsValid
    rw [forall_choices_group, (ColumnSelector.trainAll_steps finders 0 data).1]
    intro t ht
    obtain ⟨s, hs, rfl | rfl⟩ := exists_of_mem_stepAll ht
    · exact ColumnSelector.isValid_train_of_finder (ih s hs (h s hs)) (h s hs)
    · exact h t hs
  | pipeline rows columns stage =>
    cases ht : (rows.train data).value.1 with
    | error e => rw [train_pipeline_of_error ht]; exact h
    | ok _ => rw [train_pipeline_of_ok ht]; exact h
  | custom finder => exact finder.elim

theorem ColumnSelector.isValid_train (s : ColumnSelector Empty) (data : Table)
    (h : ∀ c ∈ s.choices, c.IsValid) : ∀ c ∈ (s.train data).value.2.choices, c.IsValid := by
  rw [choices_eq] at h ⊢
  exact isValid_train_of_finder (s.finder.isValid_train data h) h

/-- A query answers with a selection from the columns, and leaves all choices valid. -/
theorem ColumnFinder.find_of_valid (f : ColumnFinder Empty) (data : Table)
    (h : ∀ c ∈ f.choices, c.IsValid) :
    (∀ found, (f.find data).value.1 = .ok found → IsSelection data.columnCount found) ∧
      ∀ c ∈ (f.find data).value.2.choices, c.IsValid := by
  induction f generalizing data with
  | all =>
    rw [find]
    refine ⟨fun found hfound => ?_, h⟩
    cases hfound
    exact isSelection_range _
  | range r =>
    rw [find]
    refine ⟨fun found hfound => ?_, h⟩
    exact Range.isSelection_evaluate (e := .columns data) (mapError_eq_ok_iff.1 hfound)
  | variance filter trained =>
    rw [find]
    refine ⟨fun found hfound => VarianceFilter.isSelection_find (fun c hc => ?_) hfound, h⟩
    exact h c (Option.mem_toList.2 hc)
  | group how finders ih =>
    rw [forall_choices_group] at h
    rw [value_find_group, forall_choices_group, ColumnSelector.value_findAll, fst_stepAll]
    refine ⟨fun found hcombined => ?_, fun t ht => ?_⟩
    · obtain ⟨lists, hall, rfl⟩ := map_eq_ok_iff.1 hcombined
      refine how.isSelection_combine fun l hl => ?_
      obtain ⟨s, hs, hfound⟩ := exists_of_mem_of_mapM hall hl
      rw [s.fst_find] at hfound
      exact (ih s hs data (h s hs)).1 l hfound
    · obtain ⟨s, hs, rfl | rfl⟩ := exists_of_mem_stepAll ht
      · rw [s.finder_find]
        exact (ih s hs data (h s hs)).2
      · exact h t hs
  | pipeline rows columns stage ih =>
    have hcount {subset : Table} (hs : (rows.subset data).value = .ok subset) :
        subset.columnCount = data.columnCount := by
      obtain ⟨_, -, hselect⟩ := RowSelector.value_subset_eq_ok_iff.1 hs
      exact Table.columnCount_of_selectRows hselect
    have hfinder (s : ColumnSelector Empty) (hsize : s.size = columns.size) (subset : Table)
        (hs : ∀ c ∈ s.choices, c.IsValid) :
        (∀ found, (s.find subset).value.1 = .ok found → IsSelection subset.columnCount found) ∧
          ∀ c ∈ (s.find subset).value.2.choices, c.IsValid := by
      rw [ColumnSelector.choices_eq] at hs ⊢
      rw [s.fst_find, s.finder_find]
      exact ih s hsize subset hs
    obtain ⟨-, hfind⟩ | ⟨e, -, -, hfind⟩ | ⟨subset, e, -, -, -, hfind⟩ |
      ⟨subset, -, hs, -, hfind⟩ | ⟨subset, -, hs, hfind⟩ :=
        find_pipeline_cases rows columns stage data
    · rw [hfind]; exact ⟨by simp, h⟩
    · rw [hfind]; exact ⟨by simp, h⟩
    · rw [hfind]; exact ⟨by simp, columns.isValid_train subset h⟩
    · -- the answer is found in the subset, which has the same columns
      rw [hfind, ← hcount hs]
      exact hfinder _ (columns.size_train subset) subset (columns.isValid_train subset h)
    · rw [hfind, ← hcount hs]
      exact hfinder columns rfl subset h
  | custom finder => exact finder.elim

theorem ColumnSelector.find_of_valid (s : ColumnSelector Empty) (data : Table)
    (h : ∀ c ∈ s.choices, c.IsValid) :
    (∀ found, (s.find data).value.1 = .ok found → IsSelection data.columnCount found) ∧
      ∀ c ∈ (s.find data).value.2.choices, c.IsValid := by
  rw [choices_eq] at h ⊢
  rw [s.fst_find, s.finder_find]
  exact s.finder.find_of_valid data h

theorem ColumnSelector.isValid_reset_of_finder {s : ColumnSelector Empty}
    (ih : ∀ c ∈ s.finder.reset.value.choices, c.IsValid) (h : ∀ c ∈ s.finder.choices, c.IsValid) :
    ∀ c ∈ s.reset.value.finder.choices, c.IsValid := by
  rcases s.finder_reset with hs | hs
  · rwa [hs]
  · rwa [hs]

/-- A reset leaves no other choices than there were. -/
theorem ColumnFinder.isValid_reset (f : ColumnFinder Empty) (h : ∀ c ∈ f.choices, c.IsValid) :
    ∀ c ∈ f.reset.value.choices, c.IsValid := by
  induction f with
  | all => exact h
  | range columns => exact h
  | variance filter trained => exact List.forall_mem_nil _
  | group how finders ih =>
    rw [forall_choices_group] at h
    rw [value_reset_group, forall_choices_group, ColumnSelector.value_resetAll,
      List.forall_mem_map]
    exact fun s hs => ColumnSelector.isValid_reset_of_finder (ih s hs (h s hs)) (h s hs)
  | pipeline rows columns stage ih =>
    rw [choices, ColumnSelector.choices_eq] at h
    rw [value_reset_pipeline, choices, ColumnSelector.choices_eq]
    exact ColumnSelector.isValid_reset_of_finder (ih columns rfl h) h
  | custom finder => exact finder.elim

theorem ColumnSelector.isValid_reset (s : ColumnSelector Empty) (h : ∀ c ∈ s.choices, c.IsValid) :
    ∀ c ∈ s.reset.value.choices, c.IsValid := by
  rw [choices_eq] at h ⊢
  exact isValid_reset_of_finder (s.finder.isValid_reset h) h

theorem ColumnFinder.choices_asBuilt (f : ColumnFinder Empty) : f.asBuilt.choices = [] := by
  induction f with
  | group how finders ih =>
    rw [asBuilt, choices, ColumnSelector.choicesAll_eq_flatMap, ColumnSelector.asBuiltAll_eq_map,
      List.flatMap_map, List.flatMap_eq_nil_iff]
    intro s hs
    rw [ColumnSelector.choices_eq, s.finder_asBuilt]
    exact ih s hs
  | pipeline rows columns stage ih =>
    rw [asBuilt, choices, ColumnSelector.choices_eq, columns.finder_asBuilt]
    exact ih columns rfl
  | _ => rfl

theorem ColumnSelector.choices_asBuilt (s : ColumnSelector Empty) : s.asBuilt.choices = [] := by
  rw [choices_eq, finder_asBuilt]
  exact s.finder.choices_asBuilt

/-! ## Changes -/

namespace ColumnFinder

variable {f : ColumnFinder Empty}

theorem isValid_push {s : ColumnSelector Empty} (hf : ∀ c ∈ f.choices, c.IsValid)
    (hs : ∀ c ∈ s.choices, c.IsValid) : ∀ c ∈ (f.push s).choices, c.IsValid := by
  cases f with
  | group how finders =>
    rw [forall_choices_group] at hf
    rw [ColumnSelector.choices_eq] at hs
    rw [push, forall_choices_group, List.forall_mem_append, List.forall_mem_singleton]
    exact ⟨hf, hs⟩
  | _ => exact hf

theorem isValid_withRows (hf : ∀ c ∈ f.choices, c.IsValid) (s : RowSelector Empty) :
    ∀ c ∈ (f.withRows s).choices, c.IsValid := by
  cases f with
  | pipeline rows columns stage => exact hf
  | _ => exact hf

theorem isValid_withColumns {s : ColumnSelector Empty} (hf : ∀ c ∈ f.choices, c.IsValid)
    (hs : ∀ c ∈ s.choices, c.IsValid) : ∀ c ∈ (f.withColumns s).choices, c.IsValid := by
  cases f with
  | pipeline rows columns stage => exact hs
  | _ => exact hf

end ColumnFinder

/-! ## Finders of either kind -/

namespace Finder

variable {f : Finder Empty}

theorem isValid_of_isFresh (h : f.IsFresh) : ∀ c ∈ f.choices, c.IsValid := by
  have hchoices : f.asBuilt.choices = [] := by
    cases f with
    | row f => rfl
    | column f => exact f.choices_asBuilt
    | rowSelector s => rfl
    | columnSelector s => exact s.choices_asBuilt
  rw [show f.asBuilt = f from h] at hchoices
  rw [hchoices]
  nofun

/-- Every request leaves valid choices. -/
theorem isValid_respond (h : ∀ c ∈ f.choices, c.IsValid) (r : Request) :
    ∀ c ∈ (f.respond r).2.choices, c.IsValid := by
  cases f with
  | row f => cases r <;> nofun
  | rowSelector s => cases r <;> nofun
  | column f => cases r with
    | train data => exact f.isValid_train data h
    | find data => exact (f.find_of_valid data h).2
    | reset => exact f.isValid_reset h
  | columnSelector s => cases r with
    | train data => exact s.isValid_train data h
    | find data => exact (s.find_of_valid data h).2
    | reset => exact s.isValid_reset h

theorem isValid_of_reachable {wrapped : Finder Empty → Prop} (h : f.Reachable wrapped) :
    ∀ c ∈ f.choices, c.IsValid := by
  induction h with
  | fresh h => exact isValid_of_isFresh h
  | respond _ r ih => exact isValid_respond ih r
  | plainRows => nofun
  | trainableRows => nofun
  | plainColumns _ _ ih => exact ih
  | trainableColumns _ ih => exact ih
  | pushRows => nofun
  | pushColumns _ _ ihf ihs => exact ColumnFinder.isValid_push ihf ihs
  | withRows _ _ ihf _ => exact ColumnFinder.isValid_withRows ihf _
  | withColumns _ _ ihf ihs => exact ColumnFinder.isValid_withColumns ihf ihs
  | withNumericFilter => nofun
  | withVarianceFilter _ _ ih => exact ih

def entryCount : Finder Empty → Table → Nat
  | row _, data | rowSelector _, data => data.rowCount
  | column _, data | columnSelector _, data => data.columnCount

theorem isSelection_find (h : ∀ c ∈ f.choices, c.IsValid) {data : Table} {found : List Nat}
    (hfound : (f.find data).1 = .ok found) : IsSelection (f.entryCount data) found := by
  cases f with
  | row f => exact f.isSelection_find data hfound
  | column f => exact (f.find_of_valid data h).1 found hfound
  | rowSelector s => exact s.isSelection_find data hfound
  | columnSelector s => exact (s.find_of_valid data h).1 found hfound

/-! ## Top theorem -/

/-- **Every answer is in bounds and free of duplicates.** Whatever was done with a finder, on
whatever tables, it answers with different rows or columns of the table it is asked about. A
pipeline, whatever was done with it, finds no rows that are out of bounds when they are selected. -/
theorem answers_in_bounds {wrapped : Finder Empty → Prop} (h : f.Reachable wrapped) (data : Table) :
    (∀ found, (f.find data).1 = .ok found →
        found.Nodup ∧ ∀ i ∈ found, i < f.entryCount data) ∧
      ∀ (p : Pipeline Empty) (rows : List Nat), (p.rows.find data).value = .ok rows →
        ∀ row count, data.selectRows rows ≠ .error (.rowOutOfBounds row count) := by
  refine ⟨fun found hfound => ?_, fun p rows hrows => ?_⟩
  · have hselection := isSelection_find (isValid_of_reachable h) hfound
    exact ⟨hselection.nodup, hselection.lt⟩
  · exact Table.selectRows_ne_rowOutOfBounds (p.rows.isSelection_find data hrows).lt

/-- A group around a variance filter, in a pipeline that rotates the rows, answers with what it has
learnt from one table when it is asked about another, in which other columns vary. -/
theorem answers_in_bounds_of_pipeline :
    let rotated : Range :=
      ⟨[.single (.placeholder .last), .span (.placeholder .second) (.placeholder .first)], false,
        none⟩
    let columns (trained : Option VarianceChoice) : ColumnFinder Empty := .group .union
      [.plain (.range (Range.single (.placeholder .second))), .trainable (.variance {} trained)]
    let f : Finder Empty :=
      column (.pipeline (.plain (.range rotated)) (.trainable (columns none)) .untrained)
    ∃ learnt asked,
      Table.ofColumns [⟨"w", .integer true 64, [some 1, some 3]⟩, ⟨"x", .utf8, [none, some "3"]⟩,
        ⟨"y", .float64, [some 2.5, some 0.5]⟩, ⟨"z", .integer true 64, [some 7, some 7]⟩] =
          .ok learnt ∧
      Table.ofColumns [⟨"a", .integer true 64, [some 4, some 4, some 4]⟩,
        ⟨"b", .utf8, [none, none, none]⟩, ⟨"c", .utf8, [some "p", some "q", some "r"]⟩,
        ⟨"d", .integer true 64, [some 1, some 2, some 9]⟩] = .ok asked ∧
      let g := f.after [.train learnt, .find learnt]
      g.Reachable (fun _ => True) ∧ (g.find asked).1 = .ok [0, 1, 2] ∧
        ([0, 1, 2].Nodup ∧ ∀ i ∈ [0, 1, 2], i < g.entryCount asked) ∧
        ∀ row count, asked.selectRows [2, 0, 1] ≠ .error (.rowOutOfBounds row count) := by
  intro rotated columns f
  have hanswer (data : Table)
      (hsecond : (Range.single (.placeholder .second)).evaluate data.columnDomain = .ok [1])
      (hcount : data.columnCount = 4) :
      ((ColumnSelector.trainable (columns (some ⟨4, [0, 2]⟩))).find data).value =
        (.ok [0, 1, 2], .trainable (columns (some ⟨4, [0, 2]⟩))) := by
    have hrange : ((ColumnSelector.plain (.range (Range.single (.placeholder .second))) :
        ColumnSelector Empty).find data).value =
          (.ok [1], .plain (.range (Range.single (.placeholder .second)))) := by
      rw [ColumnSelector.value_find_plain, ColumnFinder.find, hsecond]
      rfl
    have hvariance : ((ColumnSelector.trainable (.variance {} (some ⟨4, [0, 2]⟩)) :
        ColumnSelector Empty).find data).value =
          (.ok [0, 2], .trainable (.variance {} (some ⟨4, [0, 2]⟩))) := by
      rw [ColumnSelector.value_find_trainable, ColumnFinder.find_variance_of_some,
        if_pos hcount.symm]
    rw [ColumnSelector.value_find_trainable, ColumnFinder.value_find_group,
      ColumnSelector.value_findAll, stepAll_cons_of_ok (congrArg Prod.fst hrange),
      stepAll_cons_of_ok (congrArg Prod.fst hvariance), hrange, hvariance]
    rfl
  obtain ⟨learnt, hlearnt⟩ : ∃ learnt, Table.ofColumns [⟨"w", .integer true 64, [some 1, some 3]⟩,
    ⟨"x", .utf8, [none, some "3"]⟩, ⟨"y", .float64, [some 2.5, some 0.5]⟩,
    ⟨"z", .integer true 64, [some 7, some 7]⟩] = .ok learnt := ⟨_, rfl⟩
  obtain ⟨asked, hasked⟩ : ∃ asked, Table.ofColumns [
    ⟨"a", .integer true 64, [some 4, some 4, some 4]⟩, ⟨"b", .utf8, [none, none, none]⟩,
    ⟨"c", .utf8, [some "p", some "q", some "r"]⟩,
    ⟨"d", .integer true 64, [some 1, some 2, some 9]⟩] = .ok asked := ⟨_, rfl⟩
  obtain ⟨kept, hkept, hlearns, hsecond, hcount⟩ : ∃ kept,
      ((RowSelector.plain (.range rotated) : RowSelector Empty).subset learnt).value = .ok kept ∧
        VarianceFilter.train {} kept = .ok ⟨4, [0, 2]⟩ ∧
        (Range.single (.placeholder .second)).evaluate kept.columnDomain = .ok [1] ∧
        kept.columnCount = 4 := by
    cases hlearnt
    exact ⟨_, rfl, by decide +kernel, rfl, rfl⟩
  obtain ⟨kept', hkept', hsecond', hcount'⟩ : ∃ kept',
      ((RowSelector.plain (.range rotated) : RowSelector Empty).subset asked).value = .ok kept' ∧
        (Range.single (.placeholder .second)).evaluate kept'.columnDomain = .ok [1] ∧
        kept'.columnCount = 4 := by
    cases hasked
    exact ⟨_, rfl, rfl, rfl⟩
  have htrain : ((ColumnSelector.trainable (columns none)).train kept).value =
      (.ok (), .trainable (columns (some ⟨4, [0, 2]⟩))) := by
    simp only [columns, ColumnSelector.train, ColumnFinder.train, ColumnSelector.trainAll, hlearns,
      Logged.value_bind, Logged.value_pure]
  have hready : f.after [.train learnt, .find learnt] =
      column (.pipeline (.plain (.range rotated)) (.trainable (columns (some ⟨4, [0, 2]⟩)))
        .ready) := by
    show column ((ColumnFinder.pipeline _ (.trainable (columns none)) .columnPending).find
      learnt).value.2 = _
    rw [ColumnFinder.value_find_pending hkept htrain, hanswer kept hsecond hcount]
  have hfound : ((f.after [.train learnt, .find learnt]).find asked).1 = .ok [0, 1, 2] := by
    rw [hready]
    show ((ColumnFinder.pipeline _ _ .ready).find asked).value.1 = _
    rw [ColumnFinder.find_ready hkept', hanswer kept' hsecond' hcount']
  have hreachable : (f.after [.train learnt, .find learnt]).Reachable (fun _ => True) :=
    .respond (.respond (.fresh (show f.asBuilt = f from rfl)) _) _
  obtain ⟨hbounds, hrows⟩ := answers_in_bounds hreachable asked
  have hrotated : ((RowSelector.plain (.range rotated) : RowSelector Empty).find asked).value =
      .ok [2, 0, 1] := by
    cases hasked; rfl
  exact ⟨learnt, asked, hlearnt, hasked, hreachable, hfound, hbounds _ hfound,
    hrows ⟨.plain (.range rotated), .plain .all, .untrained⟩ _ hrotated⟩

end Finder

end TableSelection
