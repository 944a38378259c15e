import Mathlib.Data.List.Sort
import TableSelection.Proofs.Finder.Steps
import TableSelection.Proofs.Range.Evaluation
import TableSelection.Proofs.Table.Domains
import TableSelection.Proofs.Table.Rows

/-!
# What a variance filter learns

A variance filter goes through its candidates in the order in which its range gives them, and decides
on each column by itself: it has to be numeric, and the numbers in it have to vary more than the
threshold (`Varies`). Numeric columns can be converted, so nothing fails on the way, and the result is
the set of candidates that vary, as an ascending list:

    f.choose data candidates = .ok chosen, and in chosen are the candidates that vary  (exists_choose)
    f.train data fails ↔ the candidates fail on the columns                       (train_eq_error_iff)
    candidates are found → f learns those of them that vary, in ascending order        (exists_learns)

Rows in which a column has no number do not count for it, so a selection that leaves out only such
rows decides on the column as the table does (`varies_iff_of_selectRows`).
-/

namespace TableSelection

/-! ## Numbers in a table -/

namespace Table

variable {t s : Table} {rows : List Nat} {column : Nat}

theorem CellType.isConvertible_of_isNumeric {type : CellType} (h : type.isNumeric = true) :
    type.isConvertible = true := by
  cases type with
  | date32 => cases h
  | _ => rfl

theorem exists_numericColumn (h : t.isNumeric column = true) :
    ∃ cells, t.numericColumn column = .ok cells := by
  rw [isNumeric, Option.any_eq_true] at h
  obtain ⟨c, hc, hnumeric⟩ := h
  rw [numericColumn, Table.column, hc]
  exact ⟨_, if_pos (CellType.isConvertible_of_isNumeric hnumeric)⟩

theorem isNumeric_of_selectRows (h : t.selectRows rows = .ok s) (column : Nat) :
    s.isNumeric column = t.isNumeric column := by
  obtain ⟨-, hpicked, -, -⟩ := parts_of_selectRows h
  rw [isNumeric, isNumeric, hpicked, List.getElem?_map, Option.any_map]
  rfl

theorem columnDomain_of_selectRows (h : t.selectRows rows = .ok s) :
    s.columnDomain = t.columnDomain := by
  rw [columnDomain_eq_scan, columnDomain_eq_scan, columnNames_of_selectRows h]

/-- In this row the column has no number: its cell is empty or not a number. -/
def LacksNumber (t : Table) (column row : Nat) : Prop :=
  ∀ cells x, t.numericColumn column = .ok cells → cells[row]? = some (some x) → x.isNaN = true

end Table

/-! ## Rows that do not count -/

/-- Entries that give nothing can be left out. -/
theorem filterMap_entriesAt_filter {α β : Type} {l : List α} {g : α → Option β} {keep : Nat → Bool}
    (h : ∀ i a, l[i]? = some a → keep i = false → g a = none) :
    (entriesAt l ((List.range l.length).filter keep)).filterMap g = l.filterMap g := by
  have hentry : ∀ i ∈ List.range l.length,
      (if keep i = true then l[i]?.bind g else none) = l[i]?.bind g := by
    intro i _
    cases hkeep : keep i with
    | true => exact if_pos rfl
    | false =>
      cases ha : l[i]? with
      | none => rfl
      | some a => exact (h i a ha hkeep).symm
  calc (entriesAt l ((List.range l.length).filter keep)).filterMap g
      = (List.range l.length).filterMap fun i => if keep i = true then l[i]?.bind g else none := by
        rw [entriesAt, List.filterMap_filterMap, List.filterMap_filter]
    _ = (List.range l.length).filterMap fun i => l[i]?.bind g := List.filterMap_congr hentry
    _ = (entriesAt l (List.range l.length)).filterMap g := by
        rw [entriesAt, List.filterMap_filterMap]
    _ = l.filterMap g := by rw [entriesAt_range]

/-- The sample variance does not see where cells without a number are left out. -/
theorem sampleVariance_entriesAt {cells : List (Option Float)} {keep : Nat → Bool}
    (h : ∀ row x, cells[row]? = some (some x) → keep row = false → x.isNaN = true) :
    sampleVariance (entriesAt cells ((List.range cells.length).filter keep)) =
      sampleVariance cells := by
  have hvalues : (entriesAt cells ((List.range cells.length).filter keep)).filterMap
      (·.filter (!·.isNaN)) = cells.filterMap (·.filter (!·.isNaN)) := by
    refine filterMap_entriesAt_filter fun row cell hcell hkeep => ?_
    cases cell with
    | none => rfl
    | some x => rw [Option.filter_some, h row x hcell hkeep]; rfl
  rw [sampleVariance, sampleVariance, hvalues]

namespace VarianceFilter

variable {f : VarianceFilter} {t s data : Table} {candidates selected : List Nat} {column : Nat}

/-! ## Columns -/

/-- A column is numeric, and its sample variance is above the threshold. -/
def Varies (f : VarianceFilter) (data : Table) (column : Nat) : Prop :=
  data.isNumeric column = true ∧ ∃ cells variance, data.numericColumn column = .ok cells ∧
    sampleVariance cells = some variance ∧ f.threshold < variance

theorem varies_iff_of_numericColumn {cells : List (Option Float)}
    (hnumeric : data.isNumeric column = true) (hcells : data.numericColumn column = .ok cells) :
    f.Varies data column ↔ f.exceeds cells = true := by
  rw [Varies, and_iff_right hnumeric, hcells, exceeds, Option.any_eq_true]
  simp only [Except.ok.injEq, decide_eq_true_eq]
  constructor
  · rintro ⟨_, variance, rfl, hvariance, hlt⟩
    exact ⟨variance, hvariance, hlt⟩
  · rintro ⟨variance, hvariance, hlt⟩
    exact ⟨cells, variance, rfl, hvariance, hlt⟩

/-- If no row with a number is left out, a column varies in the rows left as in the table. -/
theorem varies_iff_of_selectRows {keep : Nat → Bool}
    (h : t.selectRows ((List.range t.rowCount).filter keep) = .ok s)
    (hlacks : ∀ row < t.rowCount, keep row = false → t.LacksNumber column row) :
    f.Varies s column ↔ f.Varies t column := by
  have hnumeric := Table.isNumeric_of_selectRows h column
  by_cases ht : t.isNumeric column = true
  · obtain ⟨cells, hcells⟩ := Table.exists_numericColumn ht
    have hlength := Table.length_of_numericColumn hcells
    have hpicked := Table.numericColumn_of_selectRows h column
    rw [hcells, ← hlength] at hpicked
    have hvariance : sampleVariance (entriesAt cells ((List.range cells.length).filter keep)) =
        sampleVariance cells := by
      refine sampleVariance_entriesAt fun row x hcell hkeep => ?_
      have hrow := (List.getElem?_eq_some_iff.1 hcell).1
      exact hlacks row (hlength ▸ hrow) hkeep cells x hcells hcell
    rw [varies_iff_of_numericColumn ht hcells,
      varies_iff_of_numericColumn (hnumeric.trans ht) hpicked, exceeds, exceeds, hvariance]
  · exact iff_of_false (fun hs => ht (hnumeric ▸ hs.1)) fun ht' => ht ht'.1

/-! ## Training -/

variable {rest chosen : List Nat}

/-- A candidate that varies is chosen. -/
theorem choose_cons_of_varies (h : f.Varies data column) (hrest : f.choose data rest = .ok chosen) :
    f.choose data (column :: rest) = .ok (column :: chosen) := by
  obtain ⟨cells, hcells⟩ := Table.exists_numericColumn h.1
  have hexceeds := (varies_iff_of_numericColumn h.1 hcells).1 h
  rw [choose, if_pos h.1, hcells, hrest]
  exact congrArg Except.ok (if_pos hexceeds)

/-- A candidate that does not vary, or is not numeric, is left out and is no reason to fail. -/
theorem choose_cons_of_not_varies (h : ¬f.Varies data column)
    (hrest : f.choose data rest = .ok chosen) : f.choose data (column :: rest) = .ok chosen := by
  rw [choose]
  by_cases hnumeric : data.isNumeric column = true
  · obtain ⟨cells, hcells⟩ := Table.exists_numericColumn hnumeric
    have hexceeds : ¬f.exceeds cells = true := (varies_iff_of_numericColumn hnumeric hcells).not.1 h
    rw [if_pos hnumeric, hcells, hrest]
    exact congrArg Except.ok (if_neg hexceeds)
  · rw [if_neg hnumeric, hrest]

/-- By induction on the candidates: those that vary are chosen, whatever their order. -/
theorem exists_choose (f : VarianceFilter) (data : Table) (candidates : List Nat) :
    ∃ chosen, f.choose data candidates = .ok chosen ∧
      ∀ column, column ∈ chosen ↔ column ∈ candidates ∧ f.Varies data column := by
  induction candidates with
  | nil => exact ⟨[], rfl, by simp⟩
  | cons column rest ih =>
    obtain ⟨chosen, hchosen, hmem⟩ := ih
    by_cases hvaries : f.Varies data column
    · refine ⟨_, choose_cons_of_varies hvaries hchosen, fun other => ?_⟩
      rw [List.mem_cons, List.mem_cons, hmem, or_and_right]
      refine or_congr_left (iff_self_and.2 ?_)
      rintro rfl
      exact hvaries
    · refine ⟨_, choose_cons_of_not_varies hvaries hchosen, fun other => ?_⟩
      rw [List.mem_cons, hmem, or_and_right, or_iff_right]
      rintro ⟨rfl, hother⟩
      exact hvaries hother

/-- What a filter learns from a table whose columns have these candidates. -/
structure Learns (f : VarianceFilter) (data : Table) (candidates selected : List Nat) : Prop where
  train : f.train data = .ok ⟨data.columnCount, selected⟩
  ascending : selected.Pairwise (· < ·)
  mem : ∀ column, column ∈ selected ↔ column ∈ candidates ∧ f.Varies data column

theorem exists_learns (h : f.candidates.evaluate data.columnDomain = .ok candidates) :
    ∃ selected, f.Learns data candidates selected := by
  obtain ⟨chosen, hchosen, hmem⟩ := f.exists_choose data candidates
  refine ⟨ascending chosen, ?_, pairwise_ascending chosen, fun column => ?_⟩
  · simp only [VarianceFilter.train, h, hchosen]
  · rw [mem_ascending, hmem]

/-- Training fails just where the candidates are not found. -/
theorem train_eq_error_iff {e : TrainError} : f.train data = .error e ↔
    ∃ err, f.candidates.FailsWith (.columns data) err ∧ e = .range err := by
  simp only [← Range.evaluate_eq_error_iff]
  show _ ↔ ∃ err, f.candidates.evaluate data.columnDomain = .error err ∧ e = .range err
  cases h : f.candidates.evaluate data.columnDomain with
  | error err =>
    have htrain : f.train data = .error (.range err) := by rw [VarianceFilter.train, h]
    rw [htrain]
    simp [eq_comm]
  | ok candidates =>
    obtain ⟨selected, hlearns⟩ := exists_learns h
    rw [hlearns.train]
    simp

/-- The same candidates in another order, or with repetitions, lead to the same columns. -/
theorem Learns.of_candidates {candidates' : List Nat} {other : Range}
    (h : f.Learns data candidates selected)
    (hother : other.evaluate data.columnDomain = .ok candidates')
    (hsame : ∀ column, column ∈ candidates' ↔ column ∈ candidates) :
    Learns { f with candidates := other } data candidates' selected := by
  obtain ⟨selected', h'⟩ := exists_learns (f := { f with candidates := other }) hother
  have hselected : selected' = selected := by
    apply h'.ascending.eq_of_mem_iff h.ascending
    intro column
    rw [h'.mem, h.mem, hsame]
    rfl
  exact hselected ▸ h'

/-- A filter learns about a column from the rows in which it has a number. -/
theorem Learns.of_selectRows (h : f.Learns t candidates selected)
    (hcandidates : f.candidates.evaluate t.columnDomain = .ok candidates) {keep : Nat → Bool}
    (hs : t.selectRows ((List.range t.rowCount).filter keep) = .ok s)
    (hlacks : ∀ row < t.rowCount, keep row = false → t.LacksNumber column row) :
    ∃ selected', f.Learns s candidates selected' ∧ (column ∈ selected' ↔ column ∈ selected) := by
  rw [← Table.columnDomain_of_selectRows hs] at hcandidates
  obtain ⟨selected', h'⟩ := exists_learns hcandidates
  exact ⟨selected', h', by rw [h'.mem, h.mem, varies_iff_of_selectRows hs hlacks]⟩

end VarianceFilter

namespace ColumnFinder

variable {α : Type} [CustomFinder α] {f : VarianceFilter} {learnt : Option VarianceChoice}
  {data : Table}

theorem train_variance_eq_error_iff {e : TrainError} :
    ((variance f learnt : ColumnFinder α).train data).value.1 = .error e ↔
      f.train data = .error e := by
  cases h : f.train data with
  | ok c =>
    rw [train_variance_of_ok h]
    exact iff_of_false nofun nofun
  | error e' =>
    rw [train_variance_of_error h]
    simp only [Except.error.injEq]

/-! ## Top theorem -/

/-- **A variance filter decides column by column.** Training fails just where the candidates are not
found, with the error of their range, and then nothing is learnt. Otherwise it chooses, in ascending
order, the candidates that are numeric and vary more than the threshold, in whatever order their
range gives them. Whether a column is chosen does not change if rows in which it has no number are
left out. The choice is the answer for every table with as many columns, and for no other. -/
theorem variance_column_by_column (f : VarianceFilter) (learnt : Option VarianceChoice)
    (t : Table) :
    let finder : ColumnFinder Empty := variance f learnt
    (∀ e, (finder.train t).value.1 = .error e ↔
        ∃ err, f.candidates.FailsWith (.columns t) err ∧ e = .range err) ∧
      (∀ e, (finder.train t).value.1 = .error e → (finder.train t).value.2 = variance f none) ∧
      ∀ candidates, f.candidates.evaluate t.columnDomain = .ok candidates → ∃ selected,
        (finder.train t).value = (.ok (), variance f (some ⟨t.columnCount, selected⟩)) ∧
        selected.Pairwise (· < ·) ∧
        (∀ column, column ∈ selected ↔ column ∈ candidates ∧ f.Varies t column) ∧
        (∀ other candidates', other.evaluate t.columnDomain = .ok candidates' →
          (∀ column, column ∈ candidates' ↔ column ∈ candidates) →
          let g : VarianceFilter := { f with candidates := other }
          ((variance g learnt : ColumnFinder Empty).train t).value =
            (.ok (), variance g (some ⟨t.columnCount, selected⟩))) ∧
        (∀ column < t.columnCount, ∀ keep : Nat → Bool,
          (∀ row < t.rowCount, keep row = false → t.LacksNumber column row) →
          ∃ s selected', t.selectRows ((List.range t.rowCount).filter keep) = .ok s ∧
            (finder.train s).value = (.ok (), variance f (some ⟨s.columnCount, selected'⟩)) ∧
            (column ∈ selected' ↔ column ∈ selected)) ∧
        ∀ u : Table, ((finder.train t).value.2.find u).value =
          (if t.columnCount = u.columnCount then .ok selected
            else .error (.layoutMismatch t.columnCount u.columnCount),
            (finder.train t).value.2) := by
  intro finder
  refine ⟨fun e => ?_, fun e he => ?_, fun candidates hcandidates => ?_⟩
  · rw [train_variance_eq_error_iff, VarianceFilter.train_eq_error_iff]
  · rw [train_variance_of_error (train_variance_eq_error_iff.1 he)]
  · obtain ⟨selected, hlearns⟩ := VarianceFilter.exists_learns hcandidates
    have htrain : (finder.train t).value = _ := train_variance_of_ok hlearns.train
    refine ⟨selected, htrain, hlearns.ascending, hlearns.mem, ?_, ?_, fun u => ?_⟩
    · intro other candidates' hother hsame
      exact train_variance_of_ok (hlearns.of_candidates hother hsame).train
    · intro column hcolumn keep hlacks
      have hcolumns : t.columns ≠ [] := List.ne_nil_of_length_pos (Nat.zero_lt_of_lt hcolumn)
      obtain ⟨s, hs⟩ : ∃ s, t.selectRows ((List.range t.rowCount).filter keep) = .ok s :=
        (Table.exists_selectRows_iff hcolumns).2 fun row hrow =>
          List.mem_range.1 (List.mem_filter.1 hrow).1
      obtain ⟨selected', hlearns', hsame⟩ := hlearns.of_selectRows hcandidates hs hlacks
      exact ⟨s, selected', hs, train_variance_of_ok hlearns'.train, hsame⟩
    · rw [htrain]
      exact find_variance_of_some _

/-- Candidates in two orders, among them a column of text, one that hardly varies, and one with an
empty cell and a cell that is not a number, whose rows are left out. -/
theorem variance_column_by_column_reordered :
    let f : VarianceFilter :=
      ⟨1.5, ⟨[.single (.placeholder .last), .span (.placeholder .second) (.placeholder .first)],
        false, none⟩⟩
    let finder : ColumnFinder Empty := variance f none
    let keep : Nat → Bool := fun row => row % 2 = 0
    ∃ t, Table.ofColumns [⟨"x", .float64, [some 1.0, none, some 3.0, some (0.0 / 0.0)]⟩,
        ⟨"y", .utf8, [some "1", some "2", some "3", some "4"]⟩,
        ⟨"z", .integer true 64, [some 5, some 5, some 6, some 7]⟩] = .ok t ∧
      f.candidates.evaluate t.columnDomain = .ok [2, 0, 1] ∧
      Range.all.evaluate t.columnDomain = .ok [0, 1, 2] ∧
      (∀ column, column ∈ [0, 1, 2] ↔ column ∈ [2, 0, 1]) ∧ 0 < t.columnCount ∧
      (∀ row < t.rowCount, keep row = false → t.LacksNumber 0 row) ∧
      ∃ selected, (finder.train t).value = (.ok (), variance f (some ⟨3, selected⟩)) ∧
        0 ∈ selected ∧ 1 ∉ selected ∧ 2 ∉ selected ∧
        ((variance { f with candidates := Range.all } none : ColumnFinder Empty).train t).value =
          (.ok (), variance { f with candidates := Range.all } (some ⟨3, selected⟩)) ∧
        ∃ s selected', t.selectRows ((List.range t.rowCount).filter keep) = .ok s ∧
          (finder.train s).value = (.ok (), variance f (some ⟨s.columnCount, selected'⟩)) ∧
          0 ∈ selected' := by
  intro f finder keep
  obtain ⟨t, ht⟩ : ∃ t,
      Table.ofColumns [⟨"x", .float64, [some 1.0, none, some 3.0, some (0.0 / 0.0)]⟩,
        ⟨"y", .utf8, [some "1", some "2", some "3", some "4"]⟩,
        ⟨"z", .integer true 64, [some 5, some 5, some 6, some 7]⟩] = .ok t := ⟨_, rfl⟩
  have hcandidates : f.candidates.evaluate t.columnDomain = .ok [2, 0, 1] := by cases ht; rfl
  have hall : Range.all.evaluate t.columnDomain = .ok [0, 1, 2] := by cases ht; rfl
  have hsame : ∀ column, column ∈ [0, 1, 2] ↔ column ∈ [2, 0, 1] := by
    simp only [List.mem_cons, List.not_mem_nil, or_false]
    omega
  have hcount : t.columnCount = 3 := by cases ht; rfl
  have hx : t.numericColumn 0 = .ok [some 1.0, none, some 3.0, some (0.0 / 0.0)] := by
    cases ht; rfl
  have hlacks : ∀ row < t.rowCount, keep row = false → t.LacksNumber 0 row := by
    intro row hrow hkeep cells x hcells hcell
    rw [hx] at hcells
    cases hcells
    have hrows : t.rowCount = 4 := by cases ht; rfl
    rw [hrows] at hrow
    obtain rfl | rfl | rfl | rfl : row = 0 ∨ row = 1 ∨ row = 2 ∨ row = 3 := by omega
    · cases hkeep
    · cases hcell
    · cases hkeep
    · cases hcell
      decide +kernel
  have hvaries : f.Varies t 0 :=
    (VarianceFilter.varies_iff_of_numericColumn (by cases ht; rfl) hx).2 (by decide +kernel)
  have htext : ¬f.Varies t 1 := fun h => by
    have hnumeric := h.1
    cases ht
    cases hnumeric
  have hsteady : ¬f.Varies t 2 := by
    have hz : t.numericColumn 2 = .ok ([5, 5, 6, 7].map fun n => some (Decimal.doubleOfInt n)) := by
      cases ht; rfl
    rw [VarianceFilter.varies_iff_of_numericColumn (by cases ht; rfl) hz]
    decide +kernel
  obtain ⟨-, -, hlearns⟩ := variance_column_by_column f none t
  obtain ⟨selected, htrain, -, hmem, horder, hdrop, -⟩ := hlearns _ hcandidates
  have hselected : 0 ∈ selected := (hmem 0).2 ⟨by decide, hvaries⟩
  obtain ⟨s, selected', hs, htrain', hkept⟩ := hdrop 0 (hcount ▸ by decide) keep hlacks
  rw [hcount] at htrain horder
  exact ⟨t, ht, hcandidates, hall, hsame, hcount ▸ by decide, hlacks, selected, htrain, hselected,
    fun h => htext ((hmem 1).1 h).2, fun h => hsteady ((hmem 2).1 h).2, horder _ _ hall hsame,
    s, selected', hs, htrain', hkept.2 hselected⟩

end ColumnFinder

end TableSelection
