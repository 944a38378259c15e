import TableSelection.Proofs.Finder.Reachable
import TableSelection.Proofs.Finder.Steps

/-!
# What a reset restores

Training never reaches a finder in a plain selector, and a query leaves a finder alone that was never
trained. So the finders in plain selectors stay as they were built, and a reset gives back the finder
as it was built:

    (f.train data).2.reset = f.reset                           (reset_train)
    (f.asBuilt.find data).2 = f.asBuilt                        (find_asBuilt)
    f.reset = f.asBuilt → (f.find data).2.reset = f.reset      (reset_find)

The equation `f.reset = f.asBuilt` says that nothing in a plain selector was ever trained, and it
holds of every finder that is reachable if only fresh finders are put into plain selectors
(`reset_of_reachable`).
-/

namespace TableSelection

/-! ## Selectors as they were built -/

theorem RowSelector.asBuiltAll_eq_map {α : Type} (ss : List (RowSelector α)) :
    asBuiltAll ss = ss.map asBuilt := by
  induction ss with
  | nil => rfl
  | cons s ss ih => rw [asBuiltAll, ih, List.map_cons]

theorem ColumnSelector.asBuiltAll_eq_map {α : Type} (ss : List (ColumnSelector α)) :
    asBuiltAll ss = ss.map asBuilt := by
  induction ss with
  | nil => rfl
  | cons s ss ih => rw [asBuiltAll, ih, List.map_cons]

theorem ColumnSelector.finder_asBuilt {α : Type} (s : ColumnSelector α) :
    s.asBuilt.finder = s.finder.asBuilt := by
  cases s <;> rfl

/-! ## Row finders -/

section Rows

variable {s : RowSelector Empty} {data : Table}

theorem RowSelector.reset_train_of_finder
    (h : (s.finder.train data).value.2.reset.value = s.finder.reset.value) :
    (s.train data).value.2.reset.value = s.reset.value := by
  cases s with
  | plain finder => rfl
  | trainable finder => exact congrArg trainable h

/-- Training changes only what a reset restores. -/
theorem RowFinder.reset_train (f : RowFinder Empty) (data : Table) :
    (f.train data).value.2.reset.value = f.reset.value := by
  induction f with
  | all => rfl
  | range rows => rfl
  | numeric filter trained =>
    unfold RowFinder.train
    cases filter.train data <;> rfl
  | group how finders ih =>
    show group how (RowSelector.resetAll (RowSelector.trainAll finders 0 data).value.2).value = _
    rw [value_reset_group, RowSelector.value_resetAll, RowSelector.value_resetAll,
      (RowSelector.trainAll_steps finders 0 data).1,
      map_stepAll fun s hs => RowSelector.reset_train_of_finder (ih s hs)]
  | custom finder => exact finder.elim

theorem RowSelector.reset_train (s : RowSelector Empty) (data : Table) :
    (s.train data).value.2.reset.value = s.reset.value :=
  reset_train_of_finder (s.finder.reset_train data)

theorem RowSelector.asBuilt_reset_of_finder (h : s.finder.reset.value.asBuilt = s.finder.asBuilt) :
    s.reset.value.asBuilt = s.asBuilt := by
  cases s with
  | plain finder => rfl
  | trainable finder => exact congrArg trainable h

theorem RowFinder.asBuilt_reset (f : RowFinder Empty) : f.reset.value.asBuilt = f.asBuilt := by
  induction f with
  | group how finders ih =>
    rw [value_reset_group, asBuilt, asBuilt, RowSelector.asBuiltAll_eq_map,
      RowSelector.asBuiltAll_eq_map, RowSelector.value_resetAll, List.map_map]
    exact congrArg _ (List.map_congr_left fun s hs => RowSelector.asBuilt_reset_of_finder (ih s hs))
  | custom finder => exact finder.elim
  | _ => rfl

theorem RowSelector.asBuilt_reset (s : RowSelector Empty) : s.reset.value.asBuilt = s.asBuilt :=
  asBuilt_reset_of_finder s.finder.asBuilt_reset

theorem RowSelector.reset_asBuilt_of_finder
    (h : s.finder.asBuilt.reset.value = s.finder.asBuilt) : s.asBuilt.reset.value = s.asBuilt := by
  cases s with
  | plain finder => rfl
  | trainable finder => exact congrArg trainable h

theorem RowFinder.reset_asBuilt (f : RowFinder Empty) : f.asBuilt.reset.value = f.asBuilt := by
  induction f with
  | group how finders ih =>
    rw [asBuilt, value_reset_group, RowSelector.asBuiltAll_eq_map, RowSelector.value_resetAll,
      List.map_map]
    exact congrArg _ (List.map_congr_left fun s hs => RowSelector.reset_asBuilt_of_finder (ih s hs))
  | custom finder => exact finder.elim
  | _ => rfl

theorem RowSelector.reset_asBuilt (s : RowSelector Empty) : s.asBuilt.reset.value = s.asBuilt :=
  reset_asBuilt_of_finder s.finder.reset_asBuilt

end Rows

/-! ## Column finders -/

section Columns

variable {s : ColumnSelector Empty} {data : Table}

theorem ColumnSelector.reset_train_of_finder
    (h : (s.finder.train data).value.2.reset.value = s.finder.reset.value) :
    (s.train data).value.2.reset.value = s.reset.value := by
  cases s with
  | plain finder => rfl
  | trainable finder => exact congrArg trainable h

theorem ColumnFinder.reset_train (f : ColumnFinder Empty) (data : Table) :
    (f.train data).value.2.reset.value = f.reset.value := by
  induction f with
  | all => rfl
  | range columns => rfl
  | variance filter trained =>
    unfold ColumnFinder.train
    cases filter.train data <;> rfl
  | group how finders ih =>
    show group how (ColumnSelector.resetAll (ColumnSelector.trainAll finders 0 data).value.2).value = _
    rw [value_reset_group, ColumnSelector.value_resetAll, ColumnSelector.value_resetAll,
      (ColumnSelector.trainAll_steps finders 0 data).1,
      map_stepAll fun s hs => ColumnSelector.reset_train_of_finder (ih s hs)]
  | pipeline rows columns stage =>
    have hrows := rows.reset_train data
    cases h : (rows.train data).value.1 with
    | error e => rw [train_pipeline_of_error h, value_reset_pipeline, hrows, value_reset_pipeline]
    | ok _ => rw [train_pipeline_of_ok h, value_reset_pipeline, hrows, value_reset_pipeline]
  | custom finder => exact finder.elim

theorem ColumnSelector.reset_train (s : ColumnSelector Empty) (data : Table) :
    (s.train data).value.2.reset.value = s.reset.value :=
  reset_train_of_finder (s.finder.reset_train data)

theorem ColumnSelector.asBuilt_reset_of_finder
    (h : s.finder.reset.value.asBuilt = s.finder.asBuilt) :
    s.reset.value.asBuilt = s.asBuilt := by
  cases s with
  | plain finder => rfl
  | trainable finder => exact congrArg trainable h

theorem ColumnFinder.asBuilt_reset (f : ColumnFinder Empty) :
    f.reset.value.asBuilt = f.asBuilt := by
  induction f with
  | group how finders ih =>
    rw [value_reset_group, asBuilt, asBuilt, ColumnSelector.asBuiltAll_eq_map,
      ColumnSelector.asBuiltAll_eq_map, ColumnSelector.value_resetAll, List.map_map]
    exact congrArg _
      (List.map_congr_left fun s hs => ColumnSelector.asBuilt_reset_of_finder (ih s hs))
  | pipeline rows columns stage ih =>
    rw [value_reset_pipeline, asBuilt, rows.asBuilt_reset,
      ColumnSelector.asBuilt_reset_of_finder (ih columns rfl), asBuilt]
  | custom finder => exact finder.elim
  | _ => rfl

theorem ColumnSelector.asBuilt_reset (s : ColumnSelector Empty) :
    s.reset.value.asBuilt = s.asBuilt :=
  asBuilt_reset_of_finder s.finder.asBuilt_reset

theorem ColumnSelector.reset_asBuilt_of_finder
    (h : s.finder.asBuilt.reset.value = s.finder.asBuilt) : s.asBuilt.reset.value = s.asBuilt := by
  cases s with
  | plain finder => rfl
  | trainable finder => exact congrArg trainable h

theorem ColumnFinder.reset_asBuilt (f : ColumnFinder Empty) :
    f.asBuilt.reset.value = f.asBuilt := by
  induction f with
  | group how finders ih =>
    rw [asBuilt, value_reset_group, ColumnSelector.asBuiltAll_eq_map,
      ColumnSelector.value_resetAll, List.map_map]
    exact congrArg _
      (List.map_congr_left fun s hs => ColumnSelector.reset_asBuilt_of_finder (ih s hs))
  | pipeline rows columns stage ih =>
    rw [asBuilt, value_reset_pipeline, rows.reset_asBuilt,
      ColumnSelector.reset_asBuilt_of_finder (ih columns rfl)]
  | custom finder => exact finder.elim
  | _ => rfl

theorem ColumnSelector.reset_asBuilt (s : ColumnSelector Empty) :
    s.asBuilt.reset.value = s.asBuilt :=
  reset_asBuilt_of_finder s.finder.reset_asBuilt

theorem ColumnSelector.find_asBuilt_of_finder
    (h : (s.finder.asBuilt.find data).value.2 = s.finder.asBuilt) :
    (s.asBuilt.find data).value.2 = s.asBuilt := by
  cases s with
  | plain finder =>
    rw [asBuilt, value_find_plain]
    exact congrArg plain h
  | trainable finder =>
    rw [asBuilt, value_find_trainable]
    exact congrArg trainable h

/-- A query leaves a finder alone that was never trained. -/
theorem ColumnFinder.find_asBuilt (f : ColumnFinder Empty) (data : Table) :
    (f.asBuilt.find data).value.2 = f.asBuilt := by
  induction f with
  | all => rw [asBuilt, find]; rfl
  | range columns => rw [asBuilt, find]; rfl
  | variance filter trained => rw [asBuilt, find]; rfl
  | group how finders ih =>
    have hall : ∀ s ∈ finders.map ColumnSelector.asBuilt, (s.find data).value.2 = s := by
      intro t ht
      obtain ⟨s, hs, rfl⟩ := List.mem_map.1 ht
      exact ColumnSelector.find_asBuilt_of_finder (ih s hs)
    have hsteps := map_stepAll (g := id) hall
    rw [List.map_id, List.map_id] at hsteps
    rw [asBuilt, value_find_group, ColumnSelector.asBuiltAll_eq_map, ColumnSelector.value_findAll,
      hsteps]
  | pipeline rows columns stage => rw [asBuilt, find_refused rfl]
  | custom finder => exact finder.elim

theorem ColumnSelector.asBuilt_train (s : ColumnSelector Empty) (data : Table) :
    (s.train data).value.2.asBuilt = s.asBuilt := by
  rw [← asBuilt_reset (s.train data).value.2, reset_train, asBuilt_reset]

theorem ColumnSelector.reset_find_of_finder
    (ih : s.finder.reset.value = s.finder.asBuilt →
      (s.finder.find data).value.2.reset.value = s.finder.reset.value)
    (h : s.reset.value = s.asBuilt) : (s.find data).value.2.reset.value = s.reset.value := by
  cases s with
  | plain finder =>
    -- no reset reaches the finder, so the query has to leave it alone
    have hfind := finder.find_asBuilt data
    rw [← plain.inj h] at hfind
    rw [value_find_plain, hfind]
  | trainable finder =>
    rw [value_find_trainable]
    exact congrArg trainable (ih (trainable.inj h))

/-- As long as nothing in a plain selector was trained, a query changes only what a reset
restores. -/
theorem ColumnFinder.reset_find {f : ColumnFinder Empty} (h : f.reset.value = f.asBuilt)
    (data : Table) : (f.find data).value.2.reset.value = f.reset.value := by
  induction f generalizing data with
  | all => rw [find]; rfl
  | range columns => rw [find]; rfl
  | variance filter trained => rw [find]; rfl
  | group how finders ih =>
    have hall := (group.inj h).2
    rw [ColumnSelector.value_resetAll, ColumnSelector.asBuiltAll_eq_map, List.map_inj_left] at hall
    rw [value_find_group, value_reset_group, value_reset_group, ColumnSelector.value_resetAll,
      ColumnSelector.value_resetAll, ColumnSelector.value_findAll,
      map_stepAll fun s hs => ColumnSelector.reset_find_of_finder (ih s hs · data) (hall s hs)]
  | pipeline rows columns stage ih =>
    obtain ⟨-, hcolumns, -⟩ := pipeline.inj h
    rcases find_pipeline_cases rows columns stage data with ⟨-, hfind⟩ | ⟨e, -, -, hfind⟩ |
      ⟨subset, e, -, -, -, hfind⟩ | ⟨subset, -, -, -, hfind⟩ | ⟨subset, -, -, hfind⟩
    · rw [hfind]
    · rw [hfind]
    · rw [hfind, value_reset_pipeline, columns.reset_train, value_reset_pipeline]
    · -- the query comes after a training, which leaves untouched what the hypothesis speaks of
      have hafter : (columns.train subset).value.2.reset.value =
          (columns.train subset).value.2.asBuilt := by
        rw [columns.reset_train, columns.asBuilt_train, hcolumns]
      rw [hfind, value_reset_pipeline, value_reset_pipeline, ColumnSelector.reset_find_of_finder
        (ih _ (columns.size_train subset) · subset) hafter, columns.reset_train]
    · rw [hfind, value_reset_pipeline, value_reset_pipeline,
        ColumnSelector.reset_find_of_finder (ih columns rfl · subset) hcolumns]
  | custom finder => exact finder.elim

theorem ColumnSelector.reset_find (h : s.reset.value = s.asBuilt) (data : Table) :
    (s.find data).value.2.reset.value = s.reset.value :=
  reset_find_of_finder (ColumnFinder.reset_find · data) h

end Columns

/-! ## Groups that grow -/

theorem RowFinder.reset_push {f : RowFinder Empty} {s : RowSelector Empty}
    (hf : f.reset.value = f.asBuilt) (hs : s.reset.value = s.asBuilt) :
    (f.push s).reset.value = (f.push s).asBuilt := by
  cases f with
  | group how finders =>
    have hall := (group.inj hf).2
    rw [RowSelector.value_resetAll, RowSelector.asBuiltAll_eq_map] at hall
    rw [push, value_reset_group, asBuilt, RowSelector.value_resetAll,
      RowSelector.asBuiltAll_eq_map, List.map_append, List.map_append, hall, List.map_singleton, hs,
      List.map_singleton]
  | _ => exact hf

theorem ColumnFinder.reset_push {f : ColumnFinder Empty} {s : ColumnSelector Empty}
    (hf : f.reset.value = f.asBuilt) (hs : s.reset.value = s.asBuilt) :
    (f.push s).reset.value = (f.push s).asBuilt := by
  cases f with
  | group how finders =>
    have hall := (group.inj hf).2
    rw [ColumnSelector.value_resetAll, ColumnSelector.asBuiltAll_eq_map] at hall
    rw [push, value_reset_group, asBuilt, ColumnSelector.value_resetAll,
      ColumnSelector.asBuiltAll_eq_map, List.map_append, List.map_append, hall, List.map_singleton,
      hs, List.map_singleton]
  | _ => exact hf

theorem ColumnFinder.reset_withRows {f : ColumnFinder Empty} {s : RowSelector Empty}
    (hf : f.reset.value = f.asBuilt) (hs : s.reset.value = s.asBuilt) :
    (f.withRows s).reset.value = (f.withRows s).asBuilt := by
  cases f with
  | pipeline rows columns stage =>
    rw [withRows, value_reset_pipeline, asBuilt, hs, (ColumnFinder.pipeline.inj hf).2.1]
  | _ => exact hf

theorem ColumnFinder.reset_withColumns {f : ColumnFinder Empty} {s : ColumnSelector Empty}
    (hf : f.reset.value = f.asBuilt) (hs : s.reset.value = s.asBuilt) :
    (f.withColumns s).reset.value = (f.withColumns s).asBuilt := by
  cases f with
  | pipeline rows columns stage =>
    rw [withColumns, value_reset_pipeline, asBuilt, hs, (ColumnFinder.pipeline.inj hf).1]
  | _ => exact hf

/-! ## Finders of either kind -/

namespace Finder

variable {f g : Finder Empty}

theorem reset_train (f : Finder Empty) (data : Table) : (f.train data).2.reset = f.reset := by
  cases f with
  | row f => exact congrArg row (f.reset_train data)
  | column f => exact congrArg column (f.reset_train data)
  | rowSelector s => exact congrArg rowSelector (s.reset_train data)
  | columnSelector s => exact congrArg columnSelector (s.reset_train data)

theorem asBuilt_reset (f : Finder Empty) : f.reset.asBuilt = f.asBuilt := by
  cases f with
  | row f => exact congrArg row f.asBuilt_reset
  | column f => exact congrArg column f.asBuilt_reset
  | rowSelector s => exact congrArg rowSelector s.asBuilt_reset
  | columnSelector s => exact congrArg columnSelector s.asBuilt_reset

theorem reset_asBuilt (f : Finder Empty) : f.asBuilt.reset = f.asBuilt := by
  cases f with
  | row f => exact congrArg row f.reset_asBuilt
  | column f => exact congrArg column f.reset_asBuilt
  | rowSelector s => exact congrArg rowSelector s.reset_asBuilt
  | columnSelector s => exact congrArg columnSelector s.reset_asBuilt

theorem reset_find (h : f.reset = f.asBuilt) (data : Table) :
    (f.find data).2.reset = f.reset := by
  cases f with
  | row f => rfl
  | column f => exact congrArg column (ColumnFinder.reset_find (column.inj h) data)
  | rowSelector s => rfl
  | columnSelector s =>
    exact congrArg columnSelector (ColumnSelector.reset_find (columnSelector.inj h) data)

theorem reset_respond (h : f.reset = f.asBuilt) (r : Request) :
    (f.respond r).2.reset = f.reset := by
  cases r with
  | train data => exact reset_train f data
  | find data => exact reset_find h data
  | reset =>
    show f.reset.reset = f.reset
    rw [h, reset_asBuilt]

/-- What a reset makes of a finder tells how it was built. -/
theorem asBuilt_of_reset_eq (h : f.reset = g.reset) : f.asBuilt = g.asBuilt := by
  rw [← asBuilt_reset f, h, asBuilt_reset]

/-- A reset gives back the finder as it was built. -/
theorem reset_of_reachable (h : f.Reachable IsFresh) : f.reset = f.asBuilt := by
  induction h with
  | @fresh f hf =>
    have hreset := reset_asBuilt f
    rw [hf] at hreset
    exact hreset.trans hf.symm
  | respond _ r ih =>
    have hreset := reset_respond ih r
    rw [hreset, ih, asBuilt_of_reset_eq hreset]
  | plainRows _ hw _ => exact congrArg (rowSelector ∘ .plain) (row.inj hw).symm
  | trainableRows _ ih => exact congrArg (rowSelector ∘ .trainable) (row.inj ih)
  | plainColumns _ hw _ => exact congrArg (columnSelector ∘ .plain) (column.inj hw).symm
  | trainableColumns _ ih => exact congrArg (columnSelector ∘ .trainable) (column.inj ih)
  | pushRows _ _ hf hs => exact congrArg row (RowFinder.reset_push (row.inj hf) (rowSelector.inj hs))
  | pushColumns _ _ hf hs =>
    exact congrArg column (ColumnFinder.reset_push (column.inj hf) (columnSelector.inj hs))
  | withRows _ _ hf hs =>
    exact congrArg column (ColumnFinder.reset_withRows (column.inj hf) (rowSelector.inj hs))
  | withColumns _ _ hf hs =>
    exact congrArg column (ColumnFinder.reset_withColumns (column.inj hf) (columnSelector.inj hs))
  | withNumericFilter _ other _ => rfl
  | withVarianceFilter _ other _ => rfl

end Finder

end TableSelection
