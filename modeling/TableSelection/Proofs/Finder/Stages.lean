import TableSelection.Proofs.Finder.Freshness
import TableSelection.Proofs.Finder.Training

/-!
# What the stage of a pipeline says

The row finder of a pipeline is trained whenever the pipeline counts as trained. Its column finder is
trained when the stage becomes `ready`, but a query may make it untrained again: if a pipeline is
nested in it, that query trains the column finder of the nested pipeline, and this may fail, which the
stage of the outer pipeline does not show. Nothing else can happen to it: of a pipeline that is ready,
the column finder is untrained exactly if a nested pipeline has failed (`hasFailed`).

    f.hasFailed → (f.find data).2.hasFailed                              (hasFailed_find)
    f.isTrained → (f.find data).2.isTrained ∨ (f.find data).2.hasFailed  (isTrained_or_hasFailed_find)
-/

namespace TableSelection

variable {α : Type}

/-! ## Pipelines in a tree -/

structure Pipeline (α : Type) where
  rows : RowSelector α
  columns : ColumnSelector α
  stage : Stage

mutual

/-- The pipelines in a column finder at any depth, outer ones first. -/
def ColumnFinder.pipelines : ColumnFinder α → List (Pipeline α)
  | .all | .range _ | .variance _ _ | .custom _ => []
  | .group _ finders => ColumnSelector.pipelinesAll finders
  | .pipeline rows columns stage => ⟨rows, columns, stage⟩ :: columns.pipelines

def ColumnSelector.pipelines : ColumnSelector α → List (Pipeline α)
  | .plain finder => finder.pipelines
  | .trainable finder => finder.pipelines

def ColumnSelector.pipelinesAll : List (ColumnSelector α) → List (Pipeline α)
  | [] => []
  | s :: rest => s.pipelines ++ ColumnSelector.pipelinesAll rest

end

/-- The pipelines in a finder. There are none in a finder of rows. -/
def Finder.pipelines : Finder α → List (Pipeline α)
  | row _ | rowSelector _ => []
  | column f => f.pipelines
  | columnSelector s => s.pipelines

/-- Whether a query has failed to train the column finder. -/
def Stage.hasFailed : Stage → Bool
  | .columnTrainingFailed _ => true
  | .untrained | .rowTrainingFailed | .columnPending | .ready => false

mutual

/-- Whether a query has failed to train the column finder of a pipeline that `isTrained` looks at. -/
def ColumnFinder.hasFailed : ColumnFinder α → Bool
  | .all | .range _ | .variance _ _ | .custom _ => false
  | .group _ finders => ColumnSelector.anyFailed finders
  | .pipeline _ _ stage => stage.hasFailed

def ColumnSelector.hasFailed : ColumnSelector α → Bool
  | .plain _ => false
  | .trainable finder => finder.hasFailed

def ColumnSelector.anyFailed : List (ColumnSelector α) → Bool
  | [] => false
  | s :: rest => s.hasFailed || ColumnSelector.anyFailed rest

end

theorem ColumnSelector.pipelines_eq (s : ColumnSelector α) : s.pipelines = s.finder.pipelines := by
  cases s <;> rfl

theorem ColumnSelector.pipelinesAll_eq_flatMap (ss : List (ColumnSelector α)) :
    pipelinesAll ss = ss.flatMap pipelines := by
  induction ss with
  | nil => rfl
  | cons s ss ih => rw [pipelinesAll, ih, List.flatMap_cons]

theorem ColumnFinder.forall_pipelines_group {P : Pipeline α → Prop} {how : Combination}
    {finders : List (ColumnSelector α)} :
    (∀ p ∈ (group how finders).pipelines, P p) ↔
      ∀ s ∈ finders, ∀ p ∈ s.finder.pipelines, P p := by
  rw [pipelines, ColumnSelector.pipelinesAll_eq_flatMap, List.forall_mem_flatMap]
  simp only [ColumnSelector.pipelines_eq]

theorem ColumnSelector.anyFailed_eq_any (ss : List (ColumnSelector α)) :
    anyFailed ss = ss.any hasFailed := by
  induction ss with
  | nil => rfl
  | cons s ss ih => rw [anyFailed, ih, List.any_cons]

variable [CustomFinder α]

/-! ## Failures of nested pipelines -/

section Failures

variable {s : ColumnSelector α} {data : Table}

theorem ColumnSelector.not_isTrained_of_hasFailed_of_finder
    (ih : s.finder.hasFailed = true → s.finder.isTrained = false) (h : s.hasFailed = true) :
    s.isTrained = false := by
  cases s with
  | plain finder => cases h
  | trainable finder => exact ih h

/-- A finder with a failed pipeline is untrained. -/
theorem ColumnFinder.not_isTrained_of_hasFailed (f : ColumnFinder α) (h : f.hasFailed = true) :
    f.isTrained = false := by
  induction f with
  | group how finders ih =>
    rw [hasFailed, ColumnSelector.anyFailed_eq_any, List.any_eq_true] at h
    obtain ⟨s, hs, hfailed⟩ := h
    rw [isTrained, ColumnSelector.allTrained_eq_all, List.all_eq_false]
    refine ⟨s, hs, ?_⟩
    rw [ColumnSelector.not_isTrained_of_hasFailed_of_finder (ih s hs) hfailed]
    exact Bool.false_ne_true
  | pipeline rows columns stage => cases stage <;> first | rfl | cases h
  | _ => cases h

theorem ColumnSelector.not_isTrained_of_hasFailed (s : ColumnSelector α)
    (h : s.hasFailed = true) : s.isTrained = false :=
  not_isTrained_of_hasFailed_of_finder s.finder.not_isTrained_of_hasFailed h

theorem ColumnSelector.hasFailed_find_of_finder
    (ih : s.finder.hasFailed = true → (s.finder.find data).value.2.hasFailed = true)
    (h : s.hasFailed = true) : (s.find data).value.2.hasFailed = true := by
  cases s with
  | plain finder => cases h
  | trainable finder =>
    rw [value_find_trainable]
    exact ih h

/-- No query repairs a failed pipeline. -/
theorem ColumnFinder.hasFailed_find (f : ColumnFinder α) (data : Table) (h : f.hasFailed = true) :
    (f.find data).value.2.hasFailed = true := by
  induction f with
  | group how finders ih =>
    rw [hasFailed, ColumnSelector.anyFailed_eq_any, List.any_eq_true] at h
    obtain ⟨s, hs, hfailed⟩ := h
    rw [value_find_group, hasFailed, ColumnSelector.anyFailed_eq_any, List.any_eq_true,
      ColumnSelector.value_findAll]
    rcases mem_stepAll_of_mem hs with hmem | hmem
    · exact ⟨_, hmem, ColumnSelector.hasFailed_find_of_finder (ih s hs) hfailed⟩
    · exact ⟨s, hmem, hfailed⟩
  | pipeline rows columns stage =>
    cases stage with
    | columnTrainingFailed reason =>
      rw [find_refused rfl]
      rfl
    | _ => cases h
  | _ => cases h

theorem ColumnSelector.hasFailed_find (s : ColumnSelector α) (data : Table)
    (h : s.hasFailed = true) : (s.find data).value.2.hasFailed = true :=
  hasFailed_find_of_finder (s.finder.hasFailed_find data) h

theorem ColumnSelector.isTrained_or_hasFailed_find_of_finder
    (ih : s.finder.isTrained = true → (s.finder.find data).value.2.isTrained = true ∨
      (s.finder.find data).value.2.hasFailed = true) (h : s.isTrained = true) :
    (s.find data).value.2.isTrained = true ∨ (s.find data).value.2.hasFailed = true := by
  cases s with
  | plain finder => rw [value_find_plain]; exact .inl rfl
  | trainable finder =>
    rw [value_find_trainable]
    exact ih h

variable [LawfulFinder α]

/-- A query leaves a trained finder trained, unless a pipeline in it fails. -/
theorem ColumnFinder.isTrained_or_hasFailed_find (f : ColumnFinder α) (data : Table)
    (h : f.isTrained = true) :
    (f.find data).value.2.isTrained = true ∨ (f.find data).value.2.hasFailed = true := by
  induction f with
  | all => rw [find]; exact .inl rfl
  | range columns => rw [find]; exact .inl rfl
  | variance filter trained => rw [find]; exact .inl h
  | group how finders ih =>
    rw [isTrained, ColumnSelector.allTrained_eq_all, List.all_eq_true] at h
    rw [value_find_group, ColumnSelector.value_findAll, isTrained,
      ColumnSelector.allTrained_eq_all, hasFailed, ColumnSelector.anyFailed_eq_any]
    -- one failed selector is enough, so the others matter only if there is none
    cases hany : (stepAll _ finders).2.any ColumnSelector.hasFailed with
    | true => exact .inr rfl
    | false =>
      refine .inl (List.all_eq_true.2 fun t ht => ?_)
      obtain ⟨s, hs, rfl | rfl⟩ := exists_of_mem_stepAll ht
      · rcases ColumnSelector.isTrained_or_hasFailed_find_of_finder (ih s hs) (h s hs) with
          htrained | hfailed
        · exact htrained
        · exact absurd hfailed (List.any_eq_false.1 hany _ ht)
      · exact h t hs
  | pipeline rows columns stage =>
    obtain ⟨-, hfind⟩ | ⟨e, -, -, hfind⟩ | ⟨subset, e, -, -, -, hfind⟩ |
      ⟨subset, -, -, -, hfind⟩ | ⟨subset, -, -, hfind⟩ :=
        find_pipeline_cases rows columns stage data
    · rw [hfind]; exact .inl h
    · rw [hfind]; exact .inl h
    · rw [hfind]; exact .inr rfl
    · rw [hfind]; exact .inl rfl
    · rw [hfind]; exact .inl rfl
  | custom finder =>
    rw [find]
    exact .inl ((LawfulFinder.isTrained_findColumns finder data).trans h)

theorem ColumnSelector.isTrained_or_hasFailed_find (s : ColumnSelector α) (data : Table)
    (h : s.isTrained = true) :
    (s.find data).value.2.isTrained = true ∨ (s.find data).value.2.hasFailed = true :=
  isTrained_or_hasFailed_find_of_finder (s.finder.isTrained_or_hasFailed_find data) h

end Failures

/-! ## Agreement -/

/-- The stage of a pipeline agrees with its parts. -/
structure Pipeline.Agrees (p : Pipeline α) : Prop where
  rows_isTrained : p.stage.isTrained = true → p.rows.isTrained = true
  columns_isTrained : p.stage = .ready → (p.columns.isTrained = true ↔ p.columns.hasFailed = false)

theorem Pipeline.agrees_of_not_isTrained {p : Pipeline α} (h : p.stage.isTrained = false) :
    p.Agrees where
  rows_isTrained htrained := by rw [h] at htrained; cases htrained
  columns_isTrained hready := by rw [hready] at h; cases h

theorem Pipeline.agrees_ready {rows : RowSelector α} {columns : ColumnSelector α}
    (hrows : rows.isTrained = true) (hcolumns : columns.isTrained = true ∨ columns.hasFailed = true) :
    Pipeline.Agrees ⟨rows, columns, .ready⟩ where
  rows_isTrained _ := hrows
  columns_isTrained _ := by
    rcases hcolumns with htrained | hfailed
    · refine iff_of_true htrained (Bool.eq_false_iff.2 fun hfailed => ?_)
      rw [columns.not_isTrained_of_hasFailed hfailed] at htrained
      cases htrained
    · rw [hfailed, columns.not_isTrained_of_hasFailed hfailed]
      exact iff_of_false nofun nofun

theorem ColumnSelector.agrees_train_of_finder {s : ColumnSelector α} {data : Table}
    (ih : ∀ p ∈ (s.finder.train data).value.2.pipelines, p.Agrees)
    (h : ∀ p ∈ s.finder.pipelines, p.Agrees) :
    ∀ p ∈ (s.train data).value.2.finder.pipelines, p.Agrees := by
  rcases s.finder_train data with hs | hs
  · rwa [hs]
  · rwa [hs]

section

variable [LawfulFinder α]

theorem ColumnFinder.agrees_train (f : ColumnFinder α) (data : Table)
    (h : ∀ p ∈ f.pipelines, p.Agrees) : ∀ p ∈ (f.train data).value.2.pipelines, p.Agrees := by
  induction f with
  | all => exact h
  | range columns => exact h
  | variance filter trained =>
    unfold ColumnFinder.train
    cases filter.train data <;> exact h
  | group how finders ih =>
    rw [forall_pipelines_group] at h
    show ∀ p ∈ (group how (ColumnSelector.trainAll finders 0 data).value.2).pipelines, p.Agrees
    rw [forall_pipelines_group, (ColumnSelector.trainAll_steps finders 0 data).1]
    intro t ht
    obtain ⟨s, hs, rfl | rfl⟩ := exists_of_mem_stepAll ht
    · exact ColumnSelector.agrees_train_of_finder (ih s hs (h s hs)) (h s hs)
    · exact h t hs
  | pipeline rows columns stage =>
    have hcolumns := (List.forall_mem_cons.1 h).2
    have hrows := rows.isTrained_train data
    cases ht : (rows.train data).value.1 with
    | error e =>
      rw [train_pipeline_of_error ht]
      exact List.forall_mem_cons.2 ⟨Pipeline.agrees_of_not_isTrained rfl, hcolumns⟩
    | ok _ =>
      rw [train_pipeline_of_ok ht]
      rw [ht] at hrows
      exact List.forall_mem_cons.2 ⟨⟨fun _ => hrows, fun h => Stage.noConfusion h⟩, hcolumns⟩
  | custom finder => exact h

theorem ColumnSelector.agrees_train (s : ColumnSelector α) (data : Table)
    (h : ∀ p ∈ s.pipelines, p.Agrees) : ∀ p ∈ (s.train data).value.2.pipelines, p.Agrees := by
  rw [pipelines_eq] at h ⊢
  exact agrees_train_of_finder (s.finder.agrees_train data h) h

theorem ColumnFinder.agrees_find (f : ColumnFinder α) (data : Table)
    (h : ∀ p ∈ f.pipelines, p.Agrees) : ∀ p ∈ (f.find data).value.2.pipelines, p.Agrees := by
  induction f generalizing data with
  | all => rw [find]; exact h
  | range columns => rw [find]; exact h
  | variance filter trained => rw [find]; exact h
  | group how finders ih =>
    rw [forall_pipelines_group] at h
    rw [value_find_group, forall_pipelines_group, ColumnSelector.value_findAll]
    intro t ht
    obtain ⟨s, hs, rfl | rfl⟩ := exists_of_mem_stepAll ht
    · rw [s.finder_find]
      exact ih s hs data (h s hs)
    · exact h t hs
  | pipeline rows columns stage ih =>
    obtain ⟨hp, hcolumns⟩ := List.forall_mem_cons.1 h
    have hfinder (s : ColumnSelector α) (hsize : s.size = columns.size) (subset : Table)
        (hs : ∀ p ∈ s.pipelines, p.Agrees) : ∀ p ∈ (s.find subset).value.2.pipelines, p.Agrees := by
      rw [ColumnSelector.pipelines_eq] at hs ⊢
      rw [s.finder_find]
      exact ih s hsize subset hs
    obtain ⟨-, hfind⟩ | ⟨e, -, -, hfind⟩ | ⟨subset, e, -, -, -, hfind⟩ |
      ⟨subset, rfl, -, ht, hfind⟩ | ⟨subset, rfl, -, hfind⟩ :=
        find_pipeline_cases rows columns stage data
    · rw [hfind]; exact h
    · rw [hfind]; exact h
    · rw [hfind]
      exact List.forall_mem_cons.2
        ⟨Pipeline.agrees_of_not_isTrained rfl, columns.agrees_train subset hcolumns⟩
    · rw [hfind]
      -- the training succeeded, but the query behind it may fail in a pipeline further in
      have htrained := columns.isTrained_train subset
      rw [ht] at htrained
      exact List.forall_mem_cons.2 ⟨Pipeline.agrees_ready (hp.rows_isTrained rfl)
          (ColumnSelector.isTrained_or_hasFailed_find _ subset htrained),
        hfinder _ (columns.size_train subset) subset (columns.agrees_train subset hcolumns)⟩
    · rw [hfind]
      refine List.forall_mem_cons.2 ⟨Pipeline.agrees_ready (hp.rows_isTrained rfl) ?_,
        hfinder columns rfl subset hcolumns⟩
      cases hfailed : columns.hasFailed with
      | true => exact .inr (columns.hasFailed_find subset hfailed)
      | false =>
        exact columns.isTrained_or_hasFailed_find subset ((hp.columns_isTrained rfl).2 hfailed)
  | custom finder => rw [find]; exact h

theorem ColumnSelector.agrees_find (s : ColumnSelector α) (data : Table)
    (h : ∀ p ∈ s.pipelines, p.Agrees) : ∀ p ∈ (s.find data).value.2.pipelines, p.Agrees := by
  rw [pipelines_eq] at h ⊢
  rw [s.finder_find]
  exact s.finder.agrees_find data h

end

theorem ColumnSelector.agrees_reset_of_finder {s : ColumnSelector α}
    (ih : ∀ p ∈ s.finder.reset.value.pipelines, p.Agrees)
    (h : ∀ p ∈ s.finder.pipelines, p.Agrees) : ∀ p ∈ s.reset.value.finder.pipelines, p.Agrees := by
  rcases s.finder_reset with hs | hs
  · rwa [hs]
  · rwa [hs]

theorem ColumnFinder.agrees_reset (f : ColumnFinder α) (h : ∀ p ∈ f.pipelines, p.Agrees) :
    ∀ p ∈ f.reset.value.pipelines, p.Agrees := by
  induction f with
  | group how finders ih =>
    rw [forall_pipelines_group] at h
    rw [value_reset_group, forall_pipelines_group, ColumnSelector.value_resetAll,
      List.forall_mem_map]
    exact fun s hs => ColumnSelector.agrees_reset_of_finder (ih s hs (h s hs)) (h s hs)
  | pipeline rows columns stage ih =>
    have hcolumns := (List.forall_mem_cons.1 h).2
    rw [ColumnSelector.pipelines_eq] at hcolumns
    rw [value_reset_pipeline, pipelines, ColumnSelector.pipelines_eq]
    exact List.forall_mem_cons.2 ⟨Pipeline.agrees_of_not_isTrained rfl,
      ColumnSelector.agrees_reset_of_finder (ih columns rfl hcolumns) hcolumns⟩
  | _ => exact h

theorem ColumnSelector.agrees_reset (s : ColumnSelector α) (h : ∀ p ∈ s.pipelines, p.Agrees) :
    ∀ p ∈ s.reset.value.pipelines, p.Agrees := by
  rw [pipelines_eq] at h ⊢
  exact agrees_reset_of_finder (s.finder.agrees_reset h) h

theorem ColumnFinder.agrees_asBuilt (f : ColumnFinder α) :
    ∀ p ∈ f.asBuilt.pipelines, p.Agrees := by
  induction f with
  | group how finders ih =>
    rw [asBuilt, forall_pipelines_group, ColumnSelector.asBuiltAll_eq_map, List.forall_mem_map]
    intro s hs
    rw [s.finder_asBuilt]
    exact ih s hs
  | pipeline rows columns stage ih =>
    have hcolumns := ih columns rfl
    rw [← columns.finder_asBuilt, ← ColumnSelector.pipelines_eq] at hcolumns
    exact List.forall_mem_cons.2 ⟨Pipeline.agrees_of_not_isTrained rfl, hcolumns⟩
  | _ => exact List.forall_mem_nil _

theorem ColumnSelector.agrees_asBuilt (s : ColumnSelector α) :
    ∀ p ∈ s.asBuilt.pipelines, p.Agrees := by
  rw [pipelines_eq, finder_asBuilt]
  exact s.finder.agrees_asBuilt

/-! ## Changes -/

theorem ColumnFinder.agrees_push {f : ColumnFinder α} {s : ColumnSelector α}
    (hf : ∀ p ∈ f.pipelines, p.Agrees) (hs : ∀ p ∈ s.pipelines, p.Agrees) :
    ∀ p ∈ (f.push s).pipelines, p.Agrees := by
  cases f with
  | group how finders =>
    rw [forall_pipelines_group] at hf
    rw [ColumnSelector.pipelines_eq] at hs
    rw [push, forall_pipelines_group, List.forall_mem_append, List.forall_mem_singleton]
    exact ⟨hf, hs⟩
  | _ => exact hf

theorem ColumnFinder.agrees_withRows {f : ColumnFinder α} (hf : ∀ p ∈ f.pipelines, p.Agrees)
    (s : RowSelector α) : ∀ p ∈ (f.withRows s).pipelines, p.Agrees := by
  cases f with
  | pipeline rows columns stage =>
    exact List.forall_mem_cons.2
      ⟨Pipeline.agrees_of_not_isTrained rfl, (List.forall_mem_cons.1 hf).2⟩
  | _ => exact hf

theorem ColumnFinder.agrees_withColumns {f : ColumnFinder α} {s : ColumnSelector α}
    (hf : ∀ p ∈ f.pipelines, p.Agrees) (hs : ∀ p ∈ s.pipelines, p.Agrees) :
    ∀ p ∈ (f.withColumns s).pipelines, p.Agrees := by
  cases f with
  | pipeline rows columns stage =>
    exact List.forall_mem_cons.2 ⟨Pipeline.agrees_of_not_isTrained rfl, hs⟩
  | _ => exact hf

/-! ## Finders of either kind -/

namespace Finder

theorem agrees_of_isFresh {f : Finder α} (h : f.IsFresh) : ∀ p ∈ f.pipelines, p.Agrees := by
  rw [← show f.asBuilt = f from h]
  cases f with
  | row f => nofun
  | column f => exact f.agrees_asBuilt
  | rowSelector s => nofun
  | columnSelector s => exact s.agrees_asBuilt

variable [LawfulFinder α]

/-- No request makes the stage of a pipeline disagree with its parts. -/
theorem agrees_respond {f : Finder α} (h : ∀ p ∈ f.pipelines, p.Agrees) (r : Request) :
    ∀ p ∈ (f.respond r).2.pipelines, p.Agrees := by
  cases f with
  | row f => cases r <;> nofun
  | rowSelector s => cases r <;> nofun
  | column f => cases r with
    | train data => exact f.agrees_train data h
    | find data => exact f.agrees_find data h
    | reset => exact f.agrees_reset h
  | columnSelector s => cases r with
    | train data => exact s.agrees_train data h
    | find data => exact s.agrees_find data h
    | reset => exact s.agrees_reset h

/-! ## Top theorem -/

/-- **What the stage of a pipeline says.** In every reachable finder and at any depth: the row finder
of a pipeline that counts as trained is trained, and the column finder of a pipeline that is ready is
trained exactly if no pipeline in it has failed. -/
theorem stages_agree {wrapped : Finder α → Prop} {f : Finder α} (h : f.Reachable wrapped) :
    ∀ p ∈ f.pipelines, p.Agrees := by
  induction h with
  | fresh h => exact agrees_of_isFresh h
  | respond _ r ih => exact agrees_respond ih r
  | plainRows => nofun
  | trainableRows => nofun
  | plainColumns _ _ ih => exact ih
  | trainableColumns _ ih => exact ih
  | pushRows => nofun
  | pushColumns _ _ ihf ihs => exact ColumnFinder.agrees_push ihf ihs
  | withRows _ _ ihf _ => exact ColumnFinder.agrees_withRows ihf _
  | withColumns _ _ ihf ihs => exact ColumnFinder.agrees_withColumns ihf ihs
  | withNumericFilter => nofun
  | withVarianceFilter => nofun

/-- Two pipelines in a group, the first with a pipeline in it: the query trains the columns of the
first at both levels, but it misses the rows of the second, which stays as the training has left it. -/
theorem stages_agree_after_training :
    let inner (trained : Option VarianceChoice) (stage : Stage) : ColumnFinder Empty :=
      .pipeline (.plain .all) (.trainable (.variance {} trained)) stage
    let outer (inner : ColumnFinder Empty) (stage : Stage) : ColumnSelector Empty :=
      .trainable (.pipeline (.plain .all) (.trainable inner) stage)
    let missing (stage : Stage) : ColumnFinder Empty :=
      .pipeline (.plain (.range (Range.single (.placeholder .third)))) (.plain .all) stage
    let f : Finder Empty := column (.group .union
      [outer (inner none .untrained) .untrained, .trainable (missing .untrained)])
    ∃ data, Table.ofColumns [⟨"x", .integer true 64, [some 1, some 3]⟩] = .ok data ∧
      let g := f.after [.train data, .find data]
      g.Reachable (fun _ => True) ∧ (∀ p ∈ g.pipelines, p.Agrees) ∧
        g.pipelines.map Pipeline.stage = [.ready, .ready, .columnPending] ∧
        g.pipelines.map (fun p => p.columns.isTrained) = [true, true, true] := by
  intro inner outer missing f
  obtain ⟨data, hdata⟩ : ∃ data,
      Table.ofColumns [⟨"x", .integer true 64, [some 1, some 3]⟩] = .ok data := ⟨_, rfl⟩
  have hall : ((.plain .all : RowSelector Empty).subset data).value = .ok data := by
    cases hdata; rfl
  obtain ⟨e, hthird⟩ : ∃ e, ((.plain (.range (Range.single (.placeholder .third))) :
      RowSelector Empty).subset data).value = .error e := by
    cases hdata; exact ⟨_, rfl⟩
  have hlearns : VarianceFilter.train {} data = .ok ⟨1, [0]⟩ := by
    cases hdata; decide +kernel
  have hvariance : ((ColumnSelector.trainable (.variance {} none)).train data).value =
      (.ok (), (.trainable (.variance {} (some ⟨1, [0]⟩)) : ColumnSelector Empty)) := by
    rw [ColumnSelector.value_train_trainable, ColumnFinder.train_variance_of_ok hlearns]
  have hinner : ((ColumnSelector.trainable (inner none .columnPending)).find data).value =
      (.ok [0], .trainable (inner (some ⟨1, [0]⟩) .ready)) := by
    have hcount : 1 = data.columnCount := by cases hdata; rfl
    rw [ColumnSelector.value_find_trainable, ColumnFinder.value_find_pending hall hvariance,
      ColumnSelector.value_find_trainable, ColumnFinder.find_variance_of_some, if_pos hcount]
  have houter : ((outer (inner none .untrained) .columnPending).find data).value =
      (.ok [0], outer (inner (some ⟨1, [0]⟩) .ready) .ready) := by
    have htrain : ((ColumnSelector.trainable (inner none .untrained)).train data).value =
        (.ok (), .trainable (inner none .columnPending)) := rfl
    rw [ColumnSelector.value_find_trainable, ColumnFinder.value_find_pending hall htrain, hinner]
  have hmissing : ((ColumnSelector.trainable (missing .columnPending)).find data).value =
      (.error e, .trainable (missing .columnPending)) := by
    rw [ColumnSelector.value_find_trainable, ColumnFinder.find_missed rfl hthird]
  have hafter : f.after [.train data, .find data] = column (.group .union
      [outer (inner (some ⟨1, [0]⟩) .ready) .ready, .trainable (missing .columnPending)]) := by
    show column ((ColumnFinder.group .union [outer (inner none .untrained) .columnPending,
      .trainable (missing .columnPending)]).find data).value.2 = _
    rw [ColumnFinder.value_find_group, ColumnSelector.findAll_cons_of_ok (congrArg Prod.fst houter),
      ColumnSelector.findAll_cons_of_error (congrArg Prod.fst hmissing), houter, hmissing]
  have hreachable : (f.after [.train data, .find data]).Reachable (fun _ => True) :=
    .respond (.respond (.fresh (show f.asBuilt = f from rfl)) _) _
  refine ⟨data, hdata, hreachable, stages_agree hreachable, ?_⟩
  rw [hafter]
  exact ⟨rfl, rfl⟩

/-- A pipeline can be ready although its column finder is untrained: the query that trains the column
finder of the outer pipeline fails to train that of the inner one. -/
theorem ready_with_untrained_columns :
    let varying : ColumnFinder Empty :=
      .variance { candidates := Range.single (.placeholder .third) } none
    let inner : ColumnFinder Empty := .pipeline (.plain .all) (.trainable varying) .untrained
    let outer : Finder Empty := column (.pipeline (.plain .all) (.trainable inner) .untrained)
    outer.IsFresh ∧
      ∃ data, Table.ofColumns [⟨"x", .integer true 64, [some 1]⟩] = .ok data ∧
        ∃ p ∈ (outer.after [.train data, .find data]).pipelines,
          p.stage = .ready ∧ p.columns.isTrained = false := by
  intro varying inner outer
  obtain ⟨data, hdata⟩ : ∃ data,
      Table.ofColumns [⟨"x", .integer true 64, [some 1]⟩] = .ok data := ⟨_, rfl⟩
  have hsubset : ((.plain .all : RowSelector Empty).subset data).value = .ok data := by
    cases hdata; rfl
  have hfails : ((ColumnSelector.trainable varying).train data).value.1 =
      .error (.range (.outOfBounds "third" 1)) := by
    cases hdata; rfl
  refine ⟨rfl, data, hdata, ?_⟩
  show ∃ p ∈ (column ((ColumnFinder.pipeline (.plain .all) (.trainable inner)
    .columnPending).find data).value.2).pipelines, _
  rw [ColumnFinder.find_pending_of_ok hsubset rfl]
  refine ⟨_, List.mem_cons_self, rfl, ?_⟩
  show (((ColumnSelector.trainable (.pipeline (.plain .all) (.trainable varying)
    .columnPending)).find data).value.2).isTrained = false
  rw [ColumnSelector.value_find_trainable, ColumnFinder.find_pending_of_error hsubset hfails]
  rfl

end Finder

end TableSelection
