import TableSelection.Proofs.Finder.Reachable
import TableSelection.Proofs.Finder.Steps

/-!
# Who is trained

A finder is trained after a training exactly if the training succeeded; who answers a query is
trained; neither a query nor a reset makes an untrained finder trained. If this holds of the custom
finders in a tree (`LawfulFinder`), it holds of the tree, and so along every run of requests.

    (f.train data).2.isTrained = (f.train data).1.isOk          (isTrained_train)
    (f.find data).1 = .ok found → f.isTrained                   (isTrained_of_find)
    (f.find data).2.isTrained → f.isTrained                     (isTrained_of_isTrained_find)
-/

namespace TableSelection

/-- Custom finders that count as trained after a successful training only, and that answer no query
otherwise. -/
class LawfulFinder (α : Type) [CustomFinder α] : Prop where
  isTrained_train (f : α) (data : Table) :
    CustomFinder.isTrained (CustomFinder.train f data).2 = (CustomFinder.train f data).1.isOk
  isTrained_of_findRows (f : α) (data : Table) (rows : List Nat) :
    CustomFinder.findRows f data = .ok rows → CustomFinder.isTrained f = true
  isTrained_of_findColumns (f : α) (data : Table) (columns : List Nat) :
    (CustomFinder.findColumns f data).1 = .ok columns → CustomFinder.isTrained f = true
  isTrained_findColumns (f : α) (data : Table) :
    CustomFinder.isTrained (CustomFinder.findColumns f data).2 = CustomFinder.isTrained f
  isTrained_of_isTrained_reset (f : α) :
    CustomFinder.isTrained (CustomFinder.reset f) = true → CustomFinder.isTrained f = true

instance : LawfulFinder Empty where
  isTrained_train := nofun
  isTrained_of_findRows := nofun
  isTrained_of_findColumns := nofun
  isTrained_findColumns := nofun
  isTrained_of_isTrained_reset := nofun

variable {α : Type} [CustomFinder α]

/-! ## Row finders -/

section Rows

variable {s : RowSelector α} {data : Table}

theorem RowSelector.isTrained_train_of_finder
    (h : (s.finder.train data).value.2.isTrained = (s.finder.train data).value.1.isOk) :
    (s.train data).value.2.isTrained = (s.train data).value.1.isOk := by
  cases s with
  | plain finder => rfl
  | trainable finder => exact h

/-- Only a selector that training reaches can be untrained. -/
theorem RowSelector.isTrained_of_finder (h : s.finder.isTrained = true) : s.isTrained = true := by
  cases s with
  | plain finder => rfl
  | trainable finder => exact h

theorem RowSelector.isTrained_of_isTrained_reset_of_finder
    (ih : s.finder.reset.value.isTrained = true → s.finder.isTrained = true)
    (h : s.reset.value.isTrained = true) : s.isTrained = true := by
  cases s with
  | plain finder => rfl
  | trainable finder => exact ih h

variable [LawfulFinder α]

/-- A finder is trained after a training exactly if the training succeeded. -/
theorem RowFinder.isTrained_train (f : RowFinder α) (data : Table) :
    (f.train data).value.2.isTrained = (f.train data).value.1.isOk := by
  induction f with
  | all => rfl
  | range rows => rfl
  | numeric filter trained =>
    unfold RowFinder.train
    cases filter.train data <;> rfl
  | group how finders ih =>
    obtain ⟨hafter, hresult⟩ := RowSelector.trainAll_steps finders 0 data
    show RowSelector.allTrained (RowSelector.trainAll finders 0 data).value.2 =
      (RowSelector.trainAll finders 0 data).value.1.isOk
    rw [RowSelector.allTrained_eq_all, hafter, hresult]
    exact all_stepAll fun s hs => RowSelector.isTrained_train_of_finder (ih s hs)
  | custom finder => exact LawfulFinder.isTrained_train finder data

theorem RowSelector.isTrained_train (s : RowSelector α) (data : Table) :
    (s.train data).value.2.isTrained = (s.train data).value.1.isOk :=
  isTrained_train_of_finder (s.finder.isTrained_train data)

/-- A finder that answers is trained. -/
theorem RowFinder.isTrained_of_find (f : RowFinder α) (data : Table) {found : List Nat}
    (h : (f.find data).value = .ok found) : f.isTrained = true := by
  induction f generalizing found with
  | all => rfl
  | range rows => rfl
  | numeric filter trained =>
    cases trained with
    | none => cases h
    | some column => rfl
  | group how finders ih =>
    obtain ⟨lists, hall, -⟩ := map_eq_ok_iff.1 h
    rw [RowSelector.value_findAll] at hall
    have hfound := exists_mapM_eq_ok_iff.1 ⟨lists, hall⟩
    rw [isTrained, RowSelector.allTrained_eq_all, List.all_eq_true]
    intro s hs
    obtain ⟨rows, hrows⟩ := hfound s hs
    rw [RowSelector.find_eq] at hrows
    exact RowSelector.isTrained_of_finder (ih s hs hrows)
  | custom finder => exact LawfulFinder.isTrained_of_findRows finder data found h

theorem RowSelector.isTrained_of_find (s : RowSelector α) (data : Table) {found : List Nat}
    (h : (s.find data).value = .ok found) : s.isTrained = true := by
  rw [find_eq] at h
  exact isTrained_of_finder (s.finder.isTrained_of_find data h)

/-- A reset trains no finder. -/
theorem RowFinder.isTrained_of_isTrained_reset (f : RowFinder α)
    (h : f.reset.value.isTrained = true) : f.isTrained = true := by
  induction f with
  | all => rfl
  | range rows => rfl
  | numeric filter trained => cases h
  | group how finders ih =>
    rw [value_reset_group, isTrained, RowSelector.allTrained_eq_all, RowSelector.value_resetAll,
      List.all_map, List.all_eq_true] at h
    rw [isTrained, RowSelector.allTrained_eq_all, List.all_eq_true]
    exact fun s hs => RowSelector.isTrained_of_isTrained_reset_of_finder (ih s hs) (h s hs)
  | custom finder => exact LawfulFinder.isTrained_of_isTrained_reset finder h

theorem RowSelector.isTrained_of_isTrained_reset (s : RowSelector α)
    (h : s.reset.value.isTrained = true) : s.isTrained = true :=
  isTrained_of_isTrained_reset_of_finder s.finder.isTrained_of_isTrained_reset h

end Rows

/-! ## Column finders -/

section Columns

variable {s : ColumnSelector α} {data : Table}

theorem ColumnSelector.isTrained_train_of_finder
    (h : (s.finder.train data).value.2.isTrained = (s.finder.train data).value.1.isOk) :
    (s.train data).value.2.isTrained = (s.train data).value.1.isOk := by
  cases s with
  | plain finder => rfl
  | trainable finder => exact h

theorem ColumnSelector.isTrained_of_finder (h : s.finder.isTrained = true) :
    s.isTrained = true := by
  cases s with
  | plain finder => rfl
  | trainable finder => exact h

theorem ColumnSelector.isTrained_of_isTrained_find_of_finder
    (ih : (s.finder.find data).value.2.isTrained = true → s.finder.isTrained = true)
    (h : (s.find data).value.2.isTrained = true) : s.isTrained = true := by
  cases s with
  | plain finder => rfl
  | trainable finder =>
    rw [value_find_trainable] at h
    exact ih h

theorem ColumnSelector.isTrained_of_isTrained_reset_of_finder
    (ih : s.finder.reset.value.isTrained = true → s.finder.isTrained = true)
    (h : s.reset.value.isTrained = true) : s.isTrained = true := by
  cases s with
  | plain finder => rfl
  | trainable finder => exact ih h

variable [LawfulFinder α]

theorem ColumnFinder.isTrained_train (f : ColumnFinder α) (data : Table) :
    (f.train data).value.2.isTrained = (f.train data).value.1.isOk := by
  induction f with
  | all => rfl
  | range columns => rfl
  | variance filter trained =>
    unfold ColumnFinder.train
    cases filter.train data <;> rfl
  | group how finders ih =>
    obtain ⟨hafter, hresult⟩ := ColumnSelector.trainAll_steps finders 0 data
    show ColumnSelector.allTrained (ColumnSelector.trainAll finders 0 data).value.2 =
      (ColumnSelector.trainAll finders 0 data).value.1.isOk
    rw [ColumnSelector.allTrained_eq_all, hafter, hresult]
    exact all_stepAll fun s hs => ColumnSelector.isTrained_train_of_finder (ih s hs)
  | pipeline rows columns stage =>
    cases h : (rows.train data).value.1 with
    | error e => rw [train_pipeline_of_error h]; rfl
    | ok _ => rw [train_pipeline_of_ok h]; rfl
  | custom finder => exact LawfulFinder.isTrained_train finder data

theorem ColumnSelector.isTrained_train (s : ColumnSelector α) (data : Table) :
    (s.train data).value.2.isTrained = (s.train data).value.1.isOk :=
  isTrained_train_of_finder (s.finder.isTrained_train data)

theorem ColumnFinder.isTrained_of_find (f : ColumnFinder α) (data : Table) {found : List Nat}
    (h : (f.find data).value.1 = .ok found) : f.isTrained = true := by
  induction f generalizing found with
  | all => rfl
  | range columns => rfl
  | variance filter trained =>
    cases trained with
    | none => rw [find] at h; cases h
    | some choice => rfl
  | group how finders ih =>
    rw [value_find_group] at h
    obtain ⟨lists, hall, -⟩ := map_eq_ok_iff.1 h
    rw [ColumnSelector.value_findAll, fst_stepAll] at hall
    have hfound := exists_mapM_eq_ok_iff.1 ⟨lists, hall⟩
    rw [isTrained, ColumnSelector.allTrained_eq_all, List.all_eq_true]
    intro s hs
    obtain ⟨columns, hcolumns⟩ := hfound s hs
    rw [ColumnSelector.fst_find] at hcolumns
    exact ColumnSelector.isTrained_of_finder (ih s hs hcolumns)
  | pipeline rows columns stage =>
    cases hstage : stage.isTrained with
    | true => exact hstage
    | false => rw [find_refused hstage] at h; cases h
  | custom finder =>
    rw [find] at h
    exact LawfulFinder.isTrained_of_findColumns finder data found h

theorem ColumnSelector.isTrained_of_find (s : ColumnSelector α) (data : Table) {found : List Nat}
    (h : (s.find data).value.1 = .ok found) : s.isTrained = true := by
  rw [fst_find] at h
  exact isTrained_of_finder (s.finder.isTrained_of_find data h)

/-- A query trains no finder that was not trained before. -/
theorem ColumnFinder.isTrained_of_isTrained_find (f : ColumnFinder α) (data : Table)
    (h : (f.find data).value.2.isTrained = true) : f.isTrained = true := by
  induction f with
  | all => rfl
  | range columns => rfl
  | variance filter trained => rw [find] at h; exact h
  | group how finders ih =>
    rw [value_find_group, isTrained, ColumnSelector.allTrained_eq_all, List.all_eq_true,
      ColumnSelector.value_findAll] at h
    rw [isTrained, ColumnSelector.allTrained_eq_all, List.all_eq_true]
    intro s hs
    -- each selector is in the group afterwards, with or without its own query
    rcases mem_stepAll_of_mem hs with hfind | hsame
    · exact ColumnSelector.isTrained_of_isTrained_find_of_finder (ih s hs) (h _ hfind)
    · exact h s hsame
  | pipeline rows columns stage =>
    cases hstage : stage.isTrained with
    | true => exact hstage
    | false => rw [find_refused hstage] at h; exact h
  | custom finder =>
    rw [find] at h
    exact (LawfulFinder.isTrained_findColumns finder data).symm.trans h

theorem ColumnSelector.isTrained_of_isTrained_find (s : ColumnSelector α) (data : Table)
    (h : (s.find data).value.2.isTrained = true) : s.isTrained = true :=
  isTrained_of_isTrained_find_of_finder (s.finder.isTrained_of_isTrained_find data) h

theorem ColumnSelector.isTrained_find_of_not_isTrained (s : ColumnSelector α)
    (h : s.isTrained = false) (data : Table) : (s.find data).value.2.isTrained = false := by
  cases htrained : (s.find data).value.2.isTrained with
  | false => rfl
  | true => rw [s.isTrained_of_isTrained_find data htrained] at h; cases h

theorem ColumnFinder.isTrained_of_isTrained_reset (f : ColumnFinder α)
    (h : f.reset.value.isTrained = true) : f.isTrained = true := by
  induction f with
  | all => rfl
  | range columns => rfl
  | variance filter trained => cases h
  | group how finders ih =>
    rw [value_reset_group, isTrained, ColumnSelector.allTrained_eq_all,
      ColumnSelector.value_resetAll, List.all_map, List.all_eq_true] at h
    rw [isTrained, ColumnSelector.allTrained_eq_all, List.all_eq_true]
    exact fun s hs => ColumnSelector.isTrained_of_isTrained_reset_of_finder (ih s hs) (h s hs)
  | pipeline rows columns stage => cases h
  | custom finder => exact LawfulFinder.isTrained_of_isTrained_reset finder h

theorem ColumnSelector.isTrained_of_isTrained_reset (s : ColumnSelector α)
    (h : s.reset.value.isTrained = true) : s.isTrained = true :=
  isTrained_of_isTrained_reset_of_finder s.finder.isTrained_of_isTrained_reset h

end Columns

variable [LawfulFinder α]

/-! ## Finders of either kind -/

namespace Finder

theorem isTrained_train (f : Finder α) (data : Table) :
    (f.train data).2.isTrained = (f.train data).1.isOk := by
  cases f with
  | row f => exact f.isTrained_train data
  | column f => exact f.isTrained_train data
  | rowSelector s => exact s.isTrained_train data
  | columnSelector s => exact s.isTrained_train data

theorem isTrained_of_find {f : Finder α} {data : Table} {found : List Nat}
    (h : (f.find data).1 = .ok found) : f.isTrained = true := by
  cases f with
  | row f => exact f.isTrained_of_find data h
  | column f => exact f.isTrained_of_find data h
  | rowSelector s => exact s.isTrained_of_find data h
  | columnSelector s => exact s.isTrained_of_find data h

theorem isTrained_of_isTrained_find {f : Finder α} {data : Table}
    (h : (f.find data).2.isTrained = true) : f.isTrained = true := by
  cases f with
  | row f => exact h
  | column f => exact f.isTrained_of_isTrained_find data h
  | rowSelector s => exact h
  | columnSelector s => exact s.isTrained_of_isTrained_find data h

theorem isTrained_of_isTrained_reset {f : Finder α} (h : f.reset.isTrained = true) :
    f.isTrained = true := by
  cases f with
  | row f => exact f.isTrained_of_isTrained_reset h
  | column f => exact f.isTrained_of_isTrained_reset h
  | rowSelector s => exact s.isTrained_of_isTrained_reset h
  | columnSelector s => exact s.isTrained_of_isTrained_reset h

/-- A query of an untrained finder fails and leaves it untrained. -/
theorem find_of_not_isTrained {f : Finder α} (h : f.isTrained = false) (data : Table) :
    (∃ e, (f.find data).1 = .error e) ∧ (f.find data).2.isTrained = false := by
  constructor
  · cases hfound : (f.find data).1 with
    | error e => exact ⟨e, rfl⟩
    | ok found => rw [isTrained_of_find hfound] at h; cases h
  · cases htrained : (f.find data).2.isTrained with
    | false => rfl
    | true => rw [isTrained_of_isTrained_find htrained] at h; cases h

theorem reset_of_not_isTrained {f : Finder α} (h : f.isTrained = false) :
    f.reset.isTrained = false := by
  cases htrained : f.reset.isTrained with
  | false => rfl
  | true => rw [isTrained_of_isTrained_reset htrained] at h; cases h

/-! ## Runs -/

/-- An untrained finder answers no request and stays untrained, unless it is trained. -/
theorem respond_of_not_isTrained {f : Finder α} (h : f.isTrained = false) {r : Request}
    (hr : (f.respond r).1 ≠ .trained (.ok ())) :
    (∀ found, (f.respond r).1 ≠ .found (.ok found)) ∧ (f.respond r).2.isTrained = false := by
  cases r with
  | train data =>
    refine ⟨fun found => nofun, ?_⟩
    show (f.train data).2.isTrained = false
    rw [isTrained_train]
    cases htrain : (f.train data).1 with
    | error e => rfl
    | ok u => exact absurd (congrArg Reply.trained htrain) hr
  | find data =>
    obtain ⟨⟨e, he⟩, hafter⟩ := find_of_not_isTrained h data
    refine ⟨fun found hfound => ?_, hafter⟩
    have hfound' : (f.find data).1 = .ok found := Reply.found.inj hfound
    rw [he] at hfound'
    cases hfound'
  | reset => exact ⟨fun found => nofun, reset_of_not_isTrained h⟩

theorem replies_of_not_isTrained {f : Finder α} (h : f.isTrained = false)
    {requests : List Request} (hr : .trained (.ok ()) ∉ f.replies requests) :
    (∀ found, .found (.ok found) ∉ f.replies requests) ∧ (f.after requests).isTrained = false := by
  induction requests generalizing f with
  | nil => exact ⟨fun found => List.not_mem_nil, h⟩
  | cons r rest ih =>
    obtain ⟨hfirst, hrest⟩ := not_or.1 (mt List.mem_cons.2 hr)
    obtain ⟨hreply, hafter⟩ := respond_of_not_isTrained h (Ne.symm hfirst)
    obtain ⟨hreplies, hlast⟩ := ih hafter hrest
    refine ⟨fun found hfound => ?_, hlast⟩
    rcases List.mem_cons.1 hfound with heq | hmem
    · exact hreply found heq.symm
    · exact hreplies found hmem

/-! ## Top theorem -/

/-- **An untrained finder never answers.** Training leaves a finder trained if it succeeds and
untrained if it fails. Until a training succeeds, an untrained finder answers no query and stays
untrained, whatever is asked of it. -/
theorem untrained_never_answers (f : Finder Empty) :
    (∀ data, ((f.train data).1 = .ok () → (f.train data).2.isTrained = true) ∧
      ∀ e, (f.train data).1 = .error e → (f.train data).2.isTrained = false) ∧
    (f.isTrained = false →
      (∀ data, (∃ e, (f.find data).1 = .error e) ∧ (f.find data).2.isTrained = false) ∧
      f.reset.isTrained = false ∧
      ∀ requests, .trained (.ok ()) ∉ f.replies requests →
        (∀ found, .found (.ok found) ∉ f.replies requests) ∧
          (f.after requests).isTrained = false) := by
  refine ⟨fun data => ?_, fun h => ⟨fun data => find_of_not_isTrained h data,
    reset_of_not_isTrained h, fun requests => replies_of_not_isTrained h⟩⟩
  rw [isTrained_train]
  exact ⟨fun h => by rw [h]; rfl, fun e h => by rw [h]; rfl⟩

theorem untrained_never_answers_in_group :
    let f : Finder Empty := row (.group .union [.plain .all, .trainable (.numeric {} none)])
    f.isTrained = false ∧ ∀ data, ∃ e, (f.find data).1 = .error e :=
  ⟨rfl, fun data => (((untrained_never_answers _).2 rfl).1 data).1⟩

end Finder

end TableSelection
