import TableSelection.Proofs.Finder.Freshness
import TableSelection.Proofs.Finder.Training

/-!
# Training forgets

What a finder answers after a training depends on its settings and on what is asked since, not on its
past. A training that fails leaves the finders of a group alone that come behind the one that failed,
and a training of a pipeline leaves its column finder alone, so two finders may differ after the same
training; but only where no query reaches them. `Alike` says so: it relates what equal settings become
by training, and every request keeps it and gets the same reply.

    f.reset = g.reset → (f.train data).2.Alike (g.train data).2      (train_congr)
    f.Alike g → (f.respond r).1 = (g.respond r).1 ∧
                (f.respond r).2.Alike (g.respond r).2                (Alike.respond)
-/

namespace TableSelection

/-! ## Row finders -/

/-- The selectors behind one that fails do not matter. -/
theorem RowSelector.findAll_cons_congr {s t : RowSelector Empty} {ss ts : List (RowSelector Empty)}
    {data : Table} (h : (s.find data).value = (t.find data).value)
    (hrest : s.isTrained = true → (findAll ss data).value = (findAll ts data).value) :
    (findAll (s :: ss) data).value = (findAll (t :: ts) data).value := by
  cases hs : (s.find data).value with
  | error e => rw [findAll_cons_of_error hs, findAll_cons_of_error (h ▸ hs)]
  | ok rows =>
    rw [findAll_cons_of_ok hs, findAll_cons_of_ok (h ▸ hs), hrest (s.isTrained_of_find data hs)]

/-- Two outcomes of a training: the same result, and row finders that find the same. -/
structure RowFinder.AlikeAfter {β : Type} (x y : β × RowFinder Empty) : Prop where
  reply : x.1 = y.1
  find : ∀ other, (x.2.find other).value = (y.2.find other).value

structure RowSelector.AlikeAfter {β : Type} (x y : β × RowSelector Empty) : Prop where
  reply : x.1 = y.1
  find : ∀ other, (x.2.find other).value = (y.2.find other).value

theorem RowSelector.train_congr_of_finder {s t : RowSelector Empty} {data : Table}
    (ih : ∀ {g : RowFinder Empty}, s.finder.reset.value = g.reset.value →
      RowFinder.AlikeAfter (s.finder.train data).value (g.train data).value)
    (h : s.reset.value = t.reset.value) : AlikeAfter (s.train data).value (t.train data).value := by
  cases s with
  | plain finder => cases t with
    | plain finder' => cases h; exact ⟨rfl, fun _ => rfl⟩
    | trainable finder' => nomatch h
  | trainable finder => cases t with
    | plain finder' => nomatch h
    | trainable finder' =>
      have hfinder := ih (trainable.inj h)
      exact ⟨hfinder.reply, hfinder.find⟩

theorem RowSelector.trainAll_congr {ss ts : List (RowSelector Empty)} {data : Table}
    (hss : ∀ s ∈ ss, ∀ {t : RowSelector Empty}, s.reset.value = t.reset.value →
      AlikeAfter (s.train data).value (t.train data).value)
    (h : ss.map (fun s => s.reset.value) = ts.map fun s => s.reset.value) (number : Nat) :
    (trainAll ss number data).value.1 = (trainAll ts number data).value.1 ∧
      ∀ other, (findAll (trainAll ss number data).value.2 other).value =
        (findAll (trainAll ts number data).value.2 other).value := by
  induction ss generalizing ts number with
  | nil => cases ts with
    | nil => exact ⟨rfl, fun _ => rfl⟩
    | cons t ts => nomatch h
  | cons s ss ih => cases ts with
    | nil => nomatch h
    | cons t ts =>
      obtain ⟨hst, hrest⟩ := List.cons.inj h
      obtain ⟨hs, hss⟩ := List.forall_mem_cons.1 hss
      obtain ⟨hresult, hfind⟩ := hs hst
      have hbehind := ih hss hrest (number + 1)
      have htrained := s.isTrained_train data
      cases htrain : (s.train data).value.1 with
      | error e =>
        rw [trainAll_cons_of_error htrain, trainAll_cons_of_error (hresult ▸ htrain)]
        refine ⟨rfl, fun other => findAll_cons_congr (hfind other) fun h => ?_⟩
        rw [htrained, htrain] at h
        cases h
      | ok _ =>
        rw [trainAll_cons_of_ok htrain, trainAll_cons_of_ok (hresult ▸ htrain)]
        exact ⟨hbehind.1, fun other => findAll_cons_congr (hfind other) fun _ => hbehind.2 other⟩

/-- Finders with the same settings are trained with the same result, and find the same rows then. -/
theorem RowFinder.train_congr {f g : RowFinder Empty} (h : f.reset.value = g.reset.value)
    (data : Table) : AlikeAfter (f.train data).value (g.train data).value := by
  induction f generalizing g with
  | all => cases g with
    | all => exact ⟨rfl, fun _ => rfl⟩
    | _ => nomatch h
  | range rows => cases g with
    | range rows' => cases h; exact ⟨rfl, fun _ => rfl⟩
    | _ => nomatch h
  | numeric filter trained => cases g with
    | numeric filter' trained' => cases h; exact ⟨rfl, fun _ => rfl⟩
    | _ => nomatch h
  | group how finders ih => cases g with
    | group how' finders' =>
      obtain ⟨rfl, hall⟩ := group.inj h
      rw [RowSelector.value_resetAll, RowSelector.value_resetAll] at hall
      obtain ⟨hresult, hfind⟩ :=
        RowSelector.trainAll_congr (fun s hs => RowSelector.train_congr_of_finder (ih s hs)) hall 0
      exact ⟨hresult, fun other => congrArg (Except.map how.combine) (hfind other)⟩
    | _ => nomatch h
  | custom finder => exact finder.elim

theorem RowSelector.train_congr {s t : RowSelector Empty} (h : s.reset.value = t.reset.value)
    (data : Table) : AlikeAfter (s.train data).value (t.train data).value :=
  train_congr_of_finder (RowFinder.train_congr · data) h

/-- Two row selectors that answer alike, now and after any request. -/
structure RowSelector.Alike (s t : RowSelector Empty) : Prop where
  find : ∀ data, (s.find data).value = (t.find data).value
  reset : s.reset.value = t.reset.value

theorem RowSelector.Alike.subset {s t : RowSelector Empty} (h : s.Alike t) (data : Table) :
    (s.subset data).value = (t.subset data).value := by
  simp only [RowSelector.subset, Logged.value_bind, h.find data]

theorem RowSelector.alike_train {s t : RowSelector Empty} (h : s.reset.value = t.reset.value)
    (data : Table) : (s.train data).value.2.Alike (t.train data).value.2 where
  find := (RowSelector.train_congr h data).find
  reset := by rw [s.reset_train, t.reset_train, h]

/-! ## Column finders -/

mutual

/-- Two column finders that differ at most in parts that no query reaches before the next training. -/
inductive ColumnFinder.Alike : ColumnFinder Empty → ColumnFinder Empty → Prop
  | refl (f : ColumnFinder Empty) : ColumnFinder.Alike f f
  | group {how : Combination} {ss ts : List (ColumnSelector Empty)}
      (h : ColumnSelector.AllAlike ss ts) : ColumnFinder.Alike (.group how ss) (.group how ts)
  /-- A pipeline that refuses all queries. -/
  | refusing {rows rows' : RowSelector Empty} {columns columns' : ColumnSelector Empty}
      {stage : Stage} (hstage : stage.isTrained = false)
      (hrows : rows.reset.value = rows'.reset.value)
      (hcolumns : columns.reset.value = columns'.reset.value) :
      ColumnFinder.Alike (.pipeline rows columns stage) (.pipeline rows' columns' stage)
  /-- A pipeline whose column finder will be trained before it is queried. -/
  | pending {rows rows' : RowSelector Empty} {columns columns' : ColumnSelector Empty}
      (hrows : rows.Alike rows') (hcolumns : columns.reset.value = columns'.reset.value) :
      ColumnFinder.Alike (.pipeline rows columns .columnPending)
        (.pipeline rows' columns' .columnPending)
  | ready {rows rows' : RowSelector Empty} {columns columns' : ColumnSelector Empty}
      (hrows : rows.Alike rows') (hcolumns : ColumnSelector.Alike columns columns') :
      ColumnFinder.Alike (.pipeline rows columns .ready) (.pipeline rows' columns' .ready)

/-- The finder of a plain selector is never trained, so it has to be the same. -/
inductive ColumnSelector.Alike : ColumnSelector Empty → ColumnSelector Empty → Prop
  | plain (f : ColumnFinder Empty) : ColumnSelector.Alike (.plain f) (.plain f)
  | trainable {f g : ColumnFinder Empty} (h : ColumnFinder.Alike f g) :
      ColumnSelector.Alike (.trainable f) (.trainable g)

/-- Selectors alike one by one, as far as a query of their group can get. -/
inductive ColumnSelector.AllAlike :
    List (ColumnSelector Empty) → List (ColumnSelector Empty) → Prop
  | nil : ColumnSelector.AllAlike [] []
  | cons {s t : ColumnSelector Empty} {ss ts : List (ColumnSelector Empty)}
      (h : ColumnSelector.Alike s t) (hrest : ColumnSelector.AllAlike ss ts) :
      ColumnSelector.AllAlike (s :: ss) (t :: ts)
  /-- Every query stops at an untrained selector. -/
  | stop {s t : ColumnSelector Empty} {ss ts : List (ColumnSelector Empty)}
      (h : ColumnSelector.Alike s t) (hs : s.isTrained = false) (ht : t.isTrained = false)
      (hrest : (ColumnSelector.resetAll ss).value = (ColumnSelector.resetAll ts).value) :
      ColumnSelector.AllAlike (s :: ss) (t :: ts)

end

theorem ColumnSelector.Alike.reset_of_finder {s t : ColumnSelector Empty}
    (ih : ∀ {g : ColumnFinder Empty}, s.finder.Alike g → s.finder.reset.value = g.reset.value)
    (h : s.Alike t) : s.reset.value = t.reset.value := by
  cases h with
  | plain => rfl
  | trainable h => exact congrArg ColumnSelector.trainable (ih h)

theorem ColumnSelector.AllAlike.reset {ss ts : List (ColumnSelector Empty)}
    (hss : ∀ s ∈ ss, ∀ {t : ColumnSelector Empty}, s.Alike t → s.reset.value = t.reset.value)
    (h : ColumnSelector.AllAlike ss ts) :
    ss.map (fun s => s.reset.value) = ts.map fun s => s.reset.value := by
  induction ss generalizing ts with
  | nil => cases h; rfl
  | cons s ss ih =>
    obtain ⟨hs, hss⟩ := List.forall_mem_cons.1 hss
    cases h with
    | cons h hrest => rw [List.map_cons, List.map_cons, hs h, ih hss hrest]
    | stop h _ _ hrest =>
      rw [value_resetAll, value_resetAll] at hrest
      rw [List.map_cons, List.map_cons, hs h, hrest]

theorem ColumnFinder.Alike.reset {f g : ColumnFinder Empty} (h : f.Alike g) :
    f.reset.value = g.reset.value := by
  induction f generalizing g with
  | group how finders ih => cases h with
    | refl => rfl
    | group h =>
      rw [value_reset_group, value_reset_group, ColumnSelector.value_resetAll,
        ColumnSelector.value_resetAll, h.reset fun s hs => (·.reset_of_finder (ih s hs))]
  | pipeline rows columns stage ih => cases h with
    | refl => rfl
    | refusing hstage hrows hcolumns =>
      rw [value_reset_pipeline, hrows, hcolumns, value_reset_pipeline]
    | pending hrows hcolumns =>
      rw [value_reset_pipeline, hrows.reset, hcolumns, value_reset_pipeline]
    | ready hrows hcolumns =>
      rw [value_reset_pipeline, hrows.reset, hcolumns.reset_of_finder (ih columns rfl),
        value_reset_pipeline]
  | _ => cases h; rfl

theorem ColumnSelector.Alike.reset {s t : ColumnSelector Empty} (h : s.Alike t) :
    s.reset.value = t.reset.value :=
  h.reset_of_finder ColumnFinder.Alike.reset

/-- Two outcomes of a request: the same reply, and column finders that are alike. -/
structure ColumnFinder.AlikeAfter {β : Type} (x y : β × ColumnFinder Empty) : Prop where
  reply : x.1 = y.1
  alike : x.2.Alike y.2

structure ColumnSelector.AlikeAfter {β : Type} (x y : β × ColumnSelector Empty) : Prop where
  reply : x.1 = y.1
  alike : x.2.Alike y.2

theorem ColumnSelector.train_congr_of_finder {s t : ColumnSelector Empty} {data : Table}
    (ih : ∀ {g : ColumnFinder Empty}, s.finder.reset.value = g.reset.value →
      ColumnFinder.AlikeAfter (s.finder.train data).value (g.train data).value)
    (h : s.reset.value = t.reset.value) : AlikeAfter (s.train data).value (t.train data).value := by
  cases s with
  | plain finder => cases t with
    | plain finder' => cases h; exact ⟨rfl, .plain _⟩
    | trainable finder' => nomatch h
  | trainable finder => cases t with
    | plain finder' => nomatch h
    | trainable finder' =>
      have hfinder := ih (trainable.inj h)
      exact ⟨hfinder.reply, .trainable hfinder.alike⟩

theorem ColumnSelector.trainAll_congr {ss ts : List (ColumnSelector Empty)} {data : Table}
    (hss : ∀ s ∈ ss, ∀ {t : ColumnSelector Empty}, s.reset.value = t.reset.value →
      AlikeAfter (s.train data).value (t.train data).value)
    (h : ss.map (fun s => s.reset.value) = ts.map fun s => s.reset.value) (number : Nat) :
    (trainAll ss number data).value.1 = (trainAll ts number data).value.1 ∧
      AllAlike (trainAll ss number data).value.2 (trainAll ts number data).value.2 := by
  induction ss generalizing ts number with
  | nil => cases ts with
    | nil => exact ⟨rfl, .nil⟩
    | cons t ts => nomatch h
  | cons s ss ih => cases ts with
    | nil => nomatch h
    | cons t ts =>
      obtain ⟨hst, hrest⟩ := List.cons.inj h
      obtain ⟨hs, hss⟩ := List.forall_mem_cons.1 hss
      obtain ⟨hresult, halike⟩ := hs hst
      have hbehind := ih hss hrest (number + 1)
      cases hstrain : (s.train data).value.1 with
      | error e =>
        -- the selectors behind keep their past, but every query stops at this one
        have httrain := hresult ▸ hstrain
        rw [← value_resetAll, ← value_resetAll] at hrest
        rw [trainAll_cons_of_error hstrain, trainAll_cons_of_error httrain]
        exact ⟨rfl, .stop halike (by rw [s.isTrained_train, hstrain]; rfl)
          (by rw [t.isTrained_train, httrain]; rfl) hrest⟩
      | ok _ =>
        rw [trainAll_cons_of_ok hstrain, trainAll_cons_of_ok (hresult ▸ hstrain)]
        exact ⟨hbehind.1, .cons halike hbehind.2⟩

/-- Finders with the same settings are trained with the same result, and are alike then. -/
theorem ColumnFinder.train_congr {f g : ColumnFinder Empty} (h : f.reset.value = g.reset.value)
    (data : Table) : AlikeAfter (f.train data).value (g.train data).value := by
  induction f generalizing g with
  | all => cases g with
    | all => exact ⟨rfl, .refl _⟩
    | _ => nomatch h
  | range columns => cases g with
    | range columns' => cases h; exact ⟨rfl, .refl _⟩
    | _ => nomatch h
  | variance filter trained => cases g with
    | variance filter' trained' => cases h; exact ⟨rfl, .refl _⟩
    | _ => nomatch h
  | group how finders ih => cases g with
    | group how' finders' =>
      obtain ⟨rfl, hall⟩ := group.inj h
      rw [ColumnSelector.value_resetAll, ColumnSelector.value_resetAll] at hall
      obtain ⟨hresult, halike⟩ := ColumnSelector.trainAll_congr
        (fun s hs => ColumnSelector.train_congr_of_finder (ih s hs)) hall 0
      exact ⟨hresult, .group halike⟩
    | _ => nomatch h
  | pipeline rows columns stage => cases g with
    | pipeline rows' columns' stage' =>
      obtain ⟨hrows, hcolumns, -⟩ := pipeline.inj h
      have hresult := (RowSelector.train_congr hrows data).reply
      have halike := RowSelector.alike_train hrows data
      cases ht : (rows.train data).value.1 with
      | error e =>
        rw [train_pipeline_of_error ht, train_pipeline_of_error (hresult ▸ ht)]
        exact ⟨rfl, .refusing rfl halike.reset hcolumns⟩
      | ok _ =>
        rw [train_pipeline_of_ok ht, train_pipeline_of_ok (hresult ▸ ht)]
        exact ⟨rfl, .pending halike hcolumns⟩
    | _ => nomatch h
  | custom finder => exact finder.elim

theorem ColumnSelector.train_congr {s t : ColumnSelector Empty}
    (h : s.reset.value = t.reset.value) (data : Table) :
    AlikeAfter (s.train data).value (t.train data).value :=
  train_congr_of_finder (ColumnFinder.train_congr · data) h

/-! ## Queries of column finders -/

theorem ColumnSelector.Alike.find_of_finder {s t : ColumnSelector Empty} {data : Table}
    (ih : ∀ {g : ColumnFinder Empty}, s.finder.Alike g →
      ColumnFinder.AlikeAfter (s.finder.find data).value (g.find data).value)
    (h : s.Alike t) : AlikeAfter (s.find data).value (t.find data).value := by
  cases h with
  | plain f =>
    rw [value_find_plain]
    exact ⟨rfl, .plain _⟩
  | trainable h =>
    have hfinder := ih h
    rw [value_find_trainable, value_find_trainable]
    exact ⟨hfinder.reply, .trainable hfinder.alike⟩

theorem ColumnSelector.AllAlike.find {ss ts : List (ColumnSelector Empty)} {data : Table}
    (hss : ∀ s ∈ ss, ∀ {t : ColumnSelector Empty}, s.Alike t →
      AlikeAfter (s.find data).value (t.find data).value)
    (h : AllAlike ss ts) : (findAll ss data).value.1 = (findAll ts data).value.1 ∧
      AllAlike (findAll ss data).value.2 (findAll ts data).value.2 := by
  induction ss generalizing ts with
  | nil =>
    cases h
    rw [value_findAll_nil]
    exact ⟨rfl, .nil⟩
  | cons s ss ih =>
    obtain ⟨hs, hss⟩ := List.forall_mem_cons.1 hss
    cases h with
    | @cons _ t _ ts h hrest =>
      obtain ⟨hfound, halike⟩ := hs h
      have hbehind := ih hss hrest
      cases hsfound : (s.find data).value.1 with
      | error e =>
        rw [findAll_cons_of_error hsfound, findAll_cons_of_error (hfound ▸ hsfound)]
        exact ⟨rfl, .cons halike hrest⟩
      | ok columns =>
        rw [findAll_cons_of_ok hsfound, findAll_cons_of_ok (hfound ▸ hsfound), hbehind.1]
        exact ⟨rfl, .cons halike hbehind.2⟩
    | @stop _ t _ ts h hsuntrained ht hrest =>
      obtain ⟨hfound, halike⟩ := hs h
      cases hsfound : (s.find data).value.1 with
      | error e =>
        rw [findAll_cons_of_error hsfound, findAll_cons_of_error (hfound ▸ hsfound)]
        exact ⟨rfl, .stop halike (s.isTrained_find_of_not_isTrained hsuntrained data)
          (t.isTrained_find_of_not_isTrained ht data) hrest⟩
      | ok columns =>
        rw [s.isTrained_of_find data hsfound] at hsuntrained
        cases hsuntrained

/-- Finders that are alike answer a query alike and stay alike. -/
theorem ColumnFinder.Alike.find {f g : ColumnFinder Empty} (h : f.Alike g) (data : Table) :
    AlikeAfter (f.find data).value (g.find data).value := by
  induction f generalizing g data with
  | group how finders ih => cases h with
    | refl => exact ⟨rfl, .refl _⟩
    | group h =>
      obtain ⟨hfound, halike⟩ := h.find fun s hs => (·.find_of_finder (ih s hs · data))
      rw [value_find_group, value_find_group, hfound]
      exact ⟨rfl, .group halike⟩
  | pipeline rows columns stage ih => cases h with
    | refl => exact ⟨rfl, .refl _⟩
    | refusing hstage hrows hcolumns =>
      rw [find_refused hstage, find_refused hstage]
      exact ⟨rfl, .refusing hstage hrows hcolumns⟩
    | @pending _ rows' _ columns' hrows hcolumns =>
      have hsubset := hrows.subset data
      cases hs : (rows.subset data).value with
      | error e =>
        rw [find_missed rfl hs, find_missed rfl (hsubset ▸ hs)]
        exact ⟨rfl, .pending hrows hcolumns⟩
      | ok subset =>
        obtain ⟨hresult, halike⟩ := ColumnSelector.train_congr hcolumns subset
        cases ht : (columns.train subset).value.1 with
        | error e =>
          rw [find_pending_of_error hs ht, find_pending_of_error (hsubset ▸ hs) (hresult ▸ ht)]
          exact ⟨rfl, .refusing rfl hrows.reset halike.reset⟩
        | ok _ =>
          have hfind := halike.find_of_finder (ih _ (columns.size_train subset) · subset)
          rw [find_pending_of_ok hs ht, find_pending_of_ok (hsubset ▸ hs) (hresult ▸ ht)]
          exact ⟨hfind.reply, .ready hrows hfind.alike⟩
    | @ready _ rows' _ columns' hrows hcolumns =>
      have hsubset := hrows.subset data
      cases hs : (rows.subset data).value with
      | error e =>
        rw [find_missed rfl hs, find_missed rfl (hsubset ▸ hs)]
        exact ⟨rfl, .ready hrows hcolumns⟩
      | ok subset =>
        have hfind := hcolumns.find_of_finder (ih columns rfl · subset)
        rw [find_ready hs, find_ready (hsubset ▸ hs)]
        exact ⟨hfind.reply, .ready hrows hfind.alike⟩
  | _ => cases h; exact ⟨rfl, .refl _⟩

theorem ColumnSelector.Alike.find {s t : ColumnSelector Empty} (h : s.Alike t) (data : Table) :
    AlikeAfter (s.find data).value (t.find data).value :=
  h.find_of_finder (ColumnFinder.Alike.find · data)

/-! ## Finders of either kind -/

namespace Finder

/-- Two finders that differ at most in parts that no query reaches before the next training. -/
inductive Alike : Finder Empty → Finder Empty → Prop
  | row {f g : RowFinder Empty} (hfind : ∀ data, (f.find data).value = (g.find data).value)
      (hreset : f.reset.value = g.reset.value) : Alike (row f) (row g)
  | column {f g : ColumnFinder Empty} (h : f.Alike g) : Alike (column f) (column g)
  | rowSelector {s t : RowSelector Empty} (h : s.Alike t) : Alike (rowSelector s) (rowSelector t)
  | columnSelector {s t : ColumnSelector Empty} (h : s.Alike t) :
      Alike (columnSelector s) (columnSelector t)

variable {f g : Finder Empty}

theorem Alike.reset (h : f.Alike g) : f.reset = g.reset := by
  cases h with
  | row hfind hreset => exact congrArg Finder.row hreset
  | column h => exact congrArg Finder.column h.reset
  | rowSelector h => exact congrArg Finder.rowSelector h.reset
  | columnSelector h => exact congrArg Finder.columnSelector h.reset

theorem Alike.refl (f : Finder Empty) : f.Alike f := by
  cases f with
  | row f => exact .row (fun _ => rfl) rfl
  | column f => exact .column (.refl f)
  | rowSelector s => exact .rowSelector ⟨fun _ => rfl, rfl⟩
  | columnSelector s => cases s with
    | plain f => exact .columnSelector (.plain f)
    | trainable f => exact .columnSelector (.trainable (.refl f))

theorem Alike.find (h : f.Alike g) (data : Table) :
    (f.find data).1 = (g.find data).1 ∧ (f.find data).2.Alike (g.find data).2 := by
  cases h with
  | row hfind hreset => exact ⟨hfind data, .row hfind hreset⟩
  | column h => exact ⟨(h.find data).reply, .column (h.find data).alike⟩
  | rowSelector h => exact ⟨h.find data, .rowSelector h⟩
  | columnSelector h => exact ⟨(h.find data).reply, .columnSelector (h.find data).alike⟩

/-- Finders with the same settings are trained with the same result, and are alike then. -/
theorem train_congr (h : f.reset = g.reset) (data : Table) :
    (f.train data).1 = (g.train data).1 ∧ (f.train data).2.Alike (g.train data).2 := by
  cases f with
  | row f => cases g with
    | row g =>
      have hreset := row.inj h
      obtain ⟨hresult, hfind⟩ := RowFinder.train_congr hreset data
      exact ⟨hresult, .row hfind (by rw [f.reset_train, g.reset_train, hreset])⟩
    | _ => nomatch h
  | column f => cases g with
    | column g =>
      obtain ⟨hresult, halike⟩ := ColumnFinder.train_congr (column.inj h) data
      exact ⟨hresult, .column halike⟩
    | _ => nomatch h
  | rowSelector s => cases g with
    | rowSelector t =>
      have hreset := rowSelector.inj h
      exact ⟨(RowSelector.train_congr hreset data).reply,
        .rowSelector (RowSelector.alike_train hreset data)⟩
    | _ => nomatch h
  | columnSelector s => cases g with
    | columnSelector t =>
      obtain ⟨hresult, halike⟩ := ColumnSelector.train_congr (columnSelector.inj h) data
      exact ⟨hresult, .columnSelector halike⟩
    | _ => nomatch h

/-! ## Runs -/

/-- Finders that are alike reply alike to every request and stay alike. -/
theorem Alike.respond (h : f.Alike g) (r : Request) :
    (f.respond r).1 = (g.respond r).1 ∧ (f.respond r).2.Alike (g.respond r).2 := by
  cases r with
  | train data =>
    obtain ⟨hresult, halike⟩ := train_congr h.reset data
    exact ⟨congrArg Reply.trained hresult, halike⟩
  | find data =>
    obtain ⟨hfound, halike⟩ := h.find data
    exact ⟨congrArg Reply.found hfound, halike⟩
  | reset =>
    refine ⟨rfl, ?_⟩
    show f.reset.Alike g.reset
    rw [h.reset]
    exact .refl _

theorem Alike.replies (h : f.Alike g) (requests : List Request) :
    f.replies requests = g.replies requests := by
  induction requests generalizing f g with
  | nil => rfl
  | cons r rest ih =>
    obtain ⟨hreply, halike⟩ := h.respond r
    rw [Finder.replies, Finder.replies, hreply, ih halike]

/-! ## Top theorem -/

/-- **Training forgets.** Two reachable finders with the same settings are trained with the same
result, whatever was done with them before, and all later requests get the same replies. Finders in
plain selectors were put there fresh: no training reaches them, so a pipeline that was trained before
would keep what its first query made of it. -/
theorem train_forgets (hf : f.Reachable IsFresh) (hg : g.Reachable IsFresh)
    (h : f.asBuilt = g.asBuilt) (data : Table) :
    (f.train data).1 = (g.train data).1 ∧
      ∀ later, (f.train data).2.replies later = (g.train data).2.replies later := by
  have hreset : f.reset = g.reset := by
    rw [reset_of_reachable hf, reset_of_reachable hg, h]
  obtain ⟨hresult, halike⟩ := train_congr hreset data
  exact ⟨hresult, halike.replies⟩

/-- A pipeline that a query has made ready, with columns learnt from one table, and a fresh one. -/
theorem train_forgets_second_cycle :
    let pipeline (trained : Option VarianceChoice) (stage : Stage) : Finder Empty :=
      column (.pipeline (.plain .all) (.trainable (.variance {} trained)) stage)
    let f := pipeline none .untrained
    ∃ first, Table.ofColumns [⟨"x", .integer true 64, [some 1, some 3]⟩] = .ok first ∧
      let g := f.after [.train first, .find first]
      g = pipeline (some ⟨1, [0]⟩) .ready ∧ f.asBuilt = g.asBuilt ∧
        ∀ data, (f.train data).1 = (g.train data).1 ∧
          ∀ later, (f.train data).2.replies later = (g.train data).2.replies later := by
  intro pipeline f
  obtain ⟨first, hfirst⟩ : ∃ first,
      Table.ofColumns [⟨"x", .integer true 64, [some 1, some 3]⟩] = .ok first := ⟨_, rfl⟩
  have hrows : ((.plain .all : RowSelector Empty).subset first).value = .ok first := by
    cases hfirst; rfl
  have hlearns : VarianceFilter.train {} first = .ok ⟨1, [0]⟩ := by
    cases hfirst; decide +kernel
  have htrain : ((ColumnSelector.trainable (.variance {} none)).train first).value =
      (.ok (), (.trainable (.variance {} (some ⟨1, [0]⟩)) : ColumnSelector Empty)) := by
    rw [ColumnSelector.value_train_trainable, ColumnFinder.train_variance_of_ok hlearns]
  have hafter : f.after [.train first, .find first] = pipeline (some ⟨1, [0]⟩) .ready := by
    show column ((ColumnFinder.pipeline _ (.trainable (.variance {} none)) .columnPending).find
      first).value.2 = _
    rw [ColumnFinder.value_find_pending hrows htrain, ColumnSelector.value_find_trainable,
      ColumnFinder.find_variance_of_some]
  have hsame : f.asBuilt = (f.after [.train first, .find first]).asBuilt := by
    rw [hafter]; rfl
  have hf : f.Reachable IsFresh := .fresh (show f.asBuilt = f from rfl)
  exact ⟨first, hfirst, hafter, hsame, train_forgets hf ((hf.respond _).respond _) hsame⟩

end Finder

end TableSelection
