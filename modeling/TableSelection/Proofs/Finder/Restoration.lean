import TableSelection.Proofs.Finder.Freshness

/-!
# Back to the start

A run of requests changes a fresh finder only where a reset restores it, so a reset at the end gives
back the finder that the run began with (`reset_restores`). No reset goes into a plain selector:

    (f.after requests).reset = f.reset                 (reset_after)
    f.reset.plainParts = f.plainParts                  (plainParts_reset)

Together they say that nothing in a plain selector changes in the run, whatever is queried.
-/

namespace TableSelection

variable {α : Type}

/-! ## Finders in plain selectors -/

mutual

/-- The finders in plain selectors at any depth, each with all its state, from left to right; one that
contains others stands before them. -/
def RowFinder.plainParts : RowFinder α → List (Finder α)
  | .all | .range _ | .numeric _ _ | .custom _ => []
  | .group _ finders => RowSelector.plainPartsAll finders

def RowSelector.plainParts : RowSelector α → List (Finder α)
  | .plain finder => .row finder :: finder.plainParts
  | .trainable finder => finder.plainParts

def RowSelector.plainPartsAll : List (RowSelector α) → List (Finder α)
  | [] => []
  | s :: rest => s.plainParts ++ RowSelector.plainPartsAll rest

end

mutual

/-- The finders in plain selectors at any depth, among them those of the row finders of pipelines. -/
def ColumnFinder.plainParts : ColumnFinder α → List (Finder α)
  | .all | .range _ | .variance _ _ | .custom _ => []
  | .group _ finders => ColumnSelector.plainPartsAll finders
  | .pipeline rows columns _ => rows.plainParts ++ columns.plainParts

def ColumnSelector.plainParts : ColumnSelector α → List (Finder α)
  | .plain finder => .column finder :: finder.plainParts
  | .trainable finder => finder.plainParts

def ColumnSelector.plainPartsAll : List (ColumnSelector α) → List (Finder α)
  | [] => []
  | s :: rest => s.plainParts ++ ColumnSelector.plainPartsAll rest

end

def Finder.plainParts : Finder α → List (Finder α)
  | row f => f.plainParts
  | column f => f.plainParts
  | rowSelector s => s.plainParts
  | columnSelector s => s.plainParts

theorem RowSelector.plainPartsAll_eq_flatMap (ss : List (RowSelector α)) :
    plainPartsAll ss = ss.flatMap plainParts := by
  induction ss with
  | nil => rfl
  | cons s ss ih => rw [plainPartsAll, ih, List.flatMap_cons]

theorem ColumnSelector.plainPartsAll_eq_flatMap (ss : List (ColumnSelector α)) :
    plainPartsAll ss = ss.flatMap plainParts := by
  induction ss with
  | nil => rfl
  | cons s ss ih => rw [plainPartsAll, ih, List.flatMap_cons]

/-! ## Resets -/

theorem RowSelector.plainParts_reset_of_finder {s : RowSelector Empty}
    (h : s.finder.reset.value.plainParts = s.finder.plainParts) :
    s.reset.value.plainParts = s.plainParts := by
  cases s with
  | plain finder => rfl
  | trainable finder => exact h

/-- A reset does not go into plain selectors. -/
theorem RowFinder.plainParts_reset (f : RowFinder Empty) :
    f.reset.value.plainParts = f.plainParts := by
  induction f with
  | group how finders ih =>
    rw [value_reset_group, plainParts, plainParts, RowSelector.plainPartsAll_eq_flatMap,
      RowSelector.plainPartsAll_eq_flatMap, RowSelector.value_resetAll, List.flatMap_map]
    exact List.flatMap_congr fun s hs => RowSelector.plainParts_reset_of_finder (ih s hs)
  | custom finder => exact finder.elim
  | _ => rfl

theorem RowSelector.plainParts_reset (s : RowSelector Empty) :
    s.reset.value.plainParts = s.plainParts :=
  plainParts_reset_of_finder s.finder.plainParts_reset

theorem ColumnSelector.plainParts_reset_of_finder {s : ColumnSelector Empty}
    (h : s.finder.reset.value.plainParts = s.finder.plainParts) :
    s.reset.value.plainParts = s.plainParts := by
  cases s with
  | plain finder => rfl
  | trainable finder => exact h

theorem ColumnFinder.plainParts_reset (f : ColumnFinder Empty) :
    f.reset.value.plainParts = f.plainParts := by
  induction f with
  | group how finders ih =>
    rw [value_reset_group, plainParts, plainParts, ColumnSelector.plainPartsAll_eq_flatMap,
      ColumnSelector.plainPartsAll_eq_flatMap, ColumnSelector.value_resetAll, List.flatMap_map]
    exact List.flatMap_congr fun s hs => ColumnSelector.plainParts_reset_of_finder (ih s hs)
  | pipeline rows columns stage ih =>
    rw [value_reset_pipeline, plainParts, plainParts, rows.plainParts_reset,
      ColumnSelector.plainParts_reset_of_finder (ih columns rfl)]
  | custom finder => exact finder.elim
  | _ => rfl

theorem ColumnSelector.plainParts_reset (s : ColumnSelector Empty) :
    s.reset.value.plainParts = s.plainParts :=
  plainParts_reset_of_finder s.finder.plainParts_reset

namespace Finder

variable {f g : Finder Empty}

theorem plainParts_reset (f : Finder Empty) : f.reset.plainParts = f.plainParts := by
  cases f with
  | row f => exact f.plainParts_reset
  | column f => exact f.plainParts_reset
  | rowSelector s => exact s.plainParts_reset
  | columnSelector s => exact s.plainParts_reset

theorem plainParts_of_reset_eq (h : f.reset = g.reset) : f.plainParts = g.plainParts := by
  rw [← plainParts_reset f, h, plainParts_reset]

/-! ## Runs -/

theorem IsFresh.reset_eq (h : f.IsFresh) : f.reset = f := by
  have hreset := reset_asBuilt f
  rwa [h] at hreset

/-- A run changes only what a reset restores, as long as nothing in a plain selector was trained. -/
theorem reset_after (h : f.reset = f.asBuilt) (requests : List Request) :
    (f.after requests).reset = f.reset := by
  induction requests generalizing f with
  | nil => rfl
  | cons r rest ih =>
    have hfirst := reset_respond h r
    have hnext : (f.respond r).2.reset = (f.respond r).2.asBuilt := by
      rw [hfirst, h, asBuilt_of_reset_eq hfirst]
    exact (ih hnext).trans hfirst

/-! ## Top theorem -/

/-- **A reset restores the initial state.** After every run of trainings, queries and resets on a fresh
finder, whether they succeed or fail, a reset gives back that very finder, and at no time in the run is
a finder in a plain selector, at any depth, in another state than at the start. -/
theorem reset_restores (f : Finder Empty) (h : f.IsFresh) (requests : List Request) :
    (f.after requests).reset = f ∧
      ∀ started, started <+: requests → (f.after started).plainParts = f.plainParts := by
  have hreset (run : List Request) : (f.after run).reset = f.reset :=
    reset_after (h.reset_eq.trans h.symm) run
  exact ⟨(hreset requests).trans h.reset_eq, fun started _ => plainParts_of_reset_eq (hreset started)⟩

/-- The inner pipeline stands in a plain and in a trainable selector. -/
theorem reset_restores_pipelines :
    let inner : ColumnFinder Empty :=
      .pipeline (.trainable (.numeric {} none)) (.trainable (.variance {} none)) .untrained
    let f : Finder Empty := column (.pipeline (.trainable (.group .union [.plain .all]))
      (.trainable (.group .intersection [.trainable inner, .plain inner])) .untrained)
    f.IsFresh ∧ f.plainParts = [row .all, column inner] ∧
      ∃ data, Table.ofColumns [⟨"x", .float64, [some 1.0, some 3.0]⟩] = .ok data ∧
        (f.after [.train data]).isTrained = true ∧
        let requests : List Request := [.train data, .find data, .find (.withoutColumns 2)]
        (f.after requests).reset = f ∧
          ∀ started, started <+: requests → (f.after started).plainParts = f.plainParts := by
  intro inner f
  have hfresh : f.asBuilt = f := rfl
  obtain ⟨data, hdata⟩ : ∃ data,
      Table.ofColumns [⟨"x", .float64, [some 1.0, some 3.0]⟩] = .ok data := ⟨_, rfl⟩
  exact ⟨hfresh, rfl, data, hdata, rfl, reset_restores f hfresh _⟩

end Finder

end TableSelection
