import Mathlib.Data.List.Basic
import TableSelection.Proofs.Finder.Cycle

/-!
# The first failure of a training

Training goes through a tree of groups from left to right and stops at the first finder that fails. The
error that comes out wraps the one of that finder once for each group around it, with the number of the
selector in the group. `TrainError.path` and `TrainError.cause` take these layers apart again:

    (f.train data).1 = .error e  →  FailsAlong data e.path e.cause f (f.train data).2
    (f.train data).1 = .ok ()    ↔  the training of every leaf succeeds

`FailsAlong` says what is left behind at each group on the path: the selectors before the one that
failed are trained, those behind it are as they were, and the group is not trained. The leaves of a tree
are the selectors in it that hold no group to be trained. To count their trainings they are watched, as
the parts of a pipeline are.
-/

namespace TableSelection

/-! ## Errors -/

namespace TrainError

/-- The numbers of the selectors on the way to the finder that failed, the outermost first. -/
def path : TrainError → List Nat
  | .child index source => index :: source.path
  | _ => []

/-- The error of the finder that failed, without the groups around it. -/
def cause : TrainError → TrainError
  | .child _ source => source.cause
  | e => e

theorem foldr_path (e : TrainError) : e.path.foldr .child e.cause = e := by
  induction e with
  | child index source ih => exact congrArg (child index) ih
  | _ => rfl

end TrainError

variable {α : Type}

/-! ## Trees of groups -/

def RowFinder.isGroup : RowFinder α → Bool
  | .group _ _ => true
  | .all | .range _ | .numeric _ _ | .custom _ => false

/-- Induction on the groups that training reaches. -/
@[elab_as_elim]
theorem RowFinder.groupInduction {motive : RowFinder α → Prop}
    (single : ∀ f, f.isGroup = false → motive f)
    (group : ∀ how finders, (∀ f, .trainable f ∈ finders → motive f) → motive (.group how finders))
    (f : RowFinder α) : motive f := by
  induction f with
  | group how finders ih => exact group how finders fun f hf => ih (.trainable f) hf
  | _ => exact single _ rfl

mutual

/-- The selectors in a tree of groups that hold no group to be trained, from left to right, each with
its path from the root. -/
def RowFinder.leaves : RowFinder α → List (List Nat × RowSelector α)
  | .group _ finders => RowSelector.leavesAll finders 0
  | other => [([], .trainable other)]

/-- The leaves of a selector, which may be its only one. -/
def RowSelector.leaves : RowSelector α → List (List Nat × RowSelector α)
  | .plain finder => [([], .plain finder)]
  | .trainable finder => finder.leaves

/-- The leaves of several selectors; the first of them has the given number in its group. -/
def RowSelector.leavesAll : List (RowSelector α) → (number : Nat) →
    List (List Nat × RowSelector α)
  | [], _ => []
  | s :: rest, number =>
      s.leaves.map (Prod.map (number :: ·) id) ++ RowSelector.leavesAll rest (number + 1)

end

mutual

/-- The tree of groups with watched leaves. -/
def RowFinder.watchedLeaves : RowFinder α → RowFinder (Part α)
  | .group how finders => .group how (RowSelector.watchedLeavesAll finders)
  | other => .custom (.rows (.trainable other))

/-- The selector with watched leaves, which is watched itself if it is one. -/
def RowSelector.watchedLeaves : RowSelector α → RowSelector (Part α)
  | .plain finder => (RowSelector.plain finder).watched
  | .trainable finder => .trainable finder.watchedLeaves

def RowSelector.watchedLeavesAll : List (RowSelector α) → List (RowSelector (Part α))
  | [] => []
  | s :: rest => s.watchedLeaves :: RowSelector.watchedLeavesAll rest

end

namespace RowFinder

variable {f : RowFinder α}

theorem leaves_of_single (h : f.isGroup = false) : f.leaves = [([], .trainable f)] := by
  cases f with
  | group how finders => cases h
  | _ => rfl

theorem watchedLeaves_of_single (h : f.isGroup = false) :
    f.watchedLeaves = .custom (.rows (.trainable f)) := by
  cases f with
  | group how finders => cases h
  | _ => rfl

end RowFinder

namespace RowSelector

theorem leavesAll_append (left right : List (RowSelector α)) (number : Nat) :
    leavesAll (left ++ right) number =
      leavesAll left number ++ leavesAll right (number + left.length) := by
  induction left generalizing number with
  | nil => rfl
  | cons s left ih =>
    rw [List.cons_append, leavesAll, leavesAll, ih, List.append_assoc, List.length_cons,
      Nat.add_right_comm, Nat.add_assoc]

/-- The leaves on both sides of a selector and its own. -/
theorem leavesAll_append_cons (left : List (RowSelector α)) (s : RowSelector α)
    (right : List (RowSelector α)) : leavesAll (left ++ s :: right) 0 =
      leavesAll left 0 ++ (s.leaves.map (Prod.map (left.length :: ·) id) ++
        leavesAll right (left.length + 1)) := by
  rw [leavesAll_append, leavesAll, Nat.zero_add]

theorem forall_mem_leavesAll {p : RowSelector α → Prop} {ss : List (RowSelector α)} (number : Nat) :
    (∀ leaf ∈ leavesAll ss number, p leaf.2) ↔ ∀ s ∈ ss, ∀ leaf ∈ s.leaves, p leaf.2 := by
  induction ss generalizing number with
  | nil => simp [leavesAll]
  | cons s ss ih =>
    rw [leavesAll, List.forall_mem_append, ih, List.forall_mem_cons, List.forall_mem_map]
    rfl

theorem map_leavesAll {β : Type} (g : RowSelector α → β) (ss : List (RowSelector α)) (number : Nat) :
    (leavesAll ss number).map (fun leaf => g leaf.2) =
      ss.flatMap fun s => s.leaves.map fun leaf => g leaf.2 := by
  induction ss generalizing number with
  | nil => rfl
  | cons s ss ih =>
    rw [leavesAll, List.map_append, ih, List.map_map, List.flatMap_cons]
    rfl

theorem leavesAll_map {g : RowSelector α → RowSelector α} {ss : List (RowSelector α)}
    (h : ∀ s ∈ ss, (g s).leaves = s.leaves.map (Prod.map id g)) (number : Nat) :
    leavesAll (ss.map g) number = (leavesAll ss number).map (Prod.map id g) := by
  induction ss generalizing number with
  | nil => rfl
  | cons s ss ih =>
    obtain ⟨hs, hss⟩ := List.forall_mem_cons.1 h
    rw [List.map_cons, leavesAll, leavesAll, hs, ih hss, List.map_append, List.map_map,
      List.map_map]
    rfl

theorem watchedLeavesAll_eq_map (ss : List (RowSelector α)) :
    watchedLeavesAll ss = ss.map watchedLeaves := by
  induction ss with
  | nil => rfl
  | cons s ss ih => rw [watchedLeavesAll, ih, List.map_cons]

end RowSelector

variable [CustomFinder α] {data : Table}

/-! ## One group -/

namespace RowSelector

variable {s : RowSelector α} {ss left : List (RowSelector α)} {e : TrainError}

theorem calls_trainAll_cons_of_ok {number : Nat} (h : (s.train data).value.1 = .ok ()) :
    (trainAll (s :: ss) number data).calls =
      (s.train data).calls ++ (trainAll ss (number + 1) data).calls := by
  rcases hs : (s.train data).value with ⟨result, s'⟩
  rw [hs] at h
  subst h
  simp only [trainAll, Logged.calls_bind, hs, Logged.calls_pure, List.append_nil]

theorem calls_trainAll_cons_of_error {number : Nat} (h : (s.train data).value.1 = .error e) :
    (trainAll (s :: ss) number data).calls = (s.train data).calls := by
  rcases hs : (s.train data).value with ⟨result, s'⟩
  rw [hs] at h
  subst h
  simp only [trainAll, Logged.calls_bind, hs, Logged.calls_pure, List.append_nil]

/-- Selectors that can all be trained are trained once each. -/
theorem trainAll_of_ok (h : ∀ s ∈ ss, (s.train data).value.1 = .ok ()) (number : Nat) :
    (trainAll ss number data).value = (.ok (), ss.map fun s => (s.train data).value.2) ∧
      (trainAll ss number data).calls = ss.flatMap fun s => (s.train data).calls := by
  induction ss generalizing number with
  | nil => exact ⟨rfl, rfl⟩
  | cons s ss ih =>
    obtain ⟨hs, hss⟩ := List.forall_mem_cons.1 h
    obtain ⟨hvalue, hcalls⟩ := ih hss (number + 1)
    rw [trainAll_cons_of_ok hs, calls_trainAll_cons_of_ok hs, hvalue, hcalls]
    exact ⟨rfl, rfl⟩

/-- Training stops at the first selector that fails, and the error has its number. -/
theorem trainAll_of_error (hleft : ∀ s ∈ left, (s.train data).value.1 = .ok ())
    (hs : (s.train data).value.1 = .error e) (right : List (RowSelector α)) (number : Nat) :
    (trainAll (left ++ s :: right) number data).value = (.error (.child (number + left.length) e),
        left.map (fun s => (s.train data).value.2) ++ (s.train data).value.2 :: right) ∧
      (trainAll (left ++ s :: right) number data).calls =
        (left.flatMap fun s => (s.train data).calls) ++ (s.train data).calls := by
  induction left generalizing number with
  | nil =>
    rw [List.nil_append, trainAll_cons_of_error hs, calls_trainAll_cons_of_error hs]
    exact ⟨rfl, rfl⟩
  | cons first left ih =>
    obtain ⟨hfirst, hrest⟩ := List.forall_mem_cons.1 hleft
    obtain ⟨hvalue, hcalls⟩ := ih hrest (number + 1)
    rw [List.cons_append, trainAll_cons_of_ok hfirst, calls_trainAll_cons_of_ok hfirst, hvalue,
      hcalls, List.length_cons, Nat.add_right_comm number 1, Nat.add_assoc, List.flatMap_cons,
      List.append_assoc]
    exact ⟨rfl, rfl⟩

/-- Either all selectors can be trained, or one of them is the first that cannot. -/
theorem trains_or_fails_first (ss : List (RowSelector α)) (data : Table) :
    (∀ s ∈ ss, (s.train data).value.1 = .ok ()) ∨
      ∃ left s right e, ss = left ++ s :: right ∧ (∀ s ∈ left, (s.train data).value.1 = .ok ()) ∧
        (s.train data).value.1 = .error e := by
  induction ss with
  | nil => exact .inl nofun
  | cons s ss ih =>
    cases hs : (s.train data).value.1 with
    | error e => exact .inr ⟨[], s, ss, e, rfl, nofun, hs⟩
    | ok _ =>
      rcases ih with hall | ⟨left, t, right, e, rfl, hleft, ht⟩
      · exact .inl (List.forall_mem_cons.2 ⟨hs, hall⟩)
      · exact .inr ⟨s :: left, t, right, e, rfl, List.forall_mem_cons.2 ⟨hs, hleft⟩, ht⟩

end RowSelector

/-- Watched selectors are trained as the selectors are, if each of them is. -/
theorem RowSelector.value_trainAll_watchedLeavesAll {ss : List (RowSelector α)}
    (h : ∀ s ∈ ss, (s.watchedLeaves.train data).value =
      Prod.map id watchedLeaves (s.train data).value) (number : Nat) :
    (trainAll (watchedLeavesAll ss) number data).value =
      Prod.map id watchedLeavesAll (trainAll ss number data).value := by
  induction ss generalizing number with
  | nil => rfl
  | cons s ss ih =>
    obtain ⟨hs, hss⟩ := List.forall_mem_cons.1 h
    have hresult : (s.watchedLeaves.train data).value.1 = (s.train data).value.1 := by
      rw [hs]
      rfl
    cases ht : (s.train data).value.1 with
    | error e =>
      rw [watchedLeavesAll, trainAll_cons_of_error (hresult.trans ht), trainAll_cons_of_error ht, hs]
      rfl
    | ok _ =>
      rw [watchedLeavesAll, trainAll_cons_of_ok (hresult.trans ht), trainAll_cons_of_ok ht, hs,
        ih hss]
      rfl

/-! ## Trees -/

namespace RowFinder

variable {f : RowFinder α}

theorem isGroup_train : (f.train data).value.2.isGroup = f.isGroup := by
  cases f with
  | numeric filter trained =>
    unfold train
    cases filter.train data <;> rfl
  | _ => rfl

theorem calls_train_group {how : Combination} {finders : List (RowSelector α)} :
    ((group how finders).train data).calls = (RowSelector.trainAll finders 0 data).calls := by
  simp only [train, Logged.calls_bind, Logged.calls_pure, List.append_nil]

/-- To watch the leaves changes nothing in what a training does. -/
theorem value_train_watchedLeaves : (f.watchedLeaves.train data).value =
    Prod.map id watchedLeaves (f.train data).value := by
  induction f using groupInduction with
  | single f hsingle =>
    rw [watchedLeaves_of_single hsingle, Prod.map,
      watchedLeaves_of_single (isGroup_train.trans hsingle)]
    rfl
  | group how finders ih =>
    refine congrArg (Prod.map id (group how))
      (RowSelector.value_trainAll_watchedLeavesAll (fun s hs => ?_) 0)
    cases s with
    | plain finder => rfl
    | trainable finder => exact congrArg (Prod.map id RowSelector.trainable) (ih finder hs)

/-- A training succeeds if those of all leaves do. -/
theorem train_eq_ok_iff : (f.train data).value.1 = .ok () ↔
    ∀ leaf ∈ f.leaves, (leaf.2.train data).value.1 = .ok () := by
  induction f using groupInduction with
  | single f hsingle =>
    rw [leaves_of_single hsingle, List.forall_mem_singleton]
    rfl
  | group how finders ih =>
    show (RowSelector.trainAll finders 0 data).value.1 = .ok () ↔ _
    rw [RowSelector.trainAll_eq_ok_iff, leaves,
      RowSelector.forall_mem_leavesAll (p := fun s => (s.train data).value.1 = .ok ()) 0]
    refine forall₂_congr fun s hs => ?_
    cases s with
    | plain finder => simp [RowSelector.leaves, RowSelector.train]
    | trainable finder => exact ih finder hs

/-- After a training that succeeds, every leaf is as its own training leaves it. -/
theorem leaves_train (h : (f.train data).value.1 = .ok ()) :
    (f.train data).value.2.leaves = f.leaves.map (Prod.map id fun s => (s.train data).value.2) := by
  induction f using groupInduction with
  | single f hsingle =>
    rw [leaves_of_single (isGroup_train.trans hsingle), leaves_of_single hsingle]
    rfl
  | group how finders ih =>
    have hall := RowSelector.trainAll_eq_ok_iff.1 h
    show (group how (RowSelector.trainAll finders 0 data).value.2).leaves = _
    rw [(RowSelector.trainAll_of_ok hall 0).1, leaves, leaves]
    refine RowSelector.leavesAll_map (fun s hs => ?_) 0
    cases s with
    | plain finder => rfl
    | trainable finder => exact ih finder hs (hall _ hs)

end RowFinder

namespace RowSelector

variable {s : RowSelector α} {ss : List (RowSelector α)}

theorem calls_train_trainable {f : RowFinder α} :
    ((trainable f).train data).calls = (f.train data).calls := by
  simp only [train, Logged.calls_bind, Logged.calls_pure, List.append_nil]

theorem value_train_watchedLeaves : (s.watchedLeaves.train data).value =
    Prod.map id watchedLeaves (s.train data).value := by
  cases s with
  | plain finder => rfl
  | trainable finder =>
    exact congrArg (Prod.map id trainable) (RowFinder.value_train_watchedLeaves (f := finder))

/-- A training succeeds if those of all leaves do. -/
theorem train_eq_ok_iff : (s.train data).value.1 = .ok () ↔
    ∀ leaf ∈ s.leaves, (leaf.2.train data).value.1 = .ok () := by
  cases s with
  | plain finder => simp [leaves, train]
  | trainable finder => exact RowFinder.train_eq_ok_iff

theorem train_watchedLeaves_of_ok (h : ∀ s ∈ ss, (s.train data).value.1 = .ok ()) :
    ∀ s ∈ ss.map watchedLeaves, (s.train data).value.1 = .ok () := by
  intro s hs
  obtain ⟨t, ht, rfl⟩ := List.mem_map.1 hs
  rw [value_train_watchedLeaves]
  exact h t ht

theorem flatMap_calls_watchedLeaves (h : ∀ s ∈ ss, (s.watchedLeaves.train data).calls =
    s.leaves.map fun leaf => .train (.rows leaf.2) data) (number : Nat) :
    ((ss.map watchedLeaves).flatMap fun s => (s.train data).calls) =
      (leavesAll ss number).map fun leaf => .train (.rows leaf.2) data := by
  rw [map_leavesAll (fun s => Call.train (Part.rows s) data), List.flatMap_map]
  exact List.flatMap_congr h

end RowSelector

/-- A training that succeeds trains every leaf once. -/
theorem RowFinder.calls_train_watchedLeaves {f : RowFinder α} (h : (f.train data).value.1 = .ok ()) :
    (f.watchedLeaves.train data).calls = f.leaves.map fun leaf => .train (.rows leaf.2) data := by
  induction f using groupInduction with
  | single f hsingle =>
    rw [watchedLeaves_of_single hsingle, leaves_of_single hsingle]
    rfl
  | group how finders ih =>
    have hall := RowSelector.trainAll_eq_ok_iff.1 h
    have hwatched := RowSelector.train_watchedLeaves_of_ok hall
    rw [watchedLeaves, calls_train_group, RowSelector.watchedLeavesAll_eq_map,
      (RowSelector.trainAll_of_ok hwatched 0).2, leaves]
    refine RowSelector.flatMap_calls_watchedLeaves (fun s hs => ?_) 0
    cases s with
    | plain finder => rfl
    | trainable finder =>
      rw [RowSelector.watchedLeaves, RowSelector.calls_train_trainable]
      exact ih finder hs (hall _ hs)

theorem RowSelector.calls_train_watchedLeaves {s : RowSelector α}
    (h : (s.train data).value.1 = .ok ()) :
    (s.watchedLeaves.train data).calls = s.leaves.map fun leaf => .train (.rows leaf.2) data := by
  cases s with
  | plain finder => rfl
  | trainable finder =>
    rw [watchedLeaves, calls_train_trainable]
    exact RowFinder.calls_train_watchedLeaves h

/-! ## Failure -/

namespace RowFinder

/-- A finder before and after a training that fails at the end of a path. In each group on the way the
selectors to the left are trained, those to the right are left as they are, and the group is not
trained. -/
inductive FailsAlong (data : Table) :
    List Nat → TrainError → RowFinder α → RowFinder α → Prop
  | here {f f' : RowFinder α} {e : TrainError} (single : f.isGroup = false)
      (fails : (f.train data).value = (.error e, f')) : FailsAlong data [] e f f'
  | within {how : Combination} {left right : List (RowSelector α)} {f f' : RowFinder α}
      {path : List Nat} {e : TrainError} (trained : ∀ s ∈ left, (s.train data).value.1 = .ok ())
      (fails : FailsAlong data path e f f')
      (untrained : (group how (left.map (fun s => (s.train data).value.2) ++
        .trainable f' :: right)).isTrained = false) :
      FailsAlong data (left.length :: path) e (group how (left ++ .trainable f :: right))
        (group how (left.map (fun s => (s.train data).value.2) ++ .trainable f' :: right))

namespace FailsAlong

variable {f f' : RowFinder α} {path : List Nat} {e : TrainError}

theorem train_eq_error (h : FailsAlong data path e f f') :
    ∃ e', (f.train data).value.1 = .error e' := by
  induction h with
  | here _ fails => exact ⟨_, congrArg Prod.fst fails⟩
  | @within how left right f f' path e trained _ _ ih =>
    obtain ⟨e', he'⟩ := ih
    have hs : ((RowSelector.trainable f).train data).value.1 = .error e' := he'
    exact ⟨_, congrArg Prod.fst (RowSelector.trainAll_of_error trained hs right 0).1⟩

/-- The trainings of leaves in a group that fails: all those to the left, and some of the selector that
fails. -/
theorem calls_train_watchedLeaves {how : Combination} {left : List (RowSelector α)}
    (trained : ∀ s ∈ left, (s.train data).value.1 = .ok ()) (fails : FailsAlong data path e f f')
    (right : List (RowSelector α)) :
    ((group how (left ++ .trainable f :: right)).watchedLeaves.train data).calls =
      (RowSelector.leavesAll left 0).map (fun leaf => .train (.rows leaf.2) data) ++
        (f.watchedLeaves.train data).calls := by
  obtain ⟨e', he'⟩ := fails.train_eq_error
  have hleft := RowSelector.flatMap_calls_watchedLeaves
    (fun s hs => RowSelector.calls_train_watchedLeaves (trained s hs)) 0
  have hwatched := RowSelector.train_watchedLeaves_of_ok trained
  have hs : ((RowSelector.trainable f).watchedLeaves.train data).value.1 = .error e' := by
    rw [RowSelector.value_train_watchedLeaves]
    exact he'
  rw [watchedLeaves, calls_train_group, RowSelector.watchedLeavesAll_eq_map, List.map_append,
    List.map_cons, (RowSelector.trainAll_of_error hwatched hs _ 0).2, hleft,
    RowSelector.watchedLeaves, RowSelector.calls_train_trainable]

/-- The finder that fails is the first leaf that does, and no leaf behind it is trained. -/
theorem exists_leaf (h : FailsAlong data path e f f') :
    ∃ before s after, f.leaves = before ++ (path, s) :: after ∧
      (∀ leaf ∈ before, (leaf.2.train data).value.1 = .ok ()) ∧
      (s.train data).value.1 = .error e ∧
      (f.watchedLeaves.train data).calls =
        (before ++ [(path, s)]).map fun leaf => .train (.rows leaf.2) data := by
  induction h with
  | @here f f' e single fails =>
    refine ⟨[], .trainable f, [], leaves_of_single single, nofun, congrArg Prod.fst fails, ?_⟩
    rw [watchedLeaves_of_single single]
    rfl
  | @within how left right f f' path e trained fails _ ih =>
    obtain ⟨before, s, after, hleaves, hbefore, hs, hcalls⟩ := ih
    -- the leaves of `f`, with one number more in front of their paths, stand between the others
    have hsplit : (group how (left ++ .trainable f :: right)).leaves =
        (RowSelector.leavesAll left 0 ++ before.map (Prod.map (left.length :: ·) id)) ++
          (left.length :: path, s) :: (after.map (Prod.map (left.length :: ·) id) ++
            RowSelector.leavesAll right (left.length + 1)) := by
      rw [leaves, RowSelector.leavesAll_append_cons, RowSelector.leaves, hleaves]
      simp
    have hleft := (RowSelector.forall_mem_leavesAll
      (p := fun s => (s.train data).value.1 = .ok ()) 0).2
        fun s hs => RowSelector.train_eq_ok_iff.1 (trained s hs)
    refine ⟨_, s, _, hsplit, List.forall_mem_append.2 ⟨hleft, List.forall_mem_map.2 hbefore⟩, hs, ?_⟩
    rw [calls_train_watchedLeaves trained fails right, hcalls]
    simp

end FailsAlong

end RowFinder

/-! ## Built-in finders -/

/-- A numeric filter fails with an error of its own. -/
theorem NumericFilter.path_of_train {filter : NumericFilter} {e : TrainError}
    (h : filter.train data = .error e) : e.path = [] ∧ e.cause = e := by
  unfold train at h
  split at h
  · cases h; exact ⟨rfl, rfl⟩
  · cases h; exact ⟨rfl, rfl⟩
  · cases h; exact ⟨rfl, rfl⟩
  · split at h
    · cases h
    · cases h; exact ⟨rfl, rfl⟩
  · cases h; exact ⟨rfl, rfl⟩

namespace RowFinder

variable {f : RowFinder Empty} {e : TrainError}

theorem path_of_train (hsingle : f.isGroup = false) (h : (f.train data).value.1 = .error e) :
    e.path = [] ∧ e.cause = e := by
  cases f with
  | all => cases h
  | range rows => cases h
  | numeric filter trained =>
    unfold train at h
    cases ht : filter.train data with
    | error e' =>
      rw [ht] at h
      cases h
      exact filter.path_of_train ht
    | ok column => rw [ht] at h; cases h
  | group how finders => cases hsingle
  | custom finder => exact finder.elim

/-- A training that fails leaves the finder in this state, and its error says along which path. -/
theorem failsAlong_of_train (h : (f.train data).value.1 = .error e) :
    FailsAlong data e.path e.cause f (f.train data).value.2 := by
  induction f using groupInduction generalizing e with
  | single f hsingle =>
    obtain ⟨hpath, hcause⟩ := path_of_train hsingle h
    rw [hpath, hcause]
    exact .here hsingle (Prod.ext h rfl)
  | group how finders ih =>
    have huntrained := isTrained_train (group how finders) data
    rw [h] at huntrained
    rcases RowSelector.trains_or_fails_first finders data with hall |
      ⟨left, s, right, e', rfl, hleft, hs⟩
    · have hok : (RowSelector.trainAll finders 0 data).value.1 = .ok () :=
        RowSelector.trainAll_eq_ok_iff.2 hall
      cases hok.symm.trans h
    · cases s with
      | plain finder => cases hs
      | trainable finder =>
        obtain ⟨hvalue, -⟩ := RowSelector.trainAll_of_error hleft hs right 0
        have he : .child (0 + left.length) e' = e :=
          Except.error.inj ((congrArg Prod.fst hvalue).symm.trans h)
        have hafter : ((group how (left ++ .trainable finder :: right)).train data).value.2 =
            group how (left.map (fun s => (s.train data).value.2) ++
              .trainable (finder.train data).value.2 :: right) :=
          congrArg (group how ∘ Prod.snd) hvalue
        rw [Nat.zero_add] at he
        subst he
        rw [hafter] at huntrained ⊢
        exact .within hleft (ih finder (by simp) hs) huntrained

/-! ## Top theorem -/

/-- **The error of a failed training is exact.** Taken out of its layers, it is the error of the first
leaf, from left to right, whose own training fails, and the layers are the path to that leaf; at each
group on the path the selectors to the left are trained, those to the right are unchanged and the group
is not trained. If no leaf fails, the training succeeds and leaves every leaf as its own training does.
As far as the training goes, every leaf is trained exactly once, which shows if the leaves are
watched. -/
theorem training_stops_at_first_failure (f : RowFinder Empty) (data : Table) :
    (∀ e, (f.train data).value.1 = .error e →
      e = e.path.foldr .child e.cause ∧
      FailsAlong data e.path e.cause f (f.train data).value.2 ∧
      ∃ before s after, f.leaves = before ++ (e.path, s) :: after ∧
        (∀ leaf ∈ before, (leaf.2.train data).value.1 = .ok ()) ∧
        (s.train data).value.1 = .error e.cause ∧
        (f.watchedLeaves.train data).calls =
          (before ++ [(e.path, s)]).map fun leaf => .train (.rows leaf.2) data) ∧
    ((∀ leaf ∈ f.leaves, (leaf.2.train data).value.1 = .ok ()) →
      (f.train data).value.1 = .ok () ∧
      (f.train data).value.2.leaves =
        f.leaves.map (Prod.map id fun s => (s.train data).value.2) ∧
      (f.watchedLeaves.train data).calls =
        f.leaves.map fun leaf => .train (.rows leaf.2) data) ∧
    (f.watchedLeaves.train data).value = Prod.map id watchedLeaves (f.train data).value := by
  refine ⟨fun e h => ?_, fun h => ?_, value_train_watchedLeaves⟩
  · have hfails := failsAlong_of_train h
    exact ⟨e.foldr_path.symm, hfails, hfails.exists_leaf⟩
  · have hok := train_eq_ok_iff.2 h
    exact ⟨hok, leaves_train hok, calls_train_watchedLeaves hok⟩

/-- The second finder of an inner group fails; what is behind it and behind that group keeps its
training on another table. -/
theorem training_stops_at_first_failure_nested :
    let third : NumericFilter := { column := Range.single (.placeholder .third) }
    let f : RowFinder Empty := .group .union [.plain (.numeric third none),
      .trainable (.numeric {} none),
      .trainable (.group .intersection
        [.trainable .all, .trainable (.numeric third (some 2)), .trainable (.numeric {} (some 2))]),
      .trainable (.numeric {} (some 2))]
    let g : RowFinder Empty := .group .union [.plain (.numeric third none),
      .trainable (.group .intersection [.trainable (.numeric {} (some 2))])]
    ∃ data, Table.ofColumns [⟨"x", .float64, [some 1.0]⟩] = .ok data ∧
      (f.train data).value.1 = .error (.child 2 (.child 1 (.range (.outOfBounds "third" 1)))) ∧
      FailsAlong data [2, 1] (.range (.outOfBounds "third" 1)) f (.group .union
        [.plain (.numeric third none), .trainable (.numeric {} (some 0)),
        .trainable (.group .intersection
          [.trainable .all, .trainable (.numeric third none), .trainable (.numeric {} (some 2))]),
        .trainable (.numeric {} (some 2))]) ∧
      (∀ leaf ∈ g.leaves, (leaf.2.train data).value.1 = .ok ()) ∧
      (g.watchedLeaves.train data).calls = [.train (.rows (.plain (.numeric third none))) data,
        .train (.rows (.trainable (.numeric {} (some 2)))) data] := by
  intro third f g
  obtain ⟨data, hdata⟩ : ∃ data,
      Table.ofColumns [⟨"x", .float64, [some 1.0]⟩] = .ok data := ⟨_, rfl⟩
  have herror : (f.train data).value.1 =
      .error (.child 2 (.child 1 (.range (.outOfBounds "third" 1)))) := by
    cases hdata; rfl
  have hafter : (f.train data).value.2 = .group .union
      [.plain (.numeric third none), .trainable (.numeric {} (some 0)),
      .trainable (.group .intersection
        [.trainable .all, .trainable (.numeric third none), .trainable (.numeric {} (some 2))]),
      .trainable (.numeric {} (some 2))] := by
    cases hdata; rfl
  have hleaves : ∀ leaf ∈ g.leaves, (leaf.2.train data).value.1 = .ok () := by
    cases hdata
    refine List.forall_mem_cons.2 ⟨rfl, List.forall_mem_cons.2 ⟨rfl, nofun⟩⟩
  have hfails := ((training_stops_at_first_failure f data).1 _ herror).2.1
  rw [hafter] at hfails
  have hcalls := ((training_stops_at_first_failure g data).2.1 hleaves).2.2
  exact ⟨data, hdata, herror, hfails, hleaves, hcalls⟩

end RowFinder

end TableSelection
