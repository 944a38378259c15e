import Mathlib.Data.List.Forall2

/-!
# Computations that may fail

What a success and an error of a computation say about its parts. A list is worked off from left to
right, so an error comes from the first element that fails:

    l.mapM f = .ok bs    ↔  f a = .ok b for the members, pairwise          (mapM_eq_ok_iff)
    l.mapM f = .error e  ↔  f a = .error e for some member, and f succeeds
                             on those before it                             (mapM_eq_error_iff)

If an element fails as a list of parts does, a list of elements fails as the list of all their parts
(`mapM_eq_error_iff_flatMap`). A fold keeps what each of its steps keeps (`foldlM_invariant`).

Where an element changes when it is worked off, `stepAll` is the list afterwards: the elements behind
one that fails stay as they are. It answers as `mapM` does (`fst_stepAll`), and its elements come from
those before (`exists_of_mem_stepAll`, `mem_stepAll_of_mem`).
-/

namespace TableSelection

variable {ε α β : Type} {x : Except ε α} {f : α → Except ε β}

theorem bind_eq_ok_iff {b : β} : (x >>= f) = .ok b ↔ ∃ a, x = .ok a ∧ f a = .ok b := by
  cases x with
  | error e => simp [bind, Except.bind]
  | ok a => simp [bind, Except.bind]

theorem bind_eq_error_iff {e : ε} :
    (x >>= f) = .error e ↔ x = .error e ∨ ∃ a, x = .ok a ∧ f a = .error e := by
  cases x with
  | error e' => simp [bind, Except.bind]
  | ok a => simp [bind, Except.bind]

theorem pure_eq_ok_iff {a b : α} : (pure a : Except ε α) = .ok b ↔ a = b := by
  simp [pure, Except.pure]

theorem pure_ne_error {a : α} {e : ε} : (pure a : Except ε α) ≠ .error e := nofun

theorem throw_ne_ok {e : ε} {a : α} : (throw e : Except ε α) ≠ .ok a := nofun

theorem map_eq_ok_iff {g : α → β} {b : β} : x.map g = .ok b ↔ ∃ a, x = .ok a ∧ g a = b := by
  cases x with
  | error e => simp [Except.map]
  | ok a => simp [Except.map]

theorem map_eq_error_iff {g : α → β} {e : ε} : x.map g = .error e ↔ x = .error e := by
  cases x with
  | error e' => simp [Except.map]
  | ok a => simp [Except.map]

theorem mapError_eq_ok_iff {δ : Type} {g : ε → δ} {a : α} : x.mapError g = .ok a ↔ x = .ok a := by
  cases x with
  | error e => simp [Except.mapError]
  | ok a' => simp [Except.mapError]

theorem mapError_eq_error_iff {δ : Type} {g : ε → δ} {d : δ} :
    x.mapError g = .error d ↔ ∃ e, x = .error e ∧ g e = d := by
  cases x with
  | error e => simp [Except.mapError]
  | ok a => simp [Except.mapError]

/-- The value and the error of a computation are changed apart from each other. -/
theorem map_mapError {δ : Type} (g : ε → δ) (h : α → β) (x : Except ε α) :
    (x.mapError g).map h = (x.map h).mapError g := by
  cases x <;> rfl

theorem mapM_eq_ok_iff {l : List α} {bs : List β} :
    l.mapM f = .ok bs ↔ List.Forall₂ (fun a b => f a = .ok b) l bs := by
  induction l generalizing bs with
  | nil =>
    rw [List.mapM_nil, pure_eq_ok_iff, List.forall₂_nil_left_iff, eq_comm]
  | cons a l ih =>
    rw [List.mapM_cons, List.forall₂_cons_left_iff, bind_eq_ok_iff]
    simp only [bind_eq_ok_iff, pure_eq_ok_iff, ih]
    constructor
    · rintro ⟨b, hb, bs', hbs, rfl⟩
      exact ⟨b, bs', hb, hbs, rfl⟩
    · rintro ⟨b, bs', hb, hbs, rfl⟩
      exact ⟨b, hb, bs', hbs, rfl⟩

/-- What a list gives comes from its members. -/
theorem exists_of_mem_of_mapM {l : List α} {bs : List β} (h : l.mapM f = .ok bs) {b : β}
    (hb : b ∈ bs) : ∃ a ∈ l, f a = .ok b := by
  rw [mapM_eq_ok_iff] at h
  induction h with
  | nil => cases hb
  | cons hfirst _ ih =>
    rcases List.mem_cons.1 hb with rfl | hb
    · exact ⟨_, List.mem_cons_self, hfirst⟩
    · obtain ⟨a, ha, hfa⟩ := ih hb
      exact ⟨a, List.mem_cons_of_mem _ ha, hfa⟩

theorem exists_ok_iff : (∃ a, x = .ok a) ↔ ∀ e, x ≠ .error e := by
  cases x with
  | error e => simp
  | ok a => simp

theorem exists_mapM_eq_ok_iff {l : List α} :
    (∃ bs, l.mapM f = .ok bs) ↔ ∀ a ∈ l, ∃ b, f a = .ok b := by
  induction l with
  | nil => simp [pure, Except.pure]
  | cons a l ih =>
    rw [List.forall_mem_cons, ← ih]
    simp only [mapM_eq_ok_iff, List.forall₂_cons_left_iff]
    constructor
    · rintro ⟨_, b, bs, hb, hbs, rfl⟩
      exact ⟨⟨b, hb⟩, bs, hbs⟩
    · rintro ⟨⟨b, hb⟩, bs, hbs⟩
      exact ⟨b :: bs, b, bs, hb, hbs, rfl⟩

/-- The error of a list is that of its first element that fails. -/
theorem mapM_eq_error_iff {l : List α} {e : ε} : l.mapM f = .error e ↔
    ∃ before a after, l = before ++ a :: after ∧ (∀ a' ∈ before, ∃ b, f a' = .ok b) ∧
      f a = .error e := by
  induction l with
  | nil => simp [pure, Except.pure]
  | cons a l ih =>
    rw [List.mapM_cons, bind_eq_error_iff]
    simp only [bind_eq_error_iff, ih, pure_ne_error, and_false, exists_false, or_false]
    constructor
    · rintro (ha | ⟨b, hb, before, a', after, rfl, hbefore, ha'⟩)
      · exact ⟨[], a, l, rfl, by simp, ha⟩
      · exact ⟨a :: before, a', after, rfl, List.forall_mem_cons.2 ⟨⟨b, hb⟩, hbefore⟩, ha'⟩
    · rintro ⟨before, a', after, hl, hbefore, ha'⟩
      cases before with
      | nil =>
        cases hl
        exact Or.inl ha'
      | cons first before =>
        rw [List.cons_append, List.cons.injEq] at hl
        obtain ⟨rfl, rfl⟩ := hl
        obtain ⟨⟨b, hb⟩, hbefore⟩ := List.forall_mem_cons.1 hbefore
        exact Or.inr ⟨b, hb, before, a', after, rfl, hbefore, ha'⟩

/-- If every element fails as its parts do, a list fails as the parts of all its elements. -/
theorem mapM_eq_error_iff_flatMap {γ δ : Type} {parts : α → List γ} {g : γ → Except ε δ}
    (hf : ∀ a e, f a = .error e ↔ (parts a).mapM g = .error e) {l : List α} {e : ε} :
    l.mapM f = .error e ↔ (l.flatMap parts).mapM g = .error e := by
  induction l with
  | nil => simp [pure, Except.pure]
  | cons a l ih =>
    have hok : (∃ b, f a = .ok b) ↔ ∃ bs, (parts a).mapM g = .ok bs := by
      simp only [exists_ok_iff, ne_eq, hf a]
    rw [List.mapM_cons, List.flatMap_cons, List.mapM_append]
    simp only [bind_eq_error_iff, pure_ne_error, and_false, exists_false, or_false, hf a, ih,
      exists_and_right, hok]

theorem mapM_congr {g : α → Except ε β} {l : List α} (h : ∀ a ∈ l, f a = g a) :
    l.mapM f = l.mapM g := by
  induction l with
  | nil => rfl
  | cons a l ih =>
    obtain ⟨ha, hl⟩ := List.forall_mem_cons.1 h
    rw [List.mapM_cons, List.mapM_cons, ha, ih hl]

/-- A pure change of every outcome is a change of the outcome of the list. -/
theorem mapM_map {γ : Type} (g : β → γ) (l : List α) :
    (l.mapM fun a => (f a).map g) = (l.mapM f).map (List.map g) := by
  induction l with
  | nil => rfl
  | cons a l ih =>
    rw [List.mapM_cons, List.mapM_cons, ih]
    cases f a with
    | error e => rfl
    | ok b => cases l.mapM f <;> rfl

/-- The error of a list is changed as those of its elements are. -/
theorem mapM_mapError {δ : Type} (g : ε → δ) (l : List α) :
    (l.mapM fun a => (f a).mapError g) = (l.mapM f).mapError g := by
  induction l with
  | nil => rfl
  | cons a l ih =>
    rw [List.mapM_cons, List.mapM_cons, ih]
    cases f a with
    | error e => rfl
    | ok b => cases l.mapM f <;> rfl

theorem isOk_iff : x.isOk = true ↔ ∃ a, x = .ok a := by
  cases x with
  | error e => simp [Except.isOk, Except.toBool]
  | ok a => simp [Except.isOk, Except.toBool]

theorem isOk_unit_iff {x : Except ε Unit} : x.isOk = true ↔ x = .ok () := by
  rw [isOk_iff]
  exact ⟨fun ⟨_, h⟩ => h, fun h => ⟨(), h⟩⟩

/-- What every step keeps is kept by the whole fold. -/
theorem foldlM_invariant {σ : Type} {P : σ → Prop} {f : σ → β → Except ε σ} {l : List β} {s s' : σ}
    (hstep : ∀ b ∈ l, ∀ s s', P s → f s b = .ok s' → P s') (hs : P s)
    (h : l.foldlM f s = .ok s') : P s' := by
  induction l generalizing s with
  | nil =>
    cases h
    exact hs
  | cons b l ih =>
    obtain ⟨hb, hl⟩ := List.forall_mem_cons.1 hstep
    obtain ⟨next, hnext, hrest⟩ := bind_eq_ok_iff.1 h
    exact ih hl (hb s next hs hnext) hrest

/-! ## Lists of states -/

section Steps

variable {σ : Type} {step : σ → Except ε β × σ} {l : List σ} {s t : σ}

/-- Takes a step from every state of a list, up to the first step that fails. The states behind it stay
as they are. -/
def stepAll (step : σ → Except ε β × σ) : List σ → Except ε (List β) × List σ
  | [] => (.ok [], [])
  | s :: rest =>
      match (step s).1 with
      | .error e => (.error e, (step s).2 :: rest)
      | .ok b => ((stepAll step rest).1.map (b :: ·), (step s).2 :: (stepAll step rest).2)

theorem stepAll_cons_of_ok {b : β} (h : (step s).1 = .ok b) : stepAll step (s :: l) =
    ((stepAll step l).1.map (b :: ·), (step s).2 :: (stepAll step l).2) := by
  rw [stepAll, h]

theorem stepAll_cons_of_error {e : ε} (h : (step s).1 = .error e) :
    stepAll step (s :: l) = (.error e, (step s).2 :: l) := by
  rw [stepAll, h]

theorem fst_stepAll (step : σ → Except ε β × σ) (l : List σ) :
    (stepAll step l).1 = l.mapM fun s => (step s).1 := by
  induction l with
  | nil => rfl
  | cons s l ih =>
    rw [List.mapM_cons, ← ih]
    cases h : (step s).1 with
    | error e => rw [stepAll_cons_of_error h]; rfl
    | ok b => rw [stepAll_cons_of_ok h]; rfl

/-- Every state afterwards is one from before, or what its step has made of it. -/
theorem exists_of_mem_stepAll (h : t ∈ (stepAll step l).2) : ∃ s ∈ l, t = (step s).2 ∨ t = s := by
  induction l with
  | nil => cases h
  | cons s l ih =>
    have hhead (ht : t = (step s).2) : ∃ s' ∈ s :: l, t = (step s').2 ∨ t = s' :=
      ⟨s, List.mem_cons_self, .inl ht⟩
    cases hs : (step s).1 with
    | error e =>
      rw [stepAll_cons_of_error hs] at h
      rcases List.mem_cons.1 h with ht | ht
      · exact hhead ht
      · exact ⟨t, List.mem_cons_of_mem s ht, .inr rfl⟩
    | ok b =>
      rw [stepAll_cons_of_ok hs] at h
      rcases List.mem_cons.1 h with ht | ht
      · exact hhead ht
      · obtain ⟨s', hs', ht'⟩ := ih ht
        exact ⟨s', List.mem_cons_of_mem s hs', ht'⟩

/-- No state is lost. -/
theorem mem_stepAll_of_mem (h : s ∈ l) :
    (step s).2 ∈ (stepAll step l).2 ∨ s ∈ (stepAll step l).2 := by
  induction l with
  | nil => cases h
  | cons first l ih =>
    cases hfirst : (step first).1 with
    | error e =>
      rw [stepAll_cons_of_error hfirst]
      rcases List.mem_cons.1 h with rfl | h
      · exact .inl List.mem_cons_self
      · exact .inr (List.mem_cons_of_mem _ h)
    | ok b =>
      rw [stepAll_cons_of_ok hfirst]
      rcases List.mem_cons.1 h with rfl | h
      · exact .inl List.mem_cons_self
      · exact (ih h).imp (List.mem_cons_of_mem _) (List.mem_cons_of_mem _)

/-- If no step fails, every state has taken its step. -/
theorem snd_stepAll_of_ok (h : ∀ s ∈ l, ∃ b, (step s).1 = .ok b) :
    (stepAll step l).2 = l.map fun s => (step s).2 := by
  induction l with
  | nil => rfl
  | cons s l ih =>
    obtain ⟨⟨b, hs⟩, hl⟩ := List.forall_mem_cons.1 h
    rw [stepAll_cons_of_ok hs, ih hl, List.map_cons]

/-- What no step changes is the same afterwards. -/
theorem map_stepAll {γ : Type} {g : σ → γ} (h : ∀ s ∈ l, g (step s).2 = g s) :
    (stepAll step l).2.map g = l.map g := by
  induction l with
  | nil => rfl
  | cons s l ih =>
    obtain ⟨hs, hl⟩ := List.forall_mem_cons.1 h
    cases hstep : (step s).1 with
    | error e => rw [stepAll_cons_of_error hstep, List.map_cons, hs, List.map_cons]
    | ok b => rw [stepAll_cons_of_ok hstep, List.map_cons, hs, ih hl, List.map_cons]

/-- If a step succeeds just where it leads to a state of some kind, all states are of that kind just
if no step has failed. -/
theorem all_stepAll {p : σ → Bool} (h : ∀ s ∈ l, p (step s).2 = (step s).1.isOk) :
    (stepAll step l).2.all p = (stepAll step l).1.isOk := by
  induction l with
  | nil => rfl
  | cons s l ih =>
    obtain ⟨hs, hl⟩ := List.forall_mem_cons.1 h
    cases hstep : (step s).1 with
    | error e => rw [stepAll_cons_of_error hstep, List.all_cons, hs, hstep]; rfl
    | ok b =>
      rw [stepAll_cons_of_ok hstep, List.all_cons, hs, hstep, ih hl]
      cases (stepAll step l).1 <;> rfl

/-- If every step taken twice is as if it were taken once, so are those of a list. -/
theorem stepAll_stepAll (h : ∀ s ∈ l, step (step s).2 = step s) :
    stepAll step (stepAll step l).2 = stepAll step l := by
  induction l with
  | nil => rfl
  | cons s l ih =>
    obtain ⟨hs, hl⟩ := List.forall_mem_cons.1 h
    cases hstep : (step s).1 with
    | error e =>
      have hagain : (step (step s).2).1 = .error e := by rw [hs, hstep]
      rw [stepAll_cons_of_error hstep, stepAll_cons_of_error hagain, hs]
    | ok b =>
      have hagain : (step (step s).2).1 = .ok b := by rw [hs, hstep]
      rw [stepAll_cons_of_ok hstep, stepAll_cons_of_ok hagain, hs, ih hl]

end Steps

end TableSelection
