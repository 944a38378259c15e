import TableSelection.Proofs.Range.Bounds

/-!
# Reading an item

An item without commas outside quotes is read as a segment just if the grammar derives it:

    Segment.read item = .ok segment ↔ Segment.Derives item segment       (read_eq_ok_iff)

The text of an item closes its quotes and has no comma and no parenthesis outside them, and blanks
around it do not matter (`Derives.isPlain`, `derives_trim_iff`).
-/

namespace TableSelection

open Text

/-! ## Where a longer keyword would count -/

namespace Bound

variable {t : List Char} {b : Bound}

/-- No keyword goes on behind a bound that ends the item. -/
theorem longest_of_end {ws : List Char} (hws : ∀ c ∈ ws, isBlank c = true) :
    ∀ (meant : Placeholder) kw r, t ++ ws ++ [] = kw ++ r → meant.Counts kw r →
      kw.length ≤ t.length := by
  intro meant kw r he hc
  apply Classical.byContradiction
  intro hlen
  obtain ⟨-, -, d, -, -, hrest⟩ :=
    eq_hyphen_of_longer hc.1 hws ends_nil he (Nat.lt_of_not_le hlen)
  cases hrest

/-- No keyword goes on behind the first bound of a span, unless the span is all one keyword. -/
theorem longest_of_span {ws₂ ws₃ ws₄ text₂ : List Char} {stop : Bound}
    (hws₂ : ∀ c ∈ ws₂, isBlank c = true) (hws₃ : ∀ c ∈ ws₃, isBlank c = true)
    (hstop : Derives text₂ stop)
    (hkeyword : ∀ meant : Placeholder, ¬meant.IsSpelled (t ++ ws₂ ++ '-' :: (ws₃ ++ text₂))) :
    ∀ (meant : Placeholder) kw r, t ++ ws₂ ++ '-' :: (ws₃ ++ text₂ ++ ws₄) = kw ++ r →
      meant.Counts kw r → kw.length ≤ t.length := by
  intro meant kw r he hc
  apply Classical.byContradiction
  intro hlen
  obtain ⟨rfl, -, d, hd, rfl, hrest⟩ :=
    eq_hyphen_of_longer hc.1 hws₂ (ends_hyphen _) he (Nat.lt_of_not_le hlen)
  have hdigit : d.isDigit = true ∧ isBlank d = false := by
    rcases hd with rfl | rfl <;> decide
  rw [List.cons.injEq, List.append_assoc] at hrest
  -- the digit is the whole second bound
  have hnil : ws₃ = [] := by
    cases ws₃ with
    | nil => rfl
    | cons w ws =>
      rw [List.cons_append, List.cons.injEq] at hrest
      have hb := hws₃ w List.mem_cons_self
      rw [hrest.2.1, hdigit.2] at hb
      cases hb
  subst hnil
  obtain ⟨e, u, rfl⟩ := List.exists_cons_of_ne_nil hstop.ne_nil
  rw [List.nil_append, List.cons_append, List.cons.injEq] at hrest
  obtain ⟨-, rfl, rfl⟩ := hrest
  have htoken := hstop.isToken_of_isDigit hdigit.1
  have hlast : ∀ c ∈ u.getLast?, isBlank c = false := by
    intro c hm
    refine (isTrimmed_iff.1 htoken.isTrimmed).2 c ?_
    rw [List.getLast?_cons, Option.mem_def.1 hm]
    rfl
  have hu := eq_nil_of_ends_trimStart
    (fun hm => htoken.plain _ (List.mem_cons_of_mem _ hm) (by decide)) hlast hc.2
  subst hu
  exact hkeyword meant (by simpa using hc.1)

end Bound

namespace Segment

variable {item : List Char} {segment : Segment}

/-! ## What is derived is read -/

theorem read_single {start : Bound} {rest : List Char}
    (h : Bound.read item item = .ok (start, rest)) (hrest : trimStart rest = []) :
    read item = .ok (.single start) := by
  rw [read, bind_eq_ok_iff]
  exact ⟨_, h, by simp only [hrest]; rfl⟩

theorem read_span {start stop : Bound} {rest rest' cs : List Char}
    (h : Bound.read item item = .ok (start, rest)) (hrest : trimStart rest = '-' :: cs)
    (h' : Bound.read item cs = .ok (stop, rest')) (hrest' : trimStart rest' = []) :
    read item = .ok (.span start stop) := by
  rw [read, bind_eq_ok_iff]
  refine ⟨_, h, ?_⟩
  simp only [hrest, if_true]
  rw [bind_eq_ok_iff]
  exact ⟨_, h', by simp only [hrest']; rfl⟩

theorem read_of_derives (h : Derives item segment) : read item = .ok segment := by
  cases h with
  | @single ws₁ text ws₂ bound blanks₁ blanks₂ derives =>
    obtain ⟨rest, hread, hrest⟩ :=
      Bound.read_of_derives (ws₁ ++ text ++ ws₂) derives (blanks_iff.1 blanks₁)
        (blanks_iff.1 blanks₂) Bound.ends_nil (Bound.longest_of_end (blanks_iff.1 blanks₂))
    rw [List.append_nil] at hread
    exact read_single hread hrest
  | @span ws₁ text₁ ws₂ ws₃ text₂ ws₄ start stop blanks₁ blanks₂ blanks₃ blanks₄ derives₁ derives₂
      noKeyword =>
    have hws₂ := blanks_iff.1 blanks₂
    have hws₃ := blanks_iff.1 blanks₃
    have hws₄ := blanks_iff.1 blanks₄
    have hkeyword : ∀ meant : Placeholder,
        ¬meant.IsSpelled (text₁ ++ ws₂ ++ '-' :: (ws₃ ++ text₂)) := fun meant hm =>
      noKeyword meant (Bound.derives_placeholder_iff.2 hm)
    obtain ⟨rest, hread, hrest⟩ :=
      Bound.read_of_derives (ws₁ ++ text₁ ++ ws₂ ++ '-' :: (ws₃ ++ text₂ ++ ws₄)) derives₁
        (blanks_iff.1 blanks₁) hws₂ (Bound.ends_hyphen _)
        (Bound.longest_of_span hws₂ hws₃ derives₂ hkeyword)
    obtain ⟨rest', hread', hrest'⟩ :=
      Bound.read_of_derives (ws₁ ++ text₁ ++ ws₂ ++ '-' :: (ws₃ ++ text₂ ++ ws₄)) derives₂
        hws₃ hws₄ Bound.ends_nil (Bound.longest_of_end hws₄)
    rw [List.append_nil] at hread'
    exact read_span hread hrest hread' hrest'

/-! ## What is read is derived -/

theorem derives_of_read (hcomma : ',' ∉ unquoted item) (h : read item = .ok segment) :
    Derives item segment := by
  have hread := h
  rw [read, bind_eq_ok_iff] at h
  obtain ⟨⟨start, rest⟩, hstart, h⟩ := h
  obtain ⟨ws₁, text₁, ws₂, hws₁, hws₂, hd₁, he⟩ := Bound.derives_of_read hcomma hstart
  dsimp only at h
  cases hrest : trimStart rest with
  | nil =>
    rw [hrest] at h he
    cases h
    rw [he, List.append_nil]
    exact .single (blanks_iff.2 hws₁) (blanks_iff.2 hws₂) hd₁
  | cons c cs =>
    simp only [hrest] at h he
    by_cases hc : c = '-'
    · subst hc
      rw [if_pos rfl, bind_eq_ok_iff] at h
      obtain ⟨⟨stop, rest'⟩, hstop, h⟩ := h
      have hclosed : ClosesQuotes (ws₁ ++ (text₁ ++ ws₂)) :=
        ((isPlain_of_blanks hws₁).append (hd₁.isPlain.append (isPlain_of_blanks hws₂))).closesQuotes
      have hcomma' : ',' ∉ unquoted cs := by
        rw [he, List.append_assoc ws₁, hclosed.unquoted_append] at hcomma
        exact fun hm => hcomma (List.mem_append_right _ (List.mem_cons_of_mem _ hm))
      obtain ⟨ws₃, text₂, ws₄, hws₃, hws₄, hd₂, rfl⟩ := Bound.derives_of_read hcomma' hstop
      dsimp only at h
      cases hrest' : trimStart rest' with
      | cons d ds => rw [hrest'] at h; cases h
      | nil =>
        rw [hrest'] at h he
        cases h
        rw [List.append_nil] at he
        rw [he]
        refine .span (blanks_iff.2 hws₁) (blanks_iff.2 hws₂) (blanks_iff.2 hws₃) (blanks_iff.2 hws₄)
          hd₁ hd₂ fun meant hkeyword => ?_
        -- such an item is read as the keyword
        have hsingle := read_of_derives (.single (blanks_iff.2 hws₁) (blanks_iff.2 hws₄) hkeyword)
        have hitem : ws₁ ++ (text₁ ++ ws₂ ++ '-' :: (ws₃ ++ text₂)) ++ ws₄ = item := by
          rw [he]
          simp
        rw [hitem, hread] at hsingle
        cases hsingle
    · rw [if_neg hc] at h
      cases h

theorem read_eq_ok_iff (hcomma : ',' ∉ unquoted item) :
    read item = .ok segment ↔ Derives item segment :=
  ⟨derives_of_read hcomma, read_of_derives⟩

/-! ## The texts of items -/

theorem Derives.isPlain (h : Derives item segment) : IsPlain item := by
  cases h with
  | single blanks₁ blanks₂ derives =>
    exact (blanks₁.isPlain.append derives.isPlain).append blanks₂.isPlain
  | span blanks₁ blanks₂ blanks₃ blanks₄ derives₁ derives₂ noKeyword =>
    have hhyphen : IsPlain ['-'] := isPlain_of_not_mem (by simp)
    have hstart := (blanks₁.isPlain.append derives₁.isPlain).append blanks₂.isPlain
    have hstop := (blanks₃.isPlain.append derives₂.isPlain).append blanks₄.isPlain
    exact hstart.append (hhyphen.append hstop)

theorem isTrimmed_append {s m t : List Char} (hs : isTrimmed s = true) (hs' : s ≠ [])
    (ht : isTrimmed t = true) (ht' : t ≠ []) : isTrimmed (s ++ m ++ t) = true := by
  refine isTrimmed_iff.2 ⟨?_, ?_⟩
  · rw [List.append_assoc, List.head?_append_of_ne_nil _ hs']
    exact (isTrimmed_iff.1 hs).1
  · rw [List.getLast?_append_of_ne_nil _ ht']
    exact (isTrimmed_iff.1 ht).2

/-- An item is what its bounds are written with, and blanks around that. -/
theorem Derives.exists_core (h : Derives item segment) : ∃ ws core ws',
    Blanks ws ∧ Blanks ws' ∧ item = ws ++ core ++ ws' ∧
      isTrimmed core = true ∧ core ≠ [] ∧ Derives core segment := by
  cases h with
  | @single ws₁ text ws₂ bound blanks₁ blanks₂ derives =>
    refine ⟨ws₁, text, ws₂, blanks₁, blanks₂, rfl, derives.isTrimmed, derives.ne_nil, ?_⟩
    simpa using Derives.single .nil .nil derives
  | @span ws₁ text₁ ws₂ ws₃ text₂ ws₄ start stop blanks₁ blanks₂ blanks₃ blanks₄ derives₁ derives₂
      noKeyword =>
    have hcore : text₁ ++ ws₂ ++ '-' :: (ws₃ ++ text₂) = text₁ ++ (ws₂ ++ '-' :: ws₃) ++ text₂ := by
      simp
    refine ⟨ws₁, text₁ ++ ws₂ ++ '-' :: (ws₃ ++ text₂), ws₄, blanks₁, blanks₄, by simp, ?_, by simp,
      ?_⟩
    · rw [hcore]
      exact isTrimmed_append derives₁.isTrimmed derives₁.ne_nil derives₂.isTrimmed derives₂.ne_nil
    · simpa using Derives.span .nil blanks₂ blanks₃ .nil derives₁ derives₂ noKeyword

theorem Derives.trim_ne_nil (h : Derives item segment) : trim item ≠ [] := by
  obtain ⟨ws, core, ws', hws, hws', rfl, htrimmed, hne, -⟩ := h.exists_core
  rwa [trim_append_append_of_isTrimmed htrimmed (blanks_iff.1 hws) (blanks_iff.1 hws')]

/-- Blanks around an item do not matter. -/
theorem derives_trim_iff : Derives (trim item) segment ↔ Derives item segment := by
  constructor
  · intro h
    obtain ⟨ws, ws', hws, hws', he⟩ := exists_blanks_trim item
    rw [he]
    generalize trim item = core at h
    have hws := blanks_iff.2 hws
    have hws' := blanks_iff.2 hws'
    cases h with
    | single blanks₁ blanks₂ derives =>
      simpa using Derives.single (hws.append blanks₁) (blanks₂.append hws') derives
    | span blanks₁ blanks₂ blanks₃ blanks₄ derives₁ derives₂ noKeyword =>
      simpa using Derives.span (hws.append blanks₁) blanks₂ blanks₃ (blanks₄.append hws') derives₁
        derives₂ noKeyword
  · intro h
    obtain ⟨ws, core, ws', hws, hws', rfl, htrimmed, -, hcore⟩ := h.exists_core
    rwa [trim_append_append_of_isTrimmed htrimmed (blanks_iff.1 hws) (blanks_iff.1 hws')]

end Segment

end TableSelection
