import Mathlib.Data.List.TakeWhile
import TableSelection.Text.Basic

/-!
# Blanks around a text

What trimming takes off is a text of blanks, and it does not matter how many blanks there are:

    s = ws ++ trim s ++ ws' with blanks ws, ws'        (exists_blanks_trim)
    trim (ws ++ s ++ ws') = trim s for blanks ws, ws'   (trim_append_append)
-/

namespace TableSelection.Text

variable {s ws ws' : List Char}

/-- A character of a class is none of those outside it. -/
theorem not_mem_of_class {p : Char → Bool} {c : Char} {marks : List Char} (hc : p c = true)
    (hmarks : (marks.all fun d => !p d) = true) : c ∉ marks := by
  intro hm
  have hd := List.all_eq_true.1 hmarks c hm
  rw [hc] at hd
  cases hd

/-! ## Blanks in front -/

theorem trimStart_append (hws : ∀ c ∈ ws, isBlank c = true) : trimStart (ws ++ s) = trimStart s :=
  List.dropWhile_append_of_pos hws

theorem trimStart_eq_nil_iff : trimStart s = [] ↔ ∀ c ∈ s, isBlank c = true :=
  List.dropWhile_eq_nil_iff

theorem trimStart_cons_of_not_blank {c : Char} (hc : isBlank c = false) :
    trimStart (c :: s) = c :: s :=
  trimStart_of_head (by simpa using hc)

/-- What is dropped in front is a text of blanks. -/
theorem exists_blanks_trimStart (s : List Char) :
    ∃ ws, (∀ c ∈ ws, isBlank c = true) ∧ s = ws ++ trimStart s := by
  refine ⟨s.takeWhile isBlank, fun c hc => ?_, (List.takeWhile_append_dropWhile).symm⟩
  exact List.mem_takeWhile_imp hc

theorem trimStart_eq_cons {c : Char} {r : List Char} (h : trimStart s = c :: r) :
    isBlank c = false ∧ ∃ ws, (∀ c ∈ ws, isBlank c = true) ∧ s = ws ++ c :: r := by
  refine ⟨?_, h ▸ exists_blanks_trimStart s⟩
  have hh := head?_trimStart s
  rw [h] at hh
  simpa using hh

/-! ## Blanks at the end -/

theorem trimEnd_append (hws : ∀ c ∈ ws, isBlank c = true) : trimEnd (s ++ ws) = trimEnd s := by
  have hr : ∀ c ∈ ws.reverse, isBlank c = true := fun c hc => hws c (List.mem_reverse.1 hc)
  rw [trimEnd, List.reverse_append, List.dropWhile_append_of_pos hr, ← trimEnd]

theorem exists_blanks_trimEnd (s : List Char) :
    ∃ ws, (∀ c ∈ ws, isBlank c = true) ∧ s = trimEnd s ++ ws := by
  obtain ⟨ws, hws, h⟩ := exists_blanks_trimStart s.reverse
  refine ⟨ws.reverse, fun c hc => hws c (List.mem_reverse.1 hc), ?_⟩
  have hs := congrArg List.reverse h
  rwa [List.reverse_reverse, List.reverse_append] at hs

/-! ## Blanks on both sides -/

/-- What trimming drops is blank. -/
theorem exists_blanks_trim (s : List Char) : ∃ ws ws', (∀ c ∈ ws, isBlank c = true) ∧
    (∀ c ∈ ws', isBlank c = true) ∧ s = ws ++ trim s ++ ws' := by
  obtain ⟨ws, hws, h⟩ := exists_blanks_trimStart s
  obtain ⟨ws', hws', h'⟩ := exists_blanks_trimEnd (trimStart s)
  refine ⟨ws, ws', hws, hws', ?_⟩
  rw [List.append_assoc, trim, ← h', ← h]

/-- Blanks around a text make no difference to its trimmed form. -/
theorem trim_append_append (hws : ∀ c ∈ ws, isBlank c = true)
    (hws' : ∀ c ∈ ws', isBlank c = true) : trim (ws ++ s ++ ws') = trim s := by
  have h : trimStart (s ++ ws') =
      if (trimStart s).isEmpty then trimStart ws' else trimStart s ++ ws' :=
    List.dropWhile_append
  rw [trim, trim, List.append_assoc, trimStart_append hws, h]
  split
  · next he =>
    rw [List.isEmpty_iff.1 he, trimStart_eq_nil_iff.2 hws']
  · exact trimEnd_append hws'

theorem trim_append_append_of_isTrimmed (hs : isTrimmed s = true)
    (hws : ∀ c ∈ ws, isBlank c = true) (hws' : ∀ c ∈ ws', isBlank c = true) :
    trim (ws ++ s ++ ws') = s := by
  rw [trim_append_append hws hws', trim_eq_self_iff.2 hs]

theorem isTrimmed_iff : isTrimmed s = true ↔
    (∀ c ∈ s.head?, isBlank c = false) ∧ ∀ c ∈ s.getLast?, isBlank c = false := by
  simp only [isTrimmed, Bool.and_eq_true, Bool.not_eq_true', Option.any_eq_false,
    Option.mem_def]

/-- Only a text of blanks is trimmed to nothing. -/
theorem trim_eq_nil_iff : trim s = [] ↔ ∀ c ∈ s, isBlank c = true := by
  constructor
  · intro h
    obtain ⟨ws, ws', hws, hws', hs⟩ := exists_blanks_trim s
    rw [h, List.append_nil] at hs
    rw [hs]
    exact List.forall_mem_append.2 ⟨hws, hws'⟩
  · intro h
    rw [trim, trimStart_eq_nil_iff.2 h]
    rfl

end TableSelection.Text
