/-!
# Characters and words

A text is read as a list of characters. `isBlank` is the White_Space property of Unicode; `trim` drops
blanks at both ends. Keywords are lower-case ASCII words that match in any ASCII case: `dropWord?`
takes one off the front of a text. `digitsValue` is the number that a row of ASCII digits stands for.
Larger sets of characters are kept as runs of code points.

    isTrimmed (trim s)                                                       (isTrimmed_trim)
    trim s = s  ↔  isTrimmed s                                               (trim_eq_self_iff)
    dropWord? word s = some r  ↔  s is a spelling of the word, followed by r (dropWord?_eq_some_iff)
-/

namespace TableSelection.Text

/-! ## Blanks -/

/-- The 25 characters with the White_Space property. -/
def isBlank (c : Char) : Bool :=
  let n := c.toNat
  (9 ≤ n && n ≤ 13) || n == 0x20 || n == 0x85 || n == 0xA0 || n == 0x1680 ||
    (0x2000 ≤ n && n ≤ 0x200A) || n == 0x2028 || n == 0x2029 || n == 0x202F || n == 0x205F ||
    n == 0x3000

def trimStart (s : List Char) : List Char := s.dropWhile isBlank

def trimEnd (s : List Char) : List Char := (s.reverse.dropWhile isBlank).reverse

def trim (s : List Char) : List Char := trimEnd (trimStart s)

/-- Whether a text neither starts nor ends with a blank. -/
def isTrimmed (s : List Char) : Bool := !s.head?.any isBlank && !s.getLast?.any isBlank

theorem trimStart_of_head {s : List Char} (h : s.head?.any isBlank = false) : trimStart s = s := by
  cases s with
  | nil => rfl
  | cons c cs => simp [trimStart, show isBlank c = false by simpa using h]

theorem head?_trimStart (s : List Char) : (trimStart s).head?.any isBlank = false := by
  induction s with
  | nil => rfl
  | cons c cs ih =>
      rw [trimStart, List.dropWhile_cons]
      split
      · exact ih
      · next h => simpa using h

theorem trimEnd_of_getLast {s : List Char} (h : s.getLast?.any isBlank = false) : trimEnd s = s := by
  have hr : trimStart s.reverse = s.reverse := trimStart_of_head (by simpa using h)
  rw [trimStart] at hr
  rw [trimEnd, hr, List.reverse_reverse]

theorem getLast?_trimEnd (s : List Char) : (trimEnd s).getLast?.any isBlank = false := by
  have h := head?_trimStart s.reverse
  rw [trimStart] at h
  rwa [trimEnd, List.getLast?_reverse]

/-- Dropping trailing blanks keeps a prefix of the text. -/
theorem trimEnd_isPrefix (s : List Char) : trimEnd s <+: s := by
  obtain ⟨t, ht⟩ := List.dropWhile_suffix isBlank (l := s.reverse)
  refine ⟨t.reverse, ?_⟩
  rw [trimEnd, ← List.reverse_append, ht, List.reverse_reverse]

/-- A trimmed text is trimmed. -/
theorem isTrimmed_trim (s : List Char) : isTrimmed (trim s) = true := by
  have hl : (trim s).getLast?.any isBlank = false := getLast?_trimEnd _
  have hh : (trim s).head?.any isBlank = false := by
    obtain ⟨r, hr⟩ := trimEnd_isPrefix (trimStart s)
    have h := head?_trimStart s
    rw [← hr] at h
    rw [trim]
    cases ht : trimEnd (trimStart s) with
    | nil => rfl
    | cons d ds => rwa [ht] at h
  rw [isTrimmed, hl, hh]
  rfl

/-- Trimming changes nothing just in a text that is trimmed. -/
theorem trim_eq_self_iff {s : List Char} : trim s = s ↔ isTrimmed s = true := by
  constructor
  · intro h
    rw [← h]
    exact isTrimmed_trim s
  · intro h
    rw [isTrimmed, Bool.and_eq_true, Bool.not_eq_true', Bool.not_eq_true'] at h
    rw [trim, trimStart_of_head h.1, trimEnd_of_getLast h.2]

/-! ## Keywords and digits -/

/-- What follows the word at the front of a text, if the text starts with it in some ASCII case. -/
def dropWord? : (word : List Char) → List Char → Option (List Char)
  | [], s => some s
  | _ :: _, [] => none
  | w :: ws, c :: cs => if c.toLower = w then dropWord? ws cs else none

/-- The number written by a row of ASCII digits, zero for an empty one. -/
def digitsValue (digits : List Char) : Nat :=
  digits.foldl (fun value c => 10 * value + (c.toNat - '0'.toNat)) 0

/-- A word is taken off exactly where the text starts with it in some case. -/
theorem dropWord?_eq_some_iff {word s r : List Char} :
    dropWord? word s = some r ↔ ∃ w, w.map Char.toLower = word ∧ s = w ++ r := by
  induction word generalizing s with
  | nil => simp [dropWord?, eq_comm]
  | cons w ws ih =>
      cases s with
      | nil =>
          simp only [dropWord?, List.nil_eq, List.append_eq_nil_iff]
          refine ⟨fun h => absurd h (by simp), fun ⟨v, hv, hs, _⟩ => ?_⟩
          simp [hs] at hv
      | cons c cs =>
          simp only [dropWord?]
          constructor
          · intro h
            split at h
            · next hc =>
                obtain ⟨v, hv, rfl⟩ := ih.1 h
                exact ⟨c :: v, by simp [hc, hv], rfl⟩
            · exact absurd h (by simp)
          · rintro ⟨v, hv, hs⟩
            cases v with
            | nil => simp at hv
            | cons d ds =>
                simp only [List.map_cons, List.cons.injEq] at hv
                simp only [List.cons_append, List.cons.injEq] at hs
                rw [if_pos (hs.1 ▸ hv.1), ih]
                exact ⟨ds, hv.2, hs.2⟩

theorem digitsValue_append_singleton (digits : List Char) (c : Char) :
    digitsValue (digits ++ [c]) = 10 * digitsValue digits + (c.toNat - '0'.toNat) := by
  simp [digitsValue]

/-! ## Runs -/

/-- Whether a character lies in one of some runs. -/
def inRuns (runs : List (Nat × Nat)) (c : Char) : Bool :=
  runs.any fun (first, last) => first ≤ c.toNat && c.toNat ≤ last

end TableSelection.Text
