/-!
# Double quotes in a text

A name may stand in double quotes; inside them a backslash takes the next character as it is.
`QuoteState` follows a text character by character. From it come `unquoted`, the characters outside
quotes, and `splitItems`, the cut at the commas outside quotes. `quote` writes a name in quotes and
`readQuoted` reads one back, from behind its opening quote:

    splitItems s joined with commas is s                    (intercalate_splitItems)
-/

namespace TableSelection.Text

/-! ## Following the quotes -/

/-- Where a scan stands: outside quotes, inside them, or behind a backslash inside them. -/
inductive QuoteState
  | outside
  | inside
  | escaped
  deriving DecidableEq, Repr

/-- The state behind one more character. A backslash outside quotes is an ordinary character. -/
def QuoteState.step : QuoteState → Char → QuoteState
  | .outside, c => if c = '"' then .inside else .outside
  | .inside, c => if c = '"' then .outside else if c = '\\' then .escaped else .inside
  | .escaped, _ => .inside

def QuoteState.run (q : QuoteState) (s : List Char) : QuoteState := s.foldl QuoteState.step q

/-- Every quote of the text is closed again. -/
def ClosesQuotes (s : List Char) : Prop := QuoteState.run .outside s = .outside

instance (s : List Char) : Decidable (ClosesQuotes s) := by unfold ClosesQuotes; infer_instance

/-- The characters of a text that stand outside quotes, when it starts in state `q`; the quotes
themselves are left out. -/
def unquotedFrom (q : QuoteState) : List Char → List Char
  | [] => []
  | c :: cs =>
      if q = .outside ∧ c ≠ '"' then c :: unquotedFrom (q.step c) cs
      else unquotedFrom (q.step c) cs

def unquoted (s : List Char) : List Char := unquotedFrom .outside s

/-- The pieces of a text between the commas outside quotes, when it starts in state `q`. -/
def splitItemsFrom (q : QuoteState) : List Char → List (List Char)
  | [] => [[]]
  | c :: cs =>
      match splitItemsFrom (q.step c) cs with
      | [] => [[c]]
      | item :: items =>
          if q = .outside ∧ c = ',' then [] :: item :: items else (c :: item) :: items

/-- The pieces of a text between the commas outside quotes; at least one. -/
def splitItems (s : List Char) : List (List Char) := splitItemsFrom .outside s

/-! ## Writing and reading a quoted name -/

/-- A name with a backslash before each quote and each backslash. -/
def escape : List Char → List Char
  | [] => []
  | c :: cs => if c = '"' ∨ c = '\\' then '\\' :: c :: escape cs else c :: escape cs

def quote (s : List Char) : List Char := '"' :: (escape s ++ ['"'])

/-- The name up to its closing quote and the text behind it; nothing if the quote is not closed. -/
def readQuoted : List Char → Option (List Char × List Char)
  | [] => none
  | '"' :: cs => some ([], cs)
  | '\\' :: c :: cs => (readQuoted cs).map fun (name, rest) => (c :: name, rest)
  | c :: cs => (readQuoted cs).map fun (name, rest) => (c :: name, rest)

/-! ## Lemmas -/

theorem readQuoted_cons {c : Char} (h1 : c ≠ '"') (h2 : c ≠ '\\') (cs : List Char) :
    readQuoted (c :: cs) = (readQuoted cs).map fun (name, rest) => (c :: name, rest) := by
  rw [readQuoted]
  · simpa using h1
  · intro _ _ h; exact absurd h h2

theorem splitItemsFrom_ne_nil (q : QuoteState) (s : List Char) : splitItemsFrom q s ≠ [] := by
  cases s with
  | nil => simp [splitItemsFrom]
  | cons c cs =>
      simp only [splitItemsFrom]
      split
      · simp
      · split <;> simp

theorem intercalate_splitItemsFrom (q : QuoteState) (s : List Char) :
    [','].intercalate (splitItemsFrom q s) = s := by
  induction s generalizing q with
  | nil => rfl
  | cons c cs ih =>
      have h := ih (q.step c)
      simp only [splitItemsFrom]
      split
      · next hn => exact absurd hn (splitItemsFrom_ne_nil _ _)
      · next item items he =>
          rw [he] at h
          split
          · next hc =>
              subst h
              rw [hc.2]
              simp [List.intercalate]
          · subst h
            cases items <;> simp [List.intercalate]

/-- Nothing but the commas outside quotes is lost by the cut. -/
theorem intercalate_splitItems (s : List Char) : [','].intercalate (splitItems s) = s :=
  intercalate_splitItemsFrom .outside s

end TableSelection.Text
