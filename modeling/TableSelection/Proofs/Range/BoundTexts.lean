import Mathlib.Data.List.Basic
import Mathlib.Data.List.Induction
import Mathlib.Tactic.Tauto
import TableSelection.Proofs.Range.Keywords
import TableSelection.Proofs.Text.Quotes
import TableSelection.Range.Basic

/-!
# The texts of bounds

Whatever bound a text stands for, it starts and ends with characters that are not blank
(`Derives.isTrimmed`), closes its quotes, and has no comma and no parenthesis outside them
(`Derives.isPlain`). Only a name in quotes has quotes at all (`Derives.quoted_or_plain`).

What the grammar says of blanks, digits and bare names is what the functions take for them:

    Blanks s               ↔  every character of s is blank                 (blanks_iff)
    decimal digits         =  digitsValue digits                            (digitsValue_eq_decimal)
    WritesPosition digits  ↔  isDigits digits and
                              digitsValue digits < positionLimit            (writesPosition_iff)
    BareName name          ↔  isBareName name                               (isBareName_iff)
-/

namespace TableSelection

open Text

/-! ## Blanks and digits -/

theorem isBlank_iff {c : Char} : isBlank c = true ↔ c.toNat ∈ whiteSpace := by
  simp only [isBlank, whiteSpace, Bool.or_eq_true, Bool.and_eq_true, decide_eq_true_eq, beq_iff_eq,
    List.mem_cons, List.not_mem_nil, or_false]
  omega

theorem isBlank_eq_false_iff {c : Char} : isBlank c = false ↔ c.toNat ∉ whiteSpace := by
  rw [← Bool.not_eq_true, isBlank_iff]

theorem blanks_iff {s : List Char} : Blanks s ↔ ∀ c ∈ s, isBlank c = true := by
  simp only [Blanks, isBlank_iff]

theorem Blanks.append {s t : List Char} (hs : Blanks s) (ht : Blanks t) : Blanks (s ++ t) :=
  List.forall_mem_append.2 ⟨hs, ht⟩

theorem Blanks.isPlain {s : List Char} (h : Blanks s) : IsPlain s :=
  isPlain_of_blanks (blanks_iff.1 h)

/-- By induction from the end: one more digit shifts the others by one place. -/
theorem digitsValue_eq_decimal (digits : List Char) : digitsValue digits = decimal digits := by
  induction digits using List.reverseRecOn with
  | nil => rfl
  | append_singleton digits c ih =>
    rw [digitsValue_append_singleton, ih, decimal, decimal, List.reverse_concat, List.map_cons,
      Nat.ofDigits_cons, Nat.add_comm]

namespace Bound

theorem isDigits_iff {digits : List Char} :
    isDigits digits = true ↔ digits ≠ [] ∧ ∀ c ∈ digits, c.isDigit = true := by
  rw [isDigits, Bool.and_eq_true, Bool.not_eq_true', List.isEmpty_eq_false_iff, List.all_eq_true]

theorem writesPosition_iff {digits : List Char} :
    WritesPosition digits ↔ isDigits digits = true ∧ digitsValue digits < positionLimit := by
  rw [isDigits_iff, digitsValue_eq_decimal]
  exact ⟨fun h => ⟨⟨h.nonempty, h.isDigit⟩, h.small⟩, fun ⟨⟨hne, hdigit⟩, hsmall⟩ =>
    ⟨hne, hdigit, hsmall⟩⟩

theorem ofDigits?_eq_some_iff {digits : List Char} {forced : Bool} {b : Bound} :
    ofDigits? digits forced = some b ↔
      WritesPosition digits ∧ b = .index (decimal digits) (String.ofList digits) forced := by
  rw [ofDigits?, Option.ite_none_right_eq_some, Option.some.injEq, writesPosition_iff,
    digitsValue_eq_decimal, @eq_comm _ b]

end Bound

/-! ## Quoted names -/

theorem QuotedBody.run_inside {text name : List Char} (h : QuotedBody text name) :
    QuoteState.inside.run text = .inside := by
  induction h with
  | nil => rfl
  | plain c hq hb _ ih =>
    rw [QuoteState.run_cons, QuoteState.step_inside hq hb]
    exact ih
  | escaped c _ ih => exact ih

theorem QuotedBody.unquotedFrom_inside {text name : List Char} (h : QuotedBody text name) :
    unquotedFrom .inside text = [] := by
  induction h with
  | nil => rfl
  | plain c hq hb _ ih =>
    rw [unquotedFrom, if_neg (by simp), QuoteState.step_inside hq hb]
    exact ih
  | escaped c _ ih => exact ih

/-- A name in quotes is a plain text, whatever the name. -/
theorem QuotedBody.isPlain {text name : List Char} (h : QuotedBody text name) :
    IsPlain ('"' :: (text ++ ['"'])) where
  closesQuotes := by
    show QuoteState.inside.run (text ++ ['"']) = .outside
    rw [QuoteState.run_append, h.run_inside]
    rfl
  not_mem := by
    have hnil : unquoted ('"' :: (text ++ ['"'])) = [] := by
      show unquotedFrom .inside (text ++ ['"']) = []
      rw [unquotedFrom_append, h.unquotedFrom_inside, h.run_inside]
      rfl
    rw [hnil]
    simp

/-- A name with its quotes and backslashes escaped denotes that name. -/
theorem quotedBody_escape (name : List Char) : QuotedBody (escape name) name := by
  induction name with
  | nil => exact .nil
  | cons c cs ih =>
    rw [escape]
    split
    · exact .escaped c ih
    · next h => exact .plain c (fun e => h (Or.inl e)) (fun e => h (Or.inr e)) ih

/-! ## The texts of bounds -/

theorem isTrimmed_of_not_isBlank {t : List Char} (h : ∀ c ∈ t, isBlank c = false) :
    isTrimmed t = true :=
  isTrimmed_iff.2
    ⟨fun c hc => h c (List.mem_of_head? hc), fun c hc => h c (List.mem_of_getLast? hc)⟩

namespace Bound

/-- A bare text: it is trimmed and has none of the characters that need quotes. -/
structure IsToken (t : List Char) : Prop where
  ne_nil : t ≠ []
  isTrimmed : isTrimmed t = true
  plain : ∀ c ∈ t, c ∉ ['-', ',', '"', '(', ')']

theorem IsToken.not_mem {t : List Char} (h : IsToken t) : ∀ c ∈ t, c ∉ ['"', ',', '(', ')'] :=
  fun c hc hm => h.plain c hc (by simp at hm ⊢; tauto)

theorem not_isBlank_of_isDigit {c : Char} (h : c.isDigit = true) : isBlank c = false := by
  rw [Char.isDigit_iff_toNat] at h
  simp only [Char.reduceToNat] at h
  apply Classical.byContradiction
  intro hb
  simp only [isBlank, Bool.not_eq_false, Bool.or_eq_true, Bool.and_eq_true, decide_eq_true_eq,
    beq_iff_eq] at hb
  omega

theorem isToken_of_writesPosition {digits : List Char} (h : WritesPosition digits) :
    IsToken digits :=
  ⟨h.nonempty, isTrimmed_of_not_isBlank fun c hc => not_isBlank_of_isDigit (h.isDigit c hc),
    fun c hc => not_mem_of_class (h.isDigit c hc) (by decide)⟩

theorem not_isDigit_of_isAlpha {c : Char} (h : c.isAlpha = true) : c.isDigit = false := by
  refine Bool.eq_false_iff.2 fun hd => ?_
  rw [isAlpha_iff, isUpper_iff, isLower_iff] at h
  rw [Char.isDigit_iff_toNat] at hd
  simp only [Char.reduceToNat] at hd
  omega

/-- Digits are no keyword. -/
theorem not_isSpelled_of_writesPosition {t : List Char} (h : WritesPosition t)
    (meant : Placeholder) : ¬meant.IsSpelled t := by
  intro hkw
  obtain ⟨c, cs, rfl, halpha⟩ := hkw.exists_cons
  have hdigit := h.isDigit c List.mem_cons_self
  rw [not_isDigit_of_isAlpha halpha] at hdigit
  cases hdigit

theorem derives_placeholder_iff {text : List Char} {meant : Placeholder} :
    Derives text (.placeholder meant) ↔ meant.IsSpelled text := by
  constructor
  · intro h
    cases h with
    | keyword isKeyword spelled => exact ⟨_, Placeholder.mem_keywords_iff.1 isKeyword, spelled⟩
  · rintro ⟨word, hw, ht⟩
    exact .keyword (Placeholder.mem_keywords_iff.2 hw) ht

theorem not_isSpelled_iff {text : List Char} : (∀ meant : Placeholder, ¬meant.IsSpelled text) ↔
    ∀ keyword ∈ Placeholder.keywords, text.map Char.toLower ≠ keyword.1.toList := by
  constructor
  · intro h keyword hkw ht
    exact h keyword.2 ⟨keyword.1, Placeholder.mem_keywords_iff.1 hkw, ht⟩
  · rintro h meant ⟨word, hw, ht⟩
    exact h (word, meant) (Placeholder.mem_keywords_iff.2 hw) ht

/-- A bare name is a bare text that is read neither as digits nor as a keyword. -/
theorem bareName_iff {name : List Char} : BareName name ↔
    IsToken name ∧ name.head? ≠ some '#' ∧ name.all Char.isDigit = false ∧
      ∀ meant : Placeholder, ¬meant.IsSpelled name := by
  simp only [not_isSpelled_iff, List.all_eq_false, Bool.not_eq_true]
  constructor
  · intro h
    have ht : Text.isTrimmed name = true :=
      isTrimmed_iff.2 ⟨fun c hc => isBlank_eq_false_iff.2 (h.head c hc).1,
        fun c hc => isBlank_eq_false_iff.2 (h.last c hc)⟩
    exact ⟨⟨h.nonempty, ht, h.plain⟩, fun hhash => (h.head _ hhash).2 rfl, h.notDigits,
      h.notKeyword⟩
  · rintro ⟨ht, hhash, hdigits, hkw⟩
    obtain ⟨hhead, hlast⟩ := isTrimmed_iff.1 ht.isTrimmed
    exact ⟨ht.ne_nil, ht.plain,
      fun c hc => ⟨isBlank_eq_false_iff.1 (hhead c hc), fun he => hhash (he ▸ hc)⟩,
      fun c hc => isBlank_eq_false_iff.1 (hlast c hc), hdigits, hkw⟩

theorem BareName.isToken {name : List Char} (h : BareName name) : IsToken name :=
  (bareName_iff.1 h).1

/-- What the writer leaves bare are the bare names of the grammar. -/
theorem isBareName_iff {name : List Char} : isBareName name = true ↔ BareName name := by
  rw [bareName_iff]
  simp only [isBareName, Bool.and_eq_true, Bool.not_eq_true', List.isEmpty_eq_false_iff,
    List.any_eq_false, List.contains_iff_mem, bne_iff_ne, Option.isNone_iff_eq_none,
    Placeholder.ofKeyword?_eq_none_iff]
  constructor
  · rintro ⟨⟨⟨⟨⟨hne, ht⟩, hplain⟩, hhash⟩, hdigits⟩, hkw⟩
    exact ⟨⟨hne, ht, hplain⟩, hhash, hdigits, hkw⟩
  · rintro ⟨⟨hne, ht, hplain⟩, hhash, hdigits, hkw⟩
    exact ⟨⟨⟨⟨⟨hne, ht⟩, hplain⟩, hhash⟩, hdigits⟩, hkw⟩

variable {t : List Char} {b : Bound}

theorem Derives.isTrimmed (h : Derives t b) : isTrimmed t = true := by
  cases h with
  | keyword isKeyword spelled =>
    have hkw := derives_placeholder_iff.1 (.keyword isKeyword spelled)
    exact isTrimmed_of_not_isBlank fun c hc => hkw.not_isBlank hc
  | index writes => exact (isToken_of_writesPosition writes).isTrimmed
  | forced blanks writes =>
    have ht := isToken_of_writesPosition writes
    refine isTrimmed_iff.2 ⟨by simp; decide, fun c hc => (isTrimmed_iff.1 ht.isTrimmed).2 c ?_⟩
    rwa [← List.cons_append, List.getLast?_append_of_ne_nil _ ht.ne_nil] at hc
  | quoted body =>
    refine isTrimmed_iff.2 ⟨by simp; decide, ?_⟩
    rw [List.getLast?_cons, List.getLast?_append]
    simp
    decide
  | bare isBare => exact isBare.isToken.isTrimmed

theorem Derives.ne_nil (h : Derives t b) : t ≠ [] := by
  cases h with
  | keyword isKeyword spelled =>
    have hkw := derives_placeholder_iff.1 (.keyword isKeyword spelled)
    obtain ⟨c, cs, rfl, -⟩ := hkw.exists_cons
    simp
  | index writes => exact writes.nonempty
  | forced blanks writes => simp
  | quoted body => simp
  | bare isBare => exact isBare.isToken.ne_nil

/-- The text of a bound is either a name in quotes or free of quotes, commas and parentheses. -/
theorem Derives.quoted_or_plain (h : Derives t b) :
    (∃ text name, QuotedBody text name ∧ t = '"' :: (text ++ ['"'])) ∨
      ∀ c ∈ t, c ∉ ['"', ',', '(', ')'] := by
  cases h with
  | keyword isKeyword spelled =>
    have hkw := derives_placeholder_iff.1 (.keyword isKeyword spelled)
    exact Or.inr fun c hc => not_mem_of_class (hkw.isKeywordChar hc) (by decide)
  | index writes => exact Or.inr (isToken_of_writesPosition writes).not_mem
  | forced blanks writes =>
    refine Or.inr fun c hc => ?_
    rcases List.mem_cons.1 hc with rfl | hc
    · decide
    · rcases List.mem_append.1 hc with hc | hc
      · exact not_mem_of_class (blanks_iff.1 blanks c hc) (by decide)
      · exact (isToken_of_writesPosition writes).not_mem c hc
  | quoted body => exact Or.inl ⟨_, _, body, rfl⟩
  | bare isBare => exact Or.inr isBare.isToken.not_mem

theorem Derives.isPlain (h : Derives t b) : IsPlain t := by
  rcases h.quoted_or_plain with ⟨text, name, hbody, rfl⟩ | hplain
  · exact hbody.isPlain
  · exact isPlain_of_not_mem hplain

/-- A bound that starts with a digit is an index or a bare name. -/
theorem Derives.isToken_of_isDigit {d : Char} {u : List Char} (h : Derives (d :: u) b)
    (hd : d.isDigit = true) : IsToken (d :: u) := by
  cases h with
  | keyword isKeyword spelled =>
    have hkw := derives_placeholder_iff.1 (.keyword isKeyword spelled)
    obtain ⟨c, cs, he, halpha⟩ := hkw.exists_cons
    rw [List.cons.injEq] at he
    rw [he.1, not_isDigit_of_isAlpha halpha] at hd
    cases hd
  | index writes => exact isToken_of_writesPosition writes
  | forced blanks writes => exact absurd hd (by decide)
  | quoted body => exact absurd hd (by decide)
  | bare isBare => exact isBare.isToken

end Bound

end TableSelection
