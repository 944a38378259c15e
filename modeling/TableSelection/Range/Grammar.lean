import Mathlib.Data.Nat.Digits.Defs
import TableSelection.Range.Basic

/-!
# The grammar of ranges

Which text stands for which range, said without reading it from left to right:

    RANGE  ::=  ws BODY ws  |  ws "inv(" BODY ")" ws
    BODY   ::=  ws  |  ITEM ("," ITEM)*
    ITEM   ::=  ws BOUND ws  |  ws BOUND ws "-" ws BOUND ws
    BOUND  ::=  KEYWORD  |  DIGITS  |  "#" ws DIGITS  |  QUOTED  |  BARE

Words match in any ASCII case. The one text with two readings is a keyword with a hyphen in it, such
as `last-1`; it is never a span. Blanks, keywords and the numbers that digits write are given here by
themselves, not by the functions that read them.

Not every range is read back from its written form unchanged: a range that was not read from a text
may hold an index whose position is not that of its digits, a bare name that has to be quoted, or a
span that reads as a keyword. `Range.normal` is the range that is read instead.
-/

namespace TableSelection

/-! ## Blanks, keywords and digits -/

/-- The code points with the White_Space property of Unicode. -/
def whiteSpace : List Nat :=
  [0x9, 0xA, 0xB, 0xC, 0xD, 0x20, 0x85, 0xA0, 0x1680, 0x2000, 0x2001, 0x2002, 0x2003, 0x2004,
    0x2005, 0x2006, 0x2007, 0x2008, 0x2009, 0x200A, 0x2028, 0x2029, 0x202F, 0x205F, 0x3000]

def Blanks (s : List Char) : Prop := ∀ c ∈ s, c.toNat ∈ whiteSpace

theorem Blanks.nil : Blanks [] := nofun

/-- The keywords and what they stand for. -/
def Placeholder.keywords : List (String × Placeholder) :=
  [("first", .first), ("second", .second), ("third", .third), ("last", .last),
    ("last-1", .lastButOne), ("last_1", .lastButOne), ("last-2", .lastButTwo),
    ("last_2", .lastButTwo)]

/-- The number that digits write in base ten. -/
def decimal (digits : List Char) : Nat :=
  Nat.ofDigits 10 (digits.reverse.map fun c => c.toNat - '0'.toNat)

/-- ASCII digits, at least one, whose number fits in 64 bits. Zeros in front do not matter. -/
structure WritesPosition (digits : List Char) : Prop where
  nonempty : digits ≠ []
  isDigit : ∀ c ∈ digits, c.isDigit = true
  small : decimal digits < 2 ^ 64

instance (digits : List Char) : Decidable (WritesPosition digits) :=
  decidable_of_iff (digits ≠ [] ∧ digits.all Char.isDigit = true ∧ decimal digits < 2 ^ 64)
    ⟨fun ⟨nonempty, isDigit, small⟩ => ⟨nonempty, List.all_eq_true.1 isDigit, small⟩,
      fun h => ⟨h.nonempty, List.all_eq_true.2 h.isDigit, h.small⟩⟩

example : decimal "0042".toList = 42 := by decide

/-! ## Bounds, items and ranges -/

/-- A name that can stand without quotes. -/
structure Bound.BareName (name : List Char) : Prop where
  nonempty : name ≠ []
  plain : ∀ c ∈ name, c ∉ ['-', ',', '"', '(', ')']
  head : ∀ c ∈ name.head?, c.toNat ∉ whiteSpace ∧ c ≠ '#'
  last : ∀ c ∈ name.getLast?, c.toNat ∉ whiteSpace
  notDigits : ∃ c ∈ name, c.isDigit = false
  notKeyword : ∀ keyword ∈ Placeholder.keywords, name.map Char.toLower ≠ keyword.1.toList

/-- What stands between two quotes, and the name it denotes. -/
inductive QuotedBody : List Char → List Char → Prop
  | nil : QuotedBody [] []
  | plain {text name : List Char} (c : Char) (quote : c ≠ '"') (backslash : c ≠ '\\')
      (rest : QuotedBody text name) : QuotedBody (c :: text) (c :: name)
  | escaped {text name : List Char} (c : Char) (rest : QuotedBody text name) :
      QuotedBody ('\\' :: c :: text) (c :: name)

/-- The texts of a bound. -/
inductive Bound.Derives : List Char → Bound → Prop
  | keyword {text : List Char} {word : String} {meant : Placeholder}
      (isKeyword : (word, meant) ∈ Placeholder.keywords)
      (spelled : text.map Char.toLower = word.toList) : Derives text (.placeholder meant)
  | index {digits : List Char} (writes : WritesPosition digits) :
      Derives digits (.index (decimal digits) (String.ofList digits) false)
  | forced {ws digits : List Char} (blanks : Blanks ws) (writes : WritesPosition digits) :
      Derives ('#' :: (ws ++ digits)) (.index (decimal digits) (String.ofList digits) true)
  | quoted {text name : List Char} (body : QuotedBody text name) :
      Derives ('"' :: (text ++ ['"'])) (.name (String.ofList name) true)
  | bare {name : List Char} (isBare : BareName name) :
      Derives name (.name (String.ofList name) false)

inductive Segment.Derives : List Char → Segment → Prop
  | single {ws₁ text ws₂ : List Char} {bound : Bound} (blanks₁ : Blanks ws₁) (blanks₂ : Blanks ws₂)
      (derives : Bound.Derives text bound) : Derives (ws₁ ++ text ++ ws₂) (.single bound)
  | span {ws₁ text₁ ws₂ ws₃ text₂ ws₄ : List Char} {start stop : Bound}
      (blanks₁ : Blanks ws₁) (blanks₂ : Blanks ws₂) (blanks₃ : Blanks ws₃) (blanks₄ : Blanks ws₄)
      (derives₁ : Bound.Derives text₁ start) (derives₂ : Bound.Derives text₂ stop)
      (noKeyword : ∀ meant,
        ¬Bound.Derives (text₁ ++ ws₂ ++ '-' :: (ws₃ ++ text₂)) (.placeholder meant)) :
      Derives (ws₁ ++ text₁ ++ ws₂ ++ '-' :: (ws₃ ++ text₂ ++ ws₄)) (.span start stop)

namespace Range

inductive BodyDerives : List Char → List Segment → Prop
  | blank {ws : List Char} (blanks : Blanks ws) : BodyDerives ws []
  | items {items : List (List Char × Segment)} (some : items ≠ [])
      (derives : ∀ item ∈ items, Segment.Derives item.1 item.2) :
      BodyDerives ([','].intercalate (items.map Prod.fst)) (items.map Prod.snd)

/-- The texts of a range. -/
inductive Derives : List Char → Range → Prop
  | plain {ws₁ body ws₂ : List Char} {segments : List Segment} (blanks₁ : Blanks ws₁)
      (blanks₂ : Blanks ws₂) (derives : BodyDerives body segments) :
      Derives (ws₁ ++ body ++ ws₂) ⟨segments, false, none⟩
  | inverted {ws₁ word body ws₂ : List Char} {segments : List Segment} (blanks₁ : Blanks ws₁)
      (blanks₂ : Blanks ws₂) (opens : word.map Char.toLower = "inv(".toList)
      (derives : BodyDerives body segments) :
      Derives (ws₁ ++ word ++ body ++ ')' :: ws₂) ⟨segments, true, none⟩

end Range

/-! ## Normal forms -/

/-- A bound as its written form reads. -/
def Bound.normal : Bound → Bound
  | .placeholder meant => .placeholder meant
  | .index _ digits forced => .index (decimal digits.toList) digits forced
  | .name text exact => .name text (exact || !isBareName text.toList)

/-- A segment as its written form reads. The spans from `last` to a plain `1` or `2` are written
like the keywords with a hyphen. -/
def Segment.normal : Segment → Segment
  | .single bound => .single bound.normal
  | .span start stop =>
      match start, stop with
      | .placeholder .last, .index position digits false =>
          if digits = "1" then .single (.placeholder .lastButOne)
          else if digits = "2" then .single (.placeholder .lastButTwo)
          else .span (.placeholder .last) (Bound.index position digits false).normal
      | start, stop => .span start.normal stop.normal

def Range.normal (r : Range) : Range := ⟨r.segments.map Segment.normal, r.inverted, none⟩

/-- Whether the digits of an index write a position; those of other bounds do not matter. -/
def Bound.hasPosition : Bound → Bool
  | .index _ digits _ => decide (WritesPosition digits.toList)
  | _ => true

/-- Whether the digits of every index in a range write a position. -/
def Range.hasPositions (r : Range) : Bool :=
  r.segments.all fun segment => segment.bounds.all Bound.hasPosition

example : (Range.mk [.span (.placeholder .last) (.index 1 "1" false)] false (some 5)).normal =
    ⟨[.single (.placeholder .lastButOne)], false, none⟩ := by decide

example : (Bound.name "" false).normal = .name "" true := by decide

end TableSelection
