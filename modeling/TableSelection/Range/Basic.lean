import TableSelection.Text.Basic
import TableSelection.Text.Quoted

/-!
# Ranges

A range chooses entries of an ordered list, its domain. It is a list of segments: single bounds,
and spans between two bounds in either order. A bound is a placeholder such as `last`, a position
counted from one, or the name of an entry. An inverted range chooses what its segments leave out.

Every range has one written form: items separated by commas without blanks, placeholders by their
keyword, indices by their digits, names bare where a bare name means the same and quoted elsewhere.
-/

namespace TableSelection

open Text

/-- A position named relative to the size of the domain. -/
inductive Placeholder
  | first
  | second
  | third
  | last
  | lastButOne
  | lastButTwo
  deriving DecidableEq, Repr

/-- The spellings of the placeholders, in the order in which they are tried: `last-1` before
`last`. -/
def Placeholder.spellings : List (String × Placeholder) :=
  [("last-1", .lastButOne), ("last-2", .lastButTwo), ("last_1", .lastButOne),
    ("last_2", .lastButTwo), ("second", .second), ("first", .first), ("third", .third),
    ("last", .last)]

/-- The spelling in which a placeholder is written. -/
def Placeholder.keyword : Placeholder → String
  | .first => "first"
  | .second => "second"
  | .third => "third"
  | .last => "last"
  | .lastButOne => "last-1"
  | .lastButTwo => "last-2"

/-- The placeholder that a text spells, in any ASCII case. -/
def Placeholder.ofKeyword? (text : List Char) : Option Placeholder :=
  spellings.findSome? fun (word, placeholder) =>
    if dropWord? word.toList text = some [] then some placeholder else none

/-- The position of a placeholder among `size` entries, counted from zero. -/
def Placeholder.position? (size : Nat) : Placeholder → Option Nat
  | .first => if 0 < size then some 0 else none
  | .second => if 1 < size then some 1 else none
  | .third => if 2 < size then some 2 else none
  | .last => if 1 ≤ size then some (size - 1) else none
  | .lastButOne => if 2 ≤ size then some (size - 2) else none
  | .lastButTwo => if 3 ≤ size then some (size - 3) else none

/-- One end of a span, or an entry of its own. -/
inductive Bound
  /-- A position relative to the size of the domain. -/
  | placeholder (placeholder : Placeholder)
  /-- A position counted from one. The digits are kept as they were written: if the position is
  not in the domain they may still be the name of an entry, unless the index is forced. -/
  | index (position : Nat) (digits : String) (forced : Bool)
  /-- The name of an entry. An exact name matches letter by letter, any other ignores case. -/
  | name (name : String) (exact : Bool)
  deriving DecidableEq, Repr

/-- Positions are below this number, so that 64 bits hold them. -/
def Bound.positionLimit : Nat := 18446744073709551616

/-- Whether a text is a non-empty row of ASCII digits. -/
def Bound.isDigits (digits : List Char) : Bool := !digits.isEmpty && digits.all Char.isDigit

/-- The index that a text of digits writes, if its value is a position. -/
def Bound.ofDigits? (digits : List Char) (forced : Bool) : Option Bound :=
  if isDigits digits ∧ digitsValue digits < positionLimit then
    some (.index (digitsValue digits) (String.ofList digits) forced)
  else none

/-- The index with the plain digits of its position. -/
def Bound.ofPosition (position : Nat) (forced : Bool) : Bound :=
  .index position (toString position) forced

/-- One item of a range. A span holds both its ends and may be written in either order. -/
inductive Segment
  | single (bound : Bound)
  | span (start stop : Bound)
  deriving DecidableEq, Repr

def Segment.bounds : Segment → List Bound
  | .single bound => [bound]
  | .span start stop => [start, stop]

/-- A range expression. The limit is the size of the domain it is meant for, where that is known;
it is no part of the written form. -/
structure Range where
  segments : List Segment
  inverted : Bool := false
  limit : Option Nat := none
  deriving DecidableEq, Repr, Inhabited

namespace Range

/-- The range that chooses every entry, also of an empty domain. -/
def all : Range := ⟨[], true, none⟩

def single (bound : Bound) : Range := ⟨[.single bound], false, none⟩

/-- The range that chooses what this one leaves out. -/
def invert (r : Range) : Range := { r with inverted := !r.inverted }

def withLimit (r : Range) (limit : Nat) : Range := { r with limit := some limit }

/-- Whether the range has no items; inverted, it then chooses everything. -/
def isEmpty (r : Range) : Bool := r.segments.isEmpty

end Range

/-! ## The written form -/

/-- Whether a bare name is read as just that name. -/
def Bound.isBareName (name : List Char) : Bool :=
  !name.isEmpty && isTrimmed name && !name.any (['-', ',', '"', '(', ')'].contains ·) &&
    name.head? != some '#' && !name.all Char.isDigit && (Placeholder.ofKeyword? name).isNone

def Bound.written : Bound → List Char
  | .placeholder meant => meant.keyword.toList
  | .index _ digits true => '#' :: digits.toList
  | .index _ digits false => digits.toList
  | .name text exact =>
      if !exact && isBareName text.toList then text.toList else quote text.toList

def Bound.render (b : Bound) : String := String.ofList b.written

def Segment.written : Segment → List Char
  | .single bound => bound.written
  | .span start stop => start.written ++ '-' :: stop.written

namespace Range

/-- The written form of the items alone. -/
def writtenBody (segments : List Segment) : List Char :=
  [','].intercalate (segments.map Segment.written)

def written (r : Range) : List Char :=
  if r.inverted then "inv(".toList ++ writtenBody r.segments ++ [')'] else writtenBody r.segments

def render (r : Range) : String := String.ofList r.written

end Range

end TableSelection
