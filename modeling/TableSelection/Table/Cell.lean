import TableSelection.Decimal.Layout

/-!
# Cells

A cell type says what its cells hold, how a cell is shown and which double it stands for. A column
has one cell type; an empty cell is shown as the empty text and stands for no number.

A date is a day counted from 1970-01-01 in the Gregorian calendar, which is continued before its
introduction. `CivilDate.ofDay` finds its year, month and day of the month.
-/

namespace TableSelection.Table

open Decimal

/-! ## Calendar days -/

structure CivilDate where
  year : Int
  month : Nat
  day : Nat
  deriving DecidableEq, Repr

namespace CivilDate

/-- The date of a day counted from 1970-01-01. Years are taken to begin in March, so that the leap
day is the last one of its year, and are counted in cycles of 400. -/
def ofDay (n : Int) : CivilDate :=
  let sinceMarch := n + 719468
  let cycle := sinceMarch / 146097
  let dayOfCycle := (sinceMarch % 146097).toNat
  let yearOfCycle := (dayOfCycle - dayOfCycle / 1460 + dayOfCycle / 36524 - dayOfCycle / 146096) / 365
  let dayOfYear := dayOfCycle - (365 * yearOfCycle + yearOfCycle / 4 - yearOfCycle / 100)
  let monthSinceMarch := (5 * dayOfYear + 2) / 153
  let month := if monthSinceMarch < 10 then monthSinceMarch + 3 else monthSinceMarch - 9
  { year := 400 * cycle + yearOfCycle + (if month ≤ 2 then 1 else 0)
    month
    day := dayOfYear - (153 * monthSinceMarch + 2) / 5 + 1 }

/-- The years that the calendar covers. -/
def yearInRange (year : Int) : Bool := -262143 ≤ year && year ≤ 262142

/-- The digits of a number, filled up with zeros to a width. -/
def padded (width n : Nat) : String :=
  let digits := Nat.toDigits 10 n
  String.ofList (List.replicate (width - digits.length) '0' ++ digits)

/-- The text `YYYY-MM-DD`; a year with more than four digits or before the year 0 has a sign. -/
def text (d : CivilDate) : String :=
  let sign := if d.year < 0 then "-" else if 9999 < d.year then "+" else ""
  sign ++ padded 4 d.year.natAbs ++ "-" ++ padded 2 d.month ++ "-" ++ padded 2 d.day

example : text (ofDay 0) = "1970-01-01" := by decide +kernel

example : text (ofDay (-1)) = "1969-12-31" := by decide +kernel

example : text (ofDay 11016) = "2000-02-29" := by decide +kernel

end CivilDate

/-! ## Cell types -/

inductive CellType
  | integer (signed : Bool) (bits : Nat)
  | float32
  | float64
  | utf8
  | boolean
  | date32
  | null
  /-- Whole numbers in units of `10 ^ -scale`, shown with at most `precision` digits. -/
  | decimal128 (precision : Nat) (scale : Int)
  deriving DecidableEq, Repr

namespace CellType

/-- What a cell that is not empty holds. Dates are counted in days from 1970-01-01. -/
abbrev Cell : CellType → Type
  | integer _ _ => Int
  | float32 => Float32
  | float64 => Float
  | utf8 => String
  | boolean => Bool
  | date32 => Int
  | null => Empty
  | decimal128 _ _ => Int

def name : CellType → String
  | integer true bits => s!"Int{bits}"
  | integer false bits => s!"UInt{bits}"
  | float32 => "Float32"
  | float64 => "Float64"
  | utf8 => "Utf8"
  | boolean => "Boolean"
  | date32 => "Date32"
  | null => "Null"
  | decimal128 precision scale => s!"Decimal128({precision}, {scale})"

/-- Integers, floating-point numbers and decimals are numeric. -/
def isNumeric : CellType → Bool
  | integer _ _ | float32 | float64 | decimal128 _ _ => true
  | utf8 | boolean | date32 | null => false

/-- Only dates cannot be converted to doubles. -/
def isConvertible : CellType → Bool
  | date32 => false
  | _ => true

end CellType

/-- The text of a decimal: the first `precision` digits of its units, with a point before the last
`scale` of them. -/
def decimalText (precision : Nat) (scale units : Int) : String :=
  let sign := if units < 0 then "-" else ""
  let all := Nat.toDigits 10 units.natAbs
  let shown := all.take precision
  if scale = 0 then sign ++ String.ofList shown
  else if scale < 0 then sign ++ String.ofList shown ++ zeros scale.natAbs
  else
    let places := scale.toNat
    if places < all.length then
      sign ++ String.ofList (shown.take (shown.length - places)) ++ "." ++
        String.ofList (shown.drop (shown.length - places))
    else sign ++ "0." ++ zeros (places - all.length) ++ String.ofList all

/-- The text of a day; days outside the calendar are shown as an error. -/
def dayText (day : Int) : String :=
  let date := CivilDate.ofDay day
  if CivilDate.yearInRange date.year then date.text
  else s!"ERROR: Cast error: Failed to convert {day} to temporal for Date32"

/-- Multiplies `result` by `base ^ exponent`, squaring the base for each bit of the exponent. -/
def timesPower (result base : Float) (exponent : Nat) : Float :=
  if exponent = 0 then result
  else timesPower (if exponent % 2 = 1 then result * base else result) (base * base) (exponent / 2)
termination_by exponent
decreasing_by omega

def powerOfTen (exponent : Int) : Float :=
  let power := timesPower 1.0 10.0 exponent.natAbs
  if exponent < 0 then 1.0 / power else power

namespace CellType

/-- How a cell is shown. -/
def text : (type : CellType) → type.Cell → String
  | integer _ _, n => toString n
  | float32, x => Layout.singleCell.singleText x
  | float64, x => Layout.doubleCell.doubleText x
  | utf8, s => s
  | boolean, b => if b then "true" else "false"
  | date32, day => dayText day
  | null, cell => nomatch cell
  | decimal128 precision scale, units => decimalText precision scale units

/-- The double that a cell stands for. A text may stand for none, and no date stands for one. -/
def number? : (type : CellType) → type.Cell → Option Float
  | integer _ _, n => some (doubleOfInt n)
  | float32, x => some x.toFloat
  | float64, x => some x
  | utf8, s => readDouble? s.toList
  | boolean, b => some (if b then 1.0 else 0.0)
  | date32, _ => none
  | null, _ => none
  | decimal128 _ scale, units => some (doubleOfInt units / powerOfTen scale)

end CellType

end TableSelection.Table
