import TableSelection.Decimal.Numeral

/-!
# The text of a floating-point number

The numbers between the midpoints to a number's two neighbours all round to it. `shortest` finds the
fewest decimal digits in that interval and, of these, the nearest ones; a tie goes to the even last
digit. The ends of the interval belong to it if the significand is even.

A number is written with its shortest digits. A layout says for which magnitudes they are written
positionally; the others are written with a power of ten.
-/

namespace TableSelection.Decimal

/-! ## Shortest digits -/

/-- The decimal number `digits * 10 ^ exponent`. -/
structure Digits where
  digits : Nat
  exponent : Int
  deriving DecidableEq, Repr

def digitCount (n : Nat) : Nat := (Nat.toDigits 10 n).length

/-- Zeros at the end are moved from the digits into the exponent, at most `count` of them. -/
def Digits.strip (d : Digits) : (count : Nat) → Digits
  | 0 => d
  | count + 1 =>
      if d.digits % 10 = 0 then Digits.strip ⟨d.digits / 10, d.exponent + 1⟩ count else d

/-- The numbers that round to a given one, as fractions with one denominator. -/
structure Rounding where
  value : Nat
  low : Nat
  high : Nat
  den : Nat
  closed : Bool

/-- The interval of `m * 2 ^ q`. Below a power of two the neighbour is only half as far away, unless
the exponent is already the smallest. -/
def Format.rounding (f : Format) (m : Nat) (q : Int) : Rounding :=
  let scale := pow2 (q - 2).toNat
  let below := if m = pow2 (f.precision - 1) ∧ f.minExponent < q then 1 else 2
  { value := 4 * m * scale
    low := (4 * m - below) * scale
    high := (4 * m + 2) * scale
    den := pow2 (2 - q).toNat
    closed := m % 2 == 0 }

namespace Rounding

/-- The exponent of the first decimal digit of the value. -/
def leading (r : Rounding) : Int :=
  if r.den ≤ r.value then digitCount (r.value / r.den) - 1
  else -digitCount ((r.den + r.value - 1) / r.value - 1)

/-- Whether `d * 10 ^ e` lies in the interval. -/
def holds (r : Rounding) (d : Nat) (e : Int) : Bool :=
  let num := d * pow10 e.toNat * r.den
  let one := pow10 (-e).toNat
  if r.closed then r.low * one ≤ num && num ≤ r.high * one
  else r.low * one < num && num < r.high * one

/-- The point of the grid `10 ^ e` in the interval that is nearest to the value, if there is one. Only
the two points next to the value come into question. -/
def onGrid? (r : Rounding) (e : Int) : Option Digits :=
  let num := r.value * pow10 (-e).toNat
  let den := r.den * pow10 e.toNat
  let below := num / den
  let nearer := roundDiv num den
  let farther := if nearer = below then below + 1 else below
  if r.holds nearer e then some ⟨nearer, e⟩
  else if r.holds farther e then some ⟨farther, e⟩
  else none

/-- Searches the grids from coarse to fine, starting with `10 ^ e`. -/
def search (r : Rounding) (e : Int) : (steps : Nat) → Digits
  | 0 => ⟨0, 0⟩
  | steps + 1 => (r.onGrid? e).getD (search r (e - 1) steps)

end Rounding

/-- The shortest digits of the positive number `m * 2 ^ q`, without zeros at their end. Seventeen
digits tell any two doubles apart. -/
def Format.shortest (f : Format) (m : Nat) (q : Int) : Digits :=
  let r := f.rounding m q
  (r.search r.leading 17).strip 17

/-! ## Layouts -/

/-- A number `0.ddd * 10 ^ p` is written positionally if `above < p` and `p ≤ upTo`. Otherwise a
power of ten follows, which may have a plus sign where it is not negative. -/
structure Layout where
  above : Int
  upTo : Int
  plus : Bool

def Layout.doubleCell : Layout := ⟨-5, 16, false⟩

def Layout.singleCell : Layout := ⟨-6, 13, false⟩

/-- Numbers in the error of a setting. -/
def Layout.setting : Layout := ⟨-5, 16, true⟩

def digitText (n : Nat) : String := String.ofList (Nat.toDigits 10 n)

def zeros (count : Nat) : String := String.ofList (List.replicate count '0')

/-- The text of a positive number. A whole number written positionally ends in `.0`. -/
def Layout.positiveText (layout : Layout) (d : Digits) : String :=
  let text := Nat.toDigits 10 d.digits
  let p : Int := text.length + d.exponent
  if layout.above < p ∧ p ≤ layout.upTo then
    if p ≤ 0 then "0." ++ zeros (-p).toNat ++ String.ofList text
    else if text.length ≤ p.toNat then String.ofList text ++ zeros (p.toNat - text.length) ++ ".0"
    else String.ofList (text.take p.toNat) ++ "." ++ String.ofList (text.drop p.toNat)
  else
    let mantissa := match text with
      | [] => ""
      | [d] => String.ofList [d]
      | d :: ds => String.ofList (d :: '.' :: ds)
    let sign := if p - 1 < 0 then "-" else if layout.plus then "+" else ""
    mantissa ++ "e" ++ sign ++ digitText (p - 1).natAbs

/-- The text of a number of the given format. -/
def Layout.text (layout : Layout) (f : Format) (bits : Nat) : String :=
  match f.decode bits with
  | .nan => "NaN"
  | .infinite negative => if negative then "-inf" else "inf"
  | .finite negative m q =>
      (if negative then "-" else "") ++
        (if m = 0 then "0.0" else layout.positiveText (f.shortest m q))

def Layout.doubleText (layout : Layout) (x : Float) : String :=
  layout.text .double x.toBits.toNat

def Layout.singleText (layout : Layout) (x : Float32) : String :=
  layout.text .single x.toBits.toNat

end TableSelection.Decimal
