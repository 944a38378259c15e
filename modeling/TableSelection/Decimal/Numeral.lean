import TableSelection.Text.Basic

/-!
# Reading a decimal number

A format is given by the bits of its significand and of its exponent. `Format.decode` takes the bits
of a number apart into `m * 2 ^ q`; `Format.nearest` finds the bits of the number nearest to a
fraction, where a tie goes to the even significand.

A numeral is an optional sign, digits with an optional point among or beside them, and an optional
power of ten; or one of the words `nan`, `inf` and `infinity` in any case. It stands for the nearest
double.
-/

namespace TableSelection.Decimal

open Text

/-! ## Binary floating point -/

def pow2 (n : Nat) : Nat := Nat.pow 2 n

def pow10 (n : Nat) : Nat := Nat.pow 10 n

/-- The quotient rounded to the nearest number, a half to the even one. -/
def roundDiv (num den : Nat) : Nat :=
  let quotient := num / den
  let rest := num % den
  if den < 2 * rest ∨ (den = 2 * rest ∧ quotient % 2 = 1) then quotient + 1 else quotient

/-- A binary format: the bits of its significand, the hidden one included, and of its exponent. -/
structure Format where
  precision : Nat
  exponentBits : Nat

def Format.double : Format := ⟨53, 11⟩

def Format.single : Format := ⟨24, 8⟩

/-- A number of a binary format; a finite one has the magnitude `m * 2 ^ q`. -/
inductive Binary
  | nan
  | infinite (negative : Bool)
  | finite (negative : Bool) (m : Nat) (q : Int)
  deriving DecidableEq, Repr

namespace Format

/-- The exponent of the last bit of the smallest numbers. -/
def minExponent (f : Format) : Int := 3 - pow2 (f.exponentBits - 1) - f.precision

def infinityBits (f : Format) : Nat := (pow2 f.exponentBits - 1) * pow2 (f.precision - 1)

/-- The bits that hold the sign alone. -/
def signBit (f : Format) : Nat := pow2 (f.exponentBits + f.precision - 1)

/-- The number that a row of bits stands for. -/
def decode (f : Format) (bits : Nat) : Binary :=
  let negative := decide (f.signBit ≤ bits)
  let magnitude := bits % f.signBit
  let exponent := magnitude / pow2 (f.precision - 1)
  let fraction := magnitude % pow2 (f.precision - 1)
  if magnitude = f.infinityBits then .infinite negative
  else if f.infinityBits < magnitude then .nan
  else if exponent = 0 then .finite negative fraction f.minExponent
  else .finite negative (pow2 (f.precision - 1) + fraction) (f.minExponent + exponent - 1)

/-- The bits of the number nearest to `num / den`. The significands of neighbouring exponents follow
each other in the bits, so a significand rounded up to the next power of two needs no care. -/
def nearest (f : Format) (num den : Nat) : Nat :=
  if num = 0 then 0
  else
    let guess : Int := (num.log2 : Int) - den.log2
    let fits := decide (den * pow2 guess.toNat ≤ num * pow2 (-guess).toNat)
    let log := if fits then guess else guess - 1
    let q := max (log - f.precision + 1) f.minExponent
    let m := roundDiv (num * pow2 (-q).toNat) (den * pow2 q.toNat)
    min f.infinityBits ((q - f.minExponent).toNat * pow2 (f.precision - 1) + m)

end Format

def doubleOfBits (negative : Bool) (bits : Nat) : Float :=
  Float.ofBits (UInt64.ofNat (if negative then Format.double.signBit + bits else bits))

def infiniteDouble (negative : Bool) : Float := doubleOfBits negative Format.double.infinityBits

def nearestDouble (negative : Bool) (num den : Nat) : Float :=
  doubleOfBits negative (Format.double.nearest num den)

/-- The double nearest to an integer. -/
def doubleOfInt (n : Int) : Float := nearestDouble (decide (n < 0)) n.natAbs 1

/-! ## Numerals -/

/-- The double nearest to `digits * 10 ^ exponent`. Far outside the range of the doubles the power of
ten is not computed. -/
def doubleOfDecimal (negative : Bool) (digits : Nat) (exponent : Int) : Float :=
  let magnitude : Int := (Nat.toDigits 10 digits).length + exponent
  if digits = 0 ∨ magnitude < -330 then nearestDouble negative 0 1
  else if 310 < magnitude then infiniteDouble negative
  else nearestDouble negative (digits * pow10 exponent.toNat) (pow10 (-exponent).toNat)

/-- The sign at the front of a text and what follows it. -/
def readSign : List Char → Bool × List Char
  | '-' :: cs => (true, cs)
  | '+' :: cs => (false, cs)
  | cs => (false, cs)

/-- The power of ten at the end of a numeral; a missing one is zero. -/
def readExponent? : List Char → Option Int
  | [] => some 0
  | c :: cs =>
      if c = 'e' ∨ c = 'E' then
        let (negative, digits) := readSign cs
        if digits.isEmpty || !digits.all Char.isDigit then none
        else some (if negative then -(digitsValue digits : Int) else digitsValue digits)
      else none

def readMagnitude? (negative : Bool) (text : List Char) : Option Float :=
  let whole := text.takeWhile Char.isDigit
  let rest := text.dropWhile Char.isDigit
  let (places, rest) := match rest with
    | '.' :: cs => (cs.takeWhile Char.isDigit, cs.dropWhile Char.isDigit)
    | _ => ([], rest)
  if whole.isEmpty && places.isEmpty then none
  else (readExponent? rest).map fun exponent =>
    doubleOfDecimal negative (digitsValue (whole ++ places)) (exponent - places.length)

/-- The double that a text stands for, if it is a numeral from beginning to end. -/
def readDouble? (text : List Char) : Option Float :=
  let (negative, rest) := readSign text
  let word := rest.map Char.toLower
  if word = "nan".toList then some (Float.ofBits 0x7FF8000000000000)
  else if word = "inf".toList ∨ word = "infinity".toList then
    some (infiniteDouble negative)
  else readMagnitude? negative rest

end TableSelection.Decimal
