/-
  PocketSql.Number.Binary64 — 64-bit binary floating numbers, kept as their bits.

  A word holds a sign, an exponent field and a fraction. The low 63 bits, read as a
  natural number, grow with the number's absolute value, so that both orders of the
  numbers are orders of integers: `numericKey` for the comparison by value, where the two
  zeros agree, and `totalKey` for the order of all words, where -0 stands below 0 and
  the not-a-numbers at the two ends.

  Arithmetic is exact up to one rounding at its end (`ofRatio`): to nearest, and at an
  exact half to the even neighbour.
-/

import PocketSql.Number.Power

namespace PocketSql

/-- A binary floating number of 64 bits. -/
structure Binary64 where
  bits : UInt64
  deriving DecidableEq, Inhabited

namespace Binary64

/-! ## Fields -/

/-- The weight of the sign bit, 2 ^ 63. -/
def signWeight : Nat := 0x8000000000000000

/-- The weight of the lowest bit of the exponent field, 2 ^ 52. A significand of full
    length has this bit as its leading one. -/
def leadingBit : Nat := 0x10000000000000

def negative (x : Binary64) : Bool :=
  signWeight ≤ x.bits.toNat

/-- The bits below the sign. -/
def magnitude (x : Binary64) : Nat :=
  x.bits.toNat % signWeight

/-- The magnitude of the infinities; every larger one is not a number. -/
def infinityMagnitude : Nat := 2047 * leadingBit

def isNaN (x : Binary64) : Bool :=
  infinityMagnitude < x.magnitude

def isFinite (x : Binary64) : Bool :=
  x.magnitude < infinityMagnitude

def isZero (x : Binary64) : Bool :=
  x.magnitude == 0

def ofMagnitude (negative : Bool) (magnitude : Nat) : Binary64 :=
  ⟨UInt64.ofNat (if negative then signWeight + magnitude else magnitude)⟩

def zero : Binary64 := ofMagnitude false 0

def infinity (negative : Bool) : Binary64 := ofMagnitude negative infinityMagnitude

def notANumber : Binary64 := ofMagnitude false (infinityMagnitude + leadingBit / 2)

/-- A finite number is `significand * 2 ^ exponent` up to its sign. -/
def significand (x : Binary64) : Nat :=
  if x.magnitude < leadingBit then x.magnitude else leadingBit + x.magnitude % leadingBit

def exponent (x : Binary64) : Int :=
  if x.magnitude < leadingBit then -1074
  else ((x.magnitude / leadingBit : Nat) : Int) - 1075

def neg (x : Binary64) : Binary64 :=
  ofMagnitude (!x.negative) x.magnitude

/-! ## Order -/

/-- The place of a number in the order by value. -/
def numericKey (x : Binary64) : Int :=
  if x.negative then -(x.magnitude : Int) else x.magnitude

/-- The place of a word in the order of all words. -/
def totalKey (x : Binary64) : Int :=
  if x.negative then -(x.magnitude : Int) - 1 else x.magnitude

/-- Equality by value; a not-a-number equals nothing. -/
def eq (x y : Binary64) : Bool :=
  !x.isNaN && !y.isNaN && x.numericKey == y.numericKey

/-- Order by value; a not-a-number is below nothing and above nothing. -/
def lt (x y : Binary64) : Bool :=
  !x.isNaN && !y.isNaN && decide (x.numericKey < y.numericKey)

def compareTotal (x y : Binary64) : Ordering :=
  compare x.totalKey y.totalKey

/-! ## Rounding -/

/-- The integer nearest to `num / den`, the even one of two. -/
def roundHalfEven (num den : Nat) : Nat :=
  let q := num / den
  let twice := 2 * (num % den)
  if twice < den then q
  else if den < twice then q + 1
  else q + q % 2

/-- Multiplies by `2 ^ e` where `e` is positive, else leaves the number alone. -/
def shiftUp (n : Nat) (e : Int) : Nat :=
  n * twoTo e

/-- The number nearest to `num / den`. -/
def ofRatio (negative : Bool) (num den : Nat) : Binary64 :=
  if num == 0 then ofMagnitude negative 0
  else
    let guess : Int := (num.log2 : Int) - (den.log2 : Int)
    let log : Int := if shiftUp den guess ≤ shiftUp num (-guess) then guess else guess - 1
    let e : Int := max (log - 52) (-1074)
    let q := roundHalfEven (shiftUp num (-e)) (shiftUp den e)
    ofMagnitude negative (min ((e + 1074).toNat * leadingBit + q) infinityMagnitude)

/-- The number nearest to an integer. -/
def ofInt (i : Int) : Binary64 :=
  ofRatio (i < 0) i.natAbs 1

/-- The number nearest to `digits * 10 ^ e`. Exponents that lead out of the range of
    the format on either side are not carried out. -/
def ofScaled (negative : Bool) (digits : Nat) (e : Int) : Binary64 :=
  let top : Int := (digits.log2 : Int) * 3 / 10 + e
  if digits == 0 then ofMagnitude negative 0
  else if 400 < top then infinity negative
  else if top < -400 && ((Nat.toDigits 10 digits).length : Int) + e < -400 then
    ofMagnitude negative 0
  else if 0 ≤ e then ofRatio negative (digits * tenTo e) 1
  else ofRatio negative digits (tenTo (-e))

/-! ## Arithmetic on finite numbers -/

/-- The exact quotient of `a * 2 ^ e` and `b`, rounded once. -/
def ofScaledRatio (negative : Bool) (a b : Nat) (e : Int) : Binary64 :=
  ofRatio negative (shiftUp a e) (shiftUp b (-e))

def mul (x y : Binary64) : Binary64 :=
  ofScaledRatio (x.negative != y.negative) (x.significand * y.significand) 1
    (x.exponent + y.exponent)

/-- The quotient by a number that is not zero. -/
def div (x y : Binary64) : Binary64 :=
  ofScaledRatio (x.negative != y.negative) x.significand y.significand
    (x.exponent - y.exponent)

/-- The integer part of a finite number. -/
def truncate (x : Binary64) : Int :=
  let n := shiftUp x.significand x.exponent / twoTo (-x.exponent)
  if x.negative then -(n : Int) else n

end Binary64

end PocketSql
