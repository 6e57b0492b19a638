/-
  PocketSql.Number.Layout — how numbers are written.

  Values are shown positionally at any size, without a point where there is no
  fraction. Stored documents keep a point in every fractional number and change to an
  exponent below 10^-5 and from 10^16 on. Both write the fewest digits that read back.
-/

import PocketSql.Number.Shortest

namespace PocketSql

namespace Decimal

def zeros (n : Nat) : List Char :=
  List.replicate n '0'

/-- How many digits stand before the point when the number is written out. -/
def pointAt (d : Decimal) : Int :=
  (d.digitChars.length : Int) + d.exponent

/-- The number written out, without a point where there is no fraction. -/
def positional (d : Decimal) : List Char :=
  let ds := d.digitChars
  if 0 ≤ d.exponent then ds ++ zeros d.exponent.toNat
  else if 0 < d.pointAt then
    ds.take d.pointAt.toNat ++ '.' :: ds.drop d.pointAt.toNat
  else '0' :: '.' :: zeros (-d.pointAt).toNat ++ ds

/-- One digit, a point if more follow, and the power of ten with its sign. -/
def scientific (d : Decimal) : List Char :=
  let e := d.pointAt - 1
  let mantissa := match d.digitChars with
    | [] => []
    | [c] => [c]
    | c :: rest => c :: '.' :: rest
  mantissa ++ 'e' :: (if e < 0 then '-' else '+') :: Nat.toDigits 10 e.natAbs

end Decimal

namespace Binary64

def signed (x : Binary64) (cs : List Char) : String :=
  String.ofList (if x.negative then '-' :: cs else cs)

/-- The text of a number as a value. -/
def text (x : Binary64) : String :=
  if x.isNaN then "NaN"
  else if !x.isFinite then x.signed "inf".toList
  else x.signed (x.shortest .up).positional

/-- The text of a finite number in a stored document. -/
def documentText (x : Binary64) : String :=
  let d := x.shortest .toEven
  if x.isZero || (-5 < d.pointAt && d.pointAt ≤ 16) then
    x.signed (if 0 ≤ d.exponent then d.positional ++ ['.', '0'] else d.positional)
  else x.signed d.scientific

/-- The text of a finite number with a fixed number of places. An exact half goes to the
    even neighbour. -/
def fixedText (places : Nat) (x : Binary64) : String :=
  let n := roundHalfEven (shiftUp (x.significand * tenTo places) x.exponent)
    (twoTo (-x.exponent))
  let ds := Nat.toDigits 10 n
  let ds := Decimal.zeros (places + 1 - ds.length) ++ ds
  let whole := ds.length - places
  x.signed (ds.take whole ++ if places == 0 then [] else '.' :: ds.drop whole)

end Binary64

end PocketSql
