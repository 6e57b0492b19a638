/-
  PocketSql.Number.Shortest — the fewest decimal digits that read back.

  The reals that round to a finite number form an interval around it, with its ends
  where the significand is even. For one digit, two, and so on, the two neighbours of
  the number on that decimal grid are tried; the first grid with a neighbour in the
  interval wins, of two neighbours the nearer one.
-/

import PocketSql.Number.Binary64

namespace PocketSql

/-- The decimal number `digits * 10 ^ exponent`. -/
structure Decimal where
  digits : Nat
  exponent : Int
  deriving DecidableEq

/-- What is chosen when two neighbours are equally near. -/
inductive Tie where
  | up
  | toEven

namespace Decimal

/-- The same number without trailing zeros in its digits. -/
def normalize (d : Decimal) : Decimal :=
  if h : d.digits ≠ 0 ∧ d.digits % 10 = 0 then
    normalize ⟨d.digits / 10, d.exponent + 1⟩
  else d
termination_by d.digits
decreasing_by omega

/-- The digits from the first one on. -/
def digitChars (d : Decimal) : List Char :=
  Nat.toDigits 10 d.digits

end Decimal

/-- The reals that round to a number, over a common denominator: the number itself is
    `value / unit`, its interval goes from `low / unit` to `high / unit`. -/
structure Interval where
  value : Nat
  low : Nat
  high : Nat
  unit : Nat
  closed : Bool

namespace Interval

/-- The interval of a finite number other than zero. Just above a power of two the
    neighbour below is only half as far. -/
def around (x : Binary64) : Interval :=
  let m := 4 * x.significand
  let below := if x.significand = Binary64.leadingBit ∧ -1074 < x.exponent then 1 else 2
  let e := x.exponent - 2
  { value := Binary64.shiftUp m e
    low := Binary64.shiftUp (m - below) e
    high := Binary64.shiftUp (m + 2) e
    unit := twoTo (-e)
    closed := x.significand % 2 == 0 }

/-- Whether `c * 10 ^ k` rounds to the number. -/
def holds (i : Interval) (c : Nat) (k : Int) : Bool :=
  let up := tenTo (-k)
  let point := c * i.unit * tenTo k
  if i.closed then i.low * up ≤ point && point ≤ i.high * up
  else i.low * up < point && point < i.high * up

/-- How many digits stand before the decimal point: the least `p` with the number
    below `10 ^ p`. It may be negative. -/
def digitsBefore (i : Interval) : Int :=
  let log : Int := (i.value.log2 : Int) - (i.unit.log2 : Int)
  let p : Int := log * 30103 / 100000 + 1
  if i.unit * tenTo p ≤ i.value * tenTo (-p) then p + 1
  else if i.value * tenTo (1 - p) < i.unit * tenTo (p - 1) then p - 1
  else p

/-- The nearer one of `c` and `c + 1` on the grid `10 ^ k`. -/
def nearer (i : Interval) (tie : Tie) (c : Nat) (k : Int) : Nat :=
  let twice := 2 * i.value * tenTo (-k)
  let middle := (2 * c + 1) * i.unit * tenTo k
  if twice < middle then c
  else if middle < twice then c + 1
  else match tie with
    | .up => c + 1
    | .toEven => c + c % 2

/-- Tries grids from `10 ^ k` downwards, `grids` of them. -/
def search (i : Interval) (tie : Tie) (k : Int) : Nat → Decimal
  | 0 => ⟨i.value * tenTo (-k) / (i.unit * tenTo k), k⟩
  | grids + 1 =>
    let c := i.value * tenTo (-k) / (i.unit * tenTo k)
    match i.holds c k, i.holds (c + 1) k with
    | true, true => ⟨i.nearer tie c k, k⟩
    | true, false => ⟨c, k⟩
    | false, true => ⟨c + 1, k⟩
    | false, false => search i tie (k - 1) grids

end Interval

/-- The shortest decimal that reads back as the finite number `x`, up to its sign.
    Seventeen digits are always enough. -/
def Binary64.shortest (tie : Tie) (x : Binary64) : Decimal :=
  if x.isZero then ⟨0, 0⟩
  else
    let i := Interval.around x
    (i.search tie (i.digitsBefore - 1) 17).normalize

end PocketSql
