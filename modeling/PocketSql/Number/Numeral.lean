/-
  PocketSql.Number.Numeral — reading numbers from text.

  An integer is an optional sign and at least one digit, and has to fit 64 bits. A
  fractional number may have its point anywhere among at least one digit, an exponent
  with a sign of its own, or be one of the words for infinity and not-a-number in any
  case. Nothing may stand around a number, not even white space.
-/

import PocketSql.Number.Binary64

namespace PocketSql.Numeral

/-- Splits off the sign; a number without one is positive. -/
def sign : List Char → Bool × List Char
  | '-' :: rest => (true, rest)
  | '+' :: rest => (false, rest)
  | cs => (false, cs)

/-- The digits at the start and what follows them. -/
def digits (cs : List Char) : List Char × List Char :=
  (cs.takeWhile Char.isDigit, cs.dropWhile Char.isDigit)

/-- The natural number that decimal digits spell. -/
def value (ds : List Char) : Nat :=
  ds.foldl (fun n c => 10 * n + (c.toNat - '0'.toNat)) 0

/-- A natural number: at least one digit and nothing else. -/
def nat? (cs : List Char) : Option Nat :=
  if cs.isEmpty || !cs.all Char.isDigit then none else some (value cs)

/-- The integers of 64 bits. -/
def fitsInt64 (i : Int) : Bool :=
  Int64.minValue.toInt ≤ i && i ≤ Int64.maxValue.toInt

def int? (cs : List Char) : Option Int64 :=
  let (negative, rest) := sign cs
  match nat? rest with
  | none => none
  | some n =>
    let i : Int := if negative then -n else n
    if fitsInt64 i then some (Int64.ofInt i) else none

/-- A natural number below `bound`. -/
def natBelow? (bound : Nat) (s : String) : Option Nat :=
  match nat? s.toList with
  | some n => if n < bound then some n else none
  | none => none

/-- The exponent that follows the digits of a number; no exponent counts as 0. -/
def exponent? : List Char → Option Int
  | [] => some 0
  | e :: rest =>
    if e == 'e' || e == 'E' then
      let (negative, ds) := sign rest
      (nat? ds).map fun n => if negative then -(n : Int) else n
    else none

/-- A number without its sign, as digits and a power of ten. -/
def scaled? (cs : List Char) : Option (Nat × Int) :=
  let (whole, rest) := digits cs
  let (fraction, rest) := match rest with
    | '.' :: more => digits more
    | _ => ([], rest)
  if whole.isEmpty && fraction.isEmpty then none
  else (exponent? rest).map fun e =>
    (value (whole ++ fraction), e - (fraction.length : Int))

/-- A number without its sign. -/
def unsigned? (negative : Bool) (cs : List Char) : Option Binary64 :=
  let word := cs.map Char.toLower
  if word == "inf".toList || word == "infinity".toList then some (.infinity negative)
  else if word == "nan".toList then
    some (if negative then Binary64.notANumber.neg else .notANumber)
  else (scaled? cs).map fun (n, e) => .ofScaled negative n e

def binary64? (cs : List Char) : Option Binary64 :=
  let (negative, rest) := sign cs
  unsigned? negative rest

end PocketSql.Numeral
