/-
  PocketSql.Document.Record — typed contents of JSON documents.

  A record is an object with known fields, in any order and with any further fields, or
  the array of its fields' values in their order. A known field may stand only once.
  Fields from some place on have defaults, so they may be missing; a field that holds an
  optional value may be missing from an object.
-/

import PocketSql.Document.Reading

namespace PocketSql.Json

/-! ## Records -/

/-- The values of a record's known fields. -/
abbrev Record := List (String × Json)

/-- The fields of an object that are known; none if one stands twice or a name is
    unreadable. -/
def knownFields? (names : List String) :
    List (Option String × Json) → Option Record
  | [] => some []
  | (none, _) :: _ => none
  | (some name, j) :: rest => do
    let more ← knownFields? names rest
    if names.contains name then
      if more.any (·.1 == name) then none else some ((name, j) :: more)
    else some more

/-- The record that a document holds. Of the fields, the first `required` have to be
    there where it is an array. -/
def record? (names : List String) (required : Nat) : Json → Option Record
  | object fields => knownFields? names fields
  | array items =>
    if required ≤ items.length && items.length ≤ names.length then some (names.zip items)
    else none
  | _ => none

/-- A field that has to be there. -/
def Record.get? {α : Type} (r : Record) (name : String) (decode : Json → Option α) : Option α :=
  (r.lookup name).bind decode

/-- A field with a default for when it is missing. -/
def Record.getD? {α : Type} (r : Record) (name : String) (default : α)
    (decode : Json → Option α) : Option α :=
  match r.lookup name with
  | some j => decode j
  | none => some default

/-! ## Contents -/

def asBool? : Json → Option Bool
  | bool b => some b
  | _ => none

def asText? : Json → Option String
  | text s => s
  | _ => none

def asList? {α : Type} (decode : Json → Option α) : Json → Option (List α)
  | array items => items.mapM decode
  | _ => none

/-- An optional value: null stands for none. -/
def asOption? {α : Type} (decode : Json → Option α) : Json → Option (Option α)
  | null => some none
  | j => (decode j).map some

/-- One of several words, as a text or as the one field of an object that holds null. -/
def asWord? {α : Type} (ofName? : String → Option α) : Json → Option α
  | text s => s.bind ofName?
  | object [(some name, null)] => ofName? name
  | _ => none

/-- A natural number below `bound`, written without point and exponent. -/
def asNat? (bound : Nat) : Json → Option Nat
  | number n => Numeral.natBelow? bound n
  | _ => none

/-! ## Numbers

A number without point and exponent is an integer where 64 bits hold it. Any other is
made of as many of its digits as 64 bits hold, which are rounded to a binary number and
then multiplied or divided by a power of ten, with one more rounding. -/

/-- What 64 bits hold. -/
def wordBound : Nat := UInt64.size

/-- Digits added to a number as long as it stays below `wordBound`, and the digits that
    are left. -/
def takeDigits (n : Nat) : List Char → Nat × List Char
  | [] => (n, [])
  | d :: ds =>
    let m := 10 * n + Numeral.value [d]
    if m < wordBound then takeDigits m ds else (n, d :: ds)

/-- The binary number nearest to a power of ten. -/
def powerOfTen (k : Nat) : Binary64 :=
  .ofScaled false 1 k

/-- Divides by ten to the power `k`, by 10 ^ 308 at a time. Three such steps lead to zero
    from any start. -/
def scaleDown (x : Binary64) : Nat → Nat → Binary64
  | 0, _ => x
  | more + 1, k =>
    if k ≤ 308 then x.div (powerOfTen k)
    else if x.isZero then x
    else scaleDown (x.div (powerOfTen 308)) more (k - 308)

/-- `n * 10 ^ e`; none if that is out of range. -/
def scaled? (n : Nat) (e : Int) : Option Binary64 :=
  let x := Binary64.ofInt n
  if 0 ≤ e then
    if 308 < e then if x.isZero then some x else none
    else
      let y := x.mul (powerOfTen e.toNat)
      if y.isFinite then some y else none
  else some (scaleDown x 4 (-e).toNat)

/-- Digits, a point maybe and digits after it, and an exponent maybe. -/
def ofDigits? (cs : List Char) : Option Binary64 := do
  let (whole, rest) := Numeral.digits cs
  let (n, left) := takeDigits 0 whole
  let (fraction, rest) := match rest with
    | '.' :: more => Numeral.digits more
    | _ => ([], rest)
  let (n, unused) := takeDigits n fraction
  let used := fraction.length - unused.length
  let e ← Numeral.exponent? rest
  scaled? n ((left.length : Int) - (used : Int) + e)

/-- Any number, as a binary one. -/
def asFloat? : Json → Option Binary64
  | number n =>
    match n.toList with
    | '-' :: cs => (ofDigits? cs).map Binary64.neg
    | cs => ofDigits? cs
  | _ => none

/-- An integer of 64 bits. Minus zero is none. -/
def asInt64? : Json → Option Int64
  | number n => if n == "-0" then none else Numeral.int? n.toList
  | _ => none

end PocketSql.Json
