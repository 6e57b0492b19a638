/-
  PocketSql.Number.Power — powers of two and of ten as natural numbers.

  The numbers of a fraction are scaled by powers with exponents of either sign. Each side
  takes the part of the exponent that is positive, so both sides stay whole.
-/

namespace PocketSql

/-- Two to a power; 1 where the power is negative. -/
def twoTo (e : Int) : Nat :=
  Nat.pow 2 e.toNat

/-- Ten to a power; 1 where the power is negative. -/
def tenTo (e : Int) : Nat :=
  Nat.pow 10 e.toNat

end PocketSql
