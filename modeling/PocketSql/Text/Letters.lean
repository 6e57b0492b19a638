/-
  PocketSql.Text.Letters — which characters are letters and digits.

  Words in statements are made of alphabetic and numeric characters of any script; the
  digits of a number are the ten ASCII ones only.
-/

import PocketSql.Text.LetterRanges

namespace PocketSql.Text

/-- Whether `n` lies in one of the inclusive ranges. -/
def inRanges (ranges : List (Nat × Nat)) (n : Nat) : Bool :=
  ranges.any fun r => r.1 ≤ n && n ≤ r.2

/-- The property Alphabetic. -/
def isAlphabetic (c : Char) : Bool :=
  if c.toNat < 128 then c.isAlpha else inRanges LetterRanges.alphabetic c.toNat

/-- The general categories Nd, Nl and No. -/
def isNumeric (c : Char) : Bool :=
  if c.toNat < 128 then c.isDigit else inRanges LetterRanges.numeric c.toNat

def isAlphanumeric (c : Char) : Bool :=
  isAlphabetic c || isNumeric c

end PocketSql.Text
