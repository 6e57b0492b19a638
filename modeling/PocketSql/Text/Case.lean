/-
  PocketSql.Text.Case — upper case, lower case, case folding, and the order of texts.

  Three notions of "the same up to case" are used side by side. Names of tables, columns
  and indexes agree up to the case of ASCII letters (`sameName`). Names of databases,
  and the texts that a comparison looks at, are put into full lower case (`lower`), where
  one character may become several and a final sigma is told from an inner one. Patterns
  compare single characters by simple case folding (`sameFolded`).
-/

import PocketSql.Text.CaseRuns
import PocketSql.Text.Letters

namespace PocketSql.Text

/-- The upper-case form of one character. -/
def upperChar (c : Char) : List Char :=
  if c.toNat < 128 then [c.toUpper]
  else match CaseRuns.upperExpansions.lookup c.toNat with
    | some codes => codes.map Char.ofNat
    | none => [Char.ofNat (CaseRun.apply CaseRuns.upper c.toNat)]

/-- The lower-case form of one character, away from any neighbours. -/
def lowerChar (c : Char) : List Char :=
  if c.toNat < 128 then [c.toLower]
  else match CaseRuns.lowerExpansions.lookup c.toNat with
    | some codes => codes.map Char.ofNat
    | none => [Char.ofNat (CaseRun.apply CaseRuns.lower c.toNat)]

/-- The text in upper case. -/
def upper (s : String) : String :=
  String.ofList (s.toList.flatMap upperChar)

/-- Whether the first character that is not ignored for case is a cased one. -/
def startsCased : List Char → Bool
  | [] => false
  | c :: rest =>
    if inRanges CaseRuns.caseIgnorable c.toNat then startsCased rest
    else inRanges CaseRuns.cased c.toNat

/-- The capital sigma, the one letter whose lower-case form hangs on its place. -/
def capitalSigma : Char := Char.ofNat 0x3A3

/-- The form of a small sigma at the end of a word. -/
def finalSigma : Char := Char.ofNat 0x3C2

/-- Lower-cases the rest of a text of which `before` is the part already read, backwards.
    A sigma is final when a cased letter stands before it and none after it. -/
def lowerAfter (before : List Char) : List Char → List Char
  | [] => []
  | c :: rest =>
    (if c == capitalSigma && startsCased before && !startsCased rest then [finalSigma]
      else lowerChar c) ++ lowerAfter (c :: before) rest

/-- The text in lower case. -/
def lower (s : String) : String :=
  String.ofList (lowerAfter [] s.toList)

/-- Equality of names up to the case of ASCII letters. -/
def sameName (a b : String) : Bool :=
  a.toList.map Char.toLower == b.toList.map Char.toLower

/-- The representative of a character's case-folding class. -/
def foldChar (c : Char) : Nat :=
  if c.toNat < 128 then c.toLower.toNat else CaseRun.apply CaseRuns.fold c.toNat

/-- Equality of characters under simple case folding. -/
def sameFolded (a b : Char) : Bool :=
  foldChar a == foldChar b

/-- The order of texts by code point, which is also the order of their UTF-8 bytes. -/
def compareChars : List Char → List Char → Ordering
  | [], [] => .eq
  | [], _ :: _ => .lt
  | _ :: _, [] => .gt
  | a :: as, b :: bs => (compare a.toNat b.toNat).then (compareChars as bs)

def compareText (a b : String) : Ordering :=
  compareChars a.toList b.toList

end PocketSql.Text
