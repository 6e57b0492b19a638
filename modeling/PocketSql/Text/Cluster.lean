/-
  PocketSql.Text.Cluster — what a reader takes for one character.

  A letter with its accents, a syllable of Korean jamo, a conjunct of consonants, a flag
  or a joined emoji is one cluster: an extended grapheme cluster. Between which two
  characters a cluster ends hangs on their classes and, for conjuncts, joined emoji and
  flags, on some characters before them. `flatten_clusters` says that a text is its
  clusters one after the other.
-/

import PocketSql.Text.ClusterRanges
import PocketSql.Text.Letters

namespace PocketSql.Text

/-! ## Classes -/

/-- What a character is to its neighbours. -/
inductive ClusterClass where
  | carriageReturn
  | lineFeed
  | control
  /-- A mark that is neither a linker nor one of the two joiners. -/
  | extend
  | linker
  | nonJoiner
  | joiner
  | spacing
  | prepend
  | consonant
  | pictograph
  | regional
  /-- The three parts of a Korean syllable, and syllables without and with the third. -/
  | leading
  | vowel
  | trailing
  | openSyllable
  | closedSyllable
  | other
  deriving DecidableEq

namespace ClusterClass

/-- The class of a precomposed Korean syllable. Every 28th has no trailing consonant. -/
def ofSyllable (n : Nat) : ClusterClass :=
  if (n - 0xAC00) % 28 == 0 then openSyllable else closedSyllable

def ofCode (n : Nat) : ClusterClass :=
  if n == 0x0D then carriageReturn
  else if n == 0x0A then lineFeed
  else if 0x20 ≤ n && n < 0x7F then other
  else if n == 0x200C then nonJoiner
  else if n == 0x200D then joiner
  else if 0xAC00 ≤ n && n ≤ 0xD7A3 then ofSyllable n
  else if 0x1F1E6 ≤ n && n ≤ 0x1F1FF then regional
  else if inRanges ClusterRanges.control n then control
  else if inRanges ClusterRanges.linker n then linker
  else if inRanges ClusterRanges.extend n then extend
  else if inRanges ClusterRanges.spacing n then spacing
  else if inRanges ClusterRanges.prepend n then prepend
  else if inRanges ClusterRanges.consonant n then consonant
  else if inRanges ClusterRanges.pictograph n then pictograph
  else if inRanges ClusterRanges.leading n then leading
  else if inRanges ClusterRanges.vowel n then vowel
  else if inRanges ClusterRanges.trailing n then trailing
  else other

def ofChar (c : Char) : ClusterClass :=
  ofCode c.toNat

/-- Whether a character of this class stands alone. -/
def isControl : ClusterClass → Bool
  | carriageReturn | lineFeed | control => true
  | _ => false

/-- Whether a character of this class never starts a cluster but after a control
    character. -/
def isMark : ClusterClass → Bool
  | extend | linker | nonJoiner | joiner | spacing => true
  | _ => false

/-- Whether two neighbours belong to one Korean syllable. -/
def sameSyllable : ClusterClass → ClusterClass → Bool
  | leading, leading | leading, vowel | leading, openSyllable | leading, closedSyllable => true
  | openSyllable, vowel | openSyllable, trailing | vowel, vowel | vowel, trailing => true
  | closedSyllable, trailing | trailing, trailing => true
  | _, _ => false

end ClusterClass

/-! ## Boundaries -/

/-- How far a run of characters has come towards taking in one more of its kind. -/
inductive Bond where
  | none
  /-- The character that such a run starts with, and marks after it. -/
  | started
  /-- The next character of the kind belongs to the run. -/
  | ready
  deriving DecidableEq

/-- What the characters before a place mean to a boundary there. -/
structure Preceding where
  last : ClusterClass
  /-- A consonant and marks after it; ready once a linker is among them. -/
  conjunct : Bond
  /-- A pictograph and marks after it; ready right after a joiner. -/
  emoji : Bond
  /-- Whether the regional indicators right before the place are odd in number. -/
  oddRegionals : Bool

namespace Preceding

/-- The start of a text, where a cluster starts in any case. -/
def start : Preceding :=
  { last := .control, conjunct := .none, emoji := .none, oddRegionals := false }

def nextConjunct (b : Bond) : ClusterClass → Bond
  | .consonant => .started
  | .linker => if b == .none then .none else .ready
  | .extend | .joiner => b
  | _ => .none

def nextEmoji (b : Bond) : ClusterClass → Bond
  | .pictograph => .started
  | .extend | .linker | .nonJoiner => if b == .started then .started else .none
  | .joiner => if b == .started then .ready else .none
  | _ => .none

/-- The same for the place behind one more character. -/
def add (p : Preceding) (k : ClusterClass) : Preceding :=
  { last := k
    conjunct := nextConjunct p.conjunct k
    emoji := nextEmoji p.emoji k
    oddRegionals := k == .regional && !p.oddRegionals }

/-- Whether a character of class `k` belongs to the cluster before it. -/
def takesIn (p : Preceding) (k : ClusterClass) : Bool :=
  if p.last == .carriageReturn && k == .lineFeed then true
  else if p.last.isControl || k.isControl then false
  else p.last.sameSyllable k || k.isMark || p.last == .prepend
    || (k == .consonant && p.conjunct == .ready)
    || (k == .pictograph && p.emoji == .ready)
    || (k == .regional && p.oddRegionals)

end Preceding

/-! ## Clusters -/

/-- The characters up to the first boundary, and the clusters after it. -/
def clustersAfter (p : Preceding) : List Char → List Char × List (List Char)
  | [] => ([], [])
  | c :: rest =>
    let k := ClusterClass.ofChar c
    let (more, next) := clustersAfter (p.add k) rest
    if p.takesIn k then (c :: more, next) else ([], (c :: more) :: next)

/-- The clusters of a text. -/
def clusters (cs : List Char) : List (List Char) :=
  (clustersAfter .start cs).2

theorem append_flatten_clustersAfter (p : Preceding) (cs : List Char) :
    (clustersAfter p cs).1 ++ (clustersAfter p cs).2.flatten = cs := by
  induction cs generalizing p with
  | nil => rfl
  | cons c rest ih =>
    have h := ih (p.add (.ofChar c))
    by_cases hk : p.takesIn (.ofChar c) <;> simpa [clustersAfter, hk] using h

theorem takesIn_start (k : ClusterClass) : Preceding.start.takesIn k = false := rfl

theorem clustersAfter_start_fst (cs : List Char) : (clustersAfter .start cs).1 = [] := by
  cases cs <;> simp [clustersAfter, takesIn_start]

/-- A text is its clusters one after the other. -/
theorem flatten_clusters (cs : List Char) : (clusters cs).flatten = cs := by
  have h := append_flatten_clustersAfter .start cs
  rwa [clustersAfter_start_fst, List.nil_append] at h

end PocketSql.Text
