/-
  PocketSql.Proofs.Like — what a pattern with wildcards matches.

  A text follows a pattern if it can be cut into parts, one for each character of the
  pattern in order: any run for `%`, one character for `_`, and the character itself up
  to simple case folding for every other one. The expression of a pattern has one piece for
  each of its characters, between the beginning and the end of the text (`read_expression`),
  so a compiler that is documented makes a test of it that accepts the texts which follow
  the pattern. But the dot of an expression stands for no line break, so the wildcards mean
  what they are said to mean just in texts without one (`documented_iff`).
-/

import PocketSql.Like
import PocketSql.Proofs.Regex

namespace PocketSql.Like

/-! ## Texts cut into parts -/

/-- Whether a character of a pattern stands for a part of a text. The wildcards stand for the
    characters of `wild`. -/
def StandsFor (wild : Char → Bool) (p : Char) (part : List Char) : Prop :=
  if p = '%' then ∀ c ∈ part, wild c = true
  else if p = '_' then ∃ c, part = [c] ∧ wild c = true
  else ∃ c, part = [c] ∧ Text.sameFolded p c = true

/-- Whether a text can be cut into parts, one for each character of a pattern, that these
    stand for. -/
def Follows (wild : Char → Bool) (pattern text : List Char) : Prop :=
  ∃ parts, List.Forall₂ (StandsFor wild) pattern parts ∧ parts.flatten = text

variable {wild wild' : Char → Bool} {p c : Char} {pattern text : List Char}

theorem follows_nil : Follows wild [] text ↔ text = [] := by
  constructor
  · rintro ⟨parts, hparts, rfl⟩
    cases hparts
    rfl
  · rintro rfl
    exact ⟨[], .nil, rfl⟩

theorem follows_cons : Follows wild (p :: pattern) text ↔
    ∃ part rest, text = part ++ rest ∧ StandsFor wild p part ∧ Follows wild pattern rest := by
  constructor
  · rintro ⟨parts, hparts, rfl⟩
    cases hparts with
    | cons hpart hparts => exact ⟨_, _, rfl, hpart, _, hparts, rfl⟩
  · rintro ⟨part, rest, rfl, hpart, parts, hparts, rfl⟩
    exact ⟨part :: parts, .cons hpart hparts, rfl⟩

/-- The characters that a wildcard meets are all in the text. -/
theorem Follows.imp (h : Follows wild pattern text) (hw : ∀ c ∈ text, wild c = true → wild' c = true) :
    Follows wild' pattern text := by
  induction pattern generalizing text with
  | nil => exact follows_nil.mpr (follows_nil.mp h)
  | cons p pattern ih =>
    obtain ⟨part, rest, rfl, hpart, hrest⟩ := follows_cons.mp h
    have hpart' : StandsFor wild' p part := by
      unfold StandsFor at hpart ⊢
      split_ifs at hpart ⊢
      · intro c hc
        exact hw c (List.mem_append_left _ hc) (hpart c hc)
      · obtain ⟨c, rfl, hc⟩ := hpart
        exact ⟨c, rfl, hw c List.mem_cons_self hc⟩
      · exact hpart
    have hrest' := ih hrest fun c hc => hw c (List.mem_append_right _ hc)
    exact follows_cons.mpr ⟨part, rest, rfl, hpart', hrest'⟩

/-! ## The expression of a pattern -/

open Regex

/-- The characters that the dot of an expression stands for. -/
def isWild (c : Char) : Bool :=
  c != '\n'

/-- The piece of an expression for a character of a pattern. -/
def pieceOf (p : Char) : Piece :=
  if p = '%' then .many .any else if p = '_' then .one .any else .one (.char p)

theorem standsFor_pieceOf {before part rest : List Char} :
    (pieceOf p).StandsFor true before part rest ↔ StandsFor isWild p part := by
  unfold pieceOf StandsFor
  split_ifs <;> rfl

/-- The pieces of a pattern, up to the end of the text. -/
theorem matchesAt_pattern {before : List Char} :
    MatchesAt true (pattern.map pieceOf ++ [.stop]) before text ↔ Follows isWild pattern text := by
  induction pattern generalizing before text with
  | nil =>
    rw [follows_nil]
    exact matchesAt_stop.trans (and_iff_left trivial)
  | cons p pattern ih =>
    rw [follows_cons]
    exact exists₂_congr fun part rest => and_congr_right fun _ => and_congr standsFor_pieceOf ih

/-- The signs of the expression for a character of a pattern. -/
def signsOf (p : Char) : List Sign :=
  if p = '%' then [.atom .any, .star] else if p = '_' then [.atom .any] else [.atom (.char p)]

theorem pieces_pattern (pattern : List Char) :
    pieces (pattern.flatMap signsOf ++ [.stop]) = some (pattern.map pieceOf ++ [.stop]) := by
  induction pattern with
  | nil => rfl
  | cons p pattern ih =>
    rw [List.flatMap_cons, List.append_assoc, List.map_cons, List.cons_append]
    unfold signsOf pieceOf
    split_ifs
    · show (.many .any :: ·) <$> pieces (pattern.flatMap signsOf ++ [.stop]) = _
      rw [ih]
      rfl
    · exact pieces_atom ih
    · exact pieces_atom ih

section Translation

variable [RegexCompiler]

theorem signs_expressionOf (h : Documented) (p : Char) :
    signs false (expressionOf p).toList = some (signsOf p) := by
  unfold expressionOf signsOf
  by_cases hrun : p = '%'
  · rw [if_pos hrun, if_pos (beq_iff_eq.mpr hrun)]
    rfl
  by_cases hone : p = '_'
  · rw [if_neg hrun, if_pos hone, if_neg (by simpa using hrun), if_pos (beq_iff_eq.mpr hone)]
    rfl
  · rw [if_neg hrun, if_neg hone, if_neg (by simpa using hrun), if_neg (by simpa using hone)]
    exact signs_of_character (by simpa [Regex.read] using h.escape p.toString)

theorem signs_pattern (h : Documented) (pattern : List Char) :
    signs false (pattern.flatMap fun p => (expressionOf p).toList) = some (pattern.flatMap signsOf) := by
  induction pattern with
  | nil => rfl
  | cons p pattern ih =>
    rw [List.flatMap_cons, signs_append (signs_expressionOf h p), ih]
    rfl

theorem read_expression (h : Documented) (pattern : String) :
    Regex.read (expression pattern) = some (.start :: (pattern.toList.map pieceOf ++ [.stop])) := by
  have hchars : (expression pattern).toList =
      '^' :: ((pattern.toList.flatMap fun p => (expressionOf p).toList) ++ ['$']) := by
    simp [expression, String.toList_join, List.flatMap_map]
  have hsigns : signs false (expression pattern).toList =
      some (.start :: (pattern.toList.flatMap signsOf ++ [.stop])) := by
    rw [hchars]
    show (.start :: ·) <$> signs false (_ ++ ['$']) = _
    rw [signs_append (signs_pattern h pattern.toList)]
    rfl
  rw [Regex.read, hsigns]
  show (.start :: ·) <$> pieces (pattern.toList.flatMap signsOf ++ [.stop]) = _
  rw [pieces_pattern]
  rfl

/-- The test that a pattern makes. -/
theorem compile_follows (h : Documented) {pattern : String} {isMatch : String → Bool}
    (hcompile : compile pattern = .ok isMatch) (text : String) :
    isMatch text = true ↔ Follows isWild pattern.toList text.toList := by
  have htest : RegexCompiler.compile true (expression pattern) = .ok isMatch := by
    unfold compile at hcompile
    split at hcompile
    next isMatch' hregex =>
      cases hcompile
      exact hregex
    next => cases hcompile
  rw [h.finds (read_expression h pattern) htest, finds_start, matchesAt_pattern]

/-- With a compiler that is documented, the test of a pattern accepts the texts that can be
    cut to follow it, with wildcards that stand for no line break. So for a text all
    patterns mean what they are said to mean, with wildcards that stand for every character,
    exactly if it has no line break. -/
theorem documented_iff (h : Documented) (text : String) :
    (∀ pattern isMatch, compile pattern = .ok isMatch →
      (isMatch text = true ↔ Follows isWild pattern.toList text.toList)) ∧
    ((compile "%").isOk = true →
      ((∀ pattern isMatch, compile pattern = .ok isMatch →
        (isMatch text = true ↔ Follows (fun _ => true) pattern.toList text.toList)) ↔ '\n' ∉ text.toList)) := by
  refine ⟨fun pattern isMatch hcompile => compile_follows h hcompile text, fun hrun => ⟨fun hall hbreak => ?_,
    fun hbreak pattern isMatch hcompile => ?_⟩⟩
  · -- `%` is said to match every text, so this one too
    cases hcompile : compile "%" with
    | error e =>
      rw [hcompile] at hrun
      cases hrun
    | ok isMatch =>
      have hsaid : Follows (fun _ => true) ['%'] text.toList :=
        ⟨[text.toList], .cons (by simp [StandsFor]) .nil, by simp⟩
      have hmatched := (compile_follows h hcompile text).mp ((hall "%" isMatch hcompile).mpr hsaid)
      obtain ⟨part, rest, htext, hpart, hrest⟩ := follows_cons.mp hmatched
      rw [follows_nil.mp hrest, List.append_nil] at htext
      have hwild : ∀ c ∈ part, isWild c = true := hpart
      simpa [isWild] using hwild '\n' (htext ▸ hbreak)
  · rw [compile_follows h hcompile]
    constructor
    · intro h
      exact h.imp fun _ _ _ => rfl
    · intro h
      refine h.imp fun c hc _ => ?_
      rw [isWild, bne_iff_ne]
      rintro rfl
      exact hbreak hc

end Translation

/-- A line break is one character of any run, and yet the pattern does not match. -/
theorem documented_iff_line_break : (compile "a%b").isOk = true ∧ matchesText "a%b" "a\nb" = false ∧
    Follows (fun _ => true) "a%b".toList "a\nb".toList ∧
    ¬∀ pattern isMatch, compile pattern = .ok isMatch →
      (isMatch "a\nb" = true ↔ Follows (fun _ => true) pattern.toList "a\nb".toList) := by
  refine ⟨by decide, by decide, ⟨[['a'], ['\n'], ['b']], ?_, rfl⟩, fun hall => ?_⟩
  · simp [StandsFor, Text.sameFolded]
  · have hbreak := ((documented_iff documented "a\nb").2 (by decide)).mp hall
    exact hbreak (by decide)

example : matchesText "a%b" "a.*B" = true ∧ matchesText "a%b" "a\nb" = false := by decide

end PocketSql.Like
