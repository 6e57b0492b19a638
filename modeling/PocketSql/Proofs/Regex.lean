/-
  PocketSql.Proofs.Regex — what a regular expression matches.

  An expression matches a text if some part of the text can be cut into parts, one for each
  piece of the expression in order, that these stand for (`Finds`). A compiler is documented
  if its tests tell this, and if what it escapes stands for itself (`Documented`). The one
  that is given is: it keeps one answer for each suffix of the expression, and all of them
  are right after every character that it reads (`Answers`).
-/

import Mathlib.Data.List.Forall2
import PocketSql.Regex

namespace PocketSql.Regex

/-! ## Matches -/

/-- Whether a piece stands for a part of a text, with the text before it and behind it. -/
def Piece.StandsFor (ignoreCase : Bool) (before part rest : List Char) : Piece → Prop
  | start => part = [] ∧ before = []
  | stop => part = [] ∧ rest = []
  | one a => ∃ c, part = [c] ∧ a.accepts ignoreCase c = true
  | many a => ∀ c ∈ part, a.accepts ignoreCase c = true

/-- Whether the text `rest` begins with parts, one for each piece, that these stand for. The
    text `before` is in front of it. -/
def MatchesAt (ignoreCase : Bool) : List Piece → List Char → List Char → Prop
  | [], _, _ => True
  | p :: ps, before, rest => ∃ part more, rest = part ++ more ∧ p.StandsFor ignoreCase before part more ∧
      MatchesAt ignoreCase ps (before ++ part) more

/-- Whether pieces match some part of a text. -/
def Finds (ignoreCase : Bool) (ps : List Piece) (text : List Char) : Prop :=
  ∃ before rest, text = before ++ rest ∧ MatchesAt ignoreCase ps before rest

/-- What is known of a compiler: an escaped text stands for itself, and the test that an
    expression makes tells whether it matches some part of a text. -/
structure Documented [RegexCompiler] : Prop where
  escape (s : String) : read (RegexCompiler.escape s) = some (s.toList.map fun c => .one (.char c))
  finds {ignoreCase : Bool} {expression : String} {ps : List Piece} {isMatch : String → Bool}
    (hread : read expression = some ps)
    (hcompile : RegexCompiler.compile ignoreCase expression = .ok isMatch) (text : String) :
    isMatch text = true ↔ Finds ignoreCase ps text.toList

section Pieces

variable {ignoreCase : Bool} {a : Atom} {c : Char} {ps : List Piece} {before text : List Char}

theorem matchesAt_start : MatchesAt ignoreCase (.start :: ps) before text ↔
    before = [] ∧ MatchesAt ignoreCase ps before text := by
  constructor
  · rintro ⟨part, more, rfl, ⟨rfl, hbefore⟩, hmore⟩
    rw [List.append_nil] at hmore
    exact ⟨hbefore, hmore⟩
  · rintro ⟨hbefore, h⟩
    exact ⟨[], text, rfl, ⟨rfl, hbefore⟩, by rwa [List.append_nil]⟩

theorem matchesAt_stop : MatchesAt ignoreCase (.stop :: ps) before text ↔
    text = [] ∧ MatchesAt ignoreCase ps before text := by
  constructor
  · rintro ⟨part, more, rfl, ⟨rfl, rfl⟩, hmore⟩
    rw [List.append_nil] at hmore
    exact ⟨rfl, hmore⟩
  · rintro ⟨rfl, h⟩
    exact ⟨[], [], rfl, ⟨rfl, rfl⟩, by rwa [List.append_nil]⟩

theorem not_matchesAt_one_nil : ¬MatchesAt ignoreCase (.one a :: ps) before [] := by
  rintro ⟨part, more, htext, ⟨c, rfl, -⟩, -⟩
  cases htext

theorem matchesAt_one_cons : MatchesAt ignoreCase (.one a :: ps) before (c :: text) ↔
    a.accepts ignoreCase c = true ∧ MatchesAt ignoreCase ps (before ++ [c]) text := by
  constructor
  · rintro ⟨part, more, htext, ⟨d, rfl, hd⟩, hmore⟩
    obtain ⟨rfl, rfl⟩ := List.cons.inj htext
    exact ⟨hd, hmore⟩
  · rintro ⟨hc, hmore⟩
    exact ⟨[c], text, rfl, ⟨c, rfl, hc⟩, hmore⟩

/-- At the end of a text any number of characters is none. -/
theorem matchesAt_many_nil : MatchesAt ignoreCase (.many a :: ps) before [] ↔
    MatchesAt ignoreCase ps before [] := by
  constructor
  · rintro ⟨part, more, htext, -, hmore⟩
    obtain ⟨rfl, rfl⟩ := List.append_eq_nil_iff.mp htext.symm
    rwa [List.append_nil] at hmore
  · intro h
    exact ⟨[], [], rfl, by simp [Piece.StandsFor], by rwa [List.append_nil]⟩

/-- In front of a character it is none, or this one and any number of those behind. -/
theorem matchesAt_many_cons : MatchesAt ignoreCase (.many a :: ps) before (c :: text) ↔
    MatchesAt ignoreCase ps before (c :: text) ∨
      a.accepts ignoreCase c = true ∧ MatchesAt ignoreCase (.many a :: ps) (before ++ [c]) text := by
  constructor
  · rintro ⟨part, more, htext, hpart, hmore⟩
    cases part with
    | nil =>
      rw [htext]
      rw [List.append_nil] at hmore
      exact .inl hmore
    | cons d part =>
      obtain ⟨rfl, rfl⟩ := List.cons.inj htext
      obtain ⟨hd, hpart⟩ := List.forall_mem_cons.mp hpart
      exact .inr ⟨hd, part, more, rfl, hpart, by rwa [List.append_assoc]⟩
  · rintro (h | ⟨hc, part, more, rfl, hpart, hmore⟩)
    · exact ⟨[], c :: text, rfl, by simp [Piece.StandsFor], by rwa [List.append_nil]⟩
    · refine ⟨c :: part, more, rfl, List.forall_mem_cons.mpr ⟨hc, hpart⟩, ?_⟩
      rwa [List.append_assoc] at hmore

/-- An expression that begins at the beginning of a text matches there or nowhere. -/
theorem finds_start : Finds ignoreCase (.start :: ps) text ↔ MatchesAt ignoreCase ps [] text := by
  constructor
  · rintro ⟨before, rest, rfl, h⟩
    obtain ⟨rfl, h⟩ := matchesAt_start.mp h
    exact h
  · intro h
    exact ⟨[], text, rfl, matchesAt_start.mpr ⟨rfl, h⟩⟩

end Pieces

/-! ## The scan -/

/-- The answers for all suffixes of an expression at a place of a text, longest first. -/
def Answers (ignoreCase : Bool) (ps : List Piece) (before text : List Char) (answers : List Bool) : Prop :=
  List.Forall₂ (fun suffix answer => answer = true ↔ MatchesAt ignoreCase suffix before text) ps.tails answers

section Scan

variable {ignoreCase : Bool} {p : Piece} {ps : List Piece} {before text : List Char} {answers : List Bool}

/-- The first answer is the one for the whole expression. -/
theorem Answers.headD (h : Answers ignoreCase ps before text answers) :
    answers.headD false = true ↔ MatchesAt ignoreCase ps before text := by
  cases ps with
  | nil | cons =>
    cases h with
    | cons hfirst _ => exact hfirst

theorem Answers.tail (h : Answers ignoreCase (p :: ps) before text answers) :
    Answers ignoreCase ps before text answers.tail := by
  cases h with
  | cons _ hrest => exact hrest

theorem answers_matchEnd (ignoreCase : Bool) (ps : List Piece) (before : List Char) :
    Answers ignoreCase ps before [] (matchEnd before.isEmpty ps) := by
  induction ps with
  | nil => exact .cons (iff_of_true rfl trivial) .nil
  | cons p ps ih =>
    refine .cons ?_ ih
    cases p with
    | start => rw [matchesAt_start, ← ih.headD]; simp
    | stop => rw [matchesAt_stop, ← ih.headD]; simp
    | one a => simp [not_matchesAt_one_nil]
    | many a => rw [matchesAt_many_nil, ← ih.headD]

theorem Answers.matchBefore {c : Char} (h : Answers ignoreCase ps (before ++ [c]) text answers) :
    Answers ignoreCase ps before (c :: text) (matchBefore ignoreCase before.isEmpty c ps answers) := by
  induction ps generalizing answers with
  | nil => exact .cons (iff_of_true rfl trivial) .nil
  | cons p ps ih =>
    have hshorter := ih h.tail
    refine .cons ?_ hshorter
    cases p with
    | start => rw [matchesAt_start, ← hshorter.headD]; simp
    | stop => rw [matchesAt_stop]; simp
    | one a => rw [matchesAt_one_cons, ← h.tail.headD]; simp
    | many a => rw [matchesAt_many_cons, ← hshorter.headD, ← h.headD]; simp

/-- The scan of what is behind `before`. -/
theorem scan_spec (ignoreCase : Bool) (ps : List Piece) (before text : List Char) :
    Answers ignoreCase ps before text (scan ignoreCase ps before.isEmpty text).1 ∧
      ((scan ignoreCase ps before.isEmpty text).2 = true ↔
        ∃ passed rest, text = passed ++ rest ∧ MatchesAt ignoreCase ps (before ++ passed) rest) := by
  induction text generalizing before with
  | nil =>
    have hhere := answers_matchEnd ignoreCase ps before
    refine ⟨hhere, hhere.headD.trans ⟨fun h => ⟨[], [], rfl, by rwa [List.append_nil]⟩, ?_⟩⟩
    rintro ⟨passed, rest, htext, h⟩
    obtain ⟨rfl, rfl⟩ := List.append_eq_nil_iff.mp htext.symm
    rwa [List.append_nil] at h
  | cons c text ih =>
    have hlater : (before ++ [c]).isEmpty = false := by simp
    obtain ⟨hbehind, hfound⟩ := hlater ▸ ih (before ++ [c])
    have hhere := hbehind.matchBefore
    refine ⟨hhere, ?_⟩
    simp only [scan, Bool.or_eq_true, hhere.headD, hfound]
    constructor
    · rintro (h | ⟨passed, rest, rfl, h⟩)
      · exact ⟨[], c :: text, rfl, by rwa [List.append_nil]⟩
      · exact ⟨c :: passed, rest, rfl, by rwa [List.append_assoc] at h⟩
    · rintro ⟨passed, rest, htext, h⟩
      cases passed with
      | nil =>
        rw [htext]
        rw [List.append_nil] at h
        exact .inl h
      | cons d passed =>
        obtain ⟨rfl, rfl⟩ := List.cons.inj htext
        exact .inr ⟨passed, rest, rfl, by rwa [List.append_assoc]⟩

theorem isMatch_iff (ignoreCase : Bool) (ps : List Piece) (text : String) :
    isMatch ignoreCase ps text = true ↔ Finds ignoreCase ps text.toList :=
  (scan_spec ignoreCase ps [] text.toList).2

end Scan

/-! ## Signs -/

theorem signs_append {escaped : Bool} {cs more : List Char} {ss : List Sign} (h : signs escaped cs = some ss) :
    signs escaped (cs ++ more) = (ss ++ ·) <$> signs false more := by
  induction cs generalizing escaped ss with
  | nil =>
    cases escaped with
    | false => cases h; simp
    | true => cases h
  | cons c cs ih =>
    -- each branch puts one sign or none in front of what is read behind it
    have hnext {s : Sign} {b : Bool} (h : (s :: ·) <$> signs b cs = some ss) :
        (s :: ·) <$> signs b (cs ++ more) = (ss ++ ·) <$> signs false more := by
      obtain ⟨ss', hss', rfl⟩ := Option.map_eq_some_iff.mp h
      rw [ih hss', Option.map_eq_map, Option.map_eq_map, Option.map_map]
      rfl
    simp only [signs, List.cons_append] at h ⊢
    split_ifs at h ⊢ <;> first | exact hnext h | exact ih h

/-- A character that needs no backslash. -/
theorem signs_cons {c : Char} (h : isMeta c = false) (cs : List Char) :
    signs false (c :: cs) = (.atom (.char c) :: ·) <$> signs false cs := by
  have hother (d : Char) (hd : isMeta d = true) : (c == d) = false := by
    rw [beq_eq_false_iff_ne]
    rintro rfl
    exact Bool.false_ne_true (h.symm.trans hd)
  simp [signs, h, hother '\\' rfl, hother '.' rfl, hother '*' rfl, hother '^' rfl, hother '$' rfl]

theorem signs_escape (s : String) :
    signs false (escape s).toList = some (s.toList.map fun c => .atom (.char c)) := by
  rw [escape, String.toList_ofList]
  induction s.toList with
  | nil => rfl
  | cons c cs ih =>
    have hone : signs false (if isMeta c then ['\\', c] else [c]) = some [.atom (.char c)] := by
      by_cases hmeta : isMeta c = true
      · simp [signs, hmeta]
      · rw [if_neg hmeta, signs_cons (Bool.eq_false_iff.mpr hmeta)]
        rfl
    rw [List.flatMap_cons, signs_append hone, ih]
    rfl

/-- An atom in front of signs that stand for pieces has no star behind it. -/
theorem pieces_atom {a : Atom} {ss : List Sign} {ps : List Piece} (h : pieces ss = some ps) :
    pieces (.atom a :: ss) = some (.one a :: ps) := by
  cases ss with
  | nil => cases h; rfl
  | cons s ss =>
    cases s with
    | star => cases h
    | start | stop | atom =>
      show (.one a :: ·) <$> pieces (_ :: ss) = some (.one a :: ps)
      rw [h]
      rfl

theorem pieces_characters (cs : List Char) :
    pieces (cs.map fun c => .atom (.char c)) = some (cs.map fun c => .one (.char c)) := by
  induction cs with
  | nil => rfl
  | cons c cs ih => exact pieces_atom ih

theorem pieces_ne_nil (s : Sign) (ss : List Sign) : pieces (s :: ss) ≠ some [] := by
  unfold pieces
  split <;> simp_all

/-- Only the sign of a character stands for one character alone. -/
theorem signs_of_character {cs : List Char} {c : Char}
    (h : signs false cs >>= pieces = some [.one (.char c)]) : signs false cs = some [.atom (.char c)] := by
  obtain ⟨ss, hss, hpieces⟩ := Option.bind_eq_some_iff.mp h
  rw [hss]
  cases ss with
  | nil => cases hpieces
  | cons s ss =>
    cases s with
    | start | stop | star => simp [pieces] at hpieces
    | atom a =>
      cases ss with
      | nil => simpa [pieces] using hpieces
      | cons s ss => cases s <;> simp [pieces, pieces_ne_nil] at hpieces

/-- The compiler that is given is documented. -/
theorem documented : Documented where
  escape s := by
    rw [read, show RegexCompiler.escape s = escape s from rfl, signs_escape]
    exact pieces_characters s.toList
  finds := by
    intro ignoreCase expression ps test hread hcompile text
    have htest : isMatch ignoreCase ps = test := by
      simpa [RegexCompiler.compile, hread] using hcompile
    rw [← htest]
    exact isMatch_iff ignoreCase ps text

end PocketSql.Regex
