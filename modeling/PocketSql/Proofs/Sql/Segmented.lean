/-
  PocketSql.Proofs.Sql.Segmented — a WHERE clause is cut, and no token of it is lost.

  A clause ends in front of the first semicolon, or of the first GROUP, ORDER or LIMIT
  outside parentheses, and the ANDs and ORs outside parentheses join its segments. This
  leaves one way to cut the tokens, also where their parentheses do not match
  (`isCut_iff`): the first token of a clause either starts the first segment or is a
  connective with an empty segment in front of it, and what follows is cut in the same way
  at the depth behind it (`isCut_push`, `isCut_startWith`). The parser refuses a clause just
  where one of the segments is empty, and otherwise reads each of them by itself
  (`condition_of_cut`).
-/

import PocketSql.Proofs.Sql.Written

namespace PocketSql.Sql

/-! ## Tokens that end and join -/

/-- What ends a clause at some depth of parentheses. -/
def Ends (depth : Nat) (t : Token) : Prop :=
  t = .symbol .semicolon ∨ depth = 0 ∧ (t = .keyword .GROUP ∨ t = .keyword .ORDER ∨ t = .keyword .LIMIT)

/-- What joins two segments at some depth of parentheses. -/
def Joins (depth : Nat) (t : Token) : Prop :=
  depth = 0 ∧ (t = .keyword .AND ∨ t = .keyword .OR)

variable {depth : Nat} {t : Token} {ts : List Token}

theorem endsCondition_iff : endsCondition depth t = true ↔ Ends depth t := by
  unfold Ends
  cases t with
  | symbol s => cases s <;> simp [endsCondition]
  | keyword k => cases k <;> simp [endsCondition]
  | _ => simp [endsCondition]

theorem connective?_eq_some_iff {c : Connective} :
    connective? depth t = some c ↔ depth = 0 ∧ t = .keyword c.keyword := by
  cases t with
  | keyword k => cases k <;> cases c <;> simp [connective?, Connective.keyword]
  | _ => cases c <;> simp [connective?]

theorem joins_iff : Joins depth t ↔ ∃ c : Connective, depth = 0 ∧ t = .keyword c.keyword := by
  constructor
  · rintro ⟨hd, rfl | rfl⟩
    · exact ⟨.and, hd, rfl⟩
    · exact ⟨.or, hd, rfl⟩
  · rintro ⟨c, hd, rfl⟩
    cases c
    · exact ⟨hd, .inl rfl⟩
    · exact ⟨hd, .inr rfl⟩

theorem Joins.not_ends (h : Joins depth t) : ¬ Ends depth t := by
  obtain ⟨-, rfl | rfl⟩ := h <;> simp [Ends]

theorem depthAfter_of_joins (h : Joins depth t) : depthAfter depth t = depth := by
  obtain ⟨-, rfl | rfl⟩ := h <;> rfl

/-! ## Cuts -/

/-- Whether `P` holds of every token and the tokens in front of it. -/
def AtEach (P : List Token → Token → Prop) (ts : List Token) : Prop :=
  ∀ front t back, ts = front ++ t :: back → P front t

theorem atEach_nil {P : List Token → Token → Prop} : AtEach P [] := by
  intro front t back h
  simp at h

theorem atEach_cons {P : List Token → Token → Prop} :
    AtEach P (t :: ts) ↔ P [] t ∧ AtEach (fun front u => P (t :: front) u) ts := by
  constructor
  · intro h
    refine ⟨h [] t ts rfl, ?_⟩
    rintro front u back rfl
    exact h (t :: front) u back rfl
  · rintro ⟨hfirst, hlater⟩ front u back h
    cases front with
    | nil =>
      cases h
      exact hfirst
    | cons t' front =>
      cases h
      exact hlater front u back rfl

namespace Segments

variable {s : Segments}

/-- Some segments after a first one, each behind its connective. -/
def rejoined (first : List Token) (rest : List (Connective × List Token)) : List Token :=
  first ++ rest.flatMap fun q => .keyword q.1.keyword :: q.2

theorem rejoined_eq_nil_iff {first : List Token} {rest : List (Connective × List Token)} :
    rejoined first rest = [] ↔ first = [] ∧ rest = [] := by
  cases rest <;> simp [rejoined]

/-- The tokens of the clause: the segments with the connectives between them. -/
def taken (s : Segments) : List Token :=
  rejoined s.first s.rest

/-- The segments in order. -/
def segments (s : Segments) : List (List Token) :=
  s.first :: s.rest.map (·.2)

/-- Whether some tokens are all that is in front of a connective between two segments. -/
def IsBeforeConnective (s : Segments) (front : List Token) : Prop :=
  ∃ before q more, s.rest = before ++ q :: more ∧ front = rejoined s.first before

/-- Whether these are the segments of the clause that starts at some depth of parentheses.
    The depth at a token is what the tokens in front of it make of that one. -/
structure IsCut (s : Segments) (depth : Nat) (ts : List Token) : Prop where
  /-- The segments, their connectives and what is left are all the tokens, in order. -/
  whole : s.taken ++ s.after = ts
  /-- No token of the clause ends it. -/
  goesOn : AtEach (fun front t => ¬ Ends (front.foldl depthAfter depth) t) s.taken
  /-- The first token that is left ends it. -/
  stops : ∀ t ∈ s.after.head?, Ends (s.taken.foldl depthAfter depth) t
  /-- The connectives are exactly the tokens that join. -/
  joins : AtEach (fun front t => Joins (front.foldl depthAfter depth) t ↔ s.IsBeforeConnective front) s.taken

theorem taken_push (t : Token) (s : Segments) : (s.push t).taken = t :: s.taken :=
  rfl

theorem taken_startWith (c : Connective) (s : Segments) :
    (s.startWith c).taken = .keyword c.keyword :: s.taken :=
  rfl

theorem isBeforeConnective_push (front : List Token) :
    (s.push t).IsBeforeConnective (t :: front) ↔ s.IsBeforeConnective front := by
  simp [IsBeforeConnective, push, rejoined]

theorem not_isBeforeConnective_push : ¬ (s.push t).IsBeforeConnective [] := by
  simp [IsBeforeConnective, push, rejoined]

theorem isBeforeConnective_startWith (c : Connective) (front : List Token) :
    (s.startWith c).IsBeforeConnective (.keyword c.keyword :: front) ↔ s.IsBeforeConnective front := by
  constructor
  · rintro ⟨before, q, more, hrest, hfront⟩
    cases before with
    | nil => simp [startWith, rejoined] at hfront
    | cons q' before =>
      obtain ⟨rfl, hmore⟩ := List.cons.inj hrest
      exact ⟨before, q, more, hmore, (List.cons.inj hfront).2⟩
  · rintro ⟨before, q, more, hrest, rfl⟩
    exact ⟨(c, s.first) :: before, q, more, by simp [startWith, hrest], by simp [startWith, rejoined]⟩

theorem isBeforeConnective_startWith_nil (c : Connective) : (s.startWith c).IsBeforeConnective [] :=
  ⟨[], (c, s.first), s.rest, rfl, rfl⟩

/-! ## One token more -/

/-- A token that neither ends nor joins goes in front of the first segment. -/
theorem isCut_push (he : ¬ Ends depth t) (hj : ¬ Joins depth t) :
    (s.push t).IsCut depth (t :: ts) ↔ s.IsCut (depthAfter depth t) ts := by
  have hfirst : Joins depth t ↔ (s.push t).IsBeforeConnective [] :=
    iff_of_false hj not_isBeforeConnective_push
  constructor
  · rintro ⟨hwhole, hon, hstops, hjoins⟩
    rw [taken_push, atEach_cons] at hon hjoins
    refine ⟨(List.cons.inj hwhole).2, hon.2, hstops, ?_⟩
    intro front u back h
    rw [← isBeforeConnective_push]
    exact hjoins.2 front u back h
  · rintro ⟨hwhole, hon, hstops, hjoins⟩
    refine ⟨congrArg (t :: ·) hwhole, atEach_cons.mpr ⟨he, hon⟩, hstops, atEach_cons.mpr ⟨hfirst, ?_⟩⟩
    intro front u back h
    rw [isBeforeConnective_push]
    exact hjoins front u back h

/-- A token that joins starts a segment, with an empty one in front of it. -/
theorem isCut_startWith {c : Connective} (hj : Joins depth (.keyword c.keyword)) :
    (s.startWith c).IsCut depth (.keyword c.keyword :: ts) ↔ s.IsCut depth ts := by
  have hfirst : Joins depth (.keyword c.keyword) ↔ (s.startWith c).IsBeforeConnective [] :=
    iff_of_true hj (isBeforeConnective_startWith_nil c)
  have hdepth (front : List Token) :
      (.keyword c.keyword :: front).foldl depthAfter depth = front.foldl depthAfter depth := by
    rw [List.foldl_cons, depthAfter_of_joins hj]
  constructor
  · rintro ⟨hwhole, hon, hstops, hjoins⟩
    rw [taken_startWith, atEach_cons] at hon hjoins
    simp only [taken_startWith, hdepth] at hon hstops hjoins
    refine ⟨(List.cons.inj hwhole).2, hon.2, hstops, ?_⟩
    intro front u back h
    rw [← isBeforeConnective_startWith c]
    exact hjoins.2 front u back h
  · rintro ⟨hwhole, hon, hstops, hjoins⟩
    refine ⟨congrArg (_ :: ·) hwhole, atEach_cons.mpr ⟨hj.not_ends, ?_⟩, ?_, atEach_cons.mpr ⟨hfirst, ?_⟩⟩
    · intro front u back h
      rw [hdepth]
      exact hon front u back h
    · intro u hu
      rw [taken_startWith, hdepth]
      exact hstops u hu
    · intro front u back h
      rw [isBeforeConnective_startWith, hdepth]
      exact hjoins front u back h

theorem isCut_of_ends (he : Ends depth t) : s.IsCut depth (t :: ts) ↔ s = ⟨[], [], t :: ts⟩ := by
  constructor
  · intro h
    have hwhole := h.whole
    cases htaken : s.taken with
    | nil =>
      rw [htaken] at hwhole
      obtain ⟨first, rest, after⟩ := s
      obtain ⟨rfl, rfl⟩ := rejoined_eq_nil_iff.mp htaken
      exact congrArg (Segments.mk [] []) hwhole
    | cons u back =>
      rw [htaken] at hwhole
      cases hwhole
      exact absurd he (h.goesOn [] t back htaken)
  · rintro rfl
    refine ⟨rfl, atEach_nil, ?_, atEach_nil⟩
    intro u hu
    cases hu
    exact he

/-- What is cut is not empty where its first token does not end it. -/
theorem IsCut.exists_push (h : s.IsCut depth (t :: ts)) (he : ¬ Ends depth t) (hj : ¬ Joins depth t) :
    ∃ s' : Segments, s = s'.push t := by
  obtain ⟨first, rest, after⟩ := s
  cases first with
  | cons u first =>
    obtain ⟨rfl, -⟩ := List.cons.inj h.whole
    exact ⟨⟨first, rest, after⟩, rfl⟩
  | nil =>
    cases rest with
    | nil =>
      obtain rfl : after = t :: ts := h.whole
      exact absurd (h.stops t rfl) he
    | cons q rest =>
      obtain ⟨rfl, -⟩ := List.cons.inj h.whole
      exact absurd ((h.joins [] _ _ rfl).mpr ⟨[], q, rest, rfl, rfl⟩) hj

theorem IsCut.exists_startWith (h : s.IsCut depth (t :: ts)) (hj : Joins depth t) :
    ∃ (s' : Segments) (c : Connective), s = s'.startWith c ∧ t = .keyword c.keyword := by
  obtain ⟨first, rest, after⟩ := s
  cases first with
  | cons u first =>
    obtain ⟨rfl, -⟩ := List.cons.inj h.whole
    obtain ⟨before, q, more, -, hfront⟩ := (h.joins [] _ _ rfl).mp hj
    cases hfront
  | nil =>
    cases rest with
    | nil =>
      obtain rfl : after = t :: ts := h.whole
      exact absurd (h.stops t rfl) hj.not_ends
    | cons q rest =>
      obtain ⟨rfl, -⟩ := List.cons.inj h.whole
      exact ⟨⟨q.2, rest, after⟩, q.1, rfl, rfl⟩

end Segments

/-! ## The clause is cut in the one way there is -/

/-- At every depth there is one cut of the tokens, which the parser makes. -/
theorem isCut_iff {s : Segments} : s.IsCut depth ts ↔ s = cutCondition depth ts := by
  fun_induction cutCondition depth ts generalizing s with
  | case1 depth =>
    constructor
    · intro h
      obtain ⟨first, rest, after⟩ := s
      obtain ⟨htaken, rfl⟩ := List.append_eq_nil_iff.mp h.whole
      obtain ⟨rfl, rfl⟩ := Segments.rejoined_eq_nil_iff.mp htaken
      rfl
    · rintro rfl
      exact ⟨rfl, atEach_nil, by simp, atEach_nil⟩
  | case2 depth t ts he => exact Segments.isCut_of_ends (endsCondition_iff.mp he)
  | case3 depth t ts he c hc ih =>
    -- Every cut has an empty segment in front of this token, which leaves its own rest to be cut.
    have hj : Joins depth t := joins_iff.mpr ⟨c, connective?_eq_some_iff.mp hc⟩
    constructor
    · intro h
      obtain ⟨s, c', rfl, rfl⟩ := h.exists_startWith hj
      cases hc.symm.trans (connective?_eq_some_iff.mpr ⟨hj.1, rfl⟩)
      rw [← ih.mp ((Segments.isCut_startWith hj).mp h)]
    · rintro rfl
      obtain ⟨-, rfl⟩ := connective?_eq_some_iff.mp hc
      exact (Segments.isCut_startWith hj).mpr (ih.mpr rfl)
  | case4 depth t ts he hc ih =>
    have he : ¬ Ends depth t := fun h => he (endsCondition_iff.mpr h)
    have hj : ¬ Joins depth t := by
      intro h
      obtain ⟨c, h⟩ := joins_iff.mp h
      rw [connective?_eq_some_iff.mpr h] at hc
      cases hc
    constructor
    · intro h
      obtain ⟨s, rfl⟩ := h.exists_push he hj
      rw [← ih.mp ((Segments.isCut_push he hj).mp h)]
    · rintro rfl
      exact (Segments.isCut_push he hj).mpr (ih.mpr rfl)

/-- An empty segment is all that a clause is refused for. -/
theorem run_condition {s : Segments} (h : s = cutCondition 0 ts) : Parser.condition.run ts =
    if [] ∈ s.segments then .error (.invalidSyntax .incompleteCondition)
    else .ok (⟨predicateOf s.first, s.rest.map fun q => (q.1, predicateOf q.2)⟩, s.after) := by
  have hempty : (s.first.isEmpty || s.rest.any (·.2.isEmpty)) = true ↔ [] ∈ s.segments := by
    simp [Segments.segments]
  refine Eq.trans ?_ (if_congr hempty rfl rfl)
  unfold Parser.condition
  simp only [StateT.run_bind, StateT.run_get, pure_bind, ← h]
  split
  · rfl
  · rfl

/-- There is one way to cut some tokens, and the parser takes it. It refuses a clause with an
    empty segment. Of any other it reads each segment by itself, keeps the connectives
    in their order, and leaves what is after the clause. -/
theorem condition_of_cut (ts : List Token) : (∃! s : Segments, s.IsCut 0 ts) ∧
    ∀ s : Segments, s.IsCut 0 ts → Parser.condition.run ts =
      if [] ∈ s.segments then .error (.invalidSyntax .incompleteCondition)
      else .ok (⟨predicateOf s.first, s.rest.map fun q => (q.1, predicateOf q.2)⟩, s.after) := by
  refine ⟨⟨cutCondition 0 ts, isCut_iff.mpr rfl, ?_⟩, ?_⟩
  · intro s h
    exact isCut_iff.mp h
  · intro s h
    exact run_condition (isCut_iff.mp h)

/-- `c IS NULL AND) a = 1 OR (b AND LIMIT; OR`, where one parenthesis was not opened and one is not
    closed: the second AND and the LIMIT are inside, and the semicolon ends the clause all the same. -/
theorem condition_of_cut_unbalanced :
    let ts : List Token := [.identifier "c", .keyword .IS, .keyword .NULL, .keyword .AND, .symbol .rparen,
      .identifier "a", .symbol .eq, .number "1", .keyword .OR, .symbol .lparen, .identifier "b", .keyword .AND,
      .keyword .LIMIT, .symbol .semicolon, .keyword .OR]
    let s : Segments := ⟨[.identifier "c", .keyword .IS, .keyword .NULL],
      [(.and, [.symbol .rparen, .identifier "a", .symbol .eq, .number "1"]),
        (.or, [.symbol .lparen, .identifier "b", .keyword .AND, .keyword .LIMIT])],
      [.symbol .semicolon, .keyword .OR]⟩
    s.IsCut 0 ts ∧ Parser.condition.run ts =
      .ok (⟨.isNull "c" false, [(.and, .unrecognized ") a = 1"), (.or, .unrecognized "(b AND LIMIT")]⟩,
        [.symbol .semicolon, .keyword .OR]) := by
  intro ts s
  have hcut : s.IsCut 0 ts := isCut_iff.mpr rfl
  refine ⟨hcut, ((condition_of_cut ts).2 s hcut).trans ?_⟩
  rw [if_neg (by decide)]
  rfl

end PocketSql.Sql
