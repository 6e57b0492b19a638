/-
  PocketSql.Proofs.Query.Filtered — the tests that conditions make.

  Patterns are all that can be refused in a condition, and they are compiled in their order.
  So a condition fails to make a test with the fault of the first pattern that is refused
  (`fault?_filter`). The given compiler refuses none (`refusal?_eq_none`).
-/

import PocketSql.Proofs.Fault
import PocketSql.Proofs.Like
import PocketSql.Query.Filter

namespace PocketSql

/-! ## Faults -/

section

variable {α β : Type}

/-- The fault of a step that fails. -/
def fault? : Except Fault α → Option Fault
  | .ok _ => none
  | .error f => some f

theorem fault?_eq_none {x : Except Fault α} : fault? x = none ↔ ∃ a, x = .ok a := by
  cases x <;> simp [fault?]

theorem fault?_eq_some {x : Except Fault α} {f : Fault} : fault? x = some f ↔ x = .error f := by
  cases x <;> simp [fault?]

theorem fault?_bind {x : Except Fault α} {g : α → Except Fault β} (hg : ∀ a, fault? (g a) = none) :
    fault? (x >>= g) = fault? x := by
  cases x with
  | ok a => exact hg a
  | error f => rfl

/-- The fault of steps is that of the first of them that fails. -/
theorem fault?_mapM (g : α → Except Fault β) (l : List α) : fault? (l.mapM g) = l.findSome? fun a => fault? (g a) := by
  induction l with
  | nil => rfl
  | cons a l ih =>
    rw [List.mapM_cons, List.findSome?_cons]
    cases g a with
    | ok b =>
      show fault? (l.mapM g >>= fun bs => pure (b :: bs)) = _
      rw [fault?_bind fun _ => rfl, ih]
      rfl
    | error f => rfl

end

/-! ## Conditions -/

/-- The pattern of a LIKE. -/
def Predicate.pattern? : Predicate → Option String
  | .like _ pattern _ => some pattern
  | _ => none

/-- The patterns of a condition, in their order. -/
def Condition.patterns (c : Condition) : List String :=
  (c.first :: c.rest.map (·.2)).filterMap (·.pattern?)

/-- Why a condition is refused: the fault of the first pattern that is. -/
def Condition.refusal? [RegexCompiler] (c : Option Condition) : Option Fault :=
  (c.toList.flatMap (·.patterns)).findSome? fun pattern => fault? (Like.compile pattern)

theorem Like.fault?_compile (pattern : String) : fault? (Like.compile pattern) = none := by
  have hread := Like.read_expression Regex.documented pattern
  simp [Like.compile, RegexCompiler.compile, hread, fault?]

theorem Condition.refusal?_eq_none (c : Option Condition) : refusal? c = none :=
  List.findSome?_eq_none_iff.mpr fun pattern _ => Like.fault?_compile pattern

namespace Table

variable [RegexCompiler] {t : Table} {now : Instant}

/-- The test that a condition makes tells whether it holds. -/
theorem holds_of_filter {c : Option Condition} {p : Row → Bool} (h : t.filter now c = .ok p) : t.holds now c = p := by
  funext row
  rw [holds, h]
  rfl

theorem fault?_test (p : Predicate) :
    fault? (t.test now p) = p.pattern?.bind fun pattern => fault? (Like.compile pattern) := by
  cases p with
  | like column pattern negated => exact fault?_bind fun _ => rfl
  | compare | inList | isNull | unrecognized => rfl

/-- A condition makes a test unless it is refused. -/
theorem fault?_filter (c : Option Condition) : fault? (t.filter now c) = Condition.refusal? c := by
  cases c with
  | none => rfl
  | some c =>
    have hrest (test : Connective × Predicate → Except Fault (Connective × (Row → Bool)))
        (htest : ∀ e, fault? (test e) = fault? (t.test now e.2)) :
        fault? (c.rest.mapM test) = (c.rest.map (·.2)).findSome? fun p => fault? (t.test now p) := by
      rw [fault?_mapM, List.findSome?_map]
      exact congrArg (List.findSome? · c.rest) (funext htest)
    have hall : fault? (t.filter now (some c)) =
        (c.first :: c.rest.map (·.2)).findSome? fun p => fault? (t.test now p) := by
      rw [List.findSome?_cons, filter]
      cases t.test now c.first with
      | error f => rfl
      | ok first =>
        rw [show Except.ok first = pure first from rfl, pure_bind, fault?_bind fun _ => rfl]
        exact hrest _ fun e => fault?_bind fun _ => rfl
    rw [hall, Condition.refusal?, Option.toList_some, List.flatMap_singleton, Condition.patterns,
      ← List.head?_filterMap, ← List.head?_filterMap, List.filterMap_filterMap]
    simp only [fault?_test]

theorem filter_of_refusal? {c : Option Condition} (h : Condition.refusal? c = none) :
    t.filter now c = .ok (t.holds now c) := by
  have hnone : fault? (t.filter now c) = none := (fault?_filter c).trans h
  obtain ⟨p, hp⟩ := fault?_eq_none.mp hnone
  rw [hp, holds_of_filter hp]

theorem filter_of_refused {c : Option Condition} {f : Fault} (h : Condition.refusal? c = some f) :
    t.filter now c = .error f :=
  fault?_eq_some.mp (fault?_filter c ▸ h)

end Table

end PocketSql
