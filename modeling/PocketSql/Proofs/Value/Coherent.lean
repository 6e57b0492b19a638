/-
  PocketSql.Proofs.Value.Coherent — the operators of a condition go together.

  All six operators between values that are not NULL read one order of the two: that of
  their numbers where both have one, else that of their texts in lower case
  (`holds_eq_ofOrdering`). So just one of `=`, `>` and `<` holds between them, `>=` holds
  where `<` does not and `<=` where `>` does not. Nothing but NULL equals NULL, and
  nothing is above or below it, so there only `<>` is still the opposite of `=`.
-/

import PocketSql.Proofs.Query.Order
import PocketSql.Proofs.Value.Compared

namespace PocketSql

namespace Value

variable {a b v : Value}

/-- The order of two values in a condition: by their numbers where both have one, else by
    their texts in lower case. -/
def conditionOrder (a b : Value) : Ordering :=
  match a.number?, b.number? with
  | some x, some y => compare x.scaled y.scaled
  | _, _ => Text.compareText a.lowerText b.lowerText

/-- Whether the value is no float that is not a number. -/
def NotNaN : Value → Prop
  | .float x => x.isNaN = false
  | _ => True

/-! ## One order -/

/-- Then a condition reads it as none either. -/
theorem NotNaN.isNaN_of_number? {x : Binary64} (hv : v.NotNaN) (hx : v.number? = some x) : x.isNaN = false := by
  cases v with
  | null => cases hx
  | boolean b =>
    cases hx
    cases b <;> decide
  | integer i =>
    cases hx
    exact Binary64.isNaN_of_isFinite (Binary64.ofInt_spec (natAbs_toInt_lt i)).1
  | float y =>
    cases hx
    exact hv
  | text s =>
    have hread : numberOfText? s = some x := hx
    exact Binary64.isNaN_of_isFinite (Option.filter_eq_some_iff.mp hread).2

theorem notNaN_toValue (now : Instant) (l : Literal) : (l.toValue now).NotNaN := by
  cases l <;> trivial

theorem equal_of_ne_null (ha : a ≠ .null) (hb : b ≠ .null) : a.equal b =
    match a.number?, b.number? with
    | some x, some y => x.eq y
    | _, _ => a.lowerText == b.lowerText := by
  unfold equal
  split
  · exact absurd rfl ha
  · exact absurd rfl ha
  · exact absurd rfl hb
  · rfl

theorem isEq_compareText (s s' : String) : (Text.compareText s s').isEq = (s == s') := by
  rw [Bool.eq_iff_iff, Ordering.isEq_iff_eq_eq, Text.compareText_eq_eq, beq_iff_eq]

section

variable (ha : a ≠ .null) (hb : b ≠ .null) (hna : a.NotNaN) (hnb : b.NotNaN)

include ha hb hna hnb

theorem equal_eq_isEq : a.equal b = (a.conditionOrder b).isEq := by
  rw [equal_of_ne_null ha hb, conditionOrder]
  cases hx : a.number? with
  | none => exact (isEq_compareText _ _).symm
  | some x =>
    cases hy : b.number? with
    | none => exact (isEq_compareText _ _).symm
    | some y =>
      show x.eq y = (compare x.scaled y.scaled).isEq
      rw [Bool.eq_iff_iff, Binary64.eq_iff_scaled (hna.isNaN_of_number? hx) (hnb.isNaN_of_number? hy),
        Ordering.isEq_iff_eq_eq, compare_eq_iff_eq]

theorem less_eq_isLT : a.less b = (a.conditionOrder b).isLT := by
  rw [less, isNull_of_ne_null ha, isNull_of_ne_null hb, Bool.or_self, if_neg Bool.false_ne_true, conditionOrder]
  cases hx : a.number? with
  | none => exact Ordering.isLT_eq_beq_lt.symm
  | some x =>
    cases hy : b.number? with
    | none => exact Ordering.isLT_eq_beq_lt.symm
    | some y =>
      show x.lt y = (compare x.scaled y.scaled).isLT
      rw [Bool.eq_iff_iff, Binary64.lt_iff_scaled (hna.isNaN_of_number? hx) (hnb.isNaN_of_number? hy),
        Ordering.isLT_iff_eq_lt, compare_lt_iff_lt]

theorem greater_eq_isGT : a.greater b = (a.conditionOrder b).isGT := by
  rw [greater, isNull_of_ne_null ha, isNull_of_ne_null hb, Bool.or_self, if_neg Bool.false_ne_true, conditionOrder]
  cases hx : a.number? with
  | none => exact Ordering.isGT_eq_beq_gt.symm
  | some x =>
    cases hy : b.number? with
    | none => exact Ordering.isGT_eq_beq_gt.symm
    | some y =>
      show y.lt x = (compare x.scaled y.scaled).isGT
      rw [Bool.eq_iff_iff, Binary64.lt_iff_scaled (hnb.isNaN_of_number? hy) (hna.isNaN_of_number? hx),
        Ordering.isGT_iff_eq_gt, compare_gt_iff_gt]

/-- Each operator holds by the one order of the two values. -/
theorem holds_eq_ofOrdering (op : Comparison) : op.holds a b = op.ofOrdering (a.conditionOrder b) := by
  cases op <;> simp only [Comparison.holds, Comparison.ofOrdering, equal_eq_isEq ha hb hna hnb, less_eq_isLT ha hb hna hnb,
    greater_eq_isGT ha hb hna hnb] <;> cases a.conditionOrder b <;> rfl

end

/-! ## The operators together -/

theorem greater_eq_less (a b : Value) : a.greater b = b.less a := by
  have htext : (Text.compareText a.lowerText b.lowerText == .gt) = (Text.compareText b.lowerText a.lowerText == .lt) := by
    rw [Text.compareText_swap b.lowerText]
    cases Text.compareText a.lowerText b.lowerText <;> rfl
  rw [greater, less, Bool.or_comm]
  split
  · rfl
  · cases a.number? with
    | none => cases b.number? <;> exact htext
    | some x =>
      cases b.number? with
      | none => exact htext
      | some y => rfl

theorem equal_comm (a b : Value) : a.equal b = b.equal a := by
  by_cases ha : a = .null
  · subst ha
    cases b <;> rfl
  by_cases hb : b = .null
  · subst hb
    cases a <;> rfl
  rw [equal_of_ne_null ha hb, equal_of_ne_null hb ha]
  cases a.number? with
  | none => cases b.number? <;> exact BEq.comm
  | some x =>
    cases b.number? with
    | none => exact BEq.comm
    | some y =>
      show x.eq y = y.eq x
      unfold Binary64.eq
      rw [Bool.and_comm (!x.isNaN), BEq.comm]

theorem existsUnique_ofOrdering (o : Ordering) :
    ∃! op, op ∈ [Comparison.eq, .gt, .lt] ∧ op.ofOrdering o = true := by
  cases o with
  | lt => exact ⟨.lt, by decide, by rintro (_ | _) <;> decide⟩
  | eq => exact ⟨.eq, by decide, by rintro (_ | _) <;> decide⟩
  | gt => exact ⟨.gt, by decide, by rintro (_ | _) <;> decide⟩

end Value

namespace Table

/-- Whatever a condition compares, `>` is `<` the other way round and `=` is the same both
    ways. Between values that are not NULL just one of `=`, `>` and `<` holds, by the order
    of the two, so that `>=` accepts the rows that `<` rejects and `<=` those that `>`
    rejects. And `<>` accepts all that `=` rejects. -/
theorem operators_coherent [RegexCompiler] :
    (∀ a b : Value, a.greater b = b.less a ∧ a.equal b = b.equal a) ∧
    (∀ a b : Value, a ≠ .null → b ≠ .null → a.NotNaN → b.NotNaN →
      (∃! op, op ∈ [Comparison.eq, .gt, .lt] ∧ op.holds a b = true) ∧
      ∀ op : Comparison, op.holds a b = op.ofOrdering (a.conditionOrder b)) ∧
    ∀ (t : Table) (now : Instant) (row : Row) (column : String) (l : Literal),
      (t.satisfies now row (.compare column .neq l) = !t.satisfies now row (.compare column .eq l)) ∧
      (t.read row column ≠ .null → l.toValue now ≠ .null → (t.read row column).NotNaN →
        (t.satisfies now row (.compare column .gte l) = !t.satisfies now row (.compare column .lt l)) ∧
        (t.satisfies now row (.compare column .lte l) = !t.satisfies now row (.compare column .gt l))) := by
  refine ⟨fun a b => ⟨Value.greater_eq_less a b, Value.equal_comm a b⟩, fun a b ha hb hna hnb => ?_,
    fun t now row column l => ⟨rfl, fun hread hl hn => ?_⟩⟩
  · have hholds := Value.holds_eq_ofOrdering ha hb hna hnb
    refine ⟨?_, hholds⟩
    simp only [hholds]
    exact Value.existsUnique_ofOrdering _
  · have hholds := Value.holds_eq_ofOrdering hread hl hn (Value.notNaN_toValue now l)
    have hsatisfies : ∀ op, t.satisfies now row (.compare column op l) = op.holds (t.read row column) (l.toValue now) :=
      fun _ => rfl
    simp only [hsatisfies, hholds, Comparison.ofOrdering]
    exact ⟨Ordering.not_isLT_eq_isGE.symm, Ordering.not_isGT_eq_isLE.symm⟩

/-- A boolean equals the text of its number, and an integer stands before a text that spells
    none as its digits do. -/
theorem operators_coherent_mixed :
    let t : Table := { name := "t", columns := [{ name := "v", type := .varchar }] }
    let yes : Value := .boolean true
    let one : Value := .text " 1.00"
    let accepts (op : Comparison) : Bool := t.satisfies ⟨0, 0⟩ [.integer 10] (.compare "V" op (.quoted "1A"))
    (yes ≠ .null ∧ one ≠ .null ∧ yes.NotNaN ∧ one.NotNaN) ∧ yes.equal one = true ∧
      (∃! op, op ∈ [Comparison.eq, .gt, .lt] ∧ op.holds yes one = true) ∧
      (t.read [.integer 10] "V" = .integer 10 ∧ Value.NotNaN (.integer 10)) ∧ accepts .lt = true ∧
      (accepts .gte = !accepts .lt) ∧ (accepts .lte = !accepts .gt) := by
  intro t yes one accepts
  have hread : t.read [.integer 10] "V" = .integer 10 := by decide
  obtain ⟨-, hvalues, hrows⟩ := operators_coherent
  have hboth := (hrows t ⟨0, 0⟩ [.integer 10] "V" (.quoted "1A")).2 (by simp [hread]) (by simp [Literal.toValue])
    (by rw [hread]; trivial)
  exact ⟨⟨by simp [yes], by simp [one], trivial, trivial⟩, by decide +kernel,
    (hvalues yes one (by simp [yes]) (by simp [one]) trivial trivial).1, ⟨hread, trivial⟩, by decide +kernel, hboth⟩

end Table

end PocketSql
