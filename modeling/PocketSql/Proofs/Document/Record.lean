/-
  PocketSql.Proofs.Document.Record — what is put in a document is found there again.

  A document's fields have different names, so each is found under its own, and a field
  that was left out is not found.
-/

import Mathlib.Data.List.Forall2
import PocketSql.Document.Record
import PocketSql.Proofs.Number.Written

namespace PocketSql.Json

variable {α β : Type}

/-! ## Records -/

/-- The fields of a document that are there. -/
def present (fields : List (String × Option Json)) : Record :=
  fields.filterMap fun (name, j) => j.map (name, ·)

variable {fields : List (String × Option Json)} {name : String} {names : List String}

theorem ofFields_eq (fields : List (String × Option Json)) :
    ofFields fields = object ((present fields).map fun f => (some f.1, f.2)) := by
  unfold ofFields present
  rw [List.map_filterMap]
  congr 2
  funext ⟨name, j⟩
  cases j <;> rfl

theorem names_present (fields : List (String × Option Json)) :
    ((present fields).map (·.1)).Sublist (fields.map (·.1)) := by
  induction fields with
  | nil => exact .slnil
  | cons f fields ih =>
    obtain ⟨name, j⟩ := f
    cases j with
    | none => exact ih.cons _
    | some j => exact ih.cons_cons _

theorem knownFields?_eq {r : Record} (hn : (r.map (·.1)).Nodup) (hk : ∀ f ∈ r, f.1 ∈ names) :
    knownFields? names (r.map fun f => (some f.1, f.2)) = some r := by
  induction r with
  | nil => rfl
  | cons f r ih =>
    rw [List.map_cons, List.nodup_cons] at hn
    have hmore := ih hn.2 fun f hf => hk f (List.mem_cons_of_mem _ hf)
    have hknown := hk f List.mem_cons_self
    have honce : (r.any (·.1 == f.1)) = false := by
      rw [List.any_eq_false]
      intro g hg he
      exact hn.1 (List.mem_map.mpr ⟨g, hg, eq_of_beq he⟩)
    simp [knownFields?, hmore, hknown, honce]

theorem lookup_present (hn : (fields.map (·.1)).Nodup) (name : String) :
    (present fields).lookup name = (fields.lookup name).join := by
  induction fields with
  | nil => rfl
  | cons f fields ih =>
    obtain ⟨key, j⟩ := f
    rw [List.map_cons, List.nodup_cons] at hn
    cases j with
    | none =>
      have hskip : present ((key, none) :: fields) = present fields := rfl
      rw [hskip, ih hn.2, List.lookup_cons]
      by_cases hk : (name == key) = true
      · have hnone : fields.lookup name = none := by
          rw [List.lookup_eq_none_iff]
          intro g hg
          rw [bne_iff_ne]
          intro he
          exact hn.1 (List.mem_map.mpr ⟨g, hg, he.symm.trans (eq_of_beq hk)⟩)
        simp [hk, hnone]
      · simp [hk]
    | some j =>
      have hkeep : present ((key, some j) :: fields) = (key, j) :: present fields := rfl
      rw [hkeep, List.lookup_cons, List.lookup_cons, ih hn.2]
      split <;> rfl

/-- A document is a record of its fields, where each is found that is there. -/
theorem exists_record {j : Json} (hn : names.Nodup) (hj : j = ofFields fields) (hf : fields.map (·.1) = names)
    (required : Nat) :
    ∃ r, j.record? names required = some r ∧ ∀ name, r.lookup name = (fields.lookup name).join := by
  have hsub := names_present fields
  rw [← hf] at hn
  refine ⟨present fields, ?_, lookup_present hn⟩
  rw [hj, ofFields_eq, record?]
  exact knownFields?_eq (hn.sublist hsub) fun f hmem => hf ▸ hsub.subset (List.mem_map_of_mem hmem)

/-! ## Contents -/

theorem asText?_ofString (s : String) : asText? (ofString s) = some s :=
  rfl

theorem asNat?_ofNat {n bound : Nat} (h : n < bound) : asNat? bound (ofNat n) = some n :=
  natBelow?_toString h

/-- A list is read item by item. -/
theorem exists_asList? {decode : Json → Option α} {encode : β → Json} {R : α → β → Prop} {bs : List β}
    (h : ∀ b ∈ bs, ∃ a, decode (encode b) = some a ∧ R a b) :
    ∃ as, asList? decode (array (bs.map encode)) = some as ∧ List.Forall₂ R as bs := by
  unfold asList?
  dsimp only
  induction bs with
  | nil => exact ⟨[], rfl, .nil⟩
  | cons b bs ih =>
    obtain ⟨a, ha, hab⟩ := h b List.mem_cons_self
    obtain ⟨as, has, hforall⟩ := ih fun b hb => h b (List.mem_cons_of_mem _ hb)
    refine ⟨a :: as, ?_, .cons hab hforall⟩
    rw [List.map_cons, List.mapM_cons, ha, has]
    rfl

theorem asList?_array {decode : Json → Option α} {encode : α → Json} {as : List α}
    (h : ∀ a ∈ as, decode (encode a) = some a) : asList? decode (array (as.map encode)) = some as := by
  obtain ⟨as', has, hforall⟩ := exists_asList? (R := Eq) fun a ha => ⟨a, h a ha, rfl⟩
  rw [List.forall₂_eq_eq_eq] at hforall
  rw [has, hforall]

theorem asOption?_some {decode : Json → Option α} {j : Json} {a : α} (hj : j ≠ null) (h : decode j = some a) :
    asOption? decode j = some (some a) := by
  unfold asOption?
  split
  · exact absurd rfl hj
  · rw [h]
    rfl

/-! ## Fields -/

section Fields

variable {r : Record} {decode : Json → Option α} {encode : α → Json} {a default : α} {o : Option α} {j : Json}

theorem get?_eq (hl : r.lookup name = some j) (h : decode j = some a) : r.get? name decode = some a := by
  rw [Record.get?, hl]
  exact h

theorem getD?_eq (hl : r.lookup name = some j) (h : decode j = some a) : r.getD? name default decode = some a := by
  rw [Record.getD?, hl]
  exact h

/-- An optional value comes back from a field that is there only if the value is. -/
theorem getD?_option (hl : r.lookup name = o.map encode)
    (h : ∀ a ∈ o, encode a ≠ null ∧ decode (encode a) = some a) :
    r.getD? name none (asOption? decode) = some o := by
  rw [Record.getD?, hl]
  cases o with
  | none => rfl
  | some a => exact asOption?_some (h a rfl).1 (h a rfl).2

end Fields

/-! ## Readable documents -/

theorem Readable.ofNat (n : Nat) : Readable (ofNat n) :=
  .number (numberText_toString n)

/-- A field that is there. -/
theorem Readable.there {j : Json} (h : Readable j) : ∀ k ∈ some j, Readable k := by
  rintro k ⟨⟩
  exact h

theorem Readable.optional {encode : α → Json} (h : ∀ a, Readable (encode a)) (o : Option α) :
    ∀ j ∈ o.map encode, Readable j := by
  intro j hj
  obtain ⟨a, -, rfl⟩ := Option.map_eq_some_iff.mp hj
  exact h a

theorem Readable.list {encode : α → Json} (h : ∀ a, Readable (encode a)) (as : List α) :
    Readable (.array (as.map encode)) := by
  refine .array fun j hj => ?_
  obtain ⟨a, -, rfl⟩ := List.mem_map.mp hj
  exact h a

theorem Readable.ofFields (h : ∀ f ∈ fields, ∀ j ∈ f.2, Readable j) : Readable (ofFields fields) := by
  rw [ofFields_eq]
  refine .object ?_ ?_
  · intro f hf
    obtain ⟨g, -, rfl⟩ := List.mem_map.mp hf
    rfl
  · intro f hf
    obtain ⟨g, hg, rfl⟩ := List.mem_map.mp hf
    obtain ⟨⟨name, j⟩, hmem, hj⟩ := List.mem_filterMap.mp hg
    obtain ⟨k, hk, rfl⟩ := Option.map_eq_some_iff.mp hj
    exact h _ hmem k hk

end PocketSql.Json
