/-
  PocketSql.Proofs.Store.Reliable — stores that take every value.
-/

import PocketSql.Proofs.Entries
import PocketSql.Store

namespace PocketSql

/-- A store whose reads and writes all go well: a key holds what was written last under
    it. -/
structure KeyValueStore.Reliable (σ : Type) [KeyValueStore σ] : Prop where
  read_write : ∀ (s : σ) key value, read (write s key value).1 key = .ok (some value)
  read_other : ∀ (s : σ) key value other, other ≠ key → read (write s key value).1 other = read s other

namespace Memory

theorem get?_set (m : Memory) (key value other : String) :
    (m.set key value).get? other = if other = key then some value else m.get? other := by
  rw [get?, get?, ← lookup_set m.entries key value other]
  unfold set
  split <;> rfl

theorem reliable : KeyValueStore.Reliable Memory :=
  ⟨fun m key value => congrArg Except.ok ((get?_set m key value key).trans (if_pos rfl)),
    fun m key value other ho => congrArg Except.ok ((get?_set m key value other).trans (if_neg ho))⟩

end Memory

end PocketSql
