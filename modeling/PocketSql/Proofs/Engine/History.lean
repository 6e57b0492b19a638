/-
  PocketSql.Proofs.Engine.History — a history comes back from its document.

  Its entries are read as they were written, but for the digits of their times, which lead
  back to some number and maybe not to the same one. What numbers the next entry is not in
  the document: it is one more than the newest number there. So an empty history starts
  again from 1, and any other one goes on as it was (`Numbered.ofText_text`).
-/

import Mathlib.Data.List.Chain
import PocketSql.Engine.History
import PocketSql.Proofs.Document.Float
import PocketSql.Proofs.Document.Schema
import PocketSql.Proofs.Engine.Indifferent

namespace PocketSql

open Json

/-! ## Times -/

namespace Binary64

variable {x : Binary64}

theorem isFinite_of_exponent_le (h : x.exponent ≤ 22) : x.isFinite = true := by
  by_contra hf
  have hm : 2047 * leadingBit ≤ x.magnitude := Nat.le_of_not_lt fun hlt => hf (decide_eq_true hlt)
  have hdiv : 2047 ≤ x.magnitude / leadingBit := (Nat.le_div_iff_mul_le (by decide)).mpr hm
  unfold exponent at h
  split at h
  · simp only [leadingBit] at *
    omega
  · omega

theorem readable_toJson (x : Binary64) : Readable x.toJson := by
  unfold toJson
  split
  · rename_i hf
    exact .number (numberText_documentText hf)
  · exact .null

end Binary64

/-! ## Entries -/

/-- What a document can hold of an entry: numbers of 64 bits, an instant that a clock shows,
    and a time below 2 ^ 75 milliseconds, which is more than a million million years. -/
structure HistoryEntry.Storable (e : HistoryEntry) : Prop where
  id : e.id < UInt64.size
  timestamp : e.timestamp.Valid
  elapsed : e.elapsed.exponent ≤ 22
  rowCount : ∀ n ∈ e.rowCount, n < UInt64.size
  affectedRows : ∀ n ∈ e.affectedRows, n < UInt64.size

namespace HistoryEntry

instance (e : HistoryEntry) : Decidable e.Storable :=
  decidable_of_iff
    (e.id < UInt64.size ∧ e.timestamp.Valid ∧ e.elapsed.exponent ≤ 22 ∧ (∀ n ∈ e.rowCount, n < UInt64.size) ∧
      ∀ n ∈ e.affectedRows, n < UInt64.size)
    ⟨fun ⟨h1, h2, h3, h4, h5⟩ => ⟨h1, h2, h3, h4, h5⟩, fun ⟨h1, h2, h3, h4, h5⟩ => ⟨h1, h2, h3, h4, h5⟩⟩

theorem Storable.exists_ofJson? {e : HistoryEntry} (h : e.Storable) :
    ∃ e', ofJson? e.toJson = some e' ∧ e'.untimed = e.untimed := by
  obtain ⟨r, hr, hl⟩ := exists_record (by decide : fieldNames.Nodup) (show e.toJson = ofFields _ from rfl) rfl 6
  obtain ⟨elapsed, helapsed⟩ : ∃ y, asFloat? e.elapsed.toJson = some y := by
    rw [Binary64.toJson, if_pos (Binary64.isFinite_of_exponent_le h.elapsed)]
    exact Binary64.exists_asFloat?_documentText h.elapsed
  have hid : r.get? "id" (asNat? UInt64.size) = some e.id := get?_eq (hl _) (asNat?_ofNat h.id)
  have hquery : r.get? "query" asText? = some e.query := get?_eq (hl _) rfl
  have hlabel : r.get? "resultLabel" asText? = some e.label := get?_eq (hl _) rfl
  have htimestamp : r.get? "timestamp" Instant.ofJson? = some e.timestamp :=
    get?_eq (hl _) h.timestamp.ofJson?_toJson
  have hsuccess : r.get? "success" asBool? = some e.success := get?_eq (hl _) rfl
  have htime : r.get? "executionTime" asFloat? = some elapsed := get?_eq (hl _) helapsed
  have hrowCount : r.getD? "rowCount" none (asOption? (asNat? UInt64.size)) = some e.rowCount :=
    getD?_option (hl _) fun n hn => ⟨by simp [ofNat], asNat?_ofNat (h.rowCount n hn)⟩
  have haffectedRows : r.getD? "affectedRows" none (asOption? (asNat? UInt64.size)) = some e.affectedRows :=
    getD?_option (hl _) fun n hn => ⟨by simp [ofNat], asNat?_ofNat (h.affectedRows n hn)⟩
  refine ⟨{ e with elapsed }, ?_, rfl⟩
  simp [ofJson?, hr, hid, hquery, hlabel, htimestamp, hsuccess, htime, hrowCount, haffectedRows]

theorem readable_toJson (e : HistoryEntry) : Readable e.toJson := by
  refine .ofFields ?_
  simp only [List.forall_mem_cons, List.not_mem_nil, false_imp_iff, implies_true, and_true]
  exact ⟨(Readable.ofNat _).there, (Readable.text _).there, (Readable.text _).there, (Readable.text _).there,
    (Readable.bool _).there, (Binary64.readable_toJson _).there, .optional .ofNat _, .optional .ofNat _⟩

end HistoryEntry

/-! ## Histories -/

namespace History

variable {h : History}

/-- Whether the entries of a history have the numbers before the next one, in their order. -/
def Numbered (h : History) : Prop :=
  (h.nextId :: h.entries.map (·.id)).IsChain fun newer older => newer = older + 1

theorem Numbered.record (hn : h.Numbered) (e : HistoryEntry) : (h.record e).Numbered := by
  have hmap : ((({ e with id := h.nextId } :: h.entries).take h.capacity).map (·.id)) =
      (h.nextId :: h.entries.map (·.id)).take h.capacity := List.map_take
  have hall : ((h.nextId + 1) :: h.nextId :: h.entries.map (·.id)).IsChain fun newer older => newer = older + 1 :=
    .cons_cons rfl hn
  rw [Numbered, History.record, hmap]
  exact hall.take (h.capacity + 1)

/-- The numbers decrease, from the next one on. -/
theorem Numbered.descending (hn : h.Numbered) : (h.nextId :: h.entries.map (·.id)).Pairwise (· > ·) :=
  (hn.imp fun a b hab => show a > b by omega).pairwise

theorem Numbered.id_lt (hn : h.Numbered) {e : HistoryEntry} (he : e ∈ h.entries) : e.id < h.nextId :=
  (List.pairwise_cons.mp hn.descending).1 e.id (List.mem_map_of_mem he)

/-- The newest entry has the largest number. -/
theorem Numbered.max?_ids (hn : h.Numbered) (hne : h.entries ≠ []) :
    (h.entries.map (·.id)).max?.map (· + 1) = some h.nextId := by
  obtain ⟨newest, older, hentries⟩ := List.exists_cons_of_ne_nil hne
  have hdescending := (List.pairwise_cons.mp hn.descending).2
  rw [hentries, List.map_cons] at hdescending
  rw [Numbered, hentries, List.map_cons] at hn
  have hnext := (List.isChain_cons_cons.mp hn).1
  have hmax : (newest.id :: older.map (·.id)).max? = some newest.id := by
    rw [List.max?_eq_some_iff]
    refine ⟨List.mem_cons_self, fun b hb => ?_⟩
    rcases List.mem_cons.mp hb with rfl | hb
    · exact Nat.le_refl _
    · exact Nat.le_of_lt ((List.pairwise_cons.mp hdescending).1 b hb)
  rw [hentries, List.map_cons, hmax, hnext]
  rfl

theorem untimed_ofEntries (entries : List HistoryEntry) (capacity : Nat) :
    (ofEntries entries capacity).untimed = ofEntries (entries.map (·.untimed)) capacity := by
  have hids : (entries.map (·.untimed)).map (·.id) = entries.map (·.id) := List.map_map
  simp only [ofEntries, untimed, hids, List.map_take]

theorem Numbered.ofEntries_entries (hn : h.Numbered) (hne : h.entries ≠ []) (hl : h.entries.length ≤ h.capacity) :
    ofEntries h.entries h.capacity = h := by
  rw [ofEntries, hn.max?_ids hne, List.take_of_length_le hl]
  rfl

/-- A history that is not empty comes back, and goes on with the number that was next. -/
theorem Numbered.ofText_text (hn : h.Numbered) (hne : h.entries ≠ []) (hl : h.entries.length ≤ h.capacity)
    (hs : ∀ e ∈ h.entries, e.Storable) :
    ∃ h', ofText (some h.text) h.capacity = .ok h' ∧ h'.untimed = h.untimed := by
  obtain ⟨entries, hread, hentries⟩ := exists_asList? fun e he => (hs e he).exists_ofJson?
  have hdecode : Json.decode (asList? HistoryEntry.ofJson?) h.text = .ok entries := by
    rw [Json.decode, text, (Readable.list HistoryEntry.readable_toJson _).ofText?_render, Option.bind_some, hread]
  have huntimed : entries.map (·.untimed) = h.entries.map (·.untimed) := by
    rw [← List.forall₂_eq_eq_eq, List.forall₂_map_left_iff, List.forall₂_map_right_iff]
    exact hentries
  refine ⟨ofEntries entries h.capacity, ?_, ?_⟩
  · rw [ofText, hdecode]
    rfl
  · rw [untimed_ofEntries, huntimed, ← untimed_ofEntries, hn.ofEntries_entries hne hl]

end History

end PocketSql
