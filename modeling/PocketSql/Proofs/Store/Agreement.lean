/-
  PocketSql.Proofs.Store.Agreement — when a directory answers as memory does.

  A value goes to a temporary file, whose name has an ending of its own, so that it is
  never the file of a key (`get?_write`). What two keys share is their stem: a directory
  answers as memory would with the stem of each key for the key (`answers_by_stem`). So
  it answers as memory does on exactly those keys that have different stems, and none of
  which is a single dot, as that one cannot be written (`answers_agree_iff`).
-/

import Mathlib.Control.Monad.Basic
import PocketSql.Proofs.Store.Reliable
import PocketSql.Store.Directory

namespace PocketSql

/-! ## Calls and answers -/

/-- A call of a store. -/
inductive StoreCall where
  | get (key : String)
  | set (key value : String)
  deriving DecidableEq

/-- What a store answers to a call: the value that it found, or whether it took one. -/
inductive StoreAnswer where
  | got (value : Except Fault (Option String))
  | took (done : Except Fault Unit)
  deriving DecidableEq

namespace StoreCall

def key : StoreCall → String
  | get key | set key _ => key

/-- The call with another key for its own. -/
def mapKey (f : String → String) : StoreCall → StoreCall
  | get key => .get (f key)
  | set key value => .set (f key) value

end StoreCall

namespace KeyValueStore

variable {σ : Type} [KeyValueStore σ]

def answer (s : σ) : StoreCall → σ × StoreAnswer
  | .get key => (s, .got (read s key))
  | .set key value => ((write s key value).1, .took (write s key value).2)

/-- What is answered to calls, one after the other. -/
def answers (s : σ) : List StoreCall → List StoreAnswer
  | [] => []
  | call :: more => (answer s call).2 :: answers (answer s call).1 more

end KeyValueStore

open KeyValueStore (answer answers)

theorem Memory.get?_erase (m : Memory) (key other : String) :
    (m.erase key).get? other = if other = key then none else m.get? other := by
  unfold erase get?
  induction m.entries with
  | nil => simp
  | cons e entries ih =>
    obtain ⟨k, v⟩ := e
    dsimp only at ih ⊢
    rw [List.filter_cons, List.lookup_cons]
    by_cases hk : k = key
    · -- The entry is taken out; only the erased key could have found it.
      by_cases ho : other = key
      · simpa [hk, ho] using ih
      · have hne : (other == key) = false := beq_eq_false_iff_ne.mpr ho
        simpa [hk, ho, hne] using ih
    · by_cases ho : other = k
      · simp [hk, ho]
      · have hne : (other == k) = false := beq_eq_false_iff_ne.mpr ho
        simpa [hk, hne, List.lookup_cons] using ih

namespace Directory

/-! ## Names of files -/

theorem fileName_inj {a b : String} : fileName a = fileName b ↔ stem a = stem b := by
  simp [fileName]

theorem stem_eq_dot_iff {key : String} : stem key = "." ↔ key = "." := by
  constructor
  · intro h
    have hchars := congrArg String.toList h
    rw [stem, String.toList_ofList] at hchars
    obtain ⟨c, hkey, hc⟩ := List.map_eq_singleton_iff.mp hchars
    -- Only a dot becomes a dot.
    have hdot : c = '.' := by
      split at hc
      · exact hc
      · cases hc
    rw [← String.toList_inj, hkey, hdot]
    rfl
  · rintro rfl
    rfl

theorem exists_temporaryName {key : String} (h : key ≠ ".") :
    ∃ name, temporaryName? key = some (name ++ ".tmp") := by
  have hstem : ¬(stem key == ".") = true := by
    simpa using fun hs => h (stem_eq_dot_iff.mp hs)
  unfold temporaryName?
  rw [if_neg hstem]
  split
  · exact ⟨fileName key ++ ".json", by rw [String.append_assoc]; rfl⟩
  · exact ⟨stem key ++ ".json", by rw [String.append_assoc]; rfl⟩

/-- A temporary file is no key's file: their names end differently. -/
theorem temporary_ne_fileName (name key : String) : name ++ ".tmp" ≠ fileName key := by
  intro h
  have hlast := congrArg (fun s : String => s.toList.getLast?) h
  simp [fileName] at hlast

/-! ## Calls of a directory -/

/-- Whether nothing stands in the way of files. -/
structure Free (d : Directory) : Prop where
  folders : d.folders = []
  nameLimit : d.nameLimit = none

variable {d : Directory} {key : String}

theorem Free.obstacle?_eq (h : d.Free) (name : String) : d.obstacle? name = none := by
  simp [obstacle?, refuses, h.folders, h.nameLimit]

theorem Free.read_eq (h : d.Free) (key : String) : d.read key = .ok (d.files.get? (fileName key)) := by
  rw [read, h.obstacle?_eq]

/-- A value that is written stands in its key's file, and every other key's is as it was. -/
theorem Free.get?_write (h : d.Free) (hkey : key ≠ ".") (value : String) :
    ∃ d', d.write key value = (d', .ok ()) ∧ d'.Free ∧ ∀ other, d'.files.get? (fileName other) =
      if stem other = stem key then some value else d.files.get? (fileName other) := by
  obtain ⟨name, htemporary⟩ := exists_temporaryName hkey
  let written : Directory := { d with files := d.files.set (name ++ ".tmp") value }
  have hfree : written.Free := ⟨h.folders, h.nameLimit⟩
  have hcontent : written.files.get? (name ++ ".tmp") = some value := by
    rw [Memory.get?_set, if_pos rfl]
  refine ⟨written.rename (name ++ ".tmp") (fileName key), ?_, ?_, ?_⟩
  · simp only [write, htemporary, h.obstacle?_eq]
    rw [hfree.obstacle?_eq]
  · rw [rename, hcontent]
    exact ⟨h.folders, h.nameLimit⟩
  · intro other
    rw [rename, hcontent]
    dsimp only
    rw [Memory.get?_set, Memory.get?_erase, Memory.get?_set, if_neg (temporary_ne_fileName name other).symm,
      if_neg (temporary_ne_fileName name other).symm]
    simp only [fileName_inj]

/-! ## Side by side with memory -/

/-- A directory has in its files what memory has under other keys, as far as some keys go. -/
structure Follows (allowed : String → Prop) (f : String → String) (d : Directory) (m : Memory) : Prop where
  free : d.Free
  same : ∀ key, allowed key → d.files.get? (fileName key) = m.get? (f key)

variable {allowed : String → Prop} {f : String → String} {m : Memory}

/-- One call gets the same answer from both, and keeps them side by side. -/
theorem Follows.answer (h : Follows allowed f d m) (hdot : ¬allowed ".")
    (hf : ∀ a b, allowed a → allowed b → (stem a = stem b ↔ f a = f b)) {call : StoreCall} (hcall : allowed call.key) :
    (answer d call).2 = (answer m (call.mapKey f)).2 ∧
      Follows allowed f (answer d call).1 (answer m (call.mapKey f)).1 := by
  cases call with
  | get key =>
    have hread : d.read key = .ok (m.get? (f key)) := by
      rw [h.free.read_eq, h.same key hcall]
    exact ⟨congrArg StoreAnswer.got hread, h⟩
  | set key value =>
    have hkey : key ≠ "." := fun he => hdot (he ▸ hcall)
    obtain ⟨d', hwrite, hfree, hget⟩ := h.free.get?_write hkey value
    have hdone : (d.write key value).2 = .ok () := congrArg Prod.snd hwrite
    refine ⟨congrArg StoreAnswer.took hdone, ?_⟩
    show Follows allowed f (d.write key value).1 (m.set (f key) value)
    rw [hwrite]
    refine ⟨hfree, ?_⟩
    intro other hother
    rw [hget, Memory.get?_set, h.same other hother]
    simp only [hf other key hother hcall]

/-- So do all calls. -/
theorem Follows.answers_eq (h : Follows allowed f d m) (hdot : ¬allowed ".")
    (hf : ∀ a b, allowed a → allowed b → (stem a = stem b ↔ f a = f b)) {calls : List StoreCall}
    (hcalls : ∀ call ∈ calls, allowed call.key) : answers d calls = answers m (calls.map (·.mapKey f)) := by
  induction calls generalizing d m with
  | nil => rfl
  | cons call calls ih =>
    obtain ⟨hanswer, hafter⟩ := h.answer hdot hf (hcalls call List.mem_cons_self)
    have hmore := ih hafter fun call' h' => hcalls call' (List.mem_cons_of_mem _ h')
    rw [List.map_cons, answers, answers, hanswer, hmore]

theorem follows_empty (allowed : String → Prop) (f : String → String) : Follows allowed f {} {} :=
  ⟨⟨rfl, rfl⟩, fun _ _ => rfl⟩

/-- A directory answers as memory does where the stem of each key stands for the key. -/
theorem answers_by_stem {calls : List StoreCall} (h : ∀ call ∈ calls, call.key ≠ ".") :
    answers ({} : Directory) calls = answers ({} : Memory) (calls.map (·.mapKey stem)) :=
  (follows_empty (· ≠ ".") stem).answers_eq (fun hdot => hdot rfl) (fun _ _ _ _ => Iff.rfl) h

/-- What was written under a key is read under every key with its stem. -/
theorem answers_shared {a b : String} (ha : a ≠ ".") (hstem : stem a = stem b) (value : String) :
    answers ({} : Directory) [.set a value, .get b] = [.took (.ok ()), .got (.ok (some value))] := by
  have hb : b ≠ "." := fun hb => ha (stem_eq_dot_iff.mp (hstem.trans (stem_eq_dot_iff.mpr hb)))
  rw [answers_by_stem (by simp [StoreCall.key, ha, hb])]
  show [StoreAnswer.took (.ok ()), .got (.ok ((Memory.set {} (stem a) value).get? (stem b)))] = _
  rw [Memory.get?_set, if_pos hstem.symm]

/-- A directory and memory, both empty at first, give the same answers to all calls with
    certain keys exactly if no two of these have the same stem and a single dot is not
    among them. -/
theorem answers_agree_iff (allowed : String → Prop) :
    (∀ calls : List StoreCall, (∀ call ∈ calls, allowed call.key) →
      answers ({} : Directory) calls = answers ({} : Memory) calls) ↔
    (∀ a b, allowed a → allowed b → stem a = stem b → a = b) ∧ ¬allowed "." := by
  constructor
  · intro hagree
    have hdot : ¬allowed "." := by
      intro hallowed
      have h := hagree [.set "." ""] (by simpa [StoreCall.key] using hallowed)
      exact absurd h (by decide)
    refine ⟨?_, hdot⟩
    intro a b ha hb hstem
    have h := hagree [.set a "", .get b] (by simp [StoreCall.key, ha, hb])
    rw [answers_shared (fun he => hdot (he ▸ ha)) hstem] at h
    have hmemory : answers ({} : Memory) [.set a "", .get b] =
        [.took (.ok ()), .got (.ok (if b = a then some "" else none))] :=
      congrArg (fun value => [StoreAnswer.took (.ok ()), .got (.ok value)]) (Memory.get?_set {} a "" b)
    rw [hmemory] at h
    -- Memory finds a value only under the key that it was written under.
    by_cases hba : b = a
    · exact hba.symm
    · simp [hba] at h
  · rintro ⟨hinj, hdot⟩ calls hcalls
    have hsame : ∀ a b, allowed a → allowed b → (stem a = stem b ↔ id a = id b) := by
      intro a b ha hb
      exact ⟨hinj a b ha hb, congrArg stem⟩
    have hid : calls.map (·.mapKey id) = calls := by
      refine (List.map_congr_left fun call _ => ?_).trans (List.map_id calls)
      cases call <;> rfl
    rw [(follows_empty allowed id).answers_eq hdot hsame hcalls, hid]

/-- The keys "a/b" and "a_b" share a file. -/
example : answers ({} : Directory) [.set "a/b" "1", .get "a_b"] = [.took (.ok ()), .got (.ok (some "1"))] := by
  decide

end Directory

end PocketSql
