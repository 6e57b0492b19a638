/-
  PocketSql.Proofs.Engine.Logged — the history is the recent past.

  Every statement that is recognized is logged, whether it succeeds or not and whatever
  becomes of it in the store; nothing else is. Each one gets the next number and the
  oldest ones are dropped, so the entries are those of the last recognized statements since
  the history was cleared, newest first (`Logs`). The history is written after each of
  them, after everything else, so a store that takes what is written has its last state
  (`recent_history`).
-/

import PocketSql.Proofs.Engine.History
import PocketSql.Proofs.Engine.WrittenThrough

namespace PocketSql

variable {σ : Type} [KeyValueStore σ]

/-! ## Entries -/

/-- The longest of the prefixes of a text that have at most `n` characters. -/
structure IsLongestPrefix (n : Nat) (text part : List Char) : Prop where
  is_prefix : part <+: text
  length_le : part.length ≤ n
  longest : ∀ other, other <+: text → other.length ≤ n → other <+: part

theorem isLongestPrefix_truncateQuery (query : String) (n : Nat) :
    IsLongestPrefix n query.toList (truncateQuery query n).toList := by
  rw [truncateQuery, String.toList_ofList]
  refine ⟨List.take_prefix _ _, List.length_take_le _ _, fun other hprefix hlen => ?_⟩
  exact List.prefix_of_prefix_length_le hprefix (List.take_prefix _ _)
    (by rw [List.length_take]; exact Nat.le_min.mpr ⟨hlen, hprefix.length_le⟩)

section Runs

variable [RegexCompiler]

namespace Execution

/-- What the entry of a statement in the history says of it. -/
structure LoggedAs (queryChars : Nat) (x : Execution σ) (entry : HistoryEntry) : Prop where
  /-- The start of the statement in normal form. -/
  query : ∃ statement, Sql.normalize x.sql = .ok statement ∧
    IsLongestPrefix queryChars statement.toList entry.query.toList
  timestamp : entry.timestamp = x.reading.now
  success : entry.success = x.outcome.success
  elapsed : entry.elapsed = x.outcome.elapsed
  rowCount : entry.rowCount = x.outcome.rowCount
  affectedRows : entry.affectedRows = x.outcome.affectedRows
  /-- A success has its kind as label. -/
  label_succeeded : x.outcome.success = true → entry.label = x.outcome.queryType
  /-- A failure has the class of its fault. -/
  label_failed : x.outcome.success = false → x.outcome.errorCode = some entry.label

theorem exists_errorCode {x : Execution σ} (h : x.outcome.success = false) :
    ∃ code, x.outcome.errorCode = some code := by
  cases x.does with
  | unrecognized hp ha ho => exact ⟨_, by rw [ho]; rfl⟩
  | unreadable hp hparse ha ho => exact ⟨_, by rw [ho]; rfl⟩
  | failed hp hparse hrun ha ho => exact ⟨_, by rw [ho]; rfl⟩
  | succeeded hp hparse hrun ha ho => simp [ho, Outcome.success_ofResult] at h

/-- A statement that is not recognized changes nothing at all. -/
theorem after_of_unrecognized {x : Execution σ} {f : Fault} (h : Engine.prepare x.sql = .error f) :
    x.after = x.before := by
  rw [after, Engine.execute, h]

/-- Any other is logged, after all else that it does. -/
theorem exists_recorded {x : Execution σ} (h : x.kind?.isSome = true) :
    ∃ (statement : String) (e : Engine σ), Sql.normalize x.sql = .ok statement ∧ e.config = x.before.config ∧
      e.history = x.before.history ∧ x.after = e.recordHistory x.reading statement x.outcome := by
  have hnormal : ∀ statement kind, Engine.prepare x.sql = .ok (statement, kind) →
      Sql.normalize x.sql = .ok statement := by
    intro statement kind hp
    obtain ⟨normal, hn, hrest⟩ := bind_eq_ok.mp hp
    obtain ⟨kind', -, heq⟩ := bind_eq_ok.mp hrest
    cases heq
    exact hn
  cases x.does with
  | unrecognized hp ha ho => simp [kind?, hp, Except.toOption] at h
  | unreadable hp hparse ha ho => exact ⟨_, _, hnormal _ _ hp, rfl, rfl, ha⟩
  | failed hp hparse hrun ha ho =>
    refine ⟨_, _, hnormal _ _ hp, ?_, ?_, ha⟩ <;> rfl
  | succeeded hp hparse hrun ha ho =>
    refine ⟨_, _, hnormal _ _ hp, ?_, ?_, ha⟩
    · exact Engine.config_afterSuccess ..
    · exact Engine.history_afterSuccess ..

theorem loggedAs_entryOf (x : Execution σ) {statement : String} (hn : Sql.normalize x.sql = .ok statement)
    {e : Engine σ} {queryChars : Nat} (hc : e.config.historyQueryChars = queryChars) (id : Nat) :
    x.LoggedAs queryChars { e.entryOf x.reading statement x.outcome with id } := by
  refine ⟨⟨statement, hn, ?_⟩, rfl, rfl, rfl, rfl, rfl, fun hs => ?_, fun hf => ?_⟩
  · rw [← hc]
    exact isLongestPrefix_truncateQuery statement _
  · exact if_pos hs
  · obtain ⟨code, hcode⟩ := exists_errorCode hf
    simp [Engine.entryOf, hf, hcode]

end Execution

/-- The statements whose kind is recognized. -/
def recognized (xs : List (Execution σ)) : List (Execution σ) :=
  xs.filter fun x => x.kind?.isSome

/-! ## Runs -/

namespace Engine

/-- The statements executed since the history was last cleared. -/
def sinceCleared (e : Engine σ) (calls : List EngineCall) : List (Execution σ) :=
  (e.after (calls.rdropWhile fun a => !a.isClear)).trace (calls.rtakeWhile fun a => !a.isClear)

/-- What an engine has logged of the statements executed since its history was cleared. -/
structure Logs (config : Config) (e : Engine σ) (xs : List (Execution σ)) : Prop where
  configured : e.config = config
  capacity : e.history.capacity = config.historyCapacity
  numbered : e.history.Numbered
  /-- The last recognized statements, newest first, as many as are kept. -/
  entries : List.Forall₂ (Execution.LoggedAs config.historyQueryChars)
    ((recognized xs).reverse.take config.historyCapacity) e.history.entries
  /-- A store that takes what is written has them. -/
  stored : KeyValueStore.Reliable σ → e.history.entries ≠ [] →
    KeyValueStore.read e.store config.historyKey = .ok (some e.history.text)

variable {config : Config} {store : σ} {e : Engine σ} {xs : List (Execution σ)}

theorem Logs.execute {x : Execution σ} (h : x.before.Logs config xs) : x.after.Logs config (xs ++ [x]) := by
  cases hk : x.kind?.isSome with
  | false =>
    have hrecognized : recognized (xs ++ [x]) = recognized xs := by simp [recognized, hk]
    obtain ⟨f, hp⟩ : ∃ f, prepare x.sql = .error f := by
      cases hp : prepare x.sql with
      | error f => exact ⟨f, rfl⟩
      | ok p => simp [Execution.kind?, hp, Except.toOption] at hk
    rw [Execution.after_of_unrecognized hp]
    exact ⟨h.configured, h.capacity, h.numbered, hrecognized ▸ h.entries, h.stored⟩
  | true =>
    have hrecognized : (recognized (xs ++ [x])).reverse = x :: (recognized xs).reverse := by
      simp [recognized, hk]
    obtain ⟨statement, e, hn, hconfig, hhistory, hafter⟩ := Execution.exists_recorded hk
    rw [h.configured] at hconfig
    let entry : HistoryEntry := { e.entryOf x.reading statement x.outcome with id := e.history.nextId }
    have hentry : x.LoggedAs config.historyQueryChars entry := x.loggedAs_entryOf hn (by rw [hconfig]) _
    -- What is dropped of the longer list are its oldest entries, whichever list is cut first.
    have hcut : (x :: (recognized xs).reverse.take config.historyCapacity).take config.historyCapacity =
        (x :: (recognized xs).reverse).take config.historyCapacity := by
      cases config.historyCapacity with
      | zero => rfl
      | succ n => simp [List.take_take]
    have hentries : List.Forall₂ (Execution.LoggedAs config.historyQueryChars)
        ((x :: (recognized xs).reverse).take config.historyCapacity)
        ((entry :: x.before.history.entries).take config.historyCapacity) := by
      rw [← hcut]
      exact List.forall₂_take _ (.cons hentry h.entries)
    rw [hafter]
    refine ⟨hconfig, ?_, ?_, ?_, fun hr _ => ?_⟩
    · show e.history.capacity = _
      rw [hhistory, h.capacity]
    · exact History.Numbered.record (hhistory ▸ h.numbered) _
    · show List.Forall₂ _ _ ((entry :: e.history.entries).take e.history.capacity)
      rw [hrecognized, hhistory, h.capacity]
      exact hentries
    · rw [← hconfig]
      exact hr.read_write ..

/-- An empty log, after it was cleared. -/
theorem logs_clearHistory (hconfig : e.config = config) (hcapacity : e.history.capacity = config.historyCapacity) :
    e.clearHistory.Logs config [] :=
  ⟨hconfig, hcapacity, .singleton _, by simp [recognized, clearHistory, saveHistory, save, History.clear],
    fun _ hne => absurd rfl hne⟩

theorem logs_opened (hempty : ∀ key, KeyValueStore.read store key = .ok none) :
    (opened config store).Logs config [] := by
  have hhistory : (opened config store).history = { capacity := config.historyCapacity } := by
    rw [opened, loadHistory, hempty]
    rfl
  refine ⟨rfl, by rw [hhistory], ?_, ?_, fun _ hne => absurd (by rw [hhistory]) hne⟩
  · rw [hhistory]
    exact .singleton _
  · rw [hhistory]
    simp [recognized]

theorem sinceCleared_of_clear (e : Engine σ) (calls : List EngineCall) {a : EngineCall} (ha : a.isClear = true) :
    e.sinceCleared (calls ++ [a]) = [] := by
  rw [sinceCleared, List.rtakeWhile_concat_neg _ _ _ (by simp [ha])]
  rfl

theorem sinceCleared_of_not_clear (e : Engine σ) (calls : List EngineCall) {a : EngineCall} (ha : a.isClear = false) :
    e.sinceCleared (calls ++ [a]) = e.sinceCleared calls ++ (e.after calls).trace [a] := by
  have hafter : (e.after (calls.rdropWhile fun a => !a.isClear)).after (calls.rtakeWhile fun a => !a.isClear) =
      e.after calls := by
    rw [← after_append, List.rdropWhile_append_rtakeWhile]
  rw [sinceCleared, List.rdropWhile_concat_pos _ _ _ (by simp [ha]), List.rtakeWhile_concat_pos _ _ _ (by simp [ha]),
    trace_append, hafter, sinceCleared]

/-- After every run, the log is that of the statements since it was cleared. -/
theorem logs_after (hempty : ∀ key, KeyValueStore.read store key = .ok none) (calls : List EngineCall) :
    ((opened config store).after calls).Logs config ((opened config store).sinceCleared calls) := by
  induction calls using List.reverseRecOn with
  | nil => exact logs_opened hempty
  | append_singleton calls a ih =>
    rw [after_append]
    cases ha : a.isClear with
    | true =>
      rw [sinceCleared_of_clear _ _ ha]
      cases a with
      | execute | batch => cases ha
      | clearHistory => exact logs_clearHistory ih.configured ih.capacity
    | false =>
      rw [sinceCleared_of_not_clear _ _ ha]
      refine trace_keeps_of (fun _ _ => Logs.execute) (fun b hb hclear => ?_) ih
      rw [List.mem_singleton.mp hb, ha] at hclear
      cases hclear

/-- The history of an engine that was opened over an empty store has the last statements
    that were recognized since it was cleared, newest first, and their numbers decrease one
    by one, as long as the next number has 64 bits. What is not recognized changes nothing.
    An engine that is opened over the same store, if that takes what is written, has the same
    history where that is not empty, and goes on with the same number. -/
theorem recent_history (config : Config) (hempty : ∀ key, KeyValueStore.read store key = .ok none)
    (calls : List EngineCall) (hid : ((opened config store).after calls).history.nextId < UInt64.size) :
    let e := (opened config store).after calls
    (List.Forall₂ (Execution.LoggedAs config.historyQueryChars)
        ((recognized ((opened config store).sinceCleared calls)).reverse.take config.historyCapacity)
        e.history.entries ∧
      (e.history.entries.IsChain fun newer older => newer.id = older.id + 1) ∧
      ∀ entry ∈ e.history.entries, entry.id < UInt64.size) ∧
    (∀ (x : Execution σ) (f : Fault), prepare x.sql = .error f → x.after = x.before) ∧
    (KeyValueStore.Reliable σ → e.history.entries ≠ [] → (∀ entry ∈ e.history.entries, entry.Storable) →
      (opened config e.store).history.untimed = e.history.untimed) := by
  intro e
  have h : e.Logs config ((opened config store).sinceCleared calls) := logs_after hempty calls
  have hchain : e.history.entries.IsChain fun newer older => newer.id = older.id + 1 :=
    (List.isChain_map _).mp h.numbered.tail
  have hlen : e.history.entries.length ≤ e.history.capacity := by
    rw [← h.entries.length_eq, h.capacity]
    exact List.length_take_le _ _
  refine ⟨⟨h.entries, hchain, fun entry he => (h.numbered.id_lt he).trans hid⟩,
    fun x f => Execution.after_of_unrecognized, fun hr hne hs => ?_⟩
  obtain ⟨history, hread, huntimed⟩ := h.numbered.ofText_text hne hlen hs
  have hload : loadHistory config e.store = .ok history := by
    rw [loadHistory, h.stored hr hne, ← h.capacity]
    exact hread
  rw [opened, hload]
  exact huntimed

end Engine

end Runs

namespace Engine

/-- Three statements are recognized after the history was cleared, and two of them kept. -/
theorem recent_history_of_three :
    let config : Config := { historyCapacity := 2, historyQueryChars := 8 }
    let calls : List EngineCall := [.execute ⟨⟨0, 0⟩, .zero⟩ "" "SHOW DATABASES", .clearHistory,
      .batch (fun n => ⟨⟨n, 0⟩, .ofInt n⟩) "" "CREATE DATABASE d; SHOW TABLES; DROP TABLE t; SHOW TABLES",
      .execute ⟨⟨9, 0⟩, .zero⟩ "" "hello"]
    let logged := recognized ((opened config ({} : Memory)).sinceCleared calls)
    let e := (opened config ({} : Memory)).after calls
    (logged.length = 3 ∧ e.history.nextId = 5 ∧ e.history.entries ≠ [] ∧ (∀ entry ∈ e.history.entries, entry.Storable) ∧
      (e.history.entries.map fun entry => (entry.id, entry.query, entry.label, entry.rowCount)) =
        [(4, "DROP TAB", "TABLE_NOT_FOUND", none), (3, "SHOW TAB", "SHOW TABLES", some 0)]) ∧
      List.Forall₂ (Execution.LoggedAs config.historyQueryChars) (logged.reverse.take config.historyCapacity)
        e.history.entries ∧
      (opened config e.store).history.untimed = e.history.untimed := by
  dsimp only
  refine (fun hrun => ⟨hrun, ?_⟩) ?run
  case run => decide +kernel
  obtain ⟨-, hid, hne, hstorable, -⟩ := hrun
  have hempty : ∀ key, KeyValueStore.read ({} : Memory) key = .ok none := fun _ => rfl
  have h := recent_history { historyCapacity := 2, historyQueryChars := 8 } hempty _ (by rw [hid]; decide)
  exact ⟨h.1.1, h.2.2 Memory.reliable hne hstorable⟩

end Engine

end PocketSql
