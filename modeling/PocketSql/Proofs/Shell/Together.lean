/-
  PocketSql.Proofs.Shell.Together — the lines of a statement, executed together or not.

  A line is collected until one ends with a semicolon, white space aside. Whether that
  semicolon is in quotes or in a comment the shell does not ask, while a script is cut
  only at those outside. So the lines of a statement are executed together just where no
  semicolon in quotes or in a comment is the last of a line (`executesTogether_iff`);
  otherwise the statement is cut there: the lines up to that one are executed by
  themselves, and what is left is collected anew.
-/

import PocketSql.Proofs.Sql.Cut
import PocketSql.Shell

namespace PocketSql

/-! ## Semicolons outside quotes and comments -/

namespace Sql

/-- Where the semicolons outside quotes and comments stand. -/
def semicolons (cs : List Char) : List Nat :=
  (List.range cs.length).filter fun i => cs[i]? == some ';' && placeAfter .outside (cs.take i) == .outside

/-- Whether the only semicolon outside quotes and comments is the last character. -/
def isStatement (cs : List Char) : Bool :=
  semicolons cs == [cs.length - 1]

/-- Whether a text, without the white space at its end, ends with a semicolon that is in
    quotes or in a comment. -/
def breaksOff (cs : List Char) : Bool :=
  (Text.trimRight cs).getLast? == some ';' && placeAfter .outside (Text.trimRight cs).dropLast != .outside

variable {cs before after : List Char}

theorem mem_semicolons {i : Nat} :
    i ∈ semicolons cs ↔ cs[i]? = some ';' ∧ placeAfter .outside (cs.take i) = .outside := by
  simp only [semicolons, List.mem_filter, List.mem_range, Bool.and_eq_true, beq_iff_eq]
  refine ⟨fun h => h.2, fun h => ⟨?_, h⟩⟩
  exact (List.getElem?_eq_some_iff.mp h.1).1

theorem mem_semicolons_append :
    before.length ∈ semicolons (before ++ ';' :: after) ↔ placeAfter .outside before = .outside := by
  simp [mem_semicolons]

/-- A statement ends with its semicolon. -/
theorem exists_of_isStatement (h : isStatement cs = true) :
    ∃ body, cs = body ++ [';'] ∧ placeAfter .outside body = .outside := by
  have hmem : cs.length - 1 ∈ semicolons cs := by simp [beq_iff_eq.mp h]
  obtain ⟨hlast, hplace⟩ := mem_semicolons.mp hmem
  rw [← List.getLast?_eq_getElem?] at hlast
  obtain ⟨body, rfl⟩ := List.getLast?_eq_some_iff.mp hlast
  exact ⟨body, rfl, by simpa using hplace⟩

/-- Any other semicolon of a statement is in quotes or in a comment. -/
theorem not_outside_of_isStatement (h : isStatement (before ++ ';' :: after) = true) (hafter : after ≠ []) :
    placeAfter .outside before ≠ .outside := by
  intro hplace
  have hmem : before.length ∈ semicolons (before ++ ';' :: after) := mem_semicolons_append.mpr hplace
  rw [beq_iff_eq.mp h, List.mem_singleton, List.length_append, List.length_cons] at hmem
  have := List.length_pos_iff.mpr hafter
  omega

/-- Where more of a statement follows, a semicolon is one that it breaks off at. -/
theorem breaksOff_of_isStatement (h : isStatement (cs ++ after) = true) (hafter : after ≠ []) :
    breaksOff cs = ((Text.trimRight cs).getLast? == some ';') := by
  by_cases hlast : (Text.trimRight cs).getLast? = some ';'
  · obtain ⟨before, hbefore⟩ := List.getLast?_eq_some_iff.mp hlast
    obtain ⟨blanks, hblanks⟩ : Text.trimRight cs <+: cs := List.rdropWhile_prefix _ cs
    rw [hbefore] at hblanks
    have hstatement : isStatement (before ++ ';' :: (blanks ++ after)) = true := by
      simpa [← hblanks] using h
    have hplace := not_outside_of_isStatement hstatement (by simp [hafter])
    simp [breaksOff, hbefore, hplace]
  · simp [breaksOff, hlast]

/-- A whole statement does not break off. -/
theorem breaksOff_of_whole (h : isStatement cs = true) : breaksOff (cs ++ ['\n']) = false := by
  obtain ⟨body, rfl, hbody⟩ := exists_of_isStatement h
  have htrim : Text.trimRight (body ++ [';'] ++ ['\n']) = body ++ [';'] := by
    simp [Text.trimRight, Text.dropEndWhile, Text.isBlank]
  rw [breaksOff, htrim]
  simp [hbody]

end Sql

namespace Shell

variable {σ : Type} [KeyValueStore σ]

/-! ## What a line asks for -/

/-- What the shell does with a line. -/
inductive Turn where
  /-- A command of the shell itself. -/
  | command (line : String)
  /-- Collecting, up to this text. -/
  | collect (buffer : String)
  /-- Executing a text. -/
  | execute (sql : String)
  deriving DecidableEq

/-- What a line asks for behind a collected text. -/
def Turn.of (buffer line : String) : Turn :=
  if buffer.isEmpty && (Text.trim line).startsWith "." then .command (Text.trim line)
  else if (Text.trim line).isEmpty then if buffer.isEmpty then .collect "" else .execute buffer
  else if (Text.trim line).endsWith ";" then .execute (buffer ++ line ++ "\n")
  else .collect (buffer ++ line ++ "\n")

section

variable [RegexCompiler]

/-- The shell after a turn, and what is printed; none if the turn ends the session. -/
def perform (sh : Shell σ) (clock : Nat → Reading) : Turn → Shell σ × Option (List Printed)
  | .command line =>
    let sh := { sh with log := sh.log.add line }
    match sh.command clock line with
    | some (sh, printed) => (sh, some printed)
    | none => (sh, none)
  | .collect buffer => ({ sh with buffer }, some [])
  | .execute sql =>
    let (sh, printed) := { sh with buffer := sql }.flush clock
    (sh, some printed)

theorem step_eq_perform (sh : Shell σ) (clock : Nat → Reading) (line : String) :
    sh.step clock line = sh.perform clock (.of sh.buffer line) := by
  unfold step Turn.of
  dsimp only
  split
  · rfl
  · split
    · split
      · rename_i hbuffer
        have hbuffer : sh.buffer = "" := by simpa using hbuffer
        show _ = ({ sh with buffer := "" }, some [])
        rw [← hbuffer]
      · rfl
    · split
      · rfl
      · rfl

/-- What the shell does with lines one after another, up to the end of the session. -/
def turns (clock : Nat → Reading) (sh : Shell σ) : List String → List Turn
  | [] => []
  | line :: more =>
    .of sh.buffer line :: match sh.step clock line with
      | (_, none) => []
      | (sh, some _) => turns clock sh more

/-- The shell after some turns, up to one that ends the session. -/
def performAll (clock : Nat → Reading) (sh : Shell σ) : List Turn → Shell σ × List Printed
  | [] => (sh, [])
  | turn :: more =>
    match sh.perform clock turn with
    | (sh, none) => (sh, [])
    | (sh, some printed) =>
      let (sh, rest) := performAll clock sh more
      (sh, printed ++ rest)

/-- A run is its turns, performed in order: nothing is executed but by them. -/
theorem runLines_eq_performAll (clock : Nat → Reading) (sh : Shell σ) (lines : List String) :
    runLines clock sh lines = performAll clock sh (turns clock sh lines) := by
  induction lines generalizing sh with
  | nil => rfl
  | cons line more ih =>
    rw [runLines, turns, performAll, step_eq_perform]
    cases sh.perform clock (.of sh.buffer line) with
    | mk sh' printed =>
      cases printed with
      | none => rfl
      | some printed => simp only [ih]

/-- Collecting leaves nothing behind once a text is executed. -/
theorem performAll_execute (clock : Nat → Reading) (sh : Shell σ) (buffers : List String) (sql : String) :
    performAll clock sh (buffers.map .collect ++ [.execute sql]) = { sh with buffer := sql }.flush clock := by
  induction buffers generalizing sh with
  | nil => simp [performAll, perform]
  | cons buffer buffers ih =>
    rw [List.map_cons, List.cons_append, performAll, perform]
    simp only [ih, List.nil_append]

/-- Lines as they are collected, each with a line break. -/
def unlines (lines : List String) : String :=
  String.join (lines.map (· ++ "\n"))

/-- Every line but the last is only collected, and at the last one all of them are executed
    as one text. -/
def ExecutesTogether (clock : Nat → Reading) (sh : Shell σ) (lines : List String) : Prop :=
  ∃ buffers : List String, buffers.length + 1 = lines.length ∧
    turns clock sh lines = buffers.map .collect ++ [.execute (unlines lines)]

end

theorem unlines_cons (line : String) (more : List String) : unlines (line :: more) = line ++ "\n" ++ unlines more :=
  String.join_cons

theorem toList_unlines_concat (front : List String) (line : String) :
    (unlines (front ++ [line])).toList = (unlines front).toList ++ (line.toList ++ ['\n']) := by
  simp [unlines]

/-- The last line has no line break in the text that is laid out. -/
theorem toList_intercalate_append {front back : List String} (hback : back ≠ []) :
    ("\n".intercalate (front ++ back)).toList = (unlines front).toList ++ ("\n".intercalate back).toList := by
  induction front with
  | nil => rfl
  | cons line front ih =>
    rw [List.cons_append, String.intercalate_cons_of_ne_nil (by simp [hback]), unlines_cons]
    simp only [String.toList_append, ih, List.append_assoc]

/-! ## Lines that are collected, and one that is executed -/

section Lines

variable (clock : Nat → Reading) (sh : Shell σ) {line : String} {front back more : List String}

/-- Whether the first of some lines is not taken for a command behind a collected text. -/
def StartsPlain (buffer : String) (lines : List String) : Prop :=
  ∀ line ∈ lines.head?, (buffer.isEmpty && (Text.trim line).startsWith ".") = false

theorem startsPlain_collected (buffer line : String) (more : List String) :
    StartsPlain (buffer ++ line ++ "\n") more := by
  intro next _
  simp

theorem turn_of_line {buffer : String} (hplain : StartsPlain buffer (line :: more))
    (hblank : (Text.trim line).isEmpty = false) :
    Turn.of buffer line =
      if (Text.trim line).endsWith ";" then .execute (buffer ++ line ++ "\n")
      else .collect (buffer ++ line ++ "\n") := by
  have hcommand := hplain line rfl
  simp [Turn.of, hcommand, hblank]

/-- A line that does not end with a semicolon is added to what is collected. -/
theorem step_collect [RegexCompiler] (hplain : StartsPlain sh.buffer (line :: more))
    (hblank : (Text.trim line).isEmpty = false) (hopen : (Text.trim line).endsWith ";" = false) :
    sh.step clock line = ({ sh with buffer := sh.buffer ++ line ++ "\n" }, some []) := by
  rw [step_eq_perform, turn_of_line hplain hblank, hopen]
  rfl

/-- Lines of which none ends with a semicolon are all collected. -/
theorem turns_collect [RegexCompiler] (hplain : StartsPlain sh.buffer (front ++ back))
    (hblank : ∀ line ∈ front, (Text.trim line).isEmpty = false)
    (hopen : ∀ line ∈ front, (Text.trim line).endsWith ";" = false) :
    let buffer := sh.buffer ++ unlines front
    StartsPlain buffer back ∧ ∃ buffers : List String, buffers.length = front.length ∧
      turns clock sh (front ++ back) = buffers.map .collect ++ turns clock { sh with buffer } back := by
  induction front generalizing sh with
  | nil =>
    have hsame : sh.buffer ++ unlines [] = sh.buffer := String.append_empty
    rw [hsame]
    exact ⟨hplain, [], rfl, rfl⟩
  | cons line front ih =>
    obtain ⟨hblank, hblanks⟩ := List.forall_mem_cons.mp hblank
    obtain ⟨hopen, hopens⟩ := List.forall_mem_cons.mp hopen
    have hstep := step_collect clock sh hplain hblank hopen
    obtain ⟨hnext, buffers, hlength, hturns⟩ :=
      ih { sh with buffer := sh.buffer ++ line ++ "\n" } (startsPlain_collected _ _ _) hblanks hopens
    have hbuffer : sh.buffer ++ line ++ "\n" ++ unlines front = sh.buffer ++ unlines (line :: front) := by
      simp [unlines_cons, String.append_assoc]
    rw [hbuffer] at hnext hturns
    refine ⟨hnext, (sh.buffer ++ line ++ "\n") :: buffers, by simp [hlength], ?_⟩
    rw [List.cons_append, turns, turn_of_line hplain hblank, hopen, hstep]
    simp [hturns]

/-- At the first line that ends with a semicolon, the lines up to it are executed. -/
theorem turns_execute [RegexCompiler] (hbuffer : sh.buffer = "") (hplain : StartsPlain "" (front ++ line :: back))
    (hblank : ∀ line' ∈ front ++ [line], (Text.trim line').isEmpty = false)
    (hopen : ∀ line' ∈ front, (Text.trim line').endsWith ";" = false)
    (hend : (Text.trim line).endsWith ";" = true) :
    ∃ buffers : List String, buffers.length = front.length ∧
      turns clock sh (front ++ line :: back) = buffers.map .collect ++ .execute (unlines (front ++ [line])) ::
        turns clock ({ sh with buffer := unlines (front ++ [line]) }.flush clock).1 back := by
  obtain ⟨hblanks, hblank⟩ := List.forall_mem_append.mp hblank
  replace hblank := hblank line List.mem_cons_self
  rw [← hbuffer] at hplain
  obtain ⟨hnext, buffers, hlength, hturns⟩ := turns_collect clock sh hplain hblanks hopen
  have hall : sh.buffer ++ unlines front ++ line ++ "\n" = unlines (front ++ [line]) := by
    rw [← String.toList_inj]
    simp [hbuffer, toList_unlines_concat]
  have hturn := turn_of_line hnext hblank
  rw [hend, if_pos rfl, hall] at hturn
  refine ⟨buffers, hlength, ?_⟩
  rw [hturns, turns, step_eq_perform, hturn]
  rfl

end Lines

/-! ## Where a statement breaks off -/

section Statement

variable {lines front back : List String} {line : String}

/-- What a line that is not blank ends with, the lines up to it end with. -/
theorem getLast?_trimRight_unlines (front : List String) (hblank : (Text.trim line).isEmpty = false) :
    (Text.trimRight (unlines (front ++ [line])).toList).getLast? = (Text.trimRight line.toList).getLast? := by
  have hline : (Text.trimRight line.toList).getLast? ≠ none := by
    intro hnone
    rw [Text.isEmpty_trim, List.all_eq_true.mpr (Text.getLast?_trimRight_eq_none_iff.mp hnone)] at hblank
    cases hblank
  have hbreak : (Text.trimRight ['\n']).getLast? = none := by decide
  obtain ⟨c, hc⟩ := Option.ne_none_iff_exists'.mp hline
  rw [toList_unlines_concat, Text.getLast?_trimRight_append, Text.getLast?_trimRight_append, hbreak, hc]
  rfl

/-- The lines up to one that does not end with a semicolon do not break off there. -/
theorem breaksOff_of_open (hblank : (Text.trim line).isEmpty = false) (hopen : (Text.trim line).endsWith ";" = false) :
    Sql.breaksOff (unlines (front ++ [line])).toList = false := by
  rw [Text.endsWith_trim] at hopen
  rw [Sql.breaksOff, getLast?_trimRight_unlines front hblank, hopen, Bool.false_and]

theorem breaksOff_of_part {front' : List String} (hblank : ∀ line ∈ front, (Text.trim line).isEmpty = false)
    (hopen : ∀ line ∈ front, (Text.trim line).endsWith ";" = false) (hfront : front' <+: front) :
    Sql.breaksOff (unlines front').toList = false := by
  rcases List.eq_nil_or_concat front' with rfl | ⟨front', line, rfl⟩
  · rfl
  · have hmem : line ∈ front := hfront.subset (by simp)
    rw [List.concat_eq_append]
    exact breaksOff_of_open (hblank line hmem) (hopen line hmem)

theorem toList_ne_nil (hblank : (Text.trim line).isEmpty = false) : line.toList ≠ [] := by
  intro hnil
  rw [Text.isEmpty_trim, hnil] at hblank
  cases hblank

theorem intercalate_ne_nil (hback : back ≠ []) (hblank : ∀ line ∈ back, (Text.trim line).isEmpty = false) :
    ("\n".intercalate back).toList ≠ [] := by
  cases back with
  | nil => exact absurd rfl hback
  | cons line back =>
    have hline := toList_ne_nil (hblank line List.mem_cons_self)
    cases back with
    | nil => simpa using hline
    | cons line' back =>
      rw [String.intercalate_cons_cons, String.toList_append, String.toList_append]
      simp [hline]

/-- The last line of a statement ends with its semicolon. -/
theorem endsWith_of_isStatement (hs : Sql.isStatement ("\n".intercalate (front ++ [line])).toList = true)
    (hblank : (Text.trim line).isEmpty = false) : (Text.trim line).endsWith ";" = true := by
  obtain ⟨body, hbody, -⟩ := Sql.exists_of_isStatement hs
  rw [toList_intercalate_append (by simp), String.intercalate_singleton] at hbody
  have hlast : line.toList.getLast? = some ';' := by
    rw [← List.getLast?_append_of_ne_nil (unlines front).toList (toList_ne_nil hblank), hbody]
    simp
  obtain ⟨before, hbefore⟩ := List.getLast?_eq_some_iff.mp hlast
  have hsemicolon : (Text.trimRight [';']).getLast? = some ';' := by decide
  rw [Text.endsWith_trim, hbefore, Text.getLast?_trimRight_append, hsemicolon]
  rfl

/-- A statement ends with its last line, and if some line before ends with a semicolon, it
    breaks off at the first that does. -/
theorem exists_end (hs : Sql.isStatement ("\n".intercalate lines).toList = true)
    (hblank : ∀ line ∈ lines, (Text.trim line).isEmpty = false) :
    ∃ front line back, lines = front ++ line :: back ∧
      (∀ line' ∈ front, (Text.trim line').endsWith ";" = false) ∧ (Text.trim line).endsWith ";" = true ∧
      Sql.breaksOff (unlines (front ++ [line])).toList = !back.isEmpty := by
  have hsome : ∃ line ∈ lines, (Text.trim line).endsWith ";" = true := by
    rcases List.eq_nil_or_concat lines with rfl | ⟨front, last, rfl⟩
    · cases hs
    · rw [List.concat_eq_append] at hs hblank ⊢
      exact ⟨last, by simp, endsWith_of_isStatement hs (hblank last (by simp))⟩
  obtain ⟨line, hline⟩ := Option.isSome_iff_exists.mp (List.find?_isSome.mpr hsome)
  obtain ⟨hend, front, back, rfl, hopen⟩ := List.find?_eq_some_iff_append.mp hline
  refine ⟨front, line, back, rfl, by simpa using hopen, hend, ?_⟩
  have hnotBlank := hblank line (by simp)
  cases back with
  | nil =>
    have hwhole : (unlines (front ++ [line])).toList = ("\n".intercalate (front ++ [line])).toList ++ ['\n'] := by
      rw [toList_unlines_concat, toList_intercalate_append (by simp)]
      simp
    rw [hwhole, Sql.breaksOff_of_whole hs]
    rfl
  | cons next back =>
    rw [List.append_cons, toList_intercalate_append (by simp)] at hs
    rw [Sql.breaksOff_of_isStatement hs (intercalate_ne_nil (by simp) fun l hl => hblank l (by simp_all)),
      getLast?_trimRight_unlines front hnotBlank, ← Text.endsWith_trim, hend]
    rfl

/-- No part of a statement breaks off just where no line before the last ends with a
    semicolon. -/
theorem forall_breaksOff_iff (hblank : ∀ line' ∈ front, (Text.trim line').isEmpty = false)
    (hopen : ∀ line' ∈ front, (Text.trim line').endsWith ";" = false)
    (hbreak : Sql.breaksOff (unlines (front ++ [line])).toList = !back.isEmpty) :
    (∀ part, part <+: front ++ line :: back → Sql.breaksOff (unlines part).toList = false) ↔ back = [] := by
  constructor
  · intro hall
    have hpart := hall (front ++ [line]) ⟨back, by simp⟩
    simpa [hbreak] using hpart
  · rintro rfl part hpart
    rcases List.prefix_concat_iff.mp hpart with rfl | hpart
    · exact hbreak
    · exact breaksOff_of_part hblank hopen hpart

/-- The first turn that executes is found in one place. -/
theorem length_eq_of_turns {buffers buffers' : List String} {sql sql' : String} {later later' : List Turn}
    (h : buffers.map .collect ++ .execute sql :: later = buffers'.map .collect ++ .execute sql' :: later') :
    buffers.length = buffers'.length := by
  induction buffers generalizing buffers' with
  | nil =>
    cases buffers' with
    | nil => rfl
    | cons buffer' buffers' => cases h
  | cons buffer buffers ih =>
    cases buffers' with
    | nil => cases h
    | cons buffer' buffers' => simpa using ih (List.cons.inj h).2

end Statement

/-- A first line that is a command is not collected. -/
theorem ExecutesTogether.startsPlain [RegexCompiler] {clock : Nat → Reading} {sh : Shell σ} {lines : List String}
    (h : sh.ExecutesTogether clock lines) : StartsPlain sh.buffer lines := by
  obtain ⟨buffers, -, hturns⟩ := h
  intro line hline
  obtain ⟨more, rfl⟩ : ∃ more, lines = line :: more := List.head?_eq_some_iff.mp hline
  by_contra hcommand
  have hturn : Turn.of sh.buffer line = .command (Text.trim line) := by
    rw [Turn.of, if_pos (by simpa using hcommand)]
  rw [turns, hturn] at hturns
  cases buffers <;> cases hturns

/-- The lines of a statement are executed together if and only if the first of them is no
    command and no semicolon in quotes or in a comment ends a line. Then nothing happens
    before the last line, and at that they are flushed as one text. Otherwise, if the first
    line is no command, the lines that such a semicolon ends are executed by themselves, and
    the others are collected anew. -/
theorem executesTogether_iff [RegexCompiler] (clock : Nat → Reading) {sh : Shell σ} {lines : List String}
    (hbuffer : sh.buffer = "") (hs : Sql.isStatement ("\n".intercalate lines).toList = true)
    (hblank : ∀ line ∈ lines, (Text.trim line).isEmpty = false) :
    (sh.ExecutesTogether clock lines ↔
      (∀ line ∈ lines.head?, (Text.trim line).startsWith "." = false) ∧
        ∀ part, part <+: lines → Sql.breaksOff (unlines part).toList = false) ∧
    (sh.ExecutesTogether clock lines → runLines clock sh lines = { sh with buffer := unlines lines }.flush clock) ∧
    ((∀ line ∈ lines.head?, (Text.trim line).startsWith "." = false) → ¬ sh.ExecutesTogether clock lines →
      ∃ front back buffers : List String, lines = front ++ back ∧ back ≠ [] ∧
        Sql.breaksOff (unlines front).toList = true ∧ buffers.length + 1 = front.length ∧
        turns clock sh lines = buffers.map .collect ++
          .execute (unlines front) :: turns clock ({ sh with buffer := unlines front }.flush clock).1 back) := by
  obtain ⟨front, line, back, rfl, hopen, hend, hbreak⟩ := exists_end hs hblank
  have hplain : StartsPlain "" (front ++ line :: back) ↔
      ∀ line' ∈ (front ++ line :: back).head?, (Text.trim line').startsWith "." = false := by
    simp [StartsPlain]
  have hblanks : ∀ line' ∈ front ++ [line], (Text.trim line').isEmpty = false := by
    intro line' h
    refine hblank line' ?_
    rw [List.append_cons]
    exact List.mem_append_left back h
  have hparts := forall_breaksOff_iff (fun line' h => hblanks line' (List.mem_append_left _ h)) hopen hbreak
  have hexecute := fun h => turns_execute clock sh hbuffer (hplain.mpr h) hblanks hopen hend
  have htogether : sh.ExecutesTogether clock (front ++ line :: back) ↔
      (∀ line' ∈ (front ++ line :: back).head?, (Text.trim line').startsWith "." = false) ∧ back = [] := by
    constructor
    · intro h
      have hstart := hplain.mp (hbuffer ▸ h.startsPlain)
      obtain ⟨buffers, hlength, hturns⟩ := h
      obtain ⟨buffers', hlength', hturns'⟩ := hexecute hstart
      have := length_eq_of_turns (hturns'.symm.trans hturns)
      simp only [List.length_append, List.length_cons] at hlength
      exact ⟨hstart, List.length_eq_zero_iff.mp (by omega)⟩
    · rintro ⟨hstart, rfl⟩
      obtain ⟨buffers, hlength, hturns⟩ := hexecute hstart
      exact ⟨buffers, by simp [hlength], hturns⟩
  refine ⟨htogether.trans (and_congr_right fun _ => hparts.symm), ?_, ?_⟩
  · rintro ⟨buffers, -, hturns⟩
    rw [runLines_eq_performAll, hturns, performAll_execute]
  · intro hstart hnot
    obtain ⟨buffers, hlength, hturns⟩ := hexecute hstart
    have hback : back ≠ [] := fun hnil => hnot (htogether.mpr ⟨hstart, hnil⟩)
    refine ⟨front ++ [line], back, buffers, by simp, hback, ?_, by simp [hlength], hturns⟩
    rw [hbreak]
    simpa using hback

/-- A string with a semicolon at the end of a line: up to that it is executed by itself. -/
theorem not_executesTogether_of_quote :
    let clock := Function.const Nat (⟨⟨0, 0⟩, .zero⟩ : Reading)
    let sh : Shell Memory := { engine := .opened {} {}, database := "" }
    let lines := ["INSERT INTO t -- one row", "VALUES ('a; ", "b');"]
    (sh.buffer = "" ∧ Sql.isStatement ("\n".intercalate lines).toList = true ∧
      ∀ line ∈ lines, (Text.trim line).isEmpty = false) ∧
    ¬ sh.ExecutesTogether clock lines ∧
      (turns clock sh lines).take 2 =
        [.collect "INSERT INTO t -- one row\n", .execute "INSERT INTO t -- one row\nVALUES ('a; \n"] := by
  intro clock sh lines
  refine (fun hlines => ⟨hlines, ?_, ?_⟩) ?lines
  case lines => decide +kernel
  · intro h
    have hparts := ((executesTogether_iff clock hlines.1 hlines.2.1 hlines.2.2).1.mp h).2
    have hbreak := hparts ["INSERT INTO t -- one row", "VALUES ('a; "] ⟨["b');"], rfl⟩
    revert hbreak
    decide +kernel
  · decide +kernel

end Shell

end PocketSql
