/-
  PocketSql.Proofs.Sql.Written — statements on rows, written out and read back.

  A statement on rows is written with its names in backticks and its strings in single
  quotes. Read as a statement of its kind, the text gives the same statement
  (`parse_written`). In the WHERE clause no token of a predicate is a connective or ends
  the clause, at any depth, and each predicate closes the parentheses it opens
  (`cutCondition_append`); so the clause is cut exactly between its predicates.
-/

import PocketSql.Proofs.Number.Written
import PocketSql.Proofs.Sql.Piece
import PocketSql.Proofs.Sql.Takes

namespace PocketSql

open Sql (Keyword Piece)

/-! ## Pieces of statements -/

/-- Things one after another, with a comma between any two. -/
def Sql.listed {α : Type} (pieces : α → List Piece) (as : List α) : List Piece :=
  [.symbol .comma].intercalate (as.map pieces)

/-- NOT, where something is negated. -/
def Sql.negation (negated : Bool) : List Piece :=
  if negated then [.reserved .NOT] else []

/-- A reserved word and BY in front of a list, which is left out where it is empty. -/
def Sql.listedBy {α : Type} (k : Keyword) (pieces : α → List Piece) (as : List α) : List Piece :=
  if as.isEmpty then [] else .reserved k :: .reserved .BY :: Sql.listed pieces as

namespace Literal

def piece : Literal → Piece
  | null => .reserved .NULL
  | default => .reserved .DEFAULT
  | currentTimestamp => .word "CURRENT_TIMESTAMP"
  | quoted s => .string s
  | number s => .number s
  | word s => .name s

/-- Numbers are decimal ones, and a word is not the one for the time. -/
def isWritable : Literal → Bool
  | number s => Sql.isNumeral s.toList
  | word s => !Text.sameName s "CURRENT_TIMESTAMP"
  | null | default | currentTimestamp | quoted _ => true

end Literal

def Comparison.symbol : Comparison → Sql.Symbol
  | eq => .eq
  | neq => .neq
  | lt => .lt
  | gt => .gt
  | lte => .lte
  | gte => .gte

def Connective.keyword : Connective → Keyword
  | and => .AND
  | or => .OR

namespace Predicate

def pieces : Predicate → List Piece
  | compare column op v => [.name column, .symbol op.symbol, v.piece]
  | inList column vs negated =>
    .name column :: Sql.negation negated ++ .reserved .IN :: .symbol .lparen ::
      Sql.listed (fun v => [v.piece]) vs ++ [.symbol .rparen]
  | like column pattern negated => .name column :: Sql.negation negated ++ [.reserved .LIKE, .string pattern]
  | isNull column negated => .name column :: .reserved .IS :: Sql.negation negated ++ [.reserved .NULL]
  | unrecognized _ => []

def isWritable : Predicate → Bool
  | compare _ _ v => v.isWritable
  | inList _ vs _ => !vs.isEmpty && vs.all Literal.isWritable
  | like .. | isNull .. => true
  | unrecognized _ => false

end Predicate

namespace Condition

def pieces (c : Condition) : List Piece :=
  c.first.pieces ++ c.rest.flatMap fun q => .reserved q.1.keyword :: q.2.pieces

def isWritable (c : Condition) : Bool :=
  c.first.isWritable && c.rest.all fun q => q.2.isWritable

/-- A WHERE clause, where there is one. -/
def clause : Option Condition → List Piece
  | none => []
  | some c => .reserved .WHERE :: c.pieces

end Condition

def Projection.pieces : Projection → List Piece
  | all => [.symbol .asterisk]
  | columns names => Sql.listed (fun name => [.name name]) names

def OrderKey.pieces (k : OrderKey) : List Piece :=
  [.name k.column, .reserved (if k.ascending then .ASC else .DESC)]

def Assignment.pieces (a : Assignment) : List Piece :=
  [.name a.column, .symbol .eq, a.value.piece]

namespace Limit

/-- A LIMIT clause, where there is one: the rows passed over, then the rows kept. -/
def clause : Option Limit → List Piece
  | none => []
  | some l => [.reserved .LIMIT, .number (toString l.offset), .symbol .comma, .number (toString l.count)]

/-- Numbers of rows have 64 bits. -/
def isWritable (l : Limit) : Bool :=
  l.offset < UInt64.size && l.count < UInt64.size

end Limit

namespace Select

def pieces (s : Select) : List Piece :=
  .reserved .SELECT :: s.columns.pieces ++ .reserved .FROM :: .name s.table :: Condition.clause s.condition ++
    Sql.listedBy .GROUP (fun name => [.name name]) s.groupBy ++ Sql.listedBy .ORDER OrderKey.pieces s.orderBy ++
    Limit.clause s.limit

def isWritable (s : Select) : Bool :=
  s.columns != .columns [] && s.condition.all Condition.isWritable && s.limit.all Limit.isWritable

end Select

namespace Insert

/-- The columns that values are given for, where they are named. -/
def columnList : Option (List String) → List Piece
  | none => []
  | some names => .symbol .lparen :: Sql.listed (fun name => [.name name]) names ++ [.symbol .rparen]

def rowPieces (row : List Literal) : List Piece :=
  .symbol .lparen :: Sql.listed (fun v => [v.piece]) row ++ [.symbol .rparen]

def pieces (s : Insert) : List Piece :=
  .reserved .INSERT :: .reserved .INTO :: .name s.table :: columnList s.columns ++
    .reserved .VALUES :: Sql.listed rowPieces s.rows

def isWritable (s : Insert) : Bool :=
  s.columns != some [] && !s.rows.isEmpty &&
    s.rows.all fun row => !row.isEmpty && row.all Literal.isWritable

end Insert

namespace Update

def pieces (s : Update) : List Piece :=
  .reserved .UPDATE :: .name s.table :: .reserved .SET :: Sql.listed Assignment.pieces s.assignments ++
    Condition.clause s.condition

def isWritable (s : Update) : Bool :=
  !s.assignments.isEmpty && s.assignments.all (fun a => a.value.isWritable) && s.condition.all Condition.isWritable

end Update

namespace Delete

def pieces (s : Delete) : List Piece :=
  .reserved .DELETE :: .reserved .FROM :: .name s.table :: Condition.clause s.condition

def isWritable (s : Delete) : Bool :=
  s.condition.all Condition.isWritable

end Delete

namespace Statement

/-- What a statement on rows is put together from. -/
def pieces : Statement → List Piece
  | select s => s.pieces
  | insert s => s.pieces
  | update s => s.pieces
  | delete s => s.pieces
  | _ => []

/-- Statements on rows with something in every list, whose numbers and words have their
    forms. -/
def isWritable : Statement → Bool
  | select s => s.isWritable
  | insert s => s.isWritable
  | update s => s.isWritable
  | delete s => s.isWritable
  | _ => false

/-- The text of a statement on rows. -/
def written (s : Statement) : String :=
  Sql.spaced s.pieces

end Statement

namespace Sql

/-! ## The pieces stand in a statement -/

section InStatement

variable {α : Type} {f : α → List Piece}

theorem all_listed {q : Piece → Bool} (hq : q (.symbol .comma) = true) (as : List α) :
    (listed f as).all q = as.all fun a => (f a).all q := by
  induction as with
  | nil => simp [listed]
  | cons a as ih =>
    cases as with
    | nil => simp [listed]
    | cons a' as =>
      simp only [listed, List.map_cons, List.intercalate_cons_cons, List.all_append, List.all_cons, List.all_nil,
        hq, Bool.and_true] at ih ⊢
      rw [ih]

@[simp] theorem all_isInStatement_listed (as : List α) :
    (listed f as).all Piece.isInStatement = as.all fun a => (f a).all Piece.isInStatement :=
  all_listed rfl as

@[simp] theorem all_isInStatement_negation (negated : Bool) : (negation negated).all Piece.isInStatement = true := by
  cases negated <;> rfl

@[simp] theorem all_isInStatement_listedBy (k : Keyword) (as : List α) :
    (listedBy k f as).all Piece.isInStatement = as.all fun a => (f a).all Piece.isInStatement := by
  cases as <;> simp [listedBy]

theorem all_isInStatement_names (names : List String) :
    (listed (fun name => [.name name]) names).all Piece.isInStatement = true := by
  simp

end InStatement

theorem isNumeral_of_digits {cs : List Char} (hne : cs ≠ []) (h : ∀ c ∈ cs, c.isDigit = true) :
    isNumeral cs = true := by
  have hminus : ∀ more, cs ≠ '-' :: more := by
    rintro more rfl
    exact absurd (h '-' List.mem_cons_self) (by decide)
  have hall : startsWithDigits isFraction cs = true := by
    rw [startsWithDigits, Numeral.digits, List.takeWhile_eq_self_iff.mpr h, List.dropWhile_eq_nil_iff.mpr h]
    simpa [isFraction, isExponent, Numeral.exponent?] using hne
  unfold isNumeral
  split
  · exact absurd rfl (hminus _)
  · exact hall

theorem isNumeral_toString (n : Nat) : isNumeral (toString n).toList = true := by
  have htext : (toString n).toList = Nat.toDigits 10 n := String.toList_ofList
  rw [htext]
  exact isNumeral_of_digits Nat.toDigits_ne_nil fun c hc => isDigit_of_mem_toDigits hc

theorem isInStatement_piece {v : Literal} (h : v.isWritable = true) : v.piece.isInStatement = true := by
  cases v with
  | number s => exact (Piece.isInStatement_number s).trans h
  | currentTimestamp => decide +kernel
  | _ => rfl

theorem all_isInStatement_literals {vs : List Literal} (h : vs.all Literal.isWritable = true) :
    (listed (fun v => [v.piece]) vs).all Piece.isInStatement = true := by
  rw [all_isInStatement_listed, List.all_eq_true]
  intro v hv
  simp [isInStatement_piece (List.all_eq_true.mp h v hv)]

theorem all_isInStatement_predicate {p : Predicate} (h : p.isWritable = true) :
    p.pieces.all Piece.isInStatement = true := by
  cases p with
  | compare column op v =>
    have hop : op.symbol ≠ .semicolon := by cases op <;> simp [Comparison.symbol]
    simp [Predicate.pieces, hop, isInStatement_piece h]
  | inList column vs negated =>
    have hvs : vs.all Literal.isWritable = true := (Bool.and_eq_true_iff.mp h).2
    simp [Predicate.pieces, -List.all_eq_true, all_isInStatement_literals hvs]
  | like column pattern negated => simp [Predicate.pieces, -List.all_eq_true]
  | isNull column negated => simp [Predicate.pieces, -List.all_eq_true]
  | unrecognized text => rfl

theorem all_isInStatement_condition {c : Option Condition} (h : c.all Condition.isWritable = true) :
    (Condition.clause c).all Piece.isInStatement = true := by
  cases c with
  | none => rfl
  | some c =>
    obtain ⟨hf, hr⟩ := Bool.and_eq_true_iff.mp h
    have hrest : (c.rest.flatMap fun q => .reserved q.1.keyword :: q.2.pieces).all Piece.isInStatement = true := by
      rw [List.all_flatMap, List.all_eq_true]
      intro q hq
      simp [-List.all_eq_true, all_isInStatement_predicate (List.all_eq_true.mp hr q hq)]
    simp [Condition.clause, Condition.pieces, -List.all_eq_true, all_isInStatement_predicate hf, hrest]

theorem all_isInStatement_limit (l : Option Limit) : (Limit.clause l).all Piece.isInStatement = true := by
  cases l with
  | none => rfl
  | some l =>
    simp only [Limit.clause, List.all_cons, Piece.isInStatement_number, isNumeral_toString]
    rfl

theorem isInStatement_of_mem_pieces {s : Statement} (h : s.isWritable = true) :
    ∀ p ∈ s.pieces, p.isInStatement = true := by
  refine List.all_eq_true.mp ?_
  cases s with
  | select s =>
    obtain ⟨hsc, hl⟩ := Bool.and_eq_true_iff.mp h
    obtain ⟨hs, hc⟩ := Bool.and_eq_true_iff.mp hsc
    have hcolumns : s.columns.pieces.all Piece.isInStatement = true := by
      cases s.columns with
      | all => rfl
      | columns names => exact all_isInStatement_names names
    have hgroup : (listedBy .GROUP (fun name => [.name name]) s.groupBy).all Piece.isInStatement = true := by
      simp
    have horder : (listedBy .ORDER OrderKey.pieces s.orderBy).all Piece.isInStatement = true := by
      simp [OrderKey.pieces]
    simp [Statement.pieces, Select.pieces, -List.all_eq_true, -all_isInStatement_listedBy, hcolumns,
      all_isInStatement_condition hc, hgroup, horder, all_isInStatement_limit]
  | insert s =>
    obtain ⟨-, hrows⟩ := Bool.and_eq_true_iff.mp h
    have hcolumns : (Insert.columnList s.columns).all Piece.isInStatement = true := by
      cases s.columns with
      | none => rfl
      | some names => simp [Insert.columnList, -List.all_eq_true, -all_isInStatement_listed, all_isInStatement_names]
    have hvalues : (s.rows.all fun row => (Insert.rowPieces row).all Piece.isInStatement) = true := by
      rw [List.all_eq_true]
      intro row hrow
      have hrow := (Bool.and_eq_true_iff.mp (List.all_eq_true.mp hrows row hrow)).2
      simp [Insert.rowPieces, -List.all_eq_true, all_isInStatement_literals hrow]
    simp [Statement.pieces, Insert.pieces, -List.all_eq_true, hcolumns, hvalues]
  | update s =>
    obtain ⟨has, hc⟩ := Bool.and_eq_true_iff.mp h
    obtain ⟨-, has⟩ := Bool.and_eq_true_iff.mp has
    have hassign : (s.assignments.all fun a => a.pieces.all Piece.isInStatement) = true := by
      rw [List.all_eq_true]
      intro a ha
      simp [Assignment.pieces, isInStatement_piece (List.all_eq_true.mp has a ha)]
    simp [Statement.pieces, Update.pieces, -List.all_eq_true, hassign, all_isInStatement_condition hc]
  | delete s =>
    simp [Statement.pieces, Delete.pieces, -List.all_eq_true, all_isInStatement_condition h]
  | _ => cases h

/-! ## The pieces as tokens -/

@[simp] theorem map_token_listed {α : Type} (f : α → List Piece) (as : List α) :
    (listed f as).map Piece.token = Parser.commaSeparated (as.map fun a => (f a).map Piece.token) := by
  rw [listed, Parser.map_intercalate, List.map_map]
  rfl

/-- What optional clauses start with: these words, if there is one of the clauses. -/
def Opens (ks : List Keyword) (ts : List Token) : Prop :=
  ∀ t ∈ ts.head?, ∃ k ∈ ks, t = .keyword k

namespace Opens

variable {ks : List Keyword} {k : Keyword} {ts : List Token}

theorem nil (ks : List Keyword) : Opens ks [] := by
  intro t ht
  cases ht

theorem cons (h : k ∈ ks) (ts : List Token) : Opens ks (.keyword k :: ts) := by
  intro t ht
  cases ht
  exact ⟨k, h, rfl⟩

theorem mono {ks' : List Keyword} (h : Opens ks ts) (hk : ks ⊆ ks') : Opens ks' ts := by
  intro t ht
  obtain ⟨k, hmem, rfl⟩ := h t ht
  exact ⟨k, hk hmem, rfl⟩

theorem head?_ne_symbol (h : Opens ks ts) (s : Symbol) : ts.head? ≠ some (.symbol s) := by
  intro hs
  obtain ⟨k, -, hk⟩ := h _ hs
  cases hk

theorem head?_ne_keyword (h : Opens ks ts) (hk : k ∉ ks) : ts.head? ≠ some (.keyword k) := by
  intro hs
  obtain ⟨k', hk', he⟩ := h _ hs
  cases he
  exact hk hk'

theorem listedBy {α : Type} {f : α → List Piece} (h : Opens ks ts) (k : Keyword) (as : List α) :
    Opens (k :: ks) ((Sql.listedBy k f as).map Piece.token ++ ts) := by
  cases as with
  | nil => exact h.mono (List.subset_cons_self _ _)
  | cons a as => exact cons List.mem_cons_self _

theorem condition (h : Opens ks ts) (c : Option Condition) :
    Opens (.WHERE :: ks) ((Condition.clause c).map Piece.token ++ ts) := by
  cases c with
  | none => exact h.mono (List.subset_cons_self _ _)
  | some c => exact cons List.mem_cons_self _

theorem limit (l : Option Limit) : Opens [.LIMIT] ((Limit.clause l).map Piece.token) := by
  cases l with
  | none => exact nil _
  | some l => exact cons List.mem_cons_self _

end Opens

/-! ## Reading literals and predicates -/

namespace Parser

variable {rest : List Token}

theorem literal_takes {v : Literal} (hv : v.isWritable = true) (h : rest.head? ≠ some (.symbol .lparen)) :
    literal.Takes (v.piece.token :: rest) v rest := by
  cases v with
  | currentTimestamp =>
    refine Takes.get ?_
    have htime : Text.sameName "CURRENT_TIMESTAMP" "CURRENT_TIMESTAMP" = true := by decide +kernel
    simp only [Literal.piece, Piece.token, htime, if_true]
    exact (set_takes _ _).bind ((takeSymbol_false h).bind (.pure _ _))
  | word w =>
    have htime : Text.sameName w "CURRENT_TIMESTAMP" = false := by
      simpa [Literal.isWritable] using hv
    have hcall : (Text.sameName w "NOW" && rest.head? == some (.symbol .lparen)) = false := by
      simp [beq_eq_false_iff_ne.mpr h]
    refine Takes.get ?_
    simp only [Literal.piece, Piece.token, htime, hcall]
    exact rfl
  | _ => exact rfl

theorem literals_takes {vs : List Literal} (hne : vs ≠ []) (hvs : vs.all Literal.isWritable = true) :
    (items literal).Takes ((listed (fun v => [v.piece]) vs).map Piece.token ++ .symbol .rparen :: rest) vs
      (.symbol .rparen :: rest) := by
  rw [map_token_listed]
  refine items_takes hne ?_ (by simp)
  rintro v hv more hmore
  refine literal_takes (List.all_eq_true.mp hvs v hv) ?_
  rcases hmore with hmore | rfl
  · simp [hmore]
  · simp

theorem names_takes {names : List String} (hne : names ≠ []) (hcomma : rest.head? ≠ some (.symbol .comma))
    {item : Parser String} (hitem : ∀ name more, more.head? = some (.symbol .comma) ∨ more = rest →
      item.Takes (.identifier name :: more) name more) :
    (items item).Takes ((listed (fun name => [.name name]) names).map Piece.token ++ rest) names rest := by
  rw [map_token_listed]
  exact items_takes hne (fun name _ more hmore => hitem name more hmore) hcomma

theorem comparison?_token (op : Comparison) : comparison? (.symbol op.symbol) = some op := by
  cases op <;> rfl

theorem membership_takes_in {vs : List Literal} (hne : vs ≠ []) (hvs : vs.all Literal.isWritable = true)
    (column : String) (negated : Bool) (other : Parser Predicate) :
    (membership column negated other).Takes
      (.keyword .IN :: .symbol .lparen :: (listed (fun v => [v.piece]) vs).map Piece.token ++ [.symbol .rparen])
      (.inList column vs negated) [] := by
  refine (takes_takeKeyword_true.mpr rfl).bind ?_
  exact (parenthesized_takes (literals_takes hne hvs)).bind (.pure _ _)

theorem statedOf_takes_membership {column : String} {negated : Bool} {p : Predicate} {ts : List Token}
    (his : ts.head? ≠ some (.keyword .IS)) (hnot : ts.head? ≠ some (.keyword .NOT))
    (h : ∀ other, (membership column negated other).Takes ts p rest) :
    (statedOf column).Takes ((negation negated).map Piece.token ++ ts) p rest := by
  cases negated with
  | true =>
    refine (takeKeyword_false (by simp [negation, Piece.token])).bind ?_
    exact (takes_takeKeyword_true.mpr rfl).bind (h _)
  | false =>
    refine (takeKeyword_false his).bind ?_
    exact (takeKeyword_false hnot).bind (h _)

theorem membership_takes_compare {v : Literal} (hv : v.isWritable = true) (column : String) (op : Comparison) :
    (membership column false (compared column)).Takes [.symbol op.symbol, v.piece.token] (.compare column op v) [] := by
  refine (takeKeyword_false (by simp)).bind ?_
  refine (takeKeyword_false (by simp)).bind ?_
  show (compared column).Takes _ _ _
  refine Takes.get ?_
  simp only [List.head?_cons, Option.bind_some, comparison?_token]
  exact (advance_takes _ _).bind ((literal_takes hv (by simp)).bind (.pure _ _))

/-- A predicate is the name of its column and what is stated of that. -/
theorem statedOf_takes {p : Predicate} (h : p.isWritable = true) : ∃ column ts,
    p.pieces.map Piece.token = .identifier column :: ts ∧ ts.head? ≠ some (.symbol .dot) ∧
      (statedOf column).Takes ts p [] := by
  cases p with
  | compare column op v =>
    refine ⟨column, [.symbol op.symbol, v.piece.token], rfl, ?_, ?_⟩
    · cases op <;> simp [Comparison.symbol]
    · refine (takeKeyword_false (by simp)).bind ?_
      exact (takeKeyword_false (by simp)).bind (membership_takes_compare h column op)
  | inList column vs negated =>
    obtain ⟨hne, hvs⟩ := Bool.and_eq_true_iff.mp h
    have hne : vs ≠ [] := by simpa using hne
    refine ⟨column, (negation negated).map Piece.token ++ (.keyword .IN :: .symbol .lparen ::
      (listed (fun v => [v.piece]) vs).map Piece.token ++ [.symbol .rparen]), ?_, ?_, ?_⟩
    · simp [Predicate.pieces, Piece.token]
    · cases negated <;> simp [negation, Piece.token]
    · exact statedOf_takes_membership (by simp) (by simp) (membership_takes_in hne hvs column negated)
  | like column pattern negated =>
    refine ⟨column, (negation negated).map Piece.token ++ [.keyword .LIKE, .quoted pattern], ?_, ?_, ?_⟩
    · simp [Predicate.pieces, Piece.token]
    · cases negated <;> simp [negation, Piece.token]
    · exact statedOf_takes_membership (by simp) (by simp) fun _ => rfl
  | isNull column negated =>
    refine ⟨column, .keyword .IS :: (negation negated).map Piece.token ++ [.keyword .NULL], ?_, ?_, ?_⟩
    · simp [Predicate.pieces, Piece.token]
    · simp
    · cases negated <;> exact rfl
  | unrecognized text => cases h

end Parser

/-- A predicate that fills its segment is read back. -/
theorem predicateOf_pieces {p : Predicate} (h : p.isWritable = true) :
    predicateOf (p.pieces.map Piece.token) = p := by
  obtain ⟨column, ts, htokens, hdot, hstated⟩ := Parser.statedOf_takes h
  have hread : Parser.predicate.Takes (p.pieces.map Piece.token) p [] := by
    rw [htokens]
    refine (Parser.objectName_takes column hdot).bind ?_
    exact hstated.bind (Parser.atEnd_nil.bind (.pure _ _))
  unfold predicateOf
  rw [hread]

/-! ## Cutting the clause -/

/-- Whether a token neither joins predicates nor ends a clause, at any depth. -/
def isInner : Token → Bool
  | .symbol .semicolon => false
  | .keyword k => !([.AND, .OR, .GROUP, .ORDER, .LIMIT] : List Keyword).contains k
  | _ => true

theorem endsCondition_of_isInner {t : Token} (h : isInner t = true) (depth : Nat) : endsCondition depth t = false := by
  cases t with
  | symbol s => cases s <;> first | rfl | cases h
  | keyword k => cases k <;> first | rfl | cases h
  | _ => rfl

theorem connective?_of_isInner {t : Token} (h : isInner t = true) (depth : Nat) : connective? depth t = none := by
  cases t with
  | keyword k => cases k <;> first | rfl | cases h
  | _ => rfl

/-- The segment goes on through inner tokens, and the depth with it. -/
theorem cutCondition_append {segment : List Token} (h : ∀ t ∈ segment, isInner t = true) (depth : Nat)
    (rest : List Token) : cutCondition depth (segment ++ rest) =
      let cut := cutCondition (segment.foldl depthAfter depth) rest
      { cut with first := segment ++ cut.first } := by
  induction segment generalizing depth with
  | nil => rfl
  | cons t segment ih =>
    have ht := h t List.mem_cons_self
    have ih := ih (fun t' h' => h t' (List.mem_cons_of_mem _ h')) (depthAfter depth t)
    rw [List.cons_append, cutCondition, endsCondition_of_isInner ht, connective?_of_isInner ht]
    simp only [Bool.false_eq_true, if_false, ih, List.foldl_cons]
    rfl

theorem isInner_literal (v : Literal) : isInner v.piece.token = true := by
  cases v <;> rfl

theorem depthAfter_literal (v : Literal) (depth : Nat) : depthAfter depth v.piece.token = depth := by
  cases v <;> rfl

theorem isInner_predicate (p : Predicate) : ∀ t ∈ p.pieces.map Piece.token, isInner t = true := by
  have hall : (p.pieces.all fun q => isInner q.token) = true := by
    cases p with
    | compare column op v => cases op <;> cases v <;> rfl
    | inList column vs negated =>
      have hnot : ((negation negated).all fun q => isInner q.token) = true := by cases negated <;> rfl
      have hvs : ((listed (fun v => [v.piece]) vs).all fun q => isInner q.token) = true := by
        rw [all_listed rfl, List.all_eq_true]
        intro v _
        simp [isInner_literal]
      simp only [Predicate.pieces, List.cons_append, List.all_cons, List.all_append, hnot, hvs]
      rfl
    | like column pattern negated => cases negated <;> rfl
    | isNull column negated => cases negated <;> rfl
    | unrecognized text => rfl
  simpa [List.all_eq_true] using hall

theorem foldl_depthAfter_literals (vs : List Literal) (depth : Nat) :
    ((listed (fun v => [v.piece]) vs).map Piece.token).foldl depthAfter depth = depth := by
  have hflat : ((listed (fun v => [v.piece]) vs).all fun q => depthAfter depth q.token == depth) = true := by
    rw [all_listed (by simp [Piece.token, depthAfter]), List.all_eq_true]
    intro v _
    simp [depthAfter_literal]
  generalize (listed (fun v => [v.piece]) vs) = ps at hflat
  induction ps with
  | nil => rfl
  | cons q ps ih =>
    obtain ⟨hq, hps⟩ := Bool.and_eq_true_iff.mp hflat
    rw [List.map_cons, List.foldl_cons, beq_iff_eq.mp hq]
    exact ih hps

/-- A predicate closes the parentheses that it opens. -/
theorem foldl_depthAfter_predicate (p : Predicate) : (p.pieces.map Piece.token).foldl depthAfter 0 = 0 := by
  cases p with
  | compare column op v => cases op <;> cases v <;> rfl
  | inList column vs negated =>
    have hnot : ((negation negated).map Piece.token).foldl depthAfter 0 = 0 := by cases negated <;> rfl
    simp only [Predicate.pieces, List.cons_append, List.map_cons, List.map_append, List.foldl_cons,
      List.foldl_append, Piece.token, depthAfter, hnot, foldl_depthAfter_literals]
    rfl
  | like column pattern negated => cases negated <;> rfl
  | isNull column negated => cases negated <;> rfl
  | unrecognized text => rfl

theorem cutCondition_predicate (p : Predicate) (rest : List Token) :
    cutCondition 0 (p.pieces.map Piece.token ++ rest) =
      let cut := cutCondition 0 rest
      { cut with first := p.pieces.map Piece.token ++ cut.first } := by
  rw [cutCondition_append (isInner_predicate p), foldl_depthAfter_predicate]

/-- What follows the clause is left where it is. -/
theorem cutCondition_of_ends {rest : List Token} (h : ∀ t ∈ rest.head?, endsCondition 0 t = true) :
    cutCondition 0 rest = ⟨[], [], rest⟩ := by
  cases rest with
  | nil => rfl
  | cons t rest => rw [cutCondition, if_pos (h t rfl)]

theorem cutCondition_connective (c : Connective) (rest : List Token) :
    cutCondition 0 (.keyword c.keyword :: rest) = (cutCondition 0 rest).startWith c := by
  cases c <;> rfl

/-- A clause is cut between its predicates. -/
theorem cutCondition_pieces (c : Condition) {rest : List Token} (h : ∀ t ∈ rest.head?, endsCondition 0 t = true) :
    cutCondition 0 (c.pieces.map Piece.token ++ rest) =
      ⟨c.first.pieces.map Piece.token, c.rest.map fun q => (q.1, q.2.pieces.map Piece.token), rest⟩ := by
  have hrest : ∀ qs : List (Connective × Predicate),
      cutCondition 0 ((qs.flatMap fun q => .reserved q.1.keyword :: q.2.pieces).map Piece.token ++ rest) =
        ⟨[], qs.map fun q => (q.1, q.2.pieces.map Piece.token), rest⟩ := by
    intro qs
    induction qs with
    | nil => exact cutCondition_of_ends h
    | cons q qs ih =>
      simp only [List.flatMap_cons, List.cons_append, List.map_cons, List.map_append, List.append_assoc, Piece.token,
        cutCondition_connective, cutCondition_predicate, ih]
      simp [Segments.startWith]
  rw [Condition.pieces, List.map_append, List.append_assoc, cutCondition_predicate, hrest]
  simp

theorem endsCondition_of_opens {rest : List Token} (h : Opens [.GROUP, .ORDER, .LIMIT] rest) :
    ∀ t ∈ rest.head?, endsCondition 0 t = true := by
  intro t ht
  obtain ⟨k, hk, rfl⟩ := h t ht
  have hall : ∀ k ∈ ([.GROUP, .ORDER, .LIMIT] : List Keyword), endsCondition 0 (.keyword k) = true := by
    decide
  exact hall k hk

/-! ## Reading clauses and statements -/

namespace Parser

variable {rest more : List Token}

/-- An item of a list is in front of a comma or of what follows the list. -/
theorem head?_ne {t : Token} (h : more.head? = some (.symbol .comma) ∨ more = rest) (hc : Token.symbol .comma ≠ t)
    (hr : rest.head? ≠ some t) : more.head? ≠ some t := by
  rcases h with h | rfl
  · simpa [h] using hc
  · exact hr

theorem pieces_ne_nil {p : Predicate} (h : p.isWritable = true) : p.pieces ≠ [] := by
  cases p with
  | unrecognized text => cases h
  | _ => simp [Predicate.pieces]

theorem condition_takes {c : Condition} (hc : c.isWritable = true) (h : Opens [.GROUP, .ORDER, .LIMIT] rest) :
    condition.Takes (c.pieces.map Piece.token ++ rest) c rest := by
  obtain ⟨hfirst, hmore⟩ := Bool.and_eq_true_iff.mp hc
  have hmore : ∀ q ∈ c.rest, q.2.isWritable = true := fun q hq => List.all_eq_true.mp hmore q hq
  refine Takes.get ?_
  simp only [cutCondition_pieces c (endsCondition_of_opens h)]
  refine (set_takes _ _).bind ?_
  have hne : ((c.first.pieces.map Piece.token).isEmpty ||
      (c.rest.map fun q => (q.1, q.2.pieces.map Piece.token)).any (·.2.isEmpty)) = false := by
    simp only [Bool.or_eq_false_iff, List.any_eq_false, List.mem_map, List.isEmpty_iff]
    refine ⟨by simp [pieces_ne_nil hfirst], ?_⟩
    rintro _ ⟨q, hq, rfl⟩
    simp [pieces_ne_nil (hmore q hq)]
  have hread : (c.rest.map fun q => (q.1, q.2.pieces.map Piece.token)).map
      (fun q => (q.1, predicateOf q.2)) = c.rest := by
    rw [List.map_map]
    refine (List.map_congr_left fun q hq => ?_).trans (List.map_id _)
    simp [predicateOf_pieces (hmore q hq)]
  simp only [hne, hread, predicateOf_pieces hfirst]
  exact rfl

theorem condition?_takes {c : Option Condition} (hc : c.all Condition.isWritable = true)
    (h : Opens [.GROUP, .ORDER, .LIMIT] rest) :
    condition?.Takes ((Condition.clause c).map Piece.token ++ rest) c rest := by
  cases c with
  | none => exact (takeKeyword_false (h.head?_ne_keyword (by decide))).bind (.pure _ _)
  | some c => exact (takes_takeKeyword_true.mpr rfl).bind ((condition_takes hc h).bind (.pure _ _))

theorem listBy_takes {α : Type} {k : Keyword} {ks : List Keyword} {item : Parser α} {f : α → List Piece}
    {as : List α} (hk : k ∉ ks) (h : Opens ks rest)
    (hitem : ∀ a more, more.head? = some (.symbol .comma) ∨ more = rest →
      item.Takes ((f a).map Piece.token ++ more) a more) :
    (listBy k item).Takes ((listedBy k f as).map Piece.token ++ rest) as rest := by
  cases as with
  | nil => exact (takeKeyword_false (h.head?_ne_keyword hk)).bind (.pure _ _)
  | cons a as =>
    refine (takes_takeKeyword_true.mpr rfl).bind ?_
    refine Takes.bind (a := ()) (takes_expectKeyword.mpr rfl) ?_
    rw [map_token_listed]
    exact items_takes (by simp) (fun a _ => hitem a) (h.head?_ne_symbol _)

theorem orderKey_takes (k : OrderKey) (rest : List Token) :
    orderKey.Takes (k.pieces.map Piece.token ++ rest) k rest := by
  obtain ⟨column, ascending⟩ := k
  refine (objectName_takes column (by simp [Piece.token])).bind ?_
  cases ascending with
  | true =>
    refine (takeKeyword_false (by simp [Piece.token])).bind ?_
    exact (takes_takeKeyword_true.mpr rfl).bind (.pure _ _)
  | false => exact (takes_takeKeyword_true.mpr rfl).bind (.pure _ _)

theorem limit_takes {l : Limit} (h : l.isWritable = true) :
    limit.Takes [.number (toString l.offset), .symbol .comma, .number (toString l.count)] l [] := by
  obtain ⟨ho, hc⟩ := Bool.and_eq_true_iff.mp h
  have hnumber : ∀ n, decide (n < UInt64.size) = true → ∀ more, rowCount.Takes (.number (toString n) :: more) n more :=
    fun n hn => rowCount_takes (natBelow?_toString (of_decide_eq_true hn))
  refine (hnumber l.offset ho _).bind ?_
  refine (takes_takeSymbol_true.mpr rfl).bind ?_
  exact (hnumber l.count hc _).bind (.pure _ _)

theorem projection_takes {ps : Projection} (h : ps ≠ .columns []) :
    projection.Takes (ps.pieces.map Piece.token ++ .keyword .FROM :: rest) ps (.keyword .FROM :: rest) := by
  cases ps with
  | all => exact rfl
  | columns names =>
    have hstar : ((listed (fun name => [.name name]) names).map Piece.token ++ Token.keyword .FROM :: rest).head? ≠
        some (.symbol .asterisk) := by
      cases names with
      | nil => exact absurd rfl h
      | cons name names => cases names <;> simp [listed, List.intercalate_cons_cons, Piece.token]
    refine (takeSymbol_false hstar).bind ((names_takes (by simpa using h) (by simp) ?_).bind (.pure _ _))
    intro name more hmore
    refine (objectName_takes name (head?_ne hmore (by simp) (by simp))).bind ?_
    exact (takeKeyword_false (head?_ne hmore (by simp) (by simp))).bind (.pure _ _)

theorem select_takes {s : Select} (h : s.isWritable = true) : select.Takes (s.pieces.map Piece.token) s [] := by
  obtain ⟨columns, table, c, groupBy, orderBy, l⟩ := s
  obtain ⟨hsc, hl⟩ := Bool.and_eq_true_iff.mp h
  obtain ⟨hs, hc⟩ := Bool.and_eq_true_iff.mp hsc
  have hlimit := Opens.limit l
  have horder := hlimit.listedBy .ORDER orderBy (f := OrderKey.pieces)
  have hgroup := horder.listedBy .GROUP groupBy (f := fun name => [.name name])
  have hwhere := hgroup.condition c
  simp only [Select.pieces, List.cons_append, List.append_assoc, List.map_cons, List.map_append]
  refine Takes.bind (a := ()) (takes_expectKeyword.mpr rfl) ?_
  refine (projection_takes (by simpa using hs)).bind ?_
  refine (takes_takeKeyword_true.mpr rfl).bind ?_
  refine (objectName_takes table (hwhere.head?_ne_symbol _)).bind ?_
  refine (condition?_takes hc hgroup).bind ?_
  refine (listBy_takes (by decide) horder fun name more hmore => ?_).bind ?_
  · exact objectName_takes name (head?_ne hmore (by simp) (horder.head?_ne_symbol _))
  refine (listBy_takes (by decide) hlimit fun key more _ => orderKey_takes key more).bind ?_
  cases l with
  | none =>
    refine (takeKeyword_false (by simp [Limit.clause])).bind ?_
    exact (Takes.pure none []).bind (.pure _ _)
  | some l =>
    refine (takes_takeKeyword_true.mpr rfl).bind ?_
    exact (limit_takes hl).map.bind (.pure _ _)

theorem columnList?_takes {columns : Option (List String)} (hne : columns ≠ some [])
    (h : rest.head? ≠ some (.symbol .lparen)) :
    columnList?.Takes ((Insert.columnList columns).map Piece.token ++ rest) columns rest := by
  cases columns with
  | none => exact (takeSymbol_false h).bind (.pure _ _)
  | some names =>
    simp only [Insert.columnList, List.cons_append, List.map_cons, List.map_append, List.append_assoc]
    refine (takes_takeSymbol_true.mpr rfl).bind ?_
    refine (names_takes (by simpa using hne) (by simp [Piece.token]) fun name more _ =>
      identifier_takes name more).bind ?_
    exact Takes.bind (a := ()) (takes_expectSymbol.mpr rfl) (.pure _ _)

theorem row_takes {row : List Literal} (hne : row ≠ []) (hvs : row.all Literal.isWritable = true) :
    (parenthesized (items literal)).Takes ((Insert.rowPieces row).map Piece.token ++ rest) row rest := by
  simp only [Insert.rowPieces, List.cons_append, List.map_cons, List.map_append, List.append_assoc]
  exact parenthesized_takes (literals_takes hne hvs)

theorem insert_takes {s : Insert} (h : s.isWritable = true) : insert.Takes (s.pieces.map Piece.token) s [] := by
  obtain ⟨hcr, hrows⟩ := Bool.and_eq_true_iff.mp h
  obtain ⟨hc, hr⟩ := Bool.and_eq_true_iff.mp hcr
  have hdot : ((Insert.columnList s.columns).map Piece.token ++ .keyword .VALUES ::
      (listed Insert.rowPieces s.rows).map Piece.token).head? ≠ some (.symbol .dot) := by
    cases s.columns <;> simp [Insert.columnList, Piece.token]
  simp only [Insert.pieces, List.cons_append, List.map_cons, List.map_append]
  refine Takes.bind (a := ()) (takes_expectKeyword.mpr rfl) ?_
  refine Takes.bind (a := ()) (takes_expectKeyword.mpr rfl) ?_
  refine (objectName_takes s.table hdot).bind ?_
  refine (columnList?_takes (by simpa using hc) (by simp)).bind ?_
  refine (takes_takeKeyword_true.mpr rfl).bind ?_
  have hread : (items (parenthesized (items literal))).Takes
      ((listed Insert.rowPieces s.rows).map Piece.token ++ []) s.rows [] := by
    rw [map_token_listed]
    refine items_takes (by simpa using hr) (fun row hrow more _ => ?_) (by simp)
    obtain ⟨hne, hvs⟩ := Bool.and_eq_true_iff.mp (List.all_eq_true.mp hrows row hrow)
    exact row_takes (by simpa using hne) hvs
  rw [List.append_nil] at hread
  exact hread.bind (.pure _ _)

theorem assignment_takes {a : Assignment} (h : a.value.isWritable = true)
    (hrest : rest.head? ≠ some (.symbol .lparen)) :
    assignment.Takes (a.pieces.map Piece.token ++ rest) a rest := by
  refine (objectName_takes a.column (by simp [Piece.token])).bind ?_
  refine Takes.bind (a := ()) (takes_expectSymbol.mpr rfl) ?_
  exact (literal_takes h hrest).bind (.pure _ _)

theorem update_takes {s : Update} (h : s.isWritable = true) : update.Takes (s.pieces.map Piece.token) s [] := by
  obtain ⟨has, hc⟩ := Bool.and_eq_true_iff.mp h
  obtain ⟨hne, has⟩ := Bool.and_eq_true_iff.mp has
  have hwhere := (Opens.nil [.GROUP, .ORDER, .LIMIT]).condition s.condition
  have hcondition := condition?_takes hc (Opens.nil _)
  rw [List.append_nil] at hwhere hcondition
  simp only [Update.pieces, List.cons_append, List.map_cons, List.map_append]
  refine Takes.bind (a := ()) (takes_expectKeyword.mpr rfl) ?_
  refine (objectName_takes s.table (by simp [Piece.token])).bind ?_
  refine (takes_takeKeyword_true.mpr rfl).bind ?_
  rw [map_token_listed]
  refine (items_takes (by simpa using hne) (fun a ha more hmore => ?_) (hwhere.head?_ne_symbol _)).bind ?_
  · exact assignment_takes (List.all_eq_true.mp has a ha) (head?_ne hmore (by simp) (hwhere.head?_ne_symbol _))
  exact hcondition.bind (.pure _ _)

theorem delete_takes {s : Delete} (h : s.isWritable = true) : delete.Takes (s.pieces.map Piece.token) s [] := by
  have hwhere := (Opens.nil [.GROUP, .ORDER, .LIMIT]).condition s.condition
  have hcondition := condition?_takes h (Opens.nil _)
  rw [List.append_nil] at hwhere hcondition
  refine Takes.bind (a := ()) (takes_expectKeyword.mpr rfl) ?_
  refine Takes.bind (a := ()) (takes_expectKeyword.mpr rfl) ?_
  refine (objectName_takes s.table (hwhere.head?_ne_symbol _)).bind ?_
  exact hcondition.bind (.pure _ _)

theorem statement_takes {s : Statement} (h : s.isWritable = true) :
    (statement s.kind).Takes (s.pieces.map Piece.token) s [] := by
  have hbody : (body s.kind).Takes (s.pieces.map Piece.token) s [] ∧ (s.kind == .explain) = false := by
    cases s with
    | select s => exact ⟨(select_takes h).map, rfl⟩
    | insert s => exact ⟨(insert_takes h).map, rfl⟩
    | update s => exact ⟨(update_takes h).map, rfl⟩
    | delete s => exact ⟨(delete_takes h).map, rfl⟩
    | _ => cases h
  rw [statement, hbody.2]
  refine hbody.1.bind ?_
  exact (takeSymbol_false (by simp)).bind (atEnd_nil.bind (.pure _ _))

end Parser

/-! ## Statements written and read -/

/-- A text of a statement's tokens is read as the statement, however it is laid out. -/
theorem parse_of_lex {s : Statement} (h : s.isWritable = true) {sql : String}
    (hl : lex sql = .ok (s.pieces.map Piece.token)) : parse sql s.kind = .ok s := by
  unfold parse
  rw [hl]
  show Prod.fst <$> (Parser.statement s.kind).run (s.pieces.map Piece.token) = .ok s
  rw [Parser.statement_takes h]
  rfl

/-- A statement on rows that is written out is read back as it was, for all names and
    strings in it. -/
theorem parse_written {s : Statement} (h : s.isWritable = true) : parse s.written s.kind = .ok s :=
  parse_of_lex h (lex_spaced fun p hp => Piece.isWritable_of_isInStatement (isInStatement_of_mem_pieces h p hp))

/-- A query with quotes, comment marks, separators and reserved words in its names and
    strings, each clause, and a negative number with an exponent. -/
theorem parse_written_of_query :
    let s : Statement := .select
      { columns := .columns ["a`b", "FROM"], table := "t;--",
        condition := some ⟨.inList "x" [.quoted "it's \\ (", .number "-1.5e-3", .word "NOW", .null] true,
          [(.or, .compare "AND" .neq (.word "`")), (.and, .like "y" "%';" false), (.and, .isNull "" true)]⟩,
        groupBy := ["a.b", "LIMIT"], orderBy := [⟨"y", false⟩, ⟨"z", true⟩], limit := some ⟨0, 18446744073709551615⟩ }
    s.isWritable = true ∧ parse s.written s.kind = .ok s :=
  ⟨by decide +kernel, parse_written (by decide +kernel)⟩

end Sql

end PocketSql
