/-
  PocketSql.Proofs.Sql.Defined — table definitions with all names in backticks.

  Backticks make any text a name, but the token of a name does not tell whether it had
  any. So a quoted name may still be taken for a word that is not reserved: a table for the
  IF of IF NOT EXISTS, a column for the start of a constraint. In front of a type that is
  no reserved word a column is told from most constraints; SET is reserved. Other than that
  a definition is read as the table and the columns that it was made from
  (`parse_text_iff`).
-/

import PocketSql.Proofs.Schema.Sound
import PocketSql.Proofs.Sql.Modified
import PocketSql.Proofs.Sql.Piece
import PocketSql.Proofs.Text.Case

namespace PocketSql

/-! ## Names of types -/

namespace ColumnType

/-- All names of types, in capitals. -/
def names : List (String × ColumnType) :=
  all.map (fun (t : ColumnType) => (t.name, t)) ++ aliases

theorem mem_names {word : String} {type : ColumnType} (h : ofName? word = some type) :
    (Text.upper word, type) ∈ names := by
  unfold ofName? at h
  dsimp only at h
  split at h
  · rename_i t ht
    cases h
    have hname : type.name = Text.upper word := by simpa using List.find?_some ht
    exact List.mem_append_left _ (List.mem_map.mpr ⟨type, List.mem_of_find?_eq_some ht, by rw [hname]⟩)
  · obtain ⟨before, after, hsplit, -⟩ := List.lookup_eq_some_iff.mp h
    exact List.mem_append_right _ (by simp [hsplit])

theorem forall_names {p : String × ColumnType → Prop} (hname : ∀ type : ColumnType, p (type.name, type))
    (halias : ∀ n ∈ aliases, p n) : ∀ n ∈ names, p n := by
  intro n hn
  rcases List.mem_append.mp hn with hn | hn
  · obtain ⟨type, -, rfl⟩ := List.mem_map.mp hn
    exact hname type
  · exact halias n hn

theorem capital_names : ∀ n ∈ names, (!n.1.toList.isEmpty && n.1.toList.all Char.isUpper) = true := by
  refine forall_names (fun type => ?_) ?_
  · cases type <;> decide +kernel
  · decide +kernel

/-- SET alone is reserved. -/
theorem keyword_names : ∀ n ∈ names,
    (Sql.Keyword.all.find? fun k => k.text == n.1) = if n.2 = .set then some .SET else none := by
  refine forall_names (fun type => ?_) ?_
  · cases type <;> decide +kernel
  · decide +kernel

/-- The token of a word that names the type. -/
def token (type : ColumnType) (word : String) : Sql.Token :=
  if type = .set then .keyword .SET else .identifier word

/-- The name of a type is a word by itself. -/
theorem isTextOf_token {word : String} {type : ColumnType} (h : ofName? word = some type) :
    Sql.IsTextOf (type.token word) word.toList := by
  obtain ⟨hne, hupper⟩ := Bool.and_eq_true_iff.mp (capital_names _ (mem_names h))
  have hletters := Text.isAlphabetic_of_upper (List.all_eq_true.mp hupper)
  have hword : Sql.wordToken word.toList = type.token word := by
    rw [Sql.wordToken, String.ofList_toList, Sql.Keyword.ofWord?, keyword_names _ (mem_names h), token]
    by_cases hset : type = .set <;> simp [hset]
  rw [← hword]
  refine Sql.isTextOf_word ?_ (List.all_eq_true.mpr fun c hc => ?_)
  · cases hcs : word.toList with
    | nil => simp [Text.toList_upper, hcs] at hne
    | cons c cs => simp [Sql.startsWord, hletters c (by simp [hcs])]
  · simp [Sql.continuesWord, Text.isAlphanumeric, hletters c hc]

theorem typeWord?_token (type : ColumnType) {word : String} (h : ofName? word = some type) :
    (Sql.Parser.typeWord? (type.token word)).bind ofName? = some type := by
  unfold token
  split
  · rename_i hset
    rw [hset]
    decide +kernel
  · exact h

end ColumnType

namespace Sql

/-! ## Definitions -/

/-- A token with a text that is read as it. -/
structure TokenText where
  token : Token
  chars : List Char
  reads : IsTextOf token chars

namespace TokenText

def ofPiece (p : Piece) (h : p.isWritable = true) : TokenText :=
  ⟨p.token, p.chars, Piece.isTextOf h⟩

def name (s : String) : TokenText :=
  ofPiece (.name s) rfl

def string (s : String) : TokenText :=
  ofPiece (.string s) rfl

def symbol (s : Symbol) : TokenText :=
  ofPiece (.symbol s) rfl

def reserved (k : Keyword) : TokenText :=
  ofPiece (.reserved k) rfl

/-- The texts with one space between any two. -/
def spaced (texts : List TokenText) : String :=
  String.ofList ([' '].intercalate (texts.map chars))

theorem lex_spaced (texts : List TokenText) : lex (spaced texts) = .ok (texts.map token) := by
  rw [lex_eq_ok_iff, spaced, String.toList_ofList]
  exact scan_intercalate fun t _ => t.reads

end TokenText

/-- A column without modifiers: its name, one of the names of its type in any case, and
    the members where the type has some. -/
structure ColumnText where
  name : String
  word : String
  type : ColumnType
  members : List String
  named : ColumnType.ofName? word = some type
  listed : members = [] ↔ type.hasMembers = false

/-- A table with columns, of which no two have the same name. -/
structure TableText where
  name : String
  columns : List ColumnText
  nonempty : columns ≠ []
  distinct : DistinctNames (columns.map (·.name))

namespace ColumnText

def memberTexts : List String → List TokenText
  | [] => []
  | members => .symbol .lparen :: [TokenText.symbol .comma].intercalate (members.map fun m => [.string m]) ++
      [.symbol .rparen]

def texts (c : ColumnText) : List TokenText :=
  .name c.name :: ⟨_, _, ColumnType.isTextOf_token c.named⟩ :: memberTexts c.members

def column (c : ColumnText) : Column :=
  { name := c.name, type := c.type, members := c.members }

@[simp] theorem name_column (c : ColumnText) : c.column.name = c.name :=
  rfl

/-- Whether the definition of the column is taken for a constraint. -/
def isMisread (c : ColumnText) : Bool :=
  Text.sameName c.name "CONSTRAINT" ||
    c.type == .set && ["FOREIGN", "CHECK", "KEY", "INDEX", "FULLTEXT"].any (Text.sameName c.name ·)

end ColumnText

namespace TableText

def texts (d : TableText) : List TokenText :=
  [.reserved .CREATE, .reserved .TABLE, .name d.name, .symbol .lparen] ++
    [TokenText.symbol .comma].intercalate (d.columns.map ColumnText.texts) ++ [.symbol .rparen]

/-- The definition as a text, with all names in backticks. -/
def text (d : TableText) : String :=
  TokenText.spaced d.texts

end TableText

/-! ## Tokens -/

namespace ColumnText

def memberTokens : List String → List Token
  | [] => []
  | members => .symbol .lparen :: Parser.commaSeparated (members.map fun m => [.quoted m]) ++ [.symbol .rparen]

def tokens (c : ColumnText) : List Token :=
  .identifier c.name :: c.type.token c.word :: memberTokens c.members

end ColumnText

def TableText.tokens (d : TableText) : List Token :=
  [.keyword .CREATE, .keyword .TABLE, .identifier d.name, .symbol .lparen] ++
    Parser.commaSeparated (d.columns.map ColumnText.tokens) ++ [.symbol .rparen]

theorem ColumnText.map_token_texts (c : ColumnText) : c.texts.map TokenText.token = c.tokens := by
  have hmembers : ∀ members, (memberTexts members).map TokenText.token = memberTokens members := by
    intro members
    cases members with
    | nil => rfl
    | cons m members =>
      simp only [memberTexts, memberTokens, List.map_append, List.map_cons, Parser.map_intercalate, List.map_map]
      rfl
  rw [texts, List.map_cons, List.map_cons, hmembers]
  rfl

theorem TableText.lex_text (d : TableText) : lex d.text = .ok d.tokens := by
  have hcolumns : d.columns.map (fun c => c.texts.map TokenText.token) = d.columns.map ColumnText.tokens :=
    List.map_congr_left fun c _ => c.map_token_texts
  rw [text, TokenText.lex_spaced, texts, List.map_append, List.map_append, Parser.map_intercalate, List.map_map]
  exact congrArg (fun runs => Except.ok (_ ++ Parser.commaSeparated runs ++ _)) hcolumns

/-! ## Cutting the body -/

variable {ts rest : List Token} {run : List Token} {runs : List (List Token)}

/-- What a body is cut into with tokens in front of it. -/
def withFront (ts : List Token) (cut : Option (List Token × List (List Token) × List Token)) :
    Option (List Token × List (List Token) × List Token) :=
  cut.map fun (piece, more, after) => (ts ++ piece, more, after)

theorem withFront_withFront (ts us : List Token) (cut : Option (List Token × List (List Token) × List Token)) :
    withFront ts (withFront us cut) = withFront (ts ++ us) cut := by
  cases cut <;> simp [withFront]

/-- Inside parentheses commas cut nothing. -/
theorem cutBody_inner (h : ∀ t ∈ ts, t ≠ .symbol .lparen ∧ t ≠ .symbol .rparen) (depth : Nat) (rest : List Token) :
    cutBody (depth + 1) (ts ++ rest) = withFront ts (cutBody (depth + 1) rest) := by
  induction ts with
  | nil => cases hc : cutBody (depth + 1) rest <;> simp [withFront, hc]
  | cons t ts ih =>
    obtain ⟨hl, hr⟩ := h t List.mem_cons_self
    have hpush : cutBody (depth + 1) (t :: (ts ++ rest)) = withFront [t] (cutBody (depth + 1) (ts ++ rest)) := by
      cases t with
      | symbol s =>
        cases s with
        | lparen => exact absurd rfl hl
        | rparen => exact absurd rfl hr
        | _ => rfl
      | _ => rfl
    rw [List.cons_append, hpush, ih fun u hu => h u (List.mem_cons_of_mem _ hu), withFront_withFront]
    rfl

/-- Whether the tokens stay together in front of any others. -/
def Together (ts : List Token) : Prop :=
  ∀ rest, cutBody 0 (ts ++ rest) = withFront ts (cutBody 0 rest)

theorem ColumnText.ne_parenthesis (members : List String) :
    ∀ t ∈ Parser.commaSeparated (members.map fun m => [Token.quoted m]),
      t ≠ .symbol .lparen ∧ t ≠ .symbol .rparen := by
  intro t ht
  rcases Parser.mem_commaSeparated ht with rfl | ⟨run, hrun, ht⟩
  · exact ⟨by simp, by simp⟩
  · obtain ⟨m, -, rfl⟩ := List.mem_map.mp hrun
    rw [List.mem_singleton.mp ht]
    exact ⟨by simp, by simp⟩

theorem ColumnText.together_memberTokens (members : List String) : Together (memberTokens members) := by
  intro rest
  cases members with
  | nil => cases hc : cutBody 0 rest <;> simp [memberTokens, withFront, hc]
  | cons m members =>
    have hinner := cutBody_inner (ColumnText.ne_parenthesis (m :: members)) 0 (.symbol .rparen :: rest)
    have hopen : ∀ us, cutBody 0 (.symbol .lparen :: us) = withFront [.symbol .lparen] (cutBody 1 us) := fun us => rfl
    have hclose : cutBody 1 (.symbol .rparen :: rest) = withFront [.symbol .rparen] (cutBody 0 rest) := rfl
    simp only [memberTokens, List.cons_append, List.append_assoc, List.nil_append]
    rw [hopen, hinner, hclose, withFront_withFront, withFront_withFront]
    simp

theorem ColumnText.together_tokens (c : ColumnText) : Together c.tokens := by
  intro rest
  have hname : ∀ us, cutBody 0 (.identifier c.name :: us) = withFront [.identifier c.name] (cutBody 0 us) :=
    fun us => rfl
  have htype : ∀ us, cutBody 0 (c.type.token c.word :: us) = withFront [c.type.token c.word] (cutBody 0 us) := by
    intro us
    unfold ColumnType.token
    split <;> rfl
  rw [tokens, List.cons_append, List.cons_append, hname, htype, together_memberTokens, withFront_withFront,
    withFront_withFront]
  rfl

/-- A body is cut into the runs that it was put together from. -/
theorem cutBody_commaSeparated (h : ∀ r ∈ run :: runs, Together r) (rest : List Token) :
    cutBody 0 (Parser.commaSeparated (run :: runs) ++ .symbol .rparen :: rest) = some (run, runs, rest) := by
  induction runs generalizing run with
  | nil =>
    have hrun := h run List.mem_cons_self (.symbol .rparen :: rest)
    simpa [Parser.commaSeparated, cutBody, withFront] using hrun
  | cons run' runs ih =>
    have hrun := h run List.mem_cons_self
    have ih := ih fun r hr => h r (List.mem_cons_of_mem _ hr)
    have hsplit : Parser.commaSeparated (run :: run' :: runs) ++ .symbol .rparen :: rest =
        run ++ .symbol .comma :: (Parser.commaSeparated (run' :: runs) ++ .symbol .rparen :: rest) := by
      simp [Parser.commaSeparated, List.intercalate_cons_cons]
    rw [hsplit, hrun, cutBody, ih]
    simp [withFront]

/-! ## Reading the pieces -/

/-- Behind a name and a type the tokens are read as the rest of the type, and as modifiers. -/
theorem Parser.takes_column_of_type {name word : String} {type : ColumnType} {ts : List Token} {d : Column}
    (hw : ColumnType.ofName? word = some type) :
    Parser.column.Takes (.identifier name :: type.token word :: ts) d [] ↔
      ∃ c us ms, (Parser.typeTail { name, type }).Takes ts c us ∧ Parser.States us ms ∧ d = c.changedBy ms := by
  have hword := type.typeWord?_token hw
  constructor
  · intro h
    obtain ⟨-, _, _, c, us, ms, hts, htype, hms, rfl⟩ := takes_column.mp h
    cases hts
    obtain ⟨_, _, type', hts, hword', htail⟩ := takes_columnType.mp htype
    cases hts
    cases hword.symm.trans hword'
    exact ⟨c, us, ms, htail, hms, rfl⟩
  · rintro ⟨c, us, ms, htail, hms, rfl⟩
    exact takes_column.mpr
      ⟨rfl, name, _, c, us, ms, rfl, takes_columnType.mpr ⟨_, _, type, rfl, hword, htail⟩, hms, rfl⟩

namespace ColumnText

theorem isSome_constraintKind? (name : String) : (constraintKind? (.identifier name)).isSome =
    ["FOREIGN", "CHECK", "KEY", "INDEX", "FULLTEXT"].any (Text.sameName name ·) := by
  have hprimary : (Token.identifier name == .keyword .PRIMARY) = false := rfl
  have hunique : (Token.identifier name == .keyword .UNIQUE) = false := rfl
  simp only [constraintKind?, hprimary, hunique, Token.isWord, List.any_cons, List.any_nil, Bool.or_false]
  grind

theorem namesType_token (c : ColumnText) : namesType (some (c.type.token c.word)) = (c.type != .set) := by
  unfold ColumnType.token
  split
  · rename_i hset
    rw [hset]
    rfl
  · rename_i hset
    have hnamed : (ColumnType.ofName? c.word).isSome = true := by
      rw [c.named]
      rfl
    rw [namesType, hnamed]
    simpa using hset

/-- A column is taken for a constraint just where it is misread. -/
theorem isSome_constraint? (c : ColumnText) : (constraint? c.tokens).isSome = c.isMisread := by
  have hword : (Token.identifier c.name).isWord "CONSTRAINT" = Text.sameName c.name "CONSTRAINT" := rfl
  simp only [constraint?, tokens, List.head?_cons, namesType_token, Option.isSome_map, hword, isMisread,
    ← isSome_constraintKind?]
  by_cases hconstraint : Text.sameName c.name "CONSTRAINT" = true
  · simp [hconstraint]
  · by_cases hset : c.type = .set <;> simp [hconstraint, hset]

/-- Members are read behind a type that has them. -/
theorem typeTail_takes (name : String) {type : ColumnType} {members : List String}
    (h : members ≠ [] → type.hasMembers = true) :
    (Parser.typeTail { name, type }).Takes (memberTokens members) { name, type, members } [] := by
  cases members with
  | nil => exact (Parser.takeSymbol_false (by simp [memberTokens])).bind (.pure _ _)
  | cons m members =>
    have hitems : (Parser.items (Parser.textLiteral .invalidMember)).Takes
        (Parser.commaSeparated ((m :: members).map fun m => [.quoted m]) ++ [.symbol .rparen]) (m :: members)
        [.symbol .rparen] :=
      Parser.items_takes (List.cons_ne_nil _ _) (fun m _ more _ => rfl) (by simp)
    refine (Parser.takes_takeSymbol_true.mpr rfl).bind (Parser.Takes.bind ?_
      (Parser.Takes.bind (a := ()) (Parser.takes_expectSymbol.mpr rfl) (.pure _ _)))
    rw [Parser.typeDetail, if_pos (h (List.cons_ne_nil _ _))]
    exact hitems.bind (.pure _ _)

/-- A column is read from its tokens. -/
theorem column_takes (c : ColumnText) : Parser.column.Takes c.tokens c.column [] := by
  have htail : (Parser.typeTail { name := c.name, type := c.type }).Takes (memberTokens c.members) c.column [] :=
    typeTail_takes c.name fun hne => by simpa using mt c.listed.mpr hne
  exact (Parser.takes_column_of_type c.named).mpr ⟨c.column, [], [], htail, .nil, rfl⟩

end ColumnText

/-- The body that is read from the definitions of columns: those that are not misread, and
    a constraint for each of the others. -/
def bodyRead (columns : List ColumnText) : TableBody where
  columns := (columns.filter fun c => !c.isMisread).map ColumnText.column
  constraints := columns.filterMap fun c => constraint? c.tokens

theorem constraints_bodyRead_eq_nil_iff {columns : List ColumnText} :
    (bodyRead columns).constraints = [] ↔ ∀ c ∈ columns, c.isMisread = false := by
  simp only [bodyRead, List.filterMap_eq_nil_iff, ← ColumnText.isSome_constraint?, Option.isSome_eq_false_iff,
    Option.isNone_iff_eq_none]

/-- The table that is read. -/
def TableText.statementRead (d : TableText) : CreateTable where
  table := d.name
  columns := (bodyRead d.columns).columns
  constraints := (bodyRead d.columns).constraints
  ifNotExists := false
  engine := none
  charset := none

namespace TableBody

variable {table : String} {body : TableBody} {c : ColumnText}

theorem addPiece_misread (h : constraint? c.tokens = some constraint) :
    addPiece table body c.tokens = .ok { body with constraints := body.constraints ++ [constraint] } := by
  have hfull : c.tokens.isEmpty = false := rfl
  simp only [addPiece, hfull, h, Bool.false_eq_true, if_false]

theorem addPiece_column (hnew : ∀ d ∈ body.columns, Text.sameName d.name c.name = false)
    (h : constraint? c.tokens = none) :
    addPiece table body c.tokens = .ok { body with columns := body.columns ++ [c.column] } := by
  have hread : Parser.column.run c.tokens = .ok (c.column, []) := c.column_takes
  have hany : (body.columns.any fun d => Text.sameName d.name c.column.name) = false := by
    simpa using hnew
  have hfull : c.tokens.isEmpty = false := rfl
  simp only [addPiece, hfull, h, hread, hany, Bool.false_eq_true, if_false]

/-- The pieces of columns with different names are added one by one. -/
theorem addPieces_columns {columns : List ColumnText}
    (hd : DistinctNames (body.columns.map (·.name) ++ columns.map (·.name))) :
    (columns.map ColumnText.tokens).foldlM (addPiece table) body =
      .ok ⟨body.columns ++ (bodyRead columns).columns, body.constraints ++ (bodyRead columns).constraints⟩ := by
  induction columns generalizing body with
  | nil => simp [bodyRead, pure, Except.pure]
  | cons c columns ih =>
    have hmisread := c.isSome_constraint?
    rw [List.map_cons, List.foldlM_cons]
    cases hc : constraint? c.tokens with
    | some constraint =>
      rw [addPiece_misread hc]
      refine (ih (hd.sublist ?_)).trans ?_
      · simp
      · simp [bodyRead, hc, ← hmisread]
    | none =>
      have hnew : ∀ d ∈ body.columns, Text.sameName d.name c.name = false := by
        intro d hdmem
        exact (List.pairwise_append.mp hd).2.2 _ (List.mem_map_of_mem hdmem) _ (by simp)
      rw [addPiece_column hnew hc]
      refine (ih ?_).trans ?_
      · simpa using hd
      · simp [bodyRead, hc, ← hmisread]

/-- The pieces of columns are a body where one of them is read as a column. -/
theorem ofPieces_columns {columns : List ColumnText} (hd : DistinctNames (columns.map (·.name))) :
    ofPieces table (columns.map ColumnText.tokens) = .ok body ↔
      (bodyRead columns).columns ≠ [] ∧ body = bodyRead columns := by
  have hbody : (columns.map ColumnText.tokens).foldlM (addPiece table) {} = .ok (bodyRead columns) :=
    addPieces_columns hd
  rw [ofPieces, hbody]
  show (if (bodyRead columns).columns.isEmpty then _ else _) = _ ↔ _
  split
  · rename_i hempty
    exact ⟨(nomatch ·), fun h => absurd (List.isEmpty_iff.mp hempty) h.1⟩
  · rename_i hfull
    constructor
    · rintro ⟨⟩
      exact ⟨fun hnil => hfull (List.isEmpty_iff.mpr hnil), rfl⟩
    · rintro ⟨-, rfl⟩
      exact rfl

end TableBody

namespace Parser

variable {d : TableText} {s : CreateTable} {name : String}

theorem ifNotExists_takes (h : Text.sameName name "IF" = false) (ts : List Token) :
    ifNotExists.Takes (.identifier name :: ts) false (.identifier name :: ts) := by
  refine Takes.bind (a := false) (takes_takeIf_false.mpr ⟨rfl, ?_⟩) (.pure _ _)
  rintro t ⟨⟩
  exact h

theorem not_takes_ifNotExists {b : Bool} (h : Text.sameName name "IF" = true) (ts : List Token) :
    ¬ ifNotExists.Takes (.identifier name :: .symbol .lparen :: ts) b rest := by
  intro ht
  have hword : (takeWord "IF").Takes (.identifier name :: .symbol .lparen :: ts) true (.symbol .lparen :: ts) :=
    takes_takeIf_true.mpr ⟨.identifier name, h, rfl⟩
  obtain ⟨u, ts', hnot, -⟩ := takes_bind.mp (hword.bind_iff.mp ht)
  cases takes_expectKeyword.mp hnot

/-- CREATE TABLE needs the NOT of IF NOT EXISTS behind a table called IF. -/
theorem not_takes_createTable (h : Text.sameName d.name "IF" = true) : ¬ createTable.Takes d.tokens s rest := by
  intro ht
  obtain ⟨u, ts₁, hcreate, ht⟩ := takes_bind.mp ht
  cases takes_expectKeyword.mp hcreate
  obtain ⟨u, ts₂, htable, ht⟩ := takes_bind.mp ht
  cases takes_expectKeyword.mp htable
  obtain ⟨b, ts₃, hif, -⟩ := takes_bind.mp ht
  exact not_takes_ifNotExists h _ hif

/-- A definition is read where one of its columns is. -/
theorem takes_createTable (h : Text.sameName d.name "IF" = false) : createTable.Takes d.tokens s rest ↔
    rest = [] ∧ (bodyRead d.columns).columns ≠ [] ∧ s = d.statementRead := by
  obtain ⟨run, runs, hruns⟩ : ∃ run runs, d.columns.map ColumnText.tokens = run :: runs :=
    List.exists_cons_of_ne_nil (by simpa using d.nonempty)
  have htogether : ∀ r ∈ run :: runs, Together r := by
    intro r hr
    obtain ⟨c, -, rfl⟩ := List.mem_map.mp (hruns ▸ hr)
    exact c.together_tokens
  have hcut : cutBody 0 (commaSeparated (run :: runs) ++ [.symbol .rparen]) = some (run, runs, []) :=
    cutBody_commaSeparated htogether []
  have hpieces : ∀ body, TableBody.ofPieces d.name (run :: runs) = .ok body ↔
      (bodyRead d.columns).columns ≠ [] ∧ body = bodyRead d.columns := by
    intro body
    rw [← hruns]
    exact TableBody.ofPieces_columns d.distinct
  have htokens : d.tokens = .keyword .CREATE :: .keyword .TABLE :: .identifier d.name :: .symbol .lparen ::
      (commaSeparated (run :: runs) ++ [.symbol .rparen]) := by
    rw [TableText.tokens, hruns]
    rfl
  rw [htokens]
  refine (Takes.bind_iff (a := ()) (takes_expectKeyword.mpr rfl)).trans ?_
  refine (Takes.bind_iff (a := ()) (takes_expectKeyword.mpr rfl)).trans ?_
  refine (ifNotExists_takes h _).bind_iff.trans ?_
  refine (objectName_takes d.name (by simp)).bind_iff.trans ?_
  refine (Takes.bind_iff (a := true) (takes_takeSymbol_true.mpr rfl)).trans ?_
  simp only [Bool.not_true, Bool.false_eq_true, if_false]
  rw [takes_get, hcut]
  refine (set_takes _ []).bind_iff.trans (takes_bind.trans ?_)
  constructor
  · rintro ⟨body, ts', hbody, hs⟩
    obtain ⟨heq, rfl⟩ := takes_liftM.mp hbody
    obtain ⟨hread, rfl⟩ := (hpieces body).mp heq
    cases hs
    exact ⟨rfl, hread, rfl⟩
  · rintro ⟨rfl, hread, rfl⟩
    exact ⟨bodyRead d.columns, [], takes_liftM.mpr ⟨(hpieces _).mpr ⟨hread, rfl⟩, rfl⟩, rfl⟩

end Parser

/-- A definition is read unless its table is called IF or all its columns are misread. -/
theorem parse_text_eq_ok_iff {d : TableText} {s : CreateTable} : parse d.text .createTable = .ok (.createTable s) ↔
    Text.sameName d.name "IF" = false ∧ (bodyRead d.columns).columns ≠ [] ∧ s = d.statementRead := by
  have hbody : ∀ rest, (Parser.body .createTable).Takes d.tokens (.createTable s) rest ↔
      Parser.createTable.Takes d.tokens s rest := by
    intro rest
    refine Parser.takes_map.trans ⟨?_, fun h => ⟨s, h, rfl⟩⟩
    rintro ⟨s', h, ⟨⟩⟩
    exact h
  rw [parse_eq_ok_iff, Parser.statement_of_ne_explain (by decide)]
  simp only [d.lex_text, Except.ok.injEq, exists_eq_left', Parser.takes_closed, hbody, true_and]
  cases hif : Text.sameName d.name "IF" with
  | true => simp [Parser.not_takes_createTable hif]
  | false => simp [Parser.takes_createTable hif]

/-- A definition with all names in backticks is read as its table with exactly its columns and no
    constraint, unless the table is called IF or a column is misread. -/
theorem parse_text_iff (d : TableText) :
    (∃ s, parse d.text .createTable = .ok (.createTable s) ∧ s.table = d.name ∧
      s.columns = d.columns.map ColumnText.column ∧ s.ifNotExists = false ∧ s.constraints = []) ↔
    Text.sameName d.name "IF" = false ∧ ∀ c ∈ d.columns, c.isMisread = false := by
  constructor
  · rintro ⟨s, hs, -, -, -, hnone⟩
    obtain ⟨hif, -, rfl⟩ := parse_text_eq_ok_iff.mp hs
    exact ⟨hif, constraints_bodyRead_eq_nil_iff.mp hnone⟩
  · rintro ⟨hif, hread⟩
    have hcolumns : (bodyRead d.columns).columns = d.columns.map ColumnText.column := by
      rw [bodyRead, List.filter_eq_self.mpr fun c hc => by simp [hread c hc]]
    have hne : (bodyRead d.columns).columns ≠ [] := by
      simpa [hcolumns] using d.nonempty
    exact ⟨d.statementRead, parse_text_eq_ok_iff.mpr ⟨hif, hne, rfl⟩, rfl, hcolumns, rfl,
      constraints_bodyRead_eq_nil_iff.mpr hread⟩

/-- The column `key` of an ENUM would be one. -/
example : parse "CREATE TABLE \x60t\x60 (\x60id\x60 INT, \x60key\x60 SET('a', 'b'))" .createTable = .ok (.createTable
    { table := "t", columns := [{ name := "id", type := .int }], constraints := [⟨.index, "key SET ('a', 'b')"⟩],
      ifNotExists := false, engine := none, charset := none }) := by
  decide +kernel

end Sql

end PocketSql
