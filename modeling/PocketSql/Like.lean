/-
  PocketSql.Like — patterns with wildcards.

  `%` stands for any run of characters and `_` for one; every other character stands for
  itself up to simple case folding. A pattern has to cover the whole text. It is translated
  to a regular expression, whose dot stands for no line break.
-/

import PocketSql.Fault
import PocketSql.Regex

namespace PocketSql.Like

variable [RegexCompiler]

/-- The expression for one character of a pattern. -/
def expressionOf (c : Char) : String :=
  if c == '%' then ".*" else if c == '_' then "." else RegexCompiler.escape c.toString

/-- The expression for a pattern. -/
def expression (pattern : String) : String :=
  "^" ++ String.join (pattern.toList.map expressionOf) ++ "$"

/-- The test of texts that a pattern makes. -/
def compile (pattern : String) : Except Fault (String → Bool) :=
  match RegexCompiler.compile true (expression pattern) with
  | .ok isMatch => .ok isMatch
  | .error reason => .error (.refusedPattern pattern reason)

/-- Whether a pattern matches a text. One that is refused matches none. -/
def matchesText (pattern text : String) : Bool :=
  (compile pattern).toOption.any (· text)

end PocketSql.Like
