/-
  PocketSql.Proofs.Sql.Cut — scripts one after the other.

  The cleaning pass starts a new piece at a semicolon outside quotes and comments, and
  nothing that stands before the semicolon matters any more. So if the pass stands outside
  both at the end of a script (`placeAfter`), a semicolon and another script may follow it:
  the statements are those of the one and then those of the other
  (`splitStatements_append`).
-/

import PocketSql.Proofs.Sql.Cleaning

namespace PocketSql.Sql

/-- Where the cleaning pass stands after some characters. -/
def placeAfter : Place → List Char → Place
  | place, [] => place
  | .quoted q, c :: rest =>
    if c == '\\' && q != backtick then placeAfter (.escaped q) rest
    else placeAfter (if c == q then .outside else .quoted q) rest
  | .escaped q, _ :: rest => placeAfter (.quoted q) rest
  | .lineComment, c :: rest => placeAfter (if c == '\n' then .outside else .lineComment) rest
  | .blockComment, '*' :: '/' :: rest => placeAfter .outside rest
  | .blockComment, _ :: rest => placeAfter .blockComment rest
  | .outside, '-' :: '-' :: rest => placeAfter .lineComment rest
  | .outside, '/' :: '*' :: rest => placeAfter .blockComment rest
  | .outside, c :: rest => placeAfter (if isQuote c then .quoted c else .outside) rest

variable {place : Place} {done cs rest : List Char}

/-- A semicolon at the end of some characters is no part of a mark that two of them make. -/
theorem append_semicolon_ne {c first second : Char} (hsecond : second ≠ ';')
    (h : ∀ more, c = first → cs = second :: more → False) (more : List Char) (hc : c = first) :
    cs ++ ';' :: rest = second :: more → False := by
  intro heq
  cases cs with
  | nil => exact hsecond (List.cons.inj heq).1.symm
  | cons d cs => exact h cs hc (by rw [(List.cons.inj heq).1])

/-- A semicolon outside ends a piece, and what follows it is cleaned on its own. -/
theorem cleanFrom_semicolon (h : placeAfter place cs = .outside) (done rest : List Char) :
    cleanFrom true place done (cs ++ ';' :: rest) = cleanFrom true place done cs ++ cleanFrom true .outside [] rest := by
  fun_induction placeAfter place cs generalizing done with
  | case1 place =>
    subst h
    rfl
  | case2 q c cs hc ih => rw [List.cons_append, cleanFrom, if_pos hc, cleanFrom, if_pos hc, ih h]
  | case3 q c cs hc ih => rw [List.cons_append, cleanFrom, if_neg hc, cleanFrom, if_neg hc, ih h]
  | case4 q c cs ih => rw [List.cons_append, cleanFrom, cleanFrom, ih h]
  | case5 c cs ih => rw [List.cons_append, cleanFrom, cleanFrom, ih h]
  | case6 cs ih => exact ih h done
  | case7 c cs hne ih =>
    rw [List.cons_append, cleanFrom, cleanFrom, ih h]
    · exact hne
    · exact append_semicolon_ne (by decide) hne
  | case8 cs ih => exact ih h _
  | case9 cs ih => exact ih h _
  | case10 c cs hm hd ih =>
    rw [List.cons_append, cleanFrom, cleanFrom]
    · by_cases hq : isQuote c = true
      · rw [if_pos hq] at h ih
        rw [if_pos hq, if_pos hq, ih h]
      · rw [if_neg hq] at h ih
        rw [if_neg hq, if_neg hq]
        split
        · rw [ih h, List.cons_append]
        · split <;> exact ih h _
    · exact hm
    · exact hd
    · exact append_semicolon_ne (by decide) hm
    · exact append_semicolon_ne (by decide) hd

theorem splitStatements_append {a b : String} (ha : placeAfter .outside a.toList = .outside) :
    splitStatements (a ++ ";\n" ++ b) = splitStatements a ++ splitStatements b := by
  have hchars : (a ++ ";\n" ++ b).toList = a.toList ++ ';' :: '\n' :: b.toList := by simp
  have hbreak : cleanFrom true .outside [] ('\n' :: b.toList) = cleanFrom true .outside [] b.toList :=
    cleanFrom_blank rfl [] b.toList
  rw [splitStatements, clean, hchars, cleanFrom_semicolon ha, hbreak, List.map_append, List.filter_append]
  rfl

end PocketSql.Sql
