import QueryLint.Sql.Token

/-!
# Why a text is not SQL

The causes for which a text is rejected, and their wording.
-/

namespace QueryLint.Sql

/-- Why a text is rejected. -/
inductive Fault where
  /-- The text does not divide into tokens. -/
  | lexical (message : String) (place : Place)
  /-- Something else was due where a token stands, or where the text ends. -/
  | expected (what : String) (found : Option Lexeme)
  /-- A blank stands where something was due right behind a token. -/
  | apart (what : String) (blank : Blank)
  /-- A token that binds like an operator has no meaning as one. -/
  | noOperator (found : Lexeme)
  /-- A rule of its own is broken. -/
  | broken (rule : String) (place : Place)
  /-- The statement is nested too deeply to be read. -/
  | tooDeep
  deriving Repr, Inhabited

namespace Fault

/-- The wording of a fault. -/
def message : Fault → String
  | lexical message place => "sql parser error: " ++ message ++ place.suffix
  | expected what (some l) =>
    s!"sql parser error: Expected: {what}, found: {l.token.spelled}{l.place.suffix}"
  | expected what none => s!"sql parser error: Expected: {what}, found: EOF"
  | apart what blank =>
    s!"sql parser error: Expected: {what}, found: {blank.text}{blank.place.suffix}"
  | noOperator l =>
    s!"sql parser error: No infix parser for token {l.token.kindName}{l.place.suffix}"
  | broken rule place => "sql parser error: " ++ rule ++ place.suffix
  | tooDeep => "sql parser error: recursion limit exceeded"

end Fault

end QueryLint.Sql
