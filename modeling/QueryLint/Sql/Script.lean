import QueryLint.Sql.Grammar.Statement
import QueryLint.Sql.Token.Lexer

/-!
# Scripts

A script is a text with any number of statements, separated by semicolons. Statements, queries and
expressions may be nested `nestingLimit` deep altogether. `parse` reads a script in its dialect, and
in the generic one if that fails.
-/

namespace QueryLint.Sql

/-- How deeply statements, queries and expressions may be nested in one another. -/
def nestingLimit : Nat := 50

namespace Deeper

/-- What can be read with so many levels left. -/
def within : Nat → Deeper
  | 0 => exhausted
  | levels + 1 =>
    let inner := within levels
    { expr := fun power => Reader.notingExpr (Reader.exprAt inner power)
      query := Reader.notingQuery (Reader.query inner)
      statement := Reader.statement inner
      column := Reader.column inner }

end Deeper

namespace Reader

/-- Statements up to the end of the text, or to an `END` behind a statement. -/
def statementsFrom (d : Deeper) : Nat → Reader (List Statement)
  | 0 => return []
  | fuel + 1 => do
    let _ ← many do return if ← sign ";" then some () else none
    if (← peek).isNone then return []
    else
      let statement ← d.statement
      match ← peekToken with
      | none => return [statement]
      | some (.sign ";") => return statement :: (← statementsFrom d fuel)
      | some (.word w) =>
        if w.keyword == "END" then return [statement] else expected "end of statement"
      | some _ => expected "end of statement"

end Reader

/-- The statements of a script in one dialect. -/
def parseIn (d : Dialect) (text : String) : Except Fault (List Statement) := do
  match Token.scanAll d text.toList with
  | .error (message, place) => throw (.lexical message place)
  | .ok lexemes =>
    let reader := Reader.statementsFrom (Deeper.within nestingLimit) (lexemes.length + 1)
    return (← reader ⟨d, .normal⟩ ⟨lexemes, [], []⟩).1

/-- The statements of a script. A text that is none in its dialect may be one in the generic
dialect; otherwise the fault is that of its own dialect. -/
def parse (d : Dialect) (text : String) : Except Fault (List Statement) :=
  match parseIn d text with
  | .ok statements => .ok statements
  | .error fault =>
    match parseIn .generic text with
    | .ok statements => .ok statements
    | .error _ => .error fault

end QueryLint.Sql
