import QueryLint.Sql.Grammar.Column

/-!
# Blocks of statements

Readers for the statements that hold others: blocks between `BEGIN` and `END`, cases, branches and
loops. Most words that open and close them are kept in the letter case they were written in.
-/

namespace QueryLint.Sql

namespace Reader

/-! ### Blocks -/

/-- Takes the given keyword and yields it as it was written. -/
def writtenKeyword (k : String) : Reader String := do
  if (← peekKeyword) == k then
    let text ← peekText
    let _ ← advance
    return text
  else expected k

/-- The statements up to one of some keywords or the end, each with a semicolon behind it; the fuel
bounds their number. -/
def statementsUntil (d : Deeper) (ends : List String) : Nat → Reader (List String)
  | 0 => return []
  | fuel + 1 => do
    match ← peekToken with
    | none => return []
    | some token =>
      if ends.contains (keywordOf (some token)) then return []
      else
        let statement ← d.statement
        expectSign ";"
        return statement.render :: (← statementsUntil d ends fuel)

/-- The text of statements in a block. -/
def statementsText (statements : List String) : String :=
  if statements.isEmpty then "" else String.intercalate "; " statements ++ ";"

/-- Statements in a block of their own or up to one of some keywords, and whether there are any. -/
def blockBody (d : Deeper) (ends : List String) : Reader (String × Bool) := do
  if (← peekKeyword) == "BEGIN" then
    let first ← writtenKeyword "BEGIN"
    let statements ← statementsUntil d ends ((← size) + 1)
    let last ← writtenKeyword "END"
    return (s!"{first} {statementsText statements} {last}", !statements.isEmpty)
  else
    let statements ← statementsUntil d ends ((← size) + 1)
    return (statementsText statements, !statements.isEmpty)

/-! ### Control -/

/-- A branch: a word, a condition if it has one, and statements up to one of some keywords. -/
def branch (d : Deeper) (word : String) (condition : Reader String) (ends : List String) :
    Reader String := do
  let test ← condition
  let (text, any) ← blockBody d ends
  return word ++ test ++ (if any then " " ++ text else "")

/-- A condition with `THEN` behind it. -/
def thenCondition (d : Deeper) : Reader String := do
  let e ← expressionText d
  expectKeyword "THEN"
  return s!" {e} THEN"

/-- Branches that begin with the given keyword, as many as there are. -/
def branchesOf (d : Deeper) (k : String) (ends : List String) : Reader (List String) :=
  many do
    if (← peekKeyword) == k then
      let word ← writtenKeyword k
      return some (" " ++ (← branch d word (thenCondition d) ends))
    else return none

/-- The branch that is taken if no other one is. -/
def elseBranch (d : Deeper) : Reader String := do
  if (← peekKeyword) == "ELSE" then
    let word ← writtenKeyword "ELSE"
    return " " ++ (← branch d word (return "") ["END"])
  else return ""

/-- A choice between statements by the value of an expression, from behind the word that opens
it. -/
def caseStatement (d : Deeper) : Reader String := do
  let operand ←
    if (← peekKeyword) == "WHEN" then pure "" else pure (" " ++ (← expressionText d))
  unless (← peekKeyword) == "WHEN" do expected "WHEN"
  let found ← branchesOf d "WHEN" ["WHEN", "ELSE", "END"]
  let otherwise ← elseBranch d
  expectKeyword "END"
  let closing ← optionalWord "CASE"
  return s!"CASE{operand}{String.join found}{otherwise} END{closing}"

/-- A choice between statements by conditions, with the word that opens it. -/
def ifStatement (d : Deeper) (word : String) : Reader String := do
  let ends := ["ELSE", "ELSEIF", "END"]
  let first ← branch d word (thenCondition d) ends
  let further ← branchesOf d "ELSEIF" ends
  let otherwise ← elseBranch d
  expectKeyword "END"
  let closing ← writtenKeyword "IF"
  return s!"{first}{String.join further}{otherwise} END {closing}"

/-- Statements that are repeated, with the word that opens them. -/
def whileStatement (d : Deeper) (word : String) : Reader String :=
  branch d word (do return " " ++ (← expressionText d)) ["END"]

/-- A fault that a script raises, from behind `RAISE`. -/
def raiseStatement (d : Deeper) : Reader String := do
  if ← keywords ["USING", "MESSAGE"] then
    expectSign "="
    return s!"RAISE USING MESSAGE = {← expressionText d}"
  else
    match ← attempt (expressionText d) with
    | some text => return s!"RAISE {text}"
    | none => return "RAISE"

end Reader

end QueryLint.Sql
