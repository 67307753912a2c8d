import QueryLint.Sql.Grammar.Call

/-!
# Forms of their own

Readers for the expressions that a keyword opens and that have a grammar of their own: conversions,
case expressions, parts of dates, pieces of strings, intervals, searches. What the linter gives no
meaning to is kept as text. Each reader starts behind its keyword.
-/

namespace QueryLint.Sql

namespace Reader

/-! ### Conversions and cases -/

/-- How a text is read as a value, or a value written as a text. -/
def castFormat : Reader String :=
  clause ["FORMAT"] do
    let format ← valueText
    return format ++ (← clause ["AT", "TIME", "ZONE"] valueText)

/-- `CAST`, `TRY_CAST` and `SAFE_CAST`. -/
def castForm (d : Deeper) (form : CastForm) : Reader Expr :=
  parenthesized do
    let operand ← expression d
    expectKeyword "AS"
    let type ← passage do
      let type ← typeText d
      return type ++ (← castFormat)
    return .cast form operand type

/-- `CONVERT` or `TRY_CONVERT`, with the type or the character set behind the value. -/
def convertForm (d : Deeper) (word : String) : Reader Expr :=
  parenthesized do
    let operand ← expressionText d
    if ← keyword "USING" then
      return .verbatim s!"{word}({operand} USING {(← objectName).render})"
    else
      expectSign ","
      let type ← typeText d
      let charset ← clause ["CHARACTER", "SET"] do return (← objectName).render
      return .verbatim s!"{word}({operand}, {type}{charset})"

/-- The branches of a case expression, from behind the first `WHEN`. -/
def branches (d : Deeper) : Nat → Reader (List Branch)
  | 0 => expected "THEN"
  | fuel + 1 => do
    let condition ← expression d
    expectKeyword "THEN"
    let result ← expression d
    if ← keyword "WHEN" then return .mk condition result :: (← branches d fuel)
    else return [.mk condition result]

/-- A case expression. -/
def caseForm (d : Deeper) : Reader Expr := do
  let operand ←
    if ← keyword "WHEN" then pure none
    else
      let e ← expression d
      expectKeyword "WHEN"
      pure (some e)
  let found ← branches d ((← size) + 1)
  let otherwise ← if ← keyword "ELSE" then pure (some (← expression d)) else pure none
  expectKeyword "END"
  return .case operand found otherwise

/-- `EXISTS` with its query. -/
def existsForm (d : Deeper) (negated : Bool) : Reader Expr := do
  return .exists negated (← parenthesized d.query)

/-! ### Dates and times -/

/-- `EXTRACT` of a part of a date. -/
def extractForm (d : Deeper) : Reader Expr :=
  parenthesized do
    let field ← dateField
    if ← keyword "FROM" then
      return .verbatim s!"EXTRACT({field} FROM {← expressionText d})"
    else if (← trait Dialect.extractComma) && isSign "," (← peekToken) then
      let _ ← advance
      return .verbatim s!"EXTRACT({field}, {← expressionText d})"
    else throw (.broken "Expected 'FROM' or ','" Place.none)

/-! ### Numbers and strings -/

/-- `CEIL` and `FLOOR`, to a whole number, a part of a date, or a scale. -/
def roundingForm (d : Deeper) (name : String) : Reader Expr :=
  parenthesized do
    let operand ← expressionText d
    if ← keyword "TO" then return .verbatim s!"{name}({operand} TO {← dateField})"
    else if ← sign "," then
      match ← value with
      | .number digits long =>
        return .verbatim s!"{name}({operand}, {(Value.number digits long).render})"
      | _ => throw (.broken "Scale field can only be of number type" Place.none)
    else return .verbatim s!"{name}({operand})"

/-- `POSITION` of a string in another, given how tightly `IN` binds; otherwise a plain call. -/
def positionForm (d : Deeper) (name : Ident) (inPower : Nat) : Reader Expr := do
  let found ← attempt <| parenthesized do
    let part ← d.expr inPower
    expectKeyword "IN"
    return Expr.verbatim s!"POSITION({part.render} IN {← expressionText d})"
  match found with
  | some e => return e
  | none => callOf d ⟨[name]⟩

/-- `SUBSTR` and `SUBSTRING`. The parts are separated by commas if the first separator is one. -/
def substringForm (d : Deeper) (name : String) : Reader Expr :=
  parenthesized do
    let operand ← expressionText d
    let commas ← sign ","
    let start ←
      if commas then pure (", " ++ (← expressionText d))
      else if ← keyword "FROM" then pure (" FROM " ++ (← expressionText d))
      else pure ""
    let more ← do
      if ← keyword "FOR" then pure true else sign ","
    let count ←
      if more then pure ((if commas then ", " else " FOR ") ++ (← expressionText d)) else pure ""
    return .verbatim s!"{name}({operand}{start}{count})"

/-- `OVERLAY` of a string by another. -/
def overlayForm (d : Deeper) : Reader Expr :=
  parenthesized do
    let operand ← expressionText d
    expectKeyword "PLACING"
    let part ← expressionText d
    expectKeyword "FROM"
    let start ← expressionText d
    let count ← clause ["FOR"] (expressionText d)
    return .verbatim s!"OVERLAY({operand} PLACING {part} FROM {start}{count})"

/-- `TRIM` of blanks or of given characters. Of characters behind a comma it is not kept on which
side they stand; where there are none, a comma is passed over. -/
def trimForm (d : Deeper) : Reader Expr :=
  parenthesized do
    let side := match ← oneOf ["BOTH", "LEADING", "TRAILING"] with
      | some k => k ++ " "
      | none => ""
    let first ← expressionText d
    if ← keyword "FROM" then
      return .verbatim s!"TRIM({side}{first} FROM {← expressionText d})"
    else
      let comma ← sign ","
      if comma && (← trait Dialect.trimComma) then
        return .verbatim s!"TRIM({first}, {← expressionsText d})"
      else return .verbatim s!"TRIM({side}{first})"

/-! ### Searches, arrays and structures -/

/-- How a full-text search is done. -/
def searchMode : Reader String := do
  if ← keywords ["IN", "NATURAL", "LANGUAGE", "MODE", "WITH", "QUERY", "EXPANSION"] then
    return " IN NATURAL LANGUAGE MODE WITH QUERY EXPANSION"
  else if ← keywords ["IN", "NATURAL", "LANGUAGE", "MODE"] then
    return " IN NATURAL LANGUAGE MODE"
  else if ← keywords ["IN", "BOOLEAN", "MODE"] then return " IN BOOLEAN MODE"
  else if ← keywords ["WITH", "QUERY", "EXPANSION"] then return " WITH QUERY EXPANSION"
  else return ""

/-- `MATCH … AGAINST …`, a full-text search. -/
def searchForm : Reader Expr := do
  let columns ← columnListOf objectName
  expectKeyword "AGAINST"
  parenthesized do
    let wanted ← value
    let mode ← searchMode
    let names := commaSeparated (columns.map ObjectName.render)
    return .verbatim s!"MATCH ({names}) AGAINST ({wanted.render}{mode})"

/-- The members of an array, from behind its opening bracket. -/
def arrayForm (d : Deeper) (word : String) : Reader Expr := do
  let members ← commaListBefore (expression d) "]"
  expectSign "]"
  return .verbatim s!"{word}[{commaSeparated (renderExprs members)}]"

/-- A value of a structure, with its name if it has one. Where the fields have types they have
names, too. -/
def structureMember (d : Deeper) (typed : Bool) : Reader String := do
  let member ← expressionText d
  let start ← place
  if ← keyword "AS" then
    if typed then broken "Typed syntax does not allow AS" start
    else return s!"{member} AS {(← ident).render}"
  else return member

/-- A structure of values, with the types of its fields if they are given. -/
def structureForm (d : Deeper) : Reader Expr := do
  let (type, closed) ← structureType d (typeFrom d ((← size) + 1))
  if closed then broken "unmatched > in STRUCT literal" (← place)
  else
    let members ← parenthesized (commaList (structureMember d (type != "STRUCT")))
    return .verbatim s!"{type}({commaSeparated members})"

/-- An entry of a map or a dictionary: a key and a value. -/
def entry (d : Deeper) (key : Reader String) : Reader String := do
  let k ← key
  expectSign ":"
  return s!"{k}: {← expressionText d}"

/-- The entries of a map or a dictionary in braces. -/
def entries (d : Deeper) (key : Reader String) : Reader String := do
  expectSign "\x7b"
  let found ← commaListBefore (entry d key) "\x7d"
  expectSign "\x7d"
  return "\x7b" ++ commaSeparated found ++ "\x7d"

/-- A call in braces, from behind the opening one. -/
def bracedCall (d : Deeper) : Reader Expr := do
  expectKeyword "FN"
  match ← callOf d (← objectName) with
  | .call _ name parameters arguments suffix => return .call true name parameters arguments suffix
  | other => return other

/-- A date or a time in braces, from behind the opening one. -/
def bracedMoment : Reader Expr := do
  match ← peekToken with
  | some (.word w) =>
    if w.quote.isNone && ["d", "t", "ts"].contains w.value then
      let _ ← advance
      return .verbatim ("\x7b" ++ w.value ++ " " ++ (← valueText) ++ "\x7d")
    else expected "an expression"
  | _ => expected "an expression"

/-- What a brace opens: a call, a date or a time, or a dictionary. -/
def bracedForm (d : Deeper) : Reader Expr := do
  let start ← get
  let _ ← advance
  let found ← match ← attempt (bracedCall d) with
    | some e => pure (some e)
    | none => attempt bracedMoment
  match found with
  | some e =>
    expectSign "\x7d"
    return e
  | none =>
    set start
    if ← trait Dialect.dictionaries then
      return .verbatim (← entries d (do return (← ident).render))
    else expected "an expression"

/-- `CURRENT_TIMESTAMP` and its kin, with or without parentheses. -/
def timeForm (d : Deeper) (name : Ident) : Reader Expr := do
  let arguments ← if ← sign "(" then Prod.fst <$> argumentList d else pure .absent
  return .call false ⟨[name]⟩ "" arguments ""

end Reader

end QueryLint.Sql
