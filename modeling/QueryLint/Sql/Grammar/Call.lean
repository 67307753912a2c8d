import QueryLint.Sql.Grammar.Interval

/-!
# Calls

Readers for what follows the name of a function: its arguments with their clauses, the group it
orders, its filter, and the window it ranges over. Only the arguments themselves stay trees; the
rest is kept in passages.
-/

namespace QueryLint.Sql

namespace Reader

/-! ### Keys -/

/-- The direction of a key, and where it puts nulls. -/
def orderOptions : Reader String := do
  let direction := match ← oneOf ["ASC", "DESC"] with
    | some k => " " ++ k
    | none => ""
  if ← keywords ["NULLS", "FIRST"] then return direction ++ " NULLS FIRST"
  else if ← keywords ["NULLS", "LAST"] then return direction ++ " NULLS LAST"
  else return direction

/-- The rows that fill the gaps between the values of a key. -/
def fillClause (d : Deeper) : Reader String := do
  if ← keywordsWhere Dialect.extraClauses ["WITH", "FILL"] then
    let lower ← clause ["FROM"] (expressionText d)
    let upper ← clause ["TO"] (expressionText d)
    let step ← clause ["STEP"] (expressionText d)
    return s!" WITH FILL{lower}{upper}{step}"
  else return ""

/-- A key that rows are ordered by. -/
def orderKey (d : Deeper) : Reader OrderKey := do
  let key ← expression d
  let options ← passage do
    let direction ← orderOptions
    return direction ++ (← fillClause d)
  return .mk key options

/-- The texts of keys separated by commas. -/
def orderKeysText (d : Deeper) : Reader String := do
  return commaSeparated (renderKeys (← commaList (orderKey d)))

/-- The texts of expressions separated by commas. -/
def expressionsText (d : Deeper) : Reader String := do
  return commaSeparated (renderExprs (← commaList (expression d)))

/-! ### Windows -/

/-- One end of a window frame. -/
def frameBound (d : Deeper) : Reader String := do
  if ← keywords ["CURRENT", "ROW"] then return "CURRENT ROW"
  else
    let rows ←
      if ← keyword "UNBOUNDED" then pure "UNBOUNDED"
      else match ← peekToken with
        | some (.text .single _) => intervalText d do collated (.value (← value))
        | _ => expressionText d
    if ← keyword "PRECEDING" then return rows ++ " PRECEDING"
    else if ← keyword "FOLLOWING" then return rows ++ " FOLLOWING"
    else expected "PRECEDING or FOLLOWING"

/-- A window frame. -/
def frame (d : Deeper) : Reader String := do
  match ← oneOf ["ROWS", "RANGE", "GROUPS"] with
  | none => expected "ROWS, RANGE, GROUPS"
  | some units =>
    if ← keyword "BETWEEN" then
      let start ← frameBound d
      expectKeyword "AND"
      return s!"{units} BETWEEN {start} AND {← frameBound d}"
    else return s!"{units} {← frameBound d}"

/-- A window, from behind its opening parenthesis. It may start with the name of another one, which
is no keyword. -/
def window (d : Deeper) : Reader String := do
  let name ← match ← peekToken with
    | some (.word w) =>
      if Keyword.isWord w.keyword then pure []
      else
        let _ ← advance
        pure [(identOf w).render]
    | _ => pure []
  let parts ←
    if ← keywords ["PARTITION", "BY"] then pure ["PARTITION BY " ++ (← expressionsText d)]
    else pure []
  let order ←
    if ← keywords ["ORDER", "BY"] then pure ["ORDER BY " ++ (← orderKeysText d)] else pure []
  let rows ← if isSign ")" (← peekToken) then pure [] else pure [← frame d]
  expectSign ")"
  return "(" ++ String.intercalate " " (name ++ parts ++ order ++ rows) ++ ")"

/-! ### Arguments -/

/-- Whether a call ignores nulls. -/
def nullTreatment : Reader String := do
  match ← oneOf ["IGNORE", "RESPECT"] with
  | some k =>
    expectKeyword "NULLS"
    return s!" {k} NULLS"
  | none => return ""

/-- The parts of a name in front of a dot and a star. -/
def wildcardParts (found : List Ident) : Nat → Reader (List Ident)
  | 0 => expected "an identifier or a '*' after '.'"
  | fuel + 1 => do
    match ← peekToken with
    | some (.word w) =>
      let _ ← advance
      wildcardNext (found ++ [identOf w]) fuel
    | some (.text .single content) =>
      let _ ← advance
      wildcardNext (found ++ [⟨content, some '\''⟩]) fuel
    | some (.sign "*") =>
      let _ ← advance
      return found
    | _ => expected "an identifier or a '*' after '.'"
where
  /-- A dotted name that ends without a star is none of a wildcard. -/
  wildcardNext (found : List Ident) (fuel : Nat) : Reader (List Ident) := do
    if ← sign "." then wildcardParts found fuel else return []

/-- The text of `*` or `t.*`, if it comes next. A dot must be followed by a name or a star. -/
def wildcard : Reader (Option String) := do
  let start ← get
  match ← peekToken, ← peekNth 1 with
  | some (.sign "*"), _ =>
    let _ ← advance
    return some "*"
  | some (.word w), some (.sign ".") => behindDot start (identOf w)
  | some (.text .single content), some (.sign ".") => behindDot start ⟨content, some '\''⟩
  | _, _ => return none
where
  /-- The rest of a wildcard behind the first part of its name. -/
  behindDot (start : Progress) (name : Ident) : Reader (Option String) := do
    skip 2
    let parts ← wildcardParts [name] start.left.length
    if parts.isEmpty then
      set start
      return none
    else return some ((ObjectName.mk parts).render ++ ".*")

/-- A wildcard or an expression, as the value of an argument. -/
def wildcardOrExpression (d : Deeper) : Reader Argument := do
  match ← wildcard with
  | some text => return .verbatim text
  | none => return .positional (← expression d)

/-- The operator between the name of an argument and its value. -/
def argumentOperator : Reader String := do
  if ← keyword "VALUE" then return "VALUE"
  else if ← sign "=>" then return "=>"
  else if (← trait Dialect.assignmentArguments) && isSign ":=" (← peekToken) then
    let _ ← advance
    return ":="
  else if (← trait Dialect.colonArguments) && isSign ":" (← peekToken) then
    let _ ← advance
    return ":"
  else expected "argument operator"

/-- An argument with a plain name. -/
def namedArgument (d : Deeper) : Reader Argument := do
  let name ← ident
  let operator ← argumentOperator
  match ← wildcardOrExpression d with
  | .positional value => return .named name operator value
  | other => return .verbatim s!"{name.render} {operator} {other.render}"

/-- The operator and the value of an argument whose name is an expression. -/
def argumentValue (d : Deeper) (name : Expr) : Reader Argument := do
  let operator ← argumentOperator
  let (value, notes) ← withNotes (wildcardOrExpression d)
  let text := s!"{name.render} {operator} {value.render}"
  return .verbatim ⟨text, name :: notes.exprs, notes.queries⟩

/-- An argument of a call. -/
def argument (d : Deeper) : Reader Argument := do
  if ← trait Dialect.namedArgumentExpressions then
    match ← wildcardOrExpression d with
    | .positional value =>
      match ← attempt (argumentValue d value) with
      | some a => return a
      | none => return .positional value
    | other => return other
  else
    match ← attempt (namedArgument d) with
    | some a => return a
    | none => wildcardOrExpression d

/-- `ALL` or `DISTINCT` in front of what is taken. -/
def quantifier : Reader String := do
  let start ← place
  let all ← keyword "ALL"
  let distinct ← keyword "DISTINCT"
  if all && distinct then throw (.broken "Cannot specify both ALL and DISTINCT" start)
  else return if all then "ALL" else if distinct then "DISTINCT" else ""

/-- What becomes of nulls in a document that a call makes, and of which type the document is. -/
def documentClauses (d : Deeper) : Reader (List String) := do
  let nulls ← oneOfRuns [["ABSENT", "ON", "NULL"], ["NULL", "ON", "NULL"]]
  let type ← if ← keyword "RETURNING" then pure ["RETURNING " ++ (← typeText d)] else pure []
  return nulls.toList ++ type

/-- What becomes of a list that is too long. -/
def overflowClause (d : Deeper) : Reader String := do
  if ← keywords ["ON", "OVERFLOW"] then
    if ← keyword "ERROR" then return " ON OVERFLOW ERROR"
    else
      expectKeyword "TRUNCATE"
      let filler : Reader String := do return " " ++ (← expressionText d)
      let mark ← match ← peekToken with
        | some (.word w) =>
          if w.keyword == "WITH" || w.keyword == "WITHOUT" then pure ""
          else expected "either filler, WITH, or WITHOUT in LISTAGG"
        | some (.text .single _) | some (.text .escape _) | some (.text .unicode _)
        | some (.text .national _) | some (.text .hex _) => filler
        | _ => expected "either filler, WITH, or WITHOUT in LISTAGG"
      match ← oneOf ["WITH", "WITHOUT"] with
      | some k =>
        expectKeyword "COUNT"
        return s!" ON OVERFLOW TRUNCATE{mark} {k} COUNT"
      | none => expected "either WITH or WITHOUT in LISTAGG"
  else return ""

/-- The clauses behind the last argument, each with a blank before it. -/
def argumentClauses (d : Deeper) : Reader String := do
  let order ← clause ["ORDER", "BY"] (orderKeysText d)
  let limit ← clause ["LIMIT"] (expressionText d)
  let having ←
    if ← trait Dialect.parametricCalls then
      clause ["HAVING"] do
        let bound ← expectOneOf ["MIN", "MAX"]
        return s!"{bound} {← expressionText d}"
    else pure ""
  let separator ←
    if ← trait Dialect.separatorClause then clause ["SEPARATOR"] valueText else pure ""
  let overflow ← overflowClause d
  let document ← documentClauses d
  return order ++ limit ++ having ++ separator ++ overflow ++ String.join (document.map (" " ++ ·))

/-- The arguments of a call, from behind the opening parenthesis, and whether they say how nulls are
treated. -/
def argumentList (d : Deeper) : Reader (Arguments × Bool) := do
  let (document, notes) ← withNotes (documentClauses d)
  if ← sign ")" then
    return (.list "" [] { notes with text := String.intercalate " " document }, false)
  else
    let word ← quantifier
    let items ← commaList (argument d)
    let nulls ← if ← trait Dialect.nullTreatmentArgument then nullTreatment else pure ""
    let clauses ← passage (argumentClauses d)
    expectSign ")"
    let early := { notes with text := String.join (document.map (" " ++ ·)) ++ nulls }
    let word := if word.isEmpty then "" else word ++ " "
    return (.list word items (early ++ clauses), !nulls.isEmpty)

/-- The condition that filters the rows of a call. A lone `FILTER` is passed over. -/
def filterClause (d : Deeper) : Reader String := do
  if (← trait Dialect.filteredAggregates) && (← peekKeyword) == "FILTER" then
    let _ ← advance
    if ← sign "(" then
      if ← keyword "WHERE" then
        let condition ← expressionText d
        expectSign ")"
        return s!" FILTER (WHERE {condition})"
      else return ""
    else return ""
  else return ""

/-- The window of a call. -/
def overClause (d : Deeper) : Reader String := do
  if ← keyword "OVER" then
    if ← sign "(" then return " OVER " ++ (← window d)
    else return " OVER " ++ (← ident).render
  else return ""

/-- What follows the arguments of a call, which may have said how nulls are treated. -/
def callSuffix (d : Deeper) (treats : Bool) : Reader String := do
  let group ←
    if ← keywords ["WITHIN", "GROUP"] then
      let keys ← parenthesized do
        expectKeywords ["ORDER", "BY"]
        orderKeysText d
      pure s!" WITHIN GROUP (ORDER BY {keys})"
    else pure ""
  let filter ← filterClause d
  let nulls ← if treats then pure "" else nullTreatment
  return group ++ filter ++ nulls ++ (← overClause d)

/-- A call of a function, from its opening parenthesis on. -/
def callOf (d : Deeper) (name : ObjectName) : Reader Expr := do
  expectSign "("
  let ((first, firstTreats), notes) ← withNotes (argumentList d)
  let parametric ← do
    if ← trait Dialect.parametricCalls then sign "(" else pure false
  let (parameters, arguments, treats) ←
    if parametric then pure ({ notes with text := first.render }, ← argumentList d)
    else pure (Passage.mk "" [] [], first, firstTreats)
  let suffix ← passage (callSuffix d treats)
  return .call false name parameters arguments suffix

end Reader

end QueryLint.Sql
