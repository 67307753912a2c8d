import QueryLint.Sql.Grammar.Column

/-!
# Constraints and indexes

Readers for the constraints of a table and for the indexes on it, which share the way their columns,
kinds and options are written.
-/

namespace QueryLint.Sql

namespace Reader

/-! ### Parts of indexes -/

/-- The kinds of indexes that have keywords. -/
def indexKinds : List String := ["BTREE", "HASH", "GIN", "GIST", "SPGIST", "BRIN", "BLOOM"]

/-- The kind of an index. -/
def indexKind : Reader String := do
  match ← oneOf indexKinds with
  | some k => return k
  | none => return (← ident).render

/-- The kind of an index, if one is given. -/
def indexKindClause : Reader String :=
  clause ["USING"] indexKind

/-- A column of an index: an expression with its class of operators, its direction and its
filling. -/
def indexColumn (d : Deeper) : Reader String := do
  let e ← expressionText d
  let next ← peekKeyword
  let operators ←
    if ["ASC", "DESC", "NULLS", "WITH"].contains next then pure "" else
      match ← attempt ident with
      | some name => pure (" " ++ name.render)
      | none => pure ""
  let options ← orderOptions
  let filling ← fillClause d
  return e ++ options ++ filling ++ operators

/-- The columns of an index in parentheses. -/
def indexColumns (d : Deeper) : Reader String := do
  return s!"({commaSeparated (← columnListOf (indexColumn d))})"

/-- An option of an index. -/
def indexOption : Reader (Option String) := do
  if ← keyword "USING" then return some s!" USING {← indexKind}"
  else if ← keyword "COMMENT" then return some s!" COMMENT {← plainString}"
  else return none

/-- The options of an index. -/
def indexOptions : Reader String := do
  return String.join (← many indexOption)

/-- Whether nulls count as distinct values. -/
def nullsDistinct : Reader String := do
  if ← keyword "NULLS" then
    let negation ← optionalWord "NOT"
    expectKeyword "DISTINCT"
    return s!" NULLS{negation} DISTINCT"
  else return ""

/-! ### Constraints -/

/-- The columns of a key, with what stands before and behind them. -/
def keyContent (d : Deeper) : Reader String := do
  let name := ((← attempt ident).map fun name => " " ++ name.render).getD ""
  let kind ← indexKindClause
  let columns ← indexColumns d
  let options ← indexOptions
  return s!"{name}{kind} {columns}{options}{← characteristics}"

/-- A constraint that rows are distinct, from behind `UNIQUE`. -/
def uniqueConstraint (d : Deeper) : Reader String := do
  let word ← optionalOneOf ["KEY", "INDEX"]
  if !word.isEmpty && !(← trait Dialect.keyConstraints) then
    expected "\x60index_name\x60 or \x60(column_name [, ...])\x60"
  else
    let nulls ← nullsDistinct
    return s!"UNIQUE{nulls}{word}{← keyContent d}"

/-- A constraint that rows refer to others, from behind `FOREIGN`. -/
def foreignConstraint : Reader String := do
  expectKeyword "KEY"
  let name := ((← attempt ident).map fun name => " " ++ name.render).getD ""
  let columns ← columnList
  expectKeyword "REFERENCES"
  return s!"FOREIGN KEY{name} " ++ listed "" columns ++ " " ++ (← reference "")

/-- A constraint that a condition holds, from behind `CHECK`. -/
def checkConstraint (d : Deeper) : Reader String := do
  let e ← parenthesized (expressionText d)
  let enforced := ((← oneOfRuns [["ENFORCED"], ["NOT", "ENFORCED"]]).map (" " ++ ·)).getD ""
  return s!"CHECK ({e}){enforced}"

/-- An index among the constraints of a table, from behind the word for it. -/
def indexConstraint (d : Deeper) (word : String) : Reader String := do
  let name ←
    if (← peekKeyword) == "USING" then pure ""
    else pure (((← attempt ident).map fun name => " " ++ name.render).getD "")
  let kind ← indexKindClause
  let columns ← indexColumns d
  return s!"{word}{name}{kind} {columns}{← indexOptions}"

/-- An index of texts or places, from behind the word for it. -/
def specialIndex (d : Deeper) (word : String) : Reader String := do
  let as ← optionalOneOf ["KEY", "INDEX"]
  let name := ((← attempt ident).map fun name => " " ++ name.render).getD ""
  return s!"{word}{as}{name} {← indexColumns d}"

/-- A constraint with the given name, if one comes next. -/
def namedConstraint (d : Deeper) (name : String) : Reader (Option String) := do
  let start ← get
  let k ← peekKeyword
  let keys ← trait Dialect.keyConstraints
  let _ ← advance
  match k with
  | "UNIQUE" => return some (name ++ (← uniqueConstraint d))
  | "PRIMARY" =>
    expectKeyword "KEY"
    return some s!"{name}PRIMARY KEY{← keyContent d}"
  | "FOREIGN" => return some (name ++ (← foreignConstraint))
  | "CHECK" => return some (name ++ (← checkConstraint d))
  | _ =>
    if keys && name.isEmpty && (k == "INDEX" || k == "KEY") then some <$> indexConstraint d k
    else if keys && name.isEmpty && (k == "FULLTEXT" || k == "SPATIAL") then
      some <$> specialIndex d k
    else
      set start
      return none

/-- A constraint of a new table, if one comes next. -/
def tableConstraint (d : Deeper) : Reader (Option String) := do
  if ← keyword "CONSTRAINT" then
    let name := (← ident).render
    let start ← left
    match ← namedConstraint d s!"CONSTRAINT {name} " with
    | some text => return some text
    | none =>
      let special := ["FULLTEXT", "SPATIAL"].contains (← peekKeyword)
      if special && (← trait Dialect.keyConstraints) then
        let place := (start.head?.map Lexeme.place).getD Place.none
        throw (.expected "FULLTEXT or SPATIAL option without constraint name"
          (some ⟨.word ⟨name, none, ""⟩, place, []⟩))
      else expected "PRIMARY, UNIQUE, FOREIGN, or CHECK"
  else namedConstraint d ""

/-! ### Indexes -/

/-- A choice that a change of an index or a table makes, behind its keyword and an optional sign. -/
def choiceOption (word : String) (choices : List String) (due : String) : Reader String := do
  let equals := if ← sign "=" then "= " else ""
  let choice ← expectAmong choices s!"{due} after {word} [=]"
  return s!"{word} {equals}{choice}"

/-- How much is locked while a table changes. -/
def lockOption : Reader String :=
  choiceOption "LOCK" ["DEFAULT", "EXCLUSIVE", "NONE", "SHARED"]
    "DEFAULT, EXCLUSIVE, NONE or SHARED"

/-- By which means a table changes. -/
def algorithmOption : Reader String :=
  choiceOption "ALGORITHM" ["DEFAULT", "INSTANT", "INPLACE", "COPY"]
    "DEFAULT, INSTANT, INPLACE, or COPY"

/-- How an index is built. -/
def buildOption : Reader (Option String) := do
  if ← keyword "ALGORITHM" then return some (" " ++ (← algorithmOption))
  else if ← keyword "LOCK" then return some (" " ++ (← lockOption))
  else return none

/-- The name and the kind of an index, up to the `ON` behind them. Without a name there is no
kind. -/
def indexName (required : Bool) : Reader (String × String) := do
  let bare ← if required then pure false else keyword "ON"
  if bare then return ("", "")
  else
    let name ← objectName
    let kind ← indexKindClause
    expectKeyword "ON"
    return (name.render ++ " ", kind)

/-- A new index, from behind `INDEX`. -/
def createIndex (d : Deeper) (words : String) : Reader String := do
  let concurrently ← if ← keyword "CONCURRENTLY" then pure "CONCURRENTLY " else pure ""
  let guard ← ifNotExists
  let (name, early) ← indexName (!guard.isEmpty)
  let table ← objectName
  let late ← indexKindClause
  let kind := if late.isEmpty then early else late
  let space := if kind.isEmpty then "" else " "
  let keys ← indexColumns d
  let include_ ← parenthesizedClause ["INCLUDE"] do
    return commaSeparated ((← commaList ident).map Ident.render)
  let nulls ← nullsDistinct
  let with_ ←
    if ← trait Dialect.indexParameters then parenthesizedClause ["WITH"] (expressionsText d)
    else pure ""
  let filter ← clause ["WHERE"] (expressionText d)
  let options ← indexOptions
  let building := String.join (← many buildOption)
  let opening := s!"CREATE {words}INDEX {concurrently}{guard}{name}ON {table.render}{kind}{space}"
  return opening ++ keys ++ include_ ++ nulls ++ with_ ++ filter ++ options ++ building

end Reader

end QueryLint.Sql
