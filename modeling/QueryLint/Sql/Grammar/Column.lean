import QueryLint.Sql.Grammar.Expr
import QueryLint.Sql.Grammar.Query

/-!
# Columns

Readers for the definition of a column: its name, its type and its options. The kinds of options
stand in a table, in the order in which they are tried. The module also holds the parts that columns
share with other definitions: guards, sequences, references, and options that are a key with a
value.
-/

namespace QueryLint.Sql

/-- A kind of option: the words that open it, the dialects that have it, and its reader from behind
the words. In the other dialects the words may be passed over, as if they did not stand there. -/
structure OptionKind where
  words : List String
  known : Dialect → Bool
  passedOver : Bool
  read : Deeper → Reader (Option String)

namespace Reader

/-! ### Guards -/

/-- `IF NOT EXISTS`, with a blank behind it. -/
def ifNotExists : Reader String := do
  return if ← keywords ["IF", "NOT", "EXISTS"] then "IF NOT EXISTS " else ""

/-- `IF EXISTS`, with a blank behind it. -/
def ifExists : Reader String := do
  return if ← keywords ["IF", "EXISTS"] then "IF EXISTS " else ""

/-- What becomes of objects that need a dropped one. -/
def dropBehaviour : Reader String :=
  optionalOneOf ["CASCADE", "RESTRICT"]

/-- The cluster that a definition is for. -/
def clusterClause : Reader String :=
  clause ["ON", "CLUSTER"] do return (← ident).render

/-- What a keyword opens in parentheses, with the keyword and a blank before it. -/
def parenthesizedClause (words : List String) (content : Reader String) : Reader String :=
  clause words do return s!"({← parenthesized content})"

/-! ### Sequences -/

/-- A bound of a sequence, which may be denied. -/
def sequenceBound (word : String) : Reader String := do
  if ← keyword word then return s!" {word} {← signedNumberText}"
  else optionalWords ["NO", word]

/-- The options of a sequence, each with a blank before it. -/
def sequenceOptions : Reader String := do
  let increment ←
    if ← keyword "INCREMENT" then
      let by_ ← optionalWord "BY"
      pure s!" INCREMENT{by_} {← signedNumberText}"
    else pure ""
  let lower ← sequenceBound "MINVALUE"
  let upper ← sequenceBound "MAXVALUE"
  let start ←
    if ← keyword "START" then
      let with_ ← optionalWord "WITH"
      pure s!" START{with_} {← signedNumberText}"
    else pure ""
  let cache ← clause ["CACHE"] signedNumberText
  let cycle := ((← oneOfRuns [["NO", "CYCLE"], ["CYCLE"]]).map (" " ++ ·)).getD ""
  return increment ++ lower ++ upper ++ start ++ cache ++ cycle

/-! ### Keys with values -/

/-- A column of a clustered index. -/
def clusteredColumn : Reader String := do
  let name ← ident
  return name.render ++ (← optionalOneOf ["ASC", "DESC"])

/-- How the rows of a table are clustered. -/
def clusteredOption : Reader String := do
  if ← keywords ["CLUSTERED", "COLUMNSTORE", "INDEX", "ORDER"] then
    return "CLUSTERED COLUMNSTORE INDEX ORDER " ++ listed "" (← columnList)
  else if ← keywords ["CLUSTERED", "COLUMNSTORE", "INDEX"] then
    return "CLUSTERED COLUMNSTORE INDEX"
  else if ← keywords ["CLUSTERED", "INDEX"] then
    let columns ← parenthesized (commaList clusteredColumn)
    return s!"CLUSTERED INDEX ({commaSeparated columns})"
  else broken "invalid CLUSTERED sequence" Place.none

/-- How the rows of a table are divided into ranges. -/
def rangeOption (d : Deeper) : Reader String := do
  expectKeyword "PARTITION"
  let content ← parenthesized do
    let column ← ident
    expectKeyword "RANGE"
    let side ← optionalOneOf ["LEFT", "RIGHT"]
    expectKeywords ["FOR", "VALUES"]
    let values ← parenthesized (expressionsText d)
    return s!"{column.render} RANGE{side} FOR VALUES ({values})"
  return s!"PARTITION ({content})"

/-- An option with a value, or one of the options that are read without. -/
def keyedOption (d : Deeper) : Reader String := do
  let k ← peekKeyword
  let special ← trait Dialect.clusteredTables
  if special && k == "HEAP" then return (← ident).render
  else if special && k == "PARTITION" then rangeOption d
  else if special && k == "CLUSTERED" then clusteredOption
  else settingItem d

/-- Options in parentheses behind some keywords. The answer is empty where the keywords are missing,
and `some` of no options for empty parentheses. -/
def keyedOptions (d : Deeper) (words : List String) : Reader (Option (List String)) := do
  if ← keywords words then
    return some (← parenthesized (commaListBefore (keyedOption d) ")"))
  else return none

/-- Options in parentheses, of which there must be one, with the given text before them. -/
def requiredClause (d : Deeper) (words : List String) (before : String) : Reader String := do
  if ← keywords words then
    return s!"{before}({commaSeparated (← parenthesized (commaList (keyedOption d)))})"
  else return ""

/-- Options in parentheses with the given text before them; no text for no options. -/
def keyedClause (d : Deeper) (words : List String) (before : String) : Reader String := do
  let found := (← keyedOptions d words).getD []
  return if found.isEmpty then "" else s!"{before}({commaSeparated found})"

/-! ### Constraints that name other rows -/

/-- What happens to rows that refer to a row which is changed. -/
def referenceAction : Reader String := do
  let found ← oneOfRuns
    [["RESTRICT"], ["CASCADE"], ["SET", "NULL"], ["NO", "ACTION"], ["SET", "DEFAULT"]]
  match found with
  | some action => return action
  | none => expected "one of RESTRICT, CASCADE, SET NULL, NO ACTION or SET DEFAULT"

/-- What a reference says about partial matches and about changes, each at most once, in any order;
the answers are in their canonical order. -/
def referenceRules (matched onDelete onUpdate : String) : Nat → Reader String
  | 0 => return matched ++ onDelete ++ onUpdate
  | fuel + 1 => do
    let opened ← oneOfRuns <|
      (if matched.isEmpty then [["MATCH"]] else [])
        ++ (if onDelete.isEmpty then [["ON", "DELETE"]] else [])
        ++ (if onUpdate.isEmpty then [["ON", "UPDATE"]] else [])
    match opened with
    | some "MATCH" =>
      let kind ← expectAmong ["FULL", "PARTIAL", "SIMPLE"] "one of FULL, PARTIAL or SIMPLE"
      referenceRules s!" MATCH {kind}" onDelete onUpdate fuel
    | some "ON DELETE" =>
      let action ← referenceAction
      referenceRules matched s!" ON DELETE {action}" onUpdate fuel
    | some _ =>
      let action ← referenceAction
      referenceRules matched onDelete s!" ON UPDATE {action}" fuel
    | none => return matched ++ onDelete ++ onUpdate

/-- When a constraint is checked, and whether it is; the answers are in their canonical order. -/
def characteristicsFrom (deferrable initially enforced : String) : Nat → Reader String
  | 0 => return deferrable ++ initially ++ enforced
  | fuel + 1 => do
    let opened ← oneOfRuns <|
      (if deferrable.isEmpty then [["NOT", "DEFERRABLE"], ["DEFERRABLE"]] else [])
        ++ (if initially.isEmpty then [["INITIALLY"]] else [])
        ++ (if enforced.isEmpty then [["ENFORCED"], ["NOT", "ENFORCED"]] else [])
    match opened with
    | some "INITIALLY" =>
      let time ← expectAmong ["DEFERRED", "IMMEDIATE"] "one of DEFERRED or IMMEDIATE"
      characteristicsFrom deferrable s!" INITIALLY {time}" enforced fuel
    | some words =>
      if words.endsWith "DEFERRABLE" then
        characteristicsFrom (" " ++ words) initially enforced fuel
      else characteristicsFrom deferrable initially (" " ++ words) fuel
    | none => return deferrable ++ initially ++ enforced

/-- When a constraint is checked, and whether it is. -/
def characteristics : Reader String :=
  characteristicsFrom "" "" "" 4

/-- The table and the columns that a constraint refers to, from behind `REFERENCES`, with the given
text between them. -/
def reference (between : String) : Reader String := do
  let table ← objectName
  let columns := listed between (← optionalListOf ident false)
  let rules ← referenceRules "" "" "" 4
  return s!"REFERENCES {table.render}{columns}{rules}{← characteristics}"

/-! ### Options of columns -/

/-- Whether the values of a computed column are stored. -/
def storage : Reader String :=
  optionalOneOf ["STORED", "VIRTUAL"]

/-- The numbers that a column is filled with, from behind `IDENTITY`. -/
def numbering (order : String) : Reader (Option String) := do
  let opening := s!"GENERATED {order} AS IDENTITY"
  if ← sign "(" then
    let options ← sequenceOptions
    expectSign ")"
    return some (if options.isEmpty then opening else s!"{opening} ({options} )")
  else return some opening

/-- How the values of a column are made, from behind `GENERATED`. -/
def generated (d : Deeper) : Reader (Option String) := do
  if ← keywords ["ALWAYS", "AS", "IDENTITY"] then numbering "ALWAYS"
  else if ← keywords ["BY", "DEFAULT", "AS", "IDENTITY"] then numbering "BY DEFAULT"
  else if ← keywords ["ALWAYS", "AS"] then
    if ← peekSign "(" then
      let e ← parenthesized (within .normal (expressionText d))
      if ← trait Dialect.storedComputations then
        expectKeyword "STORED"
        return some s!"GENERATED ALWAYS AS ({e}) STORED"
      else return some s!"GENERATED ALWAYS AS ({e}){← storage}"
    else return none
  else return none

/-- What a remark says. -/
def remarkContent : Reader String := do
  match ← peekToken with
  | some (.text .single content) | some (.text (.dollar _) content) =>
    let _ ← advance
    return content
  | _ => expected "string literal"

/-- The remark on a column or a view. -/
def remarkText : Reader String := do
  return quoted '\'' (← remarkContent)

/-- An expression of an option. Of one that opens with a parenthesis only the leading form belongs
to the option, and it stands in no column definition. -/
def optionExpression (d : Deeper) : Reader String := do
  if ← peekSign "(" then return (← within .normal (leading d)).render else expressionText d

/-- The default of a column that is not stored, which may be left out. -/
def ephemeral (d : Deeper) : Reader (Option String) := do
  if (← peekSign ",") || (← peekSign ")") then return some "EPHEMERAL"
  else return some s!"EPHEMERAL {← optionExpression d}"

/-- The first number of a column and the step to the next, if they are given. -/
def identityNumbers : Reader (Option String) := do
  if ← sign "(" then
    let seed ← signedNumberText
    expectSign ","
    let step ← signedNumberText
    expectSign ")"
    return some s!"IDENTITY({seed}, {step})"
  else return some "IDENTITY"

/-- An option that is no more than its words. -/
def bareOption (text : String) : Deeper → Reader (Option String) :=
  fun _ => return some text

/-- An option of some words with an expression behind them. -/
def expressionOption (words : String) : Deeper → Reader (Option String) :=
  fun d => do return some s!"{words} {← optionExpression d}"

/-- An option of some words with a name behind them. -/
def nameOption (words : String) : Deeper → Reader (Option String) :=
  fun _ => do return some s!"{words} {(← objectName).render}"

/-- Every dialect. -/
def everywhere : Dialect → Bool :=
  fun _ => true

/-- The options that say which values a column may hold. -/
def valueOptions : List OptionKind := [
  ⟨["CHARACTER", "SET"], everywhere, false, nameOption "CHARACTER SET"⟩,
  ⟨["COLLATE"], everywhere, false, nameOption "COLLATE"⟩,
  ⟨["NOT", "NULL"], everywhere, false, bareOption "NOT NULL"⟩,
  ⟨["COMMENT"], everywhere, false, fun _ => do return some s!"COMMENT {← remarkText}"⟩,
  ⟨["NULL"], everywhere, false, bareOption "NULL"⟩,
  ⟨["DEFAULT"], everywhere, false, expressionOption "DEFAULT"⟩,
  ⟨["MATERIALIZED"], Dialect.extraClauses, false, expressionOption "MATERIALIZED"⟩,
  ⟨["ALIAS"], Dialect.extraClauses, false, expressionOption "ALIAS"⟩,
  ⟨["EPHEMERAL"], Dialect.extraClauses, false, ephemeral⟩,
  ⟨["PRIMARY", "KEY"], everywhere, false, fun _ => do
    return some s!"PRIMARY KEY{← characteristics}"⟩,
  ⟨["UNIQUE"], everywhere, false, fun _ => do return some s!"UNIQUE{← characteristics}"⟩,
  ⟨["REFERENCES"], everywhere, false, fun _ => some <$> reference " "⟩,
  ⟨["CHECK"], everywhere, false, fun d => do
    return some s!"CHECK ({← parenthesized (within .normal (expressionText d))})"⟩]

/-- The options that say how a column is filled and kept. -/
def keepingOptions : List OptionKind := [
  ⟨["AUTO_INCREMENT"], Dialect.autoIncrement, true, bareOption "AUTO_INCREMENT"⟩,
  ⟨["AUTOINCREMENT"], Dialect.orderedColumns, true, bareOption "AUTOINCREMENT"⟩,
  ⟨["ASC"], Dialect.orderedColumns, true, bareOption "ASC"⟩,
  ⟨["DESC"], Dialect.orderedColumns, true, bareOption "DESC"⟩,
  ⟨["ON", "UPDATE"], Dialect.autoIncrement, true, expressionOption "ON UPDATE"⟩,
  ⟨["GENERATED"], everywhere, false, generated⟩,
  ⟨["OPTIONS"], Dialect.extraClauses, false, fun d => do
    return some
      ("OPTIONS(" ++ commaSeparated (← parenthesized (commaListBefore (keyedOption d) ")"))
        ++ ")")⟩,
  ⟨["AS"], Dialect.computedColumns, true, fun d => do
    let e ← parenthesized (expressionText d)
    return some s!"AS ({e}){← storage}"⟩,
  ⟨["SRID"], Dialect.autoIncrement, true, expressionOption "SRID"⟩,
  ⟨["IDENTITY"], Dialect.extraClauses, true, fun _ => identityNumbers⟩,
  ⟨["ON", "CONFLICT"], Dialect.orderedColumns, false, fun _ => do
    let action ← expectOneOf ["ROLLBACK", "ABORT", "FAIL", "IGNORE", "REPLACE"]
    return some s!"ON CONFLICT {action}"⟩,
  ⟨["INVISIBLE"], everywhere, false, bareOption "INVISIBLE"⟩]

/-- The first of some kinds of options that comes next. -/
def firstOption (d : Deeper) : List OptionKind → Reader (Option String)
  | [] => return none
  | kind :: kinds => do
    let known ← trait kind.known
    let taken ← if known || kind.passedOver then keywords kind.words else pure false
    if taken && known then kind.read d else firstOption d kinds

/-- An option of a column without a name of its own. -/
def plainColumnOption (d : Deeper) : Reader (Option String) :=
  within .columnDefinition (firstOption d (valueOptions ++ keepingOptions))

/-- An option of a column, with its name if it has one. -/
def columnOption (d : Deeper) : Reader (Option String) := do
  if ← keyword "CONSTRAINT" then
    let name ← ident
    match ← plainColumnOption d with
    | some text => return some s!" CONSTRAINT {name.render} {text}"
    | none => expected "constraint details after CONSTRAINT <name>"
  else return (← plainColumnOption d).map (" " ++ ·)

/-! ### Columns -/

/-- Words that open an option where a column may have no type. -/
def optionWords : List String := [
  "CONSTRAINT", "PRIMARY", "NOT", "UNIQUE", "CHECK", "DEFAULT", "COLLATE", "REFERENCES",
  "GENERATED", "AS"]

/-- Whether a column has no type. -/
def untyped : Reader Bool := do
  let bare := match ← peekToken with
    | some (.word w) => optionWords.contains w.keyword
    | _ => true
  return bare && (← trait Dialect.untypedColumns)

/-- A column of a new table. -/
def column (d : Deeper) : Reader String := do
  let name ← ident
  let type ← if ← untyped then pure "" else pure (" " ++ (← typeText d))
  return name.render ++ type ++ String.join (← many (columnOption d))

/-- The type of a column and its options, from behind its name. -/
def columnContent (d : Deeper) : Reader String := do
  let type ← typeText d
  let options ← many (plainColumnOption d)
  return type ++ String.join (options.map (" " ++ ·))

/-! ### Owners -/

/-- The role that owns an object or that a rule is for. -/
def owner : Reader String := do
  match ← oneOf ["CURRENT_USER", "CURRENT_ROLE", "SESSION_USER"] with
  | some k => return k
  | none =>
    match ← trying ident with
    | .ok name => return name.render
    | .error fault =>
      let due := "Expected: CURRENT_USER, CURRENT_ROLE, SESSION_USER or identifier after OWNER TO. "
      broken (due ++ fault.message) Place.none

end Reader

end QueryLint.Sql
