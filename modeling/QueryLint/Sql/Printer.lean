import QueryLint.Sql.Ast
import QueryLint.Text.Numeral

/-!
# SQL text of syntax trees

The canonical text of a statement: keywords in upper case, one blank between words, lists separated
by a comma and a blank, names and literals in the quotes they were written in.
-/

namespace QueryLint.Sql

/-! ### Names and literals -/

/-- A text with its quotes doubled. A quote that is doubled already, or stands behind a backslash,
is left alone. -/
def escapeQuotes (quote : Char) : Char → List Char → List Char
  | _, [] => []
  | previous, c :: rest =>
    if c == quote && previous != '\\' then
      match rest with
      | c' :: rest' =>
        if c' == quote then c :: c' :: escapeQuotes quote c rest'
        else c :: c :: escapeQuotes quote c (c' :: rest')
      | [] => [c, c]
    else c :: escapeQuotes quote c rest
termination_by _ cs => cs.length

/-- A string between quotes, with the quotes inside doubled. -/
def quoted (quote : Char) (content : String) : String :=
  String.ofList (quote :: escapeQuotes quote '\x00' content.toList ++ [quote])

/-- A character of an `E'…'` string. -/
def escapedChar (c : Char) : String :=
  match c with
  | '\'' => "\\'"
  | '\\' => "\\\\"
  | '\n' => "\\n"
  | '\t' => "\\t"
  | '\r' => "\\r"
  | other => other.toString

/-- A character of a `U&'…'` string. -/
def unicodeChar (c : Char) : String :=
  if c == '\'' then "''"
  else if c == '\\' then "\\\\"
  else if c.toNat < 128 then c.toString
  else if c.toNat ≤ 0xffff then String.ofList ('\\' :: Text.upperHex 4 c.toNat)
  else String.ofList ('\\' :: '+' :: Text.upperHex 6 c.toNat)

/-- The text of a name. -/
def Ident.render (name : Ident) : String :=
  match name.quote with
  | some '[' => s!"[{name.value}]"
  | some quote => quoted quote name.value
  | none => name.value

/-- Texts separated by a comma and a blank. -/
def commaSeparated (items : List String) : String :=
  String.intercalate ", " items

/-- The text of a dotted name. -/
def ObjectName.render (name : ObjectName) : String :=
  String.intercalate "." (name.parts.map Ident.render)

/-- The text of a literal. -/
def Value.render : Value → String
  | number digits long => if long then digits ++ "L" else digits
  | single content => quoted '\'' content
  | double content => quoted '\x22' content
  | dollar none content => s!"$${content}$$"
  | dollar (some tag) content => s!"${tag}${content}${tag}$"
  | escape content => "E'" ++ String.join (content.toList.map escapedChar) ++ "'"
  | unicode content => "U&'" ++ String.join (content.toList.map unicodeChar) ++ "'"
  | national content => s!"N'{content}'"
  | hex content => s!"X'{content}'"
  | byteSingle content => s!"B'{content}'"
  | byteDouble content => s!"B\"{content}\""
  | rawSingle content => s!"R'{content}'"
  | rawDouble content => s!"R\"{content}\""
  | longRawSingle content => s!"R'''{content}'''"
  | longRawDouble content => s!"R\"\"\"{content}\"\"\""
  | boolean true => "true"
  | boolean false => "false"
  | null => "NULL"
  | placeholder name => name

/-! ### Operators and keywords -/

/-- The spelling of a binary operator. -/
def BinaryOp.render : BinaryOp → String
  | and => "AND"
  | or => "OR"
  | eq => "="
  | ne => "<>"
  | gt => ">"
  | ge => ">="
  | lt => "<"
  | le => "<="
  | bitAnd => "&"
  | bitOr => "|"
  | bitXor => "^"
  | shiftLeft => "<<"
  | shiftRight => ">>"
  | plus => "+"
  | minus => "-"
  | multiply => "*"
  | divide => "/"
  | modulo => "%"
  | concat => "||"
  | other spelling => spelling

/-- An operator with its operand. -/
def UnaryOp.render (op : UnaryOp) (operand : String) : String :=
  match op with
  | not => "NOT " ++ operand
  | bitNot => "~" ++ operand
  | minus => "-" ++ operand
  | plus => "+" ++ operand
  | before spelling => spelling ++ operand
  | behind spelling => operand ++ spelling

/-- The keyword of a pattern match. -/
def PatternMatch.render : PatternMatch → String
  | like => "LIKE"
  | ilike => "ILIKE"
  | similarTo => "SIMILAR TO"
  | rlike => "RLIKE"
  | regexp => "REGEXP"

/-- The keyword of a truth value. -/
def Truth.render : Truth → String
  | true => "TRUE"
  | false => "FALSE"
  | unknown => "UNKNOWN"

/-- A conversion, given the texts of its operand and its type. -/
def CastForm.render (form : CastForm) (operand type : String) : String :=
  match form with
  | cast => s!"CAST({operand} AS {type})"
  | tryCast => s!"TRY_CAST({operand} AS {type})"
  | safeCast => s!"SAFE_CAST({operand} AS {type})"
  | doubleColon => s!"{operand}::{type}"

/-- The keyword of a set operator. -/
def SetOp.render : SetOp → String
  | union => "UNION"
  | except => "EXCEPT"
  | intersect => "INTERSECT"
  | minus => "MINUS"

/-- The keywords that open a join. -/
def JoinKind.render : JoinKind → String
  | join => "JOIN"
  | inner => "INNER JOIN"
  | left => "LEFT JOIN"
  | leftOuter => "LEFT OUTER JOIN"
  | right => "RIGHT JOIN"
  | rightOuter => "RIGHT OUTER JOIN"
  | full => "FULL JOIN"
  | semi => "SEMI JOIN"
  | leftSemi => "LEFT SEMI JOIN"
  | rightSemi => "RIGHT SEMI JOIN"
  | anti => "ANTI JOIN"
  | leftAnti => "LEFT ANTI JOIN"
  | rightAnti => "RIGHT ANTI JOIN"
  | cross => "CROSS JOIN"
  | straight => "STRAIGHT_JOIN"
  | asOf _ => "ASOF JOIN"
  | crossApply => "CROSS APPLY"
  | outerApply => "OUTER APPLY"

/-- What stands between a joined source and its constraint. -/
def JoinKind.condition : JoinKind → String
  | asOf condition => s!" MATCH_CONDITION ({condition})"
  | _ => ""

/-- The text of an alias. -/
def TableAlias.render (a : TableAlias) : String :=
  let as := if a.explicit then "AS " else ""
  let columns :=
    if a.columns.isEmpty then "" else s!" ({commaSeparated (a.columns.map Passage.text)})"
  as ++ a.name.render ++ columns

/-- The text of an alias behind its source, if there is one. -/
def renderAlias (a : Option TableAlias) : String :=
  match a with
  | some a => " " ++ a.render
  | none => ""

/-- `NOT ` before what is negated. -/
def notWord (negated : Bool) : String :=
  if negated then "NOT " else ""

/-! ### Trees -/

mutual

/-- The text of an expression. -/
def Expr.render : Expr → String
  | .ident name => name.render
  | .compound parts => String.intercalate "." (parts.map Ident.render)
  | .value v => v.render
  | .nested inner => "(" ++ inner.render ++ ")"
  | .collate inner collation => s!"{inner.render} COLLATE {collation.render}"
  | .binary left op right => s!"{left.render} {op.render} {right.render}"
  | .unary op operand => op.render operand.render
  | .pattern kind negated any operand pattern escape =>
    let anyWord := if any then "ANY " else ""
    let escapeClause := match escape with
      | some v => s!" ESCAPE {v.render}"
      | none => ""
    s!"{operand.render} {notWord negated}{kind.render} {anyWord}{pattern.render}{escapeClause}"
  | .inList operand negated members =>
    s!"{operand.render} {notWord negated}IN ({commaSeparated (renderExprs members)})"
  | .inQuery operand negated query =>
    s!"{operand.render} {notWord negated}IN ({query.render})"
  | .isNull operand => operand.render ++ " IS NULL"
  | .isNotNull operand => operand.render ++ " IS NOT NULL"
  | .isTruth operand negated truth => s!"{operand.render} IS {notWord negated}{truth.render}"
  | .distinct left same right => s!"{left.render} IS {notWord same}DISTINCT FROM {right.render}"
  | .between operand negated low high =>
    s!"{operand.render} {notWord negated}BETWEEN {low.render} AND {high.render}"
  | .subquery query => "(" ++ query.render ++ ")"
  | .exists negated query => s!"{notWord negated}EXISTS ({query.render})"
  | .call braced name parameters arguments suffix =>
    let text := name.render ++ parameters.text ++ arguments.render ++ suffix.text
    if braced then "\x7bfn " ++ text ++ "\x7d" else text
  | .case operand branches otherwise =>
    let head := match operand with
      | some e => " " ++ e.render
      | none => ""
    let tail := match otherwise with
      | some e => " ELSE " ++ e.render
      | none => ""
    "CASE" ++ head ++ renderBranches branches ++ tail ++ " END"
  | .cast form operand type => form.render operand.render type.text
  | .verbatim text => text

/-- The texts of some expressions. -/
def renderExprs : List Expr → List String
  | [] => []
  | e :: rest => e.render :: renderExprs rest

/-- The text of the branches of a case expression. -/
def renderBranches : List Branch → String
  | [] => ""
  | .mk condition result :: rest =>
    s!" WHEN {condition.render} THEN {result.render}" ++ renderBranches rest

/-- The text of the arguments of a call. -/
def Arguments.render : Arguments → String
  | .absent => ""
  | .query query => "(" ++ query.render ++ ")"
  | .list quantifier arguments clauses =>
    s!"({quantifier}{commaSeparated (renderArguments arguments)}{clauses.text})"

/-- The texts of some arguments. -/
def renderArguments : List Argument → List String
  | [] => []
  | a :: rest => a.render :: renderArguments rest

/-- The text of an argument. -/
def Argument.render : Argument → String
  | .positional value => value.render
  | .named name operator value => s!"{name.render} {operator} {value.render}"
  | .verbatim content => content.text

/-- The text of a query. -/
def Query.render : Query → String
  | .mk recursive ctes body orderBy limit tail =>
    let recursiveWord := if recursive then "RECURSIVE " else ""
    let withClause :=
      if ctes.isEmpty then "" else s!"WITH {recursiveWord}{commaSeparated (renderCtes ctes)} "
    withClause ++ body.render ++ orderBy.render ++ limit.render ++ tail.text

/-- The texts of some common table expressions. -/
def renderCtes : List Cte → List String
  | [] => []
  | .mk aliasName hint query source :: rest =>
    let from_ := match source with
      | some name => " FROM " ++ name.render
      | none => ""
    s!"{aliasName.render} AS {hint}({query.render}){from_}" :: renderCtes rest

/-- The text of an order, with a blank before it. -/
def OrderBy.render : OrderBy → String
  | .keys keys tail =>
    if keys.isEmpty then "" else " ORDER BY " ++ commaSeparated (renderKeys keys) ++ tail.text

/-- The texts of the keys of an order. -/
def renderKeys : List OrderKey → List String
  | [] => []
  | .mk key options :: rest => (key.render ++ options.text) :: renderKeys rest

/-- The text of a limit, with a blank before it. -/
def Limit.render : Limit → String
  | .clauses count offset tail =>
    let countClause := match count with
      | some e => " LIMIT " ++ e.render
      | none => ""
    let offsetClause := match offset with
      | some e => " OFFSET " ++ e.render
      | none => ""
    countClause ++ offsetClause ++ tail.text
  | .comma offset count => s!" LIMIT {offset.render}, {count.render}"

/-- The text of the body of a query. -/
def SetExpr.render : SetExpr → String
  | .select select => select.render
  | .query query => "(" ++ query.render ++ ")"
  | .operation left op quantifier right =>
    s!"{left.render} {op.render}{quantifier} {right.render}"
  | .values keyword row rows => s!"{keyword} {commaSeparated (renderRows row rows)}"
  | .verbatim text => text

/-- The texts of rows of values. -/
def renderRows (row : String) : List (List Expr) → List String
  | [] => []
  | r :: rest => s!"{row}({commaSeparated (renderExprs r)})" :: renderRows row rest

/-- The text of a `SELECT`. -/
def Select.render : Select → String
  | .mk form head projection into sources beforeWhere selection groupBy beforeHaving having tail =>
    let sourceList := commaSeparated (renderSources sources)
    let opening := match form with
      | .standard => "SELECT"
      | .fromFirst => s!"FROM {sourceList} SELECT"
      | .fromOnly => "FROM " ++ sourceList
    let items := if projection.isEmpty then "" else " " ++ commaSeparated (renderItems projection)
    let fromClause :=
      if form == .standard && !sources.isEmpty then " FROM " ++ sourceList else ""
    let whereClause := match selection with
      | some e => " WHERE " ++ e.render
      | none => ""
    let havingClause := match having with
      | some e => " HAVING " ++ e.render
      | none => ""
    opening ++ head.text ++ items ++ into ++ fromClause ++ beforeWhere.text ++ whereClause
      ++ groupBy.render ++ beforeHaving.text ++ havingClause ++ tail.text

/-- The text of a grouping, with a blank before it. -/
def GroupBy.render : GroupBy → String
  | .keys keys modifiers =>
    if keys.isEmpty then "" else " GROUP BY " ++ commaSeparated (renderExprs keys) ++ modifiers.text
  | .all modifiers => " GROUP BY ALL" ++ modifiers.text

/-- The texts of the items of a projection. -/
def renderItems : List SelectItem → List String
  | [] => []
  | .expr value none :: rest => value.render :: renderItems rest
  | .expr value (some aliasName) :: rest =>
    s!"{value.render} AS {aliasName.render}" :: renderItems rest
  | .wildcard content :: rest => content.text :: renderItems rest

/-- The texts of some sources. -/
def renderSources : List TableJoins → List String
  | [] => []
  | t :: rest => t.render :: renderSources rest

/-- The text of a source with its joins. -/
def TableJoins.render : TableJoins → String
  | .mk relation joins => relation.render ++ renderJoins joins

/-- The text of a source. -/
def TableFactor.render : TableFactor → String
  | .table name beforeAlias aliasName behindAlias =>
    name.render ++ beforeAlias.text ++ renderAlias aliasName ++ behindAlias.text
  | .derived lateral query aliasName =>
    let lateralWord := if lateral then "LATERAL " else ""
    s!"{lateralWord}({query.render}){renderAlias aliasName}"
  | .nested inner aliasName => s!"({inner.render}){renderAlias aliasName}"
  | .verbatim beforeAlias aliasName behindAlias =>
    beforeAlias ++ renderAlias aliasName ++ behindAlias

/-- The text of some joins, each with a blank before it. -/
def renderJoins : List Join → String
  | [] => ""
  | .mk global kind relation constraint :: rest =>
    let globalWord := if global then " GLOBAL" else ""
    let natural := match constraint with
      | .natural => " NATURAL"
      | _ => ""
    globalWord ++ natural ++ " " ++ kind.render ++ " " ++ relation.render ++ kind.condition
      ++ constraint.render ++ renderJoins rest

/-- The text of a join constraint, with a blank before it. -/
def JoinConstraint.render : JoinConstraint → String
  | .on condition => " ON " ++ condition.render
  | .using columns => s!" USING({commaSeparated (columns.map ObjectName.render)})"
  | .natural => ""
  | .none => ""

end

/-- The text of a statement. -/
def Statement.render : Statement → String
  | .query q => q.render
  | .verbatim text => text

end QueryLint.Sql
