import QueryLint.Sql.Grammar.Form
import QueryLint.Sql.Grammar.Power
import QueryLint.Sql.Keyword

/-!
# Expressions

An expression is a leading form (a name, a literal, a call, a parenthesis, …), the members and
subscripts taken from it, and the operators behind it as far as they bind tighter than the operator
in front. `Reader.exprAt` reads one, given what can be read one level deeper.
-/

namespace QueryLint.Sql

namespace Reader

/-- How tightly a class of operators binds in the dialect at hand. -/
def powerOf (b : Binding) : Reader Nat :=
  return (← read).dialect.power b

/-- An operator in front of its operand. -/
def unaryForm (d : Deeper) (op : UnaryOp) (b : Binding) : Reader Expr := do
  return .unary op (← d.expr (← powerOf b))

/-! ### Leading forms -/

/-- `NOT`, which belongs to a following `EXISTS`. -/
def notForm (d : Deeper) : Reader Expr := do
  if ← keyword "EXISTS" then existsForm d true else unaryForm d .not .negation

/-- Functions that are called without parentheses. -/
def bareFunctions : List String := ["CURRENT_CATALOG", "CURRENT_USER", "SESSION_USER", "USER"]

/-- Types of points, lines and boxes, whose literals are told by them. -/
def geometricTypes : List String := ["CIRCLE", "BOX", "PATH", "LINE", "LSEG", "POINT", "POLYGON"]

/-- Functions of the current time, whose parentheses are optional. -/
def timeFunctions : List String :=
  ["CURRENT_TIMESTAMP", "CURRENT_TIME", "CURRENT_DATE", "LOCALTIME", "LOCALTIMESTAMP"]

/-- The form that a keyword opens, from behind the keyword; the reader is for what an interval
measures. -/
def keywordForm (d : Deeper) (amount : Reader Expr) (w : Word) : Reader (Option Expr) := do
  let name := identOf w
  let traits := (← read).dialect
  let next ← peekToken
  match w.keyword with
  | "TRUE" => return some (.value (.boolean true))
  | "FALSE" => return some (.value (.boolean false))
  | "NULL" => return some (.value .null)
  | "CASE" => some <$> caseForm d
  | "CONVERT" => some <$> convertForm d "CONVERT"
  | "TRY_CONVERT" =>
    if traits.dictionaries then some <$> convertForm d "TRY_CONVERT" else return none
  | "MAP" =>
    if traits.dictionaries && isSign "\x7b" next then
      return some (.verbatim ("MAP " ++ (← entries d (expressionText d))))
    else return none
  | "PRIOR" =>
    if ← inContext .hierarchy then
      return some (.verbatim ("PRIOR " ++ (← d.expr (← powerOf .sum)).render))
    else return none
  | "CAST" => some <$> castForm d .cast
  | "TRY_CAST" => some <$> castForm d .tryCast
  | "SAFE_CAST" => some <$> castForm d .safeCast
  | "EXISTS" => some <$> existsForm d false
  | "EXTRACT" => some <$> extractForm d
  | "CEIL" => some <$> roundingForm d "CEIL"
  | "FLOOR" => some <$> roundingForm d "FLOOR"
  | "POSITION" =>
    if isSign "(" next then some <$> positionForm d name (← powerOf .range) else return none
  | "SUBSTR" => some <$> substringForm d "SUBSTR"
  | "SUBSTRING" => some <$> substringForm d "SUBSTRING"
  | "OVERLAY" => some <$> overlayForm d
  | "TRIM" => some <$> trimForm d
  | "INTERVAL" => some <$> intervalForm d amount
  | "ARRAY" =>
    if ← sign "[" then some <$> arrayForm d "ARRAY"
    else if isSign "(" next then
      return some (.call false ⟨[name]⟩ "" (.query (← parenthesized d.query)) "")
    else return none
  | "NOT" => some <$> notForm d
  | "MATCH" => if traits.matchAgainst then some <$> searchForm else return none
  | "STRUCT" => if traits.structures then some <$> structureForm d else return none
  | k =>
    if timeFunctions.contains k then some <$> timeForm d name
    else if traits.userFunctions && bareFunctions.contains k then
      return some (.call false ⟨[name]⟩ "" .absent "")
    else if traits.geometricOperators && geometricTypes.contains k then
      return some (.verbatim s!"{k.map Char.toLower} {← valueText}")
    else return none

/-- A word without a meaning of its own: a call, a string with its character set, or a name. -/
def plainForm (d : Deeper) (w : Word) : Reader Expr := do
  let introduced : Reader Expr := do
    if w.value.startsWith "_" then
      return .verbatim s!"{(identOf w).render} {(← introducedValue).render}"
    else return .ident (identOf w)
  match ← peekToken with
  | some (.sign "(") => callOf d ⟨[identOf w]⟩
  | some (.text .single _) => introduced
  | some (.text .double _) => introduced
  | some (.text .hex _) => introduced
  | _ => return .ident (identOf w)

/-- A query, an expression or a tuple, from behind the opening parenthesis. -/
def parenthesizedForm (d : Deeper) : Reader Expr := do
  if ← peekQuery then
    let query ← d.query
    expectSign ")"
    return .subquery query
  else
    let items ← commaList (expression d)
    expectSign ")"
    match items with
    | [e] => return .nested e
    | _ => return .verbatim s!"({commaSeparated (renderExprs items)})"

/-- A literal behind the name of its type, or a conversion to it. A type of a custom name opens
none. -/
def typedLiteral (d : Deeper) (amount : Reader Expr) : Reader Expr := do
  let type ← typeName d
  let literal : Reader Expr := do return .verbatim s!"{type.text} {← valueText}"
  match type.kind with
  | .interval => intervalForm d amount
  | .custom => expected "a data type name"
  | .builtin => literal

/-- What a word opens. A keyword whose form is broken may still be a plain name, which takes no
collation. -/
def wordForm (d : Deeper) (amount : Reader Expr) (w : Word) : Reader Expr := do
  let _ ← advance
  match ← trying (keywordForm d amount w) with
  | .ok (some e) => collated e
  | .ok none => collated (← plainForm d w)
  | .error fault =>
    if !Keyword.isColumnName (← read).dialect w.keyword then throw fault
    else match ← trying (plainForm d w) with
      | .ok e => return e
      | .error _ => throw fault

/-- Operators that stand directly in front of their operand where operators can be defined. -/
def leadingOperators : List String := ["!!", "|/", "||/", "@"]

/-- Operators on points, lines and boxes that stand in front of their operand, apart from it. -/
def geometricLeadingOperators : List String := ["#", "@-@", "@@", "?-", "?|"]

/-- What a sign opens. -/
def signForm (d : Deeper) (s : String) : Reader Expr := do
  let traits := (← read).dialect
  let behind (r : Reader Expr) : Reader Expr := do
    let _ ← advance
    r
  if s == "[" then behind (arrayForm d "")
  else if s == "-" then behind (unaryForm d .minus .product)
  else if s == "+" then behind (unaryForm d .plus .product)
  else if s == "~" then behind (unaryForm d .bitNot .sum)
  else if traits.customOperators && leadingOperators.contains s then
    behind (unaryForm d (.before s) .sum)
  else if traits.geometricOperators && geometricLeadingOperators.contains s then
    behind (unaryForm d (.before (s ++ " ")) .sum)
  else if s == "\x7b" then bracedForm d
  else if s == "(" then behind (parenthesizedForm d)
  else if s == ":" || s == "@" then return .value (← value)
  else expected "an expression"

/-- A leading form with its collation, which a literal with a type does not take; the fuel bounds
the intervals in front of one another. -/
def leadingFrom (d : Deeper) : Nat → Reader Expr
  | 0 => expected "an expression"
  | fuel + 1 => do
    match ← attempt (typedLiteral d (leadingFrom d fuel)) with
    | some e => return e
    | none =>
      match ← peekToken with
      | some (.word w) => wordForm d (leadingFrom d fuel) w
      | some (.number _ _) | some (.text _ _) | some (.placeholder _) =>
        collated (.value (← value))
      | some (.sign s) => collated (← signForm d s)
      | _ => expected "an expression"

/-- A leading form. -/
def leading (d : Deeper) : Reader Expr := do
  leadingFrom d ((← size) + 1)

/-! ### Members and subscripts -/

/-- What is taken from an expression. -/
inductive Access where
  | member (e : Expr)
  | subscript (text : String)

namespace Access

/-- The text of an access. -/
def render : Access → String
  | member e => "." ++ e.render
  | subscript text => text

/-- The name that an access is, if it is a plain member. -/
def name? : Access → Option Ident
  | member (.ident name) => some name
  | _ => none

/-- The accesses that a member stands for, which is several if it is a dotted name. -/
def ofMember (e : Expr) : List Access :=
  match e with
  | .compound parts => parts.map fun p => member (.ident p)
  | other => [member other]

end Access

/-- An index or a slice, from behind its opening bracket. A step that is missing is not kept. -/
def subscript (d : Deeper) : Reader Access := do
  let found (text : String) : Reader Access := return .subscript s!"[{text}]"
  let open_ ← sign ":"
  let lower ← if open_ then pure "" else expressionText d
  if ← sign "]" then found (if open_ then ":" else lower)
  else
    unless open_ do expectSign ":"
    if ← sign "]" then found (lower ++ ":")
    else
      let upper ← expressionText d
      if ← sign "]" then found s!"{lower}:{upper}"
      else
        expectSign ":"
        if ← sign "]" then found s!"{lower}:{upper}"
        else
          let step ← expressionText d
          expectSign "]"
          found s!"{lower}:{upper}:{step}"

/-- The accesses behind an expression, and whether they end in a star. -/
def accessesFrom (d : Deeper) : Nat → Reader (List Access × Bool)
  | 0 => return ([], false)
  | fuel + 1 => do
    let more (found : List Access) : Reader (List Access × Bool) := do
      let (rest, star) ← accessesFrom d fuel
      return (found ++ rest, star)
    match ← peekToken with
    | some (.sign ".") =>
      match ← peekNth 1 with
      | some (.sign "*") =>
        if ← trait Dialect.namedArgumentExpressions then
          skip 2
          return ([], true)
        else return ([], false)
      | some (.text .single content) =>
        skip 2
        more [.member (.ident ⟨content, some '\''⟩)]
      | _ =>
        let _ ← advance
        more (Access.ofMember (← d.expr (← powerOf .member)))
    | some (.sign "[") =>
      let _ ← advance
      more [← subscript d]
    | _ => return ([], false)

/-- The dotted name that an expression and the accesses behind it make up, if they do. -/
def dottedName? (root : Expr) (accesses : List Access) : Option (List Ident) :=
  match root with
  | .ident name => (accesses.mapM Access.name?).map (name :: ·)
  | _ => none

/-- An expression with the accesses behind it: a dotted name, a call of a dotted name, or
neither. -/
def joinAccesses (root : Expr) (accesses : List Access) : Expr :=
  if accesses.isEmpty then root
  else match dottedName? root accesses with
    | some parts => .compound parts
    | none =>
      let text := root.render ++ String.join (accesses.map Access.render)
      match accesses.getLast?, dottedName? root accesses.dropLast with
      | some (.member (.call braced name parameters arguments suffix)), some parts =>
        .call braced ⟨parts ++ name.parts⟩ parameters arguments suffix
      | _, _ => .verbatim text

/-- An expression with what is taken from it. -/
def accessed (d : Deeper) (root : Expr) : Reader Expr := do
  let (accesses, star) ← accessesFrom d ((← size) + 1)
  if star then
    match dottedName? root accesses with
    | some parts => return .verbatim ((ObjectName.mk parts).render ++ ".*")
    | none => expected "an identifier or a '*' after '.'"
  else return joinAccesses root accesses

/-! ### Operators -/

/-- The spellings of operators with a meaning of their own. -/
def knownOperators : List (String × BinaryOp) := [
  ("==", .eq), ("=", .eq), ("<>", .ne), (">", .gt), (">=", .ge), ("<", .lt), ("<=", .le),
  ("+", .plus), ("-", .minus), ("*", .multiply), ("%", .modulo), ("||", .concat),
  ("|", .bitOr), ("&", .bitAnd), ("/", .divide), ("<<", .shiftLeft), (">>", .shiftRight)]

/-- Signs that bind like operators and are none between two operands. -/
def otherSigns : List String := [".", "::", "!", "["]

/-- The operator that a sign is between two operands. -/
def signOperator? (d : Dialect) (s : String) : Option BinaryOp :=
  if s == "^" then some (if d.caretIsPower then .other "^" else .bitXor)
  else if (s == "<<" || s == ">>") && !d.shiftOperators then none
  else if s == "#" && !d.customOperators then none
  else if (s == "&&" || s == "^@") && !d.namedOperators then none
  else if s == "@" && !d.geometricOperators then none
  else if otherSigns.contains s then none
  else some ((knownOperators.lookup s).getD (.other s))

/-- The spelling of a named operator, from behind the opening parenthesis. -/
def operatorParts : Nat → Reader (List String)
  | 0 => expected ")"
  | fuel + 1 => do
    let part := ((← advance).map fun l => l.token.spelled).getD "EOF"
    if ← sign "." then return part :: (← operatorParts fuel) else return [part]

/-- The operator that a token is between two operands, from behind the token. -/
def operatorOf (token : Token) : Reader (Option BinaryOp) := do
  let d := (← read).dialect
  match token with
  | .sign s => return signOperator? d s
  | .operator s => return some (.other s)
  | .word w =>
    if w.keyword == "AND" then return some .and
    else if w.keyword == "OR" then return some .or
    else if w.keyword == "XOR" || w.keyword == "OVERLAPS" then return some (.other w.keyword)
    else if w.keyword == "OPERATOR" && d.namedOperators then
      let parts ← parenthesized do operatorParts ((← size) + 1)
      let name := String.intercalate "." parts
      return some (.other s!"OPERATOR({name})")
    else return none
  | _ => return none

/-- Whether an operator can compare with any or all of some values. -/
def comparesMany (op : BinaryOp) : Bool :=
  match op with
  | .eq | .ne | .gt | .ge | .lt | .le => true
  | .other s => ["~", "~*", "!~", "!~*", "~~", "~~*", "!~~", "!~~*"].contains s
  | _ => false

/-- The right side of an operator: an operand, or any or all of some values. -/
def rightSide (d : Deeper) (left : Expr) (op : BinaryOp) (power : Nat) (start : Place) :
    Reader Expr := do
  match ← oneOf ["ANY", "ALL", "SOME"] with
  | none => return .binary left op (← d.expr power)
  | some word =>
    let behind ← peekNth 1
    let isQuery := isSign "(" (← peekToken)
      && (keywordOf behind == "SELECT" || keywordOf behind == "WITH")
    let right ←
      if isQuery then d.expr power
      else parenthesized (d.expr power)
    if comparesMany op then
      let text := match right with
        | .subquery _ => right.render
        | _ => "(" ++ right.render ++ ")"
      return .verbatim s!"{left.render} {op.render} {word}{text}"
    else
      let rule := "Expected one of [=, >, <, =>, =<, !=, ~, ~*, !~, !~*, ~~, ~~*, !~~, !~~*] "
        ++ s!"as comparison operator, found: {op.render}"
      throw (.broken rule start)

/-- What `IS` tests, from behind it. -/
def isTest (d : Deeper) (left : Expr) : Reader Expr := do
  if ← keyword "NULL" then return .isNull left
  else if ← keywords ["NOT", "NULL"] then return .isNotNull left
  else if ← keyword "TRUE" then return .isTruth left false .true
  else if ← keywords ["NOT", "TRUE"] then return .isTruth left true .true
  else if ← keyword "FALSE" then return .isTruth left false .false
  else if ← keywords ["NOT", "FALSE"] then return .isTruth left true .false
  else if ← keyword "UNKNOWN" then return .isTruth left false .unknown
  else if ← keywords ["NOT", "UNKNOWN"] then return .isTruth left true .unknown
  else if ← keywords ["DISTINCT", "FROM"] then return .distinct left false (← expression d)
  else if ← keywords ["NOT", "DISTINCT", "FROM"] then return .distinct left true (← expression d)
  else
    let negated ← keyword "NOT"
    let form := match ← oneOf ["NFC", "NFD", "NFKC", "NFKD"] with
      | some k => k ++ " "
      | none => ""
    if ← keyword "NORMALIZED" then
      return .verbatim s!"{left.render} IS {notWord negated}{form}NORMALIZED"
    else expected "[NOT] NULL | TRUE | FALSE | DISTINCT | [form] NORMALIZED FROM after IS"

/-- The members that `IN` looks through, from behind it. -/
def membership (d : Deeper) (left : Expr) (negated : Bool) : Reader Expr := do
  if ← keyword "UNNEST" then
    let array ← parenthesized (expressionText d)
    return .verbatim s!"{left.render} {notWord negated}IN UNNEST({array})"
  else
    expectSign "("
    let e ← match ← attempt d.query with
      | some query => pure (Expr.inQuery left negated query)
      | none =>
        let members ←
          if ← trait Dialect.emptyInList then commaListBefore (expression d) ")"
          else commaList (expression d)
        pure (Expr.inList left negated members)
    expectSign ")"
    return e

/-- The pattern that an operand is matched with, from behind the keywords. -/
def patternMatch (d : Deeper) (kind : PatternMatch) (left : Expr) (negated any : Bool) :
    Reader Expr := do
  let pattern ← d.expr (← powerOf .pattern)
  let escape ← if ← keyword "ESCAPE" then pure (some (← value)) else pure none
  return .pattern kind negated any left pattern escape

/-- Tests that can be negated, from the optional `NOT` on. Both words for a regular expression may
stand there, and a `NULL` in front of what follows says nothing. -/
def negatableTest (d : Deeper) (left : Expr) : Reader Expr := do
  let negated ← keyword "NOT"
  let regexp ← keyword "REGEXP"
  let rlike ← keyword "RLIKE"
  let null ← if ← inContext .columnDefinition then pure false else keyword "NULL"
  if regexp || rlike then
    let kind := if regexp then PatternMatch.regexp else .rlike
    return .pattern kind negated false left (← d.expr (← powerOf .pattern)) none
  else if negated && null then return .isNotNull left
  else if ← keyword "IN" then membership d left negated
  else if ← keyword "BETWEEN" then
    let low ← d.expr (← powerOf .range)
    expectKeyword "AND"
    return .between left negated low (← d.expr (← powerOf .range))
  else if ← keyword "LIKE" then
    let any ← keyword "ANY"
    patternMatch d .like left negated any
  else if ← keyword "ILIKE" then
    let any ← keyword "ANY"
    patternMatch d .ilike left negated any
  else if ← keywords ["SIMILAR", "TO"] then patternMatch d .similarTo left negated false
  else expected "IN or BETWEEN after NOT"

/-- Words that open a test that can be negated. -/
def negatableWords : List String :=
  ["NOT", "IN", "BETWEEN", "LIKE", "ILIKE", "SIMILAR", "REGEXP", "RLIKE"]

/-- The word that a token behind an operand is an operator for, from behind the token. -/
def wordOperation (d : Deeper) (left : Expr) (power : Nat) (l : Lexeme) : Reader Expr := do
  match keywordOf (some l.token) with
  | "IS" => isTest d left
  | "AT" =>
    expectKeywords ["TIME", "ZONE"]
    return .verbatim s!"{left.render} AT TIME ZONE {(← d.expr power).render}"
  | "NOTNULL" => return .isNotNull left
  | "MEMBER" =>
    if ← keyword "OF" then
      return .verbatim s!"{left.render} MEMBER OF({← parenthesized (expressionText d)})"
    else expected "OF after MEMBER"
  | _ => throw (.noOperator l)

/-- An operand with one operator behind it that binds so tightly. -/
def operation (d : Deeper) (operand : Expr) (power : Nat) : Reader Expr := do
  let traits := (← read).dialect
  let k ← peekKeyword
  match ← peek with
  | none => expected "an expression"
  | some l =>
    if negatableWords.contains k && !(traits.matchOperators && k == "REGEXP") then
      negatableTest d operand
    else
      let _ ← advance
      if (traits.matchOperators && (k == "REGEXP" || k == "MATCH"))
          || (traits.divOperator && k == "DIV") then
        return .binary operand (.other k) (← expression d)
      else match ← operatorOf l.token with
        | some op => rightSide d operand op power l.place
        | none =>
          match l.token with
          | .word _ => wordOperation d operand power l
          | .sign "::" => return .cast .doubleColon operand (← passage (typeText d))
          | .sign "!" =>
            if traits.factorial then return .unary (.behind "!") operand
            else throw (.noOperator l)
          | _ => throw (.noOperator l)

/-- An operand with the operators behind it that bind tighter than a given power. -/
def operationsFrom (d : Deeper) (power : Nat) (operand : Expr) : Nat → Reader Expr
  | 0 => return operand
  | fuel + 1 => do
    let next ← nextPower
    if next ≤ power || isSign "." (← peekToken) then return operand
    else operationsFrom d power (← operation d operand next) fuel

/-- An expression whose operators all bind tighter than a given power. -/
def exprAt (d : Deeper) (power : Nat) : Reader Expr := do
  let operand ← accessed d (← leading d)
  operationsFrom d power operand ((← size) + 1)

end Reader

end QueryLint.Sql
