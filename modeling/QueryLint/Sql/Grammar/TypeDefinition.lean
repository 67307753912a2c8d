import QueryLint.Sql.Grammar.Column

/-!
# Definitions of types and operators

Readers for `CREATE TYPE` and for `CREATE OPERATOR` with its families and classes.
-/

namespace QueryLint.Sql

namespace Reader

/-! ### Types -/

/-- An attribute of a type. -/
def typeAttribute (d : Deeper) : Reader String := do
  let name ← ident
  let type ← typeText d
  let collation ← clause ["COLLATE"] do return (← objectName).render
  return s!"{name.render} {type}{collation}"

/-- The value that is set for a keyword. -/
def keywordValue (k : String) (content : Reader String) : Reader String := do
  expectSign "="
  return s!"{k} = {← content}"

/-- An option of a type of ranges. -/
def rangeTypeOption (d : Deeper) : Reader String := do
  let names := ["SUBTYPE_OPCLASS", "COLLATION", "CANONICAL", "SUBTYPE_DIFF", "MULTIRANGE_TYPE_NAME"]
  let k ← expectAmong ("SUBTYPE" :: names) "range option keyword"
  if k == "SUBTYPE" then keywordValue k (typeText d)
  else keywordValue k do return (← objectName).render

/-- The words of options of a type whose value is a name. -/
def namedTypeOptions : List String := [
  "INPUT", "OUTPUT", "RECEIVE", "SEND", "TYPMOD_IN", "TYPMOD_OUT", "ANALYZE", "SUBSCRIPT"]

/-- A truth value. -/
def truthText : Reader String := do
  match ← oneOf ["TRUE", "FALSE"] with
  | some "TRUE" => return "true"
  | some _ => return "false"
  | none => expected "TRUE or FALSE"

/-- The words of options of a type. -/
def typeOptionWords : List String := namedTypeOptions ++ [
  "INTERNALLENGTH", "PASSEDBYVALUE", "ALIGNMENT", "STORAGE", "LIKE", "CATEGORY", "PREFERRED",
  "DEFAULT", "ELEMENT", "DELIMITER", "COLLATABLE"]

/-- An option of a type that is made by functions. -/
def baseTypeOption (d : Deeper) : Reader String := do
  let k ← expectAmong typeOptionWords "SQL definition option keyword"
  if namedTypeOptions.contains k then keywordValue k do return (← objectName).render
  else
    match k with
    | "INTERNALLENGTH" =>
      keywordValue k do if ← keyword "VARIABLE" then return "VARIABLE" else naturalNumber
    | "PASSEDBYVALUE" => return k
    | "ALIGNMENT" =>
      keywordValue k do
        match ← oneOfRuns [["CHAR"], ["INT2"], ["INT4"], ["DOUBLE"]] with
        | some "CHAR" => return "char"
        | some "INT2" => return "int2"
        | some "INT4" => return "int4"
        | some _ => return "double"
        | none => expected "alignment value (char, int2, int4, or double)"
    | "STORAGE" =>
      keywordValue k do
        let kinds := ["PLAIN", "EXTERNAL", "EXTENDED", "MAIN"]
        let kind ← expectAmong kinds "storage value (plain, external, extended, or main)"
        return kind.map Char.toLower
    | "LIKE" => keywordValue k do return (← objectName).render
    | "ELEMENT" => keywordValue k (typeText d)
    | "CATEGORY" =>
      keywordValue k do
        match (← literalString).toList with
        | c :: _ => return s!"'{c}'"
        | [] => broken "CATEGORY value must be a single character" Place.none
    | "DELIMITER" => keywordValue k quotedString
    | "DEFAULT" => keywordValue k (expressionText d)
    | _ => keywordValue k truthText

/-- A new type, from behind `TYPE`. -/
def createType (d : Deeper) : Reader String := do
  let name ← objectName
  let opening := s!"CREATE TYPE {name.render}"
  let inParentheses (item : Reader String) : Reader String := do
    return "(" ++ commaSeparated (← parenthesized (commaListBefore item ")")) ++ ")"
  if ← keyword "AS" then
    if ← keyword "ENUM" then
      return s!"{opening} AS ENUM {← inParentheses (do return (← ident).render)}"
    else if ← keyword "RANGE" then
      return s!"{opening} AS RANGE {← inParentheses (rangeTypeOption d)}"
    else if ← peekSign "(" then return s!"{opening} AS {← inParentheses (typeAttribute d)}"
    else expected "ENUM, RANGE, or '(' after AS"
  else if ← peekSign "(" then return s!"{opening} {← inParentheses (baseTypeOption d)}"
  else return opening

/-! ### Operators -/

/-- The name of an operator: any tokens, with periods between them. -/
def operatorName : Reader String := do
  return String.intercalate "." (← operatorParts ((← size) + 1))

/-- An operator that another one is told of. -/
def relatedOperator : Reader String := do
  if ← keyword "OPERATOR" then parenthesized operatorName else operatorName

/-- The words of the properties of an operator, in their canonical order. -/
def operatorWords : List String := [
  "FUNCTION", "PROCEDURE", "LEFTARG", "RIGHTARG", "COMMUTATOR", "NEGATOR", "RESTRICT", "JOIN",
  "HASHES", "MERGES"]

/-- The properties of an operator in any order, each at most once; the fuel bounds their number. -/
def operatorProperties (d : Deeper) (found : List (String × String)) :
    Nat → Reader (List (String × String))
  | 0 => return found
  | fuel + 1 => do
    let k ← expectOneOf operatorWords
    let key := if k == "PROCEDURE" then "FUNCTION" else k
    if (found.lookup key).isSome then
      broken s!"Duplicate or unexpected keyword {k} in CREATE OPERATOR" Place.none
    else
      let text ← match k with
        | "HASHES" | "MERGES" => pure k
        | "LEFTARG" | "RIGHTARG" => keywordValue k (typeText d)
        | "COMMUTATOR" | "NEGATOR" => keywordValue k relatedOperator
        | _ => keywordValue k do return (← objectName).render
      let found := (key, text) :: found
      if ← sign "," then operatorProperties d found fuel else return found

/-- A new operator, from behind the word for it. -/
def createSimpleOperator (d : Deeper) : Reader String := do
  let name ← operatorName
  let found ← parenthesized do operatorProperties d [] ((← size) + 1)
  if (found.lookup "FUNCTION").isSome then
    let properties := operatorWords.filterMap fun k => found.lookup k
    return s!"CREATE OPERATOR {name} ({commaSeparated properties})"
  else broken "CREATE OPERATOR requires FUNCTION parameter" Place.none

/-- The number of a member of a class of operators, of which 32 bits are kept. -/
def memberNumber : Reader String := do
  return toString ((← naturalNumber).toNat?.getD 0 % (1 <<< 32))

/-- What an operator is used for in its class. -/
def operatorPurpose : Reader String := do
  if ← keyword "FOR" then
    if ← keyword "SEARCH" then return " FOR SEARCH"
    else if ← keywords ["ORDER", "BY"] then return s!" FOR ORDER BY {(← objectName).render}"
    else expected "SEARCH or ORDER BY after FOR"
  else return ""

/-- The types that a function of a class of operators takes. They may be none where there are no
parentheses. -/
def functionTypes (d : Deeper) : Reader String := do
  if ← sign "(" then
    if ← peekSign ")" then return ""
    else
      let types ← commaList (typeText d)
      expectSign ")"
      return s!" ({commaSeparated types})"
  else return ""

/-- The types in parentheses, behind the last of which a comma may stand. -/
def argumentTypes (d : Deeper) : Reader String := do
  if ← sign "(" then
    let types ← if ← peekSign ")" then pure [] else commaListUntil (typeText d) (peekSign ")")
    expectSign ")"
    return if types.isEmpty then "" else s!"({commaSeparated types})"
  else return ""

/-- A member of a class of operators, if one comes next. -/
def classMember (d : Deeper) : Reader (Option String) := do
  match ← oneOf ["OPERATOR", "FUNCTION", "STORAGE"] with
  | some "OPERATOR" =>
    let number ← memberNumber
    let name ← operatorName
    let types ←
      if ← peekSign "(" then
        parenthesized do
          let left ← typeText d
          expectSign ","
          return s!" ({left}, {← typeText d})"
      else pure ""
    return some s!"OPERATOR {number} {name}{types}{← operatorPurpose}"
  | some "FUNCTION" =>
    let number ← memberNumber
    let types ← functionTypes d
    let name ← objectName
    return some s!"FUNCTION {number}{types} {name.render}{← argumentTypes d}"
  | some _ => return some s!"STORAGE {← typeText d}"
  | none => return none

/-- The members of a class of operators, which may be none and may end in a comma; the fuel bounds
their number. -/
def classMembersFrom (d : Deeper) : Nat → Reader (List String)
  | 0 => return []
  | fuel + 1 => do
    match ← classMember d with
    | some text => if ← sign "," then return text :: (← classMembersFrom d fuel) else return [text]
    | none => return []

/-- A new class of operators, from behind `CLASS`. -/
def createOperatorClass (d : Deeper) : Reader String := do
  let name ← objectName
  let default ← optionalWord "DEFAULT"
  expectKeywords ["FOR", "TYPE"]
  let type ← typeText d
  expectKeyword "USING"
  let method ← ident
  let family ← clause ["FAMILY"] do return (← objectName).render
  expectKeyword "AS"
  let members ← classMembersFrom d ((← size) + 1)
  let opening := s!"CREATE OPERATOR CLASS {name.render}{default} FOR TYPE {type}"
  return s!"{opening} USING {method.render}{family} AS {commaSeparated members}"

/-- A new operator, family or class, from behind `OPERATOR`. -/
def createOperator (d : Deeper) : Reader String := do
  if ← keyword "FAMILY" then
    let name ← objectName
    expectKeyword "USING"
    return s!"CREATE OPERATOR FAMILY {name.render} USING {(← ident).render}"
  else if ← keyword "CLASS" then createOperatorClass d
  else createSimpleOperator d

end Reader

end QueryLint.Sql
