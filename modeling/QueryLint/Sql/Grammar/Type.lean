import QueryLint.Sql.Grammar.Literal

/-!
# Types

Readers for the names of types with their arguments. A type may hold other types in angle brackets,
and `>>` closes two of them at once: then the inner type tells that its closing bracket has taken
the outer one along.
-/

namespace QueryLint.Sql

/-- What a type is read as. -/
inductive TypeClass where
  | builtin
  | interval
  /-- A name that is no type of the language itself. -/
  | custom
  deriving DecidableEq, Repr, Inhabited

/-- A type, by its canonical text. -/
structure TypeName where
  kind : TypeClass
  text : String
  deriving Repr, Inhabited

/-- The arguments that a type takes in parentheses. -/
inductive TypeArguments where
  | none
  | precision
  | precisionAndScale
  | length
  | binaryLength
  | fixedLength
  /-- A precision with an optional time zone. -/
  | clock
  | members
  | choices
  deriving DecidableEq, Repr, Inhabited

/-- What may stand behind the arguments of a type of numbers. -/
inductive TypeSuffix where
  | none
  | unsigned
  /-- `UNSIGNED`, or `SIGNED`, which says nothing new. -/
  | signed
  deriving DecidableEq, Repr, Inhabited

namespace TypeName

/-- Types of numbers of one word: their arguments, what may stand behind them, and how they are
written. -/
def numeric : List (String × TypeArguments × TypeSuffix × String) := [
  ("FLOAT", .precisionAndScale, .unsigned, "FLOAT"), ("REAL", .none, .unsigned, "REAL"),
  ("FLOAT4", .none, .none, "FLOAT4"), ("FLOAT8", .none, .none, "FLOAT8"),
  ("FLOAT32", .none, .none, "Float32"), ("FLOAT64", .none, .none, "FLOAT64"),
  ("TINYINT", .precision, .signed, "TINYINT"), ("INT2", .precision, .unsigned, "INT2"),
  ("SMALLINT", .precision, .signed, "SMALLINT"), ("MEDIUMINT", .precision, .signed, "MEDIUMINT"),
  ("INT", .precision, .signed, "INT"), ("INT4", .precision, .unsigned, "INT4"),
  ("INT8", .precision, .unsigned, "INT8"), ("INT16", .none, .none, "Int16"),
  ("INT32", .none, .none, "Int32"), ("INT64", .none, .none, "INT64"),
  ("INT128", .none, .none, "Int128"), ("INT256", .none, .none, "Int256"),
  ("INTEGER", .precision, .signed, "INTEGER"), ("BIGINT", .precision, .signed, "BIGINT"),
  ("HUGEINT", .none, .none, "HUGEINT"), ("UBIGINT", .none, .none, "UBIGINT"),
  ("UHUGEINT", .none, .none, "UHUGEINT"), ("USMALLINT", .none, .none, "USMALLINT"),
  ("UTINYINT", .none, .none, "UTINYINT"), ("UINT8", .none, .none, "UInt8"),
  ("UINT16", .none, .none, "UInt16"), ("UINT32", .none, .none, "UInt32"),
  ("UINT64", .none, .none, "UInt64"), ("UINT128", .none, .none, "UInt128"),
  ("UINT256", .none, .none, "UInt256"), ("NUMERIC", .precisionAndScale, .none, "NUMERIC"),
  ("DECIMAL", .precisionAndScale, .unsigned, "DECIMAL"),
  ("DEC", .precisionAndScale, .unsigned, "DEC"),
  ("BIGNUMERIC", .precisionAndScale, .none, "BIGNUMERIC"),
  ("BIGDECIMAL", .precisionAndScale, .none, "BIGDECIMAL")]

/-- Other types of one word: their arguments and how they are written. -/
def simple : List (String × TypeArguments × String) := [
  ("BOOLEAN", .none, "BOOLEAN"), ("BOOL", .none, "BOOL"), ("VARCHAR", .length, "VARCHAR"),
  ("NVARCHAR", .length, "NVARCHAR"), ("CLOB", .precision, "CLOB"),
  ("VARBINARY", .binaryLength, "VARBINARY"), ("BLOB", .precision, "BLOB"),
  ("TINYBLOB", .none, "TINYBLOB"), ("MEDIUMBLOB", .none, "MEDIUMBLOB"),
  ("LONGBLOB", .none, "LONGBLOB"), ("BYTES", .precision, "BYTES"),
  ("VARBIT", .precision, "VARBIT"), ("UUID", .none, "UUID"), ("DATE", .none, "DATE"),
  ("DATE32", .none, "Date32"), ("DATETIME", .precision, "DATETIME"),
  ("DATETIME64", .clock, "DateTime64"), ("TIMESTAMPTZ", .precision, "TIMESTAMPTZ"),
  ("TIMESTAMP_NTZ", .precision, "TIMESTAMP_NTZ"), ("TIMETZ", .precision, "TIMETZ"),
  ("JSON", .none, "JSON"), ("JSONB", .none, "JSONB"), ("REGCLASS", .none, "REGCLASS"),
  ("STRING", .precision, "STRING"), ("FIXEDSTRING", .fixedLength, "FixedString"),
  ("TEXT", .none, "TEXT"), ("TINYTEXT", .none, "TINYTEXT"), ("MEDIUMTEXT", .none, "MEDIUMTEXT"),
  ("LONGTEXT", .none, "LONGTEXT"), ("BYTEA", .none, "BYTEA"), ("TRIGGER", .none, "TRIGGER"),
  ("ENUM", .members, "ENUM"), ("ENUM8", .members, "ENUM8"), ("ENUM16", .members, "ENUM16"),
  ("SET", .choices, "SET")]

end TypeName

namespace Reader

/-! ### Arguments of types -/

/-- A precision in parentheses, if there is one. -/
def optionalPrecision : Reader String := do
  if ← sign "(" then
    let n ← naturalNumber
    expectSign ")"
    return s!"({n})"
  else return ""

/-- A precision and a scale in parentheses, each if there is one. -/
def optionalPrecisionAndScale : Reader String := do
  if ← sign "(" then
    let n ← naturalNumber
    let scale ← if ← sign "," then pure ("," ++ (← signedNumber)) else pure ""
    expectSign ")"
    return s!"({n}{scale})"
  else return ""

/-- A length in parentheses, if there is one, with the unit that the given reader takes. -/
def optionalLength (unit : Reader String) : Reader String := do
  if ← sign "(" then
    let length ← if ← keyword "MAX" then pure "MAX" else pure ((← naturalNumber) ++ (← unit))
    expectSign ")"
    return s!"({length})"
  else return ""

/-- A length of characters in parentheses, if there is one. -/
def characterLength : Reader String :=
  optionalLength (optionalOneOf ["CHARACTERS", "OCTETS"])

/-- A precision and a time zone in parentheses. -/
def clockArguments : Reader String :=
  parenthesized do
    let n ← naturalNumber
    let zone ← if ← sign "," then pure (", " ++ (← plainString)) else pure ""
    return n ++ zone

/-- A member of an enumeration, with its number if it has one. -/
def enumMember : Reader String := do
  let name ← quotedString
  if ← sign "=" then return s!"{name} = {← signedNumberText}" else return name

/-- The strings of a choice, from behind one of them; the fuel bounds their number. -/
def choicesFrom : Nat → Reader (List String)
  | 0 => expected "a string"
  | fuel + 1 => do
    match ← peekToken with
    | some (.text .single content) =>
      let _ ← advance
      if ← sign "," then return quoted '\'' content :: (← choicesFrom fuel)
      else if ← sign ")" then return [quoted '\'' content]
      else expected ", or \x7d"
    | _ => expected "a string"

/-- The arguments of a type. -/
def typeArguments (kind : TypeArguments) : Reader String := do
  match kind with
  | .none => return ""
  | .precision => optionalPrecision
  | .precisionAndScale => optionalPrecisionAndScale
  | .length => characterLength
  | .binaryLength => optionalLength (return "")
  | .fixedLength => return s!"({← parenthesized naturalNumber})"
  | .clock => return s!"({← clockArguments})"
  | .members => return s!"({commaSeparated (← parenthesized (commaList enumMember))})"
  | .choices =>
    expectSign "("
    return s!"({commaSeparated (← choicesFrom ((← size) + 1))})"

/-- What stands behind the arguments of a type of numbers. -/
def typeSuffix (kind : TypeSuffix) : Reader String := do
  match kind with
  | .none => return ""
  | .unsigned => optionalWord "UNSIGNED"
  | .signed =>
    let unsigned ← optionalWord "UNSIGNED"
    if unsigned.isEmpty && (← trait Dialect.signedTypes) then
      let _ ← keyword "SIGNED"
    return unsigned

/-- Whether times of a type carry a zone. -/
def optionalZone : Reader String := do
  match ← oneOf ["WITH", "WITHOUT"] with
  | some k =>
    expectKeywords ["TIME", "ZONE"]
    return s!" {k} TIME ZONE"
  | none => return ""

/-- A character type behind its first word. -/
def characterType (word : String) : Reader String := do
  if ← keyword "VARYING" then return s!"{word} VARYING{← characterLength}"
  else if ← keywords ["LARGE", "OBJECT"] then return s!"{word} LARGE OBJECT{← optionalPrecision}"
  else return word ++ (← characterLength)

/-- The fields that an interval type names. -/
def intervalFields : Reader String := do
  let upTo (first : String) (last : List String) : Reader String := do
    if ← keyword "TO" then
      match last with
      | [k] =>
        expectKeyword k
        return s!" {first} TO {k}"
      | _ => return s!" {first} TO {← expectOneOf last}"
    else return s!" {first}"
  match ← oneOf ["YEAR", "DAY", "HOUR", "MINUTE", "MONTH", "SECOND"] with
  | some "YEAR" => upTo "YEAR" ["MONTH"]
  | some "DAY" => upTo "DAY" ["HOUR", "MINUTE", "SECOND"]
  | some "HOUR" => upTo "HOUR" ["MINUTE", "SECOND"]
  | some "MINUTE" => upTo "MINUTE" ["SECOND"]
  | some k => return " " ++ k
  | none => return ""

/-- The arguments of a custom type, from behind the opening parenthesis. Commas between them say
nothing; the fuel bounds their number. -/
def modifiersFrom : Nat → Reader (List String)
  | 0 => expected "type modifiers"
  | fuel + 1 => do
    let found (text : String) : Reader (List String) := do
      let _ ← advance
      return text :: (← modifiersFrom fuel)
    match ← peekToken with
    | some (.word w) => found w.spelled
    | some (.number digits _) => found digits
    | some (.text .single content) => found content
    | some (.sign ",") =>
      let _ ← advance
      modifiersFrom fuel
    | some (.sign ")") =>
      let _ ← advance
      return []
    | _ => expected "type modifiers"

/-- A custom type with its arguments. -/
def customType : Reader TypeName := do
  let name ← objectName
  let modifiers ← if ← sign "(" then modifiersFrom ((← size) + 1) else pure []
  let arguments := if modifiers.isEmpty then "" else s!"({commaSeparated modifiers})"
  return ⟨.custom, name.render ++ arguments⟩

/-! ### Types of one word -/

/-- A type that holds no other types, from behind its keyword. -/
def scalarType (k : String) : Reader (Option TypeName) := do
  let builtin (text : String) : Reader (Option TypeName) := return some ⟨.builtin, text⟩
  match TypeName.numeric.lookup k, TypeName.simple.lookup k with
  | some (arguments, suffix, spelling), _ =>
    let text := spelling ++ (← typeArguments arguments)
    builtin (text ++ (← typeSuffix suffix))
  | none, some (arguments, spelling) => builtin (spelling ++ (← typeArguments arguments))
  | none, none =>
    match k with
    | "DOUBLE" =>
      if ← keyword "PRECISION" then builtin ("DOUBLE PRECISION" ++ (← optionalWord "UNSIGNED"))
      else
        let text := "DOUBLE" ++ (← optionalPrecisionAndScale)
        builtin (text ++ (← optionalWord "UNSIGNED"))
    | "CHAR" | "CHARACTER" => builtin (← characterType k)
    | "BINARY" => builtin ("BINARY" ++ (← optionalPrecision))
    | "BIT" =>
      let text := "BIT" ++ (← optionalWord "VARYING")
      builtin (text ++ (← optionalPrecision))
    | "TIMESTAMP" | "TIME" =>
      let text := k ++ (← optionalPrecision)
      builtin (text ++ (← optionalZone))
    | "INTERVAL" =>
      if ← trait Dialect.intervalOptions then
        let fields ← intervalFields
        return some ⟨.interval, "INTERVAL" ++ fields ++ (← optionalPrecision)⟩
      else return some ⟨.interval, "INTERVAL"⟩
    | "SIGNED" | "UNSIGNED" => builtin (k ++ (← optionalWord "INTEGER"))
    | "TSVECTOR" | "TSQUERY" =>
      if ← trait Dialect.searchTypes then builtin k else return none
    | "ANY" => if ← keyword "TYPE" then builtin "ANY TYPE" else return none
    | _ => return none

/-! ### Types of types -/

/-- Closes an angle bracket, unless an inner type has closed it already. The answer says whether the
outer bracket is closed along. -/
def closeAngle (closed : Bool) : Reader Bool := do
  if closed then return false
  else if ← sign ">" then return false
  else if ← sign ">>" then return true
  else expected ">"

/-- An option of a field: a key and its value. -/
def fieldOption (d : Deeper) : Reader String := do
  let key ← ident
  expectSign "="
  return s!"{key.render} = {(← d.expr 0).render}"

/-- The options of a field, if there are some. -/
def fieldOptions (d : Deeper) : Reader String := do
  if ← keyword "OPTIONS" then
    return " OPTIONS("
      ++ commaSeparated (← parenthesized (commaListBefore (fieldOption d) ")")) ++ ")"
  else return ""

/-- A field of a structure, with its name if it has one. -/
def structureField (d : Deeper) (type : Reader (TypeName × Bool)) : Reader (String × Bool) := do
  let isNamed := match ← peekToken, ← peekNth 1 with
    | some (.word _), some (.word _) => true
    | _, _ => false
  let name ← if isNamed then pure ((← ident).render ++ " ") else pure ""
  let (found, closed) ← type
  return (s!"{name}{found.text}{← fieldOptions d}", closed)

/-- The fields of a structure in angle brackets, and whether the last one has closed them; the fuel
bounds their number. -/
def fieldsFrom (d : Deeper) (type : Reader (TypeName × Bool)) : Nat → Reader (List String × Bool)
  | 0 => expected ">"
  | fuel + 1 => do
    let (field, closed) ← structureField d type
    let more ← if closed then pure false else sign ","
    if more then
      let (fields, closed) ← fieldsFrom d type fuel
      return (field :: fields, closed)
    else return ([field], closed)

/-- A structure of fields, from behind its keyword. -/
def structureType (d : Deeper) (type : Reader (TypeName × Bool)) : Reader (String × Bool) := do
  if ← sign "<" then
    let (fields, closed) ← fieldsFrom d type ((← size) + 1)
    return (s!"STRUCT<{commaSeparated fields}>", ← closeAngle closed)
  else return ("STRUCT", false)

/-- A type of which all brackets are closed. -/
def wholeType (type : Reader (TypeName × Bool)) : Reader TypeName := do
  let (found, closed) ← type
  if closed then
    broken s!"unmatched > after parsing data type {found.text}{← peekText}" Place.none
  else return found

/-- Definitions of columns in parentheses. -/
def columnTypes (d : Deeper) : Reader String := do
  return s!"({commaSeparated (← parenthesized (commaList d.column))})"

/-- A type that holds others, from behind its keyword. -/
def nestedType (d : Deeper) (type : Reader (TypeName × Bool)) (k : String) :
    Reader (Option (String × Bool)) := do
  let some_ (text : String) : Reader (Option (String × Bool)) := return some (text, false)
  let inner : Reader String := do return (← wholeType type).text
  match k with
  | "ARRAY" =>
    expectSign "<"
    let (found, closed) ← type
    return some (s!"ARRAY<{found.text}>", ← closeAngle closed)
  | "TABLE" => if ← peekSign "(" then some_ ("TABLE" ++ (← columnTypes d)) else some_ "TABLE"
  | _ =>
    if ← trait Dialect.nestedTypes then
      match k with
      | "STRUCT" => some <$> structureType d type
      | "UNION" =>
        let fields ← parenthesized <| commaList do
          let name ← ident
          return s!"{name.render} {← inner}"
        some_ s!"UNION({commaSeparated fields})"
      | "NULLABLE" => some_ s!"Nullable({← parenthesized inner})"
      | "LOWCARDINALITY" => some_ s!"LowCardinality({← parenthesized inner})"
      | "MAP" =>
        let (key, content) ← parenthesized do
          let key ← inner
          expectSign ","
          return (key, ← inner)
        some_ s!"Map({key}, {content})"
      | "NESTED" => some_ ("Nested" ++ (← columnTypes d))
      | "TUPLE" =>
        let fields ← parenthesized (commaList (structureField d type))
        some_ s!"Tuple({commaSeparated (fields.map Prod.fst)})"
      | _ => return none
    else return none

/-- The array brackets behind a type. -/
def arrayBrackets : Nat → Reader String
  | 0 => return ""
  | fuel + 1 => do
    if ← sign "[" then
      let n := (← attempt naturalNumber).getD ""
      expectSign "]"
      return s!"[{n}]" ++ (← arrayBrackets fuel)
    else return ""

/-- A type, and whether `>>` has closed a bracket around it along with one of its own; the fuel
bounds how deeply types are nested. -/
def typeFrom (d : Deeper) : Nat → Reader (TypeName × Bool)
  | 0 => expected "a data type name"
  | fuel + 1 => do
    let start ← get
    let (type, closed) ← match ← peekToken with
      | some (.word w) =>
        let _ ← advance
        match ← scalarType w.keyword with
        | some type => pure (type, false)
        | none =>
          match ← nestedType d (typeFrom d fuel) w.keyword with
          | some (text, closed) => pure ((⟨.builtin, text⟩ : TypeName), closed)
          | none =>
            set start
            pure (← customType, false)
      | _ => expected "a data type name"
    let brackets ←
      if ← trait Dialect.bracketArrays then arrayBrackets (← size) else pure ""
    if brackets.isEmpty then return (type, closed)
    else return (⟨.builtin, type.text ++ brackets⟩, closed)

/-- A type. -/
def typeName (d : Deeper) : Reader TypeName := do
  wholeType (typeFrom d ((← size) + 1))

/-- The text of a type. -/
def typeText (d : Deeper) : Reader String := do
  return (← typeName d).text

end Reader

end QueryLint.Sql
