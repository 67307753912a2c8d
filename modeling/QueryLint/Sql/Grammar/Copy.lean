import QueryLint.Sql.Grammar.Role
import QueryLint.Text.Quoted

/-!
# Statements that copy rows

Readers for `COPY`, `UNLOAD` and `EXPORT`, each from behind its keyword, with the options that say
how the files are written. Rows that are copied from the text of the statement itself stand behind
it.
-/

namespace QueryLint.Sql

namespace Reader

/-! ### Values of options -/

/-- A character in quotes. -/
def quotedCharacter : Reader String := do
  let start ← place
  let text ← literalString
  if text.utf8ByteSize == 1 then return s!"'{text}'"
  else broken s!"Expect a char, found {Text.inQuotes text}" start

/-- Whether a word stands for itself or is denied. -/
def switched (word : String) : Reader String := do
  match ← oneOf ["FALSE", "TRUE"] with
  | some "FALSE" => return word ++ " FALSE"
  | _ => return word

/-- Whether a word is affirmed or denied, if it is said. -/
def toggled (word : String) : Reader String := do
  match ← oneOf ["TRUE", "FALSE", "ON", "OFF"] with
  | some k => return word ++ (if k == "TRUE" || k == "ON" then " TRUE" else " FALSE")
  | none => return word

/-- A string behind a word and the given text, if one stands there. -/
def maybeQuoted (word : String) (between : String) : Reader String := do
  let _ ← keyword "AS"
  match ← peekToken with
  | some (.text .single _) => return word ++ between ++ (← quotedString)
  | _ => return word

/-- The size of a file, with its unit if it has one. -/
def fileSize : Reader String := do
  let _ ← keyword "AS"
  let size ← numberValue
  return size ++ (← optionalOneOf ["MB", "GB"])

/-- The role that files are accessed with, from behind the word for it. -/
def accessRole : Reader String := do
  if ← keyword "DEFAULT" then return "IAM_ROLE DEFAULT" else return s!"IAM_ROLE {← plainString}"

/-! ### Options in parentheses -/

/-- The words that open an option of a copy. -/
def copyWords : List String := [
  "FORMAT", "FREEZE", "DELIMITER", "NULL", "HEADER", "QUOTE", "ESCAPE", "FORCE_QUOTE",
  "FORCE_NOT_NULL", "FORCE_NULL", "ENCODING"]

/-- An option of a copy. -/
def copyOption : Reader String := do
  let k ← expectAmong copyWords "option"
  match k with
  | "FORMAT" => return s!"FORMAT {(← ident).render}"
  | "FREEZE" | "HEADER" => switched k
  | "DELIMITER" | "QUOTE" | "ESCAPE" => return s!"{k} {← quotedCharacter}"
  | "NULL" | "ENCODING" => return s!"{k} {← quotedString}"
  | _ => return k ++ listed " " (← columnList)

/-! ### Options without parentheses -/

/-- An option of the form for comma-separated values. -/
def csvOption : Reader String := do
  match ← oneOfRuns [["HEADER"], ["QUOTE"], ["ESCAPE"], ["FORCE", "NOT", "NULL"],
    ["FORCE", "QUOTE"]] with
  | some "HEADER" => return " HEADER"
  | some words =>
    if words.startsWith "FORCE" then return s!" {words} {← nameList}"
    else
      let _ ← keyword "AS"
      return s!" {words} {← quotedCharacter}"
  | none => expected "csv option"

/-- Options that are no more than their word. -/
def plainFileOptions : List String := [
  "ACCEPTANYDATE", "ADDQUOTES", "ALLOWOVERWRITE", "BINARY", "BLANKSASNULL", "BZIP2", "CLEANPATH",
  "EMPTYASNULL", "ESCAPE", "GZIP", "HEADER", "PARQUET", "REMOVEQUOTES",
  "TRUNCATECOLUMNS", "ZSTD"]

/-- Options with more than a word, by what stands behind it. -/
def furtherFileOptions : List (String × Reader String) := [
  ("ACCEPTINVCHARS", maybeQuoted "ACCEPTINVCHARS" " "),
  ("COMPUPDATE", do
    let preset ← optionalWord "PRESET"
    let told ← toggled "COMPUPDATE"
    return if preset.isEmpty then told else "COMPUPDATE PRESET"),
  ("CREDENTIALS", do return s!"CREDENTIALS {← quotedString}"),
  ("CSV", do return "CSV" ++ String.join (← many (attempt csvOption))),
  ("DATEFORMAT", maybeQuoted "DATEFORMAT" " "),
  ("DELIMITER", do
    let _ ← keyword "AS"
    return s!"DELIMITER {← quotedCharacter}"),
  ("ENCRYPTED", do return "ENCRYPTED" ++ (← optionalWord "AUTO")),
  ("EXTENSION", do return s!"EXTENSION {← quotedString}"),
  ("FIXEDWIDTH", do return s!"FIXEDWIDTH {← quotedString}"),
  ("IAM_ROLE", accessRole),
  ("IGNOREHEADER", do
    let _ ← keyword "AS"
    return s!"IGNOREHEADER {← naturalNumber}"),
  ("JSON", maybeQuoted "JSON" " AS "),
  ("MANIFEST", do return "MANIFEST" ++ (← optionalWord "VERBOSE")),
  ("MAXFILESIZE", do return s!"MAXFILESIZE {← fileSize}"),
  ("NULL", do
    let _ ← keyword "AS"
    return s!"NULL {← quotedString}"),
  ("PARALLEL", toggled "PARALLEL"),
  ("PARTITION", do
    expectKeyword "BY"
    let columns ← columnList
    return "PARTITION BY " ++ listed "" columns ++ (← optionalWord "INCLUDE")),
  ("REGION", do
    let _ ← keyword "AS"
    return s!"REGION {← quotedString}"),
  ("ROWGROUPSIZE", do return s!"ROWGROUPSIZE {← fileSize}"),
  ("STATUPDATE", toggled "STATUPDATE"),
  ("TIMEFORMAT", maybeQuoted "TIMEFORMAT" " ")]

/-- An option of the files that rows are read from or written to. -/
def fileOption : Reader String := do
  if ← keyword "FORMAT" then
    let _ ← keyword "AS"
  match ← oneOf (plainFileOptions ++ furtherFileOptions.map Prod.fst) with
  | some k =>
    match furtherFileOptions.lookup k with
    | some content => return " " ++ (← content)
    | none => return " " ++ k
  | none => expected "option"

/-- The options of the files that rows are read from or written to, each with a blank before it. -/
def fileOptions : Reader String := do
  return String.join (← many (attempt fileOption))

/-! ### Rows behind a statement -/

/-- The values that are found in rows, and the beginning of the next one. -/
structure RowValues where
  values : List String
  current : String
  deriving Inhabited

namespace RowValues

/-- The values when a blank follows: a tab or a line break ends a value, and other blanks belong to
it. -/
def afterBlank (r : RowValues) (b : Blank) : RowValues :=
  if b.text == "\t" || b.text == "\n" then ⟨r.values ++ [r.current], ""⟩
  else ⟨r.values, r.current ++ b.text⟩

/-- The values when a token follows, with the blanks behind it. -/
def afterToken (r : RowValues) (l : Lexeme) : RowValues :=
  l.blanks.foldl afterBlank ⟨r.values, r.current ++ l.token.spelled⟩

/-- The values when a backslash and a token follow, with the blanks behind them. The name `N` stands
for a value that is missing. -/
def afterEscape (r : RowValues) (l : Lexeme) : RowValues :=
  let missing := match l.token with
    | .word w => w.value == "N"
    | _ => false
  l.blanks.foldl afterBlank (if missing then ⟨r.values ++ ["\\N"], r.current⟩ else r)

/-- The values of rows up to a backslash and a period, and what stands behind those. A value that
nothing ends is none. -/
def readFrom (r : RowValues) : List Lexeme → List String × List Lexeme
  | [] => (r.values, [])
  | l :: rest =>
    if l.token == .sign "\\" then
      match rest with
      | [] => (r.values, [])
      | escaped :: rest' =>
        if escaped.token == .sign "." then (r.values, rest')
        else readFrom (r.afterEscape escaped) rest'
    else readFrom (r.afterToken l) rest

end RowValues

/-- The rows behind a statement, from its semicolon on. -/
def rowsBehind : Reader String := do
  let blanks := ((← peek).map Lexeme.blanks).getD []
  expectSign ";"
  let (values, rest) := (blanks.foldl RowValues.afterBlank ⟨[], ""⟩).readFrom (← left)
  setLeft rest
  return if values.isEmpty then "" else ";\n" ++ String.intercalate "\t" values ++ "\n\\."

/-! ### Statements -/

/-- What is copied: a query or a table, and whether it is a query. -/
def copySource (d : Deeper) : Reader (String × Bool) := do
  if ← peekSign "(" then return (s!"({(← parenthesized d.query).render})", true)
  else
    let name ← objectName
    return (name.render ++ listed " " (← optionalListOf ident false), false)

/-- Where a copy comes from or goes to. -/
def copyTarget : Reader String := do
  match ← oneOf ["STDIN", "STDOUT", "PROGRAM"] with
  | some "PROGRAM" => return s!"PROGRAM {← quotedString}"
  | some k => return k
  | none => quotedString

/-- Rows that are copied, from behind `COPY`. -/
def copying (d : Deeper) : Reader String := do
  let (source, isQuery) ← copySource d
  let k ← expectAmong ["FROM", "TO"] "FROM or TO"
  if k == "FROM" && isQuery then
    broken "COPY ... FROM does not support query as a source" Place.none
  else
    let target ← copyTarget
    let _ ← keyword "WITH"
    let options ←
      if ← peekSign "(" then
        pure s!" ({commaSeparated (← parenthesized (commaList copyOption))})"
      else pure ""
    let files ← fileOptions
    let rows ← if target == "STDIN" then rowsBehind else pure ""
    return s!"COPY {source} {k} {target}{options}{files}{rows}"

/-- Rows that are written out, from behind `UNLOAD`. -/
def unloading (d : Deeper) : Reader String := do
  let content ← parenthesized do
    match ← peekToken with
    | some (.text .single _) => plainString
    | _ => return (← d.query).render
  expectKeyword "TO"
  let target ← ident
  let role ← if ← keyword "IAM_ROLE" then pure (" " ++ (← accessRole)) else pure ""
  let options ← keyedClause d ["WITH"] " WITH "
  return s!"UNLOAD({content}) TO {target.render}{role}{options}" ++ (← fileOptions)

/-- Rows that are written out, from behind `EXPORT`. -/
def exporting (d : Deeper) : Reader String := do
  expectKeyword "DATA"
  let connection ← clause ["WITH", "CONNECTION"] do return (← objectName).render
  expectKeyword "OPTIONS"
  let options ← parenthesized (commaList (keyedOption d))
  expectKeyword "AS"
  return s!"EXPORT DATA{connection} OPTIONS({commaSeparated options}) AS {(← d.query).render}"

end Reader

end QueryLint.Sql
