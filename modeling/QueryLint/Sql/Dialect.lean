import QueryLint.Text.Blank
import QueryLint.Text.Search

/-!
# SQL dialects

The four dialects statements can be written in, and the lexical and grammatical traits in which
they differ. Every other module asks a dialect for a trait; none of them lists dialects itself.
-/

namespace QueryLint.Sql

/-- A dialect of SQL. -/
inductive Dialect where
  /-- Accepts the union of what common systems accept. -/
  | generic
  | mysql
  | postgresql
  | sqlite
  deriving DecidableEq, Repr, Inhabited

namespace Dialect

/-- The configuration name of a dialect. -/
def name : Dialect → String
  | generic => "generic"
  | mysql => "mysql"
  | postgresql => "postgresql"
  | sqlite => "sqlite"

/-- All dialects. -/
def all : List Dialect := [generic, mysql, postgresql, sqlite]

/-- The dialect of which a text is the configuration name. -/
def ofExactName? (text : String) : Option Dialect :=
  all.find? fun d => d.name == text

/-- The dialect of a name, in whatever letter case and with blanks around it. -/
def ofName? (text : String) : Option Dialect :=
  match Text.asciiLower (Text.trim text) with
  | "generic" => some generic
  | "mysql" => some mysql
  | "postgresql" => some postgresql
  | "postgres" => some postgresql
  | "sqlite" => some sqlite
  | _ => none

/-! ### Lexical traits -/

/-- Characters that open a quoted identifier. -/
def opensQuotedName (d : Dialect) (c : Char) : Bool :=
  match d with
  | generic => c == '\x22' || c == '\x60'
  | mysql => c == '\x60'
  | postgresql => c == '\x22'
  | sqlite => c == '\x22' || c == '\x60' || c == '['

/-- `''` inside a string is the only escape, or a backslash escapes too. -/
def backslashEscapes (d : Dialect) : Bool :=
  d == mysql

/-- A number followed by letters is a name. -/
def numericNames (d : Dialect) : Bool :=
  d == mysql

/-- Digits may be grouped by single underscores. -/
def numericUnderscores (d : Dialect) : Bool :=
  d == postgresql

/-- `$name` is a placeholder and dollar-quoted strings do not exist. -/
def dollarPlaceholders (d : Dialect) : Bool :=
  d == sqlite

/-- `E'…'` is a string with backslash escapes. -/
def escapeStrings (d : Dialect) : Bool :=
  d == generic || d == postgresql

/-- `U&'…'` is a string with code point escapes. -/
def unicodeStrings (d : Dialect) : Bool :=
  d == generic || d == postgresql

/-- `B'…'` is a byte string. -/
def byteStrings (d : Dialect) : Bool :=
  d == generic || d == mysql || d == postgresql

/-- `R'…'` is a string without escapes. -/
def rawStrings (d : Dialect) : Bool :=
  d == generic

/-- `/* /* */ */` is one comment. -/
def nestedComments (d : Dialect) : Bool :=
  d == generic || d == postgresql

/-- `--` opens a comment only before a blank. -/
def dashCommentNeedsBlank (d : Dialect) : Bool :=
  d == mysql

/-- `#` opens a line comment. -/
def hashComments (d : Dialect) : Bool :=
  d == mysql

/-- Operators can be made of any run of operator characters, and `?` is one of them. -/
def customOperators (d : Dialect) : Bool :=
  d == postgresql

/-- Operators on points, lines and boxes exist. -/
def geometricOperators (d : Dialect) : Bool :=
  d == postgresql

/-- `|>` hands the rows of a query to an operator. -/
def pipeOperators (d : Dialect) : Bool :=
  d == generic

/-- A backslash stays before a wildcard of a pattern. -/
def keepsWildcardEscapes (d : Dialect) : Bool :=
  d == mysql

/-- Characters that may stand in a custom operator. -/
def isOperatorPart (d : Dialect) (c : Char) : Bool :=
  d.customOperators && "+-*/<>=~!@#%^&|\x60?".toList.contains c

/-! ### Grammatical traits -/

/-- `IN ()` is allowed. -/
def emptyInList (d : Dialect) : Bool :=
  d == sqlite

/-- `LIMIT offset, count` is allowed. -/
def limitComma (d : Dialect) : Bool :=
  d != postgresql

/-- `x NOTNULL` is a null test. -/
def notNullWord (d : Dialect) : Bool :=
  d == postgresql || d == sqlite

/-- `MATCH` and `REGEXP` are operators that take the whole rest as right operand. -/
def matchOperators (d : Dialect) : Bool :=
  d == sqlite

/-- `DIV` is an operator that takes the whole rest as right operand. -/
def divOperator (d : Dialect) : Bool :=
  d == mysql

/-- `<<` and `>>` are operators. -/
def shiftOperators (d : Dialect) : Bool :=
  d == generic || d == postgresql

/-- A query may open with `FROM`. -/
def fromFirst (d : Dialect) : Bool :=
  d == generic

/-- `SELECT FROM t`, without a projection, is allowed. -/
def emptyProjection (d : Dialect) : Bool :=
  d == generic || d == postgresql

/-- A projection may end in a comma. -/
def projectionTrailingComma (d : Dialect) : Bool :=
  d == generic

/-- `*` may be followed by `EXCEPT`, `EXCLUDE`, `REPLACE` or `RENAME`. -/
def wildcardOptions (d : Dialect) : Bool :=
  d == generic

/-- A call may carry `FILTER (WHERE …)`. -/
def filteredAggregates (d : Dialect) : Bool :=
  d != mysql

/-- The name of a named argument may be any expression. -/
def namedArgumentExpressions (d : Dialect) : Bool :=
  d == postgresql

/-- `name : value` is a named argument. -/
def colonArguments (d : Dialect) : Bool :=
  d == postgresql

/-- `interval` may be the name of a column. -/
def intervalNames (d : Dialect) : Bool :=
  d == postgresql

/-- `name := value` is a named argument. -/
def assignmentArguments (d : Dialect) : Bool :=
  d == generic

/-- `MATCH (…) AGAINST (…)` is an expression. -/
def matchAgainst (d : Dialect) : Bool :=
  d == generic || d == mysql

/-- `UNNEST (…)` is a source of its own kind. -/
def unnestSources (d : Dialect) : Bool :=
  d == generic || d == postgresql

/-- A single table may stand in parentheses. -/
def parenthesizedTable (d : Dialect) : Bool :=
  d == generic

/-- A row of values may be empty. -/
def emptyRows (d : Dialect) : Bool :=
  d == mysql

/-- `FROM VALUES (…)` is allowed. -/
def valuesSource (d : Dialect) : Bool :=
  d == generic

/-- `CROSS JOIN` may carry `ON` or `USING`. -/
def crossJoinConstraint (d : Dialect) : Bool :=
  d == mysql

/-- `STRAIGHT_JOIN` and index hints end a table alias. -/
def tableHints (d : Dialect) : Bool :=
  d == mysql

/-- `t PARTITION (p)` is allowed. -/
def partitionedTables (d : Dialect) : Bool :=
  d == generic || d == mysql

/-- `INTERVAL` takes an expression and must name its unit. -/
def intervalNeedsUnit (d : Dialect) : Bool :=
  d == mysql

/-- `EXTRACT` takes any name as a field. -/
def customDateFields (d : Dialect) : Bool :=
  d == generic || d == postgresql

/-- A week may be told by the day that it starts with. -/
def weekDays (d : Dialect) : Bool :=
  d == generic

/-- `EXTRACT (field, x)` is allowed. -/
def extractComma (d : Dialect) : Bool :=
  d == generic

/-- `TRIM (x, characters)` is allowed. -/
def trimComma (d : Dialect) : Bool :=
  d == generic

/-- `CURRENT_USER` and its kin are calls without parentheses. -/
def userFunctions (d : Dialect) : Bool :=
  d == generic || d == postgresql

/-- `x !` is a factorial. -/
def factorial (d : Dialect) : Bool :=
  d == postgresql

/-- `^` is exponentiation and not an exclusive or. -/
def caretIsPower (d : Dialect) : Bool :=
  d == postgresql

/-- `OPERATOR(schema.op)` is an operator. -/
def namedOperators (d : Dialect) : Bool :=
  d == generic || d == postgresql

/-- `REPLACE INTO` is a statement of its own, not a form of `INSERT OR REPLACE`. -/
def replaceStatement (d : Dialect) : Bool :=
  d == generic || d == mysql

/-- `REPLACE INTO` abbreviates `INSERT OR REPLACE INTO`. -/
def replaceIsInsert (d : Dialect) : Bool :=
  d == sqlite

/-- `DELETE t` may leave out `FROM`. -/
def deleteWithoutFrom (d : Dialect) : Bool :=
  d == generic

/-- `GROUP BY` takes `ROLLUP`, `CUBE` and `GROUPING SETS`. -/
def groupingForms (d : Dialect) : Bool :=
  d == generic || d == postgresql

/-- `GROUP BY … WITH ROLLUP` is allowed. -/
def groupByModifiers (d : Dialect) : Bool :=
  d == generic

/-- A common table expression may say whether it is materialized. -/
def materializedHints (d : Dialect) : Bool :=
  d == postgresql

/-- Neighbouring string literals are one literal. -/
def joinsStringLiterals (d : Dialect) : Bool :=
  d == mysql

/-- `INTERVAL YEAR TO MONTH` and the like are types. -/
def intervalOptions (d : Dialect) : Bool :=
  d == generic || d == postgresql

/-- `type[]` is an array type. -/
def bracketArrays (d : Dialect) : Bool :=
  d == generic || d == postgresql

/-- `f(…)(…)` is a call with parameters, and arguments may carry `HAVING`. -/
def parametricCalls (d : Dialect) : Bool :=
  d == generic

/-- `WHERE` may have a `PREWHERE` before it, `LIMIT` a `BY` behind it, a query `SETTINGS` and a
`FORMAT`, and `CONNECT BY` exists. -/
def extraClauses (d : Dialect) : Bool :=
  d == generic

/-- A type of whole numbers may be followed by `SIGNED`. -/
def signedTypes (d : Dialect) : Bool :=
  d == generic || d == mysql

/-- `TSVECTOR` and `TSQUERY` are types. -/
def searchTypes (d : Dialect) : Bool :=
  d == generic || d == postgresql

/-- `STRUCT<…>`, `MAP(…)`, `TUPLE(…)` and their kin are types. -/
def nestedTypes (d : Dialect) : Bool :=
  d == generic

/-- A column of a new table needs no type. -/
def untypedColumns (d : Dialect) : Bool :=
  d == sqlite

/-- `{k: v}` is a dictionary, `MAP {k: v}` a map, and `TRY_CONVERT` a conversion. -/
def dictionaries (d : Dialect) : Bool :=
  d == generic

/-- `STRUCT(…)` is a value. -/
def structures (d : Dialect) : Bool :=
  d == generic

/-- Arguments may end in `SEPARATOR`. -/
def separatorClause (d : Dialect) : Bool :=
  d == generic || d == mysql

/-- A call's arguments may end in `IGNORE NULLS`. -/
def nullTreatmentArgument (d : Dialect) : Bool :=
  d == generic

/-- The table of an `INSERT` may have an alias. -/
def insertAlias (d : Dialect) : Bool :=
  d == postgresql

/-- A column may count by `AUTO_INCREMENT`, follow changes by `ON UPDATE`, and be placed by
`SRID`. -/
def autoIncrement (d : Dialect) : Bool :=
  d == generic || d == mysql

/-- A column may count by `AUTOINCREMENT`, have a direction, and say what is done `ON CONFLICT`. -/
def orderedColumns (d : Dialect) : Bool :=
  d == generic || d == sqlite

/-- `AS (…)` computes a column. -/
def computedColumns (d : Dialect) : Bool :=
  d != postgresql

/-- The values of a computed column must be `STORED`. -/
def storedComputations (d : Dialect) : Bool :=
  d == postgresql

/-- Options of a table may be `HEAP`, `CLUSTERED` and `PARTITION`. -/
def clusteredTables (d : Dialect) : Bool :=
  d == generic

/-- `KEY`, `INDEX`, `FULLTEXT` and `SPATIAL` are constraints of a table. -/
def keyConstraints (d : Dialect) : Bool :=
  d == generic || d == mysql

/-- An index may have parameters in `WITH (…)`. -/
def indexParameters (d : Dialect) : Bool :=
  d == generic || d == postgresql

/-- The rows of a new table may come from a `SELECT` without `AS` before it. -/
def bareTableContent (d : Dialect) : Bool :=
  d == generic || d == mysql

/-- A user may be named with a host. -/
def userHosts (d : Dialect) : Bool :=
  d == generic || d == mysql

/-- A role has properties. -/
def roleProperties (d : Dialect) : Bool :=
  d == postgresql

/-- `BEGIN` and `END` may say how the transaction runs. -/
def transactionModifiers (d : Dialect) : Bool :=
  d == generic || d == sqlite

/-- `SET` may set several options at once. -/
def listedAssignments (d : Dialect) : Bool :=
  d == generic || d == mysql

/-- `SET` may set several options in parentheses at once. -/
def parenthesizedAssignments (d : Dialect) : Bool :=
  d == generic

/-- `EXPLAIN` may have options in parentheses. -/
def explanationOptions (d : Dialect) : Bool :=
  d == generic || d == postgresql

/-- `TRUNCATE` may say what becomes of sequences and of rows that refer to the table. -/
def truncationOptions (d : Dialect) : Bool :=
  d == generic || d == postgresql

/-- `DETACH`, `INSTALL` and `OPTIMIZE` are statements. -/
def extensionStatements (d : Dialect) : Bool :=
  d == generic

/-- `LOAD` takes the name of an extension. -/
def loadedExtensions (d : Dialect) : Bool :=
  d == generic || d == postgresql

/-- `LISTEN`, `UNLISTEN` and `NOTIFY` are statements. -/
def channels (d : Dialect) : Bool :=
  d == postgresql

/-- `LOCK TABLES` and `UNLOCK TABLES` are statements. -/
def tableLocks (d : Dialect) : Bool :=
  d == mysql

/-- `COMMENT ON` is a statement. -/
def remarkStatements (d : Dialect) : Bool :=
  d == generic || d == postgresql

/-- `INSERT … SET` gives the values by column. -/
def insertSet (d : Dialect) : Bool :=
  d == mysql

/-- A merge may insert a `ROW` as it is. -/
def insertWholeRow (d : Dialect) : Bool :=
  d == generic

/-- `SET NAMES` chooses a character set. -/
def namedCharacterSets (d : Dialect) : Bool :=
  d != sqlite

end Dialect

end QueryLint.Sql
