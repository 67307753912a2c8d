import QueryLint.Sql.Dialect

/-!
# Reserved words

Which keywords end an expression or a source instead of naming it. A word announced by `AS` is an
alias whatever it is.
-/

namespace QueryLint.Sql

namespace Keyword

/-- Keywords that are an alias neither of a source nor of a column. -/
def reservedAlways : List String := [
  "WITH", "EXPLAIN", "ANALYZE", "SELECT", "WHERE", "GROUP", "SORT", "HAVING", "ORDER", "TOP",
  "LATERAL", "VIEW", "LIMIT", "OFFSET", "FETCH", "UNION", "EXCEPT", "INTERSECT", "MINUS", "CLUSTER",
  "DISTRIBUTE", "RETURNING"]

/-- Keywords that cannot be the alias of a column without `AS`. -/
def reservedForColumnAlias : List String :=
  reservedAlways ++ ["EXCLUDE", "FROM", "INTO", "END"]

/-- Keywords that cannot be the alias of a source without `AS`. -/
def reservedForTableAlias : List String :=
  reservedAlways ++ [
    "PIVOT", "UNPIVOT", "ON", "JOIN", "INNER", "CROSS", "FULL", "LEFT", "RIGHT", "NATURAL", "USING",
    "GLOBAL", "ANTI", "SEMI", "ASOF", "MATCH_CONDITION", "OUTER", "SET", "QUALIFY", "WINDOW", "END",
    "FOR", "PARTITION", "PREWHERE", "SETTINGS", "FORMAT", "START", "CONNECT", "MATCH_RECOGNIZE",
    "SAMPLE", "TABLESAMPLE", "FROM", "OPEN"]

/-- Keywords that open index hints or a join where tables take hints. -/
def reservedWithHints : List String := ["USE", "IGNORE", "FORCE", "STRAIGHT_JOIN"]

/-- Keywords that are never a column name where `interval` is none either. -/
def reservedForName : List String := ["EXISTS", "INTERVAL", "STRUCT", "TRIM"]

/-- Whether a keyword can be the alias of a source without `AS`. -/
def isTableAlias (d : Dialect) (keyword : String) : Bool :=
  !reservedForTableAlias.contains keyword
    && !(d.tableHints && reservedWithHints.contains keyword)

/-- Whether a keyword can be the alias of a column without `AS`. -/
def isColumnAlias (keyword : String) : Bool :=
  !reservedForColumnAlias.contains keyword

/-- Whether a keyword can be a column name when what it opens is broken. -/
def isColumnName (d : Dialect) (keyword : String) : Bool :=
  !reservedForName.contains keyword || (d.intervalNames && keyword == "INTERVAL")

end Keyword

end QueryLint.Sql
