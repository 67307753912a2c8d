import QueryLint.Sql.Grammar.Type

/-!
# Expressions inside and intervals

What forms and clauses take from the expressions inside them, and readers for the parts of dates and
times and for intervals.
-/

namespace QueryLint.Sql

namespace Reader

/-! ### Expressions inside -/

/-- An expression, one level deeper. -/
def expression (d : Deeper) : Reader Expr :=
  d.expr 0

/-- The text of an expression, one level deeper. -/
def expressionText (d : Deeper) : Reader String := do
  return (← expression d).render

/-- An expression with the collation behind it. -/
def collated (e : Expr) : Reader Expr := do
  if ← inContext .columnDefinition then return e
  else if ← keyword "COLLATE" then return .collate e (← objectName)
  else return e

/-! ### Dates and times -/

/-- The parts of a date or time that have a name of their own. -/
def dateFields : List String := [
  "YEAR", "YEARS", "MONTH", "MONTHS", "WEEK", "WEEKS", "DAY", "DAYOFWEEK", "DAYOFYEAR", "DAYS",
  "DATE", "DATETIME", "HOUR", "HOURS", "MINUTE", "MINUTES", "SECOND", "SECONDS", "CENTURY",
  "DECADE", "DOY", "DOW", "EPOCH", "ISODOW", "ISOYEAR", "ISOWEEK", "JULIAN", "MICROSECOND",
  "MICROSECONDS", "MILLENIUM", "MILLENNIUM", "MILLISECOND", "MILLISECONDS", "NANOSECOND",
  "NANOSECONDS", "QUARTER", "TIME", "TIMEZONE", "TIMEZONE_ABBR", "TIMEZONE_HOUR",
  "TIMEZONE_MINUTE", "TIMEZONE_REGION"]

/-- The units that an interval can be measured in. -/
def intervalUnits : List String := [
  "YEAR", "YEARS", "MONTH", "MONTHS", "WEEK", "WEEKS", "DAY", "DAYS", "HOUR", "HOURS", "MINUTE",
  "MINUTES", "SECOND", "SECONDS", "CENTURY", "DECADE", "DOW", "DOY", "EPOCH", "ISODOW", "ISOYEAR",
  "JULIAN", "MICROSECOND", "MICROSECONDS", "MILLENIUM", "MILLENNIUM", "MILLISECOND",
  "MILLISECONDS", "NANOSECOND", "NANOSECONDS", "QUARTER", "TIMEZONE", "TIMEZONE_HOUR",
  "TIMEZONE_MINUTE"]

/-- A part of a date or time. -/
def dateField : Reader String := do
  match ← peekToken with
  | some (.word w) =>
    if w.keyword == "WEEK" then
      let _ ← advance
      let told ← do
        if ← trait Dialect.weekDays then sign "(" else pure false
      if told then
        let day ← ident
        expectSign ")"
        return s!"WEEK({day.render})"
      else return "WEEK"
    else if dateFields.contains w.keyword then
      let _ ← advance
      return w.keyword
    else if ← trait Dialect.customDateFields then
      let _ ← advance
      return (identOf w).render
    else expected "date/time field"
  | some (.text .single content) =>
    if ← trait Dialect.customDateFields then
      let _ ← advance
      return (Ident.mk content (some '\'')).render
    else expected "date/time field"
  | _ => expected "date/time field"

/-- A precision with a blank before it, if there is one. -/
def spacedPrecision : Reader String := do
  let p ← optionalPrecision
  return if p.isEmpty then "" else " " ++ p

/-- The precision of a leading `SECOND`, with that of its fraction. -/
def secondPrecision : Reader String := do
  if ← sign "(" then
    let n ← naturalNumber
    if ← sign "," then
      let m ← naturalNumber
      expectSign ")"
      return s!" ({n}, {m})"
    else
      expectSign ")"
      return s!" ({n})"
  else return ""

/-- An interval. Its value is a whole expression where the unit is required, and else what the given
reader takes. -/
def intervalText (d : Deeper) (operand : Reader Expr) : Reader String := do
  let needsUnit ← trait Dialect.intervalNeedsUnit
  let amount ← if needsUnit then expression d else operand
  let unit ←
    if intervalUnits.contains (← peekKeyword) then dateField
    else if needsUnit then
      throw (.broken "INTERVAL requires a unit after the literal value" (← place))
    else pure ""
  let spacedUnit := if unit.isEmpty then "" else " " ++ unit
  let rest ←
    if unit == "SECOND" then secondPrecision
    else
      let leading ← spacedPrecision
      if ← keyword "TO" then
        let last ← dateField
        let fraction ← if last == "SECOND" then spacedPrecision else pure ""
        pure s!"{leading} TO {last}{fraction}"
      else pure leading
  return s!"INTERVAL {amount.render}{spacedUnit}{rest}"

/-- An interval as an expression. -/
def intervalForm (d : Deeper) (operand : Reader Expr) : Reader Expr := do
  return .verbatim (← intervalText d operand)

end Reader

end QueryLint.Sql
