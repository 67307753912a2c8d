import QueryLint.Checker
import QueryLint.Distinct

/-!
# Built-in checkers

One checker proposes composite indexes for columns that are compared together. The others each
follow one flag of the signals.
-/

namespace QueryLint

namespace Checker

/-! ### Composite indexes -/

/-- The qualifier and the bare name of a qualified column. -/
def splitColumn (column : String) : Option (String × String) :=
  (Text.splitLast '.' column.toList).map fun (before, behind) =>
    (String.ofList before, String.ofList behind)

/-- A column without its qualifier. -/
def bareColumn (column : String) : String :=
  match splitColumn column with
  | some (_, bare) => bare
  | none => column

/-- The table that the qualifier of a column means. -/
def qualifiedTable (s : Signals) (column : String) : Option String := do
  let (qualifier, _) ← splitColumn column
  s.resolveTable qualifier

/-- The tables that a group of columns belongs to. If no qualifier means one, these are all tables
of the query. -/
def owningTables (s : Signals) (columns : List String) : List String :=
  match Distinct.ofList (columns.filterMap (qualifiedTable s)) with
  | [] => s.tables
  | tables => tables

/-- The finding for a group of columns that are compared together. -/
def compositeFinding (s : Signals) (columns : List String) : Finding :=
  let tables := owningTables s columns
  let target := tables.head?.getD "<table>"
  let bare := String.intercalate ", " (columns.map bareColumn)
  let listed := String.intercalate ", " columns
  { checker := "composite_index"
    tables
    desc := s!"{columns.length} columns are filtered together by AND: {listed}"
    detail := "A single-column index serves only one of the conditions; "
      ++ "the rest are checked row by row"
    advice := s!"Consider CREATE INDEX ON {target}({bare}) ordered by selectivity"
    level := .warning }

/-- Columns that are compared together are candidates for a composite index. -/
def compositeIndex : Checker where
  name := "composite_index"
  severity := .warning
  check := fun _ s => s.columnGroups.map (compositeFinding s)

/-! ### Flags -/

/-- Pattern matches. -/
def fuzzyMatch : Checker :=
  ofFlag "fuzzy_match" .warning Signals.hasFuzzyMatching
    "Statement uses a LIKE pattern match"
    "A pattern with a leading wildcard cannot use an index and forces a full scan"
    "Anchor the pattern with a literal prefix or use a full-text index"

/-- Operators on bits. -/
def bitOperation : Checker :=
  ofFlag "bit_operation" .info Signals.hasBitOperation
    "Statement uses a bitwise operator"
    "Conditions on bit masks are evaluated row by row"
    "Store frequently tested flags in their own indexed columns"

/-- Alternatives. -/
def orCondition : Checker :=
  ofFlag "or_condition" .info Signals.hasOr
    "Statement combines conditions with OR"
    "Unless every OR branch is covered by an index the planner falls back to a scan"
    "Rewrite as UNION ALL of indexed lookups or index each branch"

/-- Membership tests. -/
def inCondition : Checker :=
  ofFlag "in_condition" .info Signals.hasIn
    "Statement uses an IN membership test"
    "A long IN list or an uncorrelated sub-select is probed once per row"
    "Keep IN lists short and make sure the tested column is indexed"

/-- Joins by columns or by a condition. -/
def joinQualifier : Checker :=
  ofFlag "join_qualifier" .info Signals.hasUsingOrOn
    "Statement joins tables with USING or ON"
    "Without an index on the join columns each outer row scans the inner table"
    "Index the join columns of the inner table"

/-- All built-in checkers, in the order in which they run. -/
def builtIn : List Checker :=
  [compositeIndex, fuzzyMatch, bitOperation, orCondition, inCondition, joinQualifier]

end Checker

end QueryLint
