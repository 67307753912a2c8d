import QueryLint.OrderedMap
import QueryLint.Text.Search

/-!
# Signals

What one walk over the outline of a query found: which kinds of operators and joins occur, which
columns are compared together, and which tables are read under which aliases.
-/

namespace QueryLint

/-- What a walk over a query found. -/
structure Signals where
  /-- A join names columns or a condition. -/
  hasUsingOrOn : Bool
  hasBitOperation : Bool
  hasFuzzyMatching : Bool
  /-- Several columns are compared together. -/
  hasAnd : Bool
  hasOr : Bool
  hasIn : Bool
  /-- The columns of each chain of `AND`, in the order of the walk. -/
  columnGroups : List (List String)
  /-- The tables that are read, in the order of the walk. -/
  tables : List String
  /-- The table behind each alias. -/
  aliases : OrderedMap String
  /-- Some part was too deep to be walked. -/
  truncated : Bool
  deriving DecidableEq, Repr, Inhabited

namespace Signals

/-- Nothing was found. -/
def none : Signals where
  hasUsingOrOn := false
  hasBitOperation := false
  hasFuzzyMatching := false
  hasAnd := false
  hasOr := false
  hasIn := false
  columnGroups := []
  tables := []
  aliases := .empty
  truncated := false

/-- The table that a qualifier means: the one behind an alias, or the first table of that name in
whatever letter case. -/
def resolveTable (s : Signals) (qualifier : String) : Option String :=
  match s.aliases.find? qualifier with
  | some table => some table
  | Option.none => s.tables.find? (fun t => Text.sameLetters t qualifier)

end Signals

end QueryLint
