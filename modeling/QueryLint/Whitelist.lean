import QueryLint.Distinct
import QueryLint.Error
import QueryLint.OrderedMap
import QueryLint.Text.Blank

/-!
# Whitelists

For some tables the checkers that are suppressed there. A table without checkers suppresses all of
them. A whitelist is given as entries of the form `table=checker,checker`; entries for one table add
up.
-/

namespace QueryLint

/-- The checkers that are suppressed for some tables. -/
abbrev Whitelist := OrderedMap (List String)

namespace Whitelist

/-- The name that stands for all checkers. -/
def allCheckers : String := "*"

/-- The whitelist of some tables, in which no checker is named twice. -/
def ofTables (tables : List (String × List String)) : Whitelist :=
  .ofList (tables.map fun (table, names) => (table, Distinct.ofList names))

/-- A name without the blanks at its ends. -/
def trimmed (text : List Char) : String :=
  String.ofList (Text.trimBlanks text)

/-- The checkers that an entry names, in lower case. -/
def checkersIn (text : List Char) : List String :=
  (((Text.splitAll ',' text).map trimmed).filter fun name => !name.isEmpty).map Text.asciiLower

/-- The table and the checkers of an entry. -/
def parseEntry (entry : String) : Except Error (String × List String) :=
  match Text.splitFirst ['='] entry.toList with
  | none => .error (.malformedEntry entry)
  | some (before, behind) =>
    let table := trimmed before
    if table.isEmpty then .error (.entryWithoutTable entry) else .ok (table, checkersIn behind)

/-- The whitelist with more checkers for a table. -/
def add (w : Whitelist) (table : String) (checkers : List String) : Whitelist :=
  w.alter table fun names => checkers.foldl Distinct.insert (names.getD [])

/-- The whitelist with one more entry. -/
def addEntry (w : Whitelist) (entry : String) : Except Error Whitelist := do
  let (table, checkers) ← parseEntry entry
  return w.add table checkers

/-- The whitelist of some entries. -/
def parse (entries : List String) : Except Error Whitelist :=
  entries.foldlM addEntry .empty

/-- All checkers that a whitelist names. -/
def names (w : Whitelist) : List String :=
  w.entries.flatMap Prod.snd

end Whitelist

end QueryLint
