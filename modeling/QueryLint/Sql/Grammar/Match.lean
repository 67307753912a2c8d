import QueryLint.Sql.Grammar.Table

/-!
# Matches in rows

A reader for `MATCH_RECOGNIZE`, which looks for a pattern in the rows of a source. A pattern is
built from symbols by repetition, by concatenation and by alternatives.
-/

namespace QueryLint.Sql

namespace Reader

/-! ### Patterns -/

/-- A number of 32 bits in the range of a repetition that starts at a place. -/
def rangeNumber (digits : String) (start : Place) : Reader String := do
  return toString (← wholeNumber "u32" digits (1 <<< 32) start)

/-- The range of a repetition, from behind its opening brace. -/
def repetitionRange : Reader String := do
  let start ← place
  match ← peekToken with
  | some (.sign ",") =>
    let _ ← advance
    match ← peekToken with
    | some (.number digits _) =>
      let _ ← advance
      expectSign "\x7d"
      return "," ++ (← rangeNumber digits start)
    | _ => expected "literal number"
  | some (.number lower _) =>
    let _ ← advance
    if ← sign "," then
      match ← peekToken with
      | some (.number upper _) =>
        let _ ← advance
        expectSign "\x7d"
        let first ← rangeNumber lower start
        return s!"{first},{← rangeNumber upper start}"
      | some (.sign "\x7d") =>
        let _ ← advance
        return (← rangeNumber lower start) ++ ","
      | _ => expected "\x7d or upper bound"
    else
      expectSign "\x7d"
      rangeNumber lower start
  | _ => expected "quantifier range"

/-- How often a pattern is repeated, if it is. -/
def repetition : Reader (Option String) := do
  let taken (text : String) : Reader (Option String) := do
    let _ ← advance
    return some text
  match ← peekToken with
  | some (.sign "*") => taken "*"
  | some (.sign "+") => taken "+"
  | some (.placeholder "?") => taken "?"
  | some (.sign "\x7b") =>
    let _ ← advance
    return some ("\x7b" ++ (← repetitionRange) ++ "\x7d")
  | _ => return none

/-- A pattern that is no repetition; the reader is for what stands in parentheses. -/
def basePattern (inner : Reader String) : Reader String := do
  match ← peekToken with
  | some (.sign "^") =>
    let _ ← advance
    return "^"
  | some (.placeholder "$") =>
    let _ ← advance
    return "$"
  | some (.sign "\x7b") =>
    let _ ← advance
    expectSign "-"
    let symbol ← ident
    expectSign "-"
    expectSign "\x7d"
    return "\x7b- " ++ symbol.render ++ " -\x7d"
  | some (.sign "(") =>
    let _ ← advance
    let pattern ← inner
    expectSign ")"
    return s!"( {pattern} )"
  | some (.word w) =>
    let _ ← advance
    if w.value == "PERMUTE" && w.quote.isNone then
      let symbols ← parenthesized (commaList ident)
      return s!"PERMUTE({commaSeparated (symbols.map Ident.render)})"
    else return (identOf w).render
  | _ => return (← ident).render

/-- Patterns one behind the other; the fuel bounds their number. -/
def patternRun (inner : Reader String) : Nat → Reader (List String)
  | 0 => expected ")"
  | fuel + 1 => do
    let base ← basePattern inner
    let pattern := base ++ String.join (← many repetition)
    if (← peekSign ")") || (← peekSign "|") then return [pattern]
    else return pattern :: (← patternRun inner fuel)

/-- A pattern; the fuel bounds the alternatives and the parentheses. -/
def rowPattern : Nat → Reader String
  | 0 => expected ")"
  | fuel + 1 => do
    let run ← patternRun (rowPattern fuel) ((← size) + 1)
    let pattern := String.intercalate " " run
    if ← sign "|" then return s!"{pattern} | {← rowPattern fuel}" else return pattern

/-! ### Clauses -/

/-- How many rows a match yields, with a blank behind it. -/
def rowsPerMatch : Reader String := do
  if ← keywords ["ONE", "ROW", "PER", "MATCH"] then return "ONE ROW PER MATCH "
  else if ← keywords ["ALL", "ROWS", "PER", "MATCH"] then
    let mode ← oneOfRuns [
      ["SHOW", "EMPTY", "MATCHES"], ["OMIT", "EMPTY", "MATCHES"], ["WITH", "UNMATCHED", "ROWS"]]
    return "ALL ROWS PER MATCH" ++ (mode.map (" " ++ ·)).getD "" ++ " "
  else return ""

/-- Where the search goes on behind a match, with a blank behind it. The next row is written with a
blank more. -/
def afterMatch : Reader String := do
  if ← keywords ["AFTER", "MATCH", "SKIP"] then
    let row ← do
      if ← keywords ["PAST", "LAST", "ROW"] then pure "PAST LAST ROW"
      else if ← keywords ["TO", "NEXT", "ROW"] then pure " TO NEXT ROW"
      else if ← keywords ["TO", "FIRST"] then pure s!"TO FIRST {(← ident).render}"
      else if ← keywords ["TO", "LAST"] then pure s!"TO LAST {(← ident).render}"
      else expected "after match skip option"
    return s!"AFTER MATCH SKIP {row} "
  else return ""

/-- A value of a match under its name. -/
def measure (d : Deeper) : Reader String := do
  let e ← expressionText d
  let _ ← keyword "AS"
  return s!"{e} AS {(← ident).render}"

/-- What the rows of a symbol are told by. -/
def symbolDefinition (d : Deeper) : Reader String := do
  let symbol ← ident
  expectKeyword "AS"
  return s!"{symbol.render} AS {← expressionText d}"

/-- What stands between the parentheses of a search for matches. -/
def matchContent (d : Deeper) : Reader String := do
  let parts ←
    if ← keywords ["PARTITION", "BY"] then pure s!"PARTITION BY {← expressionsText d} " else pure ""
  let order ← if ← keywords ["ORDER", "BY"] then pure s!"ORDER BY {← orderKeysText d} " else pure ""
  let measures ←
    if ← keyword "MEASURES" then
      pure s!"MEASURES {commaSeparated (← commaList (measure d))} "
    else pure ""
  let rows ← rowsPerMatch
  let after ← afterMatch
  expectKeyword "PATTERN"
  let pattern ← parenthesized do rowPattern ((← size) + 1)
  expectKeyword "DEFINE"
  let symbols ← commaList (symbolDefinition d)
  let defined := commaSeparated symbols
  return s!"{parts}{order}{measures}{rows}{after}PATTERN ({pattern}) DEFINE {defined}"

/-- A source in whose rows a pattern may be looked for. -/
def matched (d : Deeper) (source : TableFactor) : Reader TableFactor := do
  if ← keywordsWhere Dialect.extraClauses ["MATCH_RECOGNIZE"] then
    let content ← parenthesized (matchContent d)
    return .verbatim s!"{source.render} MATCH_RECOGNIZE({content})" (← tableAlias d) ""
  else return source

end Reader

end QueryLint.Sql
