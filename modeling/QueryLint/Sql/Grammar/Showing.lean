import QueryLint.Sql.Grammar.Column

/-!
# Statements that show

A reader for `SHOW`: lists of objects with their filters, definitions, and options of the session.
-/

namespace QueryLint.Sql

namespace Reader

/-! ### Filters -/

/-- Which of the listed things are shown. -/
def showFilter (d : Deeper) : Reader String := do
  match ← oneOf ["LIKE", "ILIKE", "WHERE"] with
  | some "LIKE" => return s!" LIKE {← quotedString}"
  | some "ILIKE" =>
    let text ← literalString
    return " ILIKE " ++ String.ofList (escapeQuotes '\'' '\x00' text.toList)
  | some _ => return s!" WHERE {← expressionText d}"
  | none => return ((← attempt quotedString).map (" " ++ ·)).getD ""

/-- Whether a word for a place ends the place. -/
def endsPlace : Reader Bool := do
  if ← peekKeywords ["STARTS", "WITH"] then return true
  else return (← peekKeyword) == "LIMIT"

/-- In which place the listed things are. Of two places the second one holds the first. -/
def showPlace : Reader String := do
  match ← oneOf ["FROM", "IN"] with
  | none => return ""
  | some word =>
    match ← oneOf ["ACCOUNT", "DATABASE", "SCHEMA", "TABLE", "VIEW"] with
    | some kind =>
      let bare ← if kind == "DATABASE" || kind == "SCHEMA" then endsPlace else pure false
      let name ← if bare then pure none else attempt objectName
      return s!" {word} {kind}" ++ (name.map fun n => " " ++ n.render).getD ""
    | none =>
      let name ← objectName
      match ← oneOf ["FROM", "IN"] with
      | some _ =>
        let outer ← ident
        return s!" {word} {outer.render}.{name.render}"
      | none => return s!" {word} {name.render}"

/-- Where the listed things are and which of them are shown. -/
def showOptions (d : Deeper) : Reader String := do
  let place ← showPlace
  let filter ← showFilter d
  let starts ← clause ["STARTS", "WITH"] valueText
  let limit ← limitClause d
  let after ← clause ["FROM"] valueText
  return place ++ starts ++ limit ++ after ++ filter

/-! ### What is shown -/

/-- The words in front of what is shown. -/
structure ShowWords where
  terse : String
  extended : String
  full : String
  session : String
  everywhere : String
  external : String
  deriving Inhabited

/-- The words in front of what is shown, each with a blank before it. -/
def showWords : Reader ShowWords := do
  let terse ← optionalWord "TERSE"
  let extended ← optionalWord "EXTENDED"
  let full ← optionalWord "FULL"
  let session ← optionalWord "SESSION"
  let global ← optionalWord "GLOBAL"
  return ⟨terse, extended, full, session, global, ← optionalWord "EXTERNAL"⟩

/-- Options of the server or counts of what it did, told by the word for them. -/
def shownVariables (d : Deeper) (w : ShowWords) (kind : String) : Reader String := do
  return s!"SHOW{w.everywhere}{w.session} {kind}{← showFilter d}"

/-- The option of the session whose name is all words to the end. -/
def shownVariable : Reader String := do
  return "SHOW" ++ String.join ((← wordsToEnd).map (" " ++ ·))

/-- Kinds of objects that are listed, or an option of the session. -/
def shownList (d : Deeper) (w : ShowWords) : Reader String := do
  match ← oneOfRuns [["DATABASES"], ["SCHEMAS"], ["CHARACTER", "SET"], ["CHARSET"]] with
  | some words =>
    if words == "DATABASES" || words == "SCHEMAS" then
      let history ← optionalWord "HISTORY"
      return s!"SHOW{w.terse} {words}{history}{← showOptions d}"
    else return s!"SHOW {words}{← showFilter d}"
  | none => shownVariable

/-- Things that are shown in one form only. Where a server has no options and no counts, the words
for them are passed over. -/
def shownOther (d : Deeper) (w : ShowWords) : Reader String := do
  match ← oneOf ["CREATE", "COLLATION"] with
  | some "CREATE" =>
    let kind ← expectOneOf ["TABLE", "TRIGGER", "FUNCTION", "PROCEDURE", "EVENT", "VIEW"]
    return s!"SHOW CREATE {kind} {(← objectName).render}"
  | some words => return s!"SHOW {words}{← showFilter d}"
  | none =>
    let served ← trait Dialect.replaceStatement
    let valued ← keyword "VARIABLES"
    if valued && served then shownVariables d w "VARIABLES"
    else
      let status ← keyword "STATUS"
      if status && served then shownVariables d w "STATUS" else shownList d w

/-- What is shown, from behind `SHOW`. -/
def showing (d : Deeper) : Reader String := do
  let w ← showWords
  let kinds := [["COLUMNS"], ["FIELDS"], ["TABLES"], ["MATERIALIZED", "VIEWS"], ["VIEWS"],
    ["FUNCTIONS"]]
  match ← oneOfRuns kinds with
  | some "TABLES" =>
    let history ← if w.external.isEmpty then optionalWord "HISTORY" else pure ""
    let words := w.terse ++ w.extended ++ w.full ++ w.external
    return s!"SHOW{words} TABLES{history}{← showOptions d}"
  | some "FUNCTIONS" => return s!"SHOW FUNCTIONS{← showFilter d}"
  | some words =>
    if words == "COLUMNS" || words == "FIELDS" then
      return s!"SHOW{w.extended}{w.full} COLUMNS{← showOptions d}"
    else return s!"SHOW{w.terse} {words}{← showOptions d}"
  | none =>
    if w.extended.isEmpty && w.full.isEmpty then shownOther d w
    else broken "EXTENDED/FULL are not supported with this type of SHOW query" Place.none

end Reader

end QueryLint.Sql
