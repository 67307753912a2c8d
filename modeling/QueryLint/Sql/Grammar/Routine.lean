import QueryLint.Sql.Grammar.Block

/-!
# Routines

Readers for the definitions of functions, procedures, triggers and macros.
-/

namespace QueryLint.Sql

namespace Reader

/-! ### Parameters -/

/-- In which direction a parameter passes values, with a blank behind it. -/
def parameterMode : Reader String := do
  match ← oneOf ["IN", "OUT", "INOUT"] with
  | some k => return k ++ " "
  | none => return ""

/-- A type, unless a default comes next. -/
def typeBeforeDefault (d : Deeper) : Reader String := do
  if (← peekKeyword) == "DEFAULT" then expected "a data type name" else typeText d

/-- An argument of a function. What is read first is its name if a type follows it. -/
def functionArgument (d : Deeper) : Reader String := do
  let mode ← parameterMode
  let start ← left
  let first ← typeText d
  let last := start[start.length - (← size) - 1]?
  let typed ← match ← attempt (typeBeforeDefault d) with
    | some type =>
      match last.map Lexeme.token with
      | some (.word w) => pure s!"{w.spelled} {type}"
      | _ => throw (.expected "a name or type" last)
    | none => pure first
  let announced ← do
    if ← keyword "DEFAULT" then pure true else sign "="
  let default ← if announced then pure s!" = {← expressionText d}" else pure ""
  return mode ++ typed ++ default

/-- A function with its arguments, if they are listed. -/
def functionSignature (d : Deeper) : Reader String := do
  let name ← objectName
  if ← sign "(" then
    let arguments ← commaListBefore (functionArgument d) ")"
    expectSign ")"
    return s!"{name.render}({commaSeparated arguments})"
  else return name.render

/-! ### Functions -/

/-- A property of a function: its name in faults, and its place in the canonical order. -/
inductive FunctionProperty where
  | language
  | behaviour
  | nulls
  | parallel
  | content
  deriving DecidableEq, Repr, Inhabited

namespace FunctionProperty

/-- All properties in their canonical order. -/
def all : List FunctionProperty := [language, behaviour, nulls, parallel, content]

/-- What a fault calls a property that is given twice, the last of them by the given word. -/
def name (word : String) : FunctionProperty → String
  | language => "LANGUAGE"
  | behaviour => "IMMUTABLE | STABLE | VOLATILE"
  | nulls => "CALLED ON NULL INPUT | RETURNS NULL ON NULL INPUT | STRICT"
  | parallel => "PARALLEL \x7b UNSAFE | RESTRICTED | SAFE \x7d"
  | content => word

end FunctionProperty

/-- The words that open the properties of a function. -/
def functionWords : List (List String × FunctionProperty) := [
  (["AS"], .content), (["LANGUAGE"], .language), (["IMMUTABLE"], .behaviour),
  (["STABLE"], .behaviour), (["VOLATILE"], .behaviour),
  (["CALLED", "ON", "NULL", "INPUT"], .nulls), (["RETURNS", "NULL", "ON", "NULL", "INPUT"], .nulls),
  (["STRICT"], .nulls), (["PARALLEL"], .parallel), (["RETURN"], .content)]

/-- The text that a function consists of. -/
def functionText : Reader String := do
  match ← peekToken with
  | some (.text (.dollar _) _) => valueText
  | _ => quotedString

/-- What stands behind the words of a property. -/
def functionContent (d : Deeper) (words : String) : Reader String := do
  match words with
  | "AS" =>
    let text ← functionText
    let symbol ← if ← sign "," then pure s!", {← functionText}" else pure ""
    return s!" {text}{symbol}"
  | "LANGUAGE" => return s!" {(← ident).render}"
  | "PARALLEL" =>
    let kind ← expectAmong ["UNSAFE", "RESTRICTED", "SAFE"] "one of UNSAFE | RESTRICTED | SAFE"
    return s!" {kind}"
  | "RETURN" => return s!" {← expressionText d}"
  | _ => return ""

/-- The properties of a function in any order; the fuel bounds their number. -/
def functionProperties (d : Deeper) (found : List (FunctionProperty × String)) :
    Nat → Reader (List (FunctionProperty × String))
  | 0 => return found
  | fuel + 1 => do
    match ← oneOfRuns (functionWords.map Prod.fst) with
    | none => return found
    | some words =>
      let isRun (entry : List String × FunctionProperty) : Bool :=
        String.intercalate " " entry.1 == words
      let property := ((functionWords.find? isRun).map Prod.snd).getD .content
      if (found.lookup property).isSome then
        broken s!"{property.name words} specified more than once" Place.none
      else
        let content ← functionContent d words
        functionProperties d ((property, s!" {words}{content}") :: found) fuel

/-- A new function, from behind `FUNCTION`. -/
def createFunction (d : Deeper) (words : String) : Reader String := do
  let name ← objectName
  expectSign "("
  let arguments ← commaListBefore (functionArgument d) ")"
  expectSign ")"
  let result ← clause ["RETURNS"] (typeText d)
  let found ← functionProperties d [] ((← size) + 1)
  let properties := FunctionProperty.all.map fun p => (found.lookup p).getD ""
  let opening := s!"CREATE {words}FUNCTION {name.render}({commaSeparated arguments}){result}"
  return opening ++ String.join properties

/-! ### Procedures -/

/-- A parameter of a procedure. -/
def procedureParameter (d : Deeper) : Reader String := do
  let mode ← parameterMode
  let name ← ident
  let type ← typeText d
  let default ← if ← sign "=" then pure s!" = {← expressionText d}" else pure ""
  return s!"{mode}{name.render} {type}{default}"

/-- The parameters of a procedure, from behind the opening parenthesis. A comma may stand where no
parameter does; the fuel bounds their number. -/
def procedureParametersFrom (d : Deeper) : Nat → Reader (List String)
  | 0 => expected ")"
  | fuel + 1 => do
    let parameter ← match ← peekToken with
      | some (.word _) => pure [← procedureParameter d]
      | _ => pure []
    let comma ← sign ","
    if ← sign ")" then return parameter
    else if comma then return parameter ++ (← procedureParametersFrom d fuel)
    else expected "',' or ')' after parameter definition"

/-- The parameters of a procedure. -/
def procedureParameters (d : Deeper) : Reader String := do
  if ← sign "(" then
    if ← sign ")" then return ""
    else
      let parameters ← procedureParametersFrom d ((← size) + 1)
      return if parameters.isEmpty then "" else s!" ({commaSeparated parameters})"
  else return ""

/-- A new procedure, from behind `PROCEDURE`. -/
def createProcedure (d : Deeper) (words : String) : Reader String := do
  let name ← objectName
  let parameters ← procedureParameters d
  let language ← clause ["LANGUAGE"] do return (← ident).render
  expectKeyword "AS"
  let (text, _) ← blockBody d ["END"]
  return s!"CREATE {words}PROCEDURE {name.render}{parameters}{language} AS {text}"

/-! ### Triggers -/

/-- When a trigger fires. -/
def triggerPeriod : Reader String := do
  let k ← expectOneOf ["FOR", "BEFORE", "AFTER", "INSTEAD"]
  if k == "INSTEAD" then
    expectKeyword "OF"
    return "INSTEAD OF "
  else return k ++ " "

/-- What a trigger fires on. -/
def triggerEvent : Reader String := do
  let k ← expectOneOf ["INSERT", "UPDATE", "DELETE", "TRUNCATE"]
  if k == "UPDATE" then
    let columns ← clause ["OF"] do
      return commaSeparated ((← commaList ident).map Ident.render)
    return k ++ columns
  else return k

/-- A name for the rows before or behind the event. -/
def transitionTable : Reader (Option String) := do
  match ← oneOf ["OLD", "NEW"] with
  | some k =>
    if ← keyword "TABLE" then
      let as ← optionalWord "AS"
      return some s!" {k} TABLE{as} {(← objectName).render}"
    else return none
  | none => return none

/-- For what a trigger fires once. -/
def triggerScope : Reader String := do
  if ← keyword "FOR" then
    let each ← optionalWord "EACH"
    return s!" FOR{each} " ++ (← expectOneOf ["ROW", "STATEMENT"])
  else return ""

/-- What a trigger does. -/
def triggerAction (d : Deeper) : Reader String := do
  if ← keyword "EXECUTE" then
    let kind ← expectOneOf ["FUNCTION", "PROCEDURE"]
    return s!" EXECUTE {kind} {← functionSignature d}"
  else
    let (text, _) ← blockBody d ["END"]
    return " " ++ text

/-- A new trigger, from behind `TRIGGER`. -/
def createTrigger (d : Deeper) (words : String) : Reader String := do
  let name ← objectName
  let period := (← attempt triggerPeriod).getD ""
  let events ← itemsBetween "OR" triggerEvent (← size)
  expectKeyword "ON"
  let table ← objectName
  let other ←
    if ← keyword "FROM" then
      pure (((← tolerating objectName).map fun name => " FROM " ++ name.render).getD "")
    else pure ""
  let checks ← characteristics
  let transitions ←
    if ← keyword "REFERENCING" then many transitionTable else pure []
  let referencing := if transitions.isEmpty then "" else " REFERENCING" ++ String.join transitions
  let scope ← triggerScope
  let condition ← clause ["WHEN"] (expressionText d)
  let action ← triggerAction d
  let opening :=
    s!"CREATE {words}TRIGGER {name.render} {period}" ++ String.intercalate " OR " events ++ " "
  return s!"{opening}ON {table.render}{other}{checks}{referencing}{scope}{condition}{action}"

/-! ### Macros -/

/-- A parameter of a macro. -/
def macroParameter (d : Deeper) : Reader String := do
  let name ← ident
  let announced ← do
    if ← sign ":=" then pure true else sign "=>"
  if announced then return s!"{name.render} := {← expressionText d}" else return name.render

/-- A new macro, from behind the word for it. -/
def createMacro (d : Deeper) (words : String) : Reader String := do
  let name ← objectName
  expectSign "("
  let parameters ← commaListBefore (macroParameter d) ")"
  expectSign ")"
  let list := if parameters.isEmpty then "" else s!"({commaSeparated parameters})"
  expectKeyword "AS"
  let content ←
    if ← keyword "TABLE" then pure s!"TABLE {(← d.query).render}" else expressionText d
  return s!"CREATE {words}MACRO {name.render}{list} AS {content}"

end Reader

end QueryLint.Sql
