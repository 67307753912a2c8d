import QueryLint.Sql.Ast
import QueryLint.Sql.Fault

/-!
# Reading tokens

A reader takes the lexemes that are left and either yields a value with the lexemes behind it, or a
fault. This module holds readers for single tokens and keywords, and ways to combine readers:
alternatives that take nothing when they fail (`attempt`), lists, and parentheses.

A clause that is kept as text is read by a reader of texts. It becomes a passage of the tree
together with the expressions and queries read for it (`passage`), of which a reader keeps account.
-/

namespace QueryLint.Sql

/-- Where an expression stands, as far as that decides what its words mean. -/
inductive Context where
  | normal
  /-- In a column definition, where `NULL` and `COLLATE` are no operators. -/
  | columnDefinition
  /-- In the walk through a hierarchy, where `PRIOR` is an operator. -/
  | hierarchy
  deriving DecidableEq, Repr, Inhabited

/-- What a reader is told besides the lexemes. -/
structure Setting where
  dialect : Dialect
  context : Context

/-- How far a reader has come. -/
structure Progress where
  /-- The lexemes that are left. -/
  left : List Lexeme
  /-- The expressions read so far, without those that are inside another one or inside a query. -/
  exprs : List Expr
  /-- The queries read so far, likewise. -/
  queries : List Query

/-- A reader of lexemes. -/
abbrev Reader (α : Type) := ReaderT Setting (StateT Progress (Except Fault)) α

namespace Reader

/-! ### Looking ahead -/

/-- A trait of the dialect. -/
def trait (t : Dialect → Bool) : Reader Bool := do
  return t (← read).dialect

/-- Whether expressions stand in the given context. -/
def inContext (c : Context) : Reader Bool := do
  return (← read).context == c

/-- A reader for what stands in the given context. -/
def within {α : Type} (c : Context) (r : Reader α) : Reader α :=
  fun setting => r { setting with context := c }

/-- The lexemes that are left. -/
def left : Reader (List Lexeme) := do
  return (← get).left

/-- Leaves the given lexemes. -/
def setLeft (ls : List Lexeme) : Reader Unit := do
  set { (← get) with left := ls }

/-- The number of lexemes that are left. -/
def size : Reader Nat := do
  return (← left).length

/-- The next lexeme. -/
def peek : Reader (Option Lexeme) := do
  return (← left).head?

/-- The next token. -/
def peekToken : Reader (Option Token) := do
  return (← left).head?.map Lexeme.token

/-- The token so many places on. -/
def peekNth (n : Nat) : Reader (Option Token) := do
  return (← left)[n]?.map Lexeme.token

/-- The place of the next lexeme. -/
def place : Reader Place := do
  return ((← peek).map Lexeme.place).getD Place.none

/-- The keyword that a token may be. -/
def keywordOf : Option Token → String
  | some (.word w) => w.keyword
  | _ => ""

/-- Whether a token is the given punctuation or operator. -/
def isSign (spelling : String) (token : Option Token) : Bool :=
  token == some (.sign spelling)

/-- The keyword that comes next, or nothing. -/
def peekKeyword : Reader String := do
  return keywordOf (← peekToken)

/-! ### Taking tokens -/

/-- Takes the next lexeme. -/
def advance : Reader (Option Lexeme) := do
  let ls ← left
  setLeft (ls.drop 1)
  return ls.head?

/-- A fault at the next lexeme, where something else was due. -/
def expected {α : Type} (what : String) : Reader α := do
  throw (.expected what (← peek))

/-- A fault in a rule of its own, told with the given place. -/
def broken {α : Type} (rule : String) (where_ : Place) : Reader α := do
  throw (.broken rule where_)

/-- The text of the next token, as messages that tell no place quote it. -/
def peekText : Reader String := do
  return ((← peekToken).map Token.spelled).getD "EOF"

/-- Whether the given punctuation comes next. -/
def peekSign (spelling : String) : Reader Bool := do
  return isSign spelling (← peekToken)

/-- Takes so many lexemes. -/
def skip (count : Nat) : Reader Unit := do
  setLeft ((← left).drop count)

/-- Takes the given punctuation if it comes next. -/
def sign (spelling : String) : Reader Bool := do
  if isSign spelling (← peekToken) then
    let _ ← advance
    return true
  else return false

/-- Takes the given punctuation. -/
def expectSign (spelling : String) : Reader Unit := do
  unless ← sign spelling do expected spelling

/-- Takes the given keyword if it comes next. -/
def keyword (k : String) : Reader Bool := do
  if (← peekKeyword) == k then
    let _ ← advance
    return true
  else return false

/-- Whether a run of keywords comes next. -/
def peekKeywords (ks : List String) : Reader Bool := do
  return ((← left).take ks.length).map (fun l => keywordOf (some l.token)) == ks

/-- Takes a run of keywords if all of it comes next. -/
def keywords (ks : List String) : Reader Bool := do
  if ← peekKeywords ks then
    skip ks.length
    return true
  else return false

/-- Takes a run of keywords, in dialects with the given trait, if all of it comes next. -/
def keywordsWhere (t : Dialect → Bool) (ks : List String) : Reader Bool := do
  if ← trait t then keywords ks else return false

/-- Takes one of some keywords if one comes next. -/
def oneOf (ks : List String) : Reader (Option String) := do
  let k ← peekKeyword
  if ks.contains k then
    let _ ← advance
    return some k
  else return none

/-- A keyword with a blank before it, if it comes next. -/
def optionalWord (k : String) : Reader String := do
  return if ← keyword k then " " ++ k else ""

/-- A run of keywords with a blank before each, if it comes next. -/
def optionalWords (ks : List String) : Reader String := do
  return if ← keywords ks then " " ++ String.intercalate " " ks else ""

/-- One of some keywords with a blank before it, if one comes next. -/
def optionalOneOf (ks : List String) : Reader String := do
  match ← oneOf ks with
  | some k => return " " ++ k
  | none => return ""

/-- The clause that some keywords open, with a blank before it. -/
def clause (k : List String) (content : Reader String) : Reader String := do
  if ← keywords k then return " " ++ String.intercalate " " k ++ " " ++ (← content) else return ""

/-- The first run of keywords that comes next, taken. -/
def oneOfRuns : List (List String) → Reader (Option String)
  | [] => return none
  | run :: runs => do
    if ← keywords run then return some (String.intercalate " " run) else oneOfRuns runs

/-- Takes the given keyword. -/
def expectKeyword (k : String) : Reader Unit := do
  unless ← keyword k do expected k

/-- Takes a run of keywords. -/
def expectKeywords : List String → Reader Unit
  | [] => return ()
  | k :: ks => do
    expectKeyword k
    expectKeywords ks

/-- Takes one of some keywords. -/
def expectOneOf (ks : List String) : Reader String := do
  match ← oneOf ks with
  | some k => return k
  | none => expected ("one of " ++ String.intercalate " or " ks)

/-- Takes one of some keywords, which a fault names in words of its own. -/
def expectAmong (ks : List String) (what : String) : Reader String := do
  match ← oneOf ks with
  | some k => return k
  | none => expected what

/-! ### Combining readers -/

/-- Tries a reader, which takes nothing when it fails. Only nesting that is too deep fails for
good. -/
def attempt {α : Type} (r : Reader α) : Reader (Option α) := fun s start =>
  match r s start with
  | .ok (a, progress) => .ok (some a, progress)
  | .error .tooDeep => .error .tooDeep
  | .error _ => .ok (none, start)

/-- Tries a reader and hands out its fault, in which case nothing is taken. -/
def trying {α : Type} (r : Reader α) : Reader (Except Fault α) := fun s start =>
  match r s start with
  | .ok (a, progress) => .ok (.ok a, progress)
  | .error fault => .ok (.error fault, start)

/-- The faults that are found by taking their token, which none is put back by. -/
def takingFaults : List String := [
  "an expression", "identifier", "a data type name", "a value", "a concrete value", "A value?",
  "literal int", "literal string", "date/time field", "placeholder"]

/-- The lexemes that are left where a reader has failed: those from the fault on, less its token if
that was taken. -/
def behindFault (fault : Fault) (start : List Lexeme) : List Lexeme :=
  match fault with
  | .expected what (some l) =>
    let rest := start.dropWhile fun other => other.place != l.place
    if takingFaults.contains what then rest.drop 1 else rest
  | .expected _ none => []
  | .apart _ blank => (start.dropWhile fun other => other.blanks.head? != some blank).drop 1
  | .noOperator l => (start.dropWhile fun other => other.place != l.place).drop 1
  | _ => start

/-- Tries a reader. What it takes before it fails stays taken. -/
def tolerating {α : Type} (r : Reader α) : Reader (Option α) := do
  let start ← left
  match ← trying r with
  | .ok a => return some a
  | .error .tooDeep => throw .tooDeep
  | .error fault =>
    setLeft (behindFault fault start)
    return none

/-- One or more items as long as each is followed by a comma; the fuel bounds their number. -/
def itemsFrom {α : Type} (item : Reader α) (done : Reader Bool) : Nat → Reader (List α)
  | 0 => return [← item]
  | fuel + 1 => do
    let a ← item
    if ← sign "," then
      if ← done then return [a]
      else return a :: (← itemsFrom item done fuel)
    else return [a]

/-- One or more items separated by commas. -/
def commaList {α : Type} (item : Reader α) : Reader (List α) := do
  itemsFrom item (return false) (← size)

/-- One or more items separated by commas, the last of which may have a comma behind it. -/
def commaListUntil {α : Type} (item : Reader α) (done : Reader Bool) : Reader (List α) := do
  itemsFrom item done (← size)

/-- Zero or more items separated by commas, up to a closing sign that stays. -/
def commaListBefore {α : Type} (item : Reader α) (close : String) : Reader (List α) := do
  if isSign close (← peekToken) then return []
  else commaList item

/-- One or more items with a keyword between them; the fuel bounds their number. -/
def itemsBetween {α : Type} (k : String) (item : Reader α) : Nat → Reader (List α)
  | 0 => return [← item]
  | fuel + 1 => do
    let a ← item
    if ← keyword k then return a :: (← itemsBetween k item fuel) else return [a]

/-- What stands between parentheses. -/
def parenthesized {α : Type} (r : Reader α) : Reader α := do
  expectSign "("
  let a ← r
  expectSign ")"
  return a

/-- Items as long as a reader finds them; the fuel bounds their number. -/
def manyFrom {α : Type} (item : Reader (Option α)) : Nat → Reader (List α)
  | 0 => return []
  | fuel + 1 => do
    match ← item with
    | some a => return a :: (← manyFrom item fuel)
    | none => return []

/-- All items that a reader finds. -/
def many {α : Type} (item : Reader (Option α)) : Reader (List α) := do
  manyFrom item ((← size) + 1)

/-! ### Passages -/

/-- A reader of an expression, which is noted in place of what is read inside of it. -/
def notingExpr (r : Reader Expr) : Reader Expr := do
  let start ← get
  let e ← r
  set { (← get) with exprs := start.exprs ++ [e], queries := start.queries }
  return e

/-- A reader of a query, which is noted in place of what is read inside of it. -/
def notingQuery (r : Reader Query) : Reader Query := do
  let start ← get
  let q ← r
  set { (← get) with exprs := start.exprs, queries := start.queries ++ [q] }
  return q

/-- What a reader yields, and a passage without text of the expressions and queries read for it. -/
def withNotes {α : Type} (r : Reader α) : Reader (α × Passage) := do
  let start ← get
  let a ← r
  let progress ← get
  let exprs := progress.exprs.drop start.exprs.length
  let queries := progress.queries.drop start.queries.length
  return (a, ⟨"", exprs, queries⟩)

/-- A clause that is kept as text, with the expressions and queries read for it. -/
def passage (r : Reader String) : Reader Passage := do
  let (text, notes) ← withNotes r
  return { notes with text := text }

/-! ### Names -/

/-- The name that a word is. -/
def identOf (w : Word) : Ident := ⟨w.value, w.quote⟩

/-- A name: any word, or a string used as one. -/
def ident : Reader Ident := do
  match ← peekToken with
  | some (.word w) =>
    let _ ← advance
    return identOf w
  | some (.text .single content) =>
    let _ ← advance
    return ⟨content, some '\''⟩
  | some (.text .double content) =>
    let _ ← advance
    return ⟨content, some '\x22'⟩
  | _ => expected "identifier"

/-- The further parts of a dotted name. -/
def nameParts : Nat → Reader (List Ident)
  | 0 => return [← ident]
  | fuel + 1 => do
    let part ← ident
    if ← sign "." then return part :: (← nameParts fuel)
    else return [part]

/-- A dotted name. -/
def objectName : Reader ObjectName := do
  return ⟨← nameParts (← size)⟩

/-- Items in parentheses that a clause cannot do without. -/
def columnListOf {α : Type} (item : Reader α) : Reader (List α) := do
  unless ← sign "(" do expected "a list of columns in parentheses"
  let columns ← commaList item
  expectSign ")"
  return columns

/-- Plain column names in parentheses. -/
def columnList : Reader (List Ident) :=
  columnListOf ident

/-- Items in parentheses that a clause may do without. The parentheses may be empty if so told. -/
def optionalListOf {α : Type} (item : Reader α) (mayBeEmpty : Bool) : Reader (List α) := do
  if ← sign "(" then
    let columns ← if mayBeEmpty then commaListBefore item ")" else commaList item
    expectSign ")"
    return columns
  else return []

/-- Whether a query comes next. -/
def peekQuery : Reader Bool := do
  let k ← peekKeyword
  return k == "SELECT" || k == "WITH"

/-- Whether a query, maybe in parentheses, comes next. -/
def peekQueryStart : Reader Bool := do
  let word (k : String) : Bool := k == "SELECT" || k == "WITH"
  return word (← peekKeyword) || (isSign "(" (← peekToken) && word (keywordOf (← peekNth 1)))

end Reader

/-- What can be read one nesting level deeper: an expression that binds tighter than a given power,
a query, a statement, the definition of a column. -/
structure Deeper where
  expr : Nat → Reader Expr
  query : Reader Query
  statement : Reader Statement
  column : Reader String

namespace Deeper

/-- Nothing can be read deeper. -/
def exhausted : Deeper where
  expr := fun _ => throw .tooDeep
  query := throw .tooDeep
  statement := throw .tooDeep
  column := throw .tooDeep

end Deeper

end QueryLint.Sql
