import QueryLint.Issue
import QueryLint.Json.Reader

/-!
# Issues from JSON

An issue is an object with the keys that `Issue.toDocument` writes, in any order, or the list of its
values in that order. Only `extInfo` may be missing; keys that mean nothing are passed over. What
was read so far is a `Draft`, which becomes an issue once every field is there.
-/

namespace QueryLint.Issue

open Json Reader

/-! ### Fields -/

/-- A field of an issue. -/
inductive Field where
  | id
  | dbPath
  | table
  | sql
  | type
  | createTime
  | desc
  | detail
  | advice
  | level
  | extInfo
  deriving DecidableEq, Repr

namespace Field

/-- All fields, in the order in which they are written. -/
def all : List Field :=
  [id, dbPath, table, sql, type, createTime, desc, detail, advice, level, extInfo]

/-- The key of a field. -/
def key : Field → String
  | id => "id"
  | dbPath => "dbPath"
  | table => "table"
  | sql => "sql"
  | type => "type"
  | createTime => "createTime"
  | desc => "desc"
  | detail => "detail"
  | advice => "advice"
  | level => "level"
  | extInfo => "extInfo"

/-- The field of a key. -/
def ofKey? (text : String) : Option Field :=
  all.find? fun f => f.key == text

/-- What a field holds. -/
abbrev Value : Field → Type
  | createTime => Nat
  | level => Severity
  | _ => String

end Field

/-! ### Drafts -/

/-- The fields that were read so far. -/
abbrev Draft := (f : Field) → Option f.Value

namespace Draft

/-- Nothing was read yet. -/
def empty : Draft := fun _ => none

/-- The draft in which a field has a value. -/
def set (d : Draft) (field : Field) (value : field.Value) : Draft :=
  fun f => if h : f = field then some (h ▸ value) else d f

/-- The value of a field that has to be there. -/
def require (d : Draft) (field : Field) : Except Fault field.Value :=
  match d field with
  | some value => return value
  | none => throw (.missingField field.key)

/-- The issue of a draft. -/
def finish (d : Draft) : Except Fault Issue := do
  return {
    id := ← d.require .id
    dbPath := ← d.require .dbPath
    table := ← d.require .table
    sql := ← d.require .sql
    type := ← d.require .type
    createTime := ← d.require .createTime
    desc := ← d.require .desc
    detail := ← d.require .detail
    advice := ← d.require .advice
    level := ← d.require .level
    extInfo := (d .extInfo).getD "" }

end Draft

/-! ### Values -/

/-- The severity of a configuration name. -/
def levelNamed (name : String) : Except Fault Severity :=
  match [Severity.info, .warning, .error].find? fun s => s.name == name with
  | some level => return level
  | none => throw (.unknownName name ["info", "warning", "error"])

/-- Reads a severity: its name, or an object that has its name as the only key and nothing as its
value. -/
def readLevel : Reader Severity := do
  match ← peekToken with
  | some '\x22' => levelNamed (← text)
  | some '\x7b' =>
    let _ ← advance
    let level ← levelNamed (← textAs "variant identifier")
    match ← peekToken with
    | none => throw .endInObject
    | some ':' =>
      let _ ← advance
      nullAs "unit"
      match ← peekToken with
      | none => throw .endInObject
      | some '\x7d' =>
        let _ ← advance
        return level
      | some _ => throw .valueDue
    | some _ => throw .colonDue
  | some _ => throw .valueDue
  | none => throw .endInValue

/-- Reads the value of a field. -/
def readValue (field : Field) : Reader field.Value :=
  match field with
  | .createTime => natural64
  | .level => readLevel
  | .id | .dbPath | .table | .sql | .type | .desc | .detail | .advice | .extInfo => text

/-! ### Issues -/

/-- Reads the entry of a key. -/
def readEntry (key : String) (d : Draft) : Reader Draft := do
  match Field.ofKey? key with
  | none =>
    skipValue
    return d
  | some field =>
    if (d field).isSome then throw (.repeatedField key)
    return d.set field (← readValue field)

/-- What a list with too few items should have been. -/
def due : String := "struct Issue"

/-- Reads the items of a list as the values of some fields, the first of which has an index. -/
def readItems (index : Nat) : List Field → Draft → Reader Draft
  | [], d => return d
  | field :: rest, d => do
    if ← hasItem (index == 0) then
      let value ← readValue field
      readItems (index + 1) rest (d.set field value)
    else if field == .extInfo then return d
    else throw (.wrongLength index s!"{due} with {Field.all.length} elements")

/-- Reads an issue. -/
def read : Reader Issue := do
  match ← peekToken with
  | some '\x7b' =>
    let _ ← advance
    let issue ← (← entries readEntry .empty).finish
    let _ ← advance
    return issue
  | some '[' =>
    let _ ← advance
    let issue ← (← readItems 0 Field.all .empty).finish
    closeList
    return issue
  | _ => wrongType due

/-- The issue of a JSON text. -/
def ofJson (text : String) : Except Fault Issue :=
  whole read text

end QueryLint.Issue
