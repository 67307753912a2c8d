import QueryLint.Config
import QueryLint.Error
import QueryLint.Toml.Node

/-!
# Reading configurations

A configuration is written in TOML: the tables `lint`, `checkers` and `log`, each of which may be
missing or incomplete. A table with known keys may also be given as the list of its values. Keys
that are not known are passed over, and keys are looked at in their sorted order.
-/

namespace QueryLint

namespace Toml.Node

/-! ### Values that are due -/

/-- A value, or the fault at its start. -/
abbrev Expected (α : Type) := Node → Except Fault α

/-- The fault for a value of another type than was due. -/
def unexpected {α : Type} (v : Node) : Except Fault α := throw ⟨v.start⟩

/-- A text. -/
def text : Expected String
  | .scalar _ (.text content) => return content
  | v => v.unexpected

/-- A number of 64 bits. -/
def natural64 : Expected Nat
  | .scalar n (.whole (.ofNat k)) => if k < Text.limit64 then return k else throw ⟨n⟩
  | v => v.unexpected

/-- A list of texts. -/
def texts : Expected (List String)
  | .list _ _ items => items.mapM text
  | v => v.unexpected

/-- A table of texts. -/
def textMap : Expected (OrderedMap String)
  | .table _ _ entries => do
    return .ofList (← entries.mapM fun (key, v) => do return (key, ← text v))
  | v => v.unexpected

/-- A name, of which one is found by a function. It may also be the only key of a table, with an
empty table or list as its value. -/
def name {α : Type} (find : String → Option α) : Expected α
  | .scalar n (.text content) => (find content).elim (throw ⟨n⟩) pure
  | .table n _ entries =>
    match entries with
    | [(key, v)] =>
      match find key with
      | none => throw ⟨n⟩
      | some found =>
        match v with
        | .table _ _ [] => return found
        | .list _ _ [] => return found
        | _ => v.unexpected
    | _ => throw ⟨n⟩
  | v => v.unexpected

mutual

/-- Passes over a value. A whole number still has to fit into 64 bits, with or without a sign. -/
def ignore : Node → Except Fault Unit
  | .scalar n (.whole value) =>
    if -Int.ofNat (1 <<< 63) ≤ value && value < Text.limit64 then return () else throw ⟨n⟩
  | .scalar _ _ => return ()
  | .list _ _ items => ignoreItems items
  | .table _ _ entries => ignoreEntries entries

/-- Passes over the items of a list. -/
def ignoreItems : List Node → Except Fault Unit
  | [] => return ()
  | v :: rest => do
    ignore v
    ignoreItems rest

/-- Passes over the entries of a table. -/
def ignoreEntries : List (String × Node) → Except Fault Unit
  | [] => return ()
  | (_, v) :: rest => do
    ignore v
    ignoreEntries rest

end

/-- How the value of a known key changes what is read. -/
abbrev KnownKey (σ : Type) := String × (Node → σ → Except Fault σ)

/-- A table with known keys, or the list of their values in the order of the fields, of which at
least so many are due. -/
def record {σ : Type} (fields : List (KnownKey σ)) (due : Nat) (start : σ) : Expected σ
  | .table _ _ entries =>
    entries.foldlM (fun found (key, v) =>
      match fields.lookup key with
      | some read => read v found
      | none => do
        ignore v
        return found) start
  | .list n _ items => do
    let found ← (fields.zip items).foldlM (fun found (field, v) => field.2 v found) start
    if items.length < due then throw ⟨n⟩
    return found
  | v => v.unexpected

end Toml.Node

open Toml.Node in
/-- The keys of `lint`. -/
def LintSettings.fields : List (KnownKey LintSettings) := [
  ("dialect", fun v s => do return { s with dialect := ← name Sql.Dialect.ofExactName? v }),
  ("max_depth", fun v s => do return { s with maxDepth := ← natural64 v }),
  ("max_seen_statements", fun v s => do return { s with maxSeenStatements := ← natural64 v }),
  ("min_elapsed_ms", fun v s => do return { s with minElapsedMs := ← natural64 v })]

open Toml.Node in
/-- The keys of `checkers`. -/
def CheckerSettings.fields : List (KnownKey CheckerSettings) := [
  ("disabled", fun v s => do return { s with disabled := ← texts v }),
  ("severity", fun v s => do return { s with severity := ← textMap v })]

namespace Config

open Toml.Node in
/-- The keys of `log`. -/
def logFields : List (KnownKey (Option String)) := [
  ("path", fun v _ => do return some (← text v))]

open Toml.Node in
/-- The tables of a configuration. -/
def fields : List (KnownKey Config) := [
  ("lint", fun v c => do return { c with lint := ← record LintSettings.fields 0 .default v }),
  ("checkers", fun v c => do
    return { c with checkers := ← record CheckerSettings.fields 0 .default v }),
  ("log", fun v c => do return { c with logPath := ← record logFields 1 none v })]

/-- The configuration that a TOML text is. -/
def ofToml (text : String) : Except Error Config :=
  (Toml.Node.ofText text >>= Toml.Node.record fields 0 .default).mapError fun fault =>
    .malformedConfig (fault.report text)

end Config

end QueryLint
