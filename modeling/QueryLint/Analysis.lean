import QueryLint.Analysis.Chain
import QueryLint.Analysis.Signals

/-!
# Analysis of queries

A walk over the outline of a query and everything inside it. It counts how deep it is and skips what
lies below its limit. `Analysis` is what the walk has found so far; a walk may be repeated, and then
adds to what was found before.

In a selection the walk visits the bodies of common table expressions, the member before, the
projection, the sources, the condition, the groups, the order, the condition on groups, the limit
and the offset. In an expression it visits the left operand, the expression itself, the right
operand, the query inside and the list.
-/

namespace QueryLint

/-- A selection that reads some table, with the depth at which the walk entered it. -/
structure Occurrence where
  depth : Nat
  select : Outline.Select

/-- What a walk has found so far. -/
structure Analysis where
  /-- How many levels the walk is deep. -/
  depth : Nat
  /-- The selections that read each table, in the order of the walk. -/
  readers : OrderedMap (List Occurrence)
  aliases : OrderedMap String
  hasUsingOrOn : Bool
  hasBitOperation : Bool
  hasFuzzyMatching : Bool
  hasAnd : Bool
  hasOr : Bool
  hasIn : Bool
  columnGroups : List (List String)
  truncated : Bool

namespace Analysis

open Outline

/-- Nothing was found yet. -/
def start : Analysis where
  depth := 0
  readers := .empty
  aliases := .empty
  hasUsingOrOn := false
  hasBitOperation := false
  hasFuzzyMatching := false
  hasAnd := false
  hasOr := false
  hasIn := false
  columnGroups := []
  truncated := false

/-! ### Steps of the walk -/

/-- Visits something one level deeper, or notes that the limit is reached. -/
def enter (limit : Nat) (visit : Analysis → Analysis) (a : Analysis) : Analysis :=
  if a.depth ≥ limit then { a with truncated := true }
  else
    let inside := visit { a with depth := a.depth + 1 }
    { inside with depth := inside.depth - 1 }

/-- Notes the columns of a chain, if it compares more than one. -/
def noteChain (columns : List String) (a : Analysis) : Analysis :=
  if columns.length > 1 then
    { a with columnGroups := a.columnGroups ++ [columns], hasAnd := true }
  else a

/-- Notes what the tag of an expression signals, given the tag of the expression around it. Only the
top of a chain of `AND` collects columns. -/
def noteOp (parent : Option Op) (e : Expr) (a : Analysis) : Analysis :=
  if e.op.isBitwise then { a with hasBitOperation := true }
  else match e.op with
    | .like => { a with hasFuzzyMatching := true }
    | .and => if parent == some .and then a else a.noteChain (chainColumns e)
    | .or => { a with hasOr := true }
    | .isIn => { a with hasIn := true }
    | _ => a

/-- Notes the table that a source names, where a selection reads it, and its alias. -/
def noteSource (occurrence : Occurrence) (s : Source) (a : Analysis) : Analysis :=
  match s.name with
  | none => a
  | some name =>
    let readers := a.readers.alter name fun found => found.getD [] ++ [occurrence]
    let aliases := match s.aliasName with
      | some aliasName => a.aliases.insert aliasName name
      | none => a.aliases
    { a with readers, aliases }

/-- Notes that a source is joined by columns or by a condition. -/
def noteJoin (s : Source) (a : Analysis) : Analysis :=
  if s.columns.isSome || s.on.isSome then { a with hasUsingOrOn := true } else a

/-! ### The walk -/

mutual

/-- Visits a selection. -/
def visitSelect (limit : Nat) (s : Select) (a : Analysis) : Analysis :=
  a.enter limit fun a =>
    match s with
    | ⟨ctes, prior, projection, sources, selection, groupBy, orderBy, having, count, offset⟩ =>
      let reader : Select :=
        ⟨ctes, prior, projection, sources, selection, groupBy, orderBy, having, count, offset⟩
      let a := visitSelects limit ctes a
      let a := visitSelect? limit prior a
      let a := visitExprs limit none projection a
      let a := visitSources limit reader sources a
      let a := visitExpr? limit none selection a
      let a := visitExprs limit none groupBy a
      let a := visitExprs limit none orderBy a
      let a := visitExpr? limit none having a
      let a := visitExpr? limit none count a
      visitExpr? limit none offset a

/-- Visits a selection that may be missing. -/
def visitSelect? (limit : Nat) : Option Select → Analysis → Analysis
  | none, a => a
  | some s, a => visitSelect limit s a

/-- Visits some selections. -/
def visitSelects (limit : Nat) : List Select → Analysis → Analysis
  | [], a => a
  | s :: rest, a => visitSelects limit rest (visitSelect limit s a)

/-- Visits the sources that a selection reads. -/
def visitSources (limit : Nat) (reader : Select) : List Source → Analysis → Analysis
  | [], a => a
  | ⟨name, aliasName, select, columns, on⟩ :: rest, a =>
    let a := a.noteSource ⟨a.depth - 1, reader⟩ ⟨name, aliasName, select, columns, on⟩
    let a := visitSelect? limit select a
    let a := a.noteJoin ⟨name, aliasName, select, columns, on⟩
    let a := visitExpr? limit none on a
    visitSources limit reader rest a

/-- Visits an expression, given the tag of the expression around it. -/
def visitExpr (limit : Nat) (parent : Option Op) (e : Expr) (a : Analysis) : Analysis :=
  a.enter limit fun a =>
    match e with
    | ⟨op, left, right, select, list, token⟩ =>
      let a := visitExpr? limit (some op) left a
      let a := a.noteOp parent ⟨op, left, right, select, list, token⟩
      let a := visitExpr? limit (some op) right a
      let a := visitSelect? limit select a
      visitExprs limit (some op) list a

/-- Visits an expression that may be missing. -/
def visitExpr? (limit : Nat) (parent : Option Op) : Option Expr → Analysis → Analysis
  | none, a => a
  | some e, a => visitExpr limit parent e a

/-- Visits some expressions. -/
def visitExprs (limit : Nat) (parent : Option Op) : List Expr → Analysis → Analysis
  | [], a => a
  | e :: rest, a => visitExprs limit parent rest (visitExpr limit parent e a)

end

/-- How deep a walk goes if nothing else is said. -/
def defaultLimit : Nat := 256

/-- What is found by one more walk over a query. -/
def process (limit : Nat) (root : Select) (a : Analysis) : Analysis :=
  visitSelect limit root a

/-- What is found by so many walks over a query. -/
def passes (limit : Nat) (root : Select) : Nat → Analysis
  | 0 => start
  | n + 1 => process limit root (passes limit root n)

/-- What is found by one walk over a query. -/
def ofSelect (limit : Nat) (root : Select) : Analysis :=
  passes limit root 1

/-! ### Results -/

/-- The signals of a walk. -/
def signals (a : Analysis) : Signals where
  hasUsingOrOn := a.hasUsingOrOn
  hasBitOperation := a.hasBitOperation
  hasFuzzyMatching := a.hasFuzzyMatching
  hasAnd := a.hasAnd
  hasOr := a.hasOr
  hasIn := a.hasIn
  columnGroups := a.columnGroups
  tables := a.readers.keys
  aliases := a.aliases
  truncated := a.truncated

/-- The next selection that reads a table, and what is left once it is taken. -/
def takeReader (a : Analysis) (table : String) : Option Occurrence × Analysis :=
  match a.readers.find? table with
  | some (first :: rest) => (some first, { a with readers := a.readers.insert table rest })
  | _ => (none, a)

end Analysis

end QueryLint
