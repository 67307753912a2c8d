import QueryLint.Checker
import QueryLint.Digest.SipHash

/-!
# Issues

A finding as it is published: with the database and the statement it is about, the time, and an
identifier. The identifier is a hash of where the finding was made, by which checker, and of its
place among the findings of one execution (`Issue.identityBytes`).
-/

namespace QueryLint

/-- A published finding. -/
structure Issue where
  id : String
  dbPath : String
  table : String
  sql : String
  /-- The name of the checker. -/
  type : String
  /-- Milliseconds since the start of 1970. -/
  createTime : Nat
  desc : String
  detail : String
  advice : String
  level : Severity
  /-- What the caller passed along with the statement. -/
  extInfo : String
  deriving DecidableEq, Repr, Inhabited

namespace Issue

/-- What the identifier of an issue is made of. -/
def identityBytes (dbPath type table : String) (fingerprint ordinal : UInt64) : List UInt8 :=
  Digest.textBytes dbPath ++ Digest.textBytes type ++ Digest.textBytes table
    ++ Digest.numberBytes fingerprint ++ Digest.numberBytes ordinal

/-- The identifier of an issue. -/
def identifier (dbPath type table : String) (fingerprint ordinal : UInt64) : String :=
  Digest.hex (Digest.sipHash (identityBytes dbPath type table fingerprint ordinal))

/-- The issue for a finding, given its place among the findings of one execution and the time. -/
def ofFinding (dbPath sql : String) (fingerprint ordinal : UInt64) (extInfo : String) (time : Nat)
    (f : Finding) : Issue where
  id := identifier dbPath f.checker f.tableLabel fingerprint ordinal
  dbPath
  table := f.tableLabel
  sql
  type := f.checker
  createTime := time
  desc := f.desc
  detail := f.detail
  advice := f.advice
  level := f.level
  extInfo

/-- The exit code for some issues: 2 if one is an error, 1 if one is a warning, and else 0. -/
def exitCode (issues : List Issue) : Nat :=
  if issues.any fun i => i.level == .error then 2
  else if issues.any fun i => i.level == .warning then 1
  else 0

end Issue

end QueryLint
