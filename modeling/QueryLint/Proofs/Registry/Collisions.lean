import QueryLint.Proofs.Registry.Identifiers
import QueryLint.Proofs.Registry.Provenance

/-!
# Only the hash makes identifiers collide

The identifier of an issue is the hash of its identity: the database, the checker, the tables, the
fingerprint of the statement and the place in the batch. The bytes that are hashed tell all five, so
any two issues that differ in one of them are hashed from different bytes, and their identifiers are
the same only if the hash takes these bytes to one number (`collisions_of_hash`).
-/

namespace QueryLint

namespace Issue

/-- What the identifier of an issue is made of. -/
structure Identity where
  dbPath : String
  type : String
  table : String
  fingerprint : UInt64
  ordinal : UInt64

/-- The bytes that are hashed. -/
def Identity.bytes (i : Identity) : List UInt8 :=
  identityBytes i.dbPath i.type i.table i.fingerprint i.ordinal

/-- The bytes that are hashed tell the identity. -/
theorem Identity.bytes_injective : Function.Injective Identity.bytes := by
  rintro ⟨dbPath, type, table, fingerprint, ordinal⟩
    ⟨dbPath', type', table', fingerprint', ordinal'⟩ h
  simp only [bytes, identityBytes, List.append_assoc, Digest.textBytes_append_inj,
    Digest.numberBytes_append_inj, Digest.numberBytes_injective.eq_iff] at h
  obtain ⟨rfl, rfl, rfl, rfl, rfl⟩ := h
  rfl

/-- The identity of an issue at a place of its batch. -/
def identityAt (issue : Issue) (place : Nat) : Identity :=
  ⟨issue.dbPath, issue.type, issue.table, Fingerprint.ofSql issue.sql, place.toUInt64⟩

/-- Issues that differ in more than their place, or that have different places, have different
identities. -/
theorem identityAt_ne {a b : Issue} {j k : Nat}
    (h : a.dbPath ≠ b.dbPath ∨ a.type ≠ b.type ∨ a.table ≠ b.table
      ∨ Fingerprint.ofSql a.sql ≠ Fingerprint.ofSql b.sql ∨ (j ≠ k ∧ j < 2 ^ 64 ∧ k < 2 ^ 64)) :
    a.identityAt j ≠ b.identityAt k := by
  intro heq
  obtain ⟨hdb, htype, htable, hsql, hplace⟩ := Identity.mk.inj heq
  rcases h with h | h | h | h | ⟨hne, hj, hk⟩
  · exact h hdb
  · exact h htype
  · exact h htable
  · exact h hsql
  · have hnat : (UInt64.ofNat j).toNat = (UInt64.ofNat k).toNat := congrArg UInt64.toNat hplace
    rw [UInt64.toNat_ofNat_of_lt' hj, UInt64.toNat_ofNat_of_lt' hk] at hnat
    exact hne hnat

end Issue

namespace Run

open Registry Digest

variable {engine : Engine} {time : Nat} {steps : List Step}

/-- A batch has an issue at each place for the finding at that place, counted over all queries of
the execution. -/
theorem getElem?_issues (policy : Policy) (dbPath : String) (x : Execution) (k : Nat) :
    (engine.issues policy dbPath time x)[k]?
      = ((engine.analyses x.sql).flatMap (engine.findingsOf policy x.sql))[k]?.map
        (.ofFinding dbPath x.sql (Fingerprint.ofSql x.sql) k.toUInt64 x.extInfo time) :=
  List.getElem?_mapIdx

/-- The issues of a batch are those for the findings of all queries of an execution under some
policy, numbered from zero on. -/
def IsNumbered (engine : Engine) (d : Delivery) : Prop :=
  ∃ (x : Execution) (policy : Policy) (now : Nat), ∀ k : Nat, d.issues[k]?
    = ((engine.analyses x.sql).flatMap (engine.findingsOf policy x.sql))[k]?.map
      (.ofFinding d.dbPath x.sql (Fingerprint.ofSql x.sql) k.toUInt64 x.extInfo now)

/-- Every delivery holds issues that are numbered within their execution. -/
theorem isNumbered_of_mem_deliveries {d : Delivery}
    (hd : d ∈ ((Situation.start engine time).run steps).registry.deliveries) :
    IsNumbered engine d := by
  obtain ⟨x, -, policy, now, hissues⟩ := issuesOf_of_mem_deliveries engine time steps d hd
  exact ⟨x, policy, now, fun k => hissues ▸ getElem?_issues policy d.dbPath x k⟩

/-- The identifier of an issue in a batch is the hash of its identity. -/
theorem id_eq_of_mem_deliveries {d : Delivery}
    (hd : d ∈ ((Situation.start engine time).run steps).registry.deliveries) {k : Nat}
    {issue : Issue} (hissue : d.issues[k]? = some issue) :
    issue.id = hex (sipHash (issue.identityAt k).bytes) := by
  obtain ⟨x, policy, now, hplaces⟩ := isNumbered_of_mem_deliveries hd
  obtain ⟨f, -, rfl⟩ := Option.map_eq_some_iff.mp ((hplaces k).symm.trans hissue)
  exact Issue.id_ofFinding _ _ _ _ _ _ _

/-- Only the hash makes identifiers collide. The bytes that are hashed tell the identity of an
issue, and the issue at each place of a batch is the one for the finding at that place among those
of all queries of the execution. Two issues that differ in database, checker, tables or fingerprint,
or that have different places, as any two of one batch do, are hashed from different bytes, and they
have the same identifier exactly if both have the same hash. -/
theorem collisions_of_hash (engine : Engine) (time : Nat) (steps : List Step) :
    let deliveries := ((Situation.start engine time).run steps).registry.deliveries
    Function.Injective Issue.Identity.bytes
    ∧ (∀ d ∈ deliveries, IsNumbered engine d)
    ∧ ∀ d ∈ deliveries, ∀ d' ∈ deliveries, ∀ (j k : Nat) (a b : Issue), d.issues[j]? = some a →
      d'.issues[k]? = some b →
      a.id = hex (sipHash (a.identityAt j).bytes) ∧ b.id = hex (sipHash (b.identityAt k).bytes)
      ∧ (a.id = b.id ↔ sipHash (a.identityAt j).bytes = sipHash (b.identityAt k).bytes)
      ∧ (a.dbPath ≠ b.dbPath ∨ a.type ≠ b.type ∨ a.table ≠ b.table
          ∨ Fingerprint.ofSql a.sql ≠ Fingerprint.ofSql b.sql ∨ (j ≠ k ∧ j < 2 ^ 64 ∧ k < 2 ^ 64) →
        (a.identityAt j).bytes ≠ (b.identityAt k).bytes) := by
  intro deliveries
  refine ⟨Issue.Identity.bytes_injective, fun d hd => isNumbered_of_mem_deliveries hd,
    fun d hd d' hd' j k a b ha hb => ?_⟩
  have hida := id_eq_of_mem_deliveries hd ha
  have hidb := id_eq_of_mem_deliveries hd' hb
  refine ⟨hida, hidb, ?_, fun hdiffer => ?_⟩
  · rw [hida, hidb, hex_injective.eq_iff]
  · exact Issue.Identity.bytes_injective.ne (Issue.identityAt_ne hdiffer)

/-- A batch with three issues of two queries. -/
theorem collisions_of_hash_of_two_queries :
    let steps : List Step := [.install "app.db" ⟨"A", false⟩,
      .notifyNow "app.db"
        ⟨"SELECT a FROM t WHERE a LIKE 'x' OR b = 1; SELECT a FROM t WHERE b LIKE 'x'", 1, ""⟩
        .oldest, .deliver 0 []]
    ∃ d a b c, ((Situation.start (.ofConfig .default) 0).run steps).registry.deliveries = [d]
      ∧ d.issues = [a, b, c]
      ∧ (a.identityAt 0).bytes ≠ (b.identityAt 1).bytes
      ∧ (a.identityAt 0).bytes ≠ (c.identityAt 2).bytes
      ∧ (b.identityAt 1).bytes ≠ (c.identityAt 2).bytes := by
  intro steps
  have hdelivered : (((Situation.start (.ofConfig .default) 0).run steps).registry.deliveries.map
      fun d => d.issues.length) = [3] := by decide +kernel
  obtain ⟨d, hd, hlength⟩ := List.map_eq_singleton_iff.mp hdelivered
  obtain ⟨a, b, c, hissues⟩ := List.length_eq_three.mp hlength
  have hmem : d ∈ ((Situation.start (.ofConfig .default) 0).run steps).registry.deliveries := by
    rw [hd]
    exact List.mem_singleton_self d
  obtain ⟨-, -, hdiffer⟩ := collisions_of_hash (.ofConfig .default) 0 steps
  have hplaces : ∀ j k issue issue', d.issues[j]? = some issue → d.issues[k]? = some issue' →
      j ≠ k ∧ j < 2 ^ 64 ∧ k < 2 ^ 64 → (issue.identityAt j).bytes ≠ (issue'.identityAt k).bytes :=
    fun j k issue issue' hj hk hjk =>
      (hdiffer d hmem d hmem j k issue issue' hj hk).2.2.2 (.inr (.inr (.inr (.inr hjk))))
  refine ⟨d, a, b, c, hd, hissues, hplaces 0 1 a b ?_ ?_ (by omega),
    hplaces 0 2 a c ?_ ?_ (by omega),
    hplaces 1 2 b c ?_ ?_ (by omega)⟩ <;> rw [hissues] <;> rfl

end Run

end QueryLint
