import Mathlib.Algebra.Group.Nat.Defs
import QueryLint.Proofs.Digest
import QueryLint.Proofs.Registry.Filtering
import QueryLint.Proofs.Registry.Shares

/-!
# Identifiers under different policies

The identifier of an issue is the hash of where it was raised, by which checker, and of its place in
the batch that it is published in. This place counts what is published before it (`Policy.place`),
so a policy that takes something out of a batch moves all that comes behind. A finding that is
published under two policies has the same identifier if as many findings are published before it
under both, and otherwise other bytes are hashed (`identifier_follows_place`).
-/

namespace QueryLint

/-- Of what an identifier is made of, the place is told by the last bytes. -/
theorem Issue.identityBytes_eq_iff {dbPath type table : String}
    {fingerprint ordinal ordinal' : UInt64} :
    identityBytes dbPath type table fingerprint ordinal
        = identityBytes dbPath type table fingerprint ordinal'
      ↔ ordinal = ordinal' := by
  rw [identityBytes, identityBytes, List.append_cancel_left_eq]
  exact Digest.numberBytes_injective.eq_iff

/-- An issue without its identifier does not tell its place. -/
theorem Issue.nameless_ofFinding (dbPath sql : String) (fingerprint ordinal ordinal' : UInt64)
    (extInfo : String) (time : Nat) (f : Finding) :
    (ofFinding dbPath sql fingerprint ordinal extInfo time f).nameless
      = (ofFinding dbPath sql fingerprint ordinal' extInfo time f).nameless := by
  simp only [nameless, ofFinding]

/-- The identifier of an issue is the hash of the bytes that identify it. -/
theorem Issue.id_ofFinding (dbPath sql : String) (fingerprint ordinal : UInt64) (extInfo : String)
    (time : Nat) (f : Finding) :
    (ofFinding dbPath sql fingerprint ordinal extInfo time f).id
      = Digest.hex
        (Digest.sipHash (identityBytes dbPath f.checker f.tableLabel fingerprint ordinal)) :=
  rfl

/-! ### Places in a batch -/

/-- The place of one of all findings in what is published after some calls: how many of those before
it are published. -/
def Policy.place (calls : List Call) (all : List (String × Finding)) (k : Nat) : Nat :=
  (all.take k).countP fun found => Permits calls found

/-- What is published after some calls has each finding at its place. -/
theorem Engine.getElem?_number_place {calls : List Policy.Call} {all : List (String × Finding)}
    {k : Nat} {found : String × Finding} (hfound : all[k]? = some found)
    (hpermits : Policy.Permits calls found) (dbPath : String) (time : Nat) (x : Execution) :
    (number dbPath time x (all.filter fun found => Policy.Permits calls found))[Policy.place
      calls all k]?
      = some (.ofFinding dbPath x.sql (Fingerprint.ofSql x.sql) (Policy.place calls all k).toUInt64
        x.extInfo time found.2) := by
  have hplace := getElem?_filter_countP_take hfound (p := fun found => Policy.Permits calls found)
    (decide_eq_true hpermits)
  rw [number, List.getElem?_mapIdx, Policy.place, hplace]
  rfl

namespace Registry

variable {r : Registry} {dbPath : String} {n : Nat} {i : Installation} {x : Execution}

/-- An execution that is long enough and new on an installation under the empty policy publishes
after some calls each finding that they permit, at its place. -/
theorem exists_batch_of_permits (hi : r.installed? dbPath = some (n, i))
    (hpolicy : i.policy = .default) (htime : r.engine.settings.minElapsedMs ≤ x.elapsedMs)
    (hseen : i.seen.contains (Fingerprint.ofSql x.sql) = false) (calls : List Policy.Call) {k : Nat}
    {found : String × Finding} (hfound : (r.engine.raised x.sql)[k]? = some found)
    (hpermits : Policy.Permits calls found) :
    ∃ batch : List Issue,
      (∀ c, ((calls.foldl (fun r call => call.run dbPath r) r).notifyNowBy c dbPath x).deliveries
        = r.deliveries ++ [⟨n, i.subscriber, i.dbPath, batch⟩])
      ∧ batch[Policy.place calls (r.engine.raised x.sql) k]?
        = some (.ofFinding i.dbPath x.sql (Fingerprint.ofSql x.sql)
          (Policy.place calls (r.engine.raised x.sql) k).toUInt64 x.extInfo r.time found.2) := by
  obtain ⟨hlimited, hengine, hclock, hdeliveries⟩ := calls_run calls hi
  have htime' : (calls.foldl (fun r call => call.run dbPath r) r).engine.settings.minElapsedMs
      ≤ x.elapsedMs := by rwa [hengine]
  have hcalls : calls.foldl Policy.Call.apply i.policy = .ofCalls calls := by
    rw [hpolicy]
    rfl
  obtain ⟨hdelivered, -, -⟩ := delivered_of_ofCalls calls hlimited hcalls htime' hseen
  rw [hengine, hclock, hdeliveries] at hdelivered
  have hplace := Engine.getElem?_number_place hfound hpermits i.dbPath r.time x
  refine ⟨_, fun c => (hdelivered c).trans ?_, hplace⟩
  -- There is an issue in the batch, so it is delivered.
  rw [deliveriesOf, if_neg]
  intro hempty
  rw [List.isEmpty_iff.mp hempty] at hplace
  cases hplace

/-- The identifier of an issue follows its place. Let a finding be published by an execution on a
new installation both after some calls that change the policy and after some others. Apart from the
identifier both issues are the same. Their identifiers are hashes of the same bytes exactly if they
have the same place in their batches, so they are the same if as many findings are published before
them. -/
theorem identifier_follows_place (hi : r.installed? dbPath = some (n, i))
    (hpolicy : i.policy = .default) (htime : r.engine.settings.minElapsedMs ≤ x.elapsedMs)
    (hseen : i.seen.contains (Fingerprint.ofSql x.sql) = false) (calls calls' : List Policy.Call)
    {k : Nat} {found : String × Finding} (hfound : (r.engine.raised x.sql)[k]? = some found)
    (hpermits : Policy.Permits calls found) (hpermits' : Policy.Permits calls' found) :
    let place (calls : List Policy.Call) := Policy.place calls (r.engine.raised x.sql) k
    let bytes (calls : List Policy.Call) := Issue.identityBytes i.dbPath found.2.checker
      found.2.tableLabel (Fingerprint.ofSql x.sql) (place calls).toUInt64
    ∃ batch batch' : List Issue, ∃ issue issue' : Issue,
      (∀ c, ((calls.foldl (fun r call => call.run dbPath r) r).notifyNowBy c dbPath x).deliveries
        = r.deliveries ++ [⟨n, i.subscriber, i.dbPath, batch⟩])
      ∧ (∀ c, ((calls'.foldl (fun r call => call.run dbPath r) r).notifyNowBy c dbPath x).deliveries
        = r.deliveries ++ [⟨n, i.subscriber, i.dbPath, batch'⟩])
      ∧ batch[place calls]? = some issue ∧ batch'[place calls']? = some issue'
      ∧ issue.nameless = issue'.nameless
      ∧ issue.id = Digest.hex (Digest.sipHash (bytes calls))
      ∧ issue'.id = Digest.hex (Digest.sipHash (bytes calls'))
      ∧ (bytes calls = bytes calls' ↔ (place calls).toUInt64 = (place calls').toUInt64)
      ∧ (place calls = place calls' → issue.id = issue'.id) := by
  intro place bytes
  obtain ⟨batch, hdelivered, hissue⟩ :=
    exists_batch_of_permits hi hpolicy htime hseen calls hfound hpermits
  obtain ⟨batch', hdelivered', hissue'⟩ :=
    exists_batch_of_permits hi hpolicy htime hseen calls' hfound hpermits'
  have hid : ∀ calls,
      (Issue.ofFinding i.dbPath x.sql (Fingerprint.ofSql x.sql) (place calls).toUInt64
      x.extInfo r.time found.2).id = Digest.hex (Digest.sipHash (bytes calls)) :=
    fun calls => Issue.id_ofFinding _ _ _ _ _ _ _
  have hbytes : bytes calls = bytes calls' ↔ (place calls).toUInt64 = (place calls').toUInt64 :=
    Issue.identityBytes_eq_iff
  refine ⟨batch, batch', _, _, hdelivered, hdelivered', hissue, hissue',
    Issue.nameless_ofFinding _ _ _ _ _ _ _ _, hid calls, hid calls', hbytes, fun hplace => ?_⟩
  have hsame : bytes calls = bytes calls' := hbytes.mpr (congrArg Nat.toUInt64 hplace)
  rw [hid calls, hid calls', hsame]

/-- The last of three findings is whitelisted away under one of two policies. The one before it has
the second place under both, and one identifier. -/
theorem identifier_follows_place_of_three_findings :
    let registry := (Registry.new (.ofConfig .default) 0).install "app.db" ⟨"A", false⟩
    let call : Policy.Call := .setWhitelist (.ofTables [("t", ["in_condition"])])
    let x : Execution := ⟨"SELECT a FROM t WHERE a LIKE 'x' OR b IN (1)", 1, ""⟩
    ∃ batch batch' : List Issue, ∃ issue issue' : Issue,
      (registry.notifyNowBy .plain "app.db" x).deliveries = [⟨0, ⟨"A", false⟩, "app.db", batch⟩]
      ∧ ((call.run "app.db" registry).notifyNowBy .plain "app.db" x).deliveries
        = [⟨0, ⟨"A", false⟩, "app.db", batch'⟩]
      ∧ batch[1]? = some issue ∧ batch'[1]? = some issue' ∧ issue.id = issue'.id := by
  intro registry call x
  have hinstalled : registry.installed? "app.db"
      = some (0, .start "app.db" ⟨"A", false⟩ LintSettings.default.maxSeenStatements) := by rfl
  have htime : registry.engine.settings.minElapsedMs ≤ x.elapsedMs := by decide +kernel
  have hseen : (Fingerprint.Seen.new LintSettings.default.maxSeenStatements).contains
      (Fingerprint.ofSql x.sql) = false := rfl
  have hsome : ((registry.engine.raised x.sql)[1]?.any fun found =>
      Policy.Permits [] found ∧ Policy.Permits [call] found
        ∧ Policy.place [] (registry.engine.raised x.sql) 1 = 1
        ∧ Policy.place [call] (registry.engine.raised x.sql) 1 = 1) = true := by decide +kernel
  obtain ⟨found, hfound, hpermits⟩ := (Option.any_eq_true _ _).mp hsome
  obtain ⟨hall, hlimited, hplace, hplace'⟩ := of_decide_eq_true hpermits
  obtain ⟨batch, batch', issue, issue', hdelivered, hdelivered', hissue, hissue', -, -, -,
    -, hid⟩ :=
    identifier_follows_place hinstalled rfl htime hseen [] [call] hfound hall hlimited
  dsimp only at hissue hissue' hid
  rw [hplace] at hissue hid
  rw [hplace'] at hissue' hid
  exact ⟨batch, batch', issue, issue', hdelivered .plain, hdelivered' .plain, hissue,
    hissue', hid rfl⟩

/-- What is published before an issue changes its identifier. The same finding of the same statement
is published on a new installation at the second place under the empty policy, and at the first one
if the finding before it is whitelisted. -/
theorem identifier_varies_with_policy :
    let registry := (Registry.new (.ofConfig .default) 0).install "app.db" ⟨"A", false⟩
    let limited := registry.setWhitelist "app.db" (.ofTables [("t", ["fuzzy_match"])])
    let x : Execution := ⟨"SELECT a FROM t WHERE a LIKE 'x' OR b = 1", 1, ""⟩
    let published (r : Registry) := (r.notifyNow "app.db" x).2.deliveries.flatMap Delivery.issues
    ∃ issue ∈ published registry, ∃ issue' ∈ published limited,
      issue.type = "or_condition" ∧ issue.nameless = issue'.nameless ∧ issue.id ≠ issue'.id := by
  intro registry limited x published
  have h : ((published registry).any fun issue => (published limited).any fun issue' =>
      issue.type == "or_condition" && issue.nameless == issue'.nameless && issue.id != issue'.id)
      = true := by decide +kernel
  obtain ⟨issue, hissue, h⟩ := List.any_eq_true.mp h
  obtain ⟨issue', hissue', h⟩ := List.any_eq_true.mp h
  simp only [Bool.and_eq_true, beq_iff_eq, bne_iff_ne, and_assoc] at h
  exact ⟨issue, hissue, issue', hissue', h⟩

end Registry

end QueryLint
