import QueryLint.Proofs.Analysis.Limits
import QueryLint.Proofs.Outline.Contents

/-!
# Joins and their conditions in a walk

A join that keeps what it matches rows by sets its flag, and its condition is walked: the stops of a
walk at a part of a query are, but for their depth, a section of the stops at the whole query
(`exists_infix_visits`), so that the walk over the query finds what a walk over the condition alone
finds (`Includes`). By `Outline.contains_of_isIn` this holds of every join in a query, in whatever
it is nested (`joins_of_lowerQuery`). Joins of some kinds, which `Outline.keepsConstraint` tells,
lose what they match rows by, and what is in their conditions is not found.
-/

namespace QueryLint

/-! ### Joins of a syntax tree -/

namespace Sql.Part

variable {keeps : JoinKind → Bool} {p : Part}

/-- Only joins call for the flag of joins. -/
theorem has_usingOrOn_iff :
    p.Has keeps .usingOrOn
      ↔ ∃ isGlobal kind relation constraint,
        (join (.mk isGlobal kind relation constraint)).IsIn keeps p
        ∧ keeps kind = true ∧ constraint.isGiven = true := by
  constructor
  · rintro ⟨q, hin, hshows⟩
    cases q with
    | join j =>
      obtain ⟨isGlobal, kind, relation, constraint⟩ := j
      simp only [shows, decide_true, Bool.true_and, Bool.and_eq_true] at hshows
      exact ⟨isGlobal, kind, relation, constraint, hin, hshows⟩
    | expr e => cases e <;> cases hshows
    | _ => cases hshows
  · rintro ⟨isGlobal, kind, relation, constraint, hin, hkept, hgiven⟩
    refine ⟨_, hin, ?_⟩
    simp only [shows, decide_true, Bool.true_and, Bool.and_eq_true]
    exact ⟨hkept, hgiven⟩

end Sql.Part

namespace Analysis

open Outline

/-! ### Walks that begin deeper -/

/-- The same stop so many levels deeper. -/
def Visit.deeper (k : Nat) : Visit → Visit
  | arrive d p => arrive (d + k) p
  | amid d p => amid (d + k) p

section Deeper

variable {depth k : Nat} {p q : Part}

/-- A walk that begins deeper makes the same stops, which are deeper by as much. -/
theorem visits_add (depth k : Nat) (p : Part) :
    visits (depth + k) p = (visits depth p).map (Visit.deeper k) := by
  induction p using Part.induct generalizing depth with
  | h p ih =>
    have hinside : ∀ parts : List Part, (∀ q ∈ parts, q ∈ p.inner) →
        visitsOf (depth + k) parts = (visitsOf depth parts).map (Visit.deeper k) := by
      intro parts hparts
      rw [visitsOf, visitsOf, List.map_flatMap]
      refine List.flatMap_congr fun q hq => ?_
      rw [Nat.add_right_comm]
      exact ih q (hparts q hq) (depth + q.levels)
    have hbefore := hinside p.before fun q hq => List.mem_append_left _ hq
    have hbehind := hinside p.behind fun q hq => List.mem_append_right _ hq
    rw [visits_eq, visits_eq, List.map_cons, List.map_append, List.map_cons, hbefore, hbehind]
    rfl

/-- The stops at a part are a section of the stops at whatever it is in. -/
theorem exists_infix_visits (h : q.IsIn p) (depth : Nat) :
    ∃ k, (visits 0 q).map (Visit.deeper k) <:+: visits depth p := by
  induction p using Part.induct generalizing depth with
  | h p ih =>
    rcases Part.isIn_iff.mp h with rfl | ⟨c, hc, hq⟩
    · have hsame : (visits 0 q).map (Visit.deeper depth) = visits depth q := by
        rw [← visits_add, Nat.zero_add]
      exact ⟨depth, hsame ▸ List.infix_rfl⟩
    · obtain ⟨k, hk⟩ := ih c hc hq (depth + c.levels)
      refine ⟨k, hk.trans ?_⟩
      have hsection : ∀ parts : List Part, c ∈ parts →
          visits (depth + c.levels) c <:+: visitsOf depth parts :=
        fun parts hparts => List.infix_of_mem_flatten (List.mem_map_of_mem hparts)
      have hbefore : visitsOf depth p.before <:+: visits depth p :=
        ⟨[.arrive depth p], .amid depth p :: visitsOf depth p.behind, by simp [visits_eq depth p]⟩
      have hbehind : visitsOf depth p.behind <:+: visits depth p :=
        ⟨.arrive depth p :: (visitsOf depth p.before ++ [.amid depth p]), [],
          by simp [visits_eq depth p]⟩
      rcases List.mem_append.mp hc with hc | hc
      · exact (hsection p.before hc).trans hbefore
      · exact (hsection p.behind hc).trans hbehind

variable (v : Visit)

/-- A stop moved down is so much deeper. -/
theorem Visit.depth_deeper : (v.deeper k).depth = v.depth + k := by cases v <;> rfl

/-- A stop moved down arrives at the same table. -/
theorem Visit.table?_deeper : (v.deeper k).table? = v.table? := by
  rcases v with ⟨d, _ | _ | _⟩ | ⟨d, _⟩ <;> rfl

/-- A stop moved down arrives at the same alias. -/
theorem Visit.alias?_deeper : (v.deeper k).alias? = v.alias? := by
  rcases v with ⟨d, _ | _ | _⟩ | ⟨d, _⟩ <;> rfl

/-- A stop moved down shows the same flags. -/
theorem Visit.shows_deeper (signal : Signal) : (v.deeper k).shows signal = v.shows signal := by
  cases v <;> rfl

/-- A stop moved down records the same groups. -/
theorem Visit.groups_deeper : (v.deeper k).groups = v.groups := by
  rcases v with ⟨d, _⟩ | ⟨d, _ | _ | _⟩ <;> rfl

end Deeper

/-! ### What walks find one more than the other -/

/-- One walk found all that another one found. -/
structure Includes (b a : Analysis) : Prop where
  flag : ∀ signal : Signal, signal.flag a.signals = true → signal.flag b.signals = true
  hasAnd : a.hasAnd = true → b.hasAnd = true
  columnGroups : a.columnGroups <:+: b.columnGroups
  tables : ∀ table ∈ a.readers.keys, table ∈ b.readers.keys
  aliases : ∀ aliasName ∈ a.aliases.keys, aliasName ∈ b.aliases.keys

/-- What is found at a section of some stops is found at all of them, however deep they are. -/
theorem includes_of_infix {stops more : List Visit} {k : Nat}
    (h : stops.map (Visit.deeper k) <:+: more) :
    Includes (more.foldl (fun a v => v.note a) start)
      (stops.foldl (fun a v => v.note a) start) := by
  have hfew := Extends.foldl stops start
  have hmany := Extends.foldl more start
  have hany : ∀ {found : Visit → Bool}, (∀ v : Visit, found (v.deeper k) = found v) →
      stops.any found = true → more.any found = true := by
    intro found hfound hsome
    obtain ⟨v, hv, hv'⟩ := List.any_eq_true.mp hsome
    exact List.any_eq_true.mpr ⟨v.deeper k, h.subset (List.mem_map_of_mem hv), (hfound v).trans hv'⟩
  have hkept : ∀ {α : Type} {noted? : Visit → Option α},
      (∀ v : Visit, noted? (v.deeper k) = noted? v) →
      ∀ a ∈ stops.filterMap noted?, a ∈ more.filterMap noted? := by
    intro α noted? hnoted a ha
    obtain ⟨v, hv, hv'⟩ := List.mem_filterMap.mp ha
    exact List.mem_filterMap.mpr ⟨v.deeper k, h.subset (List.mem_map_of_mem hv),
      (hnoted v).trans hv'⟩
  -- What is noted at a stop does not depend on how deep it is made.
  refine ⟨fun signal => ?_, ?_, ?_, fun table => ?_, fun aliasName => ?_⟩
  · have hstart : signal.flag start.signals = false := by cases signal <;> rfl
    rw [hfew.flag_eq, hmany.flag_eq, hstart, Bool.false_or, Bool.false_or]
    exact hany fun v => v.shows_deeper signal
  · rw [hfew.hasAnd, hmany.hasAnd]
    exact hany fun v => by rw [v.groups_deeper]
  · have hsame : (stops.map (Visit.deeper k)).flatMap Visit.groups
        = stops.flatMap Visit.groups := by
      rw [List.flatMap_map]
      exact List.flatMap_congr fun v _ => v.groups_deeper
    obtain ⟨front, back, rfl⟩ := h
    rw [hfew.columnGroups, hmany.columnGroups, List.flatMap_append, List.flatMap_append, hsame]
    exact ⟨front.flatMap Visit.groups, back.flatMap Visit.groups, rfl⟩
  · rw [keys_readers_foldl, keys_readers_foldl, List.mem_eraseDups, List.mem_eraseDups]
    exact hkept Visit.table?_deeper table
  · rw [aliases_foldl, aliases_foldl, OrderedMap.keys_ofList, OrderedMap.keys_ofList,
      List.mem_eraseDups, List.mem_eraseDups]
    intro halias
    obtain ⟨entry, hentry, rfl⟩ := List.mem_map.mp halias
    exact List.mem_map_of_mem (hkept Visit.alias?_deeper entry hentry)

variable {limit levels : Nat} {root : Select}

/-- A walk over a query that was not cut short finds all that a walk over an expression in it finds,
which is not cut short either. -/
theorem includes_of_isIn (hwhole : (ofSelect limit root).truncated = false) {e : Expr}
    (hin : (Part.expr none e).IsIn (.select root)) :
    (visitExpr limit none e start).truncated = false
      ∧ Includes (ofSelect limit root) (visitExpr limit none e start) := by
  obtain ⟨k, hk⟩ := exists_infix_visits hin 0
  have hshallow : ∀ v ∈ visits 0 (.expr none e), v.depth < limit := by
    intro v hv
    have hdeeper := List.filter_eq_self.mp (shallowVisits_of_whole hwhole) (v.deeper k)
      (hk.subset (List.mem_map_of_mem hv))
    have hlt : (v.deeper k).depth < limit := of_decide_eq_true hdeeper
    rw [v.depth_deeper] at hlt
    exact Nat.lt_of_add_right_lt hlt
  have halone : visitExpr limit none e start
      = (visits 0 (.expr none e)).foldl (fun a v => v.note a) start :=
    (makesItsStops limit (.expr none e) start).trans (follow_of_shallow hshallow start)
  rw [halone, ofSelect_eq_foldl_of_whole hwhole]
  exact ⟨(Extends.foldl _ start).truncated, includes_of_infix hk⟩

/-! ### Joins of a query -/

/-- A join of a kind that loses what it matches rows by is lowered as a join that matches them by
nothing. -/
theorem lowerJoins_of_lost {kind : Sql.JoinKind} (hlost : keepsConstraint kind = false)
    (isGlobal : Bool) (relation : Sql.TableFactor) (constraint : Sql.JoinConstraint)
    (rest : List Sql.Join) :
    lowerJoins levels (.mk isGlobal kind relation constraint :: rest)
      = lowerJoins levels (.mk isGlobal kind relation .none :: rest) := by
  have hsame : ∀ found, lowerConstraint levels (keepsConstraint kind) constraint found
      = lowerConstraint levels (keepsConstraint kind) .none found := by
    intro found
    rw [hlost]
    cases constraint <;> simp only [lowerConstraint]
  simp only [lowerJoins, hsame]

/-- What stands in conditions that joins lose does not count here (`IsIn keepsConstraint`). A walk
over the outline of a query that was not cut short notes that rows are matched exactly if the query
has a join with `ON` or `USING` that is of a kind which keeps it. For each such join, the outline of
its condition is on a source of the outline, and the walk finds all that a walk over this outline
alone finds: flags, chains, tables and aliases; or its columns are on a source. Altogether the flags
are those that something in the query calls for. Joins of other kinds are lowered as if they matched
rows by nothing. -/
theorem joins_of_lowerQuery {q : Sql.Query} (hlower : lowerQuery levels q = .ok root)
    (hwhole : (ofSelect limit root).truncated = false) :
    let found := ofSelect limit root
    (found.hasUsingOrOn = true
        ↔ ∃ isGlobal kind relation constraint,
          (Sql.Part.join (.mk isGlobal kind relation constraint)).IsIn keepsConstraint (.query q)
            ∧ keepsConstraint kind = true ∧ constraint.isGiven = true)
      ∧ (∀ isGlobal kind relation condition,
        (Sql.Part.join (.mk isGlobal kind relation (.on condition))).IsIn keepsConstraint
          (.query q) → keepsConstraint kind = true →
            ∃ e reader s, lowerExpr levels condition = .ok e ∧ s.on = some e
              ∧ (Part.source reader s).IsIn (.select root)
              ∧ (visitExpr limit none e start).truncated = false
              ∧ found.Includes (visitExpr limit none e start))
      ∧ (∀ isGlobal kind relation columns,
        (Sql.Part.join (.mk isGlobal kind relation (.using columns))).IsIn keepsConstraint
          (.query q) → keepsConstraint kind = true →
            ∃ reader s, s.columns = some (columns.map Sql.ObjectName.render)
              ∧ (Part.source reader s).IsIn (.select root))
      ∧ (∀ signal : Signal, signal.flag found.signals = true
        ↔ (Sql.Part.query q).Has keepsConstraint signal)
      ∧ ∀ n isGlobal kind relation constraint rest, keepsConstraint kind = false →
        lowerJoins n (.mk isGlobal kind relation constraint :: rest)
          = lowerJoins n (.mk isGlobal kind relation .none :: rest) := by
  intro found
  have hflag : ∀ signal : Signal, signal.flag found.signals = true
      ↔ (Sql.Part.query q).Has keepsConstraint signal :=
    fun signal => (flag_iff_of_whole hwhole signal).trans (has_lowerQuery_iff hlower)
  refine ⟨(hflag .usingOrOn).trans Sql.Part.has_usingOrOn_iff, ?_, ?_, hflag, ?_⟩
  · intro isGlobal kind relation condition hin hkept
    obtain ⟨e, reader, s, hcondition, hon, hsource⟩ :=
      exists_source_of_on hkept (contains_of_isIn hlower hin)
    have hinner : Part.expr none e ∈ (Part.source reader s).inner := by
      refine List.mem_append_right _ ?_
      rw [Part.behind, hon]
      exact List.mem_cons_self
    exact ⟨e, reader, s, hcondition, hon, hsource, includes_of_isIn hwhole (hsource.inside hinner)⟩
  · intro isGlobal kind relation columns hin hkept
    exact exists_source_of_using hkept (contains_of_isIn hlower hin)
  · intro n isGlobal kind relation constraint rest hlost
    exact lowerJoins_of_lost hlost isGlobal relation constraint rest

/-- A join in parentheses, and around it one whose condition is a conjunction of two comparisons. -/
theorem joins_of_lowerQuery_of_parentheses :
    let named (name : String) : Sql.TableFactor := .table ⟨[.plain name]⟩ "" none ""
    let equal (left right : String) : Sql.Expr :=
      .binary (.ident (.plain left)) .eq (.ident (.plain right))
    let condition : Sql.Expr := .binary (equal "a" "x") .and (equal "b" "y")
    let inside : Sql.TableJoins :=
      .mk (named "u") [.mk false .join (named "v") (.using [⟨[.plain "k"]⟩])]
    let source : Sql.TableJoins :=
      .mk (named "t") [.mk false .left (.nested inside none) (.on condition)]
    let q : Sql.Query := .mk false []
      (.select (.mk .standard "" [.wildcard "*"] "" [source] "" none (.keys [] "") "" none ""))
      (.keys [] "") (.clauses none none "") ""
    ∃ root, lowerQuery 8 q = .ok root ∧ (ofSelect 8 root).truncated = false
      ∧ (ofSelect 8 root).hasUsingOrOn = true
      ∧ [["a", "b"]] <:+: (ofSelect 8 root).columnGroups
      ∧ ∃ reader s, s.columns = some ["k"] ∧ (Part.source reader s).IsIn (.select root) := by
  intro named equal condition inside source q
  obtain ⟨root, hlower, hwhole⟩ :
      ∃ root, lowerQuery 8 q = .ok root ∧ (ofSelect 8 root).truncated = false :=
    ⟨_, rfl, by decide_cbv⟩
  have hsource : (Sql.Part.tableJoins source).IsIn keepsConstraint (.query q) :=
    ((Relation.ReflTransGen.refl.tail List.mem_cons_self).tail List.mem_cons_self).tail
      List.mem_cons_self
  have houter :
      (Sql.Part.join (.mk false .left (.nested inside none) (.on condition))).IsIn keepsConstraint
        (.query q) :=
    hsource.tail (List.mem_cons_of_mem _ List.mem_cons_self)
  have hinner :
      (Sql.Part.join (.mk false .join (named "v") (.using [⟨[.plain "k"]⟩]))).IsIn keepsConstraint
        (.query q) :=
    ((houter.tail List.mem_cons_self).tail List.mem_cons_self).tail
      (List.mem_cons_of_mem _ List.mem_cons_self)
  obtain ⟨hflag, hon, husing, -⟩ := joins_of_lowerQuery hlower hwhole
  obtain ⟨e, -, -, hcondition, -, -, -, hincludes⟩ := hon _ _ _ _ houter rfl
  have hgroups : (visitExpr 8 none e start).columnGroups = [["a", "b"]] := by
    cases hcondition
    decide_cbv
  refine ⟨root, hlower, hwhole, hflag.mpr ⟨_, _, _, _, houter, rfl, rfl⟩, ?_,
    husing _ _ _ _ hinner rfl⟩
  rw [← hgroups]
  exact hincludes.columnGroups

/-- A match behind `ON` sets both flags for a plain join, and none for three other kinds of
joins. -/
theorem conditions_of_joins_lost :
    let named (name : String) : Sql.TableFactor := .table ⟨[.plain name]⟩ "" none ""
    let column (table : String) : Sql.Expr := .compound [.plain table, .plain "id"]
    let condition : Sql.Expr := .pattern .like false false (column "a") (column "b") none
    let join (kind : Sql.JoinKind) : Sql.Join := .mk false kind (named "b") (.on condition)
    let q (kind : Sql.JoinKind) : Sql.Query := .mk false []
      (.select (.mk .standard "" [.wildcard "*"] "" [.mk (named "a") [join kind]] "" none
        (.keys [] "") "" none ""))
      (.keys [] "") (.clauses none none "") ""
    let finds (kind : Sql.JoinKind) (flags : Bool) : Prop :=
      (Sql.Part.join (join kind)).IsIn Sql.everyJoin (.query (q kind))
        ∧ ∃ root, lowerQuery 8 (q kind) = .ok root ∧ (ofSelect 8 root).truncated = false
          ∧ (ofSelect 8 root).hasUsingOrOn = flags ∧ (ofSelect 8 root).hasFuzzyMatching = flags
    finds .join true ∧ finds .straight false ∧ finds .cross false
      ∧ finds (.asOf "a.at >= b.at") false := by
  intro named column condition join q finds
  have hin : ∀ kind, (Sql.Part.join (join kind)).IsIn Sql.everyJoin (.query (q kind)) := fun kind =>
    (((Relation.ReflTransGen.refl.tail List.mem_cons_self).tail List.mem_cons_self).tail
      List.mem_cons_self).tail
      (List.mem_cons_of_mem _ List.mem_cons_self)
  refine ⟨⟨hin .join, ?_⟩, ⟨hin .straight, ?_⟩, ⟨hin .cross, ?_⟩, hin (.asOf "a.at >= b.at"), ?_⟩
  all_goals exact ⟨_, rfl, by decide_cbv, by decide_cbv, by decide_cbv⟩

end Analysis

end QueryLint
