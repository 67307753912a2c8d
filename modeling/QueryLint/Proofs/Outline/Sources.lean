import Mathlib.Data.List.Forall2
import QueryLint.Proofs.Outline.Levels
import QueryLint.Proofs.Outline.Limits

/-!
# Sources and their joins

The sources of a `FROM` clause come out in one list, whatever parentheses they stand in, with what a
join matches rows by on the first of the sources that it joins (`lowerSources_records`). No two
joins begin at the same source: the sources that a join in parentheses joins begin behind the first
source in the parentheses (`before_lt_first`), where the join around it begins. So no condition
takes the place of another one.

The list may as well be filled from left to right, by writing what a join matches rows by at the
place that was the end of the list before the sources of the join were added: this is `sourcesInto`,
which also keeps the places that were written at.
-/

namespace QueryLint

/-! ### Sources and joins of a clause -/

namespace Sql

mutual

/-- The sources that are no joins in parentheses, from left to right. -/
def TableJoins.leaves : TableJoins → List TableFactor
  | .mk relation joins => relation.leaves ++ joinLeaves joins

/-- The sources of a source, itself if it is no join in parentheses. -/
def TableFactor.leaves : TableFactor → List TableFactor
  | .table name beforeAlias aliasName behindAlias => [.table name beforeAlias aliasName behindAlias]
  | .derived lateral query aliasName => [.derived lateral query aliasName]
  | .nested inner _ => inner.leaves
  | .verbatim beforeAlias aliasName behindAlias => [.verbatim beforeAlias aliasName behindAlias]

/-- The sources that are joined. -/
def joinLeaves : List Join → List TableFactor
  | [] => []
  | .mk _ _ relation _ :: rest => relation.leaves ++ joinLeaves rest

end

/-- A join, with the place of the first source that it joins. -/
structure Joining where
  first : Nat
  kind : JoinKind
  relation : TableFactor
  constraint : JoinConstraint

mutual

/-- The joins of a source with the joins that follow it, those in parentheses before the join that
they are joined by. So many sources stand before. -/
def TableJoins.joinings (before : Nat) : TableJoins → List Joining
  | .mk relation joins =>
    relation.joinings before ++ joinJoinings (before + relation.leaves.length) joins

/-- The joins in a source that is one in parentheses. -/
def TableFactor.joinings (before : Nat) : TableFactor → List Joining
  | .nested inner _ => inner.joinings before
  | .table _ _ _ _ | .derived _ _ _ | .verbatim _ _ _ => []

/-- The joins among some joins, with those in their relations. -/
def joinJoinings (before : Nat) : List Join → List Joining
  | [] => []
  | .mk _ kind relation constraint :: rest =>
    relation.joinings before
      ++ ⟨before, kind, relation, constraint⟩ :: joinJoinings (before + relation.leaves.length) rest

end

/-- The sources of a `FROM` clause that are no joins in parentheses. -/
def fromLeaves (tables : List TableJoins) : List TableFactor :=
  tables.flatMap TableJoins.leaves

/-- The joins of a `FROM` clause. -/
def fromJoinings (before : Nat) : List TableJoins → List Joining
  | [] => []
  | t :: rest => t.joinings before ++ fromJoinings (before + t.leaves.length) rest

mutual

/-- A relation with its joins has a leaf. -/
theorem TableJoins.leaves_ne_nil : ∀ t : TableJoins, t.leaves ≠ []
  | .mk relation _ => fun h => relation.leaves_ne_nil (List.append_eq_nil_iff.mp h).1

/-- A table factor has a leaf. -/
theorem TableFactor.leaves_ne_nil : ∀ f : TableFactor, f.leaves ≠ []
  | .table _ _ _ _ | .derived _ _ _ | .verbatim _ _ _ => List.cons_ne_nil _ _
  | .nested inner _ => inner.leaves_ne_nil

end

mutual

/-- The joins in parentheses begin behind the first source in them. -/
theorem TableJoins.before_lt_first (before : Nat) :
    ∀ t : TableJoins, ∀ j ∈ t.joinings before, before < j.first
  | .mk relation joins => by
    intro j hj
    rcases List.mem_append.mp hj with hj | hj
    · exact relation.before_lt_first before j hj
    · have hle := before_le_first (before + relation.leaves.length) joins j hj
      have hpos := List.length_pos_iff.mpr relation.leaves_ne_nil
      omega

/-- A join stands behind the first leaf that comes before it. -/
theorem TableFactor.before_lt_first (before : Nat) :
    ∀ f : TableFactor, ∀ j ∈ f.joinings before, before < j.first
  | .table _ _ _ _ | .derived _ _ _ | .verbatim _ _ _ => by
    intro j hj
    cases hj
  | .nested inner _ => inner.before_lt_first before

/-- A join of a list stands behind the leaves that come before the list. -/
theorem before_le_first (before : Nat) :
    ∀ joins : List Join, ∀ j ∈ joinJoinings before joins, before ≤ j.first
  | [] => by
    intro j hj
    cases hj
  | .mk _ kind relation constraint :: rest => by
    intro j hj
    rcases List.mem_append.mp hj with hj | hj
    · exact Nat.le_of_lt (relation.before_lt_first before j hj)
    · rcases List.mem_cons.mp hj with rfl | hj
      · exact Nat.le_refl before
      · have hle := before_le_first (before + relation.leaves.length) rest j hj
        omega

end

end Sql

namespace Outline

open Sql (Joining)

/-! ### Sources with what they are joined by -/

/-- Whether a join writes something on a source. -/
def writes (j : Joining) : Bool :=
  keepsConstraint j.kind && j.constraint.isGiven

/-- What a join matches rows by is on a source: the outline of a condition, the names of columns, or
nothing if the join has neither or the outline does not keep it. -/
def Carries (levels : Nat) (j : Joining) (s : Source) : Prop :=
  match keepsConstraint j.kind, j.constraint with
  | true, .on condition => s.columns = none ∧ ∃ e, s.on = some e
    ∧ lowerExpr levels condition = .ok e
  | true, .using columns => s.columns = some (columns.map Sql.ObjectName.render) ∧ s.on = none
  | _, _ => s.columns = none ∧ s.on = none

/-- Sources are what became of some leaves, of which so many others stand before, and of the joins
among them. -/
structure Records (levels before : Nat) (leaves : List Sql.TableFactor) (joinings : List Joining)
    (found : List Source) : Prop where
  /-- Each leaf has one source, which it becomes but for what it is joined by. -/
  entries : List.Forall₂ (fun leaf s => lowerTableFactor levels leaf = .ok [s.bare]) leaves found
  /-- What a join joins begins at a source that carries what the join matches rows by. -/
  carried : ∀ j ∈ joinings, ∃ k s, j.first = before + k ∧ found[k]? = some s ∧ Carries levels j s
    ∧ j.relation.leaves <+: leaves.drop k
  /-- No two joins begin at the same source. -/
  distinct : (joinings.map Joining.first).Nodup
  /-- Where no join begins there is nothing to match rows by. -/
  plain : ∀ k s, found[k]? = some s → before + k ∉ joinings.map Joining.first →
    s.columns = none ∧ s.on = none

variable {levels m before : Nat} {leaves leaves' : List Sql.TableFactor}
    {joinings joinings' : List Joining}
  {found found' : List Source}

/-- What a join matches rows by is written on the first source, which carries it then if nothing was
written there before. -/
theorem exists_of_lowerConstraint {j : Joining} {s : Source} {rest joined : List Source}
    (hjoined : lowerConstraint levels (keepsConstraint j.kind) j.constraint (s :: rest)
      = .ok joined) :
    ∃ s', joined = s' :: rest ∧ s'.bare = s.bare
      ∧ (s.columns = none ∧ s.on = none → Carries levels j s') := by
  obtain ⟨first, kind, relation, constraint⟩ := j
  dsimp only at hjoined
  unfold Carries
  dsimp only
  cases hkept : keepsConstraint kind with
  | false =>
    rw [hkept] at hjoined
    have hsame : (pure (s :: rest) : Lowered _) = .ok joined := by
      cases constraint <;> simpa only [lowerConstraint] using hjoined
    obtain rfl := pure_eq_ok_iff.mp hsame
    exact ⟨s, rfl, rfl, id⟩
  | true =>
    rw [hkept] at hjoined
    cases constraint with
    | on condition =>
      simp only [lowerConstraint, bind_eq_ok_iff, pure_eq_ok_iff] at hjoined
      obtain ⟨e, hlower, rfl⟩ := hjoined
      exact ⟨_, rfl, rfl, fun hplain => ⟨hplain.1, e, rfl, hlower⟩⟩
    | «using» columns =>
      simp only [lowerConstraint] at hjoined
      obtain rfl := pure_eq_ok_iff.mp hjoined
      exact ⟨_, rfl, rfl, fun hplain => ⟨rfl, hplain.2⟩⟩
    | natural | none =>
      simp only [lowerConstraint] at hjoined
      obtain rfl := pure_eq_ok_iff.mp hjoined
      exact ⟨s, rfl, rfl, id⟩

/-- A source that gets nothing from a join has no columns and no condition. -/
theorem Carries.plain {j : Joining} {s : Source} (h : Carries levels j s)
    (hwrites : writes j = false) : s.columns = none ∧ s.on = none := by
  obtain ⟨first, kind, relation, constraint⟩ := j
  unfold Carries at h
  unfold writes at hwrites
  dsimp only at h hwrites
  cases hkept : keepsConstraint kind with
  | false => simpa only [hkept] using h
  | true =>
    rw [hkept] at h hwrites
    cases constraint with
    | on | «using» => cases hwrites
    | natural | none => exact h

/-- A source has what a join gives it, also with more levels. -/
theorem Carries.mono {j : Joining} {s : Source} (hlevels : levels ≤ m) (h : Carries levels j s) :
    Carries m j s := by
  unfold Carries at h ⊢
  split at h
  · obtain ⟨hcolumns, e, hon, hlower⟩ := h
    exact ⟨hcolumns, e, hon, refines_lowerExpr hlevels _ e hlower⟩
  · exact h
  · exact h

namespace Records

/-- Nothing is recorded of nothing. -/
theorem nil : Records levels before [] [] [] where
  entries := .nil
  carried := fun _ hj => by cases hj
  distinct := List.nodup_nil
  plain := fun _ _ hs => by cases hs

/-- A leaf becomes one source. -/
theorem leaf {f : Sql.TableFactor} {s : Source} (hlower : lowerTableFactor levels f = .ok [s])
    (hbare : s.bare = s) : Records levels before [f] [] [s] where
  entries := .cons (by rw [hbare, hlower]) .nil
  carried := fun _ hj => by cases hj
  distinct := List.nodup_nil
  plain := fun k s' hs _ => by
    obtain rfl := List.mem_singleton.mp (List.mem_of_getElem? hs)
    rw [← hbare]
    exact ⟨rfl, rfl⟩

/-- More levels make no difference. -/
theorem mono (hlevels : levels ≤ m) (h : Records levels before leaves joinings found) :
    Records m before leaves joinings found where
  entries := h.entries.imp fun f s hlower => refines_lowerTableFactor hlevels f _ hlower
  carried := fun j hj => by
    obtain ⟨k, s, hk, hs, hcarries, hleaves⟩ := h.carried j hj
    exact ⟨k, s, hk, hs, hcarries.mono hlevels, hleaves⟩
  distinct := h.distinct
  plain := h.plain

/-- The joins begin at sources that are there. -/
theorem first_lt (h : Records levels before leaves joinings found) {j : Joining}
    (hj : j ∈ joinings) : before ≤ j.first ∧ j.first < before + leaves.length := by
  obtain ⟨k, s, hk, hs, -, -⟩ := h.carried j hj
  obtain ⟨hlt, -⟩ := List.getElem?_eq_some_iff.mp hs
  rw [← h.entries.length_eq] at hlt
  omega

/-- A relation that has leaves records a source at least. -/
theorem exists_cons (h : Records levels before leaves joinings found) (hleaves : leaves ≠ []) :
    ∃ s rest, found = s :: rest := by
  refine List.exists_cons_of_length_pos ?_
  rw [← h.entries.length_eq]
  exact List.length_pos_iff.mpr hleaves

/-- Sources that stand one behind the other. -/
theorem append (h : Records levels before leaves joinings found)
    (h' : Records levels (before + leaves.length) leaves' joinings' found') :
    Records levels before (leaves ++ leaves') (joinings ++ joinings') (found ++ found') where
  entries := List.rel_append h.entries h'.entries
  carried := fun j hj => by
    have hlength := h.entries.length_eq
    rcases List.mem_append.mp hj with hj | hj
    · obtain ⟨k, s, hk, hs, hcarries, hleaves⟩ := h.carried j hj
      obtain ⟨hlt, -⟩ := List.getElem?_eq_some_iff.mp hs
      refine ⟨k, s, hk, ?_, hcarries, ?_⟩
      · rw [List.getElem?_append_left hlt, hs]
      · rw [List.drop_append_of_le_length (by omega)]
        exact hleaves.trans (List.prefix_append _ _)
    · obtain ⟨k, s, hk, hs, hcarries, hleaves⟩ := h'.carried j hj
      refine ⟨leaves.length + k, s, by omega, ?_, hcarries, ?_⟩
      · rw [hlength, List.getElem?_append_right (Nat.le_add_right _ _), Nat.add_sub_cancel_left, hs]
      · rw [List.drop_length_add_append]
        exact hleaves
  distinct := by
    rw [List.map_append, List.nodup_append]
    refine ⟨h.distinct, h'.distinct, fun first hfirst first' hfirst' => ?_⟩
    obtain ⟨j, hj, rfl⟩ := List.mem_map.mp hfirst
    obtain ⟨j', hj', rfl⟩ := List.mem_map.mp hfirst'
    have hlt := (h.first_lt hj).2
    have hle := (h'.first_lt hj').1
    omega
  plain := fun k s hs hfirst => by
    have hlength := h.entries.length_eq
    rw [List.map_append, List.mem_append, not_or] at hfirst
    rcases Nat.lt_or_ge k found.length with hlt | hge
    · rw [List.getElem?_append_left hlt] at hs
      exact h.plain k s hs hfirst.1
    · rw [List.getElem?_append_right hge] at hs
      have hplace : before + leaves.length + (k - found.length) = before + k := by omega
      exact h'.plain _ s hs (hplace ▸ hfirst.2)

/-- The first of some sources may have something written on it for a join that begins there, if no
other join does. -/
theorem write {j : Joining} {s s' : Source} {rest : List Source}
    (h : Records levels before j.relation.leaves joinings (s :: rest)) (hj : j.first = before)
    (hlater : ∀ j ∈ joinings, before < j.first) (hbare : s'.bare = s.bare)
    (hcarries : Carries levels j s') :
    Records levels before j.relation.leaves (joinings ++ [j]) (s' :: rest) where
  entries := by
    cases hleaves : j.relation.leaves with
    | nil => exact absurd hleaves j.relation.leaves_ne_nil
    | cons leaf others =>
      have hentries := h.entries
      rw [hleaves] at hentries
      obtain ⟨hfirst, hrest⟩ := List.forall₂_cons.mp hentries
      exact .cons (by rw [hbare, hfirst]) hrest
  carried := fun i hi => by
    rcases List.mem_append.mp hi with hi | hi
    · obtain ⟨k, t, hk, ht, hcarries, hleaves⟩ := h.carried i hi
      have hlt := hlater i hi
      obtain ⟨k, rfl⟩ : ∃ l, k = l + 1 := ⟨k - 1, by omega⟩
      exact ⟨k + 1, t, hk, ht, hcarries, hleaves⟩
    · obtain rfl := List.mem_singleton.mp hi
      exact ⟨0, s', hj, rfl, hcarries, List.prefix_rfl⟩
  distinct := by
    rw [List.map_append, List.nodup_append]
    refine ⟨h.distinct, List.pairwise_singleton _ _, fun first hfirst first' hfirst' => ?_⟩
    obtain ⟨i, hi, rfl⟩ := List.mem_map.mp hfirst
    obtain rfl := List.mem_singleton.mp hfirst'
    have hlt := hlater i hi
    omega
  plain := fun k t ht hfirst => by
    rw [List.map_append, List.mem_append, not_or] at hfirst
    cases k with
    | zero => exact absurd (List.mem_singleton.mpr hj.symm) hfirst.2
    | succ k => exact h.plain (k + 1) t ht hfirst.1

end Records

/-! ### What lowering makes of a clause -/

mutual

/-- A relation with its joins records one source for each leaf, and the conditions at the first
leaves of the joined relations. -/
theorem records_lowerTableJoins {levels : Nat} (before : Nat) : ∀ (t : Sql.TableJoins)
    {found : List Source},
    lowerTableJoins levels t = .ok found → Records levels before t.leaves (t.joinings before) found
  | .mk relation joins, found, h => by
    simp only [lowerTableJoins, bind_eq_ok_iff, pure_eq_ok_iff] at h
    obtain ⟨opening, hopening, joined, hjoined, rfl⟩ := h
    exact (records_lowerTableFactor before relation hopening).append
      (records_lowerJoins _ joins hjoined)

/-- So does a table factor. -/
theorem records_lowerTableFactor {levels : Nat} (before : Nat) :
    ∀ (f : Sql.TableFactor) {found : List Source},
      lowerTableFactor levels f = .ok found →
        Records levels before f.leaves (f.joinings before) found
  | .table name beforeAlias aliasName behindAlias, found, h => by
    have hlower := h
    obtain rfl := pure_eq_ok_iff.mp h
    exact .leaf hlower rfl
  | .verbatim beforeAlias aliasName behindAlias, found, h => by
    have hlower := h
    obtain rfl := pure_eq_ok_iff.mp h
    exact .leaf hlower rfl
  | .derived lateral query aliasName, found, h => by
    have hlower := h
    simp only [lowerTableFactor, bind_eq_ok_iff, pure_eq_ok_iff] at h
    obtain ⟨root, hroot, rfl⟩ := h
    exact .leaf hlower rfl
  | .nested inner aliasName, found, h => by
    rw [lowerTableFactor, nested_eq_ok_iff] at h
    obtain ⟨n, rfl, hfound⟩ := h
    exact (records_lowerTableJoins before inner hfound).mono (Nat.le_succ n)

/-- So does a list of joins. -/
theorem records_lowerJoins {levels : Nat} (before : Nat) : ∀ (joins : List Sql.Join)
    {found : List Source},
    lowerJoins levels joins = .ok found →
      Records levels before (Sql.joinLeaves joins) (Sql.joinJoinings before joins) found
  | [], found, h => by
    obtain rfl := pure_eq_ok_iff.mp h
    exact .nil
  | .mk isGlobal kind relation constraint :: rest, found, h => by
    simp only [lowerJoins, bind_eq_ok_iff, pure_eq_ok_iff] at h
    obtain ⟨opening, hopening, joined, hjoined, others, hothers, rfl⟩ := h
    have hinner := records_lowerTableFactor before relation hopening
    have hlater := relation.before_lt_first before
    obtain ⟨s, tail, rfl⟩ := hinner.exists_cons relation.leaves_ne_nil
    -- No join in the parentheses begins where they begin, so nothing is written there yet.
    have hplain : s.columns = none ∧ s.on = none := by
      refine hinner.plain 0 s rfl fun hfirst => ?_
      obtain ⟨j, hj, hat⟩ := List.mem_map.mp hfirst
      exact absurd (hlater j hj) (by omega)
    let j : Joining := ⟨before, kind, relation, constraint⟩
    obtain ⟨s', rfl, hbare, hcarries⟩ := exists_of_lowerConstraint (j := j) hjoined
    have houter :
        Records levels before relation.leaves (relation.joinings before ++ [j]) (s' :: tail) :=
      .write hinner rfl hlater hbare (hcarries hplain)
    have hall := houter.append (records_lowerJoins _ rest hothers)
    rw [List.append_assoc] at hall
    exact hall

end

/-- So do the relations of a FROM. -/
theorem records_lowerSources {levels : Nat} (before : Nat) (tables : List Sql.TableJoins)
    {found : List Source} (h : lowerSources levels tables = .ok found) :
    Records levels before (Sql.fromLeaves tables) (Sql.fromJoinings before tables) found := by
  induction tables generalizing before found with
  | nil =>
    obtain rfl := pure_eq_ok_iff.mp h
    exact .nil
  | cons t rest ih =>
    simp only [lowerSources, bind_eq_ok_iff, pure_eq_ok_iff] at h
    obtain ⟨first, hfirst, others, hothers, rfl⟩ := h
    exact (records_lowerTableJoins before t hfirst).append (ih _ hothers)

/-! ### Filling one list -/

/-- Sources that are gathered in one list, and the places of it that something was written at. -/
structure Filling where
  sources : List Source
  written : List Nat

namespace Filling

/-- Puts a source behind the others. -/
def push (filling : Filling) (s : Source) : Filling :=
  { filling with sources := filling.sources ++ [s] }

/-- Writes something on the source at a place, if there is one. -/
def write (filling : Filling) (place : Nat) (change : Source → Source) : Filling :=
  match filling.sources[place]? with
  | some s => ⟨filling.sources.set place (change s), filling.written ++ [place]⟩
  | none => filling

/-- The list with more sources, and the places that some joins write at. -/
def extend (filling : Filling) (joinings : List Joining) (found : List Source) : Filling where
  sources := filling.sources ++ found
  written := filling.written ++ (joinings.filter writes).map Joining.first

/-- Filling in nothing changes nothing. -/
theorem extend_nil (filling : Filling) : filling.extend [] [] = filling := by
  simp [extend]

/-- Filling in two lists is filling in both one after the other. -/
theorem extend_extend (filling : Filling) (joinings joinings' : List Joining)
    (found found' : List Source) :
    (filling.extend joinings found).extend joinings' found'
      = filling.extend (joinings ++ joinings') (found ++ found') := by
  simp [extend]

/-- Writing to the first of the new sources is filling in the changed one. -/
theorem write_extend (filling : Filling) (joinings : List Joining) {j : Joining}
    (hwrites : writes j = true) (hfirst : j.first = filling.sources.length) (s : Source)
    (rest : List Source) (change : Source → Source) :
    (filling.extend joinings (s :: rest)).write j.first change
      = filling.extend (joinings ++ [j]) (change s :: rest) := by
  have hplace : (filling.sources ++ s :: rest)[j.first]? = some s := by
    rw [hfirst, List.getElem?_append_right (Nat.le_refl _), Nat.sub_self]
    rfl
  have hset : (filling.sources ++ s :: rest).set j.first (change s)
      = filling.sources ++ change s :: rest := by
    rw [hfirst, List.set_append_right _ _ (Nat.le_refl _), Nat.sub_self]
    rfl
  simp only [write, extend, hplace, hset, List.filter_append, List.map_append, List.append_assoc,
    List.filter_singleton, hwrites, List.map_cons, List.map_nil, cond_true]

end Filling

/-- Writes at a place what a join matches rows by, if the outline keeps it. -/
def writeConstraint (levels : Nat) (kept : Bool) (constraint : Sql.JoinConstraint) (place : Nat)
    (filling : Filling) : Lowered Filling :=
  match kept, constraint with
  | true, .on condition => do
    let e ← lowerExpr levels condition
    return filling.write place fun s => { s with on := some e }
  | true, .using columns =>
    return filling.write
      place fun s => { s with columns := some (columns.map Sql.ObjectName.render) }
  | _, _ => return filling

mutual

/-- Adds a source and the sources joined to it. -/
def fillTableJoins (levels : Nat) (filling : Filling) : Sql.TableJoins → Lowered Filling
  | .mk relation joins => do fillJoins levels (← fillTableFactor levels filling relation) joins

/-- Adds the sources of one table, derived table or join in parentheses. -/
def fillTableFactor (levels : Nat) (filling : Filling) : Sql.TableFactor → Lowered Filling
  | .table name _ aliasName _ =>
    return filling.push
      { Source.table name.render with aliasName := aliasName.map fun a => a.name.value }
  | .derived _ query aliasName =>
    return filling.push { Source.derived (← lowerQuery levels query) with
      aliasName := aliasName.map fun a => a.name.value }
  | .nested inner _ => nested levels fun n => fillTableJoins n filling inner
  | .verbatim _ _ _ => return filling.push .blank

/-- Adds the sources of some joins. What a join matches rows by is written at the place that was the
end of the list before its sources were added. -/
def fillJoins (levels : Nat) (filling : Filling) : List Sql.Join → Lowered Filling
  | [] => return filling
  | .mk _ kind relation constraint :: rest => do
    let extended ← fillTableFactor levels filling relation
    let written ←
      writeConstraint levels (keepsConstraint kind) constraint filling.sources.length extended
    fillJoins levels written rest

end

/-- Adds the sources of a `FROM` clause. -/
def fillSources (levels : Nat) (filling : Filling) : List Sql.TableJoins → Lowered Filling
  | [] => return filling
  | t :: rest => do fillSources levels (← fillTableJoins levels filling t) rest

/-- Writing a condition to the first of the new sources is filling in what lowering makes of it. -/
theorem writeConstraint_extend (levels : Nat) (filling : Filling) (joinings : List Joining)
    (j : Joining) (hfirst : j.first = filling.sources.length) (s : Source) (rest : List Source) :
    writeConstraint levels (keepsConstraint j.kind) j.constraint j.first
        (filling.extend joinings (s :: rest))
      = filling.extend (joinings ++ [j])
        <$> lowerConstraint levels (keepsConstraint j.kind) j.constraint (s :: rest) := by
  have hidle : writes j = false →
      filling.extend joinings (s :: rest) = filling.extend (joinings ++ [j]) (s :: rest) := by
    intro hwrites
    simp [Filling.extend, hwrites]
  have hwrite := fun hwrites => filling.write_extend joinings (j := j) hwrites hfirst s rest
  obtain ⟨first, kind, relation, constraint⟩ := j
  dsimp only [writes] at hidle hwrite ⊢
  cases hkept : keepsConstraint kind with
  | false =>
    rw [hkept] at hidle
    have hsame := hidle rfl
    cases constraint <;> simp only [writeConstraint, lowerConstraint, map_pure, hsame]
  | true =>
    rw [hkept] at hidle hwrite
    cases constraint with
    | on condition =>
      simp only [writeConstraint, lowerConstraint]
      rw [map_eq_pure_bind, bind_assoc]
      exact bind_congr fun e => congrArg pure (hwrite rfl _)
    | «using» columns =>
      simp only [writeConstraint, lowerConstraint, map_pure]
      exact congrArg pure (hwrite rfl _)
    | natural | none =>
      simp only [writeConstraint, lowerConstraint, map_pure, hidle rfl]

mutual

/-- Filling in a relation with its joins adds what lowering makes of it. -/
theorem fillTableJoins_eq (levels : Nat) (filling : Filling) : ∀ t : Sql.TableJoins,
    fillTableJoins levels filling t
      = filling.extend (t.joinings filling.sources.length) <$> lowerTableJoins levels t
  | .mk relation joins => by
    rw [fillTableJoins, lowerTableJoins, fillTableFactor_eq levels filling relation]
    cases h : lowerTableFactor levels relation with
    | error e => rfl
    | ok found =>
      have hlength := (records_lowerTableFactor 0 relation h).entries.length_eq
      have hend : filling.sources.length + relation.leaves.length
          = (filling.sources ++ found).length := by
        rw [List.length_append, hlength]
      change fillJoins levels (filling.extend _ found) joins = _
      rw [fillJoins_eq]
      cases lowerJoins levels joins with
      | error e => rfl
      | ok others =>
        refine congrArg Except.ok ?_
        rw [Filling.extend_extend, Sql.TableJoins.joinings, hend]
        rfl

/-- So does filling in a table factor. -/
theorem fillTableFactor_eq (levels : Nat) (filling : Filling) : ∀ f : Sql.TableFactor,
    fillTableFactor levels filling f
      = filling.extend (f.joinings filling.sources.length) <$> lowerTableFactor levels f
  | .table _ _ _ _ | .verbatim _ _ _ => by
    simp [fillTableFactor, lowerTableFactor, Filling.push, Filling.extend, Sql.TableFactor.joinings]
  | .derived _ query _ => by
    simp [fillTableFactor, lowerTableFactor, Filling.push, Filling.extend, Sql.TableFactor.joinings]
  | .nested inner _ => by
    rw [fillTableFactor, lowerTableFactor]
    cases levels with
    | zero => rfl
    | succ n => exact fillTableJoins_eq n filling inner

/-- So does filling in a list of joins. -/
theorem fillJoins_eq (levels : Nat) (filling : Filling) : ∀ joins : List Sql.Join,
    fillJoins levels filling joins
      = filling.extend (Sql.joinJoinings filling.sources.length joins) <$> lowerJoins levels joins
  | [] => by
    rw [fillJoins, lowerJoins, map_pure, Sql.joinJoinings, Filling.extend_nil]
  | .mk _ kind relation constraint :: rest => by
    rw [fillJoins, lowerJoins, fillTableFactor_eq levels filling relation]
    cases h : lowerTableFactor levels relation with
    | error e => rfl
    | ok found =>
      have hrelation := records_lowerTableFactor 0 relation h
      obtain ⟨s, tail, rfl⟩ := hrelation.exists_cons relation.leaves_ne_nil
      let j : Joining := ⟨filling.sources.length, kind, relation, constraint⟩
      have hwritten :=
        writeConstraint_extend levels filling (relation.joinings filling.sources.length) j
        rfl s tail
      change (writeConstraint levels (keepsConstraint kind) constraint filling.sources.length
        (filling.extend _ (s :: tail)) >>= fun written => fillJoins levels written rest) = _
      rw [hwritten]
      change _ = filling.extend _
        <$> (lowerConstraint levels (keepsConstraint kind) constraint (s :: tail)
        >>= fun joined => (joined ++ ·) <$> lowerJoins levels rest)
      cases hjoined : lowerConstraint levels (keepsConstraint kind) constraint (s :: tail) with
      | error e => rfl
      | ok joined =>
        have hlength : relation.leaves.length = joined.length := by
          obtain ⟨s', rfl, -, -⟩ := exists_of_lowerConstraint (j := j) hjoined
          exact hrelation.entries.length_eq
        change fillJoins levels (filling.extend _ joined) rest = _
        rw [fillJoins_eq]
        cases lowerJoins levels rest with
        | error e => rfl
        | ok others =>
          refine congrArg Except.ok ?_
          rw [Filling.extend_extend, Sql.joinJoinings, List.append_assoc, hlength,
            ← List.length_append]
          rfl

end

/-- Filling one list adds what lowering finds, and writes where the joins begin. -/
theorem fillSources_eq (levels : Nat) (filling : Filling) (tables : List Sql.TableJoins) :
    fillSources levels filling tables
      = filling.extend (Sql.fromJoinings filling.sources.length tables)
        <$> lowerSources levels tables := by
  induction tables generalizing filling with
  | nil => rw [fillSources, lowerSources, map_pure, Sql.fromJoinings, Filling.extend_nil]
  | cons t rest ih =>
    rw [fillSources, lowerSources, fillTableJoins_eq levels filling t]
    cases h : lowerTableJoins levels t with
    | error e => rfl
    | ok found =>
      have hlength := (records_lowerTableJoins 0 t h).entries.length_eq
      change fillSources levels (filling.extend _ found) rest = _
      rw [ih]
      cases lowerSources levels rest with
      | error e => rfl
      | ok others =>
        refine congrArg Except.ok ?_
        rw [Filling.extend_extend, Sql.fromJoinings, hlength, ← List.length_append]
        rfl

/-! ### Clauses -/

/-- The sources of a `FROM` clause are one for each leaf, in the order of the leaves, and are what
the leaves become but for what they are joined by. Each join begins at the source of the first of
its own leaves, which carries what the join matches rows by if the outline keeps it. No two joins
begin at the same source, and sources where no join begins that writes carry nothing. Filling a list
with the sources writes for every join that writes at a place that is there, and comes to the
same. -/
theorem lowerSources_records {levels : Nat} {tables : List Sql.TableJoins} {found : List Source}
    (h : lowerSources levels tables = .ok found) :
    List.Forall₂ (fun leaf s => lowerTableFactor levels leaf = .ok [s.bare])
      (Sql.fromLeaves tables) found
      ∧ (∀ j ∈ Sql.fromJoinings 0 tables, j.relation.leaves ≠ []
        ∧ j.relation.leaves <+: (Sql.fromLeaves tables).drop j.first
        ∧ ∃ s, found[j.first]? = some s ∧ Carries levels j s)
      ∧ ((Sql.fromJoinings 0 tables).map Joining.first).Nodup
      ∧ (∀ k s, found[k]? = some s →
        (∀ j ∈ Sql.fromJoinings 0 tables, writes j = true → j.first ≠ k) → s.columns = none
          ∧ s.on = none)
      ∧ ∀ out written, fillSources levels ⟨out, written⟩ tables
        = .ok ⟨out ++ found,
          written ++ ((Sql.fromJoinings out.length tables).filter writes).map Joining.first⟩ := by
  have hrecords := records_lowerSources 0 tables h
  have hcarried : ∀ j ∈ Sql.fromJoinings 0 tables,
      j.relation.leaves <+: (Sql.fromLeaves tables).drop j.first
        ∧ ∃ s, found[j.first]? = some s ∧ Carries levels j s := by
    intro j hj
    obtain ⟨k, s, hk, hs, hcarries, hleaves⟩ := hrecords.carried j hj
    rw [Nat.zero_add] at hk
    rw [hk]
    exact ⟨hleaves, s, hs, hcarries⟩
  refine ⟨hrecords.entries, fun j hj => ⟨j.relation.leaves_ne_nil, hcarried j hj⟩,
    hrecords.distinct,
    fun k s hs hidle => ?_, fun out written => ?_⟩
  -- A source that a join begins with is plain only if that join writes nothing.
  · by_cases hfirst : k ∈ (Sql.fromJoinings 0 tables).map Joining.first
    · obtain ⟨j, hj, rfl⟩ := List.mem_map.mp hfirst
      obtain ⟨-, s', hs', hcarries⟩ := hcarried j hj
      obtain rfl := Option.some.inj (hs.symm.trans hs')
      exact hcarries.plain (Bool.eq_false_iff.mpr fun hwrites => hidle j hj hwrites rfl)
    · exact hrecords.plain k s hs (by rwa [Nat.zero_add])
  · rw [fillSources_eq, h]
    rfl

/-- A join in parentheses: it writes on the third source, and the join around it on the second one,
where the parentheses begin. -/
theorem lowerSources_records_of_parentheses :
    let named (name : String) : Sql.TableFactor := .table ⟨[.plain name]⟩ "" none ""
    let inner : Sql.TableJoins :=
      .mk (named "b") [.mk false .left (named "c") (.on (.ident (.plain "x"))),
        .mk false .cross (named "d") .none]
    let tables : List Sql.TableJoins :=
      [.mk (named "a") [.mk false .join (.nested inner none) (.using [⟨[.plain "id"]⟩])],
        .mk (named "e") []]
    ∃ found, lowerSources 2 tables = .ok found
      ∧ found.map (fun s => (s.name, s.columns, s.on.map Expr.identifier))
        = [(some "a", none, none), (some "b", some ["id"], none), (some "c", none, some "x"),
          (some "d", none, none), (some "e", none, none)]
      ∧ ((Sql.fromJoinings 0 tables).map Joining.first).Nodup
      ∧ fillSources 2 ⟨[], []⟩ tables = .ok ⟨found, [2, 1]⟩ := by
  intro named inner tables
  obtain ⟨found, hfound, hshown⟩ : ∃ found, lowerSources 2 tables = .ok found
      ∧ found.map (fun s => (s.name, s.columns, s.on.map Expr.identifier))
        = [(some "a", none, none), (some "b", some ["id"], none), (some "c", none, some "x"),
          (some "d", none, none), (some "e", none, none)] :=
    ⟨_, rfl, by decide_cbv⟩
  have hrecords := lowerSources_records hfound
  exact ⟨found, hfound, hshown, hrecords.2.2.1, hrecords.2.2.2.2 [] []⟩

end Outline

end QueryLint
