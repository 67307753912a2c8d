import Mathlib.Data.List.Basic
import QueryLint.Proofs.Analysis.Flags

/-!
# Walks under different limits

Which stops a walk makes depends on the query alone; the limit only decides at which of them
something is noted. So a walk under a limit is the walk over the stops above the limit, apart from
the mark that it was cut short (`ofSelect_eq_shallow`), and it has this mark exactly if the query is
higher than the limit (`truncated_ofSelect_iff`). A higher limit leaves out fewer stops and none
that were noted before, and what a walk collects is collected stop by stop: under a higher limit it
is the same with more put in between (`ofSelect_of_le`).
-/

namespace QueryLint

namespace Outline.Part

/-- A part with something inside is higher than one of the parts directly inside it by just the
levels that it adds. -/
theorem exists_height_eq {p : Part} (h : p.inner ≠ []) :
    ∃ q ∈ p.inner, p.height = p.levels + q.height := by
  rw [height_eq p]
  generalize p.inner = parts at h
  suffices ∃ q ∈ parts, parts.foldr (fun q highest => max q.height highest) 0 = q.height by
    obtain ⟨q, hq, heq⟩ := this
    exact ⟨q, hq, by rw [heq]⟩
  induction parts with
  | nil => exact absurd rfl h
  | cons c rest ih =>
    rw [List.foldr_cons]
    by_cases hrest : rest = []
    · exact ⟨c, List.mem_cons_self, by rw [hrest]; exact Nat.max_zero _⟩
    · obtain ⟨q, hq, heq⟩ := ih hrest
      rcases Nat.le_total q.height c.height with hle | hle
      · exact ⟨c, List.mem_cons_self, by rw [heq]; exact Nat.max_eq_left hle⟩
      · exact ⟨q, List.mem_cons_of_mem c hq, by rw [heq]; exact Nat.max_eq_right hle⟩

end Outline.Part

namespace Analysis

open Outline

variable {limit limit' : Nat} {root : Select}

/-! ### When a walk is cut short -/

/-- Some stop is as deep as what the walk goes through is high. -/
theorem exists_mem_visits_depth_eq (depth : Nat) (p : Part) :
    ∃ v ∈ visits depth p, v.depth + p.levels = depth + p.height := by
  induction p using Part.induct generalizing depth with
  | h p ih =>
    by_cases hinner : p.inner = []
    · have hheight : p.height = p.levels := by rw [p.height_eq, hinner]; rfl
      exact ⟨_, mem_visits_iff.mpr (.inl rfl), by rw [hheight]; rfl⟩
    · obtain ⟨q, hq, hheight⟩ := Part.exists_height_eq hinner
      obtain ⟨v, hv, hdeep⟩ := ih q hq (depth + q.levels)
      exact ⟨v, mem_visits_iff.mpr (.inr (.inr ⟨q, hq, hv⟩)), by omega⟩

/-- A walk is cut short exactly if the query is higher than the limit. -/
theorem truncated_ofSelect_iff :
    (ofSelect limit root).truncated = true ↔ limit < (Part.select root).height := by
  have hfollow : ofSelect limit root = follow limit (visits 0 (.select root)) start :=
    visitSelect_eq_follow limit root start
  have hstart : start.truncated = false := rfl
  rw [hfollow, truncated_follow, hstart, Bool.false_or, List.any_eq_true]
  constructor
  · rintro ⟨v, hv, hdeep⟩
    have hdepth : v.depth + 1 ≤ 0 + (Part.select root).height := depth_le_of_mem_visits hv
    have hlimit : limit ≤ v.depth := of_decide_eq_true hdeep
    omega
  · intro hhigh
    obtain ⟨v, hv, hdepth⟩ := exists_mem_visits_depth_eq 0 (.select root)
    have hlevels : (Part.select root).levels = 1 := rfl
    exact ⟨v, hv, decide_eq_true (by omega)⟩

/-! ### The stops above a limit -/

/-- The stops of a walk over a query that are above a limit. -/
def shallowVisits (limit : Nat) (root : Select) : List Visit :=
  (visits 0 (.select root)).filter fun v => v.depth < limit

/-- A walk that was not cut short made all of its stops. -/
theorem shallowVisits_of_whole (hwhole : (ofSelect limit root).truncated = false) :
    shallowVisits limit root = visits 0 (.select root) := by
  have hheight : ¬limit < (Part.select root).height := fun hlt => by
    rw [truncated_ofSelect_iff.mpr hlt] at hwhole
    cases hwhole
  refine List.filter_eq_self.mpr fun v hv => decide_eq_true ?_
  have hdepth : v.depth + 1 ≤ 0 + (Part.select root).height := depth_le_of_mem_visits hv
  omega

/-- A higher limit leaves out fewer stops, and the others stay in their order. -/
theorem shallowVisits_sublist (h : limit ≤ limit') (root : Select) :
    (shallowVisits limit root).Sublist (shallowVisits limit' root) := by
  refine List.monotone_filter_right _ fun v hv => ?_
  exact decide_eq_true (Nat.lt_of_lt_of_le (of_decide_eq_true hv) h)

/-- A stop neither reads nor changes the mark of a walk that was cut short. -/
theorem Visit.note_withTruncated (v : Visit) (a : Analysis) (t : Bool) :
    v.note { a with truncated := t } = { v.note a with truncated := t } := by
  rcases v with ⟨_, _ | ⟨reader, ⟨name, aliasName, select, columns, on⟩⟩ | _⟩
    | ⟨d, _ | ⟨reader, s⟩ | ⟨parent, e⟩⟩
  · rfl
  · cases name <;> cases aliasName <;> rfl
  · rfl
  · rfl
  · rw [note, note, noteJoin_eq, noteJoin_eq]
  · rw [note, note, noteOp_eq d, noteOp_eq d]

/-- No stop reads whether the walk was truncated. -/
theorem foldl_note_withTruncated (stops : List Visit) (a : Analysis) (t : Bool) :
    stops.foldl (fun a v => v.note a) { a with truncated := t }
      = { stops.foldl (fun a v => v.note a) a with truncated := t } := by
  induction stops generalizing a with
  | nil => rfl
  | cons v rest ih => rw [List.foldl_cons, Visit.note_withTruncated, ih, List.foldl_cons]

/-- Stops under a limit are the stops above it, apart from the mark of those that are not. -/
theorem follow_eq_foldl_filter (limit : Nat) (stops : List Visit) (a : Analysis) :
    follow limit stops a
      = { (stops.filter fun v => v.depth < limit).foldl (fun a v => v.note a) a with
        truncated := (follow limit stops a).truncated } := by
  induction stops generalizing a with
  | nil => rfl
  | cons v rest ih =>
    rw [follow_cons, ih]
    rw [Visit.noteWithin, List.filter_cons]
    by_cases hv : v.depth < limit
    · rw [if_pos hv, if_pos (decide_eq_true hv), List.foldl_cons]
    · rw [if_neg hv, if_neg (by simpa using hv), foldl_note_withTruncated]

/-- A walk finds what is noted at the stops above its limit. -/
theorem ofSelect_eq_shallow (limit : Nat) (root : Select) :
    ofSelect limit root
      = { (shallowVisits limit root).foldl (fun a v => v.note a) start with
        truncated := (ofSelect limit root).truncated } := by
  have hfollow : ofSelect limit root = follow limit (visits 0 (.select root)) start :=
    visitSelect_eq_follow limit root start
  rw [hfollow]
  exact follow_eq_foldl_filter limit (visits 0 (.select root)) start

/-! ### What the stops above a limit collect -/

/-- A flag is set exactly when a stop above the limit shows it. -/
theorem flag_ofSelect (limit : Nat) (root : Select) (signal : Signal) :
    signal.flag (ofSelect limit root).signals
      = (shallowVisits limit root).any (Visit.shows signal) := by
  have hstart : signal.flag start.signals = false := by cases signal <;> rfl
  have hflag := (Extends.foldl (shallowVisits limit root) start).flag_eq signal
  rw [hstart, Bool.false_or] at hflag
  rw [ofSelect_eq_shallow, ← hflag]
  cases signal <;> rfl

/-- The groups are those of the stops above the limit, in their order. -/
theorem columnGroups_ofSelect (limit : Nat) (root : Select) :
    (ofSelect limit root).columnGroups = (shallowVisits limit root).flatMap Visit.groups := by
  rw [ofSelect_eq_shallow]
  exact (Extends.foldl (shallowVisits limit root) start).columnGroups

/-- A chain is known of exactly when a stop above the limit records a group. -/
theorem hasAnd_ofSelect (limit : Nat) (root : Select) :
    (ofSelect limit root).hasAnd = (shallowVisits limit root).any fun v => !v.groups.isEmpty := by
  rw [ofSelect_eq_shallow]
  exact (Extends.foldl (shallowVisits limit root) start).hasAnd

/-- The known tables are those of the stops above the limit, once each. -/
theorem keys_readers_ofSelect (limit : Nat) (root : Select) :
    (ofSelect limit root).readers.keys
      = ((shallowVisits limit root).filterMap Visit.table?).eraseDups := by
  rw [ofSelect_eq_shallow]
  exact keys_readers_foldl (shallowVisits limit root)

/-- The aliases are those of the stops above the limit; the last one of a name counts. -/
theorem aliases_ofSelect (limit : Nat) (root : Select) :
    (ofSelect limit root).aliases
      = .ofList ((shallowVisits limit root).filterMap Visit.alias?) := by
  rw [ofSelect_eq_shallow]
  exact aliases_foldl (shallowVisits limit root)

/-- The selection that reads a table, with its depth, if a walk arrives at a source that names the
table. -/
def Visit.reader? (table : String) : Visit → Option Occurrence
  | arrive d (.source reader s) => if s.name = some table then some ⟨d, reader⟩ else none
  | _ => none

/-- The selections that were found to read a table, in their order. -/
def queue (a : Analysis) (table : String) : List Occurrence :=
  (a.readers.find? table).getD []

/-- A stop adds to a queue if it reads the table of the queue. -/
theorem queue_note (table : String) (v : Visit) (a : Analysis) :
    (v.note a).queue table = (v.reader? table).toList.foldl (fun found o => found ++ [o])
      (a.queue table) := by
  rcases v with ⟨d, _ | ⟨reader, ⟨name, aliasName, select, columns, on⟩⟩ | ⟨parent, e⟩⟩
    | ⟨d, _ | ⟨reader, s⟩ | ⟨parent, e⟩⟩
  · rfl
  · cases name with
    | none => rfl
    | some name =>
      have hreaders : (a.noteSource ⟨d, reader⟩ ⟨some name, aliasName, select, columns, on⟩).readers
          = a.readers.alter name fun found => found.getD [] ++ [⟨d, reader⟩] := rfl
      rw [Visit.note, queue, hreaders, OrderedMap.find?_alter, Visit.reader?]
      by_cases hname : table = name
      · simp [hname, queue]
      · simp [hname, Ne.symm hname, queue]
  · rfl
  · rfl
  · rw [Visit.note, noteJoin_eq]
    rfl
  · rw [Visit.note, noteOp_eq d]
    rfl

/-- A queue holds the occurrences of its table at the stops above the limit, in their order. -/
theorem queue_ofSelect (limit : Nat) (root : Select) (table : String) :
    (ofSelect limit root).queue table
      = (shallowVisits limit root).filterMap (Visit.reader? table) := by
  have hqueue := foldl_note_kept (fun a => a.queue table) (queue_note table)
    (shallowVisits limit root) start
  rw [ofSelect_eq_shallow]
  refine hqueue.trans ?_
  have hstart : start.queue table = [] := rfl
  rw [hstart, List.foldl_append_eq_append, List.nil_append, ← List.flatMap_def,
    List.flatMap_singleton']

/-! ### A higher limit -/

/-- A walk is cut short exactly if the query is higher than the limit. If it was not, a walk under a
higher limit finds the same. In every case a higher limit keeps what was found: the flags stay set,
the tables stay indexed, and the selections that read a table and the columns that are grouped are
the same with more put in between. A group that was collected is that of a whole chain, also where
the chain reaches below the limit. -/
theorem ofSelect_of_le (h : limit ≤ limit') (root : Select) :
    let found := ofSelect limit root
    let more := ofSelect limit' root
    (found.truncated = true ↔ limit < (Part.select root).height)
      ∧ (found.truncated = false → more.signals = found.signals ∧ more.readers = found.readers)
      ∧ (∀ signal : Signal, signal.flag found.signals = true → signal.flag more.signals = true)
      ∧ (found.hasAnd = true → more.hasAnd = true)
      ∧ (∀ table ∈ found.readers.keys, table ∈ more.readers.keys)
      ∧ (∀ table, (found.queue table).Sublist (more.queue table))
      ∧ found.columnGroups.Sublist more.columnGroups
      ∧ ∀ columns ∈ found.columnGroups, ∃ parent e, (Part.expr parent e).IsIn (.select root)
        ∧ e.op = .and ∧ parent ≠ some .and ∧ columns = e.comparedColumns := by
  intro found more
  have hstops := shallowVisits_sublist h root
  have hany : ∀ p : Visit → Bool, (shallowVisits limit root).any p = true →
      (shallowVisits limit' root).any p = true := by
    intro p hp
    obtain ⟨v, hv, hpv⟩ := List.any_eq_true.mp hp
    exact List.any_eq_true.mpr ⟨v, hstops.subset hv, hpv⟩
  refine ⟨truncated_ofSelect_iff, fun hwhole => ?_, fun signal => ?_, ?_, fun table => ?_,
    fun table => ?_, ?_, fun columns hcolumns => ?_⟩
  · -- Neither walk is cut short, so both make all the stops.
    have hheight : (Part.select root).height ≤ limit := by
      by_contra hhigh
      rw [truncated_ofSelect_iff.mpr (Nat.lt_of_not_le hhigh)] at hwhole
      exact absurd hwhole (by decide)
    have hsame : more = found :=
      (ofSelect_eq_foldl (Nat.le_trans hheight h)).trans (ofSelect_eq_foldl hheight).symm
    rw [hsame]
    exact ⟨rfl, rfl⟩
  · rw [flag_ofSelect, flag_ofSelect]
    exact hany _
  · rw [hasAnd_ofSelect, hasAnd_ofSelect]
    exact hany _
  · rw [keys_readers_ofSelect, keys_readers_ofSelect, List.mem_eraseDups, List.mem_eraseDups]
    exact fun htable => (hstops.filterMap Visit.table?).subset htable
  · rw [queue_ofSelect, queue_ofSelect]
    exact hstops.filterMap (Visit.reader? table)
  · rw [columnGroups_ofSelect, columnGroups_ofSelect, flatMap_groups, flatMap_groups]
    exact ((hstops.filterMap Visit.chainTop?).map Expr.comparedColumns).filter _
  -- A recorded group comes from a stop at the top of a chain, and holds the whole chain.
  · rw [columnGroups_ofSelect, List.mem_flatMap] at hcolumns
    obtain ⟨v, hv, hgroup⟩ := hcolumns
    obtain ⟨e, htop, rfl⟩ := List.mem_map.mp (List.mem_filter.mp hgroup).1
    have hin := isIn_of_mem_visits (List.mem_filter.mp hv).1
    rcases v with _ | ⟨d, _ | _ | ⟨parent, e'⟩⟩
    all_goals try cases htop
    rw [Option.mem_toList, Visit.chainTop?] at htop
    split at htop
    · next hand =>
      cases htop
      exact ⟨parent, e, hin, hand.1, hand.2, rfl⟩
    · cases htop

/-- Two comparisons below a conjunction are not reached under a limit of two levels, but the
conjunction itself is, and its columns are grouped as under a limit that reaches everything. -/
theorem ofSelect_of_le_conjunction :
    let root : Select :=
      { Select.blank with
        sources := [.table "t"]
        selection := some (.binary .and (.binary .eq (.leaf .id "a") (.leaf .literal "1"))
          (.binary .eq (.leaf .id "b") (.leaf .literal "2"))) }
    2 ≤ 4 ∧ (ofSelect 2 root).truncated = true ∧ (ofSelect 4 root).truncated = false
      ∧ (ofSelect 2 root).columnGroups = [["a", "b"]]
      ∧ (ofSelect 2 root).columnGroups.Sublist (ofSelect 4 root).columnGroups
      ∧ ∀ table ∈ (ofSelect 2 root).readers.keys, table ∈ (ofSelect 4 root).readers.keys := by
  intro root
  have hle : 2 ≤ 4 := by decide
  obtain ⟨hcut, -, -, -, htables, -, hgroups, -⟩ := ofSelect_of_le hle root
  refine ⟨hle, hcut.mpr (by decide_cbv), ?_, by decide_cbv, hgroups, htables⟩
  exact Bool.eq_false_iff.mpr fun h => absurd (truncated_ofSelect_iff.mp h) (by decide_cbv)

end Analysis

end QueryLint
