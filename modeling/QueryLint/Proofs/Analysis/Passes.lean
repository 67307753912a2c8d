import QueryLint.Proofs.Analysis.Limits

/-!
# Walking more than once

Each further walk over a query stops at the same parts, and what is above the limit depends on the
query alone. So some walks in a row collect what is noted at the stops of one walk, as often as
there were walks (`passes_eq_foldl`): flags, tables and aliases stay as they are after the first
walk, while column groups and the selections that read a table come once more with each walk
(`passes_succ_repeats`).

A walk that leaves a level goes back to the one from which it entered it. `walk?` is the walk with a
counter that refuses to be lowered below zero; it never refuses, and so it is the walk
(`walk?_select`).
-/

namespace QueryLint.Analysis

open Outline

variable {limit depth : Nat} {root : Select} {p : Part} {a : Analysis}

/-! ### Levels that are entered and left -/

/-- Leaves a level, unless no level was entered. -/
def leave? (a : Analysis) : Option Analysis :=
  if a.depth = 0 then none else some { a with depth := a.depth - 1 }

/-- Visits something one level deeper and leaves the level again, or notes that the limit is
reached. -/
def enter? (limit : Nat) (visit : Analysis → Option Analysis) (a : Analysis) : Option Analysis :=
  if a.depth ≥ limit then some { a with truncated := true }
  else (visit { a with depth := a.depth + 1 }).bind leave?

/-- The walk at a part, if it never leaves more levels than it entered. A source is on the level of
the selection that reads it. -/
def walk? (limit : Nat) (p : Part) (a : Analysis) : Option Analysis :=
  let inside (a : Analysis) : Option Analysis :=
    (p.before.attach.foldlM (fun a q => walk? limit q.1 a)
      ((Visit.arrive (a.depth - 1) p).note a)).bind
      fun a => p.behind.attach.foldlM (fun a q => walk? limit q.1 a)
        ((Visit.amid (a.depth - 1) p).note a)
  if p.levels = 0 then inside a else a.enter? limit inside
termination_by p.size
decreasing_by
  · exact Part.size_lt_of_mem_inner (List.mem_append_left _ q.2)
  · exact Part.size_lt_of_mem_inner (List.mem_append_right _ q.2)

/-- The walk at a part goes through, and makes its stops. -/
def GoesThrough (limit : Nat) (p : Part) : Prop :=
  ∀ a depth, a.depth + p.levels = depth + 1 → (p.levels = 0 → depth < limit) →
    walk? limit p a = some (follow limit (visits depth p) a)

/-- A walk that counts its levels enters those of a part and goes through what is inside it. -/
theorem walk?_eq (limit : Nat) (p : Part) (a : Analysis) :
    walk? limit p a
      = (fun inside => if p.levels = 0 then inside a else a.enter? limit inside) fun a =>
        (p.before.foldlM (fun a q => walk? limit q a) ((Visit.arrive (a.depth - 1) p).note a)).bind
          fun a => p.behind.foldlM (fun a q => walk? limit q a)
            ((Visit.amid (a.depth - 1) p).note a) := by
  rw [walk?]
  simp only [List.foldlM_subtype, List.unattach_attach]

/-- Such a walk goes through some parts by their stops, if it does so through each of them. -/
theorem foldlM_walk? {parts : List Part} (hdepth : depth < limit) (ha : a.depth = depth + 1)
    (h : ∀ q ∈ parts, GoesThrough limit q) :
    parts.foldlM (fun a q => walk? limit q a) a = some (follow limit (visitsOf depth parts) a) := by
  induction parts generalizing a with
  | nil => rfl
  | cons q rest ih =>
    have hq : walk? limit q a = some (follow limit (visits (depth + q.levels) q) a) :=
      h q List.mem_cons_self a (depth + q.levels) (by omega) (by omega)
    rw [List.foldlM_cons, hq, Option.bind_eq_bind, Option.bind_some,
      ih (by rw [follow_depth, ha]) fun c hc => h c (List.mem_cons_of_mem q hc), ← follow_append]
    rfl

/-- By induction over the tree: a walk that counts its levels goes through every part, and ends on
the level where it began. -/
theorem goesThrough (limit : Nat) (p : Part) : GoesThrough limit p := by
  induction p using Part.induct with
  | h p ih =>
    intro a depth ha hlevels
    have hbefore : ∀ q ∈ p.before, GoesThrough limit q :=
      fun q hq => ih q (List.mem_append_left _ hq)
    have hbehind : ∀ q ∈ p.behind, GoesThrough limit q :=
      fun q hq => ih q (List.mem_append_right _ hq)
    -- Inside, the depth is one more than that of the part; it is there again behind every part.
    have hinside : ∀ b : Analysis, b.depth = depth + 1 → depth < limit →
        ((p.before.foldlM (fun a q => walk? limit q a) ((Visit.arrive (b.depth - 1) p).note b)).bind
          fun a => p.behind.foldlM (fun a q => walk? limit q a)
            ((Visit.amid (a.depth - 1) p).note a))
        = some (follow limit (visits depth p) b) := by
      intro b hb hdepth
      have hpred : b.depth - 1 = depth := by omega
      have hkept : ∀ stops, (follow limit stops b).depth = depth + 1 := fun stops =>
        (follow_depth limit stops b).trans hb
      rw [hpred, ← follow_arrive hdepth, foldlM_walk? hdepth (hkept _) hbefore, Option.bind_some,
        ← follow_append, hkept, Nat.add_sub_cancel, ← follow_amid hdepth, ← follow_append,
        foldlM_walk? hdepth (hkept _) hbehind, ← follow_append, visits_eq]
      simp only [List.append_assoc, List.cons_append, List.nil_append]
    rw [walk?_eq]
    dsimp only
    split
    · next hsource => exact hinside a (by omega) (hlevels hsource)
    · next hlevel =>
      have hone : p.levels = 1 := by
        cases p <;> first | rfl | exact absurd rfl hlevel
      obtain rfl : depth = a.depth := by omega
      rw [enter?]
      split
      -- At the limit the walk turns back: all stops below are too deep as well.
      · next hdeep =>
        rw [follow_of_deep (by rw [visits_eq]; exact List.cons_ne_nil _ _)
          fun v hv => Nat.le_trans hdeep (le_depth_of_mem_visits hv)]
      · next hshallow =>
        rw [hinside { a with depth := a.depth + 1 } rfl (Nat.lt_of_not_le hshallow),
          follow_withDepth, Option.bind_some, leave?]
        dsimp only
        rw [if_neg (Nat.succ_ne_zero a.depth), Nat.add_sub_cancel]
        exact congrArg some (follow_withDepth limit _ a a.depth).symm

/-- No walk leaves more levels than it entered, wherever it begins and whatever it skips at the
limit. -/
theorem walk?_select (limit : Nat) (s : Select) (a : Analysis) :
    walk? limit (.select s) a = some (visitSelect limit s a) := by
  have hlevels : (Part.select s).levels = 1 := rfl
  rw [goesThrough limit (.select s) a a.depth (by rw [hlevels])
    (by rw [hlevels]; exact fun h => nomatch h), visitSelect_eq_follow]

/-! ### Walks in a row -/

/-- A list several times in a row has the same members as the list once. -/
theorem any_flatten_replicate_succ {α : Type} (f : α → Bool) (n : Nat) (l : List α) :
    (List.replicate (n + 1) l).flatten.any f = l.any f := by
  rw [List.any_flatten, List.any_replicate, if_neg (Nat.succ_ne_zero n)]

/-- Some walks in a row make the stops of one walk as often as there are walks. -/
theorem passes_eq_follow (limit : Nat) (root : Select) (n : Nat) :
    passes limit root n
      = follow limit (List.replicate n (visits 0 (.select root))).flatten start := by
  induction n with
  | zero => rfl
  | succ n ih =>
    have hdepth : (passes limit root n).depth = 0 := by rw [ih, follow_depth]; rfl
    rw [passes, process, visitSelect_eq_follow, hdepth, ih, ← follow_append, List.replicate_succ',
      List.flatten_concat]

/-- Each walk ends on the level on which it began. -/
theorem depth_passes (limit : Nat) (root : Select) (n : Nat) : (passes limit root n).depth = 0 := by
  rw [passes_eq_follow, follow_depth]
  rfl

/-- Some walks in a row find what is noted at the stops above the limit, as often as there are
walks. -/
theorem passes_eq_foldl (limit : Nat) (root : Select) (n : Nat) :
    passes limit root n
      = { (List.replicate n (shallowVisits limit root)).flatten.foldl
        (fun a v => v.note a) start with
        truncated := (passes limit root n).truncated } := by
  have hshallow :
      (List.replicate n (visits 0 (.select root))).flatten.filter (fun v => v.depth < limit)
      = (List.replicate n (shallowVisits limit root)).flatten := by
    rw [List.filter_flatten, List.map_replicate, shallowVisits]
  rw [passes_eq_follow, ← hshallow]
  exact follow_eq_foldl_filter limit _ start

/-- A pass more does not change whether the tree is too deep. -/
theorem truncated_passes_succ (limit : Nat) (root : Select) (n : Nat) :
    (passes limit root (n + 1)).truncated = (ofSelect limit root).truncated := by
  rw [ofSelect, passes_eq_follow, passes_eq_follow, truncated_follow, truncated_follow,
    any_flatten_replicate_succ, List.replicate_one, List.flatten_singleton]

/-- Each pass adds the same occurrences to a queue. -/
theorem queue_passes (limit : Nat) (root : Select) (n : Nat) (table : String) :
    (passes limit root n).queue table
      = (List.replicate n ((ofSelect limit root).queue table)).flatten := by
  have hqueue := foldl_note_kept (fun a => a.queue table) (queue_note table)
    (List.replicate n (shallowVisits limit root)).flatten start
  rw [passes_eq_foldl]
  refine hqueue.trans ?_
  have hstart : start.queue table = [] := rfl
  rw [hstart, List.foldl_append_eq_append, List.nil_append, ← List.flatMap_def,
    List.flatMap_singleton', List.filterMap_flatten, List.map_replicate, queue_ofSelect]

/-- Each pass adds the same groups. -/
theorem columnGroups_passes (limit : Nat) (root : Select) (n : Nat) :
    (passes limit root n).columnGroups
      = (List.replicate n (ofSelect limit root).columnGroups).flatten := by
  rw [passes_eq_foldl, columnGroups_ofSelect]
  refine (Extends.foldl (List.replicate n (shallowVisits limit root)).flatten
    start).columnGroups.trans ?_
  rw [List.flatMap_def, List.map_flatten, List.map_replicate, List.flatten_flatten,
    List.map_replicate]
  rfl

/-- Only the column groups tell how many walks there were, unless there was none. -/
theorem signals_passes_succ (limit : Nat) (root : Select) (n : Nat) :
    (passes limit root (n + 1)).signals
      = { (ofSelect limit root).signals with
        columnGroups := (List.replicate (n + 1) (ofSelect limit root).columnGroups).flatten } := by
  have hextends := Extends.foldl (List.replicate (n + 1) (shallowVisits limit root)).flatten start
  have hflag (signal : Signal) : signal.flag (passes limit root (n + 1)).signals
      = signal.flag (ofSelect limit root).signals := by
    have hstart : signal.flag start.signals = false := by cases signal <;> rfl
    have hshown := hextends.flag_eq signal
    rw [hstart, Bool.false_or, any_flatten_replicate_succ, ← flag_ofSelect] at hshown
    rw [passes_eq_foldl, ← hshown]
    cases signal <;> rfl
  have hand : (passes limit root (n + 1)).hasAnd = (ofSelect limit root).hasAnd := by
    rw [passes_eq_foldl, hasAnd_ofSelect]
    refine hextends.hasAnd.trans ?_
    rw [any_flatten_replicate_succ]
    rfl
  have htables : (passes limit root (n + 1)).readers.keys = (ofSelect limit root).readers.keys := by
    rw [passes_eq_foldl, keys_readers_ofSelect]
    refine (keys_readers_foldl _).trans ?_
    rw [List.filterMap_flatten, List.map_replicate, OrderedMap.eraseDups_flatten_replicate_succ]
  have haliases : (passes limit root (n + 1)).aliases = (ofSelect limit root).aliases := by
    rw [passes_eq_foldl, aliases_ofSelect]
    refine (aliases_foldl _).trans ?_
    rw [List.filterMap_flatten, List.map_replicate, OrderedMap.ofList_flatten_replicate_succ]
  simp only [signals, Signals.mk.injEq]
  exact ⟨hflag .usingOrOn, hflag .bitOperation, hflag .fuzzyMatching, hand, hflag .or, hflag .isIn,
    columnGroups_passes limit root (n + 1), htables, haliases, truncated_passes_succ limit root n⟩

/-- Walks over a query, one after the other, find what the first one finds: the same flags, tables
and aliases, and the same mark if it was cut short. The column groups of one walk come once for each
walk, and so do the selections that read a table, in the order of the walks. After each walk the
counter of levels is at zero again, and no walk lowers it below zero, whatever it skips at the
limit. -/
theorem passes_succ_repeats (limit : Nat) (root : Select) (n : Nat) :
    let once := ofSelect limit root
    let found := passes limit root (n + 1)
    found.signals
        = { once.signals with columnGroups := (List.replicate (n + 1) once.columnGroups).flatten }
      ∧ (∀ table, found.queue table = (List.replicate (n + 1) (once.queue table)).flatten)
      ∧ (∀ k, (passes limit root k).depth = 0)
      ∧ ∀ k, walk? limit (.select root) (passes limit root k) = some (passes limit root (k + 1)) :=
  ⟨signals_passes_succ limit root n, queue_passes limit root (n + 1), depth_passes limit root,
    fun k => walk?_select limit root (passes limit root k)⟩

end QueryLint.Analysis
