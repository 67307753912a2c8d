import Mathlib.Algebra.BigOperators.Group.List.Lemmas
import Mathlib.Algebra.Ring.Nat
import Mathlib.Data.List.Dedup
import QueryLint.Proofs.Analysis.Limits
import QueryLint.Proofs.Analysis.Places

/-!
# Taking the readers of tables

The selections that read a table wait in a queue from which they are taken one at a time, in between
any others. One taking takes the first of one queue and changes nothing else (`queue_takeReader`,
`signals_takeReader`), so the selection that is taken for a table is told by how often one was taken
for it before (`getElem?_takeReaders`). After a walk that was not cut short the queue of a table
holds one selection for each source that names the table, in the order of their places
(`map_queue_ofSelect`).
-/

namespace QueryLint

namespace Outline.Part

/-- The table that a part names. Only sources name tables. -/
def table? : Part → Option String
  | source _ s => s.name
  | _ => none

/-- The selection that reads a part. Only sources are read. -/
def reader? : Part → Option Select
  | source reader _ => some reader
  | _ => none

/-- The selection that reads a part as a source of some table. -/
def readerOf? (table : String) (p : Part) : Option Select :=
  if p.table? = some table then p.reader? else none

/-- The table that the part at the end of a path names. -/
def tableAt? (p : Part) (path : List Nat) : Option String := (p.at? path).bind table?

/-- The places of the sources that name a table, in the order of the walk. -/
def placesOf (p : Part) (table : String) : List (List Nat) :=
  (p.paths false).filter fun path => p.tableAt? path == some table

variable {p c : Part} {reader : Select} {s : Source} {path : List Nat} {table : String}

/-- A table is at the end of a path exactly when a source of that name is. -/
theorem tableAt?_eq_some_iff :
    p.tableAt? path = some table
      ↔ ∃ reader s, p.at? path = some (.source reader s) ∧ s.name = some table := by
  rw [tableAt?, Option.bind_eq_some_iff]
  constructor
  · rintro ⟨_ | ⟨reader, s⟩ | _, hat, htable⟩
    · cases htable
    · exact ⟨reader, s, hat, htable⟩
    · cases htable
  · rintro ⟨reader, s, hat, hname⟩
    exact ⟨.source reader s, hat, hname⟩

/-- The places of a table are the paths to the sources of that name. -/
theorem mem_placesOf_iff :
    path ∈ p.placesOf table
      ↔ ∃ reader s, p.at? path = some (.source reader s) ∧ s.name = some table := by
  rw [placesOf, List.mem_filter, mem_paths_iff, beq_iff_eq, tableAt?_eq_some_iff]
  refine and_iff_right_of_imp ?_
  rintro ⟨reader, s, hat, -⟩
  rw [hat]
  rfl

/-- A table has as many places as it is named in the tree. -/
theorem length_placesOf (p : Part) (table : String) :
    (p.placesOf table).length = ((p.paths false).filterMap p.tableAt?).count table := by
  rw [placesOf, ← List.countP_eq_length_filter, List.count, List.countP_filterMap]
  refine List.countP_congr fun path _ => ?_
  cases p.tableAt? path with
  | none => simp
  | some name => simp

/-- A source is directly inside the selection that reads it. -/
theorem eq_select_of_source_mem_inner (h : .source reader s ∈ c.inner) :
    c = .select reader ∧ s ∈ reader.sources := by
  cases c with
  | select r =>
    simp only [inner, before, behind, List.nil_append, List.mem_append, List.mem_map, reduceCtorEq,
      and_false, exists_false, source.injEq, false_or, or_false] at h
    obtain ⟨s, hs, rfl, rfl⟩ := h
    exact ⟨rfl, hs⟩
  | source r t => simp [inner, before, behind] at h
  | expr parent e => simp [inner, before, behind] at h

/-- The selection that reads a source is one step before it. -/
theorem at?_dropLast_of_source {root : Select}
    (h : (select root).at? path = some (.source reader s)) :
    (select root).at? path.dropLast = some (.select reader) ∧ s ∈ reader.sources := by
  rcases List.eq_nil_or_concat path with rfl | ⟨path, k, rfl⟩
  · cases h
  · rw [List.concat_eq_append, at?_concat_eq_some_iff] at h
    obtain ⟨c, hat, hinner⟩ := h
    obtain ⟨rfl, hs⟩ := eq_select_of_source_mem_inner (List.mem_of_getElem? hinner)
    rw [List.concat_eq_append, List.dropLast_concat]
    exact ⟨hat, hs⟩

end Outline.Part

namespace Analysis

open Outline

variable {limit : Nat} {root : Select} {table : String} {a : Analysis}

/-! ### Takings in turn -/

/-- What is taken for some tables, one after the other, and what is left. -/
def takeReaders (a : Analysis) : List String → List (Option Occurrence) × Analysis
  | [] => ([], a)
  | table :: rest =>
    let later := (a.takeReader table).2.takeReaders rest
    ((a.takeReader table).1 :: later.1, later.2)

/-- Nothing is taken from an empty queue. -/
theorem takeReader_of_nil (h : a.queue table = []) : a.takeReader table = (none, a) := by
  rw [queue] at h
  rw [takeReader]
  split
  · next first rest hfound =>
    rw [hfound] at h
    cases h
  · rfl

/-- A queue that is not empty is that of a known table. -/
theorem find?_of_queue {o : Occurrence} {rest : List Occurrence} (h : a.queue table = o :: rest) :
    a.readers.find? table = some (o :: rest) := by
  rw [queue] at h
  cases hfound : a.readers.find? table with
  | none => simp [hfound] at h
  | some found => simpa [hfound] using h

/-- Taking from a queue returns its first occurrence and leaves the others. -/
theorem takeReader_of_cons {o : Occurrence} {rest : List Occurrence}
    (h : a.queue table = o :: rest) :
    a.takeReader table = (some o, { a with readers := a.readers.insert table rest }) := by
  rw [takeReader, find?_of_queue h]

/-- The first of a queue is taken. -/
theorem takeReader_eq_head? (a : Analysis) (table : String) :
    (a.takeReader table).1 = (a.queue table).head? := by
  cases h : a.queue table with
  | nil => rw [takeReader_of_nil h]; rfl
  | cons o rest => rw [takeReader_of_cons h]; rfl

/-- Only the queue of the table is changed. -/
theorem queue_takeReader (a : Analysis) (table other : String) :
    (a.takeReader table).2.queue other
      = if other = table then (a.queue table).tail else a.queue other := by
  by_cases hother : other = table
  · subst hother
    rw [if_pos rfl]
    cases h : a.queue other with
    | nil => rw [takeReader_of_nil h]; exact h
    | cons o rest =>
      rw [takeReader_of_cons h, queue, OrderedMap.find?_insert, beq_self_eq_true, if_pos rfl]
      rfl
  · rw [if_neg hother]
    cases h : a.queue table with
    | nil => rw [takeReader_of_nil h]
    | cons o rest =>
      rw [takeReader_of_cons h, queue, OrderedMap.find?_insert, beq_false_of_ne hother,
        if_neg Bool.false_ne_true]
      rfl

/-- A table stays known when its queue gets shorter. -/
theorem signals_takeReader (a : Analysis) (table : String) :
    (a.takeReader table).2.signals = a.signals := by
  cases h : a.queue table with
  | nil => rw [takeReader_of_nil h]
  | cons o rest =>
    have hkeys := OrderedMap.mem_keys_of_find? (find?_of_queue h)
    rw [takeReader_of_cons h]
    simp only [signals, OrderedMap.keys_insert, if_pos hkeys]

/-- Taking occurrences changes no signal. -/
theorem signals_takeReaders (a : Analysis) (tables : List String) :
    (a.takeReaders tables).2.signals = a.signals := by
  induction tables generalizing a with
  | nil => rfl
  | cons table rest ih => exact (ih (a.takeReader table).2).trans (signals_takeReader a table)

/-- So many selections as were taken for a table are gone from its queue. -/
theorem queue_takeReaders (a : Analysis) (tables : List String) (table : String) :
    (a.takeReaders tables).2.queue table = (a.queue table).drop (tables.count table) := by
  induction tables generalizing a with
  | nil => rfl
  | cons first rest ih =>
    have hlater : (a.takeReaders (first :: rest)).2
        = ((a.takeReader first).2.takeReaders rest).2 := rfl
    rw [hlater, ih, queue_takeReader, List.count_cons]
    by_cases hfirst : table = first
    · rw [if_pos hfirst, hfirst, beq_self_eq_true, if_pos rfl, ← List.drop_one, List.drop_drop,
        Nat.add_comm]
    · rw [if_neg hfirst, beq_false_of_ne (Ne.symm hfirst), if_neg Bool.false_ne_true, Nat.add_zero]

/-- A taking finds what the takings before it left. -/
theorem getElem?_takeReaders_eq (a : Analysis) (tables : List String) (k : Nat) :
    (a.takeReaders tables).1[k]?
      = tables[k]?.map fun table => ((a.takeReaders (tables.take k)).2.takeReader table).1 := by
  induction tables generalizing a k with
  | nil => rfl
  | cons first rest ih =>
    cases k with
    | zero => rfl
    | succ k => exact ih (a.takeReader first).2 k

/-- What is taken is told by how often something was taken for the same table before. -/
theorem getElem?_takeReaders {tables : List String} {k : Nat} (hk : tables[k]? = some table)
    (a : Analysis) :
    (a.takeReaders tables).1[k]? = some (a.queue table)[(tables.take k).count table]? := by
  rw [getElem?_takeReaders_eq, hk, Option.map_some, takeReader_eq_head?, queue_takeReaders,
    List.head?_drop]

/-- As many answers are given as tables are asked for. -/
theorem length_takeReaders (a : Analysis) (tables : List String) :
    (a.takeReaders tables).1.length = tables.length := by
  induction tables generalizing a with
  | nil => rfl
  | cons table rest ih => exact congrArg (· + 1) (ih (a.takeReader table).2)

/-! ### The queues after a walk -/

/-- The selection that a stop reads a table in is that of the part where the stop is made. -/
theorem Visit.map_reader? (v : Visit) (table : String) :
    (v.reader? table).map Occurrence.select = (v.partAt? false).bind (Part.readerOf? table) := by
  rcases v with ⟨d, _ | ⟨reader, s⟩ | _⟩ | ⟨d, _⟩
  · rfl
  · by_cases hname : s.name = some table
    · simp [Visit.reader?, Visit.partAt?, Part.readerOf?, Part.table?, Part.reader?, hname]
    · simp [Visit.reader?, Visit.partAt?, Part.readerOf?, Part.table?, hname]
  · rfl
  · rfl

/-- A part at the end of a path reads a table exactly when the table is named there. -/
theorem bind_readerOf? (p : Part) (path : List Nat) (table : String) :
    (p.at? path).bind (Part.readerOf? table)
      = if p.tableAt? path == some table then (p.at? path).bind Part.reader? else none := by
  rw [Part.tableAt?]
  cases p.at? path with
  | none => rfl
  | some q => simp only [Option.bind_some, Part.readerOf?, beq_iff_eq]

/-- The queue of a table holds the selections that read the sources at the places of the table. -/
theorem map_queue_ofSelect (hwhole : (ofSelect limit root).truncated = false) (table : String) :
    ((ofSelect limit root).queue table).map (fun o => some o.select)
      = ((Part.select root).placesOf table).map fun path =>
        ((Part.select root).at? path).bind Part.reader? := by
  have hqueue : ((ofSelect limit root).queue table).map Occurrence.select
      = ((Part.select root).placesOf table).filterMap fun path =>
        ((Part.select root).at? path).bind Part.reader? := by
    rw [queue_ofSelect, shallowVisits_of_whole hwhole, List.map_filterMap,
      funext fun v => Visit.map_reader? v table, filterMap_visits_bind,
      funext fun path => bind_readerOf? _ path table, Part.placesOf, List.filterMap_filter]
  have hsome : ∀ o ∈ ((Part.select root).placesOf table).map fun path =>
      ((Part.select root).at? path).bind Part.reader?, o.isSome = true := by
    intro o ho
    obtain ⟨path, hpath, rfl⟩ := List.mem_map.mp ho
    obtain ⟨reader, s, hat, -⟩ := Part.mem_placesOf_iff.mp hpath
    rw [hat]
    rfl
  rw [← List.filter_eq_self.mpr hsome, ← List.map_filterMap_some_eq_filter_map_isSome, ← hqueue,
    List.map_map]
  rfl

/-- Without truncation a queue is as long as the table has places. -/
theorem length_queue_ofSelect (hwhole : (ofSelect limit root).truncated = false) (table : String) :
    ((ofSelect limit root).queue table).length = ((Part.select root).placesOf table).length := by
  simpa using congrArg List.length (map_queue_ofSelect hwhole table)

/-- The tables are those that are named at some place. -/
theorem tables_ofSelect (hwhole : (ofSelect limit root).truncated = false) :
    (ofSelect limit root).signals.tables
      = (((Part.select root).paths false).filterMap (Part.select root).tableAt?).eraseDups := by
  have htable (v : Visit) : v.table? = (v.partAt? false).bind Part.table? := by
    rcases v with ⟨d, _ | _ | _⟩ | ⟨d, _⟩ <;> rfl
  have hkeys : (ofSelect limit root).signals.tables = (ofSelect limit root).readers.keys := rfl
  rw [hkeys, keys_readers_ofSelect, shallowVisits_of_whole hwhole, funext htable,
    filterMap_visits_bind]
  rfl

/-- Every member of a list is counted once if each of the different ones is counted. -/
theorem sum_map_count_eraseDups (names : List String) :
    (names.eraseDups.map fun name => names.count name).sum = names.length := by
  have hperm : names.eraseDups.Perm names.dedup :=
    (List.perm_ext_iff_of_nodup
      (OrderedMap.nodup_eraseDups names) names.nodup_dedup).mpr fun name => by
      rw [List.mem_eraseDups, List.mem_dedup]
  rw [(hperm.map _).sum_eq, List.sum_map_count_dedup_eq_length]

/-- Without truncation a table has no places exactly when it is not among the known ones. -/
theorem placesOf_eq_nil_iff (hwhole : (ofSelect limit root).truncated = false) (table : String) :
    (Part.select root).placesOf table = [] ↔ table ∉ (ofSelect limit root).signals.tables := by
  rw [← List.length_eq_zero_iff, Part.length_placesOf, List.count_eq_zero, tables_ofSelect hwhole,
    List.mem_eraseDups]

/-- Without truncation the queues together are as long as there are sources with a table in the
tree. -/
theorem sum_length_queue_ofSelect (hwhole : (ofSelect limit root).truncated = false) :
    ((ofSelect limit root).signals.tables.map fun table =>
      ((ofSelect limit root).queue table).length).sum
      = ((Part.select root).paths false).countP fun path =>
        ((Part.select root).tableAt? path).isSome := by
  simp only [length_queue_ofSelect hwhole, Part.length_placesOf, tables_ofSelect hwhole]
  rw [sum_map_count_eraseDups, List.length_filterMap_eq_countP]

/-- After one walk over a query that was not cut short, selections are taken for some tables, one
after the other and in any order. The first time that one is taken for a table it is the selection
that reads the source at the first place of the table, the next time at the second, and so on;
nothing is taken once there are no more places, nor ever for a table that no source names. The
places of a table are all places at which a source names it, each once and in the order of the walk,
so the queues together are as long as there are named sources in the query. Taking changes no
signal. -/
theorem takeReaders_of_whole (hwhole : (ofSelect limit root).truncated = false)
    (tables : List String) :
    let found := ofSelect limit root
    let all := Part.select root
    let taken := found.takeReaders tables
    taken.1.length = tables.length
      ∧ (∀ k table path, tables[k]? = some table →
        (all.placesOf table)[(tables.take k).count table]? = some path →
        ∃ o s, taken.1[k]? = some (some o) ∧ all.at? path.dropLast = some (.select o.select)
          ∧ s ∈ o.select.sources ∧ s.name = some table ∧ all.at? path = some (.source o.select s))
      ∧ (∀ k table, tables[k]? = some table →
        (all.placesOf table).length ≤ (tables.take k).count table → taken.1[k]? = some none)
      ∧ (∀ table, (all.placesOf table).Sublist (all.paths false) ∧ (all.placesOf table).Nodup
        ∧ ∀ path, path ∈ all.placesOf table
          ↔ ∃ reader s, all.at? path = some (.source reader s) ∧ s.name = some table)
      ∧ (∀ table, all.placesOf table = [] ↔ table ∉ found.signals.tables)
      ∧ (∀ table, (found.queue table).length = (all.placesOf table).length)
      ∧ (found.signals.tables.map fun table => (found.queue table).length).sum
        = ((all.paths false).countP fun path => (all.tableAt? path).isSome)
      ∧ taken.2.signals = found.signals := by
  intro found all taken
  -- A table is taken from the place in its queue that counts how often it was asked for before.
  have htaken (k : Nat) (table : String) (hk : tables[k]? = some table) :
      taken.1[k]? = some (found.queue table)[(tables.take k).count table]? :=
    getElem?_takeReaders hk found
  refine ⟨length_takeReaders found tables, fun k table path hk hpath => ?_,
    fun k table hk hover => ?_,
    fun table => ⟨List.filter_sublist, (Part.nodup_paths false all).filter _, fun path =>
      Part.mem_placesOf_iff⟩,
    placesOf_eq_nil_iff hwhole, length_queue_ofSelect hwhole, sum_length_queue_ofSelect hwhole,
    signals_takeReaders found tables⟩
  · obtain ⟨reader, s, hat, hname⟩ := Part.mem_placesOf_iff.mp (List.mem_of_getElem? hpath)
    have hqueue := congrArg (·[(tables.take k).count table]?) (map_queue_ofSelect hwhole table)
    simp only [List.getElem?_map] at hqueue
    rw [hpath, Option.map_some, hat, Option.map_eq_some_iff] at hqueue
    obtain ⟨o, ho, hreader⟩ := hqueue
    obtain rfl : o.select = reader := Option.some.inj hreader
    obtain ⟨hbefore, hs⟩ := Part.at?_dropLast_of_source hat
    exact ⟨o, s, by rw [htaken k table hk, ho], hbefore, hs, hname, hat⟩
  · rw [htaken k table hk, List.getElem?_eq_none]
    rw [length_queue_ofSelect hwhole]
    exact hover

/-- A table is read by a query, by a derived table in it and once more by the query itself: in this
order the selections are taken, also if one is taken for another table in between. -/
theorem takeReaders_of_self_join :
    let derived : Select := { Select.blank with sources := [.table "t"] }
    let root : Select :=
      { Select.blank with sources := [.table "t", .derived derived, .table "u", .table "t"] }
    let taken := ((ofSelect 4 root).takeReaders ["t", "t", "u", "t", "t", "v"]).1
    (ofSelect 4 root).truncated = false
      ∧ (∃ o, taken[0]? = some (some o) ∧ o.select = root)
      ∧ (∃ o, taken[1]? = some (some o) ∧ o.select = derived)
      ∧ (∃ o, taken[3]? = some (some o) ∧ o.select = root)
      ∧ taken[4]? = some none ∧ taken[5]? = some none := by
  intro derived root taken
  have hwhole : (ofSelect 4 root).truncated = false := by decide_cbv
  have hplaces : (Part.select root).placesOf "t" = [[0], [1, 0, 0], [3]] := by decide_cbv
  obtain ⟨-, hsome, hnone, -⟩ := takeReaders_of_whole hwhole ["t", "t", "u", "t", "t", "v"]
  have htaken (k : Nat) (path : List Nat) (reader : Select)
      (hk : ["t", "t", "u", "t", "t", "v"][k]? = some "t")
      (hpath : ((Part.select root).placesOf "t")[(["t", "t", "u", "t", "t", "v"].take k).count "t"]?
        = some path)
      (hreader : (Part.select root).at? path.dropLast = some (.select reader)) :
      ∃ o, taken[k]? = some (some o) ∧ o.select = reader := by
    obtain ⟨o, s, ho, hat, -⟩ := hsome k "t" path hk hpath
    rw [hreader] at hat
    exact ⟨o, ho, (Part.select.inj (Option.some.inj hat)).symm⟩
  refine ⟨hwhole, htaken 0 [0] root rfl (by rw [hplaces]; rfl) rfl,
    htaken 1 [1, 0, 0] derived rfl (by rw [hplaces]; rfl) rfl,
    htaken 3 [3] root rfl (by rw [hplaces]; rfl) rfl,
    hnone 4 "t" rfl ?_, hnone 5 "v" rfl ?_⟩
  · rw [hplaces]
    decide
  · decide_cbv

end Analysis

end QueryLint
