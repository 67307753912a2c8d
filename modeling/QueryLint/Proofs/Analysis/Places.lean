import Mathlib.Data.List.Nodup
import Mathlib.Data.List.Perm.Basic
import QueryLint.Proofs.Analysis.Walk

/-!
# Places in a query

Two parts of a query may be equal and still stand at different places. A place is told by the path
that leads to it: which of the parts directly inside is next, from the whole query on. `Part.paths`
lists all paths, each once, in the order in which a walk either reaches the parts or stops amid
them; that it agrees with the walk is `filterMap_visits`.
-/

namespace QueryLint.Outline.Part

/-- The part to which a path leads. -/
def at? (p : Part) : List Nat → Option Part
  | [] => some p
  | k :: path => p.inner[k]?.bind fun q => q.at? path

/-- How many of the parts directly inside a part are walked before a walk reaches it, or stops amid
it. -/
def lead (amid : Bool) (p : Part) : Nat := if amid then p.before.length else 0

/-- All paths in a part, in the order in which a walk reaches the parts at their ends, or stops amid
them. -/
def paths (amid : Bool) (p : Part) : List (List Nat) :=
  let inside := p.inner.attach.mapIdx fun k q => (paths amid q.1).map (k :: ·)
  (inside.take (p.lead amid)).flatten ++ [] :: (inside.drop (p.lead amid)).flatten
termination_by p.size
decreasing_by exact size_lt_of_mem_inner q.2

variable {amid : Bool} {p q : Part} {path rest : List Nat} {k : Nat}

@[simp] theorem at?_nil (p : Part) : p.at? [] = some p := rfl

theorem at?_cons (p : Part) (k : Nat) (path : List Nat) :
    p.at? (k :: path) = p.inner[k]?.bind fun q => q.at? path := rfl

/-- A path into a part inside leads on from there. -/
theorem at?_cons_of_getElem? (h : p.inner[k]? = some q) (path : List Nat) :
    p.at? (k :: path) = q.at? path := by
  rw [at?_cons, h, Option.bind_some]

/-- A path leads on from where its first half ends. -/
theorem at?_append (p : Part) (path rest : List Nat) :
    p.at? (path ++ rest) = (p.at? path).bind fun q => q.at? rest := by
  induction path generalizing p with
  | nil => rfl
  | cons k path ih =>
    rw [List.cons_append, at?_cons, at?_cons, Option.bind_assoc]
    exact congrArg _ (funext fun q => ih q)

/-- The same, if it is known where the first half ends. -/
theorem at?_append_of_eq_some (h : p.at? path = some q) (rest : List Nat) :
    p.at? (path ++ rest) = q.at? rest := by
  rw [at?_append, h, Option.bind_some]

/-- What is at the end of a path is directly inside what is one step before. -/
theorem at?_concat_eq_some_iff :
    p.at? (path ++ [k]) = some q ↔ ∃ c, p.at? path = some c ∧ c.inner[k]? = some q := by
  rw [at?_append, Option.bind_eq_some_iff]
  refine exists_congr fun c => and_congr_right fun _ => ?_
  rw [at?_cons, Option.bind_eq_some_iff]
  simp

/-! ### Paths inside the parts of a part -/

/-- The paths that begin with a step into one of the parts directly inside, for each of these
parts. -/
def below (amid : Bool) (p : Part) : List (List (List Nat)) :=
  p.inner.mapIdx fun k q => (paths amid q).map (k :: ·)

/-- The paths of a part are those into what comes before, its own, and those into what comes
behind. -/
theorem paths_eq (amid : Bool) (p : Part) :
    p.paths amid = ((p.below amid).take (p.lead amid)).flatten
      ++ [] :: ((p.below amid).drop (p.lead amid)).flatten := by
  have hattach : (p.inner.attach.mapIdx fun k q => (paths amid q.1).map (k :: ·)) = p.below amid :=
    List.ext_getElem (by simp [below]) (by simp [below])
  rw [paths, hattach]

/-- The paths below a part are those of the parts inside, each behind its number. -/
theorem getElem?_below (amid : Bool) (p : Part) (k : Nat) :
    (p.below amid)[k]? = p.inner[k]?.map fun q => (paths amid q).map (k :: ·) := by
  rw [below, List.getElem?_mapIdx]

/-- What is read off the paths of a part, if it is known for the parts directly inside. -/
theorem filterMap_paths {α : Type} {f : List Nat → Option α} {g : Part → List α}
    (h : ∀ k q, p.inner[k]? = some q → (q.paths amid).filterMap (fun path => f (k :: path)) = g q) :
    (p.paths amid).filterMap f
      = (p.inner.take (p.lead amid)).flatMap g
        ++ ((f []).toList ++ (p.inner.drop (p.lead amid)).flatMap g) := by
  have hbelow : (p.below amid).map (·.filterMap f) = p.inner.map g := by
    refine List.ext_getElem? fun k => ?_
    rw [List.getElem?_map, List.getElem?_map, getElem?_below, Option.map_map]
    cases hk : p.inner[k]? with
    | none => rfl
    | some q =>
      rw [Option.map_some, Option.map_some, Function.comp_apply, List.filterMap_map,
        ← h k q hk]; rfl
  have hflatten (ls : List (List (List Nat))) :
      ls.flatten.filterMap f = (ls.map (·.filterMap f)).flatten := List.filterMap_flatten
  rw [paths_eq, List.filterMap_append, hflatten, List.filterMap_cons, hflatten, List.map_take,
    List.map_drop, hbelow, ← List.map_take, ← List.map_drop, List.flatMap_def, List.flatMap_def]
  cases f [] <;> rfl

/-- Without their order, the paths of a part are its own and those into the parts inside. -/
theorem paths_perm (amid : Bool) (p : Part) :
    (p.paths amid).Perm ([] :: (p.below amid).flatten) := by
  rw [paths_eq]
  refine List.perm_middle.trans (List.Perm.cons _ ?_)
  rw [← List.flatten_append, List.take_append_drop]

/-- A path below a part leads into one of the parts inside. -/
theorem mem_flatten_below_iff :
    path ∈ (p.below amid).flatten
      ↔ ∃ k q rest, p.inner[k]? = some q ∧ path = k :: rest ∧ rest ∈ q.paths amid := by
  rw [List.mem_flatten]
  constructor
  · rintro ⟨l, hl, hpath⟩
    obtain ⟨k, hk⟩ := List.mem_iff_getElem?.mp hl
    rw [getElem?_below, Option.map_eq_some_iff] at hk
    obtain ⟨q, hq, rfl⟩ := hk
    obtain ⟨rest, hrest, rfl⟩ := List.mem_map.mp hpath
    exact ⟨k, q, rest, hq, rfl, hrest⟩
  · rintro ⟨k, q, rest, hq, rfl, hrest⟩
    refine ⟨(q.paths amid).map (k :: ·), List.mem_iff_getElem?.mpr ⟨k, ?_⟩,
      List.mem_map_of_mem hrest⟩
    rw [getElem?_below, hq, Option.map_some]

/-- All paths that lead to some part are listed. -/
theorem mem_paths_iff : path ∈ p.paths amid ↔ (p.at? path).isSome = true := by
  induction path generalizing p with
  | nil => simp [(p.paths_perm amid).mem_iff]
  | cons k rest ih =>
    rw [(p.paths_perm amid).mem_iff, List.mem_cons, mem_flatten_below_iff, at?_cons]
    cases hk : p.inner[k]? with
    | none =>
      simp only [reduceCtorEq, List.cons.injEq, false_or, Option.bind_none, Option.isSome_none,
        Bool.false_eq_true, iff_false]
      rintro ⟨k', q, rest', hq, ⟨rfl, -⟩, -⟩
      rw [hk] at hq
      cases hq
    | some c =>
      rw [Option.bind_some, ← ih]
      simp only [reduceCtorEq, List.cons.injEq, false_or]
      constructor
      · rintro ⟨k', q, rest', hq, ⟨rfl, rfl⟩, hrest⟩
        rw [hk] at hq
        cases hq
        exact hrest
      · intro hrest
        exact ⟨k, c, rest, hk, ⟨rfl, rfl⟩, hrest⟩

/-- No path is listed twice. -/
theorem nodup_paths (amid : Bool) (p : Part) : (p.paths amid).Nodup := by
  induction p using Part.induct with
  | h p ih =>
    rw [(p.paths_perm amid).nodup_iff, List.nodup_cons]
    refine ⟨fun hmem => ?_, List.nodup_flatten.mpr ⟨fun l hl => ?_, ?_⟩⟩
    · obtain ⟨k, q, rest, -, hpath, -⟩ := mem_flatten_below_iff.mp hmem
      cases hpath
    · obtain ⟨k, hk⟩ := List.mem_iff_getElem?.mp hl
      rw [getElem?_below, Option.map_eq_some_iff] at hk
      obtain ⟨q, hq, rfl⟩ := hk
      exact (ih q (List.mem_of_getElem? hq)).map (List.cons_injective)
    · -- Paths into different parts differ in their first steps.
      rw [List.pairwise_iff_getElem]
      intro k k' hk hk' hlt path hpath hpath'
      simp only [below, List.getElem_mapIdx, List.mem_map] at hpath hpath'
      obtain ⟨rest, -, rfl⟩ := hpath
      obtain ⟨rest', -, heq⟩ := hpath'
      exact Nat.ne_of_gt hlt (List.cons.inj heq).1

/-! ### Paths behind a path -/

/-- What is kept of some lists in a row is kept of the only one of them that has something to
keep. -/
theorem filter_flatten_of_getElem? {α : Type} {f : α → Bool} {ls : List (List α)} {l : List α}
    {k : Nat} (hk : ls[k]? = some l)
    (h : ∀ j l', ls[j]? = some l' → j ≠ k → ∀ a ∈ l', f a = false) :
    ls.flatten.filter f = l.filter f := by
  induction ls generalizing k with
  | nil => simp at hk
  | cons first ls ih =>
    rw [List.flatten_cons, List.filter_append]
    cases k with
    | zero =>
      obtain rfl : first = l := by simpa using hk
      have hrest : ls.flatten.filter f = [] := by
        rw [List.filter_eq_nil_iff]
        intro a ha
        obtain ⟨l', hl', ha⟩ := List.mem_flatten.mp ha
        obtain ⟨j, hj⟩ := List.mem_iff_getElem?.mp hl'
        simp [h (j + 1) l' (by simpa using hj) (Nat.succ_ne_zero j) a ha]
      rw [hrest, List.append_nil]
    | succ k =>
      have hfirst : first.filter f = [] := by
        rw [List.filter_eq_nil_iff]
        intro a ha
        simp [h 0 first rfl (Nat.succ_ne_zero k).symm a ha]
      rw [hfirst, List.nil_append]
      refine ih (by simpa using hk) fun j l' hj hne a ha => ?_
      exact h (j + 1) l' (by simpa using hj) (fun heq => hne (Nat.succ.inj heq)) a ha

/-- The paths that go on behind a path are those in the part to which it leads. -/
theorem filter_paths (h : p.at? path = some q) :
    (p.paths amid).filter (fun longer => path.isPrefixOf longer)
      = (q.paths amid).map (path ++ ·) := by
  induction path generalizing p with
  | nil =>
    obtain rfl : p = q := Option.some.inj h
    simp
  | cons k path ih =>
    rw [at?_cons, Option.bind_eq_some_iff] at h
    obtain ⟨c, hc, hq⟩ := h
    have hbelow : (p.below amid)[k]? = some ((c.paths amid).map (k :: ·)) := by
      rw [getElem?_below, hc, Option.map_some]
    have hkept : (p.paths amid).filter (fun longer => (k :: path).isPrefixOf longer)
        = ((p.below amid).flatten).filter fun longer => (k :: path).isPrefixOf longer := by
      have hnil : (k :: path).isPrefixOf [] = false := rfl
      conv_rhs => rw [← List.take_append_drop (p.lead amid) (p.below amid), List.flatten_append]
      rw [paths_eq, List.filter_append, List.filter_cons, hnil, List.filter_append]
      rfl
    rw [hkept, filter_flatten_of_getElem? hbelow, List.filter_map]
    · have hrest := ih hq
      simp only [Function.comp_def, List.isPrefixOf_cons_cons, beq_self_eq_true, Bool.true_and,
        hrest, List.map_map, List.cons_append]
    · intro j l hj hne longer hlonger
      rw [getElem?_below, Option.map_eq_some_iff] at hj
      obtain ⟨c', -, rfl⟩ := hj
      obtain ⟨rest, -, rfl⟩ := List.mem_map.mp hlonger
      rw [List.isPrefixOf_cons_cons, beq_eq_false_iff_ne.mpr (Ne.symm hne), Bool.false_and]

end QueryLint.Outline.Part

namespace QueryLint.Analysis

open Outline

/-- The part at which a stop is of one of the two kinds: where a walk reaches it, or amid it. -/
def Visit.partAt? (amid : Bool) : Visit → Option Part
  | arrive _ p => if amid then none else some p
  | .amid _ p => if amid then some p else none

/-- A walk makes its stops of one kind in the order of the paths. -/
theorem filterMap_visits (amid : Bool) (depth : Nat) (p : Part) :
    (visits depth p).filterMap (Visit.partAt? amid) = (p.paths amid).filterMap p.at? := by
  induction p using Part.induct generalizing depth with
  | h p ih =>
    have hpart (parts : List Part) (hin : ∀ q ∈ parts, q ∈ p.inner) :
        (visitsOf depth parts).filterMap (Visit.partAt? amid)
          = parts.flatMap fun q => (q.paths amid).filterMap q.at? := by
      rw [visitsOf, List.filterMap_flatMap]
      exact List.flatMap_congr fun q hq => ih q (hin q hq) _
    have hbefore := hpart p.before fun q hq => List.mem_append_left _ hq
    have hbehind := hpart p.behind fun q hq => List.mem_append_right _ hq
    have hstep (k : Nat) (q : Part) (hk : p.inner[k]? = some q) :
        (q.paths amid).filterMap (fun path => p.at? (k :: path)) = (q.paths amid).filterMap q.at? :=
      congrArg (fun f => (q.paths amid).filterMap f) (funext (Part.at?_cons_of_getElem? hk))
    rw [Part.filterMap_paths hstep, visits_eq, List.filterMap_cons, List.filterMap_append, hbefore,
      List.filterMap_cons, hbehind]
    cases amid with
    | false => simp [Visit.partAt?, Part.lead, Part.inner]
    | true => simp [Visit.partAt?, Part.lead, Part.inner]

/-- What is read off the parts at stops of one kind is read off their places. -/
theorem filterMap_visits_bind {α : Type} (amid : Bool) (depth : Nat) (p : Part)
    (f : Part → Option α) :
    (visits depth p).filterMap (fun v => (v.partAt? amid).bind f)
      = (p.paths amid).filterMap fun path => (p.at? path).bind f := by
  rw [← List.filterMap_filterMap, filterMap_visits, List.filterMap_filterMap]

end QueryLint.Analysis
