import Mathlib.Logic.Relation
import QueryLint.Outline

/-!
# Parts of a query

A query is made of selections, sources and expressions. `Part` puts them into one type, so that what
holds of all of them is proved by one induction (`Part.induct`) over their parts. A part is in
another one (`Part.IsIn`) if it is reached by going down from it any number of times.
-/

namespace QueryLint.Outline

/-- A part of a query: a selection, a source in the list of a selection, or an expression below an
expression with some tag or below none. -/
inductive Part where
  | select (s : Select)
  | source (reader : Select) (s : Source)
  | expr (parent : Option Op) (e : Expr)

namespace Part

/-- The parts directly inside a part that are walked before it is looked at: the query of a source,
and the left operand of an expression. -/
def before : Part → List Part
  | select _ => []
  | source _ s => s.select.toList.map select
  | expr _ e => e.left.toList.map (expr (some e.op))

/-- The parts directly inside a part that are walked after it was looked at. -/
def behind : Part → List Part
  | select s =>
    s.ctes.map select ++ s.prior.toList.map select ++ s.projection.map (expr none)
      ++ s.sources.map (source s) ++ s.selection.toList.map (expr none)
      ++ s.groupBy.map (expr none) ++ s.orderBy.map (expr none) ++ s.having.toList.map (expr none)
      ++ s.limit.toList.map (expr none) ++ s.offset.toList.map (expr none)
  | source _ s => s.on.toList.map (expr none)
  | expr _ e =>
    e.right.toList.map (expr (some e.op)) ++ e.select.toList.map select
      ++ e.list.map (expr (some e.op))

/-- The parts directly inside a part. -/
def inner (p : Part) : List Part := p.before ++ p.behind

/-- The size of a part, by which recursions over parts end. -/
noncomputable def size : Part → Nat
  | select s => sizeOf s
  | source _ s => sizeOf s
  | expr _ e => sizeOf e

/-- A part inside another is smaller than it, so that recursion over the parts ends. -/
theorem size_lt_of_mem_inner {p q : Part} (h : q ∈ p.inner) : q.size < p.size := by
  cases p with
  | select s =>
    obtain ⟨ctes, prior, projection, sources, selection, groupBy, orderBy, having, limit, offset⟩ :=
      s
    simp only [inner, before, behind, List.nil_append, List.mem_append, List.mem_map,
      Option.mem_toList, or_assoc] at h
    rcases h with ⟨c, hc, rfl⟩ | ⟨c, rfl, rfl⟩ | ⟨e, hc, rfl⟩ | ⟨s, hc, rfl⟩ | ⟨e, rfl, rfl⟩
      | ⟨e, hc, rfl⟩ | ⟨e, hc, rfl⟩ | ⟨e, rfl, rfl⟩ | ⟨e, rfl, rfl⟩ | ⟨e, rfl, rfl⟩
    all_goals
      try have hlt := List.sizeOf_lt_of_mem hc
      simp only [size, Select.mk.sizeOf_spec, Option.some.sizeOf_spec]
      omega
  | source reader s =>
    obtain ⟨name, aliasName, select, columns, on⟩ := s
    simp only [inner, before, behind, List.mem_append, List.mem_map, Option.mem_toList] at h
    rcases h with ⟨c, rfl, rfl⟩ | ⟨e, rfl, rfl⟩
    all_goals
      simp only [size, Source.mk.sizeOf_spec, Option.some.sizeOf_spec]
      omega
  | expr parent e =>
    obtain ⟨op, left, right, select, list, token⟩ := e
    simp only [inner, before, behind, List.mem_append, List.mem_map, Option.mem_toList,
      or_assoc] at h
    rcases h with ⟨c, rfl, rfl⟩ | ⟨c, rfl, rfl⟩ | ⟨c, rfl, rfl⟩ | ⟨c, hc, rfl⟩
    all_goals
      try have hlt := List.sizeOf_lt_of_mem hc
      simp only [size, Expr.mk.sizeOf_spec, Option.some.sizeOf_spec]
      omega

/-- What holds of a part if it holds of all parts inside it holds of all parts. -/
theorem induct {motive : Part → Prop} (h : ∀ p, (∀ q ∈ p.inner, motive q) → motive p) (p : Part) :
    motive p :=
  h p fun q _ => induct h q
termination_by p.size
decreasing_by exact size_lt_of_mem_inner ‹_›

/-- A part is another one or somewhere inside it. -/
def IsIn (q p : Part) : Prop :=
  Relation.ReflTransGen (fun p q => q ∈ p.inner) p q

/-- A part is in itself. -/
theorem IsIn.refl (p : Part) : p.IsIn p := Relation.ReflTransGen.refl

/-- A part is inside another one if it is that one or is in a part directly inside it. -/
theorem isIn_iff {p q : Part} : q.IsIn p ↔ q = p ∨ ∃ c ∈ p.inner, q.IsIn c := by
  rw [IsIn, Relation.ReflTransGen.cases_head_iff, eq_comm]
  rfl

/-! ### Heights -/

/-- How many levels a part adds. Sources do not count. -/
def levels : Part → Nat
  | select _ => 1
  | source _ _ => 0
  | expr _ _ => 1

/-- How deep a part is nested. -/
def height (p : Part) : Nat :=
  p.levels + p.inner.attach.foldr (fun q highest => max q.1.height highest) 0
termination_by p.size
decreasing_by exact size_lt_of_mem_inner q.2

/-- The height of a part is the levels it enters and the greatest height among the parts inside
it. -/
theorem height_eq (p : Part) :
    p.height = p.levels + p.inner.foldr (fun q highest => max q.height highest) 0 := by
  rw [height]
  simp

/-- A part is at least as high as the levels that it enters. -/
theorem levels_le_height (p : Part) : p.levels ≤ p.height := by
  rw [height_eq]
  exact Nat.le_add_right _ _

/-- A part is higher than each part directly inside it by the levels that it adds. -/
theorem levels_add_height_le {p q : Part} (hq : q ∈ p.inner) : p.levels + q.height ≤ p.height := by
  rw [height_eq p]
  apply Nat.add_le_add_left
  generalize p.inner = parts at hq
  induction parts with
  | nil => cases hq
  | cons c rest ih =>
    rw [List.foldr_cons]
    rcases List.mem_cons.mp hq with rfl | hq
    · exact Nat.le_max_left _ _
    · exact Nat.le_trans (ih hq) (Nat.le_max_right _ _)

end Part

end QueryLint.Outline
