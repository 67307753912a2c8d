import QueryLint.Proofs.Analysis.Flags
import QueryLint.Sql.Ast

/-!
# Parts of a syntax tree

The nodes of a syntax tree in one type, with the nodes directly inside each of them, and which of
them call for which flag of a walk (`Part.shows`). All nodes of a tree are in one list
(`Part.nodes`), apart from those written in passages.

Whether the condition of a join counts as inside the join, and whether the join calls for a flag, is
left to a parameter by the kind of the join: `keeps`.
-/

namespace QueryLint.Sql

/-! ### What is inside -/

/-- The condition and the result of a branch. -/
def Branch.exprs : Branch → List Expr
  | mk condition result => [condition, result]

/-- The value of an argument, if it has one. -/
def Argument.exprs : Argument → List Expr
  | positional value => [value]
  | named _ _ value => [value]
  | verbatim _ => []

/-- The value of an item, if it has one. -/
def SelectItem.exprs : SelectItem → List Expr
  | expr value _ => [value]
  | wildcard _ => []

/-- The keys of a grouping. -/
def GroupBy.exprs : GroupBy → List Expr
  | keys members _ => members
  | all _ => []

/-- A key of an order, without its options. -/
def OrderKey.expr : OrderKey → Expr
  | mk key _ => key

/-- The keys of an order. -/
def OrderBy.exprs : OrderBy → List Expr
  | keys members _ => members.map OrderKey.expr

/-- The count and the offset of a limit. -/
def Limit.exprs : Limit → List Expr
  | clauses count offset _ => count.toList ++ offset.toList
  | comma offset count => [offset, count]

/-- The query of a common table expression. -/
def Cte.query : Cte → Query
  | mk _ _ query _ => query

/-- The condition of a join that has one. -/
def JoinConstraint.exprs : JoinConstraint → List Expr
  | .on condition => [condition]
  | _ => []

/-- Whether a join carries `ON` or `USING`. -/
def JoinConstraint.isGiven : JoinConstraint → Bool
  | .on _ | .using _ => true
  | _ => false

/-- The conditions of all joins count. -/
def everyJoin : JoinKind → Bool := fun _ => true

/-- A node of a syntax tree. -/
inductive Part where
  | expr (e : Expr)
  | query (q : Query)
  | body (b : SetExpr)
  | select (s : Select)
  | tableJoins (t : TableJoins)
  | factor (f : TableFactor)
  | join (j : Join)

namespace Part

/-- The nodes directly inside the arguments of a call. -/
def ofArguments : Arguments → List Part
  | .absent => []
  | .query q => [query q]
  | .list _ arguments _ => (arguments.flatMap Argument.exprs).map expr

/-- The nodes directly inside an expression. -/
def ofExpr : Expr → List Part
  | .ident _ | .compound _ | .value _ | .verbatim _ => []
  | .nested inner => [expr inner]
  | .collate inner _ => [expr inner]
  | .binary left _ right => [expr left, expr right]
  | .unary _ operand => [expr operand]
  | .pattern _ _ _ operand pattern _ => [expr operand, expr pattern]
  | .inList operand _ members => expr operand :: members.map expr
  | .inQuery operand _ q => [expr operand, query q]
  | .isNull operand => [expr operand]
  | .isNotNull operand => [expr operand]
  | .isTruth operand _ _ => [expr operand]
  | .distinct left _ right => [expr left, expr right]
  | .between operand _ low high => [expr operand, expr low, expr high]
  | .subquery q => [query q]
  | .exists _ q => [query q]
  | .call _ _ _ arguments _ => ofArguments arguments
  | .case operand branches otherwise =>
    operand.toList.map expr ++ (branches.flatMap Branch.exprs).map expr ++ otherwise.toList.map expr
  | .cast _ operand _ => [expr operand]

/-- The nodes directly inside a query. -/
def ofQuery : Query → List Part
  | .mk _ ctes b orderBy limit _ =>
    body b :: ctes.map (fun c => query c.query) ++ orderBy.exprs.map expr ++ limit.exprs.map expr

/-- The nodes directly inside the body of a query. -/
def ofBody : SetExpr → List Part
  | .select s => [select s]
  | .query q => [query q]
  | .operation left _ _ right => [body left, body right]
  | .values _ _ rows => rows.flatten.map expr
  | .verbatim _ => []

/-- The nodes directly inside a `SELECT`. -/
def ofSelect : Select → List Part
  | .mk _ _ projection _ sources _ selection groupBy _ having _ =>
    (projection.flatMap SelectItem.exprs).map expr ++ sources.map tableJoins
      ++ selection.toList.map expr ++ groupBy.exprs.map expr ++ having.toList.map expr

/-- The nodes directly inside a source with its joins. -/
def ofTableJoins : TableJoins → List Part
  | .mk relation joins => factor relation :: joins.map join

/-- The nodes directly inside a source of rows. -/
def ofFactor : TableFactor → List Part
  | .table _ _ _ _ => []
  | .derived _ q _ => [query q]
  | .nested t _ => [tableJoins t]
  | .verbatim _ _ _ => []

/-- The nodes directly inside a join. -/
def ofJoin (keeps : JoinKind → Bool) : Join → List Part
  | .mk _ kind relation constraint =>
    factor relation :: if keeps kind then constraint.exprs.map expr else []

/-- The nodes directly inside a node. -/
def inner (keeps : JoinKind → Bool) : Part → List Part
  | expr e => ofExpr e
  | query q => ofQuery q
  | body b => ofBody b
  | select s => ofSelect s
  | tableJoins t => ofTableJoins t
  | factor f => ofFactor f
  | join j => ofJoin keeps j

/-- The size of a node, by which recursions over nodes end. -/
noncomputable def size : Part → Nat
  | expr e => sizeOf e
  | query q => sizeOf q
  | body b => sizeOf b
  | select s => sizeOf s
  | tableJoins t => sizeOf t
  | factor f => sizeOf f
  | join j => sizeOf j

end Part

/-! ### Sizes -/

section Sizes

variable {e : Expr}

/-- An expression of a CASE branch is smaller than the branch. -/
theorem Branch.sizeOf_lt {b : Branch} (h : e ∈ b.exprs) : sizeOf e < sizeOf b := by
  obtain ⟨condition, result⟩ := b
  simp only [exprs, List.mem_cons, List.not_mem_nil, or_false] at h
  rcases h with rfl | rfl
  all_goals
    simp only [mk.sizeOf_spec]
    omega

/-- An expression of an argument is smaller than the argument. -/
theorem Argument.sizeOf_lt {a : Argument} (h : e ∈ a.exprs) : sizeOf e < sizeOf a := by
  cases a with
  | positional value =>
    obtain rfl := List.mem_singleton.mp h
    simp only [positional.sizeOf_spec]
    omega
  | named name operator value =>
    obtain rfl := List.mem_singleton.mp h
    simp only [named.sizeOf_spec]
    omega
  | verbatim text => cases h

/-- An expression of a projection item is smaller than the item. -/
theorem SelectItem.sizeOf_lt {item : SelectItem} (h : e ∈ item.exprs) : sizeOf e < sizeOf item := by
  cases item with
  | expr value aliasName =>
    obtain rfl := List.mem_singleton.mp h
    simp only [expr.sizeOf_spec]
    omega
  | wildcard text => cases h

/-- A key of a GROUP BY is smaller than the clause. -/
theorem GroupBy.sizeOf_lt {g : GroupBy} (h : e ∈ g.exprs) : sizeOf e < sizeOf g := by
  cases g with
  | keys members modifiers =>
    have hlt := List.sizeOf_lt_of_mem h
    simp only [exprs] at hlt
    simp only [keys.sizeOf_spec]
    omega
  | all modifiers => cases h

/-- A key of an ORDER BY is smaller than the clause. -/
theorem OrderBy.sizeOf_lt {o : OrderBy} (h : e ∈ o.exprs) : sizeOf e < sizeOf o := by
  obtain ⟨members, tail⟩ := o
  obtain ⟨⟨key, options⟩, hkey, rfl⟩ := List.mem_map.mp h
  have hlt := List.sizeOf_lt_of_mem hkey
  simp only [OrderKey.mk.sizeOf_spec] at hlt
  simp only [OrderKey.expr, keys.sizeOf_spec]
  omega

/-- An expression of a LIMIT is smaller than the clause. -/
theorem Limit.sizeOf_lt {l : Limit} (h : e ∈ l.exprs) : sizeOf e < sizeOf l := by
  cases l with
  | clauses count offset tail =>
    simp only [exprs, List.mem_append, Option.mem_toList] at h
    rcases h with rfl | rfl
    all_goals
      simp only [clauses.sizeOf_spec, Option.some.sizeOf_spec]
      omega
  | comma offset count =>
    simp only [exprs, List.mem_cons, List.not_mem_nil, or_false] at h
    rcases h with rfl | rfl
    all_goals
      simp only [comma.sizeOf_spec]
      omega

/-- An expression of a join constraint is smaller than the constraint. -/
theorem JoinConstraint.sizeOf_lt {c : JoinConstraint} (h : e ∈ c.exprs) : sizeOf e < sizeOf c := by
  cases c with
  | on condition =>
    obtain rfl := List.mem_singleton.mp h
    simp only [on.sizeOf_spec]
    omega
  | _ => cases h

/-- The query of a common table expression is smaller than the expression. -/
theorem Cte.sizeOf_query_lt (c : Cte) : sizeOf c.query < sizeOf c := by
  obtain ⟨aliasName, hint, inside, source⟩ := c
  simp only [query, mk.sizeOf_spec]
  omega

end Sizes

namespace Part

variable {p q : Part} {keeps : JoinKind → Bool}

/-- A node of a list of arguments is smaller than the list. -/
theorem size_lt_of_mem_ofArguments {a : Arguments} (h : q ∈ ofArguments a) : q.size < sizeOf a := by
  cases a with
  | absent => cases h
  | query inner =>
    obtain rfl := List.mem_singleton.mp h
    simp only [size, Arguments.query.sizeOf_spec]
    omega
  | list quantifier arguments clauses =>
    obtain ⟨e, he, rfl⟩ := List.mem_map.mp h
    obtain ⟨a, ha, hvalue⟩ := List.mem_flatMap.mp he
    have hlt := Argument.sizeOf_lt hvalue
    have hlt' := List.sizeOf_lt_of_mem ha
    simp only [size, Arguments.list.sizeOf_spec]
    omega

/-- A node of an expression is smaller than the expression. -/
theorem size_lt_of_mem_ofExpr {e : Expr} (h : q ∈ ofExpr e) : q.size < sizeOf e := by
  cases e with
  | call braced name parameters arguments suffix =>
    have hlt := size_lt_of_mem_ofArguments h
    simp only [Expr.call.sizeOf_spec]
    omega
  | inList operand negated members =>
    simp only [ofExpr, List.mem_cons, List.mem_map] at h
    rcases h with rfl | ⟨e, he, rfl⟩
    · simp only [size, Expr.inList.sizeOf_spec]
      omega
    · have hlt := List.sizeOf_lt_of_mem he
      simp only [size, Expr.inList.sizeOf_spec]
      omega
  | case operand branches otherwise =>
    simp only [ofExpr, List.mem_append, List.mem_map, List.mem_flatMap, Option.mem_toList,
      or_assoc] at h
    rcases h with ⟨e, rfl, rfl⟩ | ⟨e, ⟨b, hb, he⟩, rfl⟩ | ⟨e, rfl, rfl⟩
    · simp only [size, Expr.case.sizeOf_spec, Option.some.sizeOf_spec]
      omega
    · have hlt := Branch.sizeOf_lt he
      have hlt' := List.sizeOf_lt_of_mem hb
      simp only [size, Expr.case.sizeOf_spec]
      omega
    · simp only [size, Expr.case.sizeOf_spec, Option.some.sizeOf_spec]
      omega
  | ident | compound | value | verbatim => cases h
  | nested | collate | unary | isNull | isNotNull | isTruth | cast | subquery | «exists» =>
    obtain rfl := List.mem_singleton.mp h
    simp only [size, Expr.nested.sizeOf_spec, Expr.collate.sizeOf_spec, Expr.unary.sizeOf_spec,
      Expr.isNull.sizeOf_spec, Expr.isNotNull.sizeOf_spec, Expr.isTruth.sizeOf_spec,
      Expr.cast.sizeOf_spec, Expr.subquery.sizeOf_spec, Expr.exists.sizeOf_spec]
    omega
  | binary | pattern | distinct | inQuery =>
    simp only [ofExpr, List.mem_cons, List.not_mem_nil, or_false] at h
    rcases h with rfl | rfl
    all_goals
      simp only [size, Expr.binary.sizeOf_spec, Expr.pattern.sizeOf_spec, Expr.distinct.sizeOf_spec,
        Expr.inQuery.sizeOf_spec]
      omega
  | between operand negated low high =>
    simp only [ofExpr, List.mem_cons, List.not_mem_nil, or_false] at h
    rcases h with rfl | rfl | rfl
    all_goals
      simp only [size, Expr.between.sizeOf_spec]
      omega

/-- A node of a query is smaller than the query. -/
theorem size_lt_of_mem_ofQuery {inside : Query} (h : q ∈ ofQuery inside) :
    q.size < sizeOf inside := by
  obtain ⟨recursive, ctes, b, orderBy, limit, tail⟩ := inside
  simp only [ofQuery, List.mem_append, List.mem_cons, List.mem_map, or_assoc] at h
  rcases h with rfl | ⟨c, hc, rfl⟩ | ⟨e, he, rfl⟩ | ⟨e, he, rfl⟩
  · simp only [size, Query.mk.sizeOf_spec]
    omega
  · have hlt := List.sizeOf_lt_of_mem hc
    have hlt' := c.sizeOf_query_lt
    simp only [size, Query.mk.sizeOf_spec]
    omega
  · have hlt := OrderBy.sizeOf_lt he
    simp only [size, Query.mk.sizeOf_spec]
    omega
  · have hlt := Limit.sizeOf_lt he
    simp only [size, Query.mk.sizeOf_spec]
    omega

/-- A node of the body of a query is smaller than the body. -/
theorem size_lt_of_mem_ofBody {b : SetExpr} (h : q ∈ ofBody b) : q.size < sizeOf b := by
  cases b with
  | select s =>
    obtain rfl := List.mem_singleton.mp h
    simp [size]
  | query inside =>
    obtain rfl := List.mem_singleton.mp h
    simp [size]
  | operation left op quantifier right =>
    simp only [ofBody, List.mem_cons, List.not_mem_nil, or_false] at h
    rcases h with rfl | rfl
    all_goals
      simp only [size, SetExpr.operation.sizeOf_spec]
      omega
  | values keyword row rows =>
    obtain ⟨e, he, rfl⟩ := List.mem_map.mp h
    obtain ⟨members, hmembers, he⟩ := List.mem_flatten.mp he
    have hlt := List.sizeOf_lt_of_mem he
    have hlt' := List.sizeOf_lt_of_mem hmembers
    simp only [size, SetExpr.values.sizeOf_spec]
    omega
  | verbatim text => cases h

/-- A node of a select is smaller than the select. -/
theorem size_lt_of_mem_ofSelect {s : Select} (h : q ∈ ofSelect s) : q.size < sizeOf s := by
  obtain ⟨form, head, projection, into, sources, beforeWhere, selection, groupBy,
    beforeHaving, having, tail⟩ := s
  simp only [ofSelect, List.mem_append, List.mem_map, List.mem_flatMap, Option.mem_toList,
    or_assoc] at h
  rcases h with ⟨e, ⟨item, hitem, he⟩, rfl⟩ | ⟨t, ht, rfl⟩ | ⟨e, rfl, rfl⟩ | ⟨e, he, rfl⟩
    | ⟨e, rfl, rfl⟩
  · have hlt := List.sizeOf_lt_of_mem hitem
    have hlt' := SelectItem.sizeOf_lt he
    simp only [size, Select.mk.sizeOf_spec]
    omega
  · have hlt := List.sizeOf_lt_of_mem ht
    simp only [size, Select.mk.sizeOf_spec]
    omega
  · simp only [size, Select.mk.sizeOf_spec, Option.some.sizeOf_spec]
    omega
  · have hlt := GroupBy.sizeOf_lt he
    simp only [size, Select.mk.sizeOf_spec]
    omega
  · simp only [size, Select.mk.sizeOf_spec, Option.some.sizeOf_spec]
    omega

/-- A node of a relation with its joins is smaller than the relation. -/
theorem size_lt_of_mem_ofTableJoins {t : TableJoins} (h : q ∈ ofTableJoins t) :
    q.size < sizeOf t := by
  obtain ⟨relation, joins⟩ := t
  simp only [ofTableJoins, List.mem_cons, List.mem_map] at h
  rcases h with rfl | ⟨j, hj, rfl⟩
  · simp only [size, TableJoins.mk.sizeOf_spec]
    omega
  · have hlt := List.sizeOf_lt_of_mem hj
    simp only [size, TableJoins.mk.sizeOf_spec]
    omega

/-- A node of a table factor is smaller than the factor. -/
theorem size_lt_of_mem_ofFactor {f : TableFactor} (h : q ∈ ofFactor f) : q.size < sizeOf f := by
  cases f with
  | derived lateral inside aliasName =>
    obtain rfl := List.mem_singleton.mp h
    simp only [size, TableFactor.derived.sizeOf_spec]
    omega
  | nested t aliasName =>
    obtain rfl := List.mem_singleton.mp h
    simp only [size, TableFactor.nested.sizeOf_spec]
    omega
  | _ => cases h

/-- A node of a join is smaller than the join. -/
theorem size_lt_of_mem_ofJoin {j : Join} (h : q ∈ ofJoin keeps j) : q.size < sizeOf j := by
  obtain ⟨isGlobal, kind, relation, constraint⟩ := j
  simp only [ofJoin, List.mem_cons] at h
  rcases h with rfl | h
  · simp only [size, Join.mk.sizeOf_spec]
    omega
  · split at h
    · obtain ⟨e, he, rfl⟩ := List.mem_map.mp h
      have hlt := JoinConstraint.sizeOf_lt he
      simp only [size, Join.mk.sizeOf_spec]
      omega
    · cases h

/-- A node inside another is smaller than it, so that recursion over the nodes ends. -/
theorem size_lt_of_mem_inner (h : q ∈ p.inner keeps) : q.size < p.size := by
  cases p with
  | expr e => exact size_lt_of_mem_ofExpr h
  | query inside => exact size_lt_of_mem_ofQuery h
  | body b => exact size_lt_of_mem_ofBody h
  | select s => exact size_lt_of_mem_ofSelect h
  | tableJoins t => exact size_lt_of_mem_ofTableJoins h
  | factor f => exact size_lt_of_mem_ofFactor h
  | join j => exact size_lt_of_mem_ofJoin h

/-- What holds of a node if it holds of all nodes inside it holds of all nodes. -/
theorem induct (keeps : JoinKind → Bool) {motive : Part → Prop}
    (h : ∀ p, (∀ q ∈ p.inner keeps, motive q) → motive p) (p : Part) : motive p :=
  h p fun q _ => induct keeps h q
termination_by p.size
decreasing_by exact size_lt_of_mem_inner ‹_›

/-! ### Nodes that call for a flag -/

/-- A node is another one or somewhere inside it. -/
def IsIn (keeps : JoinKind → Bool) (q p : Part) : Prop :=
  Relation.ReflTransGen (fun p q => q ∈ p.inner keeps) p q

/-- Whether an expression calls for a flag. -/
def exprShows : Signal → Expr → Bool
  | .fuzzyMatching, .pattern _ _ _ _ _ _ => true
  | .isIn, .inList _ _ _ | .isIn, .inQuery _ _ _ => true
  | .or, .binary _ .or _ => true
  | .bitOperation, .binary _ op _ => op ∈ [.bitAnd, .bitOr, .bitXor, .shiftLeft, .shiftRight]
  | .bitOperation, .unary .bitNot _ => true
  | _, _ => false

/-- Whether a node calls for a flag: a match against a pattern, membership in a list or a query,
`OR`, an operator on bits, or a join with `ON` or `USING`. -/
def shows (keeps : JoinKind → Bool) (signal : Signal) : Part → Bool
  | expr e => exprShows signal e
  | join (.mk _ kind _ constraint) => signal = .usingOrOn && keeps kind && constraint.isGiven
  | _ => false

/-- Some node in a node calls for a flag. -/
def Has (keeps : JoinKind → Bool) (signal : Signal) (p : Part) : Prop :=
  ∃ q : Part, q.IsIn keeps p ∧ q.shows keeps signal = true

/-- A node is in itself. -/
theorem IsIn.refl (p : Part) : p.IsIn keeps p := Relation.ReflTransGen.refl

/-- A node is inside another one if it is that one or is in a node directly inside it. -/
theorem isIn_iff : q.IsIn keeps p ↔ q = p ∨ ∃ c ∈ p.inner keeps, q.IsIn keeps c := by
  rw [IsIn, Relation.ReflTransGen.cases_head_iff, eq_comm]
  rfl

/-- A node has a signal exactly when it shows it or a node inside it has it. -/
theorem has_iff {signal : Signal} :
    p.Has keeps signal ↔ p.shows keeps signal = true ∨ ∃ c ∈ p.inner keeps, c.Has keeps signal := by
  constructor
  · rintro ⟨q, hin, hshows⟩
    rcases isIn_iff.mp hin with rfl | ⟨c, hc, hq⟩
    · exact .inl hshows
    · exact .inr ⟨c, hc, q, hq, hshows⟩
  · rintro (hshows | ⟨c, hc, q, hq, hshows⟩)
    · exact ⟨p, .refl p, hshows⟩
    · exact ⟨q, isIn_iff.mpr (.inr ⟨c, hc, hq⟩), hshows⟩

/-! ### All nodes -/

/-- A node and all nodes inside it. -/
def nodes (p : Part) : List Part :=
  p :: (p.inner everyJoin).attach.flatMap fun q => q.1.nodes
termination_by p.size
decreasing_by exact size_lt_of_mem_inner q.2

/-- The nodes of a node are itself and the nodes of those inside it. -/
theorem nodes_eq (p : Part) : p.nodes = p :: (p.inner everyJoin).flatMap nodes := by
  rw [nodes]
  simp

/-- The nodes of a node are those that are in it. -/
theorem mem_nodes_iff : q ∈ p.nodes ↔ q.IsIn everyJoin p := by
  induction p using induct everyJoin with
  | h p ih =>
    rw [nodes_eq, List.mem_cons, List.mem_flatMap, isIn_iff]
    refine or_congr_right (exists_congr fun c => and_congr_right fun hc => ?_)
    exact ih c hc

/-! ### Joins that lose their condition -/

/-- Whether a node is not a join that carries `ON` or `USING` in vain. -/
def keepsOwn (keeps : JoinKind → Bool) : Part → Bool
  | join (.mk _ kind _ constraint) => keeps kind || !constraint.isGiven
  | _ => true

variable {signal : Signal}

/-- A node that is kept inside another is inside it when every join is kept. -/
theorem mem_inner_of_keeps (h : q ∈ p.inner keeps) : q ∈ p.inner everyJoin := by
  cases p with
  | join j =>
    obtain ⟨isGlobal, kind, relation, constraint⟩ := j
    rcases List.mem_cons.mp h with rfl | hcondition
    · exact List.mem_cons_self
    · split at hcondition
      · exact List.mem_cons_of_mem _ hcondition
      · cases hcondition
  | _ => exact h

/-- A signal that a node shows, it also shows when every join is kept. -/
theorem shows_of_keeps (h : p.shows keeps signal = true) : p.shows everyJoin signal = true := by
  cases p with
  | join j =>
    obtain ⟨isGlobal, kind, relation, constraint⟩ := j
    simp only [shows, Bool.and_eq_true] at h ⊢
    exact ⟨⟨h.1.1, rfl⟩, h.2⟩
  | _ => exact h

/-- Leaving conditions of joins out adds nothing. -/
theorem Has.exists_mem_nodes (h : p.Has keeps signal) :
    ∃ q ∈ p.nodes, q.shows everyJoin signal = true := by
  obtain ⟨q, hin, hshows⟩ := h
  have hin : q.IsIn everyJoin p :=
    Relation.ReflTransGen.mono (fun _ _ => mem_inner_of_keeps) _ _ hin
  exact ⟨q, mem_nodes_iff.mpr hin, shows_of_keeps hshows⟩

/-- A node that keeps its own constraints has every node inside it. -/
theorem mem_inner_of_keepsOwn (hown : p.keepsOwn keeps = true) (h : q ∈ p.inner everyJoin) :
    q ∈ p.inner keeps := by
  cases p with
  | join j =>
    obtain ⟨isGlobal, kind, relation, constraint⟩ := j
    rcases List.mem_cons.mp h with rfl | hcondition
    · exact List.mem_cons_self
    · have hcondition : q ∈ constraint.exprs.map expr := hcondition
      have hgiven : constraint.isGiven = true := by
        cases constraint with
        | on condition => rfl
        | _ => cases hcondition
      have hkept : keeps kind = true := by simpa [keepsOwn, hgiven] using hown
      refine List.mem_cons_of_mem _ ?_
      rw [if_pos hkept]
      exact hcondition
  | _ => exact h

/-- A node that keeps its own constraints shows whatever it shows when every join is kept. -/
theorem shows_of_keepsOwn (hown : p.keepsOwn keeps = true) (h : p.shows everyJoin signal = true) :
    p.shows keeps signal = true := by
  cases p with
  | join j =>
    obtain ⟨isGlobal, kind, relation, constraint⟩ := j
    simp only [shows, Bool.and_eq_true] at h ⊢
    have hkept : keeps kind = true := by simpa [keepsOwn, h.2] using hown
    exact ⟨⟨h.1.1, hkept⟩, h.2⟩
  | _ => exact h

/-- If every node keeps its own constraints, a node that is in another with every join kept is in
it. -/
theorem isIn_of_keepsOwn (hown : ∀ c ∈ p.nodes, c.keepsOwn keeps = true) (h : q.IsIn everyJoin p) :
    q.IsIn keeps p := by
  induction h with
  | refl => exact .refl p
  | tail hb hc ih => exact ih.tail (mem_inner_of_keepsOwn (hown _ (mem_nodes_iff.mpr hb)) hc)

/-- Where no condition is lost, leaving conditions of joins out takes nothing away. -/
theorem has_of_mem_nodes (hown : ∀ c ∈ p.nodes, c.keepsOwn keeps = true) (hq : q ∈ p.nodes)
    (hshows : q.shows everyJoin signal = true) : p.Has keeps signal :=
  ⟨q, isIn_of_keepsOwn hown (mem_nodes_iff.mp hq), shows_of_keepsOwn (hown q hq) hshows⟩

end Part

end QueryLint.Sql
