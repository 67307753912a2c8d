import Mathlib.Data.List.Basic
import QueryLint.Proofs.Sql.Parts

/-!
# What a syntax tree passes over

The expressions and queries in the clauses of a node that are kept as passages (`Part.passedOver`):
the filter and the window of a call, the clauses behind its arguments, the arguments of a table
function, its hints and its sample, `DISTINCT ON`, the type of a conversion. All nodes of a tree,
those in its passages included, are in one list (`Part.allNodes`). It is `Part.nodes` where nothing
is written in a passage (`Part.allNodes_eq_nodes`).
-/

namespace QueryLint.Sql

/-! ### The passages of a node -/

/-- The content of an argument that is a wildcard or has an expression for its name. -/
def Argument.passages : Argument → List Passage
  | verbatim content => [content]
  | _ => []

/-- The passages among the arguments of a call. -/
def Arguments.passages : Arguments → List Passage
  | list _ arguments clauses => arguments.flatMap Argument.passages ++ [clauses]
  | _ => []

/-- The parameters, the clauses and the suffix of a call, and the type of a conversion. -/
def Expr.passages : Expr → List Passage
  | call _ _ parameters arguments suffix => parameters :: arguments.passages ++ [suffix]
  | cast _ _ type => [type]
  | _ => []

/-- The columns of a common table expression, which may have types. -/
def Cte.passages : Cte → List Passage
  | mk aliasName _ _ _ => aliasName.columns

/-- The options of a key. -/
def OrderKey.passage : OrderKey → Passage
  | mk _ options => options

/-- The options of the keys of an order and what stands behind them. -/
def OrderBy.passages : OrderBy → List Passage
  | keys members tail => members.map OrderKey.passage ++ [tail]

/-- What stands behind a limit. -/
def Limit.passages : Limit → List Passage
  | clauses _ _ tail => [tail]
  | comma _ _ => []

/-- The passages of a query, apart from those of its body. -/
def Query.passages : Query → List Passage
  | mk _ ctes _ orderBy limit tail =>
    ctes.flatMap Cte.passages ++ orderBy.passages ++ limit.passages ++ [tail]

/-- The content of a wildcard. -/
def SelectItem.passages : SelectItem → List Passage
  | wildcard content => [content]
  | expr _ _ => []

/-- The modifiers of a grouping. -/
def GroupBy.passages : GroupBy → List Passage
  | keys _ modifiers => [modifiers]
  | all modifiers => [modifiers]

/-- The passages of a `SELECT`. -/
def Select.passages : Select → List Passage
  | mk _ head projection _ _ beforeWhere _ groupBy beforeHaving _ tail =>
    head :: projection.flatMap SelectItem.passages ++ groupBy.passages
      ++ [beforeWhere, beforeHaving, tail]

/-- The columns of an alias, which may have types. -/
def aliasPassages (aliasName : Option TableAlias) : List Passage :=
  aliasName.toList.flatMap TableAlias.columns

/-- What stands before and behind the alias of a table, and the columns of an alias. -/
def TableFactor.passages : TableFactor → List Passage
  | table _ beforeAlias aliasName behindAlias =>
    beforeAlias :: aliasPassages aliasName ++ [behindAlias]
  | derived _ _ aliasName => aliasPassages aliasName
  | nested _ aliasName => aliasPassages aliasName
  | verbatim _ aliasName _ => aliasPassages aliasName

namespace Part

/-- The nodes directly inside a passage. -/
def ofPassage (c : Passage) : List Part :=
  c.exprs.map expr ++ c.queries.map query

/-- The passages of a node. -/
def passages : Part → List Passage
  | expr e => e.passages
  | query q => q.passages
  | select s => s.passages
  | factor f => f.passages
  | body _ | tableJoins _ | join _ => []

/-- The nodes directly inside the passages of a node. -/
def passedOver (p : Part) : List Part :=
  p.passages.flatMap ofPassage

/-- All nodes directly inside a node, those in its passages included. -/
def allInner (p : Part) : List Part :=
  p.inner everyJoin ++ p.passedOver

/-- Whether a node has a form of its own: it is no expression, body or source that is known by its
text alone, and no join on the closest match or of a kind that loses its condition. -/
def isNamed (keeps : JoinKind → Bool) : Part → Bool
  | expr (.verbatim _) | body (.verbatim _) | factor (.verbatim _ _ _) => false
  | join (.mk _ (.asOf _) _ _) => false
  | join (.mk _ kind _ constraint) => keeps kind || !constraint.isGiven
  | _ => true

end Part

/-! ### Sizes -/

section Sizes

variable {c : Passage}

/-- A passage of an argument is smaller than the argument. -/
theorem Argument.sizeOf_passage_lt {a : Argument} (h : c ∈ a.passages) : sizeOf c < sizeOf a := by
  cases a with
  | verbatim content =>
    obtain rfl := List.mem_singleton.mp h
    simp only [verbatim.sizeOf_spec]
    omega
  | positional | named => cases h

/-- A passage of a list of arguments is smaller than the list. -/
theorem Arguments.sizeOf_passage_lt {a : Arguments} (h : c ∈ a.passages) :
    sizeOf c < sizeOf a := by
  cases a with
  | list quantifier arguments clauses =>
    simp only [passages, List.mem_append, List.mem_flatMap, List.mem_singleton] at h
    rcases h with ⟨a, ha, hc⟩ | rfl
    · have hlt := Argument.sizeOf_passage_lt hc
      have hlt' := List.sizeOf_lt_of_mem ha
      simp only [list.sizeOf_spec]
      omega
    · simp only [list.sizeOf_spec]
      omega
  | absent | query => cases h

/-- A passage of an expression is smaller than the expression. -/
theorem Expr.sizeOf_passage_lt {e : Expr} (h : c ∈ e.passages) : sizeOf c < sizeOf e := by
  cases e with
  | call braced name parameters arguments suffix =>
    simp only [passages, List.mem_append, List.mem_cons, List.not_mem_nil, or_false] at h
    rcases h with (rfl | h) | rfl
    · simp only [call.sizeOf_spec]
      omega
    · have hlt := Arguments.sizeOf_passage_lt h
      simp only [call.sizeOf_spec]
      omega
    · simp only [call.sizeOf_spec]
      omega
  | cast form operand type =>
    obtain rfl := List.mem_singleton.mp h
    simp only [cast.sizeOf_spec]
    omega
  | _ => cases h

/-- A column of an alias is smaller than the alias. -/
theorem TableAlias.sizeOf_column_lt {a : TableAlias} (h : c ∈ a.columns) : sizeOf c < sizeOf a := by
  obtain ⟨explicit, name, columns⟩ := a
  have hlt := List.sizeOf_lt_of_mem h
  simp only at hlt
  simp only [mk.sizeOf_spec]
  omega

/-- A passage of an optional alias is smaller than the alias. -/
theorem sizeOf_passage_lt_of_alias {aliasName : Option TableAlias}
    (h : c ∈ aliasPassages aliasName) : sizeOf c < sizeOf aliasName := by
  cases aliasName with
  | none => cases h
  | some a =>
    simp only [aliasPassages, Option.toList_some, List.flatMap_cons, List.flatMap_nil,
      List.append_nil] at h
    have hlt := TableAlias.sizeOf_column_lt h
    simp only [Option.some.sizeOf_spec]
    omega

/-- A passage of an ORDER BY is smaller than the clause. -/
theorem OrderBy.sizeOf_passage_lt {o : OrderBy} (h : c ∈ o.passages) : sizeOf c < sizeOf o := by
  obtain ⟨members, tail⟩ := o
  simp only [passages, List.mem_append, List.mem_map, List.mem_singleton] at h
  rcases h with ⟨⟨key, options⟩, hkey, rfl⟩ | rfl
  · have hlt := List.sizeOf_lt_of_mem hkey
    simp only [OrderKey.mk.sizeOf_spec] at hlt
    simp only [OrderKey.passage, keys.sizeOf_spec]
    omega
  · simp only [keys.sizeOf_spec]
    omega

/-- A passage of a query is smaller than the query. -/
theorem Query.sizeOf_passage_lt {q : Query} (h : c ∈ q.passages) : sizeOf c < sizeOf q := by
  obtain ⟨recursive, ctes, b, orderBy, limit, tail⟩ := q
  simp only [passages, List.mem_append, List.mem_flatMap, List.mem_singleton, or_assoc] at h
  simp only [mk.sizeOf_spec]
  rcases h with ⟨⟨aliasName, hint, inside, source⟩, hcte, h⟩ | h | h | rfl
  · have hlt := List.sizeOf_lt_of_mem hcte
    simp only [Cte.mk.sizeOf_spec] at hlt
    have hlt' := TableAlias.sizeOf_column_lt h
    omega
  · have hlt := OrderBy.sizeOf_passage_lt h
    omega
  · cases limit with
    | clauses count offset rest =>
      obtain rfl := List.mem_singleton.mp h
      simp only [Limit.clauses.sizeOf_spec]
      omega
    | comma => cases h
  · omega

/-- A passage of a select is smaller than the select. -/
theorem Select.sizeOf_passage_lt {s : Select} (h : c ∈ s.passages) : sizeOf c < sizeOf s := by
  obtain ⟨form, head, projection, into, sources, beforeWhere, selection, groupBy,
    beforeHaving, having, tail⟩ := s
  simp only [passages, List.mem_append, List.mem_flatMap, List.mem_cons, List.not_mem_nil, or_false,
    or_assoc] at h
  simp only [mk.sizeOf_spec]
  rcases h with rfl | ⟨item, hitem, h⟩ | h | rfl | rfl | rfl
  · omega
  · have hlt := List.sizeOf_lt_of_mem hitem
    cases item with
    | wildcard content =>
      obtain rfl := List.mem_singleton.mp h
      simp only [SelectItem.wildcard.sizeOf_spec] at hlt
      omega
    | expr => cases h
  · cases groupBy with
    | keys | all =>
      obtain rfl := List.mem_singleton.mp h
      simp only [GroupBy.keys.sizeOf_spec, GroupBy.all.sizeOf_spec]
      omega
  · omega
  · omega
  · omega

/-- A passage of a table factor is smaller than the factor. -/
theorem TableFactor.sizeOf_passage_lt {f : TableFactor} (h : c ∈ f.passages) :
    sizeOf c < sizeOf f := by
  cases f with
  | table name beforeAlias aliasName behindAlias =>
    simp only [passages, List.mem_append, List.mem_cons, List.not_mem_nil, or_false, or_assoc] at h
    simp only [table.sizeOf_spec]
    rcases h with rfl | h | rfl
    · omega
    · have hlt := sizeOf_passage_lt_of_alias h
      omega
    · omega
  | derived | nested | verbatim =>
    have hlt := sizeOf_passage_lt_of_alias h
    simp only [derived.sizeOf_spec, nested.sizeOf_spec, verbatim.sizeOf_spec]
    omega

end Sizes

namespace Part

variable {p q : Part} {keeps : JoinKind → Bool}

/-- A node of a passage is smaller than the passage. -/
theorem size_lt_of_mem_ofPassage {c : Passage} (h : q ∈ ofPassage c) : q.size < sizeOf c := by
  obtain ⟨text, exprs, queries⟩ := c
  simp only [ofPassage, List.mem_append, List.mem_map] at h
  rcases h with ⟨e, he, rfl⟩ | ⟨inside, hinside, rfl⟩
  · have hlt := List.sizeOf_lt_of_mem he
    simp only [size, Passage.mk.sizeOf_spec]
    omega
  · have hlt := List.sizeOf_lt_of_mem hinside
    simp only [size, Passage.mk.sizeOf_spec]
    omega

/-- A passage of a node is smaller than the node. -/
theorem sizeOf_lt_of_mem_passages {c : Passage} (h : c ∈ p.passages) : sizeOf c < p.size := by
  cases p with
  | expr e => exact Expr.sizeOf_passage_lt h
  | query q => exact Query.sizeOf_passage_lt h
  | select s => exact Select.sizeOf_passage_lt h
  | factor f => exact TableFactor.sizeOf_passage_lt h
  | body | tableJoins | join => cases h

/-- A node that is passed over is smaller than the one that it stands in. -/
theorem size_lt_of_mem_passedOver (h : q ∈ p.passedOver) : q.size < p.size := by
  obtain ⟨c, hc, hq⟩ := List.mem_flatMap.mp h
  exact Nat.lt_trans (size_lt_of_mem_ofPassage hq) (sizeOf_lt_of_mem_passages hc)

/-- So is every node inside another, whether or not it is passed over. -/
theorem size_lt_of_mem_allInner (h : q ∈ p.allInner) : q.size < p.size := by
  rcases List.mem_append.mp h with hinner | hover
  · exact size_lt_of_mem_inner hinner
  · exact size_lt_of_mem_passedOver hover

/-! ### All nodes, those in passages included -/

/-- A node and all nodes inside it, those in its passages included. -/
def allNodes (p : Part) : List Part :=
  p :: p.allInner.attach.flatMap fun q => q.1.allNodes
termination_by p.size
decreasing_by exact size_lt_of_mem_allInner q.2

/-- All nodes of a node are itself and all nodes of those inside it, those passed over
included. -/
theorem allNodes_eq (p : Part) : p.allNodes = p :: p.allInner.flatMap allNodes := by
  rw [allNodes]
  simp

/-- Where no node has anything written in a passage, no nodes are added by passages. -/
theorem allNodes_eq_nodes (h : ∀ q ∈ p.nodes, q.passedOver = []) : p.allNodes = p.nodes := by
  induction p using induct everyJoin with
  | h p ih =>
    rw [nodes_eq] at h
    have hinner : p.allInner = p.inner everyJoin := by
      rw [allInner, h p List.mem_cons_self, List.append_nil]
    rw [allNodes_eq, nodes_eq, hinner]
    refine congrArg (p :: ·) (List.flatMap_congr fun c hc => ih c hc fun q hq => ?_)
    exact h q (List.mem_cons_of_mem _ (List.mem_flatMap.mpr ⟨c, hc, hq⟩))

/-- A node with a form of its own is no join that loses its condition. -/
theorem keepsOwn_of_isNamed (h : p.isNamed keeps = true) : p.keepsOwn keeps = true := by
  cases p with
  | join j =>
    obtain ⟨isGlobal, kind, relation, constraint⟩ := j
    cases kind with
    | asOf condition => cases h
    | _ => exact h
  | _ => rfl

end Part

end QueryLint.Sql
