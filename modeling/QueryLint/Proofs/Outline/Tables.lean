import QueryLint.Proofs.Outline.Members
import QueryLint.Proofs.Sql.Tables

/-!
# Other names for tables in outlines

An outline with other names for tables, and that lowering commutes with giving tables other names
(`lowerQuery_withTables`): the names of tables decide nothing when a query is lowered.
-/

namespace QueryLint.Outline

mutual

/-- An expression with other names for tables. -/
def Expr.withTables (f : String → String) : Expr → Expr
  | ⟨op, left, right, select, list, token⟩ =>
    ⟨op, exprWithTables? f left, exprWithTables? f right, selectWithTables? f select,
      exprsWithTables f list, token⟩

/-- An expression that may be missing, with other names for tables. -/
def exprWithTables? (f : String → String) : Option Expr → Option Expr
  | none => none
  | some e => some (e.withTables f)

/-- Some expressions with other names for tables. -/
def exprsWithTables (f : String → String) : List Expr → List Expr
  | [] => []
  | e :: rest => e.withTables f :: exprsWithTables f rest

/-- A selection with other names for tables. -/
def Select.withTables (f : String → String) : Select → Select
  | ⟨ctes, prior, projection, sources, selection, groupBy, orderBy, having, limit, offset⟩ =>
    ⟨selectsWithTables f ctes, selectWithTables? f prior, exprsWithTables f projection,
      sourcesWithTables f sources, exprWithTables? f selection, exprsWithTables f groupBy,
      exprsWithTables f orderBy, exprWithTables? f having, exprWithTables? f limit,
      exprWithTables? f offset⟩

/-- A selection that may be missing, with other names for tables. -/
def selectWithTables? (f : String → String) : Option Select → Option Select
  | none => none
  | some s => some (s.withTables f)

/-- Some selections with other names for tables. -/
def selectsWithTables (f : String → String) : List Select → List Select
  | [] => []
  | s :: rest => s.withTables f :: selectsWithTables f rest

/-- A source with another name, if it is a table, and with other names for the tables inside. -/
def Source.withTables (f : String → String) : Source → Source
  | ⟨name, aliasName, select, columns, on⟩ =>
    ⟨name.map f, aliasName, selectWithTables? f select, columns, exprWithTables? f on⟩

/-- Some sources with other names for tables. -/
def sourcesWithTables (f : String → String) : List Source → List Source
  | [] => []
  | s :: rest => s.withTables f :: sourcesWithTables f rest

end

section Members

variable (f : String → String)

/-- An optional expression is renamed if it is there. -/
theorem exprWithTables?_eq (e : Option Expr) : exprWithTables? f e = e.map (Expr.withTables f) := by
  cases e <;> rfl

/-- An optional query is renamed if it is there. -/
theorem selectWithTables?_eq (s : Option Select) :
    selectWithTables? f s = s.map (Select.withTables f) := by
  cases s <;> rfl

/-- Expressions are renamed one by one. -/
theorem exprsWithTables_eq (es : List Expr) :
    exprsWithTables f es = es.map (Expr.withTables f) := by
  induction es with
  | nil => rfl
  | cons e rest ih => rw [exprsWithTables, ih, List.map_cons]

/-- Renaming expressions respects putting lists together. -/
theorem exprsWithTables_append (es more : List Expr) :
    exprsWithTables f (es ++ more) = exprsWithTables f es ++ exprsWithTables f more := by
  simp only [exprsWithTables_eq, List.map_append]

/-- Renaming the tables of an optional expression is renaming them in it, if it is there. -/
theorem exprsWithTables_toList (e : Option Expr) :
    exprsWithTables f e.toList = (exprWithTables? f e).toList := by
  cases e <;> rfl

/-- Queries are renamed one by one. -/
theorem selectsWithTables_eq (ss : List Select) :
    selectsWithTables f ss = ss.map (Select.withTables f) := by
  induction ss with
  | nil => rfl
  | cons s rest ih => rw [selectsWithTables, ih, List.map_cons]

/-- Sources are renamed one by one. -/
theorem sourcesWithTables_eq (ss : List Source) :
    sourcesWithTables f ss = ss.map (Source.withTables f) := by
  induction ss with
  | nil => rfl
  | cons s rest ih => rw [sourcesWithTables, ih, List.map_cons]

/-- Renaming sources respects putting lists together. -/
theorem sourcesWithTables_append (ss more : List Source) :
    sourcesWithTables f (ss ++ more) = sourcesWithTables f ss ++ sourcesWithTables f more := by
  simp only [sourcesWithTables_eq, List.map_append]

/-- Renaming tables in an expression goes into its operands, its list and its query, and keeps the
tag and the token. -/
theorem Expr.withTables_eq (e : Expr) :
    e.withTables f
      = { e with
        left := e.left.map (Expr.withTables f)
        right := e.right.map (Expr.withTables f)
        select := e.select.map (Select.withTables f)
        list := e.list.map (Expr.withTables f) } := by
  obtain ⟨op, left, right, select, list, token⟩ := e
  rw [withTables, exprWithTables?_eq, exprWithTables?_eq, selectWithTables?_eq, exprsWithTables_eq]

/-- Renaming tables changes the name of a source, and what is inside its query and its condition. -/
theorem Source.withTables_eq (s : Source) :
    s.withTables f
      = { s with
        name := s.name.map f
        select := s.select.map (Select.withTables f)
        on := s.on.map (Expr.withTables f) } := by
  obtain ⟨name, aliasName, select, columns, on⟩ := s
  rw [withTables, exprWithTables?_eq, selectWithTables?_eq]

/-- Renaming tables in a query goes into all of its parts. -/
theorem Select.withTables_eq (s : Select) :
    s.withTables f
      = { ctes := s.ctes.map (Select.withTables f)
          prior := s.prior.map (Select.withTables f)
          projection := s.projection.map (Expr.withTables f)
          sources := s.sources.map (Source.withTables f)
          selection := s.selection.map (Expr.withTables f)
          groupBy := s.groupBy.map (Expr.withTables f)
          orderBy := s.orderBy.map (Expr.withTables f)
          having := s.having.map (Expr.withTables f)
          limit := s.limit.map (Expr.withTables f)
          offset := s.offset.map (Expr.withTables f) } := by
  obtain ⟨ctes, prior, projection, sources, selection, groupBy, orderBy, having, limit, offset⟩ := s
  simp only [withTables, exprWithTables?_eq, selectWithTables?_eq, exprsWithTables_eq,
    selectsWithTables_eq, sourcesWithTables_eq]

/-! ### Small outlines -/

/-- A tag without operands names no table. -/
@[simp] theorem Expr.withTables_bare (op : Op) : (Expr.bare op).withTables f = .bare op := rfl

/-- The token of an expression is no table, so it stays. -/
@[simp] theorem Expr.withTables_leaf (op : Op) (token : String) :
    (Expr.leaf op token).withTables f = .leaf op token := rfl

@[simp] theorem Expr.withTables_unary (op : Op) (operand : Expr) :
    (Expr.unary op operand).withTables f = .unary op (operand.withTables f) := rfl

@[simp] theorem Expr.withTables_binary (op : Op) (left right : Expr) :
    (Expr.binary op left right).withTables f = .binary op (left.withTables f)
    (right.withTables f) := rfl

/-- A column stays as it is written, its qualifiers included. -/
@[simp] theorem Expr.withTables_ofNames (names : List Sql.Ident) :
    (Expr.ofNames names).withTables f = .ofNames names := by
  induction names with
  | nil => rfl
  | cons name rest ih =>
    cases rest with
    | nil => rfl
    | cons second rest => rw [ofNames, withTables_binary, ih, withTables_leaf]; simp

/-- Sources may be renamed before or after a constraint is attached to the first of them. -/
theorem withTables_attach (columns : Option (List String)) (on : Option Expr)
    (found : List Source) :
    (attach columns on found).map (Source.withTables f)
      = attach columns (on.map (Expr.withTables f)) (found.map (Source.withTables f)) := by
  cases found with
  | nil => rfl
  | cons first rest =>
    rw [attach, List.map_cons, List.map_cons, attach, Source.withTables_eq, Source.withTables_eq]
    cases on <;> rfl

end Members

/-! ### Lowering -/

section Lowering

variable (names : String → Sql.ObjectName)

/-- The text of the new name of a table, by the text of the old one. -/
def spelling (table : String) : String := (names table).render

mutual

/-- Lowering an expression with other tables gives the outline with other tables. -/
theorem lowerExpr_withTables (n : Nat) (e : Sql.Expr) :
    lowerExpr n (e.withTables names) = Expr.withTables (spelling names) <$> lowerExpr n e := by
  cases n with
  | zero => rw [lowerExpr_zero, lowerExpr_zero]; rfl
  | succ n =>
    cases e with
    | ident name => rfl
    | compound parts =>
      rw [Sql.Expr.withTables, lowerExpr, nested]
      simp
    | value v => rfl
    | nested inner =>
      rw [Sql.Expr.withTables, lowerExpr, lowerExpr]
      exact lowerExpr_withTables n inner
    | collate inner collation =>
      rw [Sql.Expr.withTables, lowerExpr, lowerExpr]
      exact lowerExpr_withTables n inner
    | binary left op right =>
      rw [Sql.Expr.withTables, lowerExpr, lowerExpr]
      simp [nested, lowerExpr_withTables n left, lowerExpr_withTables n right]
    | unary op operand =>
      rw [Sql.Expr.withTables, lowerExpr, lowerExpr]
      simp [nested, lowerExpr_withTables n operand]
    | pattern kind negated any operand pattern escape =>
      rw [Sql.Expr.withTables, lowerExpr, lowerExpr]
      simp [nested, lowerExpr_withTables n operand, lowerExpr_withTables n pattern]
    | inList operand negated members =>
      rw [Sql.Expr.withTables, lowerExpr, lowerExpr]
      simp [nested, lowerExpr_withTables n operand, lowerExprs_withTables n members,
        Expr.withTables, exprWithTables?, selectWithTables?, Expr.unary, Expr.bare]
    | inQuery operand negated query =>
      rw [Sql.Expr.withTables, lowerExpr, lowerExpr]
      simp [nested, lowerExpr_withTables n operand, lowerQuery_withTables n query, Expr.withTables,
        exprWithTables?, exprsWithTables, selectWithTables?, Expr.unary, Expr.bare]
    | isNull operand =>
      rw [Sql.Expr.withTables, lowerExpr, lowerExpr]
      simp [nested, lowerExpr_withTables n operand]
    | isNotNull operand =>
      rw [Sql.Expr.withTables, lowerExpr, lowerExpr]
      simp [nested, lowerExpr_withTables n operand]
    | isTruth operand negated truth =>
      rw [Sql.Expr.withTables, lowerExpr, lowerExpr]
      simp [nested, lowerExpr_withTables n operand]
    | distinct left same right =>
      rw [Sql.Expr.withTables, lowerExpr, lowerExpr]
      simp [nested, lowerExpr_withTables n left, lowerExpr_withTables n right]
    | between operand negated low high =>
      rw [Sql.Expr.withTables, lowerExpr, lowerExpr]
      simp [nested, lowerExpr_withTables n operand, lowerExpr_withTables n low,
        lowerExpr_withTables n high, Expr.withTables, exprWithTables?, exprsWithTables,
        selectWithTables?,
        Expr.unary, Expr.bare]
    | subquery query =>
      rw [Sql.Expr.withTables, lowerExpr, lowerExpr]
      simp [nested, lowerQuery_withTables n query, Expr.withTables, exprWithTables?,
        exprsWithTables, selectWithTables?, Expr.bare]
    | «exists» negated query =>
      rw [Sql.Expr.withTables, lowerExpr, lowerExpr]
      simp [nested, lowerQuery_withTables n query, Expr.withTables, exprWithTables?,
        exprsWithTables, selectWithTables?, Expr.bare]
    | call braced name parameters arguments suffix =>
      rw [Sql.Expr.withTables, lowerExpr, lowerExpr]
      exact lowerCall_withTables n name.render arguments
    | case operand branches otherwise =>
      rw [Sql.Expr.withTables, lowerExpr, lowerExpr]
      simp [nested, lowerBranches_withTables n branches, lowerExpr?_withTables n otherwise,
        lowerExpr?_withTables n operand, Expr.withTables, exprWithTables?, selectWithTables?,
        exprsWithTables_append, exprsWithTables_toList, Expr.bare]
    | cast form operand type =>
      rw [Sql.Expr.withTables, lowerExpr, lowerExpr]
      simp [nested, lowerExpr_withTables n operand]
    | verbatim text => rfl

/-- An optional expression is lowered with other tables like the expression. -/
theorem lowerExpr?_withTables (n : Nat) (e : Option Sql.Expr) :
    lowerExpr? n (Sql.exprWithTables? names e) = exprWithTables? (spelling names)
      <$> lowerExpr? n e := by
  cases e with
  | none => rfl
  | some e => simp [Sql.exprWithTables?, lowerExpr?, lowerExpr_withTables n e, exprWithTables?]

/-- Expressions are lowered with other tables one by one. -/
theorem lowerExprs_withTables (n : Nat) (es : List Sql.Expr) :
    lowerExprs n (Sql.exprsWithTables names es) = exprsWithTables (spelling names)
      <$> lowerExprs n es := by
  cases es with
  | nil => rfl
  | cons e rest =>
    simp [Sql.exprsWithTables, lowerExprs, lowerExpr_withTables n e, lowerExprs_withTables n rest,
      exprsWithTables]

/-- The branches of a case expression are lowered with other tables like their expressions. -/
theorem lowerBranches_withTables (n : Nat) (branches : List Sql.Branch) :
    lowerBranches n (Sql.branchesWithTables names branches)
      = exprsWithTables (spelling names) <$> lowerBranches n branches := by
  rcases branches with _ | ⟨⟨condition, result⟩, rest⟩
  · rfl
  · simp [Sql.branchesWithTables, lowerBranches, lowerExpr_withTables n condition,
      lowerExpr_withTables n result, lowerBranches_withTables n rest, exprsWithTables]

/-- A call is lowered with other tables like its arguments. -/
theorem lowerCall_withTables (n : Nat) (name : String) (arguments : Sql.Arguments) :
    lowerCall n name (arguments.withTables names)
      = Expr.withTables (spelling names) <$> lowerCall n name arguments := by
  cases arguments with
  | absent => rfl
  | query query =>
    simp [Sql.Arguments.withTables, lowerCall, lowerQuery_withTables n query, Expr.withTables,
      exprWithTables?, exprsWithTables, selectWithTables?, Expr.leaf, Expr.bare]
  | list quantifier arguments clauses =>
    simp [Sql.Arguments.withTables, lowerCall, lowerArguments_withTables n arguments,
      Expr.withTables, exprWithTables?, selectWithTables?, Expr.leaf, Expr.bare]

/-- Arguments are lowered with other tables like the expressions in them. -/
theorem lowerArguments_withTables (n : Nat) (arguments : List Sql.Argument) :
    lowerArguments n (Sql.argumentsWithTables names arguments)
      = exprsWithTables (spelling names) <$> lowerArguments n arguments := by
  rcases arguments with _ | ⟨_ | _ | _, rest⟩
  · rfl
  · simp [Sql.argumentsWithTables, lowerArguments, lowerExpr_withTables n,
      lowerArguments_withTables n rest, exprsWithTables]
  · simp [Sql.argumentsWithTables, lowerArguments, lowerExpr_withTables n,
      lowerArguments_withTables n rest, exprsWithTables]
  · exact lowerArguments_withTables n rest

/-- Lowering a query with other tables gives the outline with other tables. -/
theorem lowerQuery_withTables (n : Nat) (q : Sql.Query) :
    lowerQuery n (q.withTables names) = Select.withTables (spelling names) <$> lowerQuery n q := by
  obtain ⟨recursive, ctes, body, orderBy, limit, tail⟩ := q
  cases n with
  | zero => rw [Sql.Query.withTables, lowerQuery, lowerQuery, nested, nested]; rfl
  | succ n =>
    rw [Sql.Query.withTables, lowerQuery, lowerQuery]
    have hbody : lowerSetExpr n none (body.withTables names)
        = Select.withTables (spelling names) <$> lowerSetExpr n none body :=
      lowerSetExpr_withTables n none body
    simp [nested, hbody, lowerCtes_withTables n ctes, lowerOrderBy_withTables n orderBy,
      lowerLimit_withTables n limit, Select.withTables_eq, selectsWithTables_eq, exprsWithTables_eq,
      exprWithTables?_eq]

/-- Common table expressions are lowered with other tables one by one. -/
theorem lowerCtes_withTables (n : Nat) (ctes : List Sql.Cte) :
    lowerCtes n (Sql.ctesWithTables names ctes) = selectsWithTables (spelling names)
      <$> lowerCtes n ctes := by
  rcases ctes with _ | ⟨⟨aliasName, hint, query, source⟩, rest⟩
  · rfl
  · simp [Sql.ctesWithTables, lowerCtes, lowerQuery_withTables n query, lowerCtes_withTables n rest,
      selectsWithTables]

/-- An order is lowered with other tables like its keys. -/
theorem lowerOrderBy_withTables (n : Nat) (o : Sql.OrderBy) :
    lowerOrderBy n (o.withTables names) = exprsWithTables (spelling names)
      <$> lowerOrderBy n o := by
  obtain ⟨keys, tail⟩ := o
  exact lowerKeys_withTables n keys

/-- The keys of an order are lowered with other tables one by one. -/
theorem lowerKeys_withTables (n : Nat) (keys : List Sql.OrderKey) :
    lowerKeys n (Sql.keysWithTables names keys) = exprsWithTables (spelling names)
      <$> lowerKeys n keys := by
  rcases keys with _ | ⟨⟨key, options⟩, rest⟩
  · rfl
  · simp [Sql.keysWithTables, lowerKeys, lowerExpr_withTables n key, lowerKeys_withTables n rest,
      exprsWithTables]

/-- Both parts of a limit are lowered with other tables. -/
theorem lowerLimit_withTables (n : Nat) (l : Sql.Limit) :
    lowerLimit n (l.withTables names)
      = Prod.map (exprWithTables? (spelling names)) (exprWithTables? (spelling names))
        <$> lowerLimit n l := by
  cases l with
  | clauses count offset tail =>
    simp [Sql.Limit.withTables, lowerLimit, lowerExpr?_withTables n count,
      lowerExpr?_withTables n offset]
  | comma offset count =>
    simp [Sql.Limit.withTables, lowerLimit, lowerExpr_withTables n count,
      lowerExpr_withTables n offset, exprWithTables?]

/-- A body is lowered with other tables, in front of what was lowered before it with other
tables. -/
theorem lowerSetExpr_withTables (n : Nat) (prior : Option Select) (b : Sql.SetExpr) :
    lowerSetExpr n (selectWithTables? (spelling names) prior) (b.withTables names)
      = Select.withTables (spelling names) <$> lowerSetExpr n prior b := by
  cases b with
  | select select =>
    simp [Sql.SetExpr.withTables, lowerSetExpr, lowerSelect_withTables n select,
      Select.withTables_eq, selectWithTables?_eq]
  | query query =>
    simp [Sql.SetExpr.withTables, lowerSetExpr, lowerQuery_withTables n query, Select.withTables_eq,
      selectWithTables?_eq, Select.blank, default, Source.derived, Source.withTables_eq,
      Source.blank]
  | operation left op quantifier right =>
    cases n with
    | zero => rw [Sql.SetExpr.withTables, lowerSetExpr, lowerSetExpr, nested, nested]; rfl
    | succ n =>
      rw [Sql.SetExpr.withTables, lowerSetExpr, lowerSetExpr]
      have hright (first : Select) : lowerSetExpr n (some (first.withTables (spelling names)))
          (right.withTables names)
          = Select.withTables (spelling names) <$> lowerSetExpr n (some first) right :=
        lowerSetExpr_withTables n (some first) right
      simp [nested, lowerSetExpr_withTables n prior left, hright]
  | values keyword row rows =>
    simp [Sql.SetExpr.withTables, lowerSetExpr, lowerRows_withTables n rows, Select.withTables_eq,
      selectWithTables?_eq, exprsWithTables_eq, Select.blank, default]
  | verbatim text => rfl

/-- Rows of values are lowered with other tables like their expressions. -/
theorem lowerRows_withTables (n : Nat) (rows : List (List Sql.Expr)) :
    lowerRows n (Sql.rowsWithTables names rows) = exprsWithTables (spelling names)
      <$> lowerRows n rows := by
  cases rows with
  | nil => rfl
  | cons row rest =>
    simp [Sql.rowsWithTables, lowerRows, lowerExprs_withTables n row, lowerRows_withTables n rest,
      exprsWithTables_append]

/-- Lowering a selection with other tables gives the outline with other tables. -/
theorem lowerSelect_withTables (n : Nat) (s : Sql.Select) :
    lowerSelect n (s.withTables names) = Select.withTables (spelling names)
      <$> lowerSelect n s := by
  obtain ⟨form, head, projection, into, sources, beforeWhere, selection, groupBy,
    beforeHaving, having, tail⟩ := s
  simp [Sql.Select.withTables, lowerSelect, lowerItems_withTables n projection,
    lowerSources_withTables n sources, lowerExpr?_withTables n selection,
    lowerGroupBy_withTables n groupBy,
    lowerExpr?_withTables n having, Select.withTables_eq, exprsWithTables_eq, sourcesWithTables_eq,
    exprWithTables?_eq, Select.blank, default]

/-- The columns of a selection are lowered with other tables one by one. -/
theorem lowerItems_withTables (n : Nat) (items : List Sql.SelectItem) :
    lowerItems n (Sql.itemsWithTables names items)
      = exprsWithTables (spelling names) <$> lowerItems n items := by
  rcases items with _ | ⟨⟨value, aliasName⟩ | text, rest⟩
  · rfl
  · simp [Sql.itemsWithTables, lowerItems, lowerExpr_withTables n value,
      lowerItems_withTables n rest, exprsWithTables]
  · simp [Sql.itemsWithTables, lowerItems, lowerItems_withTables n rest, exprsWithTables]

/-- What rows are grouped by is lowered with other tables. -/
theorem lowerGroupBy_withTables (n : Nat) (g : Sql.GroupBy) :
    lowerGroupBy n (g.withTables names) = exprsWithTables (spelling names)
      <$> lowerGroupBy n g := by
  cases g with
  | keys keys modifiers => exact lowerExprs_withTables n keys
  | all modifiers => rfl

/-- The sources of a selection are lowered with other tables one by one. -/
theorem lowerSources_withTables (n : Nat) (tables : List Sql.TableJoins) :
    lowerSources n (Sql.sourcesWithTables names tables)
      = sourcesWithTables (spelling names) <$> lowerSources n tables := by
  cases tables with
  | nil => rfl
  | cons t rest =>
    simp [Sql.sourcesWithTables, lowerSources, lowerTableJoins_withTables n t,
      lowerSources_withTables n rest, sourcesWithTables_append]

/-- A source with its joins is lowered with other tables like the source and the joins. -/
theorem lowerTableJoins_withTables (n : Nat) (t : Sql.TableJoins) :
    lowerTableJoins n (t.withTables names)
      = sourcesWithTables (spelling names) <$> lowerTableJoins n t := by
  obtain ⟨relation, joins⟩ := t
  simp [Sql.TableJoins.withTables, lowerTableJoins, lowerTableFactor_withTables n relation,
    lowerJoins_withTables n joins, sourcesWithTables_append]

/-- A single source is lowered with other tables: a table under its other name, a query with what is
inside. -/
theorem lowerTableFactor_withTables (n : Nat) (factor : Sql.TableFactor) :
    lowerTableFactor n (factor.withTables names)
      = sourcesWithTables (spelling names) <$> lowerTableFactor n factor := by
  cases factor with
  | table name beforeAlias aliasName behindAlias => rfl
  | derived lateral query aliasName =>
    simp [Sql.TableFactor.withTables, lowerTableFactor, lowerQuery_withTables n query,
      Source.derived, sourcesWithTables, Source.withTables_eq, Source.blank, default]
  | nested inner aliasName =>
    cases n with
    | zero => rfl
    | succ n => exact lowerTableJoins_withTables n inner
  | verbatim beforeAlias aliasName behindAlias => rfl

/-- Joins are lowered with other tables, with their constraints on the same sources. -/
theorem lowerJoins_withTables (n : Nat) (joins : List Sql.Join) :
    lowerJoins n (Sql.joinsWithTables names joins)
      = sourcesWithTables (spelling names) <$> lowerJoins n joins := by
  rcases joins with _ | ⟨⟨isGlobal, kind, relation, constraint⟩, rest⟩
  · rfl
  · simp [Sql.joinsWithTables, lowerJoins, lowerTableFactor_withTables n relation,
      lowerConstraint_withTables n (keepsConstraint kind) constraint, lowerJoins_withTables n rest,
      sourcesWithTables_append]

/-- A constraint is lowered with other tables onto sources with other tables. -/
theorem lowerConstraint_withTables (n : Nat) (kept : Bool) (constraint : Sql.JoinConstraint)
    (found : List Source) :
    lowerConstraint n kept (constraint.withTables names) (sourcesWithTables (spelling names) found)
      = sourcesWithTables (spelling names) <$> lowerConstraint n kept constraint found := by
  cases kept with
  | false => cases constraint <;> rfl
  | true =>
    cases constraint with
    | on condition =>
      simp [Sql.JoinConstraint.withTables, lowerConstraint, lowerExpr_withTables n condition,
        sourcesWithTables_eq, withTables_attach]
    | «using» columns =>
      simp [Sql.JoinConstraint.withTables, lowerConstraint, sourcesWithTables_eq, withTables_attach]
    | natural => rfl
    | none => rfl

end

end Lowering

end QueryLint.Outline
