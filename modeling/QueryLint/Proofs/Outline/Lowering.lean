import QueryLint.Proofs.Outline.Members
import QueryLint.Proofs.Sql.Passages

/-!
# What an outline keeps of a syntax tree

The outline of a query has something that sets a flag exactly if the query has a node that calls for
the flag (`has_lowerQuery_iff`). Lowering goes down a syntax tree, and so does the proof: there is
one lemma for each kind of node (`reflects_expr` and so on), which takes the statement for the nodes
inside a node and proves it for the node. With `Analysis.flag_iff_of_whole` it follows which flags a
walk sets in terms of the syntax tree alone (`Analysis.flags_of_lowerQuery`).

Joins of some kinds lose their condition and their columns (`keepsConstraint`); what is in such a
condition is not in the outline. Nor is what is written in the passages of a syntax tree, the
clauses that lowering passes over.
-/

namespace QueryLint.Outline

/-! ### Names and joins -/

section Has

variable {signal : Signal}

/-- Names set no flag. -/
theorem Expr.not_has_ofNames (names : List Sql.Ident) : ¬(Expr.ofNames names).Has signal := by
  have hother : signal.isShownBy .other = false := Signal.isShownBy_of_plain (by decide) rfl
  have hid : signal.isShownBy .id = false := Signal.isShownBy_of_plain (by decide) rfl
  have hdot : signal.isShownBy .dot = false := Signal.isShownBy_of_plain (by decide) rfl
  induction names with
  | nil => simp [ofNames, has_bare_iff, hother]
  | cons name rest ih =>
    cases rest with
    | nil => simp [ofNames, has_leaf_iff, hid]
    | cons second rest => simp [ofNames, has_binary_iff, has_leaf_iff, hid, hdot, ih]

/-- What a join matches rows by, attached to the first of its sources. -/
theorem exists_has_attach_iff {columns : Option (List String)} {on : Option Expr} {first : Source}
    {rest : List Source} (hcolumns : first.columns = none) (hon : first.on = none) :
    (∃ s ∈ attach columns on (first :: rest), s.Has signal)
      ↔ (signal = .usingOrOn ∧ (columns.isSome = true ∨ on.isSome = true))
        ∨ (∃ e ∈ on, e.Has signal) ∨ ∃ s ∈ first :: rest, s.Has signal := by
  have hcolumns' : (if columns.isSome then columns else first.columns) = columns := by
    cases columns with
    | none => exact hcolumns
    | some names => rfl
  have hon' : (if on.isSome then on else first.on) = on := by
    cases on with
    | none => exact hon
    | some e => rfl
  have hfirst : first.Has signal ↔ ∃ c ∈ first.select, c.Has signal := by
    rw [Source.has_iff, hcolumns, hon]
    simp
  have hgiven : ({ first with columns, on } : Source).Has signal
      ↔ (signal = .usingOrOn ∧ (columns.isSome = true ∨ on.isSome = true))
        ∨ (∃ e ∈ on, e.Has signal) ∨ first.Has signal := by
    rw [Source.has_iff, hfirst, or_comm (b := ∃ e ∈ on, e.Has signal)]
  rw [attach, hcolumns', hon']
  simp only [List.mem_cons, exists_eq_or_imp, hgiven, or_assoc]

end Has

/-! ### Nodes and their outlines -/

section Nodes

variable {signal : Signal}

/-- Something in a node calls for a flag, joins that lose their condition and their columns
apart. -/
def Calls (signal : Signal) (p : Sql.Part) : Prop := p.Has keepsConstraint signal

/-- There are sources, and the first of them is not joined to anything. -/
def Opens (found : List Source) : Prop :=
  ∃ first rest, found = first :: rest ∧ first.columns = none ∧ first.on = none

/-- All outlines of a node have what sets a flag exactly if the node has what calls for it. -/
def Reflects (signal : Signal) : Sql.Part → Prop
  -- What is said to be absent is what the node around sets, so that nothing is overwritten.
  | .expr e => ∀ levels o, lowerExpr levels e = .ok o → (o.Has signal ↔ Calls signal (.expr e))
  | .query q => ∀ levels root, lowerQuery levels q = .ok root →
    (root.Has signal ↔ Calls signal (.query q))
  | .body b => ∀ levels prior root, lowerSetExpr levels prior b = .ok root →
    root.limit = none ∧ root.offset = none ∧
      (root.Has signal ↔ (∃ s ∈ prior, s.Has signal) ∨ Calls signal (.body b))
  | .select s => ∀ levels root, lowerSelect levels s = .ok root →
    root.prior = none ∧ root.limit = none ∧ root.offset = none ∧
      (root.Has signal ↔ Calls signal (.select s))
  | .tableJoins t => ∀ levels found, lowerTableJoins levels t = .ok found →
    Opens found ∧ ((∃ s ∈ found, s.Has signal) ↔ Calls signal (.tableJoins t))
  | .factor f => ∀ levels found, lowerTableFactor levels f = .ok found →
    Opens found ∧ ((∃ s ∈ found, s.Has signal) ↔ Calls signal (.factor f))
  | .join j => ∀ levels found, lowerJoins levels [j] = .ok found →
    ((∃ s ∈ found, s.Has signal) ↔ Calls signal (.join j))

/-- A node calls for a flag exactly when it shows the signal or a kept child calls for it. -/
theorem calls_iff {p : Sql.Part} :
    Calls signal p
      ↔ p.shows keepsConstraint signal = true ∨ ∃ q ∈ p.inner keepsConstraint, Calls signal q :=
  Sql.Part.has_iff

/-- The same, read off an expression. -/
theorem calls_expr_iff {e : Sql.Expr} :
    Calls signal (.expr e)
      ↔ Sql.Part.exprShows signal e = true ∨ ∃ q ∈ Sql.Part.ofExpr e, Calls signal q :=
  calls_iff

/-- Nodes that call for nothing by themselves call for what is called for inside them. -/
theorem calls_iff_inner {p : Sql.Part} (h : p.shows keepsConstraint signal = false) :
    Calls signal p ↔ ∃ q ∈ p.inner keepsConstraint, Calls signal q := by
  rw [calls_iff, h]
  simp only [Bool.false_eq_true, false_or]

/-- Some of a list of expressions calls for a flag exactly when a member does. -/
theorem exists_calls_exprs_iff {es : List Sql.Expr} :
    (∃ q ∈ es.map Sql.Part.expr, Calls signal q) ↔ ∃ e ∈ es, Calls signal (.expr e) := by
  simp only [List.mem_map, exists_exists_and_eq_and]

/-- The lowered members of a list have the signal exactly when some member calls for it. -/
theorem exists_has_mapM_iff {es : List Sql.Expr} (h : ∀ e ∈ es, Reflects signal (.expr e))
    {levels : Nat} {found : List Expr} (hl : es.mapM (lowerExpr levels) = .ok found) :
    (∃ o ∈ found, o.Has signal) ↔ ∃ e ∈ es, Calls signal (.expr e) :=
  exists_mem_mapM_iff (fun e he => h e he levels) hl

/-- A lowered optional expression has the signal exactly when the expression is there and calls for
it. -/
theorem exists_has_lowerExpr?_iff {e : Option Sql.Expr} (h : ∀ c ∈ e, Reflects signal (.expr c))
    {levels : Nat} {found : Option Expr} (hl : lowerExpr? levels e = .ok found) :
    (∃ o ∈ found, o.Has signal) ↔ ∃ c ∈ e, Calls signal (.expr c) := by
  cases e with
  | none =>
    obtain rfl := pure_eq_ok_iff.mp hl
    simp
  | some e =>
    simp only [lowerExpr?, bind_eq_ok_iff, pure_eq_ok_iff] at hl
    obtain ⟨o, ho, rfl⟩ := hl
    have hiff : o.Has signal ↔ Calls signal (.expr e) := h e rfl levels o ho
    simp [hiff]

/-! ### Expressions -/

section Expressions

variable {e : Sql.Expr}

/-- No level is left for the outline of an expression where there is none. -/
theorem reflects_of_succ
    (h : ∀ n o, lowerExpr (n + 1) e = .ok o → (o.Has signal ↔ Calls signal (.expr e))) :
    Reflects signal (.expr e) := by
  intro levels o hl
  cases levels with
  | zero =>
    rw [lowerExpr, nested] at hl
    cases hl
  | succ n => exact h n o hl

/-- An expression without children that lowers to an operand without the signal reflects it. -/
theorem reflects_of_leaf {o : Expr} (hlower : ∀ n, lowerExpr (n + 1) e = .ok o)
    (hshows : Sql.Part.exprShows signal e = false) (hin : Sql.Part.ofExpr e = [])
    (ho : ¬o.Has signal) : Reflects signal (.expr e) := by
  refine reflects_of_succ fun n o' hl => ?_
  rw [hlower] at hl
  cases hl
  rw [calls_expr_iff, hshows, hin]
  simpa using ho

/-- An expression that lowers to what it wraps reflects whatever its inside does. -/
theorem reflects_of_wrapper {inner : Sql.Expr}
    (hlower : ∀ n, lowerExpr (n + 1) e = lowerExpr n inner)
    (hshows : Sql.Part.exprShows signal e = false) (hin : Sql.Part.ofExpr e = [.expr inner])
    (h : Reflects signal (.expr inner)) : Reflects signal (.expr e) := by
  refine reflects_of_succ fun n o hl => ?_
  rw [hlower] at hl
  rw [calls_expr_iff, hshows, hin]
  simpa using h n o hl

/-- A unary operation reflects a signal if its operand does and its operator shows it alike in both
trees. -/
theorem reflects_of_unary {op : Op} {operand : Sql.Expr}
    (hlower : ∀ n, lowerExpr (n + 1) e = return .unary op (← lowerExpr n operand))
    (hshows : Sql.Part.exprShows signal e = signal.isShownBy op)
    (hin : Sql.Part.ofExpr e = [.expr operand]) (h : Reflects signal (.expr operand)) :
    Reflects signal (.expr e) := by
  refine reflects_of_succ fun n o hl => ?_
  simp only [hlower, bind_eq_ok_iff, pure_eq_ok_iff] at hl
  obtain ⟨left, hleft, rfl⟩ := hl
  rw [calls_expr_iff, hshows, hin, Expr.has_unary_iff, h n left hleft]
  simp

/-- A binary operation reflects a signal if both operands do and its operator shows it alike in both
trees. -/
theorem reflects_of_binary {op : Op} {a b : Sql.Expr}
    (hlower : ∀ n, lowerExpr (n + 1) e = return .binary op (← lowerExpr n a) (← lowerExpr n b))
    (hshows : Sql.Part.exprShows signal e = signal.isShownBy op)
    (hin : Sql.Part.ofExpr e = [.expr a, .expr b]) (ha : Reflects signal (.expr a))
    (hb : Reflects signal (.expr b)) : Reflects signal (.expr e) := by
  refine reflects_of_succ fun n o hl => ?_
  simp only [hlower, bind_eq_ok_iff, pure_eq_ok_iff] at hl
  obtain ⟨left, hleft, right, hright, rfl⟩ := hl
  rw [calls_expr_iff, hshows, hin, Expr.has_binary_iff, ha n left hleft, hb n right hright]
  simp

/-- An expression around a query reflects a signal if the query does. -/
theorem reflects_of_query {op : Op} {q : Sql.Query}
    (hlower : ∀ n, lowerExpr (n + 1) e
      = return { Expr.bare op with select := some (← lowerQuery n q) })
    (hshows : Sql.Part.exprShows signal e = signal.isShownBy op)
    (hin : Sql.Part.ofExpr e = [.query q]) (h : Reflects signal (.query q)) :
    Reflects signal (.expr e) := by
  refine reflects_of_succ fun n o hl => ?_
  simp only [hlower, bind_eq_ok_iff, pure_eq_ok_iff] at hl
  obtain ⟨root, hroot, rfl⟩ := hl
  rw [calls_expr_iff, hshows, hin, Expr.has_iff]
  simp [Expr.bare, h n root hroot]

end Expressions

/-- What calls are made of, whatever the name is. -/
theorem has_lowerCall_iff {arguments : Sql.Arguments}
    (h : ∀ q ∈ Sql.Part.ofArguments arguments, Reflects signal q) {levels : Nat} {name : String}
    {o : Expr} (hl : lowerCall levels name arguments = .ok o) :
    o.Has signal ↔ ∃ q ∈ Sql.Part.ofArguments arguments, Calls signal q := by
  have hplain : signal.isShownBy .function = false := Signal.isShownBy_of_plain (by decide) rfl
  cases arguments with
  | absent =>
    obtain rfl := pure_eq_ok_iff.mp hl
    simp [Expr.has_leaf_iff, hplain, Sql.Part.ofArguments]
  | query q =>
    simp only [lowerCall, bind_eq_ok_iff, pure_eq_ok_iff] at hl
    obtain ⟨root, hroot, rfl⟩ := hl
    have hquery : root.Has signal ↔ Calls signal (.query q) :=
      h (.query q) List.mem_cons_self levels root hroot
    rw [Expr.has_iff]
    simp [Expr.leaf, Expr.bare, hplain, hquery, Sql.Part.ofArguments]
  | list quantifier arguments clauses =>
    simp only [lowerCall, bind_eq_ok_iff, pure_eq_ok_iff, lowerArguments_eq_mapM] at hl
    obtain ⟨found, hfound, rfl⟩ := hl
    have hlist : (∃ o ∈ found, o.Has signal)
        ↔ ∃ e ∈ arguments.flatMap Sql.Argument.exprs, Calls signal (.expr e) :=
      exists_has_mapM_iff (fun e he => h (.expr e) (List.mem_map_of_mem he)) hfound
    rw [Expr.has_iff, Sql.Part.ofArguments, exists_calls_exprs_iff, ← hlist]
    simp [Expr.leaf, Expr.bare, hplain]

/-- A membership test in a list reflects what its operand and its members do. -/
theorem reflects_inList {operand : Sql.Expr} {negated : Bool} {members : List Sql.Expr}
    (h : ∀ q ∈ Sql.Part.ofExpr (.inList operand negated members), Reflects signal q) :
    Reflects signal (.expr (.inList operand negated members)) := by
  refine reflects_of_succ fun n o hl => ?_
  rw [lowerExpr] at hl
  simp only [nested, bind_eq_ok_iff, pure_eq_ok_iff, lowerExprs_eq_mapM] at hl
  obtain ⟨left, hleft, found, hfound, rfl⟩ := hl
  simp only [Sql.Part.ofExpr, List.mem_cons, forall_eq_or_imp, List.forall_mem_map] at h
  have hshows : Sql.Part.exprShows signal (.inList operand negated members)
    = signal.isShownBy .isIn := by cases signal <;> rfl
  have hoperand : left.Has signal ↔ Calls signal (.expr operand) := h.1 n left hleft
  have hmembers : (∃ o ∈ found, o.Has signal) ↔ ∃ e ∈ members, Calls signal (.expr e) :=
    exists_has_mapM_iff h.2 hfound
  rw [calls_expr_iff, hshows, Expr.has_iff]
  simp [Expr.unary, Expr.bare, Sql.Part.ofExpr, hoperand, hmembers]

/-- A membership test in a query reflects what its operand and the query do. -/
theorem reflects_inQuery {operand : Sql.Expr} {negated : Bool} {q : Sql.Query}
    (h : ∀ p ∈ Sql.Part.ofExpr (.inQuery operand negated q), Reflects signal p) :
    Reflects signal (.expr (.inQuery operand negated q)) := by
  refine reflects_of_succ fun n o hl => ?_
  rw [lowerExpr] at hl
  simp only [nested, bind_eq_ok_iff, pure_eq_ok_iff] at hl
  obtain ⟨left, hleft, root, hroot, rfl⟩ := hl
  simp only [Sql.Part.ofExpr, List.mem_cons, forall_eq_or_imp] at h
  have hshows : Sql.Part.exprShows signal (.inQuery operand negated q)
    = signal.isShownBy .isIn := by cases signal <;> rfl
  have hoperand : left.Has signal ↔ Calls signal (.expr operand) := h.1 n left hleft
  have hquery : root.Has signal ↔ Calls signal (.query q) := h.2.1 n root hroot
  rw [calls_expr_iff, hshows, Expr.has_iff]
  simp [Expr.unary, Expr.bare, Sql.Part.ofExpr, hoperand, hquery]

/-- A range test reflects what its operand and its bounds do: it lowers to two comparisons, and
repeats the operand. -/
theorem reflects_between {operand : Sql.Expr} {negated : Bool} {low high : Sql.Expr}
    (h : ∀ q ∈ Sql.Part.ofExpr (.between operand negated low high), Reflects signal q) :
    Reflects signal (.expr (.between operand negated low high)) := by
  refine reflects_of_succ fun n o hl => ?_
  rw [lowerExpr] at hl
  simp only [nested, bind_eq_ok_iff, pure_eq_ok_iff] at hl
  obtain ⟨left, hleft, below, hbelow, above, habove, rfl⟩ := hl
  simp only [Sql.Part.ofExpr, List.mem_cons, forall_eq_or_imp] at h
  have hshows : Sql.Part.exprShows signal (.between operand negated low high)
    = signal.isShownBy .between := by cases signal <;> rfl
  have hoperand : left.Has signal ↔ Calls signal (.expr operand) := h.1 n left hleft
  have hlow : below.Has signal ↔ Calls signal (.expr low) := h.2.1 n below hbelow
  have hhigh : above.Has signal ↔ Calls signal (.expr high) := h.2.2.1 n above habove
  rw [calls_expr_iff, hshows, Expr.has_iff]
  simp [Expr.unary, Expr.bare, Sql.Part.ofExpr, hoperand, hlow, hhigh]

/-- A CASE reflects what its operand, its branches and its alternative do. -/
theorem reflects_case {operand : Option Sql.Expr} {branches : List Sql.Branch}
    {otherwise : Option Sql.Expr}
    (h : ∀ q ∈ Sql.Part.ofExpr (.case operand branches otherwise), Reflects signal q) :
    Reflects signal (.expr (.case operand branches otherwise)) := by
  have hplain : signal.isShownBy .case = false := Signal.isShownBy_of_plain (by decide) rfl
  refine reflects_of_succ fun n o hl => ?_
  rw [lowerExpr] at hl
  simp only [nested, bind_eq_ok_iff, pure_eq_ok_iff, lowerBranches_eq_mapM] at hl
  obtain ⟨arms, harms, last, hlast, left, hleft, rfl⟩ := hl
  simp only [Sql.Part.ofExpr, List.mem_append, or_imp, forall_and, List.forall_mem_map,
    Option.mem_toList] at h
  have hshows : Sql.Part.exprShows signal (.case operand branches otherwise) = false := by
    cases signal <;> rfl
  have hoperand : (∃ o ∈ left, o.Has signal) ↔ ∃ c ∈ operand, Calls signal (.expr c) :=
    exists_has_lowerExpr?_iff h.1.1 hleft
  have hbranches : (∃ o ∈ arms, o.Has signal)
      ↔ ∃ c ∈ branches.flatMap Sql.Branch.exprs, Calls signal (.expr c) :=
    exists_has_mapM_iff h.1.2 harms
  have hotherwise : (∃ o ∈ last, o.Has signal) ↔ ∃ c ∈ otherwise, Calls signal (.expr c) :=
    exists_has_lowerExpr?_iff h.2 hlast
  simp only [Option.mem_def] at hoperand hotherwise
  rw [calls_expr_iff, hshows, Expr.has_iff]
  simp only [Expr.bare, hplain, Sql.Part.ofExpr, List.mem_append, Option.mem_toList, Option.mem_def,
    or_and_right, exists_or, exists_calls_exprs_iff, hoperand, hbranches, hotherwise, reduceCtorEq,
    false_and, exists_false, Bool.false_eq_true, false_or, or_assoc]

/-- By the cases of an expression: it reflects a signal if all its children do. -/
theorem reflects_expr {e : Sql.Expr} (h : ∀ q ∈ Sql.Part.ofExpr e, Reflects signal q) :
    Reflects signal (.expr e) := by
  have hid : signal.isShownBy .id = false := Signal.isShownBy_of_plain (by decide) rfl
  have hliteral : signal.isShownBy .literal = false := Signal.isShownBy_of_plain (by decide) rfl
  have hother : signal.isShownBy .other = false := Signal.isShownBy_of_plain (by decide) rfl
  -- Leaves show nothing, wrappers pass on what is inside, and all other forms keep their operator's
  -- kind.
  cases e with
  | ident name =>
    refine reflects_of_leaf (fun n => by rw [lowerExpr]; rfl) (by cases signal <;> rfl) rfl ?_
    simp [Expr.has_leaf_iff, hid]
  | compound parts =>
    exact reflects_of_leaf (fun n => by rw [lowerExpr]; rfl) (by cases signal <;> rfl) rfl
      (Expr.not_has_ofNames parts)
  | value v =>
    refine reflects_of_leaf (fun n => by rw [lowerExpr]; rfl) (by cases signal <;> rfl) rfl ?_
    simp [Expr.has_leaf_iff, hliteral]
  | nested inner =>
    exact reflects_of_wrapper (fun n => by rw [lowerExpr]; rfl) (by cases signal <;> rfl) rfl
      (h _ List.mem_cons_self)
  | collate inner collation =>
    exact reflects_of_wrapper (fun n => by rw [lowerExpr]; rfl) (by cases signal <;> rfl) rfl
      (h _ List.mem_cons_self)
  | binary left op right =>
    exact reflects_of_binary (fun n => by rw [lowerExpr]; rfl)
      (by cases signal <;> cases op <;> rfl)
      rfl (h _ List.mem_cons_self) (h _ (List.mem_cons_of_mem _ List.mem_cons_self))
  | unary op operand =>
    exact reflects_of_unary (fun n => by rw [lowerExpr]; rfl) (by cases signal <;> cases op <;> rfl)
      rfl (h _ List.mem_cons_self)
  | pattern kind negated any operand pattern escape =>
    exact reflects_of_binary (fun n => by rw [lowerExpr]; rfl) (by cases signal <;> rfl) rfl
      (h _ List.mem_cons_self) (h _ (List.mem_cons_of_mem _ List.mem_cons_self))
  | inList operand negated members => exact reflects_inList h
  | inQuery operand negated q => exact reflects_inQuery h
  | isNull operand =>
    exact reflects_of_unary (fun n => by rw [lowerExpr]; rfl) (by cases signal <;> rfl) rfl
      (h _ List.mem_cons_self)
  | isNotNull operand =>
    exact reflects_of_unary (fun n => by rw [lowerExpr]; rfl) (by cases signal <;> rfl) rfl
      (h _ List.mem_cons_self)
  | isTruth operand negated truth =>
    exact reflects_of_unary (fun n => by rw [lowerExpr]; rfl)
      (by cases signal <;> cases negated <;> rfl) rfl (h _ List.mem_cons_self)
  | distinct left same right =>
    exact reflects_of_binary (fun n => by rw [lowerExpr]; rfl)
      (by cases signal <;> cases same <;> rfl) rfl (h _ List.mem_cons_self)
      (h _ (List.mem_cons_of_mem _ List.mem_cons_self))
  | between operand negated low high => exact reflects_between h
  | subquery q =>
    exact reflects_of_query (fun n => by rw [lowerExpr]; rfl) (by cases signal <;> rfl) rfl
      (h _ List.mem_cons_self)
  | «exists» negated q =>
    exact reflects_of_query (fun n => by rw [lowerExpr]; rfl) (by cases signal <;> rfl) rfl
      (h _ List.mem_cons_self)
  | call braced name parameters arguments suffix =>
    refine reflects_of_succ fun n o hl => ?_
    rw [lowerExpr] at hl
    have hshows : Sql.Part.exprShows signal (.call braced name parameters arguments suffix)
      = false := by cases signal <;> rfl
    rw [calls_expr_iff, hshows, has_lowerCall_iff h hl]
    simp [Sql.Part.ofExpr]
  | case operand branches otherwise => exact reflects_case h
  | cast form operand type =>
    exact reflects_of_unary (fun n => by rw [lowerExpr]; rfl) (by cases signal <;> rfl) rfl
      (h _ List.mem_cons_self)
  | verbatim text =>
    refine reflects_of_leaf (fun n => by rw [lowerExpr]; rfl) (by cases signal <;> rfl) rfl ?_
    simp [Expr.has_bare_iff, hother]

/-! ### Queries -/

/-- The lowered rows of a LIMIT have the signal exactly when one of their expressions calls for
it. -/
theorem has_lowerLimit_iff {l : Sql.Limit} (h : ∀ e ∈ l.exprs, Reflects signal (.expr e))
    {levels : Nat} {count offset : Option Expr} (hl : lowerLimit levels l = .ok (count, offset)) :
    ((∃ e ∈ count, e.Has signal) ∨ ∃ e ∈ offset, e.Has signal)
      ↔ ∃ e ∈ l.exprs, Calls signal (.expr e) := by
  cases l with
  | clauses before behind tail =>
    simp only [lowerLimit, bind_eq_ok_iff, pure_eq_ok_iff, Prod.mk.injEq] at hl
    obtain ⟨_, hcount, _, hoffset, rfl, rfl⟩ := hl
    simp only [Sql.Limit.exprs, List.mem_append, or_imp, forall_and, Option.mem_toList] at h
    rw [exists_has_lowerExpr?_iff h.1 hcount, exists_has_lowerExpr?_iff h.2 hoffset]
    simp only [Sql.Limit.exprs, List.mem_append, Option.mem_toList, Option.mem_def, or_and_right,
      exists_or]
  | comma behind before =>
    simp only [lowerLimit, bind_eq_ok_iff, pure_eq_ok_iff, Prod.mk.injEq] at hl
    obtain ⟨below, hcount, above, hoffset, rfl, rfl⟩ := hl
    simp only [Sql.Limit.exprs, List.mem_cons, forall_eq_or_imp] at h
    have hbefore : below.Has signal ↔ Calls signal (.expr before) := h.2.1 levels below hcount
    have hbehind : above.Has signal ↔ Calls signal (.expr behind) := h.1 levels above hoffset
    simp [Sql.Limit.exprs, hbefore, hbehind, or_comm]

/-- A query reflects a signal if all its children do: whatever stands around the body goes to the
last member. -/
theorem reflects_query {q : Sql.Query} (h : ∀ p ∈ Sql.Part.ofQuery q, Reflects signal p) :
    Reflects signal (.query q) := by
  obtain ⟨recursive, ctes, body, orderBy, limit, tail⟩ := q
  intro levels root hl
  rw [lowerQuery, nested_eq_ok_iff] at hl
  obtain ⟨n, rfl, hl⟩ := hl
  simp only [bind_eq_ok_iff, pure_eq_ok_iff, lowerCtes_eq_mapM, lowerOrderBy_eq_mapM] at hl
  obtain ⟨select, hselect, bodies, hbodies, keys, hkeys, ⟨count, offset⟩, hlimit, rfl⟩ := hl
  simp only [Sql.Part.ofQuery, List.mem_append, List.mem_cons, or_imp, forall_and, forall_eq,
    List.forall_mem_map] at h
  obtain ⟨⟨⟨hbody, hctes⟩, horderBy⟩, hlimits⟩ := h
  obtain ⟨hnone, hnone', hselect⟩ := hbody n none select hselect
  have hctes : ∀ c ∈ ctes.map Sql.Cte.query, Reflects signal (.query c) :=
    List.forall_mem_map.mpr hctes
  have hbodies : (∃ c ∈ bodies, c.Has signal)
      ↔ ∃ c ∈ ctes.map Sql.Cte.query, Calls signal (.query c) :=
    exists_mem_mapM_iff (fun c hc => hctes c hc n) hbodies
  rw [Select.has_with_clauses_iff hnone hnone', calls_iff_inner rfl, hselect, hbodies,
    exists_has_mapM_iff horderBy hkeys, has_lowerLimit_iff hlimits hlimit]
  simp [Sql.Part.inner, Sql.Part.ofQuery, or_and_right, exists_or]

/-- The body of a query reflects a signal if all its children do. -/
theorem reflects_body {b : Sql.SetExpr} (h : ∀ p ∈ Sql.Part.ofBody b, Reflects signal p) :
    Reflects signal (.body b) := by
  intro levels prior root hl
  rw [calls_iff_inner rfl]
  cases b with
  | select s =>
    simp only [lowerSetExpr, bind_eq_ok_iff, pure_eq_ok_iff] at hl
    obtain ⟨select, hselect, rfl⟩ := hl
    obtain ⟨hprior, hlimit, hoffset, hselect⟩ :=
      h (.select s) List.mem_cons_self levels select hselect
    refine ⟨hlimit, hoffset, ?_⟩
    rw [Select.has_with_prior_iff hprior, hselect]
    simp [Sql.Part.inner, Sql.Part.ofBody]
  | query q =>
    simp only [lowerSetExpr, bind_eq_ok_iff, pure_eq_ok_iff] at hl
    obtain ⟨inside, hinside, rfl⟩ := hl
    have hquery : inside.Has signal ↔ Calls signal (.query q) :=
      h (.query q) List.mem_cons_self levels inside hinside
    refine ⟨rfl, rfl, ?_⟩
    refine Select.has_mk_iff.trans ?_
    have hsource : (Source.derived inside).Has signal ↔ Calls signal (.query q) :=
      Source.has_derived_iff.trans hquery
    simp [Select.blank, default, Sql.Part.inner, Sql.Part.ofBody, hsource]
  -- The left side becomes the member before the right one, so nothing of either is lost.
  | operation left op quantifier right =>
    simp only [lowerSetExpr, bind_eq_ok_iff, nested_eq_ok_iff] at hl
    obtain ⟨first, ⟨m, rfl, hfirst⟩, n, hlevels, hroot⟩ := hl
    obtain ⟨-, -, hfirst⟩ := h (.body left) List.mem_cons_self m prior first hfirst
    obtain ⟨hlimit, hoffset, hroot⟩ :=
      h (.body right) (List.mem_cons_of_mem _ List.mem_cons_self) n (some first) root hroot
    refine ⟨hlimit, hoffset, ?_⟩
    rw [hroot]
    simp [Sql.Part.inner, Sql.Part.ofBody, hfirst, or_assoc]
  | values keyword row rows =>
    simp only [lowerSetExpr, bind_eq_ok_iff, pure_eq_ok_iff, lowerRows_eq_mapM] at hl
    obtain ⟨found, hfound, rfl⟩ := hl
    have hrows : (∃ e ∈ found, e.Has signal) ↔ ∃ e ∈ rows.flatten, Calls signal (.expr e) :=
      exists_has_mapM_iff (fun e he => h (.expr e) (List.mem_map_of_mem he)) hfound
    refine ⟨rfl, rfl, ?_⟩
    rw [Sql.Part.inner, Sql.Part.ofBody, exists_calls_exprs_iff, ← hrows]
    refine Select.has_mk_iff.trans ?_
    simp [Select.blank, default]
  | verbatim text =>
    obtain rfl := pure_eq_ok_iff.mp hl
    refine ⟨rfl, rfl, ?_⟩
    refine Select.has_mk_iff.trans ?_
    simp [Select.blank, default, Sql.Part.inner, Sql.Part.ofBody]

/-! ### Selections and their sources -/

/-- The lowered items of a projection have the signal exactly when one of their expressions calls
for it. -/
theorem exists_has_lowerItems_iff {items : List Sql.SelectItem}
    (h : ∀ e ∈ items.flatMap Sql.SelectItem.exprs, Reflects signal (.expr e)) {levels : Nat}
    {found : List Expr} (hl : lowerItems levels items = .ok found) :
    (∃ o ∈ found, o.Has signal)
      ↔ ∃ e ∈ items.flatMap Sql.SelectItem.exprs, Calls signal (.expr e) := by
  have hplain : signal.isShownBy .wildcard = false := Signal.isShownBy_of_plain (by decide) rfl
  induction items generalizing found with
  | nil =>
    obtain rfl := pure_eq_ok_iff.mp hl
    simp
  | cons item rest ih =>
    simp only [List.flatMap_cons, List.mem_append, or_imp, forall_and] at h
    cases item with
    | expr value aliasName =>
      simp only [lowerItems, bind_eq_ok_iff, pure_eq_ok_iff] at hl
      obtain ⟨o, ho, found, hfound, rfl⟩ := hl
      have hvalue : o.Has signal ↔ Calls signal (.expr value) :=
        h.1 value List.mem_cons_self levels o ho
      simp only [List.mem_cons, exists_eq_or_imp, hvalue, ih h.2 hfound, List.flatMap_cons,
        Sql.SelectItem.exprs, List.cons_append, List.nil_append]
    | wildcard text =>
      simp only [lowerItems, bind_eq_ok_iff, pure_eq_ok_iff] at hl
      obtain ⟨found, hfound, rfl⟩ := hl
      simp only [List.mem_cons, exists_eq_or_imp, Expr.has_bare_iff, hplain, ih h.2 hfound,
        List.flatMap_cons, Sql.SelectItem.exprs, List.nil_append, Bool.false_eq_true, false_or]

/-- Sources in one list, told by what they come from. -/
theorem exists_has_flatten_iff {α : Type} {f : α → Lowered (List Source)} {p : α → Prop}
    {as : List α} (h : ∀ a ∈ as, ∀ found, f a = .ok found → ((∃ s ∈ found, s.Has signal) ↔ p a))
    {found : List Source} (hm : List.flatten <$> as.mapM f = .ok found) :
    (∃ s ∈ found, s.Has signal) ↔ ∃ a ∈ as, p a := by
  obtain ⟨lists, hlists, rfl⟩ := map_eq_ok_iff.mp hm
  rw [← exists_mem_mapM_iff h hlists]
  simp only [List.mem_flatten]
  tauto

/-- A select reflects a signal if all its children do. -/
theorem reflects_select {s : Sql.Select} (h : ∀ p ∈ Sql.Part.ofSelect s, Reflects signal p) :
    Reflects signal (.select s) := by
  obtain ⟨form, head, projection, into, sources, beforeWhere, selection, groupBy,
    beforeHaving, having, tail⟩ := s
  intro levels root hl
  simp only [lowerSelect, bind_eq_ok_iff, pure_eq_ok_iff, lowerSources_eq_mapM,
    lowerGroupBy_eq_mapM] at hl
  obtain ⟨items, hitems, found, hfound, filter, hfilter, keys, hkeys, groupFilter, hgroupFilter,
    rfl⟩ := hl
  simp only [Sql.Part.ofSelect, List.mem_append, or_imp, forall_and, List.forall_mem_map,
    Option.mem_toList] at h
  obtain ⟨⟨⟨⟨hprojection, hsources⟩, hselection⟩, hgroupBy⟩, hhaving⟩ := h
  have hsources : (∃ s ∈ found, s.Has signal) ↔ ∃ t ∈ sources, Calls signal (.tableJoins t) :=
    exists_has_flatten_iff (fun t ht list hlist => (hsources t ht levels list hlist).2) hfound
  refine ⟨rfl, rfl, rfl, Select.has_mk_iff.trans ?_⟩
  rw [exists_has_lowerItems_iff hprojection hitems, hsources,
    exists_has_lowerExpr?_iff hselection hfilter, exists_has_mapM_iff hgroupBy hkeys,
    exists_has_lowerExpr?_iff hhaving hgroupFilter, calls_iff_inner rfl]
  simp [Select.blank, default, Sql.Part.inner, Sql.Part.ofSelect, or_and_right, exists_or]

/-- A relation with its joins reflects a signal if all its children do. -/
theorem reflects_tableJoins {t : Sql.TableJoins}
    (h : ∀ p ∈ Sql.Part.ofTableJoins t, Reflects signal p) : Reflects signal (.tableJoins t) := by
  obtain ⟨relation, joins⟩ := t
  intro levels found hl
  rw [lowerTableJoins, lowerJoins_eq_mapM] at hl
  simp only [bind_eq_ok_iff, pure_eq_ok_iff] at hl
  obtain ⟨opening, hopening, joined, hjoined, rfl⟩ := hl
  simp only [Sql.Part.ofTableJoins, List.mem_cons, forall_eq_or_imp, List.forall_mem_map] at h
  obtain ⟨⟨first, rest, rfl, hcolumns, hon⟩, hrelation⟩ := h.1 levels opening hopening
  have hjoins : (∃ s ∈ joined, s.Has signal) ↔ ∃ j ∈ joins, Calls signal (.join j) :=
    exists_has_flatten_iff (fun j hj => h.2 j hj levels) hjoined
  refine ⟨⟨first, rest ++ joined, rfl, hcolumns, hon⟩, ?_⟩
  rw [calls_iff_inner rfl]
  simp only [Sql.Part.inner, Sql.Part.ofTableJoins, List.mem_append, List.mem_cons, List.mem_map,
    or_and_right, exists_or, exists_eq_left, exists_exists_and_eq_and, ← hrelation, hjoins]

/-- A table factor reflects a signal if all its children do. -/
theorem reflects_factor {f : Sql.TableFactor} (h : ∀ p ∈ Sql.Part.ofFactor f, Reflects signal p) :
    Reflects signal (.factor f) := by
  intro levels found hl
  rw [calls_iff_inner rfl]
  cases f with
  | table name beforeAlias aliasName behindAlias =>
    obtain rfl := pure_eq_ok_iff.mp hl
    refine ⟨⟨_, _, rfl, rfl, rfl⟩, ?_⟩
    simp [Sql.Part.inner, Sql.Part.ofFactor, Source.has_table_iff]
  | derived lateral q aliasName =>
    simp only [lowerTableFactor, bind_eq_ok_iff, pure_eq_ok_iff] at hl
    obtain ⟨root, hroot, rfl⟩ := hl
    have hquery : root.Has signal ↔ Calls signal (.query q) :=
      h (.query q) List.mem_cons_self levels root hroot
    refine ⟨⟨_, _, rfl, rfl, rfl⟩, ?_⟩
    simp [Sql.Part.inner, Sql.Part.ofFactor, Source.has_derived_iff, hquery]
  | nested t aliasName =>
    simp only [lowerTableFactor, nested_eq_ok_iff] at hl
    obtain ⟨n, rfl, hfound⟩ := hl
    obtain ⟨hopens, htables⟩ := h (.tableJoins t) List.mem_cons_self n found hfound
    refine ⟨hopens, ?_⟩
    simp [Sql.Part.inner, Sql.Part.ofFactor, htables]
  | verbatim beforeAlias aliasName behindAlias =>
    obtain rfl := pure_eq_ok_iff.mp hl
    refine ⟨⟨_, _, rfl, rfl, rfl⟩, ?_⟩
    simp [Sql.Part.inner, Sql.Part.ofFactor, Source.has_blank_iff]

/-- What a join matches rows by sets flags if the outline keeps it. -/
theorem exists_has_lowerConstraint_iff {kept : Bool} {constraint : Sql.JoinConstraint}
    {first : Source} {rest : List Source} (hcolumns : first.columns = none) (hon : first.on = none)
    (h : kept = true → ∀ e ∈ constraint.exprs, Reflects signal (.expr e)) {levels : Nat}
    {found : List Source}
    (hl : lowerConstraint levels kept constraint (first :: rest) = .ok found) :
    (∃ s ∈ found, s.Has signal)
      ↔ (signal = .usingOrOn ∧ kept = true ∧ constraint.isGiven = true)
        ∨ (∃ s ∈ first :: rest, s.Has signal)
        ∨ kept = true ∧ ∃ e ∈ constraint.exprs, Calls signal (.expr e) := by
  cases kept with
  | false =>
    have hfound : (pure (first :: rest) : Lowered _) = .ok found := by
      cases constraint <;> simpa only [lowerConstraint] using hl
    obtain rfl := pure_eq_ok_iff.mp hfound
    simp
  | true =>
    cases constraint with
    | on condition =>
      simp only [lowerConstraint, bind_eq_ok_iff, pure_eq_ok_iff] at hl
      obtain ⟨on, hlower, rfl⟩ := hl
      have hcondition : on.Has signal ↔ Calls signal (.expr condition) :=
        h rfl condition List.mem_cons_self levels on hlower
      rw [exists_has_attach_iff hcolumns hon]
      simp [Sql.JoinConstraint.exprs, Sql.JoinConstraint.isGiven, hcondition, or_comm]
    | «using» columns =>
      simp only [lowerConstraint] at hl
      obtain rfl := pure_eq_ok_iff.mp hl
      rw [exists_has_attach_iff hcolumns hon]
      simp [Sql.JoinConstraint.exprs, Sql.JoinConstraint.isGiven]
    | natural =>
      simp only [lowerConstraint] at hl
      obtain rfl := pure_eq_ok_iff.mp hl
      simp [Sql.JoinConstraint.exprs, Sql.JoinConstraint.isGiven]
    | none =>
      simp only [lowerConstraint] at hl
      obtain rfl := pure_eq_ok_iff.mp hl
      simp [Sql.JoinConstraint.exprs, Sql.JoinConstraint.isGiven]

/-- A join reflects a signal if all its kept children do. -/
theorem reflects_join {j : Sql.Join}
    (h : ∀ p ∈ Sql.Part.ofJoin keepsConstraint j, Reflects signal p) :
    Reflects signal (.join j) := by
  obtain ⟨isGlobal, kind, relation, constraint⟩ := j
  intro levels found hl
  simp only [lowerJoins, bind_eq_ok_iff, pure_eq_ok_iff] at hl
  obtain ⟨opening, hopening, joined, hjoined, _, rfl, rfl⟩ := hl
  rw [List.append_nil]
  obtain ⟨⟨first, rest, rfl, hcolumns, hon⟩, hrelation⟩ :=
    h (.factor relation) List.mem_cons_self levels opening hopening
  have hcondition : keepsConstraint kind = true →
      ∀ e ∈ constraint.exprs, Reflects signal (.expr e) := by
    intro hkept e he
    refine h (.expr e) (List.mem_cons_of_mem _ ?_)
    rw [if_pos hkept]
    exact List.mem_map_of_mem he
  have hconstraint := exists_has_lowerConstraint_iff hcolumns hon hcondition hjoined
  rw [hconstraint, hrelation, calls_iff (p := .join _)]
  cases hkept :
    keepsConstraint kind <;> simp [Sql.Part.inner, Sql.Part.ofJoin, Sql.Part.shows, hkept]

/-- By induction over the tree: every node reflects every signal. -/
theorem reflects (p : Sql.Part) : Reflects signal p := by
  induction p using Sql.Part.induct keepsConstraint with
  | h p ih =>
    cases p with
    | expr e => exact reflects_expr ih
    | query q => exact reflects_query ih
    | body b => exact reflects_body ih
    | select s => exact reflects_select ih
    | tableJoins t => exact reflects_tableJoins ih
    | factor f => exact reflects_factor ih
    | join j => exact reflects_join ih

/-- The outline of a query has what sets a flag exactly if the query has what calls for it. -/
theorem has_lowerQuery_iff {levels : Nat} {q : Sql.Query} {root : Select}
    (h : lowerQuery levels q = .ok root) :
    root.Has signal ↔ (Sql.Part.query q).Has keepsConstraint signal :=
  reflects (.query q) levels root h

end Nodes

end QueryLint.Outline

namespace QueryLint.Analysis

open Outline

/-- A walk over the outline of a query that was not cut short sets only flags that some node of the
query calls for. If all nodes have forms of their own, and no join loses its condition, it sets
every flag that some node calls for; the nodes are all there are, those in passages included, if no
expression and no query is written in a passage. -/
theorem flags_of_lowerQuery {levels limit : Nat} {q : Sql.Query} {root : Select}
    (hlower : lowerQuery levels q = .ok root) (hwhole : (ofSelect limit root).truncated = false)
    (signal : Signal) :
    (signal.flag (ofSelect limit root).signals = true →
        ∃ p ∈ (Sql.Part.query q).nodes, p.shows Sql.everyJoin signal = true)
      ∧ ((∀ p ∈ (Sql.Part.query q).nodes, p.isNamed keepsConstraint = true) →
        (∀ p ∈ (Sql.Part.query q).nodes, p.shows Sql.everyJoin signal = true →
            signal.flag (ofSelect limit root).signals = true)
          ∧ ((∀ p ∈ (Sql.Part.query q).nodes, p.passedOver = []) →
            ∀ p ∈ (Sql.Part.query q).allNodes, p.shows Sql.everyJoin signal = true →
              signal.flag (ofSelect limit root).signals = true)) := by
  have hiff : signal.flag (ofSelect limit root).signals = true
      ↔ (Sql.Part.query q).Has keepsConstraint signal :=
    (flag_iff_of_whole hwhole signal).trans (has_lowerQuery_iff hlower)
  constructor
  · intro hflag
    exact (hiff.mp hflag).exists_mem_nodes
  · intro hnamed
    have hsets : ∀ p ∈ (Sql.Part.query q).nodes, p.shows Sql.everyJoin signal = true →
        signal.flag (ofSelect limit root).signals = true := by
      intro p hp hshows
      have hown : ∀ p ∈ (Sql.Part.query q).nodes, p.keepsOwn keepsConstraint = true :=
        fun p hp => Sql.Part.keepsOwn_of_isNamed (hnamed p hp)
      exact hiff.mpr (Sql.Part.has_of_mem_nodes hown hp hshows)
    refine ⟨hsets, fun hover p hp => ?_⟩
    rw [Sql.Part.allNodes_eq_nodes hover] at hp
    exact hsets p hp

/-- A match behind `ON`, of which one side is a join in parentheses with `USING`. -/
theorem flags_of_nested_join :
    let table (name : String) : Sql.TableFactor := .table ⟨[.plain name]⟩ "" none ""
    let like : Sql.Expr :=
      .pattern .like false false (.ident (.plain "a")) (.value (.single "x%")) none
    let inside : Sql.TableJoins :=
      .mk (table "u") [.mk false .join (table "v") (.using [⟨[.plain "k"]⟩])]
    let source : Sql.TableJoins :=
      .mk (table "t") [.mk false .left (.nested inside none) (.on like)]
    let q : Sql.Query := .mk false []
      (.select (.mk .standard " DISTINCT" [.wildcard "*"] "" [source] "" none (.keys [] "") ""
        none ""))
      (.keys [.mk (.ident (.plain "b")) " DESC"] "") (.clauses none none "") ""
    ∃ root, lowerQuery 8 q = .ok root
      ∧ Signal.fuzzyMatching.flag (ofSelect 8 root).signals = true
      ∧ Signal.usingOrOn.flag (ofSelect 8 root).signals = true
      ∧ Signal.isIn.flag (ofSelect 8 root).signals = false := by
  intro table like inside source q
  obtain ⟨root, hlower, hwhole⟩ :
      ∃ root, lowerQuery 8 q = .ok root ∧ (ofSelect 8 root).truncated = false :=
    ⟨_, rfl, by decide_cbv⟩
  have hnamed : ∀ p ∈ (Sql.Part.query q).nodes, p.isNamed keepsConstraint = true :=
    List.all_eq_true.mp (by decide_cbv)
  have hover : ∀ p ∈ (Sql.Part.query q).nodes, p.passedOver = [] := fun p hp =>
    List.isEmpty_iff.mp (List.all_eq_true.mp
      (by decide_cbv : (Sql.Part.query q).nodes.all (·.passedOver.isEmpty) = true) p hp)
  have hmatch : (Sql.Part.query q).allNodes.any (Sql.Part.shows Sql.everyJoin .fuzzyMatching)
      = true := by
    decide_cbv
  have hjoin : (Sql.Part.query q).allNodes.any (Sql.Part.shows Sql.everyJoin .usingOrOn)
      = true := by
    decide_cbv
  have hmembers : (Sql.Part.query q).nodes.any (Sql.Part.shows Sql.everyJoin .isIn) = false := by
    decide_cbv
  refine ⟨root, hlower, ?_, ?_, Bool.eq_false_iff.mpr fun hflag => ?_⟩
  · obtain ⟨p, hp, hshows⟩ := List.any_eq_true.mp hmatch
    exact ((flags_of_lowerQuery hlower hwhole .fuzzyMatching).2 hnamed).2 hover p hp hshows
  · obtain ⟨p, hp, hshows⟩ := List.any_eq_true.mp hjoin
    exact ((flags_of_lowerQuery hlower hwhole .usingOrOn).2 hnamed).2 hover p hp hshows
  · obtain ⟨p, hp, hshows⟩ := (flags_of_lowerQuery hlower hwhole .isIn).1 hflag
    exact List.any_eq_false.mp hmembers p hp hshows

/-- All nodes of `SELECT GROUP_CONCAT(a ORDER BY b LIKE 'x') FROM t` have forms of their own, a
match among them, and the call has neither a filter nor a window nor a group; but lowering passes
over what stands behind the arguments of a call. -/
theorem flag_unset_of_match_behind_arguments :
    let like : Sql.Expr := .pattern .like false false (.ident (.plain "b"))
      (.value (.single "x")) none
    let order : Sql.Passage := ⟨" ORDER BY b LIKE 'x'", [like], []⟩
    let call : Sql.Expr := .call false ⟨[.plain "GROUP_CONCAT"]⟩ ""
      (.list "" [.positional (.ident (.plain "a"))] order) ""
    let source : Sql.TableJoins := .mk (.table ⟨[.plain "t"]⟩ "" none "") []
    let q : Sql.Query := .mk false []
      (.select (.mk .standard "" [.expr call none] "" [source] "" none (.keys [] "") "" none ""))
      (.keys [] "") (.clauses none none "") ""
    ∃ root, lowerQuery 8 q = .ok root ∧ (ofSelect 8 root).truncated = false
      ∧ (∀ p ∈ (Sql.Part.query q).allNodes, p.isNamed keepsConstraint = true)
      ∧ (∃ p ∈ (Sql.Part.query q).allNodes, p.shows Sql.everyJoin .fuzzyMatching = true)
      ∧ Signal.fuzzyMatching.flag (ofSelect 8 root).signals = false := by
  intro like order call source q
  refine ⟨_, rfl, by decide_cbv, List.all_eq_true.mp (by decide_cbv), ?_, by decide_cbv⟩
  exact List.any_eq_true.mp (by decide_cbv)

end QueryLint.Analysis
