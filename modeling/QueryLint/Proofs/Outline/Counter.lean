import QueryLint.Proofs.Outline.Heights
import QueryLint.Proofs.Outline.Limits

/-!
# Counting levels

Lowering hands down how many levels are left. One may as well count how many have been entered: one
level deeper the count goes up, and it goes down again whatever comes of what is done there
(`deeper`). The functions named `count…` lower in this way, with one count for all that they lower,
one node after the other. They do what lowering does with the levels that are left, and the count
ends where it began (`follows_countStatements` and its companions). So it makes no difference to a
statement which ones were lowered before it.
-/

namespace QueryLint.Outline

/-! ### Counts -/

/-- Why counted lowering has no result. -/
inductive Halt where
  /-- More levels would be entered than there may be. -/
  | tooDeep (limit : Nat)
  /-- A level was left that had not been entered. -/
  | underflow
  deriving DecidableEq, Repr, Inhabited

/-- Lowering that counts the levels that have been entered. -/
abbrev Counted (α : Type) := ExceptT Halt (StateM Nat) α

/-- What comes of counted lowering that begins at a count, and the count at its end. -/
def outcome {α : Type} (x : Counted α) (entered : Nat) : Except Halt α × Nat := x.run.run entered

/-- One level deeper, if there may be one more. The level is left whatever comes of what is done
there. -/
def deeper {α : Type} (limit : Nat) (inner : Counted α) : Counted α :=
  ExceptT.mk fun entered =>
    if limit ≤ entered then (.error (.tooDeep limit), entered)
    else match outcome inner (entered + 1) with
      | (_, 0) => (.error .underflow, 0)
      | (result, left + 1) => (result, left)

/-- A sequence of counted computations ends as its first half does, if that fails, and else as its
second half does from the counter that the first leaves. -/
theorem outcome_bind {α β : Type} (x : Counted α) (f : α → Counted β) (entered : Nat) :
    outcome (x >>= f) entered
      = match outcome x entered with
        | (.ok a, reached) => outcome (f a) reached
        | (.error e, reached) => (.error e, reached) := by
  have hfirst : x.run.run entered = outcome x entered := rfl
  rw [outcome, ExceptT.run_bind, StateT.run_bind, hfirst]
  rcases outcome x entered with ⟨_ | a, reached⟩ <;> rfl

/-- One level deeper: an entry at the limit is refused, and any other restores the counter that the
level found. -/
theorem outcome_deeper {α : Type} (limit : Nat) (inner : Counted α) (entered : Nat) :
    outcome (deeper limit inner) entered
      = if limit ≤ entered then (.error (.tooDeep limit), entered)
        else match outcome inner (entered + 1) with
          | (_, 0) => (.error .underflow, 0)
          | (result, left + 1) => (result, left) := rfl

/-- Counted lowering that begins at a count comes to a result, or is refused for the limit, just as
lowering does, and the count is at its end what it was in the beginning. -/
def Follows {α : Type} (limit entered : Nat) (x : Counted α) (y : Lowered α) : Prop :=
  outcome x entered = (y.mapError fun _ => .tooDeep limit, entered)

namespace Follows

variable {α β : Type} {limit entered levels : Nat}

/-- A computation that lowers nothing follows its counterpart. -/
theorem pure (a : α) : Follows limit entered (pure a) (pure a) := rfl

/-- Sequencing preserves the relation when every continuation follows its own counterpart. -/
theorem bind {x : Counted α} {y : Lowered α} {f : α → Counted β} {g : α → Lowered β}
    (h : Follows limit entered x y) (hf : ∀ a, Follows limit entered (f a) (g a)) :
    Follows limit entered (x >>= f) (y >>= g) := by
  rw [Follows, outcome_bind, h]
  cases y with
  | error e => rfl
  | ok a => exact hf a

/-- A result that something is made of. -/
theorem bind_pure {x : Counted α} {y : Lowered α} {f : α → β} (h : Follows limit entered x y) :
    Follows limit entered (x >>= fun a => Pure.pure (f a)) (y >>= fun a => Pure.pure (f a)) :=
  h.bind fun _ => pure _

/-- A level of the counter follows a level of the remaining depth, which is the limit less the
levels entered. -/
theorem deeper {inner : Counted α} {f : Nat → Lowered α} (h : levels = limit - entered)
    (hinner : ∀ n, n = limit - (entered + 1) → Follows limit (entered + 1) inner (f n)) :
    Follows limit entered (deeper limit inner) (nested levels f) := by
  rw [Follows, outcome_deeper]
  cases levels with
  | zero =>
    rw [if_pos (by omega)]
    rfl
  | succ n =>
    rw [if_neg (by omega), hinner n (by omega)]
    rfl

end Follows

/-! ### Counted lowering -/

section Functions

variable (limit : Nat)

mutual

def countExpr (e : Sql.Expr) : Counted Expr :=
  deeper limit do
    match e with
    | .ident name => return .leaf .id name.value
    | .compound parts => return .ofNames parts
    | .value v => return .leaf .literal v.render
    | .nested inner => countExpr inner
    | .collate inner _ => countExpr inner
    | .binary left op right => return .binary (.ofBinary op) (← countExpr left) (← countExpr right)
    | .unary op operand => return .unary (.ofUnary op) (← countExpr operand)
    | .pattern _ _ _ operand pattern _ =>
      return .binary .like (← countExpr operand) (← countExpr pattern)
    | .inList operand _ members =>
      let left ← countExpr operand
      return { Expr.unary .isIn left with list := ← countExprs members }
    | .inQuery operand _ query =>
      let left ← countExpr operand
      return { Expr.unary .isIn left with select := some (← countQuery query) }
    | .isNull operand => return .unary .isNull (← countExpr operand)
    | .isNotNull operand => return .unary .notNull (← countExpr operand)
    | .isTruth operand negated _ =>
      return .unary (if negated then .isNot else .is) (← countExpr operand)
    | .distinct left same right =>
      return .binary (if same then .is else .isNot) (← countExpr left) (← countExpr right)
    | .between operand _ low high =>
      let left ← countExpr operand
      return { Expr.unary .between left with list := [← countExpr low, ← countExpr high] }
    | .subquery query => return { Expr.bare .select with select := some (← countQuery query) }
    | .exists _ query => return { Expr.bare .exists with select := some (← countQuery query) }
    | .call _ name _ arguments _ => countCall name.render arguments
    | .case operand branches otherwise =>
      let arms ← countBranches branches
      let last ← countExpr? otherwise
      let left ← countExpr? operand
      return { Expr.bare .case with left, list := arms ++ last.toList }
    | .cast _ operand _ => return .unary .cast (← countExpr operand)
    | .verbatim _ => return .bare .other

def countExpr? : Option Sql.Expr → Counted (Option Expr)
  | none => return none
  | some e => return some (← countExpr e)

def countExprs : List Sql.Expr → Counted (List Expr)
  | [] => return []
  | e :: rest => return (← countExpr e) :: (← countExprs rest)

def countBranches : List Sql.Branch → Counted (List Expr)
  | [] => return []
  | .mk condition result :: rest =>
    return (← countExpr condition) :: (← countExpr result)
      :: (← countBranches rest)

def countCall (name : String) : Sql.Arguments → Counted Expr
  | .absent => return .leaf .function name
  | .query query =>
    return { Expr.leaf .function name with select := some (← countQuery query) }
  | .list _ arguments _ =>
    return { Expr.leaf .function name with list := ← countArguments arguments }

def countArguments : List Sql.Argument → Counted (List Expr)
  | [] => return []
  | .positional value :: rest =>
    return (← countExpr value) :: (← countArguments rest)
  | .named _ _ value :: rest =>
    return (← countExpr value) :: (← countArguments rest)
  | .verbatim _ :: rest => countArguments rest

def countQuery (q : Sql.Query) : Counted Select :=
  deeper limit do
    match q with
    | .mk _ ctes body orderBy limit _ =>
      let select ← countSetExpr none body
      let bodies ← countCtes ctes
      let keys ← countOrderBy orderBy
      let (count, offset) ← countLimit limit
      return { select with ctes := select.ctes ++ bodies, orderBy := select.orderBy ++ keys,
                           limit := count, offset := offset }

def countCtes : List Sql.Cte → Counted (List Select)
  | [] => return []
  | .mk _ _ query _ :: rest => return (← countQuery query) :: (← countCtes rest)

def countOrderBy : Sql.OrderBy → Counted (List Expr)
  | .keys keys _ => countKeys keys

def countKeys : List Sql.OrderKey → Counted (List Expr)
  | [] => return []
  | .mk key _ :: rest => return (← countExpr key) :: (← countKeys rest)

def countLimit : Sql.Limit → Counted (Option Expr × Option Expr)
  | .clauses count offset _ => return (← countExpr? count, ← countExpr? offset)
  | .comma offset count => do
    let limit ← countExpr count
    return (some limit, some (← countExpr offset))

def countSetExpr (prior : Option Select) : Sql.SetExpr → Counted Select
  | .select select => return { ← countSelect select with prior }
  | .query query =>
    return { Select.blank with prior, sources := [.derived (← countQuery query)] }
  | .operation left _ _ right => do
    let first ← deeper limit (countSetExpr prior left)
    deeper limit (countSetExpr (some first) right)
  | .values _ _ rows => return { Select.blank with prior, projection := ← countRows rows }
  | .verbatim _ => return { Select.blank with prior }

def countRows : List (List Sql.Expr) → Counted (List Expr)
  | [] => return []
  | row :: rest => return (← countExprs row) ++ (← countRows rest)

def countSelect : Sql.Select → Counted Select
  | .mk _ _ projection _ sources _ selection groupBy _ having _ => do
    let items ← countItems projection
    let found ← countSources sources
    let filter ← countExpr? selection
    let keys ← countGroupBy groupBy
    let groupFilter ← countExpr? having
    return { Select.blank with
      projection := items, sources := found, selection := filter, groupBy := keys,
      having := groupFilter }

def countItems : List Sql.SelectItem → Counted (List Expr)
  | [] => return []
  | .expr value _ :: rest => return (← countExpr value) :: (← countItems rest)
  | .wildcard _ :: rest => return .bare .wildcard :: (← countItems rest)

def countGroupBy : Sql.GroupBy → Counted (List Expr)
  | .keys keys _ => countExprs keys
  | .all _ => return []

def countSources : List Sql.TableJoins → Counted (List Source)
  | [] => return []
  | t :: rest => return (← countTableJoins t) ++ (← countSources rest)

def countTableJoins : Sql.TableJoins → Counted (List Source)
  | .mk relation joins =>
    return (← countTableFactor relation) ++ (← countJoins joins)

def countTableFactor : Sql.TableFactor → Counted (List Source)
  | .table name _ aliasName _ =>
    return [{ Source.table name.render with aliasName := aliasName.map fun a => a.name.value }]
  | .derived _ query aliasName =>
    return [{ Source.derived (← countQuery query) with
      aliasName := aliasName.map fun a => a.name.value }]
  | .nested inner _ => deeper limit (countTableJoins inner)
  | .verbatim _ _ _ => return [.blank]

def countJoins : List Sql.Join → Counted (List Source)
  | [] => return []
  | .mk _ kind relation constraint :: rest => do
    let found ← countTableFactor relation
    let joined ← countConstraint (keepsConstraint kind) constraint found
    return joined ++ (← countJoins rest)

def countConstraint (kept : Bool) (constraint : Sql.JoinConstraint)
    (found : List Source) : Counted (List Source) :=
  match kept, constraint with
  | true, .on condition => return attach none (some (← countExpr condition)) found
  | true, .using columns => return attach (some (columns.map Sql.ObjectName.render)) none found
  | _, _ => return found

end

end Functions

section Mutual

variable {limit : Nat}

mutual

/-- Lowering an expression with the counter follows lowering it with the levels that are left. -/
theorem follows_countExpr {entered levels : Nat} (h : levels = limit - entered) (e : Sql.Expr) :
    Follows limit entered (countExpr limit e) (lowerExpr levels e) := by
  rw [countExpr.eq_def, lowerExpr]
  refine .deeper h fun n h => ?_
  cases e with
  | ident | compound | value | verbatim => exact .pure _
  | nested inner => exact follows_countExpr h inner
  | collate inner collation => exact follows_countExpr h inner
  | binary left op right =>
    exact (follows_countExpr h left).bind fun _ => (follows_countExpr h right).bind_pure
  | unary op operand => exact (follows_countExpr h operand).bind_pure
  | pattern kind negated any operand pattern escape =>
    exact (follows_countExpr h operand).bind fun _ => (follows_countExpr h pattern).bind_pure
  | inList operand negated members =>
    exact (follows_countExpr h operand).bind fun _ => (follows_countExprs h members).bind_pure
  | inQuery operand negated query =>
    exact (follows_countExpr h operand).bind fun _ => (follows_countQuery h query).bind_pure
  | isNull operand => exact (follows_countExpr h operand).bind_pure
  | isNotNull operand => exact (follows_countExpr h operand).bind_pure
  | isTruth operand negated truth => exact (follows_countExpr h operand).bind_pure
  | distinct left same right =>
    exact (follows_countExpr h left).bind fun _ => (follows_countExpr h right).bind_pure
  | between operand negated low high =>
    exact (follows_countExpr h operand).bind fun _ =>
      (follows_countExpr h low).bind fun _ => (follows_countExpr h high).bind_pure
  | subquery query => exact (follows_countQuery h query).bind_pure
  | «exists» negated query => exact (follows_countQuery h query).bind_pure
  | call braced name parameters arguments suffix => exact follows_countCall h name.render arguments
  | case operand branches otherwise =>
    exact (follows_countBranches h branches).bind fun _ =>
      (follows_countExpr? h otherwise).bind fun _ => (follows_countExpr? h operand).bind_pure
  | cast form operand type => exact (follows_countExpr h operand).bind_pure

theorem follows_countExpr? {entered levels : Nat} (h : levels = limit - entered) :
    ∀ e : Option Sql.Expr, Follows limit entered (countExpr? limit e) (lowerExpr? levels e)
  | none => .pure _
  | some e => (follows_countExpr h e).bind_pure

theorem follows_countExprs {entered levels : Nat} (h : levels = limit - entered) :
    ∀ es : List Sql.Expr, Follows limit entered (countExprs limit es) (lowerExprs levels es)
  | [] => .pure _
  | e :: rest => (follows_countExpr h e).bind fun _ => (follows_countExprs h rest).bind_pure

theorem follows_countBranches {entered levels : Nat} (h : levels = limit - entered) :
    ∀ branches : List Sql.Branch,
      Follows limit entered (countBranches limit branches) (lowerBranches levels branches)
  | [] => .pure _
  | .mk condition result :: rest =>
    (follows_countExpr h condition).bind fun _ =>
      (follows_countExpr h result).bind fun _ => (follows_countBranches h rest).bind_pure

theorem follows_countCall {entered levels : Nat} (h : levels = limit - entered) (name : String) :
    ∀ arguments : Sql.Arguments,
      Follows limit entered (countCall limit name arguments) (lowerCall levels name arguments)
  | .absent => .pure _
  | .query query => (follows_countQuery h query).bind_pure
  | .list _ arguments _ => (follows_countArguments h arguments).bind_pure

theorem follows_countArguments {entered levels : Nat} (h : levels = limit - entered) :
    ∀ arguments : List Sql.Argument,
      Follows limit entered (countArguments limit arguments) (lowerArguments levels arguments)
  | [] => .pure _
  | .positional value :: rest =>
    (follows_countExpr h value).bind fun _ => (follows_countArguments h rest).bind_pure
  | .named _ _ value :: rest =>
    (follows_countExpr h value).bind fun _ => (follows_countArguments h rest).bind_pure
  | .verbatim _ :: rest => follows_countArguments h rest

/-- Lowering a query with the counter follows lowering it with the levels that are left. -/
theorem follows_countQuery {entered levels : Nat} (h : levels = limit - entered) (q : Sql.Query) :
    Follows limit entered (countQuery limit q) (lowerQuery levels q) := by
  rw [countQuery.eq_def, lowerQuery]
  refine .deeper h fun n h => ?_
  obtain ⟨recursive, ctes, body, orderBy, limit, tail⟩ := q
  exact (follows_countSetExpr h none body).bind fun _ => (follows_countCtes h ctes).bind fun _ =>
    (follows_countOrderBy h orderBy).bind fun _ => (follows_countLimit h limit).bind_pure

theorem follows_countCtes {entered levels : Nat} (h : levels = limit - entered) :
    ∀ ctes : List Sql.Cte, Follows limit entered (countCtes limit ctes) (lowerCtes levels ctes)
  | [] => .pure _
  | .mk _ _ query _ :: rest => (follows_countQuery h query).bind fun _ =>
    (follows_countCtes h rest).bind_pure

theorem follows_countOrderBy {entered levels : Nat} (h : levels = limit - entered) :
    ∀ o : Sql.OrderBy, Follows limit entered (countOrderBy limit o) (lowerOrderBy levels o)
  | .keys keys _ => follows_countKeys h keys

theorem follows_countKeys {entered levels : Nat} (h : levels = limit - entered) :
    ∀ keys : List Sql.OrderKey, Follows limit entered (countKeys limit keys) (lowerKeys levels keys)
  | [] => .pure _
  | .mk key _ :: rest => (follows_countExpr h key).bind fun _ =>
    (follows_countKeys h rest).bind_pure

theorem follows_countLimit {entered levels : Nat} (h : levels = limit - entered) :
    ∀ rows : Sql.Limit, Follows limit entered (countLimit limit rows) (lowerLimit levels rows)
  | .clauses count offset _ =>
    (follows_countExpr? h count).bind fun _ => (follows_countExpr? h offset).bind_pure
  | .comma offset count =>
    (follows_countExpr h count).bind fun _ => (follows_countExpr h offset).bind_pure

theorem follows_countSetExpr {entered levels : Nat} (h : levels = limit - entered)
    (prior : Option Select) :
    ∀ b : Sql.SetExpr, Follows limit entered (countSetExpr limit prior b)
      (lowerSetExpr levels prior b)
  | .select select => (follows_countSelect h select).bind_pure
  | .query query => (follows_countQuery h query).bind_pure
  | .operation left _ _ right =>
    (Follows.deeper h fun _ h => follows_countSetExpr h prior left).bind fun first =>
      .deeper h fun _ h => follows_countSetExpr h (some first) right
  | .values _ _ rows => (follows_countRows h rows).bind_pure
  | .verbatim _ => .pure _

theorem follows_countRows {entered levels : Nat} (h : levels = limit - entered) :
    ∀ rows : List (List Sql.Expr), Follows limit entered (countRows limit rows)
      (lowerRows levels rows)
  | [] => .pure _
  | row :: rest => (follows_countExprs h row).bind fun _ => (follows_countRows h rest).bind_pure

/-- Lowering a select with the counter follows lowering it with the levels that are left. -/
theorem follows_countSelect {entered levels : Nat} (h : levels = limit - entered) :
    ∀ s : Sql.Select, Follows limit entered (countSelect limit s) (lowerSelect levels s)
  | .mk _ _ projection _ sources _ selection groupBy _ having _ =>
    (follows_countItems h projection).bind fun _ => (follows_countSources h sources).bind fun _ =>
      (follows_countExpr? h selection).bind fun _ => (follows_countGroupBy h groupBy).bind fun _ =>
        (follows_countExpr? h having).bind_pure

theorem follows_countItems {entered levels : Nat} (h : levels = limit - entered) :
    ∀ items : List Sql.SelectItem, Follows limit entered (countItems limit items)
      (lowerItems levels items)
  | [] => .pure _
  | .expr value _ :: rest => (follows_countExpr h value).bind fun _ =>
    (follows_countItems h rest).bind_pure
  | .wildcard _ :: rest => (follows_countItems h rest).bind_pure

theorem follows_countGroupBy {entered levels : Nat} (h : levels = limit - entered) :
    ∀ g : Sql.GroupBy, Follows limit entered (countGroupBy limit g) (lowerGroupBy levels g)
  | .keys keys _ => follows_countExprs h keys
  | .all _ => .pure _

theorem follows_countSources {entered levels : Nat} (h : levels = limit - entered) :
    ∀ tables : List Sql.TableJoins,
      Follows limit entered (countSources limit tables) (lowerSources levels tables)
  | [] => .pure _
  | t :: rest => (follows_countTableJoins h t).bind fun _ => (follows_countSources h rest).bind_pure

theorem follows_countTableJoins {entered levels : Nat} (h : levels = limit - entered) :
    ∀ t : Sql.TableJoins, Follows limit entered (countTableJoins limit t) (lowerTableJoins levels t)
  | .mk relation joins =>
    (follows_countTableFactor h relation).bind fun _ => (follows_countJoins h joins).bind_pure

theorem follows_countTableFactor {entered levels : Nat} (h : levels = limit - entered) :
    ∀ f : Sql.TableFactor, Follows limit entered (countTableFactor limit f)
      (lowerTableFactor levels f)
  | .table _ _ _ _ => .pure _
  | .derived _ query _ => (follows_countQuery h query).bind_pure
  | .nested inner _ => .deeper h fun _ h => follows_countTableJoins h inner
  | .verbatim _ _ _ => .pure _

theorem follows_countJoins {entered levels : Nat} (h : levels = limit - entered) :
    ∀ joins : List Sql.Join, Follows limit entered (countJoins limit joins)
      (lowerJoins levels joins)
  | [] => .pure _
  | .mk _ kind relation constraint :: rest =>
    (follows_countTableFactor h relation).bind fun found =>
      (follows_countConstraint h (keepsConstraint kind) constraint found).bind fun _ =>
        (follows_countJoins h rest).bind_pure

theorem follows_countConstraint {entered levels : Nat} (h : levels = limit - entered) (kept : Bool)
    (constraint : Sql.JoinConstraint) (found : List Source) :
    Follows limit entered (countConstraint limit kept constraint found)
      (lowerConstraint levels kept constraint found) := by
  cases kept with
  | false =>
    rw [countConstraint, lowerConstraint]
    · exact .pure _
    all_goals simp
  | true =>
    cases constraint with
    | on condition => exact (follows_countExpr h condition).bind_pure
    | «using» columns => exact .pure _
    | natural | none => exact .pure _

end

end Mutual

/-- Counted lowering of the queries among some statements, with one count for all of them. -/
def countStatements (limit : Nat) : List Sql.Statement → Counted (List Select)
  | [] => return []
  | .query q :: rest => return (← countQuery limit q) :: (← countStatements limit rest)
  | .verbatim _ :: rest => countStatements limit rest

/-- Lowering the statements of a text with the counter follows lowering them with the levels that
are left. -/
theorem follows_countStatements (limit entered : Nat) : ∀ statements : List Sql.Statement,
    Follows limit entered (countStatements limit statements)
      (ofStatements (limit - entered) statements)
  | [] => .pure _
  | .query q :: rest =>
    (follows_countQuery rfl q).bind fun _ => (follows_countStatements limit entered rest).bind_pure
  | .verbatim _ :: rest => follows_countStatements limit entered rest

/-! ### The count at the end -/

/-- Wherever the count begins, it is there again at the end, and no level is left that had not been
entered: there is a result, or the limit was reached. -/
def Restores {α : Type} (limit : Nat) (x : Counted α) : Prop :=
  ∀ entered, ∃ result, outcome x entered = (result, entered)
    ∧ ∀ e, result = .error e → e = .tooDeep limit

/-- Whatever follows a lowering at every counter restores the counter that it finds. -/
theorem Restores.of_follows {α : Type} {limit : Nat} {x : Counted α} (f : Nat → Lowered α)
    (h : ∀ entered, Follows limit entered x (f (limit - entered))) : Restores limit x := by
  intro entered
  refine ⟨_, h entered, fun e he => ?_⟩
  cases hf : f (limit - entered) with
  | error _ =>
    rw [hf] at he
    exact (Except.error.inj he).symm
  | ok a =>
    rw [hf] at he
    cases he

/-- Counted lowering of a node restores the count. -/
def RestoresAt (limit : Nat) (prior : Option Select) : Sql.Part → Prop
  | .expr e => Restores limit (countExpr limit e)
  | .query q => Restores limit (countQuery limit q)
  | .body b => Restores limit (countSetExpr limit prior b)
  | .select s => Restores limit (countSelect limit s)
  | .tableJoins t => Restores limit (countTableJoins limit t)
  | .factor f => Restores limit (countTableFactor limit f)
  | .join j => Restores limit (countJoins limit [j])

/-- Every node of a statement restores the counter, whichever kind it is of. -/
theorem restoresAt (limit : Nat) (prior : Option Select) : ∀ p : Sql.Part, RestoresAt limit prior p
  | .expr e => .of_follows (lowerExpr · e) fun _ => follows_countExpr rfl e
  | .query q => .of_follows (lowerQuery · q) fun _ => follows_countQuery rfl q
  | .body b => .of_follows (lowerSetExpr · prior b) fun _ => follows_countSetExpr rfl prior b
  | .select s => .of_follows (lowerSelect · s) fun _ => follows_countSelect rfl s
  | .tableJoins t => .of_follows (lowerTableJoins · t) fun _ => follows_countTableJoins rfl t
  | .factor f => .of_follows (lowerTableFactor · f) fun _ => follows_countTableFactor rfl f
  | .join j => .of_follows (lowerJoins · [j]) fun _ => follows_countJoins rfl [j]

end QueryLint.Outline
