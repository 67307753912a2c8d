import QueryLint.Proofs.Analysis.Limits
import QueryLint.Proofs.Outline.Members

/-!
# Levels of syntax trees and of outlines

Lowering and walks are both bounded, but they count levels on different trees: lowering on the
syntax tree that it goes down, a walk on the outline that came out of it. Here the two counts are
compared. A member of a compound query is lowered below the operations that it belongs to and ends
up inside the members behind it; a common table expression ends up in the last member; a list of
sources takes in what stood in parentheses.

`Sql.Part.Reaches` says how many levels lowering has entered when it gets to a node, and `Makes`
what it makes there with the levels that are left. `Fits` says of a part of an outline that
everything in it is made of nodes that lowering reaches no earlier, in levels, than a walk reaches
what is made of them. There is one lemma for each kind of node (`keeps_expr` and so on), which takes
for granted that what is made of the nodes inside fits. So no walk is cut short over what was
lowered under the same limit (`truncated_ofSelect_lowerQuery`).

Three forms are out of bounds because the outline has levels for them that the syntax tree has not:
a wildcard among the items of a `SELECT` and the members of a name with several parts are
expressions of the outline only, and an operation on the right of another one nests a chain of
members in a chain of members.
-/

namespace QueryLint

/-! ### Levels of a syntax tree -/

namespace Sql

/-- Whether a body is made of two others. -/
def SetExpr.isOperation : SetExpr → Bool
  | operation _ _ _ _ => true
  | _ => false

/-- What an expression that adds nothing to its operand is around. -/
def Expr.wrapped? : Expr → Option Expr
  | nested inner => some inner
  | collate inner _ => some inner
  | _ => none

/-- Whether an item is an expression. -/
def SelectItem.isExpr : SelectItem → Bool
  | expr _ _ => true
  | wildcard _ => false

namespace Part

/-- How many levels lowering enters at a node. -/
def levels : Part → Nat
  | expr _ => 1
  | query _ => 1
  | body (.operation _ _ _ _) => 1
  | factor (.nested _ _) => 1
  | _ => 0

/-- Lowering that begins at a node gets to another one, after it has entered so many levels. -/
inductive Reaches (top : Part) : Nat → Part → Prop
  | top : Reaches top 0 top
  | inside {d : Nat} {p q : Part} (hp : Reaches top d p)
    (hq : q ∈ p.inner Outline.keepsConstraint) :
    Reaches top (d + p.levels) q

/-- Whether the outline of a node has no levels that the node has not: a `SELECT` has only
expressions for items, a name only one part, and an operation none on its right. -/
def keepsLevels : Part → Bool
  | select (.mk _ _ projection _ _ _ _ _ _ _ _) => projection.all SelectItem.isExpr
  | expr (.compound parts) => parts.length ≤ 1
  | body (.operation _ _ _ right) => !right.isOperation
  | _ => true

end Part

end Sql

namespace Outline

open Analysis

/-! ### Selections and what stands around them -/

namespace Select

/-- A member of a compound query without the clauses that stand around the query. -/
def bare (s : Select) : Select :=
  { s with ctes := [], orderBy := [], limit := none, offset := none }

/-- The parts of a selection that come from the clauses around a query. -/
def clauses (s : Select) : List Part :=
  s.ctes.map .select
    ++ (s.orderBy ++ s.limit.toList ++ s.offset.toList).map (.expr none)

/-- The parts of a selection that come from its own clauses, read by some selection. -/
def core (s reader : Select) : List Part :=
  (s.projection ++ s.selection.toList ++ s.groupBy ++ s.having.toList).map (.expr none)
    ++ s.sources.map (.source reader)

end Select

/-- A source without what it is joined by. -/
def Source.bare (s : Source) : Source :=
  { s with columns := none, on := none }

/-- Inside a selection are the parts from the clauses around the query, the prior member, and its
own. -/
theorem mem_inner_select_iff {s : Select} {q : Part} :
    q ∈ (Part.select s).inner
      ↔ q ∈ s.clauses ∨ q ∈ s.prior.toList.map Part.select ∨ q ∈ s.core s := by
  simp only [Part.inner, Part.before, Part.behind, Select.clauses, Select.core, List.nil_append,
    List.map_append, List.mem_append]
  exact iff_of_eq (by ac_rfl)

/-- All parts inside an expression have a property exactly when its operands, its selection and its
list have it. -/
theorem forall_inner_expr_iff {motive : Part → Prop} {parent : Option Op} {e : Expr} :
    (∀ q ∈ (Part.expr parent e).inner, motive q)
      ↔ (∀ c ∈ e.left, motive (.expr (some e.op) c)) ∧ (∀ c ∈ e.right, motive (.expr (some e.op) c))
        ∧ (∀ s ∈ e.select, motive (.select s)) ∧ ∀ c ∈ e.list, motive (.expr (some e.op) c) := by
  simp only [Part.inner, Part.before, Part.behind, List.forall_mem_append, List.forall_mem_map,
    Option.mem_toList, Option.mem_def, and_assoc]

/-! ### What is made of what -/

/-- What lowering with so many levels makes of a node is some part of an outline, apart from what
nodes around it add: the clauses around a query, and what a join matches rows by. -/
def Makes (n : Nat) : Sql.Part → Part → Prop
  | .expr e, .expr _ o => lowerExpr n e = .ok o
  | .body b, .select s => b.isOperation = false ∧ lowerSetExpr n s.prior b = .ok s.bare
  | .body b, .source _ s => lowerSetExpr n none b = .ok { Select.blank with sources := [s.bare] }
  | .factor f, .source _ s => lowerTableFactor n f = .ok [s.bare]
  | _, _ => False

/-- A part of an outline at some level is made of a node that is at this level or a deeper one. -/
def IsMade (top : Sql.Part) (levels level : Nat) (o : Part) : Prop :=
  ∃ d n p, Sql.Part.Reaches top d p ∧ d + n = levels ∧ level ≤ d + p.levels ∧ Makes n p o

/-- Everything in a part of an outline, which a walk reaches at some depth, is made of a node that
is at its level or a deeper one. -/
def Fits (top : Sql.Part) (levels depth : Nat) (o : Part) : Prop :=
  ∀ v ∈ visits depth o, IsMade top levels (v.depth + 1) v.part

variable {top : Sql.Part} {levels d n k : Nat}

/-- What is made of a node is not made with fewer levels than there are at the node. -/
theorem levels_le_of_makes {p : Sql.Part} {o : Part} (h : Makes n p o) : p.levels ≤ n := by
  cases p with
  | expr e =>
    cases o with
    | expr parent o =>
      rw [Makes, lowerExpr, nested_eq_ok_iff] at h
      obtain ⟨m, rfl, -⟩ := h
      exact Nat.le_add_left 1 m
    | _ => cases h
  | body b =>
    cases b with
    | operation left op quantifier right =>
      cases o with
      | source reader s =>
        rw [Makes, lowerSetExpr, bind_eq_ok_iff] at h
        obtain ⟨first, hfirst, -⟩ := h
        obtain ⟨m, rfl, -⟩ := nested_eq_ok_iff.mp hfirst
        exact Nat.le_add_left 1 m
      | select s => cases h.1
      | expr parent o => cases h
    | _ => exact Nat.zero_le n
  | factor f =>
    cases f with
    | nested t aliasName =>
      cases o with
      | source reader s =>
        rw [Makes, lowerTableFactor, nested_eq_ok_iff] at h
        obtain ⟨m, rfl, -⟩ := h
        exact Nat.le_add_left 1 m
      | _ => cases h
    | _ => exact Nat.zero_le n
  | query q => cases h
  | _ => exact Nat.zero_le n

/-- A part fits exactly when it is made of a node and the parts inside it fit. -/
theorem fits_iff {depth : Nat} {o : Part} :
    Fits top levels depth o
      ↔ IsMade top levels (depth + 1) o ∧ ∀ q ∈ o.inner, Fits top levels (depth + q.levels) q := by
  constructor
  · intro h
    exact ⟨h _ (mem_visits_iff.mpr (.inl rfl)),
      fun q hq v hv => h v (mem_visits_iff.mpr (.inr (.inr ⟨q, hq, hv⟩)))⟩
  · rintro ⟨hmade, hinner⟩ v hv
    rcases mem_visits_iff.mp hv with rfl | rfl | ⟨q, hq, hv⟩
    · exact hmade
    · exact hmade
    · exact hinner q hq v hv

/-- A source fits exactly when it is made of a node, and what it selects from and its condition
fit. -/
theorem fits_source_iff {depth : Nat} {reader : Select} {s : Source} :
    Fits top levels depth (.source reader s)
      ↔ IsMade top levels (depth + 1) (.source reader s)
        ∧ (∀ c ∈ s.select, Fits top levels (depth + 1) (.select c))
        ∧ ∀ e ∈ s.on, Fits top levels (depth + 1) (.expr none e) := by
  rw [fits_iff]
  simp only [Part.inner, Part.before, Part.behind, List.forall_mem_append, List.forall_mem_map,
    Option.mem_toList, Option.mem_def]
  rfl

/-- A member of a compound query fits if it is made of the body that it stands for and its parts
fit. -/
theorem fits_member {s : Select} (hmade : IsMade top levels (k + 1) (.select s))
    (hprior : ∀ c ∈ s.prior, Fits top levels (k + 1) (.select c))
    (hclauses : ∀ q ∈ s.clauses, Fits top levels (k + 1) q)
    (hcore : ∀ q ∈ s.core s, Fits top levels (k + q.levels) q) : Fits top levels k (.select s) := by
  refine fits_iff.mpr ⟨hmade, fun q hq => ?_⟩
  rcases mem_inner_select_iff.mp hq with hq | hq | hq
  · have hlevels : q.levels = 1 := by
      rcases List.mem_append.mp hq with hq | hq <;> obtain ⟨_, -, rfl⟩ := List.mem_map.mp hq <;> rfl
    rw [hlevels]
    exact hclauses q hq
  · obtain ⟨c, hc, rfl⟩ := List.mem_map.mp hq
    exact hprior c (Option.mem_toList.mp hc)
  · exact hcore q hq

/-- What is made of a node fits wherever a walk has not come deeper than lowering at the node. -/
def Keeps : Sql.Part → Prop
  | .expr e => ∀ top d n k parent o, Sql.Part.Reaches top d (.expr e) → lowerExpr n e = .ok o →
    k ≤ d → Fits top (d + n) k (.expr parent o)
  | .query q => ∀ top d n k root, Sql.Part.Reaches top d (.query q) → lowerQuery n q = .ok root →
    k ≤ d → Fits top (d + n) k (.select root)
  -- A selection counts as a level where a walk enters it, but a body does not where lowering does.
  | .body b => ∀ top d n prior root, Sql.Part.Reaches top d (.body b) →
    lowerSetExpr n prior b = .ok root → (b.isOperation = true → prior = none) →
      root.bare = root ∧ ∀ k s, s.bare = root → k < d →
        (∀ c ∈ prior, Fits top (d + n) (k + 1) (.select c)) →
        (∀ q ∈ s.clauses, Fits top (d + n) (k + 1) q) → Fits top (d + n) k (.select s)
  | .select s => ∀ top d n root, Sql.Part.Reaches top d (.select s) → lowerSelect n s = .ok root →
    root.bare = root ∧ root.prior = none ∧ ∀ k reader, k < d →
      ∀ q ∈ root.core reader, Fits top (d + n) (k + q.levels) q
  | .tableJoins t => ∀ top d n found, Sql.Part.Reaches top d (.tableJoins t) →
    lowerTableJoins n t = .ok found → ∀ k reader, k < d →
      ∀ s ∈ found, Fits top (d + n) k (.source reader s)
  | .factor f => ∀ top d n found, Sql.Part.Reaches top d (.factor f) →
    lowerTableFactor n f = .ok found → ∀ k reader, k < d →
      ∀ s ∈ found, Fits top (d + n) k (.source reader s)
  | .join j => ∀ top d n found, Sql.Part.Reaches top d (.join j) → lowerJoins n [j] = .ok found →
    ∀ k reader, k < d → ∀ s ∈ found, Fits top (d + n) k (.source reader s)

/-! ### Lists -/

/-- What is in a list of results is the result of something. -/
theorem exists_of_mem_mapM {α β : Type} {f : α → Lowered β} {as : List α} {bs : List β}
    (h : as.mapM f = .ok bs) {b : β} (hb : b ∈ bs) : ∃ a ∈ as, f a = .ok b := by
  refine (exists_mem_mapM_iff (q := fun c => c = b) (fun a _ c hc => ?_) h).mp ⟨b, hb, rfl⟩
  rw [hc]
  exact ⟨congrArg Except.ok, Except.ok.inj⟩

/-- The result of an optional expression is that of the expression. -/
theorem exists_of_mem_lowerExpr? {e : Option Sql.Expr} {found : Option Expr}
    (h : lowerExpr? n e = .ok found) {o : Expr} (ho : o ∈ found) :
    ∃ c ∈ e, lowerExpr n c = .ok o := by
  cases e with
  | none =>
    obtain rfl := pure_eq_ok_iff.mp h
    cases ho
  | some e =>
    simp only [lowerExpr?, bind_eq_ok_iff, pure_eq_ok_iff] at h
    obtain ⟨o', ho', rfl⟩ := h
    cases ho
    exact ⟨e, rfl, ho'⟩

/-- If all items of a projection are expressions, lowering it is lowering each of them. -/
theorem lowerItems_eq_mapM {items : List Sql.SelectItem}
    (h : items.all Sql.SelectItem.isExpr = true) :
    lowerItems n items = (items.flatMap Sql.SelectItem.exprs).mapM (lowerExpr n) := by
  induction items with
  | nil => rfl
  | cons item rest ih =>
    rw [List.all_cons, Bool.and_eq_true] at h
    cases item with
    | expr value aliasName => simp [lowerItems, Sql.SelectItem.exprs, ih h.2]
    | wildcard text => cases h.1

/-! ### Expressions -/

/-- Lowering with so many levels makes an expression or a selection of a node. -/
def Lowers (n : Nat) : Sql.Part → Part → Prop
  | .expr e, .expr _ o => lowerExpr n e = .ok o
  | .query q, .select s => lowerQuery n q = .ok s
  | _, _ => False

/-- What is made of a node that keeps its levels fits. -/
theorem Keeps.fits_of_lowers {p : Sql.Part} {o : Part} (h : Keeps p)
    (hreach : Sql.Part.Reaches top d p) (hl : Lowers n p o) (hk : k ≤ d) :
    Fits top (d + n) k o := by
  cases p with
  | expr e =>
    cases o with
    | expr parent o => exact h top d n k parent o hreach hl hk
    | _ => cases hl
  | query q =>
    cases o with
    | select s => exact h top d n k s hreach hl hk
    | _ => cases hl
  | _ => cases o <;> cases hl

/-- What is directly inside the outline of an expression is made of what is directly inside the
expression. -/
theorem exists_lowers_of_mem_inner {e : Sql.Expr} {o : Expr} {parent : Option Op}
    (hwrapped : e.wrapped? = none) (hkeeps : (Sql.Part.expr e).keepsLevels = true)
    (hl : lowerExpr (n + 1) e = .ok o) :
    ∀ q ∈ (Part.expr parent o).inner, ∃ p ∈ Sql.Part.ofExpr e, Lowers n p q := by
  rw [forall_inner_expr_iff]
  cases e with
  | nested inner => cases hwrapped
  | collate inner collation => cases hwrapped
  | ident | value | verbatim =>
    rw [lowerExpr] at hl
    obtain rfl := pure_eq_ok_iff.mp hl
    simp [Expr.leaf, Expr.bare]
  -- A name of two parts or more is one node, but its outline is nested at every dot.
  | compound parts =>
    rw [lowerExpr] at hl
    obtain rfl := pure_eq_ok_iff.mp hl
    rcases parts with _ | ⟨name, _ | ⟨second, rest⟩⟩
    · simp [Expr.ofNames, Expr.bare]
    · simp [Expr.ofNames, Expr.leaf, Expr.bare]
    · simp [Sql.Part.keepsLevels] at hkeeps
  | unary | isNull | isNotNull | isTruth | cast =>
    rw [lowerExpr] at hl
    simp only [nested, bind_eq_ok_iff, pure_eq_ok_iff] at hl
    obtain ⟨left, hleft, rfl⟩ := hl
    simp [Expr.unary, Expr.bare, Sql.Part.ofExpr, Lowers, hleft]
  | binary | pattern | distinct =>
    rw [lowerExpr] at hl
    simp only [nested, bind_eq_ok_iff, pure_eq_ok_iff] at hl
    obtain ⟨left, hleft, right, hright, rfl⟩ := hl
    simp [Expr.binary, Expr.bare, Sql.Part.ofExpr, Lowers, hleft, hright]
  | between operand negated low high =>
    rw [lowerExpr] at hl
    simp only [nested, bind_eq_ok_iff, pure_eq_ok_iff] at hl
    obtain ⟨left, hleft, below, hbelow, above, habove, rfl⟩ := hl
    simp [Expr.unary, Expr.bare, Sql.Part.ofExpr, Lowers, hleft, hbelow, habove]
  | subquery | «exists» =>
    rw [lowerExpr] at hl
    simp only [nested, bind_eq_ok_iff, pure_eq_ok_iff] at hl
    obtain ⟨root, hroot, rfl⟩ := hl
    simp [Expr.bare, Sql.Part.ofExpr, Lowers, hroot]
  | inQuery operand negated q =>
    rw [lowerExpr] at hl
    simp only [nested, bind_eq_ok_iff, pure_eq_ok_iff] at hl
    obtain ⟨left, hleft, root, hroot, rfl⟩ := hl
    simp [Expr.unary, Expr.bare, Sql.Part.ofExpr, Lowers, hleft, hroot]
  | inList operand negated members =>
    rw [lowerExpr] at hl
    simp only [nested, bind_eq_ok_iff, pure_eq_ok_iff, lowerExprs_eq_mapM] at hl
    obtain ⟨left, hleft, found, hfound, rfl⟩ := hl
    refine ⟨?_, ?_, ?_, fun c hc => ?_⟩
    · simp [Expr.unary, Expr.bare, Sql.Part.ofExpr, Lowers, hleft]
    · simp [Expr.unary, Expr.bare]
    · simp [Expr.unary, Expr.bare]
    · obtain ⟨e, he, hlower⟩ := exists_of_mem_mapM hfound hc
      exact ⟨.expr e, List.mem_cons_of_mem _ (List.mem_map_of_mem he), hlower⟩
  | call braced name parameters arguments suffix =>
    rw [lowerExpr] at hl
    simp only [nested] at hl
    cases arguments with
    | absent =>
      obtain rfl := pure_eq_ok_iff.mp hl
      simp [Expr.leaf, Expr.bare]
    | query q =>
      simp only [lowerCall, bind_eq_ok_iff, pure_eq_ok_iff] at hl
      obtain ⟨root, hroot, rfl⟩ := hl
      simp [Expr.leaf, Expr.bare, Sql.Part.ofExpr, Sql.Part.ofArguments, Lowers, hroot]
    | list quantifier arguments clauses =>
      simp only [lowerCall, bind_eq_ok_iff, pure_eq_ok_iff, lowerArguments_eq_mapM] at hl
      obtain ⟨found, hfound, rfl⟩ := hl
      refine ⟨?_, ?_, ?_, fun c hc => ?_⟩
      · simp [Expr.leaf, Expr.bare]
      · simp [Expr.leaf, Expr.bare]
      · simp [Expr.leaf, Expr.bare]
      · obtain ⟨e, he, hlower⟩ := exists_of_mem_mapM hfound hc
        exact ⟨.expr e, List.mem_map_of_mem he, hlower⟩
  | case operand branches otherwise =>
    rw [lowerExpr] at hl
    simp only [nested, bind_eq_ok_iff, pure_eq_ok_iff, lowerBranches_eq_mapM] at hl
    obtain ⟨arms, harms, last, hlast, left, hleft, rfl⟩ := hl
    simp only [Sql.Part.ofExpr, List.mem_append]
    refine ⟨fun c hc => ?_, ?_, ?_, fun c hc => ?_⟩
    · obtain ⟨e, he, hlower⟩ := exists_of_mem_lowerExpr? hleft hc
      exact ⟨.expr e, .inl (.inl (List.mem_map_of_mem (Option.mem_toList.mpr he))), hlower⟩
    · simp [Expr.bare]
    · simp [Expr.bare]
    · rcases hc with hc | hc
      · obtain ⟨e, he, hlower⟩ := exists_of_mem_mapM harms hc
        exact ⟨.expr e, .inl (.inr (List.mem_map_of_mem he)), hlower⟩
      · obtain ⟨e, he, hlower⟩ := exists_of_mem_lowerExpr? hlast (Option.mem_toList.mp hc)
        exact ⟨.expr e, .inr (List.mem_map_of_mem (Option.mem_toList.mpr he)), hlower⟩

/-- An expression keeps its levels if all its children do. -/
theorem keeps_expr {e : Sql.Expr} (hkeeps : (Sql.Part.expr e).keepsLevels = true)
    (h : ∀ p ∈ Sql.Part.ofExpr e, Keeps p) : Keeps (.expr e) := by
  intro top d n k parent o hreach hl hk
  cases n with
  | zero =>
    rw [lowerExpr_zero] at hl
    cases hl
  | succ n =>
    have hlevels : d + (n + 1) = d + 1 + n := by omega
    have hinside : ∀ p ∈ Sql.Part.ofExpr e, Sql.Part.Reaches top (d + 1) p :=
      fun p hp => hreach.inside hp
    cases hwrapped : e.wrapped? with
    | none =>
      refine fits_iff.mpr ⟨⟨d, n + 1, .expr e, hreach, rfl, Nat.succ_le_succ hk, hl⟩,
        fun q hq => ?_⟩
      obtain ⟨p, hp, hlowers⟩ := exists_lowers_of_mem_inner hwrapped hkeeps hl q hq
      rw [hlevels]
      refine (h p hp).fits_of_lowers (hinside p hp) hlowers ?_
      have hq1 : q.levels = 1 := by
        cases q with
        | source reader s => cases p <;> cases hlowers
        | _ => rfl
      omega
    | some inner =>
      have hmem : Sql.Part.expr inner ∈ Sql.Part.ofExpr e := by
        cases e <;> cases hwrapped <;> exact List.mem_cons_self
      have hlower : lowerExpr n inner = .ok o := by
        cases e <;> cases hwrapped <;> rw [lowerExpr] at hl <;> exact hl
      rw [hlevels]
      exact h _ hmem top (d + 1) n k parent o (hinside _ hmem) hlower (by omega)

/-! ### Queries and bodies -/

/-- Each result of a LIMIT is that of one of its expressions. -/
theorem exists_of_mem_lowerLimit {limit : Sql.Limit} {count offset : Option Expr}
    (h : lowerLimit n limit = .ok (count, offset)) {o : Expr}
    (ho : o ∈ count.toList ++ offset.toList) : ∃ e ∈ limit.exprs, lowerExpr n e = .ok o := by
  cases limit with
  | clauses first second tail =>
    simp only [lowerLimit, bind_eq_ok_iff, pure_eq_ok_iff, Prod.mk.injEq] at h
    obtain ⟨_, hfirst, _, hsecond, rfl, rfl⟩ := h
    rcases List.mem_append.mp ho with ho | ho
    · obtain ⟨e, he, hlower⟩ := exists_of_mem_lowerExpr? hfirst (Option.mem_toList.mp ho)
      exact ⟨e, List.mem_append_left _ (Option.mem_toList.mpr he), hlower⟩
    · obtain ⟨e, he, hlower⟩ := exists_of_mem_lowerExpr? hsecond (Option.mem_toList.mp ho)
      exact ⟨e, List.mem_append_right _ (Option.mem_toList.mpr he), hlower⟩
  | comma first second =>
    simp only [lowerLimit, bind_eq_ok_iff, pure_eq_ok_iff, Prod.mk.injEq] at h
    obtain ⟨o₁, hsecond, o₂, hfirst, rfl, rfl⟩ := h
    simp only [Option.toList_some, List.cons_append, List.nil_append, List.mem_cons,
      List.not_mem_nil, or_false] at ho
    rcases ho with rfl | rfl
    · exact ⟨second, List.mem_cons_of_mem _ List.mem_cons_self, hsecond⟩
    · exact ⟨first, List.mem_cons_self, hfirst⟩

/-- A query keeps its levels if all its children do. -/
theorem keeps_query {q : Sql.Query} (h : ∀ p ∈ Sql.Part.ofQuery q, Keeps p) : Keeps (.query q) := by
  intro top d n k root hreach hl hk
  have hinside : ∀ p ∈ Sql.Part.ofQuery q, Sql.Part.Reaches top (d + 1) p :=
    fun p hp => hreach.inside hp
  obtain ⟨recursive, ctes, body, orderBy, limit, tail⟩ := q
  rw [lowerQuery, nested_eq_ok_iff] at hl
  obtain ⟨n, rfl, hl⟩ := hl
  simp only [bind_eq_ok_iff, pure_eq_ok_iff, lowerCtes_eq_mapM, lowerOrderBy_eq_mapM] at hl
  obtain ⟨select, hselect, bodies, hbodies, keys, hkeys, ⟨count, offset⟩, hlimit, rfl⟩ := hl
  have hlevels : d + (n + 1) = d + 1 + n := by omega
  -- Below the query lowering is one level deeper, and so is the walk below the selection.
  have hfits : ∀ p ∈ Sql.Part.ofQuery (.mk recursive ctes body orderBy limit tail), ∀ q,
      Lowers n p q → Fits top (d + 1 + n) (k + 1) q :=
    fun p hp q hq => (h p hp).fits_of_lowers (hinside p hp) hq (Nat.succ_le_succ hk)
  have hmem :
      Sql.Part.body body ∈ Sql.Part.ofQuery (.mk recursive ctes body orderBy limit tail) := by
    simp [Sql.Part.ofQuery]
  obtain ⟨hbare, hmember⟩ :=
    h _ hmem top (d + 1) n none select (hinside _ hmem) hselect fun _ => rfl
  have hctes : select.ctes = [] := congrArg Select.ctes hbare.symm
  have horderBy : select.orderBy = [] := congrArg Select.orderBy hbare.symm
  rw [hlevels]
  refine hmember k _ hbare (Nat.lt_succ_of_le hk) (fun c hc => by cases hc) fun q hq => ?_
  rw [Select.clauses, hctes, horderBy, List.nil_append, List.nil_append, List.append_assoc] at hq
  rcases List.mem_append.mp hq with hq | hq
  · obtain ⟨c, hc, rfl⟩ := List.mem_map.mp hq
    obtain ⟨inner, hinner, hlower⟩ := exists_of_mem_mapM hbodies hc
    obtain ⟨cte, hcte, rfl⟩ := List.mem_map.mp hinner
    refine hfits (.query cte.query) ?_ _ hlower
    simp only [Sql.Part.ofQuery, List.mem_append, List.mem_cons, List.mem_map]
    exact .inl (.inl (.inr ⟨cte, hcte, rfl⟩))
  · obtain ⟨o, ho, rfl⟩ := List.mem_map.mp hq
    have hexpr : ∃ e ∈ orderBy.exprs ++ limit.exprs, lowerExpr n e = .ok o := by
      rcases List.mem_append.mp ho with ho | ho
      · obtain ⟨e, he, hlower⟩ := exists_of_mem_mapM hkeys ho
        exact ⟨e, List.mem_append_left _ he, hlower⟩
      · obtain ⟨e, he, hlower⟩ := exists_of_mem_lowerLimit hlimit ho
        exact ⟨e, List.mem_append_right _ he, hlower⟩
    obtain ⟨e, he, hlower⟩ := hexpr
    refine hfits (.expr e) ?_ _ hlower
    rw [Sql.Part.ofQuery, List.append_assoc, ← List.map_append]
    exact List.mem_append_right _ (List.mem_map_of_mem he)

/-- A body that is no operation stands for one member of a compound query, which fits if its own
clauses do. -/
theorem keeps_of_core {b : Sql.SetExpr} (hb : b.isOperation = false)
    (hreach : Sql.Part.Reaches top d (.body b)) {prior : Option Select} {root : Select}
    (hl : lowerSetExpr n prior b = .ok root) (hbare : root.bare = root)
    (hprior : root.prior = prior)
    (hcore : ∀ k reader, k < d → ∀ q ∈ root.core reader, Fits top (d + n) (k + q.levels) q) :
    root.bare = root ∧ ∀ k s, s.bare = root → k < d →
      (∀ c ∈ prior, Fits top (d + n) (k + 1) (.select c)) →
      (∀ q ∈ s.clauses, Fits top (d + n) (k + 1) q) → Fits top (d + n) k (.select s) := by
  refine ⟨hbare, fun k s hs hk hfits hclauses => ?_⟩
  have hprior : s.prior = prior := (congrArg Select.prior hs).trans hprior
  have hmade : Makes n (.body b) (.select s) := by
    rw [Makes, hprior, hs]
    exact ⟨hb, hl⟩
  refine fits_member ⟨d, n, .body b, hreach, rfl, ?_, hmade⟩ ?_ hclauses fun q hq => ?_
  · exact Nat.le_trans hk (Nat.le_add_right d _)
  · rw [hprior]
    exact hfits
  · have hsame : s.core s = root.core s := congrArg (fun t => t.core s) hs
    exact hcore k s hk q (hsame ▸ hq)

/-- The body of a query keeps its levels if all its children do. -/
theorem keeps_body {b : Sql.SetExpr} (hkeeps : (Sql.Part.body b).keepsLevels = true)
    (h : ∀ p ∈ Sql.Part.ofBody b, Keeps p) : Keeps (.body b) := by
  intro top d n prior root hreach hl hfirst
  have hinside : ∀ p ∈ Sql.Part.ofBody b, Sql.Part.Reaches top (d + (Sql.Part.body b).levels) p :=
    fun p hp => hreach.inside hp
  cases b with
  | select s =>
    have hlower := hl
    simp only [lowerSetExpr, bind_eq_ok_iff, pure_eq_ok_iff] at hl
    obtain ⟨select, hselect, rfl⟩ := hl
    obtain ⟨hbare, -, hcore⟩ :=
      h (.select s) List.mem_cons_self top d n select (hinside _ List.mem_cons_self) hselect
    refine keeps_of_core rfl hreach hlower ?_ rfl hcore
    exact congrArg (fun s => ({ s with prior } : Select)) hbare
  | query q =>
    have hlower := hl
    simp only [lowerSetExpr, bind_eq_ok_iff, pure_eq_ok_iff] at hl
    obtain ⟨inside, hselect, rfl⟩ := hl
    refine keeps_of_core rfl hreach hlower rfl rfl fun k reader hk p hp => ?_
    obtain rfl := List.mem_singleton.mp hp
    have hmade : Makes n (.body (.query q)) (.source reader (.derived inside)) := by
      rw [Makes, lowerSetExpr, hselect]
      rfl
    refine fits_source_iff.mpr ⟨⟨d, n, _, hreach, rfl, hk, hmade⟩, ?_, fun e he => by cases he⟩
    intro c hc
    cases hc
    exact h (.query q) List.mem_cons_self top d n (k + 1) inside (hinside _ List.mem_cons_self)
      hselect hk
  | operation left op quantifier right =>
    simp only [lowerSetExpr, bind_eq_ok_iff, nested_eq_ok_iff] at hl
    obtain ⟨first, ⟨n, rfl, hleft⟩, _, hn, hright⟩ := hl
    obtain rfl := Nat.succ.inj hn
    obtain rfl := hfirst rfl
    -- Lowering enters a level for the operation, so both sides begin one deeper.
    have hlevels : d + (n + 1) = d + 1 + n := by omega
    have hleftIn : Sql.Part.body left ∈ Sql.Part.ofBody (.operation left op quantifier right) :=
      List.mem_cons_self
    have hrightIn : Sql.Part.body right ∈ Sql.Part.ofBody (.operation left op quantifier right) :=
      List.mem_cons_of_mem _ List.mem_cons_self
    -- Of two operations only the left one nests: on the right there is a single member.
    have hsingle : right.isOperation = false := by
      simpa [Sql.Part.keepsLevels] using hkeeps
    obtain ⟨hbareFirst, hfitsFirst⟩ :=
      h _ hleftIn top (d + 1) n none first (hinside _ hleftIn) hleft fun _ => rfl
    obtain ⟨hbare, hfits⟩ :=
      h _ hrightIn top (d + 1) n (some first) root (hinside _ hrightIn) hright
        fun hop => absurd hop (by simp [hsingle])
    rw [hlevels]
    refine ⟨hbare, fun k s hs hk _ hclauses => hfits k s hs (Nat.lt_succ_of_lt hk) ?_ hclauses⟩
    -- The members before the last one are one level deeper on either side.
    intro c hc
    cases hc
    refine hfitsFirst (k + 1) first hbareFirst (Nat.succ_lt_succ hk) (fun c hc => by cases hc) ?_
    rw [← hbareFirst]
    intro q hq
    cases hq
  | values keyword row rows =>
    have hlower := hl
    simp only [lowerSetExpr, bind_eq_ok_iff, pure_eq_ok_iff, lowerRows_eq_mapM] at hl
    obtain ⟨found, hfound, rfl⟩ := hl
    refine keeps_of_core rfl hreach hlower rfl rfl fun k reader hk p hp => ?_
    have hp : p ∈ found.map (Part.expr none) := by
      simpa [Select.core, Select.blank, default] using hp
    obtain ⟨o, ho, rfl⟩ := List.mem_map.mp hp
    obtain ⟨e, he, hlower⟩ := exists_of_mem_mapM hfound ho
    have hmem : Sql.Part.expr e ∈ Sql.Part.ofBody (.values keyword row rows) :=
      List.mem_map_of_mem he
    exact h _ hmem top d n (k + 1) none o (hinside _ hmem) hlower hk
  | verbatim text =>
    obtain rfl := pure_eq_ok_iff.mp hl
    exact keeps_of_core rfl hreach hl rfl rfl fun k reader hk p hp => by cases hp

/-! ### Selections and their sources -/

/-- A select keeps its levels if all its children do. -/
theorem keeps_select {s : Sql.Select} (hkeeps : (Sql.Part.select s).keepsLevels = true)
    (h : ∀ p ∈ Sql.Part.ofSelect s, Keeps p) : Keeps (.select s) := by
  intro top d n root hreach hl
  have hinside : ∀ p ∈ Sql.Part.ofSelect s, Sql.Part.Reaches top d p := fun p hp => hreach.inside hp
  obtain ⟨form, head, projection, into, sources, beforeWhere, selection, groupBy,
    beforeHaving, having, tail⟩ := s
  simp only [lowerSelect, bind_eq_ok_iff, pure_eq_ok_iff, lowerSources_eq_mapM,
    lowerGroupBy_eq_mapM, lowerItems_eq_mapM hkeeps] at hl
  obtain ⟨items, hitems, found, hfound, filter, hfilter, keys, hkeys, groupFilter, hgroupFilter,
    rfl⟩ := hl
  refine ⟨rfl, rfl, fun k reader hk q hq => ?_⟩
  -- Inside are the expressions of the clauses and then the sources.
  rcases List.mem_append.mp hq with hq | hq
  · obtain ⟨o, ho, rfl⟩ := List.mem_map.mp hq
    have hexpr : ∃ e, Sql.Part.expr e ∈ Sql.Part.ofSelect (.mk form head projection into sources
        beforeWhere selection groupBy beforeHaving having tail) ∧ lowerExpr n e = .ok o := by
      simp only [List.mem_append, Option.mem_toList] at ho
      simp only [Sql.Part.ofSelect, List.mem_append, List.mem_map, Option.mem_toList,
        Sql.Part.expr.injEq, exists_eq_right, reduceCtorEq, and_false, exists_false, or_false]
      rcases ho with ((ho | ho) | ho) | ho
      · obtain ⟨e, he, hlower⟩ := exists_of_mem_mapM hitems ho
        exact ⟨e, .inl (.inl (.inl he)), hlower⟩
      · obtain ⟨e, he, hlower⟩ := exists_of_mem_lowerExpr? hfilter ho
        exact ⟨e, .inl (.inl (.inr he)), hlower⟩
      · obtain ⟨e, he, hlower⟩ := exists_of_mem_mapM hkeys ho
        exact ⟨e, .inl (.inr he), hlower⟩
      · obtain ⟨e, he, hlower⟩ := exists_of_mem_lowerExpr? hgroupFilter ho
        exact ⟨e, .inr he, hlower⟩
    obtain ⟨e, he, hlower⟩ := hexpr
    exact h _ he top d n (k + 1) none o (hinside _ he) hlower hk
  · obtain ⟨s, hs, rfl⟩ := List.mem_map.mp hq
    obtain ⟨lists, hlists, rfl⟩ := map_eq_ok_iff.mp hfound
    obtain ⟨list, hlist, hs⟩ := List.mem_flatten.mp hs
    obtain ⟨t, ht, hlower⟩ := exists_of_mem_mapM hlists hlist
    have hmem : Sql.Part.tableJoins t ∈ Sql.Part.ofSelect (.mk form head projection into sources
        beforeWhere selection groupBy beforeHaving having tail) := by
      simp [Sql.Part.ofSelect, ht]
    exact h _ hmem top d n list (hinside _ hmem) hlower k reader hk s hs

/-- A relation with its joins keeps its levels if all its children do. -/
theorem keeps_tableJoins {t : Sql.TableJoins} (h : ∀ p ∈ Sql.Part.ofTableJoins t, Keeps p) :
    Keeps (.tableJoins t) := by
  intro top d n found hreach hl k reader hk s hs
  have hinside : ∀ p ∈ Sql.Part.ofTableJoins t, Sql.Part.Reaches top d p :=
    fun p hp => hreach.inside hp
  obtain ⟨relation, joins⟩ := t
  rw [lowerTableJoins, lowerJoins_eq_mapM] at hl
  simp only [bind_eq_ok_iff, pure_eq_ok_iff] at hl
  obtain ⟨opening, hopening, joined, hjoined, rfl⟩ := hl
  rcases List.mem_append.mp hs with hs | hs
  · exact h _ List.mem_cons_self top d n opening
      (hinside _ List.mem_cons_self) hopening k reader hk s hs
  · obtain ⟨lists, hlists, rfl⟩ := map_eq_ok_iff.mp hjoined
    obtain ⟨list, hlist, hs⟩ := List.mem_flatten.mp hs
    obtain ⟨j, hj, hlower⟩ := exists_of_mem_mapM hlists hlist
    have hmem : Sql.Part.join j ∈ Sql.Part.ofTableJoins (.mk relation joins) :=
      List.mem_cons_of_mem _ (List.mem_map_of_mem hj)
    exact h _ hmem top d n list (hinside _ hmem) hlower k reader hk s hs

/-- A table factor keeps its levels if all its children do. -/
theorem keeps_factor {f : Sql.TableFactor} (h : ∀ p ∈ Sql.Part.ofFactor f, Keeps p) :
    Keeps (.factor f) := by
  intro top d n found hreach hl k reader hk s hs
  cases f with
  | table name beforeAlias aliasName behindAlias =>
    have hlower := hl
    obtain rfl := pure_eq_ok_iff.mp hl
    obtain rfl := List.mem_singleton.mp hs
    refine fits_source_iff.mpr ⟨⟨d, n, _, hreach, rfl, hk, hlower⟩, ?_, ?_⟩
    · intro c hc
      cases hc
    · intro e he
      cases he
  | verbatim beforeAlias aliasName behindAlias =>
    have hlower := hl
    obtain rfl := pure_eq_ok_iff.mp hl
    obtain rfl := List.mem_singleton.mp hs
    refine fits_source_iff.mpr ⟨⟨d, n, _, hreach, rfl, hk, hlower⟩, ?_, ?_⟩
    · intro c hc
      cases hc
    · intro e he
      cases he
  | derived lateral q aliasName =>
    have hlower := hl
    simp only [lowerTableFactor, bind_eq_ok_iff, pure_eq_ok_iff] at hl
    obtain ⟨root, hroot, rfl⟩ := hl
    obtain rfl := List.mem_singleton.mp hs
    refine fits_source_iff.mpr ⟨⟨d, n, _, hreach, rfl, hk, hlower⟩, ?_, ?_⟩
    · intro c hc
      cases hc
      exact h (.query q) List.mem_cons_self top d n (k + 1) root (hreach.inside List.mem_cons_self)
        hroot hk
    · intro e he
      cases he
  | nested t aliasName =>
    simp only [lowerTableFactor, nested_eq_ok_iff] at hl
    obtain ⟨n, rfl, hfound⟩ := hl
    -- Parentheses enter a level here, but add none to the outline.
    have hlevels : d + (n + 1) = d + 1 + n := by omega
    rw [hlevels]
    exact h (.tableJoins t) List.mem_cons_self top (d + 1) n found
      (hreach.inside List.mem_cons_self)
      hfound k reader (Nat.lt_succ_of_lt hk) s hs

/-- What a source is joined by makes no difference to what it is made of. -/
theorem makes_source_congr {p : Sql.Part} {reader : Select} {s s' : Source} (h : s.bare = s'.bare) :
    Makes n p (.source reader s) ↔ Makes n p (.source reader s') := by
  cases p <;> simp only [Makes, h]

/-- Sources fit also with what a join matches rows by, if its condition fits. -/
theorem fits_attach {columns : Option (List String)} {on : Option Expr} {reader : Select}
    {found : List Source} (h : ∀ s ∈ found, Fits top levels k (.source reader s))
    (hon : ∀ e ∈ on, Fits top levels (k + 1) (.expr none e)) :
    ∀ s ∈ attach columns on found, Fits top levels k (.source reader s) := by
  cases found with
  | nil => exact h
  | cons first rest =>
    obtain ⟨hfirst, hrest⟩ := List.forall_mem_cons.mp h
    obtain ⟨⟨d, n, p, hreach, hn, hlevel, hmakes⟩, hselect, hkept⟩ := fits_source_iff.mp hfirst
    refine List.forall_mem_cons.mpr ⟨?_, hrest⟩
    refine fits_source_iff.mpr ⟨⟨d, n, p, hreach, hn, hlevel, ?_⟩, hselect, ?_⟩
    · refine (makes_source_congr ?_).mp hmakes
      rfl
    · cases on with
      | none => exact hkept
      | some e => exact hon

/-- A join keeps its levels if all its children do. -/
theorem keeps_join {j : Sql.Join} (h : ∀ p ∈ Sql.Part.ofJoin Sql.everyJoin j, Keeps p) :
    Keeps (.join j) := by
  intro top d n found hreach hl k reader hk
  have hinside : ∀ p ∈ Sql.Part.ofJoin keepsConstraint j, Sql.Part.Reaches top d p :=
    fun p hp => hreach.inside hp
  obtain ⟨isGlobal, kind, relation, constraint⟩ := j
  simp only [lowerJoins, bind_eq_ok_iff, pure_eq_ok_iff] at hl
  obtain ⟨opening, hopening, joined, hjoined, _, rfl, rfl⟩ := hl
  rw [List.append_nil]
  have hrelation : ∀ s ∈ opening, Fits top (d + n) k (.source reader s) :=
    h _ List.mem_cons_self top d n opening (hinside _ List.mem_cons_self) hopening k reader hk
  have hcondition : keepsConstraint kind = true → ∀ e ∈ constraint.exprs, ∀ o,
      lowerExpr n e = .ok o → Fits top (d + n) (k + 1) (.expr none o) := by
    intro hkept e he o ho
    have hmem : ∀ keeps, keeps kind = true →
        Sql.Part.expr e ∈ Sql.Part.ofJoin keeps (.mk isGlobal kind relation constraint) := by
      intro keeps hkeeps
      rw [Sql.Part.ofJoin, if_pos hkeeps]
      exact List.mem_cons_of_mem _ (List.mem_map_of_mem he)
    exact h _ (hmem _ rfl) top d n (k + 1) none o (hinside _ (hmem _ hkept)) ho hk
  -- A condition that is dropped leaves nothing that would have to fit.
  cases hkept : keepsConstraint kind with
  | false =>
    rw [hkept] at hjoined
    have hsame : (pure opening : Lowered _) = .ok joined := by
      cases constraint <;> simpa only [lowerConstraint] using hjoined
    obtain rfl := pure_eq_ok_iff.mp hsame
    exact hrelation
  | true =>
    rw [hkept] at hjoined
    cases constraint with
    | on condition =>
      simp only [lowerConstraint, bind_eq_ok_iff, pure_eq_ok_iff] at hjoined
      obtain ⟨on, hlower, rfl⟩ := hjoined
      refine fits_attach hrelation fun e he => ?_
      cases he
      exact hcondition hkept condition List.mem_cons_self on hlower
    | «using» columns =>
      simp only [lowerConstraint] at hjoined
      obtain rfl := pure_eq_ok_iff.mp hjoined
      exact fits_attach hrelation fun e he => by cases he
    | natural | none =>
      simp only [lowerConstraint] at hjoined
      obtain rfl := pure_eq_ok_iff.mp hjoined
      exact hrelation

/-! ### Whole queries -/

/-- By induction over the tree: a node keeps its levels if every node in it has no others than its
outline. -/
theorem keeps (p : Sql.Part) (hkeeps : ∀ q ∈ p.nodes, q.keepsLevels = true) : Keeps p := by
  induction p using Sql.Part.induct Sql.everyJoin with
  | h p ih =>
    rw [Sql.Part.nodes_eq, List.forall_mem_cons] at hkeeps
    have hinner : ∀ q ∈ p.inner Sql.everyJoin, Keeps q := fun q hq =>
      ih q hq fun r hr => hkeeps.2 r (List.mem_flatMap.mpr ⟨q, hq, hr⟩)
    cases p with
    | expr e => exact keeps_expr hkeeps.1 hinner
    | query q => exact keeps_query hinner
    | body b => exact keeps_body hkeeps.1 hinner
    | select s => exact keeps_select hkeeps.1 hinner
    | tableJoins t => exact keeps_tableJoins hinner
    | factor f => exact keeps_factor hinner
    | join j => exact keeps_join hinner

end Outline

namespace Analysis

open Outline

/-- A walk over the outline of a query is not cut short if its limit is the one under which the
query was lowered, unless some `SELECT` in the query has a wildcard among its items, some name has
more than one part, or some operation has an operation on its right. More than this, whatever a walk
stops at was made of a node which lowering got to with `n` of the levels left after it had entered
the other `d`, and the walk is no deeper there than lowering was once it had entered the node. -/
theorem truncated_ofSelect_lowerQuery {levels : Nat} {q : Sql.Query} {root : Select}
    (hlower : lowerQuery levels q = .ok root)
    (hkeeps : ∀ p ∈ (Sql.Part.query q).nodes, p.keepsLevels = true) :
    (ofSelect levels root).truncated = false
      ∧ ∀ v ∈ visits 0 (.select root), ∃ d n p, Sql.Part.Reaches (.query q) d p ∧ d + n = levels
        ∧ Makes n p v.part ∧ v.depth + 1 ≤ d + p.levels ∧ d + p.levels ≤ levels := by
  have hfits : Fits (.query q) (0 + levels) 0 (.select root) :=
    keeps (.query q) hkeeps (.query q) 0 levels 0 root .top hlower (Nat.le_refl 0)
  rw [Nat.zero_add] at hfits
  have hmade : ∀ v ∈ visits 0 (.select root), ∃ d n p, Sql.Part.Reaches (.query q) d p
      ∧ d + n = levels ∧ Makes n p v.part ∧ v.depth + 1 ≤ d + p.levels ∧ d + p.levels ≤ levels := by
    intro v hv
    obtain ⟨d, n, p, hreach, hn, hlevel, hmakes⟩ := hfits v hv
    have hleft := levels_le_of_makes hmakes
    exact ⟨d, n, p, hreach, hn, hmakes, hlevel, by omega⟩
  refine ⟨?_, hmade⟩
  rw [← Bool.not_eq_true, truncated_ofSelect_iff, Nat.not_lt]
  obtain ⟨v, hv, hdepth⟩ := exists_mem_visits_depth_eq 0 (.select root)
  obtain ⟨d, n, p, -, -, -, hlevel, hlevels⟩ := hmade v hv
  have hroot : (Part.select root).levels = 1 := rfl
  omega

/-- Three members in a row, the first of which is four levels deep in the syntax tree, below two
operations, and four levels deep in the outline, inside two members. -/
theorem truncated_ofSelect_lowerQuery_union :
    let member (column : String) : Sql.SetExpr :=
      .select (.mk .standard "" [.expr (.ident (.plain column)) none] ""
        [.mk (.table ⟨[.plain "t"]⟩ "" none "") []] "" none (.keys [] "") "" none "")
    let q : Sql.Query := .mk false []
      (.operation (.operation (member "a") .union "" (member "b")) .union "" (member "c"))
      (.keys [] "") (.clauses none none "") ""
    ∃ root, lowerQuery 4 q = .ok root
      ∧ (∀ p ∈ (Sql.Part.query q).nodes, p.keepsLevels = true)
      ∧ (ofSelect 4 root).truncated = false
      ∧ (ofSelect 3 root).truncated = true := by
  intro member q
  obtain ⟨root, hlower, hshort⟩ :
      ∃ root, lowerQuery 4 q = .ok root ∧ (ofSelect 3 root).truncated = true :=
    ⟨_, rfl, by decide_cbv⟩
  have hkeeps : ∀ p ∈ (Sql.Part.query q).nodes, p.keepsLevels = true :=
    List.all_eq_true.mp (by decide_cbv)
  exact ⟨root, hlower, hkeeps, (truncated_ofSelect_lowerQuery hlower hkeeps).1, hshort⟩

end Analysis

end QueryLint
