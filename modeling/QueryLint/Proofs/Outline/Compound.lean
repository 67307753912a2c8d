import QueryLint.Proofs.Outline.Levels
import QueryLint.Proofs.Outline.Limits

/-!
# Compound queries

Set operations may combine bodies in any shape, and lowering makes a chain of them. The members of
the chain (`Select.members`), from the oldest on, are the outlines of the bodies at the leaves of
the tree (`SetExpr.leaves`) from left to right: each operation puts the members of its right side
behind those of its left side, whatever stands before them (`members_lowerSetExpr`). What stands
around a query belongs to the last member (`members_lowerQuery`).
-/

namespace QueryLint

/-! ### Leaves -/

namespace Sql.SetExpr

/-- The bodies that set operations combine, from left to right. -/
def leaves : SetExpr → List SetExpr
  | operation left _ _ right => left.leaves ++ right.leaves
  | b => [b]

/-- A body that is no set operation is its only leaf. -/
theorem leaves_of_not_isOperation {b : SetExpr} (h : b.isOperation = false) : b.leaves = [b] := by
  cases b with
  | operation => cases h
  | select | query | values | verbatim => rfl

/-- What holds of all bodies that combine no others, and of an operation if it holds of both its
sides, holds of all bodies. -/
theorem induct_sides {motive : SetExpr → Prop} (leaf : ∀ b, b.isOperation = false → motive b)
    (operation : ∀ left op quantifier right, motive left → motive right →
      motive (.operation left op quantifier right)) : ∀ b, motive b
  | .operation left op quantifier right =>
    operation left op quantifier right (induct_sides leaf operation left)
      (induct_sides leaf operation right)
  | .select s => leaf (.select s) rfl
  | .query q => leaf (.query q) rfl
  | .values keyword row rows => leaf (.values keyword row rows) rfl
  | .verbatim text => leaf (.verbatim text) rfl

end Sql.SetExpr

namespace Outline

/-! ### Members -/

namespace Select

/-- The members of a compound query from the oldest on, each without those before it. -/
def members : Select → List Select
  | ⟨ctes, prior, projection, sources, selection, groupBy, orderBy, having, limit, offset⟩ =>
    let before := match prior with
      | some s => s.members
      | none => []
    before ++ [⟨ctes, none, projection, sources, selection, groupBy, orderBy, having,
      limit, offset⟩]

/-- The members of a selection are those before it and the selection itself. -/
theorem members_eq (s : Select) :
    s.members = s.prior.toList.flatMap members ++ [{ s with prior := none }] := by
  obtain ⟨ctes, _ | prior, projection, sources, selection, groupBy, orderBy, having, limit,
    offset⟩ := s
  · simp [members]
  · simp [members]

end Select

/-- The outline of a body that combines no others: of a `SELECT`, of a query in parentheses as a
derived table, or of rows of values as a projection. -/
def lowerLeaf (levels : Nat) : Sql.SetExpr → Lowered Select
  | .select s => lowerSelect levels s
  | .query q => return { Select.blank with sources := [.derived (← lowerQuery levels q)] }
  | .values _ _ rows =>
    return { Select.blank with projection := ← rows.flatten.mapM (lowerExpr levels) }
  | .operation _ _ _ _ | .verbatim _ => return .blank

variable {n m : Nat}

/-- Lists are refined member by member. -/
theorem refines_mapM {α β : Type} {f g : α → Lowered β} (h : ∀ a, Refines (f a) (g a))
    (as : List α) : Refines (as.mapM f) (as.mapM g) := by
  induction as with
  | nil => exact .refl _
  | cons a rest ih =>
    rw [List.mapM_cons, List.mapM_cons]
    exact (h a).bind fun _ => ih.bind_pure

/-- A leaf that is lowered with some levels is lowered alike with more. -/
theorem refines_lowerLeaf (h : n ≤ m) (b : Sql.SetExpr) : Refines (lowerLeaf n b)
    (lowerLeaf m b) := by
  cases b with
  | select s => exact refines_lowerSelect h s
  | query q => exact (refines_lowerQuery h q).bind_pure
  | values keyword row rows => exact (refines_mapM (refines_lowerExpr h) _).bind_pure
  | operation | verbatim => exact .refl _

/-- A body that combines no others becomes a member behind those before it. -/
theorem lowerSetExpr_of_leaf {prior : Option Select} {b : Sql.SetExpr}
    (hb : b.isOperation = false) :
    lowerSetExpr n prior b = (fun s => { s with prior }) <$> lowerLeaf n b := by
  cases b with
  | operation => cases hb
  | select | query | verbatim => simp [lowerSetExpr, lowerLeaf]
  | values keyword row rows => simp [lowerSetExpr, lowerLeaf, lowerRows_eq_mapM]

/-- The outline of a body has nothing before it and nothing that stands around a query. -/
theorem bare_of_lowerLeaf {b : Sql.SetExpr} {s : Select} (h : lowerLeaf n b = .ok s) :
    s.prior = none ∧ s.bare = s := by
  cases b with
  | select select =>
    obtain ⟨form, head, projection, into, sources, beforeWhere, selection, groupBy, beforeHaving,
      having, tail⟩ := select
    simp only [lowerLeaf, lowerSelect, bind_eq_ok_iff, pure_eq_ok_iff] at h
    obtain ⟨_, -, _, -, _, -, _, -, _, -, rfl⟩ := h
    exact ⟨rfl, rfl⟩
  | query q =>
    obtain ⟨_, -, h⟩ := bind_eq_ok_iff.mp h
    cases h
    exact ⟨rfl, rfl⟩
  | values keyword row rows =>
    obtain ⟨_, -, h⟩ := bind_eq_ok_iff.mp h
    cases h
    exact ⟨rfl, rfl⟩
  | operation | verbatim =>
    cases h
    exact ⟨rfl, rfl⟩

/-- The members of the outline of a body are those before it and then the outlines of its leaves.
The last of them is the outline itself. -/
theorem members_lowerSetExpr (b : Sql.SetExpr) {n : Nat} {prior : Option Select} {root : Select}
    (h : lowerSetExpr n prior b = .ok root) :
    ∃ front, b.leaves.mapM (lowerLeaf n) = .ok (front ++ [{ root with prior := none }])
      ∧ root.prior.toList.flatMap Select.members = prior.toList.flatMap Select.members
        ++ front := by
  induction b using Sql.SetExpr.induct_sides generalizing n prior root with
  | leaf b hb =>
    rw [lowerSetExpr_of_leaf hb] at h
    obtain ⟨s, hs, rfl⟩ := map_eq_ok_iff.mp h
    have hs' : ({ s with prior := none } : Select) = s := by
      have hprior := (bare_of_lowerLeaf hs).1
      cases s
      cases hprior
      rfl
    refine ⟨[], ?_, (List.append_nil _).symm⟩
    rw [Sql.SetExpr.leaves_of_not_isOperation hb]
    simp [hs, hs']
  | operation left op quantifier right ihl ihr =>
    rw [lowerSetExpr, bind_eq_ok_iff] at h
    obtain ⟨first, hfirst, hroot⟩ := h
    obtain ⟨k, rfl, hleft⟩ := nested_eq_ok_iff.mp hfirst
    have hright : lowerSetExpr k (some first) right = .ok root := hroot
    obtain ⟨front, hfront, hbefore⟩ := ihl hleft
    obtain ⟨back, hback, hbehind⟩ := ihr hright
    -- The leaves are lowered with one level more than there was for them in their places.
    have hmore : ∀ bodies : List Sql.SetExpr,
        Refines (bodies.mapM (lowerLeaf k)) (bodies.mapM (lowerLeaf (k + 1))) :=
      refines_mapM (refines_lowerLeaf (Nat.le_succ k))
    refine ⟨front ++ { first with prior := none } :: back, ?_, ?_⟩
    · rw [Sql.SetExpr.leaves, List.mapM_append, hmore _ _ hfront, hmore _ _ hback]
      simp [bind, Except.bind, pure, Except.pure]
    · rw [hbehind, Option.toList_some, List.flatMap_singleton, Select.members_eq, hbefore]
      simp

/-- The members of the outline of a query are the outlines of the leaves of its body from left to
right. None of these has anything that stands around a query, but the last one gets what stands
around this query: the common table expressions, the order and the limit. -/
theorem members_lowerQuery {levels : Nat} {recursive : Bool} {ctes : List Sql.Cte}
    {body : Sql.SetExpr} {orderBy : Sql.OrderBy} {limit : Sql.Limit} {tail : Sql.Passage}
    {root : Select}
    (h : lowerQuery levels (.mk recursive ctes body orderBy limit tail) = .ok root) :
    ∃ front last bodies keys count offset,
      body.leaves.mapM (lowerLeaf levels) = .ok (front ++ [last])
        ∧ (ctes.map Sql.Cte.query).mapM (lowerQuery levels) = .ok bodies
        ∧ orderBy.exprs.mapM (lowerExpr levels) = .ok keys
        ∧ lowerLimit levels limit = .ok (count, offset)
        ∧ (∀ s ∈ front ++ [last], s.prior = none ∧ s.bare = s)
        ∧ root.members
          = front ++
            [{ last with ctes := bodies, orderBy := keys, limit := count, offset := offset }] := by
  rw [lowerQuery, nested_eq_ok_iff] at h
  obtain ⟨n, rfl, h⟩ := h
  simp only [bind_eq_ok_iff, pure_eq_ok_iff, lowerCtes_eq_mapM, lowerOrderBy_eq_mapM] at h
  obtain ⟨select, hselect, bodies, hbodies, keys, hkeys, ⟨count, offset⟩, hlimit, rfl⟩ := h
  obtain ⟨front, hleaves, hbefore⟩ := members_lowerSetExpr body hselect
  have hmore := Nat.le_succ n
  have hbare : ∀ s ∈ front ++ [{ select with prior := none }], s.prior = none ∧ s.bare = s := by
    intro s hs
    obtain ⟨b, -, hb⟩ := exists_of_mem_mapM hleaves hs
    exact bare_of_lowerLeaf hb
  refine ⟨front, { select with prior := none }, bodies, keys, count, offset,
    refines_mapM (refines_lowerLeaf hmore) _ _ hleaves,
    refines_mapM (refines_lowerQuery hmore) _ _ hbodies,
    refines_mapM (refines_lowerExpr hmore) _ _ hkeys, refines_lowerLimit hmore limit _ hlimit,
    hbare, ?_⟩
  have hlast : ({ select with prior := none } : Select).bare = { select with prior := none } :=
    (hbare _ (List.mem_append_right front List.mem_cons_self)).2
  have hctes : select.ctes = [] := congrArg Select.ctes hlast.symm
  have horderBy : select.orderBy = [] := congrArg Select.orderBy hlast.symm
  rw [Select.members_eq, hctes, horderBy, List.nil_append, List.nil_append, hbefore]
  rfl

/-- An operation between operations. One of its members is a query in parentheses with an order of
its own, one has rows of values. -/
theorem members_lowerQuery_nested :
    let name (text : String) : Sql.Expr := .ident (.plain text)
    let body (column : String) : Sql.SetExpr :=
      .select (.mk .standard "" [.expr (name column) none] ""
        [.mk (.table ⟨[.plain "t"]⟩ "" none "") []] "" none
        (.keys [] "") "" none "")
    let inner : Sql.Query :=
      .mk false [] (body "b") (.keys [.mk (name "b") ""] "") (.clauses none none "") ""
    let union : Sql.SetExpr :=
      .operation (.operation (body "a") .union "" (.query inner)) .except ""
      (.operation (.values "VALUES" "" [[name "x", name "y"]]) .union "ALL" (body "d"))
    let q : Sql.Query :=
      .mk false [] union (.keys [.mk (name "k") ""] "") (.comma (name "m") (name "n")) ""
    ∃ root front last, lowerQuery 5 q = .ok root
      ∧ union.leaves.mapM (lowerLeaf 5) = .ok (front ++ [last]) ∧ root.members.dropLast = front
      ∧ root.members.map
        (fun s => (s.projection.map (·.token), s.orderBy.map (·.token), s.limit.isSome))
        = [([some "a"], [], false), ([], [], false), ([some "x", some "y"], [], false),
          ([some "d"], [some "k"], true)] := by
  intro name body inner union q
  obtain ⟨root, hlower, hshown⟩ : ∃ root, lowerQuery 5 q = .ok root
      ∧ root.members.map
        (fun s => (s.projection.map (·.token), s.orderBy.map (·.token), s.limit.isSome))
        = [([some "a"], [], false), ([], [], false), ([some "x", some "y"], [], false),
          ([some "d"], [some "k"], true)] := ⟨_, rfl, by decide_cbv⟩
  obtain ⟨front, last, bodies, keys, count, offset, hleaves, -, -, -, -, hmembers⟩ :=
    members_lowerQuery hlower
  exact ⟨root, front, last, hlower, hleaves, by rw [hmembers, List.dropLast_concat], hshown⟩

end Outline

end QueryLint
