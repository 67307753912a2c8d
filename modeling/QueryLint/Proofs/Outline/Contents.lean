import QueryLint.Proofs.Outline.Compound
import QueryLint.Proofs.Outline.Lowering

/-!
# What an outline contains of a syntax tree

What lowering makes of a node is somewhere in the outline of the query that the node is in
(`contains_of_isIn`). It may have got something from the nodes around it: a body the clauses that
stand around a query, and a source what a join matches rows by (`Source.Completes`). Only conditions
of joins of some kinds are left out (`keepsConstraint`).

For each kind of node there is one lemma that goes one step down (`Contains.expr` and so on). A
condition that a join keeps is found on a source (`exists_source_of_on`), as are the columns
(`exists_source_of_using`).
-/

namespace QueryLint.Outline

/-! ### Steps in an outline -/

/-- What is inside a part of an outline is in the outline. -/
theorem Part.IsIn.inside {p q root : Part} (h : p.IsIn root) (hq : q ∈ p.inner) : q.IsIn root :=
  Relation.ReflTransGen.tail h hq

/-- Some part inside an expression has a property exactly when an operand, the selection or a member
of the list has it. -/
theorem exists_inner_expr_iff {motive : Part → Prop} {parent : Option Op} {e : Expr} :
    (∃ q ∈ (Part.expr parent e).inner, motive q)
      ↔ (∃ c ∈ e.left, motive (.expr (some e.op) c)) ∨ (∃ c ∈ e.right, motive (.expr (some e.op) c))
        ∨ (∃ s ∈ e.select, motive (.select s)) ∨ ∃ c ∈ e.list, motive (.expr (some e.op) c) := by
  simp only [Part.inner, Part.before, Part.behind, List.mem_append, List.mem_map, Option.mem_toList,
    Option.mem_def, or_and_right, exists_or, exists_exists_and_eq_and, or_assoc]

section Selections

variable {root q : Part} {s : Select}

/-- The clauses around a query are in an outline with the selection that has them. -/
theorem isIn_of_mem_clauses (hin : (Part.select s).IsIn root) (hq : q ∈ s.clauses) : q.IsIn root :=
  hin.inside (mem_inner_select_iff.mpr (.inl hq))

/-- The own parts of a selection, which it may share with one that has no clauses around it. -/
theorem isIn_of_mem_core (hin : (Part.select s).IsIn root) {o : Select}
    (hcore : s.core s = o.core s) (hq : q ∈ o.core s) : q.IsIn root := by
  refine hin.inside (mem_inner_select_iff.mpr (.inr (.inr ?_)))
  rwa [hcore]

end Selections

/-- A source is at least another one, and has what rows are matched by if that one has. -/
structure Source.Completes (s' s : Source) : Prop where
  bare : s'.bare = s.bare
  columns : s.columns.isSome = true → s'.columns = s.columns
  on : s.on.isSome = true → s'.on = s.on

namespace Source.Completes

variable {s s' s'' : Source}

/-- A source completes itself. -/
theorem refl (s : Source) : s.Completes s := ⟨rfl, fun _ => rfl, fun _ => rfl⟩

/-- Completing is transitive. -/
theorem trans (h : s''.Completes s') (h' : s'.Completes s) : s''.Completes s where
  bare := h.bare.trans h'.bare
  columns := fun hcolumns => by
    have hsame := h'.columns hcolumns
    exact (h.columns (by rwa [hsame])).trans hsame
  on := fun hon => by
    have hsame := h'.on hon
    exact (h.on (by rwa [hsame])).trans hsame

/-- A source that completes another one selects from the same. -/
theorem select_eq (h : s'.Completes s) : s'.select = s.select := congrArg (fun t => t.select) h.bare

end Source.Completes

/-- What a join matches rows by completes the first source, if nothing is attached to it yet. -/
theorem exists_completes_attach {columns : Option (List String)} {on : Option Expr}
    {found : List Source} (h : Opens found) : ∀ s ∈ found, ∃ s' ∈ attach columns on found,
      s'.Completes s := by
  obtain ⟨first, rest, rfl, hcolumns, hon⟩ := h
  intro s hs
  rcases List.mem_cons.mp hs with rfl | hs
  · refine ⟨_, List.mem_cons_self, rfl, fun hgiven => ?_, fun hgiven => ?_⟩
    · rw [hcolumns] at hgiven
      cases hgiven
    · rw [hon] at hgiven
      cases hgiven
  · exact ⟨s, List.mem_cons_of_mem _ hs, .refl s⟩

/-! ### Nodes that an outline contains -/

/-- Some sources are in an outline, perhaps with more that they are joined by. -/
def HasSources (root : Part) (found : List Source) : Prop :=
  ∀ s ∈ found, ∃ reader s', s'.Completes s ∧ (Part.source reader s').IsIn root

/-- An outline contains what lowering makes of a node, with what nodes around it add. -/
def Contains (levels : Nat) (root : Part) : Sql.Part → Prop
  | .expr e => ∃ parent o, lowerExpr levels e = .ok o ∧ (Part.expr parent o).IsIn root
  | .query q => ∃ s, lowerQuery levels q = .ok s ∧ (Part.select s).IsIn root
  | .body b => ∃ prior o s, lowerSetExpr levels prior b = .ok o ∧ s.prior = o.prior
    ∧ s.core s = o.core s
    ∧ (Part.select s).IsIn root
  | .select select => ∃ o s, lowerSelect levels select = .ok o ∧ s.core s = o.core s
    ∧ (Part.select s).IsIn root
  | .tableJoins t => ∃ found, lowerTableJoins levels t = .ok found ∧ HasSources root found
  | .factor f => ∃ found, lowerTableFactor levels f = .ok found ∧ HasSources root found
  | .join j => ∃ found, lowerJoins levels [j] = .ok found ∧ HasSources root found

variable {levels n : Nat} {root : Part}

/-- An outline that has some sources has fewer of them as well. -/
theorem HasSources.mono {found more : List Source} (h : HasSources root more)
    (hsub : ∀ s ∈ found, s ∈ more) : HasSources root found :=
  fun s hs => h s (hsub s hs)

/-- Sources are in an outline if others are that complete them. -/
theorem HasSources.of_completes {found more : List Source} (h : HasSources root more)
    (hmore : ∀ s ∈ found, ∃ s' ∈ more, s'.Completes s) : HasSources root found := by
  intro s hs
  obtain ⟨s', hs', hcompletes⟩ := hmore s hs
  obtain ⟨reader, s'', hcompletes', hin⟩ := h s' hs'
  exact ⟨reader, s'', hcompletes'.trans hcompletes, hin⟩

/-! ### Lists -/

/-- What something in a list becomes is in the list of results. -/
theorem exists_mem_of_mem_mapM {α β : Type} {f : α → Lowered β} {as : List α} {bs : List β}
    (h : as.mapM f = .ok bs) {a : α} (ha : a ∈ as) : ∃ b ∈ bs, f a = .ok b := by
  have hiff := exists_mem_mapM_iff (p := fun c => f c = f a) (q := fun b => f a = .ok b)
    (fun c _ b hc => ⟨fun hb => hc.trans hb.symm, fun hsame => hsame.symm.trans hc⟩) h
  exact hiff.mpr ⟨a, ha, rfl⟩

/-- An optional expression that is lowered has a result. -/
theorem exists_mem_of_mem_lowerExpr? {e : Option Sql.Expr} {found : Option Expr}
    (h : lowerExpr? n e = .ok found) {c : Sql.Expr} (hc : c ∈ e) : ∃ o ∈ found,
      lowerExpr n c = .ok o := by
  cases hc
  simp only [lowerExpr?, bind_eq_ok_iff, pure_eq_ok_iff] at h
  obtain ⟨o, ho, rfl⟩ := h
  exact ⟨o, rfl, ho⟩

/-- The expression of an item has a result among those of a lowered projection. -/
theorem exists_mem_of_mem_lowerItems {items : List Sql.SelectItem} {found : List Expr}
    (h : lowerItems n items = .ok found) {e : Sql.Expr}
    (he : e ∈ items.flatMap Sql.SelectItem.exprs) : ∃ o ∈ found, lowerExpr n e = .ok o := by
  induction items generalizing found with
  | nil => cases he
  | cons item rest ih =>
    rw [List.flatMap_cons, List.mem_append] at he
    cases item with
    | expr value aliasName =>
      simp only [lowerItems, bind_eq_ok_iff, pure_eq_ok_iff] at h
      obtain ⟨first, hfirst, others, hothers, rfl⟩ := h
      rcases he with he | he
      · obtain rfl := List.mem_singleton.mp he
        exact ⟨first, List.mem_cons_self, hfirst⟩
      · obtain ⟨o, ho, hlower⟩ := ih hothers he
        exact ⟨o, List.mem_cons_of_mem _ ho, hlower⟩
    | wildcard text =>
      simp only [lowerItems, bind_eq_ok_iff, pure_eq_ok_iff] at h
      obtain ⟨others, hothers, rfl⟩ := h
      obtain ⟨o, ho, hlower⟩ := ih hothers (he.resolve_left List.not_mem_nil)
      exact ⟨o, List.mem_cons_of_mem _ ho, hlower⟩

/-- An expression of a LIMIT has a result among those of the lowered clause. -/
theorem exists_mem_of_mem_lowerLimit {limit : Sql.Limit} {count offset : Option Expr}
    (h : lowerLimit n limit = .ok (count, offset)) {e : Sql.Expr} (he : e ∈ limit.exprs) :
    ∃ o ∈ count.toList ++ offset.toList, lowerExpr n e = .ok o := by
  cases limit with
  | clauses first second tail =>
    simp only [lowerLimit, bind_eq_ok_iff, pure_eq_ok_iff, Prod.mk.injEq] at h
    obtain ⟨_, hfirst, _, hsecond, rfl, rfl⟩ := h
    rcases List.mem_append.mp he with he | he
    · obtain ⟨o, ho, hlower⟩ := exists_mem_of_mem_lowerExpr? hfirst (Option.mem_toList.mp he)
      exact ⟨o, List.mem_append_left _ (Option.mem_toList.mpr ho), hlower⟩
    · obtain ⟨o, ho, hlower⟩ := exists_mem_of_mem_lowerExpr? hsecond (Option.mem_toList.mp he)
      exact ⟨o, List.mem_append_right _ (Option.mem_toList.mpr ho), hlower⟩
  | comma first second =>
    simp only [lowerLimit, bind_eq_ok_iff, pure_eq_ok_iff, Prod.mk.injEq] at h
    obtain ⟨o₁, hsecond, o₂, hfirst, rfl, rfl⟩ := h
    rcases List.mem_pair.mp he with rfl | rfl
    · exact ⟨o₂, List.mem_cons_of_mem _ List.mem_cons_self, hfirst⟩
    · exact ⟨o₁, List.mem_cons_self, hsecond⟩

/-! ### Expressions -/

/-- What is directly inside an expression is lowered to something directly inside its outline, or to
the outline itself where the expression adds nothing. -/
theorem exists_lowers_of_mem_ofExpr {e : Sql.Expr} {o : Expr} (parent : Option Op)
    (hl : lowerExpr (n + 1) e = .ok o) :
    ∀ p ∈ Sql.Part.ofExpr e, Lowers n p (.expr parent o)
      ∨ ∃ q ∈ (Part.expr parent o).inner, Lowers n p q := by
  -- A wrapper lowers to what its inside lowers to; of all other forms the children are inside the
  -- result.
  cases e with
  | ident | compound | value | verbatim =>
    intro p hp
    cases hp
  | nested | collate =>
    rw [lowerExpr] at hl
    intro p hp
    obtain rfl := List.mem_singleton.mp hp
    exact .inl hl
  | unary | isNull | isNotNull | isTruth | cast =>
    rw [lowerExpr] at hl
    simp only [nested, bind_eq_ok_iff, pure_eq_ok_iff] at hl
    obtain ⟨left, hleft, rfl⟩ := hl
    intro p hp
    obtain rfl := List.mem_singleton.mp hp
    exact .inr (exists_inner_expr_iff.mpr (.inl ⟨left, rfl, hleft⟩))
  | binary | pattern | distinct =>
    rw [lowerExpr] at hl
    simp only [nested, bind_eq_ok_iff, pure_eq_ok_iff] at hl
    obtain ⟨left, hleft, right, hright, rfl⟩ := hl
    intro p hp
    rcases List.mem_pair.mp hp with rfl | rfl
    · exact .inr (exists_inner_expr_iff.mpr (.inl ⟨left, rfl, hleft⟩))
    · exact .inr (exists_inner_expr_iff.mpr (.inr (.inl ⟨right, rfl, hright⟩)))
  | subquery | «exists» =>
    rw [lowerExpr] at hl
    simp only [nested, bind_eq_ok_iff, pure_eq_ok_iff] at hl
    obtain ⟨inside, hinside, rfl⟩ := hl
    intro p hp
    obtain rfl := List.mem_singleton.mp hp
    exact .inr (exists_inner_expr_iff.mpr (.inr (.inr (.inl ⟨inside, rfl, hinside⟩))))
  | inQuery operand negated q =>
    rw [lowerExpr] at hl
    simp only [nested, bind_eq_ok_iff, pure_eq_ok_iff] at hl
    obtain ⟨left, hleft, inside, hinside, rfl⟩ := hl
    intro p hp
    rcases List.mem_pair.mp hp with rfl | rfl
    · exact .inr (exists_inner_expr_iff.mpr (.inl ⟨left, rfl, hleft⟩))
    · exact .inr (exists_inner_expr_iff.mpr (.inr (.inr (.inl ⟨inside, rfl, hinside⟩))))
  | between operand negated low high =>
    rw [lowerExpr] at hl
    simp only [nested, bind_eq_ok_iff, pure_eq_ok_iff] at hl
    obtain ⟨left, hleft, below, hbelow, above, habove, rfl⟩ := hl
    intro p hp
    rcases List.mem_cons.mp hp with rfl | hp
    · exact .inr (exists_inner_expr_iff.mpr (.inl ⟨left, rfl, hleft⟩))
    · refine .inr (exists_inner_expr_iff.mpr (.inr (.inr (.inr ?_))))
      rcases List.mem_pair.mp hp with rfl | rfl
      · exact ⟨below, List.mem_cons_self, hbelow⟩
      · exact ⟨above, List.mem_cons_of_mem _ List.mem_cons_self, habove⟩
  | inList operand negated members =>
    rw [lowerExpr] at hl
    simp only [nested, bind_eq_ok_iff, pure_eq_ok_iff, lowerExprs_eq_mapM] at hl
    obtain ⟨left, hleft, found, hfound, rfl⟩ := hl
    intro p hp
    rcases List.mem_cons.mp hp with rfl | hp
    · exact .inr (exists_inner_expr_iff.mpr (.inl ⟨left, rfl, hleft⟩))
    · obtain ⟨e, he, rfl⟩ := List.mem_map.mp hp
      exact .inr (exists_inner_expr_iff.mpr (.inr (.inr (.inr (exists_mem_of_mem_mapM hfound he)))))
  | call braced name parameters arguments suffix =>
    rw [lowerExpr] at hl
    intro p hp
    cases arguments with
    | absent => cases hp
    | query q =>
      simp only [nested, lowerCall, bind_eq_ok_iff, pure_eq_ok_iff] at hl
      obtain ⟨inside, hinside, rfl⟩ := hl
      obtain rfl := List.mem_singleton.mp hp
      exact .inr (exists_inner_expr_iff.mpr (.inr (.inr (.inl ⟨inside, rfl, hinside⟩))))
    | list quantifier arguments clauses =>
      simp only [nested, lowerCall, bind_eq_ok_iff, pure_eq_ok_iff, lowerArguments_eq_mapM] at hl
      obtain ⟨found, hfound, rfl⟩ := hl
      obtain ⟨e, he, rfl⟩ := List.mem_map.mp hp
      exact .inr (exists_inner_expr_iff.mpr (.inr (.inr (.inr (exists_mem_of_mem_mapM hfound he)))))
  | case operand branches otherwise =>
    rw [lowerExpr] at hl
    simp only [nested, bind_eq_ok_iff, pure_eq_ok_iff, lowerBranches_eq_mapM] at hl
    obtain ⟨arms, harms, last, hlast, left, hleft, rfl⟩ := hl
    intro p hp
    simp only [Sql.Part.ofExpr, List.mem_append, List.mem_map, Option.mem_toList] at hp
    rcases hp with (⟨e, he, rfl⟩ | ⟨e, he, rfl⟩) | ⟨e, he, rfl⟩
    · exact .inr (exists_inner_expr_iff.mpr (.inl (exists_mem_of_mem_lowerExpr? hleft he)))
    · obtain ⟨arm, harm, hlower⟩ := exists_mem_of_mem_mapM harms he
      exact .inr
        (exists_inner_expr_iff.mpr (.inr (.inr (.inr ⟨arm, List.mem_append_left _ harm, hlower⟩))))
    · obtain ⟨arm, harm, hlower⟩ := exists_mem_of_mem_lowerExpr? hlast he
      exact .inr (exists_inner_expr_iff.mpr
        (.inr (.inr (.inr ⟨arm, List.mem_append_right _ (Option.mem_toList.mpr harm), hlower⟩))))

/-- What is lowered with fewer levels and is in an outline is contained in it. -/
theorem contains_of_lowers {p : Sql.Part} {o : Part} (hn : n ≤ levels) (hl : Lowers n p o)
    (hin : o.IsIn root) : Contains levels root p := by
  cases p with
  | expr e =>
    cases o with
    | expr parent o => exact ⟨parent, o, refines_lowerExpr hn e o hl, hin⟩
    | _ => cases hl
  | query q =>
    cases o with
    | select s => exact ⟨s, refines_lowerQuery hn q s hl, hin⟩
    | _ => cases hl
  | _ => cases o <;> cases hl

/-- An outline that contains an expression contains the children of it. -/
theorem Contains.expr {e : Sql.Expr} (h : Contains levels root (.expr e)) :
    ∀ p ∈ Sql.Part.ofExpr e, Contains levels root p := by
  obtain ⟨parent, o, hl, hin⟩ := h
  intro p hp
  cases levels with
  | zero =>
    rw [lowerExpr_zero] at hl
    cases hl
  | succ n =>
    rcases exists_lowers_of_mem_ofExpr parent hl p hp with hsame | ⟨q, hq, hlowers⟩
    · exact contains_of_lowers (Nat.le_succ n) hsame hin
    · exact contains_of_lowers (Nat.le_succ n) hlowers (hin.inside hq)

/-! ### Queries and bodies -/

/-- An outline that contains a query contains the children of it. -/
theorem Contains.query {q : Sql.Query} (h : Contains levels root (.query q)) :
    ∀ p ∈ Sql.Part.ofQuery q, Contains levels root p := by
  obtain ⟨s, hl, hin⟩ := h
  obtain ⟨recursive, ctes, body, orderBy, limit, tail⟩ := q
  rw [lowerQuery, nested_eq_ok_iff] at hl
  obtain ⟨n, rfl, hl⟩ := hl
  simp only [bind_eq_ok_iff, pure_eq_ok_iff, lowerCtes_eq_mapM, lowerOrderBy_eq_mapM] at hl
  obtain ⟨select, hselect, bodies, hbodies, keys, hkeys, ⟨count, offset⟩, hlimit, rfl⟩ := hl
  have hn := Nat.le_succ n
  intro p hp
  simp only [Sql.Part.ofQuery, List.mem_append, List.mem_cons, List.mem_map, or_assoc] at hp
  rcases hp with rfl | ⟨c, hc, rfl⟩ | ⟨e, he, rfl⟩ | ⟨e, he, rfl⟩
  · refine ⟨none, select, _, refines_lowerSetExpr hn none body select hselect, ?_, ?_, hin⟩
    · rfl
    · rfl
  · obtain ⟨inside, hinside, hlower⟩ := exists_mem_of_mem_mapM hbodies (List.mem_map_of_mem hc)
    refine contains_of_lowers (o := .select inside) hn hlower (isIn_of_mem_clauses hin ?_)
    exact List.mem_append_left _ (List.mem_map_of_mem (List.mem_append_right _ hinside))
  · obtain ⟨o, ho, hlower⟩ := exists_mem_of_mem_mapM hkeys he
    refine contains_of_lowers (o := .expr none o) hn hlower (isIn_of_mem_clauses hin ?_)
    refine List.mem_append_right _ (List.mem_map_of_mem ?_)
    exact List.mem_append_left _ (List.mem_append_left _ (List.mem_append_right _ ho))
  · obtain ⟨o, ho, hlower⟩ := exists_mem_of_mem_lowerLimit hlimit he
    refine contains_of_lowers (o := .expr none o) hn hlower (isIn_of_mem_clauses hin ?_)
    refine List.mem_append_right _ (List.mem_map_of_mem ?_)
    rw [List.append_assoc]
    exact List.mem_append_right _ ho

/-- The member before a body stays in the chain that ends with the body. -/
theorem isIn_of_lowerSetExpr (b : Sql.SetExpr) {n : Nat} {prior o s : Select}
    (hl : lowerSetExpr n (some prior) b = .ok o) (hs : s.prior = o.prior) :
    (Part.select prior).IsIn (.select s) := by
  induction b using Sql.SetExpr.induct_sides generalizing n prior o s with
  | leaf b hb =>
    rw [lowerSetExpr_of_leaf hb] at hl
    obtain ⟨own, -, rfl⟩ := map_eq_ok_iff.mp hl
    have hprior : s.prior = some prior := hs
    refine (Part.IsIn.refl _).inside (mem_inner_select_iff.mpr (.inr (.inl ?_)))
    rw [hprior]
    exact List.mem_cons_self
  | operation left op quantifier right ihl ihr =>
    rw [lowerSetExpr, bind_eq_ok_iff] at hl
    obtain ⟨middle, hmiddle, hright⟩ := hl
    obtain ⟨k, rfl, hleft⟩ := nested_eq_ok_iff.mp hmiddle
    exact (ihr (n := k) hright hs).trans (ihl hleft rfl)

/-- An outline that contains the body of a query contains the children of it. -/
theorem Contains.body {b : Sql.SetExpr} (h : Contains levels root (.body b)) :
    ∀ p ∈ Sql.Part.ofBody b, Contains levels root p := by
  obtain ⟨prior, o, s, hl, hprior, hcore, hin⟩ := h
  intro p hp
  cases b with
  | select select =>
    simp only [lowerSetExpr, bind_eq_ok_iff, pure_eq_ok_iff] at hl
    obtain ⟨own, hown, rfl⟩ := hl
    obtain rfl := List.mem_singleton.mp hp
    exact ⟨own, s, hown, hcore, hin⟩
  | query q =>
    simp only [lowerSetExpr, bind_eq_ok_iff, pure_eq_ok_iff] at hl
    obtain ⟨inside, hinside, rfl⟩ := hl
    obtain rfl := List.mem_singleton.mp hp
    have hsource : (Part.source s (.derived inside)).IsIn root :=
      isIn_of_mem_core hin hcore List.mem_cons_self
    exact ⟨inside, hinside, hsource.inside List.mem_cons_self⟩
  | operation left op quantifier right =>
    rw [lowerSetExpr, bind_eq_ok_iff] at hl
    obtain ⟨first, hfirst, hright⟩ := hl
    obtain ⟨n, rfl, hleft⟩ := nested_eq_ok_iff.mp hfirst
    have hright : lowerSetExpr n (some first) right = .ok o := hright
    have hn := Nat.le_succ n
    -- Both sides were lowered with one level less, so they lower alike with all of them.
    rcases List.mem_pair.mp hp with rfl | rfl
    · exact ⟨prior, first, first, refines_lowerSetExpr hn prior left first hleft, rfl, rfl,
        hin.trans (isIn_of_lowerSetExpr right hright hprior)⟩
    · exact ⟨some first, o, s, refines_lowerSetExpr hn (some first) right o hright, hprior,
        hcore, hin⟩
  | values keyword row rows =>
    simp only [lowerSetExpr, bind_eq_ok_iff, pure_eq_ok_iff, lowerRows_eq_mapM] at hl
    obtain ⟨found, hfound, rfl⟩ := hl
    obtain ⟨e, he, rfl⟩ := List.mem_map.mp hp
    obtain ⟨member, hmember, hlower⟩ := exists_mem_of_mem_mapM hfound he
    refine ⟨none, member, hlower, isIn_of_mem_core hin hcore ?_⟩
    simp [Select.core, Select.blank, default, hmember]
  | verbatim text => cases hp

/-! ### Selections and their sources -/

/-- An outline that contains a select contains the children of it. -/
theorem Contains.select {select : Sql.Select} (h : Contains levels root (.select select)) :
    ∀ p ∈ Sql.Part.ofSelect select, Contains levels root p := by
  obtain ⟨o, s, hl, hcore, hin⟩ := h
  obtain ⟨form, head, projection, into, sources, beforeWhere, selection, groupBy,
    beforeHaving, having, tail⟩ := select
  simp only [lowerSelect, bind_eq_ok_iff, pure_eq_ok_iff, lowerSources_eq_mapM,
    lowerGroupBy_eq_mapM] at hl
  obtain ⟨items, hitems, found, hfound, filter, hfilter, keys, hkeys, groupFilter, hgroupFilter,
    rfl⟩ := hl
  have hexpr : ∀ e o, lowerExpr levels e = .ok o →
      o ∈ items ++ filter.toList ++ keys ++ groupFilter.toList → Contains levels root (.expr e) :=
    fun e o hlower ho =>
      ⟨none, o, hlower,
        isIn_of_mem_core hin hcore (List.mem_append_left _ (List.mem_map_of_mem ho))⟩
  intro p hp
  simp only [Sql.Part.ofSelect, List.mem_append, List.mem_map, Option.mem_toList] at hp
  rcases hp with (((⟨e, he, rfl⟩ | ⟨t, ht, rfl⟩) | ⟨e, he, rfl⟩) | ⟨e, he, rfl⟩) | ⟨e, he, rfl⟩
  · obtain ⟨o, ho, hlower⟩ := exists_mem_of_mem_lowerItems hitems he
    exact hexpr e o hlower
      (List.mem_append_left _ (List.mem_append_left _ (List.mem_append_left _ ho)))
  · obtain ⟨lists, hlists, rfl⟩ := map_eq_ok_iff.mp hfound
    obtain ⟨list, hlist, hlower⟩ := exists_mem_of_mem_mapM hlists ht
    refine ⟨list, hlower, fun c hc => ⟨s, c, .refl c, isIn_of_mem_core hin hcore ?_⟩⟩
    exact List.mem_append_right _ (List.mem_map_of_mem (List.mem_flatten.mpr ⟨list, hlist, hc⟩))
  · obtain ⟨o, ho, hlower⟩ := exists_mem_of_mem_lowerExpr? hfilter he
    refine hexpr e o hlower
      (List.mem_append_left _ (List.mem_append_left _ (List.mem_append_right _ ?_)))
    exact Option.mem_toList.mpr ho
  · obtain ⟨o, ho, hlower⟩ := exists_mem_of_mem_mapM hkeys he
    exact hexpr e o hlower (List.mem_append_left _ (List.mem_append_right _ ho))
  · obtain ⟨o, ho, hlower⟩ := exists_mem_of_mem_lowerExpr? hgroupFilter he
    exact hexpr e o hlower (List.mem_append_right _ (Option.mem_toList.mpr ho))

/-- An outline that contains a relation with its joins contains the children of it. -/
theorem Contains.tableJoins {t : Sql.TableJoins} (h : Contains levels root (.tableJoins t)) :
    ∀ p ∈ Sql.Part.ofTableJoins t, Contains levels root p := by
  obtain ⟨found, hl, hhas⟩ := h
  obtain ⟨relation, joins⟩ := t
  rw [lowerTableJoins, lowerJoins_eq_mapM] at hl
  simp only [bind_eq_ok_iff, pure_eq_ok_iff] at hl
  obtain ⟨opening, hopening, joined, hjoined, rfl⟩ := hl
  intro p hp
  rcases List.mem_cons.mp hp with rfl | hp
  · exact ⟨opening, hopening, hhas.mono fun s hs => List.mem_append_left _ hs⟩
  · obtain ⟨j, hj, rfl⟩ := List.mem_map.mp hp
    obtain ⟨lists, hlists, rfl⟩ := map_eq_ok_iff.mp hjoined
    obtain ⟨list, hlist, hlower⟩ := exists_mem_of_mem_mapM hlists hj
    refine ⟨list, hlower, hhas.mono fun s hs => List.mem_append_right _ ?_⟩
    exact List.mem_flatten.mpr ⟨list, hlist, hs⟩

/-- An outline that contains a table factor contains the children of it. -/
theorem Contains.factor {f : Sql.TableFactor} (h : Contains levels root (.factor f)) :
    ∀ p ∈ Sql.Part.ofFactor f, Contains levels root p := by
  obtain ⟨found, hl, hhas⟩ := h
  intro p hp
  cases f with
  | table | verbatim => cases hp
  | derived lateral q aliasName =>
    simp only [lowerTableFactor, bind_eq_ok_iff, pure_eq_ok_iff] at hl
    obtain ⟨inside, hinside, rfl⟩ := hl
    obtain rfl := List.mem_singleton.mp hp
    obtain ⟨reader, s, hcompletes, hin⟩ := hhas _ List.mem_cons_self
    refine ⟨inside, hinside, hin.inside (List.mem_append_left _ ?_)⟩
    rw [Part.before, hcompletes.select_eq]
    exact List.mem_cons_self
  | nested t aliasName =>
    rw [lowerTableFactor, nested_eq_ok_iff] at hl
    obtain ⟨n, rfl, hfound⟩ := hl
    obtain rfl := List.mem_singleton.mp hp
    exact ⟨found, refines_lowerTableJoins (Nat.le_succ n) t found hfound, hhas⟩

/-- The sources of a join, which are completed by what the join matches rows by. -/
theorem exists_of_lowerJoins {isGlobal : Bool} {kind : Sql.JoinKind} {relation : Sql.TableFactor}
    {constraint : Sql.JoinConstraint} {found : List Source}
    (h : lowerJoins n [.mk isGlobal kind relation constraint] = .ok found) :
    ∃ opening, lowerTableFactor n relation = .ok opening ∧ Opens opening
      ∧ lowerConstraint n (keepsConstraint kind) constraint opening = .ok found := by
  simp only [lowerJoins, bind_eq_ok_iff, pure_eq_ok_iff] at h
  obtain ⟨opening, hopening, joined, hjoined, _, rfl, rfl⟩ := h
  have hreflects : Reflects .usingOrOn (.factor relation) := reflects (.factor relation)
  rw [List.append_nil]
  exact ⟨opening, hopening, (hreflects n opening hopening).1, hjoined⟩

/-- A condition changes none of the sources before it, except that the first gets the condition. -/
theorem exists_completes_lowerConstraint {kept : Bool} {constraint : Sql.JoinConstraint}
    {opening found : List Source} (hopens : Opens opening)
    (h : lowerConstraint n kept constraint opening = .ok found) :
    ∀ s ∈ opening, ∃ s' ∈ found, s'.Completes s := by
  have hsame : found = opening → ∀ s ∈ opening, ∃ s' ∈ found, s'.Completes s := by
    rintro rfl s hs
    exact ⟨s, hs, .refl s⟩
  cases kept with
  | false => exact hsame (by cases constraint <;> exact (pure_eq_ok_iff.mp h).symm)
  | true =>
    cases constraint with
    | on condition =>
      simp only [lowerConstraint, bind_eq_ok_iff, pure_eq_ok_iff] at h
      obtain ⟨e, -, rfl⟩ := h
      exact exists_completes_attach hopens
    | «using» columns =>
      obtain rfl := pure_eq_ok_iff.mp h
      exact exists_completes_attach hopens
    | natural | none => exact hsame (pure_eq_ok_iff.mp h).symm

variable {isGlobal : Bool} {kind : Sql.JoinKind} {relation : Sql.TableFactor}

/-- A condition that a join keeps is on a source. -/
theorem exists_source_of_on {condition : Sql.Expr} (hkept : keepsConstraint kind = true)
    (h : Contains levels root (.join (.mk isGlobal kind relation (.on condition)))) :
    ∃ e reader s, lowerExpr levels condition = .ok e ∧ s.on = some e
      ∧ (Part.source reader s).IsIn root := by
  obtain ⟨found, hl, hhas⟩ := h
  obtain ⟨opening, -, ⟨first, rest, rfl, -, -⟩, hjoined⟩ := exists_of_lowerJoins hl
  rw [hkept] at hjoined
  simp only [lowerConstraint, bind_eq_ok_iff, pure_eq_ok_iff] at hjoined
  obtain ⟨e, hlower, rfl⟩ := hjoined
  obtain ⟨reader, s, hcompletes, hin⟩ := hhas _ List.mem_cons_self
  exact ⟨e, reader, s, hlower, hcompletes.on rfl, hin⟩

/-- Columns that a join keeps are on a source. -/
theorem exists_source_of_using {columns : List Sql.ObjectName} (hkept : keepsConstraint kind = true)
    (h : Contains levels root (.join (.mk isGlobal kind relation (.using columns)))) :
    ∃ reader s, s.columns = some (columns.map Sql.ObjectName.render)
      ∧ (Part.source reader s).IsIn root := by
  obtain ⟨found, hl, hhas⟩ := h
  obtain ⟨opening, -, ⟨first, rest, rfl, -, -⟩, hjoined⟩ := exists_of_lowerJoins hl
  rw [hkept] at hjoined
  obtain rfl := pure_eq_ok_iff.mp hjoined
  obtain ⟨reader, s, hcompletes, hin⟩ := hhas _ List.mem_cons_self
  exact ⟨reader, s, hcompletes.columns rfl, hin⟩

/-- An outline that contains a join contains the children of it that are kept. -/
theorem Contains.join {j : Sql.Join} (h : Contains levels root (.join j)) :
    ∀ p ∈ Sql.Part.ofJoin keepsConstraint j, Contains levels root p := by
  obtain ⟨isGlobal, kind, relation, constraint⟩ := j
  intro p hp
  rcases List.mem_cons.mp hp with rfl | hp
  · obtain ⟨found, hl, hhas⟩ := h
    obtain ⟨opening, hopening, hopens, hjoined⟩ := exists_of_lowerJoins hl
    exact ⟨opening, hopening, hhas.of_completes (exists_completes_lowerConstraint hopens hjoined)⟩
  · split at hp
    · next hkept =>
      obtain ⟨e, he, rfl⟩ := List.mem_map.mp hp
      cases constraint with
      | on condition =>
        obtain rfl := List.mem_singleton.mp he
        obtain ⟨o, reader, s, hlower, hon, hin⟩ := exists_source_of_on hkept h
        refine ⟨none, o, hlower, hin.inside (List.mem_append_right _ ?_)⟩
        rw [Part.behind, hon]
        exact List.mem_cons_self
      | _ => cases he
    · cases hp

/-! ### Whole queries -/

/-- An outline contains what is directly inside a node if it contains the node. -/
theorem Contains.inner {p q : Sql.Part} (h : Contains levels root p)
    (hq : q ∈ p.inner keepsConstraint) : Contains levels root q := by
  cases p with
  | expr e => exact h.expr q hq
  | query inside => exact h.query q hq
  | body b => exact h.body q hq
  | select s => exact h.select q hq
  | tableJoins t => exact h.tableJoins q hq
  | factor f => exact h.factor q hq
  | join j => exact h.join q hq

/-- The outline of a query contains every node in the query that is not in a condition which some
join loses. -/
theorem contains_of_isIn {q : Sql.Query} {s : Select} (hl : lowerQuery levels q = .ok s)
    {p : Sql.Part} (hin : p.IsIn keepsConstraint (.query q)) : Contains levels (.select s) p := by
  induction hin with
  | refl => exact ⟨s, hl, .refl _⟩
  | tail _ hinner ih => exact ih.inner hinner

end QueryLint.Outline
