import QueryLint.Proofs.Analysis.Conjunctions
import QueryLint.Proofs.Outline.Levels

/-!
# Conjunctions in outlines

Lowering makes a conjunction of a binary operator only, and then with both operands and nothing else
(`lowersRegular`): there is one lemma for each kind of node, which takes the statement for the nodes
inside a node and proves it for the node. So the chains of conjunctions in an outline are told by
their places, as in `QueryLint.Proofs.Analysis.Conjunctions`, and a walk over the outline of any
query records what they compare (`conjunctions_partition`).
-/

namespace QueryLint.Outline

/-- All conjunctions in an expression have two operands, and nothing else inside. -/
def Expr.Regular (e : Expr) : Prop := (Part.expr none e).Regular

/-- All conjunctions in a selection have two operands, and nothing else inside. -/
def Select.Regular (s : Select) : Prop := (Part.select s).Regular

/-- All conjunctions in a source have two operands, and nothing else inside. -/
def Source.Regular (s : Source) : Prop := (Part.source .blank s).Regular

/-! ### Regular outlines, part by part -/

/-- If a part is a conjunction, it has two operands, and nothing else inside. -/
def Part.IsPlain : Part → Prop
  | expr _ e => e.op = .and → e.IsBinary
  | _ => True

/-- A part is regular exactly when its own operator is in order and the parts inside it are
regular. -/
theorem Part.regular_iff {p : Part} : p.Regular ↔ p.IsPlain ∧ ∀ c ∈ p.inner, c.Regular := by
  constructor
  · intro h
    refine ⟨?_, fun c hc => h.of_mem_inner hc⟩
    cases p with
    | expr parent e => exact h parent e (.refl _)
    | _ => exact True.intro
  · rintro ⟨hplain, hinner⟩ parent e hin
    rcases isIn_iff.mp hin with rfl | ⟨c, hc, hin⟩
    · exact hplain
    · exact hinner c hc parent e hin

/-- An expression is regular as a part whatever stands above it. -/
theorem Expr.regular_part_iff (parent : Option Op) (e : Expr) : (Part.expr parent e).Regular
    ↔ e.Regular := by
  rw [Regular, Part.regular_iff, Part.regular_iff]
  rfl

/-- A source is regular as a part whichever selection reads it. -/
theorem Source.regular_part_iff (reader : Select) (s : Source) :
    (Part.source reader s).Regular ↔ s.Regular := by
  rw [Regular, Part.regular_iff, Part.regular_iff]
  rfl

/-- An expression is regular if its conjunctions have two operands and all of its parts are
regular. -/
theorem Expr.regular_iff {e : Expr} :
    e.Regular ↔ (e.op = .and → e.IsBinary) ∧ (∀ c ∈ e.left, c.Regular) ∧ (∀ c ∈ e.right, c.Regular)
      ∧ (∀ s ∈ e.select, s.Regular) ∧ ∀ c ∈ e.list, c.Regular := by
  rw [Regular, Part.regular_iff, forall_inner_expr_iff]
  simp only [Expr.regular_part_iff]
  rfl

/-- A source is regular if what it selects from and its condition are. -/
theorem Source.regular_iff {s : Source} :
    s.Regular ↔ (∀ c ∈ s.select, c.Regular) ∧ ∀ e ∈ s.on, e.Regular := by
  rw [Regular, Part.regular_iff]
  simp only [Part.IsPlain, Part.inner, Part.before, Part.behind, List.forall_mem_append,
    List.forall_mem_map, Option.mem_toList, Option.mem_def, true_and]
  rfl

/-- A selection is regular if all of its parts are. -/
theorem Select.regular_iff {s : Select} :
    s.Regular ↔ (∀ c ∈ s.ctes, c.Regular) ∧ (∀ c ∈ s.prior, c.Regular)
      ∧ (∀ e ∈ s.projection, e.Regular) ∧ (∀ c ∈ s.sources, c.Regular)
      ∧ (∀ e ∈ s.selection, e.Regular) ∧ (∀ e ∈ s.groupBy, e.Regular)
      ∧ (∀ e ∈ s.orderBy, e.Regular) ∧ (∀ e ∈ s.having, e.Regular)
      ∧ (∀ e ∈ s.limit, e.Regular) ∧ ∀ e ∈ s.offset, e.Regular := by
  rw [Regular, Part.regular_iff]
  simp only [Part.IsPlain, Part.inner, Part.before, Part.behind, List.nil_append,
    List.forall_mem_append, List.forall_mem_map, Option.mem_toList, Option.mem_def, true_and,
    Source.regular_part_iff, and_assoc]
  rfl

section Small

variable {op : Op}

/-- An operator without operands is regular unless it is a conjunction. -/
theorem Expr.regular_bare (h : op ≠ .and) : (Expr.bare op).Regular :=
  regular_iff.mpr ⟨fun hand => absurd hand h, by simp [Expr.bare]⟩

/-- A leaf is regular unless its operator is a conjunction. -/
theorem Expr.regular_leaf (h : op ≠ .and) (token : String) : (Expr.leaf op token).Regular :=
  regular_iff.mpr ⟨fun hand => absurd hand h, by simp [Expr.leaf, Expr.bare]⟩

/-- A unary operation is regular with its operand unless it is a conjunction. -/
theorem Expr.regular_unary (h : op ≠ .and) {operand : Expr} (hoperand : operand.Regular) :
    (Expr.unary op operand).Regular :=
  regular_iff.mpr ⟨fun hand => absurd hand h, by simpa [Expr.unary, Expr.bare] using hoperand⟩

/-- A binary operation is regular with its operands, a conjunction included. -/
theorem Expr.regular_binary (op : Op) {left right : Expr} (hleft : left.Regular)
    (hright : right.Regular) : (Expr.binary op left right).Regular :=
  regular_iff.mpr
    ⟨fun _ => ⟨rfl, rfl, rfl, rfl⟩, by simpa [Expr.binary, Expr.bare] using ⟨hleft, hright⟩⟩

/-- A chain of names is regular: the names are joined by dots. -/
theorem Expr.regular_ofNames (names : List Sql.Ident) : (Expr.ofNames names).Regular := by
  induction names with
  | nil => exact regular_bare (by decide)
  | cons name rest ih =>
    cases rest with
    | nil => exact regular_leaf (by decide) _
    | cons second rest => exact regular_binary .dot (regular_leaf (by decide) _) ih

/-- What a join matches rows by is as regular as its condition. -/
theorem regular_attach {columns : Option (List String)} {on : Option Expr} {found : List Source}
    (hfound : ∀ s ∈ found, s.Regular) (hon : ∀ e ∈ on, e.Regular) :
    ∀ s ∈ attach columns on found, s.Regular := by
  cases found with
  | nil => exact hfound
  | cons first rest =>
    obtain ⟨hfirst, hrest⟩ := List.forall_mem_cons.mp hfound
    obtain ⟨hselect, hkept⟩ := Source.regular_iff.mp hfirst
    refine List.forall_mem_cons.mpr ⟨Source.regular_iff.mpr ⟨hselect, ?_⟩, hrest⟩
    cases on with
    | none => exact hkept
    | some e => exact hon

end Small

/-! ### Nodes and their outlines -/

/-- All outlines of a node are regular. -/
def LowersRegular : Sql.Part → Prop
  | .expr e => ∀ n o, lowerExpr n e = .ok o → o.Regular
  | .query q => ∀ n root, lowerQuery n q = .ok root → root.Regular
  | .body b => ∀ n prior root, lowerSetExpr n prior b = .ok root → (∀ s ∈ prior, s.Regular) →
    root.Regular
  | .select s => ∀ n root, lowerSelect n s = .ok root → root.Regular
  | .tableJoins t => ∀ n found, lowerTableJoins n t = .ok found → ∀ s ∈ found, s.Regular
  | .factor f => ∀ n found, lowerTableFactor n f = .ok found → ∀ s ∈ found, s.Regular
  | .join j => ∀ n found, lowerJoins n [j] = .ok found → ∀ s ∈ found, s.Regular

section Nodes

variable {n : Nat}

/-- The lowered members of a list are regular if those of each member are. -/
theorem regular_of_mem_mapM {es : List Sql.Expr} (h : ∀ e ∈ es, LowersRegular (.expr e))
    {found : List Expr} (hl : es.mapM (lowerExpr n) = .ok found) : ∀ o ∈ found, o.Regular := by
  intro o ho
  obtain ⟨e, he, hlower⟩ := exists_of_mem_mapM hl ho
  exact h e he n o hlower

/-- A lowered optional expression is regular if the expression lowers to regular ones. -/
theorem regular_of_mem_lowerExpr? {e : Option Sql.Expr} (h : ∀ c ∈ e, LowersRegular (.expr c))
    {found : Option Expr} (hl : lowerExpr? n e = .ok found) : ∀ o ∈ found, o.Regular := by
  intro o ho
  obtain ⟨c, hc, hlower⟩ := exists_of_mem_lowerExpr? hl ho
  exact h c hc n o hlower

/-- A lowered call is regular if its arguments lower to regular operands. -/
theorem regular_lowerCall {arguments : Sql.Arguments}
    (h : ∀ p ∈ Sql.Part.ofArguments arguments, LowersRegular p) {name : String} {o : Expr}
    (hl : lowerCall n name arguments = .ok o) : o.Regular := by
  cases arguments with
  | absent =>
    obtain rfl := pure_eq_ok_iff.mp hl
    exact Expr.regular_leaf (by decide) name
  | query q =>
    simp only [lowerCall, bind_eq_ok_iff, pure_eq_ok_iff] at hl
    obtain ⟨root, hroot, rfl⟩ := hl
    have hquery : root.Regular := h (.query q) List.mem_cons_self n root hroot
    refine Expr.regular_iff.mpr ⟨by simp [Expr.leaf, Expr.bare], ?_⟩
    simpa [Expr.leaf, Expr.bare] using hquery
  | list quantifier arguments clauses =>
    simp only [lowerCall, bind_eq_ok_iff, pure_eq_ok_iff, lowerArguments_eq_mapM] at hl
    obtain ⟨found, hfound, rfl⟩ := hl
    have hlist : ∀ o ∈ found, o.Regular :=
      regular_of_mem_mapM (fun e he => h (.expr e) (List.mem_map_of_mem he)) hfound
    refine Expr.regular_iff.mpr ⟨by simp [Expr.leaf, Expr.bare], ?_⟩
    simpa [Expr.leaf, Expr.bare] using hlist

/-- An expression lowers to regular ones if all its children do. -/
theorem lowersRegular_expr {e : Sql.Expr} (h : ∀ p ∈ Sql.Part.ofExpr e, LowersRegular p) :
    LowersRegular (.expr e) := by
  intro levels o hl
  obtain ⟨n, rfl⟩ : ∃ n, levels = n + 1 := by
    cases levels with
    | zero => rw [lowerExpr_zero] at hl; cases hl
    | succ n => exact ⟨n, rfl⟩
  -- Only a binary operation can lower to a conjunction, and that keeps both operands.
  cases e with
  | ident | value =>
    rw [lowerExpr] at hl
    obtain rfl := pure_eq_ok_iff.mp hl
    exact Expr.regular_leaf (by decide) _
  | verbatim text =>
    rw [lowerExpr] at hl
    obtain rfl := pure_eq_ok_iff.mp hl
    exact Expr.regular_bare (by decide)
  | compound parts =>
    rw [lowerExpr] at hl
    obtain rfl := pure_eq_ok_iff.mp hl
    exact Expr.regular_ofNames parts
  | nested inner | collate inner =>
    rw [lowerExpr] at hl
    exact h (.expr inner) List.mem_cons_self n o hl
  | binary left _ right | pattern _ _ _ left right | distinct left _ right =>
    rw [lowerExpr] at hl
    simp only [nested, bind_eq_ok_iff, pure_eq_ok_iff] at hl
    obtain ⟨l, hleft, r, hright, rfl⟩ := hl
    simp only [Sql.Part.ofExpr, List.forall_mem_cons] at h
    exact Expr.regular_binary _ (h.1 n l hleft) (h.2.1 n r hright)
  | unary op operand =>
    rw [lowerExpr] at hl
    simp only [nested, bind_eq_ok_iff, pure_eq_ok_iff] at hl
    obtain ⟨left, hleft, rfl⟩ := hl
    have hop : Op.ofUnary op ≠ .and := by cases op <;> simp [Op.ofUnary]
    exact Expr.regular_unary hop (h (.expr operand) List.mem_cons_self n left hleft)
  | isTruth operand negated truth =>
    rw [lowerExpr] at hl
    simp only [nested, bind_eq_ok_iff, pure_eq_ok_iff] at hl
    obtain ⟨left, hleft, rfl⟩ := hl
    have hop : (if negated then Op.isNot else .is) ≠ .and := by cases negated <;> decide
    exact Expr.regular_unary hop (h (.expr operand) List.mem_cons_self n left hleft)
  | isNull operand | isNotNull operand | cast _ operand =>
    rw [lowerExpr] at hl
    simp only [nested, bind_eq_ok_iff, pure_eq_ok_iff] at hl
    obtain ⟨left, hleft, rfl⟩ := hl
    exact Expr.regular_unary (by decide) (h (.expr operand) List.mem_cons_self n left hleft)
  | inList operand negated members =>
    rw [lowerExpr] at hl
    simp only [nested, bind_eq_ok_iff, pure_eq_ok_iff, lowerExprs_eq_mapM] at hl
    obtain ⟨left, hleft, found, hfound, rfl⟩ := hl
    simp only [Sql.Part.ofExpr, List.forall_mem_cons, List.forall_mem_map] at h
    have hoperand : left.Regular := h.1 n left hleft
    have hmembers : ∀ o ∈ found, o.Regular := regular_of_mem_mapM h.2 hfound
    refine Expr.regular_iff.mpr ⟨by simp [Expr.unary, Expr.bare], ?_⟩
    simpa [Expr.unary, Expr.bare] using ⟨hoperand, hmembers⟩
  | inQuery operand negated q =>
    rw [lowerExpr] at hl
    simp only [nested, bind_eq_ok_iff, pure_eq_ok_iff] at hl
    obtain ⟨left, hleft, root, hroot, rfl⟩ := hl
    simp only [Sql.Part.ofExpr, List.forall_mem_cons] at h
    have hoperand : left.Regular := h.1 n left hleft
    have hquery : root.Regular := h.2.1 n root hroot
    refine Expr.regular_iff.mpr ⟨by simp [Expr.unary, Expr.bare], ?_⟩
    simpa [Expr.unary, Expr.bare] using ⟨hoperand, hquery⟩
  | between operand negated low high =>
    rw [lowerExpr] at hl
    simp only [nested, bind_eq_ok_iff, pure_eq_ok_iff] at hl
    obtain ⟨left, hleft, below, hbelow, above, habove, rfl⟩ := hl
    simp only [Sql.Part.ofExpr, List.forall_mem_cons] at h
    have hoperand : left.Regular := h.1 n left hleft
    have hlow : below.Regular := h.2.1 n below hbelow
    have hhigh : above.Regular := h.2.2.1 n above habove
    refine Expr.regular_iff.mpr ⟨by simp [Expr.unary, Expr.bare], ?_⟩
    simpa [Expr.unary, Expr.bare] using ⟨hoperand, hlow, hhigh⟩
  | subquery q | «exists» _ q =>
    rw [lowerExpr] at hl
    simp only [nested, bind_eq_ok_iff, pure_eq_ok_iff] at hl
    obtain ⟨root, hroot, rfl⟩ := hl
    have hquery : root.Regular := h (.query q) List.mem_cons_self n root hroot
    refine Expr.regular_iff.mpr ⟨by simp [Expr.bare], ?_⟩
    simpa [Expr.bare] using hquery
  | call braced name parameters arguments suffix =>
    rw [lowerExpr] at hl
    exact regular_lowerCall h hl
  | case operand branches otherwise =>
    rw [lowerExpr] at hl
    simp only [nested, bind_eq_ok_iff, pure_eq_ok_iff, lowerBranches_eq_mapM] at hl
    obtain ⟨arms, harms, last, hlast, left, hleft, rfl⟩ := hl
    simp only [Sql.Part.ofExpr, List.forall_mem_append, List.forall_mem_map, Option.mem_toList] at h
    have hoperand : ∀ o ∈ left, o.Regular := regular_of_mem_lowerExpr? h.1.1 hleft
    have harms : ∀ o ∈ arms, o.Regular := regular_of_mem_mapM h.1.2 harms
    have hlast : ∀ o ∈ last, o.Regular := regular_of_mem_lowerExpr? h.2 hlast
    refine Expr.regular_iff.mpr
      ⟨by simp [Expr.bare], hoperand, by simp [Expr.bare], by simp [Expr.bare], ?_⟩
    rw [List.forall_mem_append]
    exact ⟨harms, fun o ho => hlast o (Option.mem_toList.mp ho)⟩

/-! ### Queries -/

/-- The lowered rows of a LIMIT are regular if their expressions lower to regular ones. -/
theorem regular_lowerLimit {l : Sql.Limit} (h : ∀ e ∈ l.exprs, LowersRegular (.expr e))
    {count offset : Option Expr} (hl : lowerLimit n l = .ok (count, offset)) :
    (∀ e ∈ count, e.Regular) ∧ ∀ e ∈ offset, e.Regular := by
  constructor
  · intro o ho
    obtain ⟨e, he, hlower⟩ :=
      exists_of_mem_lowerLimit hl (List.mem_append_left _ (Option.mem_toList.mpr ho))
    exact h e he n o hlower
  · intro o ho
    obtain ⟨e, he, hlower⟩ :=
      exists_of_mem_lowerLimit hl (List.mem_append_right _ (Option.mem_toList.mpr ho))
    exact h e he n o hlower

/-- A query lowers to regular selections if all its children do. -/
theorem lowersRegular_query {q : Sql.Query} (h : ∀ p ∈ Sql.Part.ofQuery q, LowersRegular p) :
    LowersRegular (.query q) := by
  obtain ⟨recursive, ctes, body, orderBy, limit, tail⟩ := q
  intro levels root hl
  rw [lowerQuery, nested_eq_ok_iff] at hl
  obtain ⟨n, rfl, hl⟩ := hl
  simp only [bind_eq_ok_iff, pure_eq_ok_iff, lowerCtes_eq_mapM, lowerOrderBy_eq_mapM] at hl
  obtain ⟨select, hselect, bodies, hbodies, keys, hkeys, ⟨count, offset⟩, hlimit, rfl⟩ := hl
  simp only [Sql.Part.ofQuery, List.mem_append, List.mem_cons, or_imp, forall_and, forall_eq,
    List.forall_mem_map] at h
  obtain ⟨⟨⟨hbody, hctes⟩, horderBy⟩, hlimits⟩ := h
  have hselect : select.Regular := hbody n none select hselect fun c hc => by cases hc
  have hbodies : ∀ c ∈ bodies, c.Regular := by
    intro c hc
    obtain ⟨inner, hinner, hlower⟩ := exists_of_mem_mapM hbodies hc
    obtain ⟨cte, hcte, rfl⟩ := List.mem_map.mp hinner
    exact hctes cte hcte n c hlower
  have hkeys : ∀ o ∈ keys, o.Regular := regular_of_mem_mapM horderBy hkeys
  obtain ⟨hcount, hoffset⟩ := regular_lowerLimit hlimits hlimit
  obtain ⟨hmembers, hprior, hprojection, hsources, hselection, hgroupBy, hmore, hhaving, -, -⟩ :=
    Select.regular_iff.mp hselect
  exact Select.regular_iff.mpr ⟨List.forall_mem_append.mpr ⟨hmembers, hbodies⟩, hprior, hprojection,
    hsources, hselection, hgroupBy, List.forall_mem_append.mpr ⟨hmore, hkeys⟩, hhaving,
    hcount, hoffset⟩

/-- A selection is as regular as what it is made of, if it is made of a member before, items and
sources. -/
theorem regular_of_blank {prior : Option Select} {projection : List Expr} {sources : List Source}
    (hprior : ∀ c ∈ prior, c.Regular) (hprojection : ∀ e ∈ projection, e.Regular)
    (hsources : ∀ s ∈ sources, s.Regular) :
    ({ Select.blank with prior, projection, sources } : Select).Regular :=
  Select.regular_iff.mpr ⟨by simp [Select.blank, default], hprior, hprojection, hsources,
    by simp [Select.blank, default]⟩

/-- The body of a query lowers to regular selections if all its children do. -/
theorem lowersRegular_body {b : Sql.SetExpr} (h : ∀ p ∈ Sql.Part.ofBody b, LowersRegular p) :
    LowersRegular (.body b) := by
  intro n prior root hl hprior
  cases b with
  | select s =>
    simp only [lowerSetExpr, bind_eq_ok_iff, pure_eq_ok_iff] at hl
    obtain ⟨select, hselect, rfl⟩ := hl
    have hselect : select.Regular := h (.select s) List.mem_cons_self n select hselect
    obtain ⟨hctes, -, hrest⟩ := Select.regular_iff.mp hselect
    exact Select.regular_iff.mpr ⟨hctes, hprior, hrest⟩
  | query q =>
    simp only [lowerSetExpr, bind_eq_ok_iff, pure_eq_ok_iff] at hl
    obtain ⟨inside, hinside, rfl⟩ := hl
    have hquery : inside.Regular := h (.query q) List.mem_cons_self n inside hinside
    refine regular_of_blank hprior (by simp [Select.blank, default]) ?_
    simpa [Source.regular_iff, Source.derived, Source.blank, default] using hquery
  | operation left op quantifier right =>
    simp only [lowerSetExpr, bind_eq_ok_iff, nested_eq_ok_iff] at hl
    obtain ⟨first, ⟨m, rfl, hfirst⟩, k, hlevels, hroot⟩ := hl
    simp only [Sql.Part.ofBody, List.forall_mem_cons] at h
    have hleft : first.Regular := h.1 m prior first hfirst hprior
    exact h.2.1 k (some first) root hroot fun c hc => by cases hc; exact hleft
  | values keyword row rows =>
    simp only [lowerSetExpr, bind_eq_ok_iff, pure_eq_ok_iff, lowerRows_eq_mapM] at hl
    obtain ⟨found, hfound, rfl⟩ := hl
    have hrows : ∀ o ∈ found, o.Regular :=
      regular_of_mem_mapM (fun e he => h (.expr e) (List.mem_map_of_mem he)) hfound
    exact regular_of_blank hprior hrows (by simp [Select.blank, default])
  | verbatim text =>
    obtain rfl := pure_eq_ok_iff.mp hl
    exact regular_of_blank hprior (by simp [Select.blank, default])
      (by simp [Select.blank, default])

/-! ### Selections and their sources -/

/-- The lowered items of a projection are regular if their expressions lower to regular ones. -/
theorem regular_of_mem_lowerItems {items : List Sql.SelectItem}
    (h : ∀ e ∈ items.flatMap Sql.SelectItem.exprs, LowersRegular (.expr e)) {found : List Expr}
    (hl : lowerItems n items = .ok found) : ∀ o ∈ found, o.Regular := by
  induction items generalizing found with
  | nil =>
    obtain rfl := pure_eq_ok_iff.mp hl
    simp
  | cons item rest ih =>
    rw [List.flatMap_cons, List.forall_mem_append] at h
    cases item with
    | expr value aliasName =>
      simp only [lowerItems, bind_eq_ok_iff, pure_eq_ok_iff] at hl
      obtain ⟨o, ho, found, hfound, rfl⟩ := hl
      exact List.forall_mem_cons.mpr ⟨h.1 value List.mem_cons_self n o ho, ih h.2 hfound⟩
    | wildcard text =>
      simp only [lowerItems, bind_eq_ok_iff, pure_eq_ok_iff] at hl
      obtain ⟨found, hfound, rfl⟩ := hl
      exact List.forall_mem_cons.mpr ⟨Expr.regular_bare (by decide), ih h.2 hfound⟩

/-- Sources in one list are regular if those that come from the same thing are. -/
theorem regular_of_mem_flatten {α : Type} {f : α → Lowered (List Source)} {as : List α}
    (h : ∀ a ∈ as, ∀ found, f a = .ok found → ∀ s ∈ found, s.Regular) {found : List Source}
    (hl : List.flatten <$> as.mapM f = .ok found) : ∀ s ∈ found, s.Regular := by
  obtain ⟨lists, hlists, rfl⟩ := map_eq_ok_iff.mp hl
  intro s hs
  obtain ⟨list, hlist, hs⟩ := List.mem_flatten.mp hs
  obtain ⟨a, ha, hlower⟩ := exists_of_mem_mapM hlists hlist
  exact h a ha list hlower s hs

/-- A select lowers to regular selections if all its children do. -/
theorem lowersRegular_select {s : Sql.Select} (h : ∀ p ∈ Sql.Part.ofSelect s, LowersRegular p) :
    LowersRegular (.select s) := by
  obtain ⟨form, head, projection, into, sources, beforeWhere, selection, groupBy,
    beforeHaving, having, tail⟩ := s
  intro n root hl
  simp only [lowerSelect, bind_eq_ok_iff, pure_eq_ok_iff, lowerSources_eq_mapM,
    lowerGroupBy_eq_mapM] at hl
  obtain ⟨items, hitems, found, hfound, filter, hfilter, keys, hkeys, groupFilter, hgroupFilter,
    rfl⟩ := hl
  simp only [Sql.Part.ofSelect, List.forall_mem_append, List.forall_mem_map, Option.mem_toList] at h
  obtain ⟨⟨⟨⟨hprojection, hsources⟩, hselection⟩, hgroupBy⟩, hhaving⟩ := h
  exact Select.regular_iff.mpr ⟨by simp [Select.blank, default], by simp [Select.blank, default],
    regular_of_mem_lowerItems hprojection hitems,
    regular_of_mem_flatten (fun t ht => hsources t ht n) hfound,
    regular_of_mem_lowerExpr? hselection hfilter, regular_of_mem_mapM hgroupBy hkeys,
    by simp [Select.blank, default], regular_of_mem_lowerExpr? hhaving hgroupFilter,
    by simp [Select.blank, default]⟩

/-- A relation with its joins lowers to regular sources if all its children do. -/
theorem lowersRegular_tableJoins {t : Sql.TableJoins}
    (h : ∀ p ∈ Sql.Part.ofTableJoins t, LowersRegular p) : LowersRegular (.tableJoins t) := by
  obtain ⟨relation, joins⟩ := t
  intro n found hl
  rw [lowerTableJoins, lowerJoins_eq_mapM] at hl
  simp only [bind_eq_ok_iff, pure_eq_ok_iff] at hl
  obtain ⟨opening, hopening, joined, hjoined, rfl⟩ := hl
  simp only [Sql.Part.ofTableJoins, List.forall_mem_cons, List.forall_mem_map] at h
  exact List.forall_mem_append.mpr
    ⟨h.1 n opening hopening, regular_of_mem_flatten (fun j hj => h.2 j hj n) hjoined⟩

/-- A table factor lowers to regular sources if all its children do. -/
theorem lowersRegular_factor {f : Sql.TableFactor}
    (h : ∀ p ∈ Sql.Part.ofFactor f, LowersRegular p) : LowersRegular (.factor f) := by
  intro levels found hl
  cases f with
  | table name beforeAlias aliasName behindAlias =>
    obtain rfl := pure_eq_ok_iff.mp hl
    simp [Source.regular_iff, Source.table, Source.blank, default]
  | derived lateral q aliasName =>
    simp only [lowerTableFactor, bind_eq_ok_iff, pure_eq_ok_iff] at hl
    obtain ⟨root, hroot, rfl⟩ := hl
    have hquery : root.Regular := h (.query q) List.mem_cons_self levels root hroot
    simpa [Source.regular_iff, Source.derived, Source.blank, default] using hquery
  | nested t aliasName =>
    simp only [lowerTableFactor, nested_eq_ok_iff] at hl
    obtain ⟨n, rfl, hfound⟩ := hl
    exact h (.tableJoins t) List.mem_cons_self n found hfound
  | verbatim beforeAlias aliasName behindAlias =>
    obtain rfl := pure_eq_ok_iff.mp hl
    simp [Source.regular_iff, Source.blank, default]

/-- A join lowers to regular sources if all its children do. -/
theorem lowersRegular_join {j : Sql.Join}
    (h : ∀ p ∈ Sql.Part.ofJoin keepsConstraint j, LowersRegular p) : LowersRegular (.join j) := by
  obtain ⟨isGlobal, kind, relation, constraint⟩ := j
  intro n found hl
  simp only [lowerJoins, bind_eq_ok_iff, pure_eq_ok_iff] at hl
  obtain ⟨opening, hopening, joined, hjoined, _, rfl, rfl⟩ := hl
  rw [List.append_nil]
  have hopening : ∀ s ∈ opening, s.Regular :=
    h (.factor relation) List.mem_cons_self n opening hopening
  cases hkept : keepsConstraint kind with
  | false =>
    rw [hkept] at hjoined
    have hsame : (pure opening : Lowered _) = .ok joined := by
      cases constraint <;> simpa only [lowerConstraint] using hjoined
    exact pure_eq_ok_iff.mp hsame ▸ hopening
  | true =>
    rw [hkept] at hjoined
    cases constraint with
    | on condition =>
      simp only [lowerConstraint, bind_eq_ok_iff, pure_eq_ok_iff] at hjoined
      obtain ⟨on, hlower, rfl⟩ := hjoined
      have hmem : Sql.Part.expr condition
          ∈ Sql.Part.ofJoin keepsConstraint (.mk isGlobal kind relation (.on condition)) := by
        simp [Sql.Part.ofJoin, hkept, Sql.JoinConstraint.exprs]
      have hcondition : on.Regular := h _ hmem n on hlower
      exact regular_attach hopening fun e he => by cases he; exact hcondition
    | «using» columns =>
      simp only [lowerConstraint] at hjoined
      obtain rfl := pure_eq_ok_iff.mp hjoined
      exact regular_attach hopening fun e he => by cases he
    | natural | none =>
      simp only [lowerConstraint] at hjoined
      obtain rfl := pure_eq_ok_iff.mp hjoined
      exact hopening

/-- By induction over the tree: every node lowers to regular trees only. -/
theorem lowersRegular (p : Sql.Part) : LowersRegular p := by
  induction p using Sql.Part.induct keepsConstraint with
  | h p ih =>
    cases p with
    | expr e => exact lowersRegular_expr ih
    | query q => exact lowersRegular_query ih
    | body b => exact lowersRegular_body ih
    | select s => exact lowersRegular_select ih
    | tableJoins t => exact lowersRegular_tableJoins ih
    | factor f => exact lowersRegular_factor ih
    | join j => exact lowersRegular_join ih

end Nodes

end QueryLint.Outline

namespace QueryLint.Analysis

open Outline

/-- The outline of a query has conjunctions with two operands and nothing else inside. In any
selection of this kind every conjunction belongs to the chain of exactly one top, which is a
conjunction not directly inside a conjunction, and every comparison directly inside a conjunction
that an index can serve is a member of exactly one chain, once; it contributes one column to that
chain, and a walk that was not cut short records the columns of those chains that have more than
one. After any number of walks under any limit every group that was recorded has at least two
columns, and the flag is set exactly if there is some group. -/
theorem conjunctions_partition :
    (∀ (levels : Nat) (q : Sql.Query) (root : Select), lowerQuery levels q = .ok root →
        (Part.select root).Regular)
      ∧ (∀ (limit : Nat) (root : Select), (Part.select root).Regular →
        (ofSelect limit root).truncated = false →
        let all := Part.select root
        (∀ path, all.opAt? path = some .and → ∃! top, all.IsTop top ∧ all.InChain top path)
          ∧ (∀ path, (all.columnAt? path).isSome = true → all.opAt? path.dropLast = some .and →
            ∃! top, all.IsTop top ∧ path ∈ all.members top)
          ∧ (∀ top, (all.members top).Nodup
            ∧ (all.columns top).map some = (all.members top).map all.columnAt?
            ∧ ∀ path, path ∈ all.members top
              ↔ (all.columnAt? path).isSome = true ∧ all.InChain top path.dropLast)
          ∧ all.tops.Nodup ∧ (∀ top, top ∈ all.tops ↔ all.IsTop top)
          ∧ (ofSelect limit root).columnGroups
            = (all.tops.map all.columns).filter fun columns => 1 < columns.length)
      ∧ ∀ (limit : Nat) (root : Select) (n : Nat),
        (∀ columns ∈ (passes limit root n).columnGroups, 2 ≤ columns.length)
          ∧ ((passes limit root n).hasAnd = true ↔ (passes limit root n).columnGroups ≠ []) := by
  refine ⟨fun levels q => lowersRegular (.query q) levels, fun limit root hregular hwhole => ?_,
    fun limit root n => ⟨(grouped_passes limit root n).several, (grouped_passes limit root n).flag⟩⟩
  intro all
  have hnodup : (all.paths true).Nodup := Part.nodup_paths true all
  exact ⟨fun path => Part.existsUnique_top, fun path => Part.existsUnique_top_of_column,
    fun top => ⟨hnodup.filter _, all.map_some_columns top, fun path => Part.mem_members_iff⟩,
    hnodup.filter _, fun top => Part.mem_tops_iff, columnGroups_eq_columns hregular hwhole⟩

/-- A conjunction of a comparison and an alternative has one column to itself, and either side of
the alternative, also below a negation, begins a chain of its own. -/
theorem conjunctions_partition_alternative :
    let compare (column : String) : Sql.Expr :=
      .binary (.ident (.plain column)) .eq (.value (.number "1" false))
    let alternative : Sql.Expr := .binary (.binary (compare "b") .and (compare "c")) .or
      (.unary .not (.nested (.binary (compare "d") .and (compare "e"))))
    let q : Sql.Query := .mk false []
      (.select (.mk .standard "" [.wildcard "*"] "" [.mk (.table ⟨[.plain "t"]⟩ "" none "") []] ""
        (some (.binary (compare "a") .and (.nested alternative))) (.keys [] "") "" none ""))
      (.keys [] "") (.clauses none none "") ""
    ∃ root, lowerQuery 16 q = .ok root ∧ (ofSelect 16 root).truncated = false
      ∧ (Part.select root).tops.map (Part.select root).columns = [["a"], ["b", "c"], ["d", "e"]]
      ∧ (ofSelect 16 root).columnGroups = [["b", "c"], ["d", "e"]]
      ∧ (passes 4 root 2).columnGroups ≠ [] ∧ (passes 4 root 2).hasAnd = true := by
  intro compare alternative q
  obtain ⟨root, hlower, hwhole, htops, hsome⟩ :
      ∃ root, lowerQuery 16 q = .ok root ∧ (ofSelect 16 root).truncated = false
        ∧ (Part.select root).tops.map (Part.select root).columns = [["a"], ["b", "c"], ["d", "e"]]
        ∧ (passes 4 root 2).columnGroups ≠ [] :=
    ⟨_, rfl, by decide_cbv, by decide_cbv, by decide_cbv⟩
  obtain ⟨hregular, hpartition, hpasses⟩ := conjunctions_partition
  obtain ⟨-, -, -, -, -, hgroups⟩ := hpartition 16 root (hregular 16 q root hlower) hwhole
  refine ⟨root, hlower, hwhole, htops, ?_, hsome, (hpasses 4 root 2).2.mpr hsome⟩
  rw [hgroups, htops]
  rfl

end QueryLint.Analysis
