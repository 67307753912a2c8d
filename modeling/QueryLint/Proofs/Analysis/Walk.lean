import QueryLint.Analysis
import QueryLint.Proofs.Analysis.Parts

/-!
# The walk as a list of visits

Where a walk stops does not depend on what it has found. `visits` lists the stops of a walk in their
order: on arrival at a part, and again amid it, when the parts inside it that come before were
walked. A walk under a limit does what is to be done at each of these stops in turn, except that it
only notes that it was cut short at those that are too deep (`visitSelect_eq_follow`).
-/

namespace QueryLint.Analysis

open Outline

/-- A stop of a walk at a part, with the depth at which the walk reached it. -/
inductive Visit where
  /-- The walk reaches the part. -/
  | arrive (depth : Nat) (p : Part)
  /-- The walk has left what comes before inside the part, and looks at the part itself. -/
  | amid (depth : Nat) (p : Part)

namespace Visit

/-- How deep a stop is. -/
def depth : Visit → Nat
  | arrive d _ => d
  | amid d _ => d

/-- The part at which a walk stops. -/
def part : Visit → Part
  | arrive _ p => p
  | amid _ p => p

/-- What is done at a stop that is not too deep. -/
def note : Visit → Analysis → Analysis
  | arrive d (.source reader s), a => a.noteSource ⟨d, reader⟩ s
  | amid _ (.source _ s), a => a.noteJoin s
  | amid _ (.expr parent e), a => a.noteOp parent e
  | _, a => a

/-- What is done at a stop under a limit. -/
def noteWithin (limit : Nat) (v : Visit) (a : Analysis) : Analysis :=
  if v.depth < limit then v.note a else { a with truncated := true }

end Visit

/-- The stops of a walk at a part that it reaches at some depth, in their order. -/
def visits (depth : Nat) (p : Part) : List Visit :=
  .arrive depth p :: (p.before.attach.flatMap (fun q => visits (depth + q.1.levels) q.1)
    ++ .amid depth p :: p.behind.attach.flatMap fun q => visits (depth + q.1.levels) q.1)
termination_by p.size
decreasing_by
  · exact Part.size_lt_of_mem_inner (List.mem_append_left _ q.2)
  · exact Part.size_lt_of_mem_inner (List.mem_append_right _ q.2)

/-- What is found when some stops are made one after the other. -/
def follow (limit : Nat) (stops : List Visit) (a : Analysis) : Analysis :=
  stops.foldl (fun a v => v.noteWithin limit a) a

/-- The stops of walks at some parts inside a part that was reached at some depth. -/
def visitsOf (depth : Nat) (parts : List Part) : List Visit :=
  parts.flatMap fun q => visits (depth + q.levels) q

@[simp] theorem visitsOf_nil (depth : Nat) : visitsOf depth [] = [] := rfl

/-- The stops at two lists of parts are those at the first and then those at the second. -/
@[simp] theorem visitsOf_append (depth : Nat) (parts more : List Part) :
    visitsOf depth (parts ++ more) = visitsOf depth parts ++ visitsOf depth more :=
  List.flatMap_append

variable {limit depth : Nat} {p q : Part} {v : Visit} {a : Analysis}

/-- A walk at a part arrives, goes through what comes before, stops amid it, and goes through what
comes behind. -/
theorem visits_eq (depth : Nat) (p : Part) :
    visits depth p
      = .arrive depth p ::
        (visitsOf depth p.before ++ .amid depth p :: visitsOf depth p.behind) := by
  rw [visits, visitsOf, visitsOf]
  simp

/-- A stop at some parts is a stop at one of them. -/
theorem mem_visitsOf_iff {parts : List Part} :
    v ∈ visitsOf depth parts ↔ ∃ q ∈ parts, v ∈ visits (depth + q.levels) q :=
  List.mem_flatMap

/-- A stop at a part is its arrival, the one amid it, or a stop at a part inside it. -/
theorem mem_visits_iff :
    v ∈ visits depth p
      ↔ v = .arrive depth p ∨ v = .amid depth p
        ∨ ∃ q ∈ p.inner, v ∈ visits (depth + q.levels) q := by
  rw [visits_eq, List.mem_cons, List.mem_append, List.mem_cons, mem_visitsOf_iff, mem_visitsOf_iff,
    Part.inner]
  simp only [List.mem_append, or_and_right, exists_or]
  exact or_congr_right or_left_comm

/-- No stop is less deep than the part at which the walk begins. -/
theorem le_depth_of_mem_visits (hv : v ∈ visits depth p) : depth ≤ v.depth := by
  induction p using Part.induct generalizing depth with
  | h p ih =>
    rcases mem_visits_iff.mp hv with rfl | rfl | ⟨q, hq, hv⟩
    · exact Nat.le_refl _
    · exact Nat.le_refl _
    · exact Nat.le_of_add_right_le (ih q hq hv)

/-- A walk stops twice at each part that is in the one at which it begins. -/
theorem exists_mem_visits (h : q.IsIn p) (depth : Nat) :
    ∃ d, .arrive d q ∈ visits depth p ∧ .amid d q ∈ visits depth p := by
  induction p using Part.induct generalizing depth with
  | h p ih =>
    rcases Part.isIn_iff.mp h with rfl | ⟨c, hc, hq⟩
    · exact ⟨depth, mem_visits_iff.mpr (.inl rfl), mem_visits_iff.mpr (.inr (.inl rfl))⟩
    · obtain ⟨d, harrive, hamid⟩ := ih c hc hq (depth + c.levels)
      exact ⟨d, mem_visits_iff.mpr (.inr (.inr ⟨c, hc, harrive⟩)),
        mem_visits_iff.mpr (.inr (.inr ⟨c, hc, hamid⟩))⟩

/-- A walk only stops at parts that are in the one at which it begins. -/
theorem isIn_of_mem_visits (hv : v ∈ visits depth p) : v.part.IsIn p := by
  induction p using Part.induct generalizing depth with
  | h p ih =>
    rcases mem_visits_iff.mp hv with rfl | rfl | ⟨q, hq, hv⟩
    · exact .refl p
    · exact .refl p
    · exact Part.isIn_iff.mpr (.inr ⟨q, hq, ih q hq hv⟩)

/-! ### Stops in turn -/

@[simp] theorem follow_cons (limit : Nat) (v : Visit) (stops : List Visit) (a : Analysis) :
    follow limit (v :: stops) a = follow limit stops (v.noteWithin limit a) := rfl

/-- Arriving at a part above the limit does what is to be done there. -/
theorem follow_arrive (h : depth < limit) (p : Part) (a : Analysis) :
    follow limit [.arrive depth p] a = (Visit.arrive depth p).note a := if_pos h

/-- Stopping amid a part above the limit does what is to be done there. -/
theorem follow_amid (h : depth < limit) (p : Part) (a : Analysis) :
    follow limit [.amid depth p] a = (Visit.amid depth p).note a := if_pos h

/-- Two lists of stops are made one after the other. -/
@[simp] theorem follow_append (limit : Nat) (stops more : List Visit) (a : Analysis) :
    follow limit (stops ++ more) a = follow limit more (follow limit stops a) :=
  List.foldl_append

/-- Noting a source does not read the depth. -/
theorem noteSource_withDepth (o : Occurrence) (s : Source) (a : Analysis) (d : Nat) :
    noteSource o s { a with depth := d } = { noteSource o s a with depth := d } := by
  obtain ⟨name, aliasName, select, columns, on⟩ := s
  cases name <;> cases aliasName <;> rfl

/-- Noting a join does not read the depth. -/
theorem noteJoin_withDepth (s : Source) (a : Analysis) (d : Nat) :
    noteJoin s { a with depth := d } = { noteJoin s a with depth := d } := by
  unfold noteJoin
  split <;> rfl

/-- Noting an operator does not read the depth. -/
theorem noteOp_withDepth (parent : Option Op) (e : Expr) (a : Analysis) (d : Nat) :
    noteOp parent e { a with depth := d } = { noteOp parent e a with depth := d } := by
  unfold noteOp noteChain
  (repeat' split) <;> rfl

/-- A stop neither reads nor changes how deep the walk is. -/
theorem Visit.noteWithin_withDepth (limit : Nat) (v : Visit) (a : Analysis) (d : Nat) :
    v.noteWithin limit { a with depth := d } = { v.noteWithin limit a with depth := d } := by
  unfold noteWithin
  split
  · rcases v with ⟨_, _ | ⟨reader, s⟩ | _⟩ | ⟨_, _ | ⟨reader, s⟩ | ⟨parent, e⟩⟩
    · rfl
    · exact noteSource_withDepth _ s a d
    · rfl
    · rfl
    · exact noteJoin_withDepth s a d
    · exact noteOp_withDepth parent e a d
  · rfl

/-- No stop reads the depth of the walk: it carries its own. -/
@[simp] theorem follow_withDepth (limit : Nat) (stops : List Visit) (a : Analysis) (d : Nat) :
    follow limit stops { a with depth := d } = { follow limit stops a with depth := d } := by
  induction stops generalizing a with
  | nil => rfl
  | cons v rest ih => rw [follow_cons, Visit.noteWithin_withDepth, ih, follow_cons]

/-- No stop changes the depth of the walk. -/
@[simp] theorem follow_depth (limit : Nat) (stops : List Visit) (a : Analysis) :
    (follow limit stops a).depth = a.depth := by
  have h := congrArg Analysis.depth (follow_withDepth limit stops a a.depth)
  exact h

/-- At stops that are all too deep, a walk only notes that it was cut short. -/
theorem follow_of_deep {stops : List Visit} (hne : stops ≠ []) (h : ∀ v ∈ stops, limit ≤ v.depth) :
    follow limit stops a = { a with truncated := true } := by
  induction stops generalizing a with
  | nil => exact absurd rfl hne
  | cons v rest ih =>
    have hv : v.noteWithin limit a = { a with truncated := true } := by
      rw [Visit.noteWithin, if_neg (Nat.not_lt_of_le (h v List.mem_cons_self))]
    rw [follow_cons, hv]
    cases rest with
    | nil => rfl
    | cons w rest => rw [ih (by simp) fun u hu => h u (List.mem_cons_of_mem v hu)]

/-- A part is entered by making its stops, if what is done inside makes those behind its arrival. -/
theorem enter_eq_follow {visit : Analysis → Analysis}
    (harrive : ∀ d a, (Visit.arrive d p).note a = a)
    (hvisit : a.depth < limit → visit { a with depth := a.depth + 1 }
      = follow limit (visitsOf a.depth p.before ++ .amid a.depth p :: visitsOf a.depth p.behind)
        { a with depth := a.depth + 1 }) :
    a.enter limit visit = follow limit (visits a.depth p) a := by
  unfold enter
  split
  · next hdeep =>
    refine (follow_of_deep ?_ fun v hv => Nat.le_trans hdeep (le_depth_of_mem_visits hv)).symm
    rw [visits_eq]
    exact List.cons_ne_nil _ _
  · next hshallow =>
    have hlt := Nat.lt_of_not_le hshallow
    have hnote : (Visit.arrive a.depth p).noteWithin limit a = a :=
      (follow_arrive hlt p a).trans (harrive a.depth a)
    rw [hvisit hlt, visits_eq, follow_cons, hnote, follow_withDepth]
    dsimp only
    rw [Nat.add_sub_cancel]
    exact (follow_withDepth limit _ a a.depth).symm

/-! ### The walk makes its stops -/

/-- A walk at a part does what is to be done at its stops. At a source it is already one level
deeper, in the selection that reads it. -/
def MakesItsStops (limit : Nat) : Part → Prop
  | .select s => ∀ a, visitSelect limit s a = follow limit (visits a.depth (.select s)) a
  | .source reader s => ∀ a d, a.depth = d + 1 → d < limit →
    visitSources limit reader [s] a = follow limit (visits d (.source reader s)) a
  | .expr parent e =>
    ∀ a, visitExpr limit parent e a = follow limit (visits a.depth (.expr parent e)) a

/-- An optional selection is visited as a list of at most one. -/
theorem visitSelect?_eq (limit : Nat) (s : Option Select) (a : Analysis) :
    visitSelect? limit s a = visitSelects limit s.toList a := by
  cases s <;> rfl

/-- An optional expression is visited as a list of at most one. -/
theorem visitExpr?_eq (limit : Nat) (parent : Option Op) (e : Option Expr) (a : Analysis) :
    visitExpr? limit parent e a = visitExprs limit parent e.toList a := by
  cases e <;> rfl

/-- Visiting some selections makes their stops, if visiting each of them does. -/
theorem visitSelects_eq_follow {selects : List Select} (ha : a.depth = depth + 1)
    (h : ∀ s ∈ selects, MakesItsStops limit (.select s)) :
    visitSelects limit selects a = follow limit (visitsOf depth (selects.map .select)) a := by
  induction selects generalizing a with
  | nil => rfl
  | cons s rest ih =>
    rw [visitSelects, h s List.mem_cons_self a, ih (by rw [follow_depth, ha])
      fun c hc => h c (List.mem_cons_of_mem s hc), ha, ← follow_append]
    rfl

/-- Visiting some expressions makes their stops, if visiting each of them does. -/
theorem visitExprs_eq_follow {parent : Option Op} {exprs : List Expr} (ha : a.depth = depth + 1)
    (h : ∀ e ∈ exprs, MakesItsStops limit (.expr parent e)) :
    visitExprs limit parent exprs a
      = follow limit (visitsOf depth (exprs.map (.expr parent))) a := by
  induction exprs generalizing a with
  | nil => rfl
  | cons e rest ih =>
    rw [visitExprs, h e List.mem_cons_self a, ih (by rw [follow_depth, ha])
      fun c hc => h c (List.mem_cons_of_mem e hc), ha, ← follow_append]
    rfl

/-- Visiting the sources of a selection makes their stops, if visiting each of them does. -/
theorem visitSources_eq_follow {reader : Select} {sources : List Source} (ha : a.depth = depth + 1)
    (hd : depth < limit) (h : ∀ s ∈ sources, MakesItsStops limit (.source reader s)) :
    visitSources limit reader sources a
      = follow limit (visitsOf depth (sources.map (.source reader))) a := by
  induction sources generalizing a with
  | nil => rfl
  | cons s rest ih =>
    have hcons : visitSources limit reader (s :: rest) a
        = visitSources limit reader rest (visitSources limit reader [s] a) := by
      cases s
      rfl
    rw [hcons, h s List.mem_cons_self a depth ha hd, ih (by rw [follow_depth, ha])
      fun c hc => h c (List.mem_cons_of_mem s hc), ← follow_append]
    rfl

/-- A selection makes its stops if the parts inside it make theirs. -/
theorem makesItsStops_select {s : Select}
    (h : ∀ q ∈ (Part.select s).inner, MakesItsStops limit q) : MakesItsStops limit (.select s) := by
  intro a
  obtain ⟨ctes, prior, projection, sources, selection, groupBy, orderBy, having, count, offset⟩ := s
  simp only [Part.inner, Part.before, Part.behind, List.nil_append, List.forall_mem_append,
    List.forall_mem_map, and_assoc] at h
  obtain ⟨hctes, hprior, hprojection, hsources, hselection, hgroupBy, horderBy, hhaving, hcount,
    hoffset⟩ := h
  rw [visitSelect]
  refine enter_eq_follow (fun _ _ => rfl) fun hlt => ?_
  have hamid :
      (Visit.amid a.depth (.select ⟨ctes, prior, projection, sources, selection, groupBy, orderBy,
      having, count, offset⟩)).noteWithin limit { a with depth := a.depth + 1 }
      = { a with depth := a.depth + 1 } := follow_amid hlt _ _
  have hdepth : ∀ stops, (follow limit stops { a with depth := a.depth + 1 }).depth = a.depth + 1 :=
    fun stops => follow_depth limit stops _
  rw [Part.before, visitsOf_nil, List.nil_append, follow_cons, hamid]
  simp only [Part.behind, visitSelect?_eq, visitExpr?_eq]
  rw [visitSelects_eq_follow rfl hctes, visitSelects_eq_follow (hdepth _) hprior, ← follow_append,
    visitExprs_eq_follow (hdepth _) hprojection, ← follow_append,
    visitSources_eq_follow (hdepth _) hlt hsources, ← follow_append,
    visitExprs_eq_follow (hdepth _) hselection, ← follow_append,
    visitExprs_eq_follow (hdepth _) hgroupBy, ← follow_append,
    visitExprs_eq_follow (hdepth _) horderBy, ← follow_append,
    visitExprs_eq_follow (hdepth _) hhaving, ← follow_append,
    visitExprs_eq_follow (hdepth _) hcount, ← follow_append,
    visitExprs_eq_follow (hdepth _) hoffset, ← follow_append]
  simp only [visitsOf_append]

/-- A source makes its stops if the parts inside it make theirs. -/
theorem makesItsStops_source {reader : Select} {s : Source}
    (h : ∀ q ∈ (Part.source reader s).inner, MakesItsStops limit q) :
    MakesItsStops limit (.source reader s) := by
  intro a d ha hlt
  obtain ⟨name, aliasName, select, columns, on⟩ := s
  simp only [Part.inner, Part.before, Part.behind, List.forall_mem_append, List.forall_mem_map] at h
  obtain ⟨hselect, hon⟩ := h
  have harrive : noteSource ⟨d, reader⟩ ⟨name, aliasName, select, columns, on⟩ a
      = follow limit [.arrive d (.source reader ⟨name, aliasName, select, columns, on⟩)] a := by
    rw [follow_arrive hlt]
    rfl
  have hamid : ∀ b, noteJoin ⟨name, aliasName, select, columns, on⟩ b
      = follow limit [.amid d (.source reader ⟨name, aliasName, select, columns, on⟩)] b := by
    intro b
    rw [follow_amid hlt]
    rfl
  have hdepth : ∀ stops, (follow limit stops a).depth = d + 1 :=
    fun stops => (follow_depth limit stops a).trans ha
  simp only [visitSources, visitSelect?_eq, visitExpr?_eq]
  rw [ha, Nat.add_sub_cancel, harrive, visitSelects_eq_follow (hdepth _) hselect, ← follow_append,
    hamid, ← follow_append, visitExprs_eq_follow (hdepth _) hon, ← follow_append, visits_eq]
  simp only [Part.before, Part.behind, List.append_assoc, List.cons_append, List.nil_append]

/-- An expression makes its stops if the parts inside it make theirs. -/
theorem makesItsStops_expr {parent : Option Op} {e : Expr}
    (h : ∀ q ∈ (Part.expr parent e).inner, MakesItsStops limit q) :
    MakesItsStops limit (.expr parent e) := by
  intro a
  obtain ⟨op, left, right, select, list, token⟩ := e
  simp only [Part.inner, Part.before, Part.behind, List.forall_mem_append, List.forall_mem_map,
    and_assoc] at h
  obtain ⟨hleft, hright, hselect, hlist⟩ := h
  rw [visitExpr]
  refine enter_eq_follow (fun _ _ => rfl) fun hlt => ?_
  have hamid : ∀ b, noteOp parent ⟨op, left, right, select, list, token⟩ b
      = follow limit [.amid a.depth (.expr parent ⟨op, left, right, select, list, token⟩)] b := by
    intro b
    rw [follow_amid hlt]
    rfl
  have hdepth : ∀ stops, (follow limit stops { a with depth := a.depth + 1 }).depth = a.depth + 1 :=
    fun stops => follow_depth limit stops _
  simp only [visitSelect?_eq, visitExpr?_eq]
  rw [visitExprs_eq_follow rfl hleft, hamid, ← follow_append,
    visitExprs_eq_follow (hdepth _) hright, ← follow_append,
    visitSelects_eq_follow (hdepth _) hselect, ← follow_append,
    visitExprs_eq_follow (hdepth _) hlist, ← follow_append]
  simp only [Part.before, Part.behind, visitsOf_append, List.append_assoc, List.cons_append,
    List.nil_append]

/-- By induction over the tree: a walk at a part makes the stops that the part has. -/
theorem makesItsStops (limit : Nat) (p : Part) : MakesItsStops limit p := by
  induction p using Part.induct with
  | h p ih =>
    cases p with
    | select s => exact makesItsStops_select ih
    | source reader s => exact makesItsStops_source ih
    | expr parent e => exact makesItsStops_expr ih

/-- A walk at a selection does what is to be done at its stops, whatever was found before. -/
theorem visitSelect_eq_follow (limit : Nat) (s : Select) (a : Analysis) :
    visitSelect limit s a = follow limit (visits a.depth (.select s)) a :=
  makesItsStops limit (.select s) a

/-! ### Walks that are not cut short -/

/-- No stop is deeper than what the walk goes through is high. -/
theorem depth_le_of_mem_visits (hv : v ∈ visits depth p) :
    v.depth + p.levels ≤ depth + p.height := by
  induction p using Part.induct generalizing depth with
  | h p ih =>
    have hlevels := p.levels_le_height
    rcases mem_visits_iff.mp hv with rfl | rfl | ⟨q, hq, hv⟩
    · exact Nat.add_le_add_left hlevels depth
    · exact Nat.add_le_add_left hlevels depth
    · have hinner := ih q hq hv
      have hheight := Part.levels_add_height_le hq
      omega

/-- Above the limit every stop is made, and truncates nothing. -/
theorem follow_of_shallow {stops : List Visit} (h : ∀ v ∈ stops, v.depth < limit) (a : Analysis) :
    follow limit stops a = stops.foldl (fun a v => v.note a) a := by
  induction stops generalizing a with
  | nil => rfl
  | cons v rest ih =>
    rw [follow_cons, Visit.noteWithin, if_pos (h v List.mem_cons_self),
      ih fun w hw => h w (List.mem_cons_of_mem v hw)]
    rfl

/-- A walk over a query that is not nested too deeply does what is to be done at each of its
stops. -/
theorem ofSelect_eq_foldl {root : Select} (h : (Part.select root).height ≤ limit) :
    ofSelect limit root = (visits 0 (.select root)).foldl (fun a v => v.note a) start := by
  rw [← follow_of_shallow]
  · exact visitSelect_eq_follow limit root start
  · intro v hv
    have hdepth : v.depth + 1 ≤ 0 + (Part.select root).height := depth_le_of_mem_visits hv
    omega

end QueryLint.Analysis
