import Mathlib.Data.List.Forall2
import QueryLint.Proofs.Analysis.Conjunctions
import QueryLint.Proofs.Outline.Wrappers

/-!
# Regrouped conjunctions

In a chain of `AND` it makes no difference how the conjunctions are grouped. `Part.Regroups` says
that two queries differ at one place, where the one has `(x AND y) AND z` and the other
`x AND (y AND z)`. Which conjunction is the top of the chain is then another one, and so is the time
at which the walk comes amid it, but not what it compares (`Regroups.sameOwn`). Walks that stop at
alike parts find the same tables, aliases and flags in the same order, and the same groups of
columns in some order (`Alike`).
-/

namespace QueryLint

namespace Outline

/-- The conjunction of two expressions, with nothing else inside. -/
def Expr.conjunction (left right : Expr) (token : Option String) : Expr :=
  { Expr.binary .and left right with token }

namespace Part

/-- At one place in a part `(x AND y) AND z` is written as `x AND (y AND z)`. There is one rule for
the place itself, and one for each kind of place that a part has inside. -/
inductive Regroups : Part → Part → Prop
  | here (parent : Option Op) (x y z : Expr) (outer inner outer' inner' : Option String) :
    Regroups (.expr parent (.conjunction (.conjunction x y inner) z outer))
      (.expr parent (.conjunction x (.conjunction y z inner') outer'))
  | left (parent : Option Op) (e : Expr) {c c' : Expr}
      (h : Regroups (.expr (some e.op) c) (.expr (some e.op) c')) :
    Regroups (.expr parent { e with left := some c }) (.expr parent { e with left := some c' })
  | right (parent : Option Op) (e : Expr) {c c' : Expr}
      (h : Regroups (.expr (some e.op) c) (.expr (some e.op) c')) :
    Regroups (.expr parent { e with right := some c }) (.expr parent { e with right := some c' })
  | query (parent : Option Op) (e : Expr) {s s' : Select} (h : Regroups (.select s) (.select s')) :
    Regroups (.expr parent { e with select := some s }) (.expr parent { e with select := some s' })
  | member (parent : Option Op) (e : Expr) (before behind : List Expr) {c c' : Expr}
      (h : Regroups (.expr (some e.op) c) (.expr (some e.op) c')) :
    Regroups (.expr parent { e with list := before ++ c :: behind })
      (.expr parent { e with list := before ++ c' :: behind })
  | derived (reader : Select) (t : Source) {s s' : Select} (h : Regroups (.select s) (.select s')) :
    Regroups (.source reader { t with select := some s })
      (.source reader { t with select := some s' })
  | on (reader : Select) (t : Source) {c c' : Expr} (h : Regroups (.expr none c) (.expr none c')) :
    Regroups (.source reader { t with on := some c }) (.source reader { t with on := some c' })
  | cte (s : Select) (before behind : List Select) {c c' : Select}
    (h : Regroups (.select c) (.select c')) :
    Regroups (.select { s with ctes := before ++ c :: behind })
      (.select { s with ctes := before ++ c' :: behind })
  | prior (s : Select) {c c' : Select} (h : Regroups (.select c) (.select c')) :
    Regroups (.select { s with prior := some c }) (.select { s with prior := some c' })
  | item (s : Select) (before behind : List Expr) {c c' : Expr}
    (h : Regroups (.expr none c) (.expr none c')) :
    Regroups (.select { s with projection := before ++ c :: behind })
      (.select { s with projection := before ++ c' :: behind })
  | source (s reader : Select) (before behind : List Source) {t t' : Source}
      (h : Regroups (.source reader t) (.source reader t')) :
    Regroups (.select { s with sources := before ++ t :: behind })
      (.select { s with sources := before ++ t' :: behind })
  | selection (s : Select) {c c' : Expr} (h : Regroups (.expr none c) (.expr none c')) :
    Regroups (.select { s with selection := some c }) (.select { s with selection := some c' })
  | groupKey (s : Select) (before behind : List Expr) {c c' : Expr}
      (h : Regroups (.expr none c) (.expr none c')) :
    Regroups (.select { s with groupBy := before ++ c :: behind })
      (.select { s with groupBy := before ++ c' :: behind })
  | orderKey (s : Select) (before behind : List Expr) {c c' : Expr}
      (h : Regroups (.expr none c) (.expr none c')) :
    Regroups (.select { s with orderBy := before ++ c :: behind })
      (.select { s with orderBy := before ++ c' :: behind })
  | having (s : Select) {c c' : Expr} (h : Regroups (.expr none c) (.expr none c')) :
    Regroups (.select { s with having := some c }) (.select { s with having := some c' })
  | limit (s : Select) {c c' : Expr} (h : Regroups (.expr none c) (.expr none c')) :
    Regroups (.select { s with limit := some c }) (.select { s with limit := some c' })
  | offset (s : Select) {c c' : Expr} (h : Regroups (.expr none c) (.expr none c')) :
    Regroups (.select { s with offset := some c }) (.select { s with offset := some c' })

/-! ### What a part says of itself -/

/-- Two parts say the same of themselves, whatever is inside. -/
def SameOwn : Part → Part → Prop
  | .select _, .select _ => True
  | .source _ t, .source _ t' => t.name = t'.name ∧ t.aliasName = t'.aliasName
    ∧ t.columns.isSome = t'.columns.isSome ∧ t.on.isSome = t'.on.isSome
  | .expr parent e, .expr parent' e' => parent = parent' ∧ e.op = e'.op
    ∧ e.identifier = e'.identifier ∧ e.comparedColumns = e'.comparedColumns
  | _, _ => False

/-- A part is the same as itself apart from what is inside. -/
theorem SameOwn.refl (p : Part) : p.SameOwn p := by
  cases p with
  | select s => exact trivial
  | source reader t => exact ⟨rfl, rfl, rfl, rfl⟩
  | expr parent e => exact ⟨rfl, rfl, rfl, rfl⟩

end Part

/-- A chain of names is identified by both sides of its dot. -/
theorem Expr.identifier_of_dot {e : Expr} (h : e.op = .dot) :
    e.identifier = (e.left.map identifier).getD "" ++ "." ++ (e.right.map identifier).getD "" := by
  obtain ⟨op, left, right, select, list, token⟩ := e
  dsimp only at h
  subst h
  cases left <;> cases right <;> rfl

/-- The name that an expression is depends on its tag, its text and the names that its operands
are. -/
theorem Expr.identifier_congr {e e' : Expr} (hop : e.op = e'.op) (htoken : e.token = e'.token)
    (hleft : e.left.map identifier = e'.left.map identifier)
    (hright : e.right.map identifier = e'.right.map identifier) : e.identifier = e'.identifier := by
  by_cases hdot : e.op = .dot
  · rw [identifier_of_dot hdot, identifier_of_dot (hop ▸ hdot), hleft, hright]
  · obtain ⟨op, left, right, select, list, token⟩ := e
    obtain ⟨op', left', right', select', list', token'⟩ := e'
    dsimp only at hop htoken hdot
    subst hop htoken
    cases op with
    | dot => exact absurd rfl hdot
    | _ => rfl

/-- What the operands of an expression give is given by the left one and then by the right one. -/
theorem Expr.flatMap_operands (f : Expr → List String) (e : Expr) :
    e.operands.flatMap f = (e.left.map f).getD [] ++ (e.right.map f).getD [] := by
  rw [operands, List.flatMap_append]
  cases e.left <;> cases e.right <;> simp

/-- What an expression compares depends on its tag, the name that its left operand is and what its
operands compare. -/
theorem Expr.comparedColumns_congr {e e' : Expr} (hop : e.op = e'.op)
    (hname : e.left.map identifier = e'.left.map identifier)
    (hleft : e.left.map comparedColumns = e'.left.map comparedColumns)
    (hright : e.right.map comparedColumns = e'.right.map comparedColumns) :
    e.comparedColumns = e'.comparedColumns := by
  by_cases hand : (e.op == .and) = true
  · rw [comparedColumns_of_and hand, comparedColumns_of_and (hop ▸ hand), flatMap_operands,
      flatMap_operands, hleft, hright]
  · by_cases hcompares : e.op.isIndexComparison = true
    · rw [comparedColumns_of_comparison hand hcompares,
        comparedColumns_of_comparison (hop ▸ hand) (hop ▸ hcompares), ← Option.toList_map, hname,
        Option.toList_map]
    · rw [comparedColumns_of_other hand hcompares,
        comparedColumns_of_other (hop ▸ hand) (hop ▸ hcompares)]

/-- A conjunction compares the columns of its left operand and then those of its right one. -/
theorem Expr.comparedColumns_conjunction (left right : Expr) (token : Option String) :
    (conjunction left right token).comparedColumns = left.comparedColumns
      ++ right.comparedColumns := by
  rw [comparedColumns_of_and rfl, flatMap_operands]
  rfl

namespace Part

variable {p p' : Part}

/-- A part says the same of itself wherever something is regrouped in it. -/
theorem Regroups.sameOwn (h : p.Regroups p') : p.SameOwn p' := by
  induction h with
  | here parent x y z outer inner outer' inner' =>
    refine ⟨rfl, rfl, rfl, ?_⟩
    simp only [Expr.comparedColumns_conjunction, List.append_assoc]
  | left parent e h ih =>
    obtain ⟨-, -, hname, hcolumns⟩ := ih
    exact ⟨rfl, rfl, Expr.identifier_congr rfl rfl (congrArg some hname) rfl,
      Expr.comparedColumns_congr rfl (congrArg some hname) (congrArg some hcolumns) rfl⟩
  | right parent e h ih =>
    obtain ⟨-, -, hname, hcolumns⟩ := ih
    exact ⟨rfl, rfl, Expr.identifier_congr rfl rfl rfl (congrArg some hname),
      Expr.comparedColumns_congr rfl rfl rfl (congrArg some hcolumns)⟩
  | query | member =>
    exact ⟨rfl, rfl, Expr.identifier_congr rfl rfl rfl rfl,
      Expr.comparedColumns_congr rfl rfl rfl rfl⟩
  | derived | on => exact ⟨rfl, rfl, rfl, rfl⟩
  | _ => exact trivial

end Part

end Outline

namespace Analysis

open Outline

/-! ### Alike stops -/

/-- Two walks find the same tables, aliases and flags at their stops, and the same groups of columns
in some order. -/
structure Alike (stops stops' : List Visit) : Prop where
  tables : stops.filterMap Visit.table? = stops'.filterMap Visit.table?
  aliases : stops.filterMap Visit.alias? = stops'.filterMap Visit.alias?
  shows : ∀ signal, stops.any (Visit.shows signal) = stops'.any (Visit.shows signal)
  groups : (stops.flatMap Visit.groups).Perm (stops'.flatMap Visit.groups)

namespace Alike

variable {stops stops' more more' : List Visit} {v v' : Visit}

/-- A walk finds what it finds. -/
theorem refl (stops : List Visit) : Alike stops stops where
  tables := rfl
  aliases := rfl
  shows := fun _ => rfl
  groups := .rfl

/-- Two walks in a row find alike things if both of them do. -/
theorem append (h : Alike stops stops') (h' : Alike more more') : Alike (stops ++ more)
    (stops' ++ more') where
  tables := by rw [List.filterMap_append, List.filterMap_append, h.tables, h'.tables]
  aliases := by rw [List.filterMap_append, List.filterMap_append, h.aliases, h'.aliases]
  shows := fun signal => by rw [List.any_append, List.any_append, h.shows, h'.shows]
  groups := by
    rw [List.flatMap_append, List.flatMap_append]
    exact h.groups.append h'.groups

/-- The same for a walk that begins with one stop. -/
theorem cons (h : Alike [v] [v']) (h' : Alike more more') : Alike (v :: more) (v' :: more') :=
  h.append h'

/-- Stops at which the same is found. -/
theorem single (htable : v.table? = v'.table?) (halias : v.alias? = v'.alias?)
    (hshows : ∀ signal, v.shows signal = v'.shows signal) (hgroups : v.groups = v'.groups) :
    Alike [v] [v'] where
  tables := by rw [List.filterMap_cons, List.filterMap_cons, htable]
  aliases := by rw [List.filterMap_cons, List.filterMap_cons, halias]
  shows := fun signal => by rw [List.any_cons, List.any_cons, hshows]
  groups := by rw [List.flatMap_cons, List.flatMap_cons, hgroups]

/-- What is done amid a part may as well be done before other stops: no table is named there. -/
theorem amid_swap (d : Nat) (p : Part) (stops : List Visit) :
    Alike (stops ++ [.amid d p]) (.amid d p :: stops) where
  tables := by simp [List.filterMap_cons, Visit.table?]
  aliases := by simp [List.filterMap_cons, Visit.alias?]
  shows := fun signal => by simp [Bool.or_comm]
  groups := by
    rw [List.flatMap_append, List.flatMap_singleton, List.flatMap_cons]
    exact List.perm_append_comm

/-- Finding alike things is transitive. -/
theorem trans {last : List Visit} (h : Alike stops stops') (h' : Alike stops' last) :
    Alike stops last where
  tables := h.tables.trans h'.tables
  aliases := h.aliases.trans h'.aliases
  shows := fun signal => (h.shows signal).trans (h'.shows signal)
  groups := h.groups.trans h'.groups

/-- Finding alike things is symmetric. -/
theorem symm (h : Alike stops stops') : Alike stops' stops where
  tables := h.tables.symm
  aliases := h.aliases.symm
  shows := fun signal => (h.shows signal).symm
  groups := h.groups.symm

/-- Stops at which nothing is found may be left out. -/
theorem of_idle (htable : v.table? = none) (halias : v.alias? = none)
    (hshows : ∀ signal, v.shows signal = false) (hgroups : v.groups = []) :
    Alike (v :: stops) stops where
  tables := List.filterMap_cons_none htable
  aliases := List.filterMap_cons_none halias
  shows := fun signal => by rw [List.any_cons, hshows, Bool.false_or]
  groups := by rw [List.flatMap_cons, hgroups, List.nil_append]

end Alike

end Analysis

namespace Outline.Part

open Analysis

variable {p p' : Part} {d d' : Nat}

/-- Arriving at parts that are the same apart from what is inside finds the same. -/
theorem SameOwn.arrive (h : p.SameOwn p') (d d' : Nat) : Analysis.Alike [.arrive d p]
    [.arrive d' p'] := by
  rcases p with _ | ⟨reader, t⟩ | _ <;> rcases p' with _ | ⟨reader', t'⟩ | _
  all_goals try exact h.elim
  · exact .single rfl rfl (fun _ => rfl) rfl
  · obtain ⟨hname, halias, -, -⟩ := h
    refine .single hname ?_ (fun _ => rfl) rfl
    rw [Visit.alias?, Visit.alias?, hname, halias]
  · exact .single rfl rfl (fun _ => rfl) rfl

/-- Stopping amid such parts finds the same. -/
theorem SameOwn.amid (h : p.SameOwn p') (d d' : Nat) : Analysis.Alike [.amid d p]
    [.amid d' p'] := by
  rcases p with _ | ⟨reader, t⟩ | ⟨parent, e⟩ <;> rcases p' with _ | ⟨reader', t'⟩ | ⟨parent', e'⟩
  all_goals try exact h.elim
  · exact .single rfl rfl (fun _ => rfl) rfl
  · obtain ⟨-, -, hcolumns, hon⟩ := h
    refine .single rfl rfl (fun signal => ?_) rfl
    rw [Visit.shows, Visit.shows, Part.shows, Part.shows, hcolumns, hon]
  · obtain ⟨rfl, hop, -, hcompared⟩ := h
    refine .single rfl rfl (fun signal => ?_) ?_
    · rw [Visit.shows, Visit.shows, Part.shows, Part.shows, hop]
    · rw [Visit.groups, Visit.groups, Visit.chainTop?, Visit.chainTop?, hop]
      split
      · simp [hcompared]
      · rfl

/-- Walks at two parts find alike things, however deep they are. -/
def Alike (p p' : Part) : Prop := ∀ d d', Analysis.Alike (visits d p) (visits d' p')

/-- Walks at two lists of parts find alike things if they do so part by part. -/
theorem alike_visitsOf {parts parts' : List Part} (h : List.Forall₂ Alike parts parts')
    (d d' : Nat) : Analysis.Alike (visitsOf d parts) (visitsOf d' parts') := by
  induction h with
  | nil => exact .refl _
  | cons h _ ih => exact (h _ _).append ih

/-- Two parts are alike if they say the same of themselves and the parts inside are alike. -/
theorem Alike.of_inner (hown : p.SameOwn p') (hbefore : List.Forall₂ Alike p.before p'.before)
    (hbehind : List.Forall₂ Alike p.behind p'.behind) : p.Alike p' := by
  intro d d'
  rw [visits_eq, visits_eq]
  exact (hown.arrive d d').cons
    ((alike_visitsOf hbefore d d').append ((hown.amid d d').cons (alike_visitsOf hbehind d d')))

/-- A part is like itself, however deep it is. -/
theorem Alike.refl (p : Part) : p.Alike p := by
  induction p using Part.induct with
  | h p ih =>
    refine .of_inner (.refl p) ?_ ?_
    · exact List.forall₂_same.mpr fun q hq => ih q (List.mem_append_left _ hq)
    · exact List.forall₂_same.mpr fun q hq => ih q (List.mem_append_right _ hq)

/-- So is each of a list of parts. -/
theorem forall₂_alike_refl (parts : List Part) : List.Forall₂ Alike parts parts :=
  List.forall₂_same.mpr fun q _ => .refl q

/-- Lists of parts are alike if all but one are the same and these are alike. -/
theorem forall₂_alike_map {α : Type} {f : α → Part} {c c' : α} (before behind : List α)
    (h : (f c).Alike (f c')) :
    List.Forall₂ Alike ((before ++ c :: behind).map f) ((before ++ c' :: behind).map f) := by
  rw [List.map_append, List.map_append]
  exact List.rel_append (forall₂_alike_refl _) (.cons h (forall₂_alike_refl _))

/-- Being alike is transitive. -/
theorem Alike.trans {q : Part} (h : p.Alike q) (h' : q.Alike p') : p.Alike p' :=
  fun d d' => (h d 0).trans (h' 0 d')

/-- Who reads a source makes no difference to what is found. -/
theorem alike_source (reader reader' : Select) (t : Source) :
    (source reader t).Alike (source reader' t) :=
  .of_inner ⟨rfl, rfl, rfl, rfl⟩ (forall₂_alike_refl _) (forall₂_alike_refl _)

end Outline.Part

open Outline.Part (forall₂_alike_refl forall₂_alike_map)

namespace Outline

/-! ### Alike selections -/

/-- Two selections have alike parts in each clause, whoever reads the sources. -/
structure Select.Alike (s s' : Select) : Prop where
  ctes : List.Forall₂ Part.Alike (s.ctes.map .select) (s'.ctes.map .select)
  prior : List.Forall₂ Part.Alike (s.prior.toList.map .select) (s'.prior.toList.map .select)
  projection :
    List.Forall₂ Part.Alike (s.projection.map (.expr none)) (s'.projection.map (.expr none))
  sources : List.Forall₂ Part.Alike (s.sources.map (.source .blank))
    (s'.sources.map (.source .blank))
  selection : List.Forall₂ Part.Alike (s.selection.toList.map (.expr none))
    (s'.selection.toList.map (.expr none))
  groupBy : List.Forall₂ Part.Alike (s.groupBy.map (.expr none)) (s'.groupBy.map (.expr none))
  orderBy : List.Forall₂ Part.Alike (s.orderBy.map (.expr none)) (s'.orderBy.map (.expr none))
  having : List.Forall₂ Part.Alike (s.having.toList.map (.expr none))
    (s'.having.toList.map (.expr none))
  limit : List.Forall₂ Part.Alike (s.limit.toList.map (.expr none))
    (s'.limit.toList.map (.expr none))
  offset : List.Forall₂ Part.Alike (s.offset.toList.map (.expr none))
    (s'.offset.toList.map (.expr none))

namespace Select.Alike

variable {s s' : Select}

/-- A selection is like itself. -/
theorem refl (s : Select) : s.Alike s := by
  constructor <;> exact forall₂_alike_refl _

/-- Alike selections are alike as parts. -/
theorem part (h : s.Alike s') : (Part.select s).Alike (.select s') := by
  have hsources :
      List.Forall₂ Part.Alike (s.sources.map (.source s)) (s'.sources.map (.source s')) := by
    have hblank := h.sources
    rw [List.forall₂_map_left_iff, List.forall₂_map_right_iff] at hblank ⊢
    exact hblank.imp fun t t' ht =>
      (Part.alike_source s .blank t).trans (ht.trans (Part.alike_source .blank s' t'))
  refine .of_inner trivial .nil ?_
  exact List.rel_append (List.rel_append (List.rel_append (List.rel_append (List.rel_append
    (List.rel_append
      (List.rel_append (List.rel_append (List.rel_append h.ctes h.prior) h.projection)
      hsources) h.selection) h.groupBy) h.orderBy) h.having) h.limit) h.offset

end Select.Alike

namespace Part

open Analysis

/-! ### Regrouped parts are alike -/

/-- A walk at a conjunction arrives, goes through the left operand, stops, and goes through the
right one. -/
theorem visits_conjunction (d : Nat) (parent : Option Op) (left right : Expr)
    (token : Option String) :
    visits d (.expr parent (.conjunction left right token))
      = .arrive d (.expr parent (.conjunction left right token))
        :: (visits (d + 1) (.expr (some .and) left)
          ++ .amid d (.expr parent (.conjunction left right token))
            :: visits (d + 1) (.expr (some .and) right)) := by
  rw [visits_eq]
  simp [visitsOf, before, behind, Expr.conjunction, Expr.binary, Expr.bare, levels]

/-- Nothing is found on arrival at an expression. -/
theorem alike_cons_arrive (d : Nat) (parent : Option Op) (e : Expr) (stops : List Visit) :
    Analysis.Alike (.arrive d (.expr parent e) :: stops) stops :=
  .of_idle rfl rfl (fun _ => rfl) rfl

/-- Nothing is found amid a conjunction that belongs to the chain of another one. -/
theorem alike_cons_amid (d : Nat) (left right : Expr) (token : Option String) (stops : List Visit) :
    Analysis.Alike
      (.amid d (.expr (some .and) (.conjunction left right token)) :: stops) stops := by
  refine .of_idle rfl rfl (fun signal => ?_) rfl
  change signal.isShownBy .and = false
  exact Signal.isShownBy_of_plain (by decide) rfl

/-- Regrouping two conjunctions changes nothing that a walk finds: the chain is the same, and so are
its columns in their order. -/
theorem alike_regrouped (parent : Option Op) (x y z : Expr)
    (outer inner outer' inner' : Option String) :
    (Part.expr parent (.conjunction (.conjunction x y inner) z outer)).Alike
      (.expr parent (.conjunction x (.conjunction y z inner') outer')) := by
  intro d d'
  simp only [visits_conjunction]
  have hx := Alike.refl (.expr (some .and) x) (d + 1 + 1) (d' + 1)
  have hy := Alike.refl (.expr (some .and) y) (d + 1 + 1) (d' + 1 + 1)
  have hz := Alike.refl (.expr (some .and) z) (d + 1) (d' + 1 + 1)
  generalize visits (d + 1 + 1) (.expr (some .and) x) = stopsX at hx ⊢
  generalize visits (d + 1 + 1) (.expr (some .and) y) = stopsY at hy ⊢
  generalize visits (d + 1) (.expr (some .and) z) = stopsZ at hz ⊢
  -- Only the stop amid the top finds something of its own, and it may be made before those at `y`.
  have hidle : ∀ (e : Expr) (rest : List Visit),
      Analysis.Alike (.arrive d (.expr parent e)
        :: (.arrive (d + 1) (.expr (some .and) (.conjunction x y inner))
          :: (stopsX ++ .amid (d + 1) (.expr (some .and) (.conjunction x y inner)) :: stopsY)
            ++ rest))
        (stopsX ++ (stopsY ++ rest)) := by
    intro e rest
    refine (alike_cons_arrive _ _ _ _).trans ((alike_cons_arrive _ _ _ _).trans ?_)
    change Analysis.Alike ((stopsX ++ _ :: stopsY) ++ rest) _
    rw [List.append_assoc]
    exact (Analysis.Alike.refl _).append (alike_cons_amid _ _ _ _ _)
  have hidle' : ∀ (e : Expr) (v : Visit) (stops stops' stops'' : List Visit),
      Analysis.Alike (.arrive d' (.expr parent e) :: (stops
          ++ v :: (.arrive (d' + 1) (.expr (some .and) (.conjunction y z inner'))
            :: (stops'
              ++ .amid (d' + 1) (.expr (some .and) (.conjunction y z inner')) :: stops''))))
        (stops ++ v :: (stops' ++ stops'')) := by
    intro e v stops stops' stops''
    refine (alike_cons_arrive _ _ _ _).trans ((Analysis.Alike.refl stops).append ?_)
    refine (Analysis.Alike.refl [v]).cons ((alike_cons_arrive _ _ _ _).trans ?_)
    exact (Analysis.Alike.refl stops').append (alike_cons_amid _ _ _ _ _)
  have htop := (Regroups.here parent x y z outer inner outer' inner').sameOwn.amid d d'
  refine (hidle _ _).trans (Analysis.Alike.trans ?_ (hidle' _ _ _ _ _).symm)
  refine hx.append ?_
  have hswap := (Analysis.Alike.amid_swap d
    (.expr parent (.conjunction (.conjunction x y inner) z outer)) stopsY).append (.refl stopsZ)
  rw [List.append_assoc] at hswap
  exact hswap.trans (htop.cons (hy.append hz))

/-- Walks at parts of which one is the other with something regrouped find alike things. -/
theorem Regroups.alike {p p' : Part} (h : p.Regroups p') : p.Alike p' := by
  -- Regrouping happens at one place; around it every part keeps what it is and changes one part
  -- inside.
  induction h with
  | here parent x y z outer inner outer' inner' => exact alike_regrouped parent x y z _ _ _ _
  | left parent e h ih =>
    exact .of_inner (Regroups.left parent e h).sameOwn (.cons ih .nil) (forall₂_alike_refl _)
  | right parent e h ih =>
    refine .of_inner (Regroups.right parent e h).sameOwn (forall₂_alike_refl _) ?_
    exact List.rel_append (List.rel_append (.cons ih .nil) (forall₂_alike_refl _))
      (forall₂_alike_refl _)
  | query parent e h ih =>
    refine .of_inner (Regroups.query parent e h).sameOwn (forall₂_alike_refl _) ?_
    exact List.rel_append (List.rel_append (forall₂_alike_refl _) (.cons ih .nil))
      (forall₂_alike_refl _)
  | member parent e before behind h ih =>
    refine .of_inner (Regroups.member parent e before behind h).sameOwn (forall₂_alike_refl _) ?_
    exact List.rel_append (forall₂_alike_refl _) (forall₂_alike_map before behind ih)
  | derived reader t h ih =>
    exact .of_inner (Regroups.derived reader t h).sameOwn (.cons ih .nil) (forall₂_alike_refl _)
  | on reader t h ih =>
    exact .of_inner (Regroups.on reader t h).sameOwn (forall₂_alike_refl _) (.cons ih .nil)
  | cte s before behind h ih =>
    exact Select.Alike.part { Select.Alike.refl s with ctes := forall₂_alike_map before behind ih }
  | prior s h ih => exact Select.Alike.part { Select.Alike.refl s with prior := .cons ih .nil }
  | item s before behind h ih =>
    exact Select.Alike.part { Select.Alike.refl
      s with projection := forall₂_alike_map before behind ih }
  | source s reader before behind h ih =>
    have hblank := (alike_source .blank reader _).trans (ih.trans (alike_source reader .blank _))
    exact Select.Alike.part { Select.Alike.refl
      s with sources := forall₂_alike_map before behind hblank }
  | selection s h ih =>
    exact Select.Alike.part { Select.Alike.refl s with selection := .cons ih .nil }
  | groupKey s before behind h ih =>
    exact Select.Alike.part { Select.Alike.refl
      s with groupBy := forall₂_alike_map before behind ih }
  | orderKey s before behind h ih =>
    exact Select.Alike.part { Select.Alike.refl
      s with orderBy := forall₂_alike_map before behind ih }
  | having s h ih => exact Select.Alike.part { Select.Alike.refl s with having := .cons ih .nil }
  | limit s h ih => exact Select.Alike.part { Select.Alike.refl s with limit := .cons ih .nil }
  | offset s h ih => exact Select.Alike.part { Select.Alike.refl s with offset := .cons ih .nil }

end Part

end Outline

namespace Analysis

open Outline

variable {limit : Nat} {root root' : Select}

/-! ### What is found in a query that is written otherwise -/

/-- A queue holds a table as often as the walk finds it above the limit. -/
theorem length_queue_ofSelect_eq_count (limit : Nat) (root : Select) (table : String) :
    ((ofSelect limit root).queue table).length
      = ((shallowVisits limit root).filterMap Visit.table?).count table := by
  rw [queue_ofSelect, List.length_filterMap_eq_countP, List.count, List.countP_filterMap]
  refine List.countP_congr fun v _ => ?_
  rcases v with ⟨d, _ | ⟨reader, s⟩ | _⟩ | _
  · rfl
  · rw [Visit.reader?, Visit.table?]
    cases s.name with
    | none => rfl
    | some name => by_cases hname : name = table <;> simp [hname]
  all_goals rfl

/-- Walks that stop at alike parts find the same, apart from the order of the groups of columns. -/
theorem Alike.signals (h : Alike (shallowVisits limit root) (shallowVisits limit root')) :
    let found := ofSelect limit root
    let found' := ofSelect limit root'
    found'.signals = { found.signals with
        columnGroups := found'.columnGroups, truncated := found'.truncated }
      ∧ found'.columnGroups.Perm found.columnGroups
      ∧ ∀ table, (found'.queue table).length = (found.queue table).length := by
  intro found found'
  have hflag : ∀ signal : Signal, signal.flag found'.signals = signal.flag found.signals :=
    fun signal => by rw [flag_ofSelect, flag_ofSelect, h.shows]
  have hgroups : found'.columnGroups.Perm found.columnGroups := by
    rw [columnGroups_ofSelect, columnGroups_ofSelect]
    exact h.groups.symm
  have hand : found'.hasAnd = found.hasAnd := by
    have hsome := (grouped_passes limit root 1).flag
    have hsome' := (grouped_passes limit root' 1).flag
    have hnil : found'.columnGroups = [] ↔ found.columnGroups = [] := by
      rw [← List.length_eq_zero_iff, hgroups.length_eq, List.length_eq_zero_iff]
    exact Bool.eq_iff_iff.mpr (hsome'.trans ((not_congr hnil).trans hsome.symm))
  have htables : found'.readers.keys = found.readers.keys := by
    rw [keys_readers_ofSelect, keys_readers_ofSelect, h.tables]
  have haliases : found'.aliases = found.aliases := by
    rw [aliases_ofSelect, aliases_ofSelect, h.aliases]
  refine ⟨?_, hgroups, fun table => ?_⟩
  · have husing : found'.hasUsingOrOn = found.hasUsingOrOn := hflag .usingOrOn
    have hbit : found'.hasBitOperation = found.hasBitOperation := hflag .bitOperation
    have hfuzzy : found'.hasFuzzyMatching = found.hasFuzzyMatching := hflag .fuzzyMatching
    have hor : found'.hasOr = found.hasOr := hflag .or
    have hin : found'.hasIn = found.hasIn := hflag .isIn
    simp only [Analysis.signals, husing, hbit, hfuzzy, hand, hor, hin, htables, haliases]
  · rw [length_queue_ofSelect_eq_count, length_queue_ofSelect_eq_count, h.tables]

/-- A query that has an outline has the same one without the parentheses and the collations around
its expressions, and whatever they are put around, walks find the same. If neither walk is cut
short, walks over outlines of which one has `x AND (y AND z)` where the other has `(x AND y) AND z`
find the same as well, with the groups of columns in another order; for each table there are as many
selections that read it. -/
theorem signals_of_conjunctions_written_otherwise :
    (∀ (n : Nat) (q : Sql.Query) (root : Select),
        lowerQuery n q = .ok root → lowerQuery n q.unwrapped = .ok root)
      ∧ (∀ (n n' : Nat) (q q' : Sql.Query) (root root' : Select), q'.unwrapped = q.unwrapped →
          lowerQuery n q = .ok root → lowerQuery n' q' = .ok root' →
          ∀ limit, (ofSelect limit root').signals = (ofSelect limit root).signals)
      ∧ ∀ (limit : Nat) (root root' : Select), (Part.select root).Regroups (.select root') →
          let found := ofSelect limit root
          let found' := ofSelect limit root'
          found.truncated = false → found'.truncated = false →
          found'.signals = { found.signals with columnGroups := found'.columnGroups }
            ∧ found'.columnGroups.Perm found.columnGroups
            ∧ ∀ table, (found'.queue table).length = (found.queue table).length := by
  refine ⟨fun n q root hlower => lowerQuery_unwrapped (Nat.le_refl n) q root hlower,
    fun n n' q q' root root' hsame hlower hlower' limit => ?_, ?_⟩
  · rw [lowerQuery_eq_of_unwrapped_eq hsame hlower' hlower]
  · intro limit root root' hregroups found found' hwhole hwhole'
    have halike := hregroups.alike 0 0
    rw [← shallowVisits_of_whole hwhole, ← shallowVisits_of_whole hwhole'] at halike
    obtain ⟨hsignals, hrest⟩ := halike.signals
    refine ⟨hsignals.trans ?_, hrest⟩
    have hmark : found'.truncated = found.signals.truncated := hwhole'.trans hwhole.symm
    exact congrArg
      (fun t => { found.signals with columnGroups := found'.columnGroups, truncated := t }) hmark

/-- A condition in parentheses and with a collation is the condition itself. Regrouped around a
negation with a conjunction inside, the outer conjunction is grouped before the inner one instead of
behind it. -/
theorem signals_of_conjunctions_written_otherwise_of_negation :
    let compared (column : String) : Sql.Expr :=
      .binary (.ident (.plain column)) .eq (.value (.number "1" false))
    let query (condition : Sql.Expr) : Sql.Query := .mk false []
      (.select (.mk .standard "" [.wildcard "*"] "" [.mk (.table ⟨[.plain "t"]⟩ "" none "") []] ""
        (some condition) (.keys [] "") "" none "")) (.keys [] "") (.clauses none none "") ""
    let q := query (.binary (compared "a") .and (compared "b"))
    let q' := query
      (.binary (.nested (compared "a")) .and
        (.collate (.nested (compared "b")) ⟨[.plain "nocase"]⟩))
    let compare (column : String) : Expr := .binary .eq (.leaf .id column) (.leaf .literal "1")
    let negation : Expr := .unary .not (.binary .and (compare "b") (compare "c"))
    let select (condition : Expr) : Select :=
      { Select.blank with sources := [.table "t"], selection := some condition }
    let root := select (.conjunction (.conjunction (compare "a") negation none) (compare "d") none)
    let root' := select (.conjunction (compare "a") (.conjunction negation (compare "d") none) none)
    (∃ outline outline', lowerQuery 8 q = .ok outline ∧ lowerQuery 8 q' = .ok outline'
        ∧ (ofSelect 8 outline').signals = (ofSelect 8 outline).signals)
      ∧ (Part.select root).Regroups (.select root')
      ∧ (ofSelect 8 root).truncated = false ∧ (ofSelect 8 root').truncated = false
      ∧ (ofSelect 8 root).columnGroups = [["b", "c"], ["a", "d"]]
      ∧ (ofSelect 8 root').columnGroups = [["a", "d"], ["b", "c"]]
      ∧ (ofSelect 8 root').signals
        = { (ofSelect 8 root).signals with columnGroups := (ofSelect 8 root').columnGroups } := by
  intro compared query q q' compare negation select root root'
  obtain ⟨-, hwrapped, hregrouped⟩ := signals_of_conjunctions_written_otherwise
  obtain ⟨outline, hlower⟩ : ∃ outline, lowerQuery 8 q = .ok outline := ⟨_, rfl⟩
  obtain ⟨outline', hlower'⟩ : ∃ outline', lowerQuery 8 q' = .ok outline' := ⟨_, rfl⟩
  have hregroups : (Part.select root).Regroups (.select root') :=
    .selection root (.here none (compare "a") negation (compare "d") none none none none)
  have hwhole : (ofSelect 8 root).truncated = false := by decide_cbv
  have hwhole' : (ofSelect 8 root').truncated = false := by decide_cbv
  exact ⟨⟨outline, outline', hlower, hlower',
    hwrapped 8 8 q q' outline outline' rfl hlower hlower' 8⟩,
    hregroups, hwhole, hwhole', by decide_cbv, by decide_cbv,
    (hregrouped 8 root root' hregroups hwhole hwhole').1⟩

/-- Regrouped at the limit, a query is too deep: the last condition is one level deeper, and the
table that is read below it is no longer found. -/
theorem signals_lost_by_regrouping :
    let select (condition : Expr) : Select :=
      { Select.blank with sources := [.table "t"], selection := some condition }
    let a : Expr := .leaf .id "a"
    let b : Expr := .leaf .id "b"
    let last : Expr :=
      { Expr.bare .exists with select := some { Select.blank with sources := [.table "u"] } }
    let root := select (.conjunction (.conjunction a b none) last none)
    let root' := select (.conjunction a (.conjunction b last none) none)
    (Part.select root).Regroups (.select root') ∧ (ofSelect 4 root).truncated = false
      ∧ (ofSelect 4 root).signals.tables = ["t", "u"]
      ∧ (ofSelect 4 root').signals.tables = ["t"] := by
  intro select a b last root root'
  exact ⟨.selection root (.here none a b last none none none none),
    by decide_cbv, by decide_cbv, by decide_cbv⟩

end Analysis

end QueryLint
