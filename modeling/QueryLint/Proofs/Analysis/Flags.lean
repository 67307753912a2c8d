import QueryLint.Proofs.Analysis.Signals

/-!
# Flags

The flags of a walk in one table: for each flag, the operators of expressions and the joins of
sources that set it (`Signal`). A walk that was not cut short sets a flag exactly if some part of
the query shows it (`flag_iff_of_whole`), whatever the limit was.
-/

namespace QueryLint

/-- A flag that a walk may set. -/
inductive Signal where
  | fuzzyMatching
  | isIn
  | or
  | bitOperation
  | usingOrOn
  deriving DecidableEq, Repr

namespace Signal

/-- Whether a flag is set. -/
def flag : Signal → Signals → Bool
  | fuzzyMatching, s => s.hasFuzzyMatching
  | isIn, s => s.hasIn
  | or, s => s.hasOr
  | bitOperation, s => s.hasBitOperation
  | usingOrOn, s => s.hasUsingOrOn

/-- Whether an expression with some tag sets a flag. -/
def isShownBy : Signal → Outline.Op → Bool
  | fuzzyMatching, op => op = .like
  | isIn, op => op = .isIn
  | or, op => op = .or
  | bitOperation, op => op.isBitwise
  | usingOrOn, _ => false

/-- Most tags set no flag. -/
theorem isShownBy_of_plain {signal : Signal} {op : Outline.Op} (h : op ∉ [.like, .isIn, .or])
    (hbits : op.isBitwise = false) : signal.isShownBy op = false := by
  simp only [List.mem_cons, List.not_mem_nil, or_false, not_or] at h
  cases signal with
  | fuzzyMatching => exact decide_eq_false h.1
  | isIn => exact decide_eq_false h.2.1
  | or => exact decide_eq_false h.2.2
  | bitOperation => exact hbits
  | usingOrOn => rfl

end Signal

namespace Outline.Part

/-- Whether a part sets a flag by itself. -/
def shows (signal : Signal) : Part → Bool
  | select _ => false
  | source _ s => signal = .usingOrOn && (s.columns.isSome || s.on.isSome)
  | expr _ e => signal.isShownBy e.op

/-- Some part of a part sets a flag. -/
def Has (signal : Signal) (p : Part) : Prop := ∃ q : Part, q.IsIn p ∧ q.shows signal = true

/-- A part has a signal exactly when it shows it or a part inside it has it. -/
theorem has_iff {signal : Signal} {p : Part} :
    p.Has signal ↔ p.shows signal = true ∨ ∃ c ∈ p.inner, c.Has signal := by
  constructor
  · rintro ⟨q, hin, hshows⟩
    rcases isIn_iff.mp hin with rfl | ⟨c, hc, hq⟩
    · exact .inl hshows
    · exact .inr ⟨c, hc, q, hq, hshows⟩
  · rintro (hshows | ⟨c, hc, q, hq, hshows⟩)
    · exact ⟨p, .refl p, hshows⟩
    · exact ⟨q, isIn_iff.mpr (.inr ⟨c, hc, hq⟩), hshows⟩

/-- Which expression is around an expression makes no difference to what is in it. -/
theorem has_expr_iff {signal : Signal} (parent parent' : Option Op) (e : Expr) :
    (expr parent e).Has signal ↔ (expr parent' e).Has signal := by
  rw [has_iff, has_iff]
  rfl

/-- Which selection reads a source makes no difference to what is in it. -/
theorem has_source_iff {signal : Signal} (reader reader' : Select) (s : Source) :
    (source reader s).Has signal ↔ (source reader' s).Has signal := by
  rw [has_iff, has_iff]
  rfl

end Outline.Part

namespace Outline

variable {signal : Signal}

/-- Something in an expression sets a flag. -/
def Expr.Has (signal : Signal) (e : Expr) : Prop := (Part.expr none e).Has signal

/-- Something in a selection sets a flag. -/
def Select.Has (signal : Signal) (s : Select) : Prop := (Part.select s).Has signal

/-- Something in a source sets a flag. -/
def Source.Has (signal : Signal) (s : Source) : Prop := (Part.source .blank s).Has signal

/-- The same, read off an expression. -/
theorem Expr.has_iff {e : Expr} :
    e.Has signal ↔ signal.isShownBy e.op = true ∨ (∃ c ∈ e.left, c.Has signal)
      ∨ (∃ c ∈ e.right, c.Has signal) ∨ (∃ s ∈ e.select, s.Has signal)
      ∨ ∃ c ∈ e.list, c.Has signal := by
  have hinside : ∀ c, (Part.expr (some e.op) c).Has signal ↔ c.Has signal :=
    Part.has_expr_iff (some e.op) none
  rw [Has, Part.has_iff]
  simp only [Part.shows, Part.inner, Part.before, Part.behind, List.mem_append, List.mem_map,
    Option.mem_toList, or_and_right, exists_or, exists_exists_and_eq_and, or_assoc, hinside]
  rfl

/-- The same, read off a selection. -/
theorem Select.has_iff {s : Select} :
    s.Has signal ↔ (∃ c ∈ s.ctes, c.Has signal) ∨ (∃ c ∈ s.prior, c.Has signal)
      ∨ (∃ e ∈ s.projection, e.Has signal) ∨ (∃ c ∈ s.sources, c.Has signal)
      ∨ (∃ e ∈ s.selection, e.Has signal) ∨ (∃ e ∈ s.groupBy, e.Has signal)
      ∨ (∃ e ∈ s.orderBy, e.Has signal) ∨ (∃ e ∈ s.having, e.Has signal)
      ∨ (∃ e ∈ s.limit, e.Has signal) ∨ ∃ e ∈ s.offset, e.Has signal := by
  have hsource : ∀ c, (Part.source s c).Has signal ↔ c.Has signal := Part.has_source_iff s .blank
  rw [Has, Part.has_iff]
  simp only [Part.shows, Part.inner, Part.before, Part.behind, List.nil_append, List.mem_append,
    List.mem_map, Option.mem_toList, or_and_right, exists_or, exists_exists_and_eq_and, or_assoc,
    hsource, Bool.false_eq_true, false_or]
  rfl

/-- The same, read off a source: it shows only how it is joined. -/
theorem Source.has_iff {s : Source} :
    s.Has signal ↔ (signal = .usingOrOn ∧ (s.columns.isSome = true ∨ s.on.isSome = true))
      ∨ (∃ c ∈ s.select, c.Has signal) ∨ ∃ e ∈ s.on, e.Has signal := by
  rw [Has, Part.has_iff]
  simp only [Part.shows, Part.inner, Part.before, Part.behind, List.mem_append, List.mem_map,
    Option.mem_toList, or_and_right, exists_or, exists_exists_and_eq_and, Bool.and_eq_true,
    Bool.or_eq_true, decide_eq_true_eq]
  rfl

/-! ### Small outlines -/

section Small

variable {op : Op}

/-- An operator without operands has the signals that it shows. -/
theorem Expr.has_bare_iff : (Expr.bare op).Has signal ↔ signal.isShownBy op = true := by
  rw [has_iff]
  simp [Expr.bare]

/-- So has a leaf. -/
theorem Expr.has_leaf_iff {token : String} :
    (Expr.leaf op token).Has signal ↔ signal.isShownBy op = true := by
  rw [has_iff]
  simp [Expr.leaf, Expr.bare]

/-- A unary operation has the signals that it shows and those of its operand. -/
theorem Expr.has_unary_iff {operand : Expr} :
    (Expr.unary op operand).Has signal ↔ signal.isShownBy op = true ∨ operand.Has signal := by
  rw [has_iff]
  simp [Expr.unary, Expr.bare]

/-- A binary operation has the signals that it shows and those of its operands. -/
theorem Expr.has_binary_iff {left right : Expr} :
    (Expr.binary op left right).Has signal
      ↔ signal.isShownBy op = true ∨ left.Has signal ∨ right.Has signal := by
  rw [has_iff]
  simp [Expr.binary, Expr.bare]

/-- What a selection without clauses around it is made of. -/
theorem Select.has_mk_iff {prior : Option Select} {projection groupBy : List Expr}
    {sources : List Source} {selection having : Option Expr} :
    (⟨[], prior, projection, sources, selection, groupBy, [], having, none, none⟩ :
      Select).Has signal
      ↔ (∃ c ∈ prior, c.Has signal) ∨ (∃ e ∈ projection, e.Has signal)
        ∨ (∃ c ∈ sources, c.Has signal) ∨ (∃ e ∈ selection, e.Has signal)
        ∨ (∃ e ∈ groupBy, e.Has signal) ∨ ∃ e ∈ having, e.Has signal := by
  rw [Select.has_iff]
  simp only [List.not_mem_nil, Option.not_mem_none, false_and, exists_false, or_false, false_or]

/-- A blank source has no signals. -/
theorem Source.has_blank_iff : Source.blank.Has signal ↔ False := by
  rw [Source.has_iff]
  simp [Source.blank, default]

/-- A table that is not joined has no signals. -/
theorem Source.has_table_iff {name : String} {aliasName : Option String} :
    ({ Source.table name with aliasName } : Source).Has signal ↔ False := by
  rw [Source.has_iff]
  simp [Source.table, Source.blank, default]

/-- A derived table that is not joined has the signals of its selection. -/
theorem Source.has_derived_iff {select : Select} {aliasName : Option String} :
    ({ Source.derived select with aliasName } : Source).Has signal ↔ select.Has signal := by
  rw [Source.has_iff]
  simp [Source.derived, Source.blank, default]

/-- A member of a compound query and the member before it. -/
theorem Select.has_with_prior_iff {s : Select} (hprior : s.prior = none) {prior : Option Select} :
    ({ s with prior } : Select).Has signal ↔ (∃ c ∈ prior, c.Has signal) ∨ s.Has signal := by
  rw [Select.has_iff, Select.has_iff (s := s), hprior]
  simp only [Option.not_mem_none, false_and, exists_false, false_or]
  rw [or_left_comm]

/-- The body of a query with what stands around it. -/
theorem Select.has_with_clauses_iff {s : Select} (hlimit : s.limit = none)
    (hoffset : s.offset = none) {bodies : List Select} {keys : List Expr}
    {limit offset : Option Expr} :
    ({ s with ctes := s.ctes ++ bodies, orderBy := s.orderBy ++ keys, limit, offset } : Select).Has
        signal
      ↔ s.Has signal ∨ (∃ c ∈ bodies, c.Has signal) ∨ (∃ e ∈ keys, e.Has signal)
        ∨ (∃ e ∈ limit, e.Has signal) ∨ ∃ e ∈ offset, e.Has signal := by
  rw [Select.has_iff, Select.has_iff (s := s), hlimit, hoffset]
  simp only [List.mem_append, or_and_right, exists_or, Option.not_mem_none, false_and, exists_false,
    or_false]
  exact iff_of_eq (by ac_rfl)

end Small

end Outline

namespace Analysis

open Outline

/-- Whether a stop sets a flag. -/
def Visit.shows (signal : Signal) : Visit → Bool
  | amid _ p => p.shows signal
  | _ => false

/-- A walk without limit meets a signal exactly when the tree has it. -/
theorem any_shows_iff {signal : Signal} {root : Select} :
    (visits 0 (.select root)).any (Visit.shows signal) = true ↔ root.Has signal := by
  rw [List.any_eq_true]
  constructor
  · rintro ⟨_ | ⟨d, p⟩, hv, hshows⟩
    · cases hshows
    · exact ⟨p, isIn_of_mem_visits hv, hshows⟩
  · rintro ⟨p, hin, hshows⟩
    obtain ⟨d, -, hamid⟩ := exists_mem_visits hin 0
    exact ⟨_, hamid, hshows⟩

/-- Stops set the flags that they show, and no others. -/
theorem Extends.flag_eq {a b : Analysis} {stops : List Visit} (h : Extends a stops b)
    (signal : Signal) :
    signal.flag b.signals = (signal.flag a.signals || stops.any (Visit.shows signal)) := by
  have hmarks : ∀ signal : Signal, signal ≠ .usingOrOn →
      Visit.shows signal = Visit.marks signal.isShownBy := by
    intro signal hne
    funext v
    rcases v with _ | ⟨_, _ | _ | _⟩
    · rfl
    · rfl
    · simp [Visit.shows, Part.shows, Visit.marks, hne]
    · rfl
  have hjoins : Visit.shows .usingOrOn = Visit.joins := by
    funext v
    rcases v with _ | ⟨_, _ | _ | _⟩
      <;> simp [Visit.shows, Part.shows, Visit.joins, Signal.isShownBy]
  cases signal with
  | fuzzyMatching => rw [hmarks _ (by decide)]; exact h.hasFuzzyMatching
  | isIn => rw [hmarks _ (by decide)]; exact h.hasIn
  | or => rw [hmarks _ (by decide)]; exact h.hasOr
  | bitOperation => rw [hmarks _ (by decide)]; exact h.hasBitOperation
  | usingOrOn => rw [hjoins]; exact h.hasUsingOrOn

/-! ### Walks that were not cut short -/

/-- No stop truncates the walk by itself. -/
theorem Visit.truncated_note (v : Visit) (a : Analysis) : (v.note a).truncated = a.truncated :=
  (Extends.note v a).truncated

/-- A walk is cut short exactly if some stop is too deep. -/
theorem truncated_follow (limit : Nat) (stops : List Visit) (a : Analysis) :
    (follow limit stops a).truncated = (a.truncated || stops.any fun v => limit ≤ v.depth) := by
  induction stops generalizing a with
  | nil => simp [follow]
  | cons v rest ih =>
    rw [follow_cons, ih, Visit.noteWithin, List.any_cons]
    split
    · next hlt =>
      have hshallow : decide (limit ≤ v.depth) = false := by simpa using hlt
      rw [Visit.truncated_note, hshallow, Bool.false_or]
    · next hdeep =>
      have hdeep : decide (limit ≤ v.depth) = true := by simpa using hdeep
      rw [hdeep, Bool.true_or, Bool.or_true]

/-- A walk that was not cut short does what is to be done at each of its stops. -/
theorem ofSelect_eq_foldl_of_whole {limit : Nat} {root : Select}
    (h : (ofSelect limit root).truncated = false) :
    ofSelect limit root = (visits 0 (.select root)).foldl (fun a v => v.note a) start := by
  have hfollow : ofSelect limit root = follow limit (visits 0 (.select root)) start :=
    visitSelect_eq_follow limit root start
  rw [hfollow, truncated_follow, Bool.or_eq_false_iff] at h
  rw [hfollow]
  refine follow_of_shallow (fun v hv => ?_) start
  have hshallow := List.any_eq_false.mp h.2 v hv
  simpa using hshallow

/-- A walk that was not cut short sets exactly the flags that parts of the query show. -/
theorem flag_iff_of_whole {limit : Nat} {root : Select}
    (h : (ofSelect limit root).truncated = false) (signal : Signal) :
    signal.flag (ofSelect limit root).signals = true ↔ root.Has signal := by
  have hstart : signal.flag start.signals = false := by cases signal <;> rfl
  have hflag := (Extends.foldl (visits 0 (.select root)) start).flag_eq signal
  rw [ofSelect_eq_foldl_of_whole h, hflag, hstart, Bool.false_or]
  exact any_shows_iff

end Analysis

end QueryLint
