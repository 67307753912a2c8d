import Mathlib.Data.List.Forall2
import QueryLint.Proofs.Outline.Compound
import QueryLint.Proofs.Outline.Counter
import QueryLint.Registry.Engine

/-!
# Statements under a limit

The queries among some statements have outlines under a limit exactly if none of them is higher than
it, and each then has the outline that it has alone, under this limit and under every other one that
it is not higher than (`ofStatements_within_limit`). Otherwise the limit is what is told.
-/

namespace QueryLint

/-- The query that a statement is. -/
def Sql.Statement.query? : Sql.Statement → Option Sql.Query
  | .query q => some q
  | .verbatim _ => none

namespace Outline

variable {limit limit' : Nat}

/-- The outlines of statements are those of their queries, one by one. -/
theorem ofStatements_eq_mapM (limit : Nat) (statements : List Sql.Statement) :
    ofStatements limit statements
      = (statements.filterMap Sql.Statement.query?).mapM (lowerQuery limit) := by
  induction statements with
  | nil => rfl
  | cons statement rest ih =>
    cases statement with
    | query q => simp [ofStatements, Sql.Statement.query?, ih]
    | verbatim text => exact ih

/-- A list is lowered to the results of its members, in their order. -/
theorem mapM_eq_ok_iff_forall₂ {α β : Type} {f : α → Lowered β} {as : List α} {bs : List β} :
    as.mapM f = .ok bs ↔ List.Forall₂ (fun a b => f a = .ok b) as bs := by
  induction as generalizing bs with
  | nil =>
    rw [List.mapM_nil, pure_eq_ok_iff, List.forall₂_nil_left_iff]
    exact eq_comm
  | cons a rest ih =>
    simp only [List.mapM_cons, bind_eq_ok_iff, pure_eq_ok_iff, List.forall₂_cons_left_iff, ih]
    constructor
    · rintro ⟨b, hb, others, hothers, rfl⟩
      exact ⟨b, others, hb, hothers, rfl⟩
    · rintro ⟨b, others, hb, hothers, rfl⟩
      exact ⟨b, hb, others, hothers, rfl⟩

/-- A result that stays with more levels is the same with all levels that give one. -/
theorem eq_ok_of_succeeds {α : Type} {f : Nat → Lowered α} (hf : ∀ n m, n ≤ m → Refines (f n) (f m))
    {a : α} (h : f limit = .ok a) (hresult : Succeeds (f limit')) : f limit' = .ok a := by
  rcases Nat.le_total limit limit' with hle | hle
  · exact hf limit limit' hle a h
  · obtain ⟨b, hb⟩ := hresult
    obtain rfl := Except.ok.inj ((hf limit' limit hle b hb).symm.trans h)
    exact hb

/-- Statements that are lowered with some levels are lowered alike with more. -/
theorem refines_ofStatements {n m : Nat} (h : n ≤ m) (statements : List Sql.Statement) :
    Refines (ofStatements n statements) (ofStatements m statements) := by
  rw [ofStatements_eq_mapM, ofStatements_eq_mapM]
  exact refines_mapM (fun q => refines_lowerQuery h q) _

/-- Statements are lowered exactly when the height of every query among them fits. -/
theorem succeeds_ofStatements_iff {statements : List Sql.Statement} :
    Succeeds (ofStatements limit statements)
      ↔ ∀ q ∈ statements.filterMap Sql.Statement.query?, (Sql.Part.query q).height ≤ limit := by
  rw [ofStatements_eq_mapM, succeeds_mapM_iff]
  exact forall₂_congr fun q _ => isLowered_iff limit none (.query q)

/-- The queries among some statements have outlines exactly if none is higher than the limit. There
is one outline for each query, in their order, which it has also alone and under every limit that it
is not higher than; so all limits that give outlines give the same. If there are none, it is the
limit that is told. One count of levels serves for all statements: lowering with it does the same as
lowering each with all levels, and wherever the count begins, it is there again behind all of them
and behind every node, and never falls below zero. -/
theorem ofStatements_within_limit (limit : Nat) (statements : List Sql.Statement) :
    let queries := statements.filterMap Sql.Statement.query?
    ((∃ selects, ofStatements limit statements = .ok selects)
        ↔ ∀ q ∈ queries, (Sql.Part.query q).height ≤ limit)
      ∧ (∀ selects, ofStatements limit statements = .ok selects →
        List.Forall₂ (fun q s => ofStatements limit [.query q] = .ok [s]
            ∧ ∀ limit', (Sql.Part.query q).height ≤ limit' → lowerQuery limit' q = .ok s)
          queries selects
        ∧ ∀ limit', (∀ q ∈ queries, (Sql.Part.query q).height ≤ limit') →
          ofStatements limit' statements = .ok selects)
      ∧ (∀ dialect sql, Sql.parse dialect sql = .ok statements →
        (∀ selects, ofStatements limit statements = .ok selects →
          Engine.outlines dialect limit sql = .ok selects)
        ∧ ((∃ q ∈ queries, limit < (Sql.Part.query q).height) →
          Engine.outlines dialect limit sql = .error (.tooDeep limit)))
      ∧ outcome (countStatements limit statements) 0
        = ((ofStatements limit statements).mapError fun _ => .tooDeep limit, 0)
      ∧ Restores limit (countStatements limit statements)
      ∧ ∀ prior p, RestoresAt limit prior p := by
  intro queries
  -- The parser gives the statements; a lowering that fails does so for its depth.
  have houtlines : ∀ {dialect sql}, Sql.parse dialect sql = .ok statements →
      Engine.outlines dialect limit sql
        = (ofStatements limit statements).mapError fun _ => .tooDeep limit := by
    intro dialect sql hparse
    rw [Engine.outlines, hparse]
    rfl
  refine ⟨succeeds_ofStatements_iff, fun selects h => ⟨?_, fun limit' hheight => ?_⟩,
    fun dialect sql hparse => ⟨fun selects h => ?_, ?_⟩, follows_countStatements limit 0 statements,
    .of_follows (ofStatements · statements) fun entered =>
      follows_countStatements limit entered statements,
    fun prior p => restoresAt limit prior p⟩
  · rw [ofStatements_eq_mapM, mapM_eq_ok_iff_forall₂] at h
    refine h.imp fun q s hs => ⟨?_, fun limit' hheight => ?_⟩
    · rw [ofStatements, hs]
      rfl
    · have hresult : Succeeds (lowerQuery limit' q) :=
        (isLowered_iff limit' none (.query q)).mpr hheight
      exact eq_ok_of_succeeds (fun _ _ hle => refines_lowerQuery hle q) hs hresult
  · exact eq_ok_of_succeeds (fun _ _ hle => refines_ofStatements hle statements) h
      (succeeds_ofStatements_iff.mpr hheight)
  · rw [houtlines hparse, h]
    rfl
  · rintro ⟨q, hq, hdeep⟩
    rw [houtlines hparse]
    cases h : ofStatements limit statements with
    | ok selects =>
      have hheight := succeeds_ofStatements_iff.mp ⟨selects, h⟩ q hq
      omega
    | error e => rfl

/-- Two queries, the second of which is four levels high: its condition stands in two pairs of
parentheses. -/
theorem ofStatements_within_limit_of_two :
    let read (selection : Option Sql.Expr) : Sql.Statement :=
      .query (.mk false []
        (.select (.mk .standard "" [.expr (.ident (.plain "a")) none] ""
          [.mk (.table ⟨[.plain "t"]⟩ "" none "") []] "" selection (.keys [] "") "" none ""))
        (.keys [] "") (.clauses none none "") "")
    let statements : List Sql.Statement :=
      [read none, .verbatim "BEGIN", read (some (.nested (.nested (.ident (.plain "x")))))]
    ∃ selects, ofStatements 4 statements = .ok selects ∧ selects.length = 2
      ∧ ofStatements 9 statements = .ok selects
      ∧ outcome (countStatements 4 statements) 0 = (.ok selects, 0)
      ∧ outcome (countStatements 3 statements) 0 = (.error (.tooDeep 3), 0) := by
  intro read statements
  obtain ⟨selects, h, hlength⟩ : ∃ selects, ofStatements 4 statements = .ok selects
    ∧ selects.length = 2 :=
    ⟨_, rfl, rfl⟩
  have hshort : ofStatements 3 statements = .error .tooDeep := rfl
  obtain ⟨hiff, hsame, -, hcount, -⟩ := ofStatements_within_limit 4 statements
  obtain ⟨-, -, -, hcountShort, -⟩ := ofStatements_within_limit 3 statements
  rw [h] at hcount
  rw [hshort] at hcountShort
  refine ⟨selects, h, hlength, (hsame selects h).2 9 fun q hq => ?_, hcount, hcountShort⟩
  exact Nat.le_trans (hiff.mp ⟨selects, h⟩ q hq) (by decide)

end Outline

end QueryLint
