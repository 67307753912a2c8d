import Mathlib.Data.List.Induction
import QueryLint.Policy

/-!
# What a policy permits

A policy is the outcome of the calls that changed it (`Policy.Call`). What it permits is told here
by the calls alone: which names were enabled, and what the last whitelist says (`Permits`).
`permits_ofCalls_iff` is that the policy which the calls lead to decides just this.
-/

namespace QueryLint.Policy

/-- A call that changes a policy. -/
inductive Call where
  | enable (checker : String)
  | setWhitelist (whitelist : Whitelist)

namespace Call

/-- The policy after a call. -/
def apply (p : Policy) : Call → Policy
  | enable checker => (p.enable checker).2
  | setWhitelist whitelist => p.setWhitelist whitelist

/-- The whitelist that a call sets, if it sets one. -/
def whitelist? : Call → Option Whitelist
  | enable _ => none
  | setWhitelist whitelist => some whitelist

end Call

/-- The policy after some calls, the first of which was made on the policy of a new installation. -/
def ofCalls (calls : List Call) : Policy :=
  calls.foldl Call.apply .default

variable {calls : List Call} {table checker : String}

/-! ### Told by the calls -/

/-- A checker runs after some calls: they enabled none by name, or one of that name in whatever
letter case. -/
def Enables (calls : List Call) (checker : String) : Prop :=
  (∀ name, .enable name ∉ calls) ∨ ∃ name, .enable name ∈ calls
    ∧ Text.sameLetters name checker = true

/-- A key of a whitelist names a table, in whatever letter case: it is the name of the table, or
what is behind the last dot in it. -/
def Names (key table : String) : Prop :=
  Text.sameLetters key table = true
    ∨ ∃ schema bare, table.toList = schema ++ '.' :: bare ∧ '.' ∉ bare
      ∧ Text.sameLetters key (String.ofList bare) = true

/-- The names beside a key of a whitelist are about a checker: there are none, or one stands for all
checkers, or one is that of the checker in whatever letter case. -/
def Covers (names : List String) (checker : String) : Prop :=
  names = [] ∨ ∃ name ∈ names, name = Whitelist.allCheckers ∨ Text.sameLetters name checker = true

/-- A checker is suppressed for a table after some calls, by some entry of the last whitelist. -/
def Whitelists (calls : List Call) (table checker : String) : Prop :=
  ∃ w, (calls.filterMap Call.whitelist?).getLast? = some w
    ∧ ∃ e ∈ w.entries, Names e.1 table ∧ Covers e.2 checker

/-- A finding of a checker stays after some calls: the checker runs, and what the finding says it is
of is suppressed for none of its tables. -/
def Permits (calls : List Call) (found : String × Finding) : Prop :=
  Enables calls found.1 ∧ ∀ table ∈ found.2.tables, ¬Whitelists calls table found.2.checker

/-! ### Told by the policy -/

/-- The last call is applied last. -/
theorem ofCalls_concat (calls : List Call) (call : Call) :
    ofCalls (calls ++ [call]) = call.apply (ofCalls calls) := by
  rw [ofCalls, List.foldl_append]
  rfl

/-- Enabling adds one name, in lower case. -/
theorem mem_enabled_enable_iff {p : Policy} {name : String} :
    name ∈ (p.enable checker).2.enabled ↔ name ∈ p.enabled ∨ name = Text.asciiLower checker := by
  unfold enable
  dsimp only
  split
  · next h =>
    have hmem : Text.asciiLower checker ∈ p.enabled := by simpa using h
    constructor
    · exact .inl
    · rintro (hname | rfl)
      · exact hname
      · exact hmem
  · simp

/-- The enabled names are those of the calls, in lower case. -/
theorem mem_enabled_ofCalls_iff {name : String} :
    name ∈ (ofCalls calls).enabled ↔ ∃ c, .enable c ∈ calls ∧ name = Text.asciiLower c := by
  induction calls using List.reverseRecOn with
  | nil => simp [ofCalls, default]
  | append_singleton calls call ih =>
    rw [ofCalls_concat]
    cases call with
    | enable checker =>
      rw [Call.apply, mem_enabled_enable_iff, ih]
      simp [or_and_right, exists_or]
    | setWhitelist w =>
      have hsame : (Call.apply (ofCalls calls) (.setWhitelist w)).enabled
        = (ofCalls calls).enabled := rfl
      rw [hsame, ih]
      simp

/-- A checker is enabled by the policy exactly when the calls enable it. -/
theorem isEnabled_ofCalls_iff : (ofCalls calls).isEnabled checker = true
    ↔ Enables calls checker := by
  rw [isEnabled, Bool.or_eq_true, List.contains_iff_mem, mem_enabled_ofCalls_iff, List.isEmpty_iff,
    List.eq_nil_iff_forall_not_mem]
  simp only [mem_enabled_ofCalls_iff]
  refine or_congr ?_ ?_
  · constructor
    · intro h name hname
      exact h _ ⟨name, hname, rfl⟩
    · rintro h _ ⟨name, hname, -⟩
      exact h name hname
  · simp only [Text.sameLetters_iff]
    exact exists_congr fun name => and_congr_right fun _ => eq_comm

/-- Only the last whitelist counts. -/
theorem whitelist_ofCalls (calls : List Call) :
    (ofCalls calls).whitelist = (calls.filterMap Call.whitelist?).getLast?.getD .empty := by
  induction calls using List.reverseRecOn with
  | nil => rfl
  | append_singleton calls call ih =>
    rw [ofCalls_concat, List.filterMap_append]
    cases call with
    | enable checker =>
      have hsame : (Call.apply (ofCalls calls) (.enable checker)).whitelist
          = (ofCalls calls).whitelist := by
        simp only [Call.apply, enable]
        split <;> rfl
      rw [hsame, ih]
      simp [Call.whitelist?]
    | setWhitelist w => simp [Call.whitelist?, Call.apply, setWhitelist]

/-- A key is about a table exactly when it names it. -/
theorem isAbout_iff {key : String} : isAbout key table = true ↔ Names key table := by
  rw [isAbout, Bool.or_eq_true, Names, bareTable]
  refine or_congr_right ?_
  cases hsplit : Text.splitLast '.' table.toList with
  | none =>
    have hnone := Text.splitLast_eq_none_iff.mp hsplit
    simp only [Option.map_none, Bool.false_eq_true, false_iff]
    rintro ⟨schema, bare, heq, -⟩
    simp [heq] at hnone
  | some parts =>
    obtain ⟨schema, bare⟩ := parts
    obtain ⟨heq, hbare⟩ := Text.splitLast_eq_some_iff.mp hsplit
    constructor
    · intro h
      exact ⟨schema, bare, heq, hbare, h⟩
    · rintro ⟨schema', bare', heq', hbare', h⟩
      rw [Text.splitLast_eq_some_iff.mpr ⟨heq', hbare'⟩] at hsplit
      cases hsplit
      exact h

/-- Names cover a checker exactly when they are none, or one of them names it. -/
theorem covers_iff {names : List String} : covers names checker = true ↔ Covers names checker := by
  rw [covers, Bool.or_eq_true, List.isEmpty_iff, List.any_eq_true, Covers]
  simp only [Bool.or_eq_true, beq_iff_eq]

/-- A table is whitelisted by the policy exactly when the calls whitelist it. -/
theorem isWhitelisted_ofCalls_iff :
    (ofCalls calls).isWhitelisted table checker = true ↔ Whitelists calls table checker := by
  rw [isWhitelisted, whitelist_ofCalls, List.any_eq_true, Whitelists]
  simp only [Bool.and_eq_true, isAbout_iff, covers_iff]
  cases (calls.filterMap Call.whitelist?).getLast? with
  | none => simp [OrderedMap.empty]
  | some w => simp

/-- The policy that some calls lead to lets a finding pass exactly if the calls permit it. -/
theorem permits_ofCalls_iff {found : String × Finding} :
    ((ofCalls calls).isEnabled found.1 && !(ofCalls calls).suppresses found.2) = true
      ↔ Permits calls found := by
  rw [Bool.and_eq_true, isEnabled_ofCalls_iff, Permits, suppresses, Bool.not_eq_true',
    List.any_eq_false]
  simp only [isWhitelisted_ofCalls_iff]

instance (calls : List Call) : DecidablePred (Permits calls) :=
  fun _ => decidable_of_iff _ permits_ofCalls_iff

/-- Without calls everything is permitted. -/
theorem permits_nil (found : String × Finding) : Permits [] found := by
  refine ⟨.inl fun _ => List.not_mem_nil, fun table _ => ?_⟩
  rintro ⟨w, hw, -⟩
  cases hw

end QueryLint.Policy
