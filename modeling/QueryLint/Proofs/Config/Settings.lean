import QueryLint.Config.Reading
import QueryLint.Proofs.OrderedMap
import QueryLint.Proofs.Results

/-!
# What a file says about a setting

A configuration is a record of settings, and a TOML text gives some of them: each under a key of one
of its tables. `Setting.given?` is the value that a text gives for a setting, and a text that is a
configuration has this value for it, or the default if it gives none (`Setting.get_of_ofToml`). So
what a text says about one setting does not depend on what it says about the others.
-/

namespace QueryLint

/-! ### Records -/

namespace Toml.Node

/-- What a table has under a key, or a list of values at the place of the field. -/
def member? (fields : List String) (key : String) : Node → Option Node
  | .table _ _ entries => (OrderedMap.ofList entries).find? key
  | .list _ _ items => (OrderedMap.ofList (fields.zip items)).find? key
  | .scalar _ _ => none

section Records

variable {σ α β : Type} {fields : List (KnownKey σ)} {key : String} {get : σ → α}
    {read : Expected α}
  {start found : σ}

/-- A known key sets a component to its value. -/
def Sets (field : KnownKey σ) (get : σ → α) (read : Expected α) : Prop :=
  ∀ v s s', field.2 v s = .ok s' → read v = .ok (get s')

/-- A known key does not change a component. -/
def Keeps (field : KnownKey σ) (get : σ → α) : Prop :=
  ∀ v s s', field.2 v s = .ok s' → get s' = get s

/-- Of the known keys, only one sets a component, and the others do not change it. -/
structure Component (fields : List (KnownKey σ)) (key : String) (get : σ → α) (read : Expected α) :
    Prop where
  known : ∃ field ∈ fields, field.1 = key
  sets : ∀ field ∈ fields, field.1 = key → Sets field get read
  keeps : ∀ field ∈ fields, field.1 ≠ key → Keeps field get

/-- The last one of some values that is for a component sets it. -/
theorem get_of_foldlM {step : σ → β → Except Fault σ} {name : β → String} {value : β → Node}
    {values : List β}
    (hsets : ∀ b ∈ values, name b = key → ∀ s s', step s b = .ok s' → read (value b) = .ok (get s'))
    (hkeeps : ∀ b ∈ values, name b ≠ key → ∀ s s', step s b = .ok s' → get s' = get s)
    (h : values.foldlM step start = .ok found) :
    (((OrderedMap.ofList (values.map fun b => (name b, value b))).find? key).elim
      (.ok (get start)) read)
      = .ok (get found) := by
  induction values using List.reverseRecOn generalizing found with
  | nil =>
    cases h
    rfl
  | append_singleton values b ih =>
    rw [List.foldlM_append, bind_eq_ok_iff] at h
    obtain ⟨before, hbefore, hb⟩ := h
    rw [List.foldlM_cons, bind_eq_ok_iff] at hb
    obtain ⟨after, hb, hafter⟩ := hb
    cases hafter
    have hmem : b ∈ values ++ [b] := List.mem_append_right _ List.mem_cons_self
    rw [List.map_append, List.map_singleton, OrderedMap.ofList_concat, OrderedMap.find?_insert]
    by_cases hname : name b = key
    · rw [hname, beq_self_eq_true]
      exact hsets b hmem hname before found hb
    · rw [beq_false_of_ne (Ne.symm hname), hkeeps b hmem hname before found hb]
      exact ih (fun b hb => hsets b (List.mem_append_left _ hb))
        (fun b hb => hkeeps b (List.mem_append_left _ hb)) hbefore

/-- What is read has the value of its own key for a component. -/
theorem Component.get_of_record (hget : Component fields key get read) {due : Nat} {v : Node}
    (h : record fields due start v = .ok found) :
    ((v.member? (fields.map Prod.fst) key).elim (.ok (get start)) read) = .ok (get found) := by
  cases v with
  | scalar n value => cases h
  | table n origin entries =>
    have hentries : entries = entries.map fun e => (e.1, e.2) := (List.map_id' entries).symm
    rw [member?, hentries]
    -- Entries of the own key set the component, all others keep it, unknown ones included.
    refine get_of_foldlM (fun e _ hkey s s' hstep => ?_) (fun e _ hkey s s' hstep => ?_) h
    · dsimp only at hstep
      split at hstep
      · next change hlookup =>
          exact hget.sets _ (OrderedMap.mem_of_lookup hlookup) hkey e.2 s s' hstep
      · next hlookup =>
        obtain ⟨field, hfield, hname⟩ := hget.known
        have hne := List.lookup_eq_none_iff.mp hlookup field hfield
        rw [hkey, hname, bne_self_eq_false] at hne
        cases hne
    · dsimp only at hstep
      split at hstep
      · next change hlookup =>
          exact hget.keeps _ (OrderedMap.mem_of_lookup hlookup) hkey e.2 s s' hstep
      · obtain ⟨-, -, hsame⟩ := bind_eq_ok_iff.mp hstep
        cases hsame
        rfl
  | list n growing items =>
    obtain ⟨last, hfold, hlast⟩ := bind_eq_ok_iff.mp h
    have hfound : last = found := by
      split at hlast
      · cases hlast
      · cases hlast
        rfl
    subst hfound
    have hnamed : (fields.map Prod.fst).zip items = (fields.zip items).map fun e =>
        (e.1.1, e.2) := by
      rw [List.zip_map_left]
      rfl
    rw [member?, hnamed]
    refine get_of_foldlM (fun e he hkey s s' hstep => ?_) (fun e he hkey s s' hstep => ?_) hfold
    · exact hget.sets e.1 (List.of_mem_zip he).1 hkey e.2 s s' hstep
    · exact hget.keeps e.1 (List.of_mem_zip he).1 hkey e.2 s s' hstep

end Records

end Toml.Node

open Toml.Node

/-! ### Tables -/

namespace LintSettings

/-- Only its own key sets the dialect. -/
theorem component_dialect :
    Component fields "dialect" LintSettings.dialect (name Sql.Dialect.ofExactName?) := by
  constructor <;> simp [fields, Sets, Keeps, map_eq_ok_iff]

/-- Only its own key sets the greatest depth. -/
theorem component_maxDepth : Component fields "max_depth" LintSettings.maxDepth natural64 := by
  constructor <;> simp [fields, Sets, Keeps, map_eq_ok_iff]

/-- Only its own key sets how many statements are remembered. -/
theorem component_maxSeenStatements :
    Component fields "max_seen_statements" LintSettings.maxSeenStatements natural64 := by
  constructor <;> simp [fields, Sets, Keeps, map_eq_ok_iff]

/-- Only its own key sets which executions count. -/
theorem component_minElapsedMs :
    Component fields "min_elapsed_ms" LintSettings.minElapsedMs natural64 := by
  constructor <;> simp [fields, Sets, Keeps, map_eq_ok_iff]

end LintSettings

namespace CheckerSettings

/-- Only its own key sets the disabled checkers. -/
theorem component_disabled : Component fields "disabled" CheckerSettings.disabled texts := by
  constructor <;> simp [fields, Sets, Keeps, map_eq_ok_iff]

/-- Only its own key sets the severities. -/
theorem component_severity : Component fields "severity" CheckerSettings.severity textMap := by
  constructor <;> simp [fields, Sets, Keeps, map_eq_ok_iff]

end CheckerSettings

namespace Config

/-- Only its own key sets the path of the log. -/
theorem component_logPath : Component logFields "path" id fun v => some <$> text v := by
  constructor <;> simp [logFields, Sets, Keeps, map_eq_ok_iff]

/-- Only its own table sets how statements are linted. -/
theorem component_lint :
    Component fields "lint" Config.lint (record LintSettings.fields 0 .default) := by
  constructor <;> simp [fields, Sets, Keeps, map_eq_ok_iff]

/-- Only its own table sets what the checkers do. -/
theorem component_checkers :
    Component fields "checkers" Config.checkers (record CheckerSettings.fields 0 .default) := by
  constructor <;> simp [fields, Sets, Keeps, map_eq_ok_iff]

/-- Only its own table sets where issues are logged. -/
theorem component_log : Component fields "log" Config.logPath (record logFields 1 none) := by
  constructor <;> simp [fields, Sets, Keeps, map_eq_ok_iff]

end Config

/-! ### Settings -/

/-- A setting. -/
inductive Setting where
  | dialect
  | maxDepth
  | maxSeenStatements
  | minElapsedMs
  | disabled
  | severity
  | logPath
  deriving DecidableEq, Repr

namespace Setting

/-- What a setting can be. -/
abbrev Value : Setting → Type
  | dialect => Sql.Dialect
  | maxDepth | maxSeenStatements | minElapsedMs => Nat
  | disabled => List String
  | severity => OrderedMap String
  | logPath => Option String

/-- What a setting is in a configuration. -/
def get : (s : Setting) → Config → s.Value
  | dialect, c => c.lint.dialect
  | maxDepth, c => c.lint.maxDepth
  | maxSeenStatements, c => c.lint.maxSeenStatements
  | minElapsedMs, c => c.lint.minElapsedMs
  | disabled, c => c.checkers.disabled
  | severity, c => c.checkers.severity
  | logPath, c => c.logPath

/-- The table that a setting belongs to. -/
def table : Setting → String
  | dialect | maxDepth | maxSeenStatements | minElapsedMs => "lint"
  | disabled | severity => "checkers"
  | logPath => "log"

/-- The keys of the table that a setting belongs to. -/
def keys : Setting → List String
  | dialect | maxDepth | maxSeenStatements | minElapsedMs => LintSettings.fields.map Prod.fst
  | disabled | severity => CheckerSettings.fields.map Prod.fst
  | logPath => Config.logFields.map Prod.fst

/-- The key of a setting. -/
def key : Setting → String
  | dialect => "dialect"
  | maxDepth => "max_depth"
  | maxSeenStatements => "max_seen_statements"
  | minElapsedMs => "min_elapsed_ms"
  | disabled => "disabled"
  | severity => "severity"
  | logPath => "path"

/-- The value that is written for a setting. -/
def read : (s : Setting) → Expected s.Value
  | dialect => name Sql.Dialect.ofExactName?
  | maxDepth | maxSeenStatements | minElapsedMs => natural64
  | disabled => texts
  | severity => textMap
  | logPath => fun v => some <$> text v

/-- The value that a TOML text gives for a setting, under its key in its table. -/
def given? (s : Setting) (text : String) : Option s.Value := do
  let root ← (Toml.Node.ofText text).toOption
  let table ← root.member? (Config.fields.map Prod.fst) s.table
  let value ← table.member? s.keys s.key
  (s.read value).toOption

/-- A component of a table, which is itself a component of a text. -/
theorem get_of_component {σ α : Type} {fields : List (KnownKey σ)} {tableName key : String}
    {due : Nat} {part : Config → σ} {get : σ → α} {read : Expected α}
    (hpart : Component Config.fields tableName part (record fields due (part .default)))
    (hget : Component fields key get read) {root : Toml.Node} {c : Config}
    (h : record Config.fields 0 .default root = .ok c) :
    get (part c) = (((root.member? (Config.fields.map Prod.fst) tableName).bind fun table =>
      (table.member? (fields.map Prod.fst) key).bind fun value => (read value).toOption)).getD
        (get (part .default)) := by
  have htable := hpart.get_of_record h
  cases hmember : root.member? (Config.fields.map Prod.fst) tableName with
  | none =>
    rw [hmember] at htable
    rw [← Except.ok.inj htable]
    rfl
  | some table =>
    rw [hmember] at htable
    have hvalue := hget.get_of_record htable
    rw [Option.bind_some]
    cases hkey : table.member? (fields.map Prod.fst) key with
    | none =>
      rw [hkey] at hvalue
      exact (Except.ok.inj hvalue).symm
    | some value =>
      rw [hkey] at hvalue
      rw [Option.bind_some, show read value = .ok (get (part c)) from hvalue]
      rfl

/-- A configuration has the value that its text gives for a setting, and the default where the text
gives none. -/
theorem get_of_ofToml {text : String} {c : Config} (h : Config.ofToml text = .ok c) (s : Setting) :
    s.get c = (s.given? text).getD (s.get .default) := by
  obtain ⟨root, hroot, hrecord⟩ : ∃ root, Toml.Node.ofText text = .ok root
      ∧ record Config.fields 0 .default root = .ok c := by
    rw [Config.ofToml] at h
    cases hread : Toml.Node.ofText text >>= record Config.fields 0 .default with
    | error fault =>
      rw [hread] at h
      cases h
    | ok found =>
      rw [hread] at h
      cases h
      exact bind_eq_ok_iff.mp hread
  rw [given?, hroot]
  cases s with
  | dialect => exact get_of_component Config.component_lint LintSettings.component_dialect hrecord
  | maxDepth => exact get_of_component Config.component_lint LintSettings.component_maxDepth hrecord
  | maxSeenStatements =>
    exact get_of_component Config.component_lint LintSettings.component_maxSeenStatements hrecord
  | minElapsedMs =>
    exact get_of_component Config.component_lint LintSettings.component_minElapsedMs hrecord
  | disabled =>
    exact get_of_component Config.component_checkers CheckerSettings.component_disabled hrecord
  | severity =>
    exact get_of_component Config.component_checkers CheckerSettings.component_severity hrecord
  | logPath => exact get_of_component Config.component_log Config.component_logPath hrecord

end Setting

end QueryLint
