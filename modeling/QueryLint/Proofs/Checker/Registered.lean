import QueryLint.Proofs.Registry.Filtering

/-!
# Registered checkers

The settings of the checkers are read once, for the built-in ones, when a set of checkers is made
(`CheckerSet.ofSettings`). What is registered later is outside of them: it runs also if its name is
left out, and no severity is set for its name, unless a built-in checker that runs has that name too
(`run_foldl_register`). So the settings say of a registered checker what happens to it only if they
do not speak of it (`registered_not_configured`).
-/

namespace QueryLint

/-! ### What the settings say -/

namespace CheckerSettings

variable {settings : CheckerSettings} {name : String}

/-- The findings of those of some checkers that are active and not left out, each with the severity
that is set for its checker. -/
def findingsOf (settings : CheckerSettings) (checkers : List Checker) (sql : String) (s : Signals)
    (isActive : String → Bool) : List Finding :=
  (checkers.filter fun c => isActive c.name && !settings.disables c.name).flatMap fun c =>
    (c.check sql s).map fun f => { f with level := (settings.severityOf c.name).getD f.level }

/-- The built-in checkers that are not left out. -/
def enabled (settings : CheckerSettings) : List Checker :=
  Checker.builtIn.filter fun c => !settings.disables c.name

/-- The severity that is set for the findings of a name: there is one only for the built-in checkers
that are not left out. -/
def builtInSeverityOf (settings : CheckerSettings) (name : String) : Option Severity :=
  if name ∈ settings.enabled.map Checker.name then settings.severityOf name else none

/-- A checker is disabled exactly when its name is listed, in any letter case. -/
theorem disables_iff :
    settings.disables name = true ↔ ∃ d ∈ settings.disabled,
      Text.asciiLower d = Text.asciiLower name := by
  simp only [disables, List.any_eq_true, Text.sameLetters_iff]

/-- An enabled built-in checker has the severity of the settings. -/
theorem builtInSeverityOf_of_mem {c : Checker} (hc : c ∈ settings.enabled) :
    settings.builtInSeverityOf c.name = settings.severityOf c.name :=
  if_pos (List.mem_map_of_mem hc)

/-- Findings of two lists of checkers are found one after the other. -/
theorem findingsOf_append (settings : CheckerSettings) (checkers later : List Checker)
    (sql : String) (s : Signals) (isActive : String → Bool) :
    settings.findingsOf (checkers ++ later) sql s isActive
      = settings.findingsOf checkers sql s isActive
        ++ settings.findingsOf later sql s isActive := by
  rw [findingsOf, List.filter_append, List.flatMap_append]
  rfl

/-- If none of some checkers is left out, all active ones are asked. -/
theorem findingsOf_of_not_disabled {checkers : List Checker}
    (hchecker : ∀ c ∈ checkers, settings.disables c.name = false) (sql : String) (s : Signals)
    (isActive : String → Bool) :
    settings.findingsOf checkers sql s isActive
      = (checkers.filter fun c => isActive c.name).flatMap fun c =>
        (c.check sql s).map fun f =>
        { f with level := (settings.severityOf c.name).getD f.level } := by
  have hkeeps : (checkers.filter fun c => isActive c.name && !settings.disables c.name)
      = checkers.filter fun c => isActive c.name :=
    List.filter_congr fun c hc => by rw [hchecker c hc, Bool.not_false, Bool.and_true]
  rw [findingsOf, hkeeps]

end CheckerSettings

/-! ### Sets with more checkers -/

namespace CheckerSet

variable {settings : CheckerSettings}

/-- The severities of some checkers hold the severity of a name if one of the checkers has it. -/
theorem lookup_severities (level : String → Option Severity) (name : String)
    (checkers : List Checker) :
    (checkers.filterMap fun c => (level c.name).map (c.name, ·)).lookup name
      = if name ∈ checkers.map Checker.name then level name else none := by
  induction checkers with
  | nil => rfl
  | cons c rest ih =>
    rw [List.filterMap_cons, List.map_cons]
    by_cases hname : name = c.name
    · subst hname
      rw [if_pos List.mem_cons_self]
      cases hlevel : level c.name with
      | none =>
        dsimp only [Option.map_none]
        rw [ih, hlevel, ite_self]
      | some value =>
        dsimp only [Option.map_some]
        rw [List.lookup_cons_self]
    · have hskip : (name == c.name) = false := beq_eq_false_iff_ne.mpr hname
      have hmem : name ∈ c.name :: rest.map Checker.name ↔ name ∈ rest.map Checker.name := by
        simp only [List.mem_cons, hname, false_or]
      simp only [hmem]
      cases hlevel : level c.name with
      | none => exact ih
      | some value =>
        dsimp only [Option.map_some]
        rw [List.lookup_cons, hskip]
        exact ih

/-- The severity of a finding is overridden if a built-in checker of its name is enabled. -/
theorem withSeverity_ofSettings (settings : CheckerSettings) (f : Finding) :
    (ofSettings settings).withSeverity f
      = { f with level := (settings.builtInSeverityOf f.checker).getD f.level } := by
  have hlookup : (ofSettings settings).severities.lookup f.checker
      = settings.builtInSeverityOf f.checker :=
    lookup_severities settings.severityOf f.checker settings.enabled
  rw [withSeverity, hlookup]
  cases settings.builtInSeverityOf f.checker <;> rfl

/-- Registering checkers puts them behind the others and changes nothing else. -/
theorem foldl_register (set : CheckerSet) (later : List Checker) :
    later.foldl register set = { set with checkers := set.checkers ++ later } := by
  induction later generalizing set with
  | nil => rw [List.foldl_nil, List.append_nil]
  | cons c rest ih =>
    rw [List.foldl_cons, ih, register, List.append_assoc]
    rfl

/-- What a set of checkers finds, checker by checker. -/
theorem run_eq_flatMap (set : CheckerSet) (sql : String) (s : Signals) (isActive : String → Bool) :
    set.run sql s isActive
      = (set.checkers.filter fun c => isActive c.name).flatMap fun c =>
        (c.check sql s).map set.withSeverity := by
  rw [run, List.map_flatMap]

/-- What the built-in checkers find is what the settings say. -/
theorem flatMap_enabled (settings : CheckerSettings) (sql : String) (s : Signals)
    (isActive : String → Bool) :
    ((settings.enabled.filter fun c => isActive c.name).flatMap fun c =>
        (c.check sql s).map (ofSettings settings).withSeverity)
      = settings.findingsOf Checker.builtIn sql s isActive := by
  rw [CheckerSettings.findingsOf, CheckerSettings.enabled, List.filter_filter]
  refine List.flatMap_congr fun c hc => List.map_congr_left fun f hf => ?_
  obtain ⟨hmem, hkeeps⟩ := List.mem_filter.mp hc
  have henabled : c ∈ settings.enabled :=
    List.mem_filter.mpr ⟨hmem, (Bool.and_eq_true_iff.mp hkeeps).2⟩
  rw [withSeverity_ofSettings, Checker.checker_of_mem_check hmem hf,
    CheckerSettings.builtInSeverityOf_of_mem henabled]

/-- A set that is made from settings finds with its built-in checkers what the settings say, letter
case in what is left out put aside. The checkers that are registered later all run behind them, if
they are active, and their findings have the severity that is set for a built-in checker of the name
that the finding gives, or their own. This is what the settings say of the registered checkers too
if they leave none of them out and set no other severity. -/
theorem run_foldl_register (settings : CheckerSettings) (later : List Checker) (sql : String)
    (s : Signals) (isActive : String → Bool) :
    (later.foldl register (ofSettings settings)).run sql s isActive
        = settings.findingsOf Checker.builtIn sql s isActive
          ++ ((later.filter fun c => isActive c.name).flatMap fun c => (c.check sql s).map fun f =>
            { f with level := (settings.builtInSeverityOf f.checker).getD f.level })
      ∧ (∀ name, settings.disables name = true
        ↔ ∃ d ∈ settings.disabled, Text.asciiLower d = Text.asciiLower name)
      ∧ ((∀ c ∈ later, settings.disables c.name = false
          ∧ ∀ f ∈ c.check sql s, settings.builtInSeverityOf f.checker
            = settings.severityOf c.name) →
        (later.foldl register (ofSettings settings)).run sql s isActive
          = settings.findingsOf (Checker.builtIn ++ later) sql s isActive) := by
  have hrun : (later.foldl register (ofSettings settings)).run sql s isActive
      = settings.findingsOf Checker.builtIn sql s isActive
        ++ ((later.filter fun c => isActive c.name).flatMap fun c => (c.check sql s).map fun f =>
          { f with level := (settings.builtInSeverityOf f.checker).getD f.level }) := by
    rw [foldl_register, run_eq_flatMap]
    dsimp only
    rw [List.filter_append, List.flatMap_append]
    refine congrArg₂ (· ++ ·) (flatMap_enabled settings sql s isActive) ?_
    exact List.flatMap_congr fun c _ => List.map_congr_left fun f _ =>
      withSeverity_ofSettings settings f
  refine ⟨hrun, fun name => CheckerSettings.disables_iff, fun hlater => ?_⟩
  rw [hrun, CheckerSettings.findingsOf_append,
    CheckerSettings.findingsOf_of_not_disabled fun c hc => (hlater c hc).1]
  refine congrArg _ (List.flatMap_congr fun c hc => List.map_congr_left fun f hf => ?_)
  rw [(hlater c (List.mem_filter.mp hc).1).2 f hf]

/-- A set with a disabled built-in checker, a severity for another one, and a registered checker of
which the settings do not speak. -/
theorem run_foldl_register_of_one :
    let settings : CheckerSettings := ⟨["OR_Condition"], ⟨[("fuzzy_match", "Error")]⟩⟩
    let s : Signals :=
      { Signals.none with tables := ["t", "u"], hasOr := true, hasFuzzyMatching := true }
    ([Checker.tableLimit "many" .info 1 "advice"].foldl register (ofSettings settings)).run "q" s
        (fun _ => true)
      = settings.findingsOf (Checker.builtIn ++ [Checker.tableLimit "many" .info 1 "advice"]) "q" s
        fun _ => true := by
  intro settings s
  have hlevel : settings.severityOf "many" = none := by decide +kernel
  refine (run_foldl_register settings _ "q" s _).2.2 fun c hc => ?_
  obtain rfl := List.mem_singleton.mp hc
  refine ⟨by decide +kernel, fun f hf => ?_⟩
  obtain rfl := List.mem_singleton.mp hf
  change settings.builtInSeverityOf "many" = settings.severityOf "many"
  rw [CheckerSettings.builtInSeverityOf, hlevel, ite_self]

/-- A registered checker runs although the settings leave it out, and the severity that they set for
another one is not used. -/
theorem registered_not_configured :
    let settings : CheckerSettings := ⟨["many"], ⟨[("crowded", "error")]⟩⟩
    let later :=
      [Checker.tableLimit "many" .info 1 "advice", Checker.tableLimit "crowded" .info 1 "advice"]
    let s : Signals := { Signals.none with tables := ["t", "u"] }
    (later.foldl register (ofSettings settings)).run "q" s (fun _ => true)
        ≠ settings.findingsOf (Checker.builtIn ++ later) "q" s (fun _ => true)
      ∧ ((later.foldl register (ofSettings settings)).run "q" s fun _ => true).map
        (fun f => (f.checker, f.level)) = [("many", .info), ("crowded", .info)]
      ∧ (settings.findingsOf (Checker.builtIn ++ later) "q" s fun _ => true).map
        (fun f => (f.checker, f.level)) = [("crowded", .error)] := by
  decide +kernel

end CheckerSet

end QueryLint
