import QueryLint.Proofs.Registry.Filtering
import QueryLint.Proofs.Replay.Check

/-!
# Enabled checkers of a replay

A check refuses names of checkers that it does not know, and then enables those that are left. Both
compare names in whatever letter case, so each name that is accepted enables the checkers that it
names, and what is found is what these raise (`enables_named_checkers`). But the name that stands
for all checkers is accepted as well, for the whitelist, and enabling it enables none: alone it
silences all checkers (`enabling_all_checkers_silences`).
-/

namespace QueryLint

/-- No built-in checker bears the name that stands for all checkers. -/
theorem Checker.not_sameLetters_allCheckers {c : Checker} (hc : c ∈ builtIn) :
    Text.sameLetters Whitelist.allCheckers c.name = false := by
  have hall : ∀ name ∈ builtIn.map Checker.name,
      Text.sameLetters Whitelist.allCheckers name = false := by decide +kernel
  exact hall c.name (List.mem_map_of_mem hc)

namespace Replay

variable {config : Config} {names : List String} {whitelist : Whitelist} {checker : String}

/-! ### The policy of a replay -/

/-- The calls that change the policy before a replay. -/
def callsFor (names : List String) (whitelist : Whitelist) : List Policy.Call :=
  names.map .enable ++ [.setWhitelist whitelist]

/-- A replay begins on an installation with the policy that the calls lead to. -/
theorem installed?_prepare (engine : Engine) (time : Nat) (dbPath : String) (names : List String)
    (whitelist : Whitelist) :
    (prepare engine time dbPath names whitelist).installed? dbPath
      = some (0, { Installation.start dbPath ⟨dbPath, false⟩ engine.settings.maxSeenStatements with
        policy := .ofCalls (callsFor names whitelist) }) := by
  have hprepare : prepare engine time dbPath names whitelist
      = (callsFor names whitelist).foldl (fun r call => call.run dbPath r)
        ((Registry.new engine time).install dbPath ⟨dbPath, false⟩) := by
    rw [callsFor, List.foldl_append, List.foldl_map]
    rfl
  rw [hprepare]
  exact (Registry.calls_run _ (single_install engine time dbPath).installed?).1

/-- Names are for a checker if one of them is its name, in whatever letter case, or if there are
none at all. -/
def AreFor (names : List String) (checker : String) : Prop :=
  names = [] ∨ ∃ name ∈ names, Text.sameLetters name checker = true

instance (names : List String) : DecidablePred (AreFor names) :=
  fun _ => inferInstanceAs (Decidable (_ ∨ _))

/-- The calls of a check enable a checker exactly when the names are for it. -/
theorem isEnabled_callsFor :
    (Policy.ofCalls (callsFor names whitelist)).isEnabled checker = true
      ↔ AreFor names checker := by
  rw [Policy.isEnabled_ofCalls_iff, Policy.Enables, AreFor, callsFor,
    List.eq_nil_iff_forall_not_mem]
  simp

/-! ### Names that are accepted -/

/-- A name that is accepted is that of a checker, in whatever letter case, or the one for all
checkers. -/
theorem exists_checker_of_known {name : String} (h : Known config name)
    (hname : name ≠ Whitelist.allCheckers) :
    ∃ c ∈ (Engine.ofConfig config).checkers.checkers, Text.sameLetters name c.name = true := by
  obtain ⟨known, hknown, hsame⟩ := h.resolve_left hname
  obtain ⟨c, hc, rfl⟩ := List.mem_map.mp hknown
  exact ⟨c, hc, Text.sameLetters_comm c.name name ▸ hsame⟩

/-- The name for all checkers is that of none. -/
theorem exists_name_of_areFor {c : Checker} (hc : c ∈ (Engine.ofConfig config).checkers.checkers)
    (h : AreFor names c.name) (hnames : names ≠ []) : ∃ name ∈ names,
      name ≠ Whitelist.allCheckers := by
  obtain ⟨name, hname, hsame⟩ := h.resolve_left hnames
  refine ⟨name, hname, ?_⟩
  rintro rfl
  rw [Checker.not_sameLetters_allCheckers (CheckerSet.mem_builtIn_of_mem_ofSettings hc)] at hsame
  cases hsame

/-- The names that a check accepts enable the checkers that they name. A replay begins with its
database installed under a policy by which a checker runs exactly if there are no names or one of
them is that of the checker, in whatever letter case. Each name but the one for all checkers enables
some checker, and what is found in a text is what the named checkers raise there, apart from what
the whitelist suppresses. The name for all checkers enables none. So some checker runs exactly if
there are checkers and no names, or if one of the names is another, and without another name nothing
is found in any text. -/
theorem enables_named_checkers
    (hknown : requireKnown (Engine.ofConfig config).checkers.names names = .ok ()) (time : Nat)
    (dbPath : String) (whitelist : Whitelist) :
    let engine := Engine.ofConfig config
    let checkers := engine.checkers.checkers
    ∃ n i, (prepare engine time dbPath names whitelist).installed? dbPath = some (n, i)
      ∧ (∀ checker, i.policy.isEnabled checker = true ↔ AreFor names checker)
      ∧ (∀ name ∈ names, name ≠ Whitelist.allCheckers →
        ∃ c ∈ checkers, Text.sameLetters name c.name = true ∧ i.policy.isEnabled c.name = true)
      ∧ ((∃ c ∈ checkers, i.policy.isEnabled c.name = true)
        ↔ (names = [] ∧ checkers ≠ []) ∨ ∃ name ∈ names, name ≠ Whitelist.allCheckers)
      ∧ (∀ sql, engine.findings i.policy sql
        = ((engine.raised sql).filter fun found =>
          AreFor names found.1 && !i.policy.suppresses found.2).map Prod.snd)
      ∧ (names ≠ [] → (∀ name ∈ names, name = Whitelist.allCheckers) →
        ∀ sql, engine.findings i.policy sql = []) := by
  intro engine checkers
  have haccepted : ∀ name ∈ names, Known config name := requireKnown_eq_ok_iff.mp hknown
  refine ⟨0, _, installed?_prepare engine time dbPath names whitelist,
    fun _ => isEnabled_callsFor, ?_⟩
  dsimp only
  -- From here on only which checkers the policy enables matters.
  generalize hpolicy : Policy.ofCalls (callsFor names whitelist) = policy
  have henabled (checker : String) : policy.isEnabled checker = true ↔ AreFor names checker :=
    hpolicy ▸ isEnabled_callsFor
  have hfindings (sql : String) : engine.findings policy sql
      = ((engine.raised sql).filter fun found =>
        AreFor names found.1 && !policy.suppresses found.2).map Prod.snd := by
    rw [Engine.findings_eq_filter]
    refine congrArg _ (List.filter_congr fun found _ => congrArg (· && _) ?_)
    rw [Bool.eq_iff_iff, decide_eq_true_iff, henabled]
  have heach : ∀ name ∈ names, name ≠ Whitelist.allCheckers →
      ∃ c ∈ checkers, Text.sameLetters name c.name = true ∧ policy.isEnabled c.name = true := by
    intro name hname hother
    obtain ⟨c, hc, hsame⟩ := exists_checker_of_known (haccepted name hname) hother
    exact ⟨c, hc, hsame, (henabled c.name).mpr (.inr ⟨name, hname, hsame⟩)⟩
  refine ⟨heach, ⟨?_, ?_⟩, hfindings, fun hnames hall sql => ?_⟩
  · rintro ⟨c, hc, hruns⟩
    by_cases hnames : names = []
    · exact .inl ⟨hnames, List.ne_nil_of_mem hc⟩
    · exact .inr (exists_name_of_areFor hc ((henabled c.name).mp hruns) hnames)
  · rintro (⟨hnames, hcheckers⟩ | ⟨name, hname, hother⟩)
    · obtain ⟨c, hc⟩ := List.exists_mem_of_ne_nil _ hcheckers
      exact ⟨c, hc, (henabled c.name).mpr (.inl hnames)⟩
    · obtain ⟨c, hc, -, hruns⟩ := heach name hname hother
      exact ⟨c, hc, hruns⟩
  · rw [hfindings, List.map_eq_nil_iff, List.filter_eq_nil_iff]
    -- What is raised comes from a checker of the set, and none of these bears the name for all.
    intro found hfound hkept
    obtain ⟨c, hc, _, -, _, -, rfl⟩ := Engine.exists_checker_of_mem_raised hfound
    have hfor : AreFor names c.name := of_decide_eq_true (Bool.and_eq_true_iff.mp hkept).1
    obtain ⟨name, hmem, hother⟩ := exists_name_of_areFor hc hfor hnames
    exact hother (hall name hmem)

/-- One name enables the checker that it names, and no other one. -/
theorem enables_named_checkers_of_one :
    let engine := Engine.ofConfig .default
    ∃ n i, (prepare engine 0 "app.db" ["or_condition"] .empty).installed? "app.db" = some (n, i)
      ∧ (engine.checkers.names.filter fun name => i.policy.isEnabled name) = ["or_condition"] := by
  intro engine
  have hknown : requireKnown (Engine.ofConfig .default).checkers.names ["or_condition"]
      = .ok () := by
    decide +kernel
  obtain ⟨n, i, hi, henabled, -⟩ := enables_named_checkers hknown 0 "app.db" .empty
  refine ⟨n, i, hi, ?_⟩
  have hdecided (name : String) : i.policy.isEnabled name
      = decide (AreFor ["or_condition"] name) := by
    rw [Bool.eq_iff_iff, decide_eq_true_iff, henabled]
  simp only [hdecided]
  decide +kernel

/-- The name for all checkers is accepted, and nothing is found with it that is found without
names. -/
theorem enabling_all_checkers_silences :
    let plan (enable : List String) : Except Error Checked :=
      planCheck .default ⟨"q.sql", "app.db", none, .text, enable, [], none, true⟩ false 0
        "SELECT a FROM t WHERE a = 1 OR b = 2"
    let found (enable : List String) : Option (List String) :=
      (plan enable).toOption.map fun checked =>
        (checked.deliveries.flatMap Delivery.issues).map Issue.type
    found [] = some ["or_condition"] ∧ found [Whitelist.allCheckers] = some [] := by
  decide +kernel

end Replay

end QueryLint
