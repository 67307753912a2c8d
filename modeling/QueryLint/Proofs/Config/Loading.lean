import QueryLint.Config.Loading
import QueryLint.Host.FileTree
import QueryLint.Proofs.Config.Settings

/-!
# Where settings come from

Loading a configuration looks at the environment and at one of the two files: at the one in the
working directory or, only if there is none, at the one in the home directory. A setting has the
value that the first of them gives that gives one (`load_setting`). The documented order is another
one: there, a file in the home directory still counts for the settings that the file in the working
directory does not give (`Setting.byPrecedence`).
-/

namespace QueryLint

open Config (combine fromFile homePath load localPath ofToml)

variable {t : FileTree} {input path : String} {environment : List (String × String)}

/-! ### Sources -/

/-- What is in a file: its text, or nothing if there is no file. -/
def FileTree.Holds (t : FileTree) (path : String) : Option String → Prop
  | none => t.hasPath path = false
  | some text => t.hasPath path = true ∧ t.read path = .ok text

/-- What is in the file in the home directory, if the environment names one. -/
def FileTree.HomeHolds (t : FileTree) (environment : List (String × String))
    (home : Option String) : Prop :=
  match environment.lookup "HOME" with
  | some directory => t.Holds (homePath directory) home
  | none => home = none

namespace Setting

/-- The value that the variables of the environment give for a setting. -/
def inVariables? (dialectValue logValue : Option String) : (s : Setting) → Option s.Value
  | dialect => dialectValue.bind Sql.Dialect.ofName?
  | logPath => logValue.map some
  | maxDepth | maxSeenStatements | minElapsedMs | disabled | severity => none

/-- The value that the environment gives for a setting. -/
def inEnvironment? (s : Setting) (environment : List (String × String)) : Option s.Value :=
  s.inVariables? (environment.lookup Config.dialectVariable) (environment.lookup Config.logVariable)

/-- The value of a setting in the documented order: what the environment, the file in the working
directory and the one in the home directory give, and the default. -/
def byPrecedence (s : Setting) (environment : List (String × String)) (here home : Option String) :
    s.Value :=
  (s.inEnvironment? environment <|> here.bind s.given? <|> home.bind s.given?).getD (s.get .default)

/-- The value of a setting where only one of the files counts. -/
def byOneFile (s : Setting) (environment : List (String × String)) (here home : Option String) :
    s.Value :=
  (s.inEnvironment? environment <|> (here <|> home).bind s.given?).getD (s.get .default)

end Setting

/-! ### Computations that leave the files as they are -/

section Runs

variable {α β : Type}

/-- Actions that leave the tree as it is are done one after the other. -/
theorem run_bind {x : ExceptT Error (StateM FileTree) α} {result : Except Error α}
    {next : α → ExceptT Error (StateM FileTree) β} {after : α → Except Error β}
    (hx : x.run.run t = (result, t)) (hnext : ∀ a, (next a).run.run t = (after a, t)) :
    (x >>= next).run.run t = (result >>= after, t) := by
  rw [ExceptT.run_bind, StateT.run_bind, hx]
  cases result with
  | error e => rfl
  | ok a => exact hnext a

/-- An action that does not look at the tree leaves it as it is. -/
theorem run_liftM (result : Except Error α) :
    (liftM result : ExceptT Error (StateM FileTree) α).run.run t = (result, t) := by
  cases result <;> rfl

/-- A request is answered, and what follows goes on from the answer. -/
theorem run_request {request : StateM FileTree α} {answer : α}
    (hrequest : request.run t = (answer, t)) (next : α → ExceptT Error (StateM FileTree) β) :
    (ExceptT.lift request >>= next).run.run t = (next answer).run.run t := by
  have hlift : (ExceptT.lift request).run.run t = ((.ok answer : Except Error α), t) := by
    rw [ExceptT.run_lift, StateT.run_map, hrequest]
    rfl
  rw [ExceptT.run_bind, StateT.run_bind, hlift]
  rfl

end Runs

/-! ### Loading -/

/-- A file is read as a configuration. -/
theorem run_fromFile {text : Option String} (h : t.Holds path text) :
    (fromFile (FileTree.host input environment) path).run.run t = (text.mapM ofToml, t) := by
  have hpath {found : Bool} (hfound : t.hasPath path = found) :
      ((FileTree.host input environment).hasPath path).run t = (found, t) := congrArg (·, t) hfound
  cases text with
  | none => exact run_request (hpath h) _
  | some text =>
    have hread : ((FileTree.host input environment).read path).run t = (.ok text, t) :=
      congrArg (fun read => (FileTree.told read, t)) h.2
    refine (run_request (hpath h.1) _).trans ((run_request hread _).trans ?_)
    exact run_bind (run_liftM (ofToml text)) fun c => rfl

/-- Both files are read, also where the one in the home directory does not count. -/
theorem run_load (input : String) {home here : Option String} (hhome : t.HomeHolds environment home)
    (hhere : t.Holds localPath here) :
    (load (FileTree.host input environment)).run.run t
      = (do
          let home ← home.mapM ofToml
          let here ← here.mapM ofToml
          combine home here (environment.lookup Config.dialectVariable)
            (environment.lookup Config.logVariable), t) := by
  have hbehind : ∀ home : Option Config,
      (do
        let here ← fromFile (FileTree.host input environment) localPath
        combine home here (← (FileTree.host input environment).lookupEnv Config.dialectVariable)
          (← (FileTree.host input environment).lookupEnv Config.logVariable)
        : ExceptT Error (StateM FileTree) Config).run.run t
      = (do
          let here ← here.mapM ofToml
          combine home here (environment.lookup Config.dialectVariable)
            (environment.lookup Config.logVariable), t) :=
    fun home => run_bind (run_fromFile hhere) fun here => run_liftM _
  have hlookup : ((FileTree.host input environment).lookupEnv "HOME").run t
      = (environment.lookup "HOME", t) := rfl
  refine (run_request hlookup _).trans ?_
  unfold FileTree.HomeHolds at hhome
  cases hvariable : environment.lookup "HOME" with
  | none =>
    rw [hvariable] at hhome
    obtain rfl : home = none := hhome
    exact hbehind none
  | some directory =>
    rw [hvariable] at hhome
    exact run_bind (run_fromFile hhome) hbehind

/-- The variables have the last word, and otherwise the file that is taken does. -/
theorem combine_eq_ok (home here : Option Config) {dialectValue : Option String}
    (logValue : Option String)
    (hdialect : ∀ name, dialectValue = some name → ∃ dialect, Sql.Dialect.ofName? name
      = some dialect) :
    ∃ c, combine home here dialectValue logValue = .ok c
      ∧ ∀ s : Setting, s.get c
        = (s.inVariables? dialectValue logValue).getD (s.get ((here <|> home).getD .default)) := by
  cases dialectValue with
  | none =>
    cases logValue with
    | none => exact ⟨_, rfl, fun s => by cases s <;> rfl⟩
    | some path => exact ⟨_, rfl, fun s => by cases s <;> rfl⟩
  | some name =>
    obtain ⟨dialect, hdialect⟩ := hdialect name rfl
    have hgiven : Setting.dialect.inVariables? (some name) logValue = some dialect := hdialect
    unfold combine
    simp only [hdialect]
    cases logValue with
    | none =>
      refine ⟨_, rfl, fun s => ?_⟩
      cases s with
      | dialect =>
        rw [hgiven]
        rfl
      | _ => rfl
    | some path =>
      refine ⟨_, rfl, fun s => ?_⟩
      cases s with
      | dialect =>
        rw [hgiven]
        rfl
      | _ => rfl

/-- An unknown dialect in the environment is an error, whatever the files say. -/
theorem combine_eq_error (home here : Option Config) {name : String} (log : Option String)
    (h : Sql.Dialect.ofName? name = none) :
    combine home here (some name) log = .error (.unknownDialect name) := by
  unfold combine
  simp only [h]
  rfl

/-- A setting of a file that is read is the one that the file gives, or else the default. -/
theorem get_of_mapM_ofToml {text : Option String} {config : Option Config}
    (h : text.mapM ofToml = .ok config) (s : Setting) : s.get (config.getD .default)
      = (text.bind s.given?).getD (s.get .default) := by
  cases text with
  | none =>
    cases h
    rfl
  | some text =>
    rw [Option.mapM_some, map_eq_ok_iff] at h
    obtain ⟨c, hc, rfl⟩ := h
    exact s.get_of_ofToml hc

/-- A setting of the file that is taken: the local one if it exists, or else that at home. -/
theorem get_of_taken {home here : Option String} {homeConfig hereConfig : Option Config}
    (hhome : home.mapM ofToml = .ok homeConfig) (hhere : here.mapM ofToml = .ok hereConfig)
    (s : Setting) :
    s.get ((hereConfig <|> homeConfig).getD .default)
      = ((here <|> home).bind s.given?).getD (s.get .default) := by
  cases here with
  | none =>
    cases hhere
    exact get_of_mapM_ofToml hhome s
  | some text =>
    have hget := get_of_mapM_ofToml hhere s
    rw [Option.mapM_some, map_eq_ok_iff] at hhere
    obtain ⟨c, -, rfl⟩ := hhere
    exact hget

/-- A file in the home directory is lost on the settings that a file in the working directory does
not give. -/
theorem byOneFile_ne_byPrecedence_iff (s : Setting) (here home : Option String) :
    s.byOneFile environment here home ≠ s.byPrecedence environment here home
      ↔ s.inEnvironment? environment = none ∧ here.isSome ∧ here.bind s.given? = none
        ∧ ∃ value, home.bind s.given? = some value ∧ value ≠ s.get .default := by
  unfold Setting.byOneFile Setting.byPrecedence
  cases s.inEnvironment? environment with
  | some value => simp
  | none =>
    cases here with
    | none => simp
    | some text =>
      have htaken : (some text <|> home).bind s.given? = (some text).bind s.given? := rfl
      rw [htaken]
      cases (some text).bind s.given? with
      | some value => simp
      | none =>
        cases home.bind s.given? with
        | none => simp
        | some value => simp [eq_comm]

/-- Loading a configuration goes by one file. If both files are configurations where they are there,
then either the environment names a dialect that there is not, which is an error, or each setting
has the value that the environment gives, the value that the file which counts gives, or the
default. This is another value than that of the documented order exactly for the settings that the
file in the home directory gives otherwise than by default, and neither the environment nor a file
in the working directory, which is there. -/
theorem load_setting (input : String) {home here : Option String}
    (hhome : t.HomeHolds environment home) (hhere : t.Holds localPath here)
    (hvalid : ∀ text, home = some text ∨ here = some text → ∃ c, ofToml text = .ok c) :
    (∀ name, environment.lookup Config.dialectVariable = some name →
      Sql.Dialect.ofName? name = none →
      (load (FileTree.host input environment)).run.run t = (.error (.unknownDialect name), t))
    ∧ ((∀ name, environment.lookup Config.dialectVariable = some name →
        ∃ dialect, Sql.Dialect.ofName? name = some dialect) →
      ∃ c, (load (FileTree.host input environment)).run.run t = (.ok c, t)
        ∧ ∀ s : Setting, s.get c = s.byOneFile environment here home
          ∧ (s.get c ≠ s.byPrecedence environment here home
            ↔ s.inEnvironment? environment = none ∧ here.isSome ∧ here.bind s.given? = none
              ∧ ∃ value, home.bind s.given? = some value ∧ value ≠ s.get .default)) := by
  have hread : ∀ {text : Option String},
      (∀ content, text = some content → ∃ c, ofToml content = .ok c) →
      ∃ config, text.mapM ofToml = .ok config := by
    intro text htext
    cases text with
    | none => exact ⟨none, rfl⟩
    | some content =>
      obtain ⟨c, hc⟩ := htext content rfl
      exact ⟨some c, by rw [Option.mapM_some, hc]; rfl⟩
  obtain ⟨homeConfig, hhomeConfig⟩ := hread fun content h => hvalid content (.inl h)
  obtain ⟨hereConfig, hhereConfig⟩ := hread fun content h => hvalid content (.inr h)
  have hload : (load (FileTree.host input environment)).run.run t
      = (combine homeConfig hereConfig (environment.lookup Config.dialectVariable)
          (environment.lookup Config.logVariable), t) := by
    rw [run_load input hhome hhere, hhomeConfig, hhereConfig]
    rfl
  refine ⟨fun name hname hunknown => ?_, fun hdialect => ?_⟩
  · rw [hload, hname, combine_eq_error homeConfig hereConfig _ hunknown]
  · obtain ⟨c, hc, hget⟩ :=
      combine_eq_ok homeConfig hereConfig (environment.lookup Config.logVariable) hdialect
    refine ⟨c, by rw [hload, hc], fun s => ?_⟩
    have hone : s.get c = s.byOneFile environment here home := by
      rw [hget s, get_of_taken hhomeConfig hhereConfig s, Setting.byOneFile, Setting.inEnvironment?]
      cases s.inVariables? (environment.lookup Config.dialectVariable)
        (environment.lookup Config.logVariable) <;> rfl
    exact ⟨hone, by rw [hone]; exact byOneFile_ne_byPrecedence_iff s here home⟩

/-! ### Two files -/

/-- A limit in the home directory. -/
def homeText : String := "[lint]\nmax_depth = 10\n"

/-- A log in the working directory. -/
def hereText : String := "[log]\npath = \"x.log\"\n"

/-- Both files, each with another setting. -/
def twoFiles : FileTree :=
  (FileTree.empty.put "/home/user/.config/sqlite-lint/config.toml" (.file (some homeText))).put
    ".sqlite-lint.toml"
    (.file (some hereText))

/-- The file at home holds the text. -/
theorem holds_homeText : twoFiles.Holds (homePath "/home/user") (some homeText) := by
  refine ⟨?_, ?_⟩ <;> decide +kernel

/-- So does the file at home by its environment. -/
theorem homeHolds_homeText (h : environment.lookup "HOME" = some "/home/user") :
    twoFiles.HomeHolds environment (some homeText) := by
  rw [FileTree.HomeHolds, h]
  exact holds_homeText

/-- The local file holds the text. -/
theorem holds_hereText : twoFiles.Holds localPath (some hereText) := by
  refine ⟨?_, ?_⟩ <;> decide +kernel

/-- The file at home sets the depth. -/
theorem ofToml_homeText :
    ofToml homeText
      = .ok { Config.default with lint := { LintSettings.default with maxDepth := 10 } } := by
  decide +kernel

/-- The local file sets the log path. -/
theorem ofToml_hereText :
    ofToml hereText = .ok { Config.default with logPath := some "x.log" } := by
  decide +kernel

/-- The log is set by the file in the working directory, the limit in the home directory is lost,
and an unknown dialect is an error. -/
theorem load_setting_of_twoFiles :
    let environment := [("HOME", "/home/user")]
    let unknown := [("HOME", "/home/user"), (Config.dialectVariable, "oracle")]
    twoFiles.HomeHolds environment (some homeText) ∧ twoFiles.Holds localPath (some hereText)
      ∧ (∀ text, some homeText = some text ∨ some hereText = some text → ∃ c, ofToml text = .ok c)
      ∧ (∃ c, (load (FileTree.host "" environment)).run.run twoFiles = (.ok c, twoFiles)
        ∧ Setting.logPath.get c = some "x.log"
        ∧ Setting.maxDepth.get c
          ≠ Setting.maxDepth.byPrecedence environment (some hereText) (some homeText))
      ∧ (load (FileTree.host "" unknown)).run.run twoFiles
        = (.error (.unknownDialect "oracle"), twoFiles) := by
  intro environment unknown
  have hhome : twoFiles.HomeHolds environment (some homeText) := homeHolds_homeText (by decide)
  have hhome' : twoFiles.HomeHolds unknown (some homeText) := homeHolds_homeText (by decide)
  have hvalid : ∀ text, some homeText = some text ∨ some hereText = some text → ∃ c,
      ofToml text = .ok c := by
    rintro text (htext | htext)
    · cases htext
      exact ⟨_, ofToml_homeText⟩
    · cases htext
      exact ⟨_, ofToml_hereText⟩
  have hdialect : environment.lookup Config.dialectVariable = none := by decide
  obtain ⟨c, hload, hget⟩ := (load_setting "" hhome holds_hereText hvalid).2 fun name hname => by
    rw [hdialect] at hname
    cases hname
  have hlog : Setting.logPath.byOneFile environment (some hereText) (some homeText)
      = some "x.log" := by
    decide +kernel
  have hlost : Setting.maxDepth.inEnvironment? environment = none ∧ (some hereText).isSome
      ∧ (some hereText).bind Setting.maxDepth.given? = none
      ∧ ∃ value, (some homeText).bind Setting.maxDepth.given? = some value
        ∧ value ≠ Setting.maxDepth.get .default :=
    ⟨by decide +kernel, rfl, by decide +kernel, 10, by decide +kernel, by decide⟩
  exact ⟨hhome, holds_hereText, hvalid,
    ⟨c, hload, (hget .logPath).1.trans hlog, (hget .maxDepth).2.mpr hlost⟩,
    (load_setting "" hhome' holds_hereText hvalid).1 "oracle" (by decide) (by decide +kernel)⟩

/-- The limit in the home directory is lost, though nothing else gives a limit. -/
theorem limit_at_home_lost :
    let environment := [("HOME", "/home/user")]
    twoFiles.HomeHolds environment (some homeText) ∧ twoFiles.Holds localPath (some hereText)
      ∧ Setting.maxDepth.inEnvironment? environment = none
      ∧ Setting.maxDepth.given? hereText = none ∧ Setting.maxDepth.given? homeText = some (10 : Nat)
      ∧ Setting.maxDepth.byPrecedence environment (some hereText) (some homeText) = (10 : Nat)
      ∧ ∃ c, (load (FileTree.host "" environment)).run.run twoFiles = (.ok c, twoFiles)
        ∧ Setting.maxDepth.get c = (256 : Nat) := by
  intro environment
  have hhome : twoFiles.HomeHolds environment (some homeText) := homeHolds_homeText (by decide)
  have hload := run_load "" hhome holds_hereText
  rw [Option.mapM_some, Option.mapM_some, ofToml_homeText, ofToml_hereText] at hload
  exact ⟨hhome, holds_hereText,
    by decide +kernel, by decide +kernel, by decide +kernel, by decide +kernel,
    { Config.default with logPath := some "x.log" }, hload, rfl⟩

end QueryLint
