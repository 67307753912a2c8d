import QueryLint.Replay.Request

/-!
# The command line

The arguments of the program are a verb and its options, in any order. An option takes a value,
which follows it as the next argument or is attached to it: `--format json`, `--format=json`,
`-f json`, `-fjson`, `-f=json`. A switch takes none, and several short ones may share a dash.

`CommandLine.parse` reads the arguments from left to right and stops at the first one that is wrong.
An option whose value may still come is looked at only when the next one begins, or at the end.
-/

namespace QueryLint

/-- What the program is asked to do. -/
inductive Command where
  | check (request : CheckRequest)
  | signals (request : SignalsRequest)
  deriving DecidableEq, Repr, Inhabited

namespace CommandLine

/-- Why the arguments are no command. -/
inductive Refusal where
  /-- The help is asked for. -/
  | help
  /-- There is no verb, and therefore the help is due. -/
  | helpDue
  /-- The version is asked for. -/
  | version
  /-- The verb is none. -/
  | unknownVerb
  | unknownArgument
  /-- A value is missing, empty, or none of the possible ones. -/
  | badValue
  /-- A switch has a value. -/
  | valueOfSwitch
  /-- An option is given twice that may be given once. -/
  | repeated
  /-- The queries are not given. -/
  | queriesDue
  deriving DecidableEq, Repr, Inhabited

/-! ### Verbs and options -/

/-- What the program can do. -/
inductive Verb where
  | check
  | signals
  deriving DecidableEq, Repr, Inhabited

/-- The verb of a name. -/
def Verb.ofName? : String → Option Verb
  | "check" => some check
  | "signals" => some signals
  | _ => none

/-- What takes a value. -/
inductive Setting where
  | queries
  | db
  | dialect
  | format
  | enable
  | whitelist
  | log
  deriving DecidableEq, Repr, Inhabited

/-- What may stand behind a verb. -/
inductive Parameter where
  | setting (s : Setting)
  | noColor
  | help
  deriving DecidableEq, Repr, Inhabited

/-- The parameter of a long name. -/
def Verb.long? (verb : Verb) (name : String) : Option Parameter :=
  match verb, name with
  | _, "queries" => some (.setting .queries)
  | _, "dialect" => some (.setting .dialect)
  | _, "format" => some (.setting .format)
  | _, "no-color" => some .noColor
  | _, "help" => some .help
  | .check, "db" => some (.setting .db)
  | .check, "enable" => some (.setting .enable)
  | .check, "whitelist" => some (.setting .whitelist)
  | .check, "log" => some (.setting .log)
  | _, _ => none

/-- The parameter of a short name. -/
def Verb.short? (verb : Verb) (name : Char) : Option Parameter :=
  match verb, name with
  | _, 'q' => some (.setting .queries)
  | _, 'f' => some (.setting .format)
  | _, 'h' => some .help
  | .check, 'e' => some (.setting .enable)
  | .check, 'w' => some (.setting .whitelist)
  | _, _ => none

/-! ### What was read so far -/

/-- The options that were read so far. -/
structure Draft where
  queries : Option String
  db : Option String
  dialect : Option Sql.Dialect
  format : Option Format
  enable : List String
  whitelist : List String
  log : Option String
  noColor : Bool
  deriving DecidableEq, Repr, Inhabited

namespace Draft

/-- No option was read yet. -/
def empty : Draft := ⟨none, none, none, none, [], [], none, false⟩

/-- Whether an option was read that may be given once. -/
def has (d : Draft) : Setting → Bool
  | .queries => d.queries.isSome
  | .db => d.db.isSome
  | .dialect => d.dialect.isSome
  | .format => d.format.isSome
  | .enable => false
  | .whitelist => false
  | .log => d.log.isSome

/-- A path, which is not empty. -/
def path? (text : String) : Option String :=
  if text.isEmpty then none else some text

/-- The options with another one. -/
def set? (d : Draft) (s : Setting) (value : String) : Option Draft :=
  match s with
  | .queries => (path? value).map fun path => { d with queries := some path }
  | .db => some { d with db := some value }
  | .dialect => (Sql.Dialect.ofExactName? value).map fun dialect =>
    { d with dialect := some dialect }
  | .format => (Format.ofName? value).map fun format => { d with format := some format }
  | .enable => some { d with enable := d.enable ++ [value] }
  | .whitelist => some { d with whitelist := d.whitelist ++ [value] }
  | .log => (path? value).map fun path => { d with log := some path }

/-- The options with another one, of which the value may be missing. -/
def add (d : Draft) (s : Setting) : Option String → Except Refusal Draft
  | none => throw .badValue
  | some value =>
    if d.has s then throw .repeated
    else match d.set? s value with
      | some changed => return changed
      | none => throw .badValue

/-- The command of a verb with these options. -/
def command (d : Draft) (verb : Verb) : Except Refusal Command :=
  match d.queries with
  | none => throw .queriesDue
  | some queries =>
    let format := d.format.getD .text
    match verb with
    | .check => return .check {
        queries
        dbPath := d.db.getD "main.db"
        dialect := d.dialect
        format
        enable := d.enable
        whitelist := d.whitelist
        log := d.log
        noColor := d.noColor }
    | .signals => return .signals { queries, dialect := d.dialect, format, noColor := d.noColor }

end Draft

/-- How far the arguments behind a verb were read. -/
structure Progress where
  draft : Draft
  /-- The last option, if its value has to follow, and the value that did. -/
  pending : Option (Setting × Option String)
  /-- Whether no more options follow. -/
  ended : Bool
  deriving DecidableEq, Repr, Inhabited

namespace Progress

/-- Nothing was read yet. -/
def start : Progress := ⟨.empty, none, false⟩

/-- Adds the pending option to the others. -/
def settle (p : Progress) : Except Refusal Progress :=
  match p.pending with
  | none => return p
  | some (s, value) => do return { p with draft := ← p.draft.add s value, pending := none }

/-- Reads an option with the value that is attached to it, if there is one. -/
def option (p : Progress) (s : Setting) (value : Option String) : Except Refusal Progress := do
  let p ← p.settle
  match value with
  | none => return { p with pending := some (s, none) }
  | some text => return { p with draft := ← p.draft.add s (some text) }

/-- Reads the switch that forbids colours. -/
def noColor (p : Progress) : Except Refusal Progress := do
  let p ← p.settle
  if p.draft.noColor then throw .repeated
  return { p with draft := { p.draft with noColor := true } }

/-- Reads a request for help. -/
def help (p : Progress) : Except Refusal Progress := do
  let _ ← p.settle
  throw .help

end Progress

/-! ### Arguments -/

/-- The value behind an equals sign, if a text starts with one. -/
def behindEquals (text : List Char) : List Char :=
  match text with
  | '=' :: value => value
  | value => value

/-- Reads an argument with two dashes, of which the name is given, and the value if one is
attached. -/
def readLong (verb : Verb) (p : Progress) (name : String) (value : Option String) :
    Except Refusal Progress :=
  match verb.long? name, value with
  | none, _ => throw .unknownArgument
  | some (.setting s), _ => p.option s value
  | some .noColor, none => p.noColor
  | some .help, none => p.help
  | some _, some _ => throw .valueOfSwitch

/-- Reads an argument with one dash, from behind it. -/
def readShort (verb : Verb) (p : Progress) : List Char → Except Refusal Progress
  | [] => return p
  | c :: rest =>
    match verb.short? c with
    | none => throw .unknownArgument
    | some (.setting s) =>
      p.option s (if rest.isEmpty then none else some (String.ofList (behindEquals rest)))
    | some .noColor => do readShort verb (← p.noColor) rest
    | some .help => p.help

/-- Reads an argument without a dash. It can only be the value of an option. -/
def readPlain (p : Progress) (text : String) : Except Refusal Progress :=
  match p.pending with
  | some (s, none) => return { p with pending := some (s, some text) }
  | _ => throw .unknownArgument

/-- The name and the attached value of an argument with two dashes, from behind them. -/
def splitLong (text : List Char) : String × Option String :=
  match Text.splitFirst ['='] text with
  | some (name, value) => (String.ofList name, some (String.ofList value))
  | none => (String.ofList text, none)

/-- Reads an argument behind a verb. -/
def read (verb : Verb) (p : Progress) (argument : String) : Except Refusal Progress :=
  if p.ended then throw .unknownArgument
  else match argument.toList with
    | ['-', '-'] => return { p with ended := true }
    | '-' :: '-' :: text =>
      let (name, value) := splitLong text
      readLong verb p name value
    | ['-'] => readPlain p argument
    | '-' :: text => readShort verb p text
    | _ => readPlain p argument

/-- The command of a verb with some arguments. -/
def parseVerb (verb : Verb) (arguments : List String) : Except Refusal Command := do
  let read ← arguments.foldlM (read verb) .start
  (← read.settle).draft.command verb

/-! ### The verb -/

/-- Why an option in front of a verb is refused. -/
def refuseShort : List Char → Refusal
  | 'h' :: _ => .help
  | 'V' :: _ => .version
  | _ => .unknownArgument

/-- Why an option with two dashes in front of a verb is refused. -/
def refuseLong (text : List Char) : Refusal :=
  match splitLong text with
  | ("help", none) => .help
  | ("version", none) => .version
  | ("help", some _) => .valueOfSwitch
  | ("version", some _) => .valueOfSwitch
  | _ => .unknownArgument

/-- Whether a name is a verb, of which `help` is one too. -/
def isVerb (name : String) : Bool :=
  name == "help" || (Verb.ofName? name).isSome

/-- Why arguments without a verb are refused. -/
def refuse : List String → Refusal
  | [] => .helpDue
  | argument :: rest =>
    match argument.toList with
    | ['-', '-'] =>
      match rest with
      | [] => .helpDue
      | next :: _ => if isVerb next then .unknownArgument else .unknownVerb
    | '-' :: '-' :: text => refuseLong text
    | ['-'] => .unknownVerb
    | '-' :: text => refuseShort text
    | _ => .unknownVerb

/-- The command that the arguments of the program are. -/
def parse : List String → Except Refusal Command
  | "help" :: rest =>
    match rest with
    | [] => throw .help
    | [name] => throw (if isVerb name then .help else .unknownVerb)
    | _ => throw .unknownVerb
  | argument :: rest =>
    match Verb.ofName? argument with
    | some verb => parseVerb verb rest
    | none => throw (refuse (argument :: rest))
  | [] => throw .helpDue

end CommandLine

end QueryLint
