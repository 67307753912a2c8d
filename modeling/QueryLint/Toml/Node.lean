import QueryLint.Toml.Scalar

/-!
# The tree of a TOML text

A text is read into a table of values (`Node.ofText`). Every table knows how it came about
(`Origin`), because that decides which later lines may add to it: a header may begin a table only
once, and a key with dots may only add to tables that such keys made. The entries of a table are
sorted by their keys.
-/

namespace QueryLint.Toml

/-- How a table came about. -/
inductive Origin where
  /-- By a header of its own; the whole text also counts as such a table. -/
  | header
  /-- By a header for a table within it. -/
  | implied
  /-- By a key with dots. -/
  | dotted
  /-- In braces. -/
  | inline
  deriving DecidableEq, Repr, Inhabited

/-- A value, and where it starts. -/
inductive Node where
  | scalar (start : Nat) (value : Scalar)
  /-- A list. One that headers made can grow. -/
  | list (start : Nat) (growing : Bool) (items : List Node)
  | table (start : Nat) (origin : Origin) (entries : List (String × Node))

/-- A part of a key, and where it starts. -/
structure Key where
  name : String
  start : Nat
  deriving DecidableEq, Repr, Inhabited

/-- The entries of a table, sorted by their keys. -/
abbrev Entries := List (String × Node)

namespace Node

/-- Where a value starts. -/
def start : Node → Nat
  | scalar n _ => n
  | list n _ _ => n
  | table n _ _ => n

/-! ### Entries -/

/-- The entries with a value for a key. -/
def put (name : String) (v : Node) : Entries → Entries
  | [] => [(name, v)]
  | (k, w) :: rest =>
    if name < k then (name, v) :: (k, w) :: rest
    else if name == k then (name, v) :: rest
    else (k, w) :: put name v rest

/-- What a function makes of a table: a result and other entries. -/
abbrev Change (α : Type) := Origin → Entries → Except Fault (α × Entries)

/-- Changes the table that a path leads to. Tables that are missing on the way come about by the
given cause. A path leads into the last table of a growing list, and for keys with dots only into
tables that no header began. -/
def descend {α : Type} (cause : Origin) (f : Change α) : List Key → Change α
  | [], origin, entries => f origin entries
  | key :: path, _, entries =>
    match entries.lookup key.name with
    | none => do
      let (found, inner) ← descend cause f path cause []
      return (found, put key.name (.table key.start cause inner) entries)
    | some (.table n origin inner) => do
      if origin == .inline || (cause == .dotted && origin == .header) then throw ⟨key.start⟩
      let (found, inner) ← descend cause f path origin inner
      return (found, put key.name (.table n origin inner) entries)
    | some (.list n true items) =>
      match items.getLast? with
      | some (.table m origin inner) => do
        let (found, inner) ← descend cause f path origin inner
        let grown := items.dropLast ++ [.table m origin inner]
        return (found, put key.name (.list n true grown) entries)
      | _ => throw ⟨key.start⟩
    | some _ => throw ⟨key.start⟩

/-- Gives a value to a key, of which the last part is given on its own. -/
def assign (path : List Key) (key : Key) (v : Node) (entries : Entries) : Except Fault Entries := do
  let (_, changed) ← descend .dotted (fun origin inner =>
    if (origin == .dotted) == path.isEmpty || (inner.lookup key.name).isSome then throw ⟨key.start⟩
    else return ((), put key.name v inner)) path .header entries
  return changed

/-! ### Values -/

/-- A key with its parts read: all but the last one, and the last one. -/
def readKey (pieces : List Piece) : Except Fault (List Key × Key) := do
  let keys ← pieces.mapM fun p => do return (⟨← p.key, p.start⟩ : Key)
  return (keys.dropLast, keys.getLast?.getD default)

mutual

/-- The value that was written. -/
def ofItem : Item → Except Fault Node
  | .scalar p => do return .scalar p.start (← p.scalar)
  | .list n items => do return .list n false (← ofItems items)
  | .table n entries => do return .table n .inline (← ofEntries entries [])

/-- The values that were written. -/
def ofItems : List Item → Except Fault (List Node)
  | [] => .ok []
  | item :: rest => do
    let v ← ofItem item
    return v :: (← ofItems rest)

/-- The entries that were written, added to others. -/
def ofEntries : List Entry → Entries → Except Fault Entries
  | [], found => .ok found
  | .mk key item :: rest, found => do
    let (path, last) ← readKey key
    let v ← ofItem item
    ofEntries rest (← assign path last v found)

end

/-! ### Tables with headers -/

/-- Takes a table out of the one it belongs to, when its header is read. It must not exist, or only
because it was implied. -/
def takeOut (key : Key) : Change Entries := fun _ entries =>
  match entries.lookup key.name with
  | none => return ([], entries)
  | some (.table _ .implied inner) => return (inner, entries.filter fun e => e.1 != key.name)
  | some _ => throw ⟨key.start⟩

/-- Puts a table into the one it belongs to. -/
def putIn (n : Nat) (key : Key) (inner : Entries) : Change Unit := fun _ entries =>
  return ((), put key.name (.table n .header inner) entries)

/-- Adds a table to a growing list, when its entries are read. -/
def append (n : Nat) (key : Key) (inner : Entries) : Change Unit := fun _ entries =>
  match entries.lookup key.name with
  | none => return ((), put key.name (.list n true [.table n .header inner]) entries)
  | some (.list m true items) =>
    return ((), put key.name (.list m true (items ++ [.table n .header inner])) entries)
  | some _ => throw ⟨key.start⟩

/-- The entries up to the next header, and the lines from there. -/
def ownEntries : List Line → List Entry × List Line
  | .entry e :: rest => let (entries, behind) := ownEntries rest; (e :: entries, behind)
  | lines => ([], lines)

/-- Adds the table behind a header to the whole. -/
def addTable (n : Nat) (repeated : Bool) (pieces : List Piece) (entries : List Entry)
    (root : Entries) : Except Fault Entries := do
  let (path, last) ← readKey pieces
  let reach {α : Type} (f : Change α) (root : Entries) := descend .implied f path .header root
  if repeated then
    let inner ← ofEntries entries []
    return (← reach (append n last inner) root).2
  else
    let (known, root) ← reach (takeOut last) root
    let inner ← ofEntries entries known
    return (← reach (putIn n last inner) root).2

/-- Adds the tables of all lines to the whole; the fuel bounds their number. -/
def addTables : Nat → List Line → Entries → Except Fault Entries
  | fuel + 1, .header n repeated key :: rest, root => do
    let (entries, behind) := ownEntries rest
    addTables fuel behind (← addTable n repeated key entries root)
  | _, _, root => .ok root

/-- The table that a text is. -/
def ofText (text : String) : Except Fault Node := do
  let lines ← Line.readAll text.toList
  let (entries, behind) := ownEntries lines
  return .table 0 .header (← addTables lines.length behind (← ofEntries entries []))

end Node

end QueryLint.Toml
