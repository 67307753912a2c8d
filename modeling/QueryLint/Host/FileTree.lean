import QueryLint.Host
import QueryLint.OrderedMap
import QueryLint.Text.Search

/-!
# File trees

The files of a system, as a value. A place is told by the parts that lead to it from the root. A
path is followed part by part, from the root if it begins with a slash and from the working
directory otherwise, and every part but the last one has to be a directory. `FileTree.host` is a
system that has nothing but a file tree, an input and an environment, and in which no time passes.
-/

namespace QueryLint

/-- Why a request for a file fails. -/
inductive FileFault where
  | notFound
  | notDirectory
  | isDirectory
  | nameTooLong
  /-- The path holds the character NUL. -/
  | nulInPath
  /-- The content is not UTF-8. -/
  | notText
  deriving DecidableEq, Repr

/-- The wording of a reason. -/
def FileFault.reason : FileFault → String
  | notFound => "No such file or directory (os error 2)"
  | notDirectory => "Not a directory (os error 20)"
  | isDirectory => "Is a directory (os error 21)"
  | nameTooLong => "File name too long (os error 36)"
  | nulInPath => "file name contained an unexpected NUL byte"
  | notText => "stream did not contain valid UTF-8"

/-- What a path can lead to. -/
inductive FileEntry where
  | directory
  /-- A file, with its text if it is UTF-8. -/
  | file (content : Option String)
  deriving DecidableEq, Repr, Inhabited

/-- The files and directories below the root, and the one among them that other paths begin at. The
root, the working directory and those on the way to it are always there. -/
structure FileTree where
  /-- What else there is, by its shortest path. -/
  entries : OrderedMap FileEntry
  /-- The parts of the path from the root to the working directory. -/
  workingDirectory : List String
  deriving DecidableEq, Repr, Inhabited

namespace FileTree

/-- The tree with nothing in it but an empty working directory. -/
def empty : FileTree := ⟨.empty, ["work"]⟩

/-! ### Paths -/

/-- The parts of a path, between its slashes. -/
def parts (path : String) : List String :=
  (Text.splitAll '/' path.toList).map String.ofList

/-- The shortest path of a place: from the working directory to what is below it, and from the root
to all other places. -/
def key (t : FileTree) (place : List String) : String :=
  if t.workingDirectory.isPrefixOf place then
    String.intercalate "/" (place.drop t.workingDirectory.length)
  else "/" ++ String.intercalate "/" place

/-- What is at a place. -/
def find? (t : FileTree) (place : List String) : Option FileEntry :=
  if place.isPrefixOf t.workingDirectory then some .directory else t.entries.find? (t.key place)

/-- The place that a path begins at. -/
def start (t : FileTree) (path : String) : List String :=
  if path.toList.head? = some '/' then [] else t.workingDirectory

/-- The place that some parts lead to from another place. Above the root is the root itself. -/
def follow (t : FileTree) : List String → List String → Except FileFault (List String)
  | [], place => .ok place
  | part :: rest, place =>
    match t.find? place with
    | none => .error .notFound
    | some (.file _) => .error .notDirectory
    | some .directory =>
      if part == "" || part == "." then follow t rest place
      else if part == ".." then follow t rest place.dropLast
      else if part.utf8ByteSize > 255 then .error .nameTooLong
      else follow t rest (place ++ [part])

/-- The place that a path leads to. -/
def resolve (t : FileTree) (path : String) : Except FileFault (List String) :=
  if '\x00' ∈ path.toList then .error .nulInPath
  else if path.isEmpty then .error .notFound
  else if path.utf8ByteSize ≥ 4096 then .error .nameTooLong
  else t.follow (parts path) (t.start path)

/-! ### Requests -/

/-- The text in a file. -/
def read (t : FileTree) (path : String) : Except FileFault String := do
  match t.find? (← t.resolve path) with
  | none => throw .notFound
  | some .directory => throw .isDirectory
  | some (.file none) => throw .notText
  | some (.file (some content)) => return content

/-- Whether a path leads to something. -/
def hasPath (t : FileTree) (path : String) : Bool :=
  match t.resolve path with
  | .ok place => (t.find? place).isSome
  | .error _ => false

/-- The place to which a text is to be written. A path that ends in a slash asks for a directory. -/
def target (t : FileTree) (path : String) : Except FileFault (List String) := do
  if path.length > 1 && path.toList.getLast? == some '/' then
    let way := ((parts path).reverse.dropWhile String.isEmpty).tail.reverse
    let _ ← t.follow way (t.start path)
    throw .isDirectory
  t.resolve path

/-- The tree in which a text is written at the end of a file. -/
def append (t : FileTree) (path text : String) : Except FileFault FileTree := do
  let place ← t.target path
  let put (content : Option String) : FileTree :=
    { t with entries := t.entries.insert (t.key place) (.file content) }
  match t.find? place with
  | none => return put (some text)
  | some .directory => throw .isDirectory
  | some (.file content) => return put (content.map (· ++ text))

/-! ### Building trees -/

/-- The tree with something at a place, and directories on the way to it. -/
def put (t : FileTree) (path : String) (entry : FileEntry) : FileTree :=
  let place := t.start path ++ (parts path).filter fun part => !part.isEmpty
  let ways := ((List.range place.length).map place.take).filter
    fun way => !way.isPrefixOf t.workingDirectory
  let entries := ways.foldl (fun m way => m.insert (t.key way) .directory) t.entries
  { t with entries := entries.insert (t.key place) entry }

/-- The text in a file, if there is one. -/
def text? (t : FileTree) (path : String) : Option String :=
  (t.read path).toOption

/-! ### The host -/

/-- What a request finds out, in the words of the system. -/
def told {α : Type} (found : Except FileFault α) : Except String α :=
  found.mapError FileFault.reason

/-- The system that has nothing but a file tree, an input and an environment. -/
def host (input : String) (environment : List (String × String)) : Host (StateM FileTree) where
  read path := do return told ((← get).read path)
  append path text := do
    match (← get).append path text with
    | .ok t =>
      set t
      return .ok ()
    | .error fault => return .error fault.reason
  hasPath path := do return (← get).hasPath path
  input := return .ok input
  lookupEnv name := return environment.lookup name
  time := return 0

end FileTree

end QueryLint
