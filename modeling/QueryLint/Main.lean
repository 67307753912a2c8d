import QueryLint.Program
import Std.Time.DateTime.Timestamp

/-!
# Running the program

The system that the program really runs on, and the start of the program on it.
-/

namespace QueryLint

namespace SystemHost

/-- The reason in a failure of the system. -/
def reason (e : IO.Error) : String :=
  match e with
  | .noFileOrDirectory _ code _ => s!"No such file or directory (os error {code})"
  | .permissionDenied _ code _ => s!"Permission denied (os error {code})"
  | .inappropriateType _ code _ => s!"Is a directory (os error {code})"
  | other => toString other

/-- The text that some bytes are. -/
def decode (bytes : ByteArray) : Except String String :=
  match String.fromUTF8? bytes with
  | some text => .ok text
  | none => .error "stream did not contain valid UTF-8"

/-- What an action finds out, or the reason for which it fails. -/
def attempt {α : Type} (action : IO (Except String α)) : IO (Except String α) := do
  try action catch e => return .error (reason e)

/-- All bytes on a stream that are not read yet; the fuel bounds the number of pieces. -/
def drain (stream : IO.FS.Stream) : Nat → ByteArray → IO ByteArray
  | 0, found => return found
  | fuel + 1, found => do
    let piece ← stream.read 65536
    if piece.isEmpty then return found else drain stream fuel (found ++ piece)

/-- Writes a text at the end of a file. -/
def append (path text : String) : IO Unit := do
  let handle ← IO.FS.Handle.mk path .append
  handle.putStr text

/-- Whether a file or a directory can be found, whatever may be done with it. -/
def hasPath (path : String) : IO Bool := do
  try
    let _ ← IO.FS.Handle.mk path .read
    return true
  catch e =>
    match e with
    | .noFileOrDirectory _ _ _ => return false
    | _ => return true

end SystemHost

open SystemHost in
/-- The system that the program runs on. -/
def systemHost : Host IO where
  read path := attempt do return decode (← IO.FS.readBinFile path)
  append path text := attempt do return .ok (← append path text)
  hasPath := hasPath
  input := attempt do return decode (← drain (← IO.getStdin) (1 <<< 40) .empty)
  lookupEnv name := IO.getEnv name
  time := return (← Std.Time.Timestamp.now).toMillisecondsSinceUnixEpoch.val.toNat

end QueryLint

/-- Runs the program and exits as it says. -/
def main (arguments : List String) : IO UInt32 := do
  let output ← IO.getStdout
  let ending ← QueryLint.Program.run QueryLint.systemHost (← output.isTty) arguments
  output.putStr ending.output
  for notice in ending.notices do
    if notice.level == .warning then IO.eprintln notice.render
  if let some kind := ending.fatal then IO.eprintln s!"Error: {kind}"
  return ending.code.toUInt32
