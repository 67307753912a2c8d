/-!
# Where a text is not TOML

A TOML text that breaks the grammar, or that holds another value than was due, is rejected at one
place. Places are counted in characters from the start; a report tells them by line and column.
-/

namespace QueryLint.Toml

/-- The place at which a text is rejected. -/
structure Fault where
  offset : Nat
  deriving DecidableEq, Repr, Inhabited

namespace Fault

/-- The characters of the last line of a text. -/
def lastLine (text : List Char) : List Char :=
  (text.reverse.takeWhile (· != '\n')).reverse

/-- The line and the column of an offset, counted from 1. The end of the text lies one column behind
its last character, on the line of that character. In front of a character that is not ASCII, the
column counts the bytes of UTF-8. -/
def place (text : List Char) (offset : Nat) : Nat × Nat :=
  let last := min offset (text.length - 1)
  let before := text.take last
  let line := before.count '\n' + 1
  let column := match text[offset]? with
    | some c =>
      if c.utf8Size == 1 then (lastLine before).length
        else (String.ofList (lastLine before)).utf8ByteSize
    | none => (lastLine before).length + (offset - last)
  (line, column + 1)

/-- What is told of a fault in a text. -/
def report (text : String) (f : Fault) : String :=
  let (line, column) := place text.toList f.offset
  s!"TOML parse error at line {line}, column {column}"

end Fault

end QueryLint.Toml
