/-!
# Hosts

What the linter asks of the system it runs on. A request for a file that fails is answered with the
reason, in the words of the system.
-/

namespace QueryLint

/-- The system that the linter runs on, by its answers to requests. -/
structure Host (m : Type → Type) where
  /-- The text in a file. -/
  read : String → m (Except String String)
  /-- Writes a text at the end of a file, which is made if there is none. -/
  append : String → String → m (Except String Unit)
  /-- Whether there is a file or a directory. -/
  hasPath : String → m Bool
  /-- The text on the standard input. -/
  input : m (Except String String)
  /-- The value of a variable of the environment. -/
  lookupEnv : String → m (Option String)
  /-- Milliseconds since the start of 1970. -/
  time : m Nat

end QueryLint
