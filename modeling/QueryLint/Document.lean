/-!
# Documents

What a report says, as a tree of texts, numbers, flags, lists and records. `Document.Json` and
`Document.Yaml` write it down.
-/

namespace QueryLint

/-- A tree of texts, numbers, flags, lists and records. -/
inductive Document where
  | text (content : String)
  | number (value : Nat)
  | flag (value : Bool)
  | list (items : List Document)
  /-- Named values, in the order in which they are written. -/
  | record (entries : List (String × Document))
  deriving Repr, Inhabited

namespace Document

/-- The list of some texts. -/
def texts (items : List String) : Document :=
  .list (items.map .text)

/-- How flags are written. -/
def flagText (value : Bool) : String :=
  if value then "true" else "false"

end Document

end QueryLint
