/-!
# Lists without repetition

Lists of texts in which nothing occurs twice, in the order in which it first came.
-/

namespace QueryLint.Distinct

/-- The list with a text at its end, unless it is there already. -/
def insert (items : List String) (item : String) : List String :=
  if items.contains item then items else items ++ [item]

/-- The different members of a list, in the order in which they first occur. -/
def ofList (items : List String) : List String :=
  items.foldl insert []

end QueryLint.Distinct
