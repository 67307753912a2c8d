import QueryLint.Text.Search

/-!
# Inks

The colour and the weight of a text. A terminal shows it so when it stands between an escape
sequence and the one that resets it (`Ink.apply`).
-/

namespace QueryLint

/-- The looks that a part of a text may have. -/
inductive Ink where
  | bold
  | blue
  | boldRed
  | boldYellow
  | boldCyan
  deriving DecidableEq, Repr

namespace Ink

/-- The escape sequence that starts a look. -/
def start : Ink → List Char
  | bold => "\x1b[1m".toList
  | blue => "\x1b[34m".toList
  | boldRed => "\x1b[1;31m".toList
  | boldYellow => "\x1b[1;33m".toList
  | boldCyan => "\x1b[1;36m".toList

/-- The escape sequence that ends all looks. -/
def reset : List Char := "\x1b[0m".toList

/-- A text in which a look starts anew behind every reset. -/
def restart (ink : Ink) (text : List Char) : List Char :=
  match text with
  | [] => []
  | c :: rest =>
    if reset.isPrefixOf (c :: rest) then reset ++ ink.start ++ restart ink (rest.drop 3)
    else c :: restart ink rest
termination_by text.length
decreasing_by all_goals simp only [List.length_drop, List.length_cons]; omega

/-- A text with a look. -/
def apply (ink : Ink) (text : String) : String :=
  String.ofList (ink.start ++ restart ink text.toList ++ reset)

end Ink

end QueryLint
