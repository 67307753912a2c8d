import QueryLint.Text.Ranges

/-!
# White space

The characters with the Unicode property `White_Space`.
-/

namespace QueryLint.Text

/-- The ranges of code points with the property `White_Space`. -/
def blankRanges : List (Nat × Nat) := [
  (9, 13), (32, 32), (133, 133), (160, 160), (5760, 5760),
  (8192, 8202), (8232, 8233), (8239, 8239), (8287, 8287), (12288, 12288)]

/-- Whether a character is white space. -/
def isBlank (c : Char) : Bool :=
  inRanges blankRanges c.toNat

/-! ### Trimming -/

/-- A text without the blanks in front. -/
def dropBlanks (text : List Char) : List Char :=
  text.dropWhile isBlank

/-- A text without the characters of a kind at its end. -/
def dropEnd (p : Char → Bool) (text : List Char) : List Char :=
  (text.reverse.dropWhile p).reverse

/-- A text without the blanks at its ends. -/
def trimBlanks (text : List Char) : List Char :=
  dropEnd isBlank (dropBlanks text)

/-- A text without the blanks at its ends. -/
def trim (text : String) : String :=
  String.ofList (trimBlanks text.toList)

end QueryLint.Text
