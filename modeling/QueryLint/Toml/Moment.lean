import QueryLint.Text.Search

/-!
# Dates and times

Which texts are a date, a time, or both, as TOML writes them: `1979-05-27`, `07:32:00.5`, or
`1979-05-27T07:32:00-07:00`. The seconds may be left out.
-/

namespace QueryLint.Toml.Moment

/-- Takes a number of exactly so many digits that lies in a range. -/
def number (width low high : Nat) (text : List Char) : Option (Nat × List Char) :=
  let digits := text.take width
  let n := Text.ofDigits digits
  if digits.length == width && digits.all Char.isDigit && low ≤ n && n ≤ high
    then some (n, text.drop width) else none

/-- Takes a character. -/
def char (c : Char) : List Char → Option (List Char)
  | [] => none
  | d :: rest => if c == d then some rest else none

/-- Whether a year has a 29th of February. -/
def isLeap (year : Nat) : Bool :=
  (year % 4 == 0 && year % 100 != 0) || year % 400 == 0

/-- The number of days of a month. -/
def daysIn (year month : Nat) : Nat :=
  if month == 2 then (if isLeap year then 29 else 28)
  else if [4, 6, 9, 11].contains month then 30
  else 31

/-- Takes a date. -/
def date (text : List Char) : Option (List Char) := do
  let (year, text) ← number 4 0 9999 text
  let (month, text) ← number 2 1 12 (← char '-' text)
  let (_, text) ← number 2 1 (daysIn year month) (← char '-' text)
  return text

/-- Takes the fraction of a second, if there is one. -/
def fraction : List Char → Option (List Char)
  | '.' :: rest =>
    if (rest.head?.map Char.isDigit).getD false then some (rest.dropWhile Char.isDigit) else none
  | text => some text

/-- Takes a time. -/
def time (text : List Char) : Option (List Char) := do
  let (_, text) ← number 2 0 23 text
  let (_, text) ← number 2 0 59 (← char ':' text)
  match text with
  | ':' :: rest =>
    let (_, rest) ← number 2 0 60 rest
    fraction rest
  | other => some other

/-- Whether a text is the distance from universal time, or nothing. -/
def isZone : List Char → Bool
  | [] => true
  | c :: rest =>
    if c == 'Z' || c == 'z' then rest.isEmpty
    else if c == '+' || c == '-' then
      ((number 2 0 23 rest).bind fun (_, text) => (char ':' text).bind (number 2 0 59)).elim false
        fun (_, text) => text.isEmpty
    else false

/-- Whether a text is a date and possibly a time. -/
def isDated (text : List Char) : Bool :=
  match date text with
  | none => false
  | some [] => true
  | some (c :: rest) => (c == 'T' || c == 't' || c == ' ') && (time rest).elim false isZone

/-- Whether a text is a date, a time, or both. -/
def isMoment (text : List Char) : Bool :=
  isDated text || time text == some []

end QueryLint.Toml.Moment
