import QueryLint.Toml.Fault
import QueryLint.Toml.Token

/-!
# The grammar of TOML

A document is a sequence of headers and entries, one a line (`Line`). `Line.readAll` finds them in a
text, without looking into the pieces that stand for keys and values. A piece that is missing is
read as an empty bare word, which no key and no value is.
-/

namespace QueryLint.Toml

/-- A piece of text that stands for a key or a value, as it is written. -/
structure Piece where
  quoting : Quoting
  text : List Char
  start : Nat
  deriving DecidableEq, Repr, Inhabited

/-- The piece that is missing at an offset. -/
def Piece.missing (start : Nat) : Piece := ⟨.bare, [], start⟩

/-- The piece that a token is. -/
def Token.piece? (t : Token) : Option Piece :=
  match t.kind with
  | .piece quoting => some ⟨quoting, t.text, t.start⟩
  | _ => none

mutual

/-- A value as it is written, and where it starts. -/
inductive Item where
  | scalar (piece : Piece)
  | list (start : Nat) (items : List Item)
  | table (start : Nat) (entries : List Entry)

/-- A key, with its parts between dots, and its value. -/
inductive Entry where
  | mk (key : List Piece) (value : Item)

end

/-- A line of a document. A repeated header starts a new table of a list. -/
inductive Line where
  | header (start : Nat) (repeated : Bool) (key : List Piece)
  | entry (e : Entry)

/-! ### Readers -/

/-- What a reader has in front of it, and where the last token ended that was not blank. -/
structure Tokens where
  ahead : List Token
  edge : Nat
  /-- The offset of the end of the text. -/
  stop : Nat

/-- A reader of tokens. -/
abbrev Reader (α : Type) := StateT Tokens (Except Fault) α

namespace Reader

/-- The next token. -/
def peek : Reader (Option Token) := do
  return (← get).ahead.head?

/-- The kind of the next token. -/
def peekKind : Reader (Option TokenKind) := do
  return (← peek).map Token.kind

/-- Where the next token starts. -/
def here : Reader Nat := do
  return ((← peek).map Token.start).getD (← get).stop

/-- Rejects the text at an offset. -/
def reject {α : Type} (offset : Nat) : Reader α :=
  throw ⟨offset⟩

/-- Whether a token does not count for where something ended. -/
def isSpacing : TokenKind → Bool
  | .blank | .comment | .newline => true
  | _ => false

/-- Whether a character may stand in a comment. -/
def isCommentChar (c : Char) : Bool :=
  c == '\t' || (32 ≤ c.toNat && c.toNat != 127)

/-- Where a token that is no piece breaks the rules for its characters. -/
def faultIn (t : Token) : Option Fault :=
  match t.kind with
  | .newline => if t.text.getLast? == some '\n' then none else some ⟨t.stop⟩
  | .comment =>
    let good := t.text.takeWhile isCommentChar
    if good.length < t.text.length then some ⟨t.start + good.length⟩ else none
  | _ => none

/-- Passes the next token. -/
def advance : Reader Unit := do
  let s ← get
  match s.ahead with
  | [] => return ()
  | t :: rest =>
    match faultIn t with
    | some fault => throw fault
    | none => set { s with ahead := rest, edge := if isSpacing t.kind then s.edge else t.stop }

/-- Passes the next token if it is of a kind, and says whether it was. -/
def accept (kind : TokenKind) : Reader Bool := do
  if (← peekKind) == some kind then
    advance
    return true
  else return false

/-- Passes blanks. Two never stand side by side. -/
def skipBlank : Reader Unit := do
  let _ ← accept .blank

/-- Passes blanks, comments and ends of lines. -/
def skipSpacing : Reader Unit := do
  ((← get).ahead.takeWhile fun t => isSpacing t.kind).forM fun _ => advance

/-- Passes the rest of a line on which nothing is left. -/
def endOfLine : Reader Unit := do
  skipBlank
  let _ ← accept .comment
  match ← peekKind with
  | none => return ()
  | some .newline => advance
  | some _ => reject (← here)

/-! ### Keys -/

/-- Takes a part of a key. -/
def keyPart : Reader Piece := do
  skipBlank
  match (← peek).bind Token.piece? with
  | some piece =>
    advance
    return piece
  | none => return .missing (← here)

/-- Takes the parts of a key behind the first one; the fuel bounds their number. -/
def keyRest : Nat → Reader (List Piece)
  | 0 => return []
  | fuel + 1 => do
    skipBlank
    if ← accept .dot then
      let part ← keyPart
      return part :: (← keyRest fuel)
    else return []

/-- Takes a key. -/
def key : Reader (List Piece) := do
  let part ← keyPart
  return part :: (← keyRest (← get).ahead.length)

/-! ### Values -/

/-- The characters of a bare value behind its first token, which may have dots and single blanks. -/
def bareTail : List Token → List Token
  | ⟨.dot, text, start⟩ :: rest => ⟨.dot, text, start⟩ :: bareTail rest
  | ⟨.piece .bare, text, start⟩ :: rest => ⟨.piece .bare, text, start⟩ :: bareTail rest
  | ⟨.blank, text, start⟩ :: ⟨.piece .bare, text', start'⟩ :: rest =>
    ⟨.blank, text, start⟩ :: ⟨.piece .bare, text', start'⟩ :: bareTail rest
  | _ => []

/-- Takes a bare value that starts with a token. -/
def bareValue (first : Token) : Reader Piece := do
  advance
  let tail := bareTail (← get).ahead
  tail.forM fun _ => advance
  return ⟨.bare, first.text ++ tail.flatMap Token.text, first.start⟩

/-- How deep lists and tables may be nested in a value. -/
def maxNesting : Nat := 80

mutual

/-- Takes a value. The fuel bounds the number of tokens, the room how deep the value may be
nested. -/
def value : Nat → Nat → Reader Item
  | 0, _ => do reject (← here)
  | fuel + 1, room => do
    match ← peek with
    | none => return .scalar (.missing (← here))
    | some t =>
      match t.kind with
      | .openBracket =>
        if room == 0 then reject t.start
        advance
        return .list t.start (← items fuel (room - 1))
      | .openBrace =>
        if room == 0 then reject t.start
        advance
        return .table t.start (← entries fuel (room - 1))
      | .piece .bare => return .scalar (← bareValue t)
      | .dot => return .scalar (← bareValue t)
      | .piece quoting =>
        advance
        return .scalar ⟨quoting, t.text, t.start⟩
      | .comma => return .scalar (.missing t.start)
      | .newline => return .scalar (.missing t.start)
      | .comment => return .scalar (.missing t.start)
      | _ => reject t.start

/-- Takes the items of a list up to its end. -/
def items : Nat → Nat → Reader (List Item)
  | 0, _ => do reject (← get).edge
  | fuel + 1, room => do
    skipSpacing
    match ← peekKind with
    | none => reject (← get).edge
    | some .closeBracket =>
      advance
      return []
    | some .comma => reject (← here)
    | some _ =>
      let item ← value fuel room
      skipSpacing
      match ← peekKind with
      | none => reject (← get).edge
      | some .comma =>
        advance
        return item :: (← items fuel room)
      | some .closeBracket =>
        advance
        return [item]
      | some _ => reject (← here)

/-- Takes the entries of a table up to its end. -/
def entries : Nat → Nat → Reader (List Entry)
  | 0, _ => do reject (← get).edge
  | fuel + 1, room => do
    skipSpacing
    match ← peekKind with
    | none => reject (← get).edge
    | some .closeBrace =>
      advance
      return []
    | some .comma => reject (← here)
    | some .openBracket => reject (← here)
    | some .closeBracket => reject (← here)
    | some .openBrace => reject (← here)
    | some _ =>
      let name ← key
      skipSpacing
      if (← peek).isNone then reject (← get).edge
      if !(← accept .equals) then reject (← here)
      skipSpacing
      if (← peek).isNone then reject (← get).edge
      let entry := Entry.mk name (← value fuel room)
      skipSpacing
      match ← peekKind with
      | none => reject (← get).edge
      | some .comma =>
        advance
        return entry :: (← entries fuel room)
      | some .closeBrace =>
        advance
        return [entry]
      | some _ => reject (← here)

end

/-! ### Lines -/

/-- Takes a header. -/
def header : Reader Line := do
  let start ← here
  advance
  let repeated ← accept .openBracket
  skipBlank
  match ← peekKind with
  | some (.piece _) => pure ()
  | some .dot => pure ()
  | _ => reject (← here)
  let name ← key
  skipBlank
  if !(← accept .closeBracket) then reject (← get).edge
  if repeated then
    if !(← accept .closeBracket) then reject (← get).edge
  endOfLine
  return .header start repeated name

/-- Takes an entry that is a line of its own. -/
def entryLine : Reader Line := do
  let name ← key
  skipBlank
  if !(← accept .equals) then reject (← here)
  skipBlank
  let found ← value ((← get).ahead.length + 1) maxNesting
  endOfLine
  return .entry (.mk name found)

/-- Takes the lines up to the end of the text; the fuel bounds their number. -/
def lines : Nat → Reader (List Line)
  | 0 => return []
  | fuel + 1 => do
    skipSpacing
    match ← peekKind with
    | none => return []
    | some .openBracket =>
      let line ← header
      return line :: (← lines fuel)
    | some (.piece _) =>
      let line ← entryLine
      return line :: (← lines fuel)
    | some .dot =>
      let line ← entryLine
      return line :: (← lines fuel)
    | some .equals =>
      let line ← entryLine
      return line :: (← lines fuel)
    | some _ => reject (← here)

end Reader

/-- The lines of a text. -/
def Line.readAll (text : List Char) : Except Fault (List Line) := do
  let tokens := Token.scanAll text
  let (found, _) ← Reader.lines (tokens.length + 1) ⟨tokens, 0, text.length⟩
  return found

end QueryLint.Toml
