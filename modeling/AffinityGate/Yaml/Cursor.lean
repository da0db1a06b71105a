/-!
# Positions in YAML texts

A cursor is what is left of a text, with the line and the column that have been reached.
-/

namespace AffinityGate.Yaml

/-- A line break. -/
def isBreak (c : Char) : Bool :=
  c == '\n' || c == '\r'

/-- A blank within a line. -/
def isSpace (c : Char) : Bool :=
  c == ' ' || c == '\t'

/-- The brackets and the comma of flow collections. -/
def isFlow (c : Char) : Bool :=
  c == ',' || c == '[' || c == ']' || c == '\x7b' || c == '\x7d'

/-- Whether a text is at its end or at a break. -/
def atBreak : List Char → Bool
  | [] => true
  | c :: _ => isBreak c

/-- Whether a text is at its end, a break or a blank. -/
def atGap : List Char → Bool
  | [] => true
  | c :: _ => isBreak c || isSpace c

/-- What is left of a text.  On a fresh line only blanks have been passed. -/
structure Cursor where
  rest : List Char
  index : Nat
  line : Nat
  col : Nat
  fresh : Bool
  deriving DecidableEq, Repr

namespace Cursor

/-- The start of a text. -/
def start (cs : List Char) : Cursor :=
  ⟨cs, 0, 0, 0, true⟩

/-- The next character. -/
def peek? (c : Cursor) : Option Char :=
  c.rest.head?

/-- Whether the next character is the given one. -/
def isAt (c : Cursor) (ch : Char) : Bool :=
  c.rest.head? == some ch

/-- The same position, further along the line over blanks. -/
def blanks (c : Cursor) (n : Nat) : Cursor :=
  { c with rest := c.rest.drop n, index := c.index + n, col := c.col + n }

/-- The same position, further along the line over text. -/
def solid (c : Cursor) (n : Nat) : Cursor :=
  { c.blanks n with fresh := false }

/-- Behind the break at the position. -/
def nextLine (c : Cursor) : Cursor :=
  let n := match c.rest with
    | '\r' :: '\n' :: _ => 2
    | _ => 1
  ⟨c.rest.drop n, c.index + n, c.line + 1, 0, true⟩

/-- Whether a marker of three equal characters stands here alone. -/
def isMarker (c : Cursor) (ch : Char) : Bool :=
  match c.rest with
  | a :: b :: d :: rest => a == ch && b == ch && d == ch && atGap rest
  | _ => false

/-- Whether a document ends or starts here. -/
def isDocumentMarker (c : Cursor) : Bool :=
  c.col == 0 && (c.isMarker '-' || c.isMarker '.')

/-- What was passed on the way to the end of a line. -/
structure Passed where
  cursor : Cursor
  tab : Bool
  space : Bool

/-- Passes blanks and a comment.  A comment needs a blank before it. -/
def toLineEnd? (tabs : Bool) (c : Cursor) : Option Passed :=
  let gap := c.rest.takeWhile fun ch => ch == ' ' || (tabs && ch == '\t')
  let after := c.blanks gap.length
  let found (d : Cursor) : Passed := ⟨d, gap.contains '\t', gap.contains ' '⟩
  match after.rest with
  | '#' :: _ =>
    if gap.isEmpty then none
    else some (found (after.solid (after.rest.takeWhile (!isBreak ·)).length))
  | _ => some (found after)

end Cursor
end AffinityGate.Yaml
