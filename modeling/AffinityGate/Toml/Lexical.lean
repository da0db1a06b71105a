import AffinityGate.Net.Address
import AffinityGate.Number.Decimal
import AffinityGate.Data.Document

/-!
# Parts of TOML texts

Blanks, comments, strings, numbers and moments.  Every reader returns what it read and the rest of
the text.
-/

namespace AffinityGate.Toml

/-- A reader of what stands at the front of a text. -/
abbrev Reader (α : Type) := List Char → Option (α × List Char)

/-- Blanks within a line. -/
def isSpace (c : Char) : Bool :=
  c == ' ' || c == '\t'

/-- The text from the next part of the line on. -/
def skipSpaces (cs : List Char) : List Char :=
  cs.dropWhile isSpace

/-- Characters that stand neither in comments nor in strings. -/
def isControl (c : Char) : Bool :=
  (c.toNat < 0x20 && c != '\t') || c.toNat == 0x7F

/-- A line end at the front. -/
def newline? : List Char → Option (List Char)
  | '\n' :: cs => some cs
  | '\r' :: '\n' :: cs => some cs
  | _ => none

/-- The text behind a comment, if there is one; the line end stays. -/
def skipComment? (cs : List Char) : Option (List Char) :=
  match cs with
  | '#' :: rest =>
    let body := rest.takeWhile fun c => c != '\n' && c != '\r'
    if body.any isControl then none else some (rest.drop body.length)
  | _ => some cs

/-- The end of a line: blanks, a comment, and a line end or the end of the text. -/
def lineEnd? (cs : List Char) : Option (List Char) :=
  match skipComment? (skipSpaces cs) with
  | none => none
  | some [] => some []
  | some rest => newline? rest

/-- Blanks, comments and line ends.  `fuel` bounds the number of lines. -/
def skipLines? : Nat → List Char → Option (List Char)
  | 0, cs => some cs
  | fuel + 1, cs =>
    match skipComment? (skipSpaces cs) with
    | none => none
    | some rest =>
      match newline? rest with
      | some rest => skipLines? fuel rest
      | none => some rest

/-- The text from the next part on, over line ends. -/
def skipBlank? (cs : List Char) : Option (List Char) :=
  skipLines? (cs.length + 1) cs

/-! ## Strings -/

/-- A character by the value of its digits; there are no surrogates. -/
def charOf? (digits : List Char) : Option Char :=
  match Net.number? Net.hexadecimal? 16 digits with
  | some n => if n < 0xD800 ∨ (0xE000 ≤ n ∧ n < 0x110000) then some (Char.ofNat n) else none
  | none => none

/-- A character given by a number of digits at the front. -/
def coded? (count : Nat) (cs : List Char) : Option (Char × List Char) :=
  if cs.length < count then none
  else (charOf? (cs.take count)).map fun c => (c, cs.drop count)

/-- The escape behind a backslash. -/
def escape? : Reader Char
  | 'b' :: cs => some ('\x08', cs)
  | 't' :: cs => some ('\t', cs)
  | 'n' :: cs => some ('\n', cs)
  | 'f' :: cs => some ('\x0c', cs)
  | 'r' :: cs => some ('\r', cs)
  | 'e' :: cs => some ('\x1b', cs)
  | '"' :: cs => some ('"', cs)
  | '\\' :: cs => some ('\\', cs)
  | 'x' :: cs => coded? 2 cs
  | 'u' :: cs => coded? 4 cs
  | 'U' :: cs => coded? 8 cs
  | _ => none

/-- The rest of a string on one line with escapes. -/
def basic? : Nat → List Char → Option (List Char × List Char)
  | 0, _ => none
  | fuel + 1, cs =>
    match cs with
    | '"' :: rest => some ([], rest)
    | '\\' :: rest =>
      match escape? rest with
      | some (c, rest) => (basic? fuel rest).map fun r => (c :: r.1, r.2)
      | none => none
    | c :: rest => if isControl c then none else (basic? fuel rest).map fun r => (c :: r.1, r.2)
    | [] => none

/-- The rest of a string on one line without escapes. -/
def literal? : List Char → Option (List Char × List Char)
  | '\'' :: rest => some ([], rest)
  | c :: rest => if isControl c then none else (literal? rest).map fun r => (c :: r.1, r.2)
  | [] => none

/-- The text behind a backslash at the end of a line: all blanks and line ends are passed over. -/
def skipFold : List Char → List Char
  | c :: cs => if isSpace c ∨ c = '\n' ∨ c = '\r' then skipFold cs else c :: cs
  | [] => []

/-- The rest of a string over lines, closed by three quotes; one or two more belong to the text. -/
def multi? (quote : Char) (escapes : Bool) : Nat → List Char → Option (List Char × List Char)
  | 0, _ => none
  | fuel + 1, cs =>
    let quotes := (cs.takeWhile (· == quote)).length
    if 5 < quotes then none
    else if 3 ≤ quotes then some (List.replicate (quotes - 3) quote, cs.drop quotes)
    else
      match cs with
      | '\r' :: '\n' :: rest => (multi? quote escapes fuel rest).map fun r => ('\n' :: r.1, r.2)
      | '\\' :: rest =>
        if !escapes then (multi? quote escapes fuel rest).map fun r => ('\\' :: r.1, r.2)
        else if (newline? (skipSpaces rest)).isSome then multi? quote escapes fuel (skipFold rest)
        else
          match escape? rest with
          | some (c, rest) => (multi? quote escapes fuel rest).map fun r => (c :: r.1, r.2)
          | none => none
      | c :: rest =>
        if isControl c ∧ c ≠ '\n' then none
        else (multi? quote escapes fuel rest).map fun r => (c :: r.1, r.2)
      | [] => none

/-- A string that may go over lines; a line end directly after the quotes is dropped. -/
def multiline? (quote : Char) (cs : List Char) : Option (List Char × List Char) :=
  let body := (newline? cs).getD cs
  multi? quote (quote == '"') (body.length + 1) body

/-- A string of any kind. -/
def string? : Reader (List Char)
  | '"' :: '"' :: '"' :: cs => multiline? '"' cs
  | '\'' :: '\'' :: '\'' :: cs => multiline? '\'' cs
  | '"' :: cs => basic? (cs.length + 1) cs
  | '\'' :: cs => literal? cs
  | _ => none

/-! ## Keys -/

/-- Characters of a bare key. -/
def isBare (c : Char) : Bool :=
  c.isAlphanum || c == '-' || c == '_'

/-- One part of a key: bare or in quotes. -/
def keyPart? (cs : List Char) : Option (String × List Char) :=
  match cs with
  | '"' :: rest => (basic? (rest.length + 1) rest).map fun r => (String.ofList r.1, r.2)
  | '\'' :: rest => (literal? rest).map fun r => (String.ofList r.1, r.2)
  | _ =>
    let part := cs.takeWhile isBare
    if part.isEmpty then none else some (String.ofList part, cs.drop part.length)

/-- The parts of a key behind its first one.  `fuel` bounds their number. -/
def keyParts? : Nat → List Char → Option (List String × List Char)
  | 0, _ => none
  | fuel + 1, cs =>
    match keyPart? (skipSpaces cs) with
    | none => none
    | some (part, rest) =>
      match skipSpaces rest with
      | '.' :: rest => (keyParts? fuel rest).map fun r => (part :: r.1, r.2)
      | rest => some ([part], rest)

/-- A key: parts with dots between them. -/
def key? (cs : List Char) : Option (List String × List Char) :=
  keyParts? (cs.length + 1) cs

/-! ## Numbers -/

/-- Digits with single underscores between them, as digits alone. -/
def ungrouped? (isDigit : Char → Bool) (cs : List Char) : Option (List Char) :=
  let groups := pieces '_' cs
  if groups.all fun g => !g.isEmpty && g.all isDigit then some groups.flatten else none

/-- An integer in a base that its first two characters name. -/
def based? (cs : List Char) : Option Nat :=
  let read (digit? : Char → Option Nat) (base : Nat) (rest : List Char) : Option Nat :=
    (ungrouped? (fun c => (digit? c).isSome) rest).bind (Net.number? digit? base)
  match cs with
  | '0' :: 'x' :: rest => read Net.hexadecimal? 16 rest
  | '0' :: 'o' :: rest => read (fun c => (Net.decimal? c).filter (· < 8)) 8 rest
  | '0' :: 'b' :: rest => read (fun c => (Net.decimal? c).filter (· < 2)) 2 rest
  | _ => none

/-- The digits before a point or exponent: no zero comes first unless it is alone. -/
def whole? (cs : List Char) : Option (List Char) :=
  match ungrouped? Char.isDigit cs with
  | some ('0' :: _ :: _) => none
  | ds => ds

/-- A decimal number without its sign: an integer, or one with a fraction or an exponent. -/
def decimal? (cs : List Char) : Option (Scalar) :=
  let isMark (c : Char) : Bool := c == 'e' || c == 'E'
  let mantissa := cs.takeWhile (!isMark ·)
  let exponent := (cs.dropWhile (!isMark ·)).drop 1
  let (sign, exponentDigits) := Decimal.cutSign exponent
  let scale? : Option Int :=
    if cs.any isMark then
      ((ungrouped? Char.isDigit exponentDigits).bind (Net.number? Net.decimal? 10)).map
        fun n => if sign then -n else n
    else some 0
  match cutAt '.' mantissa, scale? with
  | none, some e =>
    match (whole? mantissa).bind (Net.number? Net.decimal? 10) with
    | some n => if cs.any isMark then some (.float (Decimal.toFloat n e)) else some (.int n)
    | none => none
  | some (whole, fraction), some e =>
    match whole? whole, ungrouped? Char.isDigit fraction with
    | some w, some f =>
      (Net.number? Net.decimal? 10 (w ++ f)).map fun n =>
        .float (Decimal.toFloat n (e - f.length))
    | _, _ => none
  | _, none => none

/-- A number: an integer that fits a signed word, or a floating-point number. -/
def number? (cs : List Char) : Option Scalar :=
  let (negative, rest) := Decimal.cutSign cs
  let inRange (n : Int) : Option Scalar := if Decimal.isSigned n then some (.int n) else none
  if rest = "inf".toList then some (.float (if negative then -1.0 / 0.0 else 1.0 / 0.0))
  else if rest = "nan".toList then some (.float (0.0 / 0.0))
  else
    match based? cs with
    | some n => inRange n
    | none =>
      match decimal? rest with
      | some (.int n) => inRange (if negative then -n else n)
      | some (.float x) => some (.float (if negative then -x else x))
      | _ => none

end AffinityGate.Toml
