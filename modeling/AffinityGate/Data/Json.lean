import AffinityGate.Text.Utf8
import AffinityGate.Text.Percent
import AffinityGate.Text.Hex

/-!
# JSON

Reading has two stages.  `Form.read?` finds the shape of a text: literals, brackets, keys, and
strings and numbers as they are written.  `Json.ofForm?` gives strings and numbers their values.
A reader that skips a part of a text stops after the first stage for it.
-/

namespace AffinityGate

/-- A number as written. -/
structure NumberForm where
  negative : Bool
  whole : List Nat
  fraction : List Nat
  exponent : Option (Bool × List Nat)
  deriving DecidableEq, Repr

/-- The shape of a JSON text; strings are the bytes between their quotes. -/
inductive Form
  | null
  | bool (b : Bool)
  | number (n : NumberForm)
  | string (raw : Bytes)
  | array (items : List Form)
  | object (members : List (Bytes × Form))
  deriving Repr

namespace Form

/-- Blanks between the parts of a text. -/
def isSpace (b : UInt8) : Bool :=
  b == 0x20 || b == 0x0A || b == 0x0D || b == 0x09

/-- The text from its next part on. -/
def skip (bs : Bytes) : Bytes :=
  bs.dropWhile isSpace

/-- The value of a decimal digit. -/
def digit? (b : UInt8) : Option Nat :=
  if 0x30 ≤ b ∧ b ≤ 0x39 then some (b.toNat - 0x30) else none

/-- The digits at the front and the rest. -/
def takeDigits : Bytes → List Nat × Bytes
  | [] => ([], [])
  | b :: bs =>
    match digit? b with
    | some d => let r := takeDigits bs; (d :: r.1, r.2)
    | none => ([], b :: bs)

/-- The exponent at the front, if there is one. -/
def takeExponent? (bs : Bytes) : Option (Option (Bool × List Nat) × Bytes) :=
  match bs with
  | b :: rest =>
    if b = 0x65 ∨ b = 0x45 then
      let (negative, rest) := match rest with
        | 0x2D :: r => (true, r)
        | 0x2B :: r => (false, r)
        | r => (false, r)
      let (ds, rest) := takeDigits rest
      if ds.isEmpty then none else some (some (negative, ds), rest)
    else some (none, bs)
  | [] => some (none, [])

/-- The number at the front: no leading zeros, digits on both sides of a point. -/
def takeNumber? (bs : Bytes) : Option (NumberForm × Bytes) :=
  let (negative, rest) := match bs with
    | 0x2D :: r => (true, r)
    | r => (false, r)
  let (whole, rest) := takeDigits rest
  if whole.isEmpty ∨ (1 < whole.length ∧ whole.head? = some 0) then none
  else
    match rest with
    | 0x2E :: r =>
      let (fraction, r) := takeDigits r
      if fraction.isEmpty then none
      else (takeExponent? r).map fun e => (⟨negative, whole, fraction, e.1⟩, e.2)
    | _ => (takeExponent? rest).map fun e => (⟨negative, whole, [], e.1⟩, e.2)

/-- The bytes up to the closing quote and the rest; escapes are checked and kept. -/
def takeString? : Bytes → Bytes → Option (Bytes × Bytes)
  | _, [] => none
  | done, 0x22 :: rest => some (done.reverse, rest)
  | done, 0x5C :: c :: rest =>
    if c = 0x75 then
      match rest with
      | d1 :: d2 :: d3 :: d4 :: rest =>
        if [d1, d2, d3, d4].all fun d => (Percent.nibble? d).isSome then
          takeString? (d4 :: d3 :: d2 :: d1 :: c :: 0x5C :: done) rest
        else none
      | _ => none
    else if c = 0x22 ∨ c = 0x5C ∨ c = 0x2F ∨ c = 0x62 ∨ c = 0x66 ∨ c = 0x6E ∨ c = 0x72 ∨ c = 0x74
    then takeString? (c :: 0x5C :: done) rest
    else none
  | done, b :: rest => if b < 0x20 ∨ b = 0x5C then none else takeString? (b :: done) rest

mutual

/-- The value at the front and the rest.  `fuel` bounds the number of parts read. -/
def value? : Nat → Bytes → Option (Form × Bytes)
  | 0, _ => none
  | fuel + 1, bs =>
    match skip bs with
    | 0x6E :: 0x75 :: 0x6C :: 0x6C :: rest => some (.null, rest)
    | 0x74 :: 0x72 :: 0x75 :: 0x65 :: rest => some (.bool true, rest)
    | 0x66 :: 0x61 :: 0x6C :: 0x73 :: 0x65 :: rest => some (.bool false, rest)
    | 0x22 :: rest => (takeString? [] rest).map fun r => (.string r.1, r.2)
    | 0x5B :: rest =>
      match skip rest with
      | 0x5D :: rest => some (.array [], rest)
      | rest => (items? fuel [] rest).map fun r => (.array r.1, r.2)
    | 0x7B :: rest =>
      match skip rest with
      | 0x7D :: rest => some (.object [], rest)
      | rest => (members? fuel [] rest).map fun r => (.object r.1, r.2)
    | rest => (takeNumber? rest).map fun r => (.number r.1, r.2)

/-- Items up to the closing bracket. -/
def items? : Nat → List Form → Bytes → Option (List Form × Bytes)
  | 0, _, _ => none
  | fuel + 1, done, bs =>
    match value? fuel bs with
    | none => none
    | some (v, rest) =>
      match skip rest with
      | 0x2C :: rest => items? fuel (v :: done) rest
      | 0x5D :: rest => some ((v :: done).reverse, rest)
      | _ => none

/-- Members up to the closing brace. -/
def members? : Nat → List (Bytes × Form) → Bytes → Option (List (Bytes × Form) × Bytes)
  | 0, _, _ => none
  | fuel + 1, done, bs =>
    match skip bs with
    | 0x22 :: rest =>
      match takeString? [] rest with
      | none => none
      | some (key, rest) =>
        match skip rest with
        | 0x3A :: rest =>
          match value? fuel rest with
          | none => none
          | some (v, rest) =>
            match skip rest with
            | 0x2C :: rest => members? fuel ((key, v) :: done) rest
            | 0x7D :: rest => some (((key, v) :: done).reverse, rest)
            | _ => none
        | _ => none
    | _ => none

end

/-- The shape of a whole text. -/
def read? (bs : Bytes) : Option Form :=
  match value? (2 * bs.length + 2) bs with
  | some (v, rest) => if (skip rest).isEmpty then some v else none
  | none => none

/-- The value of four hexadecimal digits. -/
def unit (d1 d2 d3 d4 : UInt8) : Nat :=
  [d1, d2, d3, d4].foldl (fun n d => n * 16 + (Percent.nibble? d).getD 0) 0

/-- The bytes that a string stands for: escapes replaced, surrogates only in pairs. -/
def unescape? : Bytes → Option Bytes
  | 0x5C :: 0x75 :: a1 :: a2 :: a3 :: a4 :: 0x5C :: 0x75 :: b1 :: b2 :: b3 :: b4 :: rest =>
    let high := unit a1 a2 a3 a4
    let low := unit b1 b2 b3 b4
    if 0xD800 ≤ high ∧ high < 0xDC00 then
      if 0xDC00 ≤ low ∧ low < 0xE000 then
        let c := Char.ofNat (0x10000 + (high - 0xD800) * 1024 + (low - 0xDC00))
        (unescape? rest).map (String.utf8EncodeChar c ++ ·)
      else none
    else if 0xDC00 ≤ high ∧ high < 0xE000 then none
    else
      (unescape? (0x5C :: 0x75 :: b1 :: b2 :: b3 :: b4 :: rest)).map
        (String.utf8EncodeChar (Char.ofNat high) ++ ·)
  | 0x5C :: 0x75 :: a1 :: a2 :: a3 :: a4 :: rest =>
    let code := unit a1 a2 a3 a4
    if 0xD800 ≤ code ∧ code < 0xE000 then none
    else (unescape? rest).map (String.utf8EncodeChar (Char.ofNat code) ++ ·)
  | 0x5C :: c :: rest =>
    let b : UInt8 :=
      if c = 0x62 then 0x08
      else if c = 0x66 then 0x0C
      else if c = 0x6E then 0x0A
      else if c = 0x72 then 0x0D
      else if c = 0x74 then 0x09
      else c
    (unescape? rest).map (b :: ·)
  | b :: rest => (unescape? rest).map (b :: ·)
  | [] => some []

/-- The text of a string. -/
def text? (raw : Bytes) : Option String :=
  (unescape? raw).bind Utf8.text?

mutual

/-- How deeply arrays and objects are nested. -/
def depth : Form → Nat
  | .array items => 1 + depthOfItems items
  | .object members => 1 + depthOfMembers members
  | _ => 0

/-- The deepest of several values. -/
def depthOfItems : List Form → Nat
  | [] => 0
  | v :: vs => max (depth v) (depthOfItems vs)

/-- The deepest of several members. -/
def depthOfMembers : List (Bytes × Form) → Nat
  | [] => 0
  | (_, v) :: ms => max (depth v) (depthOfMembers ms)

end

end Form

/-- A JSON value. -/
inductive Json
  | null
  | bool (b : Bool)
  | int (n : Int)
  | float (x : Float)
  | string (s : String)
  | array (items : List Json)
  | object (members : List (String × Json))

namespace Json

/-- The bound of the significand that is kept exactly. -/
def wordLimit : Nat := Nat.pow 2 64

/-- Digits taken into the significand while it stays below the bound, and those left. -/
def significand : Nat → List Nat → Nat × List Nat
  | acc, [] => (acc, [])
  | acc, d :: ds => if acc * 10 + d < wordLimit then significand (acc * 10 + d) ds else (acc, d :: ds)

/-- A power of ten as a floating-point number. -/
def power10 (e : Nat) : Float :=
  Float.ofScientific 1 false e

/-- A significand scaled by a power of ten; overflow has no value.  The scaling is one rounded
multiplication or division, repeated for exponents beyond the table of powers. -/
def scale? : Nat → Float → Int → Option Float
  | 0, _, _ => none
  | fuel + 1, f, e =>
    if e.natAbs ≤ 308 then
      if 0 ≤ e then
        let r := f * power10 e.natAbs
        if r.isInf then none else some r
      else some (f / power10 e.natAbs)
    else if f == 0.0 then some f
    else if 0 ≤ e then none
    else scale? fuel (f / power10 308) (e + 308)

/-- The largest exponent that is read. -/
def exponentLimit : Nat := 2147483647

/-- The value of a number as written: an integer if it is written as one and fits a word. -/
def ofNumber? (n : NumberForm) : Option Json :=
  let (whole, beyond) := significand 0 n.whole
  let sign (f : Float) : Json := .float (if n.negative then -f else f)
  let finish (m : Nat) (e : Int) : Option Json :=
    (scale? 20 m.toUInt64.toFloat e).map sign
  if n.fraction.isEmpty ∧ n.exponent.isNone ∧ beyond.isEmpty then
    if !n.negative then some (.int whole)
    else if whole = 0 ∨ Nat.pow 2 63 < whole then some (sign whole.toUInt64.toFloat)
    else some (.int (-whole))
  else
    let (m, left) := significand whole n.fraction
    let taken := n.fraction.length - left.length
    let base : Int := (beyond.length : Int) - taken
    match n.exponent with
    | none => finish m base
    | some (negative, ds) =>
      let e := ds.foldl (fun a d => a * 10 + d) 0
      if exponentLimit < e then
        if m ≠ 0 ∧ !negative then none else some (sign 0.0)
      else finish m (if negative then base - e else base + e)

mutual

/-- The value of a shape. -/
def ofForm? : Form → Option Json
  | .null => some .null
  | .bool b => some (.bool b)
  | .number n => ofNumber? n
  | .string raw => (Form.text? raw).map .string
  | .array items => (ofItems? items).map .array
  | .object members => (ofMembers? members).map .object

/-- The values of items. -/
def ofItems? : List Form → Option (List Json)
  | [] => some []
  | v :: vs =>
    match ofForm? v, ofItems? vs with
    | some j, some js => some (j :: js)
    | _, _ => none

/-- The values of members. -/
def ofMembers? : List (Bytes × Form) → Option (List (String × Json))
  | [] => some []
  | (k, v) :: ms =>
    match Form.text? k, ofForm? v, ofMembers? ms with
    | some s, some j, some js => some ((s, j) :: js)
    | _, _, _ => none

end

/-- The deepest nesting that is read. -/
def maxDepth : Nat := 127

/-- The value of a text. -/
def read? (bs : Bytes) : Option Json :=
  match Form.read? bs with
  | some f => if f.depth ≤ maxDepth then ofForm? f else none
  | none => none

/-- The last member of a key. -/
def get? (members : List (String × Json)) (key : String) : Option Json :=
  (members.reverse.find? (·.1 == key)).map (·.2)

/-- A character inside quotes. -/
def escaped (c : Char) : List Char :=
  if c = '"' then ['\\', '"']
  else if c = '\\' then ['\\', '\\']
  else if c = '\n' then ['\\', 'n']
  else if c = '\r' then ['\\', 'r']
  else if c = '\t' then ['\\', 't']
  else if c.toNat = 8 then ['\\', 'b']
  else if c.toNat = 12 then ['\\', 'f']
  else if c.toNat < 0x20 then
    ['\\', 'u', '0', '0', Hex.digit (c.toNat / 16), Hex.digit (c.toNat % 16)]
  else [c]

/-- A text in quotes. -/
def quoted (s : String) : String :=
  String.ofList ('"' :: s.toList.flatMap escaped ++ ['"'])

mutual

/-- The compact text of a value without fractional numbers. -/
def render : Json → String
  | .null => "null"
  | .bool b => if b then "true" else "false"
  | .int n => toString n
  | .float x => toString x
  | .string s => quoted s
  | .array items => "[" ++ renderItems items ++ "]"
  | .object members => "\x7b" ++ renderMembers members ++ "\x7d"

/-- Items with commas between them. -/
def renderItems : List Json → String
  | [] => ""
  | [v] => render v
  | v :: vs => render v ++ "," ++ renderItems vs

/-- Members with commas between them. -/
def renderMembers : List (String × Json) → String
  | [] => ""
  | [(k, v)] => quoted k ++ ":" ++ render v
  | (k, v) :: ms => quoted k ++ ":" ++ render v ++ "," ++ renderMembers ms

end

end Json
end AffinityGate
