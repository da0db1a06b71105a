import AffinityGate.Net.Address
import AffinityGate.Yaml.Cursor

/-!
# Scalars of YAML texts

Scalars are plain, in quotes, or blocks of lines.  Within the first two kinds lines are folded: one
break stands for a space, and of several the first is dropped.
-/

namespace AffinityGate.Yaml

/-- What precedes the next part of a folded scalar: blanks, or breaks. -/
structure Fold where
  spaces : List Char := []
  broken : Bool := false
  extra : Nat := 0

namespace Fold

/-- The text that a fold stands for. -/
def text (f : Fold) : List Char :=
  if f.broken then
    if f.extra = 0 then [' '] else List.replicate f.extra '\n'
  else f.spaces ++ List.replicate f.extra '\n'

/-- One more break; blanks before the first one are dropped. -/
def addBreak (f : Fold) (isFirst : Bool) : Fold :=
  if isFirst then { f with spaces := [], broken := true } else { f with extra := f.extra + 1 }

end Fold

/-! ## Plain scalars -/

/-- The part of a plain scalar at the front: up to a blank, or a colon that separates. -/
def plainPart (inFlow : Bool) : List Char → List Char
  | [] => []
  | c :: cs =>
    if isBreak c || isSpace c then []
    else if c == ':' && (atGap cs || (inFlow && cs.head?.any isFlow)) then []
    else if inFlow && isFlow c then []
    else c :: plainPart inFlow cs

/-- Passes blanks and breaks behind a part of a plain scalar.  A tab is no indentation. -/
def plainGap? : Nat → Int → Cursor → Fold → Option (Cursor × Fold)
  | 0, _, c, f => some (c, f)
  | fuel + 1, indent, c, f =>
    match c.rest with
    | ch :: _ =>
      if isSpace ch then
        if !c.fresh then plainGap? fuel indent (c.blanks 1) { f with spaces := f.spaces ++ [ch] }
        else if c.col < indent ∧ ch = '\t' then
          match c.toLineEnd? true with
          | some p => if atBreak p.cursor.rest then plainGap? fuel indent p.cursor f else none
          | none => none
        else plainGap? fuel indent (c.blanks 1) f
      else if isBreak ch then plainGap? fuel indent c.nextLine (f.addBreak (!c.fresh))
      else some (c, f)
    | [] => some (c, f)

/-- Reads the parts of a plain scalar that is indented by at least `indent` columns. -/
def plainParts? (inFlow : Bool) (indent : Int) :
    Nat → Cursor → Fold → List Char → Option (Cursor × List Char)
  | 0, c, _, done => some (c, done)
  | fuel + 1, c, f, done =>
    if c.isDocumentMarker || c.isAt '#' then some (c, done)
    else if inFlow && c.isAt '-' && (c.rest.drop 1).head?.any isFlow then none
    else
      let part := plainPart inFlow c.rest
      let (c, f, done) :=
        if part.isEmpty then (c, f, done)
        else
          (c.solid part.length, {}, done ++ f.text ++ part)
      if (c.peek?.any fun ch => isSpace ch || isBreak ch) then
        match plainGap? (c.rest.length + 1) indent c f with
        | none => none
        | some (c, f) =>
          if !inFlow ∧ c.col < indent then some (c, done)
          else plainParts? inFlow indent fuel c f done
      else some (c, done)

/-- The plain scalar at the position. -/
def plain? (inFlow : Bool) (indent : Int) (c : Cursor) : Option (Cursor × String) :=
  (plainParts? inFlow indent (c.rest.length + 1) c {} []).map fun r => (r.1, String.ofList r.2)

/-! ## Scalars in quotes -/

/-- A character by so many digits. -/
def codedChar? (count : Nat) (cs : List Char) : Option Char :=
  if cs.length < count then none
  else
    match Net.number? Net.hexadecimal? 16 (cs.take count) with
    | some n => if n < 0xD800 ∨ (0xE000 ≤ n ∧ n < 0x110000) then some (Char.ofNat n) else none
    | none => none

/-- The character that an escape behind a backslash stands for, and the length of the escape. -/
def escaped? (cs : List Char) : Option (Char × Nat) :=
  match cs with
  | [] => none
  | c :: rest =>
    let one (d : Char) : Option (Char × Nat) := some (d, 1)
    match c with
    | '0' => one '\x00'
    | 'a' => one '\x07'
    | 'b' => one '\x08'
    | 't' | '\t' => one '\t'
    | 'n' => one '\n'
    | 'v' => one '\x0b'
    | 'f' => one '\x0c'
    | 'r' => one '\r'
    | 'e' => one '\x1b'
    | ' ' | '"' | '/' | '\\' => one c
    | 'N' => one '\u0085'
    | '_' => one '\u00a0'
    | 'L' => one '\u2028'
    | 'P' => one '\u2029'
    | 'x' => (codedChar? 2 rest).map fun d => (d, 3)
    | 'u' => (codedChar? 4 rest).map fun d => (d, 5)
    | 'U' => (codedChar? 8 rest).map fun d => (d, 9)
    | _ => none

/-- Reads text in quotes up to a blank, a break or the closing quote.  The flag says that the line
ended in a backslash, so that its break counts for nothing. -/
def quotedPart? (single : Bool) : Nat → Cursor → List Char → Option (Cursor × List Char × Bool)
  | 0, c, done => some (c, done, false)
  | fuel + 1, c, done =>
    match c.rest with
    | [] => some (c, done, false)
    | ch :: rest =>
      if isSpace ch || isBreak ch then some (c, done, false)
      else if single then
        if ch = '\'' then
          if rest.head? = some '\'' then quotedPart? single fuel (c.solid 2) (done ++ ['\''])
          else some (c, done, false)
        else quotedPart? single fuel (c.solid 1) (done ++ [ch])
      else if ch = '"' then some (c, done, false)
      else if ch = '\\' then
        if rest.head?.any isBreak then some ((c.solid 1).nextLine, done, true)
        else
          match escaped? rest with
          | some (d, n) => quotedPart? single fuel (c.solid (n + 1)) (done ++ [d])
          | none => none
      else quotedPart? single fuel (c.solid 1) (done ++ [ch])

/-- Passes blanks and breaks within quotes; `folding` says that a break has been passed. -/
def quotedGap? (indent : Int) : Nat → Bool → Cursor → Fold → Option (Cursor × Fold)
  | 0, _, c, f => some (c, f)
  | fuel + 1, folding, c, f =>
    match c.rest with
    | ch :: _ =>
      if isSpace ch then
        if folding then
          if ch = '\t' ∧ c.col < indent then none else quotedGap? indent fuel folding (c.blanks 1) f
        else quotedGap? indent fuel folding (c.blanks 1) { f with spaces := f.spaces ++ [ch] }
      else if isBreak ch then quotedGap? indent fuel true c.nextLine (f.addBreak !folding)
      else some (c, f)
    | [] => some (c, f)

/-- Reads the parts of a scalar in quotes up to the closing quote. -/
def quotedParts? (single : Bool) (indent : Int) :
    Nat → Cursor → List Char → Option (Cursor × List Char)
  | 0, _, _ => none
  | fuel + 1, c, done =>
    if c.isDocumentMarker || c.rest.isEmpty || c.col < indent then none
    else
      match quotedPart? single (c.rest.length + 1) c done with
      | none => none
      | some (c, done, joined) =>
        if c.isAt (if single then '\'' else '"') then some (c.solid 1, done)
        else
          match quotedGap? indent (c.rest.length + 1) joined c {} with
          | none => none
          | some (c, f) => quotedParts? single indent fuel c (done ++ f.text)

/-- What may follow a scalar in quotes on its line. -/
def mayFollowQuoted (inFlow sameLine : Bool) : List Char → Bool
  | [] => true
  | c :: _ =>
    isBreak c || (c == ':' && (inFlow || sameLine))
      || (inFlow && (c == ',' || c == '\x7d' || c == ']'))

/-- The scalar in quotes at the position. -/
def quoted? (single inFlow : Bool) (indent : Int) (c : Cursor) : Option (Cursor × String) :=
  match quotedParts? single indent (c.rest.length + 2) (c.solid 1) [] with
  | none => none
  | some (d, text) =>
    match d.toLineEnd? true with
    | none => none
    | some p =>
      if mayFollowQuoted inFlow (c.line == p.cursor.line) p.cursor.rest then
        some (p.cursor, String.ofList text)
      else none

/-! ## Blocks of lines -/

/-- What becomes of the breaks at the end of a block. -/
inductive Chomping
  | strip
  | clip
  | keep
  deriving DecidableEq, Repr

/-- The header of a block: chomping, indentation if it is given, and the length of both. -/
def blockHeader? (cs : List Char) : Option (Chomping × Nat × Nat) :=
  let chomping? (c : Char) : Option Chomping :=
    if c = '+' then some .keep else if c = '-' then some .strip else none
  let width? (c : Char) : Option Nat := Net.decimal? c
  match cs with
  | a :: rest =>
    match chomping? a, width? a with
    | some ch, _ =>
      match rest.head?.bind width? with
      | some 0 => none
      | some n => some (ch, n, 2)
      | none => some (ch, 0, 1)
    | none, some 0 => none
    | none, some n =>
      match rest.head?.bind chomping? with
      | some ch => some (ch, n, 2)
      | none => some (.clip, n, 1)
    | none, none => some (.clip, 0, 0)
  | [] => some (.clip, 0, 0)

/-- Passes indentation up to a column, and empty lines; returns how many. -/
def blockIndent (indent : Nat) : Nat → Cursor → Nat → Cursor × Nat
  | 0, c, breaks => (c, breaks)
  | fuel + 1, c, breaks =>
    let spaces := (c.rest.takeWhile (· == ' ')).length
    let c := c.blanks (min spaces (indent - c.col))
    if c.peek?.any isBreak then blockIndent indent fuel c.nextLine (breaks + 1) else (c, breaks)

/-- Passes blank lines before a block whose indentation is not given; the widest line counts. -/
def firstIndent : Nat → Cursor → Nat → Nat → Cursor × Nat × Nat
  | 0, c, widest, breaks => (c, widest, breaks)
  | fuel + 1, c, widest, breaks =>
    let c := c.blanks (c.rest.takeWhile (· == ' ')).length
    let widest := max widest c.col
    if c.peek?.any isBreak then firstIndent fuel c.nextLine widest (breaks + 1)
    else (c, widest, breaks)

/-- What is known of a block between two lines: the break before, whether the line before it began
with a blank, and the empty lines. -/
structure Between where
  broken : Bool
  blank : Bool
  empty : Nat

/-- Reads the lines of a block that is indented by `indent` columns. -/
def blockLines (literal : Bool) (indent : Nat) :
    Nat → Cursor → Between → List Char → Cursor × Between × List Char
  | 0, c, b, done => (c, b, done)
  | fuel + 1, c, b, done =>
    if c.col ≠ indent || c.rest.isEmpty || (indent == 0 && c.isMarker '.') then (c, b, done)
    else
      let blank := c.peek?.any isSpace
      let breaks := List.replicate b.empty '\n'
      let gap :=
        if !literal && b.broken && !b.blank && !blank then
          if b.empty = 0 then [' '] else breaks
        else (if b.broken then ['\n'] else []) ++ breaks
      let line := c.rest.takeWhile (!isBreak ·)
      let done := done ++ gap ++ line
      let c := c.solid line.length
      if c.rest.isEmpty then (c, ⟨false, blank, 0⟩, done)
      else
        let (c, empty) := blockIndent indent (c.rest.length + 1) c.nextLine 0
        blockLines literal indent fuel c ⟨true, blank, empty⟩ done

/-- The block at the position, below a parent that is indented by `parent` columns. -/
def block? (literal : Bool) (parent : Int) (c : Cursor) : Option (Cursor × String) := do
  let begun := c.solid 1
  let (chomping, width, length) ← blockHeader? begun.rest
  let p ← (begun.solid length).toLineEnd? true
  let ended := p.cursor
  if !atBreak ended.rest then none
  let hasBreak := !ended.rest.isEmpty
  let c := if hasBreak then ended.nextLine else ended
  if c.isAt '\t' then none
  let fuel := c.rest.length + 1
  let (c, indent, empty) :=
    if width = 0 then
      let (c, widest, empty) := firstIndent fuel c 0 0
      (c, max (max widest (parent + 1).toNat) (if 0 < parent then 1 else 0), empty)
    else
      let indent := if 0 ≤ parent then parent.toNat + width else width
      let (c, empty) := blockIndent indent fuel c 0
      (c, indent, empty)
  if c.rest.isEmpty then
    let text := match chomping with
      | .strip => []
      | .clip => if hasBreak then ['\n'] else []
      | .keep => if hasBreak then List.replicate (max empty 1) '\n' else []
    return (c, String.ofList text)
  if c.col < indent ∧ parent < c.col then none
  let (c, b, text) := blockLines literal indent fuel c ⟨false, false, empty⟩ []
  let text :=
    if chomping = .strip then text
    else
      text ++ (if b.broken then ['\n'] else [])
        ++ (if c.rest.isEmpty ∧ max indent 1 ≤ c.col then ['\n'] else [])
  let text := if chomping = .keep then text ++ List.replicate b.empty '\n' else text
  return (c, String.ofList text)

end AffinityGate.Yaml
