import AffinityGate.Yaml.Scalar

/-!
# Tokens of YAML texts

A text becomes tokens that show its structure: indentation turns into starts and ends of
collections, and a key gets a token before it once the colon behind it is found.  Until then its
place is remembered as a candidate.
-/

namespace AffinityGate.Yaml

/-- A token. -/
inductive Token
  | version
  | handle (name : String)
  | documentStart
  | documentEnd
  | blockSequence
  | blockMapping
  | blockEnd
  | flowSequence
  | flowSequenceEnd
  | flowMapping
  | flowMappingEnd
  | blockEntry
  | flowEntry
  | key
  | value
  | anchor (name : String)
  | alias (name : String)
  | tag (handle suffix : String)
  | scalar (isPlain : Bool) (text : String)
  deriving DecidableEq, Repr

/-- A level of indentation: the one it replaced, and whether a collection ends with it. -/
structure Level where
  outer : Int
  closes : Bool

/-- A place where a key may have begun.  A required one must turn out to be a key. -/
structure Candidate where
  possible : Bool := false
  required : Bool := false
  token : Nat := 0
  index : Nat := 0
  line : Nat := 0
  col : Nat := 0

/-- What the reader of tokens keeps: its position, the tokens with their columns, the candidates
for keys by flow level, the levels of indentation, and what is open in flow collections. -/
structure Scan where
  cursor : Cursor
  tokens : List (Token × Nat) := []
  keyAllowed : Bool := true
  candidates : List Candidate := [{}]
  indent : Int := -1
  levels : List Level := []
  flow : Nat := 0
  adjacentAt : Nat := 0
  mappingBegun : Bool := false
  implied : List Bool := []

namespace Scan

/-- Appends a token. -/
def push (s : Scan) (t : Token) : Scan :=
  { s with tokens := s.tokens ++ [(t, s.cursor.col)] }

/-- Puts a token before the one at a position. -/
def insertAt (s : Scan) (position : Nat) (t : Token) : Scan :=
  { s with tokens := s.tokens.take position ++ (t, s.cursor.col) :: s.tokens.drop position }

/-- Moves to a cursor. -/
def goto (s : Scan) (c : Cursor) : Scan :=
  { s with cursor := c }

/-- Ends the levels that are indented further than a column. -/
def unroll (col : Int) : List Level → Scan → Scan
  | [], s => s
  | l :: ls, s =>
    if s.flow = 0 ∧ col < s.indent then
      let s := { s with indent := l.outer, levels := ls }
      unroll col ls (if l.closes then s.push .blockEnd else s)
    else s

/-- Ends the levels that are indented further than a column. -/
def unrollTo (s : Scan) (col : Int) : Scan :=
  unroll col s.levels s

/-- Ends the innermost levels that close no collection. -/
def dropLoose : List Level → Scan → Scan
  | l :: ls, s => if l.closes then s else dropLoose ls { s with indent := l.outer, levels := ls }
  | [], s => s

/-- Begins a level at a column if it is indented further; `position` tells where the collection
began, if not here. -/
def roll (s : Scan) (col : Nat) (position : Option Nat) (t : Token) : Scan :=
  if 0 < s.flow then s
  else
    let s := match s.levels with
      | l :: ls =>
        if s.indent ≤ col ∧ !l.closes then { s with indent := l.outer, levels := ls } else s
      | [] => s
    if s.indent < (col : Int) then
      let s := { s with indent := col, levels := ⟨s.indent, true⟩ :: s.levels }
      match position with
      | some n => s.insertAt n t
      | none => s.push t
    else s

/-- Begins a level one column further that closes no collection. -/
def rollLoose (s : Scan) : Scan :=
  if s.flow = 0 ∧ s.levels.head?.any (·.closes) then
    { s with indent := s.indent + 1, levels := ⟨s.indent, false⟩ :: s.levels }
  else s

/-- Remembers the position as a candidate for a key, if a key may begin here. -/
def saveCandidate (s : Scan) : Scan :=
  if s.keyAllowed then
    let c := s.cursor
    let required := s.flow == 0 && s.indent == c.col && s.levels.head?.any (·.closes)
    { s with candidates := ⟨true, required, s.tokens.length, c.index, c.line, c.col⟩
      :: s.candidates.tail }
  else s

/-- Forgets the candidate in force, which must not be a required one. -/
def dropCandidate? (s : Scan) : Option Scan :=
  match s.candidates with
  | c :: cs =>
    if c.possible && c.required then none
    else some { s with candidates := { c with possible := false } :: cs }
  | [] => some s

/-- The longest key without a question mark before it. -/
def maxKey : Nat := 1024

/-- Forgets the candidates that have become too old: outside of flow collections a key ends on its
line. -/
def dropStale? (s : Scan) : Option Scan :=
  let isStale (c : Candidate) : Bool :=
    c.possible && s.flow == 0
      && (c.line < s.cursor.line || c.index + maxKey < s.cursor.index)
  if s.candidates.any (fun c => isStale c && c.required) then none
  else
    let renewed := s.candidates.map fun c => if isStale c then { c with possible := false } else c
    some { s with candidates := renewed }

/-- Passes blanks, breaks and comments.  Tabs are no indentation of a block. -/
def skipGap? : Nat → Scan → Option Scan
  | 0, s => some s
  | fuel + 1, s =>
    let c := s.cursor
    match c.rest with
    | [] => some s
    | ch :: rest =>
      if ch = '\t' ∧ !s.levels.isEmpty ∧ c.fresh ∧ c.col < s.indent then
        match c.toLineEnd? true with
        | some p => if atBreak p.cursor.rest then skipGap? fuel (s.goto p.cursor) else none
        | none => none
      else if isSpace ch then skipGap? fuel (s.goto (c.blanks 1))
      else if isBreak ch then
        skipGap? fuel
          { s with cursor := c.nextLine, keyAllowed := s.keyAllowed || s.flow == 0 }
      else if ch = '#' then
        skipGap? fuel (s.goto (c.solid ((rest.takeWhile (!isBreak ·)).length + 1)))
      else some s

/-- Passes blanks, breaks and comments. -/
def toNext? (s : Scan) : Option Scan :=
  skipGap? (s.cursor.rest.length + 1) s

/-- Passes blanks and a comment on the line. -/
def toLineEnd? (s : Scan) : Option Scan :=
  (s.cursor.toLineEnd? true).map fun p => s.goto p.cursor

/-- Ends a mapping of one pair within a flow sequence. -/
def endImplied (s : Scan) : Scan :=
  match s.implied with
  | true :: rest => { s with implied := false :: rest, mappingBegun := false }.push .flowMappingEnd
  | _ => s

/-! ## Directives, markers, properties -/

/-- Letters, digits and two marks, which handles are made of. -/
def isWordChar (c : Char) : Bool :=
  c.isAlphanum || c == '-' || c == '_'

/-- Characters of a tag's suffix. -/
def isTagChar (c : Char) : Bool :=
  isWordChar c || "#;/?:@&=+$.~*'()%".toList.contains c

/-- Characters of the name of an anchor. -/
def isAnchorChar (c : Char) : Bool :=
  !isSpace c && !isBreak c && !isFlow c && c != '\uFEFF'
    && (c == '\u0085' || 0xA0 ≤ c.toNat || (0x20 < c.toNat && c.toNat < 0x7F))

/-- The handle of a tag at the front. -/
def tagHandle (cs : List Char) : List Char :=
  match cs with
  | '!' :: rest =>
    let word := rest.takeWhile isWordChar
    '!' :: word ++ if (rest.drop word.length).head? = some '!' then ['!'] else []
  | _ => []

/-- The number of characters of a version. -/
def versionLength? (cs : List Char) : Option Nat :=
  let major := (cs.takeWhile Char.isDigit).length
  match cs.drop major with
  | '.' :: rest =>
    let minor := (rest.takeWhile Char.isDigit).length
    if 1 ≤ major ∧ major ≤ 9 ∧ 1 ≤ minor ∧ minor ≤ 9 then some (major + 1 + minor) else none
  | _ => none

/-- A directive: the version, a handle for tags, or another one, which counts for nothing. -/
def directive? (s : Scan) : Option Scan := do
  let s := s.unrollTo (-1)
  let s ← s.dropCandidate?
  let s := { s with keyAllowed := false }
  let c := s.cursor.solid 1
  let name := c.rest.takeWhile isWordChar
  if name.isEmpty then none
  let c := c.solid name.length
  if !atGap c.rest then none
  let c := c.blanks (c.rest.takeWhile isSpace).length
  let (c, t) ←
    if name = "YAML".toList then (versionLength? c.rest).map fun n => (c.solid n, Token.version)
    else if name = "TAG".toList then
      let handle := tagHandle c.rest
      let c := c.solid handle.length
      let gap := (c.rest.takeWhile isSpace).length
      let uri := ((c.rest.drop gap).takeWhile fun ch => isTagChar ch || "!,[]".toList.contains ch).length
      if handle.isEmpty || (handle != ['!'] && handle.getLast? != some '!') || gap = 0 then none
      else some (c.solid (gap + uri), Token.handle (String.ofList handle))
    else some (c.solid (c.rest.takeWhile (!isBreak ·)).length, Token.handle "")
  let p ← c.toLineEnd? true
  if !atBreak p.cursor.rest then none
  let s := s.push t
  return s.goto (if p.cursor.rest.isEmpty then p.cursor else p.cursor.nextLine)

/-- A marker that starts or ends a document. -/
def marker? (s : Scan) (t : Token) : Option Scan := do
  let s := s.unrollTo (-1)
  let s ← s.dropCandidate?
  let s := { s with keyAllowed := false }.push t
  let s := s.goto (s.cursor.solid 3)
  if t = .documentEnd then
    let s ← s.toLineEnd?
    if atBreak s.cursor.rest then return s else none
  else return s

/-- An anchor or an alias. -/
def anchor? (s : Scan) (isAlias : Bool) : Option Scan :=
  let s := { s.saveCandidate with keyAllowed := false }
  let name := (s.cursor.rest.drop 1).takeWhile isAnchorChar
  if name.isEmpty then none
  else
    let t := String.ofList name
    some ((s.push (if isAlias then .alias t else .anchor t)).goto (s.cursor.solid (name.length + 1)))

/-- A tag: verbatim, with a handle, or local. -/
def tag? (s : Scan) : Option Scan := do
  let s := { s.saveCandidate with keyAllowed := false }
  let cs := s.cursor.rest
  let (t, n) ←
    match cs with
    | '!' :: '<' :: rest =>
      let uri := rest.takeWhile fun c => isTagChar c || "!,[]".toList.contains c
      if uri.isEmpty || (rest.drop uri.length).head? != some '>' then none
      else some (Token.tag "" (String.ofList uri), uri.length + 3)
    | _ =>
      let handle := tagHandle cs
      let isHandle := 2 ≤ handle.length && handle.getLast? == some '!'
      let suffix := (cs.drop handle.length).takeWhile isTagChar
      let n := handle.length + suffix.length
      if isHandle then
        some (Token.tag (String.ofList handle) (String.ofList suffix), n)
      else
        let whole := handle.drop 1 ++ suffix
        if whole.isEmpty then some (Token.tag "" "!", n)
        else some (Token.tag "!" (String.ofList whole), n)
  let s := (s.push t).goto (s.cursor.solid n)
  if atGap s.cursor.rest || (0 < s.flow && s.cursor.peek?.any isFlow) then return s else none

/-! ## Collections -/

/-- The start of a flow collection. -/
def openFlow? (s : Scan) (t : Token) : Option Scan :=
  let s := s.saveCandidate.rollLoose
  let s := { s with
    candidates := {} :: s.candidates, flow := s.flow + 1, keyAllowed := true }.push t
  let s := s.goto (s.cursor.solid 1)
  let s :=
    if t = .flowMapping then { s with mappingBegun := true }
    else { s with implied := false :: s.implied }
  s.toLineEnd?

/-- The end of a flow collection. -/
def closeFlow? (s : Scan) (t : Token) : Option Scan := do
  let s ← s.dropCandidate?
  let s := if 0 < s.flow then { s with candidates := s.candidates.tail, flow := s.flow - 1 } else s
  let s := { s with keyAllowed := false }
  let s :=
    if t = .flowSequenceEnd then
      let s := s.endImplied
      { s with implied := s.implied.tail }
    else s
  let s ← ((s.push t).goto (s.cursor.solid 1)).toLineEnd?
  return if 0 < s.flow then { s with adjacentAt := s.cursor.index } else s

/-- A comma. -/
def flowEntry? (s : Scan) : Option Scan := do
  let s ← s.dropCandidate?
  let s := { s with keyAllowed := true }.endImplied.push .flowEntry
  (s.goto (s.cursor.solid 1)).toLineEnd?

/-- Whether the last token is an anchor or a tag at the margin. -/
def endsInProperty (s : Scan) : Bool :=
  match s.tokens.getLast? with
  | some (.anchor _, 0) | some (.tag _ _, 0) => true
  | _ => false

/-- A dash before an item of a block sequence. -/
def blockEntry? (s : Scan) : Option Scan := do
  if 0 < s.flow || !s.keyAllowed then none
  if s.cursor.col = 0 && -1 < s.indent && s.endsInProperty then none
  let s := s.roll s.cursor.col none .blockSequence
  let p ← (s.cursor.solid 1).toLineEnd? true
  let c := p.cursor
  if p.tab && c.isAt '-' && atGap (c.rest.drop 1) then none
  let s := s.goto c
  let s := if c.peek?.any (fun ch => isBreak ch || isFlow ch) then s.rollLoose else s
  let s ← s.dropCandidate?
  return { s with keyAllowed := true }.push .blockEntry

/-- A question mark before a key. -/
def explicitKey? (s : Scan) : Option Scan := do
  let s ←
    if s.flow = 0 then
      if s.keyAllowed then some (s.roll s.cursor.col none .blockMapping) else none
    else some { s with mappingBegun := true }
  let s ← s.dropCandidate?
  let s := { s with keyAllowed := s.flow == 0 }.push .key
  let c := s.cursor.solid 1
  let c := c.blanks (c.rest.takeWhile (· == ' ')).length
  if c.isAt '\t' then none else return s.goto c

/-- A colon before a value. -/
def valueMark? (s : Scan) : Option Scan := do
  let candidate := s.candidates.head?.getD {}
  let col := s.cursor.col
  let line := s.cursor.line
  let isImplied := !s.implied.isEmpty && !s.mappingBegun
  let s := if isImplied then { s with implied := true :: s.implied.tail } else s
  let c := s.cursor.solid 1
  let c ←
    if c.isAt '\t' then do
      let p ← c.toLineEnd? true
      if !p.space && p.cursor.peek?.any (fun ch => ch == '-' || isWordChar ch) then none
      some p.cursor
    else some c
  let s := s.goto c
  if candidate.possible then
    if isImplied && candidate.line < line then none
    let s := s.insertAt candidate.token .key
    let s := if isImplied then s.insertAt candidate.token .flowMapping else s
    let s := (s.roll candidate.col (some candidate.token) .blockMapping).rollLoose
    let s := { s with
      candidates := { candidate with possible := false } :: s.candidates.tail, keyAllowed := false }
    return s.push .value
  else
    let s := if isImplied then s.push .flowMapping else s
    let s ←
      if s.flow = 0 then
        if s.keyAllowed then some (s.roll col none .blockMapping) else none
      else some s
    return { s.rollLoose with keyAllowed := s.flow == 0 }.push .value

/-! ## Scalars -/

/-- A scalar in quotes. -/
def quotedScalar? (s : Scan) (single : Bool) : Option Scan := do
  let s := { s.saveCandidate with keyAllowed := false }
  let (c, text) ← quoted? single (0 < s.flow) s.indent s.cursor
  let s ← ((s.push (.scalar false text)).goto c).toNext?
  return { s with adjacentAt := s.cursor.index }

/-- A plain scalar. -/
def plainScalar? (s : Scan) : Option Scan := do
  let s := { s.saveCandidate with keyAllowed := false }
  let s := dropLoose s.levels s
  let indent := s.indent + 1
  if 0 < s.flow ∧ s.cursor.col < indent then none
  let (c, text) ← plain? (0 < s.flow) indent s.cursor
  let s := (s.push (.scalar true text)).goto c
  return if c.fresh then { s with keyAllowed := true } else s

/-- A block of lines. -/
def blockScalar? (s : Scan) (literal : Bool) : Option Scan := do
  let s := { s.saveCandidate with keyAllowed := true }
  let s := dropLoose s.levels s
  let (c, text) ← block? literal s.indent s.cursor
  return (s.push (.scalar false text)).goto c

/-! ## The whole text -/

/-- The end of the text: no key may be missing. -/
def finish? (s : Scan) : Option Scan :=
  if s.candidates.any (fun c => c.required && c.possible) then none else some (s.unrollTo (-1))

/-- The next token that is not a marker or a directive. -/
def content? (s : Scan) (c : Char) (rest : List Char) : Option Scan :=
  let inFlow := decide (0 < s.flow)
  let gap := atGap rest
  if c = '[' then s.openFlow? .flowSequence
  else if c = '\x7b' then s.openFlow? .flowMapping
  else if c = ']' then s.closeFlow? .flowSequenceEnd
  else if c = '\x7d' then s.closeFlow? .flowMappingEnd
  else if c = ',' then s.flowEntry?
  else if c = '-' ∧ gap then s.blockEntry?
  else if c = '?' ∧ gap then s.explicitKey?
  else if c = ':' ∧ gap then s.valueMark?
  else if c = ':' ∧ inFlow ∧ (rest.head?.any isFlow ∨ s.cursor.index = s.adjacentAt) then
    if s.cursor.index ≠ s.adjacentAt ∧ (rest.head? = some '[' ∨ rest.head? = some '\x7b') then none
    else s.valueMark?
  else if c = '*' then s.anchor? true
  else if c = '&' then s.anchor? false
  else if c = '!' then s.tag?
  else if c = '|' ∧ !inFlow then s.blockScalar? true
  else if c = '>' ∧ !inFlow then s.blockScalar? false
  else if c = '\'' then s.quotedScalar? true
  else if c = '"' then s.quotedScalar? false
  else if c = '%' ∨ c = '@' ∨ c.toNat = 0x60 then none
  else s.plainScalar?

/-- Reads token after token.  `fuel` bounds their number. -/
def run? : Nat → Scan → Option Scan
  | 0, _ => none
  | fuel + 1, s =>
    match s.toNext?.bind dropStale? with
    | none => none
    | some s =>
      let s := s.unrollTo s.cursor.col
      match s.cursor.rest with
      | [] => s.finish?
      | c :: rest =>
        let next :=
          if s.cursor.col = 0 ∧ c = '%' then s.directive?
          else if s.cursor.col = 0 ∧ s.cursor.isMarker '-' then s.marker? .documentStart
          else if s.cursor.col = 0 ∧ s.cursor.isMarker '.' then s.marker? .documentEnd
          else if s.cursor.col < s.indent then none
          else s.content? c rest
        match next with
        | some s => run? fuel s
        | none => none

end Scan

/-- The tokens of a text; a null character ends it. -/
def tokens? (cs : List Char) : Option (List Token) :=
  let text := cs.takeWhile fun c => c.toNat != 0
  (Scan.run? (text.length + 2) ⟨.start text, [], true, [{}], -1, [], 0, 0, false, []⟩).map
    fun s => s.tokens.map (·.1)

end AffinityGate.Yaml
