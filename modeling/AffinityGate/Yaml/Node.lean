import AffinityGate.Number.Decimal
import AffinityGate.Yaml.Token

/-!
# Nodes of YAML texts

The nodes that a sequence of tokens stands for.  A node may be named by an anchor and repeated by
an alias; a plain scalar gets its type from its tag or its spelling.
-/

namespace AffinityGate.Yaml

/-- A node.  `bad` is a scalar that does not fit its tag, or an alias to a node it is part of. -/
inductive Node
  | null
  | bad
  | bool (b : Bool)
  | int (n : Int)
  | real (text : String)
  | text (s : String)
  | list (items : List Node)
  | map (entries : List (Node × Node))
  deriving Repr, BEq

/-- Whether a text is a real number: a special one, or one with a digit. -/
def isReal (s : String) : Bool :=
  let special := [".inf", ".Inf", ".INF", "+.inf", "+.Inf", "+.INF", "-.inf", "-.Inf", "-.INF",
    ".nan", ".NaN", ".NAN"]
  special.contains s
    || (s.toList.any Char.isDigit && (Decimal.float? s.toList).isSome)

/-- An integer with a base that its first two characters name, or with a plus sign. -/
def prefixedInt? (cs : List Char) : Option Int :=
  let read (digit? : Char → Option Nat) (base : Nat) (rest : List Char) : Option Int :=
    let (negative, digits) := Decimal.cutSign rest
    ((Net.number? digit? base digits).map fun n => if negative then -(n : Int) else n).filter
      Decimal.isSigned
  match cs with
  | '0' :: 'x' :: rest => read Net.hexadecimal? 16 rest
  | '0' :: 'o' :: rest => read (fun c => (Net.decimal? c).filter (· < 8)) 8 rest
  | _ => none

/-- A plain scalar without a tag. -/
def Node.ofPlain (s : String) : Node :=
  match prefixedInt? s.toList with
  | some n => .int n
  | none =>
    if s = "" ∨ s = "~" ∨ s = "null" then .null
    else if s = "true" then .bool true
    else if s = "false" then .bool false
    else
      match Decimal.signed? s.toList with
      | some n => .int n
      | none => if isReal s then .real s else .text s

/-- Where the standard tags begin. -/
def standardTag : String := "tag:yaml.org,2002:"

/-- A plain scalar with a tag. -/
def Node.ofTagged (handle suffix s : String) : Node :=
  if handle ≠ standardTag then .text s
  else if suffix = "bool" then
    if s = "true" then .bool true else if s = "false" then .bool false else .bad
  else if suffix = "int" then
    match Decimal.signed? s.toList with
    | some n => .int n
    | none => .bad
  else if suffix = "float" then
    if isReal s then .real s else .bad
  else if suffix = "null" then
    if s = "~" ∨ s = "null" then .null else .bad
  else .text s

/-- What is known while nodes are read: the tokens left, the handles declared, the anchors by name
and the nodes that they stand for once they are complete. -/
structure Reading where
  tokens : List Token
  handles : List String := []
  names : List (String × Nat) := []
  nodes : List (Nat × Node) := []
  next : Nat := 1

namespace Reading

/-- The next token. -/
def peek? (r : Reading) : Option Token :=
  r.tokens.head?

/-- Behind the next token. -/
def skip (r : Reading) : Reading :=
  { r with tokens := r.tokens.tail }

/-- Whether the next token is one of some. -/
def isAt (r : Reading) (ts : List Token) : Bool :=
  match r.tokens with
  | t :: _ => ts.contains t
  | [] => false

/-- Gives a name to the node to come. -/
def name (r : Reading) (n : String) : Reading × Nat :=
  ({ r with names := (n, r.next) :: r.names, next := r.next + 1 }, r.next)

/-- Records a complete node under its anchor. -/
def record (r : Reading) (anchor : Nat) (n : Node) : Reading :=
  if anchor = 0 then r else { r with nodes := (anchor, n) :: r.nodes }

/-- The node of an alias; the name must be known. -/
def aliased? (r : Reading) (n : String) : Option Node :=
  match r.names.find? (·.1 == n) with
  | some (_, id) => some (((r.nodes.find? (·.1 == id)).map (·.2)).getD .bad)
  | none => none

/-- The tag that a handle and a suffix stand for; a named handle must be declared. -/
def tag? (r : Reading) (handle suffix : String) : Option (String × String) :=
  if r.handles.contains handle then some (handle, suffix)
  else if handle = "!!" then some (standardTag, suffix)
  else if 2 ≤ handle.length ∧ handle.toList.getLast? = some '!' then none
  else some (handle, suffix)

end Reading

/-- The anchor and the tag of a node, in either order. -/
structure Properties where
  anchor : Nat := 0
  tag : Option (String × String) := none

/-- The properties before a node. -/
def properties? (r : Reading) : Option (Properties × Reading) :=
  match r.tokens with
  | .anchor n :: .tag h s :: _ =>
    let (r, id) := r.name n
    (r.tag? h s).map fun t => (⟨id, some t⟩, r.skip.skip)
  | .anchor n :: _ =>
    let (r, id) := r.name n
    some (⟨id, none⟩, r.skip)
  | .tag h s :: .anchor n :: _ =>
    (r.tag? h s).map fun t =>
      let (r, id) := r.name n
      (⟨id, some t⟩, r.skip.skip)
  | .tag h s :: _ => (r.tag? h s).map fun t => (⟨0, some t⟩, r.skip)
  | _ => some ({}, r)

/-- A scalar by its properties. -/
def scalarNode (p : Properties) (isPlain : Bool) (text : String) : Node :=
  if isPlain then
    match p.tag with
    | some (h, s) => .ofTagged h s text
    | none => .ofPlain text
  else .text text

/-- Adds an entry to a mapping, whose keys differ. -/
def addEntry? (done : List (Node × Node)) (k v : Node) : Option (List (Node × Node)) :=
  if done.any (·.1 == k) then none else some (done ++ [(k, v)])

mutual

/-- A node.  Block collections may be allowed here, and sequences without indentation.  `fuel`
bounds the number of tokens read. -/
def node? : Nat → Bool → Bool → Reading → Option (Node × Reading)
  | 0, _, _, _ => none
  | fuel + 1, block, loose, r =>
    match r.peek? with
    | some (.alias n) => (r.aliased? n).map fun v => (v, r.skip)
    | _ =>
      match properties? r with
      | none => none
      | some (p, r) =>
        let found : Option (Node × Reading) :=
          match r.peek? with
          | some .blockEntry =>
            if loose then (looseItems? fuel [] r).map fun x => (.list x.1, x.2)
            else if p.tag.isSome ∨ p.anchor ≠ 0 then some (scalarNode p true "", r)
            else none
          | some (.scalar isPlain text) => some (scalarNode p isPlain text, r.skip)
          | some .flowSequence => (flowItems? fuel true [] r.skip).map fun x => (.list x.1, x.2)
          | some .flowMapping => (flowEntries? fuel true [] r.skip).map fun x => (.map x.1, x.2)
          | some t =>
            if t = .blockSequence ∧ block then
              (blockItems? fuel [] r.skip).map fun x => (.list x.1, x.2)
            else if t = .blockMapping ∧ block then
              (blockEntries? fuel [] r.skip).map fun x => (.map x.1, x.2)
            else if p.tag.isSome ∨ p.anchor ≠ 0 then some (scalarNode p true "", r)
            else none
          | none => if p.tag.isSome ∨ p.anchor ≠ 0 then some (scalarNode p true "", r) else none
        found.map fun x => (x.1, x.2.record p.anchor x.1)

/-- Items of a block sequence up to its end. -/
def blockItems? : Nat → List Node → Reading → Option (List Node × Reading)
  | 0, _, _ => none
  | fuel + 1, done, r =>
    match r.peek? with
    | some .blockEnd => some (done, r.skip)
    | some .blockEntry =>
      let r := r.skip
      if r.isAt [.blockEntry, .blockEnd] then blockItems? fuel (done ++ [.null]) r
      else
        match node? fuel true false r with
        | some (v, r) => blockItems? fuel (done ++ [v]) r
        | none => none
    | _ => none

/-- Items of a sequence that is not indented further than the key before it. -/
def looseItems? : Nat → List Node → Reading → Option (List Node × Reading)
  | 0, _, _ => none
  | fuel + 1, done, r =>
    match r.peek? with
    | some .blockEntry =>
      let r := r.skip
      if r.isAt [.blockEntry, .key, .value, .blockEnd] then looseItems? fuel (done ++ [.null]) r
      else
        match node? fuel true false r with
        | some (v, r) => looseItems? fuel (done ++ [v]) r
        | none => none
    | _ => some (done, r)

/-- Entries of a block mapping up to its end; keys and values may be missing. -/
def blockEntries? : Nat → List (Node × Node) → Reading → Option (List (Node × Node) × Reading)
  | 0, _, _ => none
  | fuel + 1, done, r =>
    let ends : List Token := [.key, .value, .blockEnd]
    let finish (k : Node) (r : Reading) : Option (List (Node × Node) × Reading) :=
      let valued : Option (Node × Reading) :=
        match r.peek? with
        | some .value =>
          if r.skip.isAt ends then some (.null, r.skip) else node? fuel true true r.skip
        | _ => some (.null, r)
      match valued with
      | none => none
      | some (v, r) =>
        match addEntry? done k v with
        | some done => blockEntries? fuel done r
        | none => none
    match r.peek? with
    | some .key =>
      if r.skip.isAt ends then finish .null r.skip
      else
        match node? fuel true true r.skip with
        | some (k, r) => finish k r
        | none => none
    | some .value => finish .null r
    | some .blockEnd => some (done, r.skip)
    | _ => none

/-- Entries of a flow mapping up to its bracket. -/
def flowEntries? : Nat → Bool → List (Node × Node) → Reading →
    Option (List (Node × Node) × Reading)
  | 0, _, _, _ => none
  | fuel + 1, isFirst, done, r =>
    let ends : List Token := [.flowEntry, .flowMappingEnd]
    let finish (k : Node) (r : Reading) : Option (List (Node × Node) × Reading) :=
      let valued : Option (Node × Reading) :=
        match r.peek? with
        | some .value =>
          if r.skip.isAt ends then some (.null, r.skip) else node? fuel false false r.skip
        | _ => some (.null, r)
      match valued with
      | none => none
      | some (v, r) =>
        match addEntry? done k v with
        | some done => flowEntries? fuel false done r
        | none => none
    if r.isAt [.flowMappingEnd] then some (done, r.skip)
    else if !isFirst && !r.isAt [.flowEntry] then none
    else
      let r := if isFirst then r else r.skip
      match r.peek? with
      | some .flowMappingEnd => some (done, r.skip)
      | some .key =>
        if r.skip.isAt (.value :: ends) then finish .null r.skip
        else
          match node? fuel false false r.skip with
          | some (k, r) => finish k r
          | none => none
      | some .value => finish .null r
      | _ =>
        match node? fuel false false r with
        | some (k, r) =>
          match addEntry? done k .null with
          | some done => flowEntries? fuel false done r
          | none => none
        | none => none

/-- Items of a flow sequence up to its bracket; an item may be a mapping of one pair. -/
def flowItems? : Nat → Bool → List Node → Reading → Option (List Node × Reading)
  | 0, _, _, _ => none
  | fuel + 1, isFirst, done, r =>
    if r.isAt [.flowSequenceEnd] then some (done, r.skip)
    else if !isFirst && !r.isAt [.flowEntry] then none
    else
      let r := if isFirst then r else r.skip
      match r.peek? with
      | some .flowSequenceEnd => some (done, r.skip)
      | some .key =>
        let r := r.skip
        let keyed : Option (Node × Reading) :=
          if r.isAt [.value, .flowEntry, .flowSequenceEnd] then some (.null, r)
          else node? fuel false false r
        match keyed with
        | none => none
        | some (k, r) =>
          let valued : Option (Node × Reading) :=
            match r.peek? with
            | some .value =>
              if r.skip.isAt [.flowEntry, .flowSequenceEnd] then some (.null, r.skip)
              else node? fuel false false r.skip
            | _ => some (.null, r)
          match valued with
          | some (v, r) => flowItems? fuel false (done ++ [.map [(k, v)]]) r
          | none => none
      | _ =>
        match node? fuel false false r with
        | some (v, r) => flowItems? fuel false (done ++ [v]) r
        | none => none

end

/-- The directives before a document: at most one version, and handles that differ. -/
def directives? : Bool → List Token → List String → Option (List Token × List String)
  | hasVersion, .version :: ts, handles =>
    if hasVersion then none else directives? true ts handles
  | hasVersion, .handle n :: ts, handles =>
    if handles.contains n then none else directives? hasVersion ts (n :: handles)
  | _, ts, handles => some (ts, handles)

/-- The documents of a text.  `isImplicit` says that the next one needs no marker.  `fuel` bounds
their number. -/
def documents? : Nat → Bool → Reading → Option (List Node)
  | 0, _, _ => none
  | fuel + 1, isImplicit, r =>
    let tokens := r.tokens.dropWhile (· == .documentEnd)
    let content (r : Reading) (isMarked : Bool) : Option (Node × Reading) :=
      match r.peek? with
      | none | some .documentStart | some .documentEnd | some .version | some (.handle _) =>
        if isMarked then some (.null, r) else none
      | _ => node? (r.tokens.length + 1) true false r
    let close (read : Option (Node × Reading)) : Option (List Node) :=
      match read with
      | none => none
      | some (n, r) =>
        match r.tokens with
        | .documentEnd :: ts => (documents? fuel true { r with tokens := ts, handles := [] }).map (n :: ·)
        | .version :: _ | .handle _ :: _ => none
        | _ => (documents? fuel false { r with handles := [] }).map (n :: ·)
    match tokens with
    | [] => some []
    | .version :: _ | .handle _ :: _ | .documentStart :: _ =>
      match directives? false tokens [] with
      | some (.documentStart :: ts, handles) =>
        close (content { r with tokens := ts, handles := handles } true)
      | _ => none
    | _ => if isImplicit then close (content { r with tokens := tokens } false) else none

/-- The documents of a text. -/
def nodes? (cs : List Char) : Option (List Node) :=
  (tokens? cs).bind fun ts => documents? (ts.length + 2) true ⟨ts, [], [], [], 1⟩

end AffinityGate.Yaml
