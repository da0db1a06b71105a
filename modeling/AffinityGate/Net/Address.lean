import AffinityGate.Text.Pieces

/-!
# Network addresses as text

Dotted IPv4 addresses, IPv6 addresses with at most one `::` and an optional dotted tail, and socket
addresses `IP:PORT`.  `Ip.text` writes an address in its canonical form: the longest run of at
least two zero groups is abbreviated, the first of equally long ones.
-/

namespace AffinityGate.Net

/-- The value of a decimal digit. -/
def decimal? (c : Char) : Option Nat :=
  if '0' ≤ c ∧ c ≤ '9' then some (c.toNat - 48) else none

/-- The value of a hexadecimal digit of either case. -/
def hexadecimal? (c : Char) : Option Nat :=
  if '0' ≤ c ∧ c ≤ '9' then some (c.toNat - 48)
  else if 'a' ≤ c ∧ c ≤ 'f' then some (c.toNat - 87)
  else if 'A' ≤ c ∧ c ≤ 'F' then some (c.toNat - 55)
  else none

/-- The number written by the digits of a base; `none` if there is no digit or a foreign one. -/
def number? (digit? : Char → Option Nat) (base : Nat) (cs : List Char) : Option Nat :=
  if cs.isEmpty then none
  else (cs.mapM digit?).map fun ds => ds.foldl (fun n d => n * base + d) 0

/-- One part of a dotted address: at most three digits, no leading zero, at most 255. -/
def octet? (cs : List Char) : Option Nat :=
  if 3 < cs.length ∨ (1 < cs.length ∧ cs.head? = some '0') then none
  else (number? decimal? 10 cs).filter (· ≤ 255)

/-- The four parts of a dotted address. -/
def dotted? (cs : List Char) : Option (List Nat) :=
  (pieces '.' cs).mapM octet? |>.filter (·.length == 4)

/-- One group of an IPv6 address. -/
def group? (cs : List Char) : Option Nat :=
  if 4 < cs.length then none else number? hexadecimal? 16 cs

/-- The groups of one side of `::`; a dotted tail counts as two groups. -/
def groups? (dottedTail : Bool) (cs : List Char) : Option (List Nat) :=
  if cs.isEmpty then some []
  else
    let ps := pieces ':' cs
    let last := ps.getLast?.getD []
    if dottedTail ∧ last.contains '.' then
      match dotted? last, ps.dropLast.mapM group? with
      | some [a, b, c, d], some gs => some (gs ++ [a * 256 + b, c * 256 + d])
      | _, _ => none
    else
      ps.mapM group?

/-- Cuts at the first `::`. -/
def cutDoubleColon : List Char → Option (List Char × List Char)
  | ':' :: ':' :: rest => some ([], rest)
  | c :: rest => (cutDoubleColon rest).map fun r => (c :: r.1, r.2)
  | [] => none

/-- The eight groups of an IPv6 address. -/
def ipv6? (cs : List Char) : Option (List Nat) :=
  match cutDoubleColon cs with
  | none => (groups? true cs).filter (·.length == 8)
  | some (left, right) =>
    match groups? false left, groups? true right with
    | some ls, some rs =>
      if ls.length + rs.length ≤ 7 then
        some (ls ++ List.replicate (8 - ls.length - rs.length) 0 ++ rs)
      else none
    | _, _ => none

/-- An address without its port. -/
inductive Ip
  | v4 (parts : List Nat)
  | v6 (groups : List Nat)
  deriving DecidableEq, Repr

/-- An address and a port. -/
structure Socket where
  ip : Ip
  port : Nat
  deriving DecidableEq, Repr

/-- A port: decimal digits, leading zeros allowed, at most 65535. -/
def port? (cs : List Char) : Option Nat :=
  (number? decimal? 10 cs).filter (· ≤ 65535)

/-- The address inside brackets, without a numeric scope. -/
def scoped? (cs : List Char) : Option (List Nat) :=
  match cutAt '%' cs with
  | none => ipv6? cs
  | some (addr, scope) =>
    if ((number? decimal? 10 scope).filter (· < Nat.pow 2 32)).isSome then ipv6? addr else none

/-- `IP:PORT`, an IPv6 address in brackets. -/
def Socket.parse? (cs : List Char) : Option Socket :=
  match cs with
  | '[' :: rest =>
    match cutAt ']' rest with
    | some (addr, ':' :: p) =>
      match scoped? addr, port? p with
      | some gs, some n => some ⟨.v6 gs, n⟩
      | _, _ => none
    | _ => none
  | _ =>
    match cutAt ':' cs with
    | some (addr, p) =>
      match dotted? addr, port? p with
      | some ps, some n => some ⟨.v4 ps, n⟩
      | _, _ => none
    | none => none

/-- The parts with dots between them. -/
def dottedText (ps : List Nat) : String :=
  ".".intercalate (ps.map toString)

/-- The lower-case hexadecimal text of a group. -/
def groupText (n : Nat) : String :=
  String.ofList (Nat.toDigits 16 n)

/-- The start and the length of the first longest run of zeros; scanning keeps the run that ends
at the current position. -/
def longestZeros (gs : List Nat) : Nat × Nat :=
  let step (s : Nat × Nat × Nat × Nat) (g : Nat) : Nat × Nat × Nat × Nat :=
    let (i, run, start, best) := s
    if g = 0 then
      if best < run + 1 then (i + 1, run + 1, i - run, run + 1) else (i + 1, run + 1, start, best)
    else (i + 1, 0, start, best)
  (gs.foldl step (0, 0, 0, 0)).2.2

/-- The canonical text of eight groups. -/
def groupsText (gs : List Nat) : String :=
  match gs with
  | [0, 0, 0, 0, 0, 0xFFFF, p, q] => "::ffff:" ++ dottedText [p / 256, p % 256, q / 256, q % 256]
  | _ =>
    let (start, run) := longestZeros gs
    let text (xs : List Nat) := ":".intercalate (xs.map groupText)
    if 1 < run then text (gs.take start) ++ "::" ++ text (gs.drop (start + run)) else text gs

/-- The canonical text of an address. -/
def Ip.text : Ip → String
  | .v4 ps => dottedText ps
  | .v6 gs => groupsText gs

end AffinityGate.Net
