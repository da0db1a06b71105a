import AffinityGate.Net.Address
import AffinityGate.Url.Domain

/-!
# Hosts of URLs

The host of a URL with a well-known scheme is an IPv6 address in brackets, an IPv4 address in any
of its number forms, or a domain.  Hosts of other schemes are opaque texts.
-/

namespace AffinityGate.Url

/-- Why a URL is not valid. -/
inductive Error
  | emptyHost
  | badDomain
  | badPort
  | badIpv4
  | badIpv6
  | badHostCharacter
  | relative
  deriving DecidableEq, Repr

/-- The wording of an error. -/
def Error.message : Error → String
  | .emptyHost => "empty host"
  | .badDomain => "invalid international domain name"
  | .badPort => "invalid port number"
  | .badIpv4 => "invalid IPv4 address"
  | .badIpv6 => "invalid IPv6 address"
  | .badHostCharacter => "invalid domain character"
  | .relative => "relative URL without a base"

/-- The host of a URL. -/
inductive Host
  | ipv4 (address : Nat)
  | ipv6 (groups : List Nat)
  | domain (name : List Char)
  deriving DecidableEq, Repr

/-- One number of an IPv4 address: hexadecimal after `0x`, octal after `0`, else decimal. -/
def ipv4Number? (cs : List Char) : Option Nat :=
  let octal? (c : Char) : Option Nat := (Net.decimal? c).filter (· < 8)
  match cs with
  | '0' :: 'x' :: [] | '0' :: 'X' :: [] => some 0
  | '0' :: 'x' :: rest | '0' :: 'X' :: rest => Net.number? Net.hexadecimal? 16 rest
  | '0' :: c :: rest => Net.number? octal? 8 (c :: rest)
  | _ => Net.number? Net.decimal? 10 cs

/-- The parts of a dotted name, one final dot disregarded. -/
def dottedParts (cs : List Char) : List (List Char) :=
  let ps := pieces '.' cs
  if 1 < ps.length ∧ ps.getLast? = some [] then ps.dropLast else ps

/-- Whether a name is to be read as an IPv4 address: its last part is a number. -/
def endsInNumber (cs : List Char) : Bool :=
  let last := (dottedParts cs).getLast?.getD []
  (!last.isEmpty && last.all fun c => (Net.decimal? c).isSome) || (ipv4Number? last).isSome

/-- The address of up to four numbers: all but the last are bytes, the last fills the rest. -/
def ipv4? (cs : List Char) : Option Nat :=
  let ps := dottedParts cs
  if 4 < ps.length then none
  else
    match ps.mapM ipv4Number? with
    | none => none
    | some ns =>
      let last := ns.getLast?.getD 0
      let front := ns.dropLast
      if front.all (· ≤ 255) ∧ last < Nat.pow 256 (4 - front.length) then
        some (front.foldl (fun a n => a * 256 + n) 0 * Nat.pow 256 (4 - front.length) + last)
      else none

/-- The host of a URL with a well-known scheme. -/
def Host.parse (cs : List Char) : Except Error Host :=
  match cs with
  | '[' :: rest =>
    if rest.getLast? = some ']' then
      match Net.ipv6? rest.dropLast with
      | some gs => .ok (.ipv6 gs)
      | none => .error .badIpv6
    else .error .badIpv6
  | _ =>
    match Domain.read? (Percent.decode (Utf8.encode cs)) with
    | none => .error .badDomain
    | some [] => .error .emptyHost
    | some name =>
      if endsInNumber name then
        match ipv4? name with
        | some a => .ok (.ipv4 a)
        | none => .error .badIpv4
      else .ok (.domain name)

/-- Characters that no opaque host may hold. -/
def isForbiddenInHost (c : Char) : Bool :=
  "\x00\t\n\r #/:<>?@[\\]^|".toList.contains c

/-- The host of a URL with any other scheme, kept as written. -/
def Host.parseOpaque (cs : List Char) : Except Error Host :=
  match cs with
  | '[' :: rest =>
    if rest.getLast? = some ']' then
      match Net.ipv6? rest.dropLast with
      | some gs => .ok (.ipv6 gs)
      | none => .error .badIpv6
    else .error .badIpv6
  | _ => if cs.any isForbiddenInHost then .error .badHostCharacter else .ok (.domain cs)

end AffinityGate.Url
