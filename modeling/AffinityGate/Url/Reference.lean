import AffinityGate.Http.Uri
import AffinityGate.Net.Address
import AffinityGate.Text.Percent

/-!
# Strict references

A reference in its strict form holds only the characters of the general syntax, escapes apart.  It
is absolute, starts at an authority, or is relative to a path.
-/

namespace AffinityGate.Url.Reference

/-- Letters, digits and the four marks. -/
def isUnreserved (b : UInt8) : Bool :=
  (0x30 ≤ b && b ≤ 0x39) || (0x41 ≤ b && b ≤ 0x5A) || (0x61 ≤ b && b ≤ 0x7A)
    || b == 0x2D || b == 0x2E || b == 0x5F || b == 0x7E

/-- Delimiters within a component. -/
def isSubDelimiter (b : UInt8) : Bool :=
  b == 0x21 || b == 0x24 || (0x26 ≤ b && b ≤ 0x2C) || b == 0x3B || b == 0x3D

/-- Whether all bytes are unreserved, delimiters, escapes, or among the extra ones. -/
def isComponent (extra : List UInt8) : Bytes → Bool
  | [] => true
  | 0x25 :: h :: l :: rest => (Percent.escape? h l).isSome && isComponent extra rest
  | b :: rest =>
    (isUnreserved b || isSubDelimiter b || extra.contains b) && isComponent extra rest

/-- Whether bytes are an IPv6 address or a later form. -/
def isLiteral (bs : Bytes) : Bool :=
  match bs with
  | v :: rest =>
    if v = 0x76 ∨ v = 0x56 then
      match cutAt (0x2E : UInt8) rest with
      | some (version, address) =>
        !version.isEmpty && version.all (fun b => (Percent.nibble? b).isSome)
          && !address.isEmpty
          && address.all fun b => isUnreserved b || isSubDelimiter b || b == 0x3A
      | none => false
    else (Net.ipv6? (bs.map fun b => Char.ofNat b.toNat)).isSome
  | [] => false

/-- Whether bytes are a port, which may be empty. -/
def isPort (bs : Bytes) : Bool :=
  bs.all fun b => 0x30 ≤ b && b ≤ 0x39

/-- Whether bytes are a host with or without a port. -/
def isHostAndPort (bs : Bytes) : Bool :=
  match bs with
  | 0x5B :: rest =>
    match cutAt (0x5D : UInt8) rest with
    | some (literal, after) =>
      isLiteral literal && (match after with
        | [] => true
        | 0x3A :: port => isPort port
        | _ => false)
    | none => false
  | _ =>
    match cutAt (0x3A : UInt8) bs with
    | some (name, port) => isComponent [] name && isPort port
    | none => isComponent [] bs

/-- Whether bytes are an authority. -/
def isAuthority (bs : Bytes) : Bool :=
  match cutAt (0x40 : UInt8) bs with
  | some (user, rest) => isComponent [0x3A] user && isHostAndPort rest
  | none => isHostAndPort bs

/-- Whether bytes are an authority and a path, or a path alone. -/
def isHierarchy (bs : Bytes) : Bool :=
  match bs with
  | 0x2F :: 0x2F :: rest =>
    isAuthority (rest.takeWhile (· != 0x2F))
      && isComponent [0x3A, 0x40, 0x2F] (rest.dropWhile (· != 0x2F))
  | _ => isComponent [0x3A, 0x40, 0x2F] bs

/-- The scheme at the front, if there is one, and what follows its colon. -/
def scheme? (bs : Bytes) : Option (Bytes × Bytes) :=
  match bs with
  | b :: _ =>
    if (Char.ofNat b.toNat).isAlpha then
      match bs.dropWhile Http.Uri.isSchemeByte with
      | 0x3A :: rest => some (bs.takeWhile Http.Uri.isSchemeByte, rest)
      | _ => none
    else none
  | [] => none

/-- Whether bytes are a reference.  The first segment of a relative one has no colon. -/
def isStrict (bs : Bytes) : Bool :=
  let front := bs.takeWhile (· != 0x23)
  let fragment := (bs.dropWhile (· != 0x23)).drop 1
  let hierarchy := front.takeWhile (· != 0x3F)
  let query := (front.dropWhile (· != 0x3F)).drop 1
  let extra : List UInt8 := [0x3A, 0x40, 0x2F, 0x3F]
  isComponent extra fragment && isComponent extra query
    && match scheme? hierarchy with
      | some (_, rest) => isHierarchy rest
      | none =>
        isHierarchy hierarchy
          && ((hierarchy.head? == some 0x2F)
            || !(hierarchy.takeWhile (· != 0x2F)).contains 0x3A)

/-- Whether a reference can be followed from an absolute `http` target: both are strict, and the
target it leads to can be requested. -/
def canFollow (base reference : Bytes) : Bool :=
  isStrict base && isStrict reference
    && match scheme? (reference.takeWhile fun b => b != 0x23 && b != 0x3F), reference with
      | some _, _ => (Http.Uri.parse reference).toBool
      | none, 0x2F :: 0x2F :: _ => (Http.Uri.parse (Utf8.ofText "http:" ++ reference)).toBool
      | none, _ => true

end AffinityGate.Url.Reference
