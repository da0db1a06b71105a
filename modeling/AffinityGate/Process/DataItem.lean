import AffinityGate.Digest.Sha256
import AffinityGate.Process.Id
import AffinityGate.Text.Base64

/-!
# Data items

A data item starts with its signature type in two little-endian bytes, the signature, the public
key of its signer, and an optional target of 32 bytes behind a presence flag.  What follows these
fields is never read.  `write` and `read?` are the two directions.
-/

namespace AffinityGate

/-- The leading fields of a data item. -/
structure DataItem where
  signatureType : Nat
  signature : Bytes
  owner : Bytes
  target : Option Bytes
  deriving DecidableEq, Repr

namespace DataItem

/-- The length of a target. -/
def targetLength : Nat := 32

/-- The lengths of signature and public key, by signature type. -/
def keyLengths? : Nat → Option (Nat × Nat)
  | 1 => some (512, 512)
  | 2 => some (64, 32)
  | 3 => some (65, 65)
  | 4 => some (64, 32)
  | _ => none

/-- The first `n` bytes and the rest, if there are that many. -/
def split? (n : Nat) (bs : Bytes) : Option (Bytes × Bytes) :=
  if n ≤ bs.length then some (bs.take n, bs.drop n) else none

/-- The flag and the target behind it. -/
def readTarget? : Bytes → Option (Option Bytes)
  | 0 :: _ => some none
  | 1 :: rest => (split? targetLength rest).map fun r => some r.1
  | _ => none

/-- The leading fields of a byte string. -/
def read? (bs : Bytes) : Option DataItem :=
  match bs with
  | low :: high :: rest =>
    let kind := low.toNat + 256 * high.toNat
    match keyLengths? kind with
    | none => none
    | some (signatureLength, ownerLength) =>
      match split? signatureLength rest with
      | none => none
      | some (signature, rest) =>
        match split? ownerLength rest with
        | none => none
        | some (owner, rest) =>
          (readTarget? rest).map fun target => ⟨kind, signature, owner, target⟩
  | _ => none

/-- The flag and the target as bytes. -/
def writeTarget : Option Bytes → Bytes
  | none => [0]
  | some t => 1 :: t

/-- The leading fields as bytes. -/
def write (d : DataItem) : Bytes :=
  [UInt8.ofNat (d.signatureType % 256), UInt8.ofNat (d.signatureType / 256)]
    ++ d.signature ++ d.owner ++ writeTarget d.target

/-- The digest of a byte string as URL-safe text. -/
def digestText (bs : Bytes) : String :=
  String.ofList (Base64.encode (Digest.sha256 bs))

/-- The id of the item: the digest of its signature. -/
def id (d : DataItem) : String :=
  digestText d.signature

/-- The address of the signer: the digest of the public key. -/
def ownerAddress (d : DataItem) : String :=
  digestText d.owner

/-- An item without a target starts a process. -/
def isSpawn (d : DataItem) : Bool :=
  d.target.isNone

/-- A message names its process as target; a spawn becomes the process itself. -/
def processId? (d : DataItem) : Option ProcessId :=
  match d.target with
  | some t => ProcessId.ofText? (String.ofList (Base64.encode t))
  | none => ProcessId.ofText? d.id

end DataItem
end AffinityGate
