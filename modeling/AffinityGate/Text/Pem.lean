import AffinityGate.Text.Base64

/-!
# PEM texts

A PEM text holds sections between lines `-----BEGIN LABEL-----` and `-----END LABEL-----`, each the
base 64 text of its contents.  Lines outside sections are skipped, and so are whole sections with
an unknown label, without a look at what they hold.  `sections` reads up to the first fault.
-/

namespace AffinityGate.Pem

/-- What is wrong with a PEM text. -/
inductive Fault
  | opening (line : Bytes)
  | unclosed (label : Bytes)
  | character (byte : UInt8)
  | earlyPadding
  | padding
  deriving DecidableEq, Repr

/-- A section. -/
structure Section where
  label : Bytes
  contents : Bytes
  deriving DecidableEq, Repr

/-- The label of certificates. -/
def certificate : Bytes := Utf8.ofText "CERTIFICATE"

/-- The label of private keys whose kind is written inside. -/
def privateKey : Bytes := Utf8.ofText "PRIVATE KEY"

/-- The labels of sections that are read. -/
def knownLabels : List Bytes :=
  [certificate, privateKey]
    ++ ["PUBLIC KEY", "RSA PRIVATE KEY", "EC PRIVATE KEY", "X509 CRL", "CERTIFICATE REQUEST"].map
      Utf8.ofText

/-- The lines of a text with their ends; a line ends after a carriage return or a line feed. -/
def lines : Bytes → List Bytes
  | [] => []
  | b :: bs =>
    if b = 0x0A ∨ b = 0x0D then [b] :: lines bs
    else
      match lines bs with
      | [] => [[b]]
      | l :: ls => (b :: l) :: ls

/-- The start of an opening line. -/
def opening : Bytes := Utf8.ofText "-----BEGIN "

/-- The start of the line that closes a section. -/
def closing (label : Bytes) : Bytes :=
  Utf8.ofText "-----END " ++ label ++ Utf8.ofText "-----"

/-- The label that an opening line gives: it ends in five hyphens, with blanks around them or
between them. -/
def label (line : Bytes) : Except Fault Bytes :=
  let body := line.drop opening.length
  let tail := line.reverse.takeWhile fun b => b == 0x2D || b == 0x20 || b == 0x0A || b == 0x0D
  if tail.count 0x2D = 5 then
    let upToHyphen := (tail.reverse.dropWhile (· != 0x2D)).length
    .ok (body.take (body.length - upToHyphen))
  else .error (.opening line)

/-- Whether a byte of a section's text does not count. -/
def isSpace (b : UInt8) : Bool :=
  b == 0x20 || b == 0x09 || b == 0x0A || b == 0x0D

/-- The value of a digit, or nothing for padding. -/
def digit (b : UInt8) : Except Fault (Option Nat) :=
  if b = 0x3D then .ok none
  else
    match Base64.value? Base64.standard (Char.ofNat b.toNat) with
    | some n => .ok (some n)
    | none => .error (.character b)

/-- The bytes of digits, four at a time.  The last group may be short, padded or not, and what it
has beyond whole bytes is dropped. -/
def bytes : List (Option Nat) → Except Fault Bytes
  | [] => .ok []
  | [some p, some q] | [some p, some q, none, none] => .ok [UInt8.ofNat (p * 4 + q / 16)]
  | [some p, some q, some r] | [some p, some q, some r, none] =>
    .ok [UInt8.ofNat (p * 4 + q / 16), UInt8.ofNat (q % 16 * 16 + r / 4)]
  | some p :: some q :: some r :: some s :: rest =>
    (bytes rest).map fun tail =>
      UInt8.ofNat (p * 4 + q / 16) :: UInt8.ofNat (q % 16 * 16 + r / 4)
        :: UInt8.ofNat (r % 4 * 64 + s) :: tail
  | ds => .error (if 4 < ds.length then .earlyPadding else .padding)

/-- The contents of a section's text. -/
def decode (text : Bytes) : Except Fault Bytes :=
  ((text.filter (!isSpace ·)).mapM digit).bind bytes

/-- Reads the sections of lines.  The open section has a label; `text` is what was found in it.  An
opening line inside a section changes the label alone. -/
def read (current : Option Bytes) (text : Bytes) : List Bytes → List Section × Option Fault
  | [] => ([], current.map .unclosed)
  | line :: rest =>
    if opening.isPrefixOf line then
      match label line with
      | .ok l => read (some l) text rest
      | .error f => ([], some f)
    else
      match current with
      | none => read none text rest
      | some l =>
        if (closing l).isPrefixOf line then
          if knownLabels.contains l then
            match decode text with
            | .ok contents =>
              let (found, fault) := read none [] rest
              (⟨l, contents⟩ :: found, fault)
            | .error f => ([], some f)
          else read none [] rest
        else read current (text ++ line) rest

/-- The sections before the first fault, and the fault. -/
def sections (text : Bytes) : List Section × Option Fault :=
  read none [] (lines text)

/-- All sections of a label; a fault anywhere leaves none. -/
def all (wanted : Bytes) (text : Bytes) : Except Fault (List Bytes) :=
  match sections text with
  | (_, some f) => .error f
  | (found, none) => .ok ((found.filter (·.label == wanted)).map (·.contents))

/-- The first section of a label, unless a fault comes before it. -/
def first (wanted : Bytes) (text : Bytes) : Except Fault (Option Bytes) :=
  let (found, fault) := sections text
  match found.find? (·.label == wanted), fault with
  | some s, _ => .ok (some s.contents)
  | none, some f => .error f
  | none, none => .ok none

end AffinityGate.Pem
