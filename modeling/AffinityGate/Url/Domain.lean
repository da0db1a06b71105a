import AffinityGate.Text.Percent
import AffinityGate.Unicode.Directions
import AffinityGate.Unicode.DomainMapping
import AffinityGate.Unicode.Joining
import AffinityGate.Unicode.Marks
import AffinityGate.Url.Punycode

/-!
# Domain names

A domain name is compared in a mapped form: small letters for capitals, plain characters for
variants, and nothing for ignored ones.  The labels of the mapped name are checked in their Unicode
form, which for a label that starts with `xn--` is what its Punycode stands for.
-/

namespace AffinityGate.Url.Domain

open Unicode

/-- ASCII characters that no domain may hold. -/
def isForbidden (c : Char) : Bool :=
  c.toNat ≤ 0x20 || c.toNat == 0x7F || "%#/:<>?@[\\]^|".toList.contains c

/-- What a character is mapped to, unless it is disallowed. -/
def target? (c : Char) : Option (List Char) :=
  match DomainStatus.of c with
  | .valid => some [c]
  | .ignored => some []
  | .mapped cs => some cs
  | .disallowed => none

/-- The mapped form of a name. -/
def map? (cs : List Char) : Option (List Char) :=
  (cs.mapM target?).map List.flatten

/-- Whether a name is ASCII. -/
def isAscii (cs : List Char) : Bool :=
  cs.all fun c => decide (c.toNat < 0x80)

/-- The start of labels in Punycode. -/
def puny : List Char := "xn--".toList

/-- The Unicode form of a label.  Punycode must stand for a label that needs it and that is mapped
to itself. -/
def unicode? (label : List Char) : Option (List Char) :=
  match stripStart? puny label with
  | none => some label
  | some code =>
    if !isAscii code then none
    else
      (Punycode.decode? code).filter fun cs =>
        !isAscii cs && cs.all fun c => DomainStatus.of c == .valid

/-- Whether a joiner may stand between two texts, the first given from its end.  Either joiner may
follow a sign that takes the vowel away; the non-joiner may also stand between letters that would
join. -/
def joinerFits (joins : Bool) (before after : List Char) : Bool :=
  let left := (before.dropWhile transparent.contains).head?
  let right := (after.dropWhile transparent.contains).head?
  before.head?.any viramas.contains
    || (!joins && left.any (fun c => joinsLeft.contains c || joinsBoth.contains c)
      && right.any (fun c => joinsRight.contains c || joinsBoth.contains c))

/-- Whether all joiners fit. -/
def joinersFit (before : List Char) : List Char → Bool
  | [] => true
  | c :: after =>
    (if c = '\u200C' then joinerFits false before after
      else if c = '\u200D' then joinerFits true before after
      else true)
    && joinersFit (c :: before) after

/-- Whether the Unicode form of a label is well formed. -/
def isLabel (label : List Char) : Bool :=
  !label.head?.any marks.contains && joinersFit [] label

/-- Classes that stand in labels of both directions. -/
def standsAnywhere (d : Direction) : Bool :=
  d ∈ [.europeanNumber, .numberSign, .numberSeparator, .numberEnd, .neutral, .boundaryNeutral,
    .nonspacing]

/-- Whether a label can stand in a name that is partly written from the right. -/
def fitsDirection (label : List Char) : Bool :=
  let ds := label.map Direction.of
  let last := (ds.reverse.dropWhile (· == .nonspacing)).head?
  match ds.head? with
  | none => true
  | some .left =>
    ds.all (fun d => d == .left || standsAnywhere d)
      && (last == some .left || last == some .europeanNumber)
  | some .right | some .arabicLetter =>
    ds.all (fun d => d == .right || d == .arabicLetter || d == .arabicNumber || standsAnywhere d)
      && last.any (fun d => d ∈ [.right, .arabicLetter, .europeanNumber, .arabicNumber])
      && !(ds.contains .europeanNumber && ds.contains .arabicNumber)
  | some _ => false

/-- Whether a label holds characters written from the right. -/
def runsFromRight (label : List Char) : Bool :=
  label.any fun c => Direction.of c ∈ [.right, .arabicLetter, .arabicNumber]

/-- Whether the Unicode forms of all labels are well formed, also together. -/
def areLabels (labels : List (List Char)) : Bool :=
  labels.all isLabel && (!labels.any runsFromRight || labels.all fitsDirection)

/-- The mapped form of a name given by its bytes, if it is a domain name. -/
def read? (bs : Bytes) : Option (List Char) :=
  match (Utf8.decode? bs).bind map? with
  | none => none
  | some name =>
    if name.any isForbidden then none
    else
      match (pieces '.' name).mapM unicode? with
      | none => none
      | some labels => if labels.all isAscii || areLabels labels then some name else none

end AffinityGate.Url.Domain
