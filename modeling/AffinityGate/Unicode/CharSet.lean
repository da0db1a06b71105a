import AffinityGate.Net.Address

/-!
# Sets of characters

A set of characters is a list of ranges.  Tables are written as hexadecimal numbers in lines: for
each range the gap after the one before it, and its length.
-/

namespace AffinityGate.Unicode

/-- A hexadecimal number; a word that is none counts as zero. -/
def hexNumber (cs : List Char) : Nat :=
  (Net.number? Net.hexadecimal? 16 cs).getD 0

/-- The words of lines. -/
def words (lines : List String) : List (List Char) :=
  lines.flatMap fun l => pieces ' ' l.toList

/-- The hexadecimal numbers of lines. -/
def hexNumbers (lines : List String) : List Nat :=
  (words lines).map hexNumber

/-- A list in groups of `n`; a short rest makes a group of its own. -/
def groups (n : Nat) (xs : List Nat) : List (List Nat) :=
  (List.range ((xs.length + n - 1) / n)).map fun k => (xs.drop (k * n)).take n

/-- Code points with their targets, written as `gap:target+target`. -/
def targets (lines : List String) : List (Nat × List Nat) :=
  ((words lines).foldl
    (fun (s : Nat × List (Nat × List Nat)) w =>
      match pieces ':' w with
      | [gap, ts] =>
        let n := s.1 + hexNumber gap
        (n + 1, (n, (pieces '+' ts).map hexNumber) :: s.2)
      | _ => s)
    (0, [])).2.reverse

/-- Ranges of code points, both ends included. -/
structure CharSet where
  ranges : List (Nat × Nat)
  deriving DecidableEq, Repr

namespace CharSet

/-- The ranges of gaps and lengths, from a position on. -/
def ofGaps : Nat → List Nat → List (Nat × Nat)
  | p, gap :: length :: rest => (p + gap, p + gap + length - 1) :: ofGaps (p + gap + length) rest
  | _, _ => []

/-- The set of a table. -/
def ofLines (lines : List String) : CharSet :=
  ⟨ofGaps 0 (hexNumbers lines)⟩

/-- Whether a character is in a set. -/
def contains (s : CharSet) (c : Char) : Bool :=
  s.ranges.any fun r => decide (r.1 ≤ c.toNat) && decide (c.toNat ≤ r.2)

end CharSet
end AffinityGate.Unicode
