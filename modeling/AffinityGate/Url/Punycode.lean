import AffinityGate.Net.Address

/-!
# Punycode

A label of a domain name that is not ASCII is written as its ASCII characters, a hyphen, and
insertions: numbers of variable length in base 36, each of which says how far to go from the last
insertion in the order of code points and positions.
-/

namespace AffinityGate.Url.Punycode

/-- The value of a digit: letters first, then decimal digits. -/
def digit? (c : Char) : Option Nat :=
  let n := c.toNat
  if 0x61 ≤ n ∧ n ≤ 0x7A then some (n - 0x61)
  else if 0x41 ≤ n ∧ n ≤ 0x5A then some (n - 0x41)
  else (Net.decimal? c).map (· + 26)

/-- The digits below this one end a number; `k` counts 36 for each place. -/
def threshold (k bias : Nat) : Nat :=
  if k ≤ bias then 1 else if bias + 26 ≤ k then 26 else k - bias

/-- Scales a distance down, and 36 for each time it was divided. -/
def scale (delta k : Nat) : Nat × Nat :=
  if 455 < delta then scale (delta / 35) (k + 36) else (delta, k)
termination_by delta

/-- The bias after an insertion of a distance into a text that has then `size` characters. -/
def adapt (delta size : Nat) (isFirst : Bool) : Nat :=
  let d := if isFirst then delta / 700 else delta / 2
  let (e, k) := scale (d + d / size) 0
  k + 36 * e / (e + 38)

/-- Reads one number, added to `i`, and returns the rest. -/
def number? (bias : Nat) : List Char → Nat → Nat → Nat → Option (Nat × List Char)
  | [], _, _, _ => none
  | c :: rest, k, weight, i =>
    match digit? c with
    | none => none
    | some d =>
      let t := threshold k bias
      if d < t then some (i + d * weight, rest)
      else number? bias rest (k + 36) (weight * (36 - t)) (i + d * weight)

theorem length_of_number? {bias : Nat} {cs : List Char} {k weight i : Nat} {r : Nat × List Char}
    (h : number? bias cs k weight i = some r) : r.2.length < cs.length := by
  induction cs generalizing k weight i with
  | nil => simp [number?] at h
  | cons c rest ih =>
    rw [number?] at h
    split at h
    · simp at h
    · dsimp only at h
      split at h
      · cases h
        simp
      · have := ih h
        simp only [List.length_cons]
        omega

/-- The largest number that is worked with. -/
def limit : Nat := Nat.pow 2 32

/-- Makes the insertions: `n` is the last code point, `i` the place after the last insertion. -/
def insertions? (bias n i : Nat) (out : List Char) (cs : List Char) : Option (List Char) :=
  match cs with
  | [] => some out
  | c :: rest =>
    match h : number? bias (c :: rest) 36 1 i with
    | none => none
    | some (j, left) =>
      let size := out.length + 1
      let m := n + j / size
      if j < limit ∧ m.isValidChar then
        have : left.length < rest.length + 1 := length_of_number? h
        insertions? (adapt (j - i) size (i == 0)) m (j % size + 1)
          (out.insertIdx (j % size) (Char.ofNat m)) left
      else none
termination_by cs.length

/-- The text before the last hyphen, unless it comes first, and the text after it. -/
def split (cs : List Char) : List Char × List Char :=
  let tail := (cs.reverse.takeWhile (· != '-')).reverse
  let front := cs.take (cs.length - tail.length - 1)
  if front.isEmpty then ([], cs) else (front, tail)

/-- The label that a text stands for. -/
def decode? (cs : List Char) : Option (List Char) :=
  let (front, tail) := split cs
  insertions? 72 0x80 0 front tail

end AffinityGate.Url.Punycode
