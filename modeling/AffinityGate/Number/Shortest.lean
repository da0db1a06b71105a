/-!
# Shortest decimal digits

A finite double is `m * 2^e` with a 53-bit significand.  Every decimal strictly between the
midpoints to its neighbours reads back as it, the midpoints too if `m` is even.  `digits?` finds the
fewest digits that read back, and of those the nearest decimal.
-/

namespace AffinityGate.Shortest

/-- A positive decimal: its digits as a number, and the power of ten of the last digit. -/
structure Decimal where
  digits : Nat
  exponent : Int
  deriving DecidableEq, Repr

/-- A positive double as significand and power of two. -/
structure Binary where
  m : Nat
  e : Int
  /-- Whether the next smaller double is only half as far as the next larger one. -/
  lowerIsCloser : Bool
  deriving DecidableEq, Repr

/-- The parts of the 64 bits of a positive finite double. -/
def ofBits (bits : Nat) : Binary :=
  let fraction : Nat := bits % Nat.pow 2 52
  let biased : Nat := bits / Nat.pow 2 52 % Nat.pow 2 11
  if biased = 0 then ⟨fraction, -1074, false⟩
  else ⟨Nat.pow 2 52 + fraction, (biased : Int) - 1075, fraction = 0 && 1 < biased⟩

/-- A scaled comparison: `a * 2^x` against `b * 10^y`, both sides multiplied by what makes them
whole. -/
def scaled (a : Nat) (x : Int) (b : Nat) (y : Int) : Nat × Nat :=
  let (a, b) := if 0 ≤ x then (a * Nat.pow 2 x.toNat, b) else (a, b * Nat.pow 2 (-x).toNat)
  if 0 ≤ y then (a, b * Nat.pow 10 y.toNat) else (a * Nat.pow 10 (-y).toNat, b)

/-- Whether the decimal `d * 10^k` reads back as the double. -/
def readsBack (v : Binary) (d : Nat) (k : Int) : Bool :=
  let even := v.m % 2 == 0
  let (low, d1) := scaled (if v.lowerIsCloser then 4 * v.m - 1 else 4 * v.m - 2) (v.e - 2) d k
  let (high, d2) := scaled (4 * v.m + 2) (v.e - 2) d k
  (low < d1 || (even && low == d1)) && (d2 < high || (even && d2 == high))

/-- The distance from `d * 10^k` to the double, on the scale that `k` fixes. -/
def distance (v : Binary) (d : Nat) (k : Int) : Nat :=
  let (a, b) := scaled v.m v.e d k
  if a ≤ b then b - a else a - b

/-- The multiples of `10^k` next to the double. -/
def neighbours (v : Binary) (k : Int) : Nat × Nat :=
  let (a, b) := scaled v.m v.e 1 k
  (a / b, a / b + 1)

/-- The nearest multiple of `10^k` that reads back, if one does. -/
def onGrid? (v : Binary) (k : Int) : Option Decimal :=
  let (low, high) := neighbours v k
  match readsBack v low k && low != 0, readsBack v high k with
  | true, true =>
    let dl := distance v low k
    let dh := distance v high k
    some ⟨if dl < dh || (dl == dh && low % 2 == 0) then low else high, k⟩
  | true, false => some ⟨low, k⟩
  | false, true => some ⟨high, k⟩
  | false, false => none

/-- The first grid with a hit, from coarse to fine. -/
def search (v : Binary) : Nat → Int → Decimal
  | 0, k => ⟨v.m, k⟩
  | n + 1, k =>
    match onGrid? v k with
    | some d => d
    | none => search v n (k - 1)

/-- The fewest digits of a positive finite double given by its bits. -/
def digits (bits : Nat) : Decimal :=
  let v := ofBits bits
  let magnitude : Int := (v.e + Nat.log2 v.m) * 30103 / 100000
  search v 25 (magnitude + 2)

end AffinityGate.Shortest
