import AffinityGate.Number.Shortest

/-!
# Texts of floating-point numbers

Both texts show the fewest digits that read back.  `positional` never uses an exponent; `scientific`
uses one outside the range from `1e-5` to below `1e16`.
-/

namespace AffinityGate.FloatText

/-- What a double is. -/
inductive Class
  | nan
  | infinite (negative : Bool)
  | zero (negative : Bool)
  | finite (negative : Bool) (d : Shortest.Decimal)
  deriving DecidableEq, Repr

/-- What the bits of a double are. -/
def classify (x : Float) : Class :=
  let bits := x.toBits.toNat
  let negative := Nat.pow 2 63 ≤ bits
  let magnitude := bits % Nat.pow 2 63
  if 2047 * Nat.pow 2 52 < magnitude then .nan
  else if magnitude = 2047 * Nat.pow 2 52 then .infinite negative
  else if magnitude = 0 then .zero negative
  else .finite negative (Shortest.digits magnitude)

/-- Digits without final zeros, and the exponent of the last one. -/
def normal : Nat → Nat → Int → Nat × Int
  | 0, d, k => (d, k)
  | n + 1, d, k => if d % 10 = 0 ∧ d ≠ 0 then normal n (d / 10) (k + 1) else (d, k)

/-- The sign of a text. -/
def sign (negative : Bool) : String :=
  if negative then "-" else ""

/-- A decimal written out; `point` puts `.0` behind a whole number. -/
def positionalDecimal (point : Bool) (d : Shortest.Decimal) : String :=
  let (n, k) := normal 400 d.digits d.exponent
  let ds := Nat.toDigits 10 n
  if 0 ≤ k then
    String.ofList (ds ++ List.replicate k.toNat '0') ++ if point then ".0" else ""
  else
    let places := (-k).toNat
    let padded := List.replicate (places + 1 - ds.length) '0' ++ ds
    String.ofList (padded.take (padded.length - places) ++ '.' :: padded.drop (padded.length - places))

/-- The text without an exponent. -/
def positional (point : Bool) (x : Float) : String :=
  match classify x with
  | .nan => "NaN"
  | .infinite s => sign s ++ "inf"
  | .zero s => sign s ++ if point then "0.0" else "0"
  | .finite s d => sign s ++ positionalDecimal point d

/-- The text with an exponent where the number is very large or very small. -/
def scientific (x : Float) : String :=
  match classify x with
  | .finite s d =>
    let (n, k) := normal 400 d.digits d.exponent
    let ds := Nat.toDigits 10 n
    let point : Int := ds.length + k
    if -5 < point ∧ point ≤ 16 then sign s ++ positionalDecimal true d
    else
      let mantissa := match ds with
        | [c] => String.ofList [c]
        | c :: cs => String.ofList (c :: '.' :: cs)
        | [] => ""
      sign s ++ mantissa ++ "e" ++ toString (point - 1)
  | _ => positional true x

end AffinityGate.FloatText
