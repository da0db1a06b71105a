import AffinityGate.Net.Address

/-!
# Numbers written in decimal

Integers with an optional sign, and floating-point numbers with an optional point and exponent,
rounded to the nearest double.
-/

namespace AffinityGate.Decimal

/-- The value of digits. -/
def value (ds : List Nat) : Nat :=
  ds.foldl (fun n d => n * 10 + d) 0

/-- A sign at the front, and the rest. -/
def cutSign : List Char → Bool × List Char
  | '-' :: cs => (true, cs)
  | '+' :: cs => (false, cs)
  | cs => (false, cs)

/-- An integer with an optional sign. -/
def integer? (cs : List Char) : Option Int :=
  let (negative, digits) := cutSign cs
  (Net.number? Net.decimal? 10 digits).map fun n => if negative then -n else n

/-- Whether an integer fits a signed word. -/
def isSigned (n : Int) : Bool :=
  -(Nat.pow 2 63 : Int) ≤ n && n < (Nat.pow 2 63 : Int)

/-- A signed word. -/
def signed? (cs : List Char) : Option Int :=
  (integer? cs).filter isSigned

/-- An unsigned word; a plus sign is allowed. -/
def unsigned? (cs : List Char) : Option Nat :=
  let digits := match cs with
    | '+' :: rest => rest
    | _ => cs
  (Net.number? Net.decimal? 10 digits).filter (· < Nat.pow 2 64)

/-- The nearest double to `mantissa * 10 ^ exponent`. -/
def toFloat (mantissa : Nat) (exponent : Int) : Float :=
  let magnitude : Int := (Nat.toDigits 10 mantissa).length + exponent
  if mantissa = 0 ∨ magnitude < -400 then 0.0
  else if 400 < magnitude then 1.0 / 0.0
  else Float.ofScientific mantissa (exponent < 0) exponent.natAbs

/-- The digits at the front, and the rest. -/
def cutDigits (cs : List Char) : List Nat × List Char :=
  ((cs.takeWhile Char.isDigit).filterMap Net.decimal?, cs.dropWhile Char.isDigit)

/-- An exponent that ends the text, or nothing. -/
def exponent? (cs : List Char) : Option Int :=
  match cs with
  | [] => some 0
  | c :: rest => if c = 'e' ∨ c = 'E' then integer? rest else none

/-- A floating-point number without its sign. -/
def magnitude? (cs : List Char) : Option Float :=
  let name := String.ofList (cs.map Char.toLower)
  if name = "inf" ∨ name = "infinity" then some (1.0 / 0.0)
  else if name = "nan" then some (0.0 / 0.0)
  else
    let (whole, rest) := cutDigits cs
    let (fraction, rest) := match rest with
      | '.' :: r => cutDigits r
      | r => ([], r)
    if whole.isEmpty ∧ fraction.isEmpty then none
    else
      (exponent? rest).map fun e => toFloat (value (whole ++ fraction)) (e - fraction.length)

/-- A floating-point number: digits on at least one side of the point, or a name. -/
def float? (cs : List Char) : Option Float :=
  let (negative, rest) := cutSign cs
  (magnitude? rest).map fun x => if negative then -x else x

end AffinityGate.Decimal
