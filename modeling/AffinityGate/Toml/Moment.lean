import AffinityGate.Number.Decimal
import AffinityGate.Text.Pieces

/-!
# Moments in TOML texts

Dates, times of day, and both together with or without an offset.  A moment is kept as its
normal text: `T` between date and time, a capital `Z`, no final zeros in a fraction.
-/

namespace AffinityGate.Toml

/-- A number of exactly so many digits. -/
def fixed? (count : Nat) (cs : List Char) : Option Nat :=
  if cs.length = count then Net.number? Net.decimal? 10 cs else none

/-- The days of a month. -/
def daysIn (year month : Nat) : Nat :=
  if month = 2 then
    if (year % 4 = 0 ∧ year % 100 ≠ 0) ∨ year % 400 = 0 then 29 else 28
  else if month = 4 ∨ month = 6 ∨ month = 9 ∨ month = 11 then 30
  else 31

/-- A date. -/
def date? (cs : List Char) : Option String :=
  match pieces '-' cs with
  | [y, m, d] =>
    match fixed? 4 y, fixed? 2 m, fixed? 2 d with
    | some year, some month, some day =>
      if 1 ≤ month ∧ month ≤ 12 ∧ 1 ≤ day ∧ day ≤ daysIn year month then some (String.ofList cs)
      else none
    | _, _, _ => none
  | _ => none

/-- A fraction of a second without final zeros, cut to nanoseconds. -/
def fractionText (digits : List Char) : String :=
  let kept := ((digits.take 9).reverse.dropWhile (· == '0')).reverse
  "." ++ String.ofList (if kept.isEmpty then ['0'] else kept)

/-- Seconds with an optional fraction. -/
def seconds? (cs : List Char) : Option String :=
  match cutAt '.' cs with
  | none => ((fixed? 2 cs).filter (· ≤ 60)).map fun _ => String.ofList cs
  | some (whole, fraction) =>
    if fraction.isEmpty ∨ !fraction.all Char.isDigit then none
    else
      ((fixed? 2 whole).filter (· ≤ 60)).map fun _ => String.ofList whole ++ fractionText fraction

/-- A time of day; the seconds may be missing. -/
def time? (cs : List Char) : Option String :=
  let clock? (h m : List Char) : Option String :=
    match fixed? 2 h, fixed? 2 m with
    | some hour, some minute =>
      if hour ≤ 23 ∧ minute ≤ 59 then some (String.ofList (h ++ ':' :: m)) else none
    | _, _ => none
  match pieces ':' cs with
  | [h, m] => (clock? h m).map fun t => t ++ ":00"
  | [h, m, s] =>
    match clock? h m, seconds? s with
    | some t, some s => some (t ++ ":" ++ s)
    | _, _ => none
  | _ => none

/-- A time of day with an optional offset. -/
def offsetTime? (cs : List Char) : Option String :=
  match cs.getLast? with
  | some 'Z' | some 'z' => (time? cs.dropLast).map fun t => t ++ "Z"
  | _ =>
    let body := cs.takeWhile fun c => c != '+' && c != '-'
    match cs.drop body.length with
    | [] => time? cs
    | sign :: offset =>
      match time? body, pieces ':' offset with
      | some t, [h, m] =>
        match fixed? 2 h, fixed? 2 m with
        | some hour, some minute =>
          if hour ≤ 23 ∧ minute ≤ 59 then some (t ++ String.ofList (sign :: offset)) else none
        | _, _ => none
      | _, _ => none

/-- A moment of any kind, as its normal text. -/
def moment? (cs : List Char) : Option String :=
  let front := cs.take 10
  match cs.drop 10 with
  | [] => (date? cs).orElse fun _ => time? cs
  | c :: rest =>
    if c = 'T' ∨ c = 't' ∨ c = ' ' then
      match date? front, offsetTime? rest with
      | some d, some t => some (d ++ "T" ++ t)
      | _, _ => none
    else time? cs

end AffinityGate.Toml
