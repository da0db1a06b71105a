import AffinityGate.Text.Blank
import AffinityGate.Time.Duration

/-!
# Durations as text

A text is a sequence of numbers with units, such as `1h 30m` or `1.5s`; blanks may stand anywhere
but inside a unit.  A fraction has to come out exactly in the unit's resolution: nanoseconds below
an hour, seconds from an hour on.  All arithmetic stays within 64 bits.
-/

namespace AffinityGate.Duration

/-- Why a text is no duration; offsets count bytes. -/
inductive Fault
  | empty
  | badCharacter (offset : Nat)
  | numberExpected (offset : Nat)
  | unitMissing (value : Nat)
  | unknownUnit (name : String)
  | overflow
  deriving DecidableEq, Repr

/-- The wording of a fault. -/
def Fault.message : Fault → String
  | .empty => "value was empty"
  | .badCharacter n => "invalid character at " ++ toString n
  | .numberExpected n => "expected number at " ++ toString n
  | .unitMissing n =>
    "time unit needed, for example " ++ toString n ++ "sec or " ++ toString n ++ "ms"
  | .unknownUnit name =>
    "unknown time unit \"" ++ name ++ "\", supported units: ns, us/µs, ms, sec, min, hours, days, "
      ++ "weeks, months, years (and few variations)"
  | .overflow =>
    "number is too large or cannot be represented without a lack of precision "
      ++ "(values below 1ns are not supported)"

/-- The resolution of a unit. -/
inductive Scale
  | nanos (perUnit : Nat)
  | seconds (perUnit : Nat)
  deriving DecidableEq, Repr

/-- The size of a unit, and the resolution of its fractions. -/
structure TimeUnit where
  whole : Scale
  fraction : Option Scale
  deriving DecidableEq, Repr

/-- The units by their names. -/
def unit? (name : String) : Option TimeUnit :=
  let named (names : List String) : Bool := names.contains name
  if named ["nanos", "nsec", "ns"] then some ⟨.nanos 1, none⟩
  else if named ["usec", "us", "µs"] then some ⟨.nanos 1000, some (.nanos 1000)⟩
  else if named ["millis", "msec", "ms"] then some ⟨.nanos 1000000, some (.nanos 1000000)⟩
  else if named ["seconds", "second", "secs", "sec", "s"] then
    some ⟨.seconds 1, some (.nanos 1000000000)⟩
  else if named ["minutes", "minute", "min", "mins", "m"] then
    some ⟨.seconds 60, some (.nanos 60000000000)⟩
  else if named ["hours", "hour", "hrs", "hr", "h"] then
    some ⟨.seconds 3600, some (.seconds 3600)⟩
  else if named ["days", "day", "d"] then some ⟨.seconds 86400, some (.seconds 86400)⟩
  else if named ["weeks", "week", "wks", "wk", "w"] then
    some ⟨.seconds 604800, some (.seconds 604800)⟩
  else if named ["months", "month", "M"] then some ⟨.seconds 2630016, some (.seconds 2630016)⟩
  else if named ["years", "year", "yrs", "yr", "y"] then
    some ⟨.seconds 31557600, some (.seconds 31557600)⟩
  else none

/-- Numbers stay below this bound. -/
def wordBound : Nat := Nat.pow 2 64

/-- A number within the bound. -/
def word (n : Nat) : Except Fault Nat :=
  if n < wordBound then .ok n else .error .overflow

/-- `n / d` units of a scale as seconds and nanoseconds, exact and within the bound. -/
def scaled (scale : Scale) (n d : Nat) : Except Fault (Nat × Nat) := do
  let exact (m : Nat) : Except Fault Nat := do
    let m ← word m
    if m % d = 0 then return m / d else throw .overflow
  match scale with
  | .nanos k => return (0, ← exact (n * k))
  | .seconds k => return (← exact (n * k), 0)

/-- Adds seconds and nanoseconds within the bound. -/
def addWithin (d : Duration) (amount : Nat × Nat) : Except Fault Duration := do
  let nanos ← word (d.subNanos + amount.2)
  let seconds ← word (amount.1 + nanos / nanosPerSecond)
  let seconds ← word (d.seconds + seconds)
  return ofSeconds seconds (nanos % nanosPerSecond)

/-- A number with an optional fraction, numerator before denominator. -/
structure Quantity where
  whole : Nat
  fraction : Option (Nat × Nat)
  deriving DecidableEq, Repr

/-- Adds a quantity of the unit with the given name. -/
def addUnit (total : Duration) (q : Quantity) (name : List Char) : Except Fault Duration := do
  match unit? (String.ofList name) with
  | none =>
    if name.isEmpty then throw (.unitMissing q.whole)
    else throw (.unknownUnit (String.ofList name))
  | some u =>
    let total ← addWithin total (← scaled u.whole q.whole 1)
    match q.fraction, u.fraction with
    | none, _ => return total
    | some _, none => throw .overflow
    | some (n, d), some s => addWithin total (← scaled s n d)

/-- Characters of unit names. -/
def isUnitChar (c : Char) : Bool :=
  ('a' ≤ c && c ≤ 'z') || ('A' ≤ c && c ≤ 'Z') || c == 'µ'

/-- The value of a digit. -/
def digitValue (c : Char) : Nat :=
  c.toNat - 48

mutual

/-- Before a number; `start` is where the search for it began. -/
def readFirst (total : Duration) (start off : Nat) (first : Bool) :
    List Char → Except Fault Duration
  | [] => if first then .error .empty else .ok total
  | c :: cs =>
    if c.isDigit then readNumber total (digitValue c) (off + c.utf8Size) cs
    else if isBlank c then readFirst total start (off + c.utf8Size) first cs
    else .error (.numberExpected start)

/-- Inside the whole part of a number. -/
def readNumber (total : Duration) (n off : Nat) : List Char → Except Fault Duration
  | [] => addUnit total ⟨n, none⟩ []
  | c :: cs =>
    if c.isDigit then
      if n * 10 + digitValue c < wordBound then
        readNumber total (n * 10 + digitValue c) (off + c.utf8Size) cs
      else .error .overflow
    else if isBlank c then readNumber total n (off + c.utf8Size) cs
    else if isUnitChar c then readUnit total ⟨n, none⟩ [c] (off + c.utf8Size) cs
    else if c = '.' then readFraction total n 0 1 off (off + c.utf8Size) cs
    else .error (.badCharacter off)

/-- Inside the fraction of a number; `mark` is the offset that a fault reports. -/
def readFraction (total : Duration) (n numerator denominator mark off : Nat) :
    List Char → Except Fault Duration
  | [] =>
    if denominator = 1 then .error (.badCharacter mark)
    else addUnit total ⟨n, some (numerator, denominator)⟩ []
  | c :: cs =>
    if c.isDigit then
      if denominator * 10 < wordBound ∧ numerator * 10 + digitValue c < wordBound then
        readFraction total n (numerator * 10 + digitValue c) (denominator * 10)
          (off + c.utf8Size) (off + c.utf8Size) cs
      else .error .overflow
    else if isBlank c then
      readFraction total n numerator denominator (off + c.utf8Size) (off + c.utf8Size) cs
    else if isUnitChar c ∧ denominator ≠ 1 then
      readUnit total ⟨n, some (numerator, denominator)⟩ [c] (off + c.utf8Size) cs
    else .error (.badCharacter mark)

/-- Inside the name of a unit, read so far in reverse. -/
def readUnit (total : Duration) (q : Quantity) (name : List Char) (off : Nat) :
    List Char → Except Fault Duration
  | [] => addUnit total q name.reverse
  | c :: cs =>
    if c.isDigit then
      match addUnit total q name.reverse with
      | .error e => .error e
      | .ok total => readNumber total (digitValue c) (off + c.utf8Size) cs
    else if isBlank c then
      match addUnit total q name.reverse with
      | .error e => .error e
      | .ok total => readFirst total (off + c.utf8Size) (off + c.utf8Size) false cs
    else if isUnitChar c then readUnit total q (c :: name) (off + c.utf8Size) cs
    else .error (.badCharacter off)

end

/-- Reads a duration. -/
def parse (s : String) : Except Fault Duration :=
  if s = "0" then .ok ⟨0⟩ else readFirst ⟨0⟩ 0 0 true s.toList

end AffinityGate.Duration
