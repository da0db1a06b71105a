/-!
# Durations

A duration is a whole number of nanoseconds.  Timers run on a clock of whole milliseconds, so a
duration is waited for in milliseconds rounded up.
-/

namespace AffinityGate

/-- A span of time. -/
structure Duration where
  nanos : Nat
  deriving DecidableEq, Repr

namespace Duration

/-- Nanoseconds in a second. -/
def nanosPerSecond : Nat := 1000000000

/-- Nanoseconds in a millisecond. -/
def nanosPerMilli : Nat := 1000000

/-- A number of seconds and further nanoseconds. -/
def ofSeconds (seconds : Nat) (nanos : Nat) : Duration :=
  ⟨seconds * nanosPerSecond + nanos⟩

/-- A number of milliseconds. -/
def ofMillis (n : Nat) : Duration :=
  ⟨n * nanosPerMilli⟩

/-- The whole seconds. -/
def seconds (d : Duration) : Nat :=
  d.nanos / nanosPerSecond

/-- The nanoseconds beyond the whole seconds. -/
def subNanos (d : Duration) : Nat :=
  d.nanos % nanosPerSecond

/-- The empty duration. -/
def isZero (d : Duration) : Bool :=
  d.nanos == 0

/-- Milliseconds, rounded down. -/
def millis (d : Duration) : Nat :=
  d.nanos / nanosPerMilli

/-- Milliseconds that a timer waits: rounded up. -/
def timerMillis (d : Duration) : Nat :=
  (d.nanos + (nanosPerMilli - 1)) / nanosPerMilli

theorem timerMillis_ofMillis (n : Nat) : (ofMillis n).timerMillis = n := by
  simp only [timerMillis, ofMillis, nanosPerMilli]
  omega

/-- When a timer set to the duration goes off: the duration in whole milliseconds, rounded up. -/
def roundedUp (d : Duration) : Duration :=
  ofMillis d.timerMillis

theorem roundedUp_ofMillis (n : Nat) : (ofMillis n).roundedUp = ofMillis n := by
  rw [roundedUp, timerMillis_ofMillis]

theorem millis_roundedUp (d : Duration) : d.roundedUp.millis = d.timerMillis := by
  simp [millis, roundedUp, ofMillis, nanosPerMilli]

/-- What takes whole milliseconds is done in time exactly if it takes no more than the timer. -/
theorem ofMillis_le_roundedUp_iff {d : Duration} {n : Nat} :
    (ofMillis n).nanos ≤ d.roundedUp.nanos ↔ n ≤ d.timerMillis := by
  simp only [roundedUp, ofMillis, nanosPerMilli]
  omega

/-- The parts of a duration that are written, the largest first; long units have plurals. -/
def parts (d : Duration) : List (Nat × String) :=
  let s := d.seconds
  let n := d.subNanos
  let inYear := s % 31557600
  let inMonth := inYear % 2630016
  let inDay := inMonth % 86400
  let plural (k : Nat) (name : String) := (k, if k = 1 then name else name ++ "s")
  [plural (s / 31557600) "year", plural (inYear / 2630016) "month", plural (inMonth / 86400) "day",
   (inDay / 3600, "h"), (inDay % 3600 / 60, "m"), (inDay % 60, "s"),
   (n / 1000000, "ms"), (n / 1000 % 1000, "us"), (n % 1000, "ns")]

/-- The duration in words: its non-zero parts, or `0s`. -/
def text (d : Duration) : String :=
  if d.isZero then "0s"
  else " ".intercalate ((d.parts.filter (·.1 != 0)).map fun p => toString p.1 ++ p.2)

/-- A whole part and a fraction of `digits` places without its final zeros. -/
def decimalText (whole fraction digits : Nat) : String :=
  let ds := (Nat.toDigits 10 fraction)
  let padded := List.replicate (digits - ds.length) '0' ++ ds
  let kept := (padded.reverse.dropWhile (· == '0')).reverse
  if fraction = 0 then toString whole else toString whole ++ "." ++ String.ofList kept

/-- The duration as a decimal number of its largest unit from seconds down. -/
def decimal (d : Duration) : String :=
  if nanosPerSecond ≤ d.nanos then decimalText d.seconds d.subNanos 9 ++ "s"
  else if 1000000 ≤ d.nanos then decimalText (d.nanos / 1000000) (d.nanos % 1000000) 6 ++ "ms"
  else if 1000 ≤ d.nanos then decimalText (d.nanos / 1000) (d.nanos % 1000) 3 ++ "µs"
  else toString d.nanos ++ "ns"

end Duration
end AffinityGate
