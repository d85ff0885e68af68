/-!
Timestamps.

A `Timestamp` is a civil date and time of day with nanoseconds and a fixed offset from UTC
in seconds. Two timestamps are compared by the instant they denote (`epochNanos`), so the
same instant written with two offsets is neither before nor after itself. `render` writes
the RFC 3339 text: four-digit year, fractional seconds only when not zero and without
trailing zeros, and `Z` for a zero offset, else `+hh:mm` or `-hh:mm`. Only a time with a year
from 0 to 9999 and an offset under a day is `writable` as a JSON time.
-/

namespace Ledger

/-- A civil date and time of day in a fixed offset east of UTC. -/
structure Timestamp where
  year : Int
  month : Nat
  day : Nat
  hour : Nat
  minute : Nat
  second : Nat
  nanos : Nat
  /-- Seconds east of UTC. -/
  offset : Int
  deriving Repr, Inhabited, DecidableEq

namespace Timestamp

/-- Leap years of the proleptic Gregorian calendar. -/
def isLeap (y : Int) : Bool := y % 4 == 0 && (y % 100 != 0 || y % 400 == 0)

/-- Days in a month of a year. -/
def daysIn (month : Nat) (year : Int) : Nat :=
  match month with
  | 2 => if isLeap year then 29 else 28
  | 4 | 6 | 9 | 11 => 30
  | _ => 31

/-- Days from 1970-01-01 to a civil date (negative before it). -/
def daysFromCivil (y : Int) (m d : Nat) : Int :=
  let y := if m ≤ 2 then y - 1 else y
  let era := y / 400
  let yoe := y - era * 400
  let mp : Int := if m > 2 then m - 3 else m + 9
  let doy := (153 * mp + 2) / 5 + d - 1
  let doe := yoe * 365 + yoe / 4 - yoe / 100 + doy
  era * 146097 + doe - 719468

/-- The civil date of a day counted from 1970-01-01. -/
def civilFromDays (z : Int) : Int × Nat × Nat :=
  let z := z + 719468
  let era := z / 146097
  let doe := z - era * 146097
  let yoe := (doe - doe / 1460 + doe / 36524 - doe / 146096) / 365
  let y := yoe + era * 400
  let doy := doe - (365 * yoe + yoe / 4 - yoe / 100)
  let mp := (5 * doy + 2) / 153
  let d := doy - (153 * mp + 2) / 5 + 1
  let m := if mp < 10 then mp + 3 else mp - 9
  (if m ≤ 2 then y + 1 else y, m.toNat, d.toNat)

/-- Seconds since 1970-01-01T00:00:00Z of the instant, ignoring the nanoseconds. -/
def epochSeconds (t : Timestamp) : Int :=
  daysFromCivil t.year t.month t.day * 86400 + t.hour * 3600 + t.minute * 60 + t.second - t.offset

/-- Nanoseconds since 1970-01-01T00:00:00Z of the instant. -/
def epochNanos (t : Timestamp) : Int := t.epochSeconds * 1000000000 + t.nanos

/-- The first instant of year one in UTC, which stands for "no time given". -/
def zero : Timestamp := ⟨1, 1, 1, 0, 0, 0, 0, 0⟩

/-- The instant is that of `zero`, whatever the offset. -/
def isZero (t : Timestamp) : Bool := t.epochNanos == zero.epochNanos

/-- The first instant comes strictly before the second. -/
def before (a b : Timestamp) : Bool := a.epochNanos < b.epochNanos

/-- Both denote the same instant. -/
def sameInstant (a b : Timestamp) : Bool := a.epochNanos == b.epochNanos

/-- The same instant written in UTC. -/
def toUTC (t : Timestamp) : Timestamp :=
  let s := t.epochSeconds
  let days := s / 86400
  let secs := (s - days * 86400).toNat
  let (y, m, d) := civilFromDays days
  ⟨y, m, d, secs / 3600, secs / 60 % 60, secs % 60, t.nanos, 0⟩

/-- Decimal digits of `n`, padded with zeros on the left to `width`. -/
def pad (width n : Nat) : String :=
  let ds := Nat.toDigits 10 n
  String.ofList (List.replicate (width - ds.length) '0' ++ ds)

/-- The year with at least four digits, a minus sign before negative years. -/
def renderYear (y : Int) : String :=
  if y < 0 then "-" ++ pad 4 y.natAbs else pad 4 y.toNat

/-- Fractional seconds: nothing for zero, else a point and the nine digits without
trailing zeros. -/
def renderNanos (n : Nat) : String :=
  if n = 0 then ""
  else
    let ds := (Nat.toDigits 10 n)
    let ds := List.replicate (9 - ds.length) '0' ++ ds
    "." ++ String.ofList (ds.reverse.dropWhile (· == '0')).reverse

/-- The offset: `Z` for zero, else a sign and hours and minutes. -/
def renderOffset (off : Int) : String :=
  if off = 0 then "Z"
  else
    let minutes := off.tdiv 60
    let sign := if minutes < 0 then "-" else "+"
    let m := minutes.natAbs
    sign ++ pad 2 (m / 60) ++ ":" ++ pad 2 (m % 60)

/-- RFC 3339 text with fractional seconds when present. -/
def render (t : Timestamp) : String :=
  renderYear t.year ++ "-" ++ pad 2 t.month ++ "-" ++ pad 2 t.day ++ "T" ++
    pad 2 t.hour ++ ":" ++ pad 2 t.minute ++ ":" ++ pad 2 t.second ++
    renderNanos t.nanos ++ renderOffset t.offset

/-- Whether the RFC 3339 text is a valid JSON time: the year has four digits and no sign (0 to
9999), and the offset is less than a day. -/
def writable (t : Timestamp) : Bool :=
  0 ≤ t.year && t.year ≤ 9999 && t.offset.natAbs / 3600 < 24

end Timestamp

end Ledger
