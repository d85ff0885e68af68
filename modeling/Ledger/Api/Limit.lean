import Ledger.Text.Unicode
import Ledger.Text.Numeral

/-!
Request rate limits.

A rate is written `<limit>-<period>`: a decimal limit and one of the periods `S`, `M`, `H`
or `D` (any case). A meter counts requests per key; a request is over the limit when the
count, itself included, exceeds the limit. All requests of a session fall in one period.
-/

namespace Ledger

namespace Api

/-- The length of a counting period. -/
inductive Period where
  | second
  | minute
  | hour
  | day
  deriving Repr, DecidableEq

/-- A limit of requests per period. -/
structure Rate where
  limit : Int
  period : Period
  deriving Repr, DecidableEq

/-- Reads a written rate, or says what is wrong with it. -/
def Rate.parse (formatted : String) : Except String Rate :=
  match formatted.splitOn "-" with
  | [limit, period] =>
    let p := Unicode.toUpper period
    let per : Option Period :=
      if p == "S" then some .second
      else if p == "M" then some .minute
      else if p == "H" then some .hour
      else if p == "D" then some .day
      else none
    match per with
    | none => .error ("incorrect period '" ++ p ++ "'")
    | some per => match Numeral.readDecimal limit with
      | .ok n => .ok ⟨n, per⟩
      | .error _ => .error ("incorrect limit '" ++ limit ++ "'")
  | _ => .error ("incorrect format '" ++ formatted ++ "'")

/-- Requests counted per key under a rate. -/
structure Meter where
  rate : Rate
  counts : List (String × Nat) := []
  deriving Repr

/-- Counts a request under a key; gives whether the key is now over its limit. -/
def Meter.hit (m : Meter) (key : String) : Bool × Meter :=
  let n := ((m.counts.lookup key).getD 0) + 1
  let counts := (key, n) :: m.counts.filter (·.1 != key)
  (decide ((n : Int) > m.rate.limit), { m with counts })

end Api

end Ledger
