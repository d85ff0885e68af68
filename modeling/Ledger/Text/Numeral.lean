/-!
Reading settings and parameter values: truth values and integers.

A truth value is one of the usual spellings of true or false. An integer may carry a sign,
a base prefix (`0b`, `0o`, `0x`, or a bare leading `0` for octal) and underscores between
digits, and must fit in 64 signed bits. A trailing run of zeros after a decimal point is
dropped first, so `12.00` reads as `12`; any other text is not an integer.

A plain decimal integer (`readDecimal`) is an optional sign and digits only, within 64
signed bits; it is refused as malformed or as out of range, whichever the digits meet
first when read from the left.
-/

namespace Ledger

namespace Numeral

/-- The truth value a spelling names. -/
def readBool (s : String) : Option Bool :=
  if ["1", "t", "T", "TRUE", "true", "True"].contains s then some true
  else if ["0", "f", "F", "FALSE", "false", "False"].contains s then some false
  else none

/-- The value of a digit in bases up to 36; 36 for anything else. -/
def digitOf (c : Char) : Nat :=
  let l := c.toLower
  if c.isDigit then c.toNat - '0'.toNat
  else if 'a' ≤ l && l ≤ 'z' then l.toNat - 'a'.toNat + 10
  else 36

/-- Drops a decimal point followed only by zeros (at least one) from the end. -/
def dropZeroFraction (s : String) : String :=
  let rec go (seenZero : Bool) : List Char → String
    | [] => s
    | '.' :: rest => if seenZero then String.ofList rest.reverse else go seenZero rest
    | '0' :: rest => go true rest
    | _ :: _ => s
  go false s.toList.reverse

/-- One step of the underscore check: what was last seen (a digit or prefix, an
underscore, or something else), or `none` once an underscore is misplaced. -/
def underscoreStep (hex : Bool) : Option Char → Char → Option Char
  | none, _ => none
  | some saw, c =>
    if c.isDigit || (hex && 'a' ≤ c.toLower && c.toLower ≤ 'f') then some '0'
    else if c == '_' then (if saw == '0' then some '_' else none)
    else if saw == '_' then none
    else some '!'

/-- Underscores stand only between digits, or between a base prefix and a digit. -/
def underscoresPlaced (cs : List Char) : Bool :=
  let body := match cs with
    | '+' :: r => r
    | '-' :: r => r
    | r => r
  let (hex, start, rest) := match body with
    | '0' :: p :: r =>
      if p.toLower == 'b' || p.toLower == 'o' || p.toLower == 'x' then (p.toLower == 'x', '0', r)
      else (false, '^', body)
    | _ => (false, '^', body)
  match rest.foldl (underscoreStep hex) (some start) with
  | some saw => saw != '_'
  | none => false

/-- A signed 64-bit integer with an optional base prefix and underscores. -/
def readPrefixed (s : String) : Option Int :=
  let cs := s.toList
  let (neg, body) := match cs with
    | '+' :: r => (false, r)
    | '-' :: r => (true, r)
    | r => (false, r)
  if body.isEmpty then none
  else
    let (base, digits) : Nat × List Char := match body with
      | '0' :: p :: r@(_ :: _) =>
        if p.toLower == 'b' then (2, r)
        else if p.toLower == 'o' then (8, r)
        else if p.toLower == 'x' then (16, r)
        else (8, p :: r)
      | '0' :: r => (8, r)
      | r => (10, r)
    let ds := digits.filter (· != '_')
    if !ds.all (fun c => digitOf c < base) then none
    else if digits.contains '_' && !underscoresPlaced body then none
    else
      let n := ds.foldl (fun acc c => acc * base + digitOf c) 0
      if neg then (if n ≤ Nat.pow 2 63 then some (-(n : Int)) else none)
      else if n < Nat.pow 2 63 then some n else none

/-- An integer setting: zero when the text is not an integer. -/
def readInt (s : String) : Int := (readPrefixed (dropZeroFraction s)).getD 0

/-- Why a text is not a plain decimal integer. -/
inductive NumberProblem where
  | malformed
  | outOfRange
  deriving Repr, DecidableEq

/-- A signed 64-bit decimal integer. Reading from the left, a value that no longer fits in
64 unsigned bits is out of range even if a bad character follows; otherwise a bad
character or no digit at all is malformed, and a value past the signed range is out of
range. -/
def readDecimal (s : String) : Except NumberProblem Int :=
  let (neg, body) := match s.toList with
    | '+' :: r => (false, r)
    | '-' :: r => (true, r)
    | r => (false, r)
  let digits := body.takeWhile Char.isDigit
  let n := digits.foldl (fun acc c => acc * 10 + (c.toNat - '0'.toNat)) 0
  if n ≥ Nat.pow 2 64 then .error .outOfRange
  else if body.isEmpty || digits.length < body.length then .error .malformed
  else if neg then (if n ≤ Nat.pow 2 63 then .ok (-(n : Int)) else .error .outOfRange)
  else if n < Nat.pow 2 63 then .ok n else .error .outOfRange

end Numeral

end Ledger
