import Ledger.Decimal

/-!
Reading decimals from text.

The accepted text is an optional sign, digits with at most one point, and an optional
exponent after `e` or `E` that must fit in 32 signed bits. The exponent of the result is
the written exponent less the number of characters after the point. Each rejection names
its cause, and `ReadError.message` gives the wording.

The quoted form of an amount is read by `Decimal.ofQuoted`: the word `null` is zero, and
surrounding quotes are dropped only from a text longer than two bytes.
-/

namespace Ledger

namespace Decimal

/-- Why a text is not a decimal. Each cause carries the text it reports. -/
inductive ReadError where
  /-- The digits (the text before any exponent) are not a signed digit string. -/
  | notNumeric (mantissa : String)
  /-- The text before any exponent holds two points. -/
  | tooManyPoints (mantissa : String)
  /-- The exponent is not a signed digit string. -/
  | exponentNotNumeric (text : String)
  /-- The exponent, or the exponent less the fraction length, leaves 32 signed bits. -/
  | exponentTooLarge (text : String)
  deriving Repr, DecidableEq

/-- The wording of a rejection. -/
def ReadError.message : ReadError → String
  | .notNumeric m => "can't convert " ++ m ++ " to decimal"
  | .tooManyPoints m => "can't convert " ++ m ++ " to decimal: too many .s"
  | .exponentNotNumeric t => "can't convert " ++ t ++ " to decimal: exponent is not numeric"
  | .exponentTooLarge t => "can't convert " ++ t ++ " to decimal: fractional part too long"

/-- What reading a signed 32-bit integer gives. -/
inductive IntRead where
  | value (n : Int)
  | malformed
  | outOfRange
  deriving Repr, DecidableEq

/-- Accumulates unsigned digits left to right. The count stops with `outOfRange` as soon as
it passes `2 ^ 32 - 1`, before any later character is looked at. -/
def readUnsigned : Nat → List Char → IntRead
  | n, [] => .value n
  | n, c :: cs =>
    if c.isDigit then
      let n := n * 10 + (c.toNat - '0'.toNat)
      if n > 4294967295 then .outOfRange else readUnsigned n cs
    else .malformed

/-- A signed 32-bit integer: one optional sign and at least one digit. -/
def readInt32 (cs : List Char) : IntRead :=
  let (neg, digits) := match cs with
    | '+' :: r => (false, r)
    | '-' :: r => (true, r)
    | r => (false, r)
  if digits.isEmpty then .malformed
  else match readUnsigned 0 digits with
    | .value n =>
      if neg then (if n > 2147483648 then .outOfRange else .value (-(n : Int)))
      else if n ≥ 2147483648 then .outOfRange else .value n
    | r => r

/-- A signed digit string of any length, as an integer. -/
def readSignedDigits (cs : List Char) : Option Int :=
  let (neg, digits) := match cs with
    | '+' :: r => (false, r)
    | '-' :: r => (true, r)
    | r => (false, r)
  if digits.isEmpty || !digits.all Char.isDigit then none
  else
    let n := digits.foldl (fun acc c => acc * 10 + (c.toNat - '0'.toNat)) 0
    some (if neg then -(n : Int) else n)

/-- The text split at its first `e` or `E`. -/
def splitExponent (cs : List Char) : List Char × Option (List Char) :=
  match cs.findIdx? (fun c => c == 'e' || c == 'E') with
  | some i => (cs.take i, some (cs.drop (i + 1)))
  | none => (cs, none)

/-- Reads a decimal. The exponent is checked first, then the points, then the digits, then
the range of the final exponent. -/
def read (text : String) : Except ReadError Decimal := do
  let cs := text.toList
  let (mantissa, expText) := splitExponent cs
  let given ← match expText with
    | none => pure (0 : Int)
    | some e => match readInt32 e with
      | .value n => pure n
      | .malformed => throw (.exponentNotNumeric text)
      | .outOfRange => throw (.exponentTooLarge text)
  let m := String.ofList mantissa
  if (mantissa.filter (· == '.')).length > 1 then throw (.tooManyPoints m)
  let (whole, frac) := match mantissa.findIdx? (· == '.') with
    | some i => (mantissa.take i, mantissa.drop (i + 1))
    | none => (mantissa, [])
  let some coeff := readSignedDigits (whole ++ frac) | throw (.notNumeric m)
  let exp := given - frac.length
  if exp < -2147483648 || exp > 2147483647 then throw (.exponentTooLarge text)
  pure ⟨coeff, exp⟩

/-- Reads an amount from the raw text of a JSON value: `null` is zero, quotes around a text
longer than two bytes are dropped (escapes stay as written), and the rest is read by `read`.
A rejection is worded with the text that was read. -/
def ofQuoted (raw : String) : Except String Decimal :=
  if raw = "null" then .ok zero
  else
    let cs := raw.toList
    let inner :=
      if raw.utf8ByteSize > 2 && cs.head? = some '"' && cs.getLast? = some '"' then
        String.ofList ((cs.drop 1).dropLast)
      else raw
    match read inner with
    | .ok d => .ok d
    | .error e => .error ("error decoding string '" ++ inner ++ "': " ++ e.message)

end Decimal

end Ledger
