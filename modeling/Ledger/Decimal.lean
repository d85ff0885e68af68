/-!
Exact decimal numbers.

A `Decimal` is a coefficient times a power of ten and keeps the exponent it was written
with, so `1.50` and `1.5` are different spellings of one value. Sums, differences and
comparisons are exact. Two renderings exist: `render` writes every digit of the value with
no exponent and without trailing fractional zeros; `renderFixed n` writes exactly `n`
places after rounding halves away from zero.
-/

namespace Ledger

/-- A decimal number `coeff * 10 ^ exp`. -/
structure Decimal where
  coeff : Int
  exp : Int
  deriving Repr, Inhabited, DecidableEq

namespace Decimal

/-- Zero with exponent zero, the value of an absent amount. -/
def zero : Decimal := ⟨0, 0⟩

/-- The coefficient of `d` written at exponent `e`: exact when `e ≤ d.exp`, otherwise the
digits below `10 ^ e` are cut off toward zero. -/
def coeffAt (d : Decimal) (e : Int) : Int :=
  if e ≤ d.exp then d.coeff * Int.pow 10 (d.exp - e).toNat
  else d.coeff.tdiv (Int.pow 10 (e - d.exp).toNat)

/-- The negated value, same exponent. -/
def neg (d : Decimal) : Decimal := ⟨-d.coeff, d.exp⟩

/-- Exact sum, written at the smaller of the two exponents. -/
def add (a b : Decimal) : Decimal :=
  let e := min a.exp b.exp
  ⟨a.coeffAt e + b.coeffAt e, e⟩

/-- Exact difference, written at the smaller of the two exponents. -/
def sub (a b : Decimal) : Decimal :=
  let e := min a.exp b.exp
  ⟨a.coeffAt e - b.coeffAt e, e⟩

instance : Add Decimal := ⟨add⟩
instance : Sub Decimal := ⟨sub⟩
instance : Neg Decimal := ⟨neg⟩

/-- Order of values, whatever the exponents. -/
def cmp (a b : Decimal) : Ordering :=
  let e := min a.exp b.exp
  compare (a.coeffAt e) (b.coeffAt e)

/-- Equality of values, not of spellings. -/
def sameValue (a b : Decimal) : Bool := a.cmp b == .eq

/-- The value is zero. -/
def isZero (d : Decimal) : Bool := d.coeff == 0

/-- The value is below zero. -/
def isNeg (d : Decimal) : Bool := d.coeff < 0

/-- The value with every digit past `places` fractional digits cut off toward zero. -/
def truncate (d : Decimal) (places : Nat) : Decimal :=
  if d.exp < -(places : Int) then ⟨d.coeffAt (-(places : Int)), -(places : Int)⟩ else d

/-- The value needs no more than `places` fractional digits. -/
def fitsPlaces (d : Decimal) (places : Nat) : Bool := d.sameValue (d.truncate places)

/-- The value rounded to `places` fractional digits, halves away from zero. The value is
first cut to one more digit, so the rounding looks at that digit alone. -/
def round (d : Decimal) (places : Nat) : Decimal :=
  if d.exp = -(places : Int) then d
  else
    let t := d.coeffAt (-(places : Int) - 1)
    let t := if t < 0 then t - 5 else t + 5
    ⟨t.tdiv 10, -(places : Int)⟩

/-- Decimal digits of a natural number, most significant first. -/
def digitsOf (n : Nat) : List Char := Nat.toDigits 10 n

/-- Drops zeros at the end of a digit list. -/
def dropTrailingZeros (ds : List Char) : List Char :=
  (ds.reverse.dropWhile (· == '0')).reverse

/-- Positional text of the value with no exponent. With `trim`, zeros at the end of the
fraction and a then empty fraction are left out; a minus sign marks negative values. -/
def renderWith (trim : Bool) (d : Decimal) : String :=
  let sign := if d.coeff < 0 then "-" else ""
  if 0 ≤ d.exp then
    sign ++ String.ofList (digitsOf (d.coeff.natAbs * Nat.pow 10 d.exp.toNat))
  else
    let k := (-d.exp).toNat
    let ds := digitsOf d.coeff.natAbs
    let (whole, frac) :=
      if k < ds.length then (ds.take (ds.length - k), ds.drop (ds.length - k))
      else (['0'], List.replicate (k - ds.length) '0' ++ ds)
    let frac := if trim then dropTrailingZeros frac else frac
    let body := if frac.isEmpty then whole else whole ++ '.' :: frac
    sign ++ String.ofList body

/-- Every digit of the value, no exponent, no trailing fractional zeros: `1.50` is `1.5`,
`1e2` is `100`. -/
def render (d : Decimal) : String := renderWith true d

/-- Exactly `places` fractional digits after rounding halves away from zero: `99.999` at two
places is `100.00`, and a value that rounds to zero carries no sign. -/
def renderFixed (d : Decimal) (places : Nat) : String := renderWith false (d.round places)

end Decimal

end Ledger
