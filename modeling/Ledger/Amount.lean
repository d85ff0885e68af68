import Ledger.Decimal

/-!
Money amounts.

Ledger amounts are decimals with at most two fractional digits. `Amount.check` accepts a
non-negative amount of that scale and otherwise says which rule failed, naming the field;
`Amount.format` writes an amount with exactly two places.
-/

namespace Ledger

namespace Amount

/-- Fractional digits an amount may carry. -/
def scale : Nat := 2

/-- Why an amount is refused. -/
inductive Problem where
  | negative (field : String) (value : Decimal)
  | tooPrecise (field : String) (value : Decimal)
  deriving Repr, DecidableEq

/-- The wording of a refusal, with the amount written in full. -/
def Problem.message : Problem → String
  | .negative f v => f ++ " must not be negative, got " ++ v.render
  | .tooPrecise f v => f ++ " has more than " ++ toString scale ++ " decimal places: " ++ v.render

/-- Accepts a non-negative amount with at most `scale` fractional digits. -/
def check (field : String) (d : Decimal) : Except Problem Unit :=
  if d.isNeg then .error (.negative field d)
  else if !d.fitsPlaces scale then .error (.tooPrecise field d)
  else .ok ()

/-- Two places, halves rounded away from zero. -/
def format (d : Decimal) : String := d.renderFixed scale

end Amount

end Ledger
