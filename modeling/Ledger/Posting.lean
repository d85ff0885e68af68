import Ledger.Account
import Ledger.Entry
import Ledger.Fault

/-!
Posting rules.

A line moves an account's balance by its signed delta: debit less credit on a debit-normal
account, credit less debit on a credit-normal one. An entry is acceptable when it has at
least two lines, every line names an account, carries non-negative two-place amounts and is
one-sided (exactly one amount non-zero), and the debits sum to the credits. The trial
balance shows a balance in the debit or the credit column, by its sign and the account's
normal side, so both columns are never negative.
-/

namespace Ledger

/-- The change of an account's balance from a debit and a credit. -/
def signedDelta (side : Side) (debit credit : Decimal) : Decimal :=
  match side with
  | .debit => debit - credit
  | .credit => credit - debit

/-- Debit and credit columns of a balance: a debit-normal balance shows as debit when not
negative, a credit-normal one as credit; a negative balance moves to the other column. -/
def trialColumns (side : Side) (balance : Decimal) : Decimal × Decimal :=
  match side with
  | .debit => if balance.isNeg then (Decimal.zero, -balance) else (balance, Decimal.zero)
  | .credit => if balance.isNeg then (-balance, Decimal.zero) else (Decimal.zero, balance)

/-- Checks one line: an account code, two acceptable amounts, exactly one non-zero. -/
def checkLine (l : Line) : Except Fault Unit := do
  if l.code.isEmpty then throw (.line l.number .codeMissing)
  match Amount.check "debit amount" l.debit with
  | .error p => throw (.line l.number (.amount p))
  | .ok () => pure ()
  match Amount.check "credit amount" l.credit with
  | .error p => throw (.line l.number (.amount p))
  | .ok () => pure ()
  if l.debit.isZero == l.credit.isZero then throw (.line l.number .oneSided)

/-- Sum of a list of amounts from zero. -/
def sumAmounts (ds : List Decimal) : Decimal := ds.foldl (· + ·) Decimal.zero

/-- Checks a whole entry's lines and gives the debit and credit totals: at least two lines,
each line acceptable (the first bad line is reported), totals equal. -/
def checkBalance (lines : List Line) : Except Fault (Decimal × Decimal) := do
  if lines.length < 2 then throw (.tooFewLines lines.length)
  lines.forM checkLine
  let debit := sumAmounts (lines.map (·.debit))
  let credit := sumAmounts (lines.map (·.credit))
  if !debit.sameValue credit then throw (.unbalanced debit credit)
  pure (debit, credit)

end Ledger
