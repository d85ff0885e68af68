import Ledger.Decimal
import Ledger.Time

/-!
Ledger events: one is announced for every successful posting and every successful
reversal, after the change is stored. A reversal's event describes the compensating entry.
-/

namespace Ledger

/-- What an event announces. -/
inductive EventKind where
  | posted
  | reversed
  deriving Repr, DecidableEq

/-- The name of an event kind. -/
def EventKind.name : EventKind → String
  | .posted => "JOURNAL_ENTRY_POSTED"
  | .reversed => "JOURNAL_ENTRY_REVERSED"

/-- An announced change of the ledger. -/
structure Event where
  id : String
  kind : EventKind
  tenant : String
  number : String
  reversalOf : String
  total : Decimal
  actor : String
  occurredAt : Timestamp
  deriving Repr

end Ledger
