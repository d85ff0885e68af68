import Ledger.Time

/-!
Audit stamps: who created a record and when, and who changed it last and when.
-/

namespace Ledger

/-- Creation and last-change stamps of a record. -/
structure Audit where
  createdAt : Timestamp
  createdBy : String
  updatedAt : Timestamp
  updatedBy : String
  deriving Repr, Inhabited, DecidableEq

namespace Audit

/-- Stamps of a record created by `user` at `now`: the last change is the creation. -/
def new (user : String) (now : Timestamp) : Audit := ⟨now, user, now, user⟩

/-- Records a change by `user` at `now`. -/
def touch (a : Audit) (user : String) (now : Timestamp) : Audit :=
  { a with updatedAt := now, updatedBy := user }

end Audit

end Ledger
