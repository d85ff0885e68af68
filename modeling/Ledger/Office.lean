import Ledger.Books
import Ledger.Event
import Ledger.Request
import Ledger.Posting

-- The office: the books with the identifiers issued and the events announced so far and the
-- default page size of listings. Every operation takes the office and a `Ctx` (tenant, user
-- and the current time) and gives an `Outcome`: a result or a failure, and the office after.

namespace Ledger

structure Ctx where
  tenant : String
  user : String
  now : Timestamp
  deriving Repr

namespace Office

-- Sessions draw identifiers from a counter, the `n`-th written as a fixed prefix and `n` in
-- twelve hexadecimal digits.
def hexPadded (width n : Nat) : String :=
  let ds := Nat.toDigits 16 n
  String.ofList (List.replicate (width - ds.length) '0' ++ ds)

def idNumbered (n : Nat) : String := "00000000-0000-4000-8000-" ++ hexPadded 12 n

def idIndexed (n : Int) : String :=
  "00000000-0000-4000-8000-" ++
    (if n < 0 then "-" ++ hexPadded 11 n.natAbs else hexPadded 12 n.toNat)

end Office

-- `ids` draws identifiers: the `n`-th drawn is `ids n`. Where an identifier must be fresh, the
-- generator is asked to be injective.
structure Office where
  books : Books := {}
  issued : Nat := 0
  events : List Event := []
  pageSize : Nat := 20
  ids : Nat → String := Office.idNumbered
  deriving Inhabited

abbrev Outcome (α : Type) := Except Fault α × Office

namespace Office

def freshId (o : Office) : String × Office :=
  (o.ids (o.issued + 1), { o with issued := o.issued + 1 })

def announce (o : Office) (c : Ctx) (kind : EventKind) (e : Entry) : Office :=
  let (id, o) := o.freshId
  { o with events := o.events ++
    [⟨id, kind, e.tenant, e.number, e.reversalOf, e.totalDebit, c.user, c.now⟩] }

end Office

end Ledger
