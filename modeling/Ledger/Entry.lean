import Ledger.Decimal
import Ledger.Audit

/-!
Journal entries.

An entry is a dated set of lines, each a debit or a credit against one account. It is a
draft until it is posted; a posted entry may later be reversed by a compensating entry,
which is then linked both ways (`reversedBy` on the source, `reversalOf` on the
compensation). Within a tenant an entry is found by its number.
-/

namespace Ledger

/-- Where an entry stands in its life. -/
inductive EntryStatus where
  | draft
  | posted
  | reversed
  deriving Repr, Inhabited, DecidableEq

namespace EntryStatus

/-- The name of the status. -/
def name : EntryStatus → String
  | .draft => "DRAFT"
  | .posted => "POSTED"
  | .reversed => "REVERSED"

/-- The status with this exact name. -/
def ofName? : String → Option EntryStatus
  | "DRAFT" => some .draft
  | "POSTED" => some .posted
  | "REVERSED" => some .reversed
  | _ => none

end EntryStatus

/-- One line of an entry. -/
structure Line where
  /-- Position of the line, counted from one. -/
  number : Int
  code : String
  /-- Name of the account when the entry was posted, empty before. -/
  accountName : String
  debit : Decimal
  credit : Decimal
  description : String
  costCenter : String
  projectCode : String
  relatedRef : String
  deriving Repr, Inhabited, DecidableEq

namespace Line

/-- The line with its debit and credit exchanged. -/
def swap (l : Line) : Line := { l with debit := l.credit, credit := l.debit }

end Line

/-- A journal entry of a tenant. -/
structure Entry where
  id : String
  tenant : String
  number : String
  date : Timestamp
  voucher : String
  description : String
  reference : String
  status : EntryStatus
  totalDebit : Decimal
  totalCredit : Decimal
  postedBy : String
  postedAt : Option Timestamp
  /-- Number of the entry this one compensates, empty otherwise. -/
  reversalOf : String
  /-- Number of the entry that compensates this one, empty otherwise. -/
  reversedBy : String
  lines : List Line
  audit : Audit
  deriving Repr, Inhabited, DecidableEq

/-- The storage key of an entry number within a tenant. -/
def entryKey (tenant number : String) : String := "entry|" ++ tenant ++ "|" ++ number

namespace Entry

/-- The storage key of the entry. -/
def key (e : Entry) : String := entryKey e.tenant e.number

/-- The distinct account codes of the lines, in line order. -/
def codes (e : Entry) : List String :=
  e.lines.foldl (fun acc l => if acc.contains l.code then acc else acc ++ [l.code]) []

end Entry

end Ledger
