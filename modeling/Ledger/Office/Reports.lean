import Ledger.Office.Chart
import Ledger.Office.Journal

-- Reports and direct balance postings. The trial balance lists a tenant's active accounts by
-- code, each balance in its debit or credit column, with column totals. An account statement
-- lists the lines on an account of every entry that left draft, in the order of their posting
-- numbers, with the balance after each line. A direct posting moves balances in one ledger
-- transaction, without an entry.

namespace Ledger

structure TrialRow where
  code : String
  name : String
  type : AccountType
  side : Side
  level : Nat
  balance : Decimal
  debit : Decimal
  credit : Decimal
  deriving Repr

structure TrialBalance where
  rows : List TrialRow
  totalDebit : Decimal
  totalCredit : Decimal
  balanced : Bool
  deriving Repr

structure StatementLine where
  number : String
  date : Timestamp
  postedAt : Timestamp
  line : Int
  description : String
  debit : Decimal
  credit : Decimal
  running : Decimal
  deriving Repr

namespace Office

def trialBalance (b : Books) (tenant : String) : TrialBalance :=
  let rows := (activeAccounts b tenant).map fun a =>
    let (debit, credit) := trialColumns a.side a.balance
    { code := a.code, name := a.name, type := a.type, side := a.side, level := a.level,
      balance := a.balance, debit, credit : TrialRow }
  let totalDebit := sumAmounts (rows.map (·.debit))
  let totalCredit := sumAmounts (rows.map (·.credit))
  ⟨rows, totalDebit, totalCredit, totalDebit.sameValue totalCredit⟩

-- The tenant's entries that left draft, by posting number; a number naming no stored entry of the
-- tenant is passed over.
def postedEntries (b : Books) (tenant : String) : List Entry :=
  (sortBy (fun x y => decide (x.2 ≤ y.2)) b.postOrder).filterMap fun p =>
    (b.entry? p.1).filter (·.tenant == tenant)

def runLines (side : Side) : Decimal → List (Entry × Line) → List StatementLine
  | _, [] => []
  | start, (e, l) :: rest =>
    let running := start + signedDelta side l.debit l.credit
    { number := e.number, date := e.date, postedAt := e.postedAt.getD Timestamp.zero,
      line := l.number, description := l.description, debit := l.debit, credit := l.credit,
      running } :: runLines side running rest

def closingBalance (opening : Decimal) (lines : List StatementLine) : Decimal :=
  match lines.getLast? with
  | some l => l.running
  | none => opening

def statement (b : Books) (tenant : String) (code : Ref) :
    Except Fault (Account × List StatementLine) := do
  let a ← accountByCode b tenant code
  let lines := (postedEntries b tenant).flatMap fun e =>
    (e.lines.filter (·.code == a.code)).map fun l => (e, l)
  pure (a, runLines a.side a.opening lines)

structure Movement where
  code : String
  debit : Decimal
  credit : Decimal
  deriving Repr

def applyMovements (held : Held) (c : Ctx) (tenant : String) :
    List Movement → Except Fault (List Decimal × List (String × Decimal))
  | [] => .ok ([], [])
  | m :: rest => do
    let (balance, held) ← applyPosting held m.code m.debit m.credit c.user c.now
    let (balances, writes) ← applyMovements held c tenant rest
    pure (balance :: balances, (accountKey tenant m.code, balance) :: writes)

def moveBalances (c : Ctx) : List Movement → Held → TxBody (List Decimal)
  | [], _ => pure []
  | m :: rest, held => do
    let (balance, held) ← postTo held m.code m.debit m.credit c.user c.now
    let balances ← moveBalances c rest held
    pure (balance :: balances)

-- Takes the accounts `lock` (by default the movements' codes), then moves their balances.
def directBody (c : Ctx) (moves : List Movement) (lock : Option (List String)) :
    TxBody (List Decimal) := do
  let held ← holdLocked c.tenant (lock.getD (moves.map (·.code)))
  moveBalances c moves held

def directPost (o : Office) (c : Ctx) (moves : List Movement) (lock : Option (List String)) :
    Outcome (List Decimal) :=
  let (r, books) := o.books.withinTx (directBody c moves lock)
  (r, { o with books })

end Office

end Ledger
