import Ledger.Decimal
import Ledger.Audit

/-!
Accounts of the chart.

An account has one of five types and records increases on its normal side, debit or
credit. Accounts form a forest through the code of their parent (empty for a root); the
level of a root is zero and of any other account one more than its parent's. Within a
tenant an account is found by its code, and across tenants by its identifier.
-/

namespace Ledger

/-- The five kinds of account. -/
inductive AccountType where
  | asset
  | liability
  | equity
  | revenue
  | expense
  deriving Repr, Inhabited, DecidableEq

/-- The side on which an account records increases. -/
inductive Side where
  | debit
  | credit
  deriving Repr, Inhabited, DecidableEq

namespace AccountType

/-- The name of the type. -/
def name : AccountType → String
  | .asset => "ASSET"
  | .liability => "LIABILITY"
  | .equity => "EQUITY"
  | .revenue => "REVENUE"
  | .expense => "EXPENSE"

/-- The type with this exact name. -/
def ofName? : String → Option AccountType
  | "ASSET" => some .asset
  | "LIABILITY" => some .liability
  | "EQUITY" => some .equity
  | "REVENUE" => some .revenue
  | "EXPENSE" => some .expense
  | _ => none

/-- Assets and expenses grow on the debit side, all other types on the credit side. -/
def normalSide : AccountType → Side
  | .asset | .expense => .debit
  | _ => .credit

end AccountType

namespace Side

/-- The name of the side. -/
def name : Side → String
  | .debit => "DEBIT"
  | .credit => "CREDIT"

/-- The side with this exact name. -/
def ofName? : String → Option Side
  | "DEBIT" => some .debit
  | "CREDIT" => some .credit
  | _ => none

end Side

/-- An account of a tenant's chart. -/
structure Account where
  id : String
  tenant : String
  code : String
  name : String
  description : String
  type : AccountType
  side : Side
  /-- Code of the parent account, empty for a root. -/
  parent : String
  level : Nat
  active : Bool
  cashFlow : Bool
  opening : Decimal
  balance : Decimal
  audit : Audit
  deriving Repr, Inhabited, DecidableEq

/-- The storage key of an account code within a tenant. Tenant and code are joined by a
bar, so a bar inside either can make two pairs meet at one key. -/
def accountKey (tenant code : String) : String := "acct|" ++ tenant ++ "|" ++ code

namespace Account

/-- The storage key of the account. -/
def key (a : Account) : String := accountKey a.tenant a.code

end Account

end Ledger
