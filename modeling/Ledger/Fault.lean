import Ledger.Amount
import Ledger.Entry
import Ledger.Cursor

-- Why a ledger operation fails. A failure belongs to at most one class of failure, its
-- `Sentinel`; a class may refine a broader one, and the status of a failure is decided by its
-- class and the classes above it. Failures of the transaction's own bookkeeping have no class.

namespace Ledger

inductive Sentinel where
  | storageUnavailable
  | crossTenantAccess
  | unknownLineAccount
  | duplicateAccountCode
  | accountNotFound
  | entryNotFound
  | notFound
  | duplicate
  | invalidStateTransition
  | notPosted
  | alreadyReversed
  | cyclicHierarchy
  | unbalancedEntry
  | emptyEntry
  | parentNotFound
  | accountInactive
  | validation
  deriving Repr, Inhabited, DecidableEq

namespace Sentinel

def all : List Sentinel :=
  [.storageUnavailable, .crossTenantAccess, .unknownLineAccount, .duplicateAccountCode,
    .accountNotFound, .entryNotFound, .notFound, .duplicate, .invalidStateTransition,
    .notPosted, .alreadyReversed, .cyclicHierarchy, .unbalancedEntry, .emptyEntry,
    .parentNotFound, .accountInactive, .validation]

def name : Sentinel → String
  | .storageUnavailable => "StorageUnavailable"
  | .crossTenantAccess => "CrossTenantAccess"
  | .unknownLineAccount => "UnknownLineAccount"
  | .duplicateAccountCode => "DuplicateAccountCode"
  | .accountNotFound => "AccountNotFound"
  | .entryNotFound => "EntryNotFound"
  | .notFound => "NotFound"
  | .duplicate => "Duplicate"
  | .invalidStateTransition => "InvalidStateTransition"
  | .notPosted => "NotPosted"
  | .alreadyReversed => "AlreadyReversed"
  | .cyclicHierarchy => "CyclicHierarchy"
  | .unbalancedEntry => "UnbalancedEntry"
  | .emptyEntry => "EmptyEntry"
  | .parentNotFound => "ParentNotFound"
  | .accountInactive => "AccountInactive"
  | .validation => "Validation"

def broader : Sentinel → Option Sentinel
  | .duplicateAccountCode => some .duplicate
  | .accountNotFound => some .notFound
  | .unknownLineAccount => some .accountNotFound
  | .entryNotFound => some .notFound
  | _ => none

def within : Sentinel → List Sentinel
  | .unknownLineAccount => [.unknownLineAccount, .accountNotFound, .notFound]
  | s => match s.broader with
    | some b => [s, b]
    | none => [s]

def text : Sentinel → String
  | .storageUnavailable => "storage unavailable"
  | .crossTenantAccess => "resource belongs to a different tenant"
  | .unknownLineAccount => "resource not found: account referenced by journal line"
  | .duplicateAccountCode => "resource already exists: account code already exists"
  | .accountNotFound => "resource not found: account"
  | .entryNotFound => "resource not found: journal entry"
  | .notFound => "resource not found"
  | .duplicate => "resource already exists"
  | .invalidStateTransition => "invalid journal entry state transition"
  | .notPosted => "journal entry is not posted"
  | .alreadyReversed => "journal entry has already been reversed"
  | .cyclicHierarchy => "account hierarchy would contain a cycle"
  | .unbalancedEntry => "journal entry debits and credits do not balance"
  | .emptyEntry => "journal entry must have at least two lines"
  | .parentNotFound => "parent account not found"
  | .accountInactive => "account is inactive"
  | .validation => "validation error"

def status (s : Sentinel) : Nat :=
  let w := s.within
  if w.contains .storageUnavailable then 503
  else if w.contains .crossTenantAccess then 403
  else if w.contains .unknownLineAccount then 422
  else if w.contains .notFound then 404
  else if w.any (fun c => [Sentinel.duplicate, .invalidStateTransition, .notPosted,
      .alreadyReversed, .cyclicHierarchy].contains c) then 409
  else if w.any (fun c => [Sentinel.validation, .unbalancedEntry, .emptyEntry,
      .parentNotFound, .accountInactive].contains c) then 422
  else 500

end Sentinel

inductive LineProblem where
  | codeMissing
  | amount (p : Amount.Problem)
  | oneSided
  deriving Repr, DecidableEq

def LineProblem.message : LineProblem → String
  | .codeMissing => "account code is required"
  | .amount p => p.message
  | .oneSided => "exactly one of debit or credit must be non-zero"

inductive DraftAction where
  | edit
  | discard
  | post
  deriving Repr, DecidableEq

inductive Fault where
  | tenantRequired
  | fieldRule (path rule : String)
  | unknownType (type : String)
  | unknownSide (side : String)
  | amount (p : Amount.Problem)
  | line (number : Int) (p : LineProblem)
  | tooFewLines (count : Nat)
  | unbalanced (debit credit : Decimal)
  | badToken (e : TokenError)
  | accountMissing (code : String)
  | accountIdMissing (id : String)
  | accountAbsent
  | foreignAccount (ref : String)
  | foreignParent (code : String)
  | foreignEntry (ref : String)
  | parentMissing (code : String)
  | ownParent (code : String)
  | descendantParent (parent code : String)
  | hierarchyLoop (code : String)
  | walkingHierarchy (code : String) (inner : Fault)
  | duplicateCode (code : String)
  | duplicateAccountId (id : String)
  | duplicateEntry (number : String)
  | entryMissing (number : String)
  | entryIdMissing (id : String)
  | notDraft (number : String) (status : EntryStatus) (action : DraftAction)
  | notPostedYet (number : String) (status : EntryStatus)
  | alreadyReversed (number reversedBy : String)
  | unknownLineAccount (code : String)
  | inactive (code : String)
  | atLine (number : Int) (inner : Fault)
  | entryAfterAccounts (number : String)
  | accountsTwice
  | accountNotLocked (code : String)
  | entryNotLocked (number : String)
  | context (text : String) (inner : Fault)
  deriving Repr, DecidableEq

namespace Fault

def sentinel : Fault → Option Sentinel
  | .tenantRequired | .fieldRule .. | .unknownType _ | .unknownSide _ | .amount _ | .line .. => some .validation
  | .badToken _ => some .validation
  | .tooFewLines _ => some .emptyEntry
  | .unbalanced .. => some .unbalancedEntry
  | .accountMissing _ | .accountIdMissing _ | .accountAbsent => some .accountNotFound
  | .foreignAccount _ | .foreignParent _ | .foreignEntry _ => some .crossTenantAccess
  | .parentMissing _ => some .parentNotFound
  | .ownParent _ | .descendantParent .. | .hierarchyLoop _ => some .cyclicHierarchy
  | .walkingHierarchy _ inner => inner.sentinel
  | .duplicateCode _ => some .duplicateAccountCode
  | .duplicateAccountId _ | .duplicateEntry _ => some .duplicate
  | .entryMissing _ | .entryIdMissing _ => some .entryNotFound
  | .notDraft .. => some .invalidStateTransition
  | .notPostedYet .. => some .notPosted
  | .alreadyReversed .. => some .alreadyReversed
  | .unknownLineAccount _ => some .unknownLineAccount
  | .inactive _ => some .accountInactive
  | .atLine _ inner => inner.sentinel
  | .entryAfterAccounts _ | .accountsTwice | .accountNotLocked _ | .entryNotLocked _ => none
  | .context _ inner => inner.sentinel

def message : Fault → String
  | .tenantRequired => Sentinel.validation.text ++ ": tenant id is required"
  | .fieldRule path rule =>
    Sentinel.validation.text ++ ": field '" ++ path ++ "' failed '" ++ rule ++ "'"
  | .unknownType t => Sentinel.validation.text ++ ": unknown account type '" ++ t ++ "'"
  | .unknownSide s => Sentinel.validation.text ++ ": unknown normal side '" ++ s ++ "'"
  | .amount p => Sentinel.validation.text ++ ": " ++ p.message
  | .line n p => Sentinel.validation.text ++ ": line " ++ toString n ++ ": " ++ p.message
  | .tooFewLines n =>
    Sentinel.emptyEntry.text ++ ": journal entry must have at least two lines, got " ++ toString n
  | .unbalanced d c =>
    Sentinel.unbalancedEntry.text ++ ": total debit " ++ Amount.format d ++
      " does not equal total credit " ++ Amount.format c
  | .badToken e => Sentinel.validation.text ++ ": " ++ e.message
  | .accountMissing code => Sentinel.accountNotFound.text ++ ": " ++ code
  | .accountIdMissing id => Sentinel.accountNotFound.text ++ ": id " ++ id
  | .accountAbsent => Sentinel.accountNotFound.text
  | .foreignAccount ref => Sentinel.crossTenantAccess.text ++ ": account " ++ ref
  | .foreignParent code => Sentinel.crossTenantAccess.text ++ ": parent " ++ code
  | .foreignEntry ref => Sentinel.crossTenantAccess.text ++ ": entry " ++ ref
  | .parentMissing code => Sentinel.parentNotFound.text ++ ": " ++ code
  | .ownParent code =>
    Sentinel.cyclicHierarchy.text ++ ": account " ++ code ++ " cannot be its own parent"
  | .descendantParent p code =>
    Sentinel.cyclicHierarchy.text ++ ": " ++ p ++ " is a descendant of " ++ code
  | .hierarchyLoop code => Sentinel.cyclicHierarchy.text ++ ": existing hierarchy loops at " ++ code
  | .walkingHierarchy code inner => "failed to walk hierarchy at " ++ code ++ ": " ++ inner.message
  | .duplicateCode code => Sentinel.duplicateAccountCode.text ++ ": " ++ code
  | .duplicateAccountId id => Sentinel.duplicate.text ++ ": account id " ++ id
  | .duplicateEntry n => Sentinel.duplicate.text ++ ": journal entry " ++ n
  | .entryMissing n => Sentinel.entryNotFound.text ++ ": " ++ n
  | .entryIdMissing id => Sentinel.entryNotFound.text ++ ": id " ++ id
  | .notDraft n s a =>
    Sentinel.invalidStateTransition.text ++ ": entry " ++ n ++ " is " ++ s.name ++
      (match a with
        | .edit => ", only drafts can be edited"
        | .discard => ", only drafts can be discarded"
        | .post => ", expected DRAFT")
  | .notPostedYet n s => Sentinel.notPosted.text ++ ": entry " ++ n ++ " is " ++ s.name
  | .alreadyReversed n r =>
    Sentinel.alreadyReversed.text ++ ": entry " ++ n ++ " was reversed by " ++ r
  | .unknownLineAccount code => Sentinel.unknownLineAccount.text ++ ": " ++ code
  | .inactive code => Sentinel.accountInactive.text ++ ": " ++ code
  | .atLine n inner => "line " ++ toString n ++ ": " ++ inner.message
  | .entryAfterAccounts n => lockOrder ++ ": entry " ++ n ++ " locked after accounts"
  | .accountsTwice => lockOrder ++ ": accounts already locked in this transaction"
  | .accountNotLocked code => "account " ++ code ++ " is not locked by this transaction"
  | .entryNotLocked n => "journal entry " ++ n ++ " is not locked by this transaction"
  | .context text inner => text ++ ": " ++ inner.message
where
  lockOrder := "ledger transaction lock order violated"

-- A failure of no class answers 500 and is named `Error`.
def status (f : Fault) : Nat := (f.sentinel.map Sentinel.status).getD 500

def kind (f : Fault) : String := (f.sentinel.map Sentinel.name).getD "Error"

end Fault

end Ledger
