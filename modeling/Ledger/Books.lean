import Ledger.Account
import Ledger.Entry
import Ledger.Fault

-- The books: every tenant's accounts and entries with the maps the store keeps beside them. An
-- account or entry is stored under the key its tenant and code or number make; identifiers are
-- indexed to those keys, each entry out of draft is numbered in the order it left draft, and a
-- number sequence counts per tenant and prefix. The maps beside the rows are kept as lists of
-- bindings, a new binding last.

namespace Ledger

-- A code or number as a request names it. A request path may carry bytes that are not UTF-8:
-- then `text` shows them with replacement characters and `exact` is false, and the name finds
-- nothing, since everything stored is text.
structure Ref where
  text : String
  exact : Bool := true
  deriving Repr, DecidableEq

instance : Coe String Ref := ⟨fun s => ⟨s, true⟩⟩

structure Books where
  accounts : List Account := []
  accountIDs : List (String × String) := []
  entries : List Entry := []
  entryIDs : List (String × String) := []
  postOrder : List (String × Nat) := []
  postSeq : Nat := 0
  sequences : List (String × Nat) := []
  deriving Repr, Inhabited

def setKey {α : Type} (m : List (String × α)) (k : String) (v : α) : List (String × α) :=
  m.filter (·.1 != k) ++ [(k, v)]

def dropKey {α : Type} (m : List (String × α)) (k : String) : List (String × α) :=
  m.filter (·.1 != k)

def orderedInsertBy {α : Type} (le : α → α → Bool) (a : α) : List α → List α
  | [] => [a]
  | b :: l => if le a b then a :: b :: l else b :: orderedInsertBy le a l

-- A stable insertion sort: equal elements keep the order they came in.
def sortBy {α : Type} (le : α → α → Bool) : List α → List α
  | [] => []
  | a :: l => orderedInsertBy le a (sortBy le l)

def sequenceKey (tenant pfx : String) : String := tenant ++ "|" ++ pfx

namespace Books

def account? (b : Books) (key : String) : Option Account := b.accounts.find? (·.key == key)

-- An identifier indexed to a key with no account reads a blank account, as a map read at a
-- missing key does.
def accountById? (b : Books) (id : String) : Option Account :=
  (b.accountIDs.lookup id).map fun key => (b.account? key).getD default

def entry? (b : Books) (key : String) : Option Entry := b.entries.find? (·.key == key)

def entryById? (b : Books) (id : String) : Option Entry :=
  (b.entryIDs.lookup id).map fun key => (b.entry? key).getD default

-- Keys of the entries out of draft, in the order the posting order lists them.
def postings (b : Books) : List String := b.postOrder.map (·.1)

def byCode (as : List Account) : List Account :=
  sortBy (fun a b => !decide (b.code < a.code)) as

def accountsOf (b : Books) (tenant : String) (keep : Account → Bool := fun _ => true) :
    List Account :=
  byCode (b.accounts.filter fun a => a.tenant == tenant && keep a)

def addAccount (b : Books) (a : Account) : Except Fault Books :=
  if (b.account? a.key).isSome then .error (.duplicateCode a.code)
  else if (b.accountIDs.lookup a.id).isSome then .error (.duplicateAccountId a.id)
  else .ok { b with accounts := b.accounts ++ [a], accountIDs := setKey b.accountIDs a.id a.key }

def modifyAccount (b : Books) (key : String) (f : Account → Account) : Books :=
  { b with accounts := b.accounts.map fun a => if a.key == key then f a else a }

def setBalance (b : Books) (key : String) (balance : Decimal) (user : String) (now : Timestamp) :
    Books :=
  b.modifyAccount key fun a => { a with balance := balance, audit := a.audit.touch user now }

-- An entry leaving draft takes the next posting number; an entry numbered before keeps its
-- number.
def notePosting (b : Books) (key : String) (status : EntryStatus) : Books :=
  if status == .draft || (b.postOrder.lookup key).isSome then b
  else { b with postSeq := b.postSeq + 1, postOrder := setKey b.postOrder key (b.postSeq + 1) }

def addEntry (b : Books) (e : Entry) : Except Fault Books :=
  if (b.entry? e.key).isSome then .error (.duplicateEntry e.number)
  else .ok (({ b with entries := b.entries ++ [e],
                      entryIDs := setKey b.entryIDs e.id e.key }).notePosting e.key e.status)

def replaceEntry (b : Books) (e : Entry) : Books :=
  ({ b with entries := b.entries.map fun (x : Entry) => if x.key == e.key then e else x }).notePosting
    e.key e.status

-- An entry written over its key, stored anew when the key holds none; the identifier index is
-- left as it is.
def putEntry (b : Books) (e : Entry) : Books :=
  if (b.entry? e.key).isSome then b.replaceEntry e
  else ({ b with entries := b.entries ++ [e] }).notePosting e.key e.status

def removeEntry (b : Books) (key : String) : Books :=
  { b with
    entries := b.entries.filter (·.key != key)
    entryIDs := match b.entry? key with
      | some old => dropKey b.entryIDs old.id
      | none => b.entryIDs
    postOrder := dropKey b.postOrder key }

def lastNumber (b : Books) (tenant pfx : String) : Nat :=
  (b.sequences.lookup (sequenceKey tenant pfx)).getD 0

def nextNumber (b : Books) (tenant pfx : String) : Nat × Books :=
  let n := b.lastNumber tenant pfx + 1
  (n, { b with sequences := setKey b.sequences (sequenceKey tenant pfx) n })

end Books

end Ledger
