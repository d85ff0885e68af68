import Ledger.Books

-- Ledger transactions of the memory store. A body locks the entry it works on, then the
-- accounts it posts to, and writes balances and entries through the transaction. The writes
-- are staged and applied when the body succeeds: committing refuses the whole transaction when
-- a staged insert names a stored key, and otherwise applies the balances, then the entry
-- writes, in the order they were staged. Row locks only order concurrent transactions, so a
-- transaction records what it locked and nothing more.

namespace Ledger

def putKey {α : Type} (m : String → Option α) (k : String) (v : α) : String → Option α :=
  fun k' => if k' = k then some v else m k'

def eraseKey {α : Type} (m : String → Option α) (k : String) : String → Option α :=
  fun k' => if k' = k then none else m k'

-- The maps of the store that ledger transactions read and write.
structure Tables where
  accounts : String → Option Account
  entries : String → Option Entry
  entryIDs : String → Option String
  postOrder : String → Option Nat
  postSeq : Nat

structure BalanceWrite where
  tenant : String
  code : String
  balance : Decimal
  user : String
  now : Timestamp
  deriving Repr, DecidableEq

namespace Tables

def recordPosting (s : Tables) (key : String) (status : EntryStatus) : Tables :=
  if status == .draft || (s.postOrder key).isSome then s
  else { s with postSeq := s.postSeq + 1, postOrder := putKey s.postOrder key (s.postSeq + 1) }

def insertEntry (s : Tables) (e : Entry) : Except Fault Tables :=
  if (s.entries e.key).isSome then .error (.duplicateEntry e.number)
  else .ok (({ s with entries := putKey s.entries e.key e,
                      entryIDs := putKey s.entryIDs e.id e.key }).recordPosting e.key e.status)

def replaceEntry (s : Tables) (e : Entry) : Tables :=
  ({ s with entries := putKey s.entries e.key e }).recordPosting e.key e.status

def removeEntry (s : Tables) (key : String) : Tables :=
  { s with
    entries := eraseKey s.entries key
    entryIDs := match s.entries key with
      | some old => eraseKey s.entryIDs old.id
      | none => s.entryIDs
    postOrder := eraseKey s.postOrder key }

-- A key with no account gets a blank one, as a map read at a missing key gives.
def setBalance (s : Tables) (w : BalanceWrite) : Tables :=
  let acc := (s.accounts (accountKey w.tenant w.code)).getD default
  let acc := { acc with balance := w.balance, audit := acc.audit.touch w.user w.now }
  { s with accounts := putKey s.accounts (accountKey w.tenant w.code) acc }

end Tables

-- A removal names only the entry's tenant and number.
inductive EntryWrite where
  | insert (e : Entry)
  | update (e : Entry)
  | delete (tenant number : String)
  deriving Repr, DecidableEq

namespace EntryWrite

def key : EntryWrite → String
  | .insert e => e.key
  | .update e => e.key
  | .delete tenant number => entryKey tenant number

def staged : EntryWrite → Option Entry
  | .insert e => some e
  | .update e => some e
  | .delete .. => none

def inserted : EntryWrite → Option Entry
  | .insert e => some e
  | _ => none

end EntryWrite

inductive TxCall where
  | lockEntry (tenant : String) (number : Ref)
  | lockAccounts (tenant : String) (codes : List String)
  | setBalance (w : BalanceWrite)
  | saveEntry (e : Entry)
  | updateEntry (e : Entry)
  | deleteEntry (tenant number : String)
  deriving Repr, DecidableEq

-- What a call gives back when it succeeds: the locked entry, the locked accounts by code, or
-- nothing.
def TxCall.Reply : TxCall → Type
  | .lockEntry .. => Entry
  | .lockAccounts .. => String → Option Account
  | .setBalance _ | .saveEntry _ | .updateEntry _ | .deleteEntry .. => Unit

-- A transaction body: the calls it makes, each followed by what the body does with the reply,
-- until it returns or fails.
inductive TxBody (α : Type) where
  | finish (result : Except Fault α)
  | call (c : TxCall) (next : Except Fault c.Reply → TxBody α)

-- Every call made, with its reply.
abbrev TxTrace := List ((c : TxCall) × Except Fault c.Reply)

namespace TxBody

variable {α β : Type}

def bind : TxBody α → (α → TxBody β) → TxBody β
  | .finish (.ok a), f => f a
  | .finish (.error e), _ => .finish (.error e)
  | .call c next, f => .call c fun r => (next r).bind f

def tryCatch : TxBody α → (Fault → TxBody α) → TxBody α
  | .finish (.ok a), _ => .finish (.ok a)
  | .finish (.error e), h => h e
  | .call c next, h => .call c fun r => (next r).tryCatch h

instance : Monad TxBody where
  pure a := .finish (.ok a)
  bind := bind

instance : MonadExceptOf Fault TxBody where
  throw e := .finish (.error e)
  tryCatch := tryCatch

def lift (x : Except Fault α) : TxBody α := .finish x

-- A failure of `x` reported with a context in front.
def mapError (g : Fault → Fault) (x : TxBody α) : TxBody α := x.tryCatch fun e => .finish (.error (g e))

def wrapping (text : String) (x : TxBody α) : TxBody α := x.mapError (.context text)

def lockEntry (tenant : String) (number : Ref) : TxBody Entry := .call (.lockEntry tenant number) .finish

def lockAccounts (tenant : String) (codes : List String) : TxBody (String → Option Account) :=
  .call (.lockAccounts tenant codes) .finish

def setBalance (w : BalanceWrite) : TxBody Unit := .call (.setBalance w) .finish

def saveEntry (e : Entry) : TxBody Unit := .call (.saveEntry e) .finish

def updateEntry (e : Entry) : TxBody Unit := .call (.updateEntry e) .finish

def deleteEntry (tenant number : String) : TxBody Unit := .call (.deleteEntry tenant number) .finish

-- Runs a body, answering each call by `answer` from a state: every call made with its reply,
-- the body's result and the last state.
def run {σ : Type} (answer : σ → (c : TxCall) → Except Fault c.Reply × σ) :
    σ → TxBody α → TxTrace × Except Fault α × σ
  | st, .finish result => ([], result, st)
  | st, .call c next =>
    let (reply, st') := answer st c
    let (trace, result, last) := run answer st' (next reply)
    (⟨c, reply⟩ :: trace, result, last)

end TxBody

-- The latest staged version of the entry under a key; a staged removal shows nothing.
def stagedEntry (writes : List EntryWrite) (key : String) : Option Entry :=
  match writes.reverse.find? (·.key == key) with
  | some w => w.staged
  | none => none

structure Staged where
  lockedEntries : List String := []
  lockedAccounts : List String := []
  accountsTaken : Bool := false
  balances : List BalanceWrite := []
  entryWrites : List EntryWrite := []
  newEntries : List String := []

namespace Staged

-- Answers one call of a body, reading the store `s`.
def answer (s : Tables) (tx : Staged) : (c : TxCall) → Except Fault c.Reply × Staged
  | .lockEntry tenant number =>
    if tx.accountsTaken then (.error (.entryAfterAccounts number.text), tx)
    -- a name that is not text is locked under a key no entry has: it finds nothing and allows
    -- no write
    else if !number.exact then (.error (.entryMissing number.text), tx)
    else
      let key := entryKey tenant number.text
      let tx := { tx with lockedEntries := tx.lockedEntries ++ [key] }
      match stagedEntry tx.entryWrites key with
      | some e => (.ok e, tx)
      | none =>
        match s.entries key with
        | some e => (.ok e, tx)
        | none => (.error (.entryMissing number.text), tx)
  | .lockAccounts tenant codes =>
    if tx.accountsTaken then (.error .accountsTwice, tx)
    else
      (.ok fun code => if codes.contains code then s.accounts (accountKey tenant code) else none,
        { tx with accountsTaken := true,
                  lockedAccounts := tx.lockedAccounts ++ codes.map (accountKey tenant) })
  | .setBalance w =>
    if tx.lockedAccounts.contains (accountKey w.tenant w.code) then
      (.ok (), { tx with balances := tx.balances ++ [w] })
    else (.error (.accountNotLocked w.code), tx)
  | .saveEntry e =>
    if (stagedEntry tx.entryWrites e.key).isSome then (.error (.duplicateEntry e.number), tx)
    else
      (.ok (), { tx with newEntries := tx.newEntries ++ [e.key],
                         entryWrites := tx.entryWrites ++ [.insert e] })
  | .updateEntry e =>
    if tx.newEntries.contains e.key then
      -- an entry saved here stays an insert, staged last
      (.ok (), { tx with entryWrites := tx.entryWrites.filter (·.key != e.key) ++ [.insert e] })
    else if tx.lockedEntries.contains e.key then
      (.ok (), { tx with entryWrites := tx.entryWrites ++ [.update e] })
    else (.error (.entryNotLocked e.number), tx)
  | .deleteEntry tenant number =>
    if tx.lockedEntries.contains (entryKey tenant number) then
      (.ok (), { tx with entryWrites := tx.entryWrites ++ [.delete tenant number] })
    else (.error (.entryNotLocked number), tx)

end Staged

namespace Tables

-- An insert whose key is taken stops there, keeping the writes before it.
def applyEntryWrites (s : Tables) : List EntryWrite → Except Fault Unit × Tables
  | [] => (.ok (), s)
  | .insert e :: ws =>
    match s.insertEntry e with
    | .error f => (.error f, s)
    | .ok s' => applyEntryWrites s' ws
  | .update e :: ws => applyEntryWrites (s.replaceEntry e) ws
  | .delete tenant number :: ws => applyEntryWrites (s.removeEntry (entryKey tenant number)) ws

-- The first staged insert whose key the store holds.
def clash (s : Tables) (writes : List EntryWrite) : Option Entry :=
  writes.findSome? fun w => w.inserted.filter fun e => (s.entries e.key).isSome

def commit (s : Tables) (tx : Staged) : Except Fault Unit × Tables :=
  match s.clash tx.entryWrites with
  | some e => (.error (.duplicateEntry e.number), s)
  | none => (tx.balances.foldl setBalance s).applyEntryWrites tx.entryWrites

-- A failing body changes nothing; a succeeding one is committed.
def withinTx {α : Type} (s : Tables) (body : TxBody α) : TxTrace × Except Fault α × Tables :=
  match body.run (Staged.answer s) {} with
  | (trace, .error e, _) => (trace, .error e, s)
  | (trace, .ok a, tx) =>
    match s.commit tx with
    | (.ok (), s') => (trace, .ok a, s')
    | (.error e, s') => (trace, .error e, s')

end Tables

namespace Books

-- The books as the maps a transaction reads and writes.
def tables (b : Books) : Tables where
  accounts := b.account?
  entries := b.entry?
  entryIDs := fun id => b.entryIDs.lookup id
  postOrder := fun key => b.postOrder.lookup key
  postSeq := b.postSeq

def putBalance (b : Books) (w : BalanceWrite) : Books :=
  b.setBalance (accountKey w.tenant w.code) w.balance w.user w.now

def applyEntryWrites (b : Books) : List EntryWrite → Except Fault Unit × Books
  | [] => (.ok (), b)
  | .insert e :: ws =>
    match b.addEntry e with
    | .error f => (.error f, b)
    | .ok b' => applyEntryWrites b' ws
  | .update e :: ws => applyEntryWrites (b.putEntry e) ws
  | .delete tenant number :: ws => applyEntryWrites (b.removeEntry (entryKey tenant number)) ws

def commit (b : Books) (tx : Staged) : Except Fault Unit × Books :=
  match b.tables.clash tx.entryWrites with
  | some e => (.error (.duplicateEntry e.number), b)
  | none => (tx.balances.foldl putBalance b).applyEntryWrites tx.entryWrites

def withinTx {α : Type} (b : Books) (body : TxBody α) : Except Fault α × Books :=
  match body.run (Staged.answer b.tables) {} with
  | (_, .error e, _) => (.error e, b)
  | (_, .ok a, tx) =>
    match b.commit tx with
    | (.ok (), b') => (.ok a, b')
    | (.error e, b') => (.error e, b')

-- One transaction running `first` and then `rest` on its result; it also tells whether `first`
-- succeeded, for a body that draws an identifier between the two.
def withinTxAfter {α β : Type} (b : Books) (first : TxBody β) (rest : β → TxBody α) :
    Except Fault α × Bool × Books :=
  match first.run (Staged.answer b.tables) {} with
  | (_, .error e, _) => (.error e, false, b)
  | (_, .ok x, tx) =>
    match (rest x).run (Staged.answer b.tables) tx with
    | (_, .error e, _) => (.error e, true, b)
    | (_, .ok a, tx) =>
      match b.commit tx with
      | (.ok (), b') => (.ok a, true, b')
      | (.error e, b') => (.error e, true, b')

end Books

end Ledger
