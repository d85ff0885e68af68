import Ledger.Office
import Ledger.Cursor
import Ledger.Transaction

-- The journal: drafting, posting, reversing and listing entries. A draft is admitted when the
-- tenant is given, the request keeps its field rules and its lines pass the posting rules; only
-- then is its number issued. Editing, discarding, posting and reversing run as ledger
-- transactions. Posting takes the accounts of the lines in ascending code order, moves each
-- account's balance by the signed delta of each of its lines and marks the entry posted. A
-- reversal issues its number first, then posts a compensating entry with debits and credits
-- exchanged and marks the source reversed.

namespace Ledger

abbrev Held := List (String × Account)

-- The accounts `found` gives for the codes, in order: the first that is missing, belongs to
-- another tenant or is inactive stops the posting.
def holdFound (found : String → Option Account) (tenant : String) (codes : List String) :
    Except Fault Held :=
  codes.mapM fun code =>
    match found code with
    | none => .error (.unknownLineAccount code)
    | some a =>
      if a.tenant != tenant then .error (.foreignAccount code)
      else if !a.active then .error (.inactive code)
      else .ok (code, a)

namespace Books

def holdAccounts (b : Books) (tenant : String) (codes : List String) : Except Fault Held :=
  holdFound (fun code => b.account? (accountKey tenant code)) tenant
    (sortBy (fun x y => !decide (y < x)) codes).eraseDups

def applyWrites (b : Books) (writes : List (String × Decimal)) (user : String) (now : Timestamp) :
    Books :=
  writes.foldl (fun b w => b.setBalance w.1 w.2 user now) b

end Books

def applyPosting (held : Held) (code : String) (debit credit : Decimal) (user : String)
    (now : Timestamp) : Except Fault (Decimal × Held) :=
  match held.lookup code with
  | none => .error .accountAbsent
  | some a =>
    if !a.active then .error (.inactive a.code)
    else match Amount.check "debit" debit, Amount.check "credit" credit with
      | .error p, _ => .error (.amount p)
      | .ok (), .error p => .error (.amount p)
      | .ok (), .ok () =>
        let balance := a.balance + signedDelta a.side debit credit
        let a := { a with balance, audit := a.audit.touch user now }
        .ok (balance, held.map fun h => if h.1 == code then (code, a) else h)

def applyLines (tenant : String) (c : Ctx) :
    List Line → Held → Except Fault (List Line × Held × List (String × Decimal))
  | [], held => .ok ([], held, [])
  | l :: rest, held =>
    match applyPosting held l.code l.debit l.credit c.user c.now with
    | .error f => .error (.atLine l.number f)
    | .ok (balance, held) =>
      let name := ((held.lookup l.code).map (·.name)).getD ""
      match applyLines tenant c rest held with
      | .error f => .error f
      | .ok (lines, held, writes) =>
        .ok ({ l with accountName := name } :: lines, held,
          (accountKey tenant l.code, balance) :: writes)

def postLines (b : Books) (c : Ctx) (e : Entry) : Except Fault (Entry × List (String × Decimal)) := do
  let (debit, credit) ← checkBalance e.lines
  let held ← b.holdAccounts e.tenant e.codes
  let ordered := sortBy (fun x y => decide (x.number ≤ y.number)) e.lines
  let (lines, _, writes) ← applyLines e.tenant c ordered held
  let e := { e with
    lines, status := .posted, totalDebit := debit, totalCredit := credit, postedBy := c.user,
    postedAt := some c.now, audit := e.audit.touch c.user c.now }
  pure (e, writes)

-- The accounts of a posting locked in ascending code order and taken each once.
def holdLocked (tenant : String) (codes : List String) : TxBody Held := do
  let sorted := sortBy (fun x y => !decide (y < x)) codes
  let found ← TxBody.wrapping "failed to lock accounts" (TxBody.lockAccounts tenant sorted)
  TxBody.lift (holdFound found tenant sorted.eraseDups)

-- A debit and a credit applied to a held account, its new balance stored through the
-- transaction.
def postTo (held : Held) (code : String) (debit credit : Decimal) (user : String) (now : Timestamp) :
    TxBody (Decimal × Held) :=
  match held.lookup code with
  | none => throw .accountAbsent
  | some a => do
    let (balance, held) ← TxBody.lift (applyPosting held code debit credit user now)
    TxBody.wrapping ("failed to store balance of " ++ a.code)
      (TxBody.setBalance ⟨a.tenant, a.code, balance, user, now⟩)
    pure (balance, held)

def applyLinesLocked (c : Ctx) : List Line → Held → TxBody (List Line × Held)
  | [], held => pure ([], held)
  | l :: rest, held => do
    let (_, held) ← (postTo held l.code l.debit l.credit c.user c.now).mapError (.atLine l.number)
    let name := ((held.lookup l.code).map (·.name)).getD ""
    let (lines, held) ← applyLinesLocked c rest held
    pure ({ l with accountName := name } :: lines, held)

-- Posts an entry within a transaction; the caller stores the posted entry.
def postLocked (c : Ctx) (e : Entry) : TxBody Entry := do
  let (debit, credit) ← TxBody.lift (checkBalance e.lines)
  let held ← holdLocked e.tenant e.codes
  let ordered := sortBy (fun x y => decide (x.number ≤ y.number)) e.lines
  let (lines, _) ← applyLinesLocked c ordered held
  pure { e with
    lines, status := .posted, totalDebit := debit, totalCredit := credit, postedBy := c.user,
    postedAt := some c.now, audit := e.audit.touch c.user c.now }

namespace Office

def entryByNumber (b : Books) (tenant : String) (number : Ref) : Except Fault Entry :=
  match if number.exact then b.entry? (entryKey tenant number.text) else none with
  | none => .error (.entryMissing number.text)
  | some e => if e.tenant != tenant then .error (.foreignEntry number.text) else .ok e

def lockEntry (tenant : String) (number : Ref) : TxBody Entry := do
  let e ← TxBody.lockEntry tenant number
  if e.tenant != tenant then throw (.foreignEntry number.text)
  pure e

def entryById (b : Books) (tenant id : String) : Except Fault Entry :=
  match b.entryById? id with
  | none => .error (.entryIdMissing id)
  | some e => if e.tenant != tenant then .error (.foreignEntry id) else .ok e

def voucherPrefix (voucher : String) : String :=
  let trimmed :=
    ((voucher.toList.dropWhile Char.isWhitespace).reverse.dropWhile Char.isWhitespace).reverse
  let p := String.ofList (trimmed.map Char.toUpper)
  if p.isEmpty then "JE" else p

def entryNumber (pfx : String) (n : Nat) : String :=
  let ds := Nat.toDigits 10 n
  pfx ++ "-" ++ String.ofList (List.replicate (6 - ds.length) '0' ++ ds)

def buildLines (req : EntryRequest) : List Line :=
  (List.range req.lines.length).zip req.lines |>.map fun (i, l) =>
    { number := i + 1, code := l.code, accountName := "", debit := l.debit, credit := l.credit,
      description := l.description, costCenter := l.costCenter, projectCode := l.projectCode,
      relatedRef := l.relatedRef }

def admitLines (req : EntryRequest) : Except Fault (List Line × Decimal × Decimal) := do
  if let some v := req.violation then throw (.fieldRule v.path v.rule.tag)
  let lines := buildLines req
  let (debit, credit) ← checkBalance lines
  pure (lines, debit, credit)

def createDraft (o : Office) (c : Ctx) (req : EntryRequest) : Outcome Entry :=
  let admitted : Except Fault (List Line × Decimal × Decimal) := do
    if c.tenant.isEmpty then throw .tenantRequired
    admitLines req
  match admitted with
  | .error f => (.error f, o)
  | .ok (lines, debit, credit) =>
    let pfx := voucherPrefix req.voucher
    let (n, books) := o.books.nextNumber c.tenant pfx
    let o := { o with books }
    let (id, o) := o.freshId
    let e : Entry :=
      { id, tenant := c.tenant, number := entryNumber pfx n,
        date := if req.date.isZero then c.now else req.date, voucher := pfx,
        description := req.description, reference := req.reference, status := .draft,
        totalDebit := debit, totalCredit := credit, postedBy := "", postedAt := none,
        reversalOf := "", reversedBy := "", lines, audit := Audit.new c.user c.now }
    match o.books.addEntry e with
    | .error f => (.error f, o)
    | .ok books => (.ok e, { o with books })

def editBody (c : Ctx) (number : Ref) (req : EntryRequest) (lines : List Line) (debit credit : Decimal) :
    TxBody Entry := do
  let e ← lockEntry c.tenant number
  if e.status != .draft then throw (.notDraft e.number e.status .edit)
  let e := { e with
    date := if req.date.isZero then e.date else req.date, description := req.description,
    reference := req.reference, lines, totalDebit := debit, totalCredit := credit,
    audit := e.audit.touch c.user c.now }
  TxBody.wrapping ("failed to update draft " ++ number.text) (TxBody.updateEntry e)
  pure e

-- Replaces a draft's date (when given), description, reference and lines; the request is
-- checked before the transaction.
def updateDraft (o : Office) (c : Ctx) (number : Ref) (req : EntryRequest) : Outcome Entry :=
  match admitLines req with
  | .error f => (.error f, o)
  | .ok (lines, debit, credit) =>
    let (r, books) := o.books.withinTx (editBody c number req lines debit credit)
    (r, { o with books })

def discardBody (c : Ctx) (number : Ref) : TxBody Unit := do
  let e ← lockEntry c.tenant number
  if e.status != .draft then throw (.notDraft e.number e.status .discard)
  TxBody.deleteEntry c.tenant number.text

def discardDraft (o : Office) (c : Ctx) (number : Ref) : Outcome Unit :=
  let (r, books) := o.books.withinTx (discardBody c number)
  (r, { o with books })

def postBody (c : Ctx) (number : Ref) : TxBody Entry := do
  let e ← lockEntry c.tenant number
  if e.status != .draft then throw (.notDraft e.number e.status .post)
  let e ← postLocked c e
  TxBody.wrapping ("failed to mark entry " ++ number.text ++ " posted") (TxBody.updateEntry e)
  pure e

def postEntry (o : Office) (c : Ctx) (number : Ref) : Outcome Entry :=
  match o.books.withinTx (postBody c number) with
  | (.error f, books) => (.error f, { o with books })
  | (.ok e, books) => (.ok e, ({ o with books }).announce c .posted e)

def compensation (c : Ctx) (id number : String) (src : Entry) : Entry :=
  { id, tenant := c.tenant, number, date := c.now, voucher := "RV",
    description := "Reversal of " ++ src.number, reference := src.number, status := .draft,
    totalDebit := Decimal.zero, totalCredit := Decimal.zero, postedBy := "", postedAt := none,
    reversalOf := src.number, reversedBy := "",
    lines := (List.range src.lines.length).zip src.lines |>.map fun (i, l) =>
      { l.swap with number := i + 1 },
    audit := Audit.new c.user c.now }

def reversalSource (c : Ctx) (number : Ref) : TxBody Entry := do
  let src ← lockEntry c.tenant number
  if src.status == .reversed || !src.reversedBy.isEmpty then
    throw (.alreadyReversed src.number src.reversedBy)
  if src.status != .posted then throw (.notPostedYet src.number src.status)
  pure src

def reversalBody (c : Ctx) (number : Ref) (id rv : String) (src : Entry) : TxBody (Entry × Entry) := do
  let comp ← postLocked c (compensation c id rv src)
  TxBody.wrapping ("failed to save reversal " ++ rv) (TxBody.saveEntry comp)
  let src := { src with
    status := .reversed, reversedBy := comp.number, audit := src.audit.touch c.user c.now }
  TxBody.wrapping ("failed to mark entry " ++ number.text ++ " reversed") (TxBody.updateEntry src)
  pure (src, comp)

-- Reverses a posted entry and announces the compensating entry. The number is issued before
-- the transaction; the compensation's identifier is drawn inside it, once the source passes its
-- checks.
def reverseEntry (o : Office) (c : Ctx) (number : Ref) : Outcome (Entry × Entry) :=
  let (n, books) := o.books.nextNumber c.tenant "RV"
  let o := { o with books }
  let (id, drawn) := o.freshId
  match o.books.withinTxAfter (reversalSource c number) (reversalBody c number id (entryNumber "RV" n)) with
  | (.error f, false, books) => (.error f, { o with books })
  | (.error f, true, books) => (.error f, { drawn with books })
  | (.ok (src, comp), _, books) => (.ok (src, comp), ({ drawn with books }).announce c .reversed comp)

def listedBefore (a b : Entry) : Bool :=
  if !a.date.sameInstant b.date then b.date.before a.date
  else if !a.audit.createdAt.sameInstant b.audit.createdAt then b.audit.createdAt.before a.audit.createdAt
  else decide (b.number < a.number)

def listing (b : Books) (tenant : String) (status : Option EntryStatus) (cursor : Option Cursor) :
    List Entry :=
  sortBy (fun x y => !listedBefore y x) (b.entries.filter fun e =>
    e.tenant == tenant && status.all (e.status == ·) &&
      cursor.all (·.after e.date e.audit.createdAt e.number))

def readToken (token : String) : Except TokenError (Option Cursor) :=
  if token.isEmpty then pure none
  else match Cursor.decode token with
    | .ok cur => pure (some cur)
    | .error e => .error e

def pageOf (limit : Nat) (sorted : List Entry) : List Entry × Option String :=
  if sorted.length ≤ limit then (sorted, none)
  else
    let page := sorted.take limit
    match page.getLast? with
    | none => (page, none)
    | some last => (page, some (Cursor.encode ⟨last.date, last.audit.createdAt, Utf8.bytes last.number⟩))

def listEntries (b : Books) (pageSize : Nat) (tenant : String) (q : EntryQuery) :
    Except Fault (List Entry × Option String) := do
  if let some v := q.violation then throw (.fieldRule v.path v.rule.tag)
  let limit := (clampLimit q.limit pageSize 100).toNat
  let cursor ← match readToken q.token with
    | .ok cursor => pure cursor
    | .error e => throw (.badToken e)
  pure (pageOf limit (listing b tenant (EntryStatus.ofName? q.status) cursor))

end Office

end Ledger
