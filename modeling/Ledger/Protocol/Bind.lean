import Ledger.Json.Scan
import Ledger.Decimal.Read
import Ledger.Time.Read
import Ledger.Text.Utf8
import Ledger.Request
import Ledger.Cursor

/-!
Decoding request bodies into request records, with the reason when a body does not fit.

Decoding updates a record member by member: a member names a field up to case, unknown
members are skipped, `null` leaves a field as it is (and clears a field that may be absent),
and a list decodes item by item into the items already there. The first value that does not
fit, in the order of the body, stops decoding and is reported: a value of the wrong kind, or
an amount or a date that does not read (with the reader's own reason).

A value of the wrong kind is reported with its kind, the type it should have had and where it
stands: the name of the top record and the member names and list positions leading to it,
as written in the body. A record field is named as a field; a list item by its place only.
-/

namespace Ledger

namespace Protocol

/-- Where a value stands: the name of the top record (empty until a record is entered), the
member names and list positions leading to it, and whether it is the value of a record
field rather than a list item. -/
structure Place where
  root : String
  path : List String
  inField : Bool
  deriving Repr, DecidableEq

/-- The place of the whole document. -/
def Place.top : Place := ⟨"", [], false⟩

/-- The place of a record member named `name`. -/
def Place.member (p : Place) (name : String) : Place := ⟨p.root, p.path ++ [name], true⟩

/-- The place of the item at position `i` of a list. -/
def Place.item (p : Place) (i : Nat) : Place := ⟨p.root, p.path ++ [toString i], false⟩

/-- Why a body does not decode into a request record. -/
inductive DecodeError where
  /-- The body is not JSON. -/
  | malformed (e : ScanError)
  /-- A value of the wrong kind for where it stands. -/
  | mismatch (kind : String) (place : Place) (type : String)
  /-- An amount or a date that does not read, with the reader's reason. -/
  | rejected (message : String)
  deriving Repr, DecidableEq

/-- The wording of a decoding failure. -/
def DecodeError.message : DecodeError → String
  | .malformed e => e.message
  | .mismatch kind p type =>
    let target :=
      if p.path.isEmpty then "Go value"
      else (if p.inField then "Go struct field " else "") ++ p.root ++ "." ++ ".".intercalate p.path
    "json: cannot unmarshal " ++ kind ++ " into " ++ target ++ " of type " ++ type
  | .rejected m => m

/-- Decoding in progress: it stops at the first value that does not fit. -/
abbrev Decoding := Except DecodeError

/-- Decodes a value standing at a place into a field's current content. -/
abbrev Binder (α : Type) := Place → Json → α → Decoding α

/-- The kind of a value as mismatches name it. -/
def kindName : Json → String
  | .null => "null"
  | .bool _ => "bool"
  | .num _ => "number"
  | .str _ => "string"
  | .array _ _ => "array"
  | .object _ _ => "object"

/-- Stops with a mismatch of a value with the field's type. -/
def mismatched {α : Type} (place : Place) (type : String) (j : Json) : Decoding α :=
  throw (.mismatch (kindName j) place type)

/-- Text, into a field of the named type. -/
def textIn (type : String) : Binder String := fun place j cur =>
  match j with
  | .str lit => pure (Json.unescape lit)
  | .null => pure cur
  | _ => mismatched place type j

/-- A truth value. -/
def flagIn : Binder Bool := fun place j cur =>
  match j with
  | .bool b => pure b
  | .null => pure cur
  | _ => mismatched place "bool" j

/-- A signed 64-bit integer written without fraction or exponent. -/
def readWholeInt (lit : String) : Option Int :=
  let (neg, ds) := match lit.toList with
    | '-' :: r => (true, r)
    | r => (false, r)
  if ds.isEmpty || !ds.all Char.isDigit then none
  else
    let n := ds.foldl (fun acc c => acc * 10 + (c.toNat - '0'.toNat)) 0
    let v : Int := if neg then -(n : Int) else n
    if v < -9223372036854775808 || v > 9223372036854775807 then none else some v

/-- An integer; a number that is not a whole 64-bit integer is a mismatch that quotes it. -/
def intIn : Binder Int := fun place j cur =>
  match j with
  | .num lit => match readWholeInt lit with
    | some v => pure v
    | none => throw (.mismatch ("number " ++ lit) place "int")
  | .null => pure cur
  | _ => mismatched place "int" j

/-- An amount, read from the raw text of any value but `null`. -/
def amountIn : Binder Decimal := fun _ j cur =>
  match j with
  | .null => pure cur
  | _ => match Decimal.ofQuoted j.render with
    | .ok d => pure d
    | .error msg => throw (.rejected msg)

/-- A date, read from the decoded text of a string; any other value but `null` is a
mismatch. -/
def dateIn : Binder Timestamp := fun place j cur =>
  match j with
  | .null => pure cur
  | .str lit => match Timestamp.readBytes (Utf8.bytes (Json.unescape lit)) with
    | .ok t => pure t
    | .error e => throw (.rejected (e.messageFor TimeError.plainLayout))
  | _ => mismatched place "time.Time" j

/-- A field that may be absent: `null` clears it, a value decodes into its content. -/
def optionalIn {α : Type} (b : Binder α) (empty : α) : Binder (Option α) := fun place j cur =>
  match j with
  | .null => pure none
  | _ => some <$> b place j (cur.getD empty)

/-- A list as decoding leaves it: its items, and the spare slots after them, which hold what
an earlier, longer list of the same field put there. -/
structure Slots (α : Type) where
  items : List α := []
  spare : List α := []
  deriving Repr

/-- A list. Its items decode into the slots already there, the items' and then the spare
ones, and past those into `empty`; slots past the new items stay as spare. An empty list and
`null` leave no slots at all. -/
def listIn {α : Type} (type : String) (item : Binder α) (empty : α) : Binder (Slots α) :=
  fun place j cur =>
    match j with
    | .array [] _ => pure {}
    | .array items _ => do
      let slots := cur.items ++ cur.spare
      let decoded ← (List.range items.length).zip items |>.mapM fun (i, v) =>
        item (place.item i) v (slots.getD i empty)
      pure ⟨decoded, slots.drop items.length⟩
    | .null => pure {}
    | _ => mismatched place type j

/-- One field of a record: its member name and how a value updates the record. -/
structure FieldIn (α : Type) where
  name : String
  bind : Place → Json → α → Decoding α

/-- A field stored in the record through `get` and `set`. -/
def FieldIn.of {α β : Type} (name : String) (b : Binder β) (get : α → β) (set : α → β → α) :
    FieldIn α :=
  ⟨name, fun place v r => do pure (set r (← b place v (get r)))⟩

/-- The name of a type without its package: `dto.CreateAccountRequest` is
`CreateAccountRequest`. -/
def shortName (type : String) : String := ((type.splitOn ".").getLast?).getD type

/-- A record of type `type` with its fields; at the top it names the document's root. -/
def recordIn {α : Type} (type : String) (fields : List (FieldIn α)) : Binder α :=
  fun place j cur =>
    match j with
    | .object members _ =>
      let place := if place.root.isEmpty then { place with root := shortName type } else place
      members.foldlM (fun r (k, v) =>
        match fields.find? (fun f => Json.foldKey f.name == Json.foldKey k) with
        | some f => f.bind (place.member k) v r
        | none => pure r) cur
    | .null => pure cur
    | _ => mismatched place type j

/-- Decodes a whole document into `empty`: the record, or the first value that does not fit. -/
def decodeWith {α : Type} (b : Binder α) (empty : α) (j : Json) : Except DecodeError α :=
  b Place.top j empty

/-- Decodes the first value of a body. -/
def decodeBody {α : Type} (b : Binder α) (empty : α) (body : String) : Except DecodeError α :=
  match Json.scanFirst body with
  | .error e => .error (.malformed e)
  | .ok j => decodeWith b empty j

/-- How a request to open an account decodes. -/
def accountRequestIn : Binder AccountRequest :=
  recordIn "dto.CreateAccountRequest"
    [.of "code" (textIn "string") (·.code) fun r v => { r with code := v },
     .of "name" (textIn "string") (·.name) fun r v => { r with name := v },
     .of "description" (textIn "string") (·.description) fun r v => { r with description := v },
     .of "accountType" (textIn "domain.AccountType") (·.type) fun r v => { r with type := v },
     .of "normalSide" (textIn "domain.NormalSide") (·.side) fun r v => { r with side := v },
     .of "parentCode" (optionalIn (textIn "string") "") (·.parent) fun r v => { r with parent := v },
     .of "isCashFlow" flagIn (·.cashFlow) fun r v => { r with cashFlow := v },
     .of "openingBalance" amountIn (·.opening) fun r v => { r with opening := v }]

/-- How changes to an account decode. -/
def accountPatchIn : Binder AccountPatch :=
  recordIn "dto.UpdateAccountRequest"
    [.of "name" (optionalIn (textIn "string") "") (·.name) fun r v => { r with name := v },
     .of "description" (optionalIn (textIn "string") "") (·.description)
       fun r v => { r with description := v },
     .of "parentCode" (optionalIn (textIn "string") "") (·.parent) fun r v => { r with parent := v },
     .of "isActive" (optionalIn flagIn false) (·.active) fun r v => { r with active := v },
     .of "isCashFlow" (optionalIn flagIn false) (·.cashFlow) fun r v => { r with cashFlow := v }]

/-- How one requested line decodes. -/
def lineRequestIn : Binder LineRequest :=
  recordIn "dto.JournalLineRequest"
    [.of "accountCode" (textIn "string") (·.code) fun r v => { r with code := v },
     .of "debitAmount" amountIn (·.debit) fun r v => { r with debit := v },
     .of "creditAmount" amountIn (·.credit) fun r v => { r with credit := v },
     .of "description" (textIn "string") (·.description) fun r v => { r with description := v },
     .of "costCenter" (textIn "string") (·.costCenter) fun r v => { r with costCenter := v },
     .of "projectCode" (textIn "string") (·.projectCode) fun r v => { r with projectCode := v },
     .of "relatedReferenceID" (textIn "string") (·.relatedRef)
       fun r v => { r with relatedRef := v }]

/-- How a requested entry decodes. -/
def entryRequestIn : Binder EntryRequest :=
  recordIn "dto.CreateJournalEntryRequest"
    [.of "entryDate" dateIn (·.date) fun r v => { r with date := v },
     .of "voucherType" (textIn "string") (·.voucher) fun r v => { r with voucher := v },
     .of "description" (textIn "string") (·.description) fun r v => { r with description := v },
     .of "referenceNumber" (textIn "string") (·.reference) fun r v => { r with reference := v },
     .of "lines" (listIn "[]dto.JournalLineRequest" lineRequestIn {})
       (fun r => ⟨r.lines, r.spareLines⟩)
       fun r v => { r with lines := v.items, spareLines := v.spare }]

/-- How a page request of the entry listing decodes. -/
def entryQueryIn : Binder EntryQuery :=
  recordIn "dto.ListJournalEntriesParams"
    [.of "status" (textIn "string") (·.status) fun r v => { r with status := v },
     .of "limit" intIn (·.limit) fun r v => { r with limit := v },
     .of "nextToken" (textIn "string") (·.token) fun r v => { r with token := v }]

/-- How a filter of the account listing decodes; its members carry the field names. -/
def accountQueryIn : Binder AccountQuery :=
  recordIn "dto.ListAccountsParams"
    [.of "Type" (textIn "string") (·.type) fun r v => { r with type := v },
     .of "ActiveOnly" flagIn (·.activeOnly) fun r v => { r with activeOnly := v }]

/-- Any value, kept as written. -/
def rawIn : Binder Json := fun _ j _ => pure j

/-- A map entry set: the entry of the key gets the value, in its place, or a new entry comes
last. -/
def setEntry (m : List (String × String)) (k v : String) : List (String × String) :=
  if m.any (·.1 == k) then m.map fun e => if e.1 == k then (k, v) else e
  else m ++ [(k, v)]

/-- A map of text by exact key: the members of an object set entries of the map already there,
in order, a later member of one key replacing an earlier one; a `null` member sets empty text
and `null` keeps the map as it is. -/
def textMapIn : Binder (List (String × String)) := fun place j cur =>
  match j with
  | .object members _ => members.foldlM (fun m (k, v) => do
      pure (setEntry m k (← textIn "string" (place.member k) v ""))) cur
  | .null => pure cur
  | _ => mismatched place "map[string]string" j

end Protocol

end Ledger
