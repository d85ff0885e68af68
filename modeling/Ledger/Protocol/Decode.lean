import Ledger.Protocol.Bind

/-!
Reading input objects.

The members of an input object are looked up by their exact name, the last one winning; a
member that is absent or `null` reads as empty. A member of the wrong kind is refused with
the member's name. Records inside an input (a line to check, a cursor, a failure to
classify, page limits) decode as request records do (`Ledger.Protocol.Bind`): member names
match up to case, and any value that does not fit refuses the whole record. Amounts are read
from the raw text of their value (see `Decimal.ofQuoted`), so an amount may be a string or a
number.
-/

namespace Ledger

namespace Protocol

/-- A text member; anything but a string or `null` is refused with the member's name. -/
def textAt (j : Json) (key : String) : Except String String :=
  match j.member? key with
  | none | some .null => .ok ""
  | some (.str lit) => .ok (Json.unescape lit)
  | some _ => .error key

/-- An amount from the raw text of a value; `null` is zero. A value that does not read is
refused with `what`. -/
def amountOf (j : Json) (what : String) : Except String Decimal :=
  match Decimal.ofQuoted j.render with
  | .ok d => .ok d
  | .error _ => .error what

/-- An amount member: absent is zero, as is `null`. -/
def amountAt (j : Json) (key what : String) : Except String Decimal :=
  amountOf ((j.member? key).getD .null) what

/-- A record member decoded with a binder from `empty`; one that does not fit is refused
with `what`. -/
def recordAt {α : Type} (j : Json) (key : String) (b : Binder α) (empty : α) (what : String) :
    Except String α :=
  match decodeWith b empty ((j.member? key).getD .null) with
  | .ok r => .ok r
  | .error _ => .error what

/-- A line as the line checks read it: its number, its account code and its raw amounts. -/
structure LineInput where
  number : Int := 0
  code : String := ""
  debit : Json := .null
  credit : Json := .null
  deriving Repr

/-- How a line to check decodes; other members are skipped. -/
def lineInputIn : Binder LineInput :=
  recordIn "lineInput"
    [.of "lineNumber" intIn (·.number) fun r v => { r with number := v },
     .of "accountCode" (textIn "string") (·.code) fun r v => { r with code := v },
     .of "debitAmount" rawIn (·.debit) fun r v => { r with debit := v },
     .of "creditAmount" rawIn (·.credit) fun r v => { r with credit := v }]

/-- The stored line a line to check stands for; a bad amount is refused as `amount`. -/
def LineInput.toLine (l : LineInput) : Except String Line := do
  let debit ← amountOf l.debit "amount"
  let credit ← amountOf l.credit "amount"
  pure { (default : Line) with number := l.number, code := l.code, debit, credit }

/-- A page cursor as written: its times as text, and its entry number. -/
structure CursorInput where
  date : String := ""
  createdAt : String := ""
  number : String := ""
  deriving Repr

/-- How a written cursor decodes; its members carry the field names. -/
def cursorInputIn : Binder CursorInput :=
  recordIn "cursorInput"
    [.of "EntryDate" (textIn "string") (·.date) fun r v => { r with date := v },
     .of "CreatedAt" (textIn "string") (·.createdAt) fun r v => { r with createdAt := v },
     .of "EntryNumber" (textIn "string") (·.number) fun r v => { r with number := v }]

/-- A time written in a cursor: empty is the zero time. -/
def readTime (t : String) : Except String Timestamp :=
  if t.isEmpty then .ok Timestamp.zero
  else match Timestamp.read t with
    | .ok ts => .ok ts
    | .error _ => .error ("bad time " ++ t)

/-- The cursor a written cursor stands for. -/
def CursorInput.toCursor (c : CursorInput) : Except String Cursor := do
  pure ⟨← readTime c.date, ← readTime c.createdAt, Utf8.bytes c.number⟩

/-- A question whether an entry comes after a cursor: the written cursor and the entry's
keys, all as text. -/
structure CursorQuery where
  cursor : CursorInput := {}
  date : String := ""
  createdAt : String := ""
  number : String := ""
  deriving Repr

/-- How a cursor question decodes: as one record, so that a member of the wrong kind anywhere
refuses the whole question. -/
def cursorQueryIn : Binder CursorQuery :=
  recordIn "cursorQuery"
    [.of "cursor" cursorInputIn (·.cursor) fun r v => { r with cursor := v },
     .of "entryDate" (textIn "string") (·.date) fun r v => { r with date := v },
     .of "createdAt" (textIn "string") (·.createdAt) fun r v => { r with createdAt := v },
     .of "entryNumber" (textIn "string") (·.number) fun r v => { r with number := v }]

/-- A failure to classify: a class by name, the contexts wrapped around it, a plain cause,
and the status and message of a failure that carries its own. -/
structure FailureSpec where
  sentinel : String := ""
  wrap : Slots String := {}
  cause : Option String := none
  code : Int := 0
  message : String := ""
  deriving Repr

/-- How a failure to classify decodes. -/
def failureSpecIn : Binder FailureSpec :=
  recordIn "errorSpec"
    [.of "sentinel" (textIn "string") (·.sentinel) fun r v => { r with sentinel := v },
     .of "wrap" (listIn "[]string" (textIn "string") "") (·.wrap) fun r v => { r with wrap := v },
     .of "cause" (optionalIn (textIn "string") "") (·.cause) fun r v => { r with cause := v },
     .of "code" intIn (·.code) fun r v => { r with code := v },
     .of "message" (textIn "string") (·.message) fun r v => { r with message := v }]

/-- The numbers of a page size request. -/
structure LimitSpec where
  requested : Int := 0
  default : Int := 0
  max : Int := 0
  deriving Repr

/-- How the numbers of a page size request decode. -/
def limitSpecIn : Binder LimitSpec :=
  recordIn "limitSpec"
    [.of "requested" intIn (·.requested) fun r v => { r with requested := v },
     .of "def" intIn (·.default) fun r v => { r with default := v },
     .of "max" intIn (·.max) fun r v => { r with max := v }]

/-- A request to open an account. -/
def accountRequest (j : Json) : Option AccountRequest :=
  (decodeWith accountRequestIn {} j).toOption

/-- Changes to an account. -/
def accountPatch (j : Json) : Option AccountPatch := (decodeWith accountPatchIn {} j).toOption

/-- One requested line. -/
def lineRequest (j : Json) : Option LineRequest := (decodeWith lineRequestIn {} j).toOption

/-- A requested entry. -/
def entryRequest (j : Json) : Option EntryRequest := (decodeWith entryRequestIn {} j).toOption

/-- A page request of the entry listing. -/
def entryQuery (j : Json) : Option EntryQuery := (decodeWith entryQueryIn {} j).toOption

/-- A filter of the account listing. -/
def accountQuery (j : Json) : Option AccountQuery := (decodeWith accountQueryIn {} j).toOption

end Protocol

end Ledger
