import Ledger.Json
import Ledger.Office.Reports

/-!
Writing answers as JSON.

Amounts are written with two places except where a rule says otherwise, times in RFC 3339,
and optional members of an entry are left out when empty. A failure is written with the
name of its class, its message and its status.

A value holding times is `Written`: it cannot be written when one of its times has no JSON
form (see `Timestamp.writable`), and then the first such time is the reason.
-/

namespace Ledger

namespace Protocol

/-- A string member. -/
def str (k v : String) : String × Json := (k, Json.ofString v)

/-- An amount member with two places. -/
def money (k : String) (d : Decimal) : String × Json := (k, Json.ofString (Amount.format d))

/-- A value written as JSON, or the first time in it that has no JSON form. -/
abbrev Written := Except Timestamp Json

/-- A time member. -/
def time (k : String) (t : Timestamp) : Except Timestamp (String × Json) :=
  if t.writable then pure (k, Json.ofString t.render) else throw t

/-- A string member left out when empty. -/
def strIfAny (k v : String) : List (String × Json) := if v.isEmpty then [] else [str k v]

/-- An account. -/
def accountJson (a : Account) : Written := do
  pure (.obj [str "accountID" a.id, str "code" a.code, str "name" a.name,
    str "description" a.description, str "accountType" a.type.name,
    str "normalSide" a.side.name, str "parentCode" a.parent, ("level", Json.ofInt a.level),
    ("isActive", .bool a.active), ("isCashFlow", .bool a.cashFlow), money "openingBalance" a.opening,
    money "currentBalance" a.balance, ← time "createdAt" a.audit.createdAt,
    str "createdBy" a.audit.createdBy, ← time "lastUpdatedAt" a.audit.updatedAt,
    str "lastUpdatedBy" a.audit.updatedBy])

/-- Accounts in order. -/
def accountsJson (as : List Account) : Written := do pure (.arr (← as.mapM accountJson))

/-- A line of an entry. -/
def lineJson (l : Line) : Json :=
  .obj ([("lineNumber", Json.ofInt l.number), str "accountCode" l.code] ++
    strIfAny "accountName" l.accountName ++
    [money "debitAmount" l.debit, money "creditAmount" l.credit] ++
    strIfAny "description" l.description ++ strIfAny "costCenter" l.costCenter ++
    strIfAny "projectCode" l.projectCode ++ strIfAny "relatedReferenceID" l.relatedRef)

/-- An entry. -/
def entryJson (e : Entry) : Written := do
  let date ← time "entryDate" e.date
  let posted ← match e.postedAt with
    | some t => do pure [← time "postedAt" t]
    | none => pure []
  let created ← time "createdAt" e.audit.createdAt
  let updated ← time "lastUpdatedAt" e.audit.updatedAt
  pure (.obj ([str "entryID" e.id, str "entryNumber" e.number, date,
    str "voucherType" e.voucher, str "description" e.description] ++
    strIfAny "referenceNumber" e.reference ++
    [str "status" e.status.name, money "totalDebit" e.totalDebit,
      money "totalCredit" e.totalCredit] ++
    strIfAny "postedBy" e.postedBy ++ posted ++
    strIfAny "reversalOf" e.reversalOf ++ strIfAny "reversedBy" e.reversedBy ++
    [("lines", .arr (e.lines.map lineJson)), created,
      str "createdBy" e.audit.createdBy, updated,
      str "lastUpdatedBy" e.audit.updatedBy]))

/-- Entries in order. -/
def entriesJson (es : List Entry) : Written := do pure (.arr (← es.mapM entryJson))

/-- The trial balance report. -/
def trialJson (tb : TrialBalance) : Json :=
  .obj [("rows", .arr (tb.rows.map fun r =>
      .obj [str "accountCode" r.code, str "accountName" r.name, str "accountType" r.type.name,
        ("level", Json.ofInt r.level), money "debit" r.debit, money "credit" r.credit])),
    ("totals", .obj [money "debit" tb.totalDebit, money "credit" tb.totalCredit]),
    ("balanced", .bool tb.balanced)]

/-- The normal side and balance of each trial balance row. -/
def rowSidesJson (tb : TrialBalance) : Json :=
  .arr (tb.rows.map fun r => .obj [str "normalSide" r.side.name, money "balance" r.balance])

/-- An account statement; the closing balance is the last running balance, or the opening
balance when there are no lines. -/
def statementJson (a : Account) (lines : List StatementLine) : Written := do
  let closing := Office.closingBalance a.opening lines
  let rows ← lines.mapM fun l => do
    pure (Json.obj ([str "entryNumber" l.number, ← time "entryDate" l.date,
      ← time "postedAt" l.postedAt, ("lineNumber", Json.ofInt l.line)] ++
      strIfAny "description" l.description ++
      [money "debit" l.debit, money "credit" l.credit, money "runningBalance" l.running]))
  pure (.obj [str "accountCode" a.code, money "openingBalance" a.opening,
    money "closingBalance" closing, ("lines", .arr rows)])

/-- An announced event; its total is written in full. -/
def eventJson (e : Event) : Written := do
  pure (.obj ([str "eventID" e.id, str "type" e.kind.name, str "tenantID" e.tenant,
    str "entryNumber" e.number] ++ strIfAny "reversalOf" e.reversalOf ++
    [str "totalAmount" e.total.render, str "actorID" e.actor, ← time "occurredAt" e.occurredAt]))

/-- A successful answer. -/
def okJson (v : Json) : Json := .obj [("ok", v)]

/-- A failed answer: class name, message and status. -/
def faultJson (f : Fault) : Json :=
  .obj [str "error" f.kind, str "message" f.message, ("status", Json.ofInt f.status)]

/-- A failure that belongs to no class. -/
def plainErrorJson (message : String) : Json :=
  .obj [str "error" "Error", str "message" message, ("status", Json.ofInt 500)]

/-- Input that could not be read; `what` names the part. -/
def decodeErrorJson (what : String) : Json :=
  .obj [str "error" "DecodeError", str "message" what]

/-- The answer of an operation's outcome. -/
def outcomeJson {α : Type} (r : Except Fault α) (enc : α → Json) : Json :=
  match r with
  | .ok v => okJson (enc v)
  | .error f => faultJson f

/-- The answer of an operation's outcome whose value holds times. -/
def outcomeWritten {α : Type} (r : Except Fault α) (enc : α → Written) : Written :=
  match r with
  | .ok v => okJson <$> enc v
  | .error f => pure (faultJson f)

end Protocol

end Ledger
