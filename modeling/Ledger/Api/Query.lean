import Ledger.Api.Url
import Ledger.Request
import Ledger.Text.Unicode
import Ledger.Text.Numeral

/-!
Listing parameters read from a query.

Each parameter takes the first value of its key; a key left out keeps the field's empty
value, and an empty value reads as `false` or `0`. Parameters are read in field order and
the first one that does not read stops the reading, quoting the value's bytes. Text
parameters are read as UTF-8, with replacement characters where the bytes are not.
-/

namespace Ledger

namespace Api

/-- Why a query parameter does not read. -/
inductive QueryError where
  /-- Not a truth value. -/
  | flag (value : List UInt8)
  /-- Not a 64-bit decimal integer. -/
  | number (value : List UInt8) (problem : Numeral.NumberProblem)
  deriving Repr, DecidableEq

/-- The wording of a query failure. -/
def QueryError.message : QueryError → String
  | .flag v => "strconv.ParseBool: parsing " ++ Unicode.quoteBytes v ++ ": invalid syntax"
  | .number v .malformed =>
    "strconv.ParseInt: parsing " ++ Unicode.quoteBytes v ++ ": invalid syntax"
  | .number v .outOfRange =>
    "strconv.ParseInt: parsing " ++ Unicode.quoteBytes v ++ ": value out of range"

/-- A truth-valued parameter. -/
def flagParam (v : List UInt8) : Except QueryError Bool :=
  let v := if v.isEmpty then Utf8.bytes "false" else v
  match Numeral.readBool (Utf8.decodeLossy v) with
  | some b => .ok b
  | none => .error (.flag v)

/-- An integer parameter. -/
def intParam (v : List UInt8) : Except QueryError Int :=
  let v := if v.isEmpty then Utf8.bytes "0" else v
  match Numeral.readDecimal (Utf8.decodeLossy v) with
  | .ok n => .ok n
  | .error p => .error (.number v p)

/-- A text parameter. -/
def textParam (pairs : List (String × List UInt8)) (key : String) : String :=
  Utf8.decodeLossy ((queryValue? pairs key).getD [])

/-- The filter of the account listing: `type` and `activeOnly`. -/
def accountQueryOf (pairs : List (String × List UInt8)) : Except QueryError AccountQuery := do
  let type := textParam pairs "type"
  let activeOnly ← match queryValue? pairs "activeOnly" with
    | some v => flagParam v
    | none => pure false
  pure { type, activeOnly }

/-- The page request of the entry listing: `status`, `limit` and `nextToken`. -/
def entryQueryOf (pairs : List (String × List UInt8)) : Except QueryError EntryQuery := do
  let status := textParam pairs "status"
  let limit ← match queryValue? pairs "limit" with
    | some v => intParam v
    | none => pure 0
  let token := textParam pairs "nextToken"
  pure { status, limit, token }

end Api

end Ledger
