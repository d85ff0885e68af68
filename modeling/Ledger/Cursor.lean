import Ledger.Time.Read
import Ledger.Text.Base64
import Ledger.Text.Utf8

/-!
Page cursors of the entry listing.

Entries are listed newest first by entry date, then creation time, then entry number. A
`Cursor` holds those three keys of the last entry of a page, and the next page holds the
entries that sort after it (`Cursor.after`). A cursor travels as a token: the two times in
RFC 3339 and the number, joined by bars and written in base64. Reading a token checks the
base64, the three parts, the two times and a non-empty number, in that order; the number is
everything after the second bar and may hold bars itself.
-/

namespace Ledger

/-- The sort keys of the last entry of a page. The number is kept as bytes, since a token
may carry bytes that are not UTF-8. -/
structure Cursor where
  date : Timestamp
  createdAt : Timestamp
  number : List UInt8
  deriving Repr, DecidableEq

/-- Why a token is not a cursor. -/
inductive TokenError where
  | base64 (position : Nat)
  | split
  | entryDate (e : TimeError)
  | createdAt (e : TimeError)
  | missingNumber
  deriving Repr, DecidableEq

namespace TokenError

/-- The wording of a rejection. -/
def message : TokenError → String
  | .base64 i => "invalid pagination token format (base64 decode): " ++ Base64.errorMessage i
  | .split => "invalid pagination token format (split)"
  | .entryDate e => "invalid pagination token format (entry date parse): " ++ e.message
  | .createdAt e => "invalid pagination token format (created_at parse): " ++ e.message
  | .missingNumber => "invalid pagination token format (missing entry number)"

end TokenError

namespace Cursor

/-- The entry with these keys sorts after the cursor: an earlier entry date, or the same
instant and an earlier creation time, or both the same and a smaller number. -/
def after (c : Cursor) (date createdAt : Timestamp) (number : String) : Bool :=
  if !date.sameInstant c.date then date.before c.date
  else if !createdAt.sameInstant c.createdAt then createdAt.before c.createdAt
  else Utf8.bytesLt (Utf8.bytes number) c.number

/-- The token of a cursor. -/
def encode (c : Cursor) : String :=
  Base64.encode (Utf8.bytes (c.date.render ++ "|" ++ c.createdAt.render ++ "|") ++ c.number)

/-- Splits at the first two bars; the third part keeps any later bars. -/
def splitParts (bs : List UInt8) : Option (List UInt8 × List UInt8 × List UInt8) :=
  match bs.findIdx? (· = 0x7C) with
  | none => none
  | some i =>
    let rest := bs.drop (i + 1)
    match rest.findIdx? (· = 0x7C) with
    | none => none
    | some j => some (bs.take i, rest.take j, rest.drop (j + 1))

/-- Reads a token. -/
def decode (token : String) : Except TokenError Cursor := do
  let bs ← match Base64.decode token with
    | .ok bs => .ok bs
    | .error i => .error (.base64 i)
  let some (d, c, n) := splitParts bs | throw .split
  let date ← match Timestamp.readBytes d with
    | .ok t => .ok t
    | .error e => .error (.entryDate e)
  let createdAt ← match Timestamp.readBytes c with
    | .ok t => .ok t
    | .error e => .error (.createdAt e)
  if n.isEmpty then throw .missingNumber
  pure ⟨date, createdAt, n⟩

end Cursor

/-- A requested page size: zero or less takes the default, and nothing exceeds the
maximum. -/
def clampLimit (requested default maximum : Int) : Int :=
  let r := if requested ≤ 0 then default else requested
  if r > maximum then maximum else r

end Ledger
