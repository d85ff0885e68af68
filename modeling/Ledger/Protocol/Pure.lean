import Ledger.Protocol.Session
import Ledger.Cursor
import Ledger.Failure
import Ledger.Config

/-!
Answers of the single-shot operations: amount reading and checks, the posting rules, the
trial balance columns, the names of types, sides and statuses, page tokens, cursors, page
sizes, request rules, the classification of composed failures and the service settings.
Each reads its own members from the input object.
-/

namespace Ledger

namespace Protocol

/-- The answer of a reading: a decoding failure or the encoded value. -/
def decoded (r : Except String Json) : Json :=
  match r with
  | .ok v => v
  | .error what => decodeErrorJson what

/-- Reads an amount and shows it exactly, with two places, and its exponent. -/
def parseAmount (j : Json) : Json :=
  match j.member? "amount" with
  | none => decodeErrorJson "amount"
  | some raw =>
    match Decimal.ofQuoted raw.render with
    | .error msg => .obj [str "error" "AmountParse", str "message" msg]
    | .ok d => okJson (.obj [str "string" d.render, str "fixed" (d.renderFixed 2),
        ("exponent", Json.ofInt d.exp)])

/-- Checks an amount against the ledger's amount rules. -/
def validateAmount (j : Json) : Json := decoded do
  let field ← textAt j "field"
  let d ← amountAt j "amount" "amount"
  pure <| match Amount.check field d with
    | .ok () => okJson (.obj [money "formatted" d])
    | .error p => plainErrorJson p.message

/-- The signed change of a balance on a side named as given. -/
def signedDeltaAnswer (j : Json) : Json := decoded do
  let name ← textAt j "side"
  let debit ← amountAt j "debit" "amount"
  let credit ← amountAt j "credit" "amount"
  pure <| match Side.ofName? name with
    | some side => okJson (.obj [str "delta" (signedDelta side debit credit).render])
    | none => faultJson (.unknownSide name)

/-- Checks one line as given. -/
def validateLine (j : Json) : Json := decoded do
  let l ← (← recordAt j "line" lineInputIn {} "line").toLine
  pure (outcomeJson (checkLine l) fun _ => .obj [("valid", .bool true)])

/-- Checks the lines of an entry and shows the totals exactly. -/
def validateBalance (j : Json) : Json := decoded do
  let given := (← recordAt j "lines" (listIn "[]lineInput" lineInputIn {}) {} "lines").items
  let ls ← given.mapM LineInput.toLine
  pure (outcomeJson (checkBalance ls) fun (d, c) =>
    .obj [str "totalDebit" d.render, str "totalCredit" c.render])

/-- The trial balance columns of a balance: the debit side when named `DEBIT`, the credit
side otherwise. -/
def trialColumnsAnswer (j : Json) : Json := decoded do
  let name ← textAt j "side"
  let balance ← amountAt j "balance" "balance"
  let side : Side := if name == "DEBIT" then .debit else .credit
  let (debit, credit) := trialColumns side balance
  pure (okJson (.obj [str "debit" debit.render, str "credit" credit.render]))

/-- Whether a name is an account type, its default side, and whether it names a side or an
entry status. -/
def accountTypeAnswer (j : Json) : Json := decoded do
  let name ← textAt j "type"
  let type := AccountType.ofName? name
  pure (okJson (.obj [("valid", .bool type.isSome),
    str "defaultNormalSide" ((type.map AccountType.normalSide).getD .credit).name,
    ("normalSideValid", .bool (Side.ofName? name).isSome),
    ("statusValid", .bool (EntryStatus.ofName? name).isSome)]))

/-- The page token of a cursor. All three keys are read as text before either time is
read. -/
def encodeToken (j : Json) : Json := decoded do
  let date ← textAt j "entryDate"
  let createdAt ← textAt j "createdAt"
  let number ← textAt j "entryNumber"
  let cur : Cursor := ⟨← readTime date, ← readTime createdAt, Utf8.bytes number⟩
  pure (okJson (.obj [str "token" cur.encode]))

/-- The cursor a page token carries; its times are written with their offsets. -/
def decodeToken (j : Json) : Json := decoded do
  match Cursor.decode (← textAt j "token") with
  | .error e => pure (plainErrorJson e.message)
  | .ok cur => pure (okJson (.obj [str "entryDate" cur.date.render,
      str "createdAt" cur.createdAt.render, str "entryNumber" (Utf8.decodeLossy cur.number)]))

/-- Whether an entry with the given keys comes after a cursor. -/
def cursorAfterAnswer (j : Json) : Json := decoded do
  let q ← match decodeWith cursorQueryIn {} j with
    | .ok q => pure q
    | .error _ => throw "cursor"
  let cur ← q.cursor.toCursor
  let date ← readTime q.date
  let createdAt ← readTime q.createdAt
  pure (okJson (.obj [("after", .bool (cur.after date createdAt q.number))]))

/-- The page size a request gets. -/
def clampLimitAnswer (j : Json) : Json :=
  match decodeWith limitSpecIn {} j with
  | .ok l => okJson (.obj [("limit", Json.ofInt (clampLimit l.requested l.default l.max))])
  | .error _ => decodeErrorJson "ints"

/-- The first broken request rule of a value of the named kind. -/
def validateStruct (j : Json) : Json := decoded do
  let kind ← textAt j "kind"
  let value := (j.member? "value").getD .null
  let check {α : Type} (read : Json → Option α) (violation : α → Option Violation) :
      Except String Json :=
    match read value with
    | none => throw "value"
    | some r => pure <| match violation r with
      | none => okJson (.obj [("valid", .bool true)])
      | some v => faultJson (.fieldRule v.path v.rule.tag)
  match kind with
  | "create_account" => check accountRequest AccountRequest.violation
  | "update_account" => check accountPatch AccountPatch.violation
  | "journal_entry" => check entryRequest EntryRequest.violation
  | "journal_line" => check lineRequest LineRequest.violation
  | "list_entries_params" => check entryQuery EntryQuery.violation
  | "list_accounts_params" => check accountQuery AccountQuery.violation
  | _ => throw "kind"

/-- The cause a failure input names: a class by name (which must be one), else a plain
text (the empty text included), else none, each wrapped in the given contexts in order. -/
def FailureSpec.cause? (spec : FailureSpec) : Except String Failure := do
  let base ← if spec.sentinel.isEmpty then
      pure (match spec.cause with
        | some text => Failure.plain text
        | none => Failure.absent)
    else match Sentinel.ofName? spec.sentinel with
      | some s => pure (.sentinel s)
      | none => throw "sentinel"
  pure (spec.wrap.items.foldl (fun f w => .wrap w f) base)

/-- The classification of a failure: class name, wording, status and whether it may be
retried. -/
def failureJson (f : Failure) : Json :=
  okJson (.obj [str "kind" f.kind, str "message" f.text, ("status", Json.ofInt f.status),
    ("retryable", .bool f.retryable)])

/-- Reads a failure to classify and builds the failure from it and its cause; a build that
comes to no failure at all is refused as a missing class. -/
def classifying (j : Json) (build : FailureSpec → Failure → Failure) : Json := decoded do
  match decodeWith failureSpecIn {} j with
  | .error _ => throw "error spec"
  | .ok spec =>
    match build spec (← spec.cause?) with
    | .absent => throw "sentinel"
    | f => pure (failureJson f)

/-- Classifies a class wrapped in contexts. With no class, no cause and no context there is
nothing to classify. -/
def classifyAnswer (j : Json) : Json := classifying j fun _ cause => cause

/-- Classifies a failure carrying its own status over a cause. -/
def appFailureAnswer (j : Json) : Json :=
  classifying j fun spec cause => .withStatus spec.code spec.message cause

/-- Classifies a storage failure over a cause. -/
def storageAnswer (j : Json) : Json :=
  classifying j fun spec cause => Failure.storage spec.message cause

/-- A list setting: `null` when empty. -/
def listJson (xs : List String) : Json :=
  if xs.isEmpty then .null else .arr (xs.map Json.ofString)

/-- The settings read from the given variables; a later variable of one name wins. -/
def loadConfigAnswer (j : Json) : Json := decoded do
  let vars ← recordAt j "env" textMapIn [] "env"
  pure <| match Config.load vars.reverse with
  | .error msg => plainErrorJson msg
  | .ok c => okJson (.obj [str "Port" c.listenOn, ("IsProduction", .bool c.isProduction),
      str "StorageBackend" c.storageBackend, str "DatabaseURL" c.databaseUrl,
      ("EnableDBCheck", .bool c.enableDbCheck), ("RunMigrations", .bool c.runMigrations),
      str "MigrationsPath" c.migrationsPath, ("KafkaBrokers", listJson c.kafkaBrokers),
      str "KafkaTopic" c.kafkaTopic, str "RateLimit" c.rateLimit,
      ("CORSAllowedOrigins", listJson c.corsOrigins),
      ("DefaultPageSize", Json.ofInt c.defaultPageSize)])

end Protocol

end Ledger
