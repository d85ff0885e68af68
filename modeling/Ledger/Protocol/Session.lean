import Ledger.Protocol.Step
import Ledger.Protocol.Encode
import Ledger.Api.Serve

/-!
Sessions: a run of steps over one office that starts empty.

A session keeps a clock (set by a step's `now` and read in UTC), the events already shown,
and the token of the last successful entry listing. Each step names an operation, a tenant
(`T1` unless given) and a user (`u1` unless given), and is answered on its own; a failing
step does not stop the session. Only an HTTP step whose request cannot be formed at all
halts it. The answers are written together at the end: when one of them holds a time with
no JSON form, the session has no written answer.
-/

namespace Ledger

namespace Protocol

/-- The state of a running session. -/
structure Session where
  office : Office
  clock : Timestamp := ⟨2024, 1, 1, 0, 0, 0, 0, 0⟩
  /-- How many announced events earlier steps have shown. -/
  shown : Nat := 0
  /-- The token of the last successful listing, empty when it had none. -/
  lastToken : String := ""
  /-- The written rate limit of the HTTP interface, empty for none. -/
  rateLimit : String := ""
  /-- The HTTP interface once a request has set it up: its rate meter, or why it could not
  be set up. -/
  gate : Option (Except String (Option Api.Meter)) := none

/-- The identifier a step names: the one `idIndex` numbers when given, else `id`. -/
def Step.target (step : Step) : String :=
  match step.idIndex with
  | some n => Office.idIndexed n
  | none => step.id

/-- The movements of a direct posting; a bad amount names its member. -/
def Step.movements (step : Step) : Except String (List Office.Movement) :=
  step.postings.items.mapM fun p => do
    pure ⟨p.code, ← amountOf p.debit "debit", ← amountOf p.credit "credit"⟩

/-- The request an `http` step describes: method (`GET` by default), target, headers (a
tenant and a user header unless given), and a body given as text or else as JSON. -/
def Step.request (step : Step) : Api.Request :=
  let method := if step.method.isEmpty then "GET" else step.method
  let headers := step.headers.getD [("X-Tenant-ID", "T1"), ("X-User-ID", "u1")]
  let body := match step.bodyText with
    | some t => some t
    | none => step.body.map Json.render
  { method, target := step.path, headers, body }

/-- A response as a step answers it: the status, and the body as JSON or as text. -/
def responseJson (r : Api.Response) : Json :=
  .obj [("status", Json.ofInt r.status),
    match r.body with
    | .json j => ("body", j)
    | .text t => str "bodyText" t]

/-- The HTTP interface of a session, set up on first use with the session's rate limit. -/
def Session.gateway (s : Session) : Except String (Option Api.Meter) :=
  match s.gate with
  | some g => g
  | none =>
    if s.rateLimit.isEmpty then .ok none
    else match Api.Rate.parse s.rateLimit with
      | .ok r => .ok (some { rate := r })
      | .error e => .error ("invalid RATE_LIMIT " ++ Unicode.quote s.rateLimit ++ ": " ++ e)

/-- How a step ends the whole session: a request the interface could not even be given,
with the reason. -/
abbrev Halt := String

/-- Answers one operation of a step with context `c`; an `http` step whose request cannot be
formed halts the session. -/
def runOp (s : Session) (c : Ctx) (step : Step) : Except Halt (Written × Session) :=
  let o := s.office
  let b := o.books
  let same := fun (w : Written) => Except.ok (w, s)
  let json := fun (j : Json) => Except.ok (Except.ok j, s)
  let withOffice := fun (r : Written × Office) => Except.ok (r.1, { s with office := r.2 })
  let done := fun (_ : Unit) => Json.obj [("done", .bool true)]
  match step.op with
  | "register_account" =>
    match accountRequest step.req with
    | none => json (decodeErrorJson "req")
    | some req =>
      let (r, o) := o.registerAccount c req
      withOffice (outcomeWritten r accountJson, o)
  | "update_account" =>
    match accountPatch step.req with
    | none => json (decodeErrorJson "req")
    | some p =>
      let (r, o) := o.updateAccount c step.code p
      withOffice (outcomeWritten r accountJson, o)
  | "deactivate_account" =>
    let (r, o) := o.deactivateAccount c step.code
    withOffice (pure (outcomeJson r done), o)
  | "get_account" | "by_code" =>
    same (outcomeWritten (Office.accountByCode b c.tenant step.code) accountJson)
  | "get_account_by_id" =>
    same (outcomeWritten (Office.accountById b c.tenant step.target) accountJson)
  | "list_accounts" => same (okJson <$> accountsJson (b.accountsOf c.tenant))
  | "list_accounts_by_type" | "by_type" =>
    same (outcomeWritten (Office.accountsOfType b c.tenant step.type) accountsJson)
  | "list_active_accounts" => same (okJson <$> accountsJson (Office.activeAccounts b c.tenant))
  | "list_children" | "children_of" =>
    same (outcomeWritten (Office.childrenOf b c.tenant step.code) accountsJson)
  | "create_draft" =>
    match entryRequest step.req with
    | none => json (decodeErrorJson "req")
    | some req =>
      let (r, o) := o.createDraft c req
      withOffice (outcomeWritten r entryJson, o)
  | "update_draft" =>
    match entryRequest step.req with
    | none => json (decodeErrorJson "req")
    | some req =>
      let (r, o) := o.updateDraft c step.entryNumber req
      withOffice (outcomeWritten r entryJson, o)
  | "discard_draft" =>
    let (r, o) := o.discardDraft c step.entryNumber
    withOffice (pure (outcomeJson r done), o)
  | "post_entry" =>
    let (r, o) := o.postEntry c step.entryNumber
    withOffice (outcomeWritten r entryJson, o)
  | "reverse_entry" =>
    let (r, o) := o.reverseEntry c step.entryNumber
    withOffice (outcomeWritten r (fun (src, comp) => do
      pure (.obj [("original", ← entryJson src), ("reversal", ← entryJson comp)])), o)
  | "get_entry" => same (outcomeWritten (Office.entryByNumber b c.tenant step.entryNumber) entryJson)
  | "get_entry_by_id" => same (outcomeWritten (Office.entryById b c.tenant step.target) entryJson)
  | "list_entries" =>
    match entryQuery step.params with
    | none => json (decodeErrorJson "params")
    | some q =>
      let q := if step.usePrevToken then { q with token := s.lastToken } else q
      match Office.listEntries b o.pageSize c.tenant q with
      | .error f => json (faultJson f)
      | .ok (entries, next) =>
        .ok ((do
            pure (okJson (.obj ([("entries", ← entriesJson entries)] ++
              match next with
              | some t => [str "nextToken" t]
              | none => [])))),
          { s with lastToken := next.getD "" })
  | "trial_balance" =>
    let tb := Office.trialBalance b c.tenant
    json (okJson (.obj [("report", trialJson tb), ("rowSides", rowSidesJson tb)]))
  | "account_statement" =>
    same (outcomeWritten (Office.statement b c.tenant step.code) fun (a, lines) =>
      statementJson a lines)
  | "events" =>
    .ok (do pure (okJson (.arr (← (o.events.drop s.shown).mapM eventJson))),
      { s with shown := o.events.length })
  | "ledger_post" =>
    match step.movements with
    | .error what => json (decodeErrorJson what)
    | .ok moves =>
      let (r, o) := o.directPost c moves (step.lock.map (·.items))
      withOffice (pure (outcomeJson r fun bs => .obj [("balances",
        .arr (bs.map fun d => Json.ofString (Amount.format d)))]), o)
  | "http" =>
    match s.gateway with
    | .error msg => .ok (pure (plainErrorJson msg), { s with gate := some (.error msg) })
    | .ok meter => do
      let (resp, office, meter) ← Api.serve o meter c.now step.request
      pure (pure (okJson (responseJson resp)), { s with office, gate := some (.ok meter) })
  | op => json (decodeErrorJson ("unknown op " ++ op))

/-- Answers one step: sets the clock when `now` is given, then runs the operation. -/
def runStep (s : Session) (step : Step) : Except Halt (Written × Session) :=
  if step.now.isEmpty then run s
  else match Timestamp.read step.now with
    | .ok ts => run { s with clock := ts }
    | .error _ => .ok (pure (decodeErrorJson ("bad time " ++ step.now)), s)
where
  run (s : Session) : Except Halt (Written × Session) :=
    let c : Ctx := { tenant := step.tenant.getD "T1", user := step.user.getD "u1",
                     now := s.clock.toUTC }
    runOp s c step

/-- Answers every step in order, or halts at the first step that halts. -/
def runSteps (s : Session) : List Step → Except Halt (List Written)
  | [] => .ok []
  | step :: rest => do
    let (answer, s) ← runStep s step
    pure (answer :: (← runSteps s rest))

/-- The answer of a session: a halt is reported as a panic with its reason; otherwise every
answer must be written, or the whole answer is refused as unwritable. -/
def sessionAnswer (r : Except Halt (List Written)) : Json :=
  match r with
  | .error msg => .obj [str "error" "Panic", str "message" msg]
  | .ok ws => match ws.mapM id with
    | .ok js => .obj [("results", .arr js)]
    | .error _ => .obj [str "error" "EncodeError"]

/-- Answers a whole session input: its steps, then the page size and the rate limit, each
refused by name when it does not decode. -/
def runSession (input : Json) : Json :=
  match stepsOf ((input.member? "steps").getD .null) with
  | none => decodeErrorJson "steps"
  | some steps =>
    let pageSize := match input.member? "pageSize" with
      | none | some .null => some 0
      | some (.num lit) => readWholeInt lit
      | some _ => none
    match pageSize with
    | none => decodeErrorJson "pageSize"
    | some n =>
      match textAt input "rateLimit" with
      | .error what => decodeErrorJson what
      | .ok rateLimit =>
        let office : Office := { pageSize := if n > 0 then n.toNat else 20 }
        sessionAnswer (runSteps { office, rateLimit } steps)

end Protocol

end Ledger
