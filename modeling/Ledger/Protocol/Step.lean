import Ledger.Protocol.Decode

/-!
Steps of a session as written.

A step is a record with one member per thing an operation may need; member names match up to
case, and a value of the wrong kind refuses the whole session. Requests, page parameters and
bodies are kept as written and decoded by the operation that uses them; a tenant, a user, a
lock list, headers and a body text may be absent, which differs from empty.
-/

namespace Ledger

namespace Protocol

/-- One posting of a direct posting step: an account code and the raw amounts. -/
structure PostingInput where
  code : String := ""
  debit : Json := .null
  credit : Json := .null
  deriving Repr

/-- How a posting decodes. -/
def postingInputIn : Binder PostingInput :=
  recordIn "postingInput"
    [.of "code" (textIn "string") (·.code) fun r v => { r with code := v },
     .of "debit" rawIn (·.debit) fun r v => { r with debit := v },
     .of "credit" rawIn (·.credit) fun r v => { r with credit := v }]

/-- A step of a session. -/
structure Step where
  op : String := ""
  tenant : Option String := none
  user : Option String := none
  now : String := ""
  req : Json := .null
  code : String := ""
  id : String := ""
  idIndex : Option Int := none
  type : String := ""
  entryNumber : String := ""
  params : Json := .null
  usePrevToken : Bool := false
  postings : Slots PostingInput := {}
  lock : Option (Slots String) := none
  method : String := ""
  path : String := ""
  headers : Option (List (String × String)) := none
  body : Option Json := none
  bodyText : Option String := none
  deriving Repr

/-- A value that is kept as written whenever it is given, `null` included. -/
def givenIn : Binder (Option Json) := fun _ j _ => pure (some j)

/-- How a step decodes. -/
def stepIn : Binder Step :=
  let text := textIn "string"
  recordIn "step"
    [.of "op" text (·.op) fun r v => { r with op := v },
     .of "tenant" (optionalIn text "") (·.tenant) fun r v => { r with tenant := v },
     .of "user" (optionalIn text "") (·.user) fun r v => { r with user := v },
     .of "now" text (·.now) fun r v => { r with now := v },
     .of "req" rawIn (·.req) fun r v => { r with req := v },
     .of "code" text (·.code) fun r v => { r with code := v },
     .of "id" text (·.id) fun r v => { r with id := v },
     .of "idIndex" (optionalIn intIn 0) (·.idIndex) fun r v => { r with idIndex := v },
     .of "type" text (·.type) fun r v => { r with type := v },
     .of "entryNumber" text (·.entryNumber) fun r v => { r with entryNumber := v },
     .of "params" rawIn (·.params) fun r v => { r with params := v },
     .of "usePrevToken" flagIn (·.usePrevToken) fun r v => { r with usePrevToken := v },
     .of "postings" (listIn "[]posting" postingInputIn {}) (·.postings)
       fun r v => { r with postings := v },
     .of "lock" (optionalIn (listIn "[]string" text "") {}) (·.lock) fun r v => { r with lock := v },
     .of "method" text (·.method) fun r v => { r with method := v },
     .of "path" text (·.path) fun r v => { r with path := v },
     .of "headers" (optionalIn textMapIn []) (·.headers) fun r v => { r with headers := v },
     .of "body" givenIn (·.body) fun r v => { r with body := v },
     .of "bodyText" (optionalIn text "") (·.bodyText) fun r v => { r with bodyText := v }]

/-- The steps of a session: absent or `null` is none, a `null` step is the empty step. -/
def stepsOf (j : Json) : Option (List Step) :=
  match j with
  | .null => some []
  | .array items _ => (items.mapM fun item => decodeWith stepIn {} item).toOption
  | _ => none

end Protocol

end Ledger
