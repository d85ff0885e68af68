import Ledger.Api.Route
import Ledger.Api.Head
import Ledger.Api.Limit
import Ledger.Api.Query
import Ledger.Protocol.Bind
import Ledger.Protocol.Encode

/-!
Serving requests of the ledger's HTTP interface.

A request is routed by method and decoded path. Requests under the versioned prefix are
counted by the rate limit (per tenant header, or per client address without one), then
need a tenant header; the acting user is the user header, `anonymous` when it is missing.
A body is decoded into its request record and checked against the record's rules, every
broken rule listed; a query is read into its parameters and checked the same way. Either
failure is a bad request. Services answer as in the rest of the ledger: a failure keeps
its status, and its message is shown below status 500 only.

Creating an account, creating a draft and reversing answer 201; deleting answers 204 with
no body; everything else answers 200.
-/

namespace Ledger

namespace Api

open Protocol

/-- A request to the HTTP interface. -/
structure Request where
  method : String
  target : String
  headers : List (String × String)
  body : Option String
  deriving Repr

/-- A response body: JSON, or text. -/
inductive Body where
  | json (j : Json)
  | text (t : String)
  deriving Repr

/-- A response: status and body. -/
structure Response where
  status : Nat
  body : Body
  deriving Repr

/-- A JSON body with one `error` member. -/
def errorBody (message : String) : Body := .json (.obj [str "error" message])

/-- The value of a header, names compared up to ASCII case when they are tokens; the last
header of a name wins. -/
def header? (headers : List (String × String)) (name : String) : Option String :=
  let same := fun (k : String) =>
    if k.all isTokenChar then Json.foldKey k == Json.foldKey name else k == name
  (headers.filter (same ·.1)).getLast?.map (·.2)

/-- The headers a request is served with: those given with it, which replace any field of the
same name, over the fields its text carries. -/
structure Headers where
  given : List (String × String)
  carried : Fields

/-- The value of a header: a given one, else the first value of a carried field. -/
def Headers.get (h : Headers) (name : String) : Option String :=
  match header? h.given name with
  | some v => some v
  | none => (fieldValues h.carried (canonicalKey name)).head?

/-- A dotted IPv4 address: four decimal parts up to 255, without leading zeros. -/
def isIPv4 (s : String) : Bool :=
  let parts := s.splitOn "."
  parts.length == 4 && parts.all fun p =>
    !p.isEmpty && p.length ≤ 3 && p.all Char.isDigit && (p.length == 1 || !p.startsWith "0") &&
      (p.toNat?.getD 256) ≤ 255

/-- The groups of one side of an IPv6 address and how many 16-bit groups they make, or
none when a group is malformed. A final IPv4 part counts as two groups. -/
def ipv6Groups (side : String) (last : Bool) : Option Nat :=
  if side.isEmpty then some 0
  else
    let groups := side.splitOn ":"
    let n := groups.length
    let ok := (List.range n).zip groups |>.all fun (i, g) =>
      if last && i + 1 == n && g.contains '.' then isIPv4 g
      else !g.isEmpty && g.length ≤ 4 && g.all fun c => c.isDigit || ('a' ≤ c.toLower && c.toLower ≤ 'f')
    let v4 := last && (groups.getLast?.map (·.contains '.')).getD false
    if ok then some (if v4 then n + 1 else n) else none

/-- An IPv6 address in hex groups, with at most one `::`. -/
def isIPv6 (s : String) : Bool :=
  match s.splitOn "::" with
  | [whole] => ipv6Groups whole true == some 8
  | [l, r] =>
    match ipv6Groups l false, ipv6Groups r true with
    | some a, some b => a + b ≤ 7
    | _, _ => false
  | _ => false

/-- A forwarding header naming the client: all of its comma-separated addresses must be
valid, and the first one is the client. -/
def forwardedClient (value : Option String) : Option String :=
  match value with
  | none => none
  | some "" => none
  | some v =>
    let items := (v.splitOn ",").map Unicode.trimSpace
    if items.all (fun i => isIPv4 i || isIPv6 i) then items.head? else none

/-- The client address of a request: the first forwarding header that names one, else the
address requests come from. -/
def clientAddress (headers : Headers) : String :=
  match forwardedClient (headers.get "X-Forwarded-For") with
  | some ip => ip
  | none => (forwardedClient (headers.get "X-Real-IP")).getD "192.0.2.1"

/-- The key a request is counted under: its tenant, or its client address. -/
def limitKey (headers : Headers) : String :=
  match headers.get "X-Tenant-ID" with
  | some t => if t.isEmpty then clientAddress headers else "tenant:" ++ t
  | none => clientAddress headers

/-- A service answer: `ok` with the encoded value, or the failure with its status; from
status 500 on the failure shows the fixed text `fixed` instead of its message. A value that
cannot be written answers `ok` with an empty body. -/
def reply {α : Type} (ok : Nat) (fixed : String) (r : Except Fault α) (enc : α → Written) :
    Response :=
  match r with
  | .ok v => match enc v with
    | .ok j => ⟨ok, .json j⟩
    | .error _ => ⟨ok, .text ""⟩
  | .error f =>
    let st := f.status
    ⟨st, errorBody (if st ≥ 500 then fixed else f.message)⟩

/-- A list of accounts as the interface wraps it. -/
def accountListJson (as : List Account) : Written := do
  pure (.obj [("accounts", ← accountsJson as)])

/-- Decodes the first value of a carried body. The value is read as the bytes come; when they
do not settle it, the reader asks for more and meets what ends the body: a failure is
reported as it is, and a clean end reads the bytes as the whole text. -/
def decodeCarried {α : Type} (b : Binder α) (empty : α) (body : Carried) :
    Except DecodeError α :=
  let text := Utf8.decodeLossy body.bytes
  match Json.scanOpen text, body.beyond with
  | .value j, _ => decodeWith b empty j
  | .failed e, _ => .error (.malformed e)
  | .wantsMore, some m => .error (.rejected m)
  | .wantsMore, none =>
    match Json.scanFirst text with
    | .ok j => decodeWith b empty j
    | .error e => .error (.malformed e)

/-- Decodes and checks a body; the failure reads as a bad request format. -/
def bindJson {α : Type} (b : Binder α) (empty : α) (violations : α → List Violation)
    (body : Carried) : Except Response α :=
  let bad := fun (m : String) => (⟨400, errorBody ("Invalid request format: " ++ m)⟩ : Response)
  match decodeCarried b empty body with
  | .error e => .error (bad e.message)
  | .ok r => match violations r with
    | [] => .ok r
    | vs => .error (bad (Violation.listing vs))

/-- Reads and checks query parameters; the failure reads as bad query parameters. -/
def bindQuery {α : Type} (read : Except QueryError α) (violations : α → List Violation) :
    Except Response α :=
  let bad := fun (m : String) => (⟨400, errorBody ("Invalid query parameters: " ++ m)⟩ : Response)
  match read with
  | .error e => .error (bad e.message)
  | .ok r => match violations r with
    | [] => .ok r
    | vs => .error (bad (Violation.listing vs))

/-- An answer that changes nothing. -/
def still (o : Office) (r : Response) : Response × Office := (r, o)

/-- Runs a service that may change the office. -/
def running {α : Type} (ok : Nat) (fixed : String) (enc : α → Written) (out : Outcome α) :
    Response × Office :=
  (reply ok fixed out.1 enc, out.2)

/-- Runs a service that answers with no content on success. -/
def runningQuiet (fixed : String) (out : Outcome Unit) : Response × Office :=
  match out.1 with
  | .ok () => (⟨204, .text ""⟩, out.2)
  | .error f => (reply 204 fixed (.error f : Except Fault Unit) (fun _ => pure .null), out.2)

/-- Answers an endpoint for a tenant and user. -/
def handle (o : Office) (c : Ctx) (query : List (String × List UInt8)) (body : Carried) :
    Endpoint → Response × Office
  | .health => still o ⟨200, .text "OK"⟩
  | .createAccount =>
    match bindJson accountRequestIn {} AccountRequest.violations body with
    | .error r => still o r
    | .ok req => running 201 "Failed to create account" accountJson (o.registerAccount c req)
  | .listAccounts =>
    match bindQuery (accountQueryOf query) AccountQuery.violations with
    | .error r => still o r
    | .ok p =>
      let b := o.books
      let found : Except Fault (List Account) :=
        if !p.type.isEmpty then
          (Office.accountsOfType b c.tenant p.type).map fun as =>
            if p.activeOnly then as.filter (·.active) else as
        else if p.activeOnly then .ok (Office.activeAccounts b c.tenant)
        else .ok (b.accountsOf c.tenant)
      still o (reply 200 "Failed to list accounts" found accountListJson)
  | .accountById id =>
    still o (reply 200 "Failed to retrieve account" (Office.accountById o.books c.tenant id)
      accountJson)
  | .getAccount code =>
    still o (reply 200 "Failed to retrieve account" (Office.accountByCode o.books c.tenant code)
      accountJson)
  | .updateAccount code =>
    match bindJson accountPatchIn {} AccountPatch.violations body with
    | .error r => still o r
    | .ok p => running 200 "Failed to update account" accountJson (o.updateAccount c code p)
  | .deactivateAccount code =>
    runningQuiet "Failed to deactivate account" (o.deactivateAccount c code)
  | .listChildren code =>
    still o (reply 200 "Failed to list child accounts" (Office.childrenOf o.books c.tenant code)
      accountListJson)
  | .statement code =>
    still o (reply 200 "Failed to build account statement"
      (Office.statement o.books c.tenant code) fun (a, lines) => statementJson a lines)
  | .createDraft =>
    match bindJson entryRequestIn {} EntryRequest.violations body with
    | .error r => still o r
    | .ok req => running 201 "Failed to create journal entry" entryJson (o.createDraft c req)
  | .listEntries =>
    match bindQuery (entryQueryOf query) EntryQuery.violations with
    | .error r => still o r
    | .ok q =>
      still o (reply 200 "Failed to list journal entries"
        (Office.listEntries o.books o.pageSize c.tenant q) fun (entries, next) => do
          pure (.obj ([("entries", ← entriesJson entries)] ++
            match next with
            | some t => [str "nextToken" t]
            | none => [])))
  | .entryById id =>
    still o (reply 200 "Failed to retrieve journal entry" (Office.entryById o.books c.tenant id)
      entryJson)
  | .getEntry number =>
    still o (reply 200 "Failed to retrieve journal entry"
      (Office.entryByNumber o.books c.tenant number) entryJson)
  | .updateDraft number =>
    match bindJson entryRequestIn {} EntryRequest.violations body with
    | .error r => still o r
    | .ok req =>
      running 200 "Failed to update journal entry" entryJson (o.updateDraft c number req)
  | .discardDraft number => runningQuiet "Failed to discard journal entry" (o.discardDraft c number)
  | .postEntry number => running 200 "Failed to post journal entry" entryJson (o.postEntry c number)
  | .reverseEntry number =>
    running 201 "Failed to reverse journal entry"
      (fun (src, comp) => do
        pure (.obj [("original", ← entryJson src), ("reversal", ← entryJson comp)]))
      (o.reverseEntry c number)
  | .trialBalance => still o ⟨200, .json (trialJson (Office.trialBalance o.books c.tenant))⟩
  | .accountsByType type =>
    still o (reply 200 "Failed to list accounts by type"
      (Office.accountsOfType o.books c.tenant type) accountListJson)

/-- A character a forwarded prefix keeps: an ASCII letter or digit, `/` or `-`. -/
def forwardedSafe (c : Char) : Bool := c.isAlphanum || c == '/' || c == '-'

/-- Text with every run of slashes made one slash. -/
def collapseSlashes (s : String) : String :=
  String.ofList (s.toList.foldl (fun acc c =>
    if c == '/' && acc.head? == some '/' then acc else c :: acc) []).reverse

/-- The path a trailing-slash redirect points at: the request path, under the forwarded
prefix when the request names one (cleaned, reduced to safe characters, slashes
collapsed), with its trailing slash removed. -/
def redirectPath (headers : Headers) (path : List UInt8) : List UInt8 :=
  let pre := cleanPath ((headers.get "X-Forwarded-Prefix").getD "")
  let p := if pre == "." then path
    else Utf8.bytes (collapseSlashes (String.ofList (pre.toList.filter forwardedSafe)) ++ "/") ++ path
  if p.length > 1 && p.getLast? == some 0x2F then p.dropLast else p ++ [0x2F]

/-- The written form of a target with a new path: the target's scheme and authority, the
escaped path (after `./` when, with nothing before it, its first segment holds a colon,
which would read as a scheme), then the query when one was marked. After a scheme with no
authority, a path opening with `//` would read as an authority, so its first slash is
written `%2F`. -/
def locationOf (path : List UInt8) (t : Target) : String :=
  let esc := escapePath path
  let bare := !t.origin.isEmpty && !t.origin.contains '/'
  let esc := if bare && esc.startsWith "//" then "%2F" ++ (esc.drop 1).toString else esc
  let lead :=
    if !t.origin.isEmpty then
      t.origin ++ (if t.hasHost && !esc.isEmpty && !esc.startsWith "/" then "/" else "")
    else if ((esc.splitOn "/").headD "").contains ':' then "./"
    else ""
  lead ++ esc ++ (if t.marked then "?" ++ t.query else "")

/-- Whether a location names a host: it starts with two slashes, not three, and something
stands before the next slash or query. -/
def namesHost (url : String) : Bool :=
  url.startsWith "//" && !url.startsWith "///" &&
    !((url.drop 2).toString.takeWhile (fun c => c != '/' && c != '?' && c != '#')).isEmpty

/-- A location as the redirect states it. One that names no host is made absolute against
the directory of the redirected path and cleaned, keeping a trailing slash and the query. -/
def resolveLocation (current url : String) : String :=
  if namesHost url then url
  else
    let url := if url.startsWith "/" then url else dirOf current ++ url
    let (p, q) := match url.splitOn "?" with
      | [] => ("", "")
      | p :: rest => (p, if rest.isEmpty then "" else "?" ++ "?".intercalate rest)
    let c := cleanPath p
    let c := if p.endsWith "/" && !c.endsWith "/" then c ++ "/" else c
    c ++ q

/-- Whether a location reads back as a URL: every `%` after its first `#` (the query of a
target keeps any `#`) starts an escape of two hex digits. -/
def readsBack (url : String) : Bool :=
  match url.splitOn "#" with
  | _ :: fragment@(_ :: _) =>
    match checkEscapes (Utf8.bytes ("#".intercalate fragment)) with
    | .ok _ => true
    | .error _ => false
  | _ => true

/-- The redirect to `path`: 301 with a short link page for `GET`, 307 with no body
otherwise. The location keeps the query; one without a scheme that reads back as a URL is
resolved against the path, any other is stated as it is. -/
def redirectTo (method : String) (path : List UInt8) (t : Target) : Response :=
  let loc := locationOf path t
  let url := if t.origin.isEmpty && readsBack loc then resolveLocation (Utf8.decodeLossy path) loc
    else loc
  if method == "GET" then
    ⟨301, .text ("<a href=\"" ++ htmlEscape url ++ "\">Moved Permanently</a>.\n\n")⟩
  else ⟨307, .text ""⟩

/-- Serves one request at time `now`, counting it with the rate limit `meter` when there
is one. The request's head is read from its method and target; the headers given with the
request replace fields of the same name, and a body given with it replaces the body the
target carries. Gives the response, the office and the meter after it, or why no request
could be formed from the method and target. -/
def serve (o : Office) (meter : Option Meter) (now : Timestamp) (req : Request) :
    Except String (Response × Office × Option Meter) := do
  let head ← match readHead req.method req.target with
    | .ok h => pure h
    | .error e => throw ("invalid NewRequest arguments; " ++ e.message)
  let method := head.line.method
  let t := head.line.target
  let headers : Headers := ⟨req.headers, head.fields⟩
  let body := match req.body with
    | some text => Carried.ofText text
    | none => head.body
  pure <| match route method t.path with
  | .missing => (⟨404, .text "404 page not found"⟩, o, meter)
  | .redirect => (redirectTo method (redirectPath headers t.path) t, o, meter)
  | .found e =>
    if !e.scoped then
      let (r, o) := handle o ⟨"", "", now⟩ [] body e
      (r, o, meter)
    else
      let (limited, meter) := match meter with
        | some m =>
          let (limited, m) := m.hit (limitKey headers)
          (limited, some m)
        | none => (false, none)
      if limited then
        (⟨429, errorBody "Too many requests. Please try again later."⟩, o, meter)
      else
        match headers.get "X-Tenant-ID" with
        | none => (⟨400, errorBody "missing X-Tenant-ID header"⟩, o, meter)
        | some tenant =>
          if tenant.isEmpty then (⟨400, errorBody "missing X-Tenant-ID header"⟩, o, meter)
          else
            let user := match headers.get "X-User-ID" with
              | some u => if u.isEmpty then "anonymous" else u
              | none => "anonymous"
            let (r, o) := handle o ⟨tenant, user, now⟩ (queryPairs t.query) body e
            (r, o, meter)

end Api

end Ledger
