import Ledger.Api.Url
import Ledger.Books

/-!
The routes of the ledger's HTTP interface.

A route is a method and a path pattern of literal and parameter segments. A path (bytes,
split at `/`) matches a pattern segment by segment; a parameter takes any segment, except
that a parameter that ends the path must not be empty. A code or number taken from the
path names exactly only when its bytes are UTF-8 (see `Ref`). When several routes match, the one whose first parameter
stands latest wins: a literal segment beats a parameter at the same place.

A path that matches no route of its method but ends in a slash is answered with a redirect
to the same path without that slash when the segments before the slash lead into a route of
its method: they match the start of its pattern, a parameter taking any segment (an empty
one too), and there the pattern either ends or has just taken a parameter. Every other
unmatched request is not found. The root path is never redirected.
-/

namespace Ledger

namespace Api

/-- What a request asks of the ledger. -/
inductive Endpoint where
  | health
  | createAccount
  | listAccounts
  | accountById (id : String)
  | getAccount (code : Ref)
  | updateAccount (code : Ref)
  | deactivateAccount (code : Ref)
  | listChildren (code : Ref)
  | statement (code : Ref)
  | createDraft
  | listEntries
  | entryById (id : String)
  | getEntry (number : Ref)
  | updateDraft (number : Ref)
  | discardDraft (number : Ref)
  | postEntry (number : Ref)
  | reverseEntry (number : Ref)
  | trialBalance
  | accountsByType (type : String)
  deriving Repr, DecidableEq

/-- Endpoints under the versioned prefix pass the rate limit and the tenant check; the
health check does not. -/
def Endpoint.scoped : Endpoint → Bool
  | .health => false
  | _ => true

/-- A segment of a path pattern. -/
inductive Segment where
  | lit (s : String)
  | param
  deriving Repr, DecidableEq

/-- A route: method, pattern, and the endpoint its parameters make. -/
structure Route where
  method : String
  pattern : List Segment
  endpoint : List (List UInt8) → Endpoint

/-- A pattern from its text: `:name` segments are parameters. -/
def pattern (text : String) : List Segment :=
  (text.splitOn "/").map fun s => if s.startsWith ":" then .param else .lit s

/-- The first parameter as text, with replacement characters where it is not UTF-8. -/
def firstParam (ps : List (List UInt8)) : String := Utf8.decodeLossy (ps.headD [])

/-- The first parameter as a reference. -/
def firstRef (ps : List (List UInt8)) : Ref :=
  let bs := ps.headD []
  match Utf8.decode? bs with
  | some s => ⟨s, true⟩
  | none => ⟨Utf8.decodeLossy bs, false⟩

/-- The segments of a path: its bytes split at every `/`. -/
def segmentsOf (path : List UInt8) : List (List UInt8) :=
  path.foldr (fun b acc =>
    if b == 0x2F then [] :: acc
    else match acc with
      | seg :: rest => (b :: seg) :: rest
      | [] => [[b]]) [[]]

/-- Every route. -/
def routes : List Route :=
  [⟨"GET", pattern "/health", fun _ => .health⟩,
   ⟨"POST", pattern "/api/v1/accounts", fun _ => .createAccount⟩,
   ⟨"GET", pattern "/api/v1/accounts", fun _ => .listAccounts⟩,
   ⟨"GET", pattern "/api/v1/accounts/by-id/:accountID", fun ps => .accountById (firstParam ps)⟩,
   ⟨"GET", pattern "/api/v1/accounts/:code", fun ps => .getAccount (firstRef ps)⟩,
   ⟨"PUT", pattern "/api/v1/accounts/:code", fun ps => .updateAccount (firstRef ps)⟩,
   ⟨"DELETE", pattern "/api/v1/accounts/:code", fun ps => .deactivateAccount (firstRef ps)⟩,
   ⟨"GET", pattern "/api/v1/accounts/:code/children", fun ps => .listChildren (firstRef ps)⟩,
   ⟨"GET", pattern "/api/v1/accounts/:code/statement", fun ps => .statement (firstRef ps)⟩,
   ⟨"POST", pattern "/api/v1/journal-entries", fun _ => .createDraft⟩,
   ⟨"GET", pattern "/api/v1/journal-entries", fun _ => .listEntries⟩,
   ⟨"GET", pattern "/api/v1/journal-entries/by-id/:entryID", fun ps => .entryById (firstParam ps)⟩,
   ⟨"GET", pattern "/api/v1/journal-entries/:entryNumber", fun ps => .getEntry (firstRef ps)⟩,
   ⟨"PUT", pattern "/api/v1/journal-entries/:entryNumber",
     fun ps => .updateDraft (firstRef ps)⟩,
   ⟨"DELETE", pattern "/api/v1/journal-entries/:entryNumber",
     fun ps => .discardDraft (firstRef ps)⟩,
   ⟨"POST", pattern "/api/v1/journal-entries/:entryNumber/post",
     fun ps => .postEntry (firstRef ps)⟩,
   ⟨"POST", pattern "/api/v1/journal-entries/:entryNumber/reverse",
     fun ps => .reverseEntry (firstRef ps)⟩,
   ⟨"GET", pattern "/api/v1/reports/trial-balance", fun _ => .trialBalance⟩,
   ⟨"GET", pattern "/api/v1/reports/accounts-by-type/:accountType",
     fun ps => .accountsByType (firstParam ps)⟩]

/-- The parameters of a path that matches a pattern; a final parameter must not be empty. -/
def matchSegments : List Segment → List (List UInt8) → Option (List (List UInt8))
  | [], [] => some []
  | [.param], [s] => if s.isEmpty then none else some [s]
  | .lit l :: ps, s :: ss => if Utf8.bytes l == s then matchSegments ps ss else none
  | .param :: ps, s :: ss => (s :: ·) <$> matchSegments ps ss
  | _, _ => none

/-- The place of a pattern's first parameter (its length when it has none): a later
parameter is a more specific route. -/
def specificity (p : List Segment) : Nat := (p.findIdx? (· == .param)).getD p.length

/-- The endpoint of the most specific route of `method` that `path` matches. -/
def resolve (method : String) (path : List UInt8) : Option Endpoint :=
  let segs := segmentsOf path
  let hits := routes.filterMap fun r =>
    if r.method != method then none
    else (matchSegments r.pattern segs).map fun ps => (specificity r.pattern, r.endpoint ps)
  (hits.foldl (fun best h => match best with
    | some b => if h.1 > b.1 then some h else some b
    | none => some h) none).map (·.2)

/-- Whether segments lead into a pattern: they match its first segments, a parameter taking
any segment, and the pattern ends there or the last segment they matched is a parameter
(`afterParam` says whether the segment before them was). -/
def leadsInto (afterParam : Bool) : List Segment → List (List UInt8) → Bool
  | [], [] => true
  | _ :: _, [] => afterParam
  | .lit l :: ps, s :: ss => Utf8.bytes l == s && leadsInto false ps ss
  | .param :: ps, _ :: ss => leadsInto true ps ss
  | [], _ :: _ => false

/-- What routing makes of a request. -/
inductive Routed where
  | found (e : Endpoint)
  /-- Answer with a redirect to the same path without its trailing slash. -/
  | redirect
  | missing
  deriving Repr, DecidableEq

/-- Routes a request by method and decoded path. -/
def route (method : String) (path : List UInt8) : Routed :=
  match resolve method path with
  | some e => .found e
  | none =>
    if path != [0x2F] && path.getLast? == some 0x2F then
      let segs := segmentsOf path.dropLast
      if routes.any (fun r => r.method == method && leadsInto false r.pattern segs) then .redirect
      else .missing
    else .missing

end Api

end Ledger
