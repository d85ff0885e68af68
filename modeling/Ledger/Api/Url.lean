import Ledger.Text.Unicode
import Ledger.Api.Address

/-!
Request lines and request targets.

A request line reads `METHOD TARGET VERSION`: it must hold two spaces, the method before the
first must be a token and the version after the second must read `HTTP/x.y`. The target then reads as a URI: no control
characters, not empty, either a path from the root or an absolute URI with a scheme (whose
host, the number after its colon and its user are checked), and every `%` in the path followed by two hex digits. A
bracket may only open a host, and what a bracketed host holds must be an IPv6 address.
Each failure has its own wording.

The path is percent-decoded into bytes, which need not be UTF-8. The query is kept raw: it
is a list of `key=value` pairs separated by `&`, where a pair holding `;` or an undecodable
escape is dropped, an empty pair is skipped, and in keys and values `+` stands for a space.

Paths are cleaned for redirects the usual lexical way: repeated slashes collapse, `.`
segments go, and `..` removes the segment before it. A path is written back with every byte
escaped but letters, digits and `-_.~$&+,/:;=@`.
-/

namespace Ledger

namespace Api

/-- The value of a hex digit. -/
def hexDigit (c : Char) : Option Nat :=
  if '0' ≤ c && c ≤ '9' then some (c.toNat - '0'.toNat)
  else if 'a' ≤ c && c ≤ 'f' then some (c.toNat - 'a'.toNat + 10)
  else if 'A' ≤ c && c ≤ 'F' then some (c.toNat - 'A'.toNat + 10)
  else none

/-- Percent-decodes characters into bytes; with `plus`, `+` is a space. -/
def percentDecode (plus : Bool) : List Char → Option (List UInt8)
  | [] => some []
  | '%' :: a :: b :: rest =>
    match hexDigit a, hexDigit b with
    | some x, some y => (UInt8.ofNat (16 * x + y) :: ·) <$> percentDecode plus rest
    | _, _ => none
  | '%' :: _ => none
  | c :: rest =>
    let bs := if plus && c = '+' then [0x20] else Utf8.bytes (String.singleton c)
    (bs ++ ·) <$> percentDecode plus rest

/-- Why a target does not read as a URI. -/
inductive UrlError where
  | controlChar
  | empty
  | missingScheme
  | notForRequest
  /-- A `%` without two hex digits (or, in a host, escaping a plain ASCII byte), shown by the
  bytes from the `%` on, three at most. -/
  | badEscape (shown : List UInt8)
  /-- A byte a host may not hold. -/
  | badHostByte (b : UInt8)
  | missingBracket
  /-- What follows a host's last colon (or its closing bracket) when it is not a colon and
  digits. -/
  | badHostSuffix (suffix : String)
  | badUserinfo
  /-- A host with a bracket that does not open it, or an IPv4 address between brackets. -/
  | badLiteral
  /-- A host between brackets that is no IP address. -/
  | badAddress (e : AddressError)
  deriving Repr, DecidableEq

/-- The wording of a URI failure. -/
def UrlError.message : UrlError → String
  | .controlChar => "net/url: invalid control character in URL"
  | .empty => "empty url"
  | .missingScheme => "missing protocol scheme"
  | .notForRequest => "invalid URI for request"
  | .badEscape shown => "invalid URL escape " ++ Unicode.quoteBytes shown
  | .badHostByte b => "invalid character " ++ Unicode.quoteBytes [b] ++ " in host name"
  | .missingBracket => "missing ']' in host"
  | .badHostSuffix suffix => "invalid port " ++ Unicode.quote suffix ++ " after host"
  | .badUserinfo => "net/url: invalid userinfo"
  | .badLiteral => "invalid IP-literal"
  | .badAddress e => "invalid host: " ++ e.message

/-- Why no request can be formed from a method and a target. -/
inductive LineError where
  | malformedRequest (line : String)
  | invalidMethod (method : String)
  | malformedVersion (version : String)
  /-- The target (as read, after any scheme put before it) is not a URI. -/
  | uri (raw : String) (e : UrlError)
  deriving Repr, DecidableEq

/-- The wording of a request line failure. -/
def LineError.message : LineError → String
  | .malformedRequest line => "malformed HTTP request " ++ Unicode.quote line
  | .invalidMethod m => "invalid method " ++ Unicode.quote m
  | .malformedVersion v => "malformed HTTP version " ++ Unicode.quote v
  | .uri raw e => "parse " ++ Unicode.quote raw ++ ": " ++ e.message

/-- A byte that is an ASCII letter or digit. -/
def isAlnumByte (b : UInt8) : Bool :=
  (0x41 ≤ b && b ≤ 0x5A) || (0x61 ≤ b && b ≤ 0x7A) || (0x30 ≤ b && b ≤ 0x39)

/-- A hex digit byte. -/
def isHexByte (b : UInt8) : Bool := (hexDigit (Char.ofNat b.toNat)).isSome

/-- Whether bytes hold one of the given ASCII characters. -/
def byteIn (chars : String) (b : UInt8) : Bool := (Utf8.bytes chars).contains b

/-- An ASCII byte a host holds as itself. -/
def hostByte (b : UInt8) : Bool :=
  isAlnumByte b || byteIn "-_.~!$&'()*+,;=:[]<>\"" b

/-- Checks the escapes of a host (or of a zone when `zone`): each `%` needs two hex digits,
and in a host it may only escape bytes from `0x80` on, or be `%25`. ASCII bytes must be
host bytes. -/
def checkHost (zone : Bool) : List UInt8 → Except UrlError Unit
  | [] => .ok ()
  | 0x25 :: a :: b :: rest =>
    if !(isHexByte a && isHexByte b) then .error (.badEscape [0x25, a, b])
    else
      let v := (hexDigit (Char.ofNat a.toNat)).getD 0 * 16 + (hexDigit (Char.ofNat b.toNat)).getD 0
      let pct := a == 0x32 && b == 0x35
      let refused := if zone then !pct && v != 0x20 && (v ≥ 0x80 || !hostByte (UInt8.ofNat v))
        else v < 0x80 && !pct
      if refused then .error (.badEscape [0x25, a, b]) else checkHost zone rest
  | 0x25 :: rest => .error (.badEscape (0x25 :: rest))
  | b :: rest =>
    if b < 0x80 && !hostByte b then .error (.badHostByte b) else checkHost zone rest

/-- Checks the escapes of a user name or password: each `%` needs two hex digits. -/
def checkEscapes : List UInt8 → Except UrlError Unit
  | [] => .ok ()
  | 0x25 :: a :: b :: rest =>
    if isHexByte a && isHexByte b then checkEscapes rest else .error (.badEscape [0x25, a, b])
  | 0x25 :: rest => .error (.badEscape (0x25 :: rest))
  | _ :: rest => checkEscapes rest

/-- What may follow a host: nothing, or a colon and digits. -/
def validHostSuffix (p : String) : Bool :=
  match p.toList with
  | [] => true
  | ':' :: ds => ds.all Char.isDigit
  | _ => false

/-- The text after the last occurrence of `c`, and the text before it, if `c` occurs. -/
def splitLast (s : String) (c : Char) : Option (String × String) :=
  match (s.splitOn c.toString).reverse with
  | last :: before@(_ :: _) => some (c.toString.intercalate before.reverse, last)
  | _ => none

/-- Checks a host with the number after its colon, and gives it decoded into bytes. A bracket
may only open the host. Outside brackets the number is what follows the last colon. A
bracketed host ends at its last `]`; its zone (after `%25`) may escape more. Once its escapes
are checked, what stands between the brackets, unescaped and zone included, must be an IPv6
address. -/
def parseHost (host : String) : Except UrlError (List UInt8) := do
  if (host.drop 1).toString.contains '[' then throw .badLiteral
  if host.startsWith "[" then
    match splitLast host ']' with
    | none => throw .missingBracket
    | some (front, after) =>
      unless validHostSuffix after do throw (.badHostSuffix after)
      let (address, zone) ← match front.splitOn "%25" with
        | head :: zone@(_ :: _) => do
          let zone := "%25" ++ "%25".intercalate zone
          checkHost false (Utf8.bytes head)
          checkHost true (Utf8.bytes zone)
          checkHost false (Utf8.bytes ("]" ++ after))
          pure ((head.drop 1).toString, zone)
        | _ => do
          checkHost false (Utf8.bytes host)
          pure ((front.drop 1).toString, "")
      let decoded := fun (t : String) => (percentDecode false t.toList).getD (Utf8.bytes t)
      match parseAddress (decoded address ++ decoded zone) with
      | .error e => throw (.badAddress e)
      | .ok a => if a.isV4 then throw .badLiteral
  else
    if let some (_, digits) := splitLast host ':' then
      unless validHostSuffix (":" ++ digits) do throw (.badHostSuffix (":" ++ digits))
    checkHost false (Utf8.bytes host)
  pure ((percentDecode false host.toList).getD (Utf8.bytes host))

/-- A userinfo character: letters, digits and `-._:~!$&'()*+,;=%@`. -/
def userinfoChar (c : Char) : Bool :=
  c.isAlphanum || "-._:~!$&'()*+,;=%@".contains c

/-- A byte a user name or password holds as itself when written back. -/
def userByte (b : UInt8) : Bool := isAlnumByte b || byteIn "-_.~$&+,;=" b

/-- Uppercase hex escape of a byte. -/
def escapeByte (b : UInt8) : String :=
  let digit := fun (n : Nat) => (Nat.toDigits 16 n).headD '0' |>.toUpper
  String.ofList ['%', digit (b.toNat / 16), digit (b.toNat % 16)]

/-- Bytes written back with every byte that `keep` refuses escaped. -/
def escapeWith (keep : UInt8 → Bool) (bs : List UInt8) : String :=
  String.join (bs.map fun b => if keep b then (Char.ofNat b.toNat).toString else escapeByte b)

/-- Checks an authority (`user@host:number`) and gives it as written back (the user name and
password escaped, then `@`, then the host escaped) and whether it names a host. -/
def parseAuthority (auth : String) : Except UrlError (String × Bool) := do
  let (user, host) := match splitLast auth '@' with
    | some (u, h) => (some u, h)
    | none => (none, auth)
  let hostBytes ← parseHost host
  let hostText := escapeWith hostByte hostBytes
  let named := !hostBytes.isEmpty
  match user with
  | none => pure (hostText, named)
  | some u =>
    unless u.all userinfoChar do throw .badUserinfo
    let parts := match u.splitOn ":" with
      | [] => [""]
      | name :: rest => if rest.isEmpty then [name] else [name, ":".intercalate rest]
    let shown ← parts.mapM fun p => do
      checkEscapes (Utf8.bytes p)
      pure (escapeWith userByte ((percentDecode false p.toList).getD (Utf8.bytes p)))
    pure (":".intercalate shown ++ "@" ++ hostText, named)

/-- A request target. -/
structure Target where
  /-- What is written before the path when the target is written back: the scheme with its
  colon, then `//` and the authority when one is given; empty for a path target. -/
  origin : String := ""
  /-- Whether a host was given. -/
  hasHost : Bool := false
  /-- The decoded path. -/
  path : List UInt8
  query : String
  /-- Whether a `?` was written (an empty query may still be marked). -/
  marked : Bool
  deriving Repr, DecidableEq

/-- The scheme of a URI and the rest after its colon, or none when it has none. A scheme is
a letter followed by letters, digits, `+`, `-` and `.`; a colon first is an error. -/
def schemeOf (raw : String) : Except UrlError (Option (String × String)) :=
  let cs := raw.toList
  let name := cs.takeWhile fun c => c.isAlpha || c.isDigit || c == '+' || c == '-' || c == '.'
  match cs.drop name.length with
  | ':' :: rest =>
    if name.isEmpty then .error .missingScheme
    else if (name.headD 'a').isAlpha then .ok (some (String.ofList name, String.ofList rest))
    else .ok none
  | _ => .ok none

/-- Reads a request target as a URI. -/
def Target.parse (raw : String) : Except UrlError Target := do
  if raw.toList.any (fun c => c.toNat < 0x20 || c.toNat == 0x7F) then throw .controlChar
  if raw.isEmpty then throw .empty
  if raw == "*" then return { path := Utf8.bytes "*", query := "", marked := false }
  let (scheme, rest) := match ← schemeOf raw with
    | some (s, r) => (String.map Char.toLower s, r)
    | none => ("", raw)
  let (rest, query, marked) :=
    if rest.endsWith "?" && (rest.toList.filter (· == '?')).length == 1 then
      ((rest.dropEnd 1).toString, "", true)
    else match rest.splitOn "?" with
      | [] => (rest, "", false)
      | p :: more => (p, "?".intercalate more, !more.isEmpty)
  if !rest.startsWith "/" then
    if scheme.isEmpty then throw .notForRequest
    return { origin := scheme ++ ":", path := [], query, marked }
  let origin := if scheme.isEmpty then "" else scheme ++ ":"
  let (origin, hasHost, rest) ← if !scheme.isEmpty && rest.startsWith "//" then do
      let after := (rest.drop 2).toString
      let (auth, path) := match after.splitOn "/" with
        | [] => ("", "")
        | a :: more => (a, if more.isEmpty then "" else "/" ++ "/".intercalate more)
      let (shown, named) ← parseAuthority auth
      pure (origin ++ "//" ++ shown, named, path)
    else pure (origin, false, rest)
  match percentDecode false rest.toList with
  | some path => pure { origin, hasHost, path, query, marked }
  | none =>
    let bytes := Utf8.bytes rest
    let fromPct := bytes.dropWhile (· != 0x25)
    let broken := (List.range fromPct.length).zip fromPct |>.find? fun (i, b) =>
      b == 0x25 && !(isHexByte ((fromPct.drop (i + 1)).headD 0) &&
        isHexByte ((fromPct.drop (i + 2)).headD 0) && i + 2 < fromPct.length)
    let pos := (broken.map (·.1)).getD 0
    throw (.badEscape ((fromPct.drop pos).take 3))

/-- A character of a token (method names, header names). -/
def isTokenChar (c : Char) : Bool :=
  c.isAlphanum || "!#$%&'*+-.^_|~".contains c || c.toNat == 0x60

/-- The numbers of a version `HTTP/x.y`, with one digit each side of the point. -/
def versionOf (v : String) : Option (Nat × Nat) :=
  if v == "HTTP/1.1" then some (1, 1)
  else if v == "HTTP/1.0" then some (1, 0)
  else match Utf8.bytes v with
    | [0x48, 0x54, 0x54, 0x50, 0x2F, x, 0x2E, y] =>
      if (0x30 ≤ x && x ≤ 0x39) && (0x30 ≤ y && y ≤ 0x39) then
        some (x.toNat - 0x30, y.toNat - 0x30)
      else none
    | _ => none

/-- A request line as read: the method, the target and the version numbers. -/
structure RequestLine where
  method : String
  target : Target
  version : Nat × Nat

/-- Reads a request line `METHOD TARGET VERSION`, or tells why it does not read. -/
def readRequestLine (line : String) : Except LineError RequestLine := do
  let (m, rest) ← match line.splitOn " " with
    | m :: more@(_ :: _) => pure (m, " ".intercalate more)
    | _ => throw (.malformedRequest line)
  let (uri, version) ← match rest.splitOn " " with
    | u :: more@(_ :: _) => pure (u, " ".intercalate more)
    | _ => throw (.malformedRequest line)
  if m.isEmpty || !m.all isTokenChar then throw (.invalidMethod m)
  let some numbers := versionOf version | throw (.malformedVersion version)
  let raw := if m == "CONNECT" && !uri.startsWith "/" then "http://" ++ uri else uri
  match Target.parse raw with
  | .ok t => pure ⟨m, t, numbers⟩
  | .error e => throw (.uri raw e)

/-- The pairs of a raw query, in order; values are bytes. -/
def queryPairs (raw : String) : List (String × List UInt8) :=
  (raw.splitOn "&").filterMap fun piece =>
    if piece.isEmpty || piece.contains ';' then none
    else
      let (k, v) := match piece.splitOn "=" with
        | [] => ("", "")
        | k :: rest => (k, "=".intercalate rest)
      match percentDecode true k.toList, percentDecode true v.toList with
      | some k, some v => some (Utf8.decodeLossy k, v)
      | _, _ => none

/-- The first value of a query key. -/
def queryValue? (pairs : List (String × List UInt8)) (key : String) : Option (List UInt8) :=
  (pairs.find? (·.1 == key)).map (·.2)

/-- The segments of a path after cleaning: no empty or `.` segment is left, and `..` removes
the segment before it. A `..` with nothing before it goes in a rooted path and stays in a
relative one. -/
def cleanSegments (rooted : Bool) (segs : List String) : List String :=
  (segs.foldl (fun acc s =>
    if s.isEmpty || s == "." then acc
    else if s == ".." then
      match acc with
      | top :: rest => if top == ".." then s :: acc else rest
      | [] => if rooted then [] else [s]
    else s :: acc) []).reverse

/-- A path cleaned lexically; it stays rooted when it was, and is `.` when nothing is left. -/
def cleanPath (p : String) : String :=
  let rooted := p.startsWith "/"
  let body := "/".intercalate (cleanSegments rooted (p.splitOn "/"))
  if rooted then "/" ++ body else if body.isEmpty then "." else body

/-- The directory part of a path: everything up to its last slash. -/
def dirOf (p : String) : String :=
  String.ofList ((p.toList.reverse.dropWhile (· != '/')).reverse)

/-- A byte a path may hold unescaped: letters, digits and `-_.~$&+,/:;=@`. -/
def pathSafe (b : UInt8) : Bool := isAlnumByte b || byteIn "-_.~$&+,/:;=@" b

/-- A path with every byte that may not stand unescaped escaped. -/
def escapePath (p : List UInt8) : String := escapeWith pathSafe p

/-- Escapes the characters that are markup in HTML text and attributes. -/
def htmlEscape (s : String) : String :=
  String.join (s.toList.map fun c =>
    if c = '&' then "&amp;"
    else if c = '<' then "&lt;"
    else if c = '>' then "&gt;"
    else if c = '"' then "&#34;"
    else if c = '\'' then "&#39;"
    else c.toString)

end Api

end Ledger
