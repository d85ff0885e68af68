import Ledger.Api.Url

/-!
The head of a request, read from the text a request is formed from.

A request for a method and a target is the text `METHOD TARGET HTTP/1.0`, a line end and an
empty line. A target that holds line feeds brings lines of its own: the first line is the
request line, the lines after it up to the first empty one are header fields, and what
follows the empty line is the body the request text carries.

Lines end at a line feed, a carriage return right before it left out. A field line is
`name: value`; a line that starts with a space or a tab continues the field above it and is
joined to it with one space, and the first field line may not be such a continuation. A
name is a token, put in canonical form (`x-tenant-id` is `X-Tenant-Id`), or a token with
spaces, kept as written. A value may hold tabs, printable ASCII and anything from `0x80` on,
and is read without the blanks that open it. Each failure has its own wording.

The fields then frame the body. Only one `Host` field is allowed. From HTTP/1.1 on (and at
version 0.0, which counts as 1.1), a `Transfer-Encoding` field must be the single word
`chunked`, and the body is then read in chunks; otherwise a `Content-Length` field (repeated
only with one value) gives the length of the body, and without one the body is empty. An
empty `Content-Length` leaves the length open: the body then runs to the end of the text when
the connection closes after the request, and is empty when it stays open. A body that ends
before its length, or whose chunks break off, carries the failure that ends it (see
`Ending`).
-/

namespace Ledger

namespace Api

/-- Why the head of a request does not read. -/
inductive HeadError where
  | line (e : LineError)
  /-- The first field line starts with a blank. -/
  | initialContinuation (line : String)
  | tooLarge
  | missingColon (line : String)
  /-- A field with a bad name or a bad byte in its value. -/
  | badField (field : String)
  | tooManyHosts
  | tooManyEncodings (values : List String)
  | unsupportedEncoding (value : String)
  | contentLengths (values : List String)
  | badContentLength (value : String)
  | badTrailerKey (key : String)
  /-- The text ends inside the head. -/
  | endsEarly
  deriving Repr, DecidableEq

/-- Texts quoted one by one between brackets, as a list of texts is shown. -/
def quoteAll (xs : List String) : String :=
  "[" ++ " ".intercalate (xs.map Unicode.quote) ++ "]"

/-- The wording of a head failure. -/
def HeadError.message : HeadError → String
  | .line e => e.message
  | .initialContinuation l => "malformed MIME header initial line: " ++ Unicode.quote l
  | .tooLarge => "http: request too large"
  | .missingColon l => "malformed MIME header: missing colon: " ++ Unicode.quote l
  | .badField f => "malformed MIME header line: " ++ Unicode.quote f
  | .tooManyHosts => "too many Host headers"
  | .tooManyEncodings vs => "too many transfer encodings: " ++ quoteAll vs
  | .unsupportedEncoding v => "unsupported transfer encoding: " ++ Unicode.quote v
  | .contentLengths vs =>
    "http: message cannot contain multiple Content-Length headers; got " ++ quoteAll vs
  | .badContentLength v => "bad Content-Length " ++ Unicode.quote v
  | .badTrailerKey k => "bad trailer key " ++ Unicode.quote k
  | .endsEarly => "unexpected EOF"

/-- A space or a tab. -/
def isBlank (c : Char) : Bool := c == ' ' || c == '\t'

/-- Characters without the blanks around them. -/
def trimBlanks (cs : List Char) : List Char :=
  ((cs.dropWhile isBlank).reverse.dropWhile isBlank).reverse

/-- Text without the spaces, tabs, line feeds and carriage returns around it. -/
def trimLineSpace (s : String) : String :=
  let ws := fun (c : Char) => isBlank c || c == '\n' || c == '\r'
  String.ofList ((s.toList.dropWhile ws).reverse.dropWhile ws).reverse

/-- The next line and the text after it: up to a line feed, without a carriage return right
before the feed, or the rest of the text when no feed is left; `none` at the end. -/
def readLine (cs : List Char) : Option (List Char × List Char) :=
  match cs with
  | [] => none
  | _ => match cs.span (· != '\n') with
    | (line, _ :: rest) => some (if line.getLast? == some '\r' then line.dropLast else line, rest)
    | (line, []) => some (line, [])

/-- The canonical form of a token name: upper case at its start and after each `-`, lower
case elsewhere. -/
def canonicalToken (name : List Char) : List Char :=
  (name.foldl (fun (acc : List Char × Bool) c =>
    let c := if acc.2 then c.toUpper else c.toLower
    (acc.1 ++ [c], c == '-')) ([], true)).1

/-- The key a header name is looked up by: its canonical form when it is a token, else the
name as written. -/
def canonicalKey (name : String) : String :=
  if name.toList.all isTokenChar then String.ofList (canonicalToken name.toList) else name

/-- The name of a field line: canonical when it is a token, as written when it also holds
spaces; `none` when it is empty or holds anything else. -/
def fieldName (k : List Char) : Option String :=
  if k.isEmpty then none
  else if k.all fun c => isTokenChar c || c == ' ' then
    some (String.ofList (if k.contains ' ' then k else canonicalToken k))
  else none

/-- A character a field value may hold: a tab, printable ASCII, or anything from `0x80`. -/
def valueChar (c : Char) : Bool :=
  c == '\t' || (0x20 ≤ c.toNat && c.toNat ≤ 0x7E) || 0x80 ≤ c.toNat

/-- Header fields: each name with its values in the order given. -/
abbrev Fields := List (String × List String)

/-- The fields with one more value of a name, after the values it already has. -/
def addField (fs : Fields) (name value : String) : Fields :=
  if fs.any (·.1 == name) then fs.map fun f => if f.1 == name then (f.1, f.2 ++ [value]) else f
  else fs ++ [(name, [value])]

/-- The values of a name. -/
def fieldValues (fs : Fields) (name : String) : List String :=
  ((fs.find? (·.1 == name)).map (·.2)).getD []

/-- The fields without a name. -/
def dropField (fs : Fields) (name : String) : Fields := fs.filter (·.1 != name)

/-- Joins the continuation lines after a field line: each line that starts with blanks adds
one space and the line without the blanks around it. -/
def continueField : Nat → List Char → List Char → List Char × List Char
  | 0, acc, cs => (acc, cs)
  | fuel + 1, acc, cs =>
    match cs with
    | c :: _ =>
      if isBlank c then
        match readLine (cs.dropWhile isBlank) with
        | some (line, rest) => continueField fuel (acc ++ ' ' :: trimBlanks line) rest
        | none => (acc ++ [' '], [])
      else (acc, cs)
    | [] => (acc, cs)

/-- Reads field lines up to the empty line that ends them, adding each field to `fs`; gives
the fields and the text after the empty line. -/
def readFieldLines : Nat → List Char → Fields → Except HeadError (Fields × List Char)
  | 0, cs, fs => .ok (fs, cs)
  | fuel + 1, cs, fs =>
    match readLine cs with
    | none => .error .endsEarly
    | some (line, rest) =>
      if line.isEmpty then .ok (fs, rest)
      else if !line.contains ':' then .error (.missingColon (String.ofList line))
      else
        let (kv, rest) := continueField rest.length (trimBlanks line) rest
        let k := kv.takeWhile (· != ':')
        let v := (kv.dropWhile (· != ':')).drop 1
        match fieldName k with
        | none => .error (.badField (String.ofList kv))
        | some name =>
          if !v.all valueChar then .error (.badField (String.ofList kv))
          else readFieldLines fuel rest (addField fs name (String.ofList (v.dropWhile isBlank)))

/-- Reads the fields of a head up to the empty line after them. The first line may not start
with a blank; when it does, a line of more than 80 bytes is too large to show. -/
def readFields (cs : List Char) : Except HeadError (Fields × List Char) :=
  match cs with
  | c :: _ =>
    if isBlank c then
      match readLine cs with
      | some (line, _) =>
        if (String.ofList line).utf8ByteSize > 80 then .error .tooLarge
        else .error (.initialContinuation (String.ofList line))
      | none => .error .endsEarly
    else readFieldLines (cs.length + 1) cs []
  | [] => readFieldLines 1 cs []

/-- How the bytes of a body end, as a reader that asks for more after them finds. -/
inductive Ending where
  /-- The body ends there. -/
  | clean
  /-- Every read past the bytes fails with this. -/
  | broken (message : String)
  /-- The read that brings the last bytes fails with this and closes the body, so that a
  read after it fails as a read of a closed body. -/
  | closed (message : String)
  deriving Repr, DecidableEq

/-- The body a request carries: its bytes and how they end. -/
structure Carried where
  bytes : List UInt8 := []
  ending : Ending := .clean
  deriving Repr, DecidableEq

/-- A body given as text, whole. -/
def Carried.ofText (text : String) : Carried := ⟨Utf8.bytes text, .clean⟩

/-- The failure a reader meets when it asks for more than the bytes of a body, if any. A body
that closed on its last read reports its own failure only when it had no bytes to bring. -/
def Carried.beyond (body : Carried) : Option String :=
  match body.ending with
  | .clean => none
  | .broken m => some m
  | .closed m => some (if body.bytes.isEmpty then m else "http: invalid Read on closed Body")

/-- A whole decimal of at most 63 bits. -/
def readLength (s : String) : Option Nat :=
  let cs := s.toList
  if cs.isEmpty || !cs.all Char.isDigit then none
  else
    let n := cs.foldl (fun acc c => acc * 10 + (c.toNat - '0'.toNat)) 0
    if n < Nat.pow 2 63 then some n else none

/-- The length of a chunk from its hex digits: at most sixteen of them. -/
def chunkLength (p : List UInt8) : Except String Nat :=
  if p.isEmpty then .error "empty hex number for chunk length"
  else
    ((List.range p.length).zip p).foldlM (fun acc (i, b) =>
      match byteHexValue b with
      | none => .error "invalid byte in chunk length"
      | some d => if i == 16 then .error "http chunk length too large" else .ok (acc * 16 + d)) 0

/-- Whether bytes hold a carriage return, line feed, carriage return, line feed. -/
def holdsEmptyLine : List UInt8 → Bool
  | 0x0D :: 0x0A :: 0x0D :: 0x0A :: _ => true
  | _ :: rest => holdsEmptyLine rest
  | [] => false

/-- What ends a chunked body after its last chunk: an empty line, or trailer fields and an
empty line within the first 4096 bytes. A trailer field line too large to show is a message
too large. -/
def trailerFailure (rest : List UInt8) : Option String :=
  match rest with
  | 0x0D :: 0x0A :: _ => none
  | [] | [_] => some "http: unexpected EOF reading trailer"
  | _ =>
    if !holdsEmptyLine (rest.take 4096) then
      some "http: suspiciously long trailer after chunked body"
    else match readFields (Utf8.decodeLossy rest).toList with
      | .ok _ => none
      | .error .endsEarly => some "http: unexpected EOF reading trailer"
      | .error .tooLarge => some "message too large"
      | .error e => some e.message

/-- Reads chunks: a line of the chunk length in hex (with a carriage return only at its end,
blanks and an extension after `;` ignored), that many bytes, and a line end; a chunk of
length zero ends the body, and a failing trailer after it closes the body. A chunk line must
fit, with its line feed, in 4096 bytes. `excess` counts the bytes spent on chunk lines
beyond what the data allows, which may not grow past 16 KiB. -/
def dechunk : Nat → List UInt8 → Nat → List UInt8 → Carried
  | 0, _, _, acc => ⟨acc, .broken "unexpected EOF"⟩
  | fuel + 1, bs, excess, acc =>
    match bs.span (· != 0x0A) with
    | (line, after) =>
      if line.length ≥ 4096 then ⟨acc, .broken "header line too long"⟩
      else match after with
      | [] => ⟨acc, .broken "unexpected EOF"⟩
      | _ :: rest =>
        match line.findIdx? (· == 0x0D) with
        | none => ⟨acc, .broken "chunked line ends with bare LF"⟩
        | some i =>
          if i + 1 != line.length then ⟨acc, .broken "invalid CR in chunked line"⟩
          else
            let p := line.dropLast
            let excess := excess + p.length + 2
            let p := (p.reverse.dropWhile (fun b => b == 0x20 || b == 0x09)).reverse
            match chunkLength (p.takeWhile (· != 0x3B)) with
            | .error msg => ⟨acc, .broken msg⟩
            | .ok n =>
              let excess := excess - (16 + 2 * n)
              if excess > 16 * 1024 then
                ⟨acc, .broken "chunked encoding contains too much non-data"⟩
              else if n == 0 then
                ⟨acc, match trailerFailure rest with
                  | none => .clean
                  | some m => .closed m⟩
              else
                let data := rest.take n
                if data.length < n then ⟨acc ++ data, .broken "unexpected EOF"⟩
                else match rest.drop n with
                  | 0x0D :: 0x0A :: more => dechunk fuel more excess (acc ++ data)
                  | [] | [_] => ⟨acc ++ data, .broken "unexpected EOF"⟩
                  | _ => ⟨acc ++ data, .broken "malformed chunked encoding"⟩

/-- The head of a request: the request line, the header fields and the body the text carries. -/
structure Head where
  line : RequestLine
  fields : Fields
  body : Carried

/-- Whether field values list a token: an item between commas equal to it, without the blanks
around it, ASCII letters in either case. -/
def listsToken (values : List String) (token : String) : Bool :=
  values.any fun v => (v.splitOn ",").any fun item =>
    let item := trimBlanks item.toList
    item.all (·.toNat < 0x80) && (String.ofList item).toLower == token.toLower

/-- Whether the connection closes after a request of a version with these fields: below
version 1 always, at 1.0 unless `Connection` lists `keep-alive` (and not `close`), and from
1.1 on only when it lists `close`. -/
def closesAfter (version : Nat × Nat) (fs : Fields) : Bool :=
  let given := fieldValues fs "Connection"
  if version.1 < 1 then true
  else if version == (1, 0) then listsToken given "close" || !listsToken given "keep-alive"
  else listsToken given "close"

/-- Frames the body after the fields of a head of the given version, checking the fields that
decide it. -/
def frameBody (version : Nat × Nat) (fs : Fields) (rest : List Char) :
    Except HeadError (Fields × Carried) := do
  if (fieldValues fs "Host").length > 1 then throw .tooManyHosts
  let closes := closesAfter version fs
  let version := if version == (0, 0) then (1, 1) else version
  let encodings := fieldValues fs "Transfer-Encoding"
  let given := fs.any (·.1 == "Transfer-Encoding")
  let fs := dropField fs "Transfer-Encoding"
  let fromHttp11 := version.1 > 1 || (version.1 == 1 && version.2 ≥ 1)
  let (fs, chunked) ← if given && fromHttp11 then
      match encodings with
      | [v] =>
        if v.toLower == "chunked" then pure (dropField fs "Content-Length", true)
        else throw (.unsupportedEncoding v)
      | vs => throw (.tooManyEncodings vs)
    else pure (fs, false)
  let lengths := fieldValues fs "Content-Length"
  let lengths ← match lengths with
    | first :: more@(_ :: _) =>
      if more.all (trimLineSpace · == trimLineSpace first) then pure [trimLineSpace first]
      else throw (.contentLengths lengths)
    | _ => pure lengths
  let bytes := Utf8.bytes (String.ofList rest)
  if chunked then
    for v in fieldValues fs "Trailer" do
      for key in ((trimLineSpace v).splitOn ",").map trimLineSpace do
        let key := canonicalKey key
        if !key.isEmpty && (key == "Transfer-Encoding" || key == "Trailer" ||
            key == "Content-Length") then
          throw (.badTrailerKey key)
    pure (fs, dechunk (bytes.length + 1) bytes 0 [])
  else match lengths with
    | cl :: _ =>
      let cl := trimLineSpace cl
      if cl.isEmpty then pure (fs, if closes then ⟨bytes, .clean⟩ else {})
      else match readLength cl with
      | none => throw (.badContentLength cl)
      | some n =>
        if bytes.length < n then pure (fs, ⟨bytes, .broken "unexpected EOF"⟩)
        else pure (fs, ⟨bytes.take n, .clean⟩)
    | [] => pure (fs, {})

/-- Reads the head of the request formed from a method and a target. -/
def readHead (method target : String) : Except HeadError Head := do
  let text := (method ++ " " ++ target ++ " HTTP/1.0\r\n\r\n").toList
  let (first, rest) := (readLine text).getD ([], [])
  let line ← match readRequestLine (String.ofList first) with
    | .ok l => pure l
    | .error e => throw (.line e)
  let (fs, rest) ← readFields rest
  let (fs, body) ← frameBody line.version fs rest
  pure ⟨line, fs, body⟩

end Api

end Ledger
