import Ledger.Json
import Ledger.Text.Unicode

/-!
Reading the first JSON value of a request body, with the reason when it cannot be read.

The first value is read and whatever follows it is ignored: a body such as `{"a":1} xyz`
reads as `{"a":1}`. The first character that breaks the grammar is reported, quoted, with the
place it breaks it in (`looking for beginning of value`, `in numeric literal`, `in string`,
...). A backslash in a string that starts no escape is reported with the bytes that show it:
the backslash and the next byte, or the backslash, `u` and the four bytes that should be hex
digits (all that is left when fewer are). Those bytes stand between backquotes, or are quoted
when they hold a backquote, a space, a character that does not print or bytes that are not
UTF-8. A body with no value at all ends too early (`EOF`); one that stops inside a value ends
unexpectedly. At most `maxDepth` arrays and objects may be open at once. A text that more may
follow settles its first value only when the value ends inside it (`scanOpen`).

An array or object keeps the exact text it was read from (see `Ledger.Json`), so that a value
quoted in a message reads as it was sent. `parse` reads a whole text the same way and gives
nothing when the text is not exactly one value between blanks.
-/

namespace Ledger

/-- Why a body holds no readable first value. -/
inductive ScanError where
  /-- Nothing but blanks. -/
  | eof
  /-- The text stops inside a value. -/
  | unexpectedEof
  /-- A character that cannot stand where it stands. -/
  | invalid (c : Char) (context : String)
  /-- A backslash that starts no escape, shown by the bytes from the backslash on. -/
  | badEscape (shown : List UInt8)
  /-- An array or object opened inside as many as may be nested. -/
  | tooDeep
  deriving Repr, DecidableEq

namespace ScanError

/-- The backquote. -/
def backquote : Char := Char.ofNat 0x60

/-- Whether the bytes of a bad escape must be quoted rather than put between backquotes. -/
def needsQuoting (shown : List UInt8) : Bool :=
  (Utf8.decodePieces shown).any fun
    | .char c => c == backquote || c == Utf8.replacement || Unicode.isSpace c || !Unicode.isPrint c
    | .stray _ => true

/-- The wording of a failure. -/
def message : ScanError → String
  | .eof => "EOF"
  | .unexpectedEof => "unexpected EOF"
  | .tooDeep => "exceeded max depth"
  | .invalid c context => "invalid character " ++ Unicode.quoteRune c ++ " " ++ context
  | .badEscape shown =>
    let text := if needsQuoting shown then Unicode.quoteBytes shown
      else backquote.toString ++ Utf8.decodeLossy shown ++ backquote.toString
    "invalid escape sequence " ++ text ++ " in string"

end ScanError

namespace Json

/-- The scanner's view of a read: a value and the rest, or why not. -/
abbrev Scanned := Except ScanError (Json × List Char)

/-- A JSON blank. -/
def isBlankChar (c : Char) : Bool := c = ' ' || c = '\t' || c = '\n' || c = '\r'

/-- Checks the rest of a literal word, one expected character at a time. -/
def scanWord (word : String) : List Char → List Char → Except ScanError (List Char)
  | [], cs => .ok cs
  | _ :: _, [] => .error .unexpectedEof
  | w :: ws, c :: cs =>
    if c = w then scanWord word ws cs
    else .error (.invalid c ("in literal " ++ word ++ " (expecting " ++ Unicode.quoteRune w ++ ")"))

/-- Splits off the leading ASCII digits. -/
def scanDigits (cs : List Char) : List Char × List Char :=
  (cs.takeWhile Char.isDigit, cs.dropWhile Char.isDigit)

/-- Scans an exponent after `e` or `E`. -/
def scanExponent (cs : List Char) : Except ScanError (List Char × List Char) :=
  let (sign, rest) := match cs with
    | '+' :: r => (['+'], r)
    | '-' :: r => (['-'], r)
    | r => ([], r)
  match rest with
  | [] => .error .unexpectedEof
  | c :: _ =>
    if c.isDigit then
      let (ds, r) := scanDigits rest
      .ok (sign ++ ds, r)
    else .error (.invalid c "in numeric literal")

/-- Scans the fraction and exponent after the integer part of a number. -/
def scanNumberTail (cs : List Char) : Except ScanError (List Char × List Char) := do
  let (frac, r) ← match cs with
    | '.' :: r => match r with
      | [] => .error .unexpectedEof
      | c :: _ =>
        if c.isDigit then
          let (ds, r) := scanDigits r
          .ok ('.' :: ds, r)
        else .error (.invalid c "in numeric literal")
    | r => .ok ([], r)
  match r with
  | e :: r =>
    if e = 'e' || e = 'E' then
      let (ex, r) ← scanExponent r
      pure (frac ++ e :: ex, r)
    else pure (frac, e :: r)
  | [] => pure (frac, [])

/-- Scans a number whose first character (a sign or a digit) is at the head. -/
def scanNumber (cs : List Char) : Except ScanError (Json × List Char) := do
  let (sign, r) := match cs with
    | '-' :: r => (['-'], r)
    | r => ([], r)
  let (whole, r) ← match r with
    | '0' :: r => .ok (['0'], r)
    | c :: _ =>
      if c.isDigit then .ok (scanDigits r)
      else .error (.invalid c "in numeric literal")
    | [] => .error .unexpectedEof
  let (tail, r) ← scanNumberTail r
  pure (.num (String.ofList (sign ++ whole ++ tail)), r)

/-- Whether bytes could begin a `\uXXXX` escape: a backslash, `u`, then hex digits. -/
def escapePrefix (bs : List UInt8) : Bool :=
  (List.range bs.length).zip bs |>.all fun (i, b) =>
    if i = 0 then b = 0x5C
    else if i = 1 then b = 0x75
    else (hexValue (Char.ofNat b.toNat)).isSome

/-- Scans a string body after its opening quote; the body keeps its escapes. -/
def scanString : List Char → List Char → Except ScanError (String × List Char)
  | _, [] => .error .unexpectedEof
  | acc, '"' :: rest => .ok (String.ofList acc.reverse, rest)
  | _, ['\\'] => .error .unexpectedEof
  | acc, '\\' :: 'u' :: more =>
    let shown := (Utf8.bytes (String.ofList ('\\' :: 'u' :: more.take 4))).take 6
    if shown.length < 6 then
      .error (if escapePrefix shown then .unexpectedEof else .badEscape shown)
    else
      let hex := more.take 4
      if hex.all fun c => (hexValue c).isSome then
        scanString (hex.reverse ++ 'u' :: '\\' :: acc) (more.drop 4)
      else .error (.badEscape shown)
  | acc, '\\' :: c :: more =>
    if c = '"' || c = '\\' || c = '/' || c = 'b' || c = 'f' || c = 'n' || c = 'r' || c = 't' then
      scanString (c :: '\\' :: acc) more
    else .error (.badEscape ((Utf8.bytes (String.ofList ['\\', c])).take 2))
  | acc, c :: rest =>
    if c.toNat < 0x20 then .error (.invalid c "in string")
    else scanString (c :: acc) rest
termination_by _ cs => cs.length
decreasing_by all_goals simp_all <;> omega

/-- The deepest nesting of arrays and objects a text may have. -/
def maxDepth : Nat := 10000

/-- Splits the blanks off the head of the input, keeping them as text. -/
def splitBlanks (cs : List Char) : String × List Char :=
  (String.ofList (cs.takeWhile isBlankChar), cs.dropWhile isBlankChar)

mutual
/-- Scans one value after any blanks, inside `depth` open arrays and objects; `context` names
the place of a bad first character. An array or object keeps the text it is read from. -/
def scanValue : Nat → Nat → String → List Char → Scanned
  | 0, _, _, _ => .error .unexpectedEof
  | fuel + 1, depth, context, cs =>
    match cs.dropWhile isBlankChar with
    | [] => .error .unexpectedEof
    | '{' :: rest =>
      if maxDepth ≤ depth then .error .tooDeep
      else
        let (gap, rest) := splitBlanks rest
        match rest with
        | [] => .error .unexpectedEof
        | '}' :: r => .ok (.object [] (some ("\x7b" ++ gap ++ "\x7d")), r)
        | '"' :: r => scanMembers fuel (depth + 1) [] ("\x7b" ++ gap ++ "\"") r
        | c :: _ => .error (.invalid c "looking for beginning of object key string")
    | '[' :: rest =>
      if maxDepth ≤ depth then .error .tooDeep
      else
        let (gap, rest) := splitBlanks rest
        match rest with
        | [] => .error .unexpectedEof
        | ']' :: r => .ok (.array [] (some ("[" ++ gap ++ "]")), r)
        | _ => scanItems fuel (depth + 1) [] ("[" ++ gap) rest
    | '"' :: rest => (scanString [] rest).map fun (s, r) => (.str s, r)
    | 't' :: rest => (scanWord "true" ['r', 'u', 'e'] rest).map fun r => (.bool true, r)
    | 'f' :: rest => (scanWord "false" ['a', 'l', 's', 'e'] rest).map fun r => (.bool false, r)
    | 'n' :: rest => (scanWord "null" ['u', 'l', 'l'] rest).map fun r => (.null, r)
    | c :: rest =>
      if c = '-' || c.isDigit then scanNumber (c :: rest)
      else .error (.invalid c context)

/-- Scans array items after the opening bracket, at least one; `text` is what the array has
been read from so far. -/
def scanItems : Nat → Nat → List Json → String → List Char → Scanned
  | 0, _, _, _, _ => .error .unexpectedEof
  | fuel + 1, depth, acc, text, cs =>
    match scanValue fuel depth "looking for beginning of value" cs with
    | .error e => .error e
    | .ok (v, r) =>
      let (gap, r) := splitBlanks r
      let text := text ++ v.render ++ gap
      match r with
      | [] => .error .unexpectedEof
      | ',' :: r =>
        let (gap, r) := splitBlanks r
        scanItems fuel depth (v :: acc) (text ++ "," ++ gap) r
      | ']' :: r => .ok (.array (v :: acc).reverse (some (text ++ "]")), r)
      | c :: _ => .error (.invalid c "after array element")

/-- Scans object members after an opening quote of a key; `text` is what the object has been
read from so far, that quote included. -/
def scanMembers : Nat → Nat → List (String × Json) → String → List Char → Scanned
  | 0, _, _, _, _ => .error .unexpectedEof
  | fuel + 1, depth, acc, text, cs =>
    match scanString [] cs with
    | .error e => .error e
    | .ok (key, r) =>
      let text := text ++ key ++ "\""
      let (gap, r) := splitBlanks r
      match r with
      | [] => .error .unexpectedEof
      | ':' :: r =>
        let (gap2, r) := splitBlanks r
        match scanValue fuel depth "looking for beginning of value" r with
        | .error e => .error e
        | .ok (v, r) =>
          let acc := (unescape key, v) :: acc
          let (gap3, r) := splitBlanks r
          let text := text ++ gap ++ ":" ++ gap2 ++ v.render ++ gap3
          match r with
          | [] => .error .unexpectedEof
          | ',' :: r =>
            let (gap4, r) := splitBlanks r
            match r with
            | [] => .error .unexpectedEof
            | '"' :: r => scanMembers fuel depth acc (text ++ "," ++ gap4 ++ "\"") r
            | c :: _ => .error (.invalid c "looking for beginning of object key string")
          | '}' :: r => .ok (.object acc.reverse (some (text ++ "\x7d")), r)
          | c :: _ => .error (.invalid c "after object key:value pair")
      | c :: _ => .error (.invalid c "after object key")
end

/-- The first value of a body; what follows it is not read. Every two steps of the scan read
at least one character, so twice the length of the text is fuel enough. -/
def scanFirst (text : String) : Except ScanError Json :=
  let cs := text.toList
  if cs.all isBlankChar then .error .eof
  else (scanValue (2 * cs.length + 2) 0 "looking for beginning of value" cs).map (·.1)

/-- How far a text that more may follow settles its first value. -/
inductive Settled where
  /-- The value, ended within the text. -/
  | value (j : Json)
  /-- A character within the text that breaks the grammar. -/
  | failed (e : ScanError)
  /-- The text ends before the value does: before it starts, inside it, or right after a
  number standing alone, which only the character after it ends. -/
  | wantsMore
  deriving Repr

/-- The first value of a text that more may follow, as far as the text settles it. -/
def scanOpen (text : String) : Settled :=
  let cs := text.toList
  if cs.all isBlankChar then .wantsMore
  else match scanValue (2 * cs.length + 2) 0 "looking for beginning of value" cs with
    | .ok (.num _, []) => .wantsMore
    | .ok (v, _) => .value v
    | .error .eof | .error .unexpectedEof => .wantsMore
    | .error e => .failed e

/-- A whole text read as one JSON value, blanks allowed around it. -/
def parse (text : String) : Option Json :=
  let cs := text.toList
  match scanValue (2 * cs.length + 2) 0 "looking for beginning of value" cs with
  | .ok (v, rest) => if rest.all isBlankChar then some v else none
  | .error _ => none

end Json

end Ledger
