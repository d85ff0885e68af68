import Ledger.Time

/-!
Reading RFC 3339 timestamps.

`Timestamp.read` reads the layout `2006-01-02T15:04:05.999999999Z07:00` element by element
over the bytes of a text: year (four digits), month and day (two digits each), hour (one or
two digits), minute and second (two digits each), an optional fraction after `.` or `,`
(any number of digits, nanoseconds from the first nine), and `Z` or a signed `hh:mm`
offset. A failure names the element that could not be read, a value out of its range, or
text left over; `TimeError.message` words it with the input quoted byte by byte, and
`TimeError.messageFor` under another name of the layout.
-/

namespace Ledger

/-- Why a text is not a timestamp. -/
inductive TimeError where
  /-- The element `layoutElem` could not be read from the text `rest`. -/
  | cannotParse (input rest : List UInt8) (layoutElem : String)
  /-- A field is out of its range; `what` names it. -/
  | outOfRange (input : List UInt8) (what : String)
  /-- Text is left after the offset. -/
  | extraText (input rest : List UInt8)
  deriving Repr, DecidableEq

namespace TimeError

/-- The layout with fractional seconds, as it is named in messages. -/
def layout : String := "2006-01-02T15:04:05.999999999Z07:00"

/-- The layout without fractional seconds, as messages about dates in request bodies name
it. -/
def plainLayout : String := "2006-01-02T15:04:05Z07:00"

/-- Two lowercase hex digits of a byte. -/
def hexByte (b : UInt8) : String :=
  String.ofList [Nat.digitChar (b.toNat / 16), Nat.digitChar (b.toNat % 16)]

/-- Quotes bytes: quote and backslash get a backslash, control bytes and every byte of a
non-ASCII character are written as `\x` and two hex digits. -/
def quote (bs : List UInt8) : String :=
  "\"" ++ String.join (bs.map fun b =>
    if b < 0x20 || b ≥ 0x80 then "\\x" ++ hexByte b
    else if b = 0x22 then "\\\""
    else if b = 0x5C then "\\\\"
    else (Char.ofNat b.toNat).toString) ++ "\""

/-- The wording of a rejection, naming the layout `lay` where the wording names one. -/
def messageFor (lay : String) : TimeError → String
  | .cannotParse input rest elem =>
    "parsing time " ++ quote input ++ " as \"" ++ lay ++ "\": cannot parse " ++ quote rest ++
      " as \"" ++ elem ++ "\""
  | .outOfRange input what => "parsing time " ++ quote input ++ ": " ++ what ++ " out of range"
  | .extraText input rest => "parsing time " ++ quote input ++ ": extra text: " ++ quote rest

/-- The wording of a rejection under the layout with fractional seconds. -/
def message (e : TimeError) : String := e.messageFor layout

end TimeError

namespace Timestamp

/-- The byte is an ASCII digit. -/
def isDigitByte (b : UInt8) : Bool := 0x30 ≤ b && b ≤ 0x39

/-- The value of an ASCII digit byte. -/
def digitValue (b : UInt8) : Nat := b.toNat - 0x30

/-- One or two digits; with `fixed`, exactly two. -/
def number (fixed : Bool) : List UInt8 → Option (Nat × List UInt8)
  | a :: b :: rest =>
    if !isDigitByte a then none
    else if isDigitByte b then some (digitValue a * 10 + digitValue b, rest)
    else if fixed then none else some (digitValue a, b :: rest)
  | [a] => if isDigitByte a && !fixed then some (digitValue a, []) else none
  | [] => none

/-- Splits off the longest prefix of digit bytes. -/
def spanDigitBytes (bs : List UInt8) : List UInt8 × List UInt8 :=
  (bs.takeWhile isDigitByte, bs.dropWhile isDigitByte)

/-- Nanoseconds from fraction digits: the first nine count, the rest are dropped. -/
def nanosOf (ds : List UInt8) : Nat :=
  let ds := ds.take 9
  ds.foldl (fun n d => n * 10 + digitValue d) 0 * Nat.pow 10 (9 - ds.length)

/-- Checks one literal byte of the layout. -/
def expect (input : List UInt8) (c : UInt8) (elem : String) (bs : List UInt8) :
    Except TimeError (List UInt8) :=
  match bs with
  | b :: rest => if b = c then .ok rest else .error (.cannotParse input bs elem)
  | [] => .error (.cannotParse input bs elem)

/-- The offset element: `Z`, or a sign, two digits, a colon and two digits. Range is checked
before the sign. -/
def readOffset (input : List UInt8) (bs : List UInt8) : Except TimeError (Int × List UInt8) :=
  match bs with
  | 0x5A :: rest => .ok (0, rest)
  | s :: h1 :: h2 :: c :: m1 :: m2 :: rest =>
    if c ≠ 0x3A then .error (.cannotParse input bs "Z07:00")
    else
      let hr := number true [h1, h2]
      let mm := if hr.isSome then number true [m1, m2] else none
      let h := (hr.map (·.1)).getD 0
      let m := (mm.map (·.1)).getD 0
      if m > 60 then .error (.outOfRange input "time zone offset minute")
      else if h > 24 then .error (.outOfRange input "time zone offset hour")
      else if hr.isNone || mm.isNone then .error (.cannotParse input bs "Z07:00")
      else
        let off : Int := ((h * 60 + m) * 60 : Nat)
        if s = 0x2B then .ok (off, rest)
        else if s = 0x2D then .ok (-off, rest)
        else .error (.cannotParse input bs "Z07:00")
  | _ => .error (.cannotParse input bs "Z07:00")

/-- The year element: four bytes, all digits. -/
def readYear (input bs : List UInt8) : Except TimeError (Int × List UInt8) :=
  match bs with
  | a :: b :: c :: d :: rest =>
    if [a, b, c, d].all isDigitByte then
      .ok ((([a, b, c, d].foldl (fun n x => n * 10 + digitValue x) 0 : Nat) : Int), rest)
    else .error (.cannotParse input bs "2006")
  | _ => .error (.cannotParse input bs "2006")

/-- The optional fraction element: `.` or `,` and at least one digit give nanoseconds from the
digits; anything else is no fraction. -/
def readFraction (bs : List UInt8) : Nat × List UInt8 :=
  match bs with
  | p :: d :: rest =>
    if (p = 0x2E || p = 0x2C) && isDigitByte d then
      let (ds, rest') := spanDigitBytes (d :: rest)
      (nanosOf ds, rest')
    else (0, bs)
  | _ => (0, bs)

/-- Reads a timestamp in the layout `2006-01-02T15:04:05.999999999Z07:00`. -/
def readBytes (input : List UInt8) : Except TimeError Timestamp := do
  let (year, bs) ← readYear input input
  let bs ← expect input 0x2D "-" bs
  let (month, bs) ← match number true bs with
    | some r => .ok r
    | none => .error (.cannotParse input bs "01")
  if month < 1 || month > 12 then throw (.outOfRange input "month")
  let bs ← expect input 0x2D "-" bs
  let (day, bs) ← match number true bs with
    | some r => .ok r
    | none => .error (.cannotParse input bs "02")
  let bs ← expect input 0x54 "T" bs
  let (hour, bs) ← match number false bs with
    | some r => .ok r
    | none => .error (.cannotParse input bs "15")
  if hour ≥ 24 then throw (.outOfRange input "hour")
  let bs ← expect input 0x3A ":" bs
  let (minute, bs) ← match number true bs with
    | some r => .ok r
    | none => .error (.cannotParse input bs "04")
  if minute ≥ 60 then throw (.outOfRange input "minute")
  let bs ← expect input 0x3A ":" bs
  let (second, bs) ← match number true bs with
    | some r => .ok r
    | none => .error (.cannotParse input bs "05")
  if second ≥ 60 then throw (.outOfRange input "second")
  let (nanos, bs) := readFraction bs
  let (offset, bs) ← readOffset input bs
  if !bs.isEmpty then throw (.extraText input bs)
  if day < 1 || day > daysIn month year then throw (.outOfRange input "day")
  pure ⟨year, month, day, hour, minute, second, nanos, offset⟩

/-- Reads a timestamp from text. -/
def read (text : String) : Except TimeError Timestamp := readBytes text.toUTF8.toList

end Timestamp

end Ledger
