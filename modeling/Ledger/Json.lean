/-!
JSON documents as written.

A `Json` value keeps the spelling of what was read. A number is the literal as written and a
string is its body between the quotes with escapes left in place; an array or an object that
was read keeps the whole text it was read from, blanks and escaped keys included. Amounts are
read from that raw spelling, while ordinary text fields are read through `unescape`. Objects
keep their members in order, duplicates included, with decoded keys. `render` writes a value
back: a value that was read gives exactly the text it was read from, and a value built by the
program (with `arr` and `obj`) is written compactly.
-/

namespace Ledger

/-- A JSON value with its spelling kept as written. -/
inductive Json where
  | null
  | bool (b : Bool)
  /-- A number literal as written. -/
  | num (lit : String)
  /-- A string body as written between the quotes. -/
  | str (lit : String)
  /-- Items in order, and the text the array was read from, if it was read. -/
  | array (items : List Json) (written : Option String)
  /-- Members in order with decoded keys, and the text the object was read from, if it was
  read. -/
  | object (members : List (String × Json)) (written : Option String)
  deriving Repr, Inhabited

namespace Json

/-- An array built by the program, written compactly. -/
def arr (items : List Json) : Json := .array items none

/-- An object built by the program, written compactly. -/
def obj (members : List (String × Json)) : Json := .object members none

/-- Four lowercase hex digits of a code below `0x10000`. -/
def hex4 (n : Nat) : String :=
  let d := fun (k : Nat) => Nat.digitChar (n / Nat.pow 16 k % 16)
  String.ofList [d 3, d 2, d 1, d 0]

/-- The escaped body of a string: quote, backslash and control characters are escaped,
everything else stands as it is. -/
def escape (s : String) : String :=
  String.join (s.toList.map fun c =>
    if c = '"' then "\\\""
    else if c = '\\' then "\\\\"
    else if c = '\n' then "\\n"
    else if c = '\r' then "\\r"
    else if c = '\t' then "\\t"
    else if c.toNat < 0x20 then "\\u" ++ hex4 c.toNat
    else c.toString)

/-- A string value holding `s`. -/
def ofString (s : String) : Json := .str (escape s)

/-- A number value holding an integer. -/
def ofInt (n : Int) : Json := .num (toString n)

/-- The value of a hex digit. -/
def hexValue (c : Char) : Option Nat :=
  if c.isDigit then some (c.toNat - '0'.toNat)
  else if 'a' ≤ c && c ≤ 'f' then some (c.toNat - 'a'.toNat + 10)
  else if 'A' ≤ c && c ≤ 'F' then some (c.toNat - 'A'.toNat + 10)
  else none

/-- The code unit written by four hex digits. -/
def hexUnit (cs : List Char) : Option Nat :=
  match cs with
  | [a, b, c, d] => do
    let a ← hexValue a
    let b ← hexValue b
    let c ← hexValue c
    let d ← hexValue d
    pure (((a * 16 + b) * 16 + c) * 16 + d)
  | _ => none

/-- The replacement character, which stands for a lone surrogate. -/
def replacement : Char := Char.ofNat 0xFFFD

/-- A piece of an escaped body: a plain character or a code unit written as \uXXXX. -/
inductive Piece where
  | char (c : Char)
  | unit (n : Nat)

/-- Splits an escaped body into pieces, decoding the one-letter escapes. -/
def pieces : List Char → List Piece
  | [] => []
  | '\\' :: tail@('u' :: a :: b :: c :: d :: rest) =>
    match hexUnit [a, b, c, d] with
    | some n => .unit n :: pieces rest
    | none => .char '\\' :: pieces tail
  | '\\' :: c :: rest =>
    let d := match c with
      | 'n' => '\n'
      | 't' => '\t'
      | 'r' => '\r'
      | 'b' => Char.ofNat 8
      | 'f' => Char.ofNat 12
      | c => c
    .char d :: pieces rest
  | c :: rest => .char c :: pieces rest

/-- A high surrogate code unit. -/
def isHigh (n : Nat) : Bool := 0xD800 ≤ n && n < 0xDC00

/-- A low surrogate code unit. -/
def isLow (n : Nat) : Bool := 0xDC00 ≤ n && n < 0xE000

/-- Joins pieces into characters: a high surrogate followed by a low one is one character,
any other surrogate is the replacement character. -/
def joinPieces : List Piece → List Char
  | [] => []
  | .unit hi :: tail@(.unit lo :: rest) =>
    if isHigh hi && isLow lo then
      Char.ofNat (0x10000 + (hi - 0xD800) * 0x400 + (lo - 0xDC00)) :: joinPieces rest
    else (if isHigh hi || isLow hi then replacement else Char.ofNat hi) :: joinPieces tail
  | .unit n :: rest => (if isHigh n || isLow n then replacement else Char.ofNat n) :: joinPieces rest
  | .char c :: rest => c :: joinPieces rest

/-- Decodes an escaped body. A surrogate pair gives one character and a lone surrogate
gives the replacement character. -/
def unescapeChars (cs : List Char) : List Char := joinPieces (pieces cs)

/-- The text of an escaped body. -/
def unescape (lit : String) : String := String.ofList (unescapeChars lit.toList)

mutual
/-- The text of a value: the text it was read from, or the compact text of a value built by
the program. -/
def render : Json → String
  | .null => "null"
  | .bool true => "true"
  | .bool false => "false"
  | .num lit => lit
  | .str lit => "\"" ++ lit ++ "\""
  | .array _ (some text) => text
  | .array items none => "[" ++ renderItems items ++ "]"
  | .object _ (some text) => text
  | .object members none => "\x7b" ++ renderMembers members ++ "\x7d"

/-- Array items joined by commas. -/
def renderItems : List Json → String
  | [] => ""
  | [j] => render j
  | j :: rest => render j ++ "," ++ renderItems rest

/-- Object members joined by commas. -/
def renderMembers : List (String × Json) → String
  | [] => ""
  | [(k, v)] => "\"" ++ escape k ++ "\":" ++ render v
  | (k, v) :: rest => "\"" ++ escape k ++ "\":" ++ render v ++ "," ++ renderMembers rest
end

/-- Case folding of one character of a member name: ASCII letters fold to lower case, and
the long s and the Kelvin sign fold to the ASCII letters they are variants of. -/
def foldChar (c : Char) : Char :=
  if c.toNat = 0x17F then 's'
  else if c.toNat = 0x212A then 'k'
  else c.toLower

/-- Case folding, the matching rule for member names. -/
def foldKey (s : String) : String := String.map foldChar s

/-- The member with exactly this name, the last one if repeated. -/
def member? (j : Json) (key : String) : Option Json :=
  match j with
  | .object members _ => (members.filter (fun m => m.1 == key)).getLast?.map (·.2)
  | _ => none

end Json

end Ledger
