import Ledger.Text.Case
import Ledger.Text.Printable
import Ledger.Text.Utf8

/-!
White space and quoting.

`isSpace` is the Unicode white space class; `trimSpace` drops it at both ends. `quote` writes
text between double quotes so that it reads back unchanged: quotes and backslashes are
escaped, the common control characters take their short escapes, other controls a two-digit
hex escape, and characters that are not printable (see `isPrint`) a four- or eight-digit one.
`quoteBytes` does the same for bytes that need not be UTF-8: a byte that starts no well-formed
sequence is written as a two-digit hex escape of its own. `quoteRune` quotes one character
between single quotes.
-/

namespace Ledger

namespace Unicode

/-- The Unicode white space characters. -/
def isSpace (c : Char) : Bool :=
  let n := c.toNat
  (0x09 ≤ n && n ≤ 0x0D) || n == 0x20 || n == 0x85 || n == 0xA0 || n == 0x1680 ||
    (0x2000 ≤ n && n ≤ 0x200A) || n == 0x2028 || n == 0x2029 || n == 0x202F ||
    n == 0x205F || n == 0x3000

/-- The text without white space at either end. -/
def trimSpace (s : String) : String :=
  String.ofList ((s.toList.dropWhile isSpace).reverse.dropWhile isSpace).reverse

/-- `width` lowercase hex digits of `n`. -/
def hexDigits (width n : Nat) : String :=
  String.ofList ((List.range width).reverse.map fun k => Nat.digitChar (n / Nat.pow 16 k % 16))

/-- The escape of one character inside quotes `q`: the quote itself and the backslash take a
backslash. -/
def escapeIn (q : Char) (c : Char) : String :=
  let n := c.toNat
  if c == q then "\\" ++ c.toString
  else if c == '\\' then "\\\\"
  else if 0x20 ≤ n && n < 0x7F then c.toString
  else if n == 0x07 then "\\a"
  else if n == 0x08 then "\\b"
  else if n == 0x0C then "\\f"
  else if n == 0x0A then "\\n"
  else if n == 0x0D then "\\r"
  else if n == 0x09 then "\\t"
  else if n == 0x0B then "\\v"
  else if n < 0x20 || n == 0x7F then "\\x" ++ hexDigits 2 n
  else if isPrint c then c.toString
  else if n < 0x10000 then "\\u" ++ hexDigits 4 n
  else "\\U" ++ hexDigits 8 n

/-- The text between double quotes, escaped to read back unchanged. -/
def quote (s : String) : String := "\"" ++ String.join (s.toList.map (escapeIn '"')) ++ "\""

/-- Bytes between double quotes: read as UTF-8 and escaped as `quote` does, a byte that starts
no well-formed sequence as a two-digit hex escape. -/
def quoteBytes (bs : List UInt8) : String :=
  "\"" ++ String.join ((Utf8.decodePieces bs).map fun
    | .char c => escapeIn '"' c
    | .stray b => "\\x" ++ hexDigits 2 b.toNat) ++ "\""

/-- One character between single quotes. -/
def quoteRune (c : Char) : String := "'" ++ escapeIn '\'' c ++ "'"

end Unicode

end Ledger
