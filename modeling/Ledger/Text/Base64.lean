/-!
Base64 with the standard alphabet and `=` padding.

`encode` writes every three bytes as four characters and pads the last group. `decode`
reads groups of four characters, skipping line feeds and carriage returns anywhere. It
fails with the position of the first byte that cannot stand where it is: a character
outside the alphabet, padding after fewer than two characters of a group, missing or wrong
padding, text after the padding, or a group left incomplete at the end (reported at the
group's first character).
-/

namespace Ledger

namespace Base64

/-- The alphabet, by value. -/
def alphabet : List Char :=
  "ABCDEFGHIJKLMNOPQRSTUVWXYZabcdefghijklmnopqrstuvwxyz0123456789+/".toList

/-- The value of an alphabet byte. -/
def sextet (b : UInt8) : Option Nat :=
  let n := b.toNat
  if 65 ≤ n && n ≤ 90 then some (n - 65)
  else if 97 ≤ n && n ≤ 122 then some (n - 97 + 26)
  else if 48 ≤ n && n ≤ 57 then some (n - 48 + 52)
  else if n = 43 then some 62
  else if n = 47 then some 63
  else none

/-- The character of a value below 64. -/
def digit (n : Nat) : Char := alphabet.getD n 'A'

/-- Encodes bytes, padding the last group with `=`. -/
def encodeList : List UInt8 → List Char
  | [] => []
  | [a] =>
    let n := a.toNat * 65536
    [digit (n / 262144 % 64), digit (n / 4096 % 64), '=', '=']
  | [a, b] =>
    let n := a.toNat * 65536 + b.toNat * 256
    [digit (n / 262144 % 64), digit (n / 4096 % 64), digit (n / 64 % 64), '=']
  | a :: b :: c :: rest =>
    let n := a.toNat * 65536 + b.toNat * 256 + c.toNat
    digit (n / 262144 % 64) :: digit (n / 4096 % 64) :: digit (n / 64 % 64) :: digit (n % 64) ::
      encodeList rest

/-- The encoded text of bytes. -/
def encode (bs : List UInt8) : String := String.ofList (encodeList bs)

/-- A line break byte, which decoding skips. -/
def isBreak (b : UInt8) : Bool := b = 10 || b = 13

/-- Skips line breaks, counting positions. -/
def skipBreaks : List UInt8 → Nat → List UInt8 × Nat
  | b :: rest, i => if isBreak b then skipBreaks rest (i + 1) else (b :: rest, i)
  | [], i => ([], i)

/-- The bytes of a group of two, three or four values. -/
def groupBytes (vs : List Nat) : List UInt8 :=
  let n := (vs ++ List.replicate (4 - vs.length) 0).foldl (fun acc v => acc * 64 + v) 0
  let bytes := [(n / 65536 % 256).toUInt8, (n / 256 % 256).toUInt8, (n % 256).toUInt8]
  bytes.take (vs.length - 1)

/-- Decodes from position `i`, with the values of the open group in `group` and the bytes
so far in `out` (reversed). An error is the position to report. -/
def decodeFrom : List UInt8 → Nat → List Nat → List UInt8 → Except Nat (List UInt8)
  | [], i, group, out =>
    if group.isEmpty then .ok out.reverse else .error (i - group.length)
  | b :: rest, i, group, out =>
    match sextet b with
    | some v =>
      if group.length = 3 then decodeFrom rest (i + 1) [] ((groupBytes (group ++ [v])).reverse ++ out)
      else decodeFrom rest (i + 1) (group ++ [v]) out
    | none =>
      if isBreak b then decodeFrom rest (i + 1) group out
      else if b ≠ 61 then .error i
      else if group.length < 2 then .error i
      else
        -- padding closes the group: two values need a second `=`
        let after : Except Nat (List UInt8 × Nat) :=
          if group.length = 2 then
            match skipBreaks rest (i + 1) with
            | ([], j) => .error j
            | (c :: more, j) => if c = 61 then .ok (skipBreaks more (j + 1)) else .error (j - 1)
          else .ok (skipBreaks rest (i + 1))
        match after with
        | .error j => .error j
        | .ok ([], _) => .ok ((groupBytes group).reverse ++ out).reverse
        | .ok (_, j) => .error j

/-- Decodes text, or gives the position of the first offending byte. -/
def decode (text : String) : Except Nat (List UInt8) := decodeFrom text.toUTF8.toList 0 [] []

/-- The message for an offending position. -/
def errorMessage (i : Nat) : String := "illegal base64 data at input byte " ++ toString i

end Base64

end Ledger
