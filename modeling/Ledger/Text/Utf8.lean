/-!
Text from bytes.

`Utf8.decodePieces` reads bytes as UTF-8 into characters and stray bytes: a byte that does
not start a well-formed sequence is stray on its own. Overlong forms, surrogates and code
points past `U+10FFFF` are not well formed, and a broken sequence gives one stray byte per
byte. `decodeLossy` puts the replacement character for each stray byte, and `decode?` refuses
bytes with any.
-/

namespace Ledger

namespace Utf8

/-- A continuation byte. -/
def isCont (b : UInt8) : Bool := 0x80 ≤ b && b ≤ 0xBF

/-- The replacement character. -/
def replacement : Char := Char.ofNat 0xFFFD

/-- The allowed range of the second byte after a leading byte of a multi-byte form. -/
def secondRange (lead : UInt8) : UInt8 × UInt8 :=
  if lead = 0xE0 then (0xA0, 0xBF)
  else if lead = 0xED then (0x80, 0x9F)
  else if lead = 0xF0 then (0x90, 0xBF)
  else if lead = 0xF4 then (0x80, 0x8F)
  else (0x80, 0xBF)

/-- A piece of bytes read as UTF-8. -/
inductive Piece where
  /-- A well-formed sequence. -/
  | char (c : Char)
  /-- A byte that starts no well-formed sequence. -/
  | stray (b : UInt8)
  deriving Repr, DecidableEq

/-- Decodes into characters and stray bytes. -/
def decodePieces : List UInt8 → List Piece
  | [] => []
  | b :: rest =>
    if b < 0x80 then .char (Char.ofNat b.toNat) :: decodePieces rest
    else if 0xC2 ≤ b && b ≤ 0xDF then
      match h : rest with
      | c :: more =>
        if isCont c then
          .char (Char.ofNat ((b.toNat - 0xC0) * 64 + (c.toNat - 0x80))) :: decodePieces more
        else .stray b :: decodePieces rest
      | [] => .stray b :: decodePieces rest
    else if 0xE0 ≤ b && b ≤ 0xEF then
      let (lo, hi) := secondRange b
      match h : rest with
      | c :: d :: more =>
        if lo ≤ c && c ≤ hi && isCont d then
          .char (Char.ofNat ((b.toNat - 0xE0) * 4096 + (c.toNat - 0x80) * 64 +
            (d.toNat - 0x80))) :: decodePieces more
        else .stray b :: decodePieces rest
      | _ => .stray b :: decodePieces rest
    else if 0xF0 ≤ b && b ≤ 0xF4 then
      let (lo, hi) := secondRange b
      match h : rest with
      | c :: d :: e :: more =>
        if lo ≤ c && c ≤ hi && isCont d && isCont e then
          .char (Char.ofNat ((b.toNat - 0xF0) * 262144 + (c.toNat - 0x80) * 4096 +
            (d.toNat - 0x80) * 64 + (e.toNat - 0x80))) :: decodePieces more
        else .stray b :: decodePieces rest
      | _ => .stray b :: decodePieces rest
    else .stray b :: decodePieces rest
termination_by bs => bs.length
decreasing_by all_goals simp_all <;> omega

/-- The character a piece shows: a stray byte shows as the replacement character. -/
def Piece.shown : Piece → Char
  | .char c => c
  | .stray _ => replacement

/-- Decodes, one replacement character per stray byte. -/
def decodeChars (bs : List UInt8) : List Char := (decodePieces bs).map Piece.shown

/-- The text of bytes, with replacement characters where they are not UTF-8. -/
def decodeLossy (bs : List UInt8) : String := String.ofList (decodeChars bs)

/-- The text of bytes that are UTF-8 throughout. -/
def decode? (bs : List UInt8) : Option String :=
  ((decodePieces bs).mapM fun (p : Piece) => match p with
    | .char c => some c
    | .stray _ => none).map String.ofList

/-- The UTF-8 bytes of a text. -/
def bytes (s : String) : List UInt8 := s.toUTF8.toList

/-- Byte-wise order of UTF-8 texts, shorter prefix first. -/
def bytesLt : List UInt8 → List UInt8 → Bool
  | [], [] => false
  | [], _ :: _ => true
  | _ :: _, [] => false
  | a :: as, b :: bs => if a < b then true else if b < a then false else bytesLt as bs

end Utf8

end Ledger
