import Ledger.Text.Unicode

/-!
Reading IP addresses, as a host between brackets must be one.

An address is either dotted IPv4 (`192.0.2.1`: four decimal fields up to 255, no leading
zeros) or IPv6 (`2001:db8::1`: up to eight hex groups of at most four digits, one `::` standing
for at least one group of zeros, an IPv4 address in place of the last two groups, and a zone
after `%`). The first `.`, `:` or `%` of the text decides which is meant.

A text that is no address is refused with the reason, and, where the reader stopped at a
particular place, the rest of the text from there on: `ParseAddr("::1::2"): multiple :: in
address (at ":2")`.
-/

namespace Ledger

namespace Api

/-- An IP address: four bytes, or sixteen bytes and a zone. -/
inductive IpAddress where
  | v4 (octets : List UInt8)
  | v6 (octets : List UInt8) (zone : List UInt8)
  deriving Repr, DecidableEq

/-- Whether an address is an IPv4 one. -/
def IpAddress.isV4 : IpAddress → Bool
  | .v4 _ => true
  | .v6 _ _ => false

/-- Why a text is no address: the text, the reason, and the rest of the text where reading
stopped (empty when the reason is about the whole). -/
structure AddressError where
  input : List UInt8
  reason : String
  rest : List UInt8 := []
  deriving Repr, DecidableEq

/-- The wording of an address failure. -/
def AddressError.message (e : AddressError) : String :=
  "ParseAddr(" ++ Unicode.quoteBytes e.input ++ "): " ++ e.reason ++
    (if e.rest.isEmpty then "" else " (at " ++ Unicode.quoteBytes e.rest ++ ")")

/-- The value of a decimal digit byte. -/
def byteDecimalValue (b : UInt8) : Option Nat :=
  if 0x30 ≤ b && b ≤ 0x39 then some (b.toNat - 0x30) else none

/-- The value of a hex digit byte. -/
def byteHexValue (b : UInt8) : Option Nat :=
  if 0x30 ≤ b && b ≤ 0x39 then some (b.toNat - 0x30)
  else if 0x61 ≤ b && b ≤ 0x66 then some (b.toNat - 0x61 + 10)
  else if 0x41 ≤ b && b ≤ 0x46 then some (b.toNat - 0x41 + 10)
  else none

/-- Reads dotted fields of an IPv4 address in `input`. The state is whether the next byte is
the first, whether the last one was a dot, the value and digit count of the current field,
and the fields done. A dot must stand between two fields, a field has no leading zero and is
at most 255, and there are exactly four fields. -/
def ipv4Fields (input : List UInt8) :
    List UInt8 → Bool → Bool → Nat → Nat → List UInt8 → Except AddressError (List UInt8)
  | [], _, _, value, _, fields =>
    if fields.length < 3 then .error ⟨input, "IPv4 address too short", []⟩
    else .ok (fields ++ [UInt8.ofNat value])
  | b :: more, first, afterDot, value, digits, fields =>
    match byteDecimalValue b with
    | some d =>
      if digits == 1 && value == 0 then .error ⟨input, "IPv4 field has octet with leading zero", []⟩
      else
        let value := value * 10 + d
        if value > 255 then .error ⟨input, "IPv4 field has value >255", []⟩
        else ipv4Fields input more false false value (digits + 1) fields
    | none =>
      if b == 0x2E then
        if first || more.isEmpty || afterDot then
          .error ⟨input, "IPv4 field must have at least one digit", b :: more⟩
        else if fields.length == 3 then .error ⟨input, "IPv4 address too long", []⟩
        else ipv4Fields input more false true 0 0 (fields ++ [UInt8.ofNat value])
      else .error ⟨input, "unexpected character", b :: more⟩

/-- The leading hex digits of a group: the value and how many there are. -/
def hexGroup : List UInt8 → Nat × Nat
  | [] => (0, 0)
  | b :: more => match byteHexValue b with
    | some d =>
      let (value, count) := hexGroup more
      (d * Nat.pow 16 count + value, count + 1)
    | none => (0, 0)

/-- Where reading the groups of an IPv6 address ended: the bytes read so far and the place
of the `::`, if any. -/
structure Groups where
  octets : List UInt8
  ellipsis : Option Nat

/-- Reads the groups of an IPv6 address from `s`, with `octets` read so far (at most sixteen,
so fuel of nine rounds is enough) and the place of the `::` seen so far. -/
def ipv6Fields (input : List UInt8) :
    Nat → List UInt8 → List UInt8 → Option Nat → Except AddressError (Groups × List UInt8)
  | 0, s, octets, ellipsis => .ok (⟨octets, ellipsis⟩, s)
  | fuel + 1, s, octets, ellipsis =>
    if octets.length ≥ 16 then .ok (⟨octets, ellipsis⟩, s)
    else
      let (value, count) := hexGroup s
      if count > 4 then .error ⟨input, "each group must have 4 or less digits", s⟩
      else if count == 0 then
        .error ⟨input, "each colon-separated field must have at least one digit", s⟩
      else
        match s.drop count with
        | 0x2E :: _ =>
          if ellipsis.isNone && octets.length != 12 then
            .error ⟨input, "embedded IPv4 address must replace the final 2 fields of the address", s⟩
          else if octets.length + 4 > 16 then
            .error ⟨input, "too many hex fields to fit an embedded IPv4 at the end of the address", s⟩
          else do
            let v4 ← ipv4Fields input s true false 0 0 []
            pure (⟨octets ++ v4, ellipsis⟩, [])
        | rest =>
          let octets := octets ++ [UInt8.ofNat (value / 256), UInt8.ofNat (value % 256)]
          match rest with
          | [] => .ok (⟨octets, ellipsis⟩, [])
          | [0x3A] => .error ⟨input, "colon must be followed by more characters", rest⟩
          | 0x3A :: after@(0x3A :: more) =>
            if ellipsis.isSome then .error ⟨input, "multiple :: in address", after⟩
            else if more.isEmpty then .ok (⟨octets, some octets.length⟩, [])
            else ipv6Fields input fuel more octets (some octets.length)
          | 0x3A :: more => ipv6Fields input fuel more octets ellipsis
          | _ => .error ⟨input, "unexpected character, want colon", rest⟩

/-- Reads an IPv6 address, with its zone after the first `%`. -/
def parseIpv6 (input : List UInt8) : Except AddressError IpAddress := do
  let (s, zone) := match input.span (· != 0x25) with
    | (s, _ :: zone) => (s, some zone)
    | (s, []) => (s, none)
  if zone == some [] then throw ⟨input, "zone must be a non-empty string", []⟩
  let zone := zone.getD []
  let (s, ellipsis) := match s with
    | 0x3A :: 0x3A :: more => (more, some 0)
    | _ => (s, none)
  if ellipsis.isSome && s.isEmpty then return .v6 (List.replicate 16 0) zone
  let (g, rest) ← ipv6Fields input 9 s [] ellipsis
  unless rest.isEmpty do throw ⟨input, "trailing garbage after address", rest⟩
  if g.octets.length < 16 then
    match g.ellipsis with
    | none => throw ⟨input, "address string too short", []⟩
    | some pos =>
      let zeros := List.replicate (16 - g.octets.length) (0 : UInt8)
      pure (.v6 (g.octets.take pos ++ zeros ++ g.octets.drop pos) zone)
  else if g.ellipsis.isSome then throw ⟨input, "the :: must expand to at least one field of zeros", []⟩
  else pure (.v6 g.octets zone)

/-- Reads an IP address; the first `.`, `:` or `%` decides its kind. -/
def parseAddress (input : List UInt8) : Except AddressError IpAddress :=
  match input.find? (fun b => b == 0x2E || b == 0x3A || b == 0x25) with
  | some 0x2E => IpAddress.v4 <$> ipv4Fields input input true false 0 0 []
  | some 0x3A => parseIpv6 input
  | some _ => .error ⟨input, "missing IPv6 address", []⟩
  | none => .error ⟨input, "unable to parse IP", []⟩

end Api

end Ledger
