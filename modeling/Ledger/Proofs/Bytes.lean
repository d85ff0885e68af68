import Mathlib.Tactic.SplitIfs
import Ledger.Text.Base64
import Ledger.Text.Utf8

-- Text as bytes. The UTF-8 bytes of a text are the encodings of its characters one after
-- another, so comparing two texts byte by byte orders them as comparing their characters does:
-- an encoding's first differing byte is smaller exactly when its character is. Base64 decoding
-- reads back every byte list that encoding wrote.

namespace Ledger

theorem ByteArray.toList_loop (bs : ByteArray) (i : Nat) (r : List UInt8) :
    ByteArray.toList.loop bs i r = r.reverse ++ bs.data.toList.drop i := by
  fun_induction ByteArray.toList.loop bs i r with
  | case1 i r inside ih =>
    have index : i < bs.data.toList.length := by simpa using inside
    rw [ih, List.drop_eq_getElem_cons (l := bs.data.toList) index]
    simp [ByteArray.get!, inside]
  | case2 i r outside =>
    rw [List.drop_eq_nil_of_le (by simpa using Nat.le_of_not_lt outside)]
    simp

theorem ByteArray.toList_eq_data (bs : ByteArray) : bs.toList = bs.data.toList := by
  simp [ByteArray.toList, ByteArray.toList_loop]

-- The first hit of a search is the one after a stretch with none.
theorem findIdx?_append_cons {α : Type} {p : α → Bool} {xs : List α} {y : α}
    (free : ∀ x ∈ xs, p x = false) (hit : p y = true) (rest : List α) :
    (xs ++ y :: rest).findIdx? p = some xs.length := by
  rw [List.findIdx?_append, List.findIdx?_eq_none_iff.mpr free, List.findIdx?_cons, if_pos hit]
  simp

namespace Utf8

-- The bytes of a text are its characters' encodings, in order.
theorem bytes_eq_flatMap (s : String) : bytes s = s.toList.flatMap String.utf8EncodeChar := by
  rw [bytes, String.toUTF8_eq_toByteArray, ByteArray.toList_eq_data, ← String.utf8Encode_toList,
    List.utf8Encode, List.toList_data_toByteArray]

@[simp] theorem bytes_append (s t : String) : bytes (s ++ t) = bytes s ++ bytes t := by
  simp [bytes_eq_flatMap]

-- An ASCII character is one byte, its code.
theorem utf8EncodeChar_ascii {c : Char} (ascii : c.toNat < 128) :
    String.utf8EncodeChar c = [UInt8.ofNat c.toNat] := by
  have small : c.val.toNat ≤ 127 := Nat.le_of_lt_succ ascii
  unfold String.utf8EncodeChar
  rw [if_pos small]
  rfl

theorem bytes_ofList_ascii {cs : List Char} (ascii : ∀ c ∈ cs, c.toNat < 128) :
    bytes (String.ofList cs) = cs.map fun c => UInt8.ofNat c.toNat := by
  rw [bytes_eq_flatMap, String.toList_ofList]
  induction cs with
  | nil => rfl
  | cons c cs ih =>
    rw [List.flatMap_cons, utf8EncodeChar_ascii (ascii c List.mem_cons_self),
      ih fun d member => ascii d (List.mem_cons_of_mem _ member)]
    rfl

-- A text that is not empty has bytes: every character is written with at least one.
theorem bytes_ne_nil {s : String} (named : s ≠ "") : bytes s ≠ [] := by
  obtain ⟨c, rest, chars⟩ := List.exists_cons_of_ne_nil (mt String.toList_eq_nil_iff.mp named)
  rw [bytes_eq_flatMap, chars, List.flatMap_cons]
  exact List.append_ne_nil_of_left_ne_nil String.utf8EncodeChar_ne_nil _

section Order

theorem byte_toNat (n : Nat) : (UInt8.ofNat n).toNat = n % 256 := by simp

theorem char_toNat_lt (c : Char) : c.val.toNat < 0x110000 := by
  rcases c.valid with below | above
  · have : c.val.toNat < 0xd800 := below
    omega
  · exact above.2

theorem bytesLt_append_left (p xs ys : List UInt8) :
    bytesLt (p ++ xs) (p ++ ys) = bytesLt xs ys := by
  induction p with
  | nil => rfl
  | cons x p ih => simp [bytesLt, ih]

theorem bytesLt_asymm : ∀ {xs ys : List UInt8}, bytesLt xs ys = true → bytesLt ys xs = false
  | [], [], _ => rfl
  | [], _ :: _, _ => rfl
  | _ :: _, [], lt => by simp [bytesLt] at lt
  | x :: xs, y :: ys, lt => by
    simp only [bytesLt] at lt ⊢
    by_cases below : x < y
    · simp [below, UInt8.lt_asymm below]
    · by_cases above : y < x
      · simp [below, above] at lt
      · simp only [below, above, if_false] at lt ⊢
        exact bytesLt_asymm lt

theorem bytesLt_cons_self (x : UInt8) (xs ys : List UInt8) :
    bytesLt (x :: xs) (x :: ys) = bytesLt xs ys :=
  bytesLt_append_left [x] xs ys

theorem bytesLt_cons_lt {x y : UInt8} (lt : x < y) (xs ys : List UInt8) :
    bytesLt (x :: xs) (y :: ys) = true := by
  simp [bytesLt, lt]

-- Bytes written from numbers below 256 compare as the numbers do.
theorem byte_lt {m n : Nat} (small : n < 256) (lt : m < n) : UInt8.ofNat m < UInt8.ofNat n := by
  rw [UInt8.lt_iff_toNat_lt, byte_toNat, byte_toNat, Nat.mod_eq_of_lt (by omega),
    Nat.mod_eq_of_lt small]
  exact lt

-- An encoding is a lead byte and then continuation bytes: the code point's last base-64 digits,
-- most significant first, each with the high bit set. The lead byte carries the rest of the
-- code point behind a marker that grows with the number of continuation bytes.
def continuationBytes (v : Nat) : Nat → List UInt8
  | 0 => []
  | k + 1 => UInt8.ofNat (v / Nat.pow 64 k % 64 + 128) :: continuationBytes v k

def leadByte (v : Nat) : Nat :=
  if v ≤ 127 then v
  else if v ≤ 2047 then v / 64 % 32 + 192
  else if v ≤ 65535 then v / 4096 % 16 + 224
  else v / 262144 % 8 + 240

def continuationCount (v : Nat) : Nat :=
  if v ≤ 127 then 0 else if v ≤ 2047 then 1 else if v ≤ 65535 then 2 else 3

theorem utf8EncodeChar_eq (c : Char) :
    String.utf8EncodeChar c = UInt8.ofNat (leadByte c.val.toNat) ::
      continuationBytes c.val.toNat (continuationCount c.val.toNat) := by
  simp only [String.utf8EncodeChar, leadByte, continuationCount]
  split_ifs <;> simp only [continuationBytes, Nat.pow, Nat.mul_eq, Nat.reduceMul, Nat.div_one]

-- Lead bytes grow with the code point; two code points tie on it only when their encodings
-- have the same length and they agree above the continuation digits.
theorem leadByte_le {v w : Nat} (le : v ≤ w) (bounded : w < 0x110000) :
    leadByte v ≤ leadByte w := by
  unfold leadByte
  split_ifs <;> omega

theorem leadByte_lt {v : Nat} (bounded : v < 0x110000) : leadByte v < 256 := by
  unfold leadByte
  split_ifs <;> omega

theorem leadByte_tie {v w : Nat} (same : leadByte v = leadByte w) (le : v ≤ w)
    (bounded : w < 0x110000) :
    continuationCount w = continuationCount v ∧
      v / Nat.pow 64 (continuationCount v) = w / Nat.pow 64 (continuationCount v) := by
  unfold leadByte at same
  unfold continuationCount
  split_ifs at same ⊢ <;>
    simp only [Nat.pow, Nat.mul_eq, Nat.reduceMul, Nat.div_one, true_and, false_and] <;> omega

-- Under the same leading part, continuation bytes order as the code points. The induction is on
-- the number of digits: the first digit decides unless it ties, and then the rest do.
theorem bytesLt_continuationBytes {v w : Nat} (lt : v < w) (k : Nat)
    (high : v / Nat.pow 64 k = w / Nat.pow 64 k) (xs ys : List UInt8) :
    bytesLt (continuationBytes v k ++ xs) (continuationBytes w k ++ ys) = true := by
  induction k with
  | zero =>
    simp only [Nat.pow, Nat.div_one] at high
    omega
  | succ k ih =>
    have below : v / Nat.pow 64 k ≤ w / Nat.pow 64 k := Nat.div_le_div_right (Nat.le_of_lt lt)
    have split : ∀ u, u / Nat.pow 64 (k + 1) = u / Nat.pow 64 k / 64 := fun u => by
      rw [Nat.div_div_eq_div_mul]
      rfl
    rw [split, split] at high
    simp only [continuationBytes, List.cons_append]
    by_cases digit : v / Nat.pow 64 k % 64 < w / Nat.pow 64 k % 64
    · exact bytesLt_cons_lt (byte_lt (by omega) (by omega)) _ _
    · have same : v / Nat.pow 64 k = w / Nat.pow 64 k := by omega
      rw [same, bytesLt_cons_self]
      exact ih same

-- The encoding of a smaller character, whatever follows it, comes first byte-wise.
theorem bytesLt_encode {c d : Char} (lt : c < d) (xs ys : List UInt8) :
    bytesLt (String.utf8EncodeChar c ++ xs) (String.utf8EncodeChar d ++ ys) = true := by
  have order : c.val.toNat < d.val.toNat := lt
  have bounded := char_toNat_lt d
  rw [utf8EncodeChar_eq, utf8EncodeChar_eq, List.cons_append, List.cons_append]
  rcases Nat.lt_or_eq_of_le (leadByte_le (Nat.le_of_lt order) bounded) with below | same
  · exact bytesLt_cons_lt (byte_lt (leadByte_lt bounded) below) _ _
  · obtain ⟨length, high⟩ := leadByte_tie same (Nat.le_of_lt order) bounded
    rw [same, length, bytesLt_cons_self]
    exact bytesLt_continuationBytes order _ high xs ys

theorem bytesLt_flatMap (as bs : List Char) :
    bytesLt (as.flatMap String.utf8EncodeChar) (bs.flatMap String.utf8EncodeChar) =
      decide (as < bs) := by
  induction as generalizing bs with
  | nil =>
    cases bs with
    | nil => rfl
    | cons b bs =>
      obtain ⟨x, rest, encoded⟩ := List.exists_cons_of_ne_nil (String.utf8EncodeChar_ne_nil (c := b))
      simp [encoded, bytesLt, List.nil_lt_cons]
  | cons a as ih =>
    cases bs with
    | nil =>
      obtain ⟨x, rest, encoded⟩ := List.exists_cons_of_ne_nil (String.utf8EncodeChar_ne_nil (c := a))
      simp [encoded, bytesLt]
    | cons b bs =>
      rw [List.flatMap_cons, List.flatMap_cons]
      by_cases below : a < b
      · rw [bytesLt_encode below]
        simp [List.cons_lt_cons_iff, below]
      · by_cases above : b < a
        · rw [bytesLt_asymm (bytesLt_encode above _ _)]
          simp [List.cons_lt_cons_iff, below, (Char.ne_of_lt above).symm]
        · have same : a = b := Char.le_antisymm (Char.not_lt.mp above) (Char.not_lt.mp below)
          subst same
          rw [bytesLt_append_left, ih]
          simp

-- Byte-wise order of UTF-8 texts is the order of the texts.
theorem bytesLt_bytes (s t : String) : bytesLt (bytes s) (bytes t) = decide (s < t) := by
  rw [bytes_eq_flatMap, bytes_eq_flatMap, bytesLt_flatMap]
  rfl

end Order

-- Every byte of a longer encoding is 128 or more: the continuation bytes have the high bit set,
-- and so does the lead byte of an encoding of two bytes or more.
theorem continuationBytes_high {v k : Nat} {b : UInt8} (member : b ∈ continuationBytes v k) :
    128 ≤ b.toNat := by
  induction k with
  | zero => simp [continuationBytes] at member
  | succ k ih =>
    rcases List.mem_cons.mp member with rfl | later
    · rw [byte_toNat]
      omega
    · exact ih later

theorem leadByte_high {v : Nat} (wide : 127 < v) (bounded : v < 0x110000) :
    128 ≤ (UInt8.ofNat (leadByte v)).toNat := by
  rw [byte_toNat, Nat.mod_eq_of_lt (leadByte_lt bounded)]
  unfold leadByte
  split_ifs <;> omega

-- An ASCII byte stands in an encoding only as the encoding of its own character.
theorem mem_encode_ascii {c d : Char} (ascii : c.toNat < 128)
    (member : UInt8.ofNat c.toNat ∈ String.utf8EncodeChar d) : d = c := by
  have bounded := char_toNat_lt d
  have small : (UInt8.ofNat c.toNat).toNat = c.toNat := by
    rw [byte_toNat, Nat.mod_eq_of_lt (by omega)]
  rw [utf8EncodeChar_eq] at member
  by_cases narrow : d.val.toNat ≤ 127
  · -- a one-byte encoding is the code point itself
    have single : continuationCount d.val.toNat = 0 := if_pos narrow
    rw [single, leadByte, if_pos narrow, continuationBytes, List.mem_singleton] at member
    have same := congrArg UInt8.toNat member
    rw [small, byte_toNat, Nat.mod_eq_of_lt (by omega)] at same
    exact Char.toNat_inj.mp same.symm
  · rcases List.mem_cons.mp member with lead | trail
    · have high := leadByte_high (Nat.lt_of_not_le narrow) bounded
      rw [← lead, small] at high
      omega
    · have high := continuationBytes_high trail
      rw [small] at high
      omega

theorem char_mem_of_byte_mem {s : String} {c : Char} (ascii : c.toNat < 128)
    (member : UInt8.ofNat c.toNat ∈ bytes s) : c ∈ s.toList := by
  rw [bytes_eq_flatMap, List.mem_flatMap] at member
  obtain ⟨d, written, encoded⟩ := member
  rwa [← mem_encode_ascii ascii encoded]

end Utf8

namespace Base64

-- The alphabet spelled out, so that facts about every value below 64 are checked against a
-- list of characters instead of by reading the alphabet text again for each value.
theorem alphabet_eq : alphabet =
    ['A', 'B', 'C', 'D', 'E', 'F', 'G', 'H', 'I', 'J', 'K', 'L', 'M', 'N', 'O', 'P', 'Q', 'R', 'S',
      'T', 'U', 'V', 'W', 'X', 'Y', 'Z', 'a', 'b', 'c', 'd', 'e', 'f', 'g', 'h', 'i', 'j', 'k', 'l',
      'm', 'n', 'o', 'p', 'q', 'r', 's', 't', 'u', 'v', 'w', 'x', 'y', 'z', '0', '1', '2', '3', '4',
      '5', '6', '7', '8', '9', '+', '/'] := by
  decide +kernel

-- Every value below 64 is written as an ASCII character that reads back as it.
theorem sextet_digit : ∀ n < 64, sextet (UInt8.ofNat (digit n).toNat) = some n := by
  simp only [digit, alphabet_eq]
  decide +kernel

theorem digit_ascii : ∀ n < 64, (digit n).toNat < 128 := by
  simp only [digit, alphabet_eq]
  decide +kernel

theorem sextet_digit_mod (n : Nat) : sextet (UInt8.ofNat (digit (n % 64)).toNat) = some (n % 64) :=
  sextet_digit _ (Nat.mod_lt _ (by decide))

theorem sextet_pad : sextet 61 = none := by decide

theorem byte_eq {a : UInt8} {m : Nat} (same : m = a.toNat) : UInt8.ofNat m = a := by
  rw [same, UInt8.ofNat_toNat]

-- Two, three and four values stand for the top one, two and three bytes of their 24 bits.
theorem groupBytes_two (u v : Nat) : groupBytes [u, v] = [UInt8.ofNat ((u * 64 + v) / 16 % 256)] := by
  simp [groupBytes]
  congr 1
  omega

theorem groupBytes_three (u v w : Nat) :
    groupBytes [u, v, w] =
      [UInt8.ofNat (((u * 64 + v) * 64 + w) / 1024 % 256),
        UInt8.ofNat (((u * 64 + v) * 64 + w) / 4 % 256)] := by
  simp [groupBytes]
  constructor <;> congr 1 <;> omega

theorem groupBytes_four (u v w z : Nat) :
    groupBytes [u, v, w, z] =
      [UInt8.ofNat ((((u * 64 + v) * 64 + w) * 64 + z) / 65536 % 256),
        UInt8.ofNat ((((u * 64 + v) * 64 + w) * 64 + z) / 256 % 256),
        UInt8.ofNat ((((u * 64 + v) * 64 + w) * 64 + z) % 256)] := by
  simp [groupBytes]

-- A whole group of four values gives back the three bytes it was written from.
theorem groupBytes_whole (a b c : UInt8) :
    groupBytes [(a.toNat * 65536 + b.toNat * 256 + c.toNat) / 262144 % 64,
      (a.toNat * 65536 + b.toNat * 256 + c.toNat) / 4096 % 64,
      (a.toNat * 65536 + b.toNat * 256 + c.toNat) / 64 % 64,
      (a.toNat * 65536 + b.toNat * 256 + c.toNat) % 64] = [a, b, c] := by
  have small := a.toNat_lt
  have small' := b.toNat_lt
  have small'' := c.toNat_lt
  rw [groupBytes_four]
  simp only [List.cons.injEq, and_true]
  exact ⟨byte_eq (by omega), byte_eq (by omega), byte_eq (by omega)⟩

-- Reading an alphabet byte adds its value to the open group; the fourth value closes it.
theorem decodeFrom_value {b : UInt8} {v : Nat} (value : sextet b = some v) (rest : List UInt8)
    (i : Nat) (group : List Nat) (out : List UInt8) :
    decodeFrom (b :: rest) i group out =
      if group.length = 3 then decodeFrom rest (i + 1) [] ((groupBytes (group ++ [v])).reverse ++ out)
      else decodeFrom rest (i + 1) (group ++ [v]) out := by
  rw [decodeFrom, value]

theorem decodeFrom_digit (n : Nat) (rest : List UInt8) (i : Nat) (group : List Nat)
    (out : List UInt8) :
    decodeFrom (UInt8.ofNat (digit (n % 64)).toNat :: rest) i group out =
      if group.length = 3 then
        decodeFrom rest (i + 1) [] ((groupBytes (group ++ [n % 64])).reverse ++ out)
      else decodeFrom rest (i + 1) (group ++ [n % 64]) out :=
  decodeFrom_value (sextet_digit_mod n) rest i group out

-- Padding closes a group of two values with a second `=`, and a group of three with one.
theorem decodeFrom_pad_two (u v i : Nat) (out : List UInt8) :
    decodeFrom [61, 61] i [u, v] out = .ok ((groupBytes [u, v]).reverse ++ out).reverse := by
  simp [decodeFrom, sextet_pad, isBreak, skipBreaks]

theorem decodeFrom_pad_one (u v w i : Nat) (out : List UInt8) :
    decodeFrom [61] i [u, v, w] out = .ok ((groupBytes [u, v, w]).reverse ++ out).reverse := by
  simp [decodeFrom, sextet_pad, isBreak, skipBreaks]

-- Decoding what encoding wrote gives the bytes back, after whatever was decoded before. The
-- recursion follows encoding's, three bytes at a time, with the padded last groups apart; each
-- group is read one character at a time and its bytes are then recovered arithmetically.
theorem decodeFrom_encodeList : ∀ (bs : List UInt8) (i : Nat) (out : List UInt8),
    decodeFrom ((encodeList bs).map fun ch => UInt8.ofNat ch.toNat) i [] out = .ok (out.reverse ++ bs)
  | [], i, out => by simp [encodeList, decodeFrom]
  | [a], i, out => by
    have small := a.toNat_lt
    simp only [encodeList, List.map_cons, List.map_nil, Char.reduceToNat, UInt8.reduceOfNat,
      decodeFrom_digit, List.length_nil, List.length_cons, List.nil_append, List.cons_append,
      Nat.reduceEqDiff, ↓reduceIte, decodeFrom_pad_two, groupBytes_two]
    simp
    exact byte_eq (by omega)
  | [a, b], i, out => by
    have small := a.toNat_lt
    have small' := b.toNat_lt
    simp only [encodeList, List.map_cons, List.map_nil, Char.reduceToNat, UInt8.reduceOfNat,
      decodeFrom_digit, List.length_nil, List.length_cons, List.nil_append, List.cons_append,
      Nat.reduceEqDiff, ↓reduceIte, decodeFrom_pad_one, groupBytes_three]
    simp
    exact ⟨byte_eq (by omega), byte_eq (by omega)⟩
  | a :: b :: c :: rest, i, out => by
    simp only [encodeList, List.map_cons, decodeFrom_digit, List.length_nil, List.length_cons,
      List.nil_append, List.cons_append, Nat.reduceEqDiff, ↓reduceIte, groupBytes_whole,
      decodeFrom_encodeList rest]
    simp

theorem digit_mod_ascii (n : Nat) : (digit (n % 64)).toNat < 128 :=
  digit_ascii _ (Nat.mod_lt _ (by decide))

-- Encoding writes only alphabet characters and padding, all ASCII.
theorem encodeList_ascii : ∀ (bs : List UInt8), ∀ ch ∈ encodeList bs, ch.toNat < 128
  | [] => nofun
  | [_] | [_, _] => by
    intro ch member
    simp only [encodeList, List.mem_cons, List.not_mem_nil, or_false] at member
    rcases member with rfl | rfl | rfl | rfl <;> simp [digit_mod_ascii]
  | _ :: _ :: _ :: rest => by
    intro ch member
    simp only [encodeList, List.mem_cons] at member
    rcases member with rfl | rfl | rfl | rfl | later
    any_goals exact digit_mod_ascii _
    exact encodeList_ascii rest ch later

-- Encoding writes something for every byte list that is not empty.
theorem encode_ne_empty {bs : List UInt8} (nonempty : bs ≠ []) : encode bs ≠ "" := by
  intro empty
  have written := congrArg String.toList empty
  rw [encode, String.toList_ofList] at written
  match bs, nonempty with
  | [_], _ | [_, _], _ | _ :: _ :: _ :: _, _ => simp [encodeList] at written

-- Base64 reads back what it wrote.
theorem decode_encode (bs : List UInt8) : decode (encode bs) = .ok bs := by
  have written : (encode bs).toUTF8.toList = (encodeList bs).map fun ch => UInt8.ofNat ch.toNat :=
    Utf8.bytes_ofList_ascii (encodeList_ascii bs)
  rw [decode, written, decodeFrom_encodeList]
  rfl

end Base64

end Ledger
