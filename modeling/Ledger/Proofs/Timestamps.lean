import Mathlib.Data.List.Basic
import Ledger.Time.Read
import Ledger.Proofs.Bytes

-- Times read back as they are written. The renderer writes a time as RFC 3339 text; when the
-- year has four digits, every field is in its range and the offset is whole minutes of at most
-- 24 hours and 59 minutes, the reader reads that text back as the same time, field for field.
-- What the renderer writes holds digits and the layout's separators only, so never a bar.

namespace Ledger

namespace Timestamp

section Digits

theorem pad_toList (width n : Nat) :
    (pad width n).toList = List.replicate (width - (Nat.toDigits 10 n).length) '0' ++ Nat.toDigits 10 n := by
  simp [pad]

theorem isDigit_toNat {c : Char} (digit : c.isDigit) : 48 ≤ c.toNat ∧ c.toNat ≤ 57 := by
  simp only [Char.isDigit, Bool.and_eq_true, decide_eq_true_eq] at digit
  exact ⟨UInt32.le_iff_toNat_le.mp digit.1, UInt32.le_iff_toNat_le.mp digit.2⟩

theorem pad_isDigit (width n : Nat) : ∀ c ∈ (pad width n).toList, c.isDigit := by
  rw [pad_toList]
  intro c member
  rcases List.mem_append.mp member with zero | digit
  · rw [List.eq_of_mem_replicate zero]
    decide
  · exact Nat.isDigit_of_mem_toDigits (by decide) (by decide) digit

theorem pad_length {width n : Nat} (wide : 0 < width) (fits : n < Nat.pow 10 width) :
    (pad width n).toList.length = width := by
  have short := (Nat.length_toDigits_le_iff (by decide) wide).mpr fits
  rw [pad_toList, List.length_append, List.length_replicate]
  omega

theorem ofDigitChars_pad (width n : Nat) : Nat.ofDigitChars 10 (pad width n).toList 0 = n := by
  rw [pad_toList, Nat.ofDigitChars_append, Nat.ofDigitChars_replicate_zero, Nat.mul_zero,
    Nat.ofDigitChars_ten_toDigits]

-- Reading digit bytes as the reader does, the value is the digits' number.
theorem foldl_digitValue {cs : List Char} (digits : ∀ c ∈ cs, c.isDigit) (init : Nat) :
    (cs.map fun c => UInt8.ofNat c.toNat).foldl (fun n x => n * 10 + digitValue x) init =
      Nat.ofDigitChars 10 cs init := by
  induction cs generalizing init with
  | nil => rfl
  | cons c cs ih =>
    have bounds := isDigit_toNat (digits c List.mem_cons_self)
    rw [List.map_cons, List.foldl_cons, Nat.ofDigitChars_cons,
      ih (fun d member => digits d (List.mem_cons_of_mem _ member))]
    congr 1
    simp only [digitValue, Utf8.byte_toNat]
    have : c.toNat % 256 = c.toNat := Nat.mod_eq_of_lt (by omega)
    rw [this, Nat.mul_comm]
    rfl

theorem isDigitByte_of_isDigit {c : Char} (digit : c.isDigit) : isDigitByte (UInt8.ofNat c.toNat) = true := by
  have bounds := isDigit_toNat digit
  simp only [isDigitByte, Bool.and_eq_true, decide_eq_true_eq, UInt8.le_iff_toNat_le, Utf8.byte_toNat,
    UInt8.reduceToNat]
  omega

theorem digitValue_of_isDigit {c : Char} (digit : c.isDigit) : digitValue (UInt8.ofNat c.toNat) = c.toNat - 48 := by
  have bounds := isDigit_toNat digit
  simp only [digitValue, Utf8.byte_toNat]
  rw [Nat.mod_eq_of_lt (by omega)]

theorem bytes_pad (width n : Nat) :
    Utf8.bytes (pad width n) = (pad width n).toList.map fun c => UInt8.ofNat c.toNat := by
  have ascii : ∀ c ∈ (pad width n).toList, c.toNat < 128 := fun c member => by
    have := isDigit_toNat (pad_isDigit width n c member)
    omega
  have written := Utf8.bytes_ofList_ascii ascii
  rwa [String.ofList_toList] at written

-- Two digits, as bytes.
theorem pad_two {n : Nat} (small : n < 100) :
    ∃ a b, Utf8.bytes (pad 2 n) = [a, b] ∧ isDigitByte a = true ∧ isDigitByte b = true ∧
      digitValue a * 10 + digitValue b = n := by
  obtain ⟨a, b, spelled⟩ := List.length_eq_two.mp (pad_length (by decide : 0 < 2) (by show n < 100; omega))
  have digits := pad_isDigit 2 n
  have value := ofDigitChars_pad 2 n
  rw [spelled] at digits value
  have digitA := digits a (by simp)
  have digitB := digits b (by simp)
  have boundsA := isDigit_toNat digitA
  have boundsB := isDigit_toNat digitB
  simp only [Nat.ofDigitChars, List.foldl_cons, List.foldl_nil, Char.reduceToNat] at value
  refine ⟨_, _, by rw [bytes_pad, spelled]; rfl, isDigitByte_of_isDigit digitA, isDigitByte_of_isDigit digitB, ?_⟩
  rw [digitValue_of_isDigit digitA, digitValue_of_isDigit digitB]
  omega

-- Two digits read back as the number they write.
theorem number_pad (fixed : Bool) {n : Nat} (small : n < 100) (rest : List UInt8) :
    number fixed (Utf8.bytes (pad 2 n) ++ rest) = some (n, rest) := by
  obtain ⟨a, b, spelled, digitA, digitB, value⟩ := pad_two small
  rw [spelled]
  simp [number, digitA, digitB, value]

-- Four digits, as bytes.
theorem pad_four {n : Nat} (small : n < 10000) :
    ∃ a b c d, Utf8.bytes (pad 4 n) = [a, b, c, d] ∧ [a, b, c, d].all isDigitByte = true ∧
      [a, b, c, d].foldl (fun n x => n * 10 + digitValue x) 0 = n := by
  obtain ⟨a, b, c, d, spelled⟩ := List.length_eq_four.mp (pad_length (by decide : 0 < 4) (by show n < 10000; omega))
  have digits := pad_isDigit 4 n
  refine ⟨_, _, _, _, by rw [bytes_pad, spelled]; rfl, ?_, ?_⟩
  · rw [spelled] at digits
    simp [isDigitByte_of_isDigit, digits]
  · have folded := foldl_digitValue digits 0
    rw [ofDigitChars_pad, spelled] at folded
    exact folded

end Digits

@[simp] theorem bytes_dash : Utf8.bytes "-" = [0x2D] := by simp [Utf8.bytes_eq_flatMap, String.utf8EncodeChar]
@[simp] theorem bytes_plus : Utf8.bytes "+" = [0x2B] := by simp [Utf8.bytes_eq_flatMap, String.utf8EncodeChar]
@[simp] theorem bytes_colon : Utf8.bytes ":" = [0x3A] := by simp [Utf8.bytes_eq_flatMap, String.utf8EncodeChar]
@[simp] theorem bytes_T : Utf8.bytes "T" = [0x54] := by simp [Utf8.bytes_eq_flatMap, String.utf8EncodeChar]
@[simp] theorem bytes_Z : Utf8.bytes "Z" = [0x5A] := by simp [Utf8.bytes_eq_flatMap, String.utf8EncodeChar]
@[simp] theorem bytes_point : Utf8.bytes "." = [0x2E] := by simp [Utf8.bytes_eq_flatMap, String.utf8EncodeChar]
@[simp] theorem bytes_empty : Utf8.bytes "" = [] := by simp [Utf8.bytes_eq_flatMap]

section Fields

-- The year the renderer writes, when it has four digits, reads back as it.
theorem readYear_render (input : List UInt8) {y : Int} (low : 0 ≤ y) (high : y ≤ 9999)
    (rest : List UInt8) : readYear input (Utf8.bytes (renderYear y) ++ rest) = .ok (y, rest) := by
  obtain ⟨a, b, c, d, spelled, digits, value⟩ := pad_four (n := y.toNat) (by omega)
  rw [renderYear, if_neg (by omega), spelled]
  simp only [List.cons_append, List.nil_append, readYear, digits, if_true, value]
  rw [Int.toNat_of_nonneg low]

-- The offset the renderer writes reads back as it, when it is whole minutes of at most 24 hours
-- and 59 minutes: the reader takes an hour of 24.
theorem readOffset_render (input : List UInt8) {off : Int} (whole : off % 60 = 0)
    (fits : off.natAbs < 90000) : readOffset input (Utf8.bytes (renderOffset off)) = .ok (off, []) := by
  unfold renderOffset
  split
  · rename_i zero
    subst zero
    simp [readOffset]
  · rw [Int.tdiv_eq_ediv_of_dvd (Int.dvd_of_emod_eq_zero whole)]
    obtain ⟨h1, h2, hours, h1Digit, h2Digit, hoursValue⟩ := pad_two (n := (off / 60).natAbs / 60) (by omega)
    obtain ⟨m1, m2, minutes, m1Digit, m2Digit, minutesValue⟩ := pad_two (n := (off / 60).natAbs % 60) (by omega)
    simp only [Utf8.bytes_append, hours, minutes, bytes_colon]
    -- the reader works on the digits alone: keep the minutes of the offset as one number
    generalize absMinutes : (off / 60).natAbs = k at hoursValue minutesValue
    -- the two signs read the same way, up to the sign of the result
    by_cases negative : off / 60 < 0
    all_goals
      simp [negative, readOffset, number, h1Digit, h2Digit, m1Digit, m2Digit, hoursValue, minutesValue]
      rw [if_neg (by omega), if_neg (by omega)]
      congr 2
      omega

-- What the renderer writes for an offset starts with a byte that is no digit and no point.
theorem renderOffset_head (off : Int) :
    ∃ b rest, Utf8.bytes (renderOffset off) = b :: rest ∧ isDigitByte b = false ∧ b ≠ 0x2E ∧ b ≠ 0x2C := by
  by_cases zero : off = 0
  · exact ⟨0x5A, [], by simp [renderOffset, zero], by decide, by decide, by decide⟩
  · -- a sign, then the hours and minutes
    have signed : ∀ sign : String, Utf8.bytes (sign ++ pad 2 ((off.tdiv 60).natAbs / 60) ++ ":" ++
        pad 2 ((off.tdiv 60).natAbs % 60)) = Utf8.bytes sign ++ (Utf8.bytes (pad 2 ((off.tdiv 60).natAbs / 60)) ++
          0x3A :: Utf8.bytes (pad 2 ((off.tdiv 60).natAbs % 60))) := by
      intro sign
      simp
    by_cases negative : off.tdiv 60 < 0
    · refine ⟨0x2D, Utf8.bytes (pad 2 ((off.tdiv 60).natAbs / 60)) ++
        0x3A :: Utf8.bytes (pad 2 ((off.tdiv 60).natAbs % 60)), ?_, by decide, by decide, by decide⟩
      simp only [renderOffset, zero, negative, if_false, if_true, signed, bytes_dash, List.cons_append,
        List.nil_append]
    · refine ⟨0x2B, Utf8.bytes (pad 2 ((off.tdiv 60).natAbs / 60)) ++
        0x3A :: Utf8.bytes (pad 2 ((off.tdiv 60).natAbs % 60)), ?_, by decide, by decide, by decide⟩
      simp only [renderOffset, zero, negative, if_false, signed, bytes_plus, List.cons_append,
        List.nil_append]

-- The digits of a fraction: the nine digits of the nanoseconds less their trailing zeros, worth
-- the nanoseconds once the zeros are put back.
theorem fraction_digits {n : Nat} (small : n < 1000000000) (nonzero : n ≠ 0) :
    let fraction := ((pad 9 n).toList.reverse.dropWhile (· == '0')).reverse
    fraction ≠ [] ∧ fraction.length ≤ 9 ∧ (∀ c ∈ fraction, c.isDigit) ∧
      Nat.ofDigitChars 10 fraction 0 * Nat.pow 10 (9 - fraction.length) = n := by
  intro fraction
  set digits := (pad 9 n).toList with digitsDef
  set zeros := (digits.reverse.takeWhile (· == '0')).reverse
  have length : digits.length = 9 := pad_length (by decide) (by omega)
  -- the nine digits split into the fraction and the zeros after it
  have split : digits = fraction ++ zeros := by
    rw [← List.reverse_append, List.takeWhile_append_dropWhile, List.reverse_reverse]
  have allZero : zeros = List.replicate zeros.length '0' := by
    refine List.eq_replicate_iff.mpr ⟨rfl, fun c member => ?_⟩
    have zero := List.all_eq_true.mp List.all_takeWhile c (List.mem_reverse.mp member)
    simpa using zero
  have lengths : fraction.length + zeros.length = 9 := by
    rw [← List.length_append, ← split, length]
  have value : 10 ^ zeros.length * Nat.ofDigitChars 10 fraction 0 = n := by
    have whole := ofDigitChars_pad 9 n
    rw [← digitsDef, split, Nat.ofDigitChars_append, allZero, Nat.ofDigitChars_replicate_zero] at whole
    exact whole
  refine ⟨fun empty => nonzero ?_, by omega,
    fun c member => pad_isDigit 9 n c (by rw [← digitsDef, split]; exact List.mem_append_left _ member), ?_⟩
  · rw [← value, empty]
    simp
  · rw [show 9 - fraction.length = zeros.length by omega, Nat.mul_comm]
    exact value

theorem renderNanos_of_ne_zero {n : Nat} (nonzero : n ≠ 0) :
    renderNanos n = "." ++ String.ofList ((pad 9 n).toList.reverse.dropWhile (· == '0')).reverse := by
  simp [renderNanos, nonzero, pad_toList]

theorem nanosOf_digits {ds : List Char} (digits : ∀ c ∈ ds, c.isDigit) (short : ds.length ≤ 9) :
    nanosOf (ds.map fun c => UInt8.ofNat c.toNat) = Nat.ofDigitChars 10 ds 0 * Nat.pow 10 (9 - ds.length) := by
  rw [nanosOf, List.take_of_length_le (by simpa using short), foldl_digitValue digits, List.length_map]

-- The fraction the renderer writes reads back as the nanoseconds, leaving what follows it when
-- that starts with a byte that is no digit and no point.
theorem readFraction_render {n : Nat} (small : n < 1000000000) {b : UInt8} {rest : List UInt8}
    (stop : isDigitByte b = false) (noPoint : b ≠ 0x2E ∧ b ≠ 0x2C) :
    readFraction (Utf8.bytes (renderNanos n) ++ b :: rest) = (n, b :: rest) := by
  by_cases zero : n = 0
  · subst zero
    cases rest <;> simp [renderNanos, readFraction, bytes_empty, noPoint.1, noPoint.2]
  · obtain ⟨nonempty, short, digits, value⟩ := fraction_digits small zero
    obtain ⟨f, more, shape⟩ := List.exists_cons_of_ne_nil nonempty
    have ascii : ∀ c ∈ ((pad 9 n).toList.reverse.dropWhile (· == '0')).reverse, c.toNat < 128 :=
      fun c member => by have := isDigit_toNat (digits c member); omega
    rw [renderNanos_of_ne_zero zero, Utf8.bytes_append, bytes_point, Utf8.bytes_ofList_ascii ascii]
    rw [shape] at digits short value ⊢
    have allDigits : ∀ x ∈ (f :: more).map (fun c => UInt8.ofNat c.toNat), isDigitByte x = true := by
      simp only [List.mem_map]
      rintro x ⟨c, member, rfl⟩
      exact isDigitByte_of_isDigit (digits c member)
    have firstDigit : isDigitByte (UInt8.ofNat f.toNat) = true := allDigits _ (by simp)
    -- the digits run up to the byte after them, which is no digit
    have spanned : spanDigitBytes ((f :: more).map (fun c => UInt8.ofNat c.toNat) ++ b :: rest) =
        ((f :: more).map (fun c => UInt8.ofNat c.toNat), b :: rest) := by
      rw [spanDigitBytes, List.takeWhile_append_of_pos allDigits, List.dropWhile_append_of_pos allDigits]
      simp [stop]
    show readFraction (0x2E :: UInt8.ofNat f.toNat ::
      (more.map (fun c => UInt8.ofNat c.toNat) ++ b :: rest)) = (n, b :: rest)
    rw [readFraction, if_pos (by simp [firstDigit])]
    rw [show UInt8.ofNat f.toNat :: (more.map (fun c => UInt8.ofNat c.toNat) ++ b :: rest) =
      (f :: more).map (fun c => UInt8.ofNat c.toNat) ++ b :: rest from rfl, spanned]
    simp only [nanosOf_digits digits short, value]

end Fields

theorem daysIn_le (month : Nat) (year : Int) : daysIn month year ≤ 31 := by
  unfold daysIn
  split
  · split <;> omega
  all_goals omega

/-- A time that the reader can read back from its rendering: a year of four digits, a month, a
day of that month, a time of day, nanoseconds below a second, and an offset of whole minutes
under a day. -/
structure Readable (t : Timestamp) : Prop where
  writable : t.writable = true
  month : 1 ≤ t.month ∧ t.month ≤ 12
  day : 1 ≤ t.day ∧ t.day ≤ daysIn t.month t.year
  hour : t.hour < 24
  minute : t.minute < 60
  second : t.second < 60
  nanos : t.nanos < 1000000000
  offset : t.offset % 60 = 0

instance (t : Timestamp) : Decidable t.Readable :=
  decidable_of_iff (t.writable = true ∧ (1 ≤ t.month ∧ t.month ≤ 12) ∧
      (1 ≤ t.day ∧ t.day ≤ daysIn t.month t.year) ∧ t.hour < 24 ∧ t.minute < 60 ∧ t.second < 60 ∧
      t.nanos < 1000000000 ∧ t.offset % 60 = 0)
    ⟨fun ⟨w, mo, d, h, mi, s, n, o⟩ => ⟨w, mo, d, h, mi, s, n, o⟩,
      fun ⟨w, mo, d, h, mi, s, n, o⟩ => ⟨w, mo, d, h, mi, s, n, o⟩⟩

-- A time whose rendering reads back as itself: the fields of a readable time, with an offset
-- that may reach 24 hours and 59 minutes, the most the reader takes. Such a time has no JSON form
-- past 23 hours and 59 minutes, yet a page token carries it.
structure Legible (t : Timestamp) : Prop where
  year : 0 ≤ t.year ∧ t.year ≤ 9999
  month : 1 ≤ t.month ∧ t.month ≤ 12
  day : 1 ≤ t.day ∧ t.day ≤ daysIn t.month t.year
  hour : t.hour < 24
  minute : t.minute < 60
  second : t.second < 60
  nanos : t.nanos < 1000000000
  offset : t.offset % 60 = 0
  offsetHours : t.offset.natAbs < 90000

instance decidableLegible (t : Timestamp) : Decidable t.Legible :=
  decidable_of_iff ((0 ≤ t.year ∧ t.year ≤ 9999) ∧ (1 ≤ t.month ∧ t.month ≤ 12) ∧
      (1 ≤ t.day ∧ t.day ≤ daysIn t.month t.year) ∧ t.hour < 24 ∧ t.minute < 60 ∧ t.second < 60 ∧
      t.nanos < 1000000000 ∧ t.offset % 60 = 0 ∧ t.offset.natAbs < 90000)
    ⟨fun ⟨y, mo, d, h, mi, s, n, o, oh⟩ => ⟨y, mo, d, h, mi, s, n, o, oh⟩,
      fun ⟨y, mo, d, h, mi, s, n, o, oh⟩ => ⟨y, mo, d, h, mi, s, n, o, oh⟩⟩

theorem Readable.legible {t : Timestamp} (readable : t.Readable) : t.Legible := by
  obtain ⟨writable, month, day, hour, minute, second, nanos, offset⟩ := readable
  simp only [Timestamp.writable, Bool.and_eq_true, decide_eq_true_eq] at writable
  exact ⟨writable.1, month, day, hour, minute, second, nanos, offset, by omega⟩

-- A legible time reads back from its rendering as itself.
theorem readBytes_render {t : Timestamp} (legible : t.Legible) :
    readBytes (Utf8.bytes t.render) = .ok t := by
  obtain ⟨year, month, day, hour, minute, second, nanos, offset, offsetHours⟩ := legible
  obtain ⟨b, offRest, offShape, offStop, offPoint⟩ := renderOffset_head t.offset
  -- the rendering, element by element as the reader takes it
  have rendered : Utf8.bytes t.render = Utf8.bytes (renderYear t.year) ++ 0x2D :: (Utf8.bytes (pad 2 t.month) ++
      0x2D :: (Utf8.bytes (pad 2 t.day) ++ 0x54 :: (Utf8.bytes (pad 2 t.hour) ++
      0x3A :: (Utf8.bytes (pad 2 t.minute) ++ 0x3A :: (Utf8.bytes (pad 2 t.second) ++
      (Utf8.bytes (renderNanos t.nanos) ++ b :: offRest)))))) := by
    rw [← offShape]
    simp [render]
  have short := daysIn_le t.month t.year
  have monthOk : (decide (t.month < 1) || decide (t.month > 12)) = false := by simp; omega
  have dayOk : (decide (t.day < 1) || decide (t.day > daysIn t.month t.year)) = false := by simp; omega
  have hourOk : ¬ t.hour ≥ 24 := by omega
  have minuteOk : ¬ t.minute ≥ 60 := by omega
  have secondOk : ¬ t.second ≥ 60 := by omega
  have offRead : ∀ input, readOffset input (b :: offRest) = .ok (t.offset, []) := fun input =>
    offShape ▸ readOffset_render input offset offsetHours
  rw [rendered]
  simp only [readBytes, readYear_render _ year.1 year.2, bind, Except.bind, expect,
    number_pad true (by omega : t.month < 100), number_pad true (by omega : t.day < 100),
    number_pad false (by omega : t.hour < 100), number_pad true (by omega : t.minute < 100),
    number_pad true (by omega : t.second < 100), ite_true, reduceIte, monthOk, dayOk, hourOk, minuteOk,
    secondOk, Bool.false_eq_true, readFraction_render nanos offStop offPoint]
  simp only [offRead, List.isEmpty_nil, Bool.not_true, Bool.false_eq_true, if_false]
  rfl

section Separators

theorem bar_not_mem_pad (width n : Nat) : '|' ∉ (pad width n).toList := fun member =>
  absurd (pad_isDigit width n '|' member) (by decide)

-- The renderer writes digits and the separators of the layout: no bar, whatever the time.
theorem bar_not_mem_render (t : Timestamp) : '|' ∉ t.render.toList := by
  have year : '|' ∉ (renderYear t.year).toList := by
    unfold renderYear
    split <;> simp [bar_not_mem_pad]
  have nanos : '|' ∉ (renderNanos t.nanos).toList := by
    by_cases zero : t.nanos = 0
    · simp [renderNanos, zero]
    · rw [renderNanos_of_ne_zero zero]
      intro member
      simp only [String.toList_append, List.mem_append, String.toList_ofList, List.mem_reverse] at member
      rcases member with point | kept
      · simp at point
      · exact bar_not_mem_pad 9 t.nanos (List.mem_reverse.mp ((List.dropWhile_sublist _).subset kept))
  have offset : '|' ∉ (renderOffset t.offset).toList := by
    have sign : '|' ∉ (if t.offset.tdiv 60 < 0 then "-" else "+").toList := by
      split <;> simp
    unfold renderOffset
    split <;> simp [sign, bar_not_mem_pad]
  simp [render, year, nanos, offset, bar_not_mem_pad]

end Separators

end Timestamp

end Ledger
