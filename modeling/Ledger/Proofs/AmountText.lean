import Mathlib.Tactic.FieldSimp
import Ledger.Decimal.Read
import Ledger.Amount
import Ledger.Proofs.Value
import Ledger.Proofs.Bytes

-- The two-place text of an amount. An amount is printed by rounding it to two places and writing
-- the rounded coefficient's digits with the point two places from the right, zeros put in front
-- of a short coefficient. The decimal reader takes such a text back to the rounded decimal, and a
-- value that is a whole number of hundredths is its own rounding: its text reads back as the
-- same number of hundredths, so nothing is lost in printing it.

namespace Ledger

namespace Decimal

section Text

theorem digitsOf_isDigit (n : Nat) : ∀ c ∈ digitsOf n, c.isDigit :=
  fun _ member => Nat.isDigit_of_mem_toDigits (by decide) (by decide) member

-- Without trimming, a decimal with exponent `-k` below zero is written as a sign for a negative
-- value, then digits with the point `k` places from the right; read as one number, the digits
-- on both sides of the point are the coefficient.
theorem renderWith_point {d : Decimal} (negative : d.exp < 0) :
    ∃ whole frac, (d.renderWith false).toList =
        (if d.coeff < 0 then ['-'] else []) ++ whole ++ '.' :: frac ∧
      whole ≠ [] ∧ frac.length = (-d.exp).toNat ∧ (∀ c ∈ whole ++ frac, c.isDigit) ∧
      Nat.ofDigitChars 10 (whole ++ frac) 0 = d.coeff.natAbs := by
  have digits := digitsOf_isDigit d.coeff.natAbs
  have written : digitsOf d.coeff.natAbs ≠ [] := Nat.toDigits_ne_nil
  have value : Nat.ofDigitChars 10 (digitsOf d.coeff.natAbs) 0 = d.coeff.natAbs :=
    Nat.ofDigitChars_ten_toDigits
  have sign : (if d.coeff < 0 then "-" else "").toList = if d.coeff < 0 then ['-'] else [] := by
    split <;> rfl
  unfold renderWith
  rw [if_neg (not_le.mpr negative)]
  obtain ⟨k, places⟩ : ∃ k, (-d.exp).toNat = k + 1 := ⟨(-d.exp).toNat - 1, by omega⟩
  rw [places]
  generalize digitsOf d.coeff.natAbs = ds at digits written value
  by_cases fits : k + 1 < ds.length
  · -- the point falls among the digits
    refine ⟨ds.take (ds.length - (k + 1)), ds.drop (ds.length - (k + 1)), ?_, ?_, ?_, ?_, ?_⟩
    · have frac : ds.drop (ds.length - (k + 1)) ≠ [] := by simp; omega
      simp [fits, frac, sign]
    · simp [written]; omega
    · simp; omega
    · rwa [List.take_append_drop]
    · rwa [List.take_append_drop]
  · -- a zero before the point, and zeros after it up to the digits
    refine ⟨['0'], List.replicate (k + 1 - ds.length) '0' ++ ds, ?_, by simp, ?_, ?_, ?_⟩
    · simp [fits, sign, written]
    · simp; omega
    · intro c member
      simp only [List.cons_append, List.nil_append, List.mem_cons, List.mem_append,
        List.mem_replicate] at member
      rcases member with rfl | ⟨_, rfl⟩ | digit
      · rfl
      · rfl
      · exact digits c digit
    · rw [show ['0'] ++ (List.replicate (k + 1 - ds.length) '0' ++ ds) =
          List.replicate (k + 1 - ds.length + 1) '0' ++ ds by simp [List.replicate_succ],
        Nat.ofDigitChars_append, Nat.ofDigitChars_replicate_zero, Nat.mul_zero, value]

end Text

section Reading

theorem splitExponent_of_plain {cs : List Char} (plain : ∀ c ∈ cs, c ≠ 'e' ∧ c ≠ 'E') :
    splitExponent cs = (cs, none) := by
  have none : cs.findIdx? (fun c => c == 'e' || c == 'E') = none :=
    List.findIdx?_eq_none_iff.mpr fun c member => by simp [(plain c member).1, (plain c member).2]
  simp [splitExponent, none]

-- A sign or a digit is neither a point nor an exponent mark.
theorem unmarked_of_sign_or_digit {c : Char} (mark : c = '-' ∨ c.isDigit) : c ≠ '.' ∧ c ≠ 'e' ∧ c ≠ 'E' := by
  rcases mark with rfl | digit
  · decide
  · refine ⟨?_, ?_, ?_⟩ <;> rintro rfl <;> simp at digit

-- Signs and digits around one point: the reader finds no exponent, a single point, and that
-- point right after the part before it.
theorem pointed_text {pre frac : List Char} (marks : ∀ c ∈ pre ++ frac, c = '-' ∨ c.isDigit) :
    splitExponent (pre ++ '.' :: frac) = (pre ++ '.' :: frac, none) ∧
      ((pre ++ '.' :: frac).filter (· == '.')).length = 1 ∧
      (pre ++ '.' :: frac).findIdx? (· == '.') = some pre.length := by
  have noPoint : ∀ c ∈ pre, c ≠ '.' := fun c member =>
    (unmarked_of_sign_or_digit (marks c (List.mem_append_left frac member))).1
  have fracNoPoint : ∀ c ∈ frac, c ≠ '.' := fun c member =>
    (unmarked_of_sign_or_digit (marks c (List.mem_append_right pre member))).1
  refine ⟨splitExponent_of_plain fun c member => ?_, ?_,
    findIdx?_append_cons (p := (· == '.')) (by simpa using noPoint) (y := '.') (by decide) frac⟩
  · rcases List.mem_append.mp member with early | later
    · exact (unmarked_of_sign_or_digit (marks c (List.mem_append_left frac early))).2
    · rcases List.mem_cons.mp later with rfl | late
      · decide
      · exact (unmarked_of_sign_or_digit (marks c (List.mem_append_right pre late))).2
  · rw [List.filter_append, List.filter_cons, List.filter_eq_nil_iff.mpr (by simpa using noPoint),
      List.filter_eq_nil_iff.mpr (by simpa using fracNoPoint)]
    simp

theorem foldl_digits (ds : List Char) :
    ds.foldl (fun acc c => acc * 10 + (c.toNat - '0'.toNat)) 0 = Nat.ofDigitChars 10 ds 0 := by
  unfold Nat.ofDigitChars
  congr 1
  funext acc c
  rw [Nat.mul_comm]

-- Digits read as their number, and with a minus sign in front as its negation.
theorem readSignedDigits_digits {ds : List Char} (written : ds ≠ []) (digits : ∀ c ∈ ds, c.isDigit) :
    readSignedDigits ds = some ((Nat.ofDigitChars 10 ds 0 : Nat) : Int) ∧
      readSignedDigits ('-' :: ds) = some (-((Nat.ofDigitChars 10 ds 0 : Nat) : Int)) := by
  have allDigits : ds.all Char.isDigit = true := List.all_eq_true.mpr digits
  have some : ds.isEmpty = false := List.isEmpty_eq_false_iff.mpr written
  constructor
  · obtain ⟨c, rest, rfl⟩ := List.exists_cons_of_ne_nil written
    have digit := digits c List.mem_cons_self
    unfold readSignedDigits
    split
    rename_i sign unsigned
    -- a digit in front is no sign
    split at unsigned
    · rename_i plus
      exact absurd ((List.cons.inj plus).1 ▸ digit) (by decide)
    · rename_i minus
      exact absurd ((List.cons.inj minus).1 ▸ digit) (by decide)
    · simp only [Prod.mk.injEq] at unsigned
      obtain ⟨rfl, rfl⟩ := unsigned
      simp only [some, allDigits, Bool.not_true, Bool.or_false, Bool.false_eq_true, if_false]
      rw [foldl_digits]
  · simp only [readSignedDigits, some, allDigits, Bool.not_true, Bool.or_false, Bool.false_eq_true,
      if_false, if_true]
    rw [foldl_digits]

-- The untrimmed text of a decimal with a negative exponent in the reader's range reads back as
-- the decimal itself, coefficient and exponent.
theorem read_renderWith {d : Decimal} (negative : d.exp < 0) (bounded : -2147483648 ≤ d.exp) :
    read (d.renderWith false) = .ok d := by
  obtain ⟨whole, frac, text, named, places, digits, value⟩ := renderWith_point negative
  set pre := (if d.coeff < 0 then ['-'] else []) ++ whole with preIs
  -- the text holds a sign, digits and one point: no exponent, no second point
  have marks : ∀ c ∈ pre ++ frac, c = '-' ∨ c.isDigit := by
    intro c member
    rw [preIs, List.append_assoc] at member
    rcases List.mem_append.mp member with signed | written
    · left
      split at signed <;> simp_all
    · exact .inr (digits c written)
  obtain ⟨plain, points, point⟩ := pointed_text marks
  have takeIt : (pre ++ '.' :: frac).take pre.length = pre := by simp
  have dropIt : (pre ++ '.' :: frac).drop (pre.length + 1) = frac := by simp
  -- the digits on both sides of the point, with the sign, are the coefficient
  have signed : readSignedDigits (pre ++ frac) = some d.coeff := by
    have both := readSignedDigits_digits (List.append_ne_nil_of_left_ne_nil named frac) digits
    rw [value] at both
    by_cases below : d.coeff < 0
    · simp only [preIs, below, if_true, List.cons_append, List.nil_append] at both ⊢
      rw [both.2]
      congr 1
      omega
    · simp only [preIs, below, if_false, List.nil_append] at both ⊢
      rw [both.1]
      congr 1
      omega
  have exponent : (0 : Int) - frac.length = d.exp := by omega
  have inRange : (decide (d.exp < -2147483648) || decide (d.exp > 2147483647)) = false := by
    simp only [Bool.or_eq_false_iff, decide_eq_false_iff_not]
    omega
  unfold read
  rw [text]
  simp only [plain, point, points, takeIt, dropIt, signed, pure_bind,
    gt_iff_lt, lt_self_iff_false, if_false, exponent, inRange, Bool.false_eq_true]
  rfl

end Reading

section Rounding

-- A value that is a whole number of `10 ^ e` has that number as its coefficient at `e`, whether
-- writing at `e` appends zeros or cuts digits that are all zero.
theorem coeffAt_of_whole {d : Decimal} {e z : Int} (whole : d.value = z * 10 ^ e) : d.coeffAt e = z := by
  by_cases below : e ≤ d.exp
  · have scaled := coeffAt_value below
    rw [whole] at scaled
    exact_mod_cast mul_right_cancel₀ (ten_zpow_pos e).ne' scaled
  · obtain ⟨k, hk⟩ : ∃ k : Nat, (e - d.exp).toNat = k := ⟨_, rfl⟩
    have shift : e = d.exp + k := by omega
    have power : Int.pow 10 (e - d.exp).toNat = 10 ^ k := by rw [hk]; rfl
    have multiple : d.coeff = z * 10 ^ k := by
      have rational : (d.coeff : ℚ) * 10 ^ d.exp = (z * 10 ^ k : ℤ) * 10 ^ d.exp := by
        rw [← value, whole, shift, zpow_add₀ (by norm_num : (10 : ℚ) ≠ 0), zpow_natCast]
        push_cast
        ring
      exact_mod_cast mul_right_cancel₀ (ten_zpow_pos d.exp).ne' rational
    rw [coeffAt, if_neg below, power, multiple, Int.mul_tdiv_cancel _ (by positivity)]

-- A whole number `z` of `10 ^ -places` rounds to itself: the digit after the last place is zero,
-- so the half added in rounding is cut off again.
theorem round_of_whole {d : Decimal} {places : Nat} {z : Int}
    (whole : (10 : ℚ) ^ places * d.value = z) : d.round places = ⟨z, -(places : Int)⟩ := by
  have ten : (10 : ℚ) ^ places ≠ 0 := by positivity
  unfold round
  split
  · rename_i exact
    obtain ⟨coeff, exp⟩ := d
    simp only at exact
    subst exact
    have same : (coeff : ℚ) = z := by
      rw [← whole, value, zpow_neg, zpow_natCast]
      field_simp
    rw [show coeff = z by exact_mod_cast same]
  · have tenfold : d.coeffAt (-(places : Int) - 1) = 10 * z := by
      apply coeffAt_of_whole
      rw [zpow_sub₀ (by norm_num : (10 : ℚ) ≠ 0), zpow_neg, zpow_natCast]
      push_cast
      field_simp
      linarith
    rw [tenfold]
    dsimp only
    by_cases below : 10 * z < 0
    · have negated : 10 * z - 5 = -(-(10 * z) + 5) := by ring
      rw [if_pos below, negated, Int.neg_tdiv, Int.tdiv_eq_ediv_of_nonneg (by omega)]
      congr 1
      omega
    · rw [if_neg below, Int.tdiv_eq_ediv_of_nonneg (by omega)]
      congr 1
      omega

end Rounding

end Decimal

-- An amount in whole cents prints as two-place text that reads back as the same number of cents.
theorem Amount.read_format {d : Decimal} {z : Int} (cents : 100 * d.value = z) :
    Decimal.read (Amount.format d) = .ok ⟨z, -2⟩ := by
  have rounded : d.round Amount.scale = ⟨z, -2⟩ :=
    Decimal.round_of_whole (by norm_num [Amount.scale]; exact cents)
  rw [Amount.format, Decimal.renderFixed, rounded]
  exact Decimal.read_renderWith (by norm_num) (by norm_num)

end Ledger
