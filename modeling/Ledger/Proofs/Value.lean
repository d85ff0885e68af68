import Mathlib.Algebra.Order.Field.Rat
import Mathlib.Algebra.BigOperators.Group.List.Basic
import Mathlib.Tactic.Ring
import Mathlib.Tactic.Linarith
import Ledger.Posting

-- The number a decimal stands for. Sums, differences and comparisons of decimals are exact,
-- so each of them is the rational operation on these numbers, whatever exponents spell
-- the operands; the posting rules are then statements about rationals.

namespace Ledger

namespace Decimal

def value (d : Decimal) : ℚ := d.coeff * 10 ^ d.exp

theorem ten_zpow_pos (e : Int) : (0 : ℚ) < 10 ^ e := zpow_pos (by norm_num) e

-- Writing at a smaller exponent only appends zeros, so the number is kept.
theorem coeffAt_value {d : Decimal} {e : Int} (below : e ≤ d.exp) :
    (d.coeffAt e : ℚ) * 10 ^ e = d.value := by
  have shift : (((d.exp - e).toNat : Nat) : Int) + e = d.exp := by omega
  have power : Int.pow 10 (d.exp - e).toNat = 10 ^ (d.exp - e).toNat := rfl
  simp only [coeffAt, if_pos below, value, power]
  push_cast
  rw [mul_assoc, ← zpow_natCast, ← zpow_add₀ (by norm_num : (10 : ℚ) ≠ 0), shift]

@[simp] theorem value_zero : zero.value = 0 := by simp [zero, value]

@[simp] theorem value_add (a b : Decimal) : (a + b).value = a.value + b.value := by
  have left := coeffAt_value (d := a) (min_le_left a.exp b.exp)
  have right := coeffAt_value (d := b) (min_le_right a.exp b.exp)
  change ((a.coeffAt (min a.exp b.exp) + b.coeffAt (min a.exp b.exp) : Int) : ℚ) *
    10 ^ min a.exp b.exp = _
  push_cast
  rw [add_mul, left, right]

@[simp] theorem value_sub (a b : Decimal) : (a - b).value = a.value - b.value := by
  have left := coeffAt_value (d := a) (min_le_left a.exp b.exp)
  have right := coeffAt_value (d := b) (min_le_right a.exp b.exp)
  change ((a.coeffAt (min a.exp b.exp) - b.coeffAt (min a.exp b.exp) : Int) : ℚ) *
    10 ^ min a.exp b.exp = _
  push_cast
  rw [sub_mul, left, right]

@[simp] theorem value_neg (d : Decimal) : (-d).value = -d.value := by
  change ((-d.coeff : Int) : ℚ) * 10 ^ d.exp = -((d.coeff : ℚ) * 10 ^ d.exp)
  push_cast
  ring

theorem isNeg_iff (d : Decimal) : d.isNeg = true ↔ d.value < 0 := by
  have scale := ten_zpow_pos d.exp
  simp only [isNeg, decide_eq_true_eq, value]
  constructor
  · intro negative
    exact mul_neg_of_neg_of_pos (by exact_mod_cast negative) scale
  · intro negative
    by_contra nonneg
    have : (0 : ℚ) ≤ d.coeff := by exact_mod_cast not_lt.mp nonneg
    linarith [mul_nonneg this scale.le]

theorem isZero_iff (d : Decimal) : d.isZero = true ↔ d.value = 0 := by
  have scale := (ten_zpow_pos d.exp).ne'
  simp [isZero, value, scale]

-- Equal values compare equal, however differently they are spelled.
theorem sameValue_iff (a b : Decimal) : a.sameValue b = true ↔ a.value = b.value := by
  have left := coeffAt_value (d := a) (min_le_left a.exp b.exp)
  have right := coeffAt_value (d := b) (min_le_right a.exp b.exp)
  have scale := (ten_zpow_pos (min a.exp b.exp)).ne'
  simp only [sameValue, cmp, beq_iff_eq, compare_eq_iff_eq]
  rw [← left, ← right, mul_left_inj' scale]
  exact_mod_cast Iff.rfl

end Decimal

theorem sumAmounts_foldl_value (ds : List Decimal) (start : Decimal) :
    (ds.foldl (· + ·) start).value = start.value + (ds.map Decimal.value).sum := by
  induction ds generalizing start with
  | nil => simp
  | cons d rest ih => rw [List.foldl_cons, ih]; simp [add_assoc]

@[simp] theorem sumAmounts_value (ds : List Decimal) :
    (sumAmounts ds).value = (ds.map Decimal.value).sum := by
  simp [sumAmounts, sumAmounts_foldl_value]

-- The sign with which a balance of this side counts toward the debit column.
def Side.sign : Side → ℚ
  | .debit => 1
  | .credit => -1

-- Whatever the side, a line moves the signed balance by its debit less its credit.
theorem signedDelta_value (side : Side) (debit credit : Decimal) :
    (signedDelta side debit credit).value = side.sign * (debit.value - credit.value) := by
  cases side <;> simp [signedDelta, Side.sign]

theorem sign_mul_signedDelta (side : Side) (debit credit : Decimal) :
    side.sign * (signedDelta side debit credit).value = debit.value - credit.value := by
  cases side <;> simp [signedDelta, Side.sign]

-- The two columns of a trial balance row: neither is negative, one of them is zero, and
-- their difference is the signed balance.
theorem trialColumns_value (side : Side) (balance : Decimal) :
    0 ≤ (trialColumns side balance).1.value ∧ 0 ≤ (trialColumns side balance).2.value ∧
      ((trialColumns side balance).1.value = 0 ∨ (trialColumns side balance).2.value = 0) ∧
      (trialColumns side balance).1.value - (trialColumns side balance).2.value =
        side.sign * balance.value := by
  by_cases below : balance.isNeg = true
  · -- a negative balance moves to the other column, negated
    have negative := (Decimal.isNeg_iff balance).mp below
    cases side with
    | debit =>
      simp only [trialColumns, below, if_true, Decimal.value_zero, Decimal.value_neg, Side.sign]
      exact ⟨le_refl _, by linarith, by simp, by ring⟩
    | credit =>
      simp only [trialColumns, below, if_true, Decimal.value_zero, Decimal.value_neg, Side.sign]
      exact ⟨by linarith, le_refl _, by simp, by ring⟩
  · have nonneg := not_lt.mp (mt (Decimal.isNeg_iff balance).mpr below)
    cases side with
    | debit =>
      simp only [trialColumns, below, Bool.false_eq_true, if_false, Decimal.value_zero, Side.sign]
      exact ⟨nonneg, le_refl _, by simp, by ring⟩
    | credit =>
      simp only [trialColumns, below, Bool.false_eq_true, if_false, Decimal.value_zero, Side.sign]
      exact ⟨le_refl _, nonneg, by simp, by ring⟩

end Ledger
