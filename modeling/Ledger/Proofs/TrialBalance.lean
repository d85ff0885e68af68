import Mathlib.Data.String.Basic
import Mathlib.Algebra.BigOperators.Ring.List
import Ledger.Office.Reports
import Ledger.Proofs.Balance

-- Double entry and the trial balance. With the sign that makes a balance count toward the
-- debit column, each line moves its account's signed balance by its debit less its credit,
-- whatever the account's side; each line names exactly one account of its tenant; and the
-- lines of an entry that left draft balance. So the signed changes of a tenant's accounts sum
-- to nothing. The trial balance lists the tenant's active accounts by code, each signed
-- balance split into two columns, and is balanced exactly when the signed balances sum to
-- nothing.

namespace Ledger

theorem sum_map_ite_eq_countP {α : Type} (l : List α) (p : α → Prop) [DecidablePred p] (x : ℚ) :
    (l.map fun a => if p a then x else 0).sum = l.countP (fun a => decide (p a)) * x := by
  induction l with
  | nil => simp
  | cons a rest ih =>
    rw [List.map_cons, List.sum_cons, ih, List.countP_cons]
    by_cases passes : p a
    · simp only [passes, if_true, decide_true]
      push_cast
      ring
    · simp [passes]

theorem sum_map_sub {α : Type} (l : List α) (f g : α → ℚ) :
    (l.map fun a => f a - g a).sum = (l.map f).sum - (l.map g).sum := by
  induction l with
  | nil => simp
  | cons a rest ih =>
    simp only [List.map_cons, List.sum_cons, ih]
    ring

-- The signed balances of a tenant's accounts move, in sum, by the debits less the credits of
-- lines that each name exactly one account of the tenant.
theorem sum_sign_linesDelta (accounts : List Account) (tenant : String) (lines : List Line)
    (unique : ∀ l ∈ lines,
      accounts.countP (fun a => a.tenant = tenant ∧ a.code = l.code) = 1) :
    ((accounts.filter (·.tenant = tenant)).map fun a => a.side.sign * linesDelta lines a.code a.side).sum =
      (lines.map fun l => l.debit.value - l.credit.value).sum := by
  induction lines with
  | nil => simp
  | cons l rest ih =>
    -- the first line moves the one account of its code by its debit less its credit
    have split : ∀ a : Account, a.side.sign * linesDelta (l :: rest) a.code a.side =
        (if l.code = a.code then l.debit.value - l.credit.value else 0) +
          a.side.sign * linesDelta rest a.code a.side := by
      intro a
      rw [linesDelta_cons, mul_add]
      by_cases named : l.code = a.code
      · rw [if_pos named, if_pos named, Line.delta, sign_mul_signedDelta]
      · rw [if_neg named, if_neg named, mul_zero]
    have counted : ((accounts.filter (·.tenant = tenant)).countP fun a => l.code = a.code) = 1 := by
      rw [List.countP_filter, ← unique l List.mem_cons_self]
      congr 1
      funext a
      simp [eq_comm, Bool.and_comm]
    simp only [split, List.sum_map_add]
    rw [ih fun l' member => unique l' (List.mem_cons_of_mem l member), sum_map_ite_eq_countP _
      (fun a : Account => l.code = a.code), counted, List.map_cons, List.sum_cons]
    push_cast
    ring

section Conservation

variable {b : Books}

-- Exactly one account of the tenant has the code of a line that left draft.
theorem Books.Wellformed.countP_line_account (sound : b.Wellformed) {e : Entry}
    (member : e ∈ b.entries) (live : e.status ≠ .draft) {l : Line} (line : l ∈ e.lines) :
    b.accounts.countP (fun a => a.tenant = e.tenant ∧ a.code = l.code) = 1 := by
  have atMost := countP_le_one_of_key Account.key sound.accountKeys
    (p := fun a => a.tenant = e.tenant ∧ a.code = l.code) (k := accountKey e.tenant l.code)
    fun x _ passes => by
      simp only [decide_eq_true_eq] at passes
      rw [Account.key, passes.1, passes.2]
  have atLeast : 0 < b.accounts.countP (fun a => a.tenant = e.tenant ∧ a.code = l.code) := by
    obtain ⟨a, aMember, tenant, code⟩ := sound.resolved e member live l line
    exact List.countP_pos_iff.mpr ⟨a, aMember, by simp [tenant, code]⟩
  omega

-- One entry moves the signed balances of a tenant's accounts by nothing in sum.
theorem Books.Wellformed.sum_sign_moved (sound : b.Wellformed) {e : Entry} (member : e ∈ b.entries)
    (tenant : String) :
    ((b.accounts.filter (·.tenant = tenant)).map fun a => a.side.sign * e.moved a).sum = 0 := by
  by_cases draft : e.status = .draft
  · simp [Entry.moved_draft draft]
  · by_cases own : e.tenant = tenant
    · have moved : ∀ a ∈ b.accounts.filter (·.tenant = tenant),
          a.side.sign * e.moved a = a.side.sign * linesDelta e.lines a.code a.side := by
        intro a aMember
        have aTenant : a.tenant = tenant := by simpa using (List.mem_filter.mp aMember).2
        rw [Entry.moved_live draft, if_pos (own.trans aTenant.symm)]
      rw [List.map_congr_left moved, sum_sign_linesDelta b.accounts tenant e.lines
        fun l line => own ▸ sound.countP_line_account member draft line]
      have balances := sound.balanced e member draft
      rw [Entry.Balances] at balances
      rw [sum_map_sub, balances, sub_self]
    · have moved : ∀ a ∈ b.accounts.filter (·.tenant = tenant), a.side.sign * e.moved a = 0 := by
        intro a aMember
        have aTenant : a.tenant = tenant := by simpa using (List.mem_filter.mp aMember).2
        rw [Entry.moved_live draft, if_neg (by rw [aTenant]; exact own), mul_zero]
      simp [List.map_congr_left moved]

-- The signed changes of a tenant's accounts since they opened sum to nothing; the induction
-- runs over the entries, each of which contributes nothing.
theorem Books.Wellformed.sum_sign_change (sound : b.Wellformed) (holds : b.BalanceEquation)
    (tenant : String) :
    ((b.accounts.filter (·.tenant = tenant)).map fun a =>
      a.side.sign * (a.balance.value - a.opening.value)).sum = 0 := by
  have change : ∀ a ∈ b.accounts.filter (·.tenant = tenant),
      a.side.sign * (a.balance.value - a.opening.value) =
        ((b.entries.map fun e => a.side.sign * e.moved a)).sum := by
    intro a aMember
    rw [holds a (List.mem_filter.mp aMember).1, add_sub_cancel_left, Books.moved, List.sum_map_mul_left]
  rw [List.map_congr_left change]
  have sum_zero : ∀ entries : List Entry, (∀ e ∈ entries,
      ((b.accounts.filter (·.tenant = tenant)).map fun a => a.side.sign * e.moved a).sum = 0) →
      ((b.accounts.filter (·.tenant = tenant)).map fun a =>
        (entries.map fun e => a.side.sign * e.moved a).sum).sum = 0 := by
    intro entries each
    induction entries with
    | nil => simp
    | cons e rest ih =>
      simp only [List.map_cons, List.sum_cons, List.sum_map_add]
      rw [each e List.mem_cons_self, ih fun e' member => each e' (List.mem_cons_of_mem e member),
        zero_add]
  exact sum_zero b.entries fun e member => sound.sum_sign_moved member tenant

end Conservation

-- A row of the trial balance shows an account: its code, side and balance, with the signed
-- balance in one of two columns, neither negative.
structure TrialRow.Shows (row : TrialRow) (a : Account) : Prop where
  code : row.code = a.code
  side : row.side = a.side
  balance : row.balance = a.balance
  debit_nonneg : 0 ≤ row.debit.value
  credit_nonneg : 0 ≤ row.credit.value
  one_column : row.debit.value = 0 ∨ row.credit.value = 0
  difference : row.debit.value - row.credit.value = a.side.sign * a.balance.value

section TrialBalance

variable {b : Books} {tenant : String}

theorem trialBalance_rows (b : Books) (tenant : String) :
    List.Forall₂ TrialRow.Shows (Office.trialBalance b tenant).rows (Office.activeAccounts b tenant) := by
  simp only [Office.trialBalance, List.forall₂_map_left_iff]
  refine List.forall₂_same.mpr fun a _ => ?_
  obtain ⟨debit, credit, one, difference⟩ := trialColumns_value a.side a.balance
  exact ⟨rfl, rfl, rfl, debit, credit, one, difference⟩

theorem activeAccounts_perm (b : Books) (tenant : String) :
    (Office.activeAccounts b tenant).Perm (b.accounts.filter fun a => a.tenant = tenant ∧ a.active) := by
  unfold Office.activeAccounts Books.accountsOf Books.byCode
  refine (sortBy_perm _ _).trans (List.Perm.of_eq (List.filter_congr fun a _ => ?_))
  exact Bool.eq_iff_iff.mpr (by simp)

-- The order listings of accounts are sorted in: by code.
theorem byCode_le_iff {x y : String} : (!decide (y < x)) = true ↔ x ≤ y := by
  rw [Bool.not_eq_true', decide_eq_false_iff_not, not_lt]

-- The active accounts of a tenant come by code, each code once: two accounts of one tenant
-- with one code would share a key.
theorem activeAccounts_sorted (sound : b.Wellformed) :
    (Office.activeAccounts b tenant).Pairwise fun a a' => a.code < a'.code := by
  have sorted : (Office.activeAccounts b tenant).Pairwise fun a a' => a.code ≤ a'.code := by
    have pairs := sortBy_pairwise (fun a a' : Account => !decide (a'.code < a.code))
      (fun a a' a'' first second =>
        byCode_le_iff.mpr ((byCode_le_iff.mp first).trans (byCode_le_iff.mp second)))
      (fun a a' => by
        rw [byCode_le_iff, byCode_le_iff]
        exact le_total a.code a'.code)
      (b.accounts.filter fun a => a.tenant == tenant && a.active)
    exact pairs.imp fun ordered => byCode_le_iff.mp ordered
  have distinct : ((Office.activeAccounts b tenant).map Account.key).Nodup :=
    ((activeAccounts_perm b tenant).map Account.key).nodup_iff.mpr
      (sound.accountKeys.sublist (List.filter_sublist.map Account.key))
  have own : ∀ a ∈ Office.activeAccounts b tenant, a.tenant = tenant := fun a member => by
    exact (of_decide_eq_true (List.mem_filter.mp ((activeAccounts_perm b tenant).subset member)).2).1
  refine (sorted.and (List.pairwise_map.mp distinct)).imp_of_mem fun {a a'} first second both => ?_
  refine lt_of_le_of_ne both.1 fun same => both.2 ?_
  rw [Account.key, Account.key, own a first, own a' second, same]

-- The column totals differ by the signed balances of the rows' accounts.
theorem trialBalance_difference (b : Books) (tenant : String) :
    (Office.trialBalance b tenant).totalDebit.value - (Office.trialBalance b tenant).totalCredit.value =
      ((b.accounts.filter fun a => a.tenant = tenant ∧ a.active).map fun a =>
        a.side.sign * a.balance.value).sum := by
  have rows := trialBalance_rows b tenant
  have difference : ∀ rows : List TrialRow, ∀ accounts : List Account,
      List.Forall₂ TrialRow.Shows rows accounts →
        (rows.map (·.debit.value)).sum - (rows.map (·.credit.value)).sum =
          (accounts.map fun a => a.side.sign * a.balance.value).sum := by
    intro rows accounts shown
    induction shown with
    | nil => simp
    | cons head _ ih =>
      simp only [List.map_cons, List.sum_cons]
      rw [← head.difference, ← ih]
      ring
  have totals : (Office.trialBalance b tenant).totalDebit.value -
      (Office.trialBalance b tenant).totalCredit.value =
        ((Office.trialBalance b tenant).rows.map (·.debit.value)).sum -
          ((Office.trialBalance b tenant).rows.map (·.credit.value)).sum := by
    simp [Office.trialBalance, List.map_map, Function.comp_def]
  rw [totals, difference _ _ rows]
  exact ((activeAccounts_perm b tenant).map _).sum_eq

theorem trialBalance_balanced_iff (b : Books) (tenant : String) :
    (Office.trialBalance b tenant).balanced = true ↔
      ((b.accounts.filter fun a => a.tenant = tenant ∧ a.active).map fun a =>
        a.side.sign * a.balance.value).sum = 0 := by
  have same : (Office.trialBalance b tenant).balanced = true ↔
      (Office.trialBalance b tenant).totalDebit.value =
        (Office.trialBalance b tenant).totalCredit.value :=
    Decimal.sameValue_iff _ _
  rw [same, ← trialBalance_difference, sub_eq_zero]

end TrialBalance

-- In every state a session reaches, for every tenant: the signed changes of the tenant's
-- accounts sum to nothing; the trial balance lists the tenant's active accounts by code, a row
-- each that shows it; the column totals differ by the signed balances of those accounts; and
-- when every account of the tenant is active, the trial balance is balanced exactly when the
-- signed opening balances sum to nothing.
theorem double_entry_trial_balance (pageSize : Nat) (calls : List Call) (tenant : String) :
    let b := ((Office.start pageSize).run calls).books
    ((b.accounts.filter (·.tenant = tenant)).map fun a =>
        a.side.sign * (a.balance.value - a.opening.value)).sum = 0 ∧
      (∃ listed : List Account,
        listed.Perm (b.accounts.filter fun a => a.tenant = tenant ∧ a.active) ∧
        listed.Pairwise (fun a a' => a.code < a'.code) ∧
        List.Forall₂ TrialRow.Shows (Office.trialBalance b tenant).rows listed) ∧
      (Office.trialBalance b tenant).totalDebit.value -
          (Office.trialBalance b tenant).totalCredit.value =
        ((b.accounts.filter fun a => a.tenant = tenant ∧ a.active).map fun a =>
          a.side.sign * a.balance.value).sum ∧
      ((∀ a ∈ b.accounts, a.tenant = tenant → a.active = true) →
        ((Office.trialBalance b tenant).balanced = true ↔
          ((b.accounts.filter (·.tenant = tenant)).map fun a =>
            a.side.sign * a.opening.value).sum = 0)) := by
  intro b
  obtain ⟨sound, holds⟩ := Office.run_balanceEquation pageSize calls
  have conserved := sound.sum_sign_change holds tenant
  refine ⟨conserved, ⟨_, activeAccounts_perm b tenant, activeAccounts_sorted sound,
    trialBalance_rows b tenant⟩, trialBalance_difference b tenant, fun allActive => ?_⟩
  -- with every account active, the trial balance lists all of the tenant's accounts
  have listed : (b.accounts.filter fun a => a.tenant = tenant ∧ a.active) =
      b.accounts.filter (·.tenant = tenant) :=
    List.filter_congr fun a member => by
      by_cases own : a.tenant = tenant <;> simp [own, allActive a member]
  have split : ((b.accounts.filter (·.tenant = tenant)).map fun a =>
        a.side.sign * (a.balance.value - a.opening.value)).sum =
      ((b.accounts.filter (·.tenant = tenant)).map fun a => a.side.sign * a.balance.value).sum -
        ((b.accounts.filter (·.tenant = tenant)).map fun a => a.side.sign * a.opening.value).sum := by
    rw [← sum_map_sub]
    exact congrArg List.sum (List.map_congr_left fun a _ => mul_sub _ _ _)
  rw [trialBalance_balanced_iff, listed]
  constructor <;> intro zero <;> linarith

end Ledger
