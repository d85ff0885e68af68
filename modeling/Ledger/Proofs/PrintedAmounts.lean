import Mathlib.Algebra.Order.BigOperators.Group.List
import Ledger.Proofs.AmountText
import Ledger.Proofs.EntryForm
import Ledger.Proofs.TrialBalance
import Ledger.Proofs.AccountOpening
import Ledger.Proofs.Paging

-- Amounts stay in whole cents. An amount enters the ledger only through the amount check, which
-- takes whole cents and nothing negative; every other amount is a sum, difference or negation of
-- such amounts: the balances that postings move, the totals of entries, the running balances of
-- a statement, the columns and totals of the trial balance. So in every state a session reaches,
-- by the services' calls or by direct postings to balances, each amount printed with two places
-- is a whole number of cents, and its text reads back as that number. Balances alone may be
-- negative.

namespace Ledger

namespace Decimal

-- A whole number of cents.
def Cents (d : Decimal) : Prop := ∃ z : ℤ, 100 * d.value = z

-- Printed with two places, the value is exact: it is a whole number `z` of cents, and its text
-- reads back as `z` hundredths.
def PrintsExactly (d : Decimal) : Prop :=
  ∃ z : ℤ, 100 * d.value = z ∧ read (Amount.format d) = .ok ⟨z, -2⟩

-- An amount that is no balance prints exactly and is not negative.
def PrintsAsAmount (d : Decimal) : Prop := d.PrintsExactly ∧ 0 ≤ d.value

-- What the amount check admits: whole cents, not negative.
def IsAmount (d : Decimal) : Prop := d.Cents ∧ 0 ≤ d.value

-- Nothing is lost in printing: the text reads back as a decimal of the same value.
theorem PrintsExactly.read_value {d : Decimal} (exact : d.PrintsExactly) :
    ∃ d', read (Amount.format d) = .ok d' ∧ d'.value = d.value := by
  obtain ⟨z, whole, back⟩ := exact
  refine ⟨⟨z, -2⟩, back, ?_⟩
  rw [value, ← whole]
  norm_num
  ring

namespace Cents

variable {a b : Decimal}

theorem printsExactly (cents : a.Cents) : a.PrintsExactly := by
  obtain ⟨z, whole⟩ := cents
  exact ⟨z, whole, Amount.read_format whole⟩

theorem zero : Decimal.zero.Cents := ⟨0, by simp⟩

theorem add (left : a.Cents) (right : b.Cents) : (a + b).Cents := by
  obtain ⟨x, hx⟩ := left
  obtain ⟨y, hy⟩ := right
  exact ⟨x + y, by push_cast; rw [value_add, mul_add, hx, hy]⟩

theorem sub (left : a.Cents) (right : b.Cents) : (a - b).Cents := by
  obtain ⟨x, hx⟩ := left
  obtain ⟨y, hy⟩ := right
  exact ⟨x - y, by push_cast; rw [value_sub, mul_sub, hx, hy]⟩

theorem neg (cents : a.Cents) : (-a).Cents := by
  obtain ⟨x, hx⟩ := cents
  exact ⟨-x, by push_cast; rw [value_neg, mul_neg, hx]⟩

end Cents

theorem IsAmount.printsAsAmount {a : Decimal} (amount : a.IsAmount) : a.PrintsAsAmount :=
  ⟨amount.1.printsExactly, amount.2⟩

end Decimal

open Decimal

section Arithmetic

variable {ds : List Decimal}

theorem sumAmounts_cents (each : ∀ d ∈ ds, d.Cents) : (sumAmounts ds).Cents := by
  suffices whole : ∃ z : ℤ, 100 * (ds.map Decimal.value).sum = z by
    simpa only [Decimal.Cents, sumAmounts_value] using whole
  induction ds with
  | nil => exact ⟨0, by simp⟩
  | cons d rest ih =>
    obtain ⟨x, hx⟩ := each d List.mem_cons_self
    obtain ⟨y, hy⟩ := ih fun e member => each e (List.mem_cons_of_mem d member)
    exact ⟨x + y, by push_cast; rw [List.map_cons, List.sum_cons, mul_add, hx, hy]⟩

theorem sumAmounts_nonneg (each : ∀ d ∈ ds, 0 ≤ d.value) : 0 ≤ (sumAmounts ds).value := by
  rw [sumAmounts_value]
  apply List.sum_nonneg
  intro x member
  obtain ⟨d, listed, rfl⟩ := List.mem_map.mp member
  exact each d listed

-- A sum of amounts is an amount.
theorem sumAmounts_isAmount (each : ∀ d ∈ ds, d.IsAmount) : (sumAmounts ds).IsAmount :=
  ⟨sumAmounts_cents fun d member => (each d member).1, sumAmounts_nonneg fun d member => (each d member).2⟩

theorem signedDelta_cents (side : Side) {debit credit : Decimal} (debitCents : debit.Cents)
    (creditCents : credit.Cents) : (signedDelta side debit credit).Cents := by
  cases side with
  | debit => exact debitCents.sub creditCents
  | credit => exact creditCents.sub debitCents

-- Each column of a trial balance row is zero or the balance, negated when it is negative.
theorem trialColumns_cents (side : Side) {balance : Decimal} (cents : balance.Cents) :
    (trialColumns side balance).1.Cents ∧ (trialColumns side balance).2.Cents := by
  by_cases below : balance.isNeg = true
  · cases side with
    | debit =>
      simp only [trialColumns, below, if_true]
      exact ⟨.zero, cents.neg⟩
    | credit =>
      simp only [trialColumns, below, if_true]
      exact ⟨cents.neg, .zero⟩
  · cases side with
    | debit =>
      simp only [trialColumns, below, Bool.false_eq_true, if_false]
      exact ⟨cents, .zero⟩
    | credit =>
      simp only [trialColumns, below, Bool.false_eq_true, if_false]
      exact ⟨.zero, cents⟩

-- The amount check passes only whole cents that are not negative.
theorem Amount.check_isAmount {field : String} {d : Decimal} (checked : Amount.check field d = .ok ()) :
    d.IsAmount := by
  obtain ⟨sign, places⟩ := Amount.check_eq_ok.mp checked
  exact ⟨(Amount.fitsScale_iff d).mp places, (Decimal.isNeg_eq_false_iff d).mp sign⟩

end Arithmetic

-- What an account keeps: an opening balance that passed the amount check, and a current balance
-- in whole cents.
structure Account.InCents (a : Account) : Prop where
  opening : a.opening.IsAmount
  balance : a.balance.Cents

-- Every account of the books keeps its amounts in whole cents.
def Books.AccountsInCents (b : Books) : Prop := ∀ a ∈ b.accounts, a.InCents

-- Every account a posting holds keeps its amounts in whole cents.
def Held.InCents (held : Held) : Prop := ∀ code a, held.lookup code = some a → a.InCents

theorem lastWrite_mem {writes : List (String × Decimal)} {k : String} {v : Decimal}
    (last : lastWrite writes k = some v) : ∃ w ∈ writes, w.2 = v := by
  induction writes with
  | nil => simp [lastWrite] at last
  | cons w rest ih =>
    simp only [lastWrite] at last
    rcases Option.or_eq_some_iff.mp last with later | ⟨_, here⟩
    · obtain ⟨w', member, same⟩ := ih later
      exact ⟨w', List.mem_cons_of_mem w member, same⟩
    · split at here
      · exact ⟨w, List.mem_cons_self, Option.some.inj here⟩
      · cases here

section Posting

variable {held held' : Held} {c : Ctx} {tenant : String}

theorem applyPosting_amounts {code : String} {debit credit balance : Decimal} {user : String}
    {now : Timestamp} (applied : applyPosting held code debit credit user now = .ok (balance, held')) :
    Amount.check "debit" debit = .ok () ∧ Amount.check "credit" credit = .ok () := by
  unfold applyPosting at applied
  split at applied
  · cases applied
  · split at applied
    · cases applied
    · split at applied
      · cases applied
      · cases applied
      · rename_i debitOk creditOk
        exact ⟨debitOk, creditOk⟩

-- A posting moves a held balance by checked amounts, so the balance it reaches is in whole cents
-- and the held accounts stay so.
theorem applyPosting_inCents (holds : Held.InCents held) {code : String} {debit credit balance : Decimal}
    {user : String} {now : Timestamp}
    (applied : applyPosting held code debit credit user now = .ok (balance, held')) :
    balance.Cents ∧ Held.InCents held' := by
  obtain ⟨debitOk, creditOk⟩ := applyPosting_amounts applied
  obtain ⟨a, found, rfl, rfl⟩ := applyPosting_eq_ok applied
  have kept := holds code a found
  have moved : (a.balance + signedDelta a.side debit credit).Cents :=
    kept.balance.add (signedDelta_cents a.side (Amount.check_isAmount debitOk).1 (Amount.check_isAmount creditOk).1)
  refine ⟨moved, fun k x looked => ?_⟩
  rw [lookup_replace found] at looked
  split at looked
  · cases looked
    exact ⟨kept.opening, moved⟩
  · exact holds k x looked

theorem applyLines_inCents (holds : Held.InCents held) {lines out : List Line}
    {writes : List (String × Decimal)} (applied : applyLines tenant c lines held = .ok (out, held', writes)) :
    ∀ w ∈ writes, w.2.Cents := by
  induction lines generalizing held out writes with
  | nil =>
    simp only [applyLines, Except.ok.injEq, Prod.mk.injEq] at applied
    simp [← applied.2.2]
  | cons l rest ih =>
    obtain ⟨balance, held₁, _, writes', posting, rest_applied, _, rfl⟩ := applyLines_cons applied
    obtain ⟨moved, holds₁⟩ := applyPosting_inCents holds posting
    intro w member
    rcases List.mem_cons.mp member with rfl | later
    · exact moved
    · exact ih holds₁ rest_applied w later

theorem holdAccounts_inCents {b : Books} {codes : List String} (holds : b.AccountsInCents)
    (hold : b.holdAccounts tenant codes = .ok held) : Held.InCents held := by
  intro code a found
  exact holds a (Books.account?_some (holdAccounts_lookup hold found).1).1

-- The balances an entry's posting writes are in whole cents.
theorem postLines_inCents {b : Books} {e e' : Entry} {writes : List (String × Decimal)}
    (holds : b.AccountsInCents) (posted : postLines b c e = .ok (e', writes)) : ∀ w ∈ writes, w.2.Cents := by
  obtain ⟨_, _, held, _, _, _, hold, applied, _⟩ := postLines_eq_ok posted
  exact applyLines_inCents (holdAccounts_inCents holds hold) applied

-- The balances a direct posting gives back and writes are in whole cents.
theorem applyMovements_inCents (holds : Held.InCents held) {moves : List Office.Movement}
    {balances : List Decimal} {writes : List (String × Decimal)}
    (applied : Office.applyMovements held c tenant moves = .ok (balances, writes)) :
    (∀ d ∈ balances, d.Cents) ∧ ∀ w ∈ writes, w.2.Cents := by
  induction moves generalizing held balances writes with
  | nil =>
    simp only [Office.applyMovements, Except.ok.injEq, Prod.mk.injEq] at applied
    obtain ⟨rfl, rfl⟩ := applied
    simp
  | cons m rest ih =>
    obtain ⟨⟨balance, held₁⟩, posting, applied⟩ := Except.bind_eq_ok.mp applied
    obtain ⟨⟨balances', writes'⟩, rest_applied, applied⟩ := Except.bind_eq_ok.mp applied
    simp only [pure, Except.pure, Except.ok.injEq, Prod.mk.injEq] at applied
    obtain ⟨rfl, rfl⟩ := applied
    obtain ⟨moved, holds₁⟩ := applyPosting_inCents holds posting
    obtain ⟨given, written⟩ := ih holds₁ rest_applied
    exact ⟨List.forall_mem_cons.mpr ⟨moved, given⟩, List.forall_mem_cons.mpr ⟨moved, written⟩⟩

end Posting

namespace Books.AccountsInCents

variable {b b' : Books}

theorem of_accounts (holds : b.AccountsInCents) (same : b'.accounts = b.accounts) : b'.AccountsInCents := by
  intro a member
  rw [same] at member
  exact holds a member

theorem opened (holds : b.AccountsInCents) {a : Account} (fresh : a.InCents) :
    ({ b with accounts := b.accounts ++ [a] } : Books).AccountsInCents := by
  intro x member
  rcases List.mem_append.mp member with old | added
  · exact holds x old
  · rw [List.mem_singleton.mp added]
    exact fresh

theorem redescribed (holds : b.AccountsInCents) (kept : b'.Redescribed b) : b'.AccountsInCents := by
  obtain ⟨g, keeps, accounts, _⟩ := kept
  intro a member
  rw [accounts] at member
  obtain ⟨x, stored, rfl⟩ := List.mem_map.mp member
  obtain ⟨opening, balance⟩ := holds x stored
  exact ⟨(keeps x).opening ▸ opening, (keeps x).balance ▸ balance⟩

-- Writing balances in whole cents keeps every account in whole cents.
theorem applyWrites (holds : b.AccountsInCents) {writes : List (String × Decimal)}
    (written : ∀ w ∈ writes, w.2.Cents) (user : String) (now : Timestamp) :
    (b.applyWrites writes user now).AccountsInCents := by
  intro a member
  rw [Books.applyWrites_accounts] at member
  obtain ⟨x, stored, rfl⟩ := List.mem_map.mp member
  have old := holds x stored
  cases last : lastWrite writes x.key with
  | none =>
    rw [writeBalance_of_none writes user now x last]
    exact old
  | some v =>
    obtain ⟨w, listed, rfl⟩ := lastWrite_mem last
    refine ⟨?_, ?_⟩
    · simpa using old.opening
    · rw [writeBalance_of_some writes user now x last]
      exact written w listed

end Books.AccountsInCents

namespace Office

variable {o : Office} {c : Ctx}

-- An account is opened at an opening balance that passed the amount check.
theorem registerAccount_inCents {req : AccountRequest} {a : Account}
    (opened : (o.registerAccount c req).1 = .ok a) : a.InCents := by
  obtain ⟨_, _, _, _, admitted, rfl⟩ := registerAccount_eq_ok opened
  have clean : req.Clean := AccountRequest.violation_eq_none_iff.mp (admitAccount_eq_ok admitted).1
  have amount := Amount.check_isAmount clean.parses.2.2
  exact ⟨amount, amount.1⟩

-- A direct posting fails and changes nothing, or takes its accounts, applies its movements and
-- writes the balances it gives back.
theorem directPost_cases (o : Office) (c : Ctx) (moves : List Movement) (lock : Option (List String)) :
    (∃ f, o.directPost c moves lock = (.error f, o)) ∨
      ∃ held balances writes,
        o.books.holdAccounts c.tenant (lock.getD (moves.map (·.code))) = .ok held ∧
        applyMovements held c c.tenant moves = .ok (balances, writes) ∧
        o.directPost c moves lock = (.ok balances, { o with books := o.books.applyWrites writes c.user c.now }) := by
  unfold directPost
  rw [Books.withinTx_directBody]
  cases hold : o.books.holdAccounts c.tenant (lock.getD (moves.map (·.code))) with
  | error f => exact .inl ⟨f, by simp [bind, Except.bind]⟩
  | ok held =>
    cases applied : applyMovements held c c.tenant moves with
    | error f => exact .inl ⟨f, by simp [applied, bind, Except.bind]⟩
    | ok result =>
      obtain ⟨balances, writes⟩ := result
      exact .inr ⟨held, balances, writes, rfl, applied, by simp [applied, bind, Except.bind]⟩

end Office

-- Every call keeps every account in whole cents: opening takes a checked opening balance,
-- changing details keeps the balances, drafting leaves accounts alone, and posting and reversing
-- write balances moved by checked amounts.
theorem Books.AccountsInCents.perform {o : Office} (holds : o.books.AccountsInCents) (call : Call) :
    (call.perform o).2.books.AccountsInCents := by
  cases call with
  | registerAccount c req =>
    simp only [Call.perform, Call.settle_snd]
    cases opened : (o.registerAccount c req).1 with
    | error f => rw [(Office.registerAccount_error opened).1]; exact holds
    | ok a =>
      obtain ⟨_, _, _, _, _, _, books, _⟩ := Office.registerAccount_ok opened
      rw [books]
      exact holds.opened (Office.registerAccount_inCents opened)
  | updateAccount c code patch =>
    simp only [Call.perform, Call.settle_snd]
    cases changed : (o.updateAccount c code patch).1 with
    | error f => rw [Office.updateAccount_error changed]; exact holds
    | ok a =>
      obtain ⟨books, kept, same⟩ := Office.updateAccount_ok changed
      rw [same]
      exact holds.redescribed kept
  | deactivateAccount c code =>
    simp only [Call.perform]
    cases done : (o.deactivateAccount c code).1 with
    | error f => rw [Office.deactivateAccount_error done]; exact holds
    | ok u =>
      obtain ⟨books, kept, same⟩ := Office.deactivateAccount_ok done
      rw [same]
      exact holds.redescribed kept
  | createDraft c req =>
    simp only [Call.perform, Call.settle_snd]
    cases drafted : (o.createDraft c req).1 with
    | error f =>
      rcases Office.createDraft_error drafted with same | ⟨_, _, same⟩
      · rw [same]; exact holds
      · rw [same]; exact holds.of_accounts (Books.nextNumber_accounts ..)
    | ok e =>
      obtain ⟨_, _, _, _, _, _, _, books, _⟩ := Office.createDraft_ok drafted
      exact holds.of_accounts (by rw [books]; rfl)
  | updateDraft c number req =>
    simp only [Call.perform, Call.settle_snd]
    cases updated : (o.updateDraft c number req).1 with
    | error f => rw [Office.updateDraft_error updated]; exact holds
    | ok e =>
      obtain ⟨_, _, _, _, _, _, _, _, same⟩ := Office.updateDraft_ok updated
      rw [same]
      exact holds.of_accounts (Books.replaceEntry_accounts ..)
  | discardDraft c number =>
    simp only [Call.perform]
    cases done : (o.discardDraft c number).1 with
    | error f => rw [Office.discardDraft_error done]; exact holds
    | ok u =>
      obtain ⟨e0, _, _, _, same⟩ := Office.discardDraft_ok done
      rw [same]
      exact holds.of_accounts (Books.removeEntry_accounts ..)
  | postEntry c number =>
    simp only [Call.perform, Call.settle_snd]
    cases posted : (o.postEntry c number).1 with
    | error f => rw [Office.postEntry_error posted]; exact holds
    | ok e =>
      obtain ⟨e0, _, _, _, writes, posting, books⟩ := Office.postEntry_ok posted
      rw [books]
      exact (holds.applyWrites (postLines_inCents holds posting) c.user c.now).of_accounts
        (Books.replaceEntry_accounts ..)
  | reverseEntry c number =>
    simp only [Call.perform, Call.settle_snd]
    have numbered : (o.books.nextNumber c.tenant "RV").2.AccountsInCents :=
      holds.of_accounts (Books.nextNumber_accounts ..)
    cases reversed : (o.reverseEntry c number).1 with
    | error f =>
      rw [(Office.reverseEntry_error reversed).1]
      exact numbered
    | ok pair =>
      obtain ⟨src', comp⟩ := pair
      obtain ⟨src, _, _, _, _, id, writes, b', posting, stored, _, books⟩ := Office.reverseEntry_ok reversed
      rw [books]
      exact ((numbered.applyWrites (postLines_inCents numbered posting) c.user c.now).of_accounts
        (Books.addEntry_accounts stored)).of_accounts (Books.replaceEntry_accounts ..)

-- What changes the books in a session: a call of the services, or a direct posting to balances
-- through the balance ledger.
inductive Action where
  | call (call : Call)
  | directPost (c : Ctx) (moves : List Office.Movement) (lock : Option (List String))

-- The office after an action; a failure of it is dropped.
def Action.perform : Action → Office → Office
  | .call step, o => (step.perform o).2
  | .directPost c moves lock, o => (o.directPost c moves lock).2

namespace Office

-- The office after a list of actions, made in order.
def runActions (o : Office) (actions : List Action) : Office :=
  actions.foldl (fun o action => action.perform o) o

-- A property of offices that every action keeps holds after every list of actions.
theorem runActions_invariant (P : Office → Prop) (step : ∀ (o : Office) (action : Action), P o → P (action.perform o))
    {o : Office} (holds : P o) (actions : List Action) : P (o.runActions actions) := by
  induction actions generalizing o with
  | nil => exact holds
  | cons action rest ih => exact ih (step o action holds)

end Office

-- The books keep their amounts in whole cents: every account, and every entry, which passes the
-- posting check with its own totals.
structure Books.InCents (b : Books) : Prop where
  accounts : b.AccountsInCents
  entries : b.EntriesChecked

theorem Books.InCents.perform {o : Office} (holds : o.books.InCents) (action : Action) :
    (action.perform o).books.InCents := by
  cases action with
  | call step => exact ⟨holds.accounts.perform step, holds.entries.perform step⟩
  | directPost c moves lock =>
    simp only [Action.perform]
    rcases Office.directPost_cases o c moves lock with ⟨f, failed⟩ | ⟨held, balances, writes, hold, applied, posted⟩
    · rw [failed]
      exact holds
    · rw [posted]
      have written := (applyMovements_inCents (holdAccounts_inCents holds.accounts hold) applied).2
      exact ⟨holds.accounts.applyWrites written c.user c.now,
        holds.entries.of_entries (Books.applyWrites_entries ..)⟩

theorem Office.runActions_inCents (pageSize : Nat) (actions : List Action) :
    ((Office.start pageSize).runActions actions).books.InCents :=
  Office.runActions_invariant (fun o => o.books.InCents) (fun _ action holds => holds.perform action)
    ⟨fun _ member => by simp at member, fun _ member => by simp at member⟩ actions

section Reports

variable {b : Books}

-- A stored entry's totals and line amounts are amounts.
theorem Entry.Checked.amounts {e : Entry} (checked : e.Checked) :
    e.totalDebit.IsAmount ∧ e.totalCredit.IsAmount ∧ ∀ l ∈ e.lines, l.debit.IsAmount ∧ l.credit.IsAmount := by
  have wf := checked.wellFormed
  have lines : ∀ l ∈ e.lines, l.debit.IsAmount ∧ l.credit.IsAmount :=
    fun l member => ⟨⟨(wf.lines l member).debitCents, (wf.lines l member).debit⟩,
      ⟨(wf.lines l member).creditCents, (wf.lines l member).credit⟩⟩
  obtain ⟨_, debit, credit, _⟩ := checkBalance_eq_ok checked.passes
  refine ⟨?_, ?_, lines⟩
  · rw [debit]
    exact sumAmounts_isAmount (List.forall_mem_map.mpr fun l member => (lines l member).1)
  · rw [credit]
    exact sumAmounts_isAmount (List.forall_mem_map.mpr fun l member => (lines l member).2)

-- Every column of the trial balance is an amount, and so are the totals; the balance a row shows
-- is in whole cents.
theorem Office.trialBalance_amounts (holds : b.AccountsInCents) (tenant : String) :
    (∀ r ∈ (trialBalance b tenant).rows, r.debit.IsAmount ∧ r.credit.IsAmount ∧ r.balance.Cents) ∧
      (trialBalance b tenant).totalDebit.IsAmount ∧ (trialBalance b tenant).totalCredit.IsAmount := by
  have rows : ∀ r ∈ (trialBalance b tenant).rows, r.debit.IsAmount ∧ r.credit.IsAmount ∧ r.balance.Cents := by
    intro r member
    obtain ⟨a, active, rfl⟩ := List.mem_map.mp member
    have stored : a ∈ b.accounts := (List.mem_filter.mp ((activeAccounts_perm b tenant).mem_iff.mp active)).1
    have cents := (holds a stored).balance
    obtain ⟨debitNonneg, creditNonneg, _, _⟩ := trialColumns_value a.side a.balance
    exact ⟨⟨(trialColumns_cents a.side cents).1, debitNonneg⟩, ⟨(trialColumns_cents a.side cents).2, creditNonneg⟩,
      cents⟩
  exact ⟨rows, sumAmounts_isAmount (List.forall_mem_map.mpr fun r member => (rows r member).1),
    sumAmounts_isAmount (List.forall_mem_map.mpr fun r member => (rows r member).2.1)⟩

-- A statement from a start in whole cents, over lines with amounts, shows amounts and running
-- balances in whole cents.
theorem Office.runLines_amounts (side : Side) {start : Decimal} {pairs : List (Entry × Line)}
    (begins : start.Cents) (each : ∀ p ∈ pairs, p.2.debit.IsAmount ∧ p.2.credit.IsAmount) :
    ∀ l ∈ runLines side start pairs, l.debit.IsAmount ∧ l.credit.IsAmount ∧ l.running.Cents := by
  induction pairs generalizing start with
  | nil => simp [runLines]
  | cons p rest ih =>
    obtain ⟨e, line⟩ := p
    obtain ⟨debit, credit⟩ := each (e, line) List.mem_cons_self
    have running : (start + signedDelta side line.debit line.credit).Cents :=
      begins.add (signedDelta_cents side debit.1 credit.1)
    intro l member
    rcases List.mem_cons.mp member with rfl | later
    · exact ⟨debit, credit, running⟩
    · exact ih running (fun q listed => each q (List.mem_cons_of_mem _ listed)) l later

theorem Office.closingBalance_cents {opening : Decimal} {lines : List StatementLine} (begins : opening.Cents)
    (each : ∀ l ∈ lines, l.running.Cents) : (closingBalance opening lines).Cents := by
  unfold closingBalance
  split
  · rename_i l last
    exact each l (List.mem_of_getLast? last)
  · exact begins

-- A statement shows amounts, running balances in whole cents and a closing balance in whole
-- cents.
theorem Office.statement_amounts (holds : b.InCents) {tenant : String} {code : Ref} {a : Account}
    {lines : List StatementLine} (found : statement b tenant code = .ok (a, lines)) :
    (∀ l ∈ lines, l.debit.IsAmount ∧ l.credit.IsAmount ∧ l.running.Cents) ∧
      (closingBalance a.opening lines).Cents := by
  obtain ⟨a', account, shown⟩ := Except.bind_eq_ok.mp found
  simp only [pure, Except.pure, Except.ok.injEq, Prod.mk.injEq] at shown
  obtain ⟨rfl, rfl⟩ := shown
  have opening := (holds.accounts a' (accountByCode_eq_ok account).1).opening.1
  -- the statement's lines are lines of stored entries
  have each : ∀ p ∈ (postedEntries b tenant).flatMap (fun e =>
      (e.lines.filter (·.code == a'.code)).map fun l => (e, l)),
      p.2.debit.IsAmount ∧ p.2.credit.IsAmount := by
    intro p member
    simp only [List.mem_flatMap, List.mem_map, List.mem_filter] at member
    obtain ⟨e, posted, l, ⟨listed, _⟩, rfl⟩ := member
    simp only [postedEntries, List.mem_filterMap, Option.filter_eq_some_iff] at posted
    obtain ⟨k, _, found, _⟩ := posted
    exact (holds.entries e (Books.entry?_some found).1).amounts.2.2 l listed
  have shows := runLines_amounts a'.side opening each
  exact ⟨shows, closingBalance_cents opening fun l member => (shows l member).2.2⟩

end Reports

-- In every state a session reaches, by the services' calls and direct postings, each amount the
-- answers print with two places reads back exactly as a whole number of cents: the opening and
-- current balances of accounts, the totals and line amounts of entries, the columns and totals of
-- the trial balance and the balances its rows show, the amounts, running balances and closing
-- balance of a statement, and the balances a direct posting gives back. Only balances may be
-- negative.
theorem printed_amounts_read_back_exactly (pageSize : Nat) (actions : List Action) :
    let o := (Office.start pageSize).runActions actions
    (∀ a ∈ o.books.accounts, a.opening.PrintsAsAmount ∧ a.balance.PrintsExactly) ∧
    (∀ e ∈ o.books.entries, e.totalDebit.PrintsAsAmount ∧ e.totalCredit.PrintsAsAmount ∧
      ∀ l ∈ e.lines, l.debit.PrintsAsAmount ∧ l.credit.PrintsAsAmount) ∧
    (∀ tenant, (∀ r ∈ (Office.trialBalance o.books tenant).rows,
        r.debit.PrintsAsAmount ∧ r.credit.PrintsAsAmount ∧ r.balance.PrintsExactly) ∧
      (Office.trialBalance o.books tenant).totalDebit.PrintsAsAmount ∧
      (Office.trialBalance o.books tenant).totalCredit.PrintsAsAmount) ∧
    (∀ tenant code a lines, Office.statement o.books tenant code = .ok (a, lines) →
      (∀ l ∈ lines, l.debit.PrintsAsAmount ∧ l.credit.PrintsAsAmount ∧ l.running.PrintsExactly) ∧
        (Office.closingBalance a.opening lines).PrintsExactly) ∧
    (∀ c moves lock balances, (o.directPost c moves lock).1 = .ok balances →
      ∀ d ∈ balances, d.PrintsExactly) := by
  intro o
  have holds := Office.runActions_inCents pageSize actions
  refine ⟨?_, ?_, ?_, ?_, ?_⟩
  · intro a member
    have kept := holds.accounts a member
    exact ⟨kept.opening.printsAsAmount, kept.balance.printsExactly⟩
  · intro e member
    obtain ⟨debit, credit, lines⟩ := (holds.entries e member).amounts
    exact ⟨debit.printsAsAmount, credit.printsAsAmount, fun l listed =>
      ⟨(lines l listed).1.printsAsAmount, (lines l listed).2.printsAsAmount⟩⟩
  · intro tenant
    obtain ⟨rows, debit, credit⟩ := Office.trialBalance_amounts holds.accounts tenant
    exact ⟨fun r member => ⟨(rows r member).1.printsAsAmount, (rows r member).2.1.printsAsAmount,
      (rows r member).2.2.printsExactly⟩, debit.printsAsAmount, credit.printsAsAmount⟩
  · intro tenant code a lines found
    obtain ⟨shown, closing⟩ := Office.statement_amounts holds found
    exact ⟨fun l member => ⟨(shown l member).1.printsAsAmount, (shown l member).2.1.printsAsAmount,
      (shown l member).2.2.printsExactly⟩, closing.printsExactly⟩
  · intro c moves lock balances posted d member
    rcases Office.directPost_cases o c moves lock with ⟨f, failed⟩ | ⟨held, given, writes, hold, applied, done⟩
    · rw [failed] at posted
      cases posted
    · rw [done] at posted
      cases posted
      exact ((applyMovements_inCents (holdAccounts_inCents holds.accounts hold) applied).1 d member).printsExactly

-- Cash opened at 100.5 and moved by 12.50 and then by 10 directly stands at 123.00, which prints
-- and reads back exactly.
theorem direct_move_after_sale_prints_exactly :
    let o := (Office.start 20).runActions
      [.call (.registerAccount ⟨"T1", "u1", Timestamp.zero⟩
         { code := "1000", name := "Cash", type := "ASSET", opening := ⟨1005, -1⟩ }),
       .call (.registerAccount ⟨"T1", "u1", Timestamp.zero⟩ { code := "4000", name := "Sales", type := "REVENUE" }),
       .call (.createDraft ⟨"T1", "u1", Timestamp.zero⟩
         { lines := [{ code := "1000", debit := ⟨1250, -2⟩ }, { code := "4000", credit := ⟨125, -1⟩ }] }),
       .call (.postEntry ⟨"T1", "u1", Timestamp.zero⟩ "JE-000001")]
    (o.directPost ⟨"T1", "u1", Timestamp.zero⟩ [⟨"1000", ⟨1, 1⟩, Decimal.zero⟩] none).1 = .ok [⟨12300, -2⟩] ∧
      Amount.format ⟨12300, -2⟩ = "123.00" ∧ Decimal.PrintsExactly ⟨12300, -2⟩ := by
  intro o
  have posted : (o.directPost ⟨"T1", "u1", Timestamp.zero⟩ [⟨"1000", ⟨1, 1⟩, Decimal.zero⟩] none).1 =
      .ok [⟨12300, -2⟩] := by decide +kernel
  exact ⟨posted, by decide +kernel,
    (printed_amounts_read_back_exactly 20 _).2.2.2.2 _ _ _ _ posted _ List.mem_cons_self⟩

end Ledger
