import Ledger.Proofs.Wellformed

-- The balance equation: every account's balance is its opening balance moved by the lines on
-- its code of every entry of its tenant that left draft. Drafts move nothing; posting moves
-- the accounts by exactly the lines it stores, and a reversal by the lines of the
-- compensating entry it stores; a failure stores nothing. So each call keeps the equation.

namespace Ledger

-- How a stored entry has moved an account: by its lines on the account's code, once it left
-- draft, when it is an entry of the account's tenant.
def Entry.moved (e : Entry) (a : Account) : ℚ :=
  if e.tenant = a.tenant ∧ e.status ≠ .draft then linesDelta e.lines a.code a.side else 0

-- How the entries of the books have moved an account.
def Books.moved (b : Books) (a : Account) : ℚ := (b.entries.map (·.moved a)).sum

-- Every account's balance is its opening balance moved by the entries of the books.
def Books.BalanceEquation (b : Books) : Prop :=
  ∀ a ∈ b.accounts, a.balance.value = a.opening.value + b.moved a

section Moved

variable {b : Books} {e e' : Entry} {a : Account}

theorem Entry.moved_draft (draft : e.status = .draft) (a : Account) : e.moved a = 0 := by
  simp [Entry.moved, draft]

theorem Entry.moved_live (live : e.status ≠ .draft) (a : Account) :
    e.moved a = if e.tenant = a.tenant then linesDelta e.lines a.code a.side else 0 := by
  simp [Entry.moved, live]

theorem Entry.moved_congr (tenant : e'.tenant = e.tenant) (lines : e'.lines = e.lines)
    (live : e'.status ≠ .draft) (live' : e.status ≠ .draft) (a : Account) :
    e'.moved a = e.moved a := by
  rw [Entry.moved_live live, Entry.moved_live live', tenant, lines]

theorem Entry.moved_retains {a' : Account} (kept : a'.Retains a) (e : Entry) :
    e.moved a' = e.moved a := by
  simp [Entry.moved, kept.tenant, kept.code, kept.side]

-- A posted entry moves each account of its tenant by the lines of its draft.
theorem Entry.moved_of_postLines {c : Ctx} {e0 : Entry} {writes : List (String × Decimal)}
    (posting : postLines b c e0 = .ok (e, writes)) (a : Account) :
    e.moved a = if a.tenant = e0.tenant then linesDelta e0.lines a.code a.side else 0 := by
  obtain ⟨tenant, _, _, posted, _⟩ := postLines_fields posting
  rw [Entry.moved_live (by rw [posted]; decide), tenant, postLines_linesDelta posting]
  by_cases same : a.tenant = e0.tenant
  · rw [if_pos same.symm, if_pos same]
  · rw [if_neg (Ne.symm same), if_neg same]

-- Replacing a stored entry by one with its key trades what the one moved for what the other
-- moves.
theorem Books.moved_replace (nodup : (b.entries.map Entry.key).Nodup) {e0 : Entry}
    (member : e0 ∈ b.entries) (same : e.key = e0.key) (a : Account) :
    (b.replaceEntry e).moved a = b.moved a - e0.moved a + e.moved a := by
  obtain ⟨pre, post, split, replaced, _⟩ := Books.replaceEntry_split nodup member same
  simp only [Books.moved, replaced, split, List.map_append, List.map_cons, List.sum_append,
    List.sum_cons]
  ring

theorem Books.moved_remove (nodup : (b.entries.map Entry.key).Nodup) {e0 : Entry}
    (member : e0 ∈ b.entries) (a : Account) :
    (b.removeEntry e0.key).moved a = b.moved a - e0.moved a := by
  obtain ⟨pre, post, split, others⟩ := split_at_key Entry.key nodup member
  have removed := filter_key_split Entry.key others
  simp only [Books.moved, Books.removeEntry_entries]
  rw [split, removed]
  simp only [List.map_append, List.map_cons, List.sum_append, List.sum_cons]
  ring

-- An account no line of its tenant names has not moved: every line that left draft names an
-- account of its entry's tenant, and only one account has that key.
theorem Books.moved_of_free (sound : b.Wellformed) (free : b.account? a.key = none) :
    b.moved a = 0 := by
  apply List.sum_eq_zero
  intro d member
  obtain ⟨x, xMember, rfl⟩ := List.mem_map.mp member
  by_cases live : x.status = .draft
  · exact Entry.moved_draft live a
  · rw [Entry.moved_live live]
    split
    · rename_i tenant
      refine linesDelta_of_absent (fun l lMember named => ?_) a.side
      obtain ⟨y, yMember, yTenant, yCode⟩ := sound.resolved x xMember live l lMember
      have key : y.key = a.key := by rw [Account.key, Account.key, yTenant, tenant, yCode, named]
      exact Books.account?_eq_none.mp free y yMember key
    · rfl

end Moved

namespace Books.BalanceEquation

variable {b : Books} {c : Ctx}

theorem opened (sound : b.Wellformed) (holds : b.BalanceEquation) {a : Account}
    (free : b.account? a.key = none) (opening : a.balance = a.opening) :
    ({ b with
      accounts := b.accounts ++ [a]
      accountIDs := setKey b.accountIDs a.id a.key } : Books).BalanceEquation := by
  intro x member
  rcases List.mem_append.mp member with old | new
  · exact holds x old
  · rw [List.mem_singleton.mp new, opening]
    have unmoved : b.moved a = 0 := Books.moved_of_free sound free
    simp only [Books.moved] at unmoved ⊢
    rw [unmoved, add_zero]

theorem redescribed (holds : b.BalanceEquation) {b' : Books} (kept : b'.Redescribed b) :
    b'.BalanceEquation := by
  obtain ⟨g, keeps, rfl⟩ := kept
  intro x member
  obtain ⟨a, aMember, rfl⟩ := List.mem_map.mp member
  have moved : ({ b with accounts := b.accounts.map g } : Books).moved (g a) = b.moved a := by
    simp only [Books.moved, Entry.moved_retains (keeps a)]
  rw [(keeps a).balance, (keeps a).opening, moved]
  exact holds a aMember

-- Storing a draft, or issuing a number, moves nothing.
theorem drafted (holds : b.BalanceEquation) {e : Entry} (draft : e.status = .draft)
    (tenant pfx : String) :
    ({ (b.nextNumber tenant pfx).2 with
      entries := b.entries ++ [e]
      entryIDs := setKey b.entryIDs e.id e.key } : Books).BalanceEquation := by
  intro x member
  have moved : ({ (b.nextNumber tenant pfx).2 with
      entries := b.entries ++ [e]
      entryIDs := setKey b.entryIDs e.id e.key } : Books).moved x = b.moved x := by
    simp [Books.moved, Entry.moved_draft draft]
  rw [moved]
  exact holds x member

theorem numbered (holds : b.BalanceEquation) (tenant pfx : String) :
    (b.nextNumber tenant pfx).2.BalanceEquation := holds

theorem redrafted (sound : b.Wellformed) (holds : b.BalanceEquation) {e0 e : Entry}
    (member : e0 ∈ b.entries) (draft : e0.status = .draft) (same : e.Rewrites e0) :
    (b.replaceEntry e).BalanceEquation := by
  intro x xMember
  rw [Books.moved_replace sound.entryKeys member same.key, Entry.moved_draft draft,
    Entry.moved_draft (same.status.trans draft), sub_zero, add_zero]
  exact holds x (by simpa using xMember)

theorem discarded (sound : b.Wellformed) (holds : b.BalanceEquation) {e0 : Entry}
    (member : e0 ∈ b.entries) (draft : e0.status = .draft) :
    (b.removeEntry e0.key).BalanceEquation := by
  intro x xMember
  rw [Books.moved_remove sound.entryKeys member, Entry.moved_draft draft, sub_zero]
  exact holds x xMember

-- Posting moves each account of the entry's tenant by the entry's lines on its code, and the
-- posted entry, now counted, moves it by the same lines.
theorem posted (sound : b.Wellformed) (holds : b.BalanceEquation) {e0 e : Entry}
    {writes : List (String × Decimal)} (member : e0 ∈ b.entries) (draft : e0.status = .draft)
    (posting : postLines b c e0 = .ok (e, writes)) :
    ((b.applyWrites writes c.user c.now).replaceEntry e).BalanceEquation := by
  intro x xMember
  rw [Books.replaceEntry_accounts, Books.applyWrites_accounts] at xMember
  obtain ⟨a, aMember, rfl⟩ := List.mem_map.mp xMember
  have stored := Books.moved_replace (b := b.applyWrites writes c.user c.now)
    (by simpa using sound.entryKeys) (by simpa using member) (postLines_fields posting).2.2.1
    (writeBalance writes c.user c.now a)
  have moved : (b.applyWrites writes c.user c.now).moved (writeBalance writes c.user c.now a) =
      b.moved a := by
    simp only [Books.moved, Books.applyWrites_entries]
    congr 1
    exact List.map_congr_left fun y _ => by simp [Entry.moved]
  rw [stored, moved, Entry.moved_draft draft, Entry.moved_of_postLines posting,
    postLines_accounts sound.accountKeys posting c.user c.now a aMember, holds a aMember]
  simp only [writeBalance_tenant, writeBalance_code, writeBalance_side, writeBalance_opening]
  ring

-- A reversal moves the accounts by the lines of the compensating entry it stores; the source
-- keeps its lines and stays counted.
theorem reversed (sound : b.Wellformed) (holds : b.BalanceEquation) {src comp : Entry}
    {id : String} {writes : List (String × Decimal)} {b' : Books} (member : src ∈ b.entries)
    (live : src.status = .posted)
    (posting : postLines (b.nextNumber c.tenant "RV").2 c
      (Office.compensation c id (Office.entryNumber "RV" (b.lastNumber c.tenant "RV" + 1)) src) =
        .ok (comp, writes))
    (stored : ((b.nextNumber c.tenant "RV").2.applyWrites writes c.user c.now).addEntry comp =
      .ok b') :
    (b'.replaceEntry { src with
      status := .reversed, reversedBy := comp.number, audit := src.audit.touch c.user c.now }).BalanceEquation := by
  obtain ⟨entries, fresh⟩ := Books.addEntry_after_writes stored
  have nodup : (b'.entries.map Entry.key).Nodup := by
    rw [entries]
    exact nodup_map_append_singleton Entry.key sound.entryKeys fresh
  have listed : src ∈ b'.entries := entries ▸ List.mem_append_left _ member
  have stillLive : src.status ≠ .draft := by rw [live]; decide
  set src' : Entry := { src with
    status := .reversed, reversedBy := comp.number, audit := src.audit.touch c.user c.now }
  intro x xMember
  rw [Books.accounts_after_writes stored] at xMember
  obtain ⟨a, aMember, rfl⟩ := List.mem_map.mp xMember
  have moved : b'.moved (writeBalance writes c.user c.now a) =
      b.moved a + comp.moved a := by
    simp only [Books.moved, entries, List.map_append, List.sum_append, List.map_singleton,
      List.sum_singleton]
    congr 1
    · exact congrArg List.sum (List.map_congr_left fun y _ => by simp [Entry.moved])
    · simp [Entry.moved]
  rw [Books.moved_replace (e := src') nodup listed rfl,
    moved, @Entry.moved_congr src src' rfl rfl
      (show EntryStatus.reversed ≠ .draft by decide) stillLive,
    Entry.moved_of_postLines posting,
    postLines_accounts sound.accountKeys posting c.user c.now a aMember, holds a aMember,
    writeBalance_opening]
  ring

theorem change (sound : b.Wellformed) (holds : b.BalanceEquation) {b' : Books}
    (change : b.Change c b') : b'.BalanceEquation := by
  cases change with
  | unchanged => exact holds
  | opened a free _ opening => exact holds.opened sound free opening
  | redescribed kept => exact holds.redescribed kept
  | drafted pfx e _ _ draft _ _ _ => exact holds.drafted draft c.tenant pfx
  | numbered pfx _ => exact holds.numbered c.tenant pfx
  | redrafted e0 e member draft same => exact holds.redrafted sound member draft same
  | discarded e0 member draft => exact holds.discarded sound member draft
  | posted e0 e writes member draft posting => exact holds.posted sound member draft posting
  | reversed src comp id writes b' member _ live _ posting stored =>
    exact holds.reversed sound member live posting stored

end Books.BalanceEquation

-- Every session keeps the books well formed and the balance equation.
theorem Office.run_balanceEquation (pageSize : Nat) (calls : List Call) :
    ((Office.start pageSize).run calls).books.Wellformed ∧
      ((Office.start pageSize).run calls).books.BalanceEquation :=
  Office.run_invariant (fun o => o.books.Wellformed ∧ o.books.BalanceEquation)
    (fun o call holds => ⟨holds.1.change (Call.perform_change call o),
      holds.2.change holds.1 (Call.perform_change call o)⟩)
    ⟨Office.start_wellformed pageSize, fun a member => by simp at member⟩ calls

-- What the entries have moved an account by, summed as the ledger states it: over the entries
-- of its tenant that left draft, over their lines on its code, the signed deltas.
theorem Books.moved_eq (b : Books) (a : Account) :
    b.moved a = ((b.entries.filter fun e => e.tenant = a.tenant ∧ e.status ≠ .draft).map fun e =>
      ((e.lines.filter fun l => l.code = a.code).map fun l =>
        (signedDelta a.side l.debit l.credit).value).sum).sum := by
  have lines : ∀ e : Entry, linesDelta e.lines a.code a.side =
      ((e.lines.filter fun l => l.code = a.code).map fun l =>
        (signedDelta a.side l.debit l.credit).value).sum := fun _ => rfl
  unfold Books.moved
  induction b.entries with
  | nil => rfl
  | cons e rest ih =>
    rw [List.map_cons, List.sum_cons, ih, List.filter_cons, Entry.moved]
    by_cases counted : e.tenant = a.tenant ∧ e.status ≠ .draft
    · rw [if_pos counted, if_pos (decide_eq_true counted), List.map_cons, List.sum_cons, lines]
    · rw [if_neg counted, if_neg (by simpa using counted), zero_add]

-- In every state a session reaches, every account's balance is its opening balance plus the
-- signed deltas of the lines on its code of every entry of its tenant that left draft.
theorem balance_eq_opening_add_posted (pageSize : Nat) (calls : List Call) :
    ∀ a ∈ ((Office.start pageSize).run calls).books.accounts,
      a.balance.value = a.opening.value +
        ((((Office.start pageSize).run calls).books.entries.filter fun e =>
            e.tenant = a.tenant ∧ e.status ≠ .draft).map fun e =>
          ((e.lines.filter fun l => l.code = a.code).map fun l =>
            (signedDelta a.side l.debit l.credit).value).sum).sum := by
  intro a member
  rw [← Books.moved_eq]
  exact (Office.run_balanceEquation pageSize calls).2 a member

-- Cash opened at 250 and debited 100 by a posted sale stands at 350.
theorem posted_sale_moves_cash :
    let b := ((Office.start 20).run
      [.registerAccount ⟨"T1", "u1", Timestamp.zero⟩
         { code := "1000", name := "Cash", type := "ASSET", opening := ⟨250, 0⟩ },
       .registerAccount ⟨"T1", "u1", Timestamp.zero⟩ { code := "4000", name := "Sales", type := "REVENUE" },
       .createDraft ⟨"T1", "u1", Timestamp.zero⟩
         { lines := [{ code := "1000", debit := ⟨100, 0⟩ }, { code := "4000", credit := ⟨100, 0⟩ }] },
       .postEntry ⟨"T1", "u1", Timestamp.zero⟩ "JE-000001"]).books
    let cash := b.accounts.headD default
    cash ∈ b.accounts ∧ cash.code = "1000" ∧ cash.opening.value = 250 ∧ cash.balance.value = 350 := by
  intro b cash
  have member : cash ∈ b.accounts := by decide +kernel
  refine ⟨member, by decide +kernel, by decide +kernel, ?_⟩
  rw [balance_eq_opening_add_posted 20 _ cash member]
  decide +kernel

end Ledger
