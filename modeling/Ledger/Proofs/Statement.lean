import Mathlib.Data.List.Forall2
import Ledger.Office.Reports
import Ledger.Proofs.Replay
import Ledger.Proofs.PostingOrder

-- The account statement replays the ledger. Two paths give an account's balances: each posting
-- writes the balances its lines take the account to, and the statement recomputes them from
-- the opening balance over the lines of the tenant's entries out of draft, in the order they
-- left it. Over every session the two agree line by line, and the statement closes at the
-- account's balance.

namespace Ledger

-- A statement line shows a line of a committed entry: the entry's number, date and posting
-- time, and the line's number, description and amounts.
structure StatementLine.Shows (s : StatementLine) (p : Entry × Line) : Prop where
  number : s.number = p.1.number
  date : s.date = p.1.date
  postedAt : p.1.postedAt = some s.postedAt
  line : s.line = p.2.number
  description : s.description = p.2.description
  debit : s.debit = p.2.debit
  credit : s.credit = p.2.credit

-- A line of a stored entry against the same line of the entry as it was committed.
def Entry.LinePersists (q p : Entry × Line) : Prop :=
  q.1.Persists p.1 ∧ q.2 = p.2

theorem Entry.LinePersists.map_snd {pairs committed : List (Entry × Line)}
    (same : List.Forall₂ Entry.LinePersists pairs committed) :
    pairs.map (·.2) = committed.map (·.2) := by
  rw [← List.forall₂_eq_eq_eq, List.forall₂_map_left_iff, List.forall₂_map_right_iff]
  exact same.imp fun _ _ line => line.2

section Lines

variable {log : List (Entry × Writes)} {a : Account}

-- An account's committed lines are those of its tenant's commits on its code.
theorem postedLines_eq_filter (log : List (Entry × Writes)) (a : Account) :
    postedLines log a = (log.filter (·.1.tenant == a.tenant)).flatMap fun p =>
      (p.1.lines.filter (·.code == a.code)).map (p.1, ·) := by
  induction log with
  | nil => rfl
  | cons p log ih =>
    simp only [postedLines, Entry.linesOn] at ih ⊢
    by_cases mine : p.1.tenant = a.tenant <;> simp [mine, ih]

theorem mem_postedLines {q : Entry × Line} (member : q ∈ postedLines log a) :
    ∃ p ∈ log, q.1 = p.1 := by
  obtain ⟨p, pMember, lMember⟩ := List.mem_flatMap.mp member
  obtain ⟨l, _, rfl⟩ := List.mem_map.mp lMember
  exact ⟨p, pMember, rfl⟩

end Lines

namespace Office

variable {side : Side}

theorem runLines_running (start : Decimal) (pairs : List (Entry × Line)) :
    (runLines side start pairs).map (·.running) = runningBalances side start (pairs.map (·.2)) := by
  induction pairs generalizing start with
  | nil => rfl
  | cons p rest ih => simp [runLines, runningBalances, ih]

theorem closingBalance_eq_getLastD (opening : Decimal) (lines : List StatementLine) :
    closingBalance opening lines = (lines.map (·.running)).getLastD opening := by
  rw [List.getLastD_eq_getLast?, List.getLast?_map, closingBalance]
  cases lines.getLast? <;> rfl

-- The lines a statement shows are the lines it reads, each with the entry it was committed as.
theorem runLines_shows (start : Decimal) {pairs committed : List (Entry × Line)}
    (same : List.Forall₂ Entry.LinePersists pairs committed)
    (stamped : ∀ p ∈ committed, p.1.postedAt.isSome) :
    List.Forall₂ StatementLine.Shows (runLines side start pairs) committed := by
  induction same generalizing start with
  | nil => exact .nil
  | @cons q p pairs committed head _ ih =>
    obtain ⟨e, l⟩ := q
    obtain ⟨e0, l0⟩ := p
    obtain ⟨persists, (line : l = l0)⟩ := head
    subst line
    have postedAt : e.postedAt = e0.postedAt := persists.field Entry.postedAt fun _ _ _ => rfl
    obtain ⟨t, (stampedAt : e0.postedAt = some t)⟩ :=
      Option.isSome_iff_exists.mp (stamped (e0, l) List.mem_cons_self)
    refine .cons ⟨persists.field Entry.number fun _ _ _ => rfl, persists.field Entry.date fun _ _ _ => rfl,
      ?_, rfl, rfl, rfl, rfl⟩ (ih _ fun p member => stamped p (List.mem_cons_of_mem _ member))
    show e0.postedAt = some (e.postedAt.getD Timestamp.zero)
    rw [postedAt, stampedAt]
    rfl

theorem accountByCode_of_mem {b : Books} (sound : b.Wellformed) {a : Account}
    (member : a ∈ b.accounts) : accountByCode b a.tenant a.code = .ok a := by
  have found : b.account? (accountKey a.tenant a.code) = some a :=
    (Books.account?_eq_some sound.accountKeys).mpr ⟨member, rfl⟩
  simp [accountByCode, found]

-- The statement of an account of the books runs over the lines on it of its tenant's entries
-- out of draft.
theorem statement_of_mem {b : Books} (sound : b.Wellformed) {a : Account} (member : a ∈ b.accounts) :
    statement b a.tenant a.code = .ok (a, runLines a.side a.opening
      ((postedEntries b a.tenant).flatMap fun e => (e.lines.filter (·.code == a.code)).map (e, ·))) := by
  simp [statement, accountByCode_of_mem sound member]

end Office

namespace Books.Replays

variable {b : Books} {log : List (Entry × Writes)}

theorem entry?_committed (sound : b.Wellformed) (holds : b.Replays log) {p : Entry × Writes}
    (member : p ∈ log) : ∃ e, b.entry? p.1.key = some e ∧ e.Persists p.1 := by
  obtain ⟨e, eMember, persists⟩ := holds.stored p member
  exact ⟨e, (Books.entry?_eq_some sound.entryKeys).mpr ⟨eMember, persists.key⟩, persists⟩

-- An entry is out of draft exactly when it is what some commit became.
theorem live_iff (sound : b.Wellformed) (holds : b.Replays log) {e : Entry}
    (member : e ∈ b.entries) : e.status ≠ .draft ↔ ∃ p ∈ log, e.Persists p.1 := by
  rw [holds.listed e member, holds.order, List.mem_map]
  constructor
  · rintro ⟨p, pMember, key⟩
    obtain ⟨e', e'Member, persists⟩ := holds.stored p pMember
    have same : e' = e := sound.eq_of_key e'Member member (persists.key.trans key)
    exact ⟨p, pMember, same ▸ persists⟩
  · rintro ⟨p, pMember, persists⟩
    exact ⟨p, pMember, persists.key.symm⟩

-- The entries a statement reads are the tenant's commits, in commit order, each as stored now.
theorem postedEntries (sound : b.Wellformed) (holds : b.Replays log) (ordered : b.Numbered)
    (tenant : String) :
    List.Forall₂ (fun e p => e.Persists p.1) (Office.postedEntries b tenant)
      (log.filter (·.1.tenant == tenant)) := by
  rw [Office.postedEntries_of_numbered ordered, holds.order, List.filterMap_map]
  -- the posting order is read one commit at a time, each key finding the commit's stored entry
  suffices ∀ L ⊆ log, List.Forall₂ (fun e p => e.Persists p.1)
      (L.filterMap ((fun k => (b.entry? k).filter (·.tenant == tenant)) ∘ (·.1.key)))
      (L.filter (·.1.tenant == tenant)) from this log (List.Subset.refl _)
  intro L within
  induction L with
  | nil => exact .nil
  | cons p L ih =>
    obtain ⟨e, found, persists⟩ := holds.entry?_committed sound (within List.mem_cons_self)
    have sameTenant : e.tenant = p.1.tenant := persists.field Entry.tenant fun _ _ _ => rfl
    have rest := ih fun q member => within (List.mem_cons_of_mem _ member)
    by_cases mine : p.1.tenant = tenant
    · simp only [List.filterMap_cons, List.filter_cons, Function.comp_apply, found, Option.filter_some,
        sameTenant, mine, beq_self_eq_true, if_true]
      exact .cons persists rest
    · simpa [List.filterMap_cons, List.filter_cons, found, Option.filter_some, sameTenant, mine] using rest

-- The pairs a statement reads are the committed lines on the account.
theorem statementPairs (sound : b.Wellformed) (holds : b.Replays log) (ordered : b.Numbered)
    (a : Account) :
    List.Forall₂ Entry.LinePersists
      ((Office.postedEntries b a.tenant).flatMap fun e => (e.lines.filter (·.code == a.code)).map (e, ·))
      (postedLines log a) := by
  rw [postedLines_eq_filter]
  refine List.rel_flatMap (holds.postedEntries sound ordered a.tenant) fun e p persists => ?_
  have lines : e.lines = p.1.lines := persists.field Entry.lines fun _ _ _ => rfl
  rw [lines, List.forall₂_map_left_iff, List.forall₂_map_right_iff]
  exact List.forall₂_same.mpr fun _ _ => ⟨persists, rfl⟩

-- The statement of an account shows its committed lines, its running balances are the balances
-- the postings wrote, and it closes at the account's balance.
theorem statement (sound : b.Wellformed) (holds : b.Replays log) (ordered : b.Numbered) {a : Account}
    (member : a ∈ b.accounts) :
    ∃ lines, Office.statement b a.tenant a.code = .ok (a, lines) ∧
      List.Forall₂ StatementLine.Shows lines (postedLines log a) ∧
      lines.map (·.running) = appliedUnder log a.key ∧
      Office.closingBalance a.opening lines = a.balance := by
  have pairs := holds.statementPairs sound ordered a
  obtain ⟨written, balance⟩ := holds.replayed a member
  have stamped : ∀ q ∈ postedLines log a, q.1.postedAt.isSome := fun q qMember => by
    obtain ⟨p, pMember, same⟩ := mem_postedLines qMember
    rw [same]
    exact (holds.committed p pMember).2.1
  refine ⟨_, Office.statement_of_mem sound member, Office.runLines_shows _ pairs stamped, ?_, ?_⟩
  · rw [Office.runLines_running, Entry.LinePersists.map_snd pairs, written]
  · rw [Office.closingBalance_eq_getLastD, Office.runLines_running, Entry.LinePersists.map_snd pairs, ← written, balance]

end Books.Replays

-- The account statement replays the ledger. After any session, the commits of its postings and
-- reversals are distinct entries, and they are exactly the entries out of draft, as stored now;
-- each has its lines in line order. For every account, the statement lists the lines on it of
-- its tenant's commits, in commit order and in each entry's line order; its running balances are
-- the balances the postings wrote to the account, one after another; and it closes at the
-- account's balance, which is its opening balance when nothing was posted to it.
theorem statement_replays_ledger (pageSize : Nat) (calls : List Call) {a : Account}
    (member : a ∈ ((Office.start pageSize).run calls).books.accounts) :
    (((Office.start pageSize).commits calls).map (·.1.key)).Nodup ∧
    (∀ e ∈ ((Office.start pageSize).run calls).books.entries,
      e.status ≠ .draft ↔ ∃ p ∈ (Office.start pageSize).commits calls, e.Persists p.1) ∧
    (∀ p ∈ (Office.start pageSize).commits calls,
      p.1.lines.Pairwise fun l l' => l.number ≤ l'.number) ∧
    ∃ lines, Office.statement ((Office.start pageSize).run calls).books a.tenant a.code = .ok (a, lines) ∧
      List.Forall₂ StatementLine.Shows lines (postedLines ((Office.start pageSize).commits calls) a) ∧
      lines.map (·.running) = appliedUnder ((Office.start pageSize).commits calls) a.key ∧
      Office.closingBalance a.opening lines = a.balance := by
  have sound := Office.run_wellformed pageSize calls
  have holds := Office.run_replays (Office.start_wellformed pageSize) (Office.start_replays pageSize) calls
  rw [List.nil_append] at holds
  have ordered : ((Office.start pageSize).run calls).books.Numbered :=
    Office.run_numbered Books.Numbered.empty calls
  refine ⟨holds.order ▸ holds.distinct, fun e member => holds.live_iff sound member,
    fun p member => (holds.committed p member).2.2.1, holds.statement sound ordered member⟩

-- A cash account opened at 250, a sale posted to it and then reversed: its statement reads the
-- sale and the compensation, and closes at its balance.
theorem cash_statement_after_reversal :
    let calls : List Call :=
      [.registerAccount ⟨"T1", "u1", Timestamp.zero⟩
        { code := "1000", name := "Cash", type := "ASSET", opening := ⟨250, 0⟩ },
       .registerAccount ⟨"T1", "u1", Timestamp.zero⟩ { code := "4000", name := "Sales", type := "REVENUE" },
       .createDraft ⟨"T1", "u1", Timestamp.zero⟩
         { lines := [{ code := "1000", debit := ⟨100, 0⟩ }, { code := "4000", credit := ⟨100, 0⟩ }] },
       .postEntry ⟨"T1", "u1", Timestamp.zero⟩ "JE-000001",
       .reverseEntry ⟨"T1", "u2", Timestamp.zero⟩ "JE-000001"]
    let cash := ((Office.start 20).run calls).books.accounts.headD default
    cash ∈ ((Office.start 20).run calls).books.accounts ∧
      ∃ lines, Office.statement ((Office.start 20).run calls).books cash.tenant cash.code = .ok (cash, lines) ∧
        List.Forall₂ StatementLine.Shows lines (postedLines ((Office.start 20).commits calls) cash) ∧
        Office.closingBalance cash.opening lines = cash.balance := by
  intro calls cash
  have member : cash ∈ ((Office.start 20).run calls).books.accounts := by decide +kernel
  obtain ⟨_, _, _, lines, read, shows, _, closing⟩ := statement_replays_ledger 20 calls member
  exact ⟨member, lines, read, shows, closing⟩

end Ledger
