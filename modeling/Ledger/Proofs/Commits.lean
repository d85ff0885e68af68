import Ledger.Proofs.History

-- What a session commits. A posting applies its lines in line order; each application moves
-- the held account by the line's signed delta and writes the balance it reached under the
-- account's key, and the transaction stores those writes, the last under a key winning. The
-- commits of a session are its postings and reversals that succeeded, each with the entry it
-- posted and the balances its lines wrote, in the order of the calls.

namespace Ledger

-- The balance writes of a posting, in the order its lines were applied.
abbrev Writes := List (String × Decimal)

-- The balances written under a key, in order.
def writtenUnder (writes : Writes) (k : String) : List Decimal :=
  writes.filterMap fun w => if w.1 = k then some w.2 else none

-- The balances an account of a side takes from `start` as lines move it, one after each line.
def runningBalances (side : Side) : Decimal → List Line → List Decimal
  | _, [] => []
  | start, l :: rest =>
    let next := start + signedDelta side l.debit l.credit
    next :: runningBalances side next rest

-- The lines of an entry on an account: those on its code, when the entry is of its tenant.
def Entry.linesOn (e : Entry) (a : Account) : List Line :=
  if e.tenant = a.tenant then e.lines.filter (·.code == a.code) else []

section Running

@[simp] theorem writtenUnder_nil (k : String) : writtenUnder [] k = [] := rfl

theorem writtenUnder_cons (w : String × Decimal) (rest : Writes) (k : String) :
    writtenUnder (w :: rest) k = (if w.1 = k then [w.2] else []) ++ writtenUnder rest k := by
  by_cases named : w.1 = k <;> simp [writtenUnder, named]

@[simp] theorem writtenUnder_append (writes more : Writes) (k : String) :
    writtenUnder (writes ++ more) k = writtenUnder writes k ++ writtenUnder more k := by
  simp [writtenUnder]

theorem writtenUnder_eq_nil {writes : Writes} {k : String} :
    writtenUnder writes k = [] ↔ ∀ w ∈ writes, w.1 ≠ k := by
  simp [writtenUnder, List.filterMap_eq_nil_iff]

theorem getLastD_append {α : Type} (l l' : List α) (d : α) :
    (l ++ l').getLastD d = l'.getLastD (l.getLastD d) := by
  simp only [List.getLastD_eq_getLast?, List.getLast?_append]
  cases l'.getLast? <;> rfl

-- The last write under a key is the last of the balances written under it.
theorem lastWrite_eq_getLast? (writes : Writes) (k : String) :
    lastWrite writes k = (writtenUnder writes k).getLast? := by
  induction writes with
  | nil => rfl
  | cons w rest ih =>
    rw [writtenUnder_cons, List.getLast?_append, lastWrite, ih]
    by_cases named : w.1 = k <;> simp [named]

-- Storing writes leaves an account at the last balance written under its key.
theorem writeBalance_balance (writes : Writes) (user : String) (now : Timestamp) (a : Account) :
    (writeBalance writes user now a).balance = (writtenUnder writes a.key).getLastD a.balance := by
  unfold writeBalance
  rw [lastWrite_eq_getLast?, List.getLastD_eq_getLast?]
  cases (writtenUnder writes a.key).getLast? <;> rfl

theorem runningBalances_append (side : Side) (start : Decimal) (lines more : List Line) :
    runningBalances side start (lines ++ more) =
      runningBalances side start lines ++
        runningBalances side ((runningBalances side start lines).getLastD start) more := by
  induction lines generalizing start with
  | nil => rfl
  | cons l rest ih => simp only [List.cons_append, runningBalances, List.getLastD_cons, ih]

-- Only the amounts of the lines move the balances, so naming their accounts changes nothing.
theorem runningBalances_renamed {posted draft : List Line}
    (renamed : List.Forall₂ Line.Renamed posted draft) (side : Side) (start : Decimal)
    (code : String) :
    runningBalances side start (posted.filter (·.code == code)) =
      runningBalances side start (draft.filter (·.code == code)) := by
  induction renamed generalizing start with
  | nil => rfl
  | @cons p d _ _ head _ ih =>
    have same : p = { d with accountName := p.accountName } := head
    have code' : p.code = d.code := by rw [same]
    have debit : p.debit = d.debit := by rw [same]
    have credit : p.credit = d.credit := by rw [same]
    by_cases named : d.code = code <;> simp [code', debit, credit, named, runningBalances, ih]

end Running

section Applied

variable {tenant : String} {c : Ctx}

-- Applying lines writes, under the key of a held account, the balances its lines take it to
-- from its balance when it was held.
theorem applyLines_written {lines out : List Line} {held held' : Held} {writes : Writes}
    (applied : applyLines tenant c lines held = .ok (out, held', writes)) {code : String}
    {a : Account} (found : held.lookup code = some a) :
    writtenUnder writes (accountKey tenant code) =
      runningBalances a.side a.balance (lines.filter (·.code == code)) := by
  induction lines generalizing held out writes a with
  | nil =>
    simp only [applyLines, Except.ok.injEq, Prod.mk.injEq] at applied
    rw [← applied.2.2]
    rfl
  | cons l rest ih =>
    obtain ⟨balance, held₁, _, writes', posting, rest_applied, _, rfl⟩ := applyLines_cons applied
    obtain ⟨a₀, found₀, moved, rfl⟩ := applyPosting_eq_ok posting
    rw [writtenUnder_cons]
    by_cases named : l.code = code
    · -- the line's own account moves by the line, and the rest of the lines go on from there
      subst named
      have same : a₀ = a := by rw [found₀] at found; exact Option.some.inj found
      subst same
      have found₁ := lookup_replace found₀ { a₀ with balance, audit := a₀.audit.touch c.user c.now }
        l.code
      rw [if_pos rfl] at found₁
      rw [ih rest_applied found₁, if_pos rfl, List.filter_cons_of_pos (by simp)]
      simp [runningBalances, moved]
    · -- another account's line writes under another key
      have found₁ : (held.map fun h => if h.1 == l.code then
          (l.code, { a₀ with balance, audit := a₀.audit.touch c.user c.now }) else h).lookup code =
            some a := by
        rw [lookup_replace found₀, if_neg (Ne.symm named), found]
      rw [ih rest_applied found₁, if_neg fun same => named (accountKey_inj.mp same),
        List.filter_cons_of_neg (by simpa using named), List.nil_append]

end Applied

section Posted

variable {b : Books} {c : Ctx} {e e' : Entry} {writes : Writes}

-- A posted entry and its writes: posted now, its lines in line-number order, and one write per
-- line under the key of the line's account.
theorem postLines_committed (posted : postLines b c e = .ok (e', writes)) :
    e'.status = .posted ∧ e'.postedAt = some c.now ∧
      e'.lines.Pairwise (fun l l' => l.number ≤ l'.number) ∧
      writes.map Prod.fst = e'.lines.map fun l => accountKey e'.tenant l.code := by
  obtain ⟨_, _, _, lines, _, _, _, applied, rfl⟩ := postLines_eq_ok posted
  have renamed := applyLines_renamed applied
  have sorted := sortBy_pairwise (fun x y : Line => decide (x.number ≤ y.number))
    (fun _ _ _ first second => by simp at first second ⊢; omega)
    (fun x y => by simp only [decide_eq_true_eq]; omega) e.lines
  refine ⟨rfl, rfl, ?_, ?_⟩
  · have numbers := renamed_map renamed (·.number) (fun _ _ => rfl)
    have mapped : (lines.map (·.number)).Pairwise (· ≤ ·) := by
      rw [numbers, List.pairwise_map]
      exact sorted.imp fun le => by simpa using le
    exact List.pairwise_map.mp mapped
  · rw [applyLines_keys applied]
    exact (renamed_map renamed (fun l => accountKey e.tenant l.code) (fun _ _ => rfl)).symm

-- The account a line of a posting is held as: the stored account of its code in the entry's
-- tenant.
theorem postLines_held {held held' : Held} {lines : List Line}
    (hold : b.holdAccounts e.tenant e.codes = .ok held)
    (applied : applyLines e.tenant c (sortBy (fun x y => decide (x.number ≤ y.number)) e.lines) held =
      .ok (lines, held', writes)) {l : Line} (member : l ∈ e.lines) :
    ∃ a ∈ b.accounts, held.lookup l.code = some a ∧ a.tenant = e.tenant ∧
      a.key = accountKey e.tenant l.code := by
  have listed : l ∈ sortBy (fun x y => decide (x.number ≤ y.number)) e.lines := by simpa using member
  obtain ⟨a, found⟩ := Option.isSome_iff_exists.mp (applyLines_held applied l listed)
  obtain ⟨stored, tenant, _⟩ := holdAccounts_lookup hold found
  obtain ⟨aMember, key⟩ := Books.account?_some stored
  exact ⟨a, aMember, found, tenant, key⟩

-- What a posting writes under an account's key: the balances the entry's lines on the account
-- take it to from its balance before, and nothing when the entry has no line on it.
theorem postLines_written (nodup : (b.accounts.map Account.key).Nodup)
    (posted : postLines b c e = .ok (e', writes)) {x : Account} (member : x ∈ b.accounts) :
    writtenUnder writes x.key = runningBalances x.side x.balance (e'.linesOn x) := by
  obtain ⟨_, _, held, lines, held', _, hold, applied, rfl⟩ := postLines_eq_ok posted
  have renamed := applyLines_renamed applied
  have perm := sortBy_perm (fun x y : Line => decide (x.number ≤ y.number)) e.lines
  -- a line whose account is `x` makes `x` the held account of `x`'s code
  have heldAs : ∀ l ∈ e.lines, accountKey e.tenant l.code = x.key →
      held.lookup l.code = some x ∧ x.tenant = e.tenant ∧ l.code = x.code := by
    intro l lMember key
    obtain ⟨a, aMember, found, tenant, aKey⟩ := postLines_held hold applied lMember
    have same : a = x := List.inj_on_of_nodup_map nodup aMember member (aKey.trans key)
    have codes : accountKey e.tenant a.code = accountKey e.tenant l.code := by
      rw [← aKey, Account.key, tenant]
    rw [← same]
    exact ⟨found, tenant, (accountKey_inj.mp codes).symm⟩
  by_cases named : ∃ l ∈ e.lines, accountKey e.tenant l.code = x.key
  · obtain ⟨l, lMember, key⟩ := named
    obtain ⟨found, tenant, code⟩ := heldAs l lMember key
    have written := applyLines_written applied found
    rw [key, code] at written
    show _ = runningBalances x.side x.balance
      (if e.tenant = x.tenant then lines.filter (·.code == x.code) else [])
    rw [if_pos tenant.symm, written, runningBalances_renamed renamed]
  · -- no line names `x`: no write is under its key, and no line is on it
    have unwritten : writtenUnder writes x.key = [] := by
      rw [writtenUnder_eq_nil]
      intro w wMember same
      have keyed : w.1 ∈ (sortBy (fun x y => decide (x.number ≤ y.number)) e.lines).map
          fun l => accountKey e.tenant l.code := by
        rw [← applyLines_keys applied]
        exact List.mem_map_of_mem wMember
      obtain ⟨l, lMember, lKey⟩ := List.mem_map.mp keyed
      exact named ⟨l, perm.mem_iff.mp lMember, lKey.trans same⟩
    have unnamed : ∀ l ∈ lines, e.tenant = x.tenant → l.code ≠ x.code := by
      intro l lMember tenant code
      have coded : l.code ∈ (sortBy (fun x y => decide (x.number ≤ y.number)) e.lines).map (·.code) := by
        rw [← renamed_map renamed (·.code) (fun _ _ => rfl)]
        exact List.mem_map_of_mem lMember
      obtain ⟨l', l'Member, l'Code⟩ := List.mem_map.mp coded
      exact named ⟨l', perm.mem_iff.mp l'Member, by rw [Account.key, l'Code, code, tenant]⟩
    rw [unwritten, Entry.linesOn]
    split
    · rename_i tenant
      rw [List.filter_eq_nil_iff.mpr fun l lMember => by simpa using unnamed l lMember tenant]
      rfl
    · rfl

end Posted

namespace Call

-- The posting a call commits, with its balance writes: a posting's draft, posted; a reversal's
-- compensation of the entry it names, posted under the number and identifier it issued. Other
-- calls, and calls that fail, commit none.
def commit : Call → Office → Option (Entry × Writes)
  | postEntry c number, o =>
    match (o.postEntry c number).1, Office.entryByNumber o.books c.tenant number with
    | .ok _, .ok e => (postLines o.books c e).toOption
    | _, _ => none
  | reverseEntry c number, o =>
    let (n, books) := o.books.nextNumber c.tenant "RV"
    match (o.reverseEntry c number).1, Office.entryByNumber books c.tenant number with
    | .ok _, .ok src =>
      (postLines books c
        (Office.compensation c (o.ids (o.issued + 1)) (Office.entryNumber "RV" n) src)).toOption
    | _, _ => none
  | _, _ => none

end Call

-- The postings a session commits, in the order of its calls.
def Office.commits (o : Office) : List Call → List (Entry × Writes)
  | [] => []
  | call :: rest => (call.commit o).toList ++ (call.perform o).2.commits rest

namespace Office

variable {o : Office} {c : Ctx} {number : Ref}

@[simp] theorem commits_nil : o.commits [] = [] := rfl

theorem commits_cons (call : Call) (rest : List Call) :
    o.commits (call :: rest) = (call.commit o).toList ++ (call.perform o).2.commits rest := rfl

-- A posting that succeeds posts the draft stored under its number with the writes it commits.
theorem postEntry_committed {e : Entry} (posted : (o.postEntry c number).1 = .ok e) :
    ∃ e0 writes, entryByNumber o.books c.tenant number = .ok e0 ∧ e0.status = .draft ∧
      postLines o.books c e0 = .ok (e, writes) ∧
      (Call.postEntry c number).commit o = some (e, writes) ∧
      (o.postEntry c number).2.books = (o.books.applyWrites writes c.user c.now).replaceEntry e := by
  obtain ⟨e0, writes, found, draft, posting, stored⟩ := postEntry_eq_ok posted
  -- the commit looks the draft up again and posts it by the same rules
  have committed : (Call.postEntry c number).commit o = some (e, writes) := by
    simp only [Call.commit]
    rw [posted, found]
    simp [posting, Except.toOption]
  exact ⟨e0, writes, found, draft, posting, committed, stored⟩

-- A reversal that succeeds posts the compensation of the posted entry stored under its number,
-- with the writes it commits.
theorem reverseEntry_committed {src' comp : Entry}
    (reversed : (o.reverseEntry c number).1 = .ok (src', comp)) :
    ∃ src writes b', entryByNumber (o.books.nextNumber c.tenant "RV").2 c.tenant number = .ok src ∧
      src.status = .posted ∧ src.reversedBy = "" ∧
      postLines (o.books.nextNumber c.tenant "RV").2 c
        (compensation c (o.ids (o.issued + 1))
          (entryNumber "RV" (o.books.lastNumber c.tenant "RV" + 1)) src) = .ok (comp, writes) ∧
      ((o.books.nextNumber c.tenant "RV").2.applyWrites writes c.user c.now).addEntry comp = .ok b' ∧
      (Call.reverseEntry c number).commit o = some (comp, writes) ∧
      (o.reverseEntry c number).2.books = b'.replaceEntry { src with
        status := .reversed, reversedBy := comp.number, audit := src.audit.touch c.user c.now } := by
  obtain ⟨src, writes, books, found, live, fresh, posting, added, rfl, stored, -⟩ :=
    reverseEntry_eq_ok reversed
  -- the commit looks the source up again and posts its compensation with the issued identifier
  have committed : (Call.reverseEntry c number).commit o = some (comp, writes) := by
    simp only [Call.commit]
    rw [reversed, found]
    simp [Books.nextNumber_fst, posting, Except.toOption]
  exact ⟨src, writes, books, found, live, fresh, posting, added, committed, stored⟩

end Office

end Ledger
