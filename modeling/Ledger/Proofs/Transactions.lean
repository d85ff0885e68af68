import Ledger.Transaction

-- A ledger transaction stages its writes and applies them on commit. Its reference is the same
-- body run on a private copy of the store, which replaces the store when the body succeeds.
-- The two give the same replies, result and store after for a body that keeps the store's
-- lock order, saves only entries that neither the store nor the body has, updates no entry it
-- saved and locks no entry it deleted: then at every call the copy is what committing the
-- staged writes would give. Locking an entry again after deleting it reads the stored version
-- from the staged transaction, where the copy has none.

namespace Ledger

namespace TxBody

variable {α β σ : Type} (answer : σ → (c : TxCall) → Except Fault c.Reply × σ) (st : σ)

theorem run_call (c : TxCall) (next : Except Fault c.Reply → TxBody α) :
    (TxBody.call c next).run answer st =
      (⟨c, (answer st c).1⟩ :: ((next (answer st c).1).run answer (answer st c).2).1,
        ((next (answer st c).1).run answer (answer st c).2).2.1,
        ((next (answer st c).1).run answer (answer st c).2).2.2) := rfl

@[simp] theorem run_pure (a : α) : (pure a : TxBody α).run answer st = ([], .ok a, st) := rfl

@[simp] theorem run_throw (e : Fault) : (throw e : TxBody α).run answer st = ([], .error e, st) :=
  rfl

@[simp] theorem run_lift (x : Except Fault α) : (lift x).run answer st = ([], x, st) := rfl

-- A single call, whose reply is the result.
theorem run_request (c : TxCall) :
    (TxBody.call c .finish).run answer st = ([⟨c, (answer st c).1⟩], (answer st c).1, (answer st c).2) :=
  rfl

-- The calls of a bound body are those of its first part, then those of the rest from where the
-- first part left off.
theorem run_bind_of_ok {x : TxBody α} {trace : TxTrace} {a : α} {st' : σ}
    (first : x.run answer st = (trace, .ok a, st')) (f : α → TxBody β) :
    (x >>= f).run answer st = (trace ++ ((f a).run answer st').1, ((f a).run answer st').2) := by
  induction x generalizing st trace with
  | finish r => cases first; rfl
  | call c next ih =>
    rcases rest : (next (answer st c).1).run answer (answer st c).2 with ⟨trace', r, st''⟩
    rw [run_call, rest] at first
    cases first
    exact congrArg (fun run => (⟨c, (answer st c).1⟩ :: run.1, run.2)) (ih _ _ rest)

theorem run_bind_of_error {x : TxBody α} {trace : TxTrace} {e : Fault} {st' : σ}
    (first : x.run answer st = (trace, .error e, st')) (f : α → TxBody β) :
    (x >>= f).run answer st = (trace, .error e, st') := by
  induction x generalizing st trace with
  | finish r => cases first; rfl
  | call c next ih =>
    rcases rest : (next (answer st c).1).run answer (answer st c).2 with ⟨trace', r, st''⟩
    rw [run_call, rest] at first
    cases first
    exact congrArg (fun run => (⟨c, (answer st c).1⟩ :: run.1, run.2)) (ih _ _ rest)

theorem run_mapError (g : Fault → Fault) (x : TxBody α) :
    (x.mapError g).run answer st =
      ((x.run answer st).1, (x.run answer st).2.1.mapError g, (x.run answer st).2.2) := by
  induction x generalizing st with
  | finish r => cases r <;> rfl
  | call c next ih => exact congrArg (fun run => (⟨c, (answer st c).1⟩ :: run.1, run.2)) (ih _ _)

end TxBody

namespace Tables

variable (s : Tables)

@[simp] theorem recordPosting_accounts (key : String) (status : EntryStatus) :
    (s.recordPosting key status).accounts = s.accounts := by
  unfold recordPosting; split <;> rfl

@[simp] theorem recordPosting_entries (key : String) (status : EntryStatus) :
    (s.recordPosting key status).entries = s.entries := by
  unfold recordPosting; split <;> rfl

@[simp] theorem replaceEntry_accounts (e : Entry) : (s.replaceEntry e).accounts = s.accounts := by
  simp [replaceEntry]

@[simp] theorem replaceEntry_entries (e : Entry) :
    (s.replaceEntry e).entries = putKey s.entries e.key e := by
  simp [replaceEntry]

@[simp] theorem removeEntry_accounts (key : String) : (s.removeEntry key).accounts = s.accounts := rfl

@[simp] theorem removeEntry_entries (key : String) :
    (s.removeEntry key).entries = eraseKey s.entries key := rfl

@[simp] theorem setBalance_entries (w : BalanceWrite) : (s.setBalance w).entries = s.entries := rfl

-- Balances and entries are kept apart: writing a balance commutes with every entry write.
theorem recordPosting_setBalance (key : String) (status : EntryStatus) (w : BalanceWrite) :
    (s.setBalance w).recordPosting key status = (s.recordPosting key status).setBalance w := by
  unfold recordPosting
  by_cases skip : (status == .draft || (s.postOrder key).isSome) = true
  · simp only [setBalance, skip, if_true]
  · simp only [setBalance, skip]
    rfl

theorem insertEntry_setBalance (e : Entry) (w : BalanceWrite) :
    (s.setBalance w).insertEntry e = (s.insertEntry e).map (·.setBalance w) := by
  unfold insertEntry
  by_cases taken : (s.entries e.key).isSome = true
  · simp [taken, Except.map]
  · simp only [setBalance_entries, taken, Bool.false_eq_true, if_false, Except.map]
    rw [← recordPosting_setBalance]
    rfl

theorem applyEntryWrites_setBalance (w : BalanceWrite) :
    ∀ (ws : List EntryWrite) (t : Tables),
      (t.setBalance w).applyEntryWrites ws = ((t.applyEntryWrites ws).1, (t.applyEntryWrites ws).2.setBalance w)
  | [], _ => rfl
  | .insert e :: ws, t => by
    simp only [applyEntryWrites, insertEntry_setBalance]
    cases t.insertEntry e with
    | error f => rfl
    | ok t' => exact applyEntryWrites_setBalance w ws t'
  | .update e :: ws, t => by
    simp only [applyEntryWrites]
    rw [← applyEntryWrites_setBalance w ws]
    simp only [replaceEntry, ← recordPosting_setBalance]
    rfl
  | .delete tenant number :: ws, t => by
    simp only [applyEntryWrites]
    rw [← applyEntryWrites_setBalance w ws]
    rfl

@[simp] theorem applyEntryWrites_accounts : ∀ (ws : List EntryWrite) (t : Tables),
    (t.applyEntryWrites ws).2.accounts = t.accounts
  | [], _ => rfl
  | .insert e :: ws, t => by
    unfold applyEntryWrites
    split
    · rfl
    · rename_i t' inserted
      rw [applyEntryWrites_accounts ws t']
      unfold insertEntry at inserted
      split at inserted
      · cases inserted
      · cases inserted
        simp
  | .update e :: ws, t => by simp [applyEntryWrites, applyEntryWrites_accounts ws]
  | .delete tenant number :: ws, t => by simp [applyEntryWrites, applyEntryWrites_accounts ws]

-- Writes staged after a replay that went through continue from where it stopped.
theorem applyEntryWrites_append {t t' : Tables} {ws : List EntryWrite}
    (applied : t.applyEntryWrites ws = (.ok (), t')) (more : List EntryWrite) :
    t.applyEntryWrites (ws ++ more) = t'.applyEntryWrites more := by
  induction ws generalizing t with
  | nil => cases applied; rfl
  | cons w ws ih =>
    cases w with
    | insert e =>
      simp only [applyEntryWrites, List.cons_append] at applied ⊢
      cases inserted : t.insertEntry e with
      | error f =>
        rw [inserted] at applied
        cases applied
      | ok t'' =>
        rw [inserted] at applied
        exact ih applied
    | update e => exact ih applied
    | delete tenant number => exact ih applied

theorem insertEntry_entries {e : Entry} {s' : Tables} (inserted : s.insertEntry e = .ok s') :
    s'.entries = putKey s.entries e.key e := by
  unfold insertEntry at inserted
  split at inserted
  · cases inserted
  · cases inserted
    simp

theorem insertEntry_of_free {e : Entry} (free : s.entries e.key = none) : ∃ s', s.insertEntry e = .ok s' := by
  simp [insertEntry, free]

theorem commit_eq_ok {tx : Staged} {copy : Tables} (committed : s.commit tx = (.ok (), copy)) :
    s.clash tx.entryWrites = none ∧
      (tx.balances.foldl setBalance s).applyEntryWrites tx.entryWrites = (.ok (), copy) := by
  unfold commit at committed
  split at committed
  · cases committed
  · exact ⟨‹_›, committed⟩

-- One more staged write, whose own replay on the copy goes through, keeps the commit going
-- through; an insert must name a key the store does not hold.
theorem commit_write {tx tx' : Staged} {copy copy' : Tables} {w : EntryWrite}
    (committed : s.commit tx = (.ok (), copy)) (writes : tx'.entryWrites = tx.entryWrites ++ [w])
    (balances : tx'.balances = tx.balances)
    (fresh : ∀ e, w.inserted = some e → s.entries e.key = none)
    (applied : copy.applyEntryWrites [w] = (.ok (), copy')) :
    s.commit tx' = (.ok (), copy') := by
  obtain ⟨clear, replayed⟩ := commit_eq_ok s committed
  have clear' : s.clash tx'.entryWrites = none := by
    rw [writes, clash, List.findSome?_append, ← clash, clear, Option.none_or]
    cases inserted : w.inserted with
    | none => simp [inserted]
    | some e => simp [inserted, fresh e inserted]
  unfold commit
  rw [clear', balances, writes, applyEntryWrites_append replayed, applied]

theorem commit_balance {tx tx' : Staged} {copy : Tables} {w : BalanceWrite}
    (committed : s.commit tx = (.ok (), copy)) (writes : tx'.entryWrites = tx.entryWrites)
    (balances : tx'.balances = tx.balances ++ [w]) : s.commit tx' = (.ok (), copy.setBalance w) := by
  obtain ⟨clear, replayed⟩ := commit_eq_ok s committed
  unfold commit
  rw [writes, clear, balances, List.foldl_append, List.foldl_cons, List.foldl_nil,
    applyEntryWrites_setBalance, replayed]

end Tables

theorem stagedEntry_append (writes : List EntryWrite) (w : EntryWrite) (key : String) :
    stagedEntry (writes ++ [w]) key = if w.key = key then w.staged else stagedEntry writes key := by
  unfold stagedEntry
  rw [List.reverse_append]
  by_cases same : w.key = key <;> simp [same]

theorem stagedEntry_unwritten {writes : List EntryWrite} {key : String}
    (unwritten : ∀ w ∈ writes, w.key ≠ key) : stagedEntry writes key = none := by
  unfold stagedEntry
  rw [List.find?_eq_none.mpr fun w member => by simpa using unwritten w (List.mem_reverse.mp member)]

namespace Tables

-- A call answered on a private copy of the store: a lock reads the copy, a save inserts into
-- it unless the key is taken, and every other write changes it at once.
def answer (copy : Tables) : (c : TxCall) → Except Fault c.Reply × Tables
  | .lockEntry tenant number =>
    (match if number.exact then copy.entries (entryKey tenant number.text) else none with
      | some e => .ok e
      | none => .error (.entryMissing number.text), copy)
  | .lockAccounts tenant codes =>
    (.ok fun code => if codes.contains code then copy.accounts (accountKey tenant code) else none, copy)
  | .setBalance w => (.ok (), copy.setBalance w)
  | .saveEntry e =>
    match copy.insertEntry e with
    | .error f => (.error f, copy)
    | .ok copy' => (.ok (), copy')
  | .updateEntry e => (.ok (), copy.replaceEntry e)
  | .deleteEntry tenant number => (.ok (), copy.removeEntry (entryKey tenant number))

-- The copy replaces the store exactly when the body succeeds.
def snapshot {α : Type} (s : Tables) (body : TxBody α) : TxTrace × Except Fault α × Tables :=
  match body.run answer s with
  | (trace, .error e, _) => (trace, .error e, s)
  | (trace, .ok a, copy) => (trace, .ok a, copy)

end Tables

-- What a body has done so far, as a lock discipline reads it. A lock of a name that is not
-- text locks nothing.
structure Conduct where
  locked : List String := []
  accountsTaken : Bool := false
  accounts : List String := []
  saved : List String := []
  written : List String := []
  deleted : List String := []

namespace Conduct

def note (m : Conduct) : TxCall → Conduct
  | .lockEntry tenant number =>
    if number.exact then { m with locked := m.locked ++ [entryKey tenant number.text] } else m
  | .lockAccounts tenant codes =>
    { m with accountsTaken := true, accounts := m.accounts ++ codes.map (accountKey tenant) }
  | .setBalance _ => m
  | .saveEntry e => { m with saved := m.saved ++ [e.key], written := m.written ++ [e.key] }
  | .updateEntry e => { m with written := m.written ++ [e.key] }
  | .deleteEntry tenant number =>
    { m with written := m.written ++ [entryKey tenant number],
             deleted := m.deleted ++ [entryKey tenant number] }

-- The lock discipline of ledger transactions: entries are locked before the accounts, the
-- accounts once, and only locked or newly saved rows are written.
def lawful (m : Conduct) : TxCall → Bool
  | .lockEntry .. => !m.accountsTaken
  | .lockAccounts .. => !m.accountsTaken
  | .setBalance w => m.accounts.contains (accountKey w.tenant w.code)
  | .saveEntry _ => true
  | .updateEntry e => m.locked.contains e.key || m.saved.contains e.key
  | .deleteEntry tenant number =>
    m.locked.contains (entryKey tenant number) || m.saved.contains (entryKey tenant number)

-- A call that staging answers as a copy would, over the store `s`: the lock discipline as the
-- store enforces it, a save only of an entry that neither the store nor the body has, no update
-- of a saved entry, and no lock of a deleted one.
def plain (s : Tables) (m : Conduct) : TxCall → Bool
  | .lockEntry tenant number =>
    !m.accountsTaken && !m.deleted.contains (entryKey tenant number.text)
  | .lockAccounts .. => !m.accountsTaken
  | .setBalance w => m.accounts.contains (accountKey w.tenant w.code)
  | .saveEntry e => (s.entries e.key).isNone && !m.written.contains e.key
  | .updateEntry e => m.locked.contains e.key && !m.saved.contains e.key
  | .deleteEntry tenant number => m.locked.contains (entryKey tenant number)

section Plain

variable (s : Tables) (m : Conduct)

@[simp] theorem plain_lockEntry (tenant : String) (number : Ref) :
    plain s m (.lockEntry tenant number) = true ↔
      m.accountsTaken = false ∧ entryKey tenant number.text ∉ m.deleted := by
  simp [plain]

@[simp] theorem plain_lockAccounts (tenant : String) (codes : List String) :
    plain s m (.lockAccounts tenant codes) = true ↔ m.accountsTaken = false := by
  simp [plain]

@[simp] theorem plain_setBalance (w : BalanceWrite) :
    plain s m (.setBalance w) = true ↔ accountKey w.tenant w.code ∈ m.accounts := by
  simp [plain]

@[simp] theorem plain_saveEntry (e : Entry) :
    plain s m (.saveEntry e) = true ↔ s.entries e.key = none ∧ e.key ∉ m.written := by
  simp [plain]

@[simp] theorem plain_updateEntry (e : Entry) :
    plain s m (.updateEntry e) = true ↔ e.key ∈ m.locked ∧ e.key ∉ m.saved := by
  simp [plain]

@[simp] theorem plain_deleteEntry (tenant number : String) :
    plain s m (.deleteEntry tenant number) = true ↔ entryKey tenant number ∈ m.locked := by
  simp [plain]

end Plain

-- Every call of a sequence keeps to a rule, given what the calls before it did.
def follows (rule : Conduct → TxCall → Bool) : Conduct → List TxCall → Bool
  | _, [] => true
  | m, c :: cs => rule m c && follows rule (m.note c) cs

end Conduct

-- The staged transaction `tx` over the store `s` stands for the copy `copy`, the body having
-- done `m` so far: committing now would give the copy, the transaction has locked and saved what
-- the body did and staged writes only of keys the body wrote, and a read of an entry not deleted
-- finds among the staged writes, or else in the store, what the copy holds.
structure Mirrors (s : Tables) (m : Conduct) (tx : Staged) (copy : Tables) : Prop where
  committed : s.commit tx = (.ok (), copy)
  taken : tx.accountsTaken = m.accountsTaken
  early : tx.accountsTaken = false → tx.balances = [] ∧ tx.lockedAccounts = []
  accounts : ∀ k, k ∈ tx.lockedAccounts ↔ k ∈ m.accounts
  locked : ∀ k, k ∈ tx.lockedEntries ↔ k ∈ m.locked
  saved : ∀ k, k ∈ tx.newEntries ↔ k ∈ m.saved
  written : ∀ w ∈ tx.entryWrites, w.key ∈ m.written
  deleted : ∀ k ∈ m.deleted, k ∈ m.written
  reads : ∀ k, k ∉ m.deleted → (stagedEntry tx.entryWrites k).or (s.entries k) = copy.entries k

namespace Mirrors

theorem start (s : Tables) : Mirrors s {} {} s where
  committed := rfl
  taken := rfl
  early _ := ⟨rfl, rfl⟩
  accounts _ := Iff.rfl
  locked _ := Iff.rfl
  saved _ := Iff.rfl
  written _ member := nomatch member
  deleted _ member := nomatch member
  reads _ _ := by simp [stagedEntry]

variable {s : Tables} {m : Conduct} {tx : Staged} {copy : Tables} (mirrors : Mirrors s m tx copy)

include mirrors

-- One more staged write is of the key the body has just written.
theorem written_snoc (w' : EntryWrite) : ∀ w ∈ tx.entryWrites ++ [w'], w.key ∈ m.written ++ [w'.key] := by
  intro w member
  rcases List.mem_append.mp member with old | new
  · exact List.mem_append_left _ (mirrors.written w old)
  · rw [List.mem_singleton.mp new]
    exact List.mem_append_right _ (List.mem_singleton_self _)

-- A write staged here and made on the copy at once: the key it shows, and every key it leaves
-- alone, read from the staged writes or else the store what the copy now holds.
theorem reads_snoc {w : EntryWrite} {entries : String → Option Entry} {k : String}
    (made : entries = fun k => if k = w.key then w.staged else copy.entries k)
    (kept : k ∉ m.deleted) (shown : k = w.key → w.staged.isSome) :
    (stagedEntry (tx.entryWrites ++ [w]) k).or (s.entries k) = entries k := by
  rw [stagedEntry_append, made]
  by_cases same : k = w.key
  · obtain ⟨e, staged⟩ := Option.isSome_iff_exists.mp (shown same)
    subst same
    simp [staged]
  · have other : w.key ≠ k := Ne.symm same
    simp only [other, same, ↓reduceIte]
    exact mirrors.reads k kept

-- A lock reads what the copy holds, the entry not having been deleted.
theorem lockEntry {tenant : String} {number : Ref}
    (allowed : Conduct.plain s m (.lockEntry tenant number) = true) :
    (Staged.answer s tx (.lockEntry tenant number)).1 = (copy.answer (.lockEntry tenant number)).1 ∧
      Mirrors s (m.note (.lockEntry tenant number)) (Staged.answer s tx (.lockEntry tenant number)).2
        (copy.answer (.lockEntry tenant number)).2 := by
  obtain ⟨order, kept⟩ := (Conduct.plain_lockEntry s m tenant number).mp allowed
  have free : tx.accountsTaken = false := mirrors.taken.trans order
  cases exact : number.exact with
  | false =>
    simp only [Staged.answer, Tables.answer, Conduct.note, free, exact, Bool.false_eq_true,
      Bool.not_false, ↓reduceIte]
    exact ⟨trivial, mirrors⟩
  | true =>
    have read := mirrors.reads _ kept
    -- the lock goes on record, and the read finds the staged version or else the stored one
    have answered : Staged.answer s tx (.lockEntry tenant number) =
        (match (stagedEntry tx.entryWrites (entryKey tenant number.text)).or
            (s.entries (entryKey tenant number.text)) with
          | some e => .ok e
          | none => .error (.entryMissing number.text),
          { tx with lockedEntries := tx.lockedEntries ++ [entryKey tenant number.text] }) := by
      simp only [Staged.answer, free, exact, Bool.false_eq_true, Bool.not_true, ↓reduceIte]
      cases stagedEntry tx.entryWrites (entryKey tenant number.text) <;>
        cases s.entries (entryKey tenant number.text) <;> rfl
    rw [answered, read]
    simp only [Tables.answer, Conduct.note, exact, ↓reduceIte]
    exact ⟨trivial, mirrors.committed, mirrors.taken, mirrors.early, mirrors.accounts,
      fun k => by simp [mirrors.locked k], mirrors.saved, mirrors.written, mirrors.deleted,
      mirrors.reads⟩

-- Locking the accounts reads them from the store: no balance is staged before they are locked.
theorem lockAccounts {tenant : String} {codes : List String}
    (allowed : Conduct.plain s m (.lockAccounts tenant codes) = true) :
    (Staged.answer s tx (.lockAccounts tenant codes)).1 = (copy.answer (.lockAccounts tenant codes)).1 ∧
      Mirrors s (m.note (.lockAccounts tenant codes)) (Staged.answer s tx (.lockAccounts tenant codes)).2
        (copy.answer (.lockAccounts tenant codes)).2 := by
  have free : tx.accountsTaken = false :=
    mirrors.taken.trans ((Conduct.plain_lockAccounts s m tenant codes).mp allowed)
  obtain ⟨unbalanced, _⟩ := mirrors.early free
  have same : copy.accounts = s.accounts := by
    have replayed := (Tables.commit_eq_ok s mirrors.committed).2
    rw [unbalanced, List.foldl_nil] at replayed
    rw [← Tables.applyEntryWrites_accounts tx.entryWrites s, replayed]
  simp only [Staged.answer, free, Bool.false_eq_true, ↓reduceIte, Tables.answer, same]
  exact ⟨trivial, mirrors.committed, rfl, (fun taken => by cases taken),
    fun k => by simp [Conduct.note, mirrors.accounts k], mirrors.locked, mirrors.saved, mirrors.written,
    mirrors.deleted, mirrors.reads⟩

-- A balance is staged for an account locked before it; the copy writes it at once.
theorem setBalance {w : BalanceWrite} (allowed : Conduct.plain s m (.setBalance w) = true) :
    (Staged.answer s tx (.setBalance w)).1 = (copy.answer (.setBalance w)).1 ∧
      Mirrors s (m.note (.setBalance w)) (Staged.answer s tx (.setBalance w)).2
        (copy.answer (.setBalance w)).2 := by
  have held := (mirrors.accounts _).mpr ((Conduct.plain_setBalance s m w).mp allowed)
  have contained : tx.lockedAccounts.contains (accountKey w.tenant w.code) = true :=
    List.contains_iff_mem.mpr held
  simp only [Staged.answer, contained, ↓reduceIte, Tables.answer]
  refine ⟨trivial, Tables.commit_balance s mirrors.committed rfl rfl, mirrors.taken, fun free => ?_,
    mirrors.accounts, mirrors.locked, mirrors.saved, mirrors.written, mirrors.deleted, mirrors.reads⟩
  -- a locked account means the accounts were taken
  rw [(mirrors.early free).2] at held
  cases held

-- A save of an entry that neither the store nor the body has is staged as an insert, which the
-- copy makes at once.
theorem saveEntry {e : Entry} (allowed : Conduct.plain s m (.saveEntry e) = true) :
    (Staged.answer s tx (.saveEntry e)).1 = (copy.answer (.saveEntry e)).1 ∧
      Mirrors s (m.note (.saveEntry e)) (Staged.answer s tx (.saveEntry e)).2
        (copy.answer (.saveEntry e)).2 := by
  obtain ⟨fresh, unwritten⟩ := (Conduct.plain_saveEntry s m e).mp allowed
  have unstaged : stagedEntry tx.entryWrites e.key = none :=
    stagedEntry_unwritten fun w member same => unwritten (same ▸ mirrors.written w member)
  have free : copy.entries e.key = none := by
    rw [← mirrors.reads e.key fun gone => unwritten (mirrors.deleted _ gone), unstaged, fresh]
    rfl
  obtain ⟨copy', inserted⟩ := Tables.insertEntry_of_free copy free
  simp only [Staged.answer, unstaged, Option.isSome_none, Bool.false_eq_true, ↓reduceIte,
    Tables.answer, inserted]
  refine ⟨trivial, Tables.commit_write s mirrors.committed rfl rfl ?_ (by simp [Tables.applyEntryWrites, inserted]),
    mirrors.taken, mirrors.early, mirrors.accounts, mirrors.locked,
    fun k => by simp [Conduct.note, mirrors.saved k], mirrors.written_snoc _,
    fun k gone => List.mem_append_left _ (mirrors.deleted k gone),
    fun k kept => mirrors.reads_snoc (Tables.insertEntry_entries copy inserted) kept fun _ => rfl⟩
  intro e' inserted'
  cases inserted'
  exact fresh

-- An update of a locked entry not saved here is staged as such; the copy makes it at once.
theorem updateEntry {e : Entry} (allowed : Conduct.plain s m (.updateEntry e) = true) :
    (Staged.answer s tx (.updateEntry e)).1 = (copy.answer (.updateEntry e)).1 ∧
      Mirrors s (m.note (.updateEntry e)) (Staged.answer s tx (.updateEntry e)).2
        (copy.answer (.updateEntry e)).2 := by
  obtain ⟨held, unsaved⟩ := (Conduct.plain_updateEntry s m e).mp allowed
  have old : tx.newEntries.contains e.key = false := by
    simpa [List.contains_iff_mem] using fun member => unsaved ((mirrors.saved _).mp member)
  have lock : tx.lockedEntries.contains e.key = true := List.contains_iff_mem.mpr ((mirrors.locked _).mpr held)
  simp only [Staged.answer, old, lock, Bool.false_eq_true, ↓reduceIte, Tables.answer]
  exact ⟨trivial, Tables.commit_write s mirrors.committed rfl rfl (fun _ inserted => by cases inserted) rfl,
    mirrors.taken, mirrors.early, mirrors.accounts, mirrors.locked, mirrors.saved, mirrors.written_snoc _,
    fun k gone => List.mem_append_left _ (mirrors.deleted k gone),
    fun k kept => mirrors.reads_snoc (Tables.replaceEntry_entries copy e) kept fun _ => rfl⟩

-- A removal of a locked entry is staged; the copy makes it at once, and the entry is read no
-- more.
theorem deleteEntry {tenant number : String} (allowed : Conduct.plain s m (.deleteEntry tenant number) = true) :
    (Staged.answer s tx (.deleteEntry tenant number)).1 = (copy.answer (.deleteEntry tenant number)).1 ∧
      Mirrors s (m.note (.deleteEntry tenant number)) (Staged.answer s tx (.deleteEntry tenant number)).2
        (copy.answer (.deleteEntry tenant number)).2 := by
  have lock : tx.lockedEntries.contains (entryKey tenant number) = true :=
    List.contains_iff_mem.mpr ((mirrors.locked _).mpr ((Conduct.plain_deleteEntry s m tenant number).mp allowed))
  simp only [Staged.answer, lock, ↓reduceIte, Tables.answer]
  refine ⟨trivial, Tables.commit_write s mirrors.committed rfl rfl (fun _ inserted => by cases inserted) rfl,
    mirrors.taken, mirrors.early, mirrors.accounts, mirrors.locked, mirrors.saved, mirrors.written_snoc _,
    fun k gone => ?_, fun k kept => ?_⟩
  · rcases List.mem_append.mp gone with old | new
    · simp [Conduct.note, mirrors.deleted k old]
    · simp [Conduct.note, List.mem_singleton.mp new]
  · -- the removed key is deleted for good, so only the keys it leaves alone are read
    apply mirrors.reads_snoc (Tables.removeEntry_entries copy _) fun gone => kept (List.mem_append_left _ gone)
    intro same
    exact absurd (List.mem_append_right _ (List.mem_singleton.mpr same)) kept

-- Every call the conditions allow is answered alike, and the states still stand for each other.
theorem answer {c : TxCall} (allowed : Conduct.plain s m c = true) :
    (Staged.answer s tx c).1 = (copy.answer c).1 ∧
      Mirrors s (m.note c) (Staged.answer s tx c).2 (copy.answer c).2 := by
  cases c with
  | lockEntry tenant number => exact mirrors.lockEntry allowed
  | lockAccounts tenant codes => exact mirrors.lockAccounts allowed
  | setBalance w => exact mirrors.setBalance allowed
  | saveEntry e => exact mirrors.saveEntry allowed
  | updateEntry e => exact mirrors.updateEntry allowed
  | deleteEntry tenant number => exact mirrors.deleteEntry allowed

end Mirrors

-- Along a body whose every call the conditions allow, in the staged run or in the run on the
-- copy, the staged transaction and the copy give the same replies and result, and still stand
-- for each other at the end: by induction on the body, one call at a time.
theorem Mirrors.run {s : Tables} {α : Type} (body : TxBody α) :
    ∀ {m : Conduct} {tx : Staged} {copy : Tables}, Mirrors s m tx copy →
    (Conduct.follows (Conduct.plain s) m ((body.run (Staged.answer s) tx).1.map Sigma.fst) = true ∨
      Conduct.follows (Conduct.plain s) m ((body.run Tables.answer copy).1.map Sigma.fst) = true) →
    (body.run (Staged.answer s) tx).1 = (body.run Tables.answer copy).1 ∧
      (body.run (Staged.answer s) tx).2.1 = (body.run Tables.answer copy).2.1 ∧
      ∃ m', Mirrors s m' (body.run (Staged.answer s) tx).2.2 (body.run Tables.answer copy).2.2 := by
  induction body with
  | finish result =>
    intro m tx copy mirrors _
    exact ⟨rfl, rfl, m, mirrors⟩
  | call c next ih =>
    intro m tx copy mirrors allowed
    simp only [TxBody.run_call, List.map_cons, Conduct.follows, Bool.and_eq_true] at allowed ⊢
    have now : Conduct.plain s m c = true := by
      rcases allowed with ⟨now, _⟩ | ⟨now, _⟩ <;> exact now
    obtain ⟨same, mirrors'⟩ := mirrors.answer now
    rw [same] at allowed ⊢
    obtain ⟨replies, result, rest⟩ :=
      ih (copy.answer c).1 mirrors' (allowed.imp (fun kept => kept.2) (fun kept => kept.2))
    exact ⟨by rw [replies], result, rest⟩

theorem Tables.snapshot_trace {α : Type} (s : Tables) (body : TxBody α) :
    (s.snapshot body).1 = (body.run answer s).1 := by
  unfold snapshot
  split <;> simp_all

theorem Tables.withinTx_trace {α : Type} (s : Tables) (body : TxBody α) :
    (s.withinTx body).1 = (body.run (Staged.answer s) {}).1 := by
  unfold withinTx
  split <;> rename_i staged
  · rw [staged]
  · split <;> rw [staged]

-- The two runs agree when the calls of either keep the conditions.
theorem Tables.withinTx_eq_snapshot {α : Type} (s : Tables) (body : TxBody α)
    (plain : Conduct.follows (Conduct.plain s) {} ((s.withinTx body).1.map Sigma.fst) = true ∨
      Conduct.follows (Conduct.plain s) {} ((s.snapshot body).1.map Sigma.fst) = true) :
    s.withinTx body = s.snapshot body := by
  rw [Tables.withinTx_trace, Tables.snapshot_trace] at plain
  obtain ⟨replies, result, m, mirrors⟩ := Mirrors.run body (Mirrors.start s) plain
  unfold Tables.withinTx Tables.snapshot
  rcases staged : body.run (Staged.answer s) {} with ⟨trace, outcome, tx⟩
  rcases copied : body.run Tables.answer s with ⟨trace', outcome', copy⟩
  rw [staged, copied] at replies result mirrors
  simp only at replies result mirrors
  subst replies result
  cases outcome with
  | error e => rfl
  | ok a => simp only [mirrors.committed]

-- A body that keeps the store's lock order, saves only entries that neither the store nor the
-- body has, updates no entry it saved and locks no entry it deleted, gets from the staged
-- transaction every reply a private copy of the store would give, ends with the same result,
-- and leaves the store as the copy would.
theorem staged_transaction_acts_as_a_copy {α : Type} (s : Tables) (body : TxBody α)
    (plain : Conduct.follows (Conduct.plain s) {} ((s.snapshot body).1.map Sigma.fst) = true) :
    s.withinTx body = s.snapshot body :=
  Tables.withinTx_eq_snapshot s body (.inr plain)

-- Posting a stored draft to one account: the staged transaction acts as a copy.
theorem posting_transaction_acts_as_a_copy :
    let draft : Entry := { (default : Entry) with id := "e1", tenant := "T1", number := "JE-1" }
    let cash : Account := { (default : Account) with id := "a1", tenant := "T1", code := "1000" }
    let s : Tables := ⟨putKey (fun _ => none) cash.key cash, putKey (fun _ => none) draft.key draft,
      putKey (fun _ => none) draft.id draft.key, fun _ => none, 0⟩
    let body : TxBody Unit := do
      let _ ← TxBody.lockEntry "T1" "JE-1"
      let _ ← TxBody.lockAccounts "T1" ["1000"]
      TxBody.setBalance ⟨"T1", "1000", ⟨1000, -2⟩, "u1", Timestamp.zero⟩
      TxBody.updateEntry { draft with status := .posted }
    Conduct.follows (Conduct.plain s) {} ((s.snapshot body).1.map Sigma.fst) = true ∧
      s.withinTx body = s.snapshot body := by
  intro draft cash s body
  have plain : Conduct.follows (Conduct.plain s) {} ((s.snapshot body).1.map Sigma.fst) = true := by
    decide +kernel
  exact ⟨plain, staged_transaction_acts_as_a_copy s body plain⟩

-- Locking an entry, deleting it and locking it again keeps the lock discipline, yet the staged
-- transaction reads the stored entry again where a copy of the store has none.
theorem relocking_a_deleted_entry_reads_the_store :
    let e : Entry := { (default : Entry) with id := "e1", tenant := "T1", number := "JE-1" }
    let s : Tables := ⟨fun _ => none, putKey (fun _ => none) e.key e, putKey (fun _ => none) e.id e.key,
      fun _ => none, 0⟩
    let body : TxBody Unit := do
      let _ ← TxBody.lockEntry "T1" "JE-1"
      TxBody.deleteEntry "T1" "JE-1"
      let _ ← TxBody.lockEntry "T1" "JE-1"
      pure ()
    Conduct.follows Conduct.lawful {} ((s.snapshot body).1.map Sigma.fst) = true ∧
      (s.withinTx body).1 ≠ (s.snapshot body).1 := by
  intro e s body
  refine ⟨by decide +kernel, fun same => ?_⟩
  have staged : ((s.withinTx body).1.map fun r => r.2.isOk) = [true, true, true] := rfl
  have copied : ((s.snapshot body).1.map fun r => r.2.isOk) = [true, true, false] := rfl
  rw [same, copied] at staged
  cases staged

end Ledger
