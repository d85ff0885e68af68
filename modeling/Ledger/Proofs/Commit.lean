import Ledger.Proofs.Transactions
import Ledger.Proofs.Store

-- Committing a ledger transaction to the books. The books commit as the store's maps do, as
-- long as every staged balance is of a stored account. And a commit is all or nothing: staging
-- lets an insert follow only a removal of its key or no write of it, so once no staged insert
-- names a stored key, replaying the staged writes goes through.

namespace Ledger

attribute [ext] Tables

namespace Books

variable {b : Books}

section Reads

-- A map that keeps keys finds under a key the image of what was found before.
theorem find?_map_keeping {α : Type} (key : α → String) {f : α → α} (keeps : ∀ x, key (f x) = key x)
    (l : List α) (k : String) :
    (l.map f).find? (fun x => key x == k) = (l.find? (fun x => key x == k)).map f := by
  rw [List.find?_map]
  congr 2
  funext x
  simp [keeps]

@[simp] theorem entry?_notePosting (k : String) (status : EntryStatus) :
    Books.entry? (b.notePosting k status) = b.entry? := by
  funext j
  simp [Books.entry?]

theorem entry?_append {e : Entry} (free : b.entry? e.key = none) (k : String) :
    Books.entry? ({ b with entries := b.entries ++ [e] } : Books) k = if k = e.key then some e else b.entry? k := by
  show (b.entries ++ [e]).find? (·.key == k) = _
  rw [List.find?_append]
  by_cases same : k = e.key
  · subst same
    rw [show b.entries.find? (·.key == e.key) = none from free]
    simp
  · simp [same, Ne.symm same, entry?]

theorem entry?_addEntry {e : Entry} {b' : Books} (added : b.addEntry e = .ok b') (k : String) :
    b'.entry? k = if k = e.key then some e else b.entry? k := by
  obtain ⟨free, rfl⟩ := addEntry_eq_ok.mp added
  rw [Books.entry?_notePosting, ← entry?_append free]
  rfl

theorem entry?_putEntry (e : Entry) (k : String) :
    Books.entry? (b.putEntry e) k = if k = e.key then some e else b.entry? k := by
  unfold putEntry
  split <;> rename_i present
  · unfold replaceEntry
    rw [Books.entry?_notePosting]
    show (b.entries.map fun x => if x.key == e.key then e else x).find? (·.key == k) = _
    rw [find?_map_keeping Entry.key (by intro x; split <;> simp_all)]
    split <;> rename_i same
    · subst same
      obtain ⟨x, found⟩ := Option.isSome_iff_exists.mp present
      rw [show b.entries.find? (·.key == e.key) = some x from found]
      simp [(entry?_some found).2]
    · show _ = b.entries.find? (·.key == k)
      cases found : b.entries.find? (·.key == k) with
      | none => rfl
      | some x =>
        have named : x.key = k := (entry?_some found).2
        simp [named, same]
  · rw [Books.entry?_notePosting, entry?_append (Option.not_isSome_iff_eq_none.mp present)]

theorem entry?_removeEntry (key k : String) :
    Books.entry? (b.removeEntry key) k = if k = key then none else b.entry? k := by
  simp only [Books.entry?, removeEntry_entries, List.find?_filter]
  split <;> rename_i same
  · subst same
    simp
  · congr 1
    funext x
    by_cases here : x.key = k
    · simp [here, same]
    · simp [here]

@[simp] theorem entry?_putBalance (w : BalanceWrite) : Books.entry? (b.putBalance w) = b.entry? := rfl

theorem account?_setBalance (key : String) (balance : Decimal) (user : String) (now : Timestamp)
    (k : String) :
    (b.setBalance key balance user now).account? k =
      (b.account? k).map fun a =>
        if a.key == key then { a with balance, audit := a.audit.touch user now } else a :=
  find?_map_keeping Account.key (by intro x; split <;> rfl) b.accounts k

end Reads

section Tables

@[simp] theorem tables_accounts : b.tables.accounts = b.account? := rfl
@[simp] theorem tables_entries : b.tables.entries = b.entry? := rfl
@[simp] theorem tables_entryIDs : b.tables.entryIDs = fun id => b.entryIDs.lookup id := rfl
@[simp] theorem tables_postOrder : b.tables.postOrder = fun key => b.postOrder.lookup key := rfl
@[simp] theorem tables_postSeq : b.tables.postSeq = b.postSeq := rfl

theorem putKey_lookup {α : Type} (m : List (String × α)) (k : String) (v : α) :
    putKey (fun j => m.lookup j) k v = fun j => (setKey m k v).lookup j := by
  funext j
  simp [putKey, lookup_setKey]

theorem eraseKey_lookup {α : Type} (m : List (String × α)) (k : String) :
    eraseKey (fun j => m.lookup j) k = fun j => (dropKey m k).lookup j := by
  funext j
  simp [eraseKey, lookup_dropKey]

theorem tables_notePosting (k : String) (status : EntryStatus) :
    (b.notePosting k status).tables = b.tables.recordPosting k status := by
  unfold notePosting Tables.recordPosting
  by_cases skip : (status == .draft || (b.postOrder.lookup k).isSome) = true
  · simp only [skip, ↓reduceIte, tables_postOrder]
  · simp only [skip, tables_postOrder, Bool.false_eq_true, ↓reduceIte]
    exact Tables.ext rfl rfl rfl (putKey_lookup _ _ _).symm rfl

-- A balance write of a stored account is the same on the books and on their maps.
theorem tables_putBalance {w : BalanceWrite} (stored : (b.account? (accountKey w.tenant w.code)).isSome) :
    (b.putBalance w).tables = b.tables.setBalance w := by
  obtain ⟨a, found⟩ := Option.isSome_iff_exists.mp stored
  have key : a.key = accountKey w.tenant w.code := (account?_some found).2
  refine Tables.ext ?_ rfl rfl rfl rfl
  funext k
  simp only [putBalance, tables_accounts, account?_setBalance, Tables.setBalance, putKey, found,
    Option.getD_some]
  split <;> rename_i same
  · subst same
    simp [found, key]
  · cases other : b.account? k with
    | none => rfl
    | some x => simp [(account?_some other).2, same]

theorem tables_addEntry (e : Entry) : (b.addEntry e).map tables = b.tables.insertEntry e := by
  unfold addEntry Tables.insertEntry
  cases free : b.entry? e.key with
  | some x => simp [free, Except.map]
  | none =>
    simp only [tables_entries, free, Option.isSome_none, Bool.false_eq_true, ↓reduceIte, Except.map,
      tables_notePosting, Except.ok.injEq]
    congr 1
    refine Tables.ext rfl ?_ ?_ rfl rfl
    · funext k
      exact entry?_append free k
    · exact (putKey_lookup _ _ _).symm

theorem tables_putEntry (e : Entry) : (b.putEntry e).tables = b.tables.replaceEntry e := by
  obtain ⟨entries, stored⟩ :
      ∃ entries, b.putEntry e = ({ b with entries } : Books).notePosting e.key e.status := by
    unfold putEntry replaceEntry
    split
    · exact ⟨_, rfl⟩
    · exact ⟨_, rfl⟩
  have written : Books.entry? ({ b with entries } : Books) = putKey b.entry? e.key e := by
    funext k
    have read := entry?_putEntry (b := b) e k
    rw [stored, entry?_notePosting] at read
    rw [read]
    rfl
  rw [stored, tables_notePosting, Tables.replaceEntry]
  congr 1
  exact Tables.ext rfl written rfl rfl rfl

theorem tables_removeEntry (key : String) : (b.removeEntry key).tables = b.tables.removeEntry key := by
  refine Tables.ext rfl ?_ ?_ ?_ rfl
  · funext k
    rw [tables_entries, entry?_removeEntry]
    rfl
  · simp only [tables_entryIDs, removeEntry, Tables.removeEntry, tables_entries]
    cases b.entry? key with
    | none => rfl
    | some old => exact (eraseKey_lookup _ _).symm
  · exact (eraseKey_lookup _ _).symm

theorem applyEntryWrites_tables : ∀ (ws : List EntryWrite) (b : Books),
    ((b.applyEntryWrites ws).1, (b.applyEntryWrites ws).2.tables) = b.tables.applyEntryWrites ws
  | [], _ => rfl
  | .insert e :: ws, b => by
    have inserted := tables_addEntry (b := b) e
    simp only [applyEntryWrites, Tables.applyEntryWrites]
    cases added : b.addEntry e with
    | error f =>
      rw [added] at inserted
      rw [← inserted]
      rfl
    | ok b' =>
      rw [added] at inserted
      rw [← inserted]
      exact applyEntryWrites_tables ws b'
  | .update e :: ws, b => by
    simp only [applyEntryWrites, Tables.applyEntryWrites, ← tables_putEntry]
    exact applyEntryWrites_tables ws _
  | .delete tenant number :: ws, b => by
    simp only [applyEntryWrites, Tables.applyEntryWrites, ← tables_removeEntry]
    exact applyEntryWrites_tables ws _

theorem account?_putBalance_isSome (w : BalanceWrite) (k : String) :
    ((b.putBalance w).account? k).isSome = (b.account? k).isSome := by
  simp [putBalance, account?_setBalance]

theorem foldl_putBalance_tables : ∀ (ws : List BalanceWrite) (b : Books),
    (∀ w ∈ ws, (b.account? (accountKey w.tenant w.code)).isSome) →
    (ws.foldl putBalance b).tables = ws.foldl Tables.setBalance b.tables
  | [], _, _ => rfl
  | w :: ws, b, stored => by
    simp only [List.foldl_cons]
    rw [← tables_putBalance (stored w (List.mem_cons_self ..))]
    exact foldl_putBalance_tables ws _ fun w' member => by
      rw [account?_putBalance_isSome]
      exact stored w' (List.mem_cons_of_mem _ member)

-- The books commit as their maps do when every staged balance is of a stored account.
theorem commit_tables {tx : Staged} (stored : ∀ w ∈ tx.balances, (b.account? (accountKey w.tenant w.code)).isSome) :
    ((b.commit tx).1, (b.commit tx).2.tables) = b.tables.commit tx := by
  unfold commit Tables.commit
  split
  · rfl
  · rw [applyEntryWrites_tables, foldl_putBalance_tables _ _ stored]

theorem withinTx_tables {α : Type} (body : TxBody α)
    (stored : ∀ w ∈ (body.run (Staged.answer b.tables) {}).2.2.balances,
      (b.account? (accountKey w.tenant w.code)).isSome) :
    ((b.withinTx body).1, (b.withinTx body).2.tables) =
      ((b.tables.withinTx body).2.1, (b.tables.withinTx body).2.2) := by
  unfold withinTx Tables.withinTx
  rcases ran : body.run (Staged.answer b.tables) {} with ⟨trace, r, tx⟩
  rw [ran] at stored
  cases r with
  | error e => rfl
  | ok a =>
    have same := commit_tables stored
    simp only
    rcases committed : b.commit tx with ⟨r', b'⟩
    rw [committed] at same
    rw [← same]
    cases r' <;> rfl

end Tables

end Books

section Staging

-- Each staged insert comes after a removal of its key or after no write of it, the writes
-- `done` coming before.
def insertsFresh (done : List EntryWrite) : List EntryWrite → Bool
  | [] => true
  | w :: rest =>
    (w.inserted.all fun e => (stagedEntry done e.key).isNone) && insertsFresh (done ++ [w]) rest

theorem insertsFresh_append (done ws more : List EntryWrite) :
    insertsFresh done (ws ++ more) = (insertsFresh done ws && insertsFresh (done ++ ws) more) := by
  induction ws generalizing done with
  | nil => simp [insertsFresh]
  | cons w ws ih => simp [insertsFresh, ih, Bool.and_assoc]

theorem stagedEntry_filter (writes : List EntryWrite) (k k' : String) :
    stagedEntry (writes.filter (·.key != k)) k' = if k' = k then none else stagedEntry writes k' := by
  unfold stagedEntry
  rw [← List.filter_reverse, List.find?_filter]
  by_cases same : k' = k
  · subst same
    rw [if_pos rfl, List.find?_eq_none.mpr (by simp)]
  · have test : (fun w : EntryWrite => decide ((w.key != k) = true ∧ (w.key == k') = true)) =
        (·.key == k') := by
      funext w
      by_cases here : w.key = k' <;> simp [here, same]
    rw [if_neg same, test]

theorem insertsFresh_filter (k : String) : ∀ (done ws : List EntryWrite), insertsFresh done ws = true →
    insertsFresh (done.filter (·.key != k)) (ws.filter (·.key != k)) = true
  | _, [], _ => rfl
  | done, w :: rest, fresh => by
    simp only [insertsFresh, Bool.and_eq_true] at fresh
    have later := insertsFresh_filter k (done ++ [w]) rest fresh.2
    rw [List.filter_append] at later
    by_cases same : w.key = k
    · rw [List.filter_cons_of_neg (by simp [same])]
      simpa [same] using later
    · rw [List.filter_cons_of_pos (by simp [same])]
      simp only [insertsFresh, Bool.and_eq_true]
      refine ⟨?_, by simpa [same] using later⟩
      cases w with
      | insert e =>
        have other : e.key ≠ k := same
        simpa [EntryWrite.inserted, stagedEntry_filter, other] using fresh.1
      | update e => rfl
      | delete tenant number => rfl

theorem Staged.answer_insertsFresh (s : Tables) (tx : Staged) (c : TxCall)
    (fresh : insertsFresh [] tx.entryWrites = true) :
    insertsFresh [] (Staged.answer s tx c).2.entryWrites = true := by
  cases c with
  | lockEntry tenant number =>
    simp only [Staged.answer]
    split
    · exact fresh
    · split
      · exact fresh
      · split
        · exact fresh
        · split <;> exact fresh
  | lockAccounts tenant codes =>
    simp only [Staged.answer]
    split <;> exact fresh
  | setBalance w =>
    simp only [Staged.answer]
    split <;> exact fresh
  | saveEntry e =>
    simp only [Staged.answer]
    split <;> rename_i staged
    · exact fresh
    · rw [insertsFresh_append]
      simp [fresh, insertsFresh, EntryWrite.inserted, Option.not_isSome_iff_eq_none.mp staged]
  | updateEntry e =>
    simp only [Staged.answer]
    split
    · -- a saved entry stays a single insert, staged last
      have kept := insertsFresh_filter e.key [] _ fresh
      rw [List.filter_nil] at kept
      rw [insertsFresh_append]
      simp [kept, insertsFresh, EntryWrite.inserted, stagedEntry_filter]
    · split
      · rw [insertsFresh_append]
        simp [fresh, insertsFresh, EntryWrite.inserted]
      · exact fresh
  | deleteEntry tenant number =>
    simp only [Staged.answer]
    split
    · rw [insertsFresh_append]
      simp [fresh, insertsFresh, EntryWrite.inserted]
    · exact fresh

theorem TxBody.run_insertsFresh {α : Type} (s : Tables) (body : TxBody α) :
    ∀ tx : Staged, insertsFresh [] tx.entryWrites = true →
      insertsFresh [] (body.run (Staged.answer s) tx).2.2.entryWrites = true := by
  induction body with
  | finish r => exact fun _ fresh => fresh
  | call c next ih => exact fun tx fresh => ih _ _ (Staged.answer_insertsFresh s tx c fresh)

end Staging

namespace Books

variable {b : Books}

-- Whether a key holds an entry once the writes `done` are replayed over the books `b`.
def readsAfter (b : Books) (done : List EntryWrite) (k : String) : Bool :=
  match done.reverse.find? (·.key == k) with
  | some w => w.staged.isSome
  | none => (b.entry? k).isSome

theorem readsAfter_snoc (done : List EntryWrite) (w : EntryWrite) (k : String) :
    b.readsAfter (done ++ [w]) k = if w.key = k then w.staged.isSome else b.readsAfter done k := by
  unfold readsAfter
  by_cases same : w.key = k <;> simp [same]

theorem clash_eq_none {ws : List EntryWrite} (clear : b.tables.clash ws = none) {e : Entry}
    (member : EntryWrite.insert e ∈ ws) : b.entry? e.key = none := by
  have unclashed := List.findSome?_eq_none_iff.mp clear _ member
  simp only [EntryWrite.inserted, Option.filter, tables_entries] at unclashed
  by_cases taken : (b.entry? e.key).isSome = true
  · simp [taken] at unclashed
  · exact Option.not_isSome_iff_eq_none.mp taken

-- Replaying staged writes whose inserts are fresh, no insert naming a key of the books `b`,
-- goes through from any books that read as `b` after the writes before.
theorem applyEntryWrites_ok (b : Books) : ∀ (ws done : List EntryWrite) (c : Books),
    insertsFresh done ws = true → (∀ e, EntryWrite.insert e ∈ ws → b.entry? e.key = none) →
    (∀ k, (c.entry? k).isSome = b.readsAfter done k) → (c.applyEntryWrites ws).1 = .ok ()
  | [], _, _, _, _, _ => rfl
  | .insert e :: ws, done, c, fresh, clear, reads => by
    simp only [insertsFresh, Bool.and_eq_true] at fresh
    -- the last write of the key before is a removal, or there is none and the books lack it
    have free : c.entry? e.key = none := by
      have unstaged : (stagedEntry done e.key).isNone = true := by
        simpa [EntryWrite.inserted] using fresh.1
      rw [← Option.not_isSome_iff_eq_none, reads, readsAfter]
      unfold stagedEntry at unstaged
      cases found : done.reverse.find? (·.key == e.key) with
      | none => simp [clear e (List.mem_cons_self ..)]
      | some w => rw [found] at unstaged; simpa using unstaged
    have added : c.addEntry e = .ok _ := addEntry_eq_ok.mpr ⟨free, rfl⟩
    simp only [applyEntryWrites, added]
    refine applyEntryWrites_ok b ws _ _ fresh.2 (fun e' member => clear e' (List.mem_cons_of_mem _ member))
      fun k => ?_
    rw [Books.entry?_addEntry added, readsAfter_snoc]
    by_cases same : k = e.key
    · simp [same, EntryWrite.key, EntryWrite.staged]
    · simp [same, Ne.symm same, EntryWrite.key, reads k]
  | .update e :: ws, done, c, fresh, clear, reads => by
    simp only [insertsFresh, Bool.and_eq_true] at fresh
    simp only [applyEntryWrites]
    refine applyEntryWrites_ok b ws _ _ fresh.2 (fun e' member => clear e' (List.mem_cons_of_mem _ member))
      fun k => ?_
    rw [Books.entry?_putEntry, readsAfter_snoc]
    by_cases same : k = e.key
    · simp [same, EntryWrite.key, EntryWrite.staged]
    · simp [same, Ne.symm same, EntryWrite.key, reads k]
  | .delete tenant number :: ws, done, c, fresh, clear, reads => by
    simp only [insertsFresh, Bool.and_eq_true] at fresh
    simp only [applyEntryWrites]
    refine applyEntryWrites_ok b ws _ _ fresh.2 (fun e' member => clear e' (List.mem_cons_of_mem _ member))
      fun k => ?_
    rw [Books.entry?_removeEntry, readsAfter_snoc]
    by_cases same : k = entryKey tenant number
    · simp [same, EntryWrite.key, EntryWrite.staged]
    · simp [same, Ne.symm same, EntryWrite.key, reads k]

theorem entry?_foldl_putBalance (ws : List BalanceWrite) : Books.entry? (ws.foldl putBalance b) = b.entry? := by
  induction ws generalizing b with
  | nil => rfl
  | cons w ws ih => exact ih

-- A commit of fresh inserts either fails at its check, changing nothing, or goes through.
theorem commit_keeps_on_error {tx : Staged} (fresh : insertsFresh [] tx.entryWrites = true) {f : Fault}
    (failed : (b.commit tx).1 = .error f) : (b.commit tx).2 = b := by
  unfold commit at failed ⊢
  split at failed <;> rename_i clear
  · rfl
  · have replayed := applyEntryWrites_ok b tx.entryWrites [] (tx.balances.foldl putBalance b) fresh
      (fun _ member => clash_eq_none clear member)
      (fun k => by rw [Books.entry?_foldl_putBalance]; rfl)
    rw [replayed] at failed
    cases failed

-- A ledger transaction that fails leaves the books as they were.
theorem withinTx_keeps_on_error {α : Type} (body : TxBody α) {f : Fault}
    (failed : (b.withinTx body).1 = .error f) : (b.withinTx body).2 = b := by
  have fresh := TxBody.run_insertsFresh b.tables body {} rfl
  unfold withinTx at failed ⊢
  rcases ran : body.run (Staged.answer b.tables) {} with ⟨trace, r, tx⟩
  rw [ran] at failed fresh
  cases r with
  | error e => rfl
  | ok a =>
    simp only at failed fresh ⊢
    rcases committed : b.commit tx with ⟨r', b'⟩
    rw [committed] at failed
    cases r' with
    | ok u => cases failed
    | error e =>
      have kept := commit_keeps_on_error fresh (f := e) (by rw [committed])
      rw [committed] at kept
      exact kept

theorem withinTxAfter_keeps_on_error {α β : Type} (first : TxBody β) (rest : β → TxBody α) {f : Fault}
    (failed : (b.withinTxAfter first rest).1 = .error f) : (b.withinTxAfter first rest).2.2 = b := by
  have fresh := TxBody.run_insertsFresh b.tables first {} rfl
  unfold withinTxAfter at failed ⊢
  rcases ran : first.run (Staged.answer b.tables) {} with ⟨trace, r, tx⟩
  rw [ran] at failed fresh
  cases r with
  | error e => rfl
  | ok x =>
    have fresh' := TxBody.run_insertsFresh b.tables (rest x) tx fresh
    simp only at failed fresh ⊢
    rcases ran' : (rest x).run (Staged.answer b.tables) tx with ⟨trace', r', tx'⟩
    rw [ran'] at failed fresh'
    cases r' with
    | error e => rfl
    | ok a =>
      simp only at failed fresh' ⊢
      rcases committed : b.commit tx' with ⟨r'', b'⟩
      rw [committed] at failed
      cases r'' with
      | ok u => cases failed
      | error e =>
        have kept := commit_keeps_on_error fresh' (f := e) (by rw [committed])
        rw [committed] at kept
        exact kept

end Books

end Ledger
