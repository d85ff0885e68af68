import Ledger.Proofs.TenantJournals

-- Every call writes under its own tenant's keys only. A tenant apart from the caller finds its
-- part of the books as it was, and books that hold a tenant apart still hold it apart when the
-- caller is that tenant or apart from it. No call changes the office's page size.

namespace Ledger

-- The books `b'` differ from `b` only under the keys of tenant `u`.
structure Books.WrittenBy (u : String) (b b' : Books) : Prop where
  unseen : ∀ t, Apart t u → b'.part t = b.part t
  isolates : ∀ t, t = u ∨ Apart t u → b.Isolates t → b'.Isolates t

namespace Books.WrittenBy

variable {u : String} {b b' b'' : Books}

theorem refl (b : Books) : b.WrittenBy u b := ⟨fun _ _ => rfl, fun _ _ iso => iso⟩

theorem trans (first : b.WrittenBy u b') (second : b'.WrittenBy u b'') : b.WrittenBy u b'' :=
  ⟨fun t apart => (second.unseen t apart).trans (first.unseen t apart),
    fun t fits iso => second.isolates t fits (first.isolates t fits iso)⟩

theorem of_eq (same : b' = b) : b.WrittenBy u b' := by
  subst same
  exact refl _

-- A tenant that is `u` or apart from it fits beside `u`'s new accounts and entries.
theorem fits_of {t x : String} (own : x = u) (fits : t = u ∨ Apart t u) : x = t ∨ Apart t x := by
  rw [own]
  exact fits.imp_left Eq.symm

theorem modifyAccount (x : String) {f : Account → Account} (keeps : ∀ a, (f a).tenant = a.tenant) :
    b.WrittenBy u (b.modifyAccount (accountKey u x) f) :=
  ⟨fun _ apart => part_modifyAccount_other b apart x keeps, fun _ _ iso => iso.modifyAccount _ keeps⟩

theorem foldl {α : Type} (F : Books → α → Books) (each : ∀ (b : Books) x, b.WrittenBy u (F b x))
    (xs : List α) (b : Books) : b.WrittenBy u (xs.foldl F b) := by
  induction xs generalizing b with
  | nil => exact refl b
  | cons x rest ih => exact (each b x).trans (ih (F b x))

theorem applyWrites {ws : List (String × Decimal)} (keyed : ∀ w ∈ ws, ∃ x, w.1 = accountKey u x)
    (user : String) (now : Timestamp) : b.WrittenBy u (b.applyWrites ws user now) :=
  ⟨fun _ apart => part_applyWrites_other b apart keyed user now,
    fun _ _ iso => iso.applyWrites ws user now⟩

theorem addAccount {a : Account} (own : a.tenant = u) (ids : List (String × String)) :
    b.WrittenBy u { b with accounts := b.accounts ++ [a], accountIDs := ids } :=
  ⟨fun t apart => part_addAccount_other b t (own ▸ apart.ne.symm) ids,
    fun _ fits iso => iso.addAccount (fits_of own fits) ids⟩

theorem appendEntry {e : Entry} (own : e.tenant = u) (ids : List (String × String)) :
    b.WrittenBy u { b with entries := b.entries ++ [e], entryIDs := ids } :=
  ⟨fun t apart => part_appendEntry_other b t (own ▸ apart.ne.symm) ids,
    fun _ fits iso => iso.appendEntry (fits_of own fits) ids⟩

theorem notePosting (n : String) (status : EntryStatus) :
    b.WrittenBy u (b.notePosting (entryKey u n) status) :=
  ⟨fun t apart => part_notePosting_other b t (ownsKey_entryKey_apart apart n) status,
    fun _ _ iso => iso.notePosting _ _⟩

theorem addEntry {e : Entry} (own : e.tenant = u) (added : b.addEntry e = .ok b') :
    b.WrittenBy u b' := by
  obtain ⟨_, rfl⟩ := Books.addEntry_eq_ok.mp added
  rw [Entry.key, own]
  exact (appendEntry own _).trans (notePosting _ _)

theorem replaceEntry {e : Entry} (own : e.tenant = u) : b.WrittenBy u (b.replaceEntry e) :=
  ⟨fun _ apart => part_replaceEntry_other b apart own,
    fun _ fits iso => iso.replaceEntry (fits_of own fits)⟩

theorem removeEntry (n : String) : b.WrittenBy u (b.removeEntry (entryKey u n)) :=
  ⟨fun _ apart => part_removeEntry_other b apart n, fun _ _ iso => iso.removeEntry _⟩

theorem nextNumber (pfx : String) : b.WrittenBy u (b.nextNumber u pfx).2 :=
  ⟨fun t apart => part_nextNumber_other b t apart pfx, fun _ _ iso => iso.nextNumber u pfx⟩

end Books.WrittenBy

namespace Office

variable {b b' : Books} {o : Office} {c : Ctx}

open Books.WrittenBy

theorem storeChanges_writtenBy {a : Account} (stored : storeChanges b a = .ok b') :
    b.WrittenBy a.tenant b' := by
  unfold storeChanges at stored
  split at stored
  · cases stored
  · cases stored
    exact modifyAccount a.code fun _ => rfl

theorem storeMove_writtenBy {a : Account} {levels : List (String × Nat)}
    (stored : storeMove b a levels = .ok b') : b.WrittenBy a.tenant b' := by
  unfold storeMove at stored
  obtain ⟨_, _, stored⟩ := Except.bind_eq_ok.mp stored
  obtain ⟨_, _, stored⟩ := Except.bind_eq_ok.mp stored
  cases stored
  have moved : b.WrittenBy a.tenant (b.modifyAccount a.key (withChanges · a)) :=
    modifyAccount a.code fun _ => rfl
  refine moved.trans (foldl _ (fun b w => ?_) levels _)
  obtain ⟨code, lvl⟩ := w
  exact modifyAccount code fun _ => rfl

-- Posting writes the balances of the entry's own tenant's accounts.
theorem postLines_keys {e e' : Entry} {ws : List (String × Decimal)}
    (posted : postLines b c e = .ok (e', ws)) : ∀ w ∈ ws, ∃ x, w.1 = accountKey e.tenant x := by
  obtain ⟨_, _, _, _, _, _, _, applied, _⟩ := postLines_eq_ok posted
  intro w written
  have listed : w.1 ∈ ws.map Prod.fst := List.mem_map_of_mem written
  rw [applyLines_keys applied] at listed
  obtain ⟨l, _, named⟩ := List.mem_map.mp listed
  exact ⟨l.code, named.symm⟩

end Office

-- Every call, failing or not, writes only under the keys of its caller's tenant.
theorem Call.perform_writtenBy (call : Call) (o : Office) :
    o.books.WrittenBy call.ctx.tenant (call.perform o).2.books := by
  open Books.WrittenBy Office in
  cases call with
  | registerAccount c req =>
    simp only [Call.perform, Call.settle_snd, Call.ctx]
    cases opened : (o.registerAccount c req).1 with
    | error f => exact of_eq (registerAccount_error opened).1
    | ok a =>
      obtain ⟨_, _, tenant, _, _, _, books, _⟩ := registerAccount_ok opened
      rw [books]
      exact addAccount tenant _
  | updateAccount c code patch =>
    simp only [Call.perform, Call.settle_snd, Call.ctx]
    cases changed : (o.updateAccount c code patch).1 with
    | error f => exact of_eq (by rw [updateAccount_error changed])
    | ok a =>
      obtain ⟨books, a0, office, found, tenant, _, change⟩ := updateAccount_stored changed
      have owner : a.tenant = c.tenant := tenant.trans (accountByCode_eq_ok found).2.1
      rw [office, ← owner]
      rcases change with ⟨_, _, stored⟩ | ⟨_, stored⟩
      · exact storeChanges_writtenBy stored
      · exact storeMove_writtenBy stored
  | deactivateAccount c code =>
    simp only [Call.perform, Call.ctx]
    unfold Office.deactivateAccount
    cases found : accountByCode o.books c.tenant code with
    | error f => exact refl _
    | ok a =>
      have tenant := (accountByCode_eq_ok found).2.1
      dsimp only
      split
      · exact refl _
      · cases stored : storeChanges o.books { a with active := false, audit := a.audit.touch c.user c.now } with
        | error f => exact refl _
        | ok books =>
          have written := storeChanges_writtenBy stored
          dsimp only
          rw [← tenant]
          exact written
  | createDraft c req =>
    simp only [Call.perform, Call.settle_snd, Call.ctx]
    cases drafted : (o.createDraft c req).1 with
    | error f =>
      rcases createDraft_error drafted with same | ⟨_, _, same⟩
      · exact of_eq (by rw [same])
      · rw [same]
        exact nextNumber _
    | ok e =>
      obtain ⟨_, tenant, _, _, _, _, _, books, _⟩ := createDraft_ok drafted
      rw [books]
      exact (nextNumber _).trans (appendEntry tenant _)
  | updateDraft c number req =>
    simp only [Call.perform, Call.settle_snd, Call.ctx]
    cases updated : (o.updateDraft c number req).1 with
    | error f => exact of_eq (by rw [updateDraft_error updated])
    | ok e =>
      obtain ⟨e0, _, tenant, _, _, _, _, rfl, same⟩ := updateDraft_ok updated
      rw [same]
      exact replaceEntry tenant
  | discardDraft c number =>
    simp only [Call.perform, Call.ctx]
    cases done : (o.discardDraft c number).1 with
    | error f => exact of_eq (by rw [discardDraft_error done])
    | ok u =>
      obtain ⟨e0, _, tenant, _, same⟩ := discardDraft_ok done
      rw [same]
      dsimp only
      rw [Entry.key, tenant]
      exact removeEntry _
  | postEntry c number =>
    simp only [Call.perform, Call.settle_snd, Call.ctx]
    cases posted : (o.postEntry c number).1 with
    | error f => exact of_eq (by rw [postEntry_error posted])
    | ok e =>
      obtain ⟨e0, _, tenant, _, writes, posting, books⟩ := postEntry_ok posted
      rw [books]
      have keyed := postLines_keys posting
      rw [tenant] at keyed
      exact (applyWrites keyed _ _).trans (replaceEntry ((postLines_fields posting).1.trans tenant))
  | reverseEntry c number =>
    simp only [Call.perform, Call.settle_snd, Call.ctx]
    cases reversed : (o.reverseEntry c number).1 with
    | error f =>
      rw [(reverseEntry_error reversed).1]
      exact nextNumber _
    | ok pair =>
      obtain ⟨src', comp⟩ := pair
      obtain ⟨src, _, tenant, _, _, _, writes, books, posting, stored, rfl, same⟩ :=
        reverseEntry_ok reversed
      rw [same]
      have keyed := postLines_keys posting
      exact (nextNumber _).trans ((applyWrites keyed _ _).trans
        ((addEntry (postLines_fields posting).1 stored).trans (replaceEntry tenant)))

-- No call changes the office's page size: every call rebuilds the office from the one it was
-- given, changing its books, counter and events only.
theorem Call.perform_pageSize (call : Call) (o : Office) : (call.perform o).2.pageSize = o.pageSize := by
  cases call <;> simp only [Call.perform, Call.settle_snd, Office.registerAccount,
    Office.updateAccount, Office.deactivateAccount, Office.createDraft, Office.updateDraft,
    Office.discardDraft, Office.postEntry, Office.reverseEntry, Office.freshId, Office.announce]
  all_goals repeat' split
  all_goals rfl

end Ledger
