import Ledger.Proofs.Commits

-- The ledger as its commits replay it. A session commits an entry each time a posting or a
-- reversal succeeds, with the balances that posting wrote. The books stay the replay of that
-- log: the posting order lists the committed entries, each still stored as committed or
-- reversed since, and every account's balances are the running balances of its committed
-- lines from its opening balance, the last of them being its balance.

namespace Ledger

-- The lines of a session's commits on an account, each with its entry, in the order they were
-- committed and, within an entry, in the entry's line order.
def postedLines (log : List (Entry × Writes)) (a : Account) : List (Entry × Line) :=
  log.flatMap fun p => (p.1.linesOn a).map (p.1, ·)

-- Every balance a session's commits wrote under a key, in order.
def appliedUnder (log : List (Entry × Writes)) (k : String) : List Decimal :=
  writtenUnder (log.flatMap (·.2)) k

namespace Books

-- The books as the commits of a session leave them.
structure Replays (b : Books) (log : List (Entry × Writes)) : Prop where
  -- the posting order lists the committed entries, each once
  order : b.postings = log.map (·.1.key)
  distinct : b.postings.Nodup
  -- an entry is listed exactly when it is out of draft
  listed : ∀ e ∈ b.entries, e.status ≠ .draft ↔ e.key ∈ b.postings
  -- every committed entry is stored, as committed or reversed since
  stored : ∀ p ∈ log, ∃ e ∈ b.entries, e.Persists p.1
  -- each commit posted its entry, with its lines in line order and one write per line
  committed : ∀ p ∈ log, p.1.status = .posted ∧ p.1.postedAt.isSome ∧
    p.1.lines.Pairwise (fun l l' => l.number ≤ l'.number) ∧
    p.2.map Prod.fst = p.1.lines.map fun l => accountKey p.1.tenant l.code
  -- the balances written under an account's key are its running balances over its committed
  -- lines from its opening balance, and its balance is the last of them
  replayed : ∀ a ∈ b.accounts,
    appliedUnder log a.key = runningBalances a.side a.opening ((postedLines log a).map (·.2)) ∧
      a.balance = (appliedUnder log a.key).getLastD a.opening

end Books

section Lines

variable {log log' : List (Entry × Writes)} {a a' : Account}

@[simp] theorem postedLines_append :
    postedLines (log ++ log') a = postedLines log a ++ postedLines log' a := by
  simp [postedLines]

@[simp] theorem appliedUnder_append (k : String) :
    appliedUnder (log ++ log') k = appliedUnder log k ++ appliedUnder log' k := by
  simp [appliedUnder]

-- Only an account's tenant and code choose its lines.
theorem postedLines_congr (tenant : a'.tenant = a.tenant) (code : a'.code = a.code) :
    postedLines log a' = postedLines log a := by
  simp [postedLines, Entry.linesOn, tenant, code]

theorem postedLines_singleton (e : Entry) (writes : Writes) :
    (postedLines [(e, writes)] a).map (·.2) = e.linesOn a := by
  simp [postedLines, Function.comp_def]

theorem appliedUnder_singleton (e : Entry) (writes : Writes) (k : String) :
    appliedUnder [(e, writes)] k = writtenUnder writes k := by
  simp [appliedUnder]

end Lines

namespace Books

variable {b : Books}

theorem replaceEntry_postings (e : Entry) :
    (b.replaceEntry e).postings =
      if e.status = .draft ∨ e.key ∈ b.postings then b.postings else b.postings ++ [e.key] := by
  rw [Books.replaceEntry, notePosting_postings]
  rfl

theorem addEntry_postings {e : Entry} {b' : Books} (added : b.addEntry e = .ok b') :
    b'.postings =
      if e.status = .draft ∨ e.key ∈ b.postings then b.postings else b.postings ++ [e.key] := by
  rw [(addEntry_eq_ok.mp added).2, notePosting_postings]
  rfl

end Books

namespace Books.Replays

variable {b b' : Books} {log : List (Entry × Writes)} {c : Ctx}

-- Every key in the posting order is the key of a stored entry.
theorem keyed (holds : b.Replays log) {k : String} (listed : k ∈ b.postings) :
    ∃ e ∈ b.entries, e.key = k := by
  rw [holds.order] at listed
  obtain ⟨p, pMember, rfl⟩ := List.mem_map.mp listed
  obtain ⟨e, eMember, persists⟩ := holds.stored p pMember
  exact ⟨e, eMember, persists.key⟩

-- What a committed entry became is out of draft.
theorem live_of_stored (holds : b.Replays log) {p : Entry × Writes} (member : p ∈ log)
    {e : Entry} (persists : e.Persists p.1) : e.status ≠ .draft :=
  persists.live (by rw [(holds.committed p member).1]; decide)

-- Every line of a commit names an account of the books, of the commit's tenant.
theorem resolves (sound : b.Wellformed) (holds : b.Replays log) {p : Entry × Writes}
    (member : p ∈ log) {l : Line} (named : l ∈ p.1.lines) :
    ∃ x ∈ b.accounts, x.key = accountKey p.1.tenant l.code := by
  obtain ⟨e, eMember, persists⟩ := holds.stored p member
  have live := holds.live_of_stored member persists
  have lines : e.lines = p.1.lines := persists.field Entry.lines fun _ _ _ => rfl
  have tenant : e.tenant = p.1.tenant := persists.field Entry.tenant fun _ _ _ => rfl
  obtain ⟨x, xMember, xTenant, xCode⟩ := sound.resolved e eMember live l (lines ▸ named)
  exact ⟨x, xMember, by rw [Account.key, xTenant, xCode, tenant]⟩

-- An account under a key no account had has no committed lines and nothing written.
theorem unposted (sound : b.Wellformed) (holds : b.Replays log) {a : Account}
    (free : b.account? a.key = none) :
    appliedUnder log a.key = [] ∧ postedLines log a = [] := by
  have absent := Books.account?_eq_none.mp free
  constructor
  · rw [appliedUnder, writtenUnder_eq_nil]
    intro w wMember same
    obtain ⟨p, pMember, written⟩ := List.mem_flatMap.mp wMember
    have keyed : w.1 ∈ p.1.lines.map fun l => accountKey p.1.tenant l.code := by
      rw [← (holds.committed p pMember).2.2.2]
      exact List.mem_map_of_mem written
    obtain ⟨l, lMember, lKey⟩ := List.mem_map.mp keyed
    obtain ⟨x, xMember, xKey⟩ := holds.resolves sound pMember lMember
    exact absent x xMember (xKey.trans (lKey.trans same))
  · rw [postedLines, List.flatMap_eq_nil_iff]
    intro p pMember
    rw [List.map_eq_nil_iff, Entry.linesOn]
    split
    · rename_i tenant
      refine List.filter_eq_nil_iff.mpr fun l lMember code => ?_
      obtain ⟨x, xMember, xKey⟩ := holds.resolves sound pMember lMember
      exact absent x xMember (by rw [xKey, Account.key, tenant, eq_of_beq code])
    · rfl

-- A change that keeps the accounts and the posting order, keeps every entry out of draft, and
-- adds or rewrites only drafts that the posting order does not list.
theorem quiet (holds : b.Replays log) (accounts : b'.accounts = b.accounts)
    (postings : b'.postings = b.postings)
    (kept : ∀ e ∈ b.entries, e.status ≠ .draft → e ∈ b'.entries)
    (came : ∀ e ∈ b'.entries, e ∈ b.entries ∨ (e.status = .draft ∧ e.key ∉ b.postings)) :
    b'.Replays log where
  order := postings ▸ holds.order
  distinct := postings ▸ holds.distinct
  listed e member := by
    rw [postings]
    rcases came e member with old | ⟨draft, unlisted⟩
    · exact holds.listed e old
    · simp [draft, unlisted]
  stored p member := by
    obtain ⟨e, eMember, persists⟩ := holds.stored p member
    exact ⟨e, kept e eMember (holds.live_of_stored member persists), persists⟩
  committed := holds.committed
  replayed := accounts ▸ holds.replayed

theorem opened (sound : b.Wellformed) (holds : b.Replays log) {a : Account}
    (free : b.account? a.key = none) (opening : a.balance = a.opening) :
    ({ b with accounts := b.accounts ++ [a], accountIDs := setKey b.accountIDs a.id a.key } : Books).Replays log where
  order := holds.order
  distinct := holds.distinct
  listed := holds.listed
  stored := holds.stored
  committed := holds.committed
  replayed x member := by
    rcases List.mem_append.mp member with old | new
    · exact holds.replayed x old
    · rw [List.mem_singleton.mp new]
      obtain ⟨unwritten, unposted⟩ := holds.unposted sound free
      rw [unwritten, unposted, opening]
      exact ⟨rfl, rfl⟩

theorem redescribed (holds : b.Replays log) (kept : b'.Redescribed b) : b'.Replays log := by
  obtain ⟨g, keeps, rfl⟩ := kept
  refine ⟨holds.order, holds.distinct, holds.listed, holds.stored, holds.committed, fun x member => ?_⟩
  obtain ⟨a, aMember, rfl⟩ := List.mem_map.mp member
  have same := keeps a
  rw [same.key, same.side, same.opening, same.balance, postedLines_congr same.tenant same.code]
  exact holds.replayed a aMember

theorem postings_of_draft {e : Entry} (draft : e.status = .draft) :
    (b.replaceEntry e).postings = b.postings := by
  simp [Books.replaceEntry_postings, draft]

-- Storing a draft under a key no entry had.
theorem drafted (holds : b.Replays log) {e : Entry} (draft : e.status = .draft)
    (free : b.entry? e.key = none) (tenant pfx : String) :
    ({ (b.nextNumber tenant pfx).2 with entries := b.entries ++ [e], entryIDs := setKey b.entryIDs e.id e.key } :
      Books).Replays log := by
  refine holds.quiet rfl rfl (fun x member _ => List.mem_append_left _ member) fun x member => ?_
  rcases List.mem_append.mp member with old | new
  · exact .inl old
  · rw [List.mem_singleton.mp new]
    refine .inr ⟨draft, fun listed => ?_⟩
    obtain ⟨y, yMember, yKey⟩ := holds.keyed listed
    exact Books.entry?_eq_none.mp free y yMember yKey

theorem numbered (holds : b.Replays log) (tenant pfx : String) :
    (b.nextNumber tenant pfx).2.Replays log :=
  holds.quiet rfl rfl (fun _ member _ => member) fun _ member => .inl member

theorem redrafted (sound : b.Wellformed) (holds : b.Replays log) {e0 e : Entry}
    (member : e0 ∈ b.entries) (draft : e0.status = .draft) (same : e.Rewrites e0) :
    (b.replaceEntry e).Replays log := by
  have stillDraft : e.status = .draft := same.status.trans draft
  refine holds.quiet (Books.replaceEntry_accounts e) (postings_of_draft stillDraft)
    (fun x xMember live => persists_replaced sound member draft same.key xMember live rfl)
    fun x xMember => ?_
  rcases Books.mem_replaceEntry xMember with rfl | ⟨old, _⟩
  · refine .inr ⟨stillDraft, fun listed => ?_⟩
    rw [same.key] at listed
    exact ((holds.listed e0 member).mpr listed) draft
  · exact .inl old

theorem discarded (sound : b.Wellformed) (holds : b.Replays log) {e0 : Entry}
    (member : e0 ∈ b.entries) (draft : e0.status = .draft) :
    (b.removeEntry e0.key).Replays log := by
  have unlisted : e0.key ∉ b.postings := fun listed => (holds.listed e0 member).mpr listed draft
  refine holds.quiet rfl ?_ (fun x xMember live => ?_) fun x xMember => .inl (List.mem_of_mem_filter xMember)
  · rw [Books.removeEntry_postings]
    exact List.filter_eq_self.mpr fun k listed => bne_iff_ne.mpr fun same => unlisted (same ▸ listed)
  · refine List.mem_filter.mpr ⟨xMember, bne_iff_ne.mpr fun same => live ?_⟩
    rw [sound.eq_of_key xMember member same, draft]

-- A posting's writes extend every account's written balances by the running balances of the
-- entry's lines on it, from the balance it had, which was the last of them.
theorem replayed_after (sound : b.Wellformed) (holds : b.Replays log) {b₁ : Books}
    (accounts : b₁.accounts = b.accounts) {e0 e : Entry} {writes : Writes}
    (posting : postLines b₁ c e0 = .ok (e, writes)) :
    ∀ x ∈ b.accounts.map (writeBalance writes c.user c.now),
      appliedUnder (log ++ [(e, writes)]) x.key =
          runningBalances x.side x.opening ((postedLines (log ++ [(e, writes)]) x).map (·.2)) ∧
        x.balance = (appliedUnder (log ++ [(e, writes)]) x.key).getLastD x.opening := by
  intro x' member
  obtain ⟨x, xMember, rfl⟩ := List.mem_map.mp member
  obtain ⟨before, balance⟩ := holds.replayed x xMember
  have written := postLines_written (accounts ▸ sound.accountKeys) posting (accounts ▸ xMember)
  rw [postedLines_congr (writeBalance_tenant ..) (writeBalance_code ..), writeBalance_key,
    writeBalance_side, writeBalance_opening, writeBalance_balance, appliedUnder_append,
    postedLines_append, List.map_append, postedLines_singleton, appliedUnder_singleton, written,
    getLastD_append, ← balance, before, runningBalances_append, ← before, ← balance]
  exact ⟨rfl, rfl⟩

-- A commit: one call changes the books, the posting order gains the key of the entry it
-- posted, which it did not list, that entry is stored, and the accounts take its writes.
theorem commit (sound : b.Wellformed) (holds : b.Replays log) (change : b.Change c b')
    {b₁ : Books} {e0 e : Entry} {writes : Writes} (accounts₁ : b₁.accounts = b.accounts)
    (posting : postLines b₁ c e0 = .ok (e, writes)) (unlisted : e.key ∉ b.postings)
    (postings : b'.postings = b.postings ++ [e.key])
    (listed : ∀ x ∈ b'.entries, x.status ≠ .draft ↔ x.key ∈ b'.postings)
    (stored : ∃ x ∈ b'.entries, x.Persists e)
    (accounts : b'.accounts = b.accounts.map (writeBalance writes c.user c.now)) :
    b'.Replays (log ++ [(e, writes)]) where
  order := by rw [postings, holds.order]; simp
  distinct := by
    rw [postings]
    exact List.nodup_append.mpr ⟨holds.distinct, List.nodup_singleton _,
      fun k listed k' named same => unlisted (by rw [List.mem_singleton.mp named] at same; exact same ▸ listed)⟩
  listed := listed
  stored p member := by
    rcases List.mem_append.mp member with old | new
    · -- an earlier commit persists through the change
      obtain ⟨x, xMember, persists⟩ := holds.stored p old
      obtain ⟨x', x'Member, persists'⟩ := change.persists sound xMember (holds.live_of_stored old persists)
      exact ⟨x', x'Member, persists'.trans persists⟩
    · rw [List.mem_singleton.mp new]
      exact stored
  committed p member := by
    rcases List.mem_append.mp member with old | new
    · exact holds.committed p old
    · rw [List.mem_singleton.mp new]
      obtain ⟨status, postedAt, sorted, keys⟩ := postLines_committed posting
      exact ⟨status, by simp [postedAt], sorted, keys⟩
  replayed x member := by
    rw [accounts] at member
    exact holds.replayed_after sound accounts₁ posting x member

-- Posting a draft commits it: the posting order gains its key, and the accounts its writes.
theorem posted (sound : b.Wellformed) (holds : b.Replays log) {e0 e : Entry} {writes : Writes}
    (member : e0 ∈ b.entries) (draft : e0.status = .draft)
    (posting : postLines b c e0 = .ok (e, writes)) :
    ((b.applyWrites writes c.user c.now).replaceEntry e).Replays (log ++ [(e, writes)]) := by
  obtain ⟨_, _, key, status, _⟩ := postLines_fields posting
  have unlisted : e.key ∉ b.postings := fun listed => (holds.listed e0 member).mpr (key ▸ listed) draft
  have postings : ((b.applyWrites writes c.user c.now).replaceEntry e).postings = b.postings ++ [e.key] := by
    simp [Books.replaceEntry_postings, status, unlisted]
  refine holds.commit sound (.posted e0 e writes member draft posting) rfl posting unlisted postings
    (fun x xMember => ?_) ⟨e, Books.mem_replaceEntry_self (by simpa using member) key.symm, .refl e⟩
    (by rw [Books.replaceEntry_accounts, Books.applyWrites_accounts])
  rw [postings, List.mem_append, List.mem_singleton]
  rcases Books.mem_replaceEntry xMember with rfl | ⟨old, other⟩
  · simp [status]
  · rw [← holds.listed x (by simpa using old)]
    simp [other]

-- Reversing commits the compensating entry: the posting order gains its key, the source stays
-- listed as it was, and the accounts take the compensation's writes.
theorem reversed (sound : b.Wellformed) (holds : b.Replays log) {src comp : Entry} {id : String}
    {writes : Writes} {b₂ : Books} (member : src ∈ b.entries) (live : src.status = .posted)
    (tenant : src.tenant = c.tenant) (unreversed : src.reversedBy = "")
    (posting : postLines (b.nextNumber c.tenant "RV").2 c
      (Office.compensation c id (Office.entryNumber "RV" (b.lastNumber c.tenant "RV" + 1)) src) =
        .ok (comp, writes))
    (stored : ((b.nextNumber c.tenant "RV").2.applyWrites writes c.user c.now).addEntry comp =
      .ok b₂) :
    (b₂.replaceEntry { src with
      status := .reversed, reversedBy := comp.number, audit := src.audit.touch c.user c.now }).Replays
      (log ++ [(comp, writes)]) := by
  set src' : Entry := { src with
    status := .reversed, reversedBy := comp.number, audit := src.audit.touch c.user c.now }
  obtain ⟨entries, fresh⟩ := Books.addEntry_after_writes stored
  obtain ⟨_, _, _, status, _⟩ := postLines_fields posting
  have srcListed : src.key ∈ b.postings := (holds.listed src member).mp (by rw [live]; decide)
  have unlisted : comp.key ∉ b.postings := fun listed => by
    obtain ⟨y, yMember, yKey⟩ := holds.keyed listed
    exact fresh y yMember yKey
  have postings₂ : b₂.postings = b.postings ++ [comp.key] := by
    simp [Books.addEntry_postings stored, status, unlisted]
  have sourceKey : src'.key = src.key := rfl
  have postings : (b₂.replaceEntry src').postings = b.postings ++ [comp.key] := by
    rw [Books.replaceEntry_postings, if_pos (.inr (sourceKey ▸ postings₂ ▸ List.mem_append_left _ srcListed)),
      postings₂]
  have compKey : comp.key ≠ src.key := fun same => fresh src member same.symm
  refine holds.commit sound (.reversed src comp id writes b₂ member tenant live unreversed posting stored)
    rfl posting unlisted postings (fun x xMember => ?_)
    ⟨comp, Books.mem_replaceEntry_of_ne (entries ▸ List.mem_append_right _ List.mem_cons_self) compKey,
      .refl comp⟩
    (Books.accounts_after_writes stored _)
  rw [postings, List.mem_append, List.mem_singleton]
  rcases Books.mem_replaceEntry_after_writes stored xMember with rfl | rfl | ⟨old, _⟩
  · rw [sourceKey]
    exact ⟨fun _ => .inl srcListed, fun _ => nofun⟩
  · simp [status]
  · rw [← holds.listed x old]
    have : x.key ≠ comp.key := fun same => fresh x old same
    simp [this]

end Books.Replays

-- Each call keeps the replay, with the posting it commits, if any, added to the log.
theorem Call.perform_replays (call : Call) {o : Office} {log : List (Entry × Writes)}
    (sound : o.books.Wellformed) (holds : o.books.Replays log) :
    (call.perform o).2.books.Replays (log ++ (call.commit o).toList) := by
  cases call with
  | registerAccount c req =>
    simp only [Call.perform, Call.settle_snd, Call.commit, Option.toList, List.append_nil]
    cases opened : (o.registerAccount c req).1 with
    | error f => rw [(Office.registerAccount_error opened).1]; exact holds
    | ok a =>
      obtain ⟨free, _, _, _, fresh, _, books, _⟩ := Office.registerAccount_ok opened
      rw [books]
      exact holds.opened sound free fresh
  | updateAccount c code patch =>
    simp only [Call.perform, Call.settle_snd, Call.commit, Option.toList, List.append_nil]
    cases changed : (o.updateAccount c code patch).1 with
    | error f => rw [Office.updateAccount_error changed]; exact holds
    | ok a =>
      obtain ⟨books, kept, same⟩ := Office.updateAccount_ok changed
      rw [same]
      exact holds.redescribed kept
  | deactivateAccount c code =>
    simp only [Call.perform, Call.commit, Option.toList, List.append_nil]
    cases done : (o.deactivateAccount c code).1 with
    | error f => rw [Office.deactivateAccount_error done]; exact holds
    | ok u =>
      obtain ⟨books, kept, same⟩ := Office.deactivateAccount_ok done
      rw [same]
      exact holds.redescribed kept
  | createDraft c req =>
    simp only [Call.perform, Call.settle_snd, Call.commit, Option.toList, List.append_nil]
    cases drafted : (o.createDraft c req).1 with
    | error f =>
      rcases Office.createDraft_error drafted with same | ⟨_, _, same⟩
      · rw [same]; exact holds
      · rw [same]; exact holds.numbered _ _
    | ok e =>
      obtain ⟨_, _, draft, _, _, _, free, books, _⟩ := Office.createDraft_ok drafted
      rw [books]
      exact holds.drafted draft free c.tenant _
  | updateDraft c number req =>
    simp only [Call.perform, Call.settle_snd, Call.commit, Option.toList, List.append_nil]
    cases updated : (o.updateDraft c number req).1 with
    | error f => rw [Office.updateDraft_error updated]; exact holds
    | ok e =>
      obtain ⟨e0, member, _, draft, _, _, _, rfl, same⟩ := Office.updateDraft_ok updated
      rw [same]
      exact holds.redrafted sound member draft ⟨rfl, rfl, rfl, rfl, rfl, rfl⟩
  | discardDraft c number =>
    simp only [Call.perform, Call.commit, Option.toList, List.append_nil]
    cases done : (o.discardDraft c number).1 with
    | error f => rw [Office.discardDraft_error done]; exact holds
    | ok u =>
      obtain ⟨e0, member, _, draft, same⟩ := Office.discardDraft_ok done
      rw [same]
      exact holds.discarded sound member draft
  | postEntry c number =>
    simp only [Call.perform, Call.settle_snd]
    cases posted : (o.postEntry c number).1 with
    | error f =>
      have uncommitted : (Call.postEntry c number).commit o = none := by simp [Call.commit, posted]
      rw [uncommitted, Office.postEntry_error posted, Option.toList, List.append_nil]
      exact holds
    | ok e =>
      obtain ⟨e0, writes, found, draft, posting, committed, books⟩ := Office.postEntry_committed posted
      rw [committed, books, Option.toList]
      exact holds.posted sound (Office.entryByNumber_eq_ok found).1 draft posting
  | reverseEntry c number =>
    simp only [Call.perform, Call.settle_snd]
    cases reversed : (o.reverseEntry c number).1 with
    | error f =>
      have uncommitted : (Call.reverseEntry c number).commit o = none := by simp [Call.commit, reversed]
      rw [uncommitted, (Office.reverseEntry_error reversed).1, Option.toList, List.append_nil]
      exact holds.numbered _ _
    | ok pair =>
      obtain ⟨src', comp⟩ := pair
      obtain ⟨src, writes, b₂, found, live, unreversed, posting, stored, committed, books⟩ :=
        Office.reverseEntry_committed reversed
      obtain ⟨member, tenant, _⟩ := Office.entryByNumber_eq_ok found
      rw [committed, books, Option.toList]
      exact holds.reversed sound (by simpa using member) live tenant unreversed posting stored

theorem Office.start_replays (pageSize : Nat) : (Office.start pageSize).books.Replays [] :=
  ⟨rfl, List.nodup_nil, by simp, by simp, by simp, by simp⟩

-- Along any stretch of a session, the replay carries the commits of its calls.
theorem Office.run_replays {o : Office} (sound : o.books.Wellformed) {log : List (Entry × Writes)}
    (holds : o.books.Replays log) (calls : List Call) :
    (o.run calls).books.Replays (log ++ o.commits calls) := by
  induction calls generalizing o log with
  | nil => simpa using holds
  | cons call rest ih =>
    rw [Office.run_cons, Office.commits_cons, ← List.append_assoc]
    exact ih (sound.change (Call.perform_change call o)) (call.perform_replays sound holds)

end Ledger
